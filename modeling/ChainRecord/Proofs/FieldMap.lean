import ChainRecord.Proofs.Base64
import ChainRecord.Wire.FieldMap
import Mathlib.Data.List.Forall2
import Mathlib.Data.Option.Basic

/-!
# Field maps are lossless

JSON values are compared by what they say: objects are the same if they bind the same keys to the
same values, in whatever order (`Json.Same`). A message is determined by its field map even up to
this, for every shape in which the names of the fields of one message differ from each other
(`Shape.eq_of_same`).

The proof follows the shape. Numbers keep their kind and all of their bits, byte strings are read
back from base 64, and a message that is absent is null, which no field map is. Rows are compared
name by name: a name that the later fields do not have is bound to the first one.
-/

namespace ChainRecord

namespace Json

/-- Two JSON values say the same. -/
inductive Same : Json → Json → Prop
  /-- Null. -/
  | null : Same .null .null
  /-- Equal truth values. -/
  | bool (b : Bool) : Same (.bool b) (.bool b)
  /-- Equal numbers. -/
  | number (n : Number) : Same (.number n) (.number n)
  /-- Equal strings. -/
  | string (s : String) : Same (.string s) (.string s)
  /-- Arrays with the same items in the same places. -/
  | array {items items' : List Json} : List.Forall₂ Same items items' →
      Same (.array items) (.array items')
  /-- Objects that bind the same keys to the same values. -/
  | object {members members' : Members} :
      (∀ key, Option.Rel Same (lookup? members key) (lookup? members' key)) →
      Same (.object members) (.object members')

theorem lookup?_eq_some_mem {members : Members} {key : String} {value : Json}
    (h : lookup? members key = some value) : (key, value) ∈ members := by
  obtain ⟨⟨key', value'⟩, hfind, rfl⟩ := Option.map_eq_some_iff.1 h
  have hkey : key' = key := by simpa using List.find?_some hfind
  exact hkey ▸ List.mem_reverse.1 (List.mem_of_find?_eq_some hfind)

mutual

/-- A JSON value says the same as itself. -/
theorem Same.refl : (j : Json) → Same j j
  | .null => .null
  | .bool b => .bool b
  | .number n => .number n
  | .string s => .string s
  | .array items => .array (List.forall₂_same.2 (Same.refl_items items))
  | .object members => .object fun key ↦ by
    cases h : lookup? members key with
    | none => exact .none
    | some value => exact .some (Same.refl_members members _ (lookup?_eq_some_mem h))

theorem Same.refl_items : (items : List Json) → ∀ j ∈ items, Same j j
  | [], _, h => nomatch h
  | item :: items, j, h => by
    rcases List.mem_cons.1 h with h | h
    · exact h ▸ Same.refl item
    · exact Same.refl_items items j h

theorem Same.refl_members : (members : Members) → ∀ member ∈ members, Same member.2 member.2
  | [], _, h => nomatch h
  | (key, value) :: members, member, h => by
    rcases List.mem_cons.1 h with h | h
    · exact h ▸ Same.refl value
    · exact Same.refl_members members member h

end

theorem same_ofInt_iff {n n' : Int} : Same (.ofInt n) (.ofInt n') ↔ n = n' := by
  constructor
  · intro h
    cases h
    rfl
  · rintro rfl
    exact .number _

theorem same_string_iff {s s' : String} : Same (.string s) (.string s') ↔ s = s' := by
  constructor
  · intro h
    cases h
    rfl
  · rintro rfl
    exact .string s

theorem same_array_iff {items items' : List Json} :
    Same (.array items) (.array items') ↔ List.Forall₂ Same items items' := by
  constructor
  · intro h
    cases h with
    | array hitems => exact hitems
  · exact .array

/-! ### What keys are bound to -/

theorem lookup?_cons_of_ne {name key : String} (h : name ≠ key) (value : Json)
    (members : Members) : lookup? ((name, value) :: members) key = lookup? members key := by
  rw [lookup?, List.reverse_cons, List.find?_append, List.find?_singleton, lookup?]
  simp [h]

theorem lookup?_eq_none {members : Members} {key : String} (h : key ∉ members.map Prod.fst) :
    lookup? members key = none := by
  cases hlookup : lookup? members key with
  | none => rfl
  | some value => exact absurd (List.mem_map_of_mem (lookup?_eq_some_mem hlookup)) h

/-- The member in front counts if the members behind it do not have its key. -/
theorem lookup?_cons_self {name : String} {members : Members} (h : name ∉ members.map Prod.fst)
    (value : Json) : lookup? ((name, value) :: members) name = some value := by
  have hnone : members.reverse.find? (fun member ↦ member.1 = name) = none :=
    Option.map_eq_none_iff.1 (lookup?_eq_none h)
  rw [lookup?, List.reverse_cons, List.find?_append, hnone]
  simp

/-- Two objects that say the same, with a new member of one name in front of each, have the same
value in front and say the same behind it. -/
theorem Same.of_cons {name : String} {value value' : Json} {members members' : Members}
    (hsame : Same (.object ((name, value) :: members)) (.object ((name, value') :: members')))
    (h : name ∉ members.map Prod.fst) (h' : name ∉ members'.map Prod.fst) :
    Same value value' ∧ Same (.object members) (.object members') := by
  cases hsame with
  | object hkeys =>
    constructor
    · have hname := hkeys name
      rw [lookup?_cons_self h, lookup?_cons_self h'] at hname
      cases hname with
      | some hvalue => exact hvalue
    · refine .object fun key ↦ ?_
      by_cases hname : name = key
      · rw [← hname, lookup?_eq_none h, lookup?_eq_none h']
        exact .none
      · have hkey := hkeys key
        rwa [lookup?_cons_of_ne hname, lookup?_cons_of_ne hname] at hkey

end Json

namespace Wire

/-! ### Numbers, texts and lists -/

theorem Numeric.eq_of_same {β : Type} (numeric : Numeric β) {value value' : β}
    (h : Json.Same (numeric.toJson value) (numeric.toJson value')) : value = value' := by
  cases numeric with
  | bool =>
    cases h
    rfl
  | uint32 => exact UInt32.toNat_inj.1 (Int.ofNat.inj (Json.same_ofInt_iff.1 h))
  | uint64 => exact UInt64.toNat_inj.1 (Int.ofNat.inj (Json.same_ofInt_iff.1 h))
  | int32 => exact Int32.toInt_inj.1 (Json.same_ofInt_iff.1 h)
  | int64 => exact Int64.toInt_inj.1 (Json.same_ofInt_iff.1 h)

theorem Textual.eq_of_same {β : Type} (textual : Textual β) {value value' : β}
    (h : Json.Same (textual.toJson value) (textual.toJson value')) : value = value' := by
  cases textual with
  | string => exact Json.same_string_iff.1 h
  | bytes => exact Base64.encode_injective (Json.same_string_iff.1 h)

/-- Lists are determined by their arrays if items are by theirs. -/
theorem eq_of_same_array {β : Type} {toJson : β → Json} {values values' : List β}
    (hitem : ∀ {value value'}, Json.Same (toJson value) (toJson value') → value = value')
    (h : Json.Same (.array (values.map toJson)) (.array (values'.map toJson))) :
    values = values' := by
  rw [Json.same_array_iff, List.forall₂_map_left_iff, List.forall₂_map_right_iff] at h
  exact List.forall₂_eq_eq_eq ▸ h.imp fun _ _ ↦ hitem

/-! ### Names of fields -/

/-- The names of fields, in order. -/
def Fields.names {ρ : Type} : Fields ρ → List String
  | .nil => []
  | .cons _ name _ rest => name :: rest.names

/-- The keys of a field map are the names of the fields. -/
theorem Fields.map_fst_fieldMap {ρ : Type} : (fields : Fields ρ) → (row : ρ) →
    (fields.fieldMap row).map Prod.fst = fields.names
  | .nil, () => rfl
  | .cons _ name kind rest, (value, row) => by
    rw [fieldMap, List.map_cons, rest.map_fst_fieldMap row, names]

mutual

/-- Whether the fields of each message in a value have names of their own. -/
def Kind.hasDistinctNames {β : Type} : Kind β → Bool
  | .number _ | .text _ | .numbers _ | .texts _ => true
  | .message shape | .messages shape => shape.hasDistinctNames

/-- Whether the fields of a row, and of each message in it, have names of their own. -/
def Fields.hasDistinctNames {ρ : Type} : Fields ρ → Bool
  | .nil => true
  | .cons _ name kind rest =>
    !rest.names.contains name && kind.hasDistinctNames && rest.hasDistinctNames

/-- Whether the fields of a message, and of each message in it, have names of their own. -/
def Shape.hasDistinctNames {α : Type} : Shape α → Bool
  | .mk _ fields _ _ _ _ => fields.hasDistinctNames

end

/-! ### All shapes -/

mutual

/-- The value of a field is determined by its JSON value. -/
theorem Kind.eq_of_same {β : Type} : (kind : Kind β) → kind.hasDistinctNames = true →
    {value value' : β} → Json.Same (kind.toJson value) (kind.toJson value') → value = value'
  | .number numeric, _, _, _, h => numeric.eq_of_same h
  | .text textual, _, _, _, h => textual.eq_of_same h
  | .numbers numeric, _, _, _, h => eq_of_same_array numeric.eq_of_same h
  | .texts textual, _, _, _, h => eq_of_same_array textual.eq_of_same h
  | .message _, _, none, none, _ => rfl
  | .message _, _, none, some _, h => nomatch h
  | .message _, _, some _, none, h => nomatch h
  | .message shape, hnames, some _, some _, h => congrArg some (Shape.eq_of_same shape hnames h)
  | .messages shape, hnames, _, _, h => eq_of_same_array (Shape.eq_of_same shape hnames) h

/-- A row is determined by its members. -/
theorem Fields.eq_of_same {ρ : Type} : (fields : Fields ρ) → fields.hasDistinctNames = true →
    {row row' : ρ} → Json.Same (.object (fields.fieldMap row)) (.object (fields.fieldMap row')) →
    row = row'
  | .nil, _, (), (), _ => rfl
  | .cons _ name kind rest, hnames, (value, row), (value', row'), h => by
    rw [Fields.hasDistinctNames, Bool.and_eq_true, Bool.and_eq_true] at hnames
    obtain ⟨⟨hother, hkind⟩, hrest⟩ := hnames
    have hmem : name ∉ rest.names := by simpa using hother
    obtain ⟨hvalue, hrow⟩ := Json.Same.of_cons h
      (by rwa [rest.map_fst_fieldMap]) (by rwa [rest.map_fst_fieldMap])
    rw [kind.eq_of_same hkind hvalue, rest.eq_of_same hrest hrow]

/-- A message is determined by its field map. -/
theorem Shape.eq_of_same {α : Type} : (shape : Shape α) → shape.hasDistinctNames = true →
    {m m' : α} → Json.Same (.object (shape.fieldMap m)) (.object (shape.fieldMap m')) → m = m'
  | .mk _ fields pack unpack pack_unpack _, hnames, m, m', h => by
    have hrow : unpack m = unpack m' := fields.eq_of_same hnames h
    rw [← pack_unpack m, hrow, pack_unpack m']

end

end Wire

end ChainRecord
