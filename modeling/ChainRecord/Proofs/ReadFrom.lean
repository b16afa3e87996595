import ChainRecord.Proofs.Lists
import ChainRecord.Proofs.Outcome

/-!
# Reading lists by place

Many readers go through a list once and stop at the first item they cannot read, and an item may be
read in another way at another place. Two laws say all there is to know of such a run. It succeeds
with one result for each item, each being what the item reads as at its own place
(`readFrom_eq_ok_iff`), and it fails with the error of the least place at which an item fails
(`readFrom_eq_error_iff`). Together they make the run all or nothing: no result is kept of the items
in front of one that fails, and no item behind it is looked at.
-/

namespace ChainRecord

variable {ε α β : Type}

/-- Reads items one after the other, the first of which is at the given place. -/
def readFrom (read : Nat → α → Except ε β) : Nat → List α → Except ε (List β)
  | _, [] => .ok []
  | position, a :: as => do
    let b ← read position a
    let bs ← readFrom read (position + 1) as
    .ok (b :: bs)

/-- A reader that does not look at the place goes through a list as any function does. -/
theorem readFrom_const (f : α → Except ε β) (position : Nat) (items : List α) :
    readFrom (fun _ ↦ f) position items = items.mapM f := by
  induction items generalizing position with
  | nil => rfl
  | cons a items ih => rw [readFrom, List.mapM_cons, ih]; rfl

variable {read : Nat → α → Except ε β}

/-! ### Success -/

/-- The results are those of the items at their own places, one for each. -/
theorem readFrom_eq_ok_iff {position : Nat} {items : List α} {results : List β} :
    readFrom read position items = .ok results ↔
      results.length = items.length ∧
        ∀ i a b, items[i]? = some a → results[i]? = some b → read (position + i) a = .ok b := by
  induction items generalizing position results with
  | nil => cases results <;> simp [readFrom]
  | cons a items ih =>
    have hplace (i : Nat) : position + 1 + i = position + (i + 1) := by omega
    rw [readFrom, bind_eq_ok_iff]
    constructor
    · rintro ⟨b, hb, hrest⟩
      obtain ⟨bs, hbs, hresults⟩ := bind_eq_ok_iff.1 hrest
      obtain rfl := Except.ok.inj hresults
      obtain ⟨hlength, hitems⟩ := ih.1 hbs
      refine ⟨by rw [List.length_cons, List.length_cons, hlength], fun i a' b' ha' hb' ↦ ?_⟩
      cases i with
      | zero =>
        obtain rfl := Option.some.inj ha'
        obtain rfl := Option.some.inj hb'
        exact hb
      | succ i => exact hplace i ▸ hitems i a' b' ha' hb'
    · rintro ⟨hlength, hitems⟩
      cases results with
      | nil => exact absurd hlength (by simp)
      | cons b bs =>
        have hbs : readFrom read (position + 1) items = .ok bs :=
          ih.2 ⟨Nat.succ.inj hlength, fun i a' b' ha' hb' ↦
            hplace i ▸ hitems (i + 1) a' b' ha' hb'⟩
        exact ⟨b, hitems 0 a b rfl rfl, bind_eq_ok_iff.2 ⟨bs, hbs, rfl⟩⟩

/-- Where the place has no say in what an item reads as, items and results are related one by
one. -/
theorem readFrom_eq_ok_iff_forall₂ {R : α → β → Prop}
    (hread : ∀ position a b, read position a = .ok b ↔ R a b) {position : Nat} {items : List α}
    {results : List β} :
    readFrom read position items = .ok results ↔ List.Forall₂ R items results := by
  rw [readFrom_eq_ok_iff, List.forall₂_iff_get]
  simp only [hread]
  constructor
  · rintro ⟨hlength, hitems⟩
    refine ⟨hlength.symm, fun i hi hi' ↦ ?_⟩
    exact hitems i _ _ (List.getElem?_eq_getElem hi) (List.getElem?_eq_getElem hi')
  · rintro ⟨hlength, hitems⟩
    refine ⟨hlength.symm, fun i a b ha hb ↦ ?_⟩
    obtain ⟨hi, rfl⟩ := List.getElem?_eq_some_iff.1 ha
    obtain ⟨hi', rfl⟩ := List.getElem?_eq_some_iff.1 hb
    exact hitems i hi hi'

/-- A run that does not look at the place, where results are made of values by a function. -/
theorem listMapM_eq_ok_iff {γ : Type} {f : α → Except ε β} {R : α → γ → Prop} {g : γ → β}
    (hread : ∀ a b, f a = .ok b ↔ ∃ c, R a c ∧ g c = b) {items : List α} {results : List β} :
    items.mapM f = .ok results ↔
      ∃ values, List.Forall₂ R items values ∧ values.map g = results := by
  rw [← readFrom_const f 0, readFrom_eq_ok_iff_forall₂ fun _ ↦ hread]
  exact List.forall₂_exists_map_iff

/-! ### Failure -/

/-- The error is that of the least place at which an item cannot be read. -/
theorem readFrom_eq_error_iff {position : Nat} {items : List α} {e : ε} :
    readFrom read position items = .error e ↔
      ∃ i a, items[i]? = some a ∧ read (position + i) a = .error e ∧
        ∀ j a', j < i → items[j]? = some a' → ¬ Fails (read (position + j) a') := by
  induction items generalizing position with
  | nil => simp [readFrom]
  | cons a items ih =>
    have hplace (i : Nat) : position + 1 + i = position + (i + 1) := by omega
    rw [readFrom, bind_eq_error_iff]
    constructor
    · rintro (hfirst | ⟨b, hb, hrest⟩)
      · exact ⟨0, a, rfl, hfirst, fun j _ hj ↦ absurd hj (Nat.not_lt_zero j)⟩
      · -- the first item is read, so the least place is one behind it
        obtain ⟨i, a', ha', he, hbefore⟩ := ih.1 (bind_ok_eq_error_iff.1 hrest)
        refine ⟨i + 1, a', ha', hplace i ▸ he, fun j a'' hj ha'' ↦ ?_⟩
        cases j with
        | zero =>
          obtain rfl := Option.some.inj ha''
          exact not_fails_iff.2 ⟨b, hb⟩
        | succ j => exact hplace j ▸ hbefore j a'' (Nat.lt_of_succ_lt_succ hj) ha''
    · rintro ⟨i, a', ha', he, hbefore⟩
      cases i with
      | zero =>
        obtain rfl := Option.some.inj ha'
        exact Or.inl he
      | succ i =>
        obtain ⟨b, hb⟩ := not_fails_iff.1 (hbefore 0 a (Nat.succ_pos i) rfl)
        have hrest : readFrom read (position + 1) items = .error e :=
          ih.2 ⟨i, a', ha', hplace i ▸ he, fun j a'' hj ha'' ↦
            hplace j ▸ hbefore (j + 1) a'' (Nat.succ_lt_succ hj) ha''⟩
        exact Or.inr ⟨b, hb, bind_ok_eq_error_iff.2 hrest⟩

/-- The error of a run that does not look at the place is that of the first item that fails. -/
theorem listMapM_eq_error_iff {f : α → Except ε β} {items : List α} {e : ε} :
    items.mapM f = .error e ↔
      ∃ i a, items[i]? = some a ∧ f a = .error e ∧
        ∀ (j : Nat) a', j < i → items[j]? = some a' → ¬ Fails (f a') := by
  rw [← readFrom_const f 0, readFrom_eq_error_iff]

/-- A list is refused if any of its items is, at its own place. -/
theorem fails_readFrom_iff {position : Nat} {items : List α} :
    Fails (readFrom read position items) ↔
      ∃ i a, items[i]? = some a ∧ Fails (read (position + i) a) := by
  induction items generalizing position with
  | nil => simp [readFrom]
  | cons a items ih =>
    have hplace (i : Nat) : position + 1 + i = position + (i + 1) := by omega
    rw [readFrom, fails_bind_iff fun _ ↦ fails_bind_ok.trans ih]
    conv_rhs => rw [← Nat.or_exists_add_one]
    simp [hplace]

/-! ### Two readers -/

/-- Two readers that read every item alike read a list alike. -/
theorem Alike.listMapM {ε' β' : Type} {E : ε → ε' → Prop} {R : β → β' → Prop}
    {f : α → Except ε β} {f' : α → Except ε' β'} {items : List α}
    (h : ∀ a ∈ items, Alike E R (f a) (f' a)) :
    Alike E (List.Forall₂ R) (items.mapM f) (items.mapM f') := by
  induction items with
  | nil => exact .ok .nil
  | cons a items ih =>
    obtain ⟨hfirst, hrest⟩ := List.forall_mem_cons.1 h
    rw [List.mapM_cons, List.mapM_cons]
    exact hfirst.bind fun b b' hb ↦ (ih hrest).bind fun bs bs' hbs ↦ .ok (.cons hb hbs)

end ChainRecord
