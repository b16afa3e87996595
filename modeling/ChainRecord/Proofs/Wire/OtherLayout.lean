import ChainRecord.Proofs.Wire.RoundTrip

/-!
# Reading under another layout

Bytes do not say in which layout they were written: what one layout takes for a message may be a
text, a list of numbers or another message in a second one. Whether a content can be read in that
way is a property of the kind of field and the content alone (`Kind.Reads`, `Kind.Rejects`).

A text that occurs several times keeps its last value (`Kind.fieldRun_overwrite`). A content can be
read as packed numbers if it is numbers one behind the other, up to its end
(`Kind.exists_reads_numbers`), and is rejected otherwise (`Kind.rejects_numbers`).
-/

namespace ChainRecord.Wire

variable {β : Type}

/-! ### Contents -/

/-- A kind of field reads a content as a value, whatever follows the content. -/
def Kind.Reads (kind : Kind β) (depth : Nat) (content : Bytes) (value : β) : Prop :=
  ∀ rest, kind.readField depth .lengthDelimited kind.absent (writeSized content ++ rest) =
    .ok (value, rest)

/-- A kind of field rejects a content, whatever follows the content. -/
def Kind.Rejects (kind : Kind β) (depth : Nat) (content : Bytes) : Prop :=
  ∀ rest, ∃ fault,
    kind.readField depth .lengthDelimited kind.absent (writeSized content ++ rest) = .error fault

/-! ### Texts in place of other fields -/

/-- A content is rejected as a text if it is not the bytes of one. -/
theorem Textual.rejects_of_ofBytes? {textual : Textual β} {content : Bytes}
    (h : textual.ofBytes? content = none) (hsize : content.length < 2 ^ 64) (rest : Bytes) :
    textual.read (writeSized content ++ rest) = .error ⟨.notUtf8, []⟩ := by
  rw [Textual.read, readSized_writeSized hsize]
  show (require .notUtf8 (textual.ofBytes? content)).bind _ = _
  rw [h]
  rfl

/-- Of texts behind keys of one number the last is kept. -/
theorem Kind.fieldRun_overwrite {number : Nat} (hnumber : isFieldNumber number = true) (depth : Nat)
    (textual : Textual β) (values : List β)
    (hsize : ∀ value ∈ values, (textual.toBytes value).length < 2 ^ 64) (value : β) :
    FieldRun (fun key ↦ (Kind.text textual).readField depth key.wireType) (· = number) value
      (values.flatMap fun v ↦ writeKey number .lengthDelimited ++ writeSized (textual.toBytes v))
      (values.getLastD value) := by
  induction values generalizing value with
  | nil => exact .nil value
  | cons v values ih =>
    have hback := ih (fun w hw ↦ hsize w (List.mem_cons_of_mem v hw)) v
    rw [List.getLastD_cons]
    exact .cons rfl hnumber (textual.read_writeSized v (hsize v (by simp))) hback

/-! ### Numbers in place of another field -/

/-- Bytes are numbers one behind the other, and end where the last of them ends. -/
inductive AreVarints : Bytes → Prop
  /-- No number is left. -/
  | nil : AreVarints []
  /-- A number, and what follows it. -/
  | cons {n : Nat} {bytes rest : Bytes} (hread : readVarint bytes = some (n, rest))
      (hrest : AreVarints rest) : AreVarints bytes

theorem Numeric.readNext_of_readVarint (numeric : Numeric β) {n : Nat} {bytes rest : Bytes}
    (h : readVarint bytes = some (n, rest)) (values : List β) :
    numeric.readNext values bytes = .ok (values ++ [numeric.ofWord n], rest) := by
  rw [readNext, Numeric.read, h]
  rfl

theorem Numeric.readNext_of_readVarint_none (numeric : Numeric β) {bytes : Bytes}
    (h : readVarint bytes = none) (values : List β) :
    numeric.readNext values bytes = .error ⟨.invalidVarint, []⟩ := by
  rw [readNext, Numeric.read, h]
  rfl

/-- Numbers one behind the other are read to their end. -/
theorem Numeric.exists_run_of_areVarints (numeric : Numeric β) {bytes : Bytes}
    (h : AreVarints bytes) (values : List β) :
    ∃ final, Run numeric.readNext values bytes final := by
  induction h generalizing values with
  | nil => exact ⟨values, .nil values⟩
  | @cons n bytes rest hread _ ih =>
    obtain ⟨front, hne, rfl, hfront⟩ := readVarint_split hread
    obtain ⟨final, hfinal⟩ := ih (values ++ [numeric.ofWord n])
    exact ⟨final, .cons hne (fun tail ↦ numeric.readNext_of_readVarint (hfront tail) values) hfinal⟩

/-- A loop over numbers that ends exactly behind a content has read the content as numbers. -/
theorem Numeric.areVarints_of_readUntil (numeric : Numeric β) {fuel : Nat} {values final : List β}
    {content rest left : Bytes} (hfuel : content.length ≤ fuel)
    (hloop : readUntil rest.length numeric.readNext fuel values (content ++ rest) =
      .ok (final, left)) (hleft : left.length = rest.length) : AreVarints content := by
  induction fuel generalizing values content with
  | zero =>
    obtain rfl : content = [] := List.length_eq_zero_iff.1 (Nat.le_zero.1 hfuel)
    exact .nil
  | succ fuel ih =>
    rcases List.eq_nil_or_concat content with rfl | hcontent
    · exact .nil
    have hpos : 0 < content.length := by
      obtain ⟨front, b, rfl⟩ := hcontent
      simp
    rw [readUntil_succ (by rw [List.length_append]; omega)] at hloop
    cases hread : readVarint (content ++ rest) with
    | none =>
      rw [numeric.readNext_of_readVarint_none hread] at hloop
      exact absurd hloop (by simp [Except.bind])
    | some pair =>
      obtain ⟨n, behind⟩ := pair
      rw [numeric.readNext_of_readVarint hread] at hloop
      change readUntil rest.length numeric.readNext fuel _ behind = _ at hloop
      obtain ⟨front, hne, hsplit, hfront⟩ := readVarint_split hread
      have hfrontpos : 0 < front.length := List.length_pos_iff.2 hne
      rcases List.append_eq_append_iff.1 hsplit with ⟨beyond, rfl, rfl⟩ | ⟨inside, rfl, rfl⟩
      · -- the number goes past the content, so the loop ends behind it
        rw [readUntil_of_length_le (by rw [List.length_append]; omega)] at hloop
        obtain ⟨-, rfl⟩ := Prod.mk.inj (Except.ok.inj hloop)
        obtain rfl : beyond = [] := by
          apply List.length_eq_zero_iff.1
          rw [List.length_append] at hleft
          omega
        rw [List.append_nil] at hfront
        have hlast := hfront []
        rw [List.append_nil] at hlast
        exact .cons hlast .nil
      · rw [List.length_append] at hfuel
        exact .cons (hfront inside) (ih (by omega) hloop)

/-- A span of numbers that can be read is numbers one behind the other. -/
theorem Numeric.areVarints_of_readSpan (numeric : Numeric β) {values final : List β}
    {content rest left : Bytes} (hsize : content.length < 2 ^ 64)
    (h : readSpan numeric.readNext values (writeSized content ++ rest) = .ok (final, left)) :
    AreVarints content := by
  rw [readSpan, writeSized, List.append_assoc, readVarint_writeVarint hsize] at h
  change (if _ then _ else _) = _ at h
  have hstop : (content ++ rest).length - content.length = rest.length := by
    rw [List.length_append]
    omega
  rw [if_neg (by rw [List.length_append]; omega), hstop] at h
  cases hloop : readUntil rest.length numeric.readNext (content ++ rest).length values
      (content ++ rest) with
  | error fault =>
    rw [hloop] at h
    exact absurd h (by simp [bind, Except.bind])
  | ok pair =>
    obtain ⟨found, behind⟩ := pair
    rw [hloop] at h
    change (if _ then _ else _) = _ at h
    by_cases hbehind : behind.length = rest.length
    · exact numeric.areVarints_of_readUntil (by rw [List.length_append]; omega) hloop hbehind
    · rw [if_neg hbehind] at h
      exact absurd h (by simp [refuse])

/-- A content of numbers one behind the other is read as packed numbers. -/
theorem Kind.exists_reads_numbers (numeric : Numeric β) (depth : Nat) {content : Bytes}
    (h : AreVarints content) (hsize : content.length < 2 ^ 64) :
    ∃ values, (Kind.numbers numeric).Reads depth content values := by
  obtain ⟨values, hrun⟩ := numeric.exists_run_of_areVarints h []
  exact ⟨values, readSpan_writeSized hrun hsize⟩

/-- Any other content is rejected. -/
theorem Kind.rejects_numbers (numeric : Numeric β) (depth : Nat) {content : Bytes}
    (h : ¬ AreVarints content) (hsize : content.length < 2 ^ 64) :
    (Kind.numbers numeric).Rejects depth content := by
  intro rest
  cases hread : readSpan numeric.readNext [] (writeSized content ++ rest) with
  | error fault => exact ⟨fault, hread⟩
  | ok pair => exact absurd (numeric.areVarints_of_readSpan hsize hread) h

end ChainRecord.Wire
