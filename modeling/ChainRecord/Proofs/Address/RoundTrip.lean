import ChainRecord.Address
import ChainRecord.Proofs.Address.Checksum
import ChainRecord.Proofs.Address.Symbols
import Mathlib.Data.List.TakeDrop
import Mathlib.Data.List.TakeWhile
import Mathlib.Data.String.Basic

/-!
# Addresses that are written are read back

An address text that was written denotes the bytes it was written for, under the human readable part
in lower case (`ofText?_of_toText`). No condition on the human readable part is needed beside the
one that writing makes: it may contain the separator, because the data never does and the last
separator counts; and it may have letters of upper case, because it is written in lower case, which
leaves every other check of it as it was.
-/

namespace ChainRecord.Address

/-! ### Human readable parts -/

/-- A character that a human readable part may have. -/
def IsVisible (c : Char) : Prop :=
  33 ≤ c.toNat ∧ c.toNat ≤ 126

/-- A visible character in lower case is visible, takes as many bytes, and has no other lower
case. -/
theorem IsVisible.toLower {c : Char} (h : IsVisible c) :
    IsVisible c.toLower ∧ c.toLower.isUpper = false ∧ c.toLower.utf8Size = c.utf8Size ∧
      c.toLower.toLower = c.toLower := by
  have hall : ∀ n < 127, 33 ≤ n →
      (33 ≤ (Char.ofNat n).toLower.toNat ∧ (Char.ofNat n).toLower.toNat ≤ 126) ∧
        (Char.ofNat n).toLower.isUpper = false ∧
        (Char.ofNat n).toLower.utf8Size = (Char.ofNat n).utf8Size ∧
        (Char.ofNat n).toLower.toLower = (Char.ofNat n).toLower := by
    decide
  simpa [IsVisible] using hall c.toNat (Nat.lt_succ_of_le h.2) h.1

theorem isVisible_of_checkHumanChars {upper lower : Bool} {cs : List Char}
    (h : checkHumanChars upper lower cs = .ok ()) : ∀ c ∈ cs, IsVisible c := by
  induction cs generalizing upper lower with
  | nil => simp
  | cons c cs ih =>
    rw [checkHumanChars] at h
    split at h
    · cases h
    · split at h
      · cases h
      · rename_i hascii hvisible
        refine List.forall_mem_cons.2 ⟨⟨by omega, by omega⟩, ?_⟩
        -- whichever case the character has, the others are checked
        split at h
        · split at h
          · cases h
          · exact ih h
        · split at h
          · split at h
            · cases h
            · exact ih h
          · exact ih h

theorem checkHumanChars_of_isVisible {lower : Bool} {cs : List Char}
    (h : ∀ c ∈ cs, IsVisible c ∧ c.isUpper = false) :
    checkHumanChars false lower cs = .ok () := by
  induction cs generalizing lower with
  | nil => rfl
  | cons c cs ih =>
    obtain ⟨⟨⟨hlow, hhigh⟩, hupper⟩, hcs⟩ := List.forall_mem_cons.1 h
    rw [checkHumanChars, if_neg (by omega), if_neg (by omega)]
    by_cases hlower : c.isLower
    · rw [if_pos hlower, if_neg Bool.false_ne_true]
      exact ih hcs
    · rw [if_neg hlower, if_neg (by simp [hupper])]
      exact ih hcs

/-- What is checked of a human readable part. -/
theorem checkHumanPart_eq_ok_iff {humanPart : String} :
    checkHumanPart humanPart = .ok () ↔
      humanPart ≠ "" ∧ humanPart.utf8ByteSize ≤ maxHumanPart ∧
        checkHumanChars false false humanPart.toList = .ok () := by
  unfold checkHumanPart
  by_cases hempty : humanPart = ""
  · simp [hempty]
  · by_cases hlong : maxHumanPart < humanPart.utf8ByteSize
    · simp [hempty, hlong]
    · simp [hempty, hlong, Nat.le_of_not_lt hlong]

theorem utf8Len_lowerChars {cs : List Char} (h : ∀ c ∈ cs, IsVisible c) :
    String.utf8Len (lowerChars cs) = String.utf8Len cs := by
  induction cs with
  | nil => rfl
  | cons c cs ih =>
    obtain ⟨hc, hcs⟩ := List.forall_mem_cons.1 h
    simp only [lowerChars, List.map_cons, String.utf8Len_cons, hc.toLower.2.2.1]
    rw [← ih hcs, lowerChars]

/-- A human readable part is one in lower case as well. -/
theorem checkHumanPart_lowerChars {humanPart : String} (h : checkHumanPart humanPart = .ok ()) :
    checkHumanPart (String.ofList (lowerChars humanPart.toList)) = .ok () := by
  obtain ⟨hempty, hlong, hchars⟩ := checkHumanPart_eq_ok_iff.1 h
  have hvisible := isVisible_of_checkHumanChars hchars
  refine checkHumanPart_eq_ok_iff.2 ⟨?_, ?_, ?_⟩
  · simpa [lowerChars] using hempty
  · rw [String.utf8ByteSize_ofList, utf8Len_lowerChars hvisible, ← String.utf8ByteSize_ofList,
      String.ofList_toList]
    exact hlong
  · rw [String.toList_ofList]
    refine checkHumanChars_of_isVisible fun c hc ↦ ?_
    obtain ⟨c, hmem, rfl⟩ := List.mem_map.1 hc
    exact ⟨(hvisible c hmem).toLower.1, (hvisible c hmem).toLower.2.1⟩

theorem lowerChars_lowerChars {cs : List Char} (h : ∀ c ∈ cs, IsVisible c) :
    lowerChars (lowerChars cs) = lowerChars cs := by
  simp only [lowerChars, List.map_map]
  exact List.map_congr_left fun c hc ↦ (h c hc).toLower.2.2.2

/-! ### Texts -/

/-- The last separator is the one before text without any. -/
theorem splitAtSeparator?_append (humanPart : List Char) {data : List Char} (h : '1' ∉ data) :
    splitAtSeparator? (humanPart ++ '1' :: data) = some (humanPart, data) := by
  have hdata : ∀ c ∈ data.reverse, decide (c ≠ '1') = true := fun c hc ↦
    decide_eq_true fun heq ↦ h (heq ▸ List.mem_reverse.1 hc)
  have hreverse : (humanPart ++ '1' :: data).reverse =
      data.reverse ++ '1' :: humanPart.reverse := by
    simp
  rw [splitAtSeparator?, hreverse, List.span_eq_takeWhile_dropWhile,
    List.takeWhile_append_of_pos hdata, List.dropWhile_append_of_pos hdata]
  simp

/-- The text of an address has letters of lower case only. -/
theorem hasMixedCase_textChars {humanPart : List Char} (h : ∀ c ∈ humanPart, IsVisible c)
    (bytes : Bytes) : hasMixedCase (textChars (lowerChars humanPart) bytes) = false := by
  have hupper : ∀ c ∈ textChars (lowerChars humanPart) bytes, c.isUpper = false := by
    intro c hc
    simp only [textChars, lowerChars, List.mem_append, List.mem_cons, List.mem_map] at hc
    rcases hc with ⟨c, hmem, rfl⟩ | rfl | ⟨s, -, rfl⟩
    · exact (h c hmem).toLower.2.1
    · decide
    · exact isUpper_symbolChar s
  have hany : (textChars (lowerChars humanPart) bytes).any Char.isUpper = false :=
    List.any_eq_false.2 fun c hc ↦ by simp [hupper c hc]
  rw [hasMixedCase, hany, Bool.and_false]

/-- What an intact text denotes. -/
theorem ofText?_of_isIntact {cs humanPart dataChars : List Char} {data : List Symbol}
    (hsplit : splitAtSeparator? cs = some (humanPart, dataChars))
    (hdata : dataChars.mapM charSymbol? = some data) (hcase : hasMixedCase cs = false)
    (hlong : cs.length ≤ maxLength) (hshort : checkLength ≤ data.length)
    (hhuman : checkHumanPart (String.ofList humanPart) = .ok ())
    (hintact : isIntact (lowerChars humanPart) data = true) :
    ofText? (String.ofList cs) =
      some ⟨String.ofList (lowerChars humanPart),
        bytesOfSymbols (data.take (data.length - checkLength))⟩ := by
  have hlimits :
      ¬ (hasMixedCase cs = true ∨ maxLength < cs.length ∨ data.length < checkLength) := by
    simp only [hcase, Bool.false_eq_true, false_or, not_or, not_lt]
    exact ⟨hlong, hshort⟩
  simp only [ofText?, String.toList_ofList, hsplit, hdata, Option.bind_eq_bind, Option.bind_some]
  rw [if_neg hlimits, hhuman]
  exact if_pos hintact

/-- A text is written where the human readable part is one and the text is not too long. -/
theorem toText_eq_ok_iff {humanPart text : String} {bytes : Bytes} :
    toText humanPart bytes = .ok text ↔
      checkHumanPart humanPart = .ok () ∧
        (textChars (lowerChars humanPart.toList) bytes).length ≤ maxLength ∧
        String.ofList (textChars (lowerChars humanPart.toList) bytes) = text := by
  rw [toText]
  cases checkHumanPart humanPart with
  | error fault => simp
  | ok _ =>
    by_cases hlong : maxLength < (textChars (lowerChars humanPart.toList) bytes).length
    · simp [hlong]
    · simp [hlong, Nat.le_of_not_lt hlong]

/-- **An address that was written is read back.** -/
theorem ofText?_of_toText {humanPart text : String} {bytes : Bytes}
    (h : toText humanPart bytes = .ok text) :
    ofText? text = some ⟨String.ofList (lowerChars humanPart.toList), bytes⟩ := by
  obtain ⟨hhuman, hlong, rfl⟩ := toText_eq_ok_iff.1 h
  have hvisible := isVisible_of_checkHumanChars (checkHumanPart_eq_ok_iff.1 hhuman).2.2
  have hlower := lowerChars_lowerChars hvisible
  have hintact := isIntact_append_checkSymbols (lowerChars humanPart.toList) (symbolsOfBytes bytes)
  have hlength :
      (checkSymbols (lowerChars humanPart.toList) (symbolsOfBytes bytes)).length = checkLength :=
    rfl
  have hread := ofText?_of_isIntact (splitAtSeparator?_append _ (separator_not_mem_map _))
    (mapM_charSymbol?_map_symbolChar _) (hasMixedCase_textChars hvisible bytes) hlong
    (by rw [List.length_append, hlength]; exact Nat.le_add_left _ _)
    (checkHumanPart_lowerChars hhuman) (by rwa [hlower])
  rwa [List.length_append, hlength, Nat.add_sub_cancel, List.take_left,
    bytesOfSymbols_symbolsOfBytes, hlower] at hread

end ChainRecord.Address
