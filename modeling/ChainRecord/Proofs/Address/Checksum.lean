import ChainRecord.Address.Checksum
import Mathlib.Data.List.Induction
import Mathlib.Tactic.Common

/-!
# The checksum that is written is intact

The residue is linear with respect to exclusive or (`absorbAll_xor`): the residue of a text with
check symbols is that of the text with zeros in their place and, apart from it, that of the check
symbols alone. Six symbols that are read into an empty residue meet no feedback, so of themselves
they leave the thirty bits they were cut from (`absorbAll_cut`). Hence the residue of a text
together with its check symbols is the constant (`residueOf_append_checkSymbols`), whatever the text
is.

For the same reason no other six symbols do: symbols that meet no feedback stand in the residue as
they were read (`getLsbD_absorb_of_clear`), so up to six of them are decided by it
(`absorbAll_zero_inj`), and a text has one checksum of each generation.
-/

namespace ChainRecord.Address

/-! ### Linearity -/

/-- Puts a value back into a sum if its bit leaves the residue. -/
def putBack (r sum : Residue) : Residue × Nat → Residue
  | (value, bit) => if r.getLsbD bit then sum ^^^ value else sum

theorem absorb_eq (r : Residue) (s : Symbol) :
    absorb r s = (feedback.zipIdx 25).foldl (putBack r) (r <<< 5 ^^^ s.setWidth 30) := rfl

theorem putBack_xor (r r' sum sum' : Residue) (tap : Residue × Nat) :
    putBack (r ^^^ r') (sum ^^^ sum') tap = putBack r sum tap ^^^ putBack r' sum' tap := by
  obtain ⟨value, bit⟩ := tap
  simp only [putBack, BitVec.getLsbD_xor]
  cases r.getLsbD bit <;> cases r'.getLsbD bit
  · rfl
  · exact BitVec.xor_assoc _ _ _
  · show sum ^^^ sum' ^^^ value = sum ^^^ value ^^^ sum'
    ac_rfl
  · -- both put the same value back, which cancels
    have hcancel : (sum ^^^ value) ^^^ (sum' ^^^ value) = (sum ^^^ sum') ^^^ (value ^^^ value) := by
      ac_rfl
    show sum ^^^ sum' = (sum ^^^ value) ^^^ (sum' ^^^ value)
    rw [hcancel, BitVec.xor_self, BitVec.xor_zero]

theorem foldl_putBack_xor (taps : List (Residue × Nat)) (r r' sum sum' : Residue) :
    taps.foldl (putBack (r ^^^ r')) (sum ^^^ sum') =
      taps.foldl (putBack r) sum ^^^ taps.foldl (putBack r') sum' := by
  induction taps generalizing sum sum' with
  | nil => rfl
  | cons tap taps ih => rw [List.foldl_cons, putBack_xor, ih, List.foldl_cons, List.foldl_cons]

theorem absorb_xor (r r' : Residue) (s s' : Symbol) :
    absorb (r ^^^ r') (s ^^^ s') = absorb r s ^^^ absorb r' s' := by
  have hshifted : (r ^^^ r') <<< 5 ^^^ (s ^^^ s').setWidth 30 =
      (r <<< 5 ^^^ s.setWidth 30) ^^^ (r' <<< 5 ^^^ s'.setWidth 30) := by
    rw [BitVec.shiftLeft_xor_distrib, BitVec.setWidth_xor]
    ac_rfl
  rw [absorb_eq, hshifted, foldl_putBack_xor, absorb_eq, absorb_eq]

theorem absorbAll_xor (r r' : Residue) (pairs : List (Symbol × Symbol)) :
    absorbAll (r ^^^ r') (pairs.map fun p ↦ p.1 ^^^ p.2) =
      absorbAll r (pairs.map Prod.fst) ^^^ absorbAll r' (pairs.map Prod.snd) := by
  induction pairs generalizing r r' with
  | nil => rfl
  | cons p pairs ih =>
    show absorbAll (absorb (r ^^^ r') (p.1 ^^^ p.2)) _ =
      absorbAll (absorb r p.1) _ ^^^ absorbAll (absorb r' p.2) _
    rw [absorb_xor, ih]

/-- The residue behind symbols is that behind zeros in their place and, apart from it, that of the
symbols alone. -/
theorem absorbAll_eq_xor (r : Residue) (symbols : List Symbol) :
    absorbAll r symbols =
      absorbAll r (List.replicate symbols.length 0) ^^^ absorbAll 0 symbols := by
  have h := absorbAll_xor r 0 (symbols.map fun s ↦ (0, s))
  simpa [Function.comp_def, List.map_const'] using h

/-! ### Symbols cut from a residue -/

theorem foldl_putBack_of_clear {taps : List (Residue × Nat)} {r : Residue}
    (h : ∀ tap ∈ taps, r.getLsbD tap.2 = false) (sum : Residue) :
    taps.foldl (putBack r) sum = sum := by
  induction taps with
  | nil => rfl
  | cons tap taps ih =>
    have htap : putBack r sum tap = sum := if_neg (by simp [h tap List.mem_cons_self])
    rw [List.foldl_cons, htap]
    exact ih fun tap' htap' ↦ h tap' (List.mem_cons_of_mem tap htap')

/-- Nothing leaves a residue whose upper five bits are clear. -/
theorem absorb_of_clear {r : Residue} (h : ∀ bit, 25 ≤ bit → r.getLsbD bit = false) (s : Symbol) :
    absorb r s = r <<< 5 ^^^ s.setWidth 30 :=
  foldl_putBack_of_clear (fun _ htap ↦ h _ (List.le_snd_of_mem_zipIdx htap)) _

/-- The five bits of a residue below a cut are put back below it. -/
theorem absorb_cut (r : Residue) (i : Nat) :
    absorb (r >>> (5 * (i + 1))) ((r >>> (5 * i)).setWidth 5) = r >>> (5 * i) := by
  have hclear : ∀ bit, 25 ≤ bit → (r >>> (5 * (i + 1))).getLsbD bit = false := by
    intro bit hbit
    rw [BitVec.getLsbD_ushiftRight]
    exact BitVec.getLsbD_of_ge _ _ (by omega)
  rw [absorb_of_clear hclear]
  refine BitVec.eq_of_getLsbD_eq fun j hj ↦ ?_
  rw [BitVec.getLsbD_xor, BitVec.getLsbD_shiftLeft, BitVec.getLsbD_setWidth,
    BitVec.getLsbD_setWidth, BitVec.getLsbD_ushiftRight, BitVec.getLsbD_ushiftRight]
  by_cases hlow : j < 5
  · simp [hlow, hj]
  · have hplace : 5 * (i + 1) + (j - 5) = 5 * i + j := by omega
    simp [hlow, hj, hplace]

/-- The six symbols of a residue, the uppermost first. -/
def cut (r : Residue) : List Symbol :=
  [5, 4, 3, 2, 1, 0].map fun i ↦ (r >>> (5 * i)).setWidth 5

@[simp] theorem length_cut (r : Residue) : (cut r).length = 6 := rfl

/-- The symbols of a residue make it up again. -/
theorem absorbAll_cut (r : Residue) : absorbAll 0 (cut r) = r := by
  have hempty : (0 : Residue) = r >>> (5 * (5 + 1)) :=
    (BitVec.ushiftRight_eq_zero (by decide)).symm
  simp only [cut, absorbAll, List.map_cons, List.map_nil, List.foldl_cons, List.foldl_nil]
  rw [hempty, absorb_cut, absorb_cut r 4, absorb_cut r 3, absorb_cut r 2, absorb_cut r 1,
    absorb_cut r 0]
  exact BitVec.ushiftRight_zero r

/-! ### Symbols read into an empty residue -/

/-- A symbol that is read without feedback stands below what was there. -/
theorem getLsbD_absorb_of_clear {r : Residue} (h : ∀ bit, 25 ≤ bit → r.getLsbD bit = false)
    (s : Symbol) (i : Nat) :
    (absorb r s).getLsbD i = if i < 5 then s.getLsbD i else r.getLsbD (i - 5) := by
  rw [absorb_of_clear h, BitVec.getLsbD_xor, BitVec.getLsbD_shiftLeft, BitVec.getLsbD_setWidth]
  by_cases hlow : i < 5
  · simp [hlow, Nat.lt_trans hlow (by decide : 5 < 30)]
  · by_cases hhigh : i < 30
    · simp [hlow, hhigh, BitVec.getLsbD_of_ge s i (Nat.le_of_not_lt hlow)]
    · simp [hlow, hhigh, h (i - 5) (by omega)]

theorem absorb_inj_of_clear {r r' : Residue} {s s' : Symbol}
    (h : ∀ bit, 25 ≤ bit → r.getLsbD bit = false) (h' : ∀ bit, 25 ≤ bit → r'.getLsbD bit = false)
    (heq : absorb r s = absorb r' s') : r = r' ∧ s = s' := by
  have hbit (i : Nat) : (if i < 5 then s.getLsbD i else r.getLsbD (i - 5)) =
      if i < 5 then s'.getLsbD i else r'.getLsbD (i - 5) := by
    rw [← getLsbD_absorb_of_clear h, ← getLsbD_absorb_of_clear h', heq]
  constructor
  · refine BitVec.eq_of_getLsbD_eq fun i _ ↦ ?_
    simpa [Nat.not_lt.2 (Nat.le_add_left 5 i)] using hbit (i + 5)
  · refine BitVec.eq_of_getLsbD_eq fun i hi ↦ ?_
    simpa [hi] using hbit i

theorem absorbAll_concat (r : Residue) (symbols : List Symbol) (s : Symbol) :
    absorbAll r (symbols ++ [s]) = absorb (absorbAll r symbols) s :=
  List.foldl_append

/-- Symbols take five bits each, so up to five of them leave the upper five clear. -/
theorem getLsbD_absorbAll_zero {symbols : List Symbol} (h : symbols.length ≤ 5) :
    ∀ bit, 5 * symbols.length ≤ bit → (absorbAll 0 symbols).getLsbD bit = false := by
  induction symbols using List.reverseRecOn with
  | nil => exact fun bit _ ↦ BitVec.getLsbD_zero
  | append_singleton symbols s ih =>
    rw [List.length_append, List.length_singleton] at h ⊢
    have hclear := ih (by omega)
    intro bit hbit
    rw [absorbAll_concat, getLsbD_absorb_of_clear fun i hi ↦ hclear i (by omega),
      if_neg (by omega)]
    exact hclear (bit - 5) (by omega)

/-- Up to six symbols are decided by the residue they make up. -/
theorem absorbAll_zero_inj {symbols symbols' : List Symbol}
    (hlength : symbols.length = symbols'.length) (h : symbols.length ≤ 6)
    (heq : absorbAll 0 symbols = absorbAll 0 symbols') : symbols = symbols' := by
  induction symbols using List.reverseRecOn generalizing symbols' with
  | nil => exact (List.length_eq_zero_iff.1 hlength.symm).symm
  | append_singleton symbols s ih =>
    rcases List.eq_nil_or_concat symbols' with rfl | ⟨symbols', s', rfl⟩
    · simp at hlength
    · rw [List.concat_eq_append] at hlength heq ⊢
      rw [List.length_append, List.length_singleton] at h hlength
      rw [List.length_append, List.length_singleton, Nat.add_right_cancel_iff] at hlength
      rw [absorbAll_concat, absorbAll_concat] at heq
      obtain ⟨hr, rfl⟩ := absorb_inj_of_clear
        (fun bit hbit ↦ getLsbD_absorbAll_zero (by omega) bit (by omega))
        (fun bit hbit ↦ getLsbD_absorbAll_zero (by omega) bit (by omega)) heq
      rw [ih hlength (by omega) hr]

/-! ### Check symbols -/

theorem residueOf_append (humanPart : List Char) (data more : List Symbol) :
    residueOf humanPart (data ++ more) = absorbAll (residueOf humanPart data) more := by
  rw [residueOf, residueOf, ← List.append_assoc, absorbAll, List.foldl_append]
  rfl

/-- Behind its check symbols every text has the residue of the first generation. -/
theorem residueOf_append_checkSymbols (humanPart : List Char) (data : List Symbol) :
    residueOf humanPart (data ++ checkSymbols humanPart data) = writtenConstant := by
  have hcheck : checkSymbols humanPart data =
      cut (absorbAll (residueOf humanPart data) (List.replicate 6 0) ^^^ writtenConstant) := by
    rw [← residueOf_append]
    rfl
  rw [residueOf_append, hcheck, absorbAll_eq_xor, absorbAll_cut, length_cut, ← BitVec.xor_assoc,
    BitVec.xor_self, BitVec.zero_xor]

/-- **No other symbols do.** Six symbols that leave the constant of the first generation are the
check symbols. -/
theorem eq_checkSymbols_of_residueOf {humanPart : List Char} {data check : List Symbol}
    (hlength : check.length = 6)
    (h : residueOf humanPart (data ++ check) = writtenConstant) :
    check = checkSymbols humanPart data := by
  have hcheck : (checkSymbols humanPart data).length = check.length := hlength.symm
  have hboth : absorbAll (residueOf humanPart data) check =
      absorbAll (residueOf humanPart data) (checkSymbols humanPart data) := by
    rw [← residueOf_append, ← residueOf_append, h, residueOf_append_checkSymbols]
  rw [absorbAll_eq_xor, absorbAll_eq_xor _ (checkSymbols humanPart data), hcheck] at hboth
  exact absorbAll_zero_inj hcheck.symm (Nat.le_of_eq hlength) ((BitVec.xor_right_inj _).1 hboth)

/-- **What is written is intact.** -/
theorem isIntact_append_checkSymbols (humanPart : List Char) (data : List Symbol) :
    isIntact humanPart (data ++ checkSymbols humanPart data) = true := by
  simp [isIntact, residueOf_append_checkSymbols]

end ChainRecord.Address
