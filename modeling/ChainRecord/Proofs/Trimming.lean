import ChainRecord.Text.Blank
import Mathlib.Data.List.DropRight
import Mathlib.Data.List.TakeWhile

/-!
# Trimming

Every text is a text without a blank at either end, with blanks around it, and only one text is in
the middle: the one that is left by trimming (`trimChars_eq_iff`). Blanks within a text stay.
-/

namespace ChainRecord.Text

/-- Nothing but blank characters. -/
def IsBlanks (cs : List Char) : Prop :=
  ∀ c ∈ cs, isBlank c = true

/-- No blank character at either end. -/
structure IsTrimmed (cs : List Char) : Prop where
  front : ∀ c ∈ cs.head?, isBlank c = false
  back : ∀ c ∈ cs.getLast?, isBlank c = false

variable {cs front back : List Char}

theorem trimChars_eq (cs : List Char) :
    trimChars cs = (cs.dropWhile isBlank).rdropWhile isBlank :=
  rfl

theorem dropWhile_isBlank_of_head? (h : ∀ c ∈ cs.head?, isBlank c = false) :
    cs.dropWhile isBlank = cs := by
  cases cs with
  | nil => rfl
  | cons c cs => simp [h c rfl]

/-! ### What is left -/

theorem isTrimmed_trimChars (cs : List Char) : IsTrimmed (trimChars cs) := by
  constructor
  · intro c hc
    -- what is left is a beginning of the text without the blanks in front
    obtain ⟨blanks, hblanks⟩ := List.rdropWhile_prefix isBlank (cs.dropWhile isBlank)
    have hhead : (cs.dropWhile isBlank).head? = some c := by
      rw [← hblanks, List.head?_append, ← trimChars_eq, hc]
      rfl
    have hnot := List.head?_dropWhile_not isBlank cs
    rwa [hhead] at hnot
  · intro c hc
    obtain ⟨hne, rfl⟩ := List.mem_getLast?_eq_getLast hc
    exact Bool.eq_false_iff.2 (List.rdropWhile_last_not isBlank _ hne)

/-- Blanks are all that is removed. -/
theorem exists_eq_append_trimChars (cs : List Char) :
    ∃ front back, IsBlanks front ∧ IsBlanks back ∧ cs = front ++ trimChars cs ++ back := by
  refine ⟨cs.takeWhile isBlank, (cs.dropWhile isBlank).rtakeWhile isBlank,
    fun c hc ↦ List.mem_takeWhile_imp hc, fun c hc ↦ List.mem_rtakeWhile_imp hc, ?_⟩
  rw [trimChars_eq, List.append_assoc, List.rdropWhile_append_rtakeWhile,
    List.takeWhile_append_dropWhile]

/-! ### What is removed -/

theorem IsBlanks.trimChars_append (h : IsBlanks front) (cs : List Char) :
    trimChars (front ++ cs) = trimChars cs := by
  rw [trimChars, List.dropWhile_append_of_pos h, trimChars]

theorem IsTrimmed.trimChars_append (h : IsTrimmed cs) (hback : IsBlanks back) :
    trimChars (cs ++ back) = cs := by
  have hback' : ∀ c ∈ back.reverse, isBlank c = true :=
    fun c hc ↦ hback c (List.mem_reverse.1 hc)
  have hlast : ∀ c ∈ cs.reverse.head?, isBlank c = false := by
    rw [List.head?_reverse]
    exact h.back
  cases cs with
  | nil =>
    have hnil : back.dropWhile isBlank = [] := List.dropWhile_eq_nil_iff.2 hback
    rw [trimChars, List.nil_append, hnil]
    rfl
  | cons c cs =>
    have hfront : ((c :: cs) ++ back).dropWhile isBlank = (c :: cs) ++ back :=
      dropWhile_isBlank_of_head? h.front
    rw [trimChars, hfront, List.reverse_append,
      List.dropWhile_append_of_pos hback', dropWhile_isBlank_of_head? hlast, List.reverse_reverse]

/-- A text is trimmed to the text without blanks at its ends that it has in the middle. -/
theorem trimChars_eq_iff {cs' : List Char} :
    trimChars cs = cs' ↔ IsTrimmed cs' ∧
      ∃ front back, IsBlanks front ∧ IsBlanks back ∧ cs = front ++ cs' ++ back := by
  constructor
  · rintro rfl
    exact ⟨isTrimmed_trimChars cs, exists_eq_append_trimChars cs⟩
  · rintro ⟨htrimmed, front, back, hfront, hback, rfl⟩
    rw [List.append_assoc, hfront.trimChars_append, htrimmed.trimChars_append hback]

theorem isTrimmed_nil : IsTrimmed [] :=
  ⟨by simp, by simp⟩

/-- Nothing is left of blanks alone. -/
theorem trimChars_eq_nil_iff : trimChars cs = [] ↔ IsBlanks cs := by
  constructor
  · intro h
    obtain ⟨front, back, hfront, hback, heq⟩ := exists_eq_append_trimChars cs
    rw [h, List.append_nil] at heq
    exact heq ▸ List.forall_mem_append.2 ⟨hfront, hback⟩
  · intro h
    exact trimChars_eq_iff.2 ⟨isTrimmed_nil, cs, [], h, by simp [IsBlanks], by simp⟩

/-- A text is trimmed once. -/
theorem trimChars_trimChars (cs : List Char) : trimChars (trimChars cs) = trimChars cs :=
  trimChars_eq_iff.2 ⟨isTrimmed_trimChars cs, [], [], by simp [IsBlanks], by simp [IsBlanks],
    by simp⟩

end ChainRecord.Text
