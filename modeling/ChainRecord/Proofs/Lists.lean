import Mathlib.Data.List.Forall2

/-!
# Lists

Laws of lists that say nothing of chains: of the removal of duplicates, of the last result of a
function that has none for some items, and of results that are made of values by a function.
-/

namespace List

variable {α β γ : Type*}

/-- Without its duplicates a list has none. -/
theorem nodup_eraseDups [BEq α] [LawfulBEq α] (items : List α) : items.eraseDups.Nodup := by
  match items with
  | [] => exact nodup_nil
  | a :: items =>
    rw [eraseDups_cons]
    refine nodup_cons.2 ⟨?_, nodup_eraseDups _⟩
    simp [mem_eraseDups]
termination_by items.length
decreasing_by exact Nat.lt_succ_of_le (length_filter_le _ _)

/-- A last one behind others is the last one of all. -/
theorem getLast?_filterMap_cons (f : α → Option β) (a : α) (items : List α) :
    ((a :: items).filterMap f).getLast? = ((items.filterMap f).getLast? <|> f a) := by
  rw [filterMap_cons]
  cases hfirst : f a with
  | none => simp
  | some b =>
    cases h : (items.filterMap f).getLast? <;> simp [getLast?_cons, h]

/-- Where results are made of values by a function, there is one list of values to make them of. -/
theorem forall₂_exists_map_iff {R : α → γ → Prop} {f : γ → β} {items : List α} {results : List β} :
    Forall₂ (fun a b ↦ ∃ c, R a c ∧ f c = b) items results ↔
      ∃ values, Forall₂ R items values ∧ values.map f = results := by
  constructor
  · intro h
    induction h with
    | nil => exact ⟨[], .nil, rfl⟩
    | cons hfirst _ ih =>
      obtain ⟨c, hc, rfl⟩ := hfirst
      obtain ⟨values, hvalues, rfl⟩ := ih
      exact ⟨c :: values, .cons hc hvalues, rfl⟩
  · rintro ⟨values, hvalues, rfl⟩
    exact forall₂_map_right_iff.2 (hvalues.imp fun a c hc ↦ ⟨c, hc, rfl⟩)

end List
