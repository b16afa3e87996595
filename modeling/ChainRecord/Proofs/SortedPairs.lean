import ChainRecord.SortedPairs
import Mathlib.Data.List.Induction
import Mathlib.Data.List.Nodup
import Mathlib.Data.List.Perm.Basic
import Mathlib.Data.String.Basic

/-!
# Pairs in order are a finite map

The pairs that were put in order have strictly increasing keys (`isSorted_ofList`). A pair replaces
the one with its key, so in general the last value of a key stays; where the values are decided by
the keys, nothing is lost, and two lists with the same pairs, in whatever order and however often,
are put in order alike (`ofList_eq_of_mem_iff`).
-/

namespace ChainRecord.SortedPairs

variable {α : Type} {key : String} {value : α} {pairs pairs' : List (String × α)}

/-- The keys are strictly increasing. -/
def IsSorted (pairs : List (String × α)) : Prop :=
  pairs.Pairwise fun p q ↦ p.1 < q.1

/-! ### One pair -/

/-- A pair that is inserted replaces the one with its key. -/
theorem mem_insert_iff (h : IsSorted pairs) {p : String × α} :
    p ∈ insert key value pairs ↔ p = (key, value) ∨ (p ∈ pairs ∧ p.1 ≠ key) := by
  induction pairs with
  | nil => simp [insert]
  | cons q rest ih =>
    obtain ⟨k, v⟩ := q
    obtain ⟨hk, hrest⟩ := List.pairwise_cons.1 h
    rw [insert]
    split
    · -- the key is smaller than all keys that are there
      rename_i hlt
      have hne : ∀ q ∈ (k, v) :: rest, q.1 ≠ key := by
        refine List.forall_mem_cons.2 ⟨hlt.ne', fun q hq ↦ ?_⟩
        exact (hlt.trans (hk q hq)).ne'
      rw [List.mem_cons]
      refine or_congr_right ⟨fun hp ↦ ⟨hp, hne p hp⟩, And.left⟩
    · split
      · rename_i heq
        subst heq
        have hne : ∀ q ∈ rest, q.1 ≠ key := fun q hq ↦ (hk q hq).ne'
        rw [List.mem_cons, List.mem_cons]
        constructor
        · rintro (hp | hp)
          · exact Or.inl hp
          · exact Or.inr ⟨Or.inr hp, hne p hp⟩
        · rintro (hp | ⟨rfl | hp, hkey⟩)
          · exact Or.inl hp
          · exact absurd rfl hkey
          · exact Or.inr hp
      · rename_i hne
        rw [List.mem_cons, ih hrest, List.mem_cons]
        constructor
        · rintro (rfl | hp | ⟨hp, hkey⟩)
          · exact Or.inr ⟨Or.inl rfl, Ne.symm hne⟩
          · exact Or.inl hp
          · exact Or.inr ⟨Or.inr hp, hkey⟩
        · rintro (hp | ⟨hp | hp, hkey⟩)
          · exact Or.inr (Or.inl hp)
          · exact Or.inl hp
          · exact Or.inr (Or.inr ⟨hp, hkey⟩)

theorem IsSorted.insert (h : IsSorted pairs) (key : String) (value : α) :
    IsSorted (insert key value pairs) := by
  induction pairs with
  | nil => exact List.pairwise_singleton _ _
  | cons q rest ih =>
    obtain ⟨k, v⟩ := q
    obtain ⟨hk, hrest⟩ := List.pairwise_cons.1 h
    rw [SortedPairs.insert]
    split
    · rename_i hlt
      refine List.pairwise_cons.2 ⟨?_, h⟩
      exact List.forall_mem_cons.2 ⟨hlt, fun q hq ↦ hlt.trans (hk q hq)⟩
    · split
      · rename_i heq
        subst heq
        exact List.pairwise_cons.2 ⟨hk, hrest⟩
      · rename_i hle hne
        have hlt : k < key := lt_of_le_of_ne (not_lt.1 hle) (Ne.symm hne)
        refine List.pairwise_cons.2 ⟨fun q hq ↦ ?_, ih hrest⟩
        rcases (mem_insert_iff hrest).1 hq with rfl | ⟨hmem, -⟩
        · exact hlt
        · exact hk q hmem

/-! ### Lists of pairs -/

/-- A list is put in order pair by pair. -/
theorem ofList_append_singleton (pairs : List (String × α)) (p : String × α) :
    ofList (pairs ++ [p]) = insert p.1 p.2 (ofList pairs) := by
  simp [ofList]

theorem isSorted_ofList (pairs : List (String × α)) : IsSorted (ofList pairs) := by
  induction pairs using List.reverseRecOn with
  | nil => exact List.Pairwise.nil
  | append_singleton pairs p ih =>
    rw [ofList_append_singleton]
    exact ih.insert p.1 p.2

/-- The value of every pair is decided by its key. -/
def IsFunctional (pairs : List (String × α)) : Prop :=
  ∃ f : String → α, ∀ p ∈ pairs, p.2 = f p.1

/-- Where the keys decide on the values, no pair is lost. -/
theorem mem_ofList_iff (h : IsFunctional pairs) {p : String × α} :
    p ∈ ofList pairs ↔ p ∈ pairs := by
  obtain ⟨f, hf⟩ := h
  induction pairs using List.reverseRecOn generalizing p with
  | nil => exact Iff.rfl
  | append_singleton pairs q ih =>
    have hpairs : ∀ r ∈ pairs, r.2 = f r.1 := fun r hr ↦ hf r (List.mem_append_left _ hr)
    have hq : q.2 = f q.1 := hf q (by simp)
    rw [ofList_append_singleton, mem_insert_iff (isSorted_ofList pairs), ih hpairs,
      List.mem_append, List.mem_singleton]
    constructor
    · rintro (hp | ⟨hp, -⟩)
      · exact Or.inr hp
      · exact Or.inl hp
    · rintro (hp | hp)
      · by_cases hkey : p.1 = q.1
        · exact Or.inl (Prod.ext hkey (by rw [hpairs p hp, hq, hkey]))
        · exact Or.inr ⟨hp, hkey⟩
      · exact Or.inl hp

theorem IsSorted.nodup (h : IsSorted pairs) : pairs.Nodup := by
  refine List.Pairwise.imp ?_ h
  rintro p q hlt rfl
  exact lt_irrefl _ hlt

/-- Pairs in order are decided by which pairs they are. -/
theorem IsSorted.eq_of_mem_iff (h : IsSorted pairs) (h' : IsSorted pairs')
    (hmem : ∀ p, p ∈ pairs ↔ p ∈ pairs') : pairs = pairs' := by
  have hperm : pairs.Perm pairs' := (List.perm_ext_iff_of_nodup h.nodup h'.nodup).2 hmem
  exact hperm.eq_of_pairwise (fun _ _ _ _ hlt hgt ↦ absurd hgt (lt_asymm hlt)) h h'

/-- **Neither order nor repetition counts.** -/
theorem ofList_eq_of_mem_iff (h : IsFunctional pairs) (hmem : ∀ p, p ∈ pairs ↔ p ∈ pairs') :
    ofList pairs = ofList pairs' := by
  obtain ⟨f, hf⟩ := h
  have h' : IsFunctional pairs' := ⟨f, fun p hp ↦ hf p ((hmem p).2 hp)⟩
  refine (isSorted_ofList pairs).eq_of_mem_iff (isSorted_ofList pairs') fun p ↦ ?_
  rw [mem_ofList_iff ⟨f, hf⟩, mem_ofList_iff h', hmem]

end ChainRecord.SortedPairs
