import Mathlib.Tactic.Common

/-!
# Outcomes of readers that may fail

Readers are built from binds, so what is known of a run is put together from what is known of its
steps: where it succeeds (`bind_eq_ok_iff`), what it succeeds with (`Yields`), where it fails
(`Fails`), and how it compares with another run.

Two runs are compared by one relation: they fail together, with related errors, or they succeed
together, with related results. The relation is carried through binds by `Alike.bind`, and what a
run is made of is compared piece by piece instead of by opening both runs.
-/

namespace ChainRecord

variable {ε ε' α α' β β' : Type}

/-! ### Success and failure -/

/-- A run of two steps succeeds where both steps do. -/
theorem bind_eq_ok_iff {x : Except ε α} {f : α → Except ε β} {b : β} :
    x >>= f = .ok b ↔ ∃ a, x = .ok a ∧ f a = .ok b := by
  cases x with
  | error e => exact iff_of_false (fun h ↦ nomatch h) (by simp)
  | ok a => exact ⟨fun h ↦ ⟨a, rfl, h⟩, fun ⟨_, ha, h⟩ ↦ Except.ok.inj ha ▸ h⟩

/-- The error of a run of two steps is that of the first step that fails. -/
theorem bind_eq_error_iff {x : Except ε α} {f : α → Except ε β} {e : ε} :
    x >>= f = .error e ↔ x = .error e ∨ ∃ a, x = .ok a ∧ f a = .error e := by
  cases x with
  | error e' =>
    have h : (Except.error e' >>= f) = .error e' := rfl
    simp [h]
  | ok a =>
    refine ⟨fun h ↦ Or.inr ⟨a, rfl, h⟩, ?_⟩
    rintro (h | ⟨_, ha, h⟩)
    · exact absurd h (fun h ↦ nomatch h)
    · exact Except.ok.inj ha ▸ h

/-- A last step that only puts the result together has no errors. -/
theorem bind_ok_eq_error_iff {x : Except ε α} {f : α → β} {e : ε} :
    (x >>= fun a ↦ .ok (f a)) = .error e ↔ x = .error e := by
  rw [bind_eq_error_iff]
  exact or_iff_left fun ⟨_, _, h⟩ ↦ nomatch h

theorem mapError_eq_ok_iff {x : Except ε α} {g : ε → ε'} {a : α} :
    x.mapError g = .ok a ↔ x = .ok a := by
  cases x <;> simp [Except.mapError]

theorem mapError_eq_error_iff {x : Except ε α} {g : ε → ε'} {e : ε'} :
    x.mapError g = .error e ↔ ∃ e', x = .error e' ∧ g e' = e := by
  cases x <;> simp [Except.mapError]

theorem map_eq_ok_iff {x : Except ε α} {f : α → β} {b : β} :
    x.map f = .ok b ↔ ∃ a, x = .ok a ∧ f a = b := by
  cases x <;> simp [Except.map]

theorem map_eq_error_iff {x : Except ε α} {f : α → β} {e : ε} :
    x.map f = .error e ↔ x = .error e := by
  cases x <;> simp [Except.map]

theorem toOption_eq_some_iff {x : Except ε α} {a : α} : x.toOption = some a ↔ x = .ok a := by
  cases x <;> simp [Except.toOption]

/-- An outcome is an error, whichever it is. -/
def Fails (x : Except ε α) : Prop :=
  ∃ e, x = .error e

@[simp] theorem not_fails_ok (a : α) : ¬ Fails (.ok a : Except ε α) :=
  fun ⟨_, h⟩ ↦ nomatch h

@[simp] theorem fails_error (e : ε) : Fails (.error e : Except ε α) :=
  ⟨e, rfl⟩

instance : (x : Except ε α) → Decidable (Fails x)
  | .error e => isTrue (fails_error e)
  | .ok a => isFalse (not_fails_ok a)

@[simp] theorem fails_map {x : Except ε α} {f : α → β} : Fails (x.map f) ↔ Fails x := by
  cases x <;> simp [Except.map]

/-- A run of two steps fails at the first step or, behind it, at the second. -/
theorem fails_bind {x : Except ε α} {f : α → Except ε β} :
    Fails (x >>= f) ↔ Fails x ∨ ∃ a, x = .ok a ∧ Fails (f a) := by
  cases x with
  | error e => exact iff_of_true ⟨e, rfl⟩ (Or.inl ⟨e, rfl⟩)
  | ok a =>
    have h : (Except.ok a >>= f) = f a := rfl
    simp [h]

/-- Where the first step has no say in whether the second one fails, either of them may. -/
theorem fails_bind_iff {x : Except ε α} {f : α → Except ε β} {p : Prop}
    (h : ∀ a, Fails (f a) ↔ p) : Fails (x >>= f) ↔ Fails x ∨ p := by
  rw [fails_bind]
  simp only [h]
  cases x <;> simp

theorem not_fails_iff {x : Except ε α} : ¬ Fails x ↔ ∃ a, x = .ok a := by
  cases x with
  | error e => exact iff_of_false (not_not_intro ⟨e, rfl⟩) (fun ⟨_, h⟩ ↦ nomatch h)
  | ok a => exact iff_of_true (not_fails_ok a) ⟨a, rfl⟩

/-- A last step that only puts the result together has no say. -/
@[simp] theorem fails_bind_ok {x : Except ε α} {f : α → β} :
    Fails (x >>= fun a ↦ .ok (f a)) ↔ Fails x := by
  rw [fails_bind_iff fun a ↦ iff_false_intro (not_fails_ok (f a)), or_false]

theorem fails_listMapM_iff {f : α → Except ε β} {items : List α} :
    Fails (items.mapM f) ↔ ∃ a ∈ items, Fails (f a) := by
  induction items with
  | nil => simp [pure, Except.pure]
  | cons a items ih =>
    rw [List.mapM_cons]
    refine (fails_bind_iff fun _ ↦ fails_bind_ok.trans ih).trans ?_
    simp only [List.mem_cons, exists_eq_or_imp]

theorem fails_optionMapM_iff {f : α → Except ε β} {item : Option α} :
    Fails (item.mapM f) ↔ ∃ a ∈ item, Fails (f a) := by
  cases item with
  | none => simp [pure, Except.pure]
  | some a => simp [Functor.map]

/-! ### Results -/

/-- What a run succeeds with, if it does, has a property. -/
def Yields (P : α → Prop) (x : Except ε α) : Prop :=
  ∀ a, x = .ok a → P a

namespace Yields

variable {P : α → Prop} {Q : β → Prop}

theorem ok {a : α} (h : P a) : Yields P (.ok a : Except ε α) :=
  fun _ ha ↦ Except.ok.inj ha ▸ h

/-- A run has the results of its last step, whatever the first one finds. -/
theorem of_bind {x : Except ε α} {f : α → Except ε β} (h : ∀ a, Yields Q (f a)) :
    Yields Q (x >>= f) := fun b hb ↦ by
  obtain ⟨a, -, hf⟩ := bind_eq_ok_iff.1 hb
  exact h a b hf

theorem of_map {x : Except ε α} {f : α → β} (h : ∀ a, Q (f a)) : Yields Q (x.map f) := fun b hb ↦ by
  obtain ⟨a, -, rfl⟩ := map_eq_ok_iff.1 hb
  exact h a

end Yields

/-! ### Related outcomes -/

/-- Two outcomes fail together or succeed together, with related errors and related results. -/
inductive Alike (E : ε → ε' → Prop) (R : α → α' → Prop) : Except ε α → Except ε' α' → Prop
  /-- Both fail. -/
  | error {e : ε} {e' : ε'} : E e e' → Alike E R (.error e) (.error e')
  /-- Both succeed. -/
  | ok {a : α} {a' : α'} : R a a' → Alike E R (.ok a) (.ok a')

namespace Alike

variable {E : ε → ε' → Prop} {R : α → α' → Prop} {S : β → β' → Prop}

/-- Related runs, continued by related runs on related results, are related. -/
theorem bind {x : Except ε α} {x' : Except ε' α'} (h : Alike E R x x') {f : α → Except ε β}
    {f' : α' → Except ε' β'} (hf : ∀ a a', R a a' → Alike E S (f a) (f' a')) :
    Alike E S (x >>= f) (x' >>= f') := by
  cases h with
  | error he => exact .error he
  | ok hr => exact hf _ _ hr

/-- Related runs have related images under functions that keep results related. -/
theorem map {x : Except ε α} {x' : Except ε' α'} (h : Alike E R x x') {f : α → β} {f' : α' → β'}
    (hf : ∀ a a', R a a' → S (f a) (f' a')) : Alike E S (x.map f) (x'.map f') := by
  cases h with
  | error he => exact .error he
  | ok hr => exact .ok (hf _ _ hr)

/-- Related runs stay related when their errors are replaced by related ones. -/
theorem mapError {φ φ' : Type} {F : φ → φ' → Prop} {x : Except ε α} {x' : Except ε' α'}
    (h : Alike E R x x') {g : ε → φ} {g' : ε' → φ'} (hg : ∀ e e', E e e' → F (g e) (g' e')) :
    Alike F R (x.mapError g) (x'.mapError g') := by
  cases h with
  | error he => exact .error (hg _ _ he)
  | ok hr => exact .ok hr

theorem exists_ok {x : Except ε α} {x' : Except ε' α'} (h : Alike E R x x') (hx : ¬ Fails x) :
    ∃ a a', x = .ok a ∧ x' = .ok a' ∧ R a a' := by
  cases h with
  | error _ => exact absurd (fails_error _) hx
  | ok hr => exact ⟨_, _, rfl, rfl, hr⟩

theorem exists_error {x : Except ε α} {x' : Except ε' α'} (h : Alike E R x x') (hx : Fails x) :
    ∃ e e', x = .error e ∧ x' = .error e' ∧ E e e' := by
  cases h with
  | error he => exact ⟨_, _, rfl, rfl, he⟩
  | ok _ => exact absurd hx (not_fails_ok _)

/-- A run is related to itself if the relations relate everything to itself. -/
theorem refl {E : ε → ε → Prop} {R : α → α → Prop} (hE : ∀ e, E e e) (hR : ∀ a, R a a)
    (x : Except ε α) : Alike E R x x := by
  cases x with
  | error e => exact .error (hE e)
  | ok a => exact .ok (hR a)

/-- One run, continued in two related ways. Its errors are its own. -/
theorem bind_same (x : Except ε α) {f : α → Except ε β} {f' : α → Except ε β'}
    {S : β → β' → Prop} (hf : ∀ a, Alike Eq S (f a) (f' a)) :
    Alike Eq S (x >>= f) (x >>= f') :=
  (Alike.refl (E := Eq) (R := Eq) (fun _ ↦ rfl) (fun _ ↦ rfl) x).bind fun a _ h ↦ h ▸ hf a

end Alike

end ChainRecord
