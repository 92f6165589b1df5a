import Mathlib.Logic.Basic

set_option autoImplicit false

/-!
# Foundation: runs of a deterministic system

A run is a state and the list of the actions taken from it.  `Always` says that
every step of a run has a property, which sees the state that the step is taken
in; to speak about the past, the state carries a record of it.
-/

namespace SwitchService.Foundation

variable {σ α : Type}

/-- The state after a run. -/
def runFrom (next : σ → α → σ) (s : σ) (actions : List α) : σ := actions.foldl next s

theorem runFrom_append (next : σ → α → σ) (s : σ) (actions more : List α) :
    runFrom next s (actions ++ more) = runFrom next (runFrom next s actions) more :=
  List.foldl_append

/-- Every step of the run satisfies `P`. -/
def Always (next : σ → α → σ) (P : σ → α → Prop) : σ → List α → Prop
  | _, [] => True
  | s, a :: actions => P s a ∧ Always next P (next s a) actions

instance (next : σ → α → σ) (P : σ → α → Prop) [hP : ∀ s a, Decidable (P s a)] :
    (s : σ) → (actions : List α) → Decidable (Always next P s actions)
  | _, [] => inferInstanceAs (Decidable True)
  | s, a :: actions =>
      have : Decidable (Always next P (next s a) actions) :=
        instDecidableAlways next P (next s a) actions
      inferInstanceAs (Decidable (_ ∧ _))

variable {next : σ → α → σ} {I : σ → Prop} {guard good : σ → α → Prop} {s : σ}
  {actions : List α}

/-- An invariant that every guarded step keeps holds after every run of such steps. -/
theorem runFrom_of_guarded (hstep : ∀ s a, I s → guard s a → I (next s a)) (h : I s)
    (hguard : Always next guard s actions) : I (runFrom next s actions) := by
  induction actions generalizing s with
  | nil => exact h
  | cons a actions ih => exact ih (hstep s a h hguard.1) hguard.2

/-- An invariant that every step keeps holds after every run. -/
theorem runFrom_invariant (actions : List α) (hstep : ∀ s a, I s → I (next s a)) (h : I s) :
    I (runFrom next s actions) := by
  induction actions generalizing s with
  | nil => exact h
  | cons a actions ih => exact ih (hstep s a h)

/-- The rule for guarded runs: where an invariant makes every guarded step good and is
kept by it, a run of guarded steps is a run of good ones. -/
theorem Always.of_invariant (hstep : ∀ s a, I s → guard s a → good s a ∧ I (next s a))
    (h : I s) (hguard : Always next guard s actions) : Always next good s actions := by
  induction actions generalizing s with
  | nil => trivial
  | cons a actions ih =>
      obtain ⟨hgood, hnext⟩ := hstep s a h hguard.1
      exact ⟨hgood, ih hnext hguard.2⟩

end SwitchService.Foundation
