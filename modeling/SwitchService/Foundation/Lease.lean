import Mathlib.Order.Lattice
import Mathlib.Data.Option.Basic
import Mathlib.Tactic.Common

set_option autoImplicit false

/-!
# Foundation: leases

A lease is asked for at a time and lasts until a deadline or until it is given back; it is
granted where nobody has it.  What a history grants follows from the asks alone: `deadline`
reads it off, and `grants_apart` says that two grants never overlap.
-/

namespace SwitchService.Foundation.Lease

variable {T : Type} [LinearOrder T]

/-- What happens to a lease. -/
inductive Event (T : Type) where
  | ask (time deadline : T)
  | giveBack

/-- Nobody has the lease at a time. -/
def Free (deadline : Option T) (time : T) : Prop := ∀ d ∈ deadline, d ≤ time

instance (deadline : Option T) (time : T) : Decidable (Free deadline time) :=
  inferInstanceAs (Decidable (∀ d ∈ deadline, d ≤ time))

/-- Until when the lease is had after a history, newest first. -/
def deadline (initial : Option T) : List (Event T) → Option T
  | [] => initial
  | .ask time until_ :: older =>
      if Free (deadline initial older) time then some until_ else deadline initial older
  | .giveBack :: _ => none

/-- No lease is asked for that would be over at once. -/
def Lasting (history : List (Event T)) : Prop :=
  ∀ time until_, Event.ask time until_ ∈ history → time ≤ until_

variable {initial : Option T} {older newer : List (Event T)} {time until_ d : T}

theorem deadline_granted (h : Free (deadline initial older) time) :
    deadline initial (.ask time until_ :: older) = some until_ := by
  rw [deadline, if_pos h]

theorem deadline_denied (h : ¬ Free (deadline initial older) time) :
    deadline initial (.ask time until_ :: older) = deadline initial older := by
  rw [deadline, if_neg h]

/-- A lease that is not given back is had at least as long as before. -/
theorem le_deadline_of_kept (hkept : Event.giveBack ∉ newer) (hlasting : Lasting newer)
    (h : deadline initial older = some d) :
    ∃ d', deadline initial (newer ++ older) = some d' ∧ d ≤ d' := by
  induction newer with
  | nil => exact ⟨d, h, le_rfl⟩
  | cons e newer ih =>
      obtain ⟨d', hd', hle⟩ := ih (fun hmem => hkept (List.mem_cons_of_mem e hmem))
        fun time until_ hmem => hlasting time until_ (List.mem_cons_of_mem e hmem)
      cases e with
      | giveBack => exact absurd List.mem_cons_self hkept
      | ask time until_ =>
          rw [List.cons_append]
          by_cases hfree : Free (deadline initial (newer ++ older)) time
          · refine ⟨until_, deadline_granted hfree, ?_⟩
            exact hle.trans ((hfree d' hd').trans (hlasting _ _ List.mem_cons_self))
          · exact ⟨d', (deadline_denied hfree).trans hd', hle⟩

/-- Between two grants the lease was given back, or its time was over. -/
theorem grants_apart (hkept : Event.giveBack ∉ newer) (hlasting : Lasting newer)
    (hfirst : Free (deadline initial older) time) {later : T}
    (hsecond : Free (deadline initial (newer ++ .ask time until_ :: older)) later) :
    until_ ≤ later := by
  obtain ⟨d', hd', hle⟩ := le_deadline_of_kept hkept hlasting (deadline_granted hfirst)
  exact hle.trans (hsecond d' hd')

end SwitchService.Foundation.Lease
