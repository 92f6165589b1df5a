import SwitchService.Domain.Types
import Mathlib.Data.Stream.Init

set_option autoImplicit false

/-!
# Domain: the choice among the ranked candidates (`domain/selection.ts`)

The random source is a port.  Here it is the stream of the draws that the source
would make, and `selectChannel` hands back the draws it did not use.
-/

namespace SwitchService.Domain

open SwitchService.Foundation

/-- The stream of random draws. -/
abbrev Rng : Type := Stream' ℚ

/-- The chosen channel and how it was chosen. -/
structure Selection where
  channelId : String
  strategy : RouteStrategy
  deriving DecidableEq

/-- The domain's `NoEligibleChannelError`: every channel with its reason. -/
structure NoEligible where
  reasons : List (String × String)
  deriving DecidableEq

/-- Chooses one channel from the ranked candidates. -/
def selectChannel (candidates : List Candidate) (config : RoutingConfig) (rng : Rng) :
    Except NoEligible Selection × Rng :=
  match candidates.filter (·.eligible) with
  | [] =>
      (.error { reasons := candidates.map fun c =>
        (c.channelId, c.ineligibleReason.getD "unknown") }, rng)
  | [best] => (.ok { channelId := best.channelId, strategy := .onlyCandidate }, rng)
  | best :: others =>
      if Number.lt (.fin rng.head) config.explorationRate then
        let pick := min ((others.length : ℤ) - 1) ⌊rng.tail.head * others.length⌋
        -- `pick` is in range, so the default is never used.
        let chosen := (others[(max 0 pick).toNat]?).getD best
        (.ok { channelId := chosen.channelId, strategy := .explore }, rng.tail.tail)
      else (.ok { channelId := best.channelId, strategy := .best }, rng.tail)

/-- The choice is always an eligible candidate. -/
theorem selectChannel_eligible {candidates : List Candidate} {config : RoutingConfig}
    {rng rng' : Rng} {selection : Selection}
    (h : selectChannel candidates config rng = (.ok selection, rng')) :
    ∃ c ∈ candidates, c.eligible = true ∧ c.channelId = selection.channelId := by
  have hmem : ∀ c ∈ candidates.filter (·.eligible), c ∈ candidates ∧ c.eligible = true :=
    fun c hc => by simpa using hc
  unfold selectChannel at h
  split at h
  · simp at h
  · rename_i best hfilter
    simp only [Prod.mk.injEq, Except.ok.injEq] at h
    obtain ⟨hin, hel⟩ := hmem best (by simp [hfilter])
    exact ⟨best, hin, hel, by rw [← h.1]⟩
  · rename_i best others _ hfilter
    split at h
    · simp only [Prod.mk.injEq, Except.ok.injEq] at h
      set pick := (max 0 (min ((others.length : ℤ) - 1)
        ⌊rng.tail.head * others.length⌋)).toNat with hpick
      have hchosen : (others[pick]?).getD best ∈ best :: others := by
        cases hget : others[pick]? with
        | none => simp
        | some c => exact List.mem_cons_of_mem best (List.mem_of_getElem? hget)
      obtain ⟨hin, hel⟩ := hmem _ (by rw [hfilter]; exact hchosen)
      exact ⟨_, hin, hel, by rw [← h.1]⟩
    · simp only [Prod.mk.injEq, Except.ok.injEq] at h
      obtain ⟨hin, hel⟩ := hmem best (by simp [hfilter])
      exact ⟨best, hin, hel, by rw [← h.1]⟩

/-- The choice is never a degraded one. -/
theorem selectChannel_strategy {candidates : List Candidate} {config : RoutingConfig}
    {rng rng' : Rng} {selection : Selection}
    (h : selectChannel candidates config rng = (.ok selection, rng')) :
    selection.strategy ≠ .degraded := by
  unfold selectChannel at h
  split at h
  · simp at h
  · simp only [Prod.mk.injEq, Except.ok.injEq] at h
    rw [← h.1]
    simp
  · split at h
    · simp only [Prod.mk.injEq, Except.ok.injEq] at h
      rw [← h.1]
      simp
    · simp only [Prod.mk.injEq, Except.ok.injEq] at h
      rw [← h.1]
      simp

end SwitchService.Domain
