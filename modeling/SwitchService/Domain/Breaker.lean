import SwitchService.Domain.Types

set_option autoImplicit false

/-!
# Domain: the circuit breaker (`domain/breaker.ts`)

    CLOSED     --failure rate at or above the threshold, with enough samples-->  OPEN
    OPEN       --after openMs-->                                                 HALF_OPEN
    HALF_OPEN  --enough good probes-->                                           CLOSED
    HALF_OPEN  --one failed probe-->                                             OPEN

`evaluateBreaker` takes the first two moves and `recordProbe` the last two.
Every later fact about the breaker goes through the inversion lemmas below,
which say in one place what each of the two functions can do.
-/

namespace SwitchService.Domain

open SwitchService.Foundation

/-- The success rate that the breaker compares with its threshold. -/
def breakerSuccessRate (stats : ChannelStats) : ℚ :=
  let samples := stats.success + stats.failure
  if samples = 0 then 1 else stats.success / samples

/-- Moves the breaker with the window numbers. -/
def evaluateBreaker (current : BreakerSnapshot) (stats : ChannelStats)
    (config : RoutingConfig) (now : ℚ) : BreakerSnapshot :=
  let samples := stats.success + stats.failure
  match current.state with
  | .closed =>
      if samples < config.minSamples then current
      else if Number.lt (.fin (breakerSuccessRate stats))
          config.breaker.failureRateThreshold then
        { state := .opened, openedAt := now, probeSuccess := 0 }
      else current
  | .opened =>
      if now - current.openedAt ≥ config.breaker.openMs then
        { state := .halfOpen, openedAt := current.openedAt, probeSuccess := 0 }
      else current
  | .halfOpen => current

/-- Applies the result of one probe. -/
def recordProbe (current : BreakerSnapshot) (success : Bool) (config : RoutingConfig)
    (now : ℚ) : BreakerSnapshot :=
  if current.state ≠ .halfOpen then current
  else if success = false then { state := .opened, openedAt := now, probeSuccess := 0 }
  else if current.probeSuccess + 1 ≥ config.breaker.probesToClose then closedBreaker
  else { state := .halfOpen, openedAt := current.openedAt,
         probeSuccess := current.probeSuccess + 1 }

/-- The window numbers under which a closed breaker opens. -/
def Trips (stats : ChannelStats) (config : RoutingConfig) : Prop :=
  config.minSamples ≤ stats.success + stats.failure ∧
    Number.lt (.fin (breakerSuccessRate stats)) config.breaker.failureRateThreshold = true

instance (stats : ChannelStats) (config : RoutingConfig) : Decidable (Trips stats config) :=
  inferInstanceAs (Decidable (_ ∧ _))

variable {current : BreakerSnapshot} {stats : ChannelStats} {config : RoutingConfig} {now : ℚ}

/-! ## What `evaluateBreaker` can do -/

theorem evaluateBreaker_closed (h : current.state = .closed) :
    evaluateBreaker current stats config now =
      if Trips stats config then { state := .opened, openedAt := now, probeSuccess := 0 }
      else current := by
  unfold evaluateBreaker Trips
  simp only [h]
  by_cases hmin : stats.success + stats.failure < config.minSamples
  · simp [hmin, not_le.mpr hmin]
  · simp [hmin, not_lt.mp hmin]

theorem evaluateBreaker_opened (h : current.state = .opened) :
    evaluateBreaker current stats config now =
      if config.breaker.openMs ≤ now - current.openedAt then
        { state := .halfOpen, openedAt := current.openedAt, probeSuccess := 0 }
      else current := by
  unfold evaluateBreaker
  simp only [h, ge_iff_le]

theorem evaluateBreaker_halfOpen (h : current.state = .halfOpen) :
    evaluateBreaker current stats config now = current := by
  unfold evaluateBreaker
  simp only [h]

/-- `evaluateBreaker` leaves the breaker, opens a closed one on a bad window, or
half-opens an open one after its time. -/
theorem evaluateBreaker_cases (current : BreakerSnapshot) (stats : ChannelStats)
    (config : RoutingConfig) (now : ℚ) :
    evaluateBreaker current stats config now = current ∨
    (current.state = .closed ∧ Trips stats config ∧
      evaluateBreaker current stats config now =
        { state := .opened, openedAt := now, probeSuccess := 0 }) ∨
    (current.state = .opened ∧ config.breaker.openMs ≤ now - current.openedAt ∧
      evaluateBreaker current stats config now =
        { state := .halfOpen, openedAt := current.openedAt, probeSuccess := 0 }) := by
  cases h : current.state with
  | closed =>
      by_cases ht : Trips stats config
      · exact .inr (.inl ⟨rfl, ht, by rw [evaluateBreaker_closed h, if_pos ht]⟩)
      · exact .inl (by rw [evaluateBreaker_closed h, if_neg ht])
  | opened =>
      by_cases ht : config.breaker.openMs ≤ now - current.openedAt
      · exact .inr (.inr ⟨rfl, ht, by rw [evaluateBreaker_opened h, if_pos ht]⟩)
      · exact .inl (by rw [evaluateBreaker_opened h, if_neg ht])
  | halfOpen => exact .inl (evaluateBreaker_halfOpen h)

/-- A move of `evaluateBreaker` always changes the state. -/
theorem evaluateBreaker_eq_iff_state :
    evaluateBreaker current stats config now = current ↔
      (evaluateBreaker current stats config now).state = current.state := by
  constructor
  · intro h
    rw [h]
  · intro h
    rcases evaluateBreaker_cases current stats config now with he | ⟨hs, _, he⟩ | ⟨hs, _, he⟩
    · exact he
    · rw [he, hs] at h
      cases h
    · rw [he, hs] at h
      cases h

/-! ## What `recordProbe` can do -/

theorem recordProbe_of_ne {success : Bool} (h : current.state ≠ .halfOpen) :
    recordProbe current success config now = current := by
  simp [recordProbe, h]

theorem recordProbe_failed (h : current.state = .halfOpen) :
    recordProbe current false config now =
      { state := .opened, openedAt := now, probeSuccess := 0 } := by
  simp [recordProbe, h]

theorem recordProbe_good (h : current.state = .halfOpen) :
    recordProbe current true config now =
      if config.breaker.probesToClose ≤ current.probeSuccess + 1 then closedBreaker
      else { state := .halfOpen, openedAt := current.openedAt,
             probeSuccess := current.probeSuccess + 1 } := by
  simp [recordProbe, h]

/-- A probe result always moves a half-open breaker. -/
theorem recordProbe_ne (success : Bool) (h : current.state = .halfOpen) :
    recordProbe current success config now ≠ current := by
  intro heq
  cases success with
  | false =>
      rw [recordProbe_failed h] at heq
      rw [← heq] at h
      cases h
  | true =>
      rw [recordProbe_good h] at heq
      split at heq
      · rw [← heq] at h
        cases h
      · have := congrArg BreakerSnapshot.probeSuccess heq
        simp only at this
        linarith

end SwitchService.Domain
