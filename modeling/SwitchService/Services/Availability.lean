import SwitchService.Services.RouteAnswer

set_option autoImplicit false

/-!
# Services: a route call whose store calls fail

The metrics read has a budget and the writes are caught, so their failures never reach
the caller.  The call for the probe slot has no guard: a call that asks for a slot
rejects with whatever `takeProbeSlot` rejects with.
-/

namespace SwitchService.Services

open SwitchService.Foundation SwitchService.Domain SwitchService.Store
open SwitchService.Repositories

/-- The error is a `NoEligibleChannelError`. -/
def IsNoEligible : Failure → Prop
  | .noEligibleChannel _ _ => True
  | _ => False

instance : (failure : Failure) → Decidable (IsNoEligible failure)
  | .noEligibleChannel _ _ => inferInstanceAs (Decidable True)
  | .contract _ => inferInstanceAs (Decidable False)
  | .rejected _ => inferInstanceAs (Decidable False)

/-- A call answers with a decision or with a `NoEligibleChannelError`. -/
def Answers {α : Type} : Except Failure α → Prop
  | .ok _ => True
  | .error failure => IsNoEligible failure

instance {α : Type} : (result : Except Failure α) → Decidable (Answers result)
  | .ok _ => inferInstanceAs (Decidable True)
  | .error failure => inferInstanceAs (Decidable (IsNoEligible failure))

/-- No failure of a store fails the payout, and without the metrics the first enabled
channel is named. -/
structure KeepsPayout (faults : Faults) (w : World) (request : RouteRequest)
    (result : Except Failure RoutingDecision) : Prop where
  answers : Answers result
  degraded : ¬ MetricsAnswered faults ((routeChannels w request).map (·.id)) w.now →
    ∃ channel decision, (routeChannels w request).find? (·.enabled) = some channel ∧
      result = .ok decision ∧ decision.strategy = .degraded ∧
      decision.channelId = channel.id

/-- The channel whose probe slot a call asks for. -/
def askedSlot (config : RoutingConfig) (faults : Faults)
    (localeCompare : String → String → Ordering) (rng : Rng) (request : RouteRequest)
    (w : World) : Option String :=
  if Informed faults w request then
    match (select config (candidatesAt config localeCompare w request) rng).1 with
    | .error _ => none
    | .ok first =>
        if (refreshedAt config w first.channelId).state = .halfOpen then some first.channelId
        else none
  else none

/-! ## Without the metrics -/

theorem find?_degradedCandidates (channels : List Channel) :
    ((degradedCandidates channels).find? (·.eligible)).map (·.channelId) =
      (channels.find? (·.enabled)).map (·.id) := by
  unfold degradedCandidates
  -- The rank is the only thing that the position decides.
  suffices h : ∀ f : ℕ → ℕ, ((channels.mapIdx fun index (channel : Channel) =>
      ({ channelId := channel.id, rank := f index, score := 0, successRate := 0, p95Ms := none,
         costScore := 0, breakerState := .closed, samples := 0, coldStart := true,
         eligible := channel.enabled,
         ineligibleReason := if channel.enabled then none else some "channel-disabled" } :
        Candidate)).find? (·.eligible)).map (·.channelId) =
      (channels.find? (·.enabled)).map (·.id) from h (· + 1)
  induction channels with
  | nil => intro f; rfl
  | cons channel channels ih =>
      intro f
      rw [List.mapIdx_cons, List.find?_cons, List.find?_cons]
      cases channel.enabled with
      | true => rfl
      | false => exact ih fun index => f (index + 1)

/-- Degraded mode names the first enabled channel. -/
theorem degradedAnswer_of_enabled (config : RoutingConfig) (uuid : String)
    {channels : List Channel} (request : RouteRequest) (now : ℚ)
    (henabled : ∃ channel ∈ channels, channel.enabled = true) :
    ∃ channel decision, channels.find? (·.enabled) = some channel ∧
      degradedAnswer config uuid channels request now = .ok decision ∧
      decision.strategy = .degraded ∧ decision.channelId = channel.id := by
  have hfind := find?_degradedCandidates channels
  obtain ⟨channel, hchannel⟩ : ∃ channel, channels.find? (·.enabled) = some channel := by
    rw [← Option.isSome_iff_exists, List.find?_isSome]
    exact henabled
  rw [hchannel] at hfind
  obtain ⟨first, hfirst, hid⟩ := Option.map_eq_some_iff.mp hfind
  refine ⟨channel, degradedOf config uuid channels now first, hchannel, ?_, rfl, hid⟩
  unfold degradedAnswer
  rw [hfirst]

/-! ## With the metrics -/

theorem select_answers (config : RoutingConfig) (candidates : List Candidate) (rng : Rng) :
    Answers (select config candidates rng).1 := by
  unfold select
  split
  · trivial
  · trivial

theorem answers_map {α β : Type} {f : α → β} {result : Except Failure α} :
    Answers (result.map f) ↔ Answers result := by
  cases result with
  | ok value => exact Iff.rfl
  | error failure => exact Iff.rfl

/-- The choice answers unless the call for the slot rejects. -/
theorem chosenAmong_answers_iff (config : RoutingConfig) (faults : Faults) (w : World)
    (candidates : List Candidate) (rng : Rng) :
    Answers (chosenAmong config faults w candidates rng) ↔
      ∀ first, (select config candidates rng).1 = .ok first →
        isProbe candidates first.channelId = true →
        ∀ failure, faults (.takeProbeSlot first.channelId probeSlotTtlMs) = some failure →
          IsNoEligible failure := by
  have hanswers := select_answers config candidates rng
  unfold chosenAmong
  rcases hselect : select config candidates rng with ⟨failure | first, rng'⟩
  · rw [hselect] at hanswers
    exact iff_of_true hanswers (by simp)
  · dsimp only
    by_cases hprobe : isProbe candidates first.channelId = true
    · rw [if_pos hprobe]
      rcases hfault : faults (.takeProbeSlot first.channelId probeSlotTtlMs) with _ | failure
      · refine iff_of_true ?_ (by simp [hfault])
        dsimp only
        split
        · exact answers_map.mpr (select_answers _ _ _)
        · trivial
      · simp [Answers, hprobe, hfault]
    · rw [if_neg hprobe]
      exact iff_of_true trivial (by simp [hprobe])

/-- A route call with an enabled channel answers whatever calls fail, exactly unless it asks
for a probe slot and that call rejects. -/
theorem route_keepsPayout_iff (config : Config) (faults : Faults)
    (localeCompare : String → String → Ordering) (rng : Rng) (uuid : String)
    (request : RouteRequest) (w : World)
    (hlist : ListAnswered faults w w.now request.corridor)
    (henabled : ∃ channel ∈ routeChannels w request, channel.enabled = true) :
    KeepsPayout faults w request
        ((route config.routing localeCompare rng uuid request).run config faults w).1 ↔
      ∀ id, askedSlot config.routing faults localeCompare rng request w = some id →
        ∀ failure, faults (.takeProbeSlot id probeSlotTtlMs) = some failure →
          IsNoEligible failure := by
  have hnonempty : routeChannels w request ≠ [] := by
    obtain ⟨channel, hmem, _⟩ := henabled
    exact List.ne_nil_of_mem hmem
  rw [route_answer config faults localeCompare rng uuid request w hlist, if_neg hnonempty]
  by_cases hmetrics : MetricsAnswered faults ((routeChannels w request).map (·.id)) w.now
  · rw [if_pos hmetrics]
    have hasked : (∀ first, (select config.routing (candidatesAt config.routing localeCompare w
          request) rng).1 = .ok first →
        isProbe (candidatesAt config.routing localeCompare w request) first.channelId = true →
        ∀ failure, faults (.takeProbeSlot first.channelId probeSlotTtlMs) = some failure →
          IsNoEligible failure) ↔
        ∀ id, askedSlot config.routing faults localeCompare rng request w = some id →
          ∀ failure, faults (.takeProbeSlot id probeSlotTtlMs) = some failure →
            IsNoEligible failure := by
      unfold askedSlot
      rw [if_pos ⟨hlist, hmetrics⟩]
      rcases hselect : select config.routing (candidatesAt config.routing localeCompare w
        request) rng with ⟨failure | first, rng'⟩
      · simp
      · have hprobe := isProbe_candidatesAt config.routing
          ((select_eligible hselect).imp fun c hc => ⟨hc.1, hc.2.2⟩)
        simp [hprobe]
    rw [← hasked, ← chosenAmong_answers_iff config.routing faults w, ← answers_map]
    constructor
    · intro h
      exact h.answers
    · intro h
      exact ⟨h, fun hnot => absurd hmetrics hnot⟩
  · rw [if_neg hmetrics]
    have hasked : askedSlot config.routing faults localeCompare rng request w = none := by
      unfold askedSlot
      rw [if_neg fun h => hmetrics h.2]
    obtain ⟨channel, decision, hfind, hanswer, hstrategy, hid⟩ :=
      degradedAnswer_of_enabled config.routing uuid request w.now henabled
    rw [hasked, hanswer]
    exact iff_of_true
      ⟨trivial, fun _ => ⟨channel, decision, hfind, rfl, hstrategy, hid⟩⟩ (by simp)

/-- One channel on probation. -/
def probationWorld : World :=
  (World.fresh 60000 seededA).setBreaker "RAIL-A"
    { state := .halfOpen, openedAt := 0, probeSuccess := 0 }

/-- The probe slots cannot be taken. -/
def slotsDown : Faults
  | .takeProbeSlot .. => some (.rejected "Connection is closed.")
  | _ => none

/-- A route call in `probationWorld` whose call for the slot rejects. -/
theorem route_rejects_slot : ¬ KeepsPayout slotsDown probationWorld anyRequest
    ((route defaultConfig.routing compare (Stream'.const 0) "u1" anyRequest).run defaultConfig
      slotsDown probationWorld).1 := by
  have hanswer : ¬ Answers ((route defaultConfig.routing compare (Stream'.const 0) "u1"
      anyRequest).run defaultConfig slotsDown probationWorld).1 := by decide +kernel
  intro h
  exact hanswer h.answers

theorem route_keepsPayout_openWorld : KeepsPayout windowsDown openWorld anyRequest
    ((route defaultConfig.routing compare (Stream'.const 0) "u1" anyRequest).run defaultConfig
      windowsDown openWorld).1 :=
  (route_keepsPayout_iff defaultConfig windowsDown compare (Stream'.const 0) "u1" anyRequest
    openWorld (by decide +kernel)
    ⟨toChannel railA, by decide +kernel, rfl⟩).mpr (by simp [windowsDown])

end SwitchService.Services
