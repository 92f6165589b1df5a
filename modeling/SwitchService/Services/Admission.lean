import SwitchService.Services.RoutingRun

set_option autoImplicit false

/-!
# Services: which channel a decision may name

Two safety properties of one route call: a channel whose breaker is OPEN is named
in degraded mode only, and a channel on probation is named by the call that took
its probe slot.
-/

namespace SwitchService.Services

open SwitchService.Foundation SwitchService.Domain SwitchService.Store
open SwitchService.Repositories

/-- The candidates that a call that starts now ranks. -/
def candidatesAt (config : RoutingConfig) (localeCompare : String → String → Ordering)
    (w : World) (request : RouteRequest) : List Candidate :=
  routeCandidates config localeCompare (routeChannels w request)
    (metricsOf config w w.now ((routeChannels w request).map (·.id))) w.now

section

variable {config : Config} {faults : Faults} {w : World}
  {localeCompare : String → String → Ordering} {request : RouteRequest}

/-- A candidate shows the refreshed breaker of its channel. -/
theorem candidatesAt_breakerState {config : RoutingConfig} {c : Candidate}
    (h : c ∈ candidatesAt config localeCompare w request) :
    c.breakerState = (refreshedAt config w c.channelId).state := by
  obtain ⟨⟨channel, hchannel, hid⟩, hstate⟩ := buildCandidates_breakerState h
  have hmem : c.channelId ∈ (routeChannels w request).map (·.id) :=
    List.mem_map.mpr ⟨channel, hchannel, hid⟩
  rw [hstate]
  simp [refreshedBreakers, hmem, refreshedBreaker_metricsOf hmem, refreshedAt]

/-- An eligible candidate has a breaker that is not OPEN. -/
theorem candidatesAt_eligible {config : RoutingConfig} {c : Candidate}
    (h : c ∈ candidatesAt config localeCompare w request) (heligible : c.eligible = true) :
    (refreshedAt config w c.channelId).state ≠ .opened := by
  rw [← candidatesAt_breakerState h]
  exact buildCandidates_eligible h heligible

/-- The candidate that was selected shows the refreshed breaker. -/
theorem isProbe_candidatesAt (config : RoutingConfig) {id : String}
    (h : ∃ c ∈ candidatesAt config localeCompare w request, c.channelId = id) :
    isProbe (candidatesAt config localeCompare w request) id = true ↔
      (refreshedAt config w id).state = .halfOpen := by
  unfold isProbe
  cases hfind : (candidatesAt config localeCompare w request).find? (·.channelId = id) with
  | none =>
      obtain ⟨c, hmem, hid⟩ := h
      exact absurd hid (by simpa using List.find?_eq_none.mp hfind c hmem)
  | some c =>
      have hid : c.channelId = id := by simpa using List.find?_some hfind
      have hstate := candidatesAt_breakerState (List.mem_of_find?_eq_some hfind)
      rw [hid] at hstate
      simp [hstate]

/-! ## OPEN breakers -/

/-- A route call names a channel whose breaker is OPEN only in degraded mode, and only
when the metrics read was not answered. -/
theorem route_open_degraded (config : Config) (faults : Faults)
    (localeCompare : String → String → Ordering) (rng : Rng) (uuid : String)
    (request : RouteRequest) (w : World) (decision : RoutingDecision)
    (h : ((route config.routing localeCompare rng uuid request).run config faults w).1 =
      .ok decision)
    (hopen : (refreshedAt config.routing w decision.channelId).state = .opened) :
    decision.strategy = .degraded ∧
      ¬ MetricsAnswered faults ((routeChannels w request).map (·.id)) w.now := by
  rcases run_route_cases config faults w localeCompare rng uuid
    request with ⟨failure, w', hrun, _⟩ | ⟨first, _, decisions, _, hmetrics, hrun⟩ | ⟨_, hrun⟩
  · simp [hrun] at h
  · simp only [hrun, Except.ok.injEq] at h
    exact ⟨by rw [← h]; rfl, hmetrics⟩
  · -- With the metrics in hand the named channel is an eligible candidate.
    obtain ⟨stored, decisions, _, hdecide⟩ := run_decideWith config faults
      (afterLookup w w.now request.corridor) localeCompare rng uuid
      request w.now (routeChannels w request)
      (metricsOf config.routing w w.now ((routeChannels w request).map (·.id)))
    rw [hrun, hdecide] at h
    split at h
    · rename_i chosen w' hchoose
      obtain ⟨c, hmem, hel, hid⟩ := run_chooseChannel_eligible hchoose
      simp only [Except.ok.injEq] at h
      rw [← h] at hopen
      change (refreshedAt config.routing w chosen.2.channelId).state = .opened at hopen
      rw [← hid] at hopen
      exact absurd hopen (candidatesAt_eligible hmem hel)
    · simp at h

/-- A request for the default corridor. -/
def anyRequest : RouteRequest where
  transactionId := "txn_1"
  corridor := defaultCorridor
  supportedChannels := none

/-- One channel, whose breaker opened a second ago. -/
def openWorld : World :=
  (World.fresh 1000 seededA).setBreaker "RAIL-A"
    { state := .opened, openedAt := 0, probeSuccess := 0 }

/-- The windows cannot be read. -/
def windowsDown : Faults
  | .readWindows .. => some (.rejected "Connection is closed.")
  | _ => none

/-- The decision of a route call in `openWorld` whose window read rejects. -/
def openDecision : RoutingDecision :=
  degradedOf defaultRoutingConfig "u1" [toChannel railA] 1000
    { channelId := "RAIL-A", rank := 1, score := 0, successRate := 0, p95Ms := none,
      costScore := 0, breakerState := .closed, samples := 0, coldStart := true,
      eligible := true, ineligibleReason := none }

theorem route_names_open :
    ((route defaultConfig.routing compare (Stream'.const 0) "u1" anyRequest).run defaultConfig
        windowsDown openWorld).1 = .ok openDecision ∧
      (refreshedAt defaultConfig.routing openWorld openDecision.channelId).state = .opened := by
  constructor
  · decide +kernel
  · decide +kernel

theorem route_open_degraded_openWorld :
    openDecision.strategy = .degraded ∧
      ¬ MetricsAnswered windowsDown ((routeChannels openWorld anyRequest).map (·.id))
        openWorld.now :=
  route_open_degraded defaultConfig windowsDown compare (Stream'.const 0) "u1" anyRequest
    openWorld openDecision (by decide +kernel) (by decide +kernel)

/-! ## HALF_OPEN breakers -/

/-- A call admits a probe exactly when it took the slot, and leaves every other slot. -/
def ProbeExact (config : RoutingConfig) (w w' : World) : Except Failure RoutingDecision → Prop
  | .error _ => w'.probeSlots = w.probeSlots
  | .ok decision => decision.strategy ≠ .degraded →
      ((refreshedAt config w decision.channelId).state = .halfOpen ↔
        ¬ w.slotHeld decision.channelId ∧ w'.slotHeld decision.channelId) ∧
      ((refreshedAt config w decision.channelId).state ≠ .halfOpen →
        w'.probeSlots = w.probeSlots) ∧
      ∀ id, id ≠ decision.channelId → w'.probeSlots id = w.probeSlots id

/-- A call that selects the given channel asks for its probe slot and is denied it. -/
def Denied (config : RoutingConfig) (faults : Faults) (w : World) (channelId : String) :
    Prop :=
  (refreshedAt config w channelId).state = .halfOpen ∧
    faults (.takeProbeSlot channelId probeSlotTtlMs) = none ∧ w.slotHeld channelId

instance (config : RoutingConfig) (faults : Faults) (w : World) (channelId : String) :
    Decidable (Denied config faults w channelId) := inferInstanceAs (Decidable (_ ∧ _ ∧ _))

/-- The channel that a call selects after its first choice was denied the probe slot. -/
def secondChoice (config : RoutingConfig) (faults : Faults)
    (localeCompare : String → String → Ordering) (rng : Rng) (request : RouteRequest)
    (w : World) : Option String :=
  if Informed faults w request then
    match select config (candidatesAt config localeCompare w request) rng with
    | (.error _, _) => none
    | (.ok first, rng) =>
        if Denied config faults w first.channelId then
          (select config (markInFlight first.channelId
            (candidatesAt config localeCompare w request)) rng).1.toOption.map (·.channelId)
        else none
  else none

/-- A call that leaves the slots as they are is exact where it names no probe. -/
theorem probeExact_unchanged {config : RoutingConfig} {w' : World} {decision : RoutingDecision}
    (hstrategy : decision.strategy ≠ .degraded) (hnow : w'.now = w.now)
    (hslots : w'.probeSlots = w.probeSlots) :
    ProbeExact config w w' (.ok decision) ↔
      (refreshedAt config w decision.channelId).state ≠ .halfOpen := by
  have hheld : w'.slotHeld decision.channelId ↔ w.slotHeld decision.channelId := by
    unfold World.slotHeld
    rw [hnow, hslots]
  unfold ProbeExact
  dsimp only
  rw [hheld]
  constructor
  · intro h hstate
    have := (h hstrategy).1.mp hstate
    exact this.1 this.2
  · intro h _
    refine ⟨?_, fun _ => hslots, fun id _ => by rw [hslots]⟩
    constructor
    · intro hstate
      exact absurd hstate h
    · intro ⟨hfree, hheld⟩
      exact absurd hheld hfree

/-- A call that takes the free slot of the channel it names is exact. -/
theorem probeExact_taken {config : RoutingConfig} {w w' : World} {decision : RoutingDecision}
    (hstate : (refreshedAt config w decision.channelId).state = .halfOpen)
    (hfree : ¬ w.slotHeld decision.channelId) (hnow : w'.now = w.now)
    (hslots : w'.probeSlots = Function.update w.probeSlots decision.channelId
      (some (w.now + probeSlotTtlMs))) : ProbeExact config w w' (.ok decision) := by
  have hheld : w'.slotHeld decision.channelId := by
    have hlater : w.now < w.now + probeSlotTtlMs := by norm_num [probeSlotTtlMs]
    unfold World.slotHeld
    rw [hnow, hslots, Function.update_self]
    exact hlater
  refine fun _ => ⟨iff_of_true hstate ⟨hfree, hheld⟩, fun hne => absurd hstate hne,
    fun id hne => ?_⟩
  rw [hslots, Function.update_of_ne hne]

/-- A call that has its channels and metrics, by its first choice and the slot of it. -/
theorem probe_admission_informed {config : Config} {faults : Faults}
    {localeCompare : String → String → Ordering} {rng : Rng} {uuid : String}
    {request : RouteRequest} {w : World} (hinformed : Informed faults w request)
    (hrun : (route config.routing localeCompare rng uuid request).run config faults w =
      (decideWith config.routing localeCompare rng uuid request w.now (routeChannels w request)
        (metricsOf config.routing w w.now ((routeChannels w request).map (·.id)))).run
          config faults (afterLookup w w.now request.corridor)) :
    ProbeExact config.routing w
        ((route config.routing localeCompare rng uuid request).run config faults w).2
        ((route config.routing localeCompare rng uuid request).run config faults w).1 ↔
      ∀ id, secondChoice config.routing faults localeCompare rng request w = some id →
        (refreshedAt config.routing w id).state ≠ .halfOpen := by
  obtain ⟨stored, decisions, _, hdecide⟩ := run_decideWith config faults
    (afterLookup w w.now request.corridor) localeCompare rng uuid
    request w.now (routeChannels w request)
    (metricsOf config.routing w w.now ((routeChannels w request).map (·.id)))
  have hcandidates : routeCandidates config.routing localeCompare (routeChannels w request)
      (metricsOf config.routing w w.now ((routeChannels w request).map (·.id))) w.now =
        candidatesAt config.routing localeCompare w request := rfl
  rw [hrun, hdecide, run_chooseChannel, hcandidates]
  unfold secondChoice
  rw [if_pos hinformed]
  rcases hselect : select config.routing (candidatesAt config.routing localeCompare w request)
    rng with ⟨failure | first, rng'⟩
  · simp [ProbeExact]
  · have hprobe := isProbe_candidatesAt config.routing
      ((select_eligible hselect).imp fun c hc => ⟨hc.1, hc.2.2⟩)
    have hslot : World.slotHeld { afterLookup w w.now request.corridor with
        breakers := stored } first.channelId ↔ w.slotHeld first.channelId := by
      simp [World.slotHeld]
    simp only [hprobe, hslot, Denied]
    by_cases hstate : (refreshedAt config.routing w first.channelId).state = .halfOpen
    · rcases Option.eq_none_or_eq_some (faults (.takeProbeSlot first.channelId
        probeSlotTtlMs)) with hfault | ⟨failure, hfault⟩
      · by_cases hheld : w.slotHeld first.channelId
        · -- The slot is denied: no slot changes, and the second choice decides.
          simp only [hstate, hfault, hheld, if_true, and_self]
          rcases hsecond : (select config.routing (markInFlight first.channelId
            (candidatesAt config.routing localeCompare w request)) rng').1
            with failure | second
          · simp [ProbeExact, Except.map, Except.toOption]
          · have hstrategy := select_strategy (Prod.ext hsecond rfl)
            rw [Except.map, probeExact_unchanged hstrategy (by simp) (by simp)]
            simp [Except.toOption, decisionOf]
        · -- The call takes the free slot of its first choice.
          simp only [hstate, hfault, hheld, if_true, if_false, and_false]
          exact iff_of_true (probeExact_taken hstate hheld (by simp) (by simp [decisionOf]))
            (by simp)
      · -- The call for the slot rejects, and so does the whole call.
        simp [hstate, hfault, ProbeExact]
    · simp only [hstate, if_false, false_and]
      rw [probeExact_unchanged (select_strategy hselect) (by simp) (by simp)]
      simp [decisionOf, hstate]

/-- A route call admits probes exactly, unless its second choice after a denied slot is
again on probation. -/
theorem probe_admission_iff (config : Config) (faults : Faults)
    (localeCompare : String → String → Ordering) (rng : Rng) (uuid : String)
    (request : RouteRequest) (w : World) :
    ProbeExact config.routing w
        ((route config.routing localeCompare rng uuid request).run config faults w).2
        ((route config.routing localeCompare rng uuid request).run config faults w).1 ↔
      ∀ id, secondChoice config.routing faults localeCompare rng request w = some id →
        (refreshedAt config.routing w id).state ≠ .halfOpen := by
  rcases run_route_cases config faults w localeCompare rng uuid
    request with ⟨failure, w', hrun, hstate, hnothing⟩ |
      ⟨first, _, decisions, _, hmetrics, hrun⟩ | ⟨hinformed, hrun⟩
  · -- The call chose nothing.
    have hnone : secondChoice config.routing faults localeCompare rng request w = none := by
      rcases hnothing with hempty | huninformed
      · simp [secondChoice, candidatesAt, routeCandidates, hempty, buildCandidates, select,
          selectChannel]
      · simp [secondChoice, huninformed]
    rw [hrun, hnone]
    refine iff_of_true ?_ (by simp)
    rcases hstate with rfl | rfl
    · rfl
    · exact afterLookup_probeSlots
  · have hnone : secondChoice config.routing faults localeCompare rng request w = none := by
      simp [secondChoice, Informed, hmetrics]
    rw [hrun, hnone]
    exact iff_of_true (fun hstrategy => absurd rfl hstrategy) (by simp)
  · exact probe_admission_informed hinformed hrun

/-- Two channels on probation; the probe slot of the better one is taken. -/
def twoProbesWorld : World :=
  let probation : BreakerSnapshot := { state := .halfOpen, openedAt := 0, probeSuccess := 0 }
  (((World.fresh 60000 seededAB).setBreaker "RAIL-A" probation).setBreaker "RAIL-B"
    probation).setProbeSlot "RAIL-B" (some 65000)

/-- The call on `twoProbesWorld` with draws that never explore. -/
def twoProbesRun : Except Failure RoutingDecision × World :=
  (route defaultConfig.routing compare (Stream'.const (1 / 2)) "u1" anyRequest).run
    defaultConfig noFaults twoProbesWorld

theorem probe_admission_second_choice :
    ¬ ProbeExact defaultConfig.routing twoProbesWorld twoProbesRun.2 twoProbesRun.1 := by
  have hnamed : twoProbesRun.1.toOption.map (fun d => (d.channelId, d.strategy)) =
      some ("RAIL-A", .onlyCandidate) := by decide +kernel
  have hstate : (refreshedAt defaultConfig.routing twoProbesWorld "RAIL-A").state =
      .halfOpen := by decide +kernel
  have hfree : ¬ twoProbesRun.2.slotHeld "RAIL-A" := by decide +kernel
  intro h
  cases hresult : twoProbesRun.1 with
  | error failure => simp [hresult, Except.toOption] at hnamed
  | ok decision =>
      rw [hresult] at h hnamed
      obtain ⟨hid, hstrategy⟩ : decision.channelId = "RAIL-A" ∧
          decision.strategy = .onlyCandidate := by simpa [Except.toOption] using hnamed
      have hacquired := ((h (by simp [hstrategy])).1.mp (by rw [hid]; exact hstate)).2
      rw [hid] at hacquired
      exact hfree hacquired

end

end SwitchService.Services
