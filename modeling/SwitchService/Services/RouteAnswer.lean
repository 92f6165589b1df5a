import SwitchService.Domain.Ranking
import SwitchService.Services.Admission

set_option autoImplicit false

/-!
# Services: the answer of a route call

What `route` resolves to, as a function of the state that it starts in and of the calls
that fail.  Every later fact about decisions and errors goes through `route_answer`.
-/

namespace SwitchService.Services

open SwitchService.Foundation SwitchService.Domain SwitchService.Store
open SwitchService.Repositories

/-- The published candidates and the choice among them. -/
def chosenAmong (config : RoutingConfig) (faults : Faults) (w : World)
    (candidates : List Candidate) (rng : Rng) : Except Failure (List Candidate × Selection) :=
  match select config candidates rng with
  | (.error failure, _) => .error failure
  | (.ok first, rng) =>
      if isProbe candidates first.channelId then
        match faults (.takeProbeSlot first.channelId probeSlotTtlMs) with
        | some failure => .error failure
        | none =>
            if w.slotHeld first.channelId then
              (select config (markInFlight first.channelId candidates) rng).1.map
                fun second => (markInFlight first.channelId candidates, second)
            else .ok (candidates, first)
      else .ok (candidates, first)

/-- The answer without metrics. -/
def degradedAnswer (config : RoutingConfig) (uuid : String) (channels : List Channel)
    (request : RouteRequest) (now : ℚ) : Except Failure RoutingDecision :=
  match (degradedCandidates channels).find? (·.eligible) with
  | none => .error (.noEligibleChannel "every channel is disabled" (.corridor request.corridor))
  | some first => .ok (degradedOf config uuid channels now first)

section

variable {config : Config} {faults : Faults} {w : World}
  {localeCompare : String → String → Ordering} {rng : Rng} {uuid : String}
  {request : RouteRequest}

variable (config faults w) in
theorem chooseChannel_answer (candidates : List Candidate) (rng : Rng) :
    ((chooseChannel config.routing candidates rng).run config faults w).1 =
      chosenAmong config.routing faults w candidates rng := by
  rw [run_chooseChannel]
  unfold chosenAmong
  rcases select config.routing candidates rng with ⟨failure | first, rng'⟩
  · rfl
  · dsimp only
    split
    · rcases faults (.takeProbeSlot first.channelId probeSlotTtlMs) with _ | failure
      · dsimp only
        split <;> rfl
      · rfl
    · rfl

theorem degradedDecision_answer (channels : List Channel) (now : ℚ) :
    ((degradedDecision config.routing uuid channels request now).run config faults w).1 =
      degradedAnswer config.routing uuid channels request now := by
  unfold degradedDecision degradedAnswer
  cases (degradedCandidates channels).find? (·.eligible) with
  | none => rfl
  | some first =>
      obtain ⟨decisions, hpersist⟩ := run_persist config faults w
        (degradedOf config.routing uuid channels now first) request.transactionId
      change (Program.run config faults (persist (degradedOf config.routing uuid channels now
        first) request.transactionId >>= fun _ => _) w).1 = _
      rw [run_bind_ok hpersist]
      rfl

/-- A call that decides had its channel list. -/
theorem listAnswered_of_ok {decision : RoutingDecision}
    (h : ((route config.routing localeCompare rng uuid request).run config faults w).1 =
      .ok decision) : ListAnswered faults w w.now request.corridor := by
  rcases run_listChannelsCached_cases config faults w w.now request.corridor with
    ⟨_, failure, hlist⟩ | ⟨hanswered, _⟩
  · unfold route at h
    rw [run_bind_ok (run_clockNow w), run_bind_error hlist] at h
    cases h
  · exact hanswered

/-- The lookup and the refreshed breakers leave the probe slots. -/
theorem chosenAmong_afterLookup (stored : String → BreakerSnapshot)
    (candidates : List Candidate) :
    chosenAmong config.routing faults
        { afterLookup w w.now request.corridor with breakers := stored } candidates rng =
      chosenAmong config.routing faults w candidates rng := by
  have hslot : ∀ id, World.slotHeld { afterLookup w w.now request.corridor with
      breakers := stored } id ↔ w.slotHeld id := by
    intro id
    simp [World.slotHeld]
  unfold chosenAmong
  simp only [hslot]

/-- With the metrics a call answers what it chooses among the ranked candidates. -/
theorem decideWith_answer :
    ((decideWith config.routing localeCompare rng uuid request w.now (routeChannels w request)
        (metricsOf config.routing w w.now ((routeChannels w request).map (·.id)))).run config
          faults (afterLookup w w.now request.corridor)).1 =
      (chosenAmong config.routing faults w (candidatesAt config.routing localeCompare w request)
        rng).map (decisionOf config.routing uuid w.now) := by
  obtain ⟨stored, decisions, _, hdecide⟩ := run_decideWith config faults
    (afterLookup w w.now request.corridor) localeCompare rng uuid
    request w.now (routeChannels w request)
    (metricsOf config.routing w w.now ((routeChannels w request).map (·.id)))
  have hcandidates : routeCandidates config.routing localeCompare (routeChannels w request)
      (metricsOf config.routing w w.now ((routeChannels w request).map (·.id))) w.now =
    candidatesAt config.routing localeCompare w request := rfl
  rw [hcandidates] at hdecide
  set refreshed := { afterLookup w w.now request.corridor with breakers := stored }
    with hrefreshed
  have hchoose := chooseChannel_answer config faults refreshed
    (candidatesAt config.routing localeCompare w request) rng
  rw [hrefreshed, chosenAmong_afterLookup, ← hrefreshed] at hchoose
  have hnow : ((chooseChannel config.routing (candidatesAt config.routing localeCompare w
      request) rng).run config faults refreshed).2.now = w.now := by
    rcases run_chooseChannel_state config faults refreshed
      (candidatesAt config.routing localeCompare w request) rng with h | ⟨_, h, _⟩
    · rw [h]
      exact afterLookup_now
    · rw [h]
      exact afterLookup_now
  rw [hdecide, ← hchoose]
  rcases hrun : (chooseChannel config.routing (candidatesAt config.routing localeCompare w
    request) rng).run config faults refreshed with ⟨failure | chosen, w'⟩
  · rfl
  · rw [hrun] at hnow
    rw [← hnow]
    rfl

/-- A call with a channel list refuses, decides without the metrics, or chooses among the
ranked candidates. -/
theorem route_answer (config : Config) (faults : Faults)
    (localeCompare : String → String → Ordering) (rng : Rng) (uuid : String)
    (request : RouteRequest) (w : World)
    (hlist : ListAnswered faults w w.now request.corridor) :
    ((route config.routing localeCompare rng uuid request).run config faults w).1 =
      if routeChannels w request = [] then
        .error (noChannel request (lookup w w.now request.corridor))
      else if MetricsAnswered faults ((routeChannels w request).map (·.id)) w.now then
        (chosenAmong config.routing faults w
          (candidatesAt config.routing localeCompare w request) rng).map
            (decisionOf config.routing uuid w.now)
      else degradedAnswer config.routing uuid (routeChannels w request) request w.now := by
  have hrun : (listChannelsCached w.now request.corridor).run config faults w =
      (.ok (lookup w w.now request.corridor), afterLookup w w.now request.corridor) := by
    rcases run_listChannelsCached_cases config faults w w.now request.corridor with
      ⟨hnot, _⟩ | ⟨_, h⟩
    · exact absurd hlist hnot
    · exact h
  rw [run_route_listed localeCompare rng uuid request hrun]
  by_cases hempty : routeChannels w request = []
  · rw [if_pos hempty, if_pos hempty]
  · rw [if_neg hempty, if_neg hempty]
    by_cases hmetrics : MetricsAnswered faults ((routeChannels w request).map (·.id)) w.now
    · rw [if_pos hmetrics, if_pos hmetrics]
      exact decideWith_answer
    · rw [if_neg hmetrics, if_neg hmetrics]
      exact degradedDecision_answer _ _

end

end SwitchService.Services
