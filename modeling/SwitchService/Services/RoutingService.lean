import SwitchService.Domain.Breaker
import SwitchService.Domain.Scoring
import SwitchService.Domain.Selection
import SwitchService.Repositories.ChannelRepository

set_option autoImplicit false

/-!
# Services: the routing decision (`services/routingService.ts`)

The service reads the numbers, calls the pure functions of the domain and writes
the result.  The random draws, the decision identifier and the collation of the
host are parameters.
-/

namespace SwitchService.Services

open SwitchService.Foundation SwitchService.Domain SwitchService.Store
open SwitchService.Repositories

/-- What `route` reads of a request. -/
structure RouteRequest where
  transactionId : String
  corridor : String
  /-- The channels the caller can reach.  Absent means no limit. -/
  supportedChannels : Option (List String)
  deriving DecidableEq

/-- `PROBE_SLOT_TTL_MS`. -/
def probeSlotTtlMs : ℚ := 10000

/-- `withBudget`: a rejection and an exceeded budget both give the fallback. -/
def withBudget {α : Type} (operation : Program α) : Program (Option α) :=
  Prog.tryCatch (operation >>= fun value => return some value) fun _ => return none

/-- The two metrics. -/
structure Metrics where
  stats : String → Option ChannelStats
  breakers : String → Option BreakerSnapshot

/-- The windows and the breakers of some channels. -/
def readMetrics (ids : List String) (now : ℚ) : Program Metrics := do
  let stats ← readWindows ids now
  let breakers ← readBreakers ids
  return { stats := stats, breakers := breakers }

/-- The breaker of one channel with the fresh window numbers. -/
def refreshedBreaker (config : RoutingConfig) (metrics : Metrics) (now : ℚ) (id : String) :
    BreakerSnapshot :=
  evaluateBreaker ((metrics.breakers id).getD closedBreaker)
    ((metrics.stats id).getD (emptyStats id)) config now

/-- The write of one refreshed breaker; a failed write is only logged. -/
def writeRefreshed (id : String) (before after : BreakerSnapshot) : Program Unit :=
  if after.state ≠ before.state ∨ after.openedAt ≠ before.openedAt then
    Prog.tryCatch (writeBreaker id after) fun _ => pure ()
  else pure ()

/-- Moves each breaker with the fresh window numbers before the decision. -/
def refreshBreakers (config : RoutingConfig) (metrics : Metrics) (now : ℚ) :
    List String → (String → Option BreakerSnapshot) →
      Program (String → Option BreakerSnapshot)
  | [], next => return next
  | id :: ids, next => do
      let before := (metrics.breakers id).getD closedBreaker
      let after := refreshedBreaker config metrics now id
      writeRefreshed id before after
      refreshBreakers config metrics now ids (Function.update next id (some after))

/-- Turns the domain error into the wire error. -/
def select (config : RoutingConfig) (candidates : List Candidate) (rng : Rng) :
    Except Failure Selection × Rng :=
  match selectChannel candidates config rng with
  | (.ok selection, rng) => (.ok selection, rng)
  | (.error error, rng) =>
      (.error (.noEligibleChannel "no channel is eligible for this corridor"
        (.reasons error.reasons)), rng)

/-- The candidates after the probe slot of a channel was denied. -/
def markInFlight (channelId : String) (candidates : List Candidate) : List Candidate :=
  candidates.map fun candidate =>
    if candidate.channelId = channelId then
      { candidate with eligible := false, ineligibleReason := some "probe-in-flight" }
    else candidate

/-- The candidate that was selected is on probation. -/
def isProbe (candidates : List Candidate) (channelId : String) : Bool :=
  ((candidates.find? (·.channelId = channelId)).map (·.breakerState)) = some .halfOpen

/-- The first choice, the probe slot and the second choice. -/
def chooseChannel (config : RoutingConfig) (candidates : List Candidate) (rng : Rng) :
    Program (List Candidate × Selection) :=
  match select config candidates rng with
  | (.error failure, _) => .throw failure
  | (.ok selection, rng) =>
      if isProbe candidates selection.channelId then do
        let gotSlot ← takeProbeSlot selection.channelId probeSlotTtlMs
        if gotSlot then return (candidates, selection)
        else
          let candidates := markInFlight selection.channelId candidates
          match (select config candidates rng).1 with
          | .error failure => .throw failure
          | .ok selection => return (candidates, selection)
      else return (candidates, selection)

/-- Writes the decision log; a failure never fails the payout. -/
def persist (decision : RoutingDecision) (transactionId : String) : Program Unit :=
  Prog.tryCatch (insertDecision decision transactionId) fun _ => pure ()

/-- The candidates of degraded mode. -/
def degradedCandidates (channels : List Channel) : List Candidate :=
  channels.mapIdx fun index channel =>
    { channelId := channel.id
      rank := index + 1
      score := 0
      successRate := 0
      p95Ms := none
      costScore := 0
      breakerState := .closed
      samples := 0
      coldStart := true
      eligible := channel.enabled
      ineligibleReason := if channel.enabled then none else some "channel-disabled" }

/-- The answer when the metrics are not available.  The source starts the insert with `void`
and answers without waiting for it; here the answer comes after the insert.  `persist` never
rejects, so the answer itself is the same. -/
def degradedDecision (config : RoutingConfig) (uuid : String) (channels : List Channel)
    (request : RouteRequest) (now : ℚ) : Program RoutingDecision :=
  match (degradedCandidates channels).find? (·.eligible) with
  | none =>
      .throw (.noEligibleChannel "every channel is disabled" (.corridor request.corridor))
  | some first => do
      let decision : RoutingDecision :=
        { decisionId := "dec_" ++ uuid
          channelId := first.channelId
          strategy := .degraded
          windowMs := config.windowMs
          evaluatedAt := now
          candidates := degradedCandidates channels }
      persist decision request.transactionId
      return decision

/-- The channels that the caller can reach. -/
def reachable (request : RouteRequest) (all : List Channel) : List Channel :=
  match request.supportedChannels with
  | some supported => all.filter fun channel => supported.contains channel.id
  | none => all

/-- The part of `route` with the metrics in hand. -/
def decideWith (config : RoutingConfig) (localeCompare : String → String → Ordering)
    (rng : Rng) (uuid : String) (request : RouteRequest) (now : ℚ) (channels : List Channel)
    (metrics : Metrics) : Program RoutingDecision := do
  let breakers ← refreshBreakers config metrics now (channels.map (·.id)) fun _ => none
  let candidates := buildCandidates localeCompare channels metrics.stats breakers config
  let (candidates, selection) ← chooseChannel config candidates rng
  let evaluatedAt ← clockNow
  let decision : RoutingDecision :=
    { decisionId := "dec_" ++ uuid
      channelId := selection.channelId
      strategy := selection.strategy
      windowMs := config.windowMs
      evaluatedAt := evaluatedAt
      candidates := candidates }
  persist decision request.transactionId
  return decision

/-- The part of `route` after the channel list was obtained. -/
def routeAmong (config : RoutingConfig) (localeCompare : String → String → Ordering)
    (rng : Rng) (uuid : String) (request : RouteRequest) (now : ℚ) (all : List Channel) :
    Program RoutingDecision :=
  let channels := reachable request all
  if channels = [] then
    .throw (.noEligibleChannel
      (if all = [] then "no channel is configured for this corridor"
        else "no channel is eligible for this corridor")
      (.corridor request.corridor))
  else do
    let metrics ← withBudget (readMetrics (channels.map (·.id)) now)
    match metrics with
    | none => degradedDecision config uuid channels request now
    | some metrics => decideWith config localeCompare rng uuid request now channels metrics

/-- `RoutingService.route`. -/
def route (config : RoutingConfig) (localeCompare : String → String → Ordering) (rng : Rng)
    (uuid : String) (request : RouteRequest) : Program RoutingDecision := do
  let now ← clockNow
  let all ← listChannelsCached now request.corridor
  routeAmong config localeCompare rng uuid request now all

end SwitchService.Services
