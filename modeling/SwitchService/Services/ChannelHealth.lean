import SwitchService.Services.DecisionRecord

set_option autoImplicit false

/-!
# Services: the health report (`services/channelHealthService.ts`)

The console shows every channel of the default corridor with the numbers of the ranking.
The report ranks with the breakers as they are stored, a route call with the breakers that
it has refreshed; the two say the same where no breaker is due to move.
-/

namespace SwitchService.Services

open SwitchService.Foundation SwitchService.Domain SwitchService.Store
open SwitchService.Repositories

/-- How long the breaker has been open. -/
def openForMs (snapshot : BreakerSnapshot) (now : ℚ) : Option ℚ :=
  if snapshot.state = .closed then none else some (max 0 (now - snapshot.openedAt))

/-- A line of the channel report. -/
structure ChannelHealthView where
  id : String
  name : String
  cost : ℚ
  enabled : Bool
  score : ℚ
  rank : ℕ
  successRate : ℚ
  p95Ms : Option ℚ
  costScore : ℚ
  samples : ℚ
  coldStart : Bool
  eligible : Bool
  ineligibleReason : Option String
  success : ℚ
  failure : ℚ
  breakerState : BreakerState
  breakerOpenForMs : Option ℚ
  probeSuccess : ℚ
  deriving DecidableEq

/-- `evaluatedAt` is the clock reading that the source prints as an ISO date. -/
structure ChannelHealthReport where
  windowMs : ℚ
  bucketMs : ℚ
  minSamples : ℕ
  evaluatedAt : ℚ
  channels : List ChannelHealthView
  deriving DecidableEq

/-- The line of one channel. -/
def viewOf (candidates : List Candidate) (stats : String → Option ChannelStats)
    (breakers : String → Option BreakerSnapshot) (now : ℚ) (channel : Channel) :
    ChannelHealthView :=
  let candidate := candidates.find? (·.channelId = channel.id)
  let stat := stats channel.id
  let breaker := breakers channel.id
  { id := channel.id
    name := channel.name
    cost := channel.cost
    enabled := channel.enabled
    score := (candidate.map (·.score)).getD 0
    rank := (candidate.map (·.rank)).getD 0
    successRate := (candidate.map (·.successRate)).getD 0
    p95Ms := candidate.bind (·.p95Ms)
    costScore := (candidate.map (·.costScore)).getD 0
    samples := (candidate.map (·.samples)).getD 0
    coldStart := (candidate.map (·.coldStart)).getD true
    eligible := (candidate.map (·.eligible)).getD false
    ineligibleReason := candidate.bind (·.ineligibleReason)
    success := (stat.map (·.success)).getD 0
    failure := (stat.map (·.failure)).getD 0
    breakerState := (breaker.map (·.state)).getD .closed
    breakerOpenForMs := breaker.bind (openForMs · now)
    probeSuccess := (breaker.map (·.probeSuccess)).getD 0 }

/-- `ChannelHealthService.report`. -/
def report (config : RoutingConfig) (localeCompare : String → String → Ordering) :
    Program ChannelHealthReport := do
  let now ← clockNow
  let channels ← listChannels defaultCorridor
  let ids := channels.map (·.id)
  let stats ← readWindows ids now
  let breakerStates ← readBreakers ids
  let candidates := buildCandidates localeCompare channels stats breakerStates config
  return {
    windowMs := config.windowMs
    bucketMs := config.bucketMs
    minSamples := config.minSamples
    evaluatedAt := now
    channels := channels.map (viewOf candidates stats breakerStates now) }

/-! ## What a report says -/

/-- The candidates that a report ranks: the breakers are as they are stored. -/
def reportedCandidates (config : RoutingConfig) (localeCompare : String → String → Ordering)
    (w : World) : List Candidate :=
  let channels := channelsOf w.table defaultCorridor
  let metrics := metricsOf config w w.now (channels.map (·.id))
  buildCandidates localeCompare channels metrics.stats metrics.breakers config

/-- The lines of a report. -/
def reportedViews (config : RoutingConfig) (localeCompare : String → String → Ordering)
    (w : World) : List ChannelHealthView :=
  let channels := channelsOf w.table defaultCorridor
  let metrics := metricsOf config w w.now (channels.map (·.id))
  channels.map
    (viewOf (reportedCandidates config localeCompare w) metrics.stats metrics.breakers w.now)

section

variable {config : Config} {faults : Faults} {w : World}
  {localeCompare : String → String → Ordering}

/-- A report that is answered has the lines of the state that it was called in. -/
theorem report_answer {answer : ChannelHealthReport}
    (h : ((report config.routing localeCompare).run config faults w).1 = .ok answer) :
    answer.channels = reportedViews config.routing localeCompare w := by
  unfold report at h
  rw [run_bind_ok (run_clockNow w)] at h
  cases hquery : faults (.queryChannels defaultCorridor) with
  | some failure =>
      have hlist : (listChannels defaultCorridor).run config faults w = (.error failure, w) := by
        simp [listChannels, run_bind, exec_of_some rfl hquery]
      rw [run_bind_error hlist] at h
      cases h
  | none =>
      have hlist : (listChannels defaultCorridor).run config faults w =
          (.ok (channelsOf w.table defaultCorridor), w) := by
        simp [listChannels, run_bind, exec_of_none hquery, perform, channelsOf]
      rw [run_bind_ok hlist] at h
      dsimp only at h
      rcases exec_cases config faults (.readWindows
        ((channelsOf w.table defaultCorridor).map (·.id)) w.now) w with hstats | ⟨failure, hstats⟩
      · rw [perform_readWindows] at hstats
        rw [run_bind_ok ((run_readWindows _ _ w).trans hstats)] at h
        rcases exec_cases config faults (.readBreakers
          ((channelsOf w.table defaultCorridor).map (·.id))) w with hread | ⟨failure, hread⟩
        · rw [run_bind_ok ((run_readBreakers _ w).trans hread)] at h
          obtain rfl := Except.ok.inj h
          rfl
        · rw [run_bind_error ((run_readBreakers _ w).trans hread)] at h
          cases h
      · rw [run_bind_error ((run_readWindows _ _ w).trans hstats)] at h
        cases h

variable (config localeCompare) in
/-- Every channel of the table has its candidate in the report. -/
theorem find?_reportedCandidates {channel : Channel}
    (h : channel ∈ channelsOf w.table defaultCorridor) :
    ∃ c ∈ reportedCandidates config.routing localeCompare w, c.channelId = channel.id ∧
      (reportedCandidates config.routing localeCompare w).find? (·.channelId = channel.id) =
        some c := by
  have hrecord : RecordOf (channelsOf w.table defaultCorridor)
      (reportedCandidates config.routing localeCompare w) := by
    refine recordOf_buildCandidates fun id stats hstats => ?_
    unfold metricsOf at hstats
    dsimp only at hstats
    split at hstats
    · obtain rfl := Option.some.inj hstats
      exact Buckets.stats_nonneg _
    · cases hstats
  have hmem := hrecord.ids.mem_iff.mpr (List.mem_map_of_mem (f := (·.id)) h)
  obtain ⟨c, hc, hid⟩ := List.mem_map.mp hmem
  cases hfind : (reportedCandidates config.routing localeCompare w).find?
      (·.channelId = channel.id) with
  | none => exact absurd hid (by simpa using List.find?_eq_none.mp hfind c hc)
  | some first =>
      exact ⟨first, List.mem_of_find?_eq_some hfind, by simpa using List.find?_some hfind, rfl⟩

end

/-! ## The report and the router -/

/-- The line of a channel and its candidate say the same. -/
structure Shows (view : ChannelHealthView) (c : Candidate) : Prop where
  score : view.score = c.score
  rank : view.rank = c.rank
  eligible : view.eligible = c.eligible
  ineligibleReason : view.ineligibleReason = c.ineligibleReason
  breakerState : view.breakerState = c.breakerState

/-- A report has one line for each channel of a table, and says of each what the given
candidates say. -/
structure Agrees (channels : List Channel) (views : List ChannelHealthView)
    (candidates : List Candidate) : Prop where
  ids : views.map (·.id) = channels.map (·.id)
  shows : ∀ view ∈ views, ∃ c ∈ candidates, c.channelId = view.id ∧ Shows view c
  complete : (candidates.map (·.channelId)).Perm (views.map (·.id))

/-- The breaker is not due to move: a closed one has a window that does not trip it, and
an open one has not been open for its time. -/
def Settled (config : RoutingConfig) (breaker : BreakerSnapshot) (stats : ChannelStats)
    (now : ℚ) : Prop :=
  match breaker.state with
  | .closed => ¬ Trips stats config
  | .opened => now - breaker.openedAt < config.breaker.openMs
  | .halfOpen => True

theorem settled_iff {config : RoutingConfig} {breaker : BreakerSnapshot} {stats : ChannelStats}
    {now : ℚ} : Settled config breaker stats now ↔
      (evaluateBreaker breaker stats config now).state = breaker.state := by
  unfold Settled
  cases h : breaker.state with
  | closed =>
      rw [evaluateBreaker_closed h]
      dsimp only
      by_cases htrips : Trips stats config
      · simp [htrips]
      · simp [htrips, h]
  | opened =>
      rw [evaluateBreaker_opened h]
      dsimp only
      by_cases htime : config.breaker.openMs ≤ now - breaker.openedAt
      · simp [htime, not_lt.mpr htime]
      · simp [htime, not_le.mp htime, h]
  | halfOpen => simp [evaluateBreaker_halfOpen h, h]

instance (config : RoutingConfig) (breaker : BreakerSnapshot) (stats : ChannelStats) (now : ℚ) :
    Decidable (Settled config breaker stats now) := decidable_of_iff _ settled_iff.symm

theorem metricsOf_breakers {config : RoutingConfig} {w : World} {now : ℚ} {ids : List String}
    {id : String} (h : id ∈ ids) :
    (metricsOf config w now ids).breakers id = some (w.breakers id) := if_pos h

/-- Every line of the report shows the stored breaker. -/
theorem view_breakerState {config : RoutingConfig} {w : World} {view : ChannelHealthView}
    {localeCompare : String → String → Ordering}
    (h : view ∈ reportedViews config localeCompare w) :
    view.breakerState = (w.breakers view.id).state := by
  obtain ⟨channel, hchannel, rfl⟩ := List.mem_map.mp h
  have hmem : channel.id ∈ (channelsOf w.table defaultCorridor).map (·.id) :=
    List.mem_map_of_mem hchannel
  simp only [viewOf, metricsOf_breakers hmem, Option.map_some, Option.getD_some]

/-- A ranking depends on the states of the breakers only. -/
theorem buildCandidates_congr {localeCompare : String → String → Ordering}
    {channels : List Channel} {stats : String → Option ChannelStats}
    {breakers breakers' : String → Option BreakerSnapshot} {config : RoutingConfig}
    (h : ∀ channel ∈ channels, ((breakers channel.id).map (·.state)).getD .closed =
      ((breakers' channel.id).map (·.state)).getD .closed) :
    buildCandidates localeCompare channels stats breakers config =
      buildCandidates localeCompare channels stats breakers' config := by
  unfold buildCandidates
  dsimp only
  rw [List.map_congr_left (g := candidateOf stats breakers' config (costBoundsOf channels))]
  intro channel hchannel
  simp only [candidateOf, h channel hchannel]

section

variable {config : Config} {w : World} {localeCompare : String → String → Ordering}
  {request : RouteRequest}

theorem ids_reportedViews : (reportedViews config.routing localeCompare w).map (·.id) =
    (channelsOf w.table defaultCorridor).map (·.id) := by
  unfold reportedViews
  rw [List.map_map]
  rfl

/-- Where no breaker is due to move, the router ranks as the report does. -/
theorem candidatesAt_of_settled
    (hchannels : routeChannels w request = channelsOf w.table defaultCorridor)
    (hsettled : ∀ channel ∈ channelsOf w.table defaultCorridor, Settled config.routing
      (w.breakers channel.id)
      ((w.windows channel.id).statsAt config.routing channel.id w.now) w.now) :
    candidatesAt config.routing localeCompare w request =
      reportedCandidates config.routing localeCompare w := by
  unfold candidatesAt routeCandidates reportedCandidates
  rw [hchannels]
  refine buildCandidates_congr fun channel hchannel => ?_
  have hmem : channel.id ∈ (channelsOf w.table defaultCorridor).map (·.id) :=
    List.mem_map_of_mem hchannel
  simp only [refreshedBreakers, if_pos hmem, refreshedBreaker_metricsOf hmem,
    metricsOf_breakers hmem, Option.map_some, Option.getD_some,
    settled_iff.mp (hsettled channel hchannel)]

/-- A breaker for which report and router say the same is not due to move. -/
theorem Agrees.settled (h : Agrees (channelsOf w.table defaultCorridor)
      (reportedViews config.routing localeCompare w)
      (candidatesAt config.routing localeCompare w request)) {channel : Channel}
    (hchannel : channel ∈ channelsOf w.table defaultCorridor) :
    Settled config.routing (w.breakers channel.id)
      ((w.windows channel.id).statsAt config.routing channel.id w.now) w.now := by
  rw [settled_iff]
  have hmem : channel.id ∈ (reportedViews config.routing localeCompare w).map (·.id) := by
    rw [ids_reportedViews]
    exact List.mem_map_of_mem hchannel
  obtain ⟨view, hview, hid⟩ := List.mem_map.mp hmem
  obtain ⟨c, hc, hcid, hshows⟩ := h.shows view hview
  have hstate := hshows.breakerState
  rw [view_breakerState hview, candidatesAt_breakerState hc, hcid, hid] at hstate
  exact hstate.symm

/-- Each line says what its candidate says, but for the breaker, which is the stored one. -/
theorem shows_reported {view : ChannelHealthView}
    (hview : view ∈ reportedViews config.routing localeCompare w) :
    ∃ c ∈ reportedCandidates config.routing localeCompare w, c.channelId = view.id ∧
      (c.breakerState = (w.breakers view.id).state → Shows view c) := by
  have hshown := view_breakerState hview
  obtain ⟨channel, hchannel, rfl⟩ := List.mem_map.mp hview
  obtain ⟨c, hc, hid, hfind⟩ := find?_reportedCandidates config localeCompare hchannel
  refine ⟨c, hc, hid, fun hstate => ?_⟩
  constructor
  · simp [viewOf, hfind]
  · simp [viewOf, hfind]
  · simp [viewOf, hfind]
  · simp [viewOf, hfind]
  · exact hshown.trans hstate.symm

end

/-- A report that is answered agrees with the candidates of a route call that starts at
the same moment, without `supportedChannels` and with the list of the table, exactly where
no breaker is due to move. -/
theorem report_agrees_iff (config : Config) (faults : Faults)
    (localeCompare : String → String → Ordering) (w : World) (request : RouteRequest)
    (answer : ChannelHealthReport)
    (hanswer : ((report config.routing localeCompare).run config faults w).1 = .ok answer)
    (hcorridor : request.corridor = defaultCorridor) (hall : request.supportedChannels = none)
    (hlist : lookup w w.now defaultCorridor = channelsOf w.table defaultCorridor) :
    Agrees (channelsOf w.table defaultCorridor) answer.channels
        (candidatesAt config.routing localeCompare w request) ↔
      ∀ channel ∈ channelsOf w.table defaultCorridor, Settled config.routing
        (w.breakers channel.id)
        ((w.windows channel.id).statsAt config.routing channel.id w.now) w.now := by
  have hchannels : routeChannels w request = channelsOf w.table defaultCorridor := by
    unfold routeChannels reachable
    rw [hall, hcorridor, hlist]
  rw [report_answer hanswer]
  constructor
  · intro h channel hchannel
    exact h.settled hchannel
  · intro hsettled
    have hsame : candidatesAt config.routing localeCompare w request =
        reportedCandidates config.routing localeCompare w :=
      candidatesAt_of_settled hchannels hsettled
    refine ⟨ids_reportedViews, ?_, ?_⟩
    · intro view hview
      obtain ⟨c, hc, hid, hshows⟩ := shows_reported hview
      refine ⟨c, hsame ▸ hc, hid, hshows ?_⟩
      obtain ⟨channel, hchannel, rfl⟩ := List.mem_map.mp hview
      rw [candidatesAt_breakerState (hsame ▸ hc), hid]
      exact settled_iff.mp (hsettled channel hchannel)
    · rw [ids_reportedViews, ← hchannels]
      exact (recordOf_candidatesAt config.routing localeCompare w request).ids

/-- One channel whose breaker has been open for its time. -/
def elapsedWorld : World :=
  (World.fresh 60000 seededA).setBreaker "RAIL-A"
    { state := .opened, openedAt := 30000, probeSuccess := 0 }

theorem report_differs_elapsed :
    ∃ answer, ((report defaultConfig.routing compare).run defaultConfig noFaults
        elapsedWorld).1 = .ok answer ∧
      ¬ Agrees (channelsOf elapsedWorld.table defaultCorridor) answer.channels
        (candidatesAt defaultConfig.routing compare elapsedWorld anyRequest) := by
  refine ⟨_, rfl, fun h => ?_⟩
  have hrouter : ∀ c ∈ candidatesAt defaultConfig.routing compare elapsedWorld anyRequest,
      c.breakerState = .halfOpen := by decide +kernel
  obtain ⟨c, hc, -, hshows⟩ := h.shows _ List.mem_cons_self
  have hstate := hshows.breakerState.symm.trans (show _ = BreakerState.opened from rfl)
  rw [hrouter c hc] at hstate
  cases hstate

/-- The breaker of the channel opened ten seconds ago. -/
def recentWorld : World :=
  (World.fresh 60000 seededA).setBreaker "RAIL-A"
    { state := .opened, openedAt := 50000, probeSuccess := 0 }

theorem report_agrees_recent :
    ∃ answer, ((report defaultConfig.routing compare).run defaultConfig noFaults
        recentWorld).1 = .ok answer ∧
      Agrees (channelsOf recentWorld.table defaultCorridor) answer.channels
        (candidatesAt defaultConfig.routing compare recentWorld anyRequest) := by
  refine ⟨_, rfl, (report_agrees_iff defaultConfig noFaults compare recentWorld anyRequest _ rfl
    rfl rfl (by decide +kernel)).mpr ?_⟩
  intro channel hchannel
  have hrail : channel = toChannel railA := by
    simpa [recentWorld, channelsOf, World.fresh, World.setBreaker, seededA, railA] using hchannel
  subst hrail
  decide +kernel

end SwitchService.Services
