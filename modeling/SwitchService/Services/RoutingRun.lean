import SwitchService.Services.RoutingService

set_option autoImplicit false

/-!
# Services: what one route call does

The run of `route`, stage by stage and with any calls failing: the refresh of the
breakers, the choice with its probe slot, and the call as a whole.
-/

namespace SwitchService.Services

open SwitchService.Foundation SwitchService.Domain SwitchService.Store
open SwitchService.Repositories

variable {config : Config} {faults : Faults} {w : World}

/-! ## The refresh -/

/-- The breakers after a refresh: each was kept or moved. -/
def RefreshedFrom (config : RoutingConfig) (metrics : Metrics) (now : ℚ) (ids : List String)
    (before stored : String → BreakerSnapshot) : Prop :=
  ∀ id, stored id = before id ∨ (id ∈ ids ∧ stored id = refreshedBreaker config metrics now id)

variable (config faults w) in
theorem run_writeRefreshed (id : String) (before after : BreakerSnapshot) :
    ∃ stored, (writeRefreshed id before after).run config faults w =
        (.ok (), { w with breakers := stored }) ∧
      ∀ other, stored other = w.breakers other ∨ (other = id ∧ stored other = after) := by
  have hkeep : ∃ stored, ((.ok (), w) : Except Failure Unit × World) =
        (.ok (), { w with breakers := stored }) ∧
      ∀ other, stored other = w.breakers other ∨ (other = id ∧ stored other = after) :=
    ⟨w.breakers, rfl, fun _ => .inl rfl⟩
  unfold writeRefreshed
  split
  · rw [run_tryCatch, run_writeBreaker]
    rcases exec_cases config faults (.writeBreaker id after) w with h | ⟨failure, h⟩
    · rw [h]
      refine ⟨Function.update w.breakers id after, rfl, fun other => ?_⟩
      by_cases heq : other = id
      · exact .inr ⟨heq, by rw [heq, Function.update_self]⟩
      · exact .inl (Function.update_of_ne heq _ _)
    · rw [h]
      exact hkeep
  · exact hkeep

variable (config faults w) in
/-- A refresh answers the moved breakers, whatever writes fail. -/
theorem run_refreshBreakers (metrics : Metrics) (now : ℚ) (ids : List String)
    (next : String → Option BreakerSnapshot) :
    ∃ stored, (refreshBreakers config.routing metrics now ids next).run config faults w =
        (.ok fun id =>
          if id ∈ ids then some (refreshedBreaker config.routing metrics now id) else next id,
          { w with breakers := stored }) ∧
      RefreshedFrom config.routing metrics now ids w.breakers stored := by
  induction ids generalizing w next with
  | nil => exact ⟨w.breakers, by simp [refreshBreakers], fun _ => .inl rfl⟩
  | cons id ids ih =>
      obtain ⟨first, hfirst, hmoved⟩ := run_writeRefreshed config faults w id
        ((metrics.breakers id).getD closedBreaker)
        (refreshedBreaker config.routing metrics now id)
      obtain ⟨stored, hrest, hstored⟩ := ih (w := { w with breakers := first })
        (Function.update next id (some (refreshedBreaker config.routing metrics now id)))
      refine ⟨stored, ?_, fun other => ?_⟩
      · unfold refreshBreakers
        rw [run_bind_ok hfirst, hrest]
        congr 2
        funext other
        by_cases heq : other = id
        · subst heq
          simp
        · simp [heq]
      · rcases hstored other with h | ⟨hmem, h⟩
        · rcases hmoved other with h' | ⟨rfl, h'⟩
          · exact .inl (h.trans h')
          · exact .inr ⟨List.mem_cons_self, h.trans h'⟩
        · exact .inr ⟨List.mem_cons_of_mem _ hmem, h⟩

/-! ## The choice -/

theorem select_eligible {config : RoutingConfig} {candidates : List Candidate} {rng rng' : Rng}
    {selection : Selection} (h : select config candidates rng = (.ok selection, rng')) :
    ∃ c ∈ candidates, c.eligible = true ∧ c.channelId = selection.channelId := by
  unfold select at h
  split at h
  · rename_i selection' rng'' hselect
    simp only [Prod.mk.injEq, Except.ok.injEq] at h
    rw [← h.1]
    exact selectChannel_eligible hselect
  · simp at h

/-- A choice among candidates is never a degraded one. -/
theorem select_strategy {config : RoutingConfig} {candidates : List Candidate} {rng rng' : Rng}
    {selection : Selection} (h : select config candidates rng = (.ok selection, rng')) :
    selection.strategy ≠ .degraded := by
  unfold select at h
  split at h
  · rename_i selection' rng'' hselect
    simp only [Prod.mk.injEq, Except.ok.injEq] at h
    rw [← h.1]
    exact selectChannel_strategy hselect
  · simp at h

/-- Marking a denied channel makes no candidate eligible. -/
theorem eligible_of_mem_markInFlight {channelId : String} {candidates : List Candidate}
    {c : Candidate} (hmem : c ∈ markInFlight channelId candidates) (hel : c.eligible = true) :
    c ∈ candidates ∧ c.channelId ≠ channelId := by
  obtain ⟨c', hc', rfl⟩ := List.mem_map.mp hmem
  split at hel
  · simp at hel
  · rename_i hne
    rw [if_neg hne]
    exact ⟨hc', hne⟩

/-- The candidates of a choice are those it was made from, or these with one marked. -/
theorem run_chooseChannel_candidates {candidates candidates' : List Candidate} {rng : Rng}
    {selection : Selection} {w' : World}
    (h : (chooseChannel config.routing candidates rng).run config faults w =
      (.ok (candidates', selection), w')) :
    candidates' = candidates ∨ ∃ id, candidates' = markInFlight id candidates := by
  unfold chooseChannel at h
  split at h
  · simp at h
  · split at h
    · rw [run_bind] at h
      split at h
      · split at h
        · simp only [Prog.pure_eq, run_ret, Prod.mk.injEq, Except.ok.injEq] at h
          exact .inl h.1.1.symm
        · dsimp only at h
          split at h
          · simp at h
          · simp only [Prog.pure_eq, run_ret, Prod.mk.injEq, Except.ok.injEq] at h
            exact .inr ⟨_, h.1.1.symm⟩
      · simp at h
    · simp only [Prog.pure_eq, run_ret, Prod.mk.injEq, Except.ok.injEq] at h
      exact .inl h.1.1.symm

/-- What is chosen is an eligible candidate. -/
theorem run_chooseChannel_eligible {candidates candidates' : List Candidate} {rng : Rng}
    {selection : Selection} {w' : World}
    (h : (chooseChannel config.routing candidates rng).run config faults w =
      (.ok (candidates', selection), w')) :
    ∃ c ∈ candidates, c.eligible = true ∧ c.channelId = selection.channelId := by
  unfold chooseChannel at h
  split at h
  · simp at h
  · rename_i first rng' hfirst
    split at h
    · rw [run_bind] at h
      split at h
      · rename_i gotSlot w₁ _
        split at h
        · simp only [Prog.pure_eq, run_ret, Prod.mk.injEq, Except.ok.injEq] at h
          rw [← h.1.2]
          exact select_eligible hfirst
        · dsimp only at h
          split at h
          · simp at h
          · rename_i second hsecond
            simp only [Prog.pure_eq, run_ret, Prod.mk.injEq, Except.ok.injEq] at h
            rw [← h.1.2]
            obtain ⟨c, hmem, hel, heq⟩ := select_eligible (Prod.ext hsecond rfl)
            exact ⟨c, (eligible_of_mem_markInFlight hmem hel).1, hel, heq⟩
      · simp at h
    · simp only [Prog.pure_eq, run_ret, Prod.mk.injEq, Except.ok.injEq] at h
      rw [← h.1.2]
      exact select_eligible hfirst

variable (config faults w) in
/-- A choice leaves the state, or takes the free probe slot of the channel it names. -/
theorem run_chooseChannel_state (candidates : List Candidate) (rng : Rng) :
    ((chooseChannel config.routing candidates rng).run config faults w).2 = w ∨
    ∃ selection, ((chooseChannel config.routing candidates rng).run config faults w) =
        (.ok (candidates, selection),
          w.setProbeSlot selection.channelId (some (w.now + probeSlotTtlMs))) ∧
      ¬ w.slotHeld selection.channelId ∧ isProbe candidates selection.channelId = true := by
  unfold chooseChannel
  split
  · exact .inl rfl
  · rename_i first rng' _
    split
    · rename_i hprobe
      rw [run_bind, run_takeProbeSlot]
      rcases exec_cases config faults (.takeProbeSlot first.channelId probeSlotTtlMs) w with
        h | ⟨failure, h⟩
      · rw [h, perform]
        by_cases hheld : w.slotHeld first.channelId
        · left
          simp only [if_pos hheld, Bool.false_eq_true, if_false]
          split <;> rfl
        · right
          simp only [if_neg hheld, if_true]
          exact ⟨first, rfl, hheld, hprobe⟩
      · rw [h]
        exact .inl rfl
    · exact .inl rfl

variable (config faults w) in
/-- The choice with its probe slot, whatever the slot call answers. -/
theorem run_chooseChannel (candidates : List Candidate) (rng : Rng) :
    (chooseChannel config.routing candidates rng).run config faults w =
      match select config.routing candidates rng with
      | (.error failure, _) => (.error failure, w)
      | (.ok first, rng) =>
          if isProbe candidates first.channelId then
            match faults (.takeProbeSlot first.channelId probeSlotTtlMs) with
            | some failure => (.error failure, w)
            | none =>
                if w.slotHeld first.channelId then
                  ((select config.routing (markInFlight first.channelId candidates) rng).1.map
                    fun second => (markInFlight first.channelId candidates, second), w)
                else (.ok (candidates, first),
                  w.setProbeSlot first.channelId (some (w.now + probeSlotTtlMs)))
          else (.ok (candidates, first), w) := by
  unfold chooseChannel
  cases hselect : select config.routing candidates rng with
  | mk result rng' =>
      cases result with
      | error failure => rfl
      | ok first =>
          dsimp only
          split
          · rw [run_bind, run_takeProbeSlot]
            cases hfault : faults (.takeProbeSlot first.channelId probeSlotTtlMs) with
            | some failure => rw [exec_of_some rfl hfault]
            | none =>
                rw [exec_of_none hfault, perform]
                by_cases hheld : w.slotHeld first.channelId
                · simp only [if_pos hheld, Bool.false_eq_true, if_false]
                  split
                  · rename_i hsecond
                    rw [hsecond]
                    rfl
                  · rename_i hsecond
                    rw [hsecond]
                    rfl
                · simp only [if_neg hheld, if_true]
                  rfl
          · rfl

/-! ## The decision with the metrics in hand -/

/-- What the metrics read answers when it is in time. -/
def metricsOf (config : RoutingConfig) (w : World) (now : ℚ) (ids : List String) : Metrics where
  stats id := if id ∈ ids then some ((w.windows id).statsAt config id now) else none
  breakers id := if id ∈ ids then some (w.breakers id) else none

/-- The breaker of a channel as a call that starts now refreshes it. -/
def refreshedAt (config : RoutingConfig) (w : World) (id : String) : BreakerSnapshot :=
  evaluateBreaker (w.breakers id) ((w.windows id).statsAt config id w.now) config w.now

theorem refreshedBreaker_metricsOf {config : RoutingConfig} {now : ℚ} {ids : List String}
    {id : String} (h : id ∈ ids) :
    refreshedBreaker config (metricsOf config w now ids) now id =
      evaluateBreaker (w.breakers id) ((w.windows id).statsAt config id now) config now := by
  simp [refreshedBreaker, metricsOf, h]

/-- The refreshed breakers as the ranking gets them. -/
def refreshedBreakers (config : RoutingConfig) (metrics : Metrics) (now : ℚ)
    (ids : List String) (id : String) : Option BreakerSnapshot :=
  if id ∈ ids then some (refreshedBreaker config metrics now id) else none

/-- The candidates that `route` ranks. -/
def routeCandidates (config : RoutingConfig) (localeCompare : String → String → Ordering)
    (channels : List Channel) (metrics : Metrics) (now : ℚ) : List Candidate :=
  buildCandidates localeCompare channels metrics.stats
    (refreshedBreakers config metrics now (channels.map (·.id))) config

variable (config faults w) in
theorem run_persist (decision : RoutingDecision) (transactionId : String) :
    ∃ decisions, (persist decision transactionId).run config faults w =
      (.ok (), { w with decisions := decisions }) := by
  unfold persist
  rw [run_tryCatch, run_insertDecision]
  rcases exec_cases config faults (.insertDecision decision transactionId) w with
    h | ⟨failure, h⟩
  · rw [h]
    exact ⟨_, rfl⟩
  · rw [h]
    exact ⟨w.decisions, rfl⟩

/-- The decision of a choice. -/
def decisionOf (config : RoutingConfig) (uuid : String) (now : ℚ)
    (chosen : List Candidate × Selection) : RoutingDecision where
  decisionId := "dec_" ++ uuid
  channelId := chosen.2.channelId
  strategy := chosen.2.strategy
  windowMs := config.windowMs
  evaluatedAt := now
  candidates := chosen.1

variable (config faults w) in
/-- With the metrics in hand a call refreshes the breakers, chooses and publishes. -/
theorem run_decideWith (localeCompare : String → String → Ordering) (rng : Rng)
    (uuid : String) (request : RouteRequest) (now : ℚ) (channels : List Channel)
    (metrics : Metrics) :
    ∃ stored decisions, RefreshedFrom config.routing metrics now (channels.map (·.id))
        w.breakers stored ∧
      (decideWith config.routing localeCompare rng uuid request now channels metrics).run
          config faults w =
        match (chooseChannel config.routing
            (routeCandidates config.routing localeCompare channels metrics now) rng).run
              config faults { w with breakers := stored } with
        | (.ok chosen, w') =>
            (.ok (decisionOf config.routing uuid w'.now chosen),
              { w' with decisions := decisions })
        | (.error failure, w') => (.error failure, w') := by
  obtain ⟨stored, hrefresh, hstored⟩ :=
    run_refreshBreakers config faults w metrics now (channels.map (·.id)) fun _ => none
  refine ⟨stored, ?_⟩
  unfold decideWith
  rw [run_bind_ok hrefresh]
  dsimp only
  rw [run_bind]
  have hcandidates : (buildCandidates localeCompare channels metrics.stats
      (fun id => if id ∈ channels.map (·.id)
        then some (refreshedBreaker config.routing metrics now id) else none)
      config.routing) = routeCandidates config.routing localeCompare channels metrics now := rfl
  rw [hcandidates]
  cases hchoose : (chooseChannel config.routing
      (routeCandidates config.routing localeCompare channels metrics now) rng).run
        config faults { w with breakers := stored } with
  | mk result w' =>
      cases result with
      | error failure => exact ⟨w'.decisions, hstored, rfl⟩
      | ok chosen =>
          obtain ⟨decisions, hpersist⟩ := run_persist config faults w'
            (decisionOf config.routing uuid w'.now chosen) request.transactionId
          refine ⟨decisions, hstored, ?_⟩
          dsimp only
          rw [run_bind_ok (run_clockNow w')]
          change Program.run config faults ((persist (decisionOf config.routing uuid w'.now
            chosen) request.transactionId) >>= fun _ => _) w' = _
          rw [run_bind_ok hpersist]
          rfl

/-! ## The whole call -/

/-- Both metrics are read in time. -/
def MetricsAnswered (faults : Faults) (ids : List String) (now : ℚ) : Prop :=
  faults (.readWindows ids now) = none ∧ faults (.readBreakers ids) = none

instance (faults : Faults) (ids : List String) (now : ℚ) :
    Decidable (MetricsAnswered faults ids now) := inferInstanceAs (Decidable (_ ∧ _))

/-- The metrics are read in time, or the call goes on without them. -/
theorem run_withBudget_readMetrics (ids : List String) (now : ℚ) :
    (withBudget (readMetrics ids now)).run config faults w =
      if MetricsAnswered faults ids now then
        (.ok (some (metricsOf config.routing w now ids)), w)
      else (.ok none, w) := by
  unfold withBudget readMetrics
  rw [run_tryCatch, run_bind, run_bind, run_readWindows]
  rcases Option.eq_none_or_eq_some (faults (.readWindows ids now)) with
    hwindows | ⟨failure, hwindows⟩
  · rw [exec_of_none hwindows, perform_readWindows]
    dsimp only
    rw [run_bind, run_readBreakers]
    rcases Option.eq_none_or_eq_some (faults (.readBreakers ids)) with
      hbreakers | ⟨failure, hbreakers⟩
    · rw [if_pos ⟨hwindows, hbreakers⟩]
      simp [exec_of_none hbreakers, perform, metricsOf]
    · rw [if_neg fun h => by simp [h.2] at hbreakers]
      simp [exec_of_some rfl hbreakers]
  · rw [if_neg fun h => by simp [h.1] at hwindows]
    simp [exec_of_some rfl hwindows]

/-- The decision of degraded mode. -/
def degradedOf (config : RoutingConfig) (uuid : String) (channels : List Channel) (now : ℚ)
    (first : Candidate) : RoutingDecision where
  decisionId := "dec_" ++ uuid
  channelId := first.channelId
  strategy := .degraded
  windowMs := config.windowMs
  evaluatedAt := now
  candidates := degradedCandidates channels

variable (config faults w) in
theorem run_degradedDecision (uuid : String) (channels : List Channel)
    (request : RouteRequest) (now : ℚ) :
    (∃ failure, (degradedDecision config.routing uuid channels request now).run config faults
        w = (.error failure, w)) ∨
    ∃ first ∈ degradedCandidates channels, ∃ decisions, first.eligible = true ∧
      (degradedDecision config.routing uuid channels request now).run config faults w =
        (.ok (degradedOf config.routing uuid channels now first),
          { w with decisions := decisions }) := by
  unfold degradedDecision
  split
  · exact .inl ⟨_, rfl⟩
  · rename_i first hfind
    obtain ⟨decisions, hpersist⟩ := run_persist config faults w
      (degradedOf config.routing uuid channels now first) request.transactionId
    refine .inr ⟨first, List.mem_of_find?_eq_some hfind, decisions,
      by simpa using List.find?_some hfind, ?_⟩
    change Program.run config faults (persist (degradedOf config.routing uuid channels now
      first) request.transactionId >>= fun _ => _) w = _
    rw [run_bind_ok hpersist]
    rfl

/-- The channels that a call chooses from. -/
def routeChannels (w : World) (request : RouteRequest) : List Channel :=
  reachable request (lookup w w.now request.corridor)

/-- The channel list comes from the cache, or from a query that is answered. -/
def ListAnswered (faults : Faults) (w : World) (now : ℚ) (corridor : String) : Prop :=
  cachedAt now w.cache ≠ none ∨ faults (.queryChannels corridor) = none

instance (faults : Faults) (w : World) (now : ℚ) (corridor : String) :
    Decidable (ListAnswered faults w now corridor) := inferInstanceAs (Decidable (_ ∨ _))

variable (config faults w) in
theorem run_listChannelsCached_cases (now : ℚ) (corridor : String) :
    (¬ ListAnswered faults w now corridor ∧ ∃ failure,
      (listChannelsCached now corridor).run config faults w = (.error failure, w)) ∨
    (ListAnswered faults w now corridor ∧
      (listChannelsCached now corridor).run config faults w =
        (.ok (lookup w now corridor), afterLookup w now corridor)) := by
  cases hquery : faults (.queryChannels corridor) with
  | none => exact .inr ⟨.inr hquery, run_listChannelsCached hquery⟩
  | some failure =>
      have hrefill : (refillCache now corridor).run config faults w = (.error failure, w) := by
        simp [refillCache, listChannels, run_bind, exec_of_some rfl hquery]
      unfold listChannelsCached ListAnswered
      rw [run_bind_ok (run_getCache w)]
      cases hcache : w.cache with
      | none => exact .inl ⟨by simp [cachedAt, hquery], failure, hrefill⟩
      | some entry =>
          by_cases hfresh : now - entry.filledAt < cacheTtlMs
          · right
            simp [lookup, afterLookup, hcache, cachedAt, hfresh]
          · left
            exact ⟨by simp [cachedAt, hfresh, hquery], failure,
              by simpa [hfresh] using hrefill⟩

/-- A call gets the channel list and both metrics. -/
def Informed (faults : Faults) (w : World) (request : RouteRequest) : Prop :=
  ListAnswered faults w w.now request.corridor ∧
    MetricsAnswered faults ((routeChannels w request).map (·.id)) w.now

instance (faults : Faults) (w : World) (request : RouteRequest) :
    Decidable (Informed faults w request) := inferInstanceAs (Decidable (_ ∧ _))

/-- The error of a call that has no channel to choose from. -/
def noChannel (request : RouteRequest) (all : List Channel) : Failure :=
  .noEligibleChannel
    (if all = [] then "no channel is configured for this corridor"
      else "no channel is eligible for this corridor")
    (.corridor request.corridor)

theorem metricsOf_afterLookup (now : ℚ) (corridor : String) (ids : List String) :
    metricsOf config.routing (afterLookup w w.now corridor) now ids =
      metricsOf config.routing w now ids := by
  simp [metricsOf]

/-- A call with a channel list refuses, decides with the stored metrics, or decides
without them. -/
theorem run_route_listed (localeCompare : String → String → Ordering) (rng : Rng)
    (uuid : String) (request : RouteRequest)
    (hlist : (listChannelsCached w.now request.corridor).run config faults w =
      (.ok (lookup w w.now request.corridor), afterLookup w w.now request.corridor)) :
    (route config.routing localeCompare rng uuid request).run config faults w =
      if routeChannels w request = [] then
        (.error (noChannel request (lookup w w.now request.corridor)),
          afterLookup w w.now request.corridor)
      else if MetricsAnswered faults ((routeChannels w request).map (·.id)) w.now then
        (decideWith config.routing localeCompare rng uuid request w.now (routeChannels w request)
          (metricsOf config.routing w w.now ((routeChannels w request).map (·.id)))).run
            config faults (afterLookup w w.now request.corridor)
      else (degradedDecision config.routing uuid (routeChannels w request) request w.now).run
        config faults (afterLookup w w.now request.corridor) := by
  unfold route
  rw [run_bind_ok (run_clockNow w), run_bind_ok hlist]
  unfold routeAmong routeChannels
  dsimp only
  split
  · rfl
  · rw [run_bind, run_withBudget_readMetrics]
    by_cases hmetrics : MetricsAnswered faults
        ((reachable request (lookup w w.now request.corridor)).map (·.id)) w.now
    · rw [if_pos hmetrics, if_pos hmetrics, metricsOf_afterLookup]
    · rw [if_neg hmetrics, if_neg hmetrics]

variable (config faults w) in
/-- A call fails before it chose, decides in degraded mode, or decides with the stored
metrics. -/
theorem run_route_cases (localeCompare : String → String → Ordering) (rng : Rng)
    (uuid : String) (request : RouteRequest) :
    (∃ failure w', (route config.routing localeCompare rng uuid request).run config faults w =
        (.error failure, w') ∧ (w' = w ∨ w' = afterLookup w w.now request.corridor) ∧
        (routeChannels w request = [] ∨ ¬ Informed faults w request)) ∨
    (∃ first ∈ degradedCandidates (routeChannels w request), ∃ decisions,
      first.eligible = true ∧
      ¬ MetricsAnswered faults ((routeChannels w request).map (·.id)) w.now ∧
      (route config.routing localeCompare rng uuid request).run config faults w =
        (.ok (degradedOf config.routing uuid (routeChannels w request) w.now first),
          { afterLookup w w.now request.corridor with decisions := decisions })) ∨
    (Informed faults w request ∧
      (route config.routing localeCompare rng uuid request).run config faults w =
        (decideWith config.routing localeCompare rng uuid request w.now (routeChannels w request)
          (metricsOf config.routing w w.now ((routeChannels w request).map (·.id)))).run
            config faults (afterLookup w w.now request.corridor)) := by
  rcases run_listChannelsCached_cases config faults w w.now
    request.corridor with ⟨hlist, failure, h⟩ | ⟨hlist, h⟩
  · refine .inl ⟨failure, w, ?_, .inl rfl, .inr fun hinformed => hlist hinformed.1⟩
    unfold route
    rw [run_bind_ok (run_clockNow w), run_bind_error h]
  · rw [run_route_listed localeCompare rng uuid request h]
    by_cases hempty : routeChannels w request = []
    · rw [if_pos hempty]
      exact .inl ⟨_, _, rfl, .inr rfl, .inl hempty⟩
    · rw [if_neg hempty]
      by_cases hmetrics : MetricsAnswered faults ((routeChannels w request).map (·.id)) w.now
      · rw [if_pos hmetrics]
        exact .inr (.inr ⟨⟨hlist, hmetrics⟩, rfl⟩)
      · rw [if_neg hmetrics]
        rcases run_degradedDecision config faults
          (afterLookup w w.now request.corridor) uuid (routeChannels w request) request
          w.now with ⟨failure, hdegraded⟩ | ⟨first, hmem, decisions, hel, hdegraded⟩
        · exact .inl ⟨failure, _, hdegraded, .inr rfl, .inr fun h => hmetrics h.2⟩
        · exact .inr (.inl ⟨first, hmem, decisions, hel, hmetrics, hdegraded⟩)

/-! ## What a decision shows -/

theorem mem_markInFlight {id : String} {candidates : List Candidate} {c : Candidate}
    (h : c ∈ markInFlight id candidates) : ∃ c' ∈ candidates, c'.channelId = c.channelId := by
  obtain ⟨c', hc', rfl⟩ := List.mem_map.mp h
  refine ⟨c', hc', ?_⟩
  split <;> rfl

theorem mem_degradedCandidates {channels : List Channel} {c : Candidate}
    (h : c ∈ degradedCandidates channels) : ∃ channel ∈ channels, channel.id = c.channelId := by
  obtain ⟨i, hi, rfl⟩ := List.mem_mapIdx.mp h
  exact ⟨channels[i], List.getElem_mem hi, rfl⟩

theorem mem_lookup_of_mem_routeChannels {request : RouteRequest} {channel : Channel}
    (h : channel ∈ routeChannels w request) : channel ∈ lookup w w.now request.corridor := by
  unfold routeChannels reachable at h
  split at h
  · exact (List.mem_filter.mp h).1
  · exact h

/-- A decision shows and names channels of the list that the call obtained. -/
theorem route_decision_channels {localeCompare : String → String → Ordering} {rng : Rng}
    {uuid : String} {request : RouteRequest} {decision : RoutingDecision}
    (h : ((route config.routing localeCompare rng uuid request).run config faults w).1 =
      .ok decision) :
    (∀ c ∈ decision.candidates, ∃ channel ∈ lookup w w.now request.corridor,
      channel.id = c.channelId) ∧
    ∃ channel ∈ lookup w w.now request.corridor, channel.id = decision.channelId := by
  rcases run_route_cases config faults w localeCompare rng uuid
    request with ⟨failure, w', hrun, _⟩ | ⟨first, hfirst, decisions, _, _, hrun⟩ | ⟨_, hrun⟩
  · simp [hrun] at h
  · have hmem : ∀ c ∈ degradedCandidates (routeChannels w request),
        ∃ channel ∈ lookup w w.now request.corridor, channel.id = c.channelId := by
      intro c hc
      obtain ⟨channel, hchannel, hid⟩ := mem_degradedCandidates hc
      exact ⟨channel, mem_lookup_of_mem_routeChannels hchannel, hid⟩
    simp only [hrun, Except.ok.injEq] at h
    subst h
    exact ⟨hmem, hmem first hfirst⟩
  · obtain ⟨stored, decisions, _, hdecide⟩ := run_decideWith config faults
      (afterLookup w w.now request.corridor) localeCompare rng uuid
      request w.now (routeChannels w request)
      (metricsOf config.routing w w.now ((routeChannels w request).map (·.id)))
    rw [hrun, hdecide] at h
    split at h
    · rename_i chosen w' hchoose
      have hmem : ∀ c ∈ routeCandidates config.routing localeCompare (routeChannels w request)
          (metricsOf config.routing w w.now ((routeChannels w request).map (·.id))) w.now,
          ∃ channel ∈ lookup w w.now request.corridor, channel.id = c.channelId := by
        intro c hc
        obtain ⟨⟨channel, hchannel, hid⟩, _⟩ := buildCandidates_breakerState hc
        exact ⟨channel, mem_lookup_of_mem_routeChannels hchannel, hid⟩
      simp only [Except.ok.injEq] at h
      subst h
      constructor
      · intro c hc
        change c ∈ chosen.1 at hc
        rcases run_chooseChannel_candidates hchoose with heq | ⟨id, heq⟩
        · rw [heq] at hc
          exact hmem c hc
        · rw [heq] at hc
          obtain ⟨c', hc', hid⟩ := mem_markInFlight hc
          rw [← hid]
          exact hmem c' hc'
      · obtain ⟨c, hc, _, hid⟩ := run_chooseChannel_eligible hchoose
        obtain ⟨channel, hchannel, heq⟩ := hmem c hc
        exact ⟨channel, hchannel, heq.trans hid⟩
    · simp at h

/-! ## What a call changes -/

/-- The state after a route call: only the cache, the breakers, one probe slot and the
decision log can differ. -/
structure RouteEffect (config : Config) (uuid : String) (request : RouteRequest)
    (w : World) (result : Except Failure RoutingDecision) (w' : World) : Prop where
  now : w'.now = w.now
  table : w'.table = w.table
  windows : w'.windows = w.windows
  processed : w'.processed = w.processed
  cache : w'.cache = w.cache ∨ w'.cache = (afterLookup w w.now request.corridor).cache
  breakers : ∀ id, w'.breakers id = w.breakers id ∨
    w'.breakers id = refreshedAt config.routing w id
  probeSlots : w'.probeSlots = w.probeSlots ∨ ∃ decision, result = .ok decision ∧
    decision.decisionId = "dec_" ++ uuid ∧ ¬ w.slotHeld decision.channelId ∧
    w'.probeSlots = Function.update w.probeSlots decision.channelId
      (some (w.now + probeSlotTtlMs))

theorem routeEffect_afterLookup {uuid : String} {request : RouteRequest}
    {result : Except Failure RoutingDecision} (decisions : List (RoutingDecision × String)) :
    RouteEffect config uuid request w result
      { afterLookup w w.now request.corridor with decisions := decisions } where
  now := by simp
  table := by simp
  windows := by simp
  processed := by simp
  cache := .inr rfl
  breakers _ := .inl (by simp)
  probeSlots := .inl (by simp)

theorem routeEffect_self {uuid : String} {request : RouteRequest}
    {result : Except Failure RoutingDecision} : RouteEffect config uuid request w result w where
  now := rfl
  table := rfl
  windows := rfl
  processed := rfl
  cache := .inl rfl
  breakers _ := .inl rfl
  probeSlots := .inl rfl

/-- A decision with the metrics in hand keeps to `RouteEffect`. -/
theorem routeEffect_decideWith (localeCompare : String → String → Ordering) (rng : Rng)
    (uuid : String) (request : RouteRequest) :
    RouteEffect config uuid request w
      ((decideWith config.routing localeCompare rng uuid request w.now (routeChannels w request)
        (metricsOf config.routing w w.now ((routeChannels w request).map (·.id)))).run
          config faults (afterLookup w w.now request.corridor)).1
      ((decideWith config.routing localeCompare rng uuid request w.now (routeChannels w request)
        (metricsOf config.routing w w.now ((routeChannels w request).map (·.id)))).run
          config faults (afterLookup w w.now request.corridor)).2 := by
  obtain ⟨stored, decisions, hstored, hdecide⟩ := run_decideWith config faults
    (afterLookup w w.now request.corridor) localeCompare rng uuid
    request w.now (routeChannels w request)
    (metricsOf config.routing w w.now ((routeChannels w request).map (·.id)))
  have hbreakers : ∀ id, stored id = w.breakers id ∨
      stored id = refreshedAt config.routing w id := by
    intro id
    rcases hstored id with h | ⟨hmem, h⟩
    · exact .inl (by simpa using h)
    · exact .inr (by rw [h, refreshedBreaker_metricsOf hmem]; rfl)
  rw [hdecide]
  rcases run_chooseChannel_state config faults
    { afterLookup w w.now request.corridor with breakers := stored }
    (routeCandidates config.routing localeCompare (routeChannels w request)
      (metricsOf config.routing w w.now ((routeChannels w request).map (·.id))) w.now) rng
    with h | ⟨selection, h, hfree, _⟩
  · -- The choice left the state.
    split
    · rename_i chosen w' hchoose
      rw [hchoose] at h
      dsimp only at h
      subst h
      exact { now := by simp, table := by simp, windows := by simp, processed := by simp
              cache := .inr rfl, breakers := hbreakers, probeSlots := .inl (by simp) }
    · rename_i failure w' hchoose
      rw [hchoose] at h
      dsimp only at h
      subst h
      exact { now := by simp, table := by simp, windows := by simp, processed := by simp
              cache := .inr rfl, breakers := hbreakers, probeSlots := .inl (by simp) }
  · -- The choice took a slot.
    rw [h]
    exact
      { now := by simp, table := by simp, windows := by simp, processed := by simp
        cache := .inr rfl, breakers := hbreakers
        probeSlots := .inr ⟨_, rfl, rfl, by simpa [World.slotHeld, decisionOf] using hfree,
          by simp [decisionOf]⟩ }

/-- Every route call, with any calls failing, keeps to `RouteEffect`. -/
theorem routeEffect (config : Config) (faults : Faults)
    (localeCompare : String → String → Ordering) (rng : Rng) (uuid : String)
    (request : RouteRequest) (w : World) :
    RouteEffect config uuid request w
      ((route config.routing localeCompare rng uuid request).run config faults w).1
      ((route config.routing localeCompare rng uuid request).run config faults w).2 := by
  rcases run_route_cases config faults w localeCompare rng uuid
    request with ⟨failure, w', h, rfl | rfl, _⟩ | ⟨first, _, decisions, _, _, h⟩ | ⟨_, h⟩
  · rw [h]
    exact routeEffect_self
  · rw [h]
    exact routeEffect_afterLookup _
  · rw [h]
    exact routeEffect_afterLookup decisions
  · rw [h]
    exact routeEffect_decideWith localeCompare rng uuid request

end SwitchService.Services
