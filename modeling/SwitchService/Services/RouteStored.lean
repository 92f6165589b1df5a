import SwitchService.Services.RoutingRun

set_option autoImplicit false

/-!
# Services: what a route call leaves in Redis (`services/routingService.ts`)

A call writes the breakers that its refresh moved, so that Redis holds what the decision was
made from.  The stored hashes may hold anything: what is read of them is a snapshot that
reads back when it is written, and a refresh at the same moment moves nothing twice.
-/

namespace SwitchService.Services

open SwitchService.Foundation SwitchService.Domain SwitchService.Store
open SwitchService.Repositories SwitchService.Store.BreakerStore

variable {config : Config} {faults : Faults} {b : Backend}

/-! ## The refresh -/

/-- At one moment a refreshed breaker moves no further. -/
theorem evaluateBreaker_idem {config : RoutingConfig} (hopen : 0 < config.breaker.openMs)
    (current : BreakerSnapshot) (stats : ChannelStats) (now : ℚ) :
    evaluateBreaker (evaluateBreaker current stats config now) stats config now =
      evaluateBreaker current stats config now := by
  rcases evaluateBreaker_cases current stats config now with he | ⟨_, _, he⟩ | ⟨_, _, he⟩
  · rw [he, he]
  · have hearly : ¬ config.breaker.openMs ≤ now - now := by
      rw [sub_self]
      exact not_le.mpr hopen
    rw [he, evaluateBreaker_opened rfl, if_neg hearly]
  · rw [he]
    exact evaluateBreaker_halfOpen rfl

/-- The change test of the refresh misses no change. -/
theorem writeRefreshed_self_iff {config : RoutingConfig} {metrics : Metrics} {now : ℚ}
    {id : String} {before : BreakerSnapshot}
    (hbefore : (metrics.breakers id).getD closedBreaker = before) :
    ((refreshedBreaker config metrics now id).state ≠ before.state ∨
        (refreshedBreaker config metrics now id).openedAt ≠ before.openedAt) ↔
      refreshedBreaker config metrics now id ≠ before := by
  unfold refreshedBreaker
  rw [hbefore, ne_eq (evaluateBreaker _ _ _ _) before, evaluateBreaker_eq_iff_state]
  constructor
  · rintro (hstate | hopened)
    · exact hstate
    · intro hstate
      exact hopened (congrArg BreakerSnapshot.openedAt (evaluateBreaker_eq_iff_state.mpr hstate))
  · exact Or.inl

variable (config) in
/-- One step of the refresh leaves the refreshed breaker in its key. -/
theorem backend_writeRefreshed {id : String} {before after : BreakerSnapshot}
    (hwrite : faults (.writeBreaker id after) = none) (hhash : HoldsHash b.now b.db id)
    (hstorable : Storable after)
    (hchange : (after.state ≠ before.state ∨ after.openedAt ≠ before.openedAt) ↔
      after ≠ before)
    (hshown : shown b.now b.db id = before ∨ shown b.now b.db id = after) :
    ∃ db, b.run config faults (writeRefreshed id before after) = (.ok (), { b with db := db }) ∧
      HoldsHash b.now db id ∧ shown b.now db id = after ∧
      ∀ key, key ≠ breakerKey id → db key = b.db key := by
  unfold writeRefreshed
  split
  · obtain ⟨db, hdb, hhash', hshown', hothers⟩ := write_eq hhash hstorable
    refine ⟨db, ?_, hhash', hshown', hothers⟩
    rw [Backend.run_tryCatch, writeBreaker, Backend.run_await, Backend.exec_of_none hwrite]
    simp [Backend.perform, Backend.commit, hdb, Except.map]
  · rename_i hsame
    have heq : after = before := by
      by_contra hne
      exact hsame (hchange.mpr hne)
    refine ⟨b.db, rfl, hhash, ?_, fun _ _ => rfl⟩
    rcases hshown with h | h
    · rw [h, heq]
    · exact h

/-- The metrics show the breakers that are stored, or that the refresh has already moved. -/
def ShowsMetrics (config : RoutingConfig) (metrics : Metrics) (now : ℚ) (db : Redis.Keyspace)
    (id : String) : Prop :=
  HoldsHash now db id ∧
    (shown now db id = (metrics.breakers id).getD closedBreaker ∨
      shown now db id = refreshedBreaker config metrics now id)

theorem ShowsMetrics.congr {config : RoutingConfig} {metrics : Metrics} {now : ℚ}
    {db db' : Redis.Keyspace} {id : String} (h : ShowsMetrics config metrics now db id)
    (hsame : db' (breakerKey id) = db (breakerKey id)) :
    ShowsMetrics config metrics now db' id := by
  refine ⟨h.1.congr hsame, ?_⟩
  rw [shown_congr (by rw [hsame])]
  exact h.2

variable (config) in
/-- The refresh leaves every refreshed breaker in its key and no other key changed. -/
theorem backend_refreshBreakers {metrics : Metrics} (ids : List String)
    (next : String → Option BreakerSnapshot)
    (hwrites : ∀ id snapshot, faults (.writeBreaker id snapshot) = none)
    (hmetrics : ∀ id ∈ ids, Storable ((metrics.breakers id).getD closedBreaker))
    (hshows : ∀ id ∈ ids, ShowsMetrics config.routing metrics b.now b.db id) :
    ∃ db, b.run config faults (refreshBreakers config.routing metrics b.now ids next) =
        (.ok fun id => if id ∈ ids then some (refreshedBreaker config.routing metrics b.now id)
          else next id, { b with db := db }) ∧
      (∀ id ∈ ids, HoldsHash b.now db id ∧
        shown b.now db id = refreshedBreaker config.routing metrics b.now id) ∧
      ∀ key, (∀ id ∈ ids, key ≠ breakerKey id) → db key = b.db key := by
  induction ids generalizing b next with
  | nil => exact ⟨b.db, by simp [refreshBreakers], by simp, fun _ _ => rfl⟩
  | cons id ids ih =>
      obtain ⟨hhash, hshown⟩ := hshows id List.mem_cons_self
      have hstorable : Storable (refreshedBreaker config.routing metrics b.now id) :=
        (hmetrics id List.mem_cons_self).evaluate (Number.isDecimal_natCast b.now) _ _
      obtain ⟨first, hfirst, hhash', hshown', hothers⟩ := backend_writeRefreshed config
        (hwrites id _) hhash hstorable (writeRefreshed_self_iff rfl) hshown
      have hkeep : ∀ other, other ≠ id → first (breakerKey other) = b.db (breakerKey other) :=
        fun other hne => hothers _ fun hkey => hne (breakerKey_inj.mp hkey)
      have hrest : ∀ other ∈ ids, ShowsMetrics config.routing metrics b.now first other := by
        intro other hmem
        by_cases heq : other = id
        · subst heq
          exact ⟨hhash', .inr hshown'⟩
        · exact (hshows other (List.mem_cons_of_mem _ hmem)).congr (hkeep other heq)
      obtain ⟨db, hrun, hstored, hframe⟩ := ih (b := { b with db := first })
        (Function.update next id (some (refreshedBreaker config.routing metrics b.now id)))
        (fun other hmem => hmetrics other (List.mem_cons_of_mem _ hmem)) hrest
      refine ⟨db, ?_, ?_, ?_⟩
      · unfold refreshBreakers
        rw [Backend.run_bind_ok hfirst, hrun]
        congr 2
        funext other
        by_cases heq : other = id
        · subst heq
          simp
        · simp [heq]
      · intro other hmem
        by_cases hin : other ∈ ids
        · exact hstored other hin
        · obtain rfl : other = id := by simpa [hin] using hmem
          have hsame : db (breakerKey other) = first (breakerKey other) :=
            hframe _ fun later hlater hkey => hin (breakerKey_inj.mp hkey ▸ hlater)
          exact ⟨hhash'.congr hsame, (shown_congr (by rw [hsame])).trans hshown'⟩
      · intro key hkey
        rw [hframe key fun other hmem => hkey other (List.mem_cons_of_mem _ hmem)]
        exact hothers key (hkey id List.mem_cons_self)

/-! ## The rest of a call -/

variable (config faults b) in
/-- A probe slot is taken under its own key. -/
theorem backend_takeProbeSlot (channelId : String) (ttlMs : ℚ) :
    ∃ result db, b.run config faults (takeProbeSlot channelId ttlMs) =
        (result, { b with db := db }) ∧
      ∀ key, key ≠ probeLockKey channelId → db key = b.db key := by
  unfold Store.takeProbeSlot
  rw [Backend.run_await]
  rcases Backend.exec_cases config faults (.takeProbeSlot channelId ttlMs) b with
    h | ⟨failure, h⟩
  · rw [h]
    rcases Backend.commit_cases b (BreakerStore.takeProbeSlot channelId ttlMs b.now b.db) with
      ⟨gotSlot, db, hslot, hcommit⟩ | ⟨message, hcommit⟩
    · exact ⟨_, db, hcommit, fun key hkey => takeProbeSlot_other hslot hkey⟩
    · exact ⟨_, b.db, hcommit, fun _ _ => rfl⟩
  · exact ⟨_, b.db, h, fun _ _ => rfl⟩

variable (config faults b) in
/-- A choice touches no key but probe locks, and marks one candidate at most. -/
theorem backend_chooseChannel (candidates : List Candidate) (rng : Rng) :
    ∃ db, (b.run config faults (chooseChannel config.routing candidates rng)).2 =
        { b with db := db } ∧
      (∀ key, (∀ id, key ≠ probeLockKey id) → db key = b.db key) ∧
      ∀ chosen, (b.run config faults (chooseChannel config.routing candidates rng)).1 =
        .ok chosen → chosen.1 = candidates ∨ ∃ id, chosen.1 = markInFlight id candidates := by
  unfold chooseChannel
  split
  · exact ⟨b.db, rfl, fun _ _ => rfl, by simp⟩
  · rename_i first rng' _
    split
    · obtain ⟨result, db, hslot, hothers⟩ := backend_takeProbeSlot config faults b
        first.channelId probeSlotTtlMs
      rw [Backend.run_bind, hslot]
      cases result with
      | error failure => exact ⟨db, rfl, fun key hkey => hothers key (hkey _), by simp⟩
      | ok gotSlot =>
          refine ⟨db, ?_, fun key hkey => hothers key (hkey _), ?_⟩
          · dsimp only
            split
            · rfl
            · split <;> rfl
          · intro chosen hchosen
            dsimp only at hchosen
            split at hchosen
            · simp only [Prog.pure_eq, Backend.run_ret, Except.ok.injEq] at hchosen
              exact .inl (by rw [← hchosen])
            · split at hchosen
              · simp at hchosen
              · simp only [Prog.pure_eq, Backend.run_ret, Except.ok.injEq] at hchosen
                exact .inr ⟨first.channelId, by rw [← hchosen]⟩
    · refine ⟨b.db, rfl, fun _ _ => rfl, fun chosen hchosen => .inl ?_⟩
      simp only [Prog.pure_eq, Backend.run_ret, Except.ok.injEq] at hchosen
      rw [← hchosen]

variable (config faults b) in
theorem backend_persist (decision : RoutingDecision) (transactionId : String) :
    ∃ decisions, b.run config faults (persist decision transactionId) =
      (.ok (), { b with decisions := decisions }) := by
  unfold persist
  rw [Backend.run_tryCatch, insertDecision, Backend.run_await]
  rcases Backend.exec_cases config faults (.insertDecision decision transactionId) b with
    h | ⟨failure, h⟩
  · rw [h]
    exact ⟨_, rfl⟩
  · rw [h]
    exact ⟨b.decisions, rfl⟩

/-- The metrics that a read in time finds in Redis. -/
def storedMetrics (config : RoutingConfig) (ids : List String) (now : ℚ)
    (db : Redis.Keyspace) : Metrics where
  stats id :=
    if id ∈ ids then
      some (WindowStore.statsOfReplies id ((WindowStore.ofConfig config).windowShown id now db))
    else none
  breakers id := if id ∈ ids then some (shown now db id) else none

variable (config) in
/-- The metrics are read without touching Redis. -/
theorem backend_readMetrics {ids : List String} (h : MetricsAnswered faults ids b.now) :
    b.run config faults (readMetrics ids b.now) =
      (.ok (storedMetrics config.routing ids b.now b.db), b) := by
  have hwindows : b.run config faults (readWindows ids b.now) =
      (.ok (storedMetrics config.routing ids b.now b.db).stats, b) := by
    rw [readWindows, Backend.run_await, Backend.exec_of_none h.1, Backend.perform,
      WindowStore.readMany_eq config.accepted.bucketMs]
    rfl
  have hbreakers : b.run config faults (readBreakers ids) =
      (.ok (storedMetrics config.routing ids b.now b.db).breakers, b) := by
    rw [readBreakers, Backend.run_await, Backend.exec_of_none h.2, Backend.perform, readMany_eq]
    rfl
  unfold readMetrics
  rw [Backend.run_bind_ok hwindows, Backend.run_bind_ok hbreakers]
  rfl

theorem backend_withBudget_readMetrics {ids : List String}
    (h : MetricsAnswered faults ids b.now) :
    b.run config faults (withBudget (readMetrics ids b.now)) =
      (.ok (some (storedMetrics config.routing ids b.now b.db)), b) := by
  unfold withBudget
  rw [Backend.run_tryCatch, Backend.run_bind_ok (backend_readMetrics config h)]
  rfl

/-- The channels that a call considers: those of the cached list, or of the table. -/
def considered (b : Backend) (request : RouteRequest) : List Channel :=
  reachable request ((cachedAt b.now b.cache).getD (channelsOf b.table request.corridor))

/-- A call gets the channel list and both metrics, so it is not degraded. -/
def BackendInformed (faults : Faults) (b : Backend) (request : RouteRequest) : Prop :=
  (cachedAt b.now b.cache ≠ none ∨ faults (.queryChannels request.corridor) = none) ∧
    MetricsAnswered faults ((considered b request).map (·.id)) b.now

/-- What a call leaves of the breakers that it considered, with the metrics it read and the
snapshots that its refresh passed on: the considered breakers read as passed on, the others
are as before, and the metrics read again at the same moment show the same windows and are
refreshed without any call. -/
structure StoredAsPassed (config : Config) (b : Backend) (ids : List String)
    (metrics : Metrics) (passed : String → Option BreakerSnapshot) (b' : Backend) : Prop where
  read : ∀ id ∈ ids, ∃ snapshot, passed id = some snapshot ∧
    BreakerStore.read id b.now b'.db = .ok snapshot
  others : ∀ id, id ∉ ids → b'.db (breakerKey id) = b.db (breakerKey id)
  again : ∃ metrics', b'.run config noFaults (readMetrics ids b.now) = (.ok metrics', b') ∧
    metrics'.stats = metrics.stats ∧
    refreshBreakers config.routing metrics' b.now ids (fun _ => none) = .ret passed

/-- A refresh of breakers that do not move makes no call. -/
theorem refreshBreakers_still {config : RoutingConfig} {metrics : Metrics} {now : ℚ}
    {ids : List String} (next : String → Option BreakerSnapshot)
    (h : ∀ id ∈ ids,
      refreshedBreaker config metrics now id = (metrics.breakers id).getD closedBreaker) :
    refreshBreakers config metrics now ids next = .ret fun id =>
      if id ∈ ids then some (refreshedBreaker config metrics now id) else next id := by
  induction ids generalizing next with
  | nil => simp [refreshBreakers]
  | cons id ids ih =>
      unfold refreshBreakers
      have hskip : writeRefreshed id ((metrics.breakers id).getD closedBreaker)
          (refreshedBreaker config metrics now id) = .ret () := by
        simp [writeRefreshed, h id List.mem_cons_self]
      dsimp only
      rw [hskip, Prog.ret_bind, ih _ fun other hmem => h other (List.mem_cons_of_mem _ hmem)]
      congr 1
      funext other
      by_cases heq : other = id
      · subst heq
        simp
      · simp [heq]

/-- The snapshots that the refresh of the stored metrics gives. -/
def passedOn (config : RoutingConfig) (ids : List String) (now : ℚ) (db : Redis.Keyspace)
    (id : String) : Option BreakerSnapshot :=
  if id ∈ ids then some (refreshedBreaker config (storedMetrics config ids now db) now id)
  else none

theorem storedMetrics_breaker {config : RoutingConfig} {ids : List String} {now : ℚ}
    {db : Redis.Keyspace} {id : String} (h : id ∈ ids) :
    ((storedMetrics config ids now db).breakers id).getD closedBreaker = shown now db id := by
  simp [storedMetrics, h]

variable (config) in
/-- The refresh of the metrics that are stored. -/
theorem backend_refreshStored {ids : List String}
    (hwrites : ∀ id snapshot, faults (.writeBreaker id snapshot) = none)
    (hhash : ∀ id ∈ ids, HoldsHash b.now b.db id) :
    ∃ db, b.run config faults (refreshBreakers config.routing
        (storedMetrics config.routing ids b.now b.db) b.now ids fun _ => none) =
          (.ok (passedOn config.routing ids b.now b.db), { b with db := db }) ∧
      (∀ id ∈ ids, HoldsHash b.now db id ∧ shown b.now db id =
        refreshedBreaker config.routing (storedMetrics config.routing ids b.now b.db) b.now
          id) ∧
      ∀ key, (∀ id ∈ ids, key ≠ breakerKey id) → db key = b.db key := by
  refine backend_refreshBreakers config ids (fun _ => none) hwrites (fun id hmem => ?_)
    fun id hmem => ⟨hhash id hmem, .inl (storedMetrics_breaker hmem).symm⟩
  rw [storedMetrics_breaker hmem]
  exact shown_storable _ _ _

/-- A keyspace with the refreshed breakers, in which no window has changed. -/
theorem storedAsPassed_of_frame {ids : List String} {b' : Backend} (hnow : b'.now = b.now)
    (hstored : ∀ id ∈ ids, HoldsHash b.now b'.db id ∧ shown b.now b'.db id =
      refreshedBreaker config.routing (storedMetrics config.routing ids b.now b.db) b.now id)
    (hframe : ∀ key, (∀ id ∈ ids, key ≠ breakerKey id) → (∀ id, key ≠ probeLockKey id) →
      b'.db key = b.db key) :
    StoredAsPassed config b ids (storedMetrics config.routing ids b.now b.db)
      (passedOn config.routing ids b.now b.db) b' := by
  have hwindows : (storedMetrics config.routing ids b.now b'.db).stats =
      (storedMetrics config.routing ids b.now b.db).stats := by
    have hcounters : ∀ channelId id,
        b'.db (bucketKey channelId id) = b.db (bucketKey channelId id) := fun _ _ =>
      hframe _ (fun _ _ => ne_of_keyFamily (by simp)) fun _ => ne_of_keyFamily (by simp)
    have hsamples : ∀ channelId id,
        b'.db (latencyKey channelId id) = b.db (latencyKey channelId id) := fun _ _ =>
      hframe _ (fun _ _ => ne_of_keyFamily (by simp)) fun _ => ne_of_keyFamily (by simp)
    funext id
    unfold storedMetrics
    dsimp only
    rw [WindowStore.windowShown_congr (fun _ => by rw [hcounters]) fun _ => by rw [hsamples]]
  -- The breakers that were passed on are those that the second read finds.
  have hstill : ∀ id ∈ ids, refreshedBreaker config.routing
      (storedMetrics config.routing ids b.now b'.db) b.now id =
        refreshedBreaker config.routing (storedMetrics config.routing ids b.now b.db) b.now
          id := by
    intro id hmem
    have hbreaker := (hstored id hmem).2
    unfold refreshedBreaker at hbreaker ⊢
    simp only [storedMetrics_breaker hmem] at hbreaker ⊢
    rw [hwindows, hbreaker]
    exact evaluateBreaker_idem config.accepted.openMs _ _ _
  refine ⟨fun id hmem => ⟨_, if_pos hmem, ?_⟩, fun id hnot => ?_, _, ?_, hwindows, ?_⟩
  · rw [read_eq (hstored id hmem).1, (hstored id hmem).2]
  · exact hframe _ (fun other hmem hkey => hnot (breakerKey_inj.mp hkey ▸ hmem))
      fun _ => ne_of_keyFamily (by simp)
  · rw [← hnow]
    exact backend_readMetrics config ⟨rfl, rfl⟩
  · rw [refreshBreakers_still]
    · unfold passedOn
      congr 1
      funext id
      split
      · rename_i hmem
        rw [hstill id hmem]
      · rfl
    · intro id hmem
      rw [hstill id hmem, storedMetrics_breaker hmem, (hstored id hmem).2]

/-- Probe slots that are taken and released after the refresh change nothing of it. -/
theorem storedAsPassed_of_probes {ids : List String} {db : Redis.Keyspace} {b' : Backend}
    (hnow : b'.now = b.now)
    (hstored : ∀ id ∈ ids, HoldsHash b.now db id ∧ shown b.now db id =
      refreshedBreaker config.routing (storedMetrics config.routing ids b.now b.db) b.now id)
    (hframe : ∀ key, (∀ id ∈ ids, key ≠ breakerKey id) → db key = b.db key)
    (hprobe : ∀ key, (∀ id, key ≠ probeLockKey id) → b'.db key = db key) :
    StoredAsPassed config b ids (storedMetrics config.routing ids b.now b.db)
      (passedOn config.routing ids b.now b.db) b' := by
  have hsame : ∀ id, b'.db (breakerKey id) = db (breakerKey id) := fun _ =>
    hprobe _ fun _ => ne_of_keyFamily (by simp)
  refine storedAsPassed_of_frame hnow (fun id hmem => ?_) fun key hkey hlock => ?_
  · rw [shown_congr (by rw [hsame])]
    exact ⟨(hstored id hmem).1.congr (hsame id), (hstored id hmem).2⟩
  · rw [hprobe key hlock]
    exact hframe key hkey

/-! ## The whole call -/

/-- The candidates that a call ranks with the snapshots that its refresh passed on. -/
def storedCandidates (config : RoutingConfig) (localeCompare : String → String → Ordering)
    (channels : List Channel) (b : Backend) : List Candidate :=
  buildCandidates localeCompare channels
    (storedMetrics config (channels.map (·.id)) b.now b.db).stats
    (passedOn config (channels.map (·.id)) b.now b.db) config

/-- The candidates of a decision are the ranked ones, or these with one in flight. -/
def DecidedFrom (candidates : List Candidate) (result : Except Failure RoutingDecision) :
    Prop :=
  ∀ decision, result = .ok decision →
    decision.candidates = candidates ∨ ∃ id, decision.candidates = markInFlight id candidates

variable (config) in
/-- A decision with the stored metrics in hand leaves Redis with what it was made from. -/
theorem backend_decideWith (localeCompare : String → String → Ordering) (rng : Rng)
    (uuid : String) (request : RouteRequest) (channels : List Channel)
    (hwrites : ∀ id snapshot, faults (.writeBreaker id snapshot) = none)
    (hhash : ∀ id ∈ channels.map (·.id), HoldsHash b.now b.db id) :
    ∃ result b', b.run config faults (decideWith config.routing localeCompare rng uuid request
        b.now channels (storedMetrics config.routing (channels.map (·.id)) b.now b.db)) =
          (result, b') ∧
      DecidedFrom (storedCandidates config.routing localeCompare channels b) result ∧
      StoredAsPassed config b (channels.map (·.id))
        (storedMetrics config.routing (channels.map (·.id)) b.now b.db)
        (passedOn config.routing (channels.map (·.id)) b.now b.db) b' := by
  obtain ⟨db, hrefresh, hstored, hframe⟩ := backend_refreshStored config hwrites hhash
  obtain ⟨db', hstate, hprobe, hchosen⟩ := backend_chooseChannel config faults
    { b with db := db } (storedCandidates config.routing localeCompare channels b) rng
  have hafter : ∀ b' : Backend, b'.now = b.now → b'.db = db' →
      StoredAsPassed config b (channels.map (·.id))
        (storedMetrics config.routing (channels.map (·.id)) b.now b.db)
        (passedOn config.routing (channels.map (·.id)) b.now b.db) b' := by
    rintro b' hnow rfl
    exact storedAsPassed_of_probes hnow hstored hframe hprobe
  unfold decideWith
  rw [Backend.run_bind_ok hrefresh]
  dsimp only
  rw [Backend.run_bind]
  have hcandidates : buildCandidates localeCompare channels
      (storedMetrics config.routing (channels.map (·.id)) b.now b.db).stats
      (passedOn config.routing (channels.map (·.id)) b.now b.db) config.routing =
        storedCandidates config.routing localeCompare channels b := rfl
  rw [hcandidates]
  cases hchoose : Backend.run config faults (chooseChannel config.routing
      (storedCandidates config.routing localeCompare channels b) rng) { b with db := db } with
  | mk result b₁ =>
      rw [hchoose] at hstate hchosen
      dsimp only at hstate hchosen
      cases result with
      | error failure =>
          exact ⟨_, _, rfl, by simp [DecidedFrom], hafter b₁ (by rw [hstate]) (by rw [hstate])⟩
      | ok chosen =>
          obtain ⟨decisions, hpersist⟩ := backend_persist config faults b₁
            (decisionOf config.routing uuid b₁.now chosen) request.transactionId
          dsimp only
          rw [Backend.run_bind_ok Backend.run_clockNow]
          change ∃ result b', Backend.run config faults ((persist (decisionOf config.routing uuid
            b₁.now chosen) request.transactionId) >>= fun _ => _) b₁ = _ ∧ _
          rw [Backend.run_bind_ok hpersist]
          refine ⟨_, _, rfl, fun decision hdecision => ?_,
            hafter _ (by rw [hstate]) (by rw [hstate])⟩
          obtain rfl := Except.ok.inj hdecision
          exact hchosen chosen rfl

variable (config) in
/-- A call that gets its metrics refuses, or decides with them. -/
theorem backend_routeAmong (localeCompare : String → String → Ordering) (rng : Rng)
    (uuid : String) (request : RouteRequest) (all : List Channel)
    (hmetrics : MetricsAnswered faults ((reachable request all).map (·.id)) b.now) :
    b.run config faults (routeAmong config.routing localeCompare rng uuid request b.now all) =
      if reachable request all = [] then (.error (noChannel request all), b)
      else b.run config faults (decideWith config.routing localeCompare rng uuid request b.now
        (reachable request all) (storedMetrics config.routing ((reachable request all).map (·.id))
          b.now b.db)) := by
  unfold routeAmong
  dsimp only
  split
  · rfl
  · rw [Backend.run_bind_ok (backend_withBudget_readMetrics hmetrics)]

/-- What a call that is not degraded decided on is what Redis holds. -/
theorem route_stored (config : Config) (faults : Faults) (b : Backend)
    (localeCompare : String → String → Ordering) (rng : Rng) (uuid : String)
    (request : RouteRequest) (hinformed : BackendInformed faults b request)
    (hwrites : ∀ id snapshot, faults (.writeBreaker id snapshot) = none)
    (hhash : ∀ id ∈ (considered b request).map (·.id), HoldsHash b.now b.db id) :
    ∃ metrics passed result b',
      b.run config faults (readMetrics ((considered b request).map (·.id)) b.now) =
        (.ok metrics, b) ∧
      (b.run config faults (refreshBreakers config.routing metrics b.now
        ((considered b request).map (·.id)) fun _ => none)).1 = .ok passed ∧
      b.run config faults (route config.routing localeCompare rng uuid request) =
        (result, b') ∧
      DecidedFrom (buildCandidates localeCompare (considered b request) metrics.stats passed
        config.routing) result ∧
      StoredAsPassed config b ((considered b request).map (·.id)) metrics passed b' := by
  obtain ⟨hlist, hmetrics⟩ := hinformed
  obtain ⟨cache, hlisted⟩ := backend_listChannelsCached config hlist
  refine ⟨storedMetrics config.routing ((considered b request).map (·.id)) b.now b.db,
    passedOn config.routing ((considered b request).map (·.id)) b.now b.db, ?_⟩
  have hpassed : (b.run config faults (refreshBreakers config.routing (storedMetrics
      config.routing ((considered b request).map (·.id)) b.now b.db) b.now
        ((considered b request).map (·.id)) fun _ => none)).1 =
      .ok (passedOn config.routing ((considered b request).map (·.id)) b.now b.db) := by
    obtain ⟨db, hrefresh, _⟩ := backend_refreshStored config hwrites hhash
    rw [hrefresh]
  have hroute : b.run config faults (route config.routing localeCompare rng uuid request) =
      if considered b request = [] then
        (.error (noChannel request ((cachedAt b.now b.cache).getD
          (channelsOf b.table request.corridor))), { b with cache := cache })
      else Backend.run config faults (decideWith config.routing localeCompare rng uuid request
        b.now (considered b request) (storedMetrics config.routing
          ((considered b request).map (·.id)) b.now b.db)) { b with cache := cache } := by
    unfold route
    rw [Backend.run_bind_ok Backend.run_clockNow, Backend.run_bind_ok hlisted]
    exact backend_routeAmong config (b := { b with cache := cache }) localeCompare rng uuid
      request _ hmetrics
  have hread := backend_readMetrics config hmetrics
  by_cases hempty : considered b request = []
  · rw [if_pos hempty] at hroute
    refine ⟨_, _, hread, hpassed, hroute, by simp [DecidedFrom], ?_⟩
    exact storedAsPassed_of_frame rfl (by simp [hempty]) fun _ _ _ => rfl
  · obtain ⟨result, b', hdecide, hdecided, hstored⟩ := backend_decideWith config
      (b := { b with cache := cache }) localeCompare rng uuid request (considered b request)
      hwrites hhash
    rw [if_neg hempty] at hroute
    exact ⟨result, b', hread, hpassed, hroute.trans hdecide, hdecided,
      hstored.read, hstored.others, hstored.again⟩

/-- A hash that says the breaker is open, with damaged numbers. -/
def damagedBreaker : Redis.Stored where
  value := .hash fun name =>
    if name = "state" then some "OPEN" else if name = "openedAt" then some "soon" else none
  expiresAt := none

/-- One channel, whose breaker is damaged. -/
def damagedBackend : Backend where
  now := 60000
  db := Function.update Redis.empty (breakerKey "RAIL-A") (some damagedBreaker)
  table := seededA
  cache := none
  decisions := []

/-- A request without a limit. -/
def plainRequest : RouteRequest where
  transactionId := "txn-1"
  corridor := defaultCorridor
  supportedChannels := none

/-- The theorem at a damaged breaker: what is read after the call is what was passed on. -/
theorem route_stored_at :
    ∃ (passed : String → Option BreakerSnapshot) (snapshot : BreakerSnapshot),
      passed "RAIL-A" = some snapshot ∧
      BreakerStore.read "RAIL-A" 60000 (damagedBackend.run defaultConfig noFaults
        (route defaultRoutingConfig compare (Stream'.const 0) "1" plainRequest)).2.db =
          .ok snapshot := by
  have hids : (considered damagedBackend plainRequest).map (·.id) = ["RAIL-A"] := by
    decide +kernel
  obtain ⟨metrics, passed, result, b', _, _, hroute, _, hstored⟩ := route_stored defaultConfig
    noFaults damagedBackend compare (Stream'.const 0) "1" plainRequest ⟨.inr rfl, rfl, rfl⟩
    (fun _ _ => rfl) (by
      intro id hmem
      rw [hids] at hmem
      obtain rfl := List.mem_singleton.mp hmem
      exact ⟨_, rfl⟩)
  obtain ⟨snapshot, hpassed, hread⟩ := hstored.read "RAIL-A" (by rw [hids]; decide)
  refine ⟨passed, snapshot, hpassed, ?_⟩
  rw [show defaultRoutingConfig = defaultConfig.routing from rfl, hroute]
  exact_mod_cast hread

end SwitchService.Services
