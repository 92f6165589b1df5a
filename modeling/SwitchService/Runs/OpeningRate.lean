import SwitchService.Runs.System

set_option autoImplicit false

/-!
# Runs: when a closed breaker opens

The header of the breaker opens it on a failure rate at or above the threshold;
`evaluateBreaker` opens it on a success rate below the threshold.  Outcomes of one channel
are handled one after another, and the two rules are compared at every one of them.
-/

namespace SwitchService.Runs

open SwitchService.Foundation SwitchService.Domain SwitchService.Store
open SwitchService.Repositories SwitchService.Consumer SwitchService.Services

/-! ## The two rules -/

/-- The share of failures in a window. -/
def failureRate (stats : ChannelStats) : ℚ := stats.failure / (stats.success + stats.failure)

/-- The window holds enough outcomes, and the share of failures is at or above the
threshold. -/
def Due (config : RoutingConfig) (stats : ChannelStats) : Prop :=
  config.minSamples ≤ stats.success + stats.failure ∧
    Number.le config.breaker.failureRateThreshold (.fin (failureRate stats)) = true

instance (config : RoutingConfig) (stats : ChannelStats) : Decidable (Due config stats) :=
  inferInstanceAs (Decidable (_ ∧ _))

/-- With enough outcomes, the share of successes is below the threshold exactly when the
share of failures is at or above it. -/
def SharesAgree (config : RoutingConfig) (stats : ChannelStats) : Prop :=
  config.minSamples ≤ stats.success + stats.failure →
    (Number.lt (.fin (breakerSuccessRate stats)) config.breaker.failureRateThreshold = true ↔
      Number.le config.breaker.failureRateThreshold (.fin (failureRate stats)) = true)

instance (config : RoutingConfig) (stats : ChannelStats) : Decidable (SharesAgree config stats) :=
  inferInstanceAs (Decidable (_ → _))

theorem sharesAgree_iff {config : RoutingConfig} {stats : ChannelStats} :
    SharesAgree config stats ↔ (Trips stats config ↔ Due config stats) := by
  unfold SharesAgree Trips Due
  constructor
  · intro h
    constructor
    · intro ⟨hsamples, hrate⟩
      exact ⟨hsamples, (h hsamples).mp hrate⟩
    · intro ⟨hsamples, hrate⟩
      exact ⟨hsamples, (h hsamples).mpr hrate⟩
  · intro h hsamples
    simpa [hsamples] using h

/-- The two shares sum to 1, so for a finite threshold the rules differ on the windows whose
share of failures lies between the threshold and its complement. -/
theorem sharesAgree_fin_iff {config : RoutingConfig} {stats : ChannelStats} {threshold : ℚ}
    (hthreshold : config.breaker.failureRateThreshold = .fin threshold)
    (hpositive : 0 < stats.success + stats.failure) :
    SharesAgree config stats ↔ (config.minSamples ≤ stats.success + stats.failure →
      ¬ (threshold ≤ failureRate stats ∧ failureRate stats ≤ 1 - threshold) ∧
        ¬ (1 - threshold < failureRate stats ∧ failureRate stats < threshold)) := by
  have hsum : breakerSuccessRate stats = 1 - failureRate stats := by
    unfold breakerSuccessRate failureRate
    simp only [hpositive.ne', if_false]
    field_simp
    ring
  unfold SharesAgree
  rw [hthreshold, hsum]
  simp only [Number.lt_fin, Number.le_fin, decide_eq_true_eq]
  refine imp_congr_right fun _ => ?_
  constructor
  · intro h
    constructor
    · rintro ⟨hlow, hhigh⟩
      have := h.mpr hlow
      linarith
    · rintro ⟨hlow, hhigh⟩
      have := h.mp (by linarith)
      linarith
  · rintro ⟨hlate, hearly⟩
    constructor
    · intro hrate
      by_contra hless
      exact hearly ⟨by linarith, not_le.mp hless⟩
    · intro hrate
      by_contra hless
      exact hlate ⟨hrate, by linarith⟩

/-! ## A sequence of outcomes -/

/-- A valid event, and how long after the last one its message is handled. -/
structure Delivery where
  elapsed : ℚ≥0
  message : Json
  event : TxnOutcomeEvent
  valid : outcomeEventSchema message = .valid event

/-- The handler takes the event; one of a newer schema version is ignored. -/
def Delivery.counts (d : Delivery) : Prop := d.event.schemaVersion ≤ maxSupportedSchemaVersion

instance (d : Delivery) : Decidable d.counts := inferInstanceAs (Decidable (_ ≤ _))

/-- The state after a message was handled. -/
def handleNext (config : Config) (w : World) (d : Delivery) : World :=
  (handled config d.message { w with now := w.now + d.elapsed }).2

/-- The window of a channel that ends now. -/
def windowNow (config : Config) (channelId : String) (w : World) : ChannelStats :=
  (w.windows channelId).statsAt config.routing channelId w.now

/-- The breaker stays CLOSED until the first event after which the window is due, and is
OPEN after that one. -/
def OpensWhenDue (config : Config) (channelId : String) : World → List Delivery → Prop
  | _, [] => True
  | w, d :: rest =>
      let w' := handleNext config w d
      if d.counts ∧ Due config.routing (windowNow config channelId w') then
        (w'.breakers channelId).state = .opened
      else (w'.breakers channelId).state = .closed ∧ OpensWhenDue config channelId w' rest

instance (config : Config) (channelId : String) :
    (w : World) → (deliveries : List Delivery) →
      Decidable (OpensWhenDue config channelId w deliveries)
  | _, [] => inferInstanceAs (Decidable True)
  | w, d :: rest =>
      have : Decidable (OpensWhenDue config channelId (handleNext config w d) rest) :=
        instDecidableOpensWhenDue config channelId (handleNext config w d) rest
      inferInstanceAs (Decidable (ite _ _ _))

/-- The two rules agree on the window after every event, up to the first that is due. -/
def RatesAgree (config : RoutingConfig) (channelId : String) :
    Buckets → ℚ → List Delivery → Prop
  | _, _, [] => True
  | buckets, now, d :: rest =>
      let now' := now + d.elapsed
      if d.counts then
        let buckets' := buckets.recorded config d.event.success d.event.latencyMs now'
        SharesAgree config (buckets'.statsAt config channelId now') ∧
          (¬ Due config (buckets'.statsAt config channelId now') →
            RatesAgree config channelId buckets' now' rest)
      else RatesAgree config channelId buckets now' rest

instance (config : RoutingConfig) (channelId : String) :
    (buckets : Buckets) → (now : ℚ) → (deliveries : List Delivery) →
      Decidable (RatesAgree config channelId buckets now deliveries)
  | _, _, [] => inferInstanceAs (Decidable True)
  | _, now, d :: rest =>
      have (buckets' : Buckets) : Decidable (RatesAgree config channelId buckets'
          (now + d.elapsed) rest) :=
        instDecidableRatesAgree config channelId buckets' (now + d.elapsed) rest
      inferInstanceAs (Decidable (ite _ (_ ∧ (_ → _)) _))

/-! ## The channel is known and the events are new -/

/-- Every lookup from now on lists the channel. -/
def Listed (w : World) (channelId : String) : Prop :=
  ∀ t, w.now ≤ t → (lookup w t defaultCorridor).any (·.id = channelId) = true

/-- The state in which the rest of the events is handled. -/
structure Ready (w : World) (channelId : String) (rest : List Delivery) : Prop where
  closed : (w.breakers channelId).state = .closed
  listed : Listed w channelId
  unmarked : ∀ d ∈ rest, ¬ w.marked d.event.eventId

section

variable {config : Config} {w : World} {channelId : String} {d : Delivery}
  {rest : List Delivery}

/-- A lookup keeps a listed channel listed. -/
theorem Listed.afterLookup (h : Listed w channelId) (now : ℚ) (hnow : w.now ≤ now)
    {w' : World} (htable : w'.table = w.table)
    (hcache : w'.cache = (afterLookup w now defaultCorridor).cache) (hlater : w.now ≤ w'.now) :
    Listed w' channelId := by
  intro t ht
  unfold lookup
  rw [htable, hcache]
  unfold Repositories.afterLookup
  split
  · exact h t (hlater.trans ht)
  · rename_i hstale
    have hlisted := h now hnow
    unfold lookup at hlisted
    rw [hstale, Option.getD_none] at hlisted
    dsimp only [cachedAt]
    split
    · exact hlisted
    · exact hlisted

/-! ## One event -/

/-- The state in which the message of a delivery is handled. -/
def arrival (w : World) (d : Delivery) : World := { w with now := w.now + d.elapsed }

theorem now_le_arrival (w : World) (d : Delivery) : w.now ≤ (arrival w d).now :=
  le_add_of_nonneg_right d.elapsed.2

/-- A message of a newer schema version only finds the clock moved. -/
theorem handleNext_ignored (h : ¬ d.counts) : handleNext config w d = arrival w d := by
  have hunsupported : supportedEvent d.message = none := by
    unfold supportedEvent
    rw [d.valid]
    exact if_neg h
  exact handled_unsupported hunsupported

theorem handleNext_counts (h : d.counts) (hready : Ready w channelId (d :: rest))
    (hchannel : d.event.channelId = channelId) :
    handleNext config w d = afterDelivery config d.event (arrival w d) := by
  have happlied : appliedEvent (arrival w d) d.message = some d.event := by
    refine appliedEvent_eq_some.mpr ⟨supportedEvent_eq_some.mpr ⟨d.valid, h⟩, ?_, ?_⟩
    · rw [hchannel]
      exact hready.listed _ (now_le_arrival w d)
    · intro hmarked
      exact hready.unmarked d List.mem_cons_self (liveAt_mono (now_le_arrival w d) hmarked)
  exact congrArg Prod.snd (handled_applied happlied)

variable (config) in
/-- The window and the breaker after an event that counts. -/
theorem handleNext_moved (h : d.counts) (hready : Ready w channelId (d :: rest))
    (hchannel : d.event.channelId = channelId) :
    (handleNext config w d).now = w.now + d.elapsed ∧
      (handleNext config w d).windows channelId = (w.windows channelId).recorded config.routing
        d.event.success d.event.latencyMs (w.now + d.elapsed) ∧
      (handleNext config w d).breakers channelId = evaluateBreaker (w.breakers channelId)
        (windowNow config channelId (handleNext config w d)) config.routing
          (w.now + d.elapsed) := by
  have hclosed := hready.closed
  unfold windowNow
  rw [handleNext_counts h hready hchannel]
  subst hchannel
  simp [arrival, movedBreaker, hclosed]

variable (config) in
theorem ready_ignored (h : ¬ d.counts) (hready : Ready w channelId (d :: rest)) :
    Ready (handleNext config w d) channelId rest := by
  rw [handleNext_ignored h]
  exact
    { closed := hready.closed
      listed := fun t ht => hready.listed t ((now_le_arrival w d).trans ht)
      unmarked := fun e he hmarked => hready.unmarked e (List.mem_cons_of_mem _ he)
        (liveAt_mono (now_le_arrival w d) hmarked) }

/-- An event that does not trip the breaker leaves the rest of the events to be handled. -/
theorem ready_counts (h : d.counts) (hready : Ready w channelId (d :: rest))
    (hchannel : d.event.channelId = channelId)
    (hnodup : ((d :: rest).map (·.event.eventId)).Nodup)
    (htrips : ¬ Trips (windowNow config channelId (handleNext config w d)) config.routing) :
    Ready (handleNext config w d) channelId rest := by
  obtain ⟨hnow, _, hbreaker⟩ := handleNext_moved config h hready hchannel
  refine ⟨?_, ?_, fun e he hmarked => ?_⟩
  · rw [hbreaker, evaluateBreaker_closed hready.closed, if_neg htrips]
    exact hready.closed
  · have hlisted : Listed (arrival w d) channelId :=
      fun t ht => hready.listed t ((now_le_arrival w d).trans ht)
    rw [handleNext_counts h hready hchannel]
    exact hlisted.afterLookup (arrival w d).now (le_refl _) (by simp) (by simp [afterKnown])
      (by simp)
  · have hne : e.event.eventId ≠ d.event.eventId := by
      intro heq
      exact (List.nodup_cons.mp hnodup).1 (List.mem_map.mpr ⟨e, he, heq⟩)
    have hbefore : (arrival w d).marked e.event.eventId := by
      rw [handleNext_counts h hready hchannel] at hmarked
      simpa [World.marked, Function.update_of_ne hne] using hmarked
    exact hready.unmarked e (List.mem_cons_of_mem _ he)
      (liveAt_mono (now_le_arrival w d) hbefore)

/-! ## All the events -/

/-- Distinct valid events of a known channel, handled one after another, open its closed
breaker when the failure rate says so, exactly if the success rate agrees with it. -/
theorem opensWhenDue_iff (config : Config) (w : World) (channelId : String)
    (deliveries : List Delivery) (hready : Ready w channelId deliveries)
    (hchannel : ∀ d ∈ deliveries, d.event.channelId = channelId)
    (hnodup : (deliveries.map (·.event.eventId)).Nodup) :
    OpensWhenDue config channelId w deliveries ↔
      RatesAgree config.routing channelId (w.windows channelId) w.now deliveries := by
  induction deliveries generalizing w with
  | nil => exact Iff.rfl
  | cons d rest ih =>
      have hrest := fun e he => hchannel e (List.mem_cons_of_mem d he)
      have hnodup' := (List.nodup_cons.mp hnodup).2
      unfold OpensWhenDue RatesAgree
      dsimp only
      by_cases hcounts : d.counts
      · have hthis := hchannel d List.mem_cons_self
        obtain ⟨hnow, hwindow, hbreaker⟩ :=
          handleNext_moved config hcounts hready hthis
        have hstats : ((w.windows channelId).recorded config.routing d.event.success
            d.event.latencyMs (w.now + d.elapsed)).statsAt config.routing channelId
              (w.now + d.elapsed) = windowNow config channelId (handleNext config w d) := by
          rw [windowNow, hwindow, hnow]
        rw [if_pos hcounts, hstats, sharesAgree_iff]
        set stats := windowNow config channelId (handleNext config w d) with hset
        rw [evaluateBreaker_closed hready.closed] at hbreaker
        by_cases htrips : Trips stats config.routing
        · rw [if_pos htrips] at hbreaker
          by_cases hdue : Due config.routing stats
          · rw [if_pos ⟨hcounts, hdue⟩, hbreaker]
            exact iff_of_true rfl ⟨iff_of_true htrips hdue, fun hnot => absurd hdue hnot⟩
          · rw [if_neg fun h => hdue h.2, hbreaker]
            exact iff_of_false (by simp) fun h => hdue (h.1.mp htrips)
        · rw [if_neg htrips] at hbreaker
          by_cases hdue : Due config.routing stats
          · rw [if_pos ⟨hcounts, hdue⟩, hbreaker, hready.closed]
            exact iff_of_false (by simp) fun h => htrips (h.1.mpr hdue)
          · have hnext := ready_counts hcounts hready hthis hnodup htrips
            rw [if_neg fun h => hdue h.2, ih _ hnext hrest hnodup', hwindow, hnow]
            constructor
            · intro h
              exact ⟨iff_of_false htrips hdue, fun _ => h.2⟩
            · intro h
              exact ⟨hnext.closed, h.2 hdue⟩
      · have hnext := ready_ignored config hcounts hready
        rw [if_neg fun h => hcounts h.1, if_neg hcounts, ih _ hnext hrest hnodup']
        constructor
        · intro h
          rw [handleNext_ignored hcounts] at h
          exact h.2
        · intro h
          refine ⟨hnext.closed, ?_⟩
          rw [handleNext_ignored hcounts]
          exact h

/-- An outcome of a seeded channel, right after the last one. -/
def outcomeDelivery (status : OutcomeStatus) (n : ℕ) : Delivery where
  elapsed := 0
  message := (payoutOutcome ("evt_" ++ toString n) "dec_1" "RAIL-A" status).toJson
  event := payoutOutcome ("evt_" ++ toString n) "dec_1" "RAIL-A" status
  valid := by
    refine payoutOutcome_message status (fun h => ?_) (by decide) (by decide)
    have hlength := congrArg String.length h
    simp at hlength

/-- A fifth of the payouts may fail. -/
def fifthEnv (name : String) : Option String :=
  if name = "BREAKER_FAILURE_RATE_THRESHOLD" then some "0.2" else none

/-- Fifteen good payouts and five failed ones. -/
def quarterFailed : List Delivery :=
  (List.range 15).map (outcomeDelivery .success) ++
    (List.range' 15 5).map (outcomeDelivery .failed)

theorem opens_late : ∃ config, loadConfig fifthEnv = .ok config ∧
    config.routing.breaker.failureRateThreshold = .fin (1 / 5) ∧
    ¬ OpensWhenDue config "RAIL-A" (World.fresh 0 seededA) quarterFailed := by
  have hlate : (loadConfig fifthEnv).toOption.any (fun config =>
      config.routing.breaker.failureRateThreshold = .fin (1 / 5) ∧
        ¬ OpensWhenDue config "RAIL-A" (World.fresh 0 seededA) quarterFailed) = true := by
    decide +kernel
  cases hload : loadConfig fifthEnv with
  | error e =>
      rw [hload] at hlate
      cases hlate
  | ok config =>
      rw [hload] at hlate
      exact ⟨config, rfl, of_decide_eq_true hlate⟩

theorem ready_fresh {deliveries : List Delivery} :
    Ready (World.fresh 0 seededA) "RAIL-A" deliveries where
  closed := rfl
  listed t _ := by
    change (channelsOf seededA defaultCorridor).any (·.id = "RAIL-A") = true
    decide
  unmarked _ _ := id

theorem opensWhenDue_all_failed : OpensWhenDue defaultConfig "RAIL-A" (World.fresh 0 seededA)
    ((List.range 20).map (outcomeDelivery .failed)) :=
  (opensWhenDue_iff defaultConfig (World.fresh 0 seededA) "RAIL-A" _ ready_fresh
    (by decide) (by decide)).mpr (by decide +kernel)

end

end SwitchService.Runs
