import SwitchService.Server

set_option autoImplicit false

/-!
# Consumer: a failed delivery and its retry

`handle` claims the event before it writes the outcome.  When a store call fails
after the claim, the consumer leaves the message pending and delivers it again;
the second delivery finds the claim and stops.  This module says for each store
call what the two deliveries leave behind.
-/

namespace SwitchService.Consumer

open SwitchService.Foundation SwitchService.Domain SwitchService.Store
open SwitchService.Repositories

/-- The store calls of `handle`, in the order in which it makes them. -/
inductive FailPoint where
  | claim
  | record
  | readBreaker
  | readWindow
  | writeBreaker
  | releaseProbeSlot
  deriving DecidableEq, Repr

/-- The named call rejects; every other call is carried out. -/
def FailPoint.faults (point : FailPoint) (message : String) : Faults := fun call =>
  match point, call with
  | .claim, .claim _
  | .record, .record ..
  | .readBreaker, .readBreaker _
  | .readWindow, .readWindow ..
  | .writeBreaker, .writeBreaker ..
  | .releaseProbeSlot, .releaseProbeSlot _ => some (.rejected message)
  | _, _ => none

/-- The clock shows another time. -/
def atTime (w : World) (now : ℚ) : World := { w with now := now }

/-- The state after one failure-free delivery. -/
def delivered (config : Config) (message : Json) (w : World) : World :=
  ((handleOutcome config message).run config noFaults w).2

/-- The state after a delivery with a failing call. -/
def attempted (config : Config) (message : Json) (faults : Faults) (w : World) : World :=
  ((handleOutcome config message).run config faults w).2

/-- Window and breaker of a channel agree. -/
def SameChannel (channelId : String) (w w' : World) : Prop :=
  w.windows channelId = w'.windows channelId ∧ w.breakers channelId = w'.breakers channelId

/-- The state after a delivery with a failing call and its retry. -/
def retried (config : Config) (message : Json) (faults : Faults) (now : ℚ) (w : World) : World :=
  delivered config message (atTime (attempted config message faults w) now)

/-- The retry leaves the window and the breaker of the channel as one failure-free delivery
would, at the first moment or at the second. -/
def RetryKeeps (config : Config) (message : Json) (channelId : String) (faults : Faults)
    (now : ℚ) (w : World) : Prop :=
  SameChannel channelId (retried config message faults now w) (delivered config message w) ∨
    SameChannel channelId (retried config message faults now w)
      (delivered config message (atTime w now))

/-- The breaker of the event's channel stays where it is on this outcome. -/
def BreakerStays (config : RoutingConfig) (event : TxnOutcomeEvent) (w : World) : Prop :=
  StaysPut config event.channelId (w.breakers event.channelId)
    ((w.windows event.channelId).recorded config event.success event.latencyMs w.now) w.now

theorem breakerStays_iff {config : RoutingConfig} {event : TxnOutcomeEvent} {w : World} :
    BreakerStays config event w ↔
      movedBreaker config event.channelId (w.breakers event.channelId)
          ((w.windows event.channelId).recorded config event.success event.latencyMs w.now)
          event.success w.now =
        w.breakers event.channelId := movedBreaker_eq_self_iff.symm

/-- The failure points after which a retry still gives the effect of one delivery. -/
def FailPoint.Harmless (config : RoutingConfig) (event : TxnOutcomeEvent) (w : World) :
    FailPoint → Prop
  | .claim | .releaseProbeSlot => True
  | .readBreaker | .readWindow => BreakerStays config event w
  | .record | .writeBreaker => False

section

variable {config : Config} {w : World} {event : TxnOutcomeEvent} {message : Json}
  {point : FailPoint} {reason : String}

/-! ## One delivery -/

/-- A valid supported event of a known channel comes to its claim. -/
theorem run_handleOutcome {faults : Faults}
    (hmessage : outcomeEventSchema message = .valid event)
    (hversion : event.schemaVersion ≤ maxSupportedSchemaVersion)
    (hknown : knows w event.channelId = true)
    (hquery : faults (.queryChannels defaultCorridor) = none) :
    (handleOutcome config message).run config faults w =
      (claimEvent config.routing event).run config faults (afterKnown w) := by
  unfold handleOutcome handle
  rw [hmessage]
  refine run_handleEvent_known hversion ?_
  unfold isKnown
  rw [run_knownChannel hquery, hknown]

variable (config w) in
/-- The window after one failure-free delivery holds the outcome, and the breaker was
moved with it. -/
theorem delivered_channel (hmessage : outcomeEventSchema message = .valid event)
    (hversion : event.schemaVersion ≤ maxSupportedSchemaVersion)
    (hknown : knows w event.channelId = true) (hunclaimed : ¬ w.marked event.eventId) :
    (delivered config message w).windows event.channelId =
        (w.windows event.channelId).recorded config.routing event.success event.latencyMs
          w.now ∧
      (delivered config message w).breakers event.channelId =
        movedBreaker config.routing event.channelId (w.breakers event.channelId)
          ((w.windows event.channelId).recorded config.routing event.success
            event.latencyMs w.now) event.success w.now := by
  have hunclaimed' : ¬ (afterKnown w).marked event.eventId := by
    simpa [World.marked, afterKnown] using hunclaimed
  unfold delivered
  rw [run_handleOutcome hmessage hversion hknown rfl, run_claimEvent hunclaimed',
    run_applyEvent]
  simp [afterApply, afterClaim, afterKnown]

/-- A repeated delivery changes neither window nor breaker. -/
theorem delivered_repeat (hmessage : outcomeEventSchema message = .valid event)
    (hversion : event.schemaVersion ≤ maxSupportedSchemaVersion)
    (hknown : knows w event.channelId = true) (hclaimed : w.marked event.eventId) :
    SameChannel event.channelId (delivered config message w) w := by
  have hclaimed' : (afterKnown w).marked event.eventId := by
    simpa [World.marked, afterKnown] using hclaimed
  unfold delivered
  rw [run_handleOutcome hmessage hversion hknown rfl, run_claimEvent_marked hclaimed']
  simp [SameChannel, afterKnown]

/-! ## One failed delivery -/

/-- The guarded write rejects only where it would have changed the breaker. -/
theorem run_writeMoved_fault {channelId : String} {current next : BreakerSnapshot} :
    (writeMoved channelId current next).run config (FailPoint.writeBreaker.faults reason) w =
      if current = next then (.ok (), w) else (.error (.rejected reason), w) := by
  unfold writeMoved
  by_cases hsame : current = next
  · rw [if_pos hsame, if_pos (sameSnapshot_iff.mpr hsame)]
    rfl
  · rw [if_neg hsame, if_neg (mt sameSnapshot_iff.mp hsame), run_writeBreaker]
    exact exec_of_some rfl rfl

/-- Where the breaker is moved, a failing call leaves the breaker unless all that was
left to do was to free the probe slot. -/
theorem run_applyToBreaker_fault (hclaim : point ≠ .claim) (hrecord : point ≠ .record)
    {channelId : String} {success : Bool} {now : ℚ} {failure : Failure}
    (h : ((applyToBreaker config.routing channelId success now).run config
      (point.faults reason) w).1 = .error failure) :
    ((applyToBreaker config.routing channelId success now).run config
        (point.faults reason) w).2 =
      (if point = .releaseProbeSlot then
        w.setBreaker channelId (movedBreaker config.routing channelId (w.breakers channelId)
          (w.windows channelId) success now)
      else w) ∧
    (point = .writeBreaker → movedBreaker config.routing channelId (w.breakers channelId)
      (w.windows channelId) success now ≠ w.breakers channelId) := by
  have hwrite : point ≠ .writeBreaker → ∀ next,
      (writeMoved channelId (w.breakers channelId) next).run config (point.faults reason) w =
        (.ok (), w.setBreaker channelId next) := fun hne next =>
    run_writeMoved (by cases point <;> first | rfl | contradiction)
  revert h
  unfold applyToBreaker movedBreaker
  rw [run_bind, run_readBreaker]
  by_cases hread : point = .readBreaker
  · subst hread
    rw [exec_of_some rfl rfl]
    simp
  · rw [exec_of_none (by cases point <;> simp_all [FailPoint.faults])]
    dsimp only [perform]
    by_cases hstate : (w.breakers channelId).state = .halfOpen
    · rw [if_pos hstate]
      cases point with
      | claim | record | readBreaker => contradiction
      | readWindow => simp [run_bind, hwrite, FailPoint.faults, exec, perform]
      | writeBreaker =>
          by_cases hsame : w.breakers channelId =
            recordProbe (w.breakers channelId) success config.routing now
          · simp [run_bind, run_writeMoved_fault, ← hsame, FailPoint.faults, exec, perform]
          · simp [run_bind, run_writeMoved_fault, hsame, hstate, Ne.symm hsame]
      | releaseProbeSlot =>
          simp [run_bind, hwrite, FailPoint.faults, exec, hstate, Call.isAwaited]
    · rw [if_neg hstate]
      cases point with
      | claim | record | readBreaker => contradiction
      | readWindow => simp [run_bind, FailPoint.faults, exec, Call.isAwaited]
      | writeBreaker =>
          by_cases hsame : w.breakers channelId =
            evaluateBreaker (w.breakers channelId)
              ((w.windows channelId).statsAt config.routing channelId now) config.routing now
          · simp [run_bind, run_writeMoved_fault, ← hsame, FailPoint.faults, exec,
              perform_readWindow]
          · simp [run_bind, run_writeMoved_fault, hsame, hstate, Ne.symm hsame,
              FailPoint.faults, exec, perform_readWindow]
      | releaseProbeSlot =>
          simp [run_bind, hwrite, FailPoint.faults, exec, perform_readWindow]

/-- The state that a delivery with a won claim leaves when it fails at a later call. -/
def leftBehind (config : RoutingConfig) (event : TxnOutcomeEvent) (point : FailPoint)
    (w : World) : World :=
  let recorded := w.setWindow event.channelId
    ((w.windows event.channelId).recorded config event.success event.latencyMs w.now)
  match point with
  | .claim | .record => w
  | .readBreaker | .readWindow | .writeBreaker => recorded
  | .releaseProbeSlot =>
      recorded.setBreaker event.channelId
        (movedBreaker config event.channelId (w.breakers event.channelId)
          (recorded.windows event.channelId) event.success w.now)

theorem run_applyEvent_fault (hclaim : point ≠ .claim) {failure : Failure}
    (h : ((applyEvent config.routing event).run config (point.faults reason) w).1 =
      .error failure) :
    ((applyEvent config.routing event).run config (point.faults reason) w).2 =
        leftBehind config.routing event point w ∧
      (point = .writeBreaker → ¬ BreakerStays config.routing event w) := by
  by_cases hrecord : point = .record
  · subst hrecord
    simp [applyEvent, run_bind, exec, Call.isAwaited, FailPoint.faults, leftBehind]
  · have hfault : point.faults reason (.record event.channelId event.success event.latencyMs
        w.now) = none := by
      cases point <;> first | rfl | contradiction
    revert h
    unfold applyEvent
    rw [run_bind_ok (run_clockNow w), run_bind, run_record, exec_of_none hfault,
      perform_record]
    dsimp only
    rw [run_bind]
    cases hrun : (applyToBreaker config.routing event.channelId event.success w.now).run config
        (point.faults reason) (w.setWindow event.channelId ((w.windows
          event.channelId).recorded config.routing event.success event.latencyMs w.now)) with
    | mk result w' =>
        cases result with
        | ok breaker => simp
        | error failure' =>
            intro _
            have hmove := run_applyToBreaker_fault hclaim hrecord (by rw [hrun])
            rw [hrun] at hmove
            refine ⟨?_, ?_⟩
            · rw [hmove.1]
              cases point <;> first | rfl | contradiction
            · intro hpoint
              simpa [breakerStays_iff] using hmove.2 hpoint

/-- A lookup does not change what a later lookup of the same corridor answers. -/
theorem knows_afterKnown {now : ℚ} (hnow : w.now ≤ now) (channelId : String) :
    knows (atTime (afterKnown w) now) channelId = knows (atTime w now) channelId := by
  unfold knows lookup atTime afterKnown afterLookup
  cases hcache : cachedAt w.now w.cache with
  | some channels => rfl
  | none =>
      rw [cachedAt_none_mono hnow hcache]
      simp only [cachedAt]
      split <;> rfl

theorem not_marked_later {now : ℚ} (hnow : w.now ≤ now) {eventId : String}
    (h : ¬ w.marked eventId) : ¬ (atTime w now).marked eventId :=
  fun hmarked => h (liveAt_mono hnow hmarked)

theorem leftBehind_knows {now : ℚ} (channelId : String) :
    knows (atTime (leftBehind config.routing event point w) now) channelId =
      knows (atTime w now) channelId := by
  cases point <;> rfl

theorem leftBehind_processed :
    (leftBehind config.routing event point w).processed = w.processed := by
  cases point <;> rfl

/-- What a failed delivery leaves. -/
theorem attempted_eq (hmessage : outcomeEventSchema message = .valid event)
    (hversion : event.schemaVersion ≤ maxSupportedSchemaVersion)
    (hknown : knows w event.channelId = true) (hunclaimed : ¬ w.marked event.eventId)
    (hrejects : ∃ failure, ((handleOutcome config message).run config
      (point.faults reason) w).1 = .error failure) :
    (attempted config message (point.faults reason) w =
      if point = .claim then afterKnown w
      else leftBehind config.routing event point (afterClaim config event (afterKnown w))) ∧
    (point = .writeBreaker → ¬ BreakerStays config.routing event w) := by
  have hunclaimed' : ¬ (afterKnown w).marked event.eventId := by
    simpa [World.marked, afterKnown] using hunclaimed
  have hquery : point.faults reason (.queryChannels defaultCorridor) = none := by
    cases point <;> rfl
  obtain ⟨failure, hfailure⟩ := hrejects
  unfold attempted
  rw [run_handleOutcome hmessage hversion hknown hquery] at hfailure ⊢
  by_cases hclaim : point = .claim
  · subst hclaim
    simp [claimEvent, run_bind, exec, FailPoint.faults, Call.isAwaited]
  · have hwon : (claimEvent config.routing event).run config (point.faults reason)
        (afterKnown w) = (applyEvent config.routing event).run config (point.faults reason)
          (afterClaim config event (afterKnown w)) := by
      unfold claimEvent
      rw [run_bind, run_claim, exec_of_none (by cases point <;> first | rfl | contradiction)]
      simp [perform, hunclaimed', afterClaim]
    rw [hwon] at hfailure ⊢
    obtain ⟨hstate, hmoved⟩ := run_applyEvent_fault hclaim hfailure
    refine ⟨by rw [hstate, if_neg hclaim], fun hpoint => ?_⟩
    simpa [BreakerStays, afterClaim, afterKnown] using hmoved hpoint

variable (config event) in
/-- A window with the outcome beside the breaker as it was is the effect of one delivery
exactly where the breaker stays. -/
theorem recorded_kept_iff {now : ℚ} (hnow : w.now ≤ now) :
    (w.breakers event.channelId =
        movedBreaker config.routing event.channelId (w.breakers event.channelId)
          ((w.windows event.channelId).recorded config.routing event.success
            event.latencyMs w.now) event.success w.now ∨
      (w.windows event.channelId).recorded config.routing event.success event.latencyMs
          w.now =
        (w.windows event.channelId).recorded config.routing event.success event.latencyMs
          now ∧
        w.breakers event.channelId =
          movedBreaker config.routing event.channelId (w.breakers event.channelId)
            ((w.windows event.channelId).recorded config.routing event.success
              event.latencyMs now) event.success now) ↔
      BreakerStays config.routing event w := by
  constructor
  · rintro (h | ⟨hsame, h⟩)
    · exact breakerStays_iff.mpr h.symm
    · have hbucket := Buckets.recorded_eq_iff.mp hsame
      rw [← hsame] at h
      exact (movedBreaker_eq_self_iff.mp h.symm).earlier hnow hbucket
  · intro h
    exact .inl (breakerStays_iff.mp h).symm

/-- A delivery that stops at the claim of a failed one leaves its channel. -/
theorem sameChannel_leftBehind {config : Config} {w : World} {message : Json}
    {event : TxnOutcomeEvent} (point : FailPoint) {now : ℚ}
    (hmessage : outcomeEventSchema message = .valid event)
    (hversion : event.schemaVersion ≤ maxSupportedSchemaVersion)
    (hknown : knows (atTime w now) event.channelId = true)
    (hnow : w.now ≤ now) (httl : now < w.now + config.processedTtlSeconds * 1000) (w' : World) :
    SameChannel event.channelId (delivered config message (atTime
        (leftBehind config.routing event point (afterClaim config event (afterKnown w))) now))
        w' ↔
      SameChannel event.channelId
        (leftBehind config.routing event point (afterClaim config event (afterKnown w))) w' := by
  set left := leftBehind config.routing event point
    (afterClaim config event (afterKnown w)) with hleft
  have hrepeat : SameChannel event.channelId
      (delivered config message (atTime left now)) (atTime left now) := by
    refine delivered_repeat hmessage hversion ?_ ?_
    · rw [hleft, leftBehind_knows]
      change knows (atTime (afterKnown w) now) event.channelId = true
      rw [knows_afterKnown hnow]
      exact hknown
    · simpa [hleft, World.marked, atTime, leftBehind_processed, afterClaim, afterKnown]
        using httl
  unfold SameChannel
  rw [hrepeat.1, hrepeat.2]
  rfl

/-- A failed delivery and its retry give the effect of one failure-free delivery exactly
where the failing call is harmless. -/
theorem retry_keeps_outcome_iff (config : Config) (w : World) (message : Json)
    (event : TxnOutcomeEvent) (point : FailPoint) (reason : String) (now : ℚ)
    (hmessage : outcomeEventSchema message = .valid event)
    (hversion : event.schemaVersion ≤ maxSupportedSchemaVersion)
    (hunclaimed : ¬ w.marked event.eventId)
    (hknown : knows w event.channelId = true)
    (hknown' : knows (atTime w now) event.channelId = true)
    (hrejects : ∃ failure, ((handleOutcome config message).run config
      (point.faults reason) w).1 = .error failure)
    (hnow : w.now ≤ now) (httl : now < w.now + config.processedTtlSeconds * 1000) :
    RetryKeeps config message event.channelId (point.faults reason) now w ↔
      point.Harmless config.routing event w := by
  obtain ⟨hattempted, hmoved⟩ := attempted_eq hmessage hversion hknown hunclaimed hrejects
  have hfirst := delivered_channel config w hmessage hversion hknown hunclaimed
  have hsecond := delivered_channel config (atTime w now) hmessage hversion hknown'
    (not_marked_later hnow hunclaimed)
  unfold RetryKeeps retried
  by_cases hclaim : point = .claim
  · -- Nothing was claimed, so the second delivery does all the work.
    subst hclaim
    rw [hattempted, if_pos rfl]
    have hretry := delivered_channel config (atTime (afterKnown w) now)
      hmessage hversion (by rw [knows_afterKnown hnow]; exact hknown')
      (by simpa [World.marked, atTime, afterKnown] using not_marked_later hnow hunclaimed)
    refine iff_of_true (.inr ?_) trivial
    unfold SameChannel
    rw [hretry.1, hretry.2, hsecond.1, hsecond.2]
    simp [atTime, afterKnown]
  · -- The claim stands, so the second delivery stops at it.
    rw [hattempted, if_neg hclaim]
    have hretry := sameChannel_leftBehind point hmessage hversion hknown' hnow httl
    rw [hretry, hretry]
    unfold SameChannel
    rw [hfirst.1, hfirst.2, hsecond.1, hsecond.2]
    have hkept := recorded_kept_iff config event hnow
    cases point with
    | claim => exact absurd rfl hclaim
    | record =>
        simp [leftBehind, afterClaim, afterKnown, atTime, FailPoint.Harmless,
          Buckets.recorded_ne.symm]
    | readBreaker | readWindow =>
        simpa [leftBehind, afterClaim, afterKnown, atTime, FailPoint.Harmless] using hkept
    | writeBreaker =>
        simpa [leftBehind, afterClaim, afterKnown, atTime, FailPoint.Harmless,
          hmoved rfl] using hkept
    | releaseProbeSlot =>
        simp [leftBehind, afterClaim, afterKnown, atTime, FailPoint.Harmless]

/-! ## A failing record -/

/-- A failed payout over a seeded channel. -/
def failedPayout : TxnOutcomeEvent := payoutOutcome "evt_1" "dec_1" "RAIL-A" .failed

/-- One seeded channel, nothing recorded yet. -/
def railAWorld : World := World.fresh 1000 seededA

theorem failedPayout_message : outcomeEventSchema failedPayout.toJson = .valid failedPayout :=
  payoutOutcome_message .failed (by decide) (by decide) (by decide)

/-- The window stays empty although the channel is known and the event was not claimed. -/
theorem retry_loses_outcome :
    knows railAWorld "RAIL-A" = true ∧ ¬ railAWorld.marked "evt_1" ∧
    ((handleOutcome defaultConfig failedPayout.toJson).run defaultConfig
        (FailPoint.record.faults "Connection is closed.") railAWorld).1 =
      .error (.rejected "Connection is closed.") ∧
    ¬ RetryKeeps defaultConfig failedPayout.toJson "RAIL-A"
      (FailPoint.record.faults "Connection is closed.") 2000 railAWorld := by
  -- After the retry the bucket is empty; one failure-free delivery leaves one failure in it.
  have hlost : ((retried defaultConfig failedPayout.toJson (FailPoint.record.faults
      "Connection is closed.") 2000 railAWorld).windows "RAIL-A" 0).failure = 0 := by
    decide +kernel
  have hfirst : ((delivered defaultConfig failedPayout.toJson railAWorld).windows
      "RAIL-A" 0).failure = 1 := by decide +kernel
  have hsecond : ((delivered defaultConfig failedPayout.toJson
      (atTime railAWorld 2000)).windows "RAIL-A" 0).failure = 1 := by decide +kernel
  refine ⟨by decide +kernel, by decide, by decide +kernel, ?_⟩
  rintro (⟨h, _⟩ | ⟨h, _⟩)
  · rw [h, hfirst] at hlost
    cases hlost
  · rw [h, hsecond] at hlost
    cases hlost

theorem retry_keeps_outcome_iff_claim :
    RetryKeeps defaultConfig failedPayout.toJson "RAIL-A"
        (FailPoint.claim.faults "Connection is closed.") 2000 railAWorld ↔
      FailPoint.claim.Harmless defaultConfig.routing failedPayout railAWorld :=
  retry_keeps_outcome_iff defaultConfig railAWorld failedPayout.toJson failedPayout .claim
    "Connection is closed." 2000 failedPayout_message (by decide) (by decide)
    (by decide +kernel)
    (by decide +kernel) ⟨.rejected "Connection is closed.", by decide +kernel⟩
    (by decide +kernel) (by decide +kernel)

end

end SwitchService.Consumer
