import SwitchService.Foundation.Runs
import SwitchService.Server
import SwitchService.Services.RoutingRun

set_option autoImplicit false

/-!
# Runs: the service as one system

The routing service and the outcome handler share one world.  Here a route call
and a delivery are each one step; between them time passes, and somebody changes
the channel table.
-/

namespace SwitchService.Runs

open SwitchService.Foundation SwitchService.Domain SwitchService.Store
open SwitchService.Repositories SwitchService.Consumer SwitchService.Services

/-- One step of the service or of its surroundings. -/
inductive Act where
  /-- A route call; some of its store calls may reject or be too slow. -/
  | route (faults : Faults) (rng : Rng) (uuid : String) (request : RouteRequest)
  /-- The consumer hands one message to the handler. -/
  | deliver (message : Json)
  | advance (elapsed : ℚ≥0)
  /-- The table is changed by somebody else. -/
  | edit (table : Table)
  /-- `setEnabled`, `upsertChannel` and `deleteAllChannels` end with this. -/
  | clearCache

variable (config : Config) (localeCompare : String → String → Ordering)

/-- What a route call resolves to. -/
def routed (faults : Faults) (rng : Rng) (uuid : String) (request : RouteRequest) (w : World) :
    Except Failure RoutingDecision × World :=
  (route config.routing localeCompare rng uuid request).run config faults w

/-- What a delivery resolves to. -/
def handled (message : Json) (w : World) : Except Failure HandleOutcome × World :=
  (handleOutcome config message).run config noFaults w

/-- The state after a step. -/
def perform (w : World) : Act → World
  | .route faults rng uuid request =>
      (routed config localeCompare faults rng uuid request w).2
  | .deliver message => (handled config message w).2
  | .advance elapsed => { w with now := w.now + elapsed }
  | .edit table => { w with table := table }
  | .clearCache => clearChannelCache w

/-! ## What a delivery does -/

/-- The supported event that a message carries. -/
def supportedEvent (message : Json) : Option TxnOutcomeEvent :=
  match outcomeEventSchema message with
  | .invalid _ => none
  | .valid event =>
      if event.schemaVersion ≤ maxSupportedSchemaVersion then some event else none

/-- The event that a delivery applies. -/
def appliedEvent (w : World) (message : Json) : Option TxnOutcomeEvent :=
  (supportedEvent message).filter fun event =>
    knows w event.channelId && !decide (w.marked event.eventId)

/-- The state after an applied event, from the world before the delivery. -/
def afterDelivery (config : Config) (event : TxnOutcomeEvent) (w : World) : World :=
  afterApply config.routing event (afterClaim config event (afterKnown w))

section

variable {config : Config} {w : World} {message : Json} {event : TxnOutcomeEvent}

theorem supportedEvent_eq_some : supportedEvent message = some event ↔
    outcomeEventSchema message = .valid event ∧
      event.schemaVersion ≤ maxSupportedSchemaVersion := by
  unfold supportedEvent
  cases outcomeEventSchema message with
  | invalid issues => simp
  | valid event' =>
      dsimp only
      split
      · rename_i hversion
        constructor
        · intro h
          cases h
          exact ⟨rfl, hversion⟩
        · intro ⟨h, _⟩
          cases h
          rfl
      · rename_i hversion
        simp only [reduceCtorEq, false_iff, not_and]
        intro h
        cases h
        exact hversion

theorem appliedEvent_eq_some : appliedEvent w message = some event ↔
    supportedEvent message = some event ∧ knows w event.channelId = true ∧
      ¬ w.marked event.eventId := by
  simp [appliedEvent, Option.filter_eq_some_iff]

/-- A message without a supported event is refused before anything is read. -/
theorem handled_unsupported (h : supportedEvent message = none) :
    (handled config message w).2 = w := by
  unfold supportedEvent at h
  unfold handled handleOutcome handle
  split
  · rfl
  · rename_i event hevent
    rw [hevent] at h
    dsimp only at h
    split at h
    · cases h
    · rename_i hversion
      unfold handleEvent
      rw [if_pos (not_le.mp hversion)]
      rfl

theorem handled_supported (h : supportedEvent message = some event) :
    handled config message w =
      if knows w event.channelId = true then
        (claimEvent config.routing event).run config noFaults (afterKnown w)
      else (.ok (.ignored ("unknown channel " ++ event.channelId)), afterKnown w) := by
  obtain ⟨hmessage, hversion⟩ := supportedEvent_eq_some.mp h
  unfold handled handleOutcome handle
  rw [hmessage]
  dsimp only
  unfold handleEvent isKnown
  rw [if_neg (not_lt.mpr hversion), run_bind_ok (run_knownChannel rfl)]
  split <;> rfl

/-- A delivery that applies its event. -/
theorem handled_applied (h : appliedEvent w message = some event) :
    handled config message w =
      (.ok (.applied event.channelId ((afterDelivery config event w).breakers event.channelId)),
        afterDelivery config event w) := by
  obtain ⟨hevent, hknown, hunclaimed⟩ := appliedEvent_eq_some.mp h
  have hunclaimed' : ¬ (afterKnown w).marked event.eventId := by
    simpa [World.marked, afterKnown] using hunclaimed
  rw [handled_supported hevent, if_pos hknown, run_claimEvent hunclaimed', run_applyEvent]
  rfl

/-- A delivery that applies nothing changes at most the cache. -/
theorem handled_not_applied (h : appliedEvent w message = none) :
    (handled config message w).2 =
      if (supportedEvent message).isSome then afterKnown w else w := by
  cases hevent : supportedEvent message with
  | none => simp [handled_unsupported hevent]
  | some event =>
      rw [handled_supported hevent]
      by_cases hknown : knows w event.channelId = true
      · have hmarked : w.marked event.eventId := by
          simpa [appliedEvent, hevent, hknown] using h
        have hmarked' : (afterKnown w).marked event.eventId := by
          simpa [World.marked, afterKnown] using hmarked
        rw [if_pos hknown, run_claimEvent_marked hmarked']
        rfl
      · rw [if_neg hknown]
        rfl

variable (config) in
/-- So it leaves the clock and everything that the stores keep. -/
theorem handled_not_applied_same (h : appliedEvent w message = none) :
    (handled config message w).2.now = w.now ∧
      (handled config message w).2.windows = w.windows ∧
      (handled config message w).2.breakers = w.breakers ∧
      (handled config message w).2.probeSlots = w.probeSlots := by
  rw [handled_not_applied h]
  split
  · simp [afterKnown]
  · exact ⟨rfl, rfl, rfl, rfl⟩

section

variable (config : Config) (event : TxnOutcomeEvent) (w : World)

@[simp] theorem afterDelivery_now : (afterDelivery config event w).now = w.now := by
  simp [afterDelivery, afterApply, afterClaim, afterKnown]

@[simp] theorem afterDelivery_table : (afterDelivery config event w).table = w.table := by
  simp [afterDelivery, afterApply, afterClaim, afterKnown]

@[simp] theorem afterDelivery_cache :
    (afterDelivery config event w).cache = (afterKnown w).cache := by
  simp [afterDelivery, afterApply, afterClaim]

@[simp] theorem afterDelivery_windows : (afterDelivery config event w).windows =
    Function.update w.windows event.channelId ((w.windows event.channelId).recorded
      config.routing event.success event.latencyMs w.now) := by
  simp [afterDelivery, afterApply, afterClaim, afterKnown]

@[simp] theorem afterDelivery_breakers : (afterDelivery config event w).breakers =
    Function.update w.breakers event.channelId
      (movedBreaker config.routing event.channelId (w.breakers event.channelId)
        ((w.windows event.channelId).recorded config.routing event.success event.latencyMs
          w.now) event.success w.now) := by
  simp [afterDelivery, afterApply, afterClaim, afterKnown]

@[simp] theorem afterDelivery_processed : (afterDelivery config event w).processed =
    Function.update w.processed event.eventId
      (some (w.now + config.processedTtlSeconds * 1000)) := by
  simp [afterDelivery, afterApply, afterClaim, afterKnown]

@[simp] theorem afterDelivery_probeSlots : (afterDelivery config event w).probeSlots =
    if (w.breakers event.channelId).state = .halfOpen then
      Function.update w.probeSlots event.channelId none else w.probeSlots := by
  simp [afterDelivery, afterApply, afterClaim, afterKnown]

end

end

/-! ## Steps of the examples -/

/-- A request for any channel of a corridor. -/
def requestFor (corridor : String) : RouteRequest where
  transactionId := "txn_1"
  corridor := corridor
  supportedChannels := none

/-- A route call that never explores, with every store call carried out. -/
def callFor (uuid corridor : String) : Act :=
  .route noFaults (Stream'.const (1 / 2)) uuid (requestFor corridor)

/-- The delivery of an outcome of a seeded channel. -/
def outcomeOf (eventId decisionId : String) (status : OutcomeStatus) : Act :=
  .deliver (payoutOutcome eventId decisionId "RAIL-A" status).toJson

/-- Failed payouts of earlier decisions, as many as open a breaker. -/
def failures : List Act :=
  (List.range 20).map fun n => outcomeOf ("evt_" ++ toString n) "dec_" .failed

/-- The open time of the default configuration passes. -/
def openTimePasses : Act := .advance 30000

end SwitchService.Runs
