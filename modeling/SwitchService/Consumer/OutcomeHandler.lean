import SwitchService.Consumer.OutcomeEvent
import SwitchService.Domain.Breaker
import SwitchService.Store.Calls

set_option autoImplicit false

/-!
# Consumer: the outcome handler (`consumer/outcomeHandler.ts`)

Order of work: read the event, claim its identifier, write the outcome into the
current bucket, move the breaker with the fresh numbers.
-/

namespace SwitchService.Consumer

open SwitchService.Foundation SwitchService.Domain SwitchService.Store

/-- `MAX_SUPPORTED_SCHEMA_VERSION`. -/
def maxSupportedSchemaVersion : ℕ := 1

/-- What `handle` resolves to. -/
inductive HandleOutcome where
  | applied (channelId : String) (breaker : BreakerSnapshot)
  | duplicate (eventId : String)
  | ignored (reason : String)
  deriving DecidableEq

/-- The optional dependency `knownChannel`. -/
abbrev KnownChannel : Type := Option (String → Program Bool)

/-- `sameSnapshot`: nothing to write. -/
def sameSnapshot (a b : BreakerSnapshot) : Bool :=
  a.state = b.state ∧ a.openedAt = b.openedAt ∧ a.probeSuccess = b.probeSuccess

/-- The guarded write of both branches of `applyToBreaker`. -/
def writeMoved (channelId : String) (current next : BreakerSnapshot) : Program Unit :=
  if sameSnapshot current next then pure () else writeBreaker channelId next

/-- `applyToBreaker`: an outcome of a HALF_OPEN breaker counts as a probe, any other one is judged
by the window. -/
def applyToBreaker (config : RoutingConfig) (channelId : String) (success : Bool) (now : ℚ) :
    Program BreakerSnapshot := do
  let current ← readBreaker channelId
  if current.state = .halfOpen then
    let next := recordProbe current success config now
    writeMoved channelId current next
    -- The probe slot is given back whatever the result.
    releaseProbeSlot channelId
    return next
  else
    let stats ← readWindow channelId now
    let next := evaluateBreaker current stats config now
    writeMoved channelId current next
    return next

/-- The outcome of an event, as the breaker takes it. -/
def TxnOutcomeEvent.success (event : TxnOutcomeEvent) : Bool := event.status = .success

/-- The part of `handle` after the claim was won. -/
def applyEvent (config : RoutingConfig) (event : TxnOutcomeEvent) : Program HandleOutcome := do
  let now ← clockNow
  record event.channelId event.success event.latencyMs now
  let breaker ← applyToBreaker config event.channelId event.success now
  return .applied event.channelId breaker

/-- The part of `handle` for an event of a known channel. -/
def claimEvent (config : RoutingConfig) (event : TxnOutcomeEvent) : Program HandleOutcome := do
  let claimed ← claim event.eventId
  if claimed then applyEvent config event else return .duplicate event.eventId

/-- Without the dependency every channel counts as known. -/
def isKnown (knownChannel : KnownChannel) (channelId : String) : Program Bool :=
  match knownChannel with
  | some known => known channelId
  | none => pure true

/-- The part of `handle` for a well-formed event. -/
def handleEvent (config : RoutingConfig) (knownChannel : KnownChannel)
    (event : TxnOutcomeEvent) : Program HandleOutcome :=
  if event.schemaVersion > maxSupportedSchemaVersion then
    return .ignored ("schemaVersion " ++ Number.natText event.schemaVersion ++
      " is newer than this consumer")
  else do
    let known ← isKnown knownChannel event.channelId
    if known then claimEvent config event
    else return .ignored ("unknown channel " ++ event.channelId)

/-- `OutcomeHandler.handle`. -/
def handle (config : RoutingConfig) (knownChannel : KnownChannel) (message : Json) :
    Program HandleOutcome :=
  match outcomeEventSchema message with
  | .invalid issues => .throw (.contract (issuesDetail issues))
  | .valid event => handleEvent config knownChannel event

/-! ## What a failure-free run does -/

/-- Where the breaker goes on one outcome that is already in the window. -/
def movedBreaker (config : RoutingConfig) (channelId : String) (current : BreakerSnapshot)
    (buckets : Buckets) (success : Bool) (now : ℚ) : BreakerSnapshot :=
  if current.state = .halfOpen then recordProbe current success config now
  else evaluateBreaker current (buckets.statsAt config channelId now) config now

/-- A breaker that an outcome leaves where it is: a closed one that the window does not
trip, or an open one before its time. -/
def StaysPut (config : RoutingConfig) (channelId : String) (current : BreakerSnapshot)
    (buckets : Buckets) (now : ℚ) : Prop :=
  match current.state with
  | .closed => ¬ Trips (buckets.statsAt config channelId now) config
  | .opened => now - current.openedAt < config.breaker.openMs
  | .halfOpen => False

theorem movedBreaker_eq_self_iff {config : RoutingConfig} {channelId : String}
    {current : BreakerSnapshot} {buckets : Buckets} {success : Bool} {now : ℚ} :
    movedBreaker config channelId current buckets success now = current ↔
      StaysPut config channelId current buckets now := by
  unfold movedBreaker StaysPut
  cases hstate : current.state with
  | closed =>
      rw [if_neg (by simp), evaluateBreaker_closed hstate]
      split
      · rename_i htrips
        refine iff_of_false (fun heq => ?_) (not_not_intro htrips)
        rw [← heq] at hstate
        cases hstate
      · rename_i htrips
        exact iff_of_true rfl htrips
  | opened =>
      rw [if_neg (by simp), evaluateBreaker_opened hstate]
      split
      · rename_i hdue
        refine iff_of_false (fun heq => ?_) (not_lt.mpr hdue)
        rw [← heq] at hstate
        cases hstate
      · rename_i hdue
        exact iff_of_true rfl (not_le.mp hdue)
  | halfOpen =>
      rw [if_pos rfl]
      exact iff_of_false (recordProbe_ne success hstate) id

/-- A breaker that stays put was to stay put earlier in the same bucket. -/
theorem StaysPut.earlier {config : RoutingConfig} {channelId : String}
    {current : BreakerSnapshot} {buckets : Buckets} {t now : ℚ} (hnow : t ≤ now)
    (hbucket : ⌊t / config.bucketMs⌋ = ⌊now / config.bucketMs⌋)
    (h : StaysPut config channelId current buckets now) :
    StaysPut config channelId current buckets t := by
  unfold StaysPut Buckets.statsAt windowIds at h ⊢
  cases hstate : current.state with
  | closed =>
      rw [hstate] at h
      rw [hbucket]
      exact h
  | opened =>
      rw [hstate] at h
      simp only at h ⊢
      linarith
  | halfOpen =>
      rw [hstate] at h
      exact h

/-- The state after the breaker was moved. -/
def afterMove (config : RoutingConfig) (channelId : String) (success : Bool) (now : ℚ)
    (w : World) : World :=
  let moved := w.setBreaker channelId
    (movedBreaker config channelId (w.breakers channelId) (w.windows channelId) success now)
  if (w.breakers channelId).state = .halfOpen then moved.setProbeSlot channelId none else moved

/-- The state after the outcome was written and the breaker moved. -/
def afterApply (config : RoutingConfig) (event : TxnOutcomeEvent) (w : World) : World :=
  afterMove config event.channelId event.success w.now
    (w.setWindow event.channelId
      ((w.windows event.channelId).recorded config event.success event.latencyMs w.now))

/-- The state after a won claim. -/
def afterClaim (config : Config) (event : TxnOutcomeEvent) (w : World) : World :=
  w.setProcessed event.eventId (some (w.now + config.processedTtlSeconds * 1000))

section

variable {config : Config} {faults : Faults} {w : World}

theorem sameSnapshot_iff {a b : BreakerSnapshot} : sameSnapshot a b = true ↔ a = b := by
  cases a
  cases b
  simp [sameSnapshot]

/-- The guard of the write does not show in the state. -/
theorem run_writeMoved {channelId : String} {next : BreakerSnapshot}
    (h : faults (.writeBreaker channelId next) = none) :
    (writeMoved channelId (w.breakers channelId) next).run config faults w =
      (.ok (), w.setBreaker channelId next) := by
  unfold writeMoved
  split
  · rename_i hsame
    rw [← sameSnapshot_iff.mp hsame, setBreaker_self]
    rfl
  · rw [run_writeBreaker, exec_of_none h]
    rfl

theorem run_applyToBreaker (channelId : String) (success : Bool) (now : ℚ) :
    (applyToBreaker config.routing channelId success now).run config noFaults w =
      (.ok (movedBreaker config.routing channelId (w.breakers channelId)
          (w.windows channelId) success now),
        afterMove config.routing channelId success now w) := by
  have hwrite : ∀ next,
      (writeMoved channelId (w.breakers channelId) next).run config noFaults w =
        (.ok (), w.setBreaker channelId next) := fun next => run_writeMoved rfl
  have hread : Program.run config noFaults (readBreaker channelId) w =
      (.ok (w.breakers channelId), w) := by simp [perform]
  unfold applyToBreaker movedBreaker afterMove
  rw [run_bind_ok hread]
  by_cases hstate : (w.breakers channelId).state = .halfOpen
  · simp [hstate, run_bind, hwrite, perform, movedBreaker]
  · simp [hstate, run_bind, hwrite, perform_readWindow, movedBreaker]

@[simp] theorem afterMove_breakers (channelId : String) (success : Bool) (now : ℚ) :
    (afterMove config.routing channelId success now w).breakers =
      Function.update w.breakers channelId (movedBreaker config.routing channelId
        (w.breakers channelId) (w.windows channelId) success now) := by
  unfold afterMove
  dsimp only
  split <;> rfl

@[simp] theorem afterMove_windows (channelId : String) (success : Bool) (now : ℚ) :
    (afterMove config.routing channelId success now w).windows = w.windows := by
  unfold afterMove
  dsimp only
  split <;> rfl

@[simp] theorem afterMove_now (channelId : String) (success : Bool) (now : ℚ) :
    (afterMove config.routing channelId success now w).now = w.now := by
  unfold afterMove
  dsimp only
  split <;> rfl

@[simp] theorem afterMove_table (channelId : String) (success : Bool) (now : ℚ) :
    (afterMove config.routing channelId success now w).table = w.table := by
  unfold afterMove
  dsimp only
  split <;> rfl

@[simp] theorem afterMove_cache (channelId : String) (success : Bool) (now : ℚ) :
    (afterMove config.routing channelId success now w).cache = w.cache := by
  unfold afterMove
  dsimp only
  split <;> rfl

@[simp] theorem afterMove_processed (channelId : String) (success : Bool) (now : ℚ) :
    (afterMove config.routing channelId success now w).processed = w.processed := by
  unfold afterMove
  dsimp only
  split <;> rfl

@[simp] theorem afterMove_probeSlots (channelId : String) (success : Bool) (now : ℚ) :
    (afterMove config.routing channelId success now w).probeSlots =
      if (w.breakers channelId).state = .halfOpen then
        Function.update w.probeSlots channelId none else w.probeSlots := by
  unfold afterMove
  dsimp only
  split <;> rfl

theorem run_applyEvent (event : TxnOutcomeEvent) :
    (applyEvent config.routing event).run config noFaults w =
      (.ok (.applied event.channelId
          ((afterApply config.routing event w).breakers event.channelId)),
        afterApply config.routing event w) := by
  simp [applyEvent, afterApply, run_bind, perform_record, run_applyToBreaker]

/-- A repeat stops at the claim. -/
theorem run_claimEvent_marked {event : TxnOutcomeEvent} (h : w.marked event.eventId) :
    (claimEvent config.routing event).run config noFaults w =
      (.ok (.duplicate event.eventId), w) := by
  simp [claimEvent, run_bind, perform, h]

theorem run_claimEvent {event : TxnOutcomeEvent} (h : ¬ w.marked event.eventId) :
    (claimEvent config.routing event).run config noFaults w =
      (applyEvent config.routing event).run config noFaults (afterClaim config event w) := by
  simp [claimEvent, run_bind, perform, h, afterClaim]

/-- A supported event of a known channel comes to its claim. -/
theorem run_handleEvent_known {event : TxnOutcomeEvent} {knownChannel : KnownChannel}
    {w' : World} (hversion : event.schemaVersion ≤ maxSupportedSchemaVersion)
    (hknown : (isKnown knownChannel event.channelId).run config faults w = (.ok true, w')) :
    (handleEvent config.routing knownChannel event).run config faults w =
      (claimEvent config.routing event).run config faults w' := by
  unfold handleEvent
  rw [if_neg (not_lt.mpr hversion), run_bind_ok hknown]
  rfl

end

end SwitchService.Consumer
