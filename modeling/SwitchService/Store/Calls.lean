import SwitchService.Foundation.Program
import SwitchService.Store.World

set_option autoImplicit false

/-!
# Store: the calls of the service

The routing service and the outcome handler are programs over `Call`.  A call is
one awaited store or database operation, or a synchronous look at the clock or at
the module-level channel cache.  `perform` is what a call does to the world; each
call is atomic.
-/

namespace SwitchService.Store

open SwitchService.Foundation SwitchService.Domain

/-! ## Errors -/

/-- The `context` of a `NoEligibleChannelError`. -/
inductive NoEligibleContext where
  | corridor (corridor : String)
  | reasons (reasons : List (String × String))
  deriving DecidableEq

/-- What an asynchronous function of the service rejects with. -/
inductive Failure where
  /-- `OutcomeContractError`. -/
  | contract (detail : String)
  /-- `NoEligibleChannelError`. -/
  | noEligibleChannel (message : String) (context : NoEligibleContext)
  /-- A store or database call that rejected. -/
  | rejected (message : String)
  deriving DecidableEq

/-! ## The calls -/

/-- What `route` and `handle` wait for. -/
inductive Call where
  | now
  | getCache
  | setCache (entry : ChannelCache)
  | queryChannels (corridor : String)
  | claim (eventId : String)
  | record (channelId : String) (success : Bool) (latencyMs : ℕ) (now : ℚ)
  | readWindow (channelId : String) (now : ℚ)
  | readWindows (channelIds : List String) (now : ℚ)
  | readBreaker (channelId : String)
  | readBreakers (channelIds : List String)
  | writeBreaker (channelId : String) (snapshot : BreakerSnapshot)
  | takeProbeSlot (channelId : String) (ttlMs : ℚ)
  | releaseProbeSlot (channelId : String)
  | insertDecision (decision : RoutingDecision) (transactionId : String)
  deriving DecidableEq

/-- What a call answers.  A `Map` is a partial function. -/
abbrev Call.Ans : Call → Type
  | .now => ℚ
  | .getCache => Option ChannelCache
  | .setCache _ => Unit
  | .queryChannels _ => List Row
  | .claim _ => Bool
  | .record .. => Unit
  | .readWindow .. => ChannelStats
  | .readWindows .. => String → Option ChannelStats
  | .readBreaker _ => BreakerSnapshot
  | .readBreakers _ => String → Option BreakerSnapshot
  | .writeBreaker .. => Unit
  | .takeProbeSlot .. => Bool
  | .releaseProbeSlot _ => Unit
  | .insertDecision .. => Unit

/-- The clock and the cache are read in the process itself: they never reject. -/
def Call.isAwaited : Call → Bool
  | .now | .getCache | .setCache _ => false
  | _ => true

/-- The windows of some channels. -/
def World.readWindows (w : World) (config : RoutingConfig) (channelIds : List String)
    (now : ℚ) : Except String (String → Option ChannelStats) :=
  match channelIds with
  | [] => .ok fun _ => none
  | _ => do
      let ids ← windowBucketIds now config.windowMs config.bucketMs
      return fun id => if id ∈ channelIds then some ((w.windows id).stats id ids) else none

/-- What one call does when it is carried out. -/
def perform (config : Config) : (call : Call) → World → Except Failure call.Ans × World
  | .now, w => (.ok w.now, w)
  | .getCache, w => (.ok w.cache, w)
  | .setCache entry, w => (.ok (), { w with cache := some entry })
  | .queryChannels corridor, w => (.ok (w.table.rows.filter (·.corridor = corridor)), w)
  | .claim eventId, w =>
      if w.marked eventId then (.ok false, w)
      else
        (.ok true, w.setProcessed eventId (some (w.now + config.processedTtlSeconds * 1000)))
  | .record channelId success latencyMs now, w =>
      match (w.windows channelId).record config.routing success latencyMs now with
      | .ok buckets => (.ok (), w.setWindow channelId buckets)
      | .error message => (.error (.rejected message), w)
  | .readWindow channelId now, w =>
      match (w.windows channelId).window config.routing channelId now with
      | .ok stats => (.ok stats, w)
      | .error message => (.error (.rejected message), w)
  | .readWindows channelIds now, w =>
      match w.readWindows config.routing channelIds now with
      | .ok stats => (.ok stats, w)
      | .error message => (.error (.rejected message), w)
  | .readBreaker channelId, w => (.ok (w.breakers channelId), w)
  | .readBreakers channelIds, w =>
      (.ok fun id => if id ∈ channelIds then some (w.breakers id) else none, w)
  | .writeBreaker channelId snapshot, w => (.ok (), w.setBreaker channelId snapshot)
  | .takeProbeSlot channelId ttlMs, w =>
      if w.slotHeld channelId then (.ok false, w)
      else (.ok true, w.setProbeSlot channelId (some (w.now + ttlMs)))
  | .releaseProbeSlot channelId, w => (.ok (), w.setProbeSlot channelId none)
  | .insertDecision decision transactionId, w =>
      (.ok (), { w with decisions := (decision, transactionId) :: w.decisions })

section

variable {config : Config} {w : World}

theorem perform_record (channelId : String) (success : Bool) (latencyMs : ℕ) (now : ℚ) :
    perform config (.record channelId success latencyMs now) w =
      (.ok (), w.setWindow channelId
        ((w.windows channelId).recorded config.routing success latencyMs now)) := by
  simp only [perform, Buckets.record_of_pos config.accepted.bucketMs]

theorem perform_readWindow (channelId : String) (now : ℚ) :
    perform config (.readWindow channelId now) w =
      (.ok ((w.windows channelId).statsAt config.routing channelId now), w) := by
  simp only [perform, Buckets.window_of_pos config.accepted.bucketMs]

theorem perform_readWindows (channelIds : List String) (now : ℚ) :
    perform config (.readWindows channelIds now) w =
      (.ok fun id =>
        if id ∈ channelIds then some ((w.windows id).statsAt config.routing id now) else none,
        w) := by
  cases channelIds with
  | nil => simp [perform, World.readWindows]
  | cons id ids =>
      simp only [perform, World.readWindows, windowBucketIds_of_pos config.accepted.bucketMs]
      rfl

/-- Writing the stored snapshot again changes nothing. -/
theorem setBreaker_self (channelId : String) :
    w.setBreaker channelId (w.breakers channelId) = w := by
  simp [World.setBreaker]

end

/-- Which calls reject, and with what. -/
abbrev Faults : Type := Call → Option Failure

/-- No call rejects. -/
def noFaults : Faults := fun _ => none

/-- Carries out a call unless it is to reject; a rejected call has no effect. -/
def exec (config : Config) (faults : Faults) (call : Call) (w : World) :
    Except Failure call.Ans × World :=
  match call.isAwaited, faults call with
  | true, some failure => (.error failure, w)
  | _, _ => perform config call w

section

variable {config : Config} {faults : Faults} {call : Call} {w : World}

@[simp] theorem exec_noFaults : exec config noFaults call w = perform config call w := by
  unfold exec noFaults
  split
  · simp_all
  · rfl

theorem exec_of_none (h : faults call = none) :
    exec config faults call w = perform config call w := by
  unfold exec
  split
  · simp_all
  · rfl

@[simp] theorem exec_now : exec config faults .now w = (.ok w.now, w) := rfl

@[simp] theorem exec_getCache : exec config faults .getCache w = (.ok w.cache, w) := rfl

@[simp] theorem exec_setCache (entry : ChannelCache) :
    exec config faults (.setCache entry) w = (.ok (), { w with cache := some entry }) := rfl

theorem exec_of_some {failure : Failure} (hcall : call.isAwaited = true)
    (h : faults call = some failure) : exec config faults call w = (.error failure, w) := by
  simp only [exec, hcall, h]

/-- A call is carried out, or it rejects and leaves the state. -/
theorem exec_cases (config : Config) (faults : Faults) (call : Call) (w : World) :
    exec config faults call w = perform config call w ∨
      ∃ failure, exec config faults call w = (.error failure, w) := by
  unfold exec
  split
  · exact .inr ⟨_, rfl⟩
  · exact .inl rfl

end

/-! ## Programs -/

/-- An asynchronous function of the service. -/
abbrev Program (α : Type) : Type := Prog Call Call.Ans Failure α

/-- `Clock.now`. -/
def clockNow : Program ℚ := Prog.await Call.now

/-- The module variable `cache`, read and assigned. -/
def getCache : Program (Option ChannelCache) := Prog.await Call.getCache

/-- `cache = entry`. -/
def setCache (entry : ChannelCache) : Program Unit := Prog.await (Call.setCache entry)

/-- The query of `listChannels`. -/
def queryChannels (corridor : String) : Program (List Row) :=
  Prog.await (Call.queryChannels corridor)

/-- `processed.claim`. -/
def claim (eventId : String) : Program Bool := Prog.await (Call.claim eventId)

/-- `windows.record`. -/
def record (channelId : String) (success : Bool) (latencyMs : ℕ) (now : ℚ) : Program Unit :=
  Prog.await (Call.record channelId success latencyMs now)

/-- `windows.read`. -/
def readWindow (channelId : String) (now : ℚ) : Program ChannelStats :=
  Prog.await (Call.readWindow channelId now)

/-- `windows.readMany`. -/
def readWindows (channelIds : List String) (now : ℚ) :
    Program (String → Option ChannelStats) :=
  Prog.await (Call.readWindows channelIds now)

/-- `breakers.read`. -/
def readBreaker (channelId : String) : Program BreakerSnapshot :=
  Prog.await (Call.readBreaker channelId)

/-- `breakers.readMany`. -/
def readBreakers (channelIds : List String) : Program (String → Option BreakerSnapshot) :=
  Prog.await (Call.readBreakers channelIds)

/-- `breakers.write`. -/
def writeBreaker (channelId : String) (snapshot : BreakerSnapshot) : Program Unit :=
  Prog.await (Call.writeBreaker channelId snapshot)

/-- `breakers.takeProbeSlot`. -/
def takeProbeSlot (channelId : String) (ttlMs : ℚ) : Program Bool :=
  Prog.await (Call.takeProbeSlot channelId ttlMs)

/-- `breakers.releaseProbeSlot`. -/
def releaseProbeSlot (channelId : String) : Program Unit :=
  Prog.await (Call.releaseProbeSlot channelId)

/-- `decisionRepository.insertDecision`. -/
def insertDecision (decision : RoutingDecision) (transactionId : String) : Program Unit :=
  Prog.await (Call.insertDecision decision transactionId)

/-! ## Runs of programs -/

/-- Runs a program to its end. -/
def Program.run {α : Type} (config : Config) (faults : Faults) (p : Program α) (w : World) :
    Except Failure α × World :=
  Prog.run (exec config faults) p w

section

variable {config : Config} {faults : Faults} {α β : Type}

@[simp] theorem run_ret (a : α) (w : World) :
    Program.run config faults (.ret a) w = (.ok a, w) := rfl

@[simp] theorem run_throw (failure : Failure) (w : World) :
    Program.run config faults (.throw failure : Program α) w = (.error failure, w) := rfl

@[simp] theorem run_clockNow (w : World) :
    clockNow.run config faults w = (.ok w.now, w) := rfl

@[simp] theorem run_getCache (w : World) :
    getCache.run config faults w = (.ok w.cache, w) := rfl

@[simp] theorem run_setCache (entry : ChannelCache) (w : World) :
    (setCache entry).run config faults w = (.ok (), { w with cache := some entry }) := rfl

@[simp] theorem run_queryChannels (corridor : String) (w : World) :
    (queryChannels corridor).run config faults w =
      exec config faults (.queryChannels corridor) w :=
  Prog.run_await (exec config faults) _ w

@[simp] theorem run_claim (eventId : String) (w : World) :
    (claim eventId).run config faults w = exec config faults (.claim eventId) w :=
  Prog.run_await (exec config faults) _ w

@[simp] theorem run_record (channelId : String) (success : Bool) (latencyMs : ℕ) (now : ℚ)
    (w : World) : (record channelId success latencyMs now).run config faults w =
      exec config faults (.record channelId success latencyMs now) w :=
  Prog.run_await (exec config faults) _ w

@[simp] theorem run_readWindow (channelId : String) (now : ℚ) (w : World) :
    (readWindow channelId now).run config faults w =
      exec config faults (.readWindow channelId now) w :=
  Prog.run_await (exec config faults) _ w

@[simp] theorem run_readWindows (channelIds : List String) (now : ℚ) (w : World) :
    (readWindows channelIds now).run config faults w =
      exec config faults (.readWindows channelIds now) w :=
  Prog.run_await (exec config faults) _ w

@[simp] theorem run_readBreaker (channelId : String) (w : World) :
    (readBreaker channelId).run config faults w =
      exec config faults (.readBreaker channelId) w :=
  Prog.run_await (exec config faults) _ w

@[simp] theorem run_readBreakers (channelIds : List String) (w : World) :
    (readBreakers channelIds).run config faults w =
      exec config faults (.readBreakers channelIds) w :=
  Prog.run_await (exec config faults) _ w

@[simp] theorem run_writeBreaker (channelId : String) (snapshot : BreakerSnapshot)
    (w : World) : (writeBreaker channelId snapshot).run config faults w =
      exec config faults (.writeBreaker channelId snapshot) w :=
  Prog.run_await (exec config faults) _ w

@[simp] theorem run_takeProbeSlot (channelId : String) (ttlMs : ℚ) (w : World) :
    (takeProbeSlot channelId ttlMs).run config faults w =
      exec config faults (.takeProbeSlot channelId ttlMs) w :=
  Prog.run_await (exec config faults) _ w

@[simp] theorem run_releaseProbeSlot (channelId : String) (w : World) :
    (releaseProbeSlot channelId).run config faults w =
      exec config faults (.releaseProbeSlot channelId) w :=
  Prog.run_await (exec config faults) _ w

@[simp] theorem run_insertDecision (decision : RoutingDecision) (transactionId : String)
    (w : World) : (insertDecision decision transactionId).run config faults w =
      exec config faults (.insertDecision decision transactionId) w :=
  Prog.run_await (exec config faults) _ w

theorem run_bind (p : Program α) (f : α → Program β) (w : World) :
    Program.run config faults (p >>= f) w =
      match p.run config faults w with
      | (.ok a, w') => (f a).run config faults w'
      | (.error failure, w') => (.error failure, w') := by
  unfold Program.run
  rw [Prog.run_bind]
  rcases Prog.run (exec config faults) p w with ⟨_ | _, _⟩ <;> rfl

theorem run_bind_ok {p : Program α} {f : α → Program β} {w w' : World} {a : α}
    (h : p.run config faults w = (.ok a, w')) :
    Program.run config faults (p >>= f) w = (f a).run config faults w' :=
  Prog.run_bind_ok _ h

theorem run_bind_error {p : Program α} {f : α → Program β} {w w' : World} {failure : Failure}
    (h : p.run config faults w = (.error failure, w')) :
    Program.run config faults (p >>= f) w = (.error failure, w') :=
  Prog.run_bind_error _ h

theorem run_tryCatch (p : Program α) (handler : Failure → Program α) (w : World) :
    Program.run config faults (p.tryCatch handler) w =
      match p.run config faults w with
      | (.ok a, w') => (.ok a, w')
      | (.error failure, w') => (handler failure).run config faults w' := by
  unfold Program.run
  rw [Prog.run_tryCatch]
  rcases Prog.run (exec config faults) p w with ⟨_ | _, _⟩ <;> rfl

end

end SwitchService.Store
