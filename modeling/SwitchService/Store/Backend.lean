import SwitchService.Store.BreakerStore
import SwitchService.Store.Refinement

set_option autoImplicit false

/-!
# Store: the calls carried out in Redis

`World` keeps the values that the stores stand for; `Backend` keeps the keys that Redis
holds, with anything at all under them.  The same programs run against it, each call by
the commands of its store.  A clock reading is a count of milliseconds, and Redis counts
the time to live of a key by the same clock.
-/

namespace SwitchService.Store

open SwitchService.Foundation SwitchService.Domain

/-- The state of Redis, of the database and of the cache of the process. -/
structure Backend where
  now : ℕ
  db : Redis.Keyspace
  table : Table
  cache : Option ChannelCache
  decisions : List (RoutingDecision × String)

namespace Backend

/-- The answer of a store that only read. -/
def answer {α : Type} (b : Backend) (result : Except String α) : Except Failure α × Backend :=
  match result with
  | .ok value => (.ok value, b)
  | .error message => (.error (.rejected message), b)

/-- The answer of a store with the keyspace that it left. -/
def commit {α : Type} (b : Backend) (result : Except String (α × Redis.Keyspace)) :
    Except Failure α × Backend :=
  match result with
  | .ok (value, db) => (.ok value, { b with db := db })
  | .error message => (.error (.rejected message), b)

/-- What one call does when it is carried out. -/
def perform (config : Config) : (call : Call) → Backend → Except Failure call.Ans × Backend
  | .now, b => (.ok (b.now : ℚ), b)
  | .getCache, b => (.ok b.cache, b)
  | .setCache entry, b => (.ok (), { b with cache := some entry })
  | .queryChannels corridor, b => (.ok (b.table.rows.filter (·.corridor = corridor)), b)
  | .claim eventId, b =>
      b.commit (ProcessedStore.claim config.processedTtlSeconds eventId b.now b.db)
  | .record channelId success latencyMs now, b =>
      b.commit (((WindowStore.ofConfig config.routing).record channelId success latencyMs now
        b.db).map fun db => ((), db))
  | .readWindow channelId now, b =>
      b.answer ((WindowStore.ofConfig config.routing).read channelId now b.db)
  | .readWindows channelIds now, b =>
      b.answer ((WindowStore.ofConfig config.routing).readMany channelIds now b.db)
  | .readBreaker channelId, b => b.answer (BreakerStore.read channelId b.now b.db)
  | .readBreakers channelIds, b => (.ok (BreakerStore.readMany channelIds b.now b.db), b)
  | .writeBreaker channelId snapshot, b =>
      b.commit ((BreakerStore.write channelId snapshot b.now b.db).map fun db => ((), db))
  | .takeProbeSlot channelId ttlMs, b =>
      b.commit (BreakerStore.takeProbeSlot channelId ttlMs b.now b.db)
  | .releaseProbeSlot channelId, b =>
      (.ok (), { b with db := BreakerStore.releaseProbeSlot channelId b.now b.db })
  | .insertDecision decision transactionId, b =>
      (.ok (), { b with decisions := (decision, transactionId) :: b.decisions })

/-- Carries out a call unless it is to reject; a rejected call has no effect. -/
def exec (config : Config) (faults : Faults) (call : Call) (b : Backend) :
    Except Failure call.Ans × Backend :=
  match call.isAwaited, faults call with
  | true, some failure => (.error failure, b)
  | _, _ => perform config call b

/-- Runs a program to its end. -/
def run {α : Type} (config : Config) (faults : Faults) (p : Program α) (b : Backend) :
    Except Failure α × Backend :=
  Prog.run (exec config faults) p b

variable {config : Config} {faults : Faults} {b : Backend} {α β : Type}

/-! ## Calls -/

theorem exec_of_none {call : Call} (h : faults call = none) :
    exec config faults call b = perform config call b := by
  unfold exec
  split
  · simp_all
  · rfl

/-- A call is carried out, or it rejects and leaves the state. -/
theorem exec_cases (config : Config) (faults : Faults) (call : Call) (b : Backend) :
    exec config faults call b = perform config call b ∨
      ∃ failure, exec config faults call b = (.error failure, b) := by
  unfold exec
  split
  · exact .inr ⟨_, rfl⟩
  · exact .inl rfl

/-- What a store commits differs from before in the keyspace at most. -/
theorem commit_cases (b : Backend) (result : Except String (α × Redis.Keyspace)) :
    (∃ value db, result = .ok (value, db) ∧
      b.commit result = (.ok value, { b with db := db })) ∨
    ∃ message, b.commit result = (.error (.rejected message), b) := by
  cases result with
  | ok pair => exact .inl ⟨pair.1, pair.2, rfl, rfl⟩
  | error message => exact .inr ⟨message, rfl⟩

/-! ## Runs -/

@[simp] theorem run_ret (a : α) : run config faults (.ret a) b = (.ok a, b) := rfl

@[simp] theorem run_throw (failure : Failure) :
    run config faults (.throw failure : Program α) b = (.error failure, b) := rfl

@[simp] theorem run_clockNow : run config faults clockNow b = (.ok (b.now : ℚ), b) := rfl

@[simp] theorem run_getCache : run config faults getCache b = (.ok b.cache, b) := rfl

@[simp] theorem run_setCache (entry : ChannelCache) :
    run config faults (setCache entry) b = (.ok (), { b with cache := some entry }) := rfl

theorem run_await (call : Call) :
    run config faults (Prog.await call) b = exec config faults call b :=
  Prog.run_await (exec config faults) call b

theorem run_bind (p : Program α) (f : α → Program β) :
    run config faults (p >>= f) b =
      match run config faults p b with
      | (.ok a, b') => run config faults (f a) b'
      | (.error failure, b') => (.error failure, b') := by
  unfold run
  rw [Prog.run_bind]
  rcases Prog.run (exec config faults) p b with ⟨_ | _, _⟩ <;> rfl

theorem run_bind_ok {p : Program α} {f : α → Program β} {b' : Backend} {a : α}
    (h : run config faults p b = (.ok a, b')) :
    run config faults (p >>= f) b = run config faults (f a) b' :=
  Prog.run_bind_ok _ h

theorem run_bind_error {p : Program α} {f : α → Program β} {b' : Backend} {failure : Failure}
    (h : run config faults p b = (.error failure, b')) :
    run config faults (p >>= f) b = (.error failure, b') :=
  Prog.run_bind_error _ h

theorem run_tryCatch (p : Program α) (handler : Failure → Program α) :
    run config faults (p.tryCatch handler) b =
      match run config faults p b with
      | (.ok a, b') => (.ok a, b')
      | (.error failure, b') => run config faults (handler failure) b' := by
  unfold run
  rw [Prog.run_tryCatch]
  rcases Prog.run (exec config faults) p b with ⟨_ | _, _⟩ <;> rfl

end Backend

end SwitchService.Store
