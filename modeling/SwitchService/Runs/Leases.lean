import SwitchService.Foundation.Lease
import SwitchService.Runs.RedisPool

set_option autoImplicit false

/-!
# Runs: the locks in Redis

A probe slot and the mark of an event are set with `SET`, `NX` and a time to live: each is a
lease on its key.  In every run over Redis the replies to the tasks are those of such leases,
so two tasks are never given the same slot, or the same event, at once.
-/

namespace SwitchService.Runs

open SwitchService.Foundation SwitchService.Domain SwitchService.Store
open SwitchService.Repositories SwitchService.Consumer SwitchService.Services

/-- What a task can lock. -/
inductive Lock where
  | slot (channelId : String)
  | mark (eventId : String)
  deriving DecidableEq

/-- The key of a lock. -/
def Lock.key : Lock → Key
  | .slot channelId => .probeLock channelId
  | .mark eventId => .processed eventId

/-- How long a lock lasts. -/
def Lock.ttlMs (config : Config) : Lock → ℚ
  | .slot _ => probeSlotTtlMs
  | .mark _ => config.processedTtlSeconds * 1000

/-- The lock that a call asks for. -/
def asked : Call → Option Lock
  | .takeProbeSlot channelId _ => some (.slot channelId)
  | .claim eventId => some (.mark eventId)
  | _ => none

/-- The lock that a call gives back. -/
def givenBack : Call → Option Lock
  | .releaseProbeSlot channelId => some (.slot channelId)
  | _ => none

/-- A call over Redis as the log keeps it. -/
abbrev RedisEntry (ι : Type) : Type := Entry ι Fate Backend Failure Call.Ans

variable {ι : Type}

/-- What a call does to a lock when it is carried out. -/
def Lock.event (config : Config) (lock : Lock) (e : RedisEntry ι) : Option (Lease.Event ℚ) :=
  if e.fate.carriedOut = false then none
  else if asked e.op = some lock then
    some (.ask e.before.now (e.before.now + lock.ttlMs config))
  else if givenBack e.op = some lock then some .giveBack
  else none

/-- What happened to a lock, newest first; a call that rejected after it was carried out
counts too. -/
def Lock.history (config : Config) (lock : Lock) (log : List (RedisEntry ι)) :
    List (Lease.Event ℚ) := log.filterMap (lock.event config)

/-- The answer to a call that asks for a lock. -/
def lockReply : (call : Call) → Except Failure call.Ans → Option (Lock × Bool)
  | .takeProbeSlot channelId _, .ok taken => some (.slot channelId, taken)
  | .claim eventId, .ok won => some (.mark eventId, won)
  | _, _ => none

/-- The lock was given back by a call of the log. -/
def Lock.GivenBackIn (lock : Lock) (log : List (RedisEntry ι)) : Prop :=
  ∃ e ∈ log, e.fate.carriedOut = true ∧ givenBack e.op = some lock

variable {config : Config}

theorem Lock.ttlMs_pos (lock : Lock) : 0 < lock.ttlMs config := by
  cases lock with
  | slot _ => norm_num [Lock.ttlMs, probeSlotTtlMs]
  | mark _ =>
      have hpos : (0 : ℚ) < (config.processedTtlSeconds : ℕ) := by
        exact_mod_cast config.processedTtlSeconds.pos
      exact mul_pos hpos (by norm_num)

theorem free_iff {deadline : Option ℚ} {now : ℚ} :
    Lease.Free deadline now ↔ ¬ liveAt now deadline := by
  cases deadline with
  | none => simp [Lease.Free, liveAt]
  | some d => simp [Lease.Free, liveAt]

/-! ## Calls -/

/-- The keys of the locks stand for leases. -/
def Locked (b : Backend) (deadlines : Lock → Option ℚ) : Prop :=
  ∀ lock : Lock, Store.Marks b.now (b.db lock.key.text) (deadlines lock)

/-- What a call sets or deletes. -/
def Writes : Call → Key → Prop
  | .record .., .bucket .. | .record .., .latency .. => True
  | .writeBreaker channelId _, .breaker channelId' => channelId = channelId'
  | .takeProbeSlot channelId _, .probeLock channelId' => channelId = channelId'
  | .releaseProbeSlot channelId, .probeLock channelId' => channelId = channelId'
  | .claim eventId, .processed eventId' => eventId = eventId'
  | _, _ => False

theorem commit_setIfFree_other {b : Backend} {key other : String} (ttlMs : ℤ)
    (hne : other ≠ key) :
    (b.commit (BreakerStore.setIfFree key ttlMs b.now b.db)).2.db other = b.db other := by
  rcases Backend.commit_cases b (BreakerStore.setIfFree key ttlMs b.now b.db) with
    ⟨taken, db, hset, hcommit⟩ | ⟨message, hcommit⟩
  · rw [hcommit]
    exact BreakerStore.setIfFree_other hset hne
  · rw [hcommit]

/-- A call leaves the keys that it does not write. -/
theorem carry_other (call : Call) (b : Backend) {key : Key} (h : ¬ Writes call key) :
    (b.carry config call).2.db key.text = b.db key.text := by
  have hne : ∀ other : Key, Writes call other → key.text ≠ other.text := by
    intro other hwrites
    refine Key.text_ne ?_
    rintro rfl
    exact h hwrites
  cases call with
  | now | getCache | setCache _ | queryChannels _ | insertDecision _ _ | readBreakers _ => rfl
  | readWindow _ _ | readWindows _ _ | readBreaker _ =>
      simp only [Backend.carry, Backend.perform, Backend.answer]
      split <;> rfl
  | claim eventId => exact commit_setIfFree_other _ (hne (.processed eventId) rfl)
  | takeProbeSlot channelId ttlMs =>
      simp only [Backend.carry, Backend.perform, BreakerStore.takeProbeSlot]
      split
      · exact commit_setIfFree_other _ (hne (.probeLock channelId) rfl)
      · rfl
  | releaseProbeSlot channelId =>
      exact BreakerStore.releaseProbeSlot_other (hne (.probeLock channelId) rfl)
  | writeBreaker channelId snapshot =>
      simp only [Backend.carry, Backend.perform, BreakerStore.write]
      cases (Redis.exec b.now (.hset (breakerKey channelId)
          (BreakerStore.snapshotFields snapshot)) b.db).1 with
      | error message => rfl
      | ok reply => exact Function.update_of_ne (hne (.breaker channelId) rfl) _ _
  | record channelId success latencyMs moment =>
      have hcounters : ∀ id, key.text ≠ bucketKey channelId id :=
        fun id => hne (.bucket channelId id) trivial
      have hsamples : ∀ id, key.text ≠ latencyKey channelId id :=
        fun id => hne (.latency channelId id) trivial
      rw [Backend.carry_record]
      dsimp only
      rw [WindowStore.recordedAt_frame _ success latencyMs (hcounters _) (hsamples _)]

/-- `SET` with `NX` is an ask for a lease. -/
theorem commit_setIfFree_marks {b : Backend} {key : String} {ttlMs : ℤ} (hpos : 0 < ttlMs)
    {deadline : Option ℚ} (h : Store.Marks b.now (b.db key) deadline) :
    (b.commit (BreakerStore.setIfFree key ttlMs b.now b.db)).1 =
        .ok (decide (Lease.Free deadline b.now)) ∧
      Store.Marks b.now ((b.commit (BreakerStore.setIfFree key ttlMs b.now b.db)).2.db key)
        (if Lease.Free deadline b.now then some (b.now + ttlMs) else deadline) := by
  rw [setIfFree_of_marks hpos h]
  by_cases hlive : liveAt b.now deadline
  · have hheld : ¬ Lease.Free deadline b.now := fun hfree => free_iff.mp hfree hlive
    rw [if_pos hlive, if_neg hheld, decide_eq_false hheld]
    refine ⟨rfl, fun t ht => ?_⟩
    simp only [Backend.commit, Function.update_self]
    rw [Redis.left_left_of_le ht]
    exact h t ht
  · have hfree : Lease.Free deadline b.now := free_iff.mpr hlive
    rw [if_neg hlive, if_pos hfree, decide_eq_true hfree]
    refine ⟨rfl, ?_⟩
    simp only [Backend.commit, Function.update_self]
    exact marks_text _ _

/-- The deadline of a lock after a call. -/
def deadlineAfter (config : Config) (lock : Lock) (call : Call) (now : ℚ)
    (deadline : Option ℚ) : Option ℚ :=
  if asked call = some lock then
    if Lease.Free deadline now then some (now + lock.ttlMs config) else deadline
  else if givenBack call = some lock then none
  else deadline

theorem deadlineAfter_of_ne {lock : Lock} {call : Call} (hasked : asked call ≠ some lock)
    (hback : givenBack call ≠ some lock) (now : ℚ) (deadline : Option ℚ) :
    deadlineAfter config lock call now deadline = deadline := by
  rw [deadlineAfter, if_neg hasked, if_neg hback]

/-- A call leaves the locks that it does not name. -/
theorem Locked.carry_other {b : Backend} {deadlines : Lock → Option ℚ} (h : Locked b deadlines)
    (call : Call) {lock : Lock} (hother : ¬ Writes call lock.key) :
    Store.Marks b.now ((b.carry config call).2.db lock.key.text) (deadlines lock) := by
  rw [Runs.carry_other call b hother]
  exact h lock

/-- A call of a task does to the locks what it asks for, and is told so. -/
theorem Locked.carry (config : Config) {b : Backend} {deadlines : Lock → Option ℚ}
    (h : Locked b deadlines) {seen : Seen} {call : Call} (hmoment : AtMoment seen call) :
    (∀ lock : Lock, Store.Marks b.now ((b.carry config call).2.db lock.key.text)
        (deadlineAfter config lock call b.now (deadlines lock))) ∧
      lockReply call (b.carry config call).1 =
        (asked call).map fun lock => (lock, decide (Lease.Free (deadlines lock) b.now)) := by
  cases call with
  | claim eventId =>
      have hpos : (0 : ℤ) < (config.processedTtlSeconds : ℕ) * 1000 := by
        have := config.processedTtlSeconds.pos
        omega
      obtain ⟨hreply, hmarks⟩ := commit_setIfFree_marks hpos (h (.mark eventId))
      refine ⟨fun lock => ?_, congrArg (lockReply (.claim eventId)) hreply⟩
      by_cases hlock : lock = .mark eventId
      · subst hlock
        have httl : (((config.processedTtlSeconds : ℕ) * 1000 : ℤ) : ℚ) =
            (Lock.mark eventId).ttlMs config := by simp [Lock.ttlMs]
        have hasked : asked (.claim eventId) = some (.mark eventId) := rfl
        rw [deadlineAfter, if_pos hasked, ← httl]
        exact hmarks
      · rw [deadlineAfter_of_ne (by simp [asked, Ne.symm hlock]) (by simp [givenBack])]
        refine h.carry_other (.claim eventId) ?_
        cases lock with
        | slot _ => exact id
        | mark id => exact fun heq => hlock (congrArg Lock.mark heq.symm)
  | takeProbeSlot channelId ttlMs =>
      obtain rfl : ttlMs = probeSlotTtlMs := hmoment
      obtain ⟨hreply, hmarks⟩ := commit_setIfFree_marks (by norm_num : (0 : ℤ) < 10000)
        (h (.slot channelId))
      refine ⟨fun lock => ?_, congrArg (lockReply (.takeProbeSlot channelId _)) hreply⟩
      by_cases hlock : lock = .slot channelId
      · subst hlock
        have httl : ((10000 : ℤ) : ℚ) = (Lock.slot channelId).ttlMs config := by
          norm_num [Lock.ttlMs, probeSlotTtlMs]
        have hasked : asked (.takeProbeSlot channelId probeSlotTtlMs) =
            some (.slot channelId) := rfl
        rw [deadlineAfter, if_pos hasked, ← httl]
        exact hmarks
      · rw [deadlineAfter_of_ne (by simp [asked, Ne.symm hlock]) (by simp [givenBack])]
        refine h.carry_other (.takeProbeSlot channelId _) ?_
        cases lock with
        | mark _ => exact id
        | slot id => exact fun heq => hlock (congrArg Lock.slot heq.symm)
  | releaseProbeSlot channelId =>
      refine ⟨fun lock => ?_, rfl⟩
      by_cases hlock : lock = .slot channelId
      · subst hlock
        simp only [Backend.carry, Backend.perform, releaseProbeSlot_eq, Lock.key, Key.text,
          Function.update_self, deadlineAfter, asked, givenBack]
        simpa using marks_none b.now
      · rw [deadlineAfter_of_ne (by simp [asked]) (by simp [givenBack, Ne.symm hlock])]
        refine h.carry_other (.releaseProbeSlot channelId) ?_
        cases lock with
        | mark _ => exact id
        | slot id => exact fun heq => hlock (congrArg Lock.slot heq.symm)
  | _ =>
      refine ⟨fun lock => ?_, ?_⟩
      · rw [deadlineAfter_of_ne (by simp [asked]) (by simp [givenBack])]
        refine h.carry_other _ ?_
        cases lock <;> exact id
      · rfl

/-! ## Runs -/

/-- The deadline of a lock by what the log says. -/
def deadlineBy (config : Config) (initial : Lock → Option ℚ) (log : List (RedisEntry ι))
    (lock : Lock) : Option ℚ :=
  Lease.deadline (initial lock) (lock.history config log)

theorem deadlineBy_cons (initial : Lock → Option ℚ) (e : RedisEntry ι)
    (log : List (RedisEntry ι)) (lock : Lock) :
    deadlineBy config initial (e :: log) lock =
      if e.fate.carriedOut = true then
        deadlineAfter config lock e.op e.before.now (deadlineBy config initial log lock)
      else deadlineBy config initial log lock := by
  unfold deadlineBy Lock.history deadlineAfter
  rw [List.filterMap_cons]
  unfold Lock.event
  split_ifs <;> simp_all [Lease.deadline]

/-- A call that is not awaited has nothing to do with locks. -/
theorem lock_isAwaited {call : Call} (h : call.isAwaited = false) :
    asked call = none ∧ givenBack call = none ∧ ∀ reply, lockReply call reply = none := by
  cases call with
  | now | getCache | setCache _ => exact ⟨rfl, rfl, fun _ => rfl⟩
  | _ => cases h

/-- A step of a task does to the locks what its call asks for, where it is carried out. -/
theorem Locked.answer (config : Config) {b : Backend} {deadlines : Lock → Option ℚ}
    (h : Locked b deadlines) (fate : Fate) {seen : Seen} {call : Call}
    (hmoment : AtMoment seen call) :
    Locked (redisAnswer config fate call b).2 fun lock =>
      if fate.carriedOut = true then deadlineAfter config lock call b.now (deadlines lock)
      else deadlines lock := by
  have hcarry := (h.carry config hmoment).1
  intro lock
  dsimp only
  rw [redisAnswer_now]
  cases hawaited : call.isAwaited with
  | false =>
      obtain ⟨hasked, hback, _⟩ := lock_isAwaited hawaited
      have hlock := hcarry lock
      rw [deadlineAfter_of_ne (by simp [hasked]) (by simp [hback])] at hlock ⊢
      rw [ite_self]
      unfold redisAnswer
      rw [hawaited]
      exact hlock
  | true =>
      unfold redisAnswer
      rw [hawaited]
      cases fate with
      | refused failure => exact h lock
      | done | lost _ => exact hcarry lock

/-- The answer to a call that asked for a lock says whether it was free. -/
theorem Locked.reply {b : Backend} {deadlines : Lock → Option ℚ} (h : Locked b deadlines)
    {fate : Fate} {seen : Seen} {call : Call} (hmoment : AtMoment seen call) {lock : Lock}
    {granted : Bool}
    (hreply : lockReply call (redisAnswer config fate call b).1 = some (lock, granted)) :
    fate.carriedOut = true ∧ asked call = some lock ∧
      (granted = true ↔ Lease.Free (deadlines lock) b.now) := by
  cases hawaited : call.isAwaited with
  | false => simp [(lock_isAwaited hawaited).2.2] at hreply
  | true =>
      have herror : ∀ failure, lockReply call (.error failure) = none := by
        intro failure
        cases call <;> rfl
      unfold redisAnswer at hreply
      rw [hawaited] at hreply
      cases fate with
      | refused failure => simp [herror] at hreply
      | lost failure => simp [herror] at hreply
      | done =>
          have hcarry := (h.carry config hmoment).2
          dsimp only at hreply
          rw [hcarry] at hreply
          obtain ⟨asked', hasked, hpair⟩ := Option.map_eq_some_iff.mp hreply
          obtain ⟨rfl, rfl⟩ := Prod.mk.inj hpair
          exact ⟨rfl, hasked, decide_eq_true_iff⟩

theorem givenBackIn_of_history {lock : Lock} {log : List (RedisEntry ι)}
    (h : Lease.Event.giveBack ∈ lock.history config log) : lock.GivenBackIn log := by
  obtain ⟨e, he, hevent⟩ := List.mem_filterMap.mp h
  unfold Lock.event at hevent
  split_ifs at hevent with hfate hasked hback
  · cases hevent
  · exact ⟨e, he, by simpa using hfate, hback⟩

theorem lasting_history (lock : Lock) (log : List (RedisEntry ι)) :
    Lease.Lasting (lock.history config log) := by
  intro time until_ hmem
  obtain ⟨e, _, hevent⟩ := List.mem_filterMap.mp hmem
  unfold Lock.event at hevent
  split_ifs at hevent
  · obtain ⟨rfl, rfl⟩ := Lease.Event.ask.inj (Option.some.inj hevent)
    exact le_add_of_nonneg_right lock.ttlMs_pos.le
  · cases hevent

section

variable [DecidableEq ι] {tasks : ι → Task}

theorem Locked.change {b : Backend} {deadlines : Lock → Option ℚ} (h : Locked b deadlines)
    (change : RedisChange) : Locked (change.apply b) deadlines := by
  cases change with
  | edit _ | clearCache => exact h
  | advance elapsed =>
      intro lock
      refine (h lock).mono ?_
      exact_mod_cast Nat.le_add_right _ _

/-- Every call of a run found the locks as the log before it says. -/
theorem locked_run (config : Config) (localeCompare : String → String → Ordering)
    (tasks : ι → Task) {b : Backend} {initial : Lock → Option ℚ} (h : Locked b initial)
    (moves : List (Move ι Fate RedisChange)) :
    Pool.Found (fun log b => Locked b (deadlineBy config initial log))
      (runFrom (RedisPool.next config) (RedisPool.start config localeCompare tasks b)
        moves).log := by
  refine (redisInv_start localeCompare b).sound.found_run
    (I := fun log b => Locked b (deadlineBy config initial log))
    (fun _ _ change h => h.change change) ?_ h trivial moves
  intro pool i fate call hallowed hlocked
  have hanswer := hlocked.answer config fate hallowed.2
  intro lock
  rw [deadlineBy_cons]
  exact hanswer lock

/-- A call is given a lock exactly where the calls before it leave the lock free. -/
theorem granted_iff (config : Config) (localeCompare : String → String → Ordering)
    (tasks : ι → Task) {b : Backend} {initial : Lock → Option ℚ} (h : Locked b initial)
    (moves : List (Move ι Fate RedisChange)) {newer older : List (RedisEntry ι)}
    {e : RedisEntry ι} (hlog : (runFrom (RedisPool.next config)
      (RedisPool.start config localeCompare tasks b) moves).log = newer ++ e :: older)
    {lock : Lock} {granted : Bool} (hreply : lockReply e.op e.reply = some (lock, granted)) :
    e.fate.carriedOut = true ∧ asked e.op = some lock ∧
      (granted = true ↔ Lease.Free (deadlineBy config initial older lock) e.before.now) := by
  have hfound := locked_run config localeCompare tasks h moves
  have horderly : Pool.Orderly (redisAnswer config)
      (fun i => redisProtocol config.routing (tasks i)) (fun _ => Seen.init) (fun _ => anyEnd)
      (runFrom (RedisPool.next config) (RedisPool.start config localeCompare tasks b) moves) :=
    Pool.orderly_run b (fun i => atMoment_program localeCompare (tasks i)) moves
  have hlawful := horderly.lawful
  have hanswered := horderly.answered
  rw [hlog] at hfound hlawful hanswered
  have hmoment := (hlawful.older newer).1.2
  rw [hanswered e (List.mem_append_right _ List.mem_cons_self)] at hreply
  exact hfound.at.reply hmoment hreply

/-- What the locks are, in every run over Redis: whatever the tasks, the order of their calls,
the calls that fail and the time between them, a call is given the lock exactly where nobody
has it, by the log of the calls before; so between two calls that are given one lock, it was
given back or its time was over. -/
theorem locks_exact (config : Config) (localeCompare : String → String → Ordering)
    (tasks : ι → Task) {b : Backend} {initial : Lock → Option ℚ} (h : Locked b initial)
    (moves : List (Move ι Fate RedisChange)) {newer older : List (RedisEntry ι)}
    {e : RedisEntry ι} (hlog : (runFrom (RedisPool.next config)
      (RedisPool.start config localeCompare tasks b) moves).log = newer ++ e :: older)
    {lock : Lock} {granted : Bool} (hreply : lockReply e.op e.reply = some (lock, granted)) :
    (granted = true ↔ Lease.Free (deadlineBy config initial older lock) e.before.now) ∧
      (granted = true → ∀ mid first rest, older = mid ++ first :: rest →
        lockReply first.op first.reply = some (lock, true) →
        lock.GivenBackIn mid ∨
          (first.before.now : ℚ) + lock.ttlMs config ≤ e.before.now) := by
  obtain ⟨_, _, hiff⟩ := granted_iff config localeCompare tasks h moves hlog hreply
  refine ⟨hiff, ?_⟩
  rintro hgranted mid first rest rfl hfirst
  by_cases hback : Lease.Event.giveBack ∈ lock.history config mid
  · exact .inl (givenBackIn_of_history hback)
  · right
    have hsplit : (runFrom (RedisPool.next config)
        (RedisPool.start config localeCompare tasks b) moves).log =
          (newer ++ e :: mid) ++ first :: rest := by
      rw [hlog, List.append_assoc, List.cons_append]
    obtain ⟨hfate, hasked, hfree⟩ := granted_iff config localeCompare tasks h moves hsplit hfirst
    have hevent : lock.event config first =
        some (.ask first.before.now (first.before.now + lock.ttlMs config)) := by
      rw [Lock.event, if_neg (by simp [hfate]), if_pos hasked]
    have hsecond := hiff.mp hgranted
    have hhistory : lock.history config (mid ++ first :: rest) = lock.history config mid ++
        .ask first.before.now (first.before.now + lock.ttlMs config) ::
          lock.history config rest := by
      simp [Lock.history, List.filterMap_append, hevent]
    rw [deadlineBy, hhistory] at hsecond
    exact Lease.grants_apart hback (lasting_history lock mid) (hfree.mp rfl) hsecond

end

theorem locked_fresh (now : ℕ) (table : Table) :
    Locked (Backend.fresh now table) fun _ => none := fun _ => marks_none _

/-- Deliveries of one event. -/
def repeatTasks : ℕ → Task := fun _ =>
  .deliver .absent (payoutOutcome "evt_0" "dec_0" "RAIL-A" .success).toJson

/-- Two of them claim the event, a second apart. -/
def repeatMoves : List (Move ℕ Fate RedisChange) :=
  [.step 0 .done, .other (.advance 1000), .step 1 .done]

/-- The log of the two claims. -/
def repeatLog : List (RedisEntry ℕ) :=
  (runFrom (RedisPool.next defaultConfig)
    (RedisPool.start defaultConfig compare repeatTasks (Backend.fresh 60000 seededA))
    repeatMoves).log

/-- The theorem at the second claim: the first one has the event. -/
theorem locks_exact_repeat :
    (repeatLog.head?.bind fun e => lockReply e.op e.reply) = some (.mark "evt_0", false) ∧
      ∀ e ∈ repeatLog.head?, ¬ Lease.Free
        (deadlineBy defaultConfig (fun _ => none) repeatLog.tail (.mark "evt_0"))
        e.before.now := by
  have hreply : (repeatLog.head?.bind fun e => lockReply e.op e.reply) =
      some (.mark "evt_0", false) := by decide +kernel
  refine ⟨hreply, fun e he => ?_⟩
  have hlog : repeatLog = [] ++ e :: repeatLog.tail := List.eq_cons_of_mem_head? he
  rw [Option.mem_def.mp he, Option.bind_some] at hreply
  have hiff := (locks_exact defaultConfig compare repeatTasks (locked_fresh 60000 seededA)
    repeatMoves hlog hreply).1
  exact fun hfree => absurd (hiff.mpr hfree) (by decide)

end SwitchService.Runs
