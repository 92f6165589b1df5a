import SwitchService.Foundation.Simulation
import SwitchService.Runs.Concurrent
import SwitchService.Store.Represents

set_option autoImplicit false

/-!
# Runs: the tasks over Redis

The tasks of a pool run over the keys of Redis, one call after another in any order, with
the clock going on between the calls.  A task gives its calls the moment that it read last;
`Prompt` asks of a run that a read of windows is carried out before the window has moved on
by more than a window less a bucket.

Every such run is followed by the run of the same tasks over the world: the same calls with
the same replies.
-/

namespace SwitchService.Runs

open SwitchService.Foundation SwitchService.Domain SwitchService.Store
open SwitchService.Repositories SwitchService.Consumer SwitchService.Services

/-! ## The moments of the calls -/

/-- A task works with the moment that it read last, and locks a slot for `PROBE_SLOT_TTL_MS`. -/
def AtMoment (seen : Seen) : Call → Prop
  | .record _ _ _ moment | .readWindow _ moment | .readWindows _ moment => moment ∈ seen.now
  | .takeProbeSlot _ ttlMs => ttlMs = probeSlotTtlMs
  | _ => True

/-- A task works with the moment it has seen. -/
def momentProtocol : Prog.Protocol Call Call.Ans Failure Seen where
  allows := AtMoment
  next := Seen.next

/-- A lookup reads nothing but the clock, the cache and the table. -/
theorem Lookup.atMoment (lookup : Lookup) (channelId : String) (seen : Seen) :
    Prog.Follows momentProtocol anyEnd (isKnown lookup.known channelId) seen := by
  unfold isKnown
  split
  · rename_i program hprogram
    have hsim := (lookup.looksUp program hprogram channelId).simulate (Q := momentProtocol)
      (R := fun _ _ => True) ?_ (fun _ _ _ _ _ _ => trivial) (d := seen) trivial
    · exact hsim.mono fun _ _ _ => trivial
    · intro _ seen' op _ hop
      cases op with
      | now | getCache | setCache _ | queryChannels _ => trivial
      | _ => cases hop
  · trivial

theorem atMoment_writeMoved (channelId : String) (current next : BreakerSnapshot)
    (seen : Seen) : Prog.Follows momentProtocol (fun seen' _ => seen'.now = seen.now)
      (writeMoved channelId current next) seen := by
  unfold writeMoved
  split
  · rfl
  · exact Prog.follows_await trivial (fun _ => rfl) fun _ => rfl

variable {config : Config}

theorem atMoment_applyToBreaker (channelId : String) (success : Bool) {seen : Seen} {now : ℚ}
    (hnow : seen.now = some now) :
    Prog.Follows momentProtocol anyEnd
      (applyToBreaker config.routing channelId success now) seen := by
  refine Prog.follows_await_bind trivial (fun current => ?_) fun _ => trivial
  split
  · refine Prog.follows_bind _ (atMoment_writeMoved _ _ _ _) ?_ fun _ _ _ => trivial
    intro _ seen' _
    exact Prog.follows_await_bind trivial (fun _ => trivial) fun _ => trivial
  · refine Prog.follows_await_bind hnow (fun stats => ?_) fun _ => trivial
    exact Prog.follows_bind _ (atMoment_writeMoved _ _ _ _) (fun _ _ _ => trivial)
      fun _ _ _ => trivial

theorem atMoment_handle (lookup : Lookup) (message : Json) :
    Prog.Follows momentProtocol anyEnd (handle config.routing lookup.known message)
      Seen.init := by
  unfold handle
  split
  · trivial
  · rename_i event _
    unfold handleEvent
    split
    · trivial
    · refine Prog.follows_bind _ (lookup.atMoment event.channelId _) ?_ fun _ _ _ => trivial
      intro known seen _
      split
      · refine Prog.follows_await_bind trivial (fun claimed => ?_) fun _ => trivial
        cases claimed with
        | false => trivial
        | true =>
            refine Prog.follows_await_bind trivial (fun now => ?_) fun _ => trivial
            refine Prog.follows_await_bind rfl (fun _ => ?_) fun _ => trivial
            exact Prog.follows_bind anyEnd (atMoment_applyToBreaker _ _ rfl)
              (fun _ _ _ => trivial) fun _ _ _ => trivial
      · trivial

theorem atMoment_refreshBreakers (metrics : Metrics) (now : ℚ) (ids : List String)
    (next : String → Option BreakerSnapshot) (seen : Seen) :
    Prog.Follows momentProtocol anyEnd (refreshBreakers config.routing metrics now ids next)
      seen := by
  induction ids generalizing next seen with
  | nil => trivial
  | cons id ids ih =>
      unfold refreshBreakers
      refine Prog.follows_bind anyEnd ?_ (fun _ seen' _ => ih _ seen') fun _ _ _ => trivial
      unfold writeRefreshed
      split
      · exact Prog.follows_tryCatch anyEnd
          (Prog.follows_await trivial (fun _ => trivial) fun _ => trivial)
          (fun _ _ _ => trivial) fun _ _ _ => trivial
      · trivial

theorem atMoment_persist (decision : RoutingDecision) (transactionId : String) (seen : Seen) :
    Prog.Follows momentProtocol anyEnd (persist decision transactionId) seen :=
  Prog.follows_tryCatch anyEnd
    (Prog.follows_await trivial (fun _ => trivial) fun _ => trivial)
    (fun _ _ _ => trivial) fun _ _ _ => trivial

theorem atMoment_chooseChannel (candidates : List Candidate) (rng : Rng) (seen : Seen) :
    Prog.Follows momentProtocol anyEnd (chooseChannel config.routing candidates rng) seen := by
  unfold chooseChannel
  split
  · trivial
  · split
    · refine Prog.follows_await_bind rfl (fun gotSlot => ?_) fun _ => trivial
      split
      · trivial
      · dsimp only
        split
        · trivial
        · trivial
    · trivial

theorem atMoment_decideWith (localeCompare : String → String → Ordering) (rng : Rng)
    (uuid : String) (request : RouteRequest) (now : ℚ) (channels : List Channel)
    (metrics : Metrics) (seen : Seen) :
    Prog.Follows momentProtocol anyEnd
      (decideWith config.routing localeCompare rng uuid request now channels metrics) seen := by
  unfold decideWith
  refine Prog.follows_bind anyEnd (atMoment_refreshBreakers metrics now _ _ seen) ?_
    fun _ _ _ => trivial
  intro breakers seen₁ _
  refine Prog.follows_bind anyEnd (atMoment_chooseChannel _ rng seen₁) ?_ fun _ _ _ => trivial
  intro chosen seen₂ _
  refine Prog.follows_await_bind trivial (fun evaluatedAt => ?_) fun _ => trivial
  exact Prog.follows_bind anyEnd (atMoment_persist _ _ _) (fun _ _ _ => trivial)
    fun _ _ _ => trivial

theorem atMoment_withBudget_readMetrics (ids : List String) {now : ℚ} {seen : Seen}
    (hnow : seen.now = some now) :
    Prog.Follows momentProtocol anyEnd (withBudget (readMetrics ids now)) seen := by
  unfold withBudget
  refine Prog.follows_tryCatch anyEnd ?_ (fun _ _ _ => trivial) fun _ _ _ => trivial
  refine Prog.follows_bind anyEnd ?_ (fun _ _ _ => trivial) fun _ _ _ => trivial
  refine Prog.follows_await_bind hnow (fun stats => ?_) fun _ => trivial
  exact Prog.follows_await_bind trivial (fun _ => trivial) fun _ => trivial

theorem atMoment_route (localeCompare : String → String → Ordering) (rng : Rng)
    (uuid : String) (request : RouteRequest) :
    Prog.Follows momentProtocol anyEnd
      (Services.route config.routing localeCompare rng uuid request) Seen.init := by
  refine Prog.follows_await_bind trivial (fun now => ?_) fun _ => trivial
  refine Prog.follows_bind _ (follows_listChannelsCached now request.corridor ?_ ?_) ?_
    fun _ _ _ => trivial
  · intro op hop
    cases op with
    | now | getCache | setCache _ | queryChannels _ => trivial
    | _ => cases hop
  · intro op reply hop hne
    cases op with
    | now => exact absurd rfl hne
    | getCache | setCache _ | queryChannels _ => rfl
    | _ => cases hop
  · rintro all seen rfl
    unfold routeAmong
    dsimp only
    split
    · trivial
    · refine Prog.follows_bind anyEnd (atMoment_withBudget_readMetrics _ rfl) ?_
        fun _ _ _ => trivial
      intro metrics seen' _
      cases metrics with
      | some metrics =>
          exact atMoment_decideWith localeCompare rng uuid request now _ metrics seen'
      | none =>
          dsimp only
          unfold degradedDecision
          split
          · trivial
          · exact Prog.follows_bind anyEnd (atMoment_persist _ _ _) (fun _ _ _ => trivial)
              fun _ _ _ => trivial

/-- What a task over Redis keeps to. -/
def redisProtocol (config : RoutingConfig) (task : Task) :
    Prog.Protocol Call Call.Ans Failure Seen where
  allows seen call := Allowed config task seen call ∧ AtMoment seen call
  next := Seen.next

theorem atMoment_program (localeCompare : String → String → Ordering) (task : Task) :
    Prog.Follows (redisProtocol config.routing task) anyEnd
      (task.program config localeCompare) Seen.init := by
  have hmoment : Prog.Follows momentProtocol anyEnd (task.program config localeCompare)
      Seen.init := by
    cases task with
    | route rng uuid request => exact atMoment_route localeCompare rng uuid request
    | deliver lookup message => exact atMoment_handle lookup message
  exact ((follows_program localeCompare task).and hmoment).mono fun _ _ _ => trivial

/-! ## The pool -/

/-- What happens besides the calls; the clock counts milliseconds. -/
inductive RedisChange where
  | advance (elapsed : ℕ)
  | edit (table : Table)
  | clearCache

/-- What such a change does. -/
def RedisChange.apply : RedisChange → Backend → Backend
  | .advance elapsed, b => { b with now := b.now + elapsed }
  | .edit table, b => { b with table := table }
  | .clearCache, b => { b with cache := none }

/-- The same change of the world. -/
def RedisChange.abstract : RedisChange → Change
  | .advance elapsed => .advance elapsed
  | .edit table => .edit table
  | .clearCache => .clearCache

/-- The answer to a call that ends in a given way. -/
def redisAnswer (config : Config) : Pool.Answer Fate Backend Failure Call.Ans :=
  fun fate call b =>
    match call.isAwaited, fate with
    | true, .refused failure => (.error failure, b)
    | true, .lost failure => (.error failure, (b.carry config call).2)
    | _, _ => b.carry config call

/-- A pool of tasks over Redis. -/
abbrev RedisPool {ι : Type} (tasks : ι → Task) : Type :=
  Pool Fate Backend Failure Call.Ans fun i => (tasks i).Result

/-- The tasks before their first calls. -/
def RedisPool.start {ι : Type} (config : Config) (localeCompare : String → String → Ordering)
    (tasks : ι → Task) (b : Backend) : RedisPool tasks :=
  Pool.start (fun i => (tasks i).program config localeCompare) b

/-- One step of the pool. -/
def RedisPool.next {ι : Type} [DecidableEq ι] (config : Config) {tasks : ι → Task}
    (pool : RedisPool tasks) (move : Move ι Fate RedisChange) : RedisPool tasks :=
  Pool.next (redisAnswer config) RedisChange.apply pool move

/-- The moment of a read of windows. -/
def readMoment : Call → Option ℚ
  | .readWindow _ moment | .readWindows _ moment => some moment
  | _ => none

/-- The windows that the step reads, if it reads any, still have all their buckets. -/
def Prompt {ι : Type} (config : Config) {tasks : ι → Task} (pool : RedisPool tasks) :
    Move ι Fate RedisChange → Prop
  | .step i _ => ∀ moment ∈ (pool.threads i).nextCall.bind readMoment,
      (pool.shared.now : ℚ) + config.routing.bucketMs ≤ moment + config.routing.windowMs
  | .other _ => True

instance {ι : Type} (config : Config) {tasks : ι → Task} (pool : RedisPool tasks) :
    (move : Move ι Fate RedisChange) → Decidable (Prompt config pool move)
  | .step i _ => inferInstanceAs
      (Decidable (∀ moment ∈ (pool.threads i).nextCall.bind readMoment, _ ≤ _))
  | .other _ => inferInstanceAs (Decidable True)

/-! ## What a task has seen over Redis -/

/-- Clock readings are past milliseconds and snapshots could have been written. -/
def SeenWell (clock : ℕ) (seen : Seen) : Prop :=
  (∀ now ∈ seen.now, ∃ n : ℕ, now = n ∧ n ≤ clock) ∧
    ∀ id, ∀ read ∈ seen.read id, BreakerStore.Storable read

theorem seenWell_init (clock : ℕ) : SeenWell clock Seen.init :=
  ⟨fun _ h => (by cases h), fun _ _ h => (by cases h)⟩

theorem SeenWell.mono {clock clock' : ℕ} {seen : Seen} (h : SeenWell clock seen)
    (hle : clock ≤ clock') : SeenWell clock' seen := by
  refine ⟨fun now hnow => ?_, h.2⟩
  obtain ⟨n, hn, hpast⟩ := h.1 now hnow
  exact ⟨n, hn, hpast.trans hle⟩

theorem redisAnswer_now (fate : Fate) (call : Call) (b : Backend) :
    (redisAnswer config fate call b).2.now = b.now := by
  have hcarry : (b.carry config call).2.now = b.now := by
    cases call with
    | claim | record | writeBreaker | takeProbeSlot =>
        simp only [Backend.carry, Backend.perform, Backend.commit]
        split <;> rfl
    | readWindow | readWindows | readBreaker =>
        simp only [Backend.carry, Backend.perform, Backend.answer]
        split <;> rfl
    | _ => rfl
  unfold redisAnswer
  split
  · rfl
  · exact hcarry
  · exact hcarry

/-- A reply is an error or what Redis answers. -/
theorem redisAnswer_reply (fate : Fate) (call : Call) (b : Backend) :
    (∃ failure, call.isAwaited = true ∧ (redisAnswer config fate call b).1 = .error failure) ∨
      (redisAnswer config fate call b).1 = (b.carry config call).1 := by
  unfold redisAnswer
  split
  · rename_i hawaited
    exact .inl ⟨_, hawaited, rfl⟩
  · rename_i hawaited
    exact .inl ⟨_, hawaited, rfl⟩
  · exact .inr rfl

/-- Every reply of Redis keeps what a task has seen well. -/
theorem SeenWell.next {b : Backend} {seen : Seen} (h : SeenWell b.now seen) (fate : Fate)
    (call : Call) : SeenWell b.now (seen.next call (redisAnswer config fate call b).1) := by
  rcases redisAnswer_reply fate call b with
    ⟨failure, hawaited, hreply⟩ | hreply
  · rw [hreply]
    cases call with
    | now => cases hawaited
    | _ => exact h
  · rw [hreply]
    cases call with
    | now => exact ⟨fun now hnow => ⟨b.now, (Option.some.inj hnow).symm, le_rfl⟩, h.2⟩
    | claim eventId =>
        rcases (b.carry config (.claim eventId)).1 with failure | (_ | _)
        · exact h
        · exact h
        · exact h
    | readBreaker channelId =>
        simp only [Backend.carry, Backend.perform]
        cases hread : BreakerStore.read channelId b.now b.db with
        | error message => exact h
        | ok snapshot =>
            refine ⟨h.1, fun id read hmem => ?_⟩
            simp only [Seen.next, Backend.answer, Option.mem_def] at hmem
            by_cases hid : id = channelId
            · subst hid
              rw [Function.update_self] at hmem
              rw [← Option.some.inj hmem, (BreakerStore.shown_of_read hread).2]
              exact BreakerStore.shown_storable _ _ _
            · rw [Function.update_of_ne hid] at hmem
              exact h.2 id read hmem
    | readBreakers channelIds =>
        refine ⟨h.1, fun id read hmem => ?_⟩
        simp only [Backend.carry, Backend.perform, Seen.next, BreakerStore.readMany_eq,
          Option.mem_def, Option.some.injEq] at hmem
        subst hmem
        split
        · exact BreakerStore.shown_storable _ _ _
        · exact .inl rfl
    | _ => exact h

/-- A snapshot that a task writes over one that it read can be read back. -/
theorem Moved.storable {task : Task} {now : ℕ} {read next : BreakerSnapshot}
    (hread : BreakerStore.Storable read) (h : Moved config.routing task now read next) :
    BreakerStore.Storable next := by
  have hdecimal := Number.isDecimal_natCast now
  unfold Moved at h
  split at h
  · rw [h]
    exact hread.probe hdecimal _ _
  · obtain ⟨stats, rfl⟩ := h
    exact hread.evaluate hdecimal _ _

/-- An allowed call is timely, reads of windows apart. -/
theorem timely_of_allowed {task : Task} {seen : Seen} {clock : ℕ} {call : Call}
    (hseen : SeenWell clock seen) (hallowed : Allowed config.routing task seen call)
    (hmoment : AtMoment seen call)
    (hprompt : ∀ moment ∈ readMoment call,
      (clock : ℚ) + config.routing.bucketMs ≤ moment + config.routing.windowMs) :
    Timely config clock call := by
  cases call with
  | record channelId success latencyMs moment =>
      obtain ⟨n, rfl, hpast⟩ := hseen.1 moment hmoment
      exact Nat.cast_le.mpr hpast
  | readWindow channelId moment => exact hprompt moment rfl
  | readWindows channelIds moment => exact hprompt moment rfl
  | writeBreaker channelId next =>
      obtain ⟨_, read, hread, now, hnow, hmoved⟩ := hallowed
      obtain ⟨n, rfl, _⟩ := hseen.1 now hnow
      exact hmoved.storable (hseen.2 channelId read hread)
  | takeProbeSlot channelId ttlMs => exact ⟨10000, by norm_num, hmoment⟩
  | _ => trivial

/-! ## Redis and the world answer alike -/

theorem represents_change {b : Backend} {w : World} (change : RedisChange)
    (h : Represents config b w) :
    Represents config (change.apply b) (change.abstract.apply w) := by
  cases change with
  | advance elapsed =>
      refine ⟨?_, h.table, h.cache, h.decisions, fun key => ?_⟩
      · simp [RedisChange.apply, RedisChange.abstract, Change.apply, h.now]
      · have hlater : (b.now : ℚ) ≤ ((b.now + elapsed : ℕ) : ℚ) := by
          exact_mod_cast Nat.le_add_right _ _
        exact (h.keys key).mono hlater
  | edit table => exact ⟨h.now, rfl, h.cache, h.decisions, h.keys⟩
  | clearCache => exact ⟨h.now, h.table, rfl, h.decisions, h.keys⟩

theorem answersAlike_of_timely {b : Backend} {w : World} (h : Represents config b w)
    (fate : Fate) {call : Call} (htimely : Timely config b.now call) :
    Pool.AnswersAlike (Represents config) (redisAnswer config) (answer config) fate call b w := by
  have hcarry := h.carry call htimely
  unfold Pool.AnswersAlike redisAnswer answer
  cases call.isAwaited with
  | false => cases fate <;> exact hcarry
  | true =>
      cases fate with
      | done => exact hcarry
      | refused failure => exact ⟨rfl, h⟩
      | lost failure => exact ⟨rfl, hcarry.2⟩

variable {ι : Type} [DecidableEq ι] {tasks : ι → Task}

/-- What the tasks over Redis have seen, and what they keep to. -/
structure RedisInv (config : Config) (pool : RedisPool tasks) : Prop where
  sound : Pool.Sound (fun i => redisProtocol config.routing (tasks i)) (fun _ => Seen.init) pool
  seen : ∀ i, SeenWell pool.shared.now
    (Pool.seen (fun i => redisProtocol config.routing (tasks i)) (fun _ => Seen.init) i pool.log)

theorem redisInv_start (localeCompare : String → String → Ordering) (b : Backend) :
    RedisInv config (RedisPool.start config localeCompare tasks b) where
  sound := Pool.sound_start fun i => atMoment_program localeCompare (tasks i)
  seen _ := seenWell_init _

theorem RedisInv.next {pool : RedisPool tasks} (h : RedisInv config pool)
    (move : Move ι Fate RedisChange) : RedisInv config (pool.next config move) where
  sound := Pool.Sound.next h.sound move
  seen := by
    refine h.sound.next_of (C := fun pool => ∀ i, SeenWell pool.shared.now
      (Pool.seen (fun i => redisProtocol config.routing (tasks i)) (fun _ => Seen.init) i
        pool.log)) h.seen ?_ move ?_
    · intro change i
      refine (h.seen i).mono ?_
      cases change with
      | advance elapsed => exact Nat.le_add_right _ _
      | edit _ | clearCache => exact le_rfl
    · intro i fate call k _ _ _ j
      simp only [Pool.called, redisAnswer_now]
      by_cases hj : j = i
      · subst hj
        rw [Pool.seen_entry_self]
        exact (h.seen j).next fate call
      · rw [Pool.seen_entry_of_ne pool hj]
        exact h.seen j

omit [DecidableEq ι] in
theorem alike_start_redis (localeCompare : String → String → Ordering) (tasks : ι → Task)
    {b : Backend} {w : World} (h : Represents config b w) :
    Pool.Alike (Represents config) (RedisPool.start config localeCompare tasks b)
      (TaskPool.start config localeCompare tasks w) :=
  Pool.alike_start _ h

/-- Alike pools stay alike in a run that reads windows promptly. -/
theorem alike_of_prompt {pool : RedisPool tasks} {pool' : TaskPool tasks}
    (h : Pool.Alike (Represents config) pool pool') (hinv : RedisInv config pool)
    {moves : List (Move ι Fate RedisChange)}
    (hprompt : Always (RedisPool.next config) (Prompt config) pool moves) :
    Pool.Alike (Represents config) (runFrom (RedisPool.next config) pool moves)
      (runFrom (TaskPool.next config) pool'
        (moves.map (Move.mapChange RedisChange.abstract))) := by
  refine Pool.alike_run (I := RedisInv config) (G := Prompt config)
    (fun _ move hinv _ => hinv.next move) (fun _ _ change => represents_change change) ?_
    h hinv hprompt
  intro pool w' i fate call k hinv hrep hguard hcall
  obtain ⟨hallowed, hmoment⟩ := hinv.sound.allows hcall
  refine answersAlike_of_timely hrep fate
    (timely_of_allowed (hinv.seen i) hallowed hmoment fun moment hmem => hguard moment ?_)
  simpa [hcall, Prog.nextCall] using hmem

/-- Whatever the tasks, the order of their calls, the calls that fail and the time between
them: as long as windows are read promptly, the tasks over Redis make the calls of the same
tasks over the world with the same replies, and the keys of Redis stand for the world. -/
theorem redis_refines (config : Config) (localeCompare : String → String → Ordering)
    (tasks : ι → Task) {b : Backend} {w : World} (h : Represents config b w)
    (moves : List (Move ι Fate RedisChange))
    (hprompt : Always (RedisPool.next config) (Prompt config)
      (RedisPool.start config localeCompare tasks b) moves) :
    Pool.Alike (Represents config)
      (runFrom (RedisPool.next config) (RedisPool.start config localeCompare tasks b) moves)
      (runFrom (TaskPool.next config) (TaskPool.start config localeCompare tasks w)
        (moves.map (Move.mapChange RedisChange.abstract))) :=
  alike_of_prompt (alike_start_redis localeCompare tasks h) (redisInv_start localeCompare b)
    hprompt

/-! ## A run over Redis -/

/-- A route call and the outcomes of its channel. -/
def payoutTasks : ℕ → Task
  | 0 => .route (Stream'.const (1 / 2)) "0"
      { transactionId := "txn_1", corridor := defaultCorridor, supportedChannels := none }
  | n + 1 => .deliver .absent
      (payoutOutcome ("evt_" ++ toString n) "dec_0" "RAIL-A" .success).toJson

/-- The next calls of one task, all carried out. -/
def redisCalls (i n : ℕ) : List (Move ℕ Fate RedisChange) := List.replicate n (.step i .done)

/-- The outcome of one delivery is recorded while the route call reads the table, and another
one between its reads. -/
def payoutMoves : List (Move ℕ Fate RedisChange) :=
  redisCalls 1 3 ++ [.other (.advance 2000)] ++ redisCalls 0 4 ++ redisCalls 1 1 ++
    redisCalls 2 3 ++ [.other (.advance 40000)] ++ redisCalls 0 4 ++ redisCalls 1 2

/-- The theorem at these tasks: the reads come up to 42 seconds late. -/
theorem redis_refines_payouts :
    Pool.Alike (Represents defaultConfig)
      (runFrom (RedisPool.next defaultConfig)
        (RedisPool.start defaultConfig compare payoutTasks (Backend.fresh 60000 seededA))
        payoutMoves)
      (runFrom (TaskPool.next defaultConfig)
        (TaskPool.start defaultConfig compare payoutTasks (World.fresh 60000 seededA))
        (payoutMoves.map (Move.mapChange RedisChange.abstract))) :=
  redis_refines defaultConfig compare payoutTasks
    (by exact_mod_cast represents_fresh defaultConfig 60000 seededA) payoutMoves
    (by decide +kernel)

end SwitchService.Runs
