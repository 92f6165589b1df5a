import SwitchService.Foundation.Interleaving
import SwitchService.Foundation.Runs
import SwitchService.Server
import SwitchService.Services.RoutingService

set_option autoImplicit false

/-!
# Runs: calls that interleave

Any number of route calls and handler calls run at the same time, each one store call
after another, and between two calls of one of them anything can happen.  Every call can
be carried out, reject, or be carried out and reject all the same.

`follows_handle` and `follows_route` say what a call does with what it has seen: it
claims its own event once, records and writes only after it won the claim, and writes a
breaker only where it moves the snapshot that it read.
-/

namespace SwitchService.Runs

open SwitchService.Foundation SwitchService.Domain SwitchService.Store
open SwitchService.Repositories SwitchService.Consumer SwitchService.Services

/-! ## The calls of the pool -/

/-- The calls of `listChannelsCached` and the clock. -/
def looksUp : Call → Bool
  | .now | .getCache | .setCache _ | .queryChannels _ => true
  | _ => false

/-- A lookup may always make the calls of a lookup. -/
def lookupProtocol : Prog.Protocol Call Call.Ans Failure Unit where
  allows _ op := looksUp op = true
  next _ _ _ := ()

/-- A `knownChannel`, or its absence, that makes no other calls. -/
structure Lookup where
  known : KnownChannel
  looksUp : ∀ program ∈ known, ∀ channelId,
    Prog.Follows lookupProtocol (fun _ _ => True) (program channelId) ()

/-- A route call or a delivery. -/
inductive Task where
  | route (rng : Rng) (uuid : String) (request : RouteRequest)
  | deliver (lookup : Lookup) (message : Json)

/-- What a task resolves to. -/
abbrev Task.Result : Task → Type
  | .route .. => RoutingDecision
  | .deliver .. => HandleOutcome

/-- The event that a delivery carries. -/
def Task.event : Task → Option TxnOutcomeEvent
  | .route .. => none
  | .deliver _ message =>
      match outcomeEventSchema message with
      | .valid event => some event
      | .invalid _ => none

/-- The identifier that a route call gives its decision. -/
def Task.decisionId : Task → Option String
  | .route _ uuid _ => some ("dec_" ++ uuid)
  | .deliver .. => none

/-- How an awaited call ends. -/
inductive Fate where
  | done
  /-- It rejects and was not carried out. -/
  | refused (failure : Failure)
  /-- It was carried out and rejects all the same. -/
  | lost (failure : Failure)
  deriving DecidableEq

/-- What happens besides the calls. -/
inductive Change where
  | advance (elapsed : ℚ≥0)
  | edit (table : Table)
  | clearCache

/-- What such a change does. -/
def Change.apply : Change → World → World
  | .advance elapsed, w => { w with now := w.now + elapsed }
  | .edit table, w => { w with table := table }
  | .clearCache, w => clearChannelCache w

variable (config : Config) (localeCompare : String → String → Ordering)

/-- The program of a task. -/
def Task.program : (task : Task) → Program task.Result
  | .route rng uuid request =>
      Services.route config.routing localeCompare rng uuid request
  | .deliver lookup message => handle config.routing lookup.known message

/-- The answer to a call that ends in a given way. -/
def answer : Pool.Answer Fate World Failure Call.Ans := fun fate call w =>
  match call.isAwaited, fate with
  | true, .refused failure => (.error failure, w)
  | true, .lost failure => (.error failure, (Store.perform config call w).2)
  | _, _ => Store.perform config call w

/-- The call was carried out. -/
def Fate.carriedOut : Fate → Bool
  | .refused _ => false
  | _ => true

/-- A pool of tasks over the world. -/
abbrev TaskPool {ι : Type} (tasks : ι → Task) : Type :=
  Pool Fate World Failure Call.Ans fun i => (tasks i).Result

/-- The tasks before their first calls. -/
def TaskPool.start {ι : Type} (tasks : ι → Task) (w : World) : TaskPool tasks :=
  Pool.start (fun i => (tasks i).program config localeCompare) w

/-- One step of the pool. -/
def TaskPool.next {ι : Type} [DecidableEq ι] {tasks : ι → Task} (pool : TaskPool tasks)
    (move : Move ι Fate Change) : TaskPool tasks :=
  Pool.next (answer config) Change.apply pool move

section

variable {config : Config}

/-- A call leaves the state or does what `perform` says. -/
theorem answer_state (fate : Fate) (call : Call) (w : World) :
    (answer config fate call w).2 =
      if call.isAwaited = true ∧ fate.carriedOut = false then w
      else (Store.perform config call w).2 := by
  unfold answer
  cases call.isAwaited with
  | false => cases fate <;> rfl
  | true => cases fate <;> rfl

/-- The clock does not fail. -/
@[simp] theorem answer_clock (fate : Fate) (w : World) :
    answer config fate .now w = (.ok w.now, w) := by
  cases fate <;> rfl

@[simp] theorem perform_now (call : Call) (w : World) :
    (Store.perform config call w).2.now = w.now := by
  cases call with
  | claim | record | readWindow | readWindows | takeProbeSlot =>
      simp only [Store.perform]
      split <;> rfl
  | _ => rfl

theorem answer_now (fate : Fate) (call : Call) (w : World) :
    (answer config fate call w).2.now = w.now := by
  rw [answer_state]
  split
  · rfl
  · exact perform_now call w

theorem Change.apply_now (change : Change) (w : World) : w.now ≤ (change.apply w).now := by
  cases change with
  | advance elapsed => exact le_add_of_nonneg_right elapsed.2
  | edit _ | clearCache => exact le_refl _

end

/-! ## What a task has seen -/

/-- How far a delivery has come. -/
inductive Stage where
  | looking
  | claimed
  | recorded
  | moved
  | stopped
  deriving DecidableEq

/-- What a task has seen: the clock, the snapshots it read, and its stage. -/
structure Seen where
  now : Option ℚ
  read : String → Option BreakerSnapshot
  stage : Stage

/-- A task before its first call. -/
def Seen.init : Seen where
  now := none
  read _ := none
  stage := .looking

/-- What a reply tells a task. -/
def Seen.next (seen : Seen) : (call : Call) → Except Failure call.Ans → Seen
  | .now, .ok now => { seen with now := some now }
  | .readBreaker id, .ok snapshot =>
      { seen with read := Function.update seen.read id (some snapshot) }
  | .readBreakers _, .ok snapshots =>
      { seen with read := fun id => some ((snapshots id).getD closedBreaker) }
  | .claim _, .ok true => { seen with stage := .claimed }
  | .claim _, _ => { seen with stage := .stopped }
  | .record .., _ => { seen with stage := .recorded }
  | .writeBreaker .., _ => { seen with stage := .moved }
  | _, _ => seen

theorem Seen.next_now (seen : Seen) {call : Call} (hcall : call ≠ .now)
    (reply : Except Failure call.Ans) : (seen.next call reply).now = seen.now := by
  cases call with
  | now => exact absurd rfl hcall
  | claim =>
      rcases reply with failure | (_ | _) <;> rfl
  | readBreaker | readBreakers => cases reply <;> rfl
  | _ => rfl

/-- The result of a task as a probe of a breaker that it read. -/
def Task.probe (task : Task) (read : BreakerSnapshot) : Option Bool :=
  if read.state = .halfOpen then task.event.map (·.success) else none

/-- The snapshots that a task writes over one that it read. -/
def Moved (config : RoutingConfig) (task : Task) (now : ℚ) (read next : BreakerSnapshot) :
    Prop :=
  match task.probe read with
  | some success => next = recordProbe read success config now
  | none => ∃ stats, next = evaluateBreaker read stats config now

/-- The calls that a task may make. -/
def Allowed (config : RoutingConfig) (task : Task) (seen : Seen) : Call → Prop
  | .claim eventId => seen.stage = .looking ∧ ∃ event ∈ task.event, event.eventId = eventId
  | .record .. => seen.stage = .claimed
  | .writeBreaker id next => (task.event.isSome → seen.stage = .recorded) ∧
      ∃ read ∈ seen.read id, ∃ now ∈ seen.now, Moved config task now read next
  | .takeProbeSlot _ ttlMs => ttlMs = probeSlotTtlMs
  | .releaseProbeSlot _ => task.event.isSome = true
  | _ => True

/-- What a task has seen decides which calls it may make. -/
def taskProtocol (config : RoutingConfig) (task : Task) :
    Prog.Protocol Call Call.Ans Failure Seen where
  allows := Allowed config task
  next := Seen.next

/-- The entries of a pool of tasks. -/
abbrev TaskEntry (ι : Type) : Type := Entry ι Fate World Failure Call.Ans

/-- What a task has seen by the log. -/
def seenBy (config : Config) {ι : Type} [DecidableEq ι] (tasks : ι → Task) (i : ι)
    (log : List (TaskEntry ι)) : Seen :=
  Pool.seen (fun i => taskProtocol config.routing (tasks i)) (fun _ => Seen.init) i log

/-- Nothing is asked of the end of a task. -/
abbrev anyEnd {α : Type} : Seen → Except Failure α → Prop := fun _ _ => True

/-! ## The lookups -/

/-- A cached read keeps to every protocol that lets it read, and leaves its state. -/
theorem follows_listChannelsCached {γ : Type} {P : Prog.Protocol Call Call.Ans Failure γ}
    {g : γ} (now : ℚ) (corridor : String)
    (hallow : ∀ op, looksUp op = true → P.allows g op)
    (hnext : ∀ op reply, looksUp op = true → op ≠ .now → P.next g op reply = g) :
    Prog.Follows P (fun g' _ => g' = g) (listChannelsCached now corridor) g := by
  have hrefill : Prog.Follows P (fun g' _ => g' = g) (refillCache now corridor) g := by
    refine Prog.follows_bind (fun g' _ => g' = g) ?_ ?_ fun _ _ h => h
    · refine Prog.follows_await_bind (hallow _ rfl) (fun rows => ?_) fun e => ?_
      · exact hnext _ _ rfl (by simp)
      · exact hnext _ _ rfl (by simp)
    · rintro channels g' rfl
      refine Prog.follows_await_bind (hallow _ rfl) (fun _ => ?_) fun e => ?_
      · exact hnext _ _ rfl (by simp)
      · exact hnext _ _ rfl (by simp)
  refine Prog.follows_await_bind (hallow _ rfl) (fun cache => ?_) fun e => ?_
  · rw [hnext _ _ rfl (by simp)]
    cases cache with
    | none => exact hrefill
    | some entry =>
        dsimp only
        split
        · exact rfl
        · exact hrefill
  · exact hnext _ _ rfl (by simp)

/-- The lookup that `main` wires. -/
def Lookup.wired : Lookup where
  known := some knownChannel
  looksUp := by
    intro program hprogram channelId
    cases hprogram
    refine Prog.follows_await_bind rfl (fun now => ?_) fun _ => trivial
    refine Prog.follows_bind _
      (follows_listChannelsCached now _ (fun _ h => h) fun _ _ _ _ => rfl) ?_
      fun _ _ _ => trivial
    intro channels g _
    trivial

/-- A handler without `knownChannel`. -/
def Lookup.absent : Lookup where
  known := none
  looksUp := by simp

variable {config}

/-- A lookup leaves a delivery before its claim. -/
theorem Lookup.follows (lookup : Lookup) (task : Task) (channelId : String) {seen : Seen}
    (h : seen.stage = .looking) :
    Prog.Follows (taskProtocol config.routing task) (fun seen' _ => seen'.stage = .looking)
      (isKnown lookup.known channelId) seen := by
  unfold isKnown
  split
  · rename_i program hprogram
    have hsim := (lookup.looksUp program hprogram channelId).simulate
      (Q := taskProtocol config.routing task) (R := fun _ seen' => seen'.stage = .looking)
      ?_ ?_ h
    · exact hsim.mono fun _ _ ⟨_, hstage, _⟩ => hstage
    · intro _ seen' op _ hop
      cases op with
      | now | getCache | setCache _ | queryChannels _ => trivial
      | _ => cases hop
    · intro _ seen' op reply hstage hop
      cases op with
      | now => cases reply <;> exact hstage
      | getCache | setCache _ | queryChannels _ => exact hstage
      | _ => cases hop
  · exact h

/-! ## What a delivery does -/

theorem follows_writeMoved {task : Task} {channelId : String} {current next : BreakerSnapshot}
    {seen : Seen} {now : ℚ} (hstage : seen.stage = .recorded)
    (hread : seen.read channelId = some current) (hnow : seen.now = some now)
    (hmoved : Moved config.routing task now current next) :
    Prog.Follows (taskProtocol config.routing task) anyEnd
      (writeMoved channelId current next) seen := by
  unfold writeMoved
  split
  · trivial
  · exact Prog.follows_await ⟨fun _ => hstage, current, hread, now, hnow, hmoved⟩
      (fun _ => trivial) fun _ => trivial

theorem follows_applyToBreaker {task : Task} {event : TxnOutcomeEvent} {seen : Seen} {now : ℚ}
    (hevent : task.event = some event) (hstage : seen.stage = .recorded)
    (hnow : seen.now = some now) :
    Prog.Follows (taskProtocol config.routing task) anyEnd
      (applyToBreaker config.routing event.channelId event.success now) seen := by
  refine Prog.follows_await_bind trivial (fun current => ?_) fun _ => trivial
  have hread : (Seen.next seen (.readBreaker event.channelId) (.ok current)).read
      event.channelId = some current := Function.update_self ..
  split
  · rename_i hstate
    refine Prog.follows_bind anyEnd (follows_writeMoved hstage hread hnow ?_) ?_
      fun _ _ _ => trivial
    · simp [Moved, Task.probe, hstate, hevent]
    · intro _ seen' _
      exact Prog.follows_await_bind (Option.isSome_iff_exists.mpr ⟨event, hevent⟩)
        (fun _ => trivial) fun _ => trivial
  · rename_i hstate
    refine Prog.follows_await_bind trivial (fun stats => ?_) fun _ => trivial
    refine Prog.follows_bind anyEnd (follows_writeMoved hstage hread hnow ?_) ?_
      fun _ _ _ => trivial
    · simp only [Moved, Task.probe, hstate, if_false]
      exact ⟨stats, rfl⟩
    · intro _ seen' _
      trivial

/-- A delivery claims, then records, then moves the breaker that it read. -/
theorem follows_claimEvent {task : Task} {event : TxnOutcomeEvent} {seen : Seen}
    (hevent : task.event = some event) (hstage : seen.stage = .looking) :
    Prog.Follows (taskProtocol config.routing task) anyEnd
      (claimEvent config.routing event) seen := by
  refine Prog.follows_await_bind ⟨hstage, event, hevent, rfl⟩ (fun claimed => ?_)
    fun _ => trivial
  cases claimed with
  | false => trivial
  | true =>
      refine Prog.follows_await_bind trivial (fun now => ?_) fun _ => trivial
      refine Prog.follows_await_bind rfl (fun _ => ?_) fun _ => trivial
      exact Prog.follows_bind anyEnd (follows_applyToBreaker hevent rfl rfl)
        (fun _ _ _ => trivial) fun _ _ _ => trivial

theorem follows_handle (lookup : Lookup) (message : Json) :
    Prog.Follows (taskProtocol config.routing (.deliver lookup message)) anyEnd
      (handle config.routing lookup.known message) Seen.init := by
  unfold handle
  split
  · trivial
  · rename_i event hmessage
    have hevent : (Task.deliver lookup message).event = some event := by
      simp [Task.event, hmessage]
    unfold handleEvent
    split
    · trivial
    · refine Prog.follows_bind _ (lookup.follows _ event.channelId rfl) ?_ fun _ _ _ => trivial
      intro known seen hstage
      split
      · exact follows_claimEvent hevent hstage
      · trivial

/-! ## What a route call does -/

/-- The task has the metrics and the moment that the refresh works with. -/
def HasMetrics (metrics : Metrics) (now : ℚ) (seen : Seen) : Prop :=
  seen.now = some now ∧
    ∀ id, seen.read id = some ((metrics.breakers id).getD closedBreaker)

theorem follows_refreshBreakers {task : Task} (htask : task.event = none) (metrics : Metrics)
    (now : ℚ) (ids : List String) (next : String → Option BreakerSnapshot) {seen : Seen}
    (h : HasMetrics metrics now seen) :
    Prog.Follows (taskProtocol config.routing task) anyEnd
      (refreshBreakers config.routing metrics now ids next) seen := by
  induction ids generalizing next seen with
  | nil => trivial
  | cons id ids ih =>
      unfold refreshBreakers
      refine Prog.follows_bind (fun seen' _ => HasMetrics metrics now seen') ?_
        (fun _ _ h' => ih _ h') fun _ _ _ => trivial
      unfold writeRefreshed
      split
      · have hmoved : Moved config.routing task now ((metrics.breakers id).getD closedBreaker)
            (refreshedBreaker config.routing metrics now id) := by
          simp only [Moved, Task.probe, htask, Option.map_none, ite_self]
          exact ⟨_, rfl⟩
        refine Prog.follows_tryCatch (fun seen' _ => HasMetrics metrics now seen') ?_
          (fun _ _ h' => h') fun _ _ h' => h'
        exact Prog.follows_await
          ⟨fun hsome => by simp [htask] at hsome, _, h.2 id, now, h.1, hmoved⟩
          (fun _ => h) fun _ => h
      · exact h

/-- The metrics that a task got in time are those that it read. -/
theorem follows_readMetrics {task : Task} (ids : List String) (now : ℚ) {seen : Seen}
    (hnow : seen.now = some now) :
    Prog.Follows (taskProtocol config.routing task)
      (fun seen' result => ∀ metrics, result = .ok (some metrics) →
        HasMetrics metrics now seen')
      (withBudget (readMetrics ids now)) seen := by
  unfold withBudget
  refine Prog.follows_tryCatch (fun seen' result => ∀ metrics,
    result = .ok (some metrics) → HasMetrics metrics now seen') ?_ (fun _ _ h => h)
    fun _ _ _ metrics hmetrics => by cases hmetrics
  refine Prog.follows_bind (fun seen' result => ∀ metrics,
    result = .ok metrics → HasMetrics metrics now seen') ?_ ?_
    fun _ _ _ metrics hmetrics => by cases hmetrics
  · refine Prog.follows_await_bind trivial (fun stats => ?_)
      fun _ metrics hmetrics => by cases hmetrics
    refine Prog.follows_await_bind trivial (fun breakers => ?_)
      fun _ metrics hmetrics => by cases hmetrics
    intro metrics hmetrics
    cases hmetrics
    exact ⟨hnow, fun _ => rfl⟩
  · intro metrics seen' h metrics' hmetrics
    cases hmetrics
    exact h metrics rfl

/-- What comes after the refresh writes no breaker. -/
theorem follows_chooseChannel {task : Task} (candidates : List Candidate) (rng : Rng)
    (seen : Seen) :
    Prog.Follows (taskProtocol config.routing task) anyEnd
      (chooseChannel config.routing candidates rng) seen := by
  unfold chooseChannel
  split
  · trivial
  · split
    · refine Prog.follows_await_bind rfl (fun gotSlot => ?_) fun _ => trivial
      split
      · trivial
      · dsimp only
        split
        · trivial
        · trivial
    · trivial

theorem follows_persist {task : Task} (decision : RoutingDecision) (transactionId : String)
    (seen : Seen) :
    Prog.Follows (taskProtocol config.routing task) anyEnd (persist decision transactionId)
      seen :=
  Prog.follows_tryCatch anyEnd
    (Prog.follows_await trivial (fun _ => trivial) fun _ => trivial)
    (fun _ _ _ => trivial) fun _ _ _ => trivial

theorem follows_decideWith {task : Task} (htask : task.event = none)
    (localeCompare : String → String → Ordering) (rng : Rng) (uuid : String)
    (request : RouteRequest) {now : ℚ} (channels : List Channel) {metrics : Metrics}
    {seen : Seen} (h : HasMetrics metrics now seen) :
    Prog.Follows (taskProtocol config.routing task) anyEnd
      (decideWith config.routing localeCompare rng uuid request now channels metrics) seen := by
  unfold decideWith
  refine Prog.follows_bind anyEnd (follows_refreshBreakers htask metrics now _ _ h) ?_
    fun _ _ _ => trivial
  intro breakers seen₁ _
  refine Prog.follows_bind anyEnd (follows_chooseChannel _ rng seen₁) ?_
    fun _ _ _ => trivial
  intro chosen seen₂ _
  refine Prog.follows_await_bind trivial (fun evaluatedAt => ?_) fun _ => trivial
  exact Prog.follows_bind anyEnd (follows_persist _ _ _) (fun _ _ _ => trivial)
    fun _ _ _ => trivial

theorem follows_degradedDecision {task : Task} (uuid : String) (channels : List Channel)
    (request : RouteRequest) (now : ℚ) (seen : Seen) :
    Prog.Follows (taskProtocol config.routing task) anyEnd
      (degradedDecision config.routing uuid channels request now) seen := by
  unfold degradedDecision
  split
  · trivial
  · exact Prog.follows_bind anyEnd (follows_persist _ _ _) (fun _ _ _ => trivial)
      fun _ _ _ => trivial

/-- A route call writes the breakers that it read, moved by the window it read. -/
theorem follows_route (localeCompare : String → String → Ordering) (rng : Rng) (uuid : String)
    (request : RouteRequest) :
    Prog.Follows (taskProtocol config.routing (.route rng uuid request)) anyEnd
      (Services.route config.routing localeCompare rng uuid request) Seen.init := by
  refine Prog.follows_await_bind trivial (fun now => ?_) fun _ => trivial
  refine Prog.follows_bind _ (follows_listChannelsCached now request.corridor ?_ ?_) ?_
    fun _ _ _ => trivial
  · intro op hop
    cases op with
    | now | getCache | setCache _ | queryChannels _ => trivial
    | _ => cases hop
  · intro op reply hop hne
    cases op with
    | now => exact absurd rfl hne
    | getCache | setCache _ | queryChannels _ => rfl
    | _ => cases hop
  · rintro all seen rfl
    unfold routeAmong
    dsimp only
    split
    · trivial
    · refine Prog.follows_bind _ (follows_readMetrics _ now rfl) ?_ fun _ _ _ => trivial
      intro metrics seen' hmetrics
      cases metrics with
      | none => exact follows_degradedDecision uuid _ request now seen'
      | some metrics =>
          exact follows_decideWith rfl localeCompare rng uuid request _ (hmetrics metrics rfl)

/-- Every task keeps to its protocol. -/
theorem follows_program (localeCompare : String → String → Ordering) (task : Task) :
    Prog.Follows (taskProtocol config.routing task) anyEnd
      (task.program config localeCompare) Seen.init := by
  cases task with
  | route rng uuid request => exact follows_route localeCompare rng uuid request
  | deliver lookup message => exact follows_handle lookup message

/-! ## Pools of tasks -/

section

variable {ι : Type} [DecidableEq ι] {tasks : ι → Task}

/-- Every task of the pool keeps to its protocol. -/
abbrev TaskPool.Sound (config : Config) (pool : TaskPool tasks) : Prop :=
  Pool.Sound (fun i => taskProtocol config.routing (tasks i)) (fun _ => Seen.init) pool

theorem TaskPool.sound_start (localeCompare : String → String → Ordering) (w : World) :
    TaskPool.Sound config (TaskPool.start config localeCompare tasks w) :=
  Pool.sound_start fun i => follows_program localeCompare (tasks i)

theorem TaskPool.Sound.next {pool : TaskPool tasks} (h : TaskPool.Sound config pool)
    (move : Move ι Fate Change) : TaskPool.Sound config (pool.next config move) :=
  Pool.Sound.next h move

/-- No task has seen a moment that is still to come. -/
def ClockSeen (config : Config) (pool : TaskPool tasks) : Prop :=
  ∀ i, ∀ now ∈ (seenBy config tasks i pool.log).now, now ≤ pool.shared.now

theorem clockSeen_called {pool : TaskPool tasks} (h : ClockSeen config pool) (i : ι)
    (fate : Fate) (call : Call)
    (k : Except Failure call.Ans → Program (tasks i).Result) :
    ClockSeen config (Pool.called (answer config) pool i fate call k) := by
  intro j now hnow
  simp only [Pool.called, answer_now]
  simp only [Pool.called, seenBy, Pool.seen, Pool.entry] at hnow
  split at hnow
  · rename_i hij
    subst hij
    by_cases hcall : call = .now
    · subst hcall
      simp only [taskProtocol, answer_clock, Seen.next, Option.mem_some] at hnow
      exact hnow.ge
    · change now ∈ (Seen.next _ call _).now at hnow
      rw [Seen.next_now _ hcall] at hnow
      exact h i now hnow
  · exact h j now hnow

end

end SwitchService.Runs
