import SwitchService.Server.Order

set_option autoImplicit false

/-!
# The start and the shutdown in every run

Whatever the signals are, and whatever happens between the calls: the process is ready only
after its migrations, one signal at most drains it, it is not ready any more from then on, and
its stores are closed only when no connection is open and the consumer was told to stop.

A signal only closes: what one of its calls leaves (`Holds`) stays (`Closing`).  `main` only
opens, and has ended before the first signal is dealt with.
-/

namespace SwitchService.Server

open SwitchService.Foundation

/-! ## Runs -/

/-- A call of a program as the log keeps it. -/
abbrev ServerEntry (ι : Type) : Type :=
  Entry (Option ι) ServerFate Process String ServerCall.Ans

/-- `main` and the handlers of the signals at once. -/
abbrev ServerPool (ι : Type) : Type :=
  Pool ServerFate Process String ServerCall.Ans fun _ : Option ι => Unit

/-- `main`, and the handler of every signal to come. -/
def programs {ι : Type} (drainMs : ℚ) : Option ι → ServerProgram Unit
  | none => main
  | some _ => shutdown drainMs

/-- The process before `main` has done anything. -/
def ServerPool.start (ι : Type) (drainMs now : ℚ) : ServerPool ι :=
  Pool.start (programs drainMs) (Process.init now)

/-- One call of one program, or a change outside. -/
def ServerPool.next {ι : Type} [DecidableEq ι] (pool : ServerPool ι)
    (move : Move (Option ι) ServerFate ServerChange) : ServerPool ι :=
  pool.nextUnless serverAnswer ServerChange.apply waitsServer move

/-- A call of a program was carried out. -/
def Did {ι : Type} (thread : Option ι) (call : ServerCall) (log : List (ServerEntry ι)) : Prop :=
  ∃ e ∈ log, e.thread = thread ∧ finished e.op e.reply = some call

/-- A call was carried out by a moment. -/
def DidBy {ι : Type} (call : ServerCall) (moment : ℚ) (log : List (ServerEntry ι)) : Prop :=
  ∃ e ∈ log, e.op = call ∧ e.before.now ≤ moment

section

variable {ι : Type} {drainMs : ℚ} {thread : Option ι} {call : ServerCall}
  {log log' : List (ServerEntry ι)} {e : ServerEntry ι} {p p' : Process}

theorem did_cons : Did thread call (e :: log) ↔
    (e.thread = thread ∧ finished e.op e.reply = some call) ∨ Did thread call log := by
  simp [Did]

theorem DidBy.mono {moment moment' : ℚ} (hlog : ∀ e ∈ log, e ∈ log') (hle : moment ≤ moment')
    (h : DidBy call moment log) : DidBy call moment' log' := by
  obtain ⟨e, he, hop, hnow⟩ := h
  exact ⟨e, hlog e he, hop, hnow.trans hle⟩

variable [DecidableEq ι]

/-- What a program has seen by the log. -/
def seenBy (drainMs : ℚ) (thread : Option ι) (log : List (ServerEntry ι)) : Seen :=
  Pool.seen (serverProtocol drainMs) (fun _ => Seen.init) thread log

theorem mem_did : call ∈ (seenBy drainMs thread log).did ↔ Did thread call log := by
  induction log with
  | nil => simp [seenBy, Pool.seen, Seen.init, Did]
  | cons e log ih =>
      rw [did_cons, ← ih]
      by_cases he : e.thread = thread
      · have hseen : seenBy drainMs thread (e :: log) =
            (seenBy drainMs thread log).next e.op e.reply := Pool.seen_self he log
        rw [hseen, Seen.next, List.mem_append, Option.mem_toList, and_iff_right he]
      · have hseen : seenBy drainMs thread (e :: log) = seenBy drainMs thread log :=
          Pool.seen_of_ne he log
        rw [hseen]
        simp [he]

/-! ## What stays closed -/

/-- What a signal and the time leave: nothing is opened again. -/
structure Closing (p p' : Process) : Prop where
  now : p.now ≤ p'.now
  unready : p.migrationsComplete = false → p'.migrationsComplete = false
  stopped : p.consumerRunning = false → p'.consumerRunning = false
  handled : p.handled = true → p'.handled = true
  entered : p.shuttingDown = true → p'.shuttingDown = true
  listening : p.listening = false → p'.listening = false
  connections : p.listening = false → p.connections = 0 → p'.connections = 0
  reading : p.reading = false → p'.reading = false
  looping : p.looping = false → p'.looping = false
  armed : p.hardExit.isSome = true → p'.hardExit.isSome = true ∨ p'.poolsOpen = false
  redis : p.redisOpen = false → p'.redisOpen = false
  pools : p.poolsOpen = false → p'.poolsOpen = false

theorem closing_refl (p : Process) : Closing p p where
  now := le_rfl
  unready := id
  stopped := id
  handled := id
  entered := id
  listening := id
  connections _ := id
  reading := id
  looping := id
  armed := .inl
  redis := id
  pools := id

theorem closing_change (change : ServerChange) (p : Process) : Closing p (change.apply p) := by
  unfold ServerChange.apply
  split
  · exact closing_refl p
  · cases change with
    | advance elapsed =>
        exact { closing_refl p with now := le_add_of_nonneg_right elapsed.2 }
    | connect =>
        dsimp only
        split
        · rename_i hlistening
          exact { closing_refl p with
            connections := fun hclosed => absurd (hclosed.symm.trans hlistening) (by decide) }
        · exact closing_refl p
    | disconnect =>
        exact { closing_refl p with
          connections := fun _ hzero => by
            change p.connections - 1 = 0
            omega }
    | loopReturns =>
        dsimp only
        split
        · exact closing_refl p
        · exact { closing_refl p with looping := fun _ => rfl }
    | hardExitFires =>
        dsimp only
        split
        · exact { closing_refl p with }
        · exact closing_refl p
    | crash => exact { closing_refl p with }
    | killed =>
        dsimp only
        split
        · exact closing_refl p
        · exact { closing_refl p with }

/-- A call that a signal may make opens nothing. -/
theorem closing_signal {seen : Seen} (h : SignalMay drainMs seen call)
    (hpools : call = .clearHardExit → p.poolsOpen = false) :
    Closing p (performServer call p).2 := by
  rcases h with ⟨rfl, _⟩ | ⟨_, hmay⟩
  · exact { closing_refl p with entered := fun _ => rfl }
  · cases call with
    | now | sleepUntil | closeEvents | awaitServer | awaitLoop => exact closing_refl p
    | setHardExit => exact { closing_refl p with armed := fun _ => .inl rfl }
    | clearHardExit => exact { closing_refl p with armed := fun _ => .inr (hpools rfl) }
    | setMigrationsComplete value =>
        obtain rfl : value = false := hmay
        exact { closing_refl p with unready := fun _ => rfl }
    | setConsumerRunning value =>
        obtain rfl : value = false := hmay
        exact { closing_refl p with stopped := fun _ => rfl }
    | closeServer => exact { closing_refl p with listening := fun _ => rfl }
    | stopConsumer => exact { closing_refl p with reading := fun _ => rfl }
    | closeRedis => exact { closing_refl p with redis := fun _ => rfl }
    | closePools =>
        exact { closing_refl p with pools := fun _ => rfl, armed := fun _ => .inr rfl }
    | exit code => exact { closing_refl p with }
    | selectOne | runMigrations | startConsumer | listen | installShutdown | enterShutdown =>
        cases hmay

/-! ## The invariant -/

/-- What a call of a signal leaves, from then on. -/
def Holds (drainMs : ℚ) (log : List (ServerEntry ι)) (p : Process) : ServerCall → Prop
  | .enterShutdown => p.shuttingDown = true
  | .setHardExit => p.hardExit.isSome = true ∨ p.poolsOpen = false
  | .setMigrationsComplete _ => p.migrationsComplete = false
  | .setConsumerRunning _ => p.consumerRunning = false
  | .sleepUntil moment => moment ≤ p.now ∧
      DidBy (.setMigrationsComplete false) (moment - drainMs) log
  | .closeServer => p.listening = false
  | .awaitServer => p.listening = false ∧ p.connections = 0
  | .stopConsumer => p.reading = false
  | .awaitLoop moment => p.looping = false ∨
      (moment ≤ p.now ∧ DidBy .stopConsumer (moment - 2000) log)
  | .closeRedis => p.redisOpen = false
  | .closePools => p.poolsOpen = false
  | _ => True

omit [DecidableEq ι] in
theorem Holds.mono (h : Holds drainMs log p call) (hclosing : Closing p p')
    (hlog : ∀ e ∈ log, e ∈ log') : Holds drainMs log' p' call := by
  cases call with
  | enterShutdown => exact hclosing.entered h
  | setHardExit => exact h.elim hclosing.armed fun hpools => .inr (hclosing.pools hpools)
  | setMigrationsComplete _ => exact hclosing.unready h
  | setConsumerRunning _ => exact hclosing.stopped h
  | sleepUntil moment => exact ⟨h.1.trans hclosing.now, h.2.mono hlog le_rfl⟩
  | closeServer => exact hclosing.listening h
  | awaitServer => exact ⟨hclosing.listening h.1, hclosing.connections h.1 h.2⟩
  | stopConsumer => exact hclosing.reading h
  | awaitLoop moment =>
      exact h.imp hclosing.looping fun hwaited =>
        ⟨hwaited.1.trans hclosing.now, hwaited.2.mono hlog le_rfl⟩
  | closeRedis => exact hclosing.redis h
  | closePools => exact hclosing.pools h
  | _ => trivial

/-- Nothing is in flight, and nothing new comes; the read loop has returned, or it was given
two seconds. -/
structure Drained (log : List (ServerEntry ι)) (p : Process) : Prop where
  unready : p.migrationsComplete = false
  stopped : p.consumerRunning = false
  listening : p.listening = false
  connections : p.connections = 0
  reading : p.reading = false
  loop : p.looping = false ∨ DidBy .stopConsumer (p.now - 2000) log

omit [DecidableEq ι] in
theorem Drained.mono (h : Drained log p) (hclosing : Closing p p')
    (hlog : ∀ e ∈ log, e ∈ log') : Drained log' p' where
  unready := hclosing.unready h.unready
  stopped := hclosing.stopped h.stopped
  listening := hclosing.listening h.listening
  connections := hclosing.connections h.listening h.connections
  reading := hclosing.reading h.reading
  loop := h.loop.imp hclosing.looping fun hgiven =>
    hgiven.mono hlog (sub_le_sub_right hclosing.now _)

/-- What every run keeps, besides that the programs keep to the order. -/
structure ServerInv (drainMs : ℚ) (log : List (ServerEntry ι)) (p : Process) : Prop where
  past : ∀ e ∈ log, e.before.now ≤ p.now
  handled : p.handled = true → Did none .installShutdown log
  began : ∀ i call, Did (some i) call log → Did (some i) .enterShutdown log ∧ p.handled = true
  once : ∀ i j, Did (some i) .enterShutdown log → Did (some j) .enterShutdown log → i = j
  holds : ∀ i call, Did (some i) call log → Holds drainMs log p call
  clock : ∀ i start before, (seenBy drainMs (some i) log).clock = some (start, before) →
    ∀ call ∈ before, DidBy call start log
  ready : p.migrationsComplete = true → Did none .selectOne log ∧ Did none .runMigrations log
  listens : p.listening = true → Did none .startConsumer log ∧ Did none .runMigrations log
  closed : p.redisOpen = false → p.handled = true ∧ Drained log p
  pools : p.poolsOpen = false → p.redisOpen = false
  exits : p.exitCode = some 0 → p.poolsOpen = false
  unreadyFirst : ∀ e ∈ log, e.op = .closeServer →
    DidBy (.setMigrationsComplete false) (e.before.now - drainMs) log

theorem serverInv_init (drainMs now : ℚ) :
    ServerInv drainMs ([] : List (ServerEntry ι)) (Process.init now) where
  past e he := absurd he List.not_mem_nil
  handled h := by cases h
  began i call h := by simp [Did] at h
  once i j h := by simp [Did] at h
  holds i call h := by simp [Did] at h
  clock i start before h := by cases h
  ready h := by cases h
  listens h := by cases h
  closed h := by cases h
  pools h := by cases h
  exits h := by cases h
  unreadyFirst e he := absurd he List.not_mem_nil

/-- What a change leaves to the programs. -/
theorem change_frame (change : ServerChange) (p : Process) :
    (change.apply p).handled = p.handled ∧
      (change.apply p).migrationsComplete = p.migrationsComplete ∧
      (change.apply p).listening = p.listening ∧ (change.apply p).redisOpen = p.redisOpen ∧
      (change.apply p).poolsOpen = p.poolsOpen ∧
      ((change.apply p).exitCode = some 0 → p.exitCode = some 0) := by
  have hsame : p.handled = p.handled ∧ p.migrationsComplete = p.migrationsComplete ∧
      p.listening = p.listening ∧ p.redisOpen = p.redisOpen ∧ p.poolsOpen = p.poolsOpen ∧
        (p.exitCode = some 0 → p.exitCode = some 0) := ⟨rfl, rfl, rfl, rfl, rfl, id⟩
  unfold ServerChange.apply
  split
  · exact hsame
  · cases change with
    | advance _ | disconnect => exact hsame
    | connect | loopReturns =>
        dsimp only
        split <;> exact hsame
    | crash => exact ⟨rfl, rfl, rfl, rfl, rfl, fun hexit => by cases hexit⟩
    | hardExitFires | killed =>
        dsimp only
        split
        · first | exact hsame | exact ⟨rfl, rfl, rfl, rfl, rfl, fun hexit => by cases hexit⟩
        · first | exact hsame | exact ⟨rfl, rfl, rfl, rfl, rfl, fun hexit => by cases hexit⟩

theorem ServerInv.change (h : ServerInv drainMs log p) (change : ServerChange) :
    ServerInv drainMs log (change.apply p) := by
  have hclosing := closing_change change p
  obtain ⟨hhandled, hready, hlistening, hredis, hpools, hexit⟩ := change_frame change p
  exact {
    past := fun e he => (h.past e he).trans hclosing.now
    handled := fun hp => h.handled (hhandled ▸ hp)
    began := fun i call hdid => ⟨(h.began i call hdid).1,
      hclosing.handled (h.began i call hdid).2⟩
    once := h.once
    holds := fun i call hdid => (h.holds i call hdid).mono hclosing fun _ he => he
    clock := h.clock
    ready := fun hp => h.ready (hready ▸ hp)
    listens := fun hp => h.listens (hlistening ▸ hp)
    closed := fun hp => ⟨hclosing.handled (h.closed (hredis ▸ hp)).1,
      (h.closed (hredis ▸ hp)).2.mono hclosing fun _ he => he⟩
    pools := fun hp => hclosing.redis (h.pools (hpools ▸ hp))
    exits := fun hp => hclosing.pools (h.exits (hexit hp))
    unreadyFirst := h.unreadyFirst }

/-! ### A call of `main` -/

/-- Before the handlers are installed no signal has been dealt with. -/
theorem ServerInv.unbegun (h : ServerInv drainMs log p) (hunhandled : p.handled = false) (i : ι)
    (call : ServerCall) : ¬ Did (some i) call log := by
  intro hdid
  have hhandled := (h.began i call hdid).2
  rw [hunhandled] at hhandled
  cases hhandled

omit [DecidableEq ι] in
theorem did_mono (hlog : ∀ e ∈ log, e ∈ log') (h : Did thread call log) :
    Did thread call log' := by
  obtain ⟨e, he, hdid⟩ := h
  exact ⟨e, hlog e he, hdid⟩

theorem serverAnswer_cases (fate : ServerFate) (call : ServerCall) (p : Process) :
    (call.mayReject = true ∧ ∃ message, serverAnswer fate call p = (.error message, p)) ∨
      serverAnswer fate call p = performServer call p := by
  unfold serverAnswer
  split
  · rename_i hmay
    exact .inl ⟨hmay, _, rfl⟩
  · exact .inr rfl

/-- The entry of a call. -/
abbrev entryOf (thread : Option ι) (fate : ServerFate) (call : ServerCall) (p : Process) :
    ServerEntry ι where
  thread := thread
  op := call
  fate := fate
  reply := (serverAnswer fate call p).1
  before := p

/-- What the calls of `main` open. -/
structure MainFrame (log : List (ServerEntry ι)) (call : ServerCall) (p p' : Process) : Prop where
  now : p'.now = p.now
  redis : p'.redisOpen = p.redisOpen
  pools : p'.poolsOpen = p.poolsOpen
  handled : p'.handled = true → p.handled = true ∨ call = .installShutdown
  ready : p'.migrationsComplete = true → p.migrationsComplete = true ∨
    (Did none .selectOne log ∧ Did none .runMigrations log)
  listens : p'.listening = true → p.listening = true ∨
    (Did none .startConsumer log ∧ Did none .runMigrations log)
  exits : p'.exitCode = some 0 → p.exitCode = some 0

omit [DecidableEq ι] in
theorem mainFrame_refl (log : List (ServerEntry ι)) (call : ServerCall) (p : Process) :
    MainFrame log call p p := ⟨rfl, rfl, rfl, .inl, .inl, .inl, id⟩

theorem mainFrame_perform (hmay : MainMay (seenBy drainMs none log) call) (p : Process) :
    MainFrame log call p (performServer call p).2 := by
  obtain ⟨_, hcall⟩ := hmay
  cases call with
  | now | sleepUntil | selectOne | runMigrations => exact mainFrame_refl log _ p
  | startConsumer | setConsumerRunning => exact { mainFrame_refl log _ p with }
  | setMigrationsComplete value =>
      exact { mainFrame_refl log _ p with
        ready := fun _ => .inr ⟨mem_did.mp hcall.2.1, mem_did.mp hcall.2.2⟩ }
  | listen =>
      exact { mainFrame_refl log _ p with
        listens := fun _ => .inr ⟨mem_did.mp hcall.1, mem_did.mp hcall.2⟩ }
  | installShutdown =>
      exact { mainFrame_refl log .installShutdown p with handled := fun _ => .inr rfl }
  | exit code =>
      exact { mainFrame_refl log _ p with
        exits := fun hexit => absurd (Option.some.inj hexit) hcall }
  | enterShutdown | setHardExit | clearHardExit | closeEvents | closeServer | awaitServer
    | stopConsumer | awaitLoop | closeRedis | closePools => cases hcall

theorem mainFrame_answer (hmay : MainMay (seenBy drainMs none log) call) (fate : ServerFate)
    (p : Process) : MainFrame log call p (serverAnswer fate call p).2 := by
  rcases serverAnswer_cases fate call p with ⟨_, message, hanswer⟩ | hanswer
  · rw [hanswer]
    exact mainFrame_refl log call p
  · rw [hanswer]
    exact mainFrame_perform hmay p

theorem ServerInv.main_called (h : ServerInv drainMs log p)
    (hmay : MainMay (seenBy drainMs none log) call) (fate : ServerFate) :
    ServerInv drainMs (entryOf none fate call p :: log) (serverAnswer fate call p).2 := by
  have hframe := mainFrame_answer hmay fate p
  have hunhandled : p.handled = false := by
    cases hp : p.handled with
    | false => rfl
    | true => exact absurd (mem_did.mpr (h.handled hp)) hmay.1
  have hgrow : ∀ e ∈ log, e ∈ entryOf none fate call p :: log :=
    fun e he => List.mem_cons_of_mem _ he
  have hnobody : ∀ i c, ¬ Did (some i) c (entryOf none fate call p :: log) := by
    intro i c hdid
    rcases did_cons.mp hdid with ⟨hthread, _⟩ | hold
    · cases hthread
    · exact h.unbegun hunhandled i c hold
  exact {
    past := by
      intro e he
      rw [hframe.now]
      rcases List.mem_cons.mp he with rfl | hold
      · exact le_rfl
      · exact h.past e hold
    handled := by
      intro hp
      rcases hframe.handled hp with hbefore | rfl
      · rw [hunhandled] at hbefore
        cases hbefore
      · exact did_cons.mpr (.inl ⟨rfl, rfl⟩)
    began := fun i c hdid => absurd hdid (hnobody i c)
    once := fun i j hdid _ => absurd hdid (hnobody i _)
    holds := fun i c hdid => absurd hdid (hnobody i c)
    clock := by
      intro i start before hclock c hc
      have hseen : seenBy drainMs (some i) (entryOf none fate call p :: log) =
          seenBy drainMs (some i) log := Pool.seen_of_ne (by simp) log
      rw [hseen] at hclock
      exact (h.clock i start before hclock c hc).mono hgrow le_rfl
    ready := fun hp => (hframe.ready hp).elim
      (fun hbefore => ⟨did_mono hgrow (h.ready hbefore).1, did_mono hgrow (h.ready hbefore).2⟩)
      fun hnew => ⟨did_mono hgrow hnew.1, did_mono hgrow hnew.2⟩
    listens := fun hp => (hframe.listens hp).elim
      (fun hbefore => ⟨did_mono hgrow (h.listens hbefore).1,
        did_mono hgrow (h.listens hbefore).2⟩)
      fun hnew => ⟨did_mono hgrow hnew.1, did_mono hgrow hnew.2⟩
    closed := by
      intro hp
      have hhandled := (h.closed (hframe.redis ▸ hp)).1
      rw [hunhandled] at hhandled
      cases hhandled
    pools := fun hp => hframe.redis.trans (h.pools (hframe.pools ▸ hp))
    exits := fun hp => hframe.pools.trans (h.exits (hframe.exits hp))
    unreadyFirst := by
      intro e he hop
      rcases List.mem_cons.mp he with rfl | hold
      · change call = .closeServer at hop
        subst hop
        cases hmay.2
      · exact (h.unreadyFirst e hold hop).mono hgrow le_rfl }

/-! ### A call of a signal -/

omit [DecidableEq ι] in
/-- What closes a store or exits. -/
theorem perform_frame (call : ServerCall) (p : Process) :
    ((performServer call p).2.redisOpen = false → p.redisOpen = false ∨ call = .closeRedis) ∧
      ((performServer call p).2.poolsOpen = false → p.poolsOpen = false ∨ call = .closePools) ∧
      ((performServer call p).2.exitCode = some 0 → p.exitCode = some 0 ∨ call = .exit 0) := by
  cases call with
  | closeRedis => exact ⟨fun _ => .inr rfl, .inl, .inl⟩
  | closePools => exact ⟨.inl, fun _ => .inr rfl, .inl⟩
  | exit code => exact ⟨.inl, .inl, fun hexit => .inr (congrArg _ (Option.some.inj hexit))⟩
  | _ => exact ⟨.inl, .inl, .inl⟩

/-- A call that a signal may make is carried out. -/
theorem answer_signal {seen : Seen} (hmay : SignalMay drainMs seen call) (fate : ServerFate)
    (p : Process) : serverAnswer fate call p = performServer call p := by
  rcases serverAnswer_cases fate call p with ⟨hreject, _⟩ | hanswer
  · rcases hmay with ⟨rfl, _⟩ | ⟨_, hcall⟩
    · cases hreject
    · cases call with
      | selectOne | runMigrations | startConsumer => cases hcall
      | _ => cases hreject
  · exact hanswer

/-- A moment that was read after a call was carried out. -/
theorem ServerInv.didBy_of_clock (h : ServerInv drainMs log p) {i : ι} {moment delay : ℚ}
    (hclock : ∃ start before, (seenBy drainMs (some i) log).clock = some (start, before) ∧
      call ∈ before ∧ moment = start + delay) : DidBy call (moment - delay) log := by
  obtain ⟨start, before, hseen, hmem, rfl⟩ := hclock
  exact (h.clock i start before hseen call hmem).mono (fun _ he => he)
    (le_of_eq (add_sub_cancel_right start delay).symm)

/-- What a call of a signal leaves. -/
theorem ServerInv.holds_new (h : ServerInv drainMs log p) {i : ι} {fate : ServerFate}
    (hmay : SignalMay drainMs (seenBy drainMs (some i) log) call)
    (hready : waitsServer fate call p = false) :
    Holds drainMs log (performServer call p).2 call := by
  have hwaits := (Bool.or_eq_false_iff.mp hready).2
  rcases hmay with ⟨rfl, _⟩ | ⟨_, hcall⟩
  · exact rfl
  · cases call with
    | setHardExit => exact .inl rfl
    | setMigrationsComplete value => exact hcall
    | setConsumerRunning value => exact hcall
    | sleepUntil moment =>
        exact ⟨le_of_not_gt (of_decide_eq_false hwaits), h.didBy_of_clock hcall⟩
    | closeServer | stopConsumer | closeRedis | closePools => exact rfl
    | awaitServer =>
        exact ⟨h.holds i .closeServer (mem_did.mp hcall),
          not_not.mp (of_decide_eq_false hwaits)⟩
    | awaitLoop moment =>
        rcases Bool.and_eq_false_iff.mp hwaits with hlooping | hmoment
        · exact .inl hlooping
        · exact .inr ⟨le_of_not_gt (of_decide_eq_false hmoment), h.didBy_of_clock hcall⟩
    | _ => trivial

/-- Before a signal closes Redis the process is drained. -/
theorem ServerInv.drained (h : ServerInv drainMs log p) {i : ι}
    (hcall : DrainMay drainMs (seenBy drainMs (some i) log) .closeRedis) : Drained log p := by
  obtain ⟨hunready, hawait, hstop, hstopped, moment, hmoment⟩ := hcall
  have hserver := h.holds i .awaitServer (mem_did.mp hawait)
  exact {
    unready := h.holds i _ (mem_did.mp hunready)
    stopped := h.holds i _ (mem_did.mp hstopped)
    listening := hserver.1
    connections := hserver.2
    reading := h.holds i .stopConsumer (mem_did.mp hstop)
    loop := (h.holds i (.awaitLoop moment) (mem_did.mp hmoment)).imp id fun hgiven =>
      hgiven.2.mono (fun _ he => he) (sub_le_sub_right hgiven.1 _) }

omit [DecidableEq ι] in
/-- The signal that enters finds that none has. -/
theorem not_entered_of_finished {done : ServerCall}
    (h : finished .enterShutdown (performServer .enterShutdown p).1 = some done) :
    p.shuttingDown = false := by
  cases hp : p.shuttingDown with
  | false => rfl
  | true => simp [performServer, hp, finished] at h

omit [DecidableEq ι] in
theorem now_of_reading {moment : ℚ} (h : reading call (performServer call p).1 = some moment) :
    moment = p.now := by
  cases call with
  | now => exact (Option.some.inj h).symm
  | _ => cases h

/-- A signal has been dealt with only by a process that handles signals. -/
theorem ServerInv.handled_of_may (h : ServerInv drainMs log p) {i : ι} {fate : ServerFate}
    (hmay : SignalMay drainMs (seenBy drainMs (some i) log) call)
    (hready : waitsServer fate call p = false) : p.handled = true := by
  rcases hmay with ⟨rfl, _⟩ | ⟨henter, _⟩
  · simpa using (Bool.or_eq_false_iff.mp hready).2
  · exact (h.began i _ (mem_did.mp henter)).2

theorem ServerInv.signal_called (h : ServerInv drainMs log p) {i : ι} {fate : ServerFate}
    (hmay : SignalMay drainMs (seenBy drainMs (some i) log) call)
    (hready : waitsServer fate call p = false) :
    ServerInv drainMs (entryOf (some i) fate call p :: log) (serverAnswer fate call p).2 := by
  have hperform := answer_signal hmay fate p
  have hhandled := h.handled_of_may hmay hready
  have hpools : call = .clearHardExit → p.poolsOpen = false := by
    rintro rfl
    rcases hmay with ⟨hcall, _⟩ | ⟨_, hcall⟩
    · cases hcall
    · exact h.holds i .closePools (mem_did.mp hcall)
  have hclosing := closing_signal hmay hpools
  obtain ⟨hredis, hpoolsFrame, hexit⟩ := perform_frame call p
  have hgrow : ∀ e ∈ log, e ∈ entryOf (some i) fate call p :: log :=
    fun e he => List.mem_cons_of_mem _ he
  have hnew : ∀ {j c}, Did (some j) c (entryOf (some i) fate call p :: log) →
      (j = i ∧ c = call) ∨ Did (some j) c log := by
    intro j c hdid
    rcases did_cons.mp hdid with ⟨hthread, hfinished⟩ | hold
    · exact .inl ⟨(Option.some.inj hthread).symm, eq_of_finished hfinished⟩
    · exact .inr hold
  rw [hperform]
  exact {
    past := by
      intro e he
      rcases List.mem_cons.mp he with rfl | hold
      · exact hclosing.now
      · exact (h.past e hold).trans hclosing.now
    handled := fun _ => did_mono hgrow (h.handled hhandled)
    began := by
      intro j c hdid
      refine ⟨?_, hclosing.handled hhandled⟩
      rcases hnew hdid with ⟨rfl, rfl⟩ | hold
      · rcases hmay with ⟨rfl, _⟩ | ⟨henter, _⟩
        · exact hdid
        · exact did_mono hgrow (mem_did.mp henter)
      · exact did_mono hgrow (h.began j c hold).1
    once := by
      have hentered : ∀ {j}, Did (some j) .enterShutdown (entryOf (some i) fate call p :: log) →
          (j = i ∧ p.shuttingDown = false) ∨ Did (some j) .enterShutdown log := by
        intro j hdid
        rcases did_cons.mp hdid with ⟨hthread, hfinished⟩ | hold
        · obtain rfl : .enterShutdown = call := eq_of_finished hfinished
          dsimp only [entryOf] at hfinished
          rw [hperform] at hfinished
          exact .inl ⟨(Option.some.inj hthread).symm, not_entered_of_finished hfinished⟩
        · exact .inr hold
      have hfirst : p.shuttingDown = false → ∀ j, ¬ Did (some j) .enterShutdown log := by
        intro hp j hdid
        have hflag : p.shuttingDown = true := h.holds j .enterShutdown hdid
        rw [hp] at hflag
        cases hflag
      intro j k hj hk
      rcases hentered hj with ⟨rfl, hp⟩ | hjOld
      · rcases hentered hk with ⟨rfl, _⟩ | hkOld
        · rfl
        · exact absurd hkOld (hfirst hp k)
      · rcases hentered hk with ⟨rfl, hp⟩ | hkOld
        · exact absurd hjOld (hfirst hp j)
        · exact h.once j k hjOld hkOld
    holds := by
      intro j c hdid
      rcases hnew hdid with ⟨rfl, rfl⟩ | hold
      · exact (h.holds_new hmay hready).mono (closing_refl _) hgrow
      · exact (h.holds j c hold).mono hclosing hgrow
    clock := by
      intro j start before hclock c hc
      by_cases hj : j = i
      · subst hj
        have hseen : seenBy drainMs (some j) (entryOf (some j) fate call p :: log) =
            (seenBy drainMs (some j) log).next call (serverAnswer fate call p).1 :=
          Pool.seen_self rfl log
        rw [hseen, hperform] at hclock
        rcases Option.or_eq_some_iff.mp hclock with hread | ⟨_, hold⟩
        · obtain ⟨moment, hmoment, hpair⟩ := Option.map_eq_some_iff.mp hread
          obtain ⟨rfl, rfl⟩ := Prod.mk.inj hpair
          obtain ⟨e, he, _, hfinished⟩ := mem_did.mp hc
          rw [now_of_reading hmoment]
          exact ⟨e, hgrow e he, (eq_of_finished hfinished).symm, h.past e he⟩
        · exact (h.clock j start before hold c hc).mono hgrow le_rfl
      · have hseen : seenBy drainMs (some j) (entryOf (some i) fate call p :: log) =
            seenBy drainMs (some j) log :=
          Pool.seen_of_ne (fun hthread => hj (Option.some.inj hthread).symm) log
        rw [hseen] at hclock
        exact (h.clock j start before hclock c hc).mono hgrow le_rfl
    ready := by
      intro hp
      have hbefore : p.migrationsComplete = true := by
        by_contra hnot
        exact absurd (hclosing.unready (Bool.eq_false_iff.mpr hnot)) (by simp [hp])
      exact ⟨did_mono hgrow (h.ready hbefore).1, did_mono hgrow (h.ready hbefore).2⟩
    listens := by
      intro hp
      have hbefore : p.listening = true := by
        by_contra hnot
        exact absurd (hclosing.listening (Bool.eq_false_iff.mpr hnot)) (by simp [hp])
      exact ⟨did_mono hgrow (h.listens hbefore).1, did_mono hgrow (h.listens hbefore).2⟩
    closed := by
      intro hp
      refine ⟨hclosing.handled hhandled, ?_⟩
      rcases hredis hp with hbefore | rfl
      · exact (h.closed hbefore).2.mono hclosing hgrow
      · rcases hmay with ⟨hcall, _⟩ | ⟨_, hcall⟩
        · cases hcall
        · exact (h.drained hcall).mono hclosing hgrow
    pools := by
      intro hp
      rcases hpoolsFrame hp with hbefore | rfl
      · exact hclosing.redis (h.pools hbefore)
      · rcases hmay with ⟨hcall, _⟩ | ⟨_, hcall⟩
        · cases hcall
        · exact hclosing.redis (h.holds i .closeRedis (mem_did.mp hcall))
    exits := by
      intro hp
      rcases hexit hp with hbefore | rfl
      · exact hclosing.pools (h.exits hbefore)
      · rcases hmay with ⟨hcall, _⟩ | ⟨_, hcall⟩
        · cases hcall
        · exact hclosing.pools (h.holds i .closePools (mem_did.mp hcall.2))
    unreadyFirst := by
      intro e he hop
      rcases List.mem_cons.mp he with rfl | hold
      · change call = .closeServer at hop
        subst hop
        rcases hmay with ⟨hcall, _⟩ | ⟨_, hcall⟩
        · cases hcall
        · obtain ⟨_, moment, hmoment⟩ := hcall
          obtain ⟨hle, hunready⟩ := h.holds i (.sleepUntil moment) (mem_did.mp hmoment)
          exact hunready.mono hgrow (sub_le_sub_right hle drainMs)
      · exact (h.unreadyFirst e hold hop).mono hgrow le_rfl }

/-! ## Every run -/

/-- What the log and the process say at every moment.

The process is ready only after the database answered and the migrations ran, and it listens
only after the consumer was started too.  One signal at most enters the shutdown.  The server
is closed no earlier than the drain time after the process was reported as not ready, and it
is not ready from then on.  Redis is closed only when no connection is open, none is taken,
and the consumer was stopped; the pools only after Redis; and the process exits well only after
both.  Until then the timer of the hard exit stays set. -/
structure Graceful (drainMs : ℚ) (log : List (ServerEntry ι)) (p : Process) : Prop where
  ready : ∀ postgres redis, (readiness postgres redis p).ready = true →
    Did none .selectOne log ∧ Did none .runMigrations log
  listens : p.listening = true → Did none .startConsumer log ∧ Did none .runMigrations log
  once : ∀ i j, Did (some i) .enterShutdown log → Did (some j) .enterShutdown log → i = j
  unready : ∀ i, Did (some i) (.setMigrationsComplete false) log →
    ∀ postgres redis, (readiness postgres redis p).ready = false
  unreadyFirst : ∀ e ∈ log, e.op = .closeServer →
    DidBy (.setMigrationsComplete false) (e.before.now - drainMs) log
  closed : p.redisOpen = false → Drained log p
  pools : p.poolsOpen = false → p.redisOpen = false
  exits : p.exitCode = some 0 → p.poolsOpen = false
  armed : ∀ i, Did (some i) .setHardExit log → p.hardExit.isSome = true ∨ p.poolsOpen = false

theorem ServerInv.graceful (h : ServerInv drainMs log p) : Graceful drainMs log p where
  ready postgres redis hready := h.ready (Bool.and_eq_true_iff.mp hready).2
  listens := h.listens
  once := h.once
  unready i hdid postgres redis := by
    have hunready : p.migrationsComplete = false := h.holds i _ hdid
    simp [readiness, hunready]
  unreadyFirst := h.unreadyFirst
  closed hp := (h.closed hp).2
  pools := h.pools
  exits := h.exits
  armed i hdid := h.holds i _ hdid

/-- The programs keep to the order, and the process to the invariant. -/
def ServerPool.Kept (drainMs : ℚ) (pool : ServerPool ι) : Prop :=
  Pool.Ends (serverProtocol drainMs) (fun _ => Seen.init) (fun _ => anyEnd) pool ∧
    ServerInv drainMs pool.log pool.shared

theorem kept_next {pool : ServerPool ι} (h : pool.Kept drainMs)
    (move : Move (Option ι) ServerFate ServerChange) : (pool.next move).Kept drainMs := by
  obtain ⟨hends, hinv⟩ := h
  refine hends.nextUnless_of (C := ServerPool.Kept drainMs) ⟨hends, hinv⟩ ?_ move ?_
  · exact fun change => ⟨hends, hinv.change change⟩
  · intro thread fate call k hcall hallow hready
    refine ⟨hends.called hcall fate, ?_⟩
    cases thread with
    | none => exact hinv.main_called hallow fate
    | some i => exact hinv.signal_called hallow hready

theorem kept_start (ι : Type) [DecidableEq ι] (drainMs now : ℚ) :
    (ServerPool.start ι drainMs now).Kept drainMs := by
  refine ⟨fun thread => ?_, serverInv_init drainMs now⟩
  cases thread with
  | none => exact follows_main
  | some i => exact follows_shutdown i

/-- In every run of the process, whatever the signals are, when they come, which connections
come and go, and what fails, its start and its shutdown are in order. -/
theorem shutdown_graceful (drainMs now : ℚ)
    (moves : List (Move (Option ι) ServerFate ServerChange)) :
    Graceful drainMs (runFrom ServerPool.next (ServerPool.start ι drainMs now) moves).log
      (runFrom ServerPool.next (ServerPool.start ι drainMs now) moves).shared := by
  have hkept : (runFrom ServerPool.next (ServerPool.start ι drainMs now) moves).Kept drainMs :=
    runFrom_invariant (I := ServerPool.Kept drainMs) moves
      (fun _ move hpool => kept_next hpool move) (kept_start ι drainMs now)
  exact hkept.2.graceful

end

/-- A start, and two signals. -/
def twoSignals : List (Move (Option Bool) ServerFate ServerChange) :=
  List.replicate 7 (.step none .done) ++ List.replicate 3 (.step (some true) .done) ++
    [.step (some false) .done]

/-- What the process has come to. -/
def twoSignalsPool : ServerPool Bool :=
  runFrom ServerPool.next (ServerPool.start Bool 3000 0) twoSignals

/-- The second signal returns at once; the first one waits before it closes the server. -/
example : twoSignalsPool.shared.shuttingDown = true ∧ twoSignalsPool.shared.listening = true ∧
    (twoSignalsPool.threads (some false)).nextCall = none ∧
      (twoSignalsPool.threads (some true)).nextCall = some .now := by decide +kernel

end SwitchService.Server
