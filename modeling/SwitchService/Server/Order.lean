import SwitchService.Server.Process

set_option autoImplicit false

/-!
# The order of the calls

`main` installs the handlers last, and a signal that enters the shutdown makes its calls in a
fixed order, whatever the answers are.
-/

namespace SwitchService.Server

open SwitchService.Foundation

/-! ## What a program has seen -/

/-- The call that was carried out.  Of the signals, the one that enters the shutdown counts. -/
def finished : (call : ServerCall) → Except String call.Ans → Option ServerCall
  | .enterShutdown, .ok false => some .enterShutdown
  | .enterShutdown, _ => none
  | call, .ok _ => some call
  | _, .error _ => none

theorem eq_of_finished {call done : ServerCall} {reply : Except String call.Ans}
    (h : finished call reply = some done) : done = call := by
  cases call with
  | enterShutdown =>
      rcases reply with failure | (_ | _)
      · cases h
      · exact (Option.some.inj h).symm
      · cases h
  | _ =>
      cases reply with
      | error _ => cases h
      | ok _ => exact (Option.some.inj h).symm

/-- The calls of a program that were carried out, and its last reading of the clock, with the
calls before it. -/
structure Seen where
  did : List ServerCall
  clock : Option (ℚ × List ServerCall)

/-- A program before its first call. -/
def Seen.init : Seen where
  did := []
  clock := none

/-- The reading of the clock. -/
def reading : (call : ServerCall) → Except String call.Ans → Option ℚ
  | .now, .ok moment => some moment
  | _, _ => none

/-- What a reply tells a program. -/
def Seen.next (seen : Seen) (call : ServerCall) (reply : Except String call.Ans) : Seen where
  did := (finished call reply).toList ++ seen.did
  clock := ((reading call reply).map fun moment => (moment, seen.did)).or seen.clock

/-- The calls of `main`. -/
def MainMay (seen : Seen) (call : ServerCall) : Prop :=
  .installShutdown ∉ seen.did ∧ match call with
    | .now | .sleepUntil _ | .selectOne => True
    | .runMigrations => .selectOne ∈ seen.did
    | .setMigrationsComplete value =>
        value = true ∧ .selectOne ∈ seen.did ∧ .runMigrations ∈ seen.did
    | .startConsumer => .setMigrationsComplete true ∈ seen.did
    | .setConsumerRunning value => value = true ∧ .startConsumer ∈ seen.did
    | .listen => .startConsumer ∈ seen.did ∧ .runMigrations ∈ seen.did
    | .installShutdown => True
    | .exit code => code ≠ 0
    | _ => False

/-- The calls of a signal, after it has entered. -/
def DrainMay (drainMs : ℚ) (seen : Seen) : ServerCall → Prop
  | .now | .setHardExit | .closeEvents => True
  | .setMigrationsComplete value => value = false
  | .setConsumerRunning value => value = false
  | .sleepUntil moment => ∃ start before, seen.clock = some (start, before) ∧
      .setMigrationsComplete false ∈ before ∧ moment = start + drainMs
  | .closeServer => .setMigrationsComplete false ∈ seen.did ∧
      ∃ moment, .sleepUntil moment ∈ seen.did
  | .awaitServer => .closeServer ∈ seen.did
  | .stopConsumer => .awaitServer ∈ seen.did
  | .awaitLoop moment => ∃ start before, seen.clock = some (start, before) ∧
      .stopConsumer ∈ before ∧ moment = start + 2000
  | .closeRedis => .setMigrationsComplete false ∈ seen.did ∧ .awaitServer ∈ seen.did ∧
      .stopConsumer ∈ seen.did ∧ .setConsumerRunning false ∈ seen.did ∧
        ∃ moment, .awaitLoop moment ∈ seen.did
  | .closePools => .closeRedis ∈ seen.did
  | .clearHardExit => .closePools ∈ seen.did
  | .exit code => code = 0 ∧ .closePools ∈ seen.did
  | _ => False

/-- The calls of a signal. -/
def SignalMay (drainMs : ℚ) (seen : Seen) (call : ServerCall) : Prop :=
  (call = .enterShutdown ∧ seen.did = []) ∨
    (.enterShutdown ∈ seen.did ∧ DrainMay drainMs seen call)

/-- `main` is the thread without a signal. -/
def serverProtocol {ι : Type} (drainMs : ℚ) (thread : Option ι) :
    Prog.Protocol ServerCall ServerCall.Ans String Seen where
  allows := match thread with
    | none => MainMay
    | some _ => SignalMay drainMs
  next := Seen.next

/-- Nothing is asked of the end of a program. -/
abbrev anyEnd {α : Type} : Seen → Except String α → Prop := fun _ _ => True

/-! ## The programs keep to the order -/

section

variable {ι : Type} {drainMs : ℚ}

/-- A step of a program: the call is allowed, and the rest follows from what is seen then. -/
theorem follows_step {α : Type} {thread : Option ι} {call : ServerCall}
    {rest : call.Ans → ServerProgram α} {post : Seen → Except String α → Prop} {seen : Seen}
    (hallow : (serverProtocol drainMs thread).allows seen call)
    (hrest : ∀ value, Prog.Follows (serverProtocol drainMs thread) post (rest value)
      (seen.next call (.ok value)))
    (herror : ∀ e, post (seen.next call (.error e)) (.error e)) :
    Prog.Follows (serverProtocol drainMs thread) post (Prog.await call >>= rest) seen :=
  Prog.follows_await_bind hallow hrest herror

/-! ### The start -/

/-- `main` has not installed the handlers. -/
abbrev Unhandled (seen : Seen) : Prop := .installShutdown ∉ seen.did

theorem unhandled_next {seen : Seen} (h : Unhandled seen) {call : ServerCall}
    (hcall : call ≠ .installShutdown) (reply : Except String call.Ans) :
    Unhandled (seen.next call reply) := by
  intro hmem
  rcases List.mem_append.mp hmem with hnew | hold
  · exact hcall (eq_of_finished (Option.mem_toList.mp hnew)).symm
  · exact h hold

/-- A `sleep` of `main`. -/
theorem follows_sleep_main (ms : ℚ) {seen : Seen} (h : Unhandled seen) :
    Prog.Follows (serverProtocol (ι := ι) drainMs none) (fun seen' _ => Unhandled seen')
      (sleep ms) seen := by
  refine follows_step ⟨h, trivial⟩ (fun now => ?_) fun _ => unhandled_next h (by simp) _
  have hnow : Unhandled (seen.next .now (.ok now)) := unhandled_next h (by simp) _
  exact Prog.follows_await ⟨hnow, trivial⟩ (fun _ => unhandled_next hnow (by simp) _)
    fun _ => unhandled_next hnow (by simp) _

/-- An attempt of `main`: where it succeeds the database has answered. -/
theorem follows_attempt {seen : Seen} (h : Unhandled seen) :
    Prog.Follows (serverProtocol (ι := ι) drainMs none)
      (fun seen' result => Unhandled seen' ∧
        ∃ up, result = .ok up ∧ (up = true → .selectOne ∈ seen'.did))
      (Prog.tryCatch (Prog.await ServerCall.selectOne >>= fun _ => Prog.ret true)
        fun _ => Prog.ret false) seen := by
  refine Prog.follows_tryCatch (fun seen' result => Unhandled seen' ∧
    ∀ up, result = .ok up → .selectOne ∈ seen'.did) ?_ ?_ ?_
  · refine follows_step ⟨h, trivial⟩ (fun _ => ?_) fun _ => ?_
    · exact ⟨unhandled_next h (by simp) _, fun _ _ => List.mem_cons_self⟩
    · exact ⟨unhandled_next h (by simp) _, fun _ herror => by cases herror⟩
  · exact fun up _ hseen => ⟨hseen.1, up, rfl, fun _ => hseen.2 up rfl⟩
  · exact fun _ _ hseen => ⟨hseen.1, false, rfl, fun hup => by cases hup⟩

theorem follows_attemptDatabase (maxAttempts left : ℕ) {seen : Seen} (h : Unhandled seen) :
    Prog.Follows (serverProtocol (ι := ι) drainMs none)
      (fun seen' result => Unhandled seen' ∧
        (result = .ok () → 0 < left → .selectOne ∈ seen'.did))
      (attemptDatabase maxAttempts left) seen := by
  induction left generalizing seen with
  | zero => exact ⟨h, fun _ hleft => absurd hleft (lt_irrefl 0)⟩
  | succ left ih =>
      unfold attemptDatabase
      refine Prog.follows_bind _ (follows_attempt h) ?_ ?_
      · rintro up tried ⟨htried, answered, hup, hselect⟩
        obtain rfl := Except.ok.inj hup
        split
        · rename_i htrue
          exact ⟨htried, fun _ _ => hselect htrue⟩
        · split
          · exact ⟨htried, fun herror => by cases herror⟩
          · rename_i hleft
            refine Prog.follows_bind _ (follows_sleep_main _ htried) ?_ ?_
            · exact fun _ slept hslept => (ih hslept).mono fun _ _ hresult =>
                ⟨hresult.1, fun hok _ => hresult.2 hok (Nat.pos_of_ne_zero hleft)⟩
            · exact fun _ _ hslept => ⟨hslept, fun herror => by cases herror⟩
      · rintro _ _ ⟨_, up, hup, _⟩
        cases hup

/-- A program that fails has not installed the handlers. -/
def FailsUnhandled {α : Type} (seen : Seen) (result : Except String α) : Prop :=
  ∀ e, result = .error e → Unhandled seen

/-- A call of `main` before the last. -/
theorem main_step {α : Type} {call : ServerCall} {rest : call.Ans → ServerProgram α}
    {seen : Seen} (hmay : MainMay seen call) (hcall : call ≠ .installShutdown)
    (hrest : ∀ value, Unhandled (seen.next call (.ok value)) →
      Prog.Follows (serverProtocol (ι := ι) drainMs none) FailsUnhandled (rest value)
        (seen.next call (.ok value))) :
    Prog.Follows (serverProtocol (ι := ι) drainMs none) FailsUnhandled
      (Prog.await call >>= rest) seen :=
  follows_step hmay (fun value => hrest value (unhandled_next hmay.1 hcall _))
    fun _ _ _ => unhandled_next hmay.1 hcall _

theorem follows_startUp :
    Prog.Follows (serverProtocol (ι := ι) drainMs none) FailsUnhandled startUp Seen.init := by
  have hinit : Unhandled Seen.init := List.not_mem_nil
  refine Prog.follows_bind _ (follows_attemptDatabase 6 6 hinit) ?_ fun _ _ h _ _ => h.1
  rintro _ up ⟨hup, hselected⟩
  have hselect := hselected rfl (by norm_num)
  refine main_step ⟨hup, hselect⟩ (by simp) fun _ hmigrated => ?_
  refine main_step ⟨hmigrated, rfl, List.mem_cons_of_mem _ hselect, List.mem_cons_self⟩
    (by simp) fun _ hmarked => ?_
  refine main_step ⟨hmarked, List.mem_cons_self⟩ (by simp) fun _ hstarted => ?_
  refine main_step ⟨hstarted, rfl, List.mem_cons_self⟩ (by simp) fun _ hrunning => ?_
  refine main_step ⟨hrunning, List.mem_cons_of_mem _ List.mem_cons_self,
    List.mem_cons_of_mem _ (List.mem_cons_of_mem _ (List.mem_cons_of_mem _
      List.mem_cons_self))⟩ (by simp) fun _ hlistening => ?_
  exact Prog.follows_await ⟨hlistening, trivial⟩ (fun _ _ herror => by cases herror)
    fun _ _ _ => hlistening

theorem follows_main :
    Prog.Follows (serverProtocol (ι := ι) drainMs none) anyEnd main Seen.init := by
  refine Prog.follows_tryCatch _ follows_startUp (fun _ _ _ => trivial) ?_
  intro e seen hfailed
  exact Prog.follows_await ⟨hfailed e rfl, one_ne_zero⟩ (fun _ => trivial) fun _ => trivial

/-! ### The shutdown -/

/-- A call after the shutdown was entered. -/
theorem drain_step {α : Type} {i : ι} {call : ServerCall} {rest : call.Ans → ServerProgram α}
    {seen : Seen} (henter : .enterShutdown ∈ seen.did) (hallow : DrainMay drainMs seen call)
    (hrest : ∀ value, .enterShutdown ∈ (seen.next call (.ok value)).did →
      Prog.Follows (serverProtocol drainMs (some i)) anyEnd (rest value)
        (seen.next call (.ok value))) :
    Prog.Follows (serverProtocol drainMs (some i)) anyEnd (Prog.await call >>= rest) seen :=
  follows_step (.inr ⟨henter, hallow⟩) (fun value => hrest value
    (List.mem_append_right _ henter)) fun _ => trivial

/-- The wait of a signal, after it has reported that the process is not ready. -/
theorem follows_sleep_drain (i : ι) {seen : Seen} (henter : .enterShutdown ∈ seen.did)
    (hunready : .setMigrationsComplete false ∈ seen.did) :
    Prog.Follows (serverProtocol drainMs (some i))
      (fun slept result => result = .ok () → .enterShutdown ∈ slept.did ∧
        .setMigrationsComplete false ∈ slept.did ∧ ∃ moment, .sleepUntil moment ∈ slept.did)
      (sleep drainMs) seen := by
  refine follows_step (.inr ⟨henter, trivial⟩) (fun now => ?_) fun _ herror => by cases herror
  refine Prog.follows_await (.inr ⟨List.mem_cons_of_mem _ henter, now, seen.did, rfl, hunready,
    rfl⟩) (fun _ _ => ?_) fun _ herror => by cases herror
  exact ⟨List.mem_cons_of_mem _ (List.mem_cons_of_mem _ henter),
    List.mem_cons_of_mem _ (List.mem_cons_of_mem _ hunready), _, List.mem_cons_self⟩

/-- The stop of the consumer, after the server has closed. -/
theorem follows_stopConsumer (i : ι) {seen : Seen} (henter : .enterShutdown ∈ seen.did)
    (hunready : .setMigrationsComplete false ∈ seen.did) (hclosed : .awaitServer ∈ seen.did) :
    Prog.Follows (serverProtocol drainMs (some i))
      (fun stopped result => result = .ok () → .enterShutdown ∈ stopped.did ∧
        .setMigrationsComplete false ∈ stopped.did ∧ .awaitServer ∈ stopped.did ∧
          .stopConsumer ∈ stopped.did ∧ ∃ moment, .awaitLoop moment ∈ stopped.did)
      stopConsumer seen := by
  have hlater : ∀ call ∈ seen.did, ∀ a b c : ServerCall, call ∈ a :: b :: c :: seen.did :=
    fun call hcall a b c =>
      List.mem_cons_of_mem a (List.mem_cons_of_mem b (List.mem_cons_of_mem c hcall))
  refine follows_step (.inr ⟨henter, hclosed⟩) (fun _ => ?_) fun _ herror => by cases herror
  refine follows_step (.inr ⟨List.mem_cons_of_mem _ henter, trivial⟩) (fun now => ?_)
    fun _ herror => by cases herror
  refine Prog.follows_await (.inr ⟨List.mem_cons_of_mem _ (List.mem_cons_of_mem _ henter), now, _,
    rfl, List.mem_cons_self, rfl⟩) (fun _ _ => ?_) fun _ herror => by cases herror
  exact ⟨hlater _ henter _ _ _, hlater _ hunready _ _ _, hlater _ hclosed _ _ _,
    List.mem_cons_of_mem _ (List.mem_cons_of_mem _ List.mem_cons_self), _, List.mem_cons_self⟩

theorem follows_drain (i : ι) {seen : Seen} (henter : .enterShutdown ∈ seen.did) :
    Prog.Follows (serverProtocol drainMs (some i)) anyEnd (drain drainMs) seen := by
  refine drain_step henter trivial fun _ henter => ?_
  refine drain_step henter rfl fun _ henter => ?_
  refine Prog.follows_bind _ (follows_sleep_drain i henter List.mem_cons_self) ?_
    fun _ _ _ => trivial
  intro _ slept hslept
  obtain ⟨henter, hunready, moment, hmoment⟩ := hslept rfl
  refine drain_step henter trivial fun _ henter => ?_
  refine drain_step henter ⟨List.mem_cons_of_mem _ hunready, moment,
    List.mem_cons_of_mem _ hmoment⟩ fun _ henter => ?_
  refine drain_step henter List.mem_cons_self fun _ henter => ?_
  refine Prog.follows_bind _ (follows_stopConsumer i henter
    (List.mem_cons_of_mem _ (List.mem_cons_of_mem _ (List.mem_cons_of_mem _ hunready)))
    List.mem_cons_self) ?_ fun _ _ _ => trivial
  intro _ stopped hstopped
  obtain ⟨henter, hunready, hclosed, hstop, moment, hmoment⟩ := hstopped rfl
  refine drain_step henter rfl fun _ henter => ?_
  refine drain_step henter ⟨List.mem_cons_of_mem _ hunready, List.mem_cons_of_mem _ hclosed,
    List.mem_cons_of_mem _ hstop, List.mem_cons_self, moment, List.mem_cons_of_mem _ hmoment⟩
    fun _ henter => ?_
  refine drain_step henter List.mem_cons_self fun _ henter => ?_
  refine drain_step henter List.mem_cons_self fun _ henter => ?_
  exact Prog.follows_await (.inr ⟨henter, rfl, List.mem_cons_of_mem _ List.mem_cons_self⟩)
    (fun _ => trivial) fun _ => trivial

theorem follows_shutdown (i : ι) :
    Prog.Follows (serverProtocol drainMs (some i)) anyEnd (shutdown drainMs) Seen.init := by
  refine follows_step (.inl ⟨rfl, rfl⟩) (fun shuttingDown => ?_) fun _ => trivial
  cases shuttingDown with
  | true => trivial
  | false => exact follows_drain i List.mem_cons_self

end

end SwitchService.Server
