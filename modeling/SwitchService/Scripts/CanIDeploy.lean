import SwitchService.Config
import SwitchService.Consumer.OutcomeConsumer

set_option autoImplicit false

/-!
# Scripts: the deploy gate (`scripts/can-i-deploy.mjs`)

The broker is asked whether the other services agree with a version: against what is live in
an environment, or against their main branches.  An environment that holds nothing yet is
given up once, for the main branches.  While verifications are unknown the gate may wait, and
a wait that runs out is red.
-/

namespace SwitchService.Scripts

open SwitchService.Foundation

/-! ## The options -/

/-- What the script reads before it asks. -/
structure GateOptions where
  me : String
  version : String
  /-- `PACT_ENVIRONMENT`, or null. -/
  environment : Option String
  retryWhileUnknown : Bool
  retryTimeoutMs : Number
  allowNoContracts : Bool

/-- The options by the environment variables. -/
def gateOptions (env : Environment) (me version : String) : GateOptions where
  me := me
  version := version
  environment := env "PACT_ENVIRONMENT"
  retryWhileUnknown := env "PACT_RETRY_WHILE_UNKNOWN" = some "true"
  retryTimeoutMs :=
    (((env "PACT_RETRY_TIMEOUT_SECONDS").map Number.ofText).getD (.fin 300)).mul (.fin 1000)
  allowNoContracts := env "PACT_ALLOW_NO_CONTRACTS" = some "true"

/-- `Boolean(environment)`: the empty string names no environment. -/
def GateOptions.hasEnvironment (o : GateOptions) : Bool :=
  o.environment.any fun name => decide (name ≠ "")

/-- `POLL_MS`. -/
def pollMs : ℚ := 10000

/-! ## What the broker answers -/

/-- The summary of a matrix; everything in it may be missing or null. -/
structure GateSummary where
  deployable : Option Bool
  success : Option ℕ
  failed : Option ℕ
  unknown : Option ℕ
  reason : Option String
  deriving DecidableEq

/-- The summary of an answer without one. -/
def GateSummary.missing : GateSummary where
  deployable := none
  success := none
  failed := none
  unknown := none
  reason := none

/-- What `brokerFetch` resolves to. -/
structure BrokerReply where
  ok : Bool
  status : ℕ
  summary : Option GateSummary
  deriving DecidableEq

/-- `success + failed + unknown`, a missing count being 0. -/
def GateSummary.rowCount (answer : GateSummary) : ℕ :=
  answer.success.getD 0 + answer.failed.getD 0 + answer.unknown.getD 0

/-- The parameters of a request, in their order. -/
abbrev Query : Type := List (String × String)

/-- `buildQuery`: an environment that is not given is printed as `null`. -/
def buildQuery (o : GateOptions) (useEnvironment : Bool) : Query :=
  [("q[][pacticipant]", o.me), ("q[][version]", o.version), ("latestby", "cvp")] ++
    if useEnvironment then [("environment", o.environment.getD "null")]
    else [("latest", "true"), ("mainBranch", "true")]

/-! ## The program -/

/-- What the script waits for. -/
inductive GateCall where
  /-- `Date.now()`. -/
  | now
  | wait (ms : ℚ)
  /-- A request for the matrix. -/
  | matrix (query : Query)
  deriving DecidableEq

/-- What a call answers. -/
abbrev GateCall.Ans : GateCall → Type
  | .now => ℚ
  | .wait _ => Unit
  | .matrix _ => BrokerReply

/-- A program of the script.  `fail` and an uncaught rejection both throw. -/
abbrev GateProgram (α : Type) : Type := Prog GateCall GateCall.Ans String α

/-- `ask`: an answer without a summary counts as one without any field. -/
def ask (o : GateOptions) (useEnvironment : Bool) : GateProgram GateSummary := do
  let result ← Prog.await (GateCall.matrix (buildQuery o useEnvironment))
  if result.ok then return result.summary.getD GateSummary.missing
  else Prog.throw s!"the broker answered {result.status}"

/-- Nothing is recorded as deployed to the environment. -/
def environmentIsEmpty (o : GateOptions) (answer : GateSummary) : Bool :=
  o.hasEnvironment && answer.reason.any fun reason =>
    Consumer.includesText reason "no version is currently recorded as deployed"

/-- The condition of the loop, but for the deadline. -/
def stillUnknown (o : GateOptions) (answer : GateSummary) : Bool :=
  o.retryWhileUnknown && decide (0 < answer.unknown.getD 0) &&
    decide (answer.deployable ≠ some true)

/-- The loop, and the last answer; none where its condition is tested more often than
`tests` times. -/
def waitWhileUnknown (o : GateOptions) (deadline : Number) (useEnvironment : Bool) :
    ℕ → GateSummary → GateProgram (Option GateSummary)
  | 0, _ => return none
  | tests + 1, answer =>
      if stillUnknown o answer then do
        let now ← Prog.await GateCall.now
        if (Number.fin now).lt deadline then do
          -- The time that is left is printed.
          let _ ← Prog.await GateCall.now
          Prog.await (GateCall.wait pollMs)
          let answer ← ask o useEnvironment
          waitWhileUnknown o deadline useEnvironment tests answer
        else return some answer
      else return some answer

/-- The exit code for the last answer. -/
def verdict (o : GateOptions) (answer : GateSummary) : ℕ :=
  if answer.deployable = some true ∧ answer.rowCount = 0 then
    if o.allowNoContracts then 0 else 1
  else if answer.deployable = some true then 0
  else 1

/-- The script from the comparison on that it keeps to. -/
def waitAndDecide (o : GateOptions) (deadline : Number) (useEnvironment : Bool) (tests : ℕ)
    (answer : GateSummary) : GateProgram (Option ℕ) := do
  let last ← waitWhileUnknown o deadline useEnvironment tests answer
  return last.map (verdict o)

/-- The script. -/
def canIDeploy (o : GateOptions) (tests : ℕ) : GateProgram (Option ℕ) := do
  let start ← Prog.await GateCall.now
  let deadline := (Number.fin start).add o.retryTimeoutMs
  let first ← ask o o.hasEnvironment
  if environmentIsEmpty o first then do
    let answer ← ask o false
    waitAndDecide o deadline false tests answer
  else waitAndDecide o deadline o.hasEnvironment tests first

/-- The exit code of the script; none where it has not ended. -/
def exitCode : Except String (Option ℕ) → Option ℕ
  | .ok code => code
  | .error _ => some 1

/-! ## A run against any broker -/

/-- A request and how it ended. -/
structure Exchange where
  query : Query
  reply : Except String BrokerReply

/-- The answer that the script goes on with. -/
def Exchange.answer (e : Exchange) : Option GateSummary :=
  match e.reply with
  | .ok reply => if reply.ok then some (reply.summary.getD GateSummary.missing) else none
  | .error _ => none

/-- The broker and the time: how the call of every number is answered, and how long it takes.
A wait takes as long as it was asked for or longer. -/
structure Outside where
  reply : ℕ → Query → Except String BrokerReply
  elapsed : ℕ → ℚ≥0

/-- The state of a run: the clock, the number of calls, and the requests, newest first. -/
structure GateWorld where
  now : ℚ
  calls : ℕ
  asked : List Exchange

/-- A run that has asked nothing yet. -/
def GateWorld.start (now : ℚ) : GateWorld where
  now := now
  calls := 0
  asked := []

/-- Time passes. -/
def Outside.tick (outside : Outside) (ms : ℚ) (w : GateWorld) : GateWorld :=
  { w with now := w.now + ms + outside.elapsed w.calls, calls := w.calls + 1 }

/-- What a call answers, and what it leaves. -/
def Outside.perform (outside : Outside) :
    (call : GateCall) → GateWorld → Except String call.Ans × GateWorld
  | .now, w => (.ok w.now, outside.tick 0 w)
  | .wait ms, w => (.ok (), outside.tick ms w)
  | .matrix query, w =>
      let reply := outside.reply w.calls query
      (reply, outside.tick 0 { w with asked := ⟨query, reply⟩ :: w.asked })

/-- The script, run from a moment on. -/
def gateRun (o : GateOptions) (outside : Outside) (start : ℚ) (tests : ℕ) :
    Except String (Option ℕ) × GateWorld :=
  Prog.run outside.perform (canIDeploy o tests) (GateWorld.start start)

section

variable {o : GateOptions} {outside : Outside} {w : GateWorld}

theorem le_tick (outside : Outside) (w : GateWorld) (ms : ℚ) :
    w.now + ms ≤ (outside.tick ms w).now :=
  le_add_of_nonneg_right (outside.elapsed w.calls).2

theorem le_tick_zero (outside : Outside) (w : GateWorld) : w.now ≤ (outside.tick 0 w).now := by
  simpa using le_tick outside w 0

/-- How a question ends: with an answer, or without one. -/
inductive Asked (o : GateOptions) (w : GateWorld) (useEnvironment : Bool) :
    Except String GateSummary × GateWorld → Prop
  | answered (e : Exchange) (w' : GateWorld) (answer : GateSummary)
      (query : e.query = buildQuery o useEnvironment) (asked : w'.asked = e :: w.asked)
      (now : w.now ≤ w'.now) (given : e.answer = some answer) :
      Asked o w useEnvironment (.ok answer, w')
  | failed (e : Exchange) (w' : GateWorld) (message : String)
      (query : e.query = buildQuery o useEnvironment) (asked : w'.asked = e :: w.asked)
      (given : e.answer = none) :
      Asked o w useEnvironment (.error message, w')

theorem asked_ask (o : GateOptions) (outside : Outside) (w : GateWorld) (useEnvironment : Bool) :
    Asked o w useEnvironment (Prog.run outside.perform (ask o useEnvironment) w) := by
  have hnow (reply : Except String BrokerReply) := le_tick_zero outside
    { w with asked := ⟨buildQuery o useEnvironment, reply⟩ :: w.asked }
  unfold ask
  rw [Prog.run_bind, Prog.run_await]
  simp only [Outside.perform]
  cases outside.reply w.calls (buildQuery o useEnvironment) with
  | error message => exact .failed _ _ _ rfl rfl rfl
  | ok reply =>
      cases hok : reply.ok with
      | true =>
          simp only [hok, if_true, Prog.pure_eq, Prog.run_ret]
          exact .answered _ _ _ rfl rfl (hnow (.ok reply)) (by simp [Exchange.answer, hok])
      | false =>
          simp only [hok, Bool.false_eq_true, if_false, Prog.run_throw]
          exact .failed _ _ _ rfl rfl (by simp [Exchange.answer, hok])

/-! ## The loop -/

/-- The script waited after this exchange. -/
def Unsettled (o : GateOptions) (e : Exchange) : Prop :=
  ∃ answer, e.answer = some answer ∧ stillUnknown o answer = true

/-- How the loop ends on its last exchange: without an answer, or with one that nothing is to
be waited for, or at the deadline. -/
inductive Settled (o : GateOptions) (deadline : Number) (last : Exchange) (now : ℚ) :
    Except String (Option GateSummary) → Prop
  | failed (message : String) (given : last.answer = none) :
      Settled o deadline last now (.error message)
  | answered (answer : GateSummary) (given : last.answer = some answer)
      (patient : stillUnknown o answer = true → (Number.fin now).lt deadline = false) :
      Settled o deadline last now (.ok (some answer))

/-- What the loop has asked when it ends: the answer it began with, and one more after every
wait. -/
structure Waited (o : GateOptions) (deadline : Number) (useEnvironment : Bool) (waits : ℕ)
    (current : Exchange) (before : List Exchange)
    (ending : Except String (Option GateSummary) × GateWorld) (last : Exchange)
    (waited : List Exchange) : Prop where
  asked : ending.2.asked = last :: (waited ++ before)
  few : waited.length ≤ waits
  oldest : (last :: waited).getLast? = some current
  queries : ∀ e ∈ last :: waited, e.query = buildQuery o useEnvironment
  unknown : ∀ e ∈ waited, Unsettled o e
  settled : Settled o deadline last ending.2.now ending.1

section

variable {deadline : Number} {useEnvironment : Bool} {waits : ℕ} {answer : GateSummary}
  {current : Exchange} {before : List Exchange}

theorem lt_mono {a b : ℚ} (hab : a ≤ b) (h : (Number.fin a).lt deadline = false) :
    (Number.fin b).lt deadline = false := by
  rw [Bool.eq_false_iff] at h ⊢
  exact fun hb => h (Number.lt_of_le_of_lt hab hb)

/-- The loop stops where nothing is to be waited for, or the deadline is there. -/
theorem waited_stop {tests : ℕ} (hquery : current.query = buildQuery o useEnvironment)
    (hgiven : current.answer = some answer) (hasked : w.asked = current :: before)
    (hstop : stillUnknown o answer = true → (Number.fin w.now).lt deadline = false) :
    Waited o deadline useEnvironment waits current before
      (Prog.run outside.perform
        (waitWhileUnknown o deadline useEnvironment (tests + 1) answer) w) current [] := by
  have hend (w' : GateWorld) (hasked' : w'.asked = current :: before) (hle : w.now ≤ w'.now) :
      Waited o deadline useEnvironment waits current before (.ok (some answer), w') current [] :=
    { asked := hasked'
      few := Nat.zero_le _
      oldest := rfl
      queries := fun e he => by rwa [List.mem_singleton.mp he]
      unknown := fun e he => absurd he List.not_mem_nil
      settled := .answered answer hgiven fun h => lt_mono hle (hstop h) }
  rw [waitWhileUnknown]
  cases hstill : stillUnknown o answer with
  | false => exact hend w hasked le_rfl
  | true =>
      rw [if_pos rfl, Prog.run_bind, Prog.run_await]
      simp only [Outside.perform, hstop hstill, Bool.false_eq_true, if_false]
      exact hend _ hasked (le_tick_zero outside w)

/-- Otherwise it waits, and asks again. -/
theorem run_wait (outside : Outside) (useEnvironment : Bool) (tests : ℕ)
    (hstill : stillUnknown o answer = true)
    (hlt : (Number.fin w.now).lt deadline = true) :
    ∃ w', w'.asked = w.asked ∧ w.now + pollMs ≤ w'.now ∧
      Prog.run outside.perform
          (waitWhileUnknown o deadline useEnvironment (tests + 1) answer) w =
        Prog.run outside.perform
          (ask o useEnvironment >>= waitWhileUnknown o deadline useEnvironment tests) w' := by
  refine ⟨outside.tick pollMs (outside.tick 0 (outside.tick 0 w)), rfl, ?_, ?_⟩
  · calc w.now + pollMs ≤ (outside.tick 0 (outside.tick 0 w)).now + pollMs := by
          gcongr
          exact (le_tick_zero outside w).trans (le_tick_zero outside _)
      _ ≤ _ := le_tick outside _ pollMs
  · rw [waitWhileUnknown, if_pos hstill, Prog.run_bind, Prog.run_await]
    simp only [Outside.perform, hlt, if_true]
    rw [Prog.run_bind, Prog.run_await]
    simp only [Outside.perform]
    rw [Prog.run_bind, Prog.run_await]
    rfl

/-- One more wait before what the loop has asked from then on. -/
theorem Waited.after {ending : Except String (Option GateSummary) × GateWorld}
    {next last : Exchange} {waited : List Exchange}
    (h : Waited o deadline useEnvironment waits next (current :: before) ending last waited)
    (hquery : current.query = buildQuery o useEnvironment) (hcurrent : Unsettled o current) :
    Waited o deadline useEnvironment (waits + 1) current before ending last
      (waited ++ [current]) where
  asked := by rw [h.asked, List.append_assoc, List.singleton_append]
  few := by
    rw [List.length_append, List.length_singleton]
    exact Nat.succ_le_succ h.few
  oldest := by rw [← List.cons_append, List.getLast?_concat]
  queries e he := by
    rw [← List.cons_append, List.mem_append, List.mem_singleton] at he
    rcases he with he | rfl
    · exact h.queries e he
    · exact hquery
  unknown e he := by
    rw [List.mem_append, List.mem_singleton] at he
    rcases he with he | rfl
    · exact h.unknown e he
    · exact hcurrent
  settled := h.settled

/-- The last request has failed. -/
theorem waited_failed {e : Exchange} {message : String}
    (hquery : e.query = buildQuery o useEnvironment) (hasked : w.asked = e :: before)
    (hgiven : e.answer = none) :
    Waited o deadline useEnvironment waits e before (.error message, w) e [] where
  asked := hasked
  few := Nat.zero_le _
  oldest := rfl
  queries e' he := by rwa [List.mem_singleton.mp he]
  unknown e' he := absurd he List.not_mem_nil
  settled := .failed message hgiven

/-- The loop ends within its tests where the deadline is not beyond as many waits.  The
induction is on the waits that are left. -/
theorem waited_run (outside : Outside)
    (hquery : current.query = buildQuery o useEnvironment)
    (hgiven : current.answer = some answer) (hasked : w.asked = current :: before)
    (hdue : (Number.fin (w.now + waits * pollMs)).lt deadline = false) :
    ∃ last waited, Waited o deadline useEnvironment waits current before
      (Prog.run outside.perform
        (waitWhileUnknown o deadline useEnvironment (waits + 1) answer) w) last waited := by
  induction waits generalizing w answer current before with
  | zero =>
      refine ⟨current, [], waited_stop hquery hgiven hasked fun _ => ?_⟩
      simpa using hdue
  | succ waits ih =>
      by_cases hgo : stillUnknown o answer = true → (Number.fin w.now).lt deadline = false
      · exact ⟨current, [], waited_stop hquery hgiven hasked hgo⟩
      · obtain ⟨hstill, hlt⟩ := Classical.not_imp.mp hgo
        obtain ⟨w', hasked', hnow, hrun⟩ := run_wait outside useEnvironment (waits + 1) hstill
          (Bool.eq_true_of_not_eq_false hlt)
        have hunsettled : Unsettled o current := ⟨answer, hgiven, hstill⟩
        have hask := asked_ask o outside w' useEnvironment
        rw [hrun, Prog.run_bind]
        generalize Prog.run outside.perform (ask o useEnvironment) w' = result at hask ⊢
        cases hask with
        | failed e w'' message query asked given =>
            rw [hasked', hasked] at asked
            exact ⟨e, _, (waited_failed query asked given).after hquery hunsettled⟩
        | answered e w'' answer' query asked now given =>
            rw [hasked', hasked] at asked
            have hle : w.now + (waits + 1 : ℕ) * pollMs ≤ w''.now + waits * pollMs := by
              push_cast
              linarith
            obtain ⟨last, waited, h⟩ := ih query given asked (lt_mono hle hdue)
            exact ⟨last, _, h.after hquery hunsettled⟩

end

/-! ## The script -/

theorem verdict_eq_zero {answer : GateSummary} : verdict o answer = 0 ↔
    answer.deployable = some true ∧ (answer.rowCount ≠ 0 ∨ o.allowNoContracts = true) := by
  unfold verdict
  by_cases hdeployable : answer.deployable = some true
  · by_cases hrows : answer.rowCount = 0
    · simp [hdeployable, hrows]
    · simp [hdeployable, hrows]
  · simp [hdeployable]

theorem verdict_cases (o : GateOptions) (answer : GateSummary) :
    verdict o answer = 0 ∨ verdict o answer = 1 := by
  unfold verdict
  split
  · split
    · exact .inl rfl
    · exact .inr rfl
  · split
    · exact .inl rfl
    · exact .inr rfl

/-- The requests of a run, newest first, and what its exit code says about them. -/
structure Justified (o : GateOptions) (deadline : Number) (waits : ℕ)
    (ending : Except String (Option ℕ) × GateWorld) (last : Exchange)
    (waited aside : List Exchange) : Prop where
  asked : ending.2.asked = last :: (waited ++ aside)
  few : waited.length ≤ waits
  /-- Only an answer that nothing is deployed to the environment is put aside. -/
  putAside : aside = [] ∨ ∃ first answer, aside = [first] ∧ first.query = buildQuery o true ∧
    first.answer = some answer ∧ environmentIsEmpty o answer = true
  /-- No first answer of this kind is kept. -/
  kept : aside = [] → ∀ first ∈ (last :: waited).getLast?, ∀ answer,
    first.answer = some answer → environmentIsEmpty o answer = false
  /-- Every other request makes the same comparison. -/
  queries : ∀ e ∈ last :: waited, e.query = buildQuery o (o.hasEnvironment && aside.isEmpty)
  unknown : ∀ e ∈ waited, Unsettled o e
  exits : exitCode ending.1 = some 0 ∨ exitCode ending.1 = some 1
  /-- The version is let through by the last answer alone. -/
  passes : exitCode ending.1 = some 0 ↔ ∃ answer, last.answer = some answer ∧
    answer.deployable = some true ∧ (answer.rowCount ≠ 0 ∨ o.allowNoContracts = true)
  /-- An unknown result is final only at the deadline. -/
  patient : ∀ answer, last.answer = some answer → stillUnknown o answer = true →
    (Number.fin ending.2.now).lt deadline = false

/-- The end of the script after its loop. -/
def conclude (o : GateOptions) (ending : Except String (Option GateSummary) × GateWorld) :
    Except String (Option ℕ) × GateWorld :=
  (ending.1.map (Option.map (verdict o)), ending.2)

theorem run_waitAndDecide {deadline : Number} {useEnvironment : Bool} {tests : ℕ}
    {answer : GateSummary} :
    Prog.run outside.perform (waitAndDecide o deadline useEnvironment tests answer) w =
      conclude o (Prog.run outside.perform
        (waitWhileUnknown o deadline useEnvironment tests answer) w) := by
  rw [waitAndDecide, Prog.run_bind]
  rcases Prog.run outside.perform (waitWhileUnknown o deadline useEnvironment tests answer) w
    with ⟨_ | last, w'⟩
  · rfl
  · rfl

section

variable {deadline : Number} {useEnvironment : Bool} {waits : ℕ} {current last : Exchange}
  {waited aside : List Exchange} {ending : Except String (Option GateSummary) × GateWorld}

theorem Settled.exits {now : ℚ} {result : Except String (Option GateSummary)}
    (h : Settled o deadline last now result) :
    exitCode (result.map (Option.map (verdict o))) = some 0 ∨
      exitCode (result.map (Option.map (verdict o))) = some 1 := by
  cases h with
  | failed message given => exact .inr rfl
  | answered answer given patient =>
      exact (verdict_cases o answer).imp (congrArg some) (congrArg some)

theorem Settled.passes {now : ℚ} {result : Except String (Option GateSummary)}
    (h : Settled o deadline last now result) :
    exitCode (result.map (Option.map (verdict o))) = some 0 ↔
      ∃ answer, last.answer = some answer ∧ answer.deployable = some true ∧
        (answer.rowCount ≠ 0 ∨ o.allowNoContracts = true) := by
  cases h with
  | failed message given =>
      constructor
      · intro hpass
        exact absurd (Option.some.inj hpass) one_ne_zero
      · rintro ⟨answer, hanswer, -⟩
        rw [given] at hanswer
        cases hanswer
  | answered answer given patient =>
      have hcode : exitCode (Except.map (Option.map (verdict o)) (Except.ok (some answer) :
          Except String (Option GateSummary))) = some (verdict o answer) := rfl
      rw [hcode, Option.some_inj, verdict_eq_zero]
      constructor
      · exact fun hpass => ⟨answer, given, hpass⟩
      · rintro ⟨answer', hanswer, hpass⟩
        rw [given] at hanswer
        cases hanswer
        exact hpass

theorem Settled.patient {now : ℚ} {result : Except String (Option GateSummary)}
    (h : Settled o deadline last now result) {answer : GateSummary}
    (hanswer : last.answer = some answer) (hstill : stillUnknown o answer = true) :
    (Number.fin now).lt deadline = false := by
  cases h with
  | failed message given =>
      rw [given] at hanswer
      cases hanswer
  | answered answer' given patient =>
      rw [given] at hanswer
      cases hanswer
      exact patient hstill

theorem Waited.justified
    (h : Waited o deadline useEnvironment waits current aside ending last waited)
    (haside : aside = [] ∨ ∃ first answer, aside = [first] ∧ first.query = buildQuery o true ∧
      first.answer = some answer ∧ environmentIsEmpty o answer = true)
    (hkept : aside = [] → ∀ answer, current.answer = some answer →
      environmentIsEmpty o answer = false)
    (huse : useEnvironment = (o.hasEnvironment && aside.isEmpty)) :
    Justified o deadline waits (conclude o ending) last waited aside where
  asked := h.asked
  few := h.few
  putAside := haside
  kept hnone first hfirst := by
    rw [h.oldest, Option.mem_some_iff] at hfirst
    exact hfirst ▸ hkept hnone
  queries e he := huse ▸ h.queries e he
  unknown := h.unknown
  exits := h.settled.exits
  passes := h.settled.passes
  patient _ := h.settled.patient

end

/-- As many waits as fill the time that is given reach the deadline. -/
theorem due_of_waits {start now ms : ℚ} {timeout : Number} (hle : start ≤ now)
    (h : (Number.fin ms).lt timeout = false) :
    (Number.fin (now + ms)).lt ((Number.fin start).add timeout) = false := by
  cases timeout with
  | nan => rfl
  | negInf => rfl
  | posInf => cases h
  | fin value =>
      rw [Number.lt_fin, decide_eq_false_iff_not, not_lt] at h
      rw [Number.add_fin, Number.lt_fin, decide_eq_false_iff_not, not_lt]
      exact add_le_add hle h

section

variable {start : ℚ} {waits : ℕ}

/-- The comparison with the main branches, once an answer has been put aside. -/
theorem justified_again (outside : Outside) {first : Exchange} {answer : GateSummary}
    (hwaits : (Number.fin (waits * pollMs)).lt o.retryTimeoutMs = false)
    (hquery : first.query = buildQuery o true) (hgiven : first.answer = some answer)
    (hempty : environmentIsEmpty o answer = true) (hasked : w.asked = [first])
    (hstart : start ≤ w.now) :
    ∃ last waited, Justified o ((Number.fin start).add o.retryTimeoutMs) waits
      (Prog.run outside.perform
        (ask o false >>= waitAndDecide o ((Number.fin start).add o.retryTimeoutMs) false
          (waits + 1)) w) last waited [first] := by
  -- What the loop, or a request that fails, leaves is justified by the answer put aside.
  have hjustified {current last : Exchange} {waited : List Exchange}
      {ending : Except String (Option GateSummary) × GateWorld}
      (h : Waited o ((Number.fin start).add o.retryTimeoutMs) false waits current [first]
        ending last waited) :
      Justified o ((Number.fin start).add o.retryTimeoutMs) waits (conclude o ending) last
        waited [first] :=
    h.justified (.inr ⟨first, answer, rfl, hquery, hgiven, hempty⟩)
      (fun hnil => absurd hnil (List.cons_ne_nil _ _)) (Bool.and_false o.hasEnvironment).symm
  have hask := asked_ask o outside w false
  rw [Prog.run_bind]
  generalize Prog.run outside.perform (ask o false) w = result at hask ⊢
  cases hask with
  | failed e w' message query asked given =>
      rw [hasked] at asked
      exact ⟨e, [], hjustified (waited_failed query asked given)⟩
  | answered e w' answer' query asked now given =>
      rw [hasked] at asked
      obtain ⟨last, waited, h⟩ := waited_run outside query given asked
        (due_of_waits (hstart.trans now) hwaits)
      simp only [run_waitAndDecide]
      exact ⟨last, waited, hjustified h⟩

/-- The script after its first reading of the clock. -/
theorem justified_run (outside : Outside)
    (hwaits : (Number.fin (waits * pollMs)).lt o.retryTimeoutMs = false) (hnone : w.asked = [])
    (hstart : start ≤ w.now) :
    ∃ last waited aside, Justified o ((Number.fin start).add o.retryTimeoutMs) waits
      (Prog.run outside.perform
        (ask o o.hasEnvironment >>= fun first =>
          if environmentIsEmpty o first then
            ask o false >>= waitAndDecide o ((Number.fin start).add o.retryTimeoutMs) false
              (waits + 1)
          else waitAndDecide o ((Number.fin start).add o.retryTimeoutMs) o.hasEnvironment
            (waits + 1) first) w) last waited aside := by
  have huse : o.hasEnvironment = (o.hasEnvironment && ([] : List Exchange).isEmpty) :=
    (Bool.and_true o.hasEnvironment).symm
  have hask := asked_ask o outside w o.hasEnvironment
  rw [Prog.run_bind]
  generalize Prog.run outside.perform (ask o o.hasEnvironment) w = result at hask ⊢
  cases hask with
  | failed e w' message query asked given =>
      rw [hnone] at asked
      refine ⟨e, [], [], (waited_failed query asked given).justified (.inl rfl) ?_ huse⟩
      intro _ answer hanswer
      rw [given] at hanswer
      cases hanswer
  | answered first w' answer query asked now given =>
      rw [hnone] at asked
      cases hempty : environmentIsEmpty o answer with
      | false =>
          obtain ⟨last, waited, h⟩ := waited_run outside query given asked
            (due_of_waits (hstart.trans now) hwaits)
          simp only [hempty, Bool.false_eq_true, if_false, run_waitAndDecide]
          refine ⟨last, waited, [], h.justified (.inl rfl) ?_ huse⟩
          intro _ answer' hanswer
          rw [given] at hanswer
          cases hanswer
          exact hempty
      | true =>
          -- Only where the script asked about an environment.
          have henv : o.hasEnvironment = true := (Bool.and_eq_true_iff.mp hempty).1
          rw [henv] at query
          simp only [hempty, if_true]
          obtain ⟨last, waited, h⟩ :=
            justified_again outside hwaits query given hempty asked (hstart.trans now)
          exact ⟨last, waited, [first], h⟩

end

/-- In every run the gate ends: it lets the version through exactly where the last answer
does, it makes one comparison but for an environment that holds nothing, and an unknown
result is final at the deadline and no sooner. -/
theorem canIDeploy_exact (o : GateOptions) (outside : Outside) (start : ℚ) {waits : ℕ}
    (hwaits : (Number.fin (waits * pollMs)).lt o.retryTimeoutMs = false) :
    ∃ last waited aside, Justified o ((Number.fin start).add o.retryTimeoutMs) waits
      (gateRun o outside start (waits + 1)) last waited aside := by
  have hstart := le_tick_zero outside (GateWorld.start start)
  exact justified_run outside hwaits rfl hstart

end

/-- A release to an environment, with a wait of at most twenty-five seconds. -/
def release : GateOptions where
  me := "switch-service"
  version := "4f2a9c1"
  environment := some "production"
  retryWhileUnknown := true
  retryTimeoutMs := .fin 25000
  allowNoContracts := false

/-- A broker that holds nothing for the environment, and verifies during the first wait. -/
def slowBroker : Outside where
  reply call _ := .ok {
    ok := true
    status := 200
    summary := some (match call with
      | 1 => { GateSummary.missing with
          reason := some "no version is currently recorded as deployed in production" }
      | 2 => { GateSummary.missing with success := some 1, unknown := some 1 }
      | _ => { GateSummary.missing with deployable := some true, success := some 2 }) }
  elapsed _ := 40

theorem canIDeploy_exact_release :
    exitCode (gateRun release slowBroker 0 4).1 = some 0 ∧
      ∃ last waited aside, Justified release ((Number.fin 0).add release.retryTimeoutMs) 3
        (gateRun release slowBroker 0 4) last waited aside :=
  ⟨by decide +kernel, canIDeploy_exact release slowBroker 0 (by decide +kernel)⟩

end SwitchService.Scripts
