import SwitchService.Foundation.Interleaving
import SwitchService.Services.ContractStatus

set_option autoImplicit false

/-!
# Runs: the cached contract status (`services/contractStatusService.ts`)

Any number of calls of `status` run at once over one module-level cache, while the matrix of
the broker changes.  A call asks the broker anew where the entry is older than
`CACHE_TTL_MS`, and calls that find it so at the same time all ask.

An entry carries the time at which its call began, so a slow call that overwrites a newer
entry does not make it look younger: `status_fresh` says that no answer is made of anything
older than ten seconds.
-/

namespace SwitchService.Runs

open SwitchService.Foundation SwitchService.Services

/-- `CACHE_TTL_MS`. -/
def contractTtlMs : ℚ := 10000

/-- The module-level cache. -/
structure CachedStatus where
  cachedAt : ℚ
  value : ContractStatus

/-- What `status` waits for. -/
inductive BrokerCall where
  | now
  | getCache
  | setCache (entry : CachedStatus)
  /-- The request for the matrix of a participant. -/
  | fetch (pacticipant : String)

/-- What a call answers. -/
abbrev BrokerCall.Ans : BrokerCall → Type
  | .now => ℚ
  | .getCache => Option CachedStatus
  | .setCache _ => Unit
  | .fetch _ => MatrixAnswer

/-- An asynchronous function of the service; a request that fails is an answer. -/
abbrev StatusProgram (α : Type) : Type := Prog BrokerCall BrokerCall.Ans Empty α

/-! ## The programs -/

/-- `Date.now()`. -/
def dateNow : StatusProgram ℚ := Prog.await BrokerCall.now

/-- The module variable `cache`, read. -/
def readCache : StatusProgram (Option CachedStatus) := Prog.await BrokerCall.getCache

/-- The module variable `cache`, assigned. -/
def writeCache (entry : CachedStatus) : StatusProgram Unit :=
  Prog.await (BrokerCall.setCache entry)

/-- The matrix of one participant. -/
def fetchMatrix (pacticipant : String) : StatusProgram MatrixAnswer :=
  Prog.await (BrokerCall.fetch pacticipant)

/-- The loop over the participants. -/
def readMatrices : List String → Bool × List ContractRow → StatusProgram (Bool × List ContractRow)
  | [], state => return state
  | pacticipant :: rest, state => do
      let answer ← fetchMatrix pacticipant
      readMatrices rest (takeAnswer state answer)

/-- The requests of `readBroker`, one by one: `follows_askBroker` says that it returns the
`readBroker` of what was answered. -/
def askBroker (env : Environment) : StatusProgram ContractStatus := do
  let checkedAt ← dateNow
  let state ← readMatrices pacticipants (true, [])
  return statusOf env checkedAt state

/-- Asks the broker and stores what it said. -/
def refresh (env : Environment) (now : ℚ) : StatusProgram ContractStatus := do
  let value ← askBroker env
  writeCache { cachedAt := now, value := value }
  return value

/-- `ContractStatusService.status`. -/
def status (env : Environment) : StatusProgram ContractStatus := do
  let now ← dateNow
  let cache ← readCache
  match cache with
  | some entry =>
      if now - entry.cachedAt < contractTtlMs then return entry.value
      else refresh env now
  | none => refresh env now

/-! ## The calls -/

/-- The clock, the cache, and what the broker would say of each participant. -/
structure BrokerSide where
  now : ℚ
  cache : Option CachedStatus
  matrix : String → Option (List MatrixEntry)

/-- How a request ends. -/
inductive FetchFate where
  | answered
  | notOk
  | rejected

/-- What a request that ends so answers. -/
def FetchFate.answer (rows : Option (List MatrixEntry)) : FetchFate → MatrixAnswer
  | .answered => .body rows
  | .notOk => .notOk
  | .rejected => .rejected

/-- What a call answers, and what it leaves. -/
def brokerAnswer : Pool.Answer FetchFate BrokerSide Empty BrokerCall.Ans := fun fate call s =>
  match call with
  | .now => (.ok s.now, s)
  | .getCache => (.ok s.cache, s)
  | .setCache entry => (.ok (), { s with cache := some entry })
  | .fetch pacticipant => (.ok (fate.answer (s.matrix pacticipant)), s)

/-- What happens besides the calls. -/
inductive MatrixChange where
  | advance (elapsed : { q : ℚ // 0 ≤ q })
  | publish (matrix : String → Option (List MatrixEntry))

/-- What such a change does. -/
def MatrixChange.apply : MatrixChange → BrokerSide → BrokerSide
  | .advance elapsed, s => { s with now := s.now + elapsed.1 }
  | .publish matrix, s => { s with matrix := matrix }

/-- A call of `status` as the log keeps it. -/
abbrev StatusEntry (ι : Type) : Type := Entry ι FetchFate BrokerSide Empty BrokerCall.Ans

/-- Any number of calls of `status` at once. -/
abbrev StatusPool (ι : Type) : Type :=
  Pool FetchFate BrokerSide Empty BrokerCall.Ans fun _ : ι => ContractStatus

variable {ι : Type}

/-- Calls of `status` before anything is cached. -/
def StatusPool.start (env : Environment) (ι : Type) (now : ℚ)
    (matrix : String → Option (List MatrixEntry)) : StatusPool ι :=
  Pool.start (fun _ => status env) { now := now, cache := none, matrix := matrix }

/-- One step of one call, or a change outside. -/
def StatusPool.next [DecidableEq ι] (pool : StatusPool ι) (move : Move ι FetchFate MatrixChange) :
    StatusPool ι :=
  Pool.next brokerAnswer MatrixChange.apply pool move

/-! ## What a call has seen -/

/-- The time at which a call began and at which it asked, the entry that it found, and what
the broker said. -/
structure StatusSeen where
  startedAt : Option ℚ
  checkedAt : Option ℚ
  found : Option CachedStatus
  answers : String → Option MatrixAnswer

/-- A call before it looked at the clock. -/
def StatusSeen.init : StatusSeen where
  startedAt := none
  checkedAt := none
  found := none
  answers _ := none

/-- What a reply tells a call. -/
def StatusSeen.next (seen : StatusSeen) :
    (call : BrokerCall) → Except Empty call.Ans → StatusSeen
  | .now, .ok now =>
      if seen.startedAt = none then { seen with startedAt := some now }
      else { seen with checkedAt := some now }
  | .getCache, .ok cache => { seen with found := cache }
  | .fetch pacticipant, .ok answer =>
      { seen with answers := Function.update seen.answers pacticipant (some answer) }
  | _, _ => seen

/-- The status is what the broker said to this call. -/
def Reads (env : Environment) (seen : StatusSeen) (value : ContractStatus) : Prop :=
  ∃ checkedAt ∈ seen.checkedAt, ∃ fetch : String → MatrixAnswer,
    (∀ p ∈ pacticipants, seen.answers p = some (fetch p)) ∧
      value = readBroker env checkedAt fetch

/-- A call looks at the clock first, and stores what the broker said to it with the time at
which it began. -/
def Stores (env : Environment) (seen : StatusSeen) : BrokerCall → Prop
  | .now => True
  | .getCache | .fetch _ => seen.startedAt ≠ none
  | .setCache entry => seen.startedAt = some entry.cachedAt ∧ Reads env seen entry.value

/-- What a call has seen decides which calls it may make. -/
def statusProtocol (env : Environment) :
    Prog.Protocol BrokerCall BrokerCall.Ans Empty StatusSeen where
  allows := Stores env
  next := StatusSeen.next

/-- An answer is what the broker said, to this call or to the one that stored the entry that
this call found young. -/
def AnswersYoung (env : Environment) (seen : StatusSeen) (result : Except Empty ContractStatus) :
    Prop :=
  ∀ value, result = .ok value → Reads env seen value ∨
    ∃ entry ∈ seen.found, ∃ now ∈ seen.startedAt,
      now - entry.cachedAt < contractTtlMs ∧ value = entry.value

/-! ## What a call does -/

variable {env : Environment}

/-- The loop asks for every participant and takes up every answer in turn. -/
theorem follows_readMatrices {seen : StatusSeen} {started : ℚ}
    (hstarted : seen.startedAt = some started) {names : List String} (hnames : names.Nodup)
    (state : Bool × List ContractRow) :
    Prog.Follows (statusProtocol env)
      (fun seen' result => ∀ state', result = .ok state' → ∃ fetch : String → MatrixAnswer,
        (seen'.startedAt = seen.startedAt ∧ seen'.checkedAt = seen.checkedAt) ∧
          (∀ p, seen'.answers p = if p ∈ names then some (fetch p) else seen.answers p) ∧
          state' = names.foldl (fun state p => takeAnswer state (fetch p)) state)
      (readMatrices names state) seen := by
  induction names generalizing seen state with
  | nil =>
      intro state' hstate
      cases hstate
      exact ⟨fun _ => .rejected, ⟨rfl, rfl⟩, fun p => by simp, rfl⟩
  | cons name names ih =>
      obtain ⟨hnew, hrest⟩ := List.nodup_cons.mp hnames
      have hallow : Stores env seen (.fetch name) := by
        rw [Stores, hstarted]
        exact Option.some_ne_none _
      refine Prog.follows_await_bind hallow (fun answer => ?_) fun e => e.elim
      have hlater : (StatusSeen.next seen (.fetch name) (.ok answer)).startedAt = some started :=
        hstarted
      refine (ih hlater hrest (takeAnswer state answer)).mono ?_
      intro seen' result hpost state' hstate
      obtain ⟨fetch, hsame, hanswers, hfold⟩ := hpost state' hstate
      refine ⟨Function.update fetch name answer, hsame, fun p => ?_, ?_⟩
      · rw [hanswers p]
        by_cases hp : p = name
        · subst hp
          simp [hnew, StatusSeen.next]
        · simp [hp, StatusSeen.next]
      · rw [hfold, List.foldl_cons, Function.update_self]
        refine List.foldl_ext _ _ _ fun state p hp => ?_
        rw [Function.update_of_ne fun heq : p = name => hnew (heq ▸ hp)]

theorem follows_askBroker {seen : StatusSeen} {now : ℚ} (hstarted : seen.startedAt = some now) :
    Prog.Follows (statusProtocol env)
      (fun seen' result => ∀ value, result = .ok value →
        seen'.startedAt = some now ∧ Reads env seen' value) (askBroker env) seen := by
  refine Prog.follows_await_bind trivial (fun checkedAt => ?_) fun e => e.elim
  have hseen : (statusProtocol env).next seen .now (.ok checkedAt) =
      { seen with checkedAt := some checkedAt } := by
    simp [statusProtocol, StatusSeen.next, hstarted]
  have hlater : ({ seen with checkedAt := some checkedAt } : StatusSeen).startedAt = some now :=
    hstarted
  rw [hseen]
  refine Prog.follows_bind _ (follows_readMatrices hlater (by decide) (true, [])) ?_
    fun e => e.elim
  intro state seen' hpost value hvalue
  obtain ⟨fetch, ⟨hstart, hcheck⟩, hanswers, rfl⟩ := hpost state rfl
  cases hvalue
  refine ⟨hstart.trans hstarted, checkedAt, hcheck, fetch, fun p hp => ?_, rfl⟩
  rw [hanswers p, if_pos hp]

theorem follows_refresh {seen : StatusSeen} {now : ℚ} (hstarted : seen.startedAt = some now) :
    Prog.Follows (statusProtocol env) (AnswersYoung env) (refresh env now) seen := by
  refine Prog.follows_bind _ (follows_askBroker hstarted) ?_ fun e => e.elim
  intro value seen' hpost
  obtain ⟨hstart, hreads⟩ := hpost value rfl
  refine Prog.follows_await_bind ⟨hstart, hreads⟩ (fun _ => ?_) fun e => e.elim
  intro answer hanswer
  cases hanswer
  exact .inl hreads

/-- Every call keeps to its protocol. -/
theorem follows_status (env : Environment) :
    Prog.Follows (statusProtocol env) (AnswersYoung env) (status env) StatusSeen.init := by
  refine Prog.follows_await_bind trivial (fun now => ?_) fun e => e.elim
  refine Prog.follows_await_bind (Option.some_ne_none now) (fun cache => ?_) fun e => e.elim
  cases cache with
  | none => exact follows_refresh rfl
  | some entry =>
      dsimp only
      split
      · rename_i hyoung
        intro value hvalue
        cases hvalue
        exact .inr ⟨entry, rfl, now, rfl, hyoung, rfl⟩
      · exact follows_refresh rfl

/-! ## Reading the log -/

/-- What the broker said to a call. -/
def said : StatusEntry ι → Option (String × MatrixAnswer)
  | { op := .fetch pacticipant, reply := .ok answer, .. } => some (pacticipant, answer)
  | _ => none

/-- The first call of a thread, and its time. -/
def Began (i : ι) (log : List (StatusEntry ι)) (started : ℚ) : Prop :=
  ∃ newer first older, log = newer ++ first :: older ∧ first.thread = i ∧
    (∀ o ∈ older, o.thread ≠ i) ∧ first.before.now = started

/-- The entry was stored by a call of the log. -/
def StoredIn (log : List (StatusEntry ι)) (entry : CachedStatus) : Prop :=
  ∃ newer store older, log = newer ++ store :: older ∧ store.op = .setCache entry

theorem Began.cons {i : ι} {log : List (StatusEntry ι)} {started : ℚ}
    (h : Began i log started) (e : StatusEntry ι) : Began i (e :: log) started := by
  obtain ⟨newer, first, older, rfl, hrest⟩ := h
  exact ⟨e :: newer, first, older, rfl, hrest⟩

theorem StoredIn.cons {log : List (StatusEntry ι)} {entry : CachedStatus}
    (h : StoredIn log entry) (e : StatusEntry ι) : StoredIn (e :: log) entry := by
  obtain ⟨newer, store, older, rfl, hstore⟩ := h
  exact ⟨e :: newer, store, older, rfl, hstore⟩

/-- The state by the log: the clock is past every call, and the entry was stored. -/
structure BrokerKept (log : List (StatusEntry ι)) (s : BrokerSide) : Prop where
  past : ∀ e ∈ log, e.before.now ≤ s.now
  stored : ∀ entry ∈ s.cache, StoredIn log entry

theorem brokerAnswer_now (fate : FetchFate) (call : BrokerCall) (s : BrokerSide) :
    (brokerAnswer fate call s).2.now = s.now := by
  cases call <;> rfl

theorem BrokerKept.change {log : List (StatusEntry ι)} {s : BrokerSide} (h : BrokerKept log s)
    (change : MatrixChange) : BrokerKept log (change.apply s) := by
  cases change with
  | advance elapsed =>
      exact ⟨fun e he => (h.past e he).trans (le_add_of_nonneg_right elapsed.2), h.stored⟩
  | publish _ => exact ⟨h.past, h.stored⟩

theorem BrokerKept.called {log : List (StatusEntry ι)} {s : BrokerSide} (h : BrokerKept log s)
    {e : StatusEntry ι} (hbefore : e.before = s) :
    BrokerKept (e :: log) (brokerAnswer e.fate e.op s).2 where
  past o ho := by
    rw [brokerAnswer_now]
    rcases List.mem_cons.mp ho with rfl | ho
    · rw [hbefore]
    · exact h.past o ho
  stored entry hentry := by
    cases hop : e.op with
    | setCache entry' =>
        rw [hop] at hentry
        obtain rfl := Option.some.inj hentry
        exact ⟨[], e, log, rfl, hop⟩
    | now | getCache | fetch _ =>
        rw [hop] at hentry
        exact (h.stored entry hentry).cons e

/-- What a call has seen is in the log. -/
structure Logged (i : ι) (log : List (StatusEntry ι)) (seen : StatusSeen) : Prop where
  silent : seen.startedAt = none → ∀ e ∈ log, e.thread ≠ i
  began : ∀ started ∈ seen.startedAt, Began i log started
  found : ∀ entry ∈ seen.found, StoredIn log entry
  answers : ∀ p answer, seen.answers p = some answer → ∃ e ∈ log, e.thread = i ∧
    said e = some (p, answer) ∧ (∀ rows, answer = .body rows → rows = e.before.matrix p) ∧
      ∀ started ∈ seen.startedAt, started ≤ e.before.now

theorem Logged.other {i : ι} {log : List (StatusEntry ι)} {seen : StatusSeen}
    (h : Logged i log seen) {e : StatusEntry ι} (hne : e.thread ≠ i) :
    Logged i (e :: log) seen where
  silent hnone o ho := by
    rcases List.mem_cons.mp ho with rfl | ho
    · exact hne
    · exact h.silent hnone o ho
  began started hstarted := (h.began started hstarted).cons e
  found entry hentry := (h.found entry hentry).cons e
  answers p answer hanswer := by
    obtain ⟨o, ho, hrest⟩ := h.answers p answer hanswer
    exact ⟨o, List.mem_cons_of_mem e ho, hrest⟩

/-- A call of the thread adds what its reply says. -/
theorem Logged.called {i : ι} {log : List (StatusEntry ι)} {seen : StatusSeen}
    (h : Logged i log seen) {e : StatusEntry ι} (hthread : e.thread = i)
    (hallowed : Stores env seen e.op) (hkept : BrokerKept log e.before)
    (hreply : e.reply = (brokerAnswer e.fate e.op e.before).1) :
    Logged i (e :: log) (seen.next e.op e.reply) := by
  -- A call that is not the first look at the clock leaves the beginning.
  have hkeep : ∀ {seen' : StatusSeen}, seen'.startedAt = seen.startedAt →
      seen.startedAt ≠ none → (seen'.startedAt = none → ∀ o ∈ e :: log, o.thread ≠ i) ∧
        ∀ started ∈ seen'.startedAt, Began i (e :: log) started := by
    intro seen' hsame hsome
    rw [hsame]
    exact ⟨fun hnone => absurd hnone hsome, fun started hs => (h.began started hs).cons e⟩
  have hpast : ∀ started ∈ seen.startedAt, started ≤ e.before.now := by
    intro started hs
    obtain ⟨newer, first, older, rfl, _, _, rfl⟩ := h.began started hs
    exact hkept.past first (List.mem_append_right _ List.mem_cons_self)
  have holder : ∀ p answer, seen.answers p = some answer → ∃ o ∈ e :: log, o.thread = i ∧
      said o = some (p, answer) ∧ (∀ rows, answer = .body rows → rows = o.before.matrix p) ∧
        ∀ started ∈ seen.startedAt, started ≤ o.before.now := by
    intro p answer hanswer
    obtain ⟨o, ho, hrest⟩ := h.answers p answer hanswer
    exact ⟨o, List.mem_cons_of_mem e ho, hrest⟩
  obtain ⟨thread, op, fate, reply, before⟩ := e
  dsimp only at hreply
  subst hreply
  cases op with
  | now =>
      simp only [brokerAnswer, StatusSeen.next]
      split
      · rename_i hnone
        exact {
          silent := fun hsome => by cases hsome
          began := fun started hs => by
            obtain rfl := Option.some.inj hs
            exact ⟨[], _, log, rfl, hthread, h.silent hnone, rfl⟩
          found := fun entry hentry => (h.found entry hentry).cons _
          answers := fun p answer hanswer => by
            obtain ⟨o, ho, hsaid, _⟩ := h.answers p answer hanswer
            exact absurd hsaid (h.silent hnone o ho) }
      · rename_i hsome
        obtain ⟨hsilent, hbegan⟩ := hkeep rfl hsome
        exact ⟨hsilent, hbegan, fun entry hentry => (h.found entry hentry).cons _, holder⟩
  | getCache =>
      obtain ⟨hsilent, hbegan⟩ := hkeep rfl hallowed
      exact ⟨hsilent, hbegan, fun entry hentry => (hkept.stored entry hentry).cons _, holder⟩
  | setCache entry =>
      obtain ⟨hsilent, hbegan⟩ := hkeep rfl (by rw [hallowed.1]; exact Option.some_ne_none _)
      exact ⟨hsilent, hbegan, fun entry hentry => (h.found entry hentry).cons _, holder⟩
  | fetch pacticipant =>
      obtain ⟨hsilent, hbegan⟩ := hkeep rfl hallowed
      refine ⟨hsilent, hbegan, fun entry hentry => (h.found entry hentry).cons _, ?_⟩
      intro p answer hanswer
      by_cases hp : p = pacticipant
      · subst hp
        simp only [brokerAnswer, StatusSeen.next, Function.update_self,
          Option.some.injEq] at hanswer
        refine ⟨_, List.mem_cons_self, hthread, congrArg (fun a => some (p, a)) hanswer, ?_,
          hpast⟩
        rintro rows rfl
        cases fate with
        | answered => exact (MatrixAnswer.body.inj hanswer).symm
        | notOk | rejected => cases hanswer
      · simp only [brokerAnswer, StatusSeen.next, Function.update_of_ne hp] at hanswer
        exact holder p answer hanswer

/-- The status is made of what the broker said to one call since a time: the rows that it had
then, or that the request failed. -/
def SaidSince (env : Environment) (log : List (StatusEntry ι)) (since : ℚ)
    (value : ContractStatus) : Prop :=
  ∃ j checkedAt, ∃ fetch : String → MatrixAnswer, value = readBroker env checkedAt fetch ∧
    ∀ p ∈ pacticipants, ∃ e ∈ log, e.thread = j ∧ said e = some (p, fetch p) ∧
      (∀ rows, fetch p = .body rows → rows = e.before.matrix p) ∧ since ≤ e.before.now

theorem SaidSince.newer {log : List (StatusEntry ι)} {since : ℚ} {value : ContractStatus}
    (h : SaidSince env log since value) (newer : List (StatusEntry ι)) :
    SaidSince env (newer ++ log) since value := by
  obtain ⟨j, checkedAt, fetch, hvalue, hsaid⟩ := h
  refine ⟨j, checkedAt, fetch, hvalue, fun p hp => ?_⟩
  obtain ⟨e, he, hrest⟩ := hsaid p hp
  exact ⟨e, List.mem_append_right newer he, hrest⟩

/-- What a call has read, the broker said after the call began. -/
theorem Logged.reads {i : ι} {log : List (StatusEntry ι)} {seen : StatusSeen}
    (h : Logged i log seen) {value : ContractStatus} (hreads : Reads env seen value) :
    ∃ started, seen.startedAt = some started ∧ SaidSince env log started value := by
  obtain ⟨checkedAt, _, fetch, hanswers, hvalue⟩ := hreads
  cases hstarted : seen.startedAt with
  | none =>
      obtain ⟨e, he, hthread, _⟩ := h.answers "switch-service" _
        (hanswers "switch-service" (by decide))
      exact absurd hthread (h.silent hstarted e he)
  | some started =>
      refine ⟨started, rfl, i, checkedAt, fetch, hvalue, fun p hp => ?_⟩
      obtain ⟨e, he, hthread, hsaid, hrows, hsince⟩ := h.answers p _ (hanswers p hp)
      exact ⟨e, he, hthread, hsaid, hrows, hsince started hstarted⟩

section

variable [DecidableEq ι]

/-- What a thread has seen by the log. -/
def seenOf (env : Environment) (i : ι) (log : List (StatusEntry ι)) : StatusSeen :=
  Pool.seen (fun _ => statusProtocol env) (fun _ => StatusSeen.init) i log

theorem logged_seenOf (i : ι) {log : List (StatusEntry ι)}
    (hlawful : Pool.Lawful (fun _ => statusProtocol env) (fun _ => StatusSeen.init) log)
    (hanswered : Pool.Answered brokerAnswer log) (hfound : Pool.Found BrokerKept log) :
    Logged i log (seenOf env i log) := by
  induction log with
  | nil =>
      constructor
      · intro _ e he
        cases he
      · intro _ hstarted
        cases hstarted
      · intro _ hentry
        cases hentry
      · intro _ _ hanswer
        cases hanswer
  | cons e log ih =>
      have hlog := ih hlawful.2 (fun o ho => hanswered o (List.mem_cons_of_mem e ho)) hfound.2
      by_cases hi : e.thread = i
      · have hallowed := hlawful.1
        rw [hi] at hallowed
        rw [seenOf, Pool.seen_self hi]
        exact hlog.called hi hallowed hfound.1 (hanswered e List.mem_cons_self)
      · rw [seenOf, Pool.seen_of_ne hi]
        exact hlog.other hi

/-- However many calls of `status` run at once, in any order of their steps, while the matrix
of the broker changes and requests fail: what a call answers is made of what the broker said
to one call less than ten seconds before this call began, or later. -/
theorem status_fresh (env : Environment) (now : ℚ)
    (matrix : String → Option (List MatrixEntry)) (moves : List (Move ι FetchFate MatrixChange))
    {i : ι} {value : ContractStatus} (hret : (runFrom StatusPool.next
      (StatusPool.start env ι now matrix) moves).threads i = .ret value) :
    ∃ started since, Began i (runFrom StatusPool.next
        (StatusPool.start env ι now matrix) moves).log started ∧
      started - contractTtlMs < since ∧ SaidSince env (runFrom StatusPool.next
        (StatusPool.start env ι now matrix) moves).log since value := by
  have horderly : Pool.Orderly brokerAnswer (fun _ => statusProtocol env)
      (fun _ => StatusSeen.init) (fun _ => AnswersYoung env)
      (runFrom StatusPool.next (StatusPool.start env ι now matrix) moves) :=
    Pool.orderly_run _ (fun _ => follows_status env) moves
  have hfound : Pool.Found BrokerKept
      (runFrom StatusPool.next (StatusPool.start env ι now matrix) moves).log :=
    (Pool.found_run brokerAnswer MatrixChange.apply (StatusPool.start env ι now matrix)
      (fun _ _ change h => h.change change) (fun _ _ _ _ h => h.called rfl)
      ⟨(fun _ he => by cases he), fun _ hentry => by cases hentry⟩ trivial moves).2
  have hyoung := horderly.ends.returned hret
  obtain ⟨_, hlawful, hanswered⟩ := horderly
  generalize hlog : (runFrom StatusPool.next (StatusPool.start env ι now matrix) moves).log = log
    at hyoung hlawful hanswered hfound
  have hlogged := logged_seenOf i hlawful hanswered hfound
  rcases hyoung value rfl with hreads | ⟨entry, hentry, started, hstarted, hage, rfl⟩
  · obtain ⟨started, hstarted, hsaid⟩ := hlogged.reads hreads
    refine ⟨started, started, hlogged.began started hstarted, ?_, hsaid⟩
    exact sub_lt_self started (by norm_num [contractTtlMs])
  · -- The entry was stored by a call that had read it.
    obtain ⟨newer, store, older, rfl, hstore⟩ := hlogged.found entry hentry
    have hallowed := (hlawful.older newer).1
    rw [hstore] at hallowed
    obtain ⟨hbegan, hreads⟩ := hallowed
    have hstorer := logged_seenOf store.thread (hlawful.older newer).2
      (fun e he => hanswered e (List.mem_append_right newer (List.mem_cons_of_mem store he)))
      (hfound.older newer).2
    obtain ⟨since, hsince, hsaid⟩ := hstorer.reads hreads
    obtain rfl : since = entry.cachedAt := Option.some.inj (hsince.symm.trans hbegan)
    refine ⟨started, entry.cachedAt, hlogged.began started hstarted, by linarith, ?_⟩
    have hlater := hsaid.newer (newer ++ [store])
    rwa [List.append_assoc, List.singleton_append] at hlater

end

/-- The next calls of one thread, with every request answered. -/
def statusCalls (i n : ℕ) : List (Move ℕ FetchFate MatrixChange) :=
  List.replicate n (.step i .answered)

/-- A call asks the broker for nine seconds; then a second one finds the entry. -/
def cachedMoves : List (Move ℕ FetchFate MatrixChange) :=
  statusCalls 0 4 ++ [.other (.advance ⟨9000, by norm_num⟩)] ++ statusCalls 0 2 ++
    statusCalls 1 2

/-- What the two calls have come to. -/
def cachedPool : StatusPool ℕ :=
  runFrom StatusPool.next (StatusPool.start (fun _ => none) ℕ 0
    fun _ => some [verification "1" true]) cachedMoves

/-- The theorem at the second call. -/
theorem status_fresh_cached : ∃ value, cachedPool.threads 1 = .ret value ∧
    ∃ started since, Began 1 cachedPool.log started ∧ started - contractTtlMs < since ∧
      SaidSince (fun _ => none) cachedPool.log since value := by
  have hended : (cachedPool.threads 1).nextCall.isNone = true := by decide +kernel
  cases hthread : cachedPool.threads 1 with
  | ret value =>
      exact ⟨value, rfl, status_fresh (fun _ => none) 0 _ cachedMoves hthread⟩
  | throw e => exact e.elim
  | call op k =>
      rw [hthread] at hended
      cases hended

end SwitchService.Runs
