import SwitchService.Runs.Concurrent
import SwitchService.Services.Admission
import SwitchService.Services.DecisionLog

set_option autoImplicit false

/-!
# Runs: the decision log

Every route call inserts its decision once, under an identifier of its own, before it
answers; a failed insert is only logged.  In every run the table holds the decisions whose
insert was carried out, each as it is answered, and what the console shows is counted from
them.
-/

namespace SwitchService.Runs

open SwitchService.Foundation SwitchService.Domain SwitchService.Store
open SwitchService.Repositories SwitchService.Consumer SwitchService.Services

/-- What a call inserts into the log. -/
def inserted : Call → Option (RoutingDecision × String)
  | .insertDecision decision transactionId => some (decision, transactionId)
  | _ => none

/-- The transaction that a task routes. -/
def Task.transactionId : Task → Option String
  | .route _ _ request => some request.transactionId
  | .deliver .. => none

/-- The decision that a task answers. -/
def Task.decision : (task : Task) → task.Result → Option RoutingDecision
  | .route .., decision => some decision
  | .deliver .., _ => none

/-- The decision has the identifier of the task, and is for its transaction. -/
def Task.Own (task : Task) (p : RoutingDecision × String) : Prop :=
  task.decisionId = some p.1.decisionId ∧ task.transactionId = some p.2

/-- No two route calls draw the same identifier. -/
def DistinctIds {ι : Type} (tasks : ι → Task) : Prop :=
  ∀ i j id, (tasks i).decisionId = some id → (tasks j).decisionId = some id → i = j

/-- One insert of a decision of the task. -/
def insertProtocol (task : Task) :
    Prog.Protocol Call Call.Ans Failure (Option (RoutingDecision × String)) where
  allows kept call := ∀ p ∈ inserted call, kept = none ∧ task.Own p
  next kept call _ := (inserted call).or kept

/-- A task has inserted the decision that it answers, and nothing where it fails. -/
def InsertsAnswer (task : Task) (kept : Option (RoutingDecision × String)) :
    Except Failure task.Result → Prop
  | .ok result => kept.map Prod.fst = task.decision result
  | .error _ => kept = none

/-! ## The tasks -/

section

variable {config : Config} {task : Task} {α : Type}
  {kept : Option (RoutingDecision × String)}

/-- The program inserts nothing. -/
abbrev InsertsNothing (task : Task) (kept : Option (RoutingDecision × String))
    (p : Program α) : Prop :=
  Prog.Follows (insertProtocol task) (fun kept' _ => kept' = kept) p kept

theorem allows_of_none {call : Call} (h : inserted call = none) :
    (insertProtocol task).allows kept call := by
  intro p hp
  rw [h] at hp
  cases hp

theorem next_of_none {call : Call} (h : inserted call = none)
    (reply : Except Failure call.Ans) : (insertProtocol task).next kept call reply = kept := by
  simp [insertProtocol, h]

theorem insertsNothing_await {call : Call} (h : inserted call = none) :
    InsertsNothing task kept (Prog.await call : Program call.Ans) :=
  Prog.follows_await (allows_of_none h) (fun _ => next_of_none h _) fun _ => next_of_none h _

theorem insertsNothing_bind {β : Type} {p : Program α} {f : α → Program β}
    (hp : InsertsNothing task kept p) (hf : ∀ a, InsertsNothing task kept (f a)) :
    InsertsNothing task kept (p >>= f) := by
  refine Prog.follows_bind _ hp ?_ fun _ _ h => h
  rintro a _ rfl
  exact hf a

theorem insertsNothing_tryCatch {p : Program α} {handler : Failure → Program α}
    (hp : InsertsNothing task kept p) (hhandler : ∀ e, InsertsNothing task kept (handler e)) :
    InsertsNothing task kept (p.tryCatch handler) := by
  refine Prog.follows_tryCatch _ hp (fun _ _ h => h) ?_
  rintro e _ rfl
  exact hhandler e

theorem inserted_of_looksUp {call : Call} (h : looksUp call = true) : inserted call = none := by
  cases call with
  | now | getCache | setCache _ | queryChannels _ => rfl
  | _ => cases h

theorem insertsNothing_listChannelsCached (now : ℚ) (corridor : String) :
    InsertsNothing task kept (listChannelsCached now corridor) :=
  follows_listChannelsCached now corridor (fun _ h => allows_of_none (inserted_of_looksUp h))
    fun _ _ h _ => next_of_none (inserted_of_looksUp h) _

theorem insertsNothing_readMetrics (ids : List String) (now : ℚ) :
    InsertsNothing task kept (withBudget (readMetrics ids now)) := by
  unfold withBudget
  refine insertsNothing_tryCatch (insertsNothing_bind ?_ fun _ => rfl) fun _ => rfl
  exact insertsNothing_bind (insertsNothing_await rfl) fun stats =>
    insertsNothing_bind (insertsNothing_await rfl) fun _ => rfl

theorem insertsNothing_refreshBreakers (metrics : Metrics) (now : ℚ) (ids : List String)
    (next : String → Option BreakerSnapshot) :
    InsertsNothing task kept (refreshBreakers config.routing metrics now ids next) := by
  induction ids generalizing next with
  | nil => exact rfl
  | cons id ids ih =>
      unfold refreshBreakers
      refine insertsNothing_bind ?_ fun _ => ih _
      unfold writeRefreshed
      split
      · exact insertsNothing_tryCatch (insertsNothing_await rfl) fun _ => rfl
      · exact rfl

theorem insertsNothing_chooseChannel (candidates : List Candidate) (rng : Rng) :
    InsertsNothing task kept (chooseChannel config.routing candidates rng) := by
  unfold chooseChannel
  split
  · exact rfl
  · split
    · refine insertsNothing_bind (insertsNothing_await rfl) fun gotSlot => ?_
      split
      · exact rfl
      · dsimp only
        split
        · exact rfl
        · exact rfl
    · exact rfl

theorem insertsNothing_writeMoved (channelId : String) (current next : BreakerSnapshot) :
    InsertsNothing task kept (writeMoved channelId current next) := by
  unfold writeMoved
  split
  · exact rfl
  · exact insertsNothing_await rfl

theorem insertsNothing_isKnown (lookup : Lookup) (channelId : String) :
    InsertsNothing task kept (isKnown lookup.known channelId) := by
  unfold isKnown
  split
  · rename_i program hprogram
    refine ((lookup.looksUp program hprogram channelId).simulate
      (R := fun _ kept' => kept' = kept) ?_ ?_ rfl).mono fun _ _ ⟨_, hkept, _⟩ => hkept
    · exact fun _ _ op _ hop => allows_of_none (inserted_of_looksUp hop)
    · rintro _ _ op reply rfl hop
      exact next_of_none (inserted_of_looksUp hop) reply
  · exact rfl

theorem insertsNothing_applyToBreaker (channelId : String) (success : Bool) (now : ℚ) :
    InsertsNothing task kept (applyToBreaker config.routing channelId success now) := by
  unfold applyToBreaker
  refine insertsNothing_bind (insertsNothing_await rfl) fun current => ?_
  split
  · exact insertsNothing_bind (insertsNothing_writeMoved _ _ _) fun _ =>
      insertsNothing_bind (insertsNothing_await rfl) fun _ => rfl
  · exact insertsNothing_bind (insertsNothing_await rfl) fun stats =>
      insertsNothing_bind (insertsNothing_writeMoved _ _ _) fun _ => rfl

theorem insertsNothing_claimEvent (event : TxnOutcomeEvent) :
    InsertsNothing task kept (claimEvent config.routing event) := by
  unfold claimEvent
  refine insertsNothing_bind (insertsNothing_await rfl) fun claimed => ?_
  split
  · exact insertsNothing_bind (insertsNothing_await rfl) fun now =>
      insertsNothing_bind (insertsNothing_await rfl) fun _ =>
        insertsNothing_bind (insertsNothing_applyToBreaker _ _ _) fun _ => rfl
  · exact rfl

theorem insertsNothing_handle (lookup : Lookup) (message : Json) :
    InsertsNothing task kept (handle config.routing lookup.known message) := by
  unfold handle
  split
  · exact rfl
  · unfold handleEvent
    split
    · exact rfl
    · refine insertsNothing_bind (insertsNothing_isKnown lookup _) fun known => ?_
      split
      · exact insertsNothing_claimEvent _
      · exact rfl

/-- A decision is inserted once, whatever the database says, and then answered. -/
theorem follows_persist_answer {rng : Rng} {uuid : String} {request : RouteRequest}
    {decision : RoutingDecision} (hid : decision.decisionId = "dec_" ++ uuid) :
    Prog.Follows (insertProtocol (.route rng uuid request))
      (InsertsAnswer (.route rng uuid request))
      (persist decision request.transactionId >>= fun _ => Prog.ret decision) none := by
  refine Prog.follows_bind (fun kept result =>
    kept = some (decision, request.transactionId) ∧ result = .ok ()) ?_ ?_ ?_
  · refine Prog.follows_tryCatch (fun kept _ => kept = some (decision, request.transactionId)) ?_
      (fun _ _ h => ⟨h, rfl⟩) fun _ _ h => ⟨h, rfl⟩
    refine Prog.follows_await ?_ (fun _ => rfl) fun _ => rfl
    rintro p hp
    obtain rfl := Option.some.inj hp
    exact ⟨rfl, congrArg some hid.symm, rfl⟩
  · rintro _ kept ⟨rfl, _⟩
    exact rfl
  · rintro _ kept ⟨_, hresult⟩
    cases hresult

theorem follows_decideWith_insert (localeCompare : String → String → Ordering) (rng : Rng)
    (uuid : String) (request : RouteRequest) (now : ℚ) (channels : List Channel)
    (metrics : Metrics) :
    Prog.Follows (insertProtocol (.route rng uuid request))
      (InsertsAnswer (.route rng uuid request))
      (decideWith config.routing localeCompare rng uuid request now channels metrics) none := by
  unfold decideWith
  refine Prog.follows_bind _ (insertsNothing_refreshBreakers metrics now _ _) ?_ fun _ _ h => h
  rintro breakers _ rfl
  refine Prog.follows_bind _ (insertsNothing_chooseChannel _ rng) ?_ fun _ _ h => h
  rintro ⟨published, selection⟩ _ rfl
  refine Prog.follows_bind _ (insertsNothing_await rfl) ?_ fun _ _ h => h
  rintro evaluatedAt _ rfl
  exact follows_persist_answer rfl

theorem follows_degradedDecision_insert (rng : Rng) (uuid : String) (channels : List Channel)
    (request : RouteRequest) (now : ℚ) :
    Prog.Follows (insertProtocol (.route rng uuid request))
      (InsertsAnswer (.route rng uuid request))
      (degradedDecision config.routing uuid channels request now) none := by
  unfold degradedDecision
  split
  · exact rfl
  · exact follows_persist_answer rfl

/-- A task inserts what it answers, whatever the calls answer. -/
theorem follows_insert (localeCompare : String → String → Ordering) (task : Task) :
    Prog.Follows (insertProtocol task) (InsertsAnswer task)
      (task.program config localeCompare) none := by
  cases task with
  | deliver lookup message =>
      refine (insertsNothing_handle lookup message).mono ?_
      rintro _ (failure | result) rfl
      · exact rfl
      · exact rfl
  | route rng uuid request =>
      refine Prog.follows_bind _ (insertsNothing_await rfl) ?_ fun _ _ h => h
      rintro now _ rfl
      refine Prog.follows_bind _ (insertsNothing_listChannelsCached now request.corridor) ?_
        fun _ _ h => h
      rintro all _ rfl
      unfold routeAmong
      dsimp only
      split
      · exact rfl
      · refine Prog.follows_bind _ (insertsNothing_readMetrics _ now) ?_ fun _ _ h => h
        rintro metrics _ rfl
        cases metrics with
        | none => exact follows_degradedDecision_insert rng uuid _ request now
        | some metrics =>
            exact follows_decideWith_insert localeCompare rng uuid request now _ metrics

end

/-! ## The inserts of a run -/

/-- The inserts of a log that were carried out, newest first. -/
def insertsOf {ι : Type} (log : List (TaskEntry ι)) : List (RoutingDecision × String) :=
  log.filterMap fun e => if e.fate.carriedOut then inserted e.op else none

section

variable {ι : Type} {config : Config} {tasks : ι → Task} {i : ι} {e : TaskEntry ι}
  {log : List (TaskEntry ι)} {p : RoutingDecision × String}

theorem insertsOf_cons (e : TaskEntry ι) (log : List (TaskEntry ι)) :
    insertsOf (e :: log) =
      (if e.fate.carriedOut then inserted e.op else none).toList ++ insertsOf log := by
  unfold insertsOf
  rw [List.filterMap_cons]
  split
  · rename_i hnone
    rw [hnone]
    rfl
  · rename_i p hsome
    rw [hsome]
    rfl

theorem mem_insertsOf :
    p ∈ insertsOf log ↔ ∃ e ∈ log, e.fate.carriedOut = true ∧ inserted e.op = some p := by
  unfold insertsOf
  rw [List.mem_filterMap]
  constructor
  · rintro ⟨e, he, hp⟩
    split_ifs at hp with hfate
    exact ⟨e, he, hfate, hp⟩
  · rintro ⟨e, he, hfate, hp⟩
    exact ⟨e, he, by rw [if_pos hfate, hp]⟩

theorem perform_decisions (call : Call) (w : World) :
    (Store.perform config call w).2.decisions = (inserted call).toList ++ w.decisions := by
  cases call with
  | claim | record | readWindow | readWindows | takeProbeSlot =>
      simp only [Store.perform]
      split <;> rfl
  | _ => rfl

theorem inserted_isAwaited {call : Call} (h : call.isAwaited = false) : inserted call = none := by
  cases call with
  | now | getCache | setCache _ => rfl
  | _ => cases h

/-- A call inserts its decision where it is carried out. -/
theorem answer_decisions (fate : Fate) (call : Call) (w : World) :
    (answer config fate call w).2.decisions =
      (if fate.carriedOut then inserted call else none).toList ++ w.decisions := by
  rw [answer_state]
  cases hfate : fate.carriedOut with
  | true => simp [perform_decisions]
  | false =>
      cases hawaited : call.isAwaited with
      | true => simp
      | false => simp [perform_decisions, inserted_isAwaited hawaited]

theorem change_decisions (change : Change) (w : World) :
    (change.apply w).decisions = w.decisions := by
  cases change with
  | advance _ | edit _ | clearCache => rfl

variable [DecidableEq ι]

/-- What a task has inserted by the log. -/
def insertedBy (tasks : ι → Task) (i : ι) (log : List (TaskEntry ι)) :
    Option (RoutingDecision × String) :=
  Pool.seen (fun i => insertProtocol (tasks i)) (fun _ => none) i log

/-- Every call keeps to the protocol of its task. -/
abbrev InsertLawful (tasks : ι → Task) (log : List (TaskEntry ι)) : Prop :=
  Pool.Lawful (fun i => insertProtocol (tasks i)) (fun _ => none) log

theorem insertedBy_self (h : e.thread = i) :
    insertedBy tasks i (e :: log) = (inserted e.op).or (insertedBy tasks i log) :=
  Pool.seen_self h log

theorem insertedBy_of_ne (h : e.thread ≠ i) :
    insertedBy tasks i (e :: log) = insertedBy tasks i log := Pool.seen_of_ne h log

theorem exists_insert (h : insertedBy tasks i log = some p) :
    ∃ e ∈ log, e.thread = i ∧ inserted e.op = some p := by
  induction log with
  | nil => cases h
  | cons e log ih =>
      by_cases hi : e.thread = i
      · rw [insertedBy_self hi] at h
        rcases Option.or_eq_some_iff.mp h with hhead | ⟨_, hrest⟩
        · exact ⟨e, List.mem_cons_self, hi, hhead⟩
        · obtain ⟨e', he', hfound⟩ := ih hrest
          exact ⟨e', List.mem_cons_of_mem e he', hfound⟩
      · rw [insertedBy_of_ne hi] at h
        obtain ⟨e', he', hfound⟩ := ih h
        exact ⟨e', List.mem_cons_of_mem e he', hfound⟩

/-- The inserts of a task are of its decision, and of the same. -/
theorem own_insert (h : InsertLawful tasks log) (he : e ∈ log) (hp : inserted e.op = some p) :
    (tasks e.thread).Own p ∧ insertedBy tasks e.thread log = some p := by
  induction log with
  | nil => cases he
  | cons e' log ih =>
      obtain ⟨hallow, holder⟩ := h
      rcases List.mem_cons.mp he with rfl | hmem
      · rw [insertedBy_self rfl, hp]
        exact ⟨(hallow p hp).2, rfl⟩
      · obtain ⟨hown, hkept⟩ := ih holder hmem
        refine ⟨hown, ?_⟩
        by_cases hthread : e'.thread = e.thread
        · rw [insertedBy_self hthread]
          cases hnew : inserted e'.op with
          | none => exact hkept
          | some q =>
              have hnone := (hallow q hnew).1
              change insertedBy tasks e'.thread log = none at hnone
              rw [hthread, hkept] at hnone
              cases hnone
        · rw [insertedBy_of_ne hthread]
          exact hkept

/-- Where the identifiers are distinct, those of the inserts are. -/
theorem nodup_insertsOf (hids : DistinctIds tasks) (h : InsertLawful tasks log) :
    ((insertsOf log).map fun p => p.1.decisionId).Nodup := by
  induction log with
  | nil => exact List.nodup_nil
  | cons e log ih =>
      obtain ⟨hallow, holder⟩ := h
      unfold insertsOf
      rw [List.filterMap_cons]
      split
      · exact ih holder
      · rename_i p hp
        rw [List.map_cons, List.nodup_cons]
        refine ⟨?_, ih holder⟩
        intro hmem
        obtain ⟨q, hq, hid⟩ := List.mem_map.mp hmem
        obtain ⟨e', he', _, hinsert⟩ := mem_insertsOf.mp hq
        have hop : inserted e.op = some p := by
          split_ifs at hp
          exact hp
        obtain ⟨hnone, hown⟩ := hallow p hop
        obtain ⟨hown', hkept⟩ := own_insert holder he' hinsert
        have hthread : e'.thread = e.thread :=
          hids _ _ _ (hid ▸ hown'.1) hown.1
        change insertedBy tasks e.thread log = none at hnone
        rw [← hthread, hkept] at hnone
        cases hnone

/-- The decisions of the state are the inserts of the log. -/
theorem decisions_run (config : Config) (localeCompare : String → String → Ordering)
    (tasks : ι → Task) (w : World) (moves : List (Move ι Fate Change)) :
    (runFrom (TaskPool.next config) (TaskPool.start config localeCompare tasks w)
        moves).shared.decisions =
      insertsOf (runFrom (TaskPool.next config)
        (TaskPool.start config localeCompare tasks w) moves).log ++ w.decisions := by
  refine (Pool.found_run (answer config) Change.apply
    (TaskPool.start config localeCompare tasks w)
    (I := fun log (s : World) => s.decisions = insertsOf log ++ w.decisions) ?_ ?_ rfl trivial
    moves).1
  · intro log s change h
    exact (change_decisions change s).trans h
  · intro pool i fate call h
    rw [answer_decisions, h, ← List.append_assoc]
    exact congrArg (· ++ w.decisions)
      (insertsOf_cons (Pool.entry (answer config) pool i fate call) pool.log).symm

theorem orderly_inserts (config : Config) (localeCompare : String → String → Ordering)
    (tasks : ι → Task) (w : World) (moves : List (Move ι Fate Change)) :
    Pool.Orderly (answer config) (fun i => insertProtocol (tasks i)) (fun _ => none)
      (fun i => InsertsAnswer (tasks i))
      (runFrom (TaskPool.next config) (TaskPool.start config localeCompare tasks w) moves) :=
  Pool.orderly_run w (fun i => follows_insert localeCompare (tasks i)) moves

/-- No decision of the log has the identifier of a task. -/
def NewIds (tasks : ι → Task) (decisions : List (RoutingDecision × String)) : Prop :=
  ∀ p ∈ decisions, ∀ i, (tasks i).decisionId ≠ some p.1.decisionId

/-- The rows of a run: those that were there, then the decisions of the inserts that were
carried out. -/
theorem rows_run (config : Config) (hids : DistinctIds tasks) {w : World}
    (hnew : NewIds tasks w.decisions) (localeCompare : String → String → Ordering)
    (moves : List (Move ι Fate Change)) :
    decisionRows (runFrom (TaskPool.next config)
        (TaskPool.start config localeCompare tasks w) moves).shared.decisions =
      decisionRows w.decisions ++ ((insertsOf (runFrom (TaskPool.next config)
        (TaskPool.start config localeCompare tasks w) moves).log).map
          fun p => rowOf p.1 p.2).reverse := by
  have hlawful := (orderly_inserts config localeCompare tasks w moves).lawful
  rw [decisions_run]
  refine decisionRows_append (nodup_insertsOf hids hlawful) ?_
  intro p hp q hq hid
  obtain ⟨e, he, _, hinsert⟩ := mem_insertsOf.mp hp
  have hown := (own_insert hlawful he hinsert).1
  exact hnew q hq e.thread (hown.1.trans (congrArg some hid))

/-! ## The log of a run -/

/-- A task makes the insert. -/
def Tries (i : ι) (p : RoutingDecision × String) (log : List (TaskEntry ι)) : Prop :=
  ∃ e ∈ log, e.thread = i ∧ inserted e.op = some p

/-- A task makes the insert, and it is carried out. -/
def Inserts (i : ι) (p : RoutingDecision × String) (log : List (TaskEntry ι)) : Prop :=
  ∃ e ∈ log, e.thread = i ∧ inserted e.op = some p ∧ e.fate.carriedOut = true

/-- What the log says of the tasks.  A new row is a decision that a route call has inserted for
its transaction.  A call that has answered a decision has tried to insert it; its row is there
where the insert was carried out, and no other row has its identifier.  A call that has failed
has no row. -/
structure DecisionsLogged (tasks : ι → Task) (before rows : List DecisionRow)
    (pool : TaskPool tasks) : Prop where
  old : ∀ row ∈ before, row ∈ rows
  new : ∀ row ∈ rows, row ∈ before ∨
    ∃ i p, (tasks i).Own p ∧ Inserts i p pool.log ∧ row = rowOf p.1 p.2
  answered : ∀ i result decision, pool.threads i = .ret result →
    (tasks i).decision result = some decision → ∃ transactionId,
      (tasks i).Own (decision, transactionId) ∧
        Tries i (decision, transactionId) pool.log ∧
        (rowOf decision transactionId ∈ rows ↔
          Inserts i (decision, transactionId) pool.log) ∧
        ∀ row ∈ rows, row.id = decision.decisionId → row = rowOf decision transactionId
  failed : ∀ i failure, pool.threads i = .throw failure →
    ∀ row ∈ rows, (tasks i).decisionId ≠ some row.id

section

variable {w : World} {pool : TaskPool tasks} {row : DecisionRow}

/-- The rows after the inserts of a pool. -/
def RowsFrom (w : World) (pool : TaskPool tasks) : List DecisionRow :=
  decisionRows w.decisions ++ ((insertsOf pool.log).map fun p => rowOf p.1 p.2).reverse

theorem mem_rowsFrom (hlawful : InsertLawful tasks pool.log) :
    row ∈ RowsFrom w pool ↔ row ∈ decisionRows w.decisions ∨
      ∃ i p, (tasks i).Own p ∧ Inserts i p pool.log ∧ row = rowOf p.1 p.2 := by
  unfold RowsFrom
  rw [List.mem_append, List.mem_reverse, List.mem_map]
  refine or_congr_right ⟨?_, ?_⟩
  · rintro ⟨p, hp, rfl⟩
    obtain ⟨e, he, hfate, hinsert⟩ := mem_insertsOf.mp hp
    exact ⟨e.thread, p, (own_insert hlawful he hinsert).1, ⟨e, he, rfl, hinsert, hfate⟩, rfl⟩
  · rintro ⟨i, p, _, ⟨e, he, _, hinsert, hfate⟩, rfl⟩
    exact ⟨p, mem_insertsOf.mpr ⟨e, he, hfate, hinsert⟩, rfl⟩

/-- A row under the identifier of a task is of what the task has inserted. -/
theorem row_of_task (hids : DistinctIds tasks) (hnew : NewIds tasks w.decisions)
    (hlawful : InsertLawful tasks pool.log) (hrow : row ∈ RowsFrom w pool)
    (hid : (tasks i).decisionId = some row.id) :
    ∃ p, insertedBy tasks i pool.log = some p ∧ Inserts i p pool.log ∧
      row = rowOf p.1 p.2 := by
  rcases (mem_rowsFrom hlawful).mp hrow with hold | ⟨j, p, hown, hinserts, rfl⟩
  · obtain ⟨q, hq, rfl⟩ := mem_decisionRows hold
    exact absurd hid (hnew q hq i)
  · obtain rfl := hids j i _ hown.1 hid
    obtain ⟨e, he, rfl, hinsert, hfate⟩ := hinserts
    exact ⟨p, (own_insert hlawful he hinsert).2, ⟨e, he, rfl, hinsert, hfate⟩, rfl⟩

end

/-- In every run, whatever the order of the calls and those that fail, the decision log is that
of the route calls. -/
theorem decision_log_exact (config : Config) (localeCompare : String → String → Ordering)
    (tasks : ι → Task) (hids : DistinctIds tasks) {w : World} (hnew : NewIds tasks w.decisions)
    (moves : List (Move ι Fate Change)) {pool : TaskPool tasks}
    (hpool : runFrom (TaskPool.next config) (TaskPool.start config localeCompare tasks w) moves =
      pool) :
    DecisionsLogged tasks (decisionRows w.decisions) (decisionRows pool.shared.decisions)
      pool := by
  have hrows := rows_run config hids hnew localeCompare moves
  have horderly := orderly_inserts config localeCompare tasks w moves
  rw [hpool] at hrows horderly
  change _ = RowsFrom w pool at hrows
  have hlawful := horderly.lawful
  rw [hrows]
  refine ⟨?_, ?_, ?_, ?_⟩
  · exact fun row hrow => (mem_rowsFrom hlawful).mpr (.inl hrow)
  · exact fun row hrow => (mem_rowsFrom hlawful).mp hrow
  · intro i result decision hret hdecision
    have hkept : (insertedBy tasks i pool.log).map Prod.fst = some decision :=
      (horderly.ends.returned hret).trans hdecision
    obtain ⟨⟨named, transactionId⟩, hinserted, rfl⟩ := Option.map_eq_some_iff.mp hkept
    obtain ⟨e, he, rfl, hinsert⟩ := exists_insert hinserted
    have hown := (own_insert hlawful he hinsert).1
    have hsame : ∀ row ∈ RowsFrom w pool, row.id = named.decisionId →
        row = rowOf named transactionId ∧ Inserts e.thread (named, transactionId) pool.log := by
      intro row hrow hid
      obtain ⟨p, hp, hinserts, rfl⟩ := row_of_task hids hnew hlawful hrow
        (hown.1.trans (congrArg some hid.symm))
      obtain rfl := Option.some.inj (hinserted.symm.trans hp)
      exact ⟨rfl, hinserts⟩
    refine ⟨transactionId, hown, ⟨e, he, rfl, hinsert⟩, ⟨?_, ?_⟩, ?_⟩
    · exact fun hrow => (hsame _ hrow rfl).2
    · exact fun hinserts => (mem_rowsFrom hlawful).mpr (.inr ⟨_, _, hown, hinserts, rfl⟩)
    · exact fun row hrow hid => (hsame row hrow hid).1
  · intro i failure hthrow row hrow hid
    obtain ⟨p, hp, _⟩ := row_of_task hids hnew hlawful hrow hid
    have hnone : insertedBy tasks i pool.log = none := horderly.ends.failed hthrow
    rw [hp] at hnone
    cases hnone

/-- Two route calls. -/
def twoRoutes : Bool → Task
  | false => .route (Stream'.const (1 / 2)) "0" anyRequest
  | true => .route (Stream'.const (1 / 2)) "1" anyRequest

theorem distinctIds_twoRoutes : DistinctIds twoRoutes := by
  intro i j id hi hj
  have hsame := hi.trans hj.symm
  cases i <;> cases j <;> first | rfl | exact absurd hsame (by decide)

theorem newIds_fresh : NewIds twoRoutes (World.fresh 1000 seededA).decisions := by
  intro p hp
  cases hp

/-- The first call is answered; then the second, whose insert is refused. -/
def insertRefused : List (Move Bool Fate Change) :=
  List.replicate 8 (.step false .done) ++ List.replicate 5 (.step true .done) ++
    [.step true (.refused (.rejected "timeout"))]

/-- What the two calls have come to. -/
def insertRefusedPool : TaskPool twoRoutes :=
  runFrom (TaskPool.next defaultConfig)
    (TaskPool.start defaultConfig compare twoRoutes (World.fresh 1000 seededA)) insertRefused

/-- The theorem at a refused insert: the log has the first decision only. -/
theorem decision_log_exact_refused :
    (decisionRows insertRefusedPool.shared.decisions).map (·.id) = ["dec_0"] ∧
      DecisionsLogged twoRoutes [] (decisionRows insertRefusedPool.shared.decisions)
        insertRefusedPool :=
  ⟨by decide +kernel, decision_log_exact defaultConfig compare twoRoutes distinctIds_twoRoutes
    newIds_fresh insertRefused rfl⟩

/-- What the console shows of a run: every insert that was carried out is counted once, in the
line of its channel and strategy. -/
structure SharesShown (before : List DecisionRow) (log : List (TaskEntry ι))
    (answer : DecisionShare) : Prop where
  total : answer.total = before.countP (answer.since ≤ ·.evaluatedAt) +
    (insertsOf log).countP (answer.since ≤ ·.1.evaluatedAt)
  counts : ∀ line ∈ answer.rows, line.count =
    before.countP (DecisionRow.isCounted answer.since line.channelId line.strategy) +
      (insertsOf log).countP fun p =>
        DecisionRow.isCounted answer.since line.channelId line.strategy (rowOf p.1 p.2)
  lines : ∀ i p, Inserts i p log → answer.since ≤ p.1.evaluatedAt →
    ∃ line ∈ answer.rows, line.channelId = p.1.channelId ∧ line.strategy = p.1.strategy
  apart : (answer.rows.map fun line => (line.channelId, line.strategy)).Nodup
  parts : answer.total ≠ 0 → (answer.rows.map (·.share)).sum = 1

omit [DecidableEq ι] in
theorem countP_rowsFrom (w : World) (pool : TaskPool tasks) (counted : DecisionRow → Bool) :
    (RowsFrom w pool).countP counted = (decisionRows w.decisions).countP counted +
      (insertsOf pool.log).countP fun p => counted (rowOf p.1 p.2) := by
  rw [RowsFrom, List.countP_append, List.countP_reverse, List.countP_map]
  rfl

/-- In every run the console counts every insert that was carried out once, and it lists the
decisions that are new enough for the limit. -/
theorem console_shows_log (config : Config) (localeCompare : String → String → Ordering)
    (tasks : ι → Task) (hids : DistinctIds tasks) {w : World} (hnew : NewIds tasks w.decisions)
    (moves : List (Move ι Fate Change)) {pool : TaskPool tasks}
    (hpool : runFrom (TaskPool.next config) (TaskPool.start config localeCompare tasks w) moves =
      pool) (groupOrder : DecisionCount → DecisionCount → Bool) (now : ℚ) (since : Option ℚ) :
    SharesShown (decisionRows w.decisions) pool.log (decisionShare config.routing groupOrder
        (decisionRows pool.shared.decisions) now since) ∧
      ∀ ordered, NewestFirst (decisionRows pool.shared.decisions) ordered →
        ∀ limit i p, Inserts i p pool.log →
          (decisionRows pool.shared.decisions).countP
              (fun row => p.1.evaluatedAt ≤ row.evaluatedAt) ≤ cappedLimit limit →
            rowOf p.1 p.2 ∈ listRecentDecisions ordered limit := by
  have hrows := rows_run config hids hnew localeCompare moves
  have hlawful := (orderly_inserts config localeCompare tasks w moves).lawful
  rw [hpool] at hrows hlawful
  change _ = RowsFrom w pool at hrows
  have hmem : ∀ i p, Inserts i p pool.log → rowOf p.1 p.2 ∈ RowsFrom w pool := by
    rintro i p ⟨e, he, rfl, hinsert, hfate⟩
    exact (mem_rowsFrom hlawful).mpr (.inr ⟨e.thread, p, (own_insert hlawful he hinsert).1,
      ⟨e, he, rfl, hinsert, hfate⟩, rfl⟩)
  rw [hrows]
  have hshares := sharesOf_decisionShare config.routing groupOrder (RowsFrom w pool) now since
  refine ⟨⟨?_, ?_, ?_, hshares.apart, hshares.parts⟩, ?_⟩
  · exact hshares.total.trans (countP_rowsFrom w pool _)
  · exact fun line hline => (hshares.counts line hline).trans (countP_rowsFrom w pool _)
  · exact fun i p hinserts hsince => hshares.lines _ (hmem i p hinserts) hsince
  · exact fun ordered hordered limit i p hinserts hfew =>
      mem_listRecentDecisions hordered (hmem i p hinserts) hfew

/-- The theorem at a refused insert: one decision is counted. -/
theorem console_shows_log_refused :
    SharesShown [] insertRefusedPool.log (decisionShare defaultConfig.routing (fun _ _ => true)
        (decisionRows insertRefusedPool.shared.decisions) 2000 none) ∧
      (decisionShare defaultConfig.routing (fun _ _ => true)
        (decisionRows insertRefusedPool.shared.decisions) 2000 none).total = 1 :=
  ⟨(console_shows_log defaultConfig compare twoRoutes distinctIds_twoRoutes newIds_fresh
    insertRefused rfl _ _ _).1, by decide +kernel⟩

end

end SwitchService.Runs
