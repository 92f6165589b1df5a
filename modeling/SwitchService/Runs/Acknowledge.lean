import SwitchService.Consumer.Hand

set_option autoImplicit false

/-!
# Runs: what a message is acknowledged for

Any number of read loops and claim passes run at the same time, and any payload, handler
call and Redis command can fail.  The facts about acknowledgements are read off the log:
a consumer acknowledges a message in the same delivery in which the handler returned for
it or its dead letter was written.
-/

namespace SwitchService.Runs

open SwitchService.Foundation SwitchService.Foundation.Redis SwitchService.Store
open SwitchService.Consumer

variable {ι : Type}

/-! ## Reading the log -/

/-- The handler returned normally for the message. -/
def Returned (id : ℕ) : ConsumerEntry ι → Prop
  | ⟨_, .handle messageId _, _, .ok _, _⟩ => messageId = id
  | _ => False

/-- A dead letter with the identifier of the message was written. -/
def DeadLettered (id : ℕ) : ConsumerEntry ι → Prop
  | ⟨_, .xadd letter, fate, _, _⟩ => letter.originalId = id ∧ fate.redis.carriedOut = true
  | _ => False

/-- The handler failed with something else than a contract error. -/
def FailedOtherwise : ConsumerEntry ι → Prop
  | ⟨_, .handle _ _, _, .error (.contract _), _⟩ => False
  | ⟨_, .handle _ _, _, .error _, _⟩ => True
  | _ => False

/-- The call acknowledges a message or writes a dead letter. -/
def disposes : ConsumerCall → Bool
  | .xack _ | .xadd _ => true
  | _ => false

/-- The entries of the batch that a read was answered with. -/
def ReadBatch (batch : List StreamEntry) : ConsumerEntry ι → Prop
  | ⟨_, .xreadgroup _, _, .ok entries, _⟩ => entries = batch
  | _ => False

section

variable [DecidableEq ι]

/-- The calls of a consumer for the delivery it is in, newest first. -/
def delivery (i : ι) : List (ConsumerEntry ι) → List (ConsumerEntry ι)
  | [] => []
  | e :: older =>
      if e.thread = i then
        match e.op with
        | .process _ => [e]
        | .handle _ _ | .xadd _ | .xack _ => e :: delivery i older
        | _ => []
      else delivery i older

/-- The message that a consumer begins with in a call. -/
def begins (i : ι) (e : ConsumerEntry ι) : Option ℕ :=
  match e.op with
  | .process id => if e.thread = i then some id else none
  | _ => none

/-- A consumer looks at its flag: a round of its loop is over. -/
def looks (i : ι) (e : ConsumerEntry ι) : Bool :=
  match e.op with
  | .running _ => decide (e.thread = i)
  | _ => false

/-- The messages that a consumer began with, oldest first, until its round is over. -/
def begun (i : ι) (later : List (ConsumerEntry ι)) : List ℕ :=
  (later.reverse.takeWhile (!looks i ·)).filterMap (begins i)

/-- The round of a consumer is over in these calls. -/
def Looked (i : ι) (later : List (ConsumerEntry ι)) : Prop :=
  ∃ look ∈ later, looks i look = true

/-- What the log of a run says about every message. -/
structure DealtWith (pool : ConsumerPool ι) : Prop where
  /-- An acknowledgement comes after the handler returned or the dead letter was written. -/
  acknowledged : ∀ newer e older id, pool.log = newer ++ e :: older → e.op = .xack id →
    ∃ cause ∈ older, Returned id cause ∨ DeadLettered id cause
  /-- A delivery whose handler failed otherwise disposes of nothing. -/
  kept : ∀ newer e older, pool.log = newer ++ e :: older → disposes e.op = true →
    ∀ failed ∈ delivery e.thread older, ¬ FailedOtherwise failed
  /-- The messages of a batch are begun with one by one, and all of them before the round
  of the loop is over or the loop has ended. -/
  batches : ∀ newer e older batch, pool.log = newer ++ e :: older → ReadBatch batch e →
    begun e.thread newer <+: batch.map (·.id) ∧
      (Looked e.thread newer ∨ (pool.threads e.thread).nextCall = none →
        begun e.thread newer = batch.map (·.id))

/-! ## The hands in the log -/

variable (tasks : ι → ConsumerTask)

/-- What a consumer has in hand after the calls of a log. -/
def handAfter (i : ι) (log : List (ConsumerEntry ι)) : Hand :=
  Pool.seen (fun i => handProtocol (tasks i).reads) (fun _ => Hand.init) i log

variable {tasks} {i : ι} {e : ConsumerEntry ι} {log newer older : List (ConsumerEntry ι)}

theorem handAfter_self (h : e.thread = i) :
    handAfter tasks i (e :: log) = (handAfter tasks i log).next e.op e.reply :=
  Pool.seen_self h log

theorem handAfter_of_ne (h : e.thread ≠ i) :
    handAfter tasks i (e :: log) = handAfter tasks i log := Pool.seen_of_ne h log

/-- Every call of the log was allowed by the hand of its consumer. -/
abbrev HandLawful (tasks : ι → ConsumerTask) (log : List (ConsumerEntry ι)) : Prop :=
  Pool.Lawful (fun i => handProtocol (tasks i).reads) (fun _ => Hand.init) log

theorem HandLawful.allows (h : HandLawful tasks (e :: older)) :
    (handAfter tasks e.thread older).Allows (tasks e.thread).reads e.op := h.1

theorem orderly_consumers (config : Config) (parse : String → Option Json)
    (tasks : ι → ConsumerTask) (b : Broker) (moves : List (Move ι ConsumerFate BrokerChange)) :
    Pool.Orderly (consumerAnswer config) (fun i => handProtocol (tasks i).reads)
      (fun _ => Hand.init) (fun _ => Leaves [])
      (ConsumerPool.after config parse tasks b moves) :=
  Pool.orderly_run b (fun i => follows_task parse config (tasks i)) moves

/-! ## Acknowledgements -/

/-- A settled message was dealt with. -/
theorem cause_of_settled {config : Config} {id : ℕ}
    (hanswered : Pool.Answered (consumerAnswer config) log)
    (h : (handAfter tasks i log).doing = .settled id) :
    ∃ cause ∈ log, Returned id cause ∨ DeadLettered id cause := by
  induction log with
  | nil => cases h
  | cons e log ih =>
      by_cases hthread : e.thread = i
      · rw [handAfter_self hthread] at h
        obtain ⟨thread, op, fate, reply, before⟩ := e
        have hreply := hanswered _ List.mem_cons_self
        refine ⟨_, List.mem_cons_self, ?_⟩
        cases op with
        | handle messageId message =>
            rcases reply with (_ | _ | _) | _
            · cases h
            · cases h
            · cases h
            · exact .inl (Doing.settled.inj h)
        | xadd letter =>
            cases reply with
            | error failure => cases h
            | ok _ =>
                refine .inr ⟨Doing.settled.inj h, ?_⟩
                rw [(consumerAnswer_ok rfl hreply.symm).1]
                rfl
        | xreadgroup | xclaim | xrange => cases reply <;> cases h
        | xack => rcases reply with (_ | _ | _) | _ <;> cases h
        | running | process | sleep | xgroupCreate | xpending => cases h
      · rw [handAfter_of_ne hthread] at h
        obtain ⟨cause, hmem, hcause⟩ := ih (fun e he => hanswered e (List.mem_cons_of_mem _ he)) h
        exact ⟨cause, List.mem_cons_of_mem _ hmem, hcause⟩

/-- A delivery whose handler failed otherwise leaves the message pending. -/
theorem kept_of_failed (hlawful : HandLawful tasks log) {failed : ConsumerEntry ι}
    (hmem : failed ∈ delivery i log) (hfailed : FailedOtherwise failed) :
    (handAfter tasks i log).doing = .kept := by
  induction log with
  | nil => cases hmem
  | cons e log ih =>
      by_cases hthread : e.thread = i
      · have hallows := hlawful.allows
        rw [hthread] at hallows
        rw [handAfter_self hthread]
        unfold delivery at hmem
        rw [if_pos hthread] at hmem
        obtain ⟨thread, op, fate, reply, before⟩ := e
        -- Nothing is disposed of where an older call of the delivery failed.
        have hrest : failed ∈ delivery i log →
            ∀ doing, (handAfter tasks i log).doing = doing → doing = .kept := by
          intro hold doing hdoing
          rw [← hdoing]
          exact ih hlawful.2 hold
        cases op with
        | handle messageId message =>
            rcases List.mem_cons.mp hmem with rfl | hold
            · rcases reply with (_ | _ | _) | _
              · exact hfailed.elim
              · rfl
              · rfl
              · exact hfailed.elim
            · cases hrest hold _ hallows
        | xadd letter =>
            rcases List.mem_cons.mp hmem with rfl | hold
            · exact hfailed.elim
            · rcases hallows with hallows | hallows
              · cases hrest hold _ hallows
              · cases hrest hold _ hallows
        | xack messageId =>
            rcases List.mem_cons.mp hmem with rfl | hold
            · exact hfailed.elim
            · cases hrest hold _ hallows
        | process messageId =>
            obtain rfl := List.mem_singleton.mp hmem
            exact hfailed.elim
        | running | sleep | xgroupCreate | xreadgroup | xpending | xrange | xclaim =>
            cases hmem
      · rw [handAfter_of_ne hthread]
        unfold delivery at hmem
        rw [if_neg hthread] at hmem
        exact ih hlawful.2 hmem

/-! ## Batches -/

theorem takeWhile_of_looked (h : Looked i newer) (more : List (ConsumerEntry ι)) :
    (newer.reverse ++ more).takeWhile (!looks i ·) = newer.reverse.takeWhile (!looks i ·) := by
  obtain ⟨look, hmem, hlook⟩ := h
  rw [List.takeWhile_append, if_neg]
  intro hlength
  have hall := List.takeWhile_eq_self_iff.mp
    ((List.takeWhile_prefix _).eq_of_length hlength) look (List.mem_reverse.mpr hmem)
  simp [hlook] at hall

theorem takeWhile_of_not_looked (h : ¬ Looked i newer) :
    newer.reverse.takeWhile (!looks i ·) = newer.reverse := by
  refine List.takeWhile_eq_self_iff.mpr fun e he => ?_
  by_contra hlook
  exact h ⟨e, List.mem_reverse.mp he, by simpa using hlook⟩

/-- After the round is over nothing counts any more. -/
theorem begun_of_looked (h : Looked i newer) : begun i (e :: newer) = begun i newer := by
  unfold begun
  rw [List.reverse_cons, takeWhile_of_looked h]

theorem begun_of_not_looked (h : ¬ Looked i newer) :
    begun i (e :: newer) = begun i newer ++ (begins i e).toList := by
  unfold begun
  rw [List.reverse_cons, List.takeWhile_append, takeWhile_of_not_looked h, if_pos rfl,
    List.filterMap_append]
  congr 1
  -- A look is no beginning.
  obtain ⟨thread, op, fate, reply, before⟩ := e
  by_cases hthread : thread = i
  · cases op <;> simp [looks, begins, hthread]
  · cases op <;> simp [looks, begins, hthread]

theorem looked_cons : Looked i (e :: newer) ↔ looks i e = true ∨ Looked i newer := by
  simp [Looked]

/-- A consumer that works on a batch: it has begun with the first messages, has the others
in hand, and does not look at its flag before it is through. -/
structure Working (tasks : ι → ConsumerTask) (i : ι) (batch : List ℕ)
    (newer log : List (ConsumerEntry ι)) : Prop where
  queue : begun i newer ++ (handAfter tasks i log).queue = batch
  doing : (handAfter tasks i log).doing ≠ .looked
  reads : (tasks i).reads = true

/-- A call of the consumer itself keeps it working, or is the look after its last
message. -/
theorem Working.self {batch : List ℕ} (h : Working tasks i batch newer log)
    (hlooked : ¬ Looked i newer) (hlawful : HandLawful tasks (e :: log))
    (hthread : e.thread = i) :
    (looks i e = true → begun i (e :: newer) = batch) ∧
      (looks i e = false → Working tasks i batch (e :: newer) (e :: log)) := by
  have hallows := hlawful.allows
  have hqueue := h.queue
  rw [hthread] at hallows
  have hworking : looks i e = false →
      begun i newer ++ ((begins i e).toList ++
        ((handAfter tasks i log).next e.op e.reply).queue) = batch →
      ((handAfter tasks i log).next e.op e.reply).doing ≠ .looked →
      Working tasks i batch (e :: newer) (e :: log) := by
    intro _ hqueue hdoing
    refine ⟨?_, ?_, h.reads⟩
    · rw [handAfter_self hthread, begun_of_not_looked hlooked, List.append_assoc]
      exact hqueue
    · rw [handAfter_self hthread]
      exact hdoing
  obtain ⟨thread, op, fate, reply, before⟩ := e
  change thread = i at hthread
  subst hthread
  cases op with
  | running consumer =>
      have hempty : (handAfter tasks thread log).queue = [] := hallows
      rw [hempty, List.append_nil] at hqueue
      refine ⟨fun _ => ?_, fun hnot => ?_⟩
      · rw [begun_of_not_looked hlooked]
        simpa [begins] using hqueue
      · simp [looks] at hnot
  | xreadgroup consumer => exact absurd hallows.2.2 h.doing
  | xpending | xrange | xclaim => exact absurd (h.reads.symm.trans hallows.1) (by simp)
  | process id =>
      obtain ⟨queue, hhand⟩ := hallows
      rw [hhand] at hqueue
      refine ⟨fun hlook => by simp [looks] at hlook, fun hnot => hworking hnot ?_ ?_⟩
      · simpa [begins, Hand.next, hhand] using hqueue
      · simp [Hand.next]
  | handle | sleep | xgroupCreate | xadd | xack =>
      refine ⟨fun hlook => by simp [looks] at hlook, fun hnot => hworking hnot ?_ ?_⟩
      · rcases reply with (_ | _ | _) | _ <;> simpa [begins, Hand.next] using hqueue
      · rcases reply with (_ | _ | _) | _ <;> simp [Hand.next]

/-- Until its round is over, a consumer that received a batch works on it. -/
theorem batch_working {batch : List StreamEntry}
    (hlawful : HandLawful tasks (newer ++ e :: older)) (hbatch : ReadBatch batch e) :
    (Looked e.thread newer → begun e.thread newer = batch.map (·.id)) ∧
      (¬ Looked e.thread newer →
        Working tasks e.thread (batch.map (·.id)) newer (newer ++ e :: older)) := by
  induction newer with
  | nil =>
      have hallows := HandLawful.allows hlawful
      refine ⟨fun h => absurd h (by simp [Looked]), fun _ => ?_⟩
      rw [List.nil_append]
      obtain ⟨thread, op, fate, reply, before⟩ := e
      cases op with
      | xreadgroup consumer =>
          cases reply with
          | error failure => exact hbatch.elim
          | ok entries =>
              cases hbatch
              refine ⟨?_, ?_, hallows.1⟩
              · rw [handAfter_self rfl]
                rfl
              · rw [handAfter_self rfl]
                simp [Hand.next]
      | _ => exact hbatch.elim
  | cons x newer ih =>
      obtain ⟨hover, hgoing⟩ := ih hlawful.2
      rw [looked_cons, List.cons_append]
      by_cases hlooked : Looked e.thread newer
      · exact ⟨fun _ => (begun_of_looked hlooked).trans (hover hlooked),
          fun hnot => absurd (.inr hlooked) hnot⟩
      · have hworking := hgoing hlooked
        by_cases hthread : x.thread = e.thread
        · obtain ⟨hlook, hnot⟩ := hworking.self hlooked hlawful hthread
          constructor
          · rintro (h | h)
            · exact hlook h
            · exact absurd h hlooked
          · intro h
            exact hnot (by simpa using fun hlook => h (.inl hlook))
        · have hnone : looks e.thread x = false ∧ begins e.thread x = none := by
            unfold looks begins
            constructor
            · split
              · simpa using hthread
              · rfl
            · split
              · rw [if_neg hthread]
              · rfl
          refine ⟨fun h => absurd h (by simp [hnone.1, hlooked]),
            fun _ => ⟨?_, ?_, hworking.reads⟩⟩
          · rw [handAfter_of_ne hthread, begun_of_not_looked hlooked, hnone.2]
            simpa using hworking.queue
          · rw [handAfter_of_ne hthread]
            exact hworking.doing

/-- A consumer that has ended has nothing left in hand. -/
theorem queue_of_ended {config : Config} {pool : ConsumerPool ι}
    (h : Pool.Orderly (consumerAnswer config) (fun i => handProtocol (tasks i).reads)
      (fun _ => Hand.init) (fun _ => Leaves []) pool)
    (hended : (pool.threads i).nextCall = none) : (handAfter tasks i pool.log).queue = [] := by
  obtain ⟨_, hend⟩ := h.ends.ended hended
  exact hend

/-- In every run of read loops and claim passes every message is dealt with before it is
acknowledged, whatever fails. -/
theorem consumers_dealWith (config : Config) (parse : String → Option Json)
    (tasks : ι → ConsumerTask) (b : Broker)
    (moves : List (Move ι ConsumerFate BrokerChange)) :
    DealtWith (ConsumerPool.after config parse tasks b moves) := by
  have horderly := orderly_consumers config parse tasks b moves
  set pool := ConsumerPool.after config parse tasks b moves with hpool
  constructor
  · intro newer e older id hlog hop
    have hlawful : HandLawful tasks (e :: older) :=
      Pool.Lawful.older newer (hlog ▸ horderly.lawful)
    have hallows := hlawful.allows
    rw [hop] at hallows
    have hanswered : Pool.Answered (consumerAnswer config) older := by
      intro e' he'
      refine horderly.answered e' ?_
      rw [hlog]
      exact List.mem_append_right _ (List.mem_cons_of_mem _ he')
    exact cause_of_settled hanswered hallows
  · intro newer e older hlog hdisposes failed hmem hfailed
    have hlawful : HandLawful tasks (e :: older) :=
      Pool.Lawful.older newer (hlog ▸ horderly.lawful)
    have hkept := kept_of_failed hlawful.2 hmem hfailed
    have hallows := hlawful.allows
    cases hop : e.op with
    | xack id =>
        rw [hop] at hallows
        cases hkept.symm.trans hallows
    | xadd letter =>
        rw [hop] at hallows
        rcases hallows with hallows | hallows
        · cases hkept.symm.trans hallows
        · cases hkept.symm.trans hallows
    | _ => simp [hop, disposes] at hdisposes
  · intro newer e older batch hlog hbatch
    have hlawful : HandLawful tasks (newer ++ e :: older) := hlog ▸ horderly.lawful
    obtain ⟨hover, hgoing⟩ := batch_working hlawful hbatch
    by_cases hlooked : Looked e.thread newer
    · have hall := hover hlooked
      exact ⟨hall ▸ List.prefix_refl _, fun _ => hall⟩
    · have hworking := hgoing hlooked
      refine ⟨⟨_, hworking.queue⟩, ?_⟩
      rintro (h | hended)
      · exact absurd h hlooked
      · have hqueue := hworking.queue
        rw [← hlog, queue_of_ended horderly hended, List.append_nil] at hqueue
        exact hqueue

end

end SwitchService.Runs
