import SwitchService.Consumer.OutcomeConsumer

set_option autoImplicit false

/-!
# Consumer: what a consumer has in hand

The messages that a read loop or a claim pass received, and how far it has come with one
of them, can be read off its own calls.  `follows_task` says that the programs make only
the calls that go with it, whatever the payloads are and whatever fails.
-/

namespace SwitchService.Consumer

open SwitchService.Foundation SwitchService.Foundation.Redis SwitchService.Store

/-- Where a consumer is in its work. -/
inductive Doing where
  /-- In its loop. -/
  | idle
  /-- It has just looked whether it still runs. -/
  | looked
  /-- `process` has begun with the message. -/
  | fresh (id : ℕ)
  /-- The handler returned for the message, or its dead letter is written. -/
  | settled (id : ℕ)
  /-- The message is to become a dead letter. -/
  | broken (id : ℕ)
  /-- The message stays pending. -/
  | kept
  deriving DecidableEq

/-- What a consumer has in hand: the messages that it received and has not begun with,
and where it is. -/
structure Hand where
  queue : List ℕ
  doing : Doing

/-- Nothing is in hand. -/
def Hand.init : Hand where
  queue := []
  doing := .idle

/-- What a reply changes in the hand. -/
def Hand.next (hand : Hand) : (call : ConsumerCall) → Except Failure call.Ans → Hand
  | .running _, _ => { hand with doing := .looked }
  | .xreadgroup _, .ok entries => { queue := entries.map (·.id), doing := .idle }
  | .xclaim _ _, .ok entries => { queue := entries.map (·.id), doing := .idle }
  | .process id, _ => { queue := hand.queue.tail, doing := .fresh id }
  | .handle id _, .ok _ => { hand with doing := .settled id }
  | .handle id _, .error (.contract _) => { hand with doing := .broken id }
  | .handle _ _, .error _ => { hand with doing := .kept }
  | .xrange id, .ok _ => { hand with doing := .broken id }
  | .xadd letter, .ok _ => { hand with doing := .settled letter.originalId }
  | .xadd _, .error _ => { hand with doing := .kept }
  | .xack id, .error (.contract _) => { hand with doing := .broken id }
  | _, _ => { hand with doing := .idle }

/-- The calls that a consumer makes with what it has in hand. -/
def Hand.Allows (reads : Bool) (hand : Hand) : ConsumerCall → Prop
  | .running _ | .sleep _ | .xgroupCreate => hand.queue = []
  | .xreadgroup _ => reads = true ∧ hand.queue = [] ∧ hand.doing = .looked
  | .xpending | .xrange _ | .xclaim _ _ => reads = false ∧ hand.queue = []
  | .process id => ∃ queue, hand.queue = id :: queue
  | .handle id _ => hand.doing = .fresh id
  | .xadd letter =>
      hand.doing = .fresh letter.originalId ∨ hand.doing = .broken letter.originalId
  | .xack id => hand.doing = .settled id

/-- What is in hand decides which calls a consumer may make. -/
def handProtocol (reads : Bool) :
    Prog.Protocol ConsumerCall ConsumerCall.Ans Failure Hand where
  allows := Hand.Allows reads
  next := Hand.next

/-- The call ends with the given messages left to begin with. -/
def Leaves {α : Type} (queue : List ℕ) (hand : Hand) (_ : Except Failure α) : Prop :=
  hand.queue = queue

/-- It also does not throw. -/
def LeavesQuietly {α : Type} (queue : List ℕ) (hand : Hand) (result : Except Failure α) :
    Prop := hand.queue = queue ∧ ∃ a, result = .ok a

/-! ## One message -/

section

variable {reads : Bool} {hand : Hand} {queue : List ℕ} {id : ℕ}

theorem follows_deadLetter (fields : List String) (reason : String) (hqueue : hand.queue = queue)
    (hdoing : hand.doing = .fresh id ∨ hand.doing = .broken id) :
    Prog.Follows (handProtocol reads) (LeavesQuietly queue) (deadLetter id fields reason)
      hand := by
  unfold deadLetter
  refine Prog.follows_tryCatch (fun hand' _ => hand'.queue = queue) ?_
    (fun a hand' h => ⟨h, a, rfl⟩) fun _ hand' h => ⟨h, (), rfl⟩
  refine Prog.follows_await_bind hdoing (fun _ => ?_) fun _ => hqueue
  refine Prog.follows_await_bind rfl (fun _ => hqueue) fun error => ?_
  cases error with
  | contract _ | noEligibleChannel _ _ | rejected _ => exact hqueue

theorem follows_handleMessage (fields : List String) (message : Json)
    (hqueue : hand.queue = queue) (hdoing : hand.doing = .fresh id) :
    Prog.Follows (handProtocol reads) (LeavesQuietly queue) (handleMessage id fields message)
      hand := by
  unfold handleMessage
  refine Prog.follows_tryCatch (fun hand' result => hand'.queue = queue ∧
    ∀ detail, result = .error (.contract detail) → hand'.doing = .broken id) ?_
    (fun a hand' h => ⟨h.1, a, rfl⟩) fun error hand' h => ?_
  · refine Prog.follows_await_bind hdoing (fun _ => ?_) fun error => ?_
    · refine Prog.follows_await_bind rfl (fun _ => ⟨hqueue, by simp⟩) fun error => ?_
      cases error with
      | contract detail => exact ⟨hqueue, fun _ _ => rfl⟩
      | noEligibleChannel message context => exact ⟨hqueue, by simp⟩
      | rejected message => exact ⟨hqueue, by simp⟩
    · cases error with
      | contract detail => exact ⟨hqueue, fun _ _ => rfl⟩
      | noEligibleChannel message context => exact ⟨hqueue, by simp⟩
      | rejected message => exact ⟨hqueue, by simp⟩
  · cases error with
    | contract detail => exact follows_deadLetter fields detail h.1 (.inr (h.2 detail rfl))
    | noEligibleChannel message context => exact ⟨h.1, (), rfl⟩
    | rejected message => exact ⟨h.1, (), rfl⟩

variable (parse : String → Option Json)

/-- `process` takes one message off the hand, whatever fails. -/
theorem follows_process (fields : List String) (hqueue : hand.queue = id :: queue) :
    Prog.Follows (handProtocol reads) (LeavesQuietly queue) (process parse id fields) hand := by
  have hbegin : Prog.Follows (handProtocol reads)
      (fun hand' result => hand' = ⟨queue, .fresh id⟩ ∧ result = .ok ()) (beginProcess id)
      hand := by
    refine ⟨⟨queue, hqueue⟩, fun _ => ⟨?_, rfl⟩⟩
    change Hand.mk hand.queue.tail (.fresh id) = ⟨queue, .fresh id⟩
    rw [hqueue]
    rfl
  unfold process
  refine Prog.follows_bind _ hbegin ?_ fun _ _ h => nomatch h.2
  rintro _ _ ⟨rfl, -⟩
  cases parsePayload parse (fieldValue fields "payload") with
  | none => exact follows_deadLetter fields _ rfl (.inl rfl)
  | some message => exact follows_handleMessage fields message rfl rfl

/-- A batch is begun with message by message, whatever fails. -/
theorem follows_processAll {entries : List StreamEntry}
    (hqueue : hand.queue = entries.map (·.id)) :
    Prog.Follows (handProtocol reads) (LeavesQuietly []) (processAll parse entries) hand := by
  induction entries generalizing hand with
  | nil => exact ⟨hqueue, (), rfl⟩
  | cons entry entries ih =>
      unfold processAll
      refine Prog.follows_bind (LeavesQuietly (entries.map (·.id)))
        (follows_process parse entry.fields (by rw [hqueue, List.map_cons]))
        (fun _ hand' h => ih h.1) ?_
      rintro error hand' ⟨_, a, heq⟩
      cases heq

/-! ## The loops -/

theorem follows_ensureConsumerGroup (hqueue : hand.queue = []) :
    Prog.Follows (handProtocol reads) (Leaves []) ensureConsumerGroup hand := by
  unfold ensureConsumerGroup
  refine Prog.follows_tryCatch (Leaves []) ?_ (fun _ _ h => h) fun error hand' h => ?_
  · exact Prog.follows_await_bind hqueue (fun _ => hqueue) fun _ => hqueue
  · split
    · exact h
    · exact h

theorem follows_repairRead (consumer : String) (error : Failure) (hqueue : hand.queue = []) :
    Prog.Follows (handProtocol reads) (Leaves []) (repairRead consumer error) hand := by
  have hsleep (hand' : Hand) (h : hand'.queue = []) : Prog.Follows (handProtocol reads)
      (Leaves []) (do let _ ← Prog.await (.sleep 500); return true) hand' :=
    Prog.follows_await_bind h (fun _ => h) fun _ => h
  unfold repairRead
  refine Prog.follows_await_bind hqueue (fun running => ?_) fun _ => hqueue
  split
  · split
    · refine Prog.follows_tryCatch (Leaves []) ?_ (fun _ _ h => h) fun _ hand' h => hsleep hand' h
      exact Prog.follows_bind (Leaves []) (follows_ensureConsumerGroup hqueue) (fun _ _ h => h)
        fun _ _ h => h
    · exact hsleep _ hqueue
  · exact hqueue

theorem follows_readRound (consumer : String) (hqueue : hand.queue = [])
    (hdoing : hand.doing = .looked) :
    Prog.Follows (handProtocol true) (Leaves []) (readRound parse consumer) hand := by
  unfold readRound
  refine Prog.follows_tryCatch (Leaves []) ?_ (fun _ _ h => h)
    fun error hand' h => follows_repairRead consumer error h
  refine Prog.follows_await_bind ⟨rfl, hqueue, hdoing⟩ (fun entries => ?_) fun _ => hqueue
  exact Prog.follows_bind (LeavesQuietly []) (follows_processAll parse rfl)
    (fun _ _ h => h.1) fun _ _ h => h.1

theorem follows_readLoop (consumer : String) (rounds : ℕ) (hqueue : hand.queue = []) :
    Prog.Follows (handProtocol true) (Leaves []) (readLoop parse consumer rounds) hand := by
  induction rounds generalizing hand with
  | zero => exact hqueue
  | succ rounds ih =>
      unfold readLoop
      refine Prog.follows_await_bind hqueue (fun running => ?_) fun _ => hqueue
      split
      · refine Prog.follows_bind (Leaves []) (follows_readRound parse consumer hqueue rfl)
          (fun goesOn hand' h => ?_) fun _ _ h => h
        split
        · exact ih h
        · exact h
      · exact hqueue

variable (config : Config)

theorem follows_claimOne (consumer : String) (row : PendingEntry) (hqueue : hand.queue = []) :
    Prog.Follows (handProtocol false) (Leaves []) (claimOne config parse consumer row) hand := by
  unfold claimOne
  split
  · refine Prog.follows_await_bind ⟨rfl, hqueue⟩ (fun entries => ?_) fun _ => hqueue
    refine Prog.Follows.mono (follows_deadLetter _ _ ?_ (.inr ?_)) fun _ _ h => h.1
    · exact hqueue
    · rfl
  · refine Prog.follows_await_bind ⟨rfl, hqueue⟩ (fun claimed => ?_) fun _ => hqueue
    exact (follows_processAll parse rfl).mono fun _ _ h => h.1

theorem follows_claimAll (consumer : String) (rows : List PendingEntry)
    (hqueue : hand.queue = []) :
    Prog.Follows (handProtocol false) (Leaves []) (claimAll config parse consumer rows) hand := by
  induction rows generalizing hand with
  | nil => exact hqueue
  | cons row rows ih =>
      unfold claimAll
      exact Prog.follows_bind (Leaves []) (follows_claimOne parse config consumer row hqueue)
        (fun _ _ h => ih h) fun _ _ h => h

theorem follows_claimStale (consumer : String) (hqueue : hand.queue = []) :
    Prog.Follows (handProtocol false) (Leaves []) (claimStale config parse consumer) hand := by
  unfold claimStale
  refine Prog.follows_await_bind hqueue (fun running => ?_) fun _ => hqueue
  split
  · refine Prog.follows_tryCatch (Leaves []) ?_ (fun _ _ h => h) fun _ _ h => h
    exact Prog.follows_await_bind ⟨rfl, hqueue⟩
      (fun rows => follows_claimAll parse config consumer rows hqueue) fun _ => hqueue
  · exact hqueue

/-- Every consumer makes only the calls that its hand allows, and leaves nothing in it. -/
theorem follows_task (task : ConsumerTask) :
    Prog.Follows (handProtocol task.reads) (Leaves []) (task.program config parse)
      Hand.init := by
  cases task with
  | readLoop consumer rounds => exact follows_readLoop parse consumer rounds rfl
  | claimStale consumer => exact follows_claimStale parse config consumer rfl

end

end SwitchService.Consumer
