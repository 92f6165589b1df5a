import SwitchService.Consumer.ClaimPass
import SwitchService.Runs.Acknowledge

set_option autoImplicit false

/-!
# Runs: how often a message is tried

Every call of the handler uses up one delivery of its message, and the pending list counts
the deliveries.  A claim pass looks at the count once, before it claims what it has
listed; the handler is called no more often than `MAX_DELIVERIES` allows where no claim
takes a message that has come to the limit since.
-/

namespace SwitchService.Runs

open SwitchService.Foundation SwitchService.Foundation.Redis SwitchService.Store
open SwitchService.Consumer

variable {ι : Type}

/-! ## Counting -/

/-- The handler is called for the message. -/
def handles (id : ℕ) (e : ConsumerEntry ι) : ℕ :=
  match e.op with
  | .handle messageId _ => if messageId = id then 1 else 0
  | _ => 0

/-- How often a call gave the message to its consumer. -/
def gives (id : ℕ) : ConsumerEntry ι → ℕ
  | ⟨_, .xreadgroup _, _, .ok entries, _⟩ => (entries.map (·.id)).count id
  | ⟨_, .xclaim _ _, _, .ok entries, _⟩ => (entries.map (·.id)).count id
  | _ => 0

/-- How often the handler was called for the message. -/
def attempts (id : ℕ) (log : List (ConsumerEntry ι)) : ℕ := (log.map (handles id)).sum

/-- How often the message was given to a consumer. -/
def given (id : ℕ) (log : List (ConsumerEntry ι)) : ℕ := (log.map (gives id)).sum

/-- A list that has the message with as many deliveries as are allowed. -/
def ListsAtLimit (config : Config) (id : ℕ) : ConsumerEntry ι → Prop
  | ⟨_, .xpending, _, .ok rows, _⟩ =>
      ∃ row ∈ rows, row.id = id ∧ config.maxDeliveries ≤ row.deliveries
  | _ => False

/-- A claim of the message. -/
def Claims (id : ℕ) (e : ConsumerEntry ι) : Prop := ∃ consumer, e.op = .xclaim consumer id

/-- The message was acknowledged. -/
def Acknowledged (id : ℕ) (e : ConsumerEntry ι) : Prop :=
  e.op = .xack id ∧ e.fate.redis.carriedOut = true

/-- A Redis command was rejected. -/
def Rejected (e : ConsumerEntry ι) : Prop :=
  e.op.isCommand = true ∧ ∃ failure, e.reply = .error failure

/-- The handler is called for a message no more often than the limit, and a claim pass
that lists it at the limit moves it to the dead letters and does not claim it. -/
structure AttemptsBounded (config : Config) (id : ℕ) (pool : ConsumerPool ι) : Prop where
  bounded : attempts id pool.log ≤ config.maxDeliveries
  unclaimed : ∀ newer e older, pool.log = newer ++ e :: older → ListsAtLimit config id e →
    ∀ later ∈ newer, later.thread = e.thread → ¬ Claims id later
  /-- Unless a command of the pass is rejected, the message is moved when it ends. -/
  moved : ∀ newer e older, pool.log = newer ++ e :: older → ListsAtLimit config id e →
    (pool.threads e.thread).nextCall = none →
    (∀ later ∈ newer, later.thread = e.thread → ¬ Rejected later) →
    (∃ letter ∈ newer, letter.thread = e.thread ∧ DeadLettered id letter) ∧
      ∃ ack ∈ newer, ack.thread = e.thread ∧ Acknowledged id ack

/-! ## Deliveries -/

/-- What a hand still holds of the message. -/
def Hand.holds (hand : Hand) (id : ℕ) : ℕ :=
  hand.queue.count id + if hand.doing = .fresh id then 1 else 0

section

variable {tasks : ι → ConsumerTask} {id : ℕ} {log : List (ConsumerEntry ι)}

/-- A call of a consumer takes from its hand what it handles and adds what it was given. -/
theorem holds_next (id : ℕ) {e : ConsumerEntry ι} {hand : Hand} {reads : Bool}
    (h : hand.Allows reads e.op) :
    handles id e + Hand.holds (hand.next e.op e.reply) id ≤ gives id e + Hand.holds hand id := by
  obtain ⟨thread, op, fate, reply, before⟩ := e
  cases op with
  | handle messageId message =>
      have hfresh : hand.doing = .fresh messageId := h
      by_cases hid : messageId = id
      · rcases reply with (_ | _ | _) | _ <;>
          simp [handles, gives, Hand.holds, Hand.next, hfresh, hid] <;> omega
      · rcases reply with (_ | _ | _) | _ <;>
          simp [handles, gives, Hand.holds, Hand.next, hfresh, hid]
  | process messageId =>
      obtain ⟨queue, hqueue⟩ := h
      by_cases hid : messageId = id
      · simp [handles, gives, Hand.holds, Hand.next, hqueue, hid]
      · simp [handles, gives, Hand.holds, Hand.next, hqueue, hid, List.count_cons_of_ne hid]
  | xreadgroup consumer =>
      have hqueue : hand.queue = [] := h.2.1
      cases reply <;> simp [handles, gives, Hand.holds, Hand.next, hqueue]
  | xclaim consumer messageId =>
      have hqueue : hand.queue = [] := h.2
      cases reply <;> simp [handles, gives, Hand.holds, Hand.next, hqueue]
  | running | sleep | xgroupCreate | xpending | xrange | xadd | xack =>
      rcases reply with (_ | _ | _) | _ <;>
        simp [handles, gives, Hand.holds, Hand.next]

/-- A consumer handles a message at most as often as it was given it. -/
theorem attempts_le_given_of_thread [DecidableEq ι] (hlawful : HandLawful tasks log) (i : ι) :
    attempts id (log.filter (·.thread = i)) + Hand.holds (handAfter tasks i log) id ≤
      given id (log.filter (·.thread = i)) := by
  induction log with
  | nil => exact le_refl 0
  | cons e log ih =>
      have hrest := ih hlawful.2
      by_cases hthread : e.thread = i
      · have hallows := hlawful.allows
        rw [hthread] at hallows
        have hnext := holds_next id hallows
        rw [handAfter_self hthread, List.filter_cons_of_pos (by simpa using hthread)]
        unfold attempts given at hrest ⊢
        rw [List.map_cons, List.sum_cons, List.map_cons, List.sum_cons]
        omega
      · rw [handAfter_of_ne hthread, List.filter_cons_of_neg (by simpa using hthread)]
        exact hrest

theorem attempts_le_given [DecidableEq ι] (hlawful : HandLawful tasks log) :
    attempts id log ≤ given id log := by
  refine Pool.sum_le_of_threads _ _ fun i => ?_
  exact (Nat.le_add_right _ _).trans (attempts_le_given_of_thread hlawful i)

/-! ## The count in the pending list -/

/-- What the run says about the deliveries of a message: the pending list counts them all,
and there are no more than the limit. -/
structure Counted (config : Config) (id : ℕ) (stream : MessageStream)
    (log : List (ConsumerEntry ι)) : Prop where
  ahead : stream.Ahead id → given id log = 0
  counted : ∀ p, stream.pendingOf id = some p → given id log ≤ p.deliveries
  bounded : given id log ≤ config.maxDeliveries

/-- A claim that gives the message to a consumer finds fewer deliveries than the limit. -/
def BelowLimit (config : Config) (id : ℕ) (b : Broker) (fate : ConsumerFate) :
    ConsumerCall → Prop
  | .xclaim _ messageId => messageId = id → fate.redis.carriedOut = true →
      b.stream.range id ≠ [] → ∀ p ∈ b.stream.pendingOf id,
        config.claimMinIdleMs ≤ b.now - p.deliveredAt → p.deliveries < config.maxDeliveries
  | _ => True

instance (config : Config) (id : ℕ) (b : Broker) (fate : ConsumerFate) :
    (call : ConsumerCall) → Decidable (BelowLimit config id b fate call)
  | .xclaim _ _ => inferInstanceAs (Decidable (_ → _ → _ → ∀ p ∈ _, _ → _))
  | .running _ | .process _ | .sleep _ | .handle _ _ | .xgroupCreate | .xreadgroup _
  | .xpending | .xrange _ | .xadd _ | .xack _ => isTrue trivial

/-- Every claim that gives the message to a consumer finds fewer deliveries than the
limit. -/
def ClaimsBelow (config : Config) (id : ℕ) (pool : ConsumerPool ι) :
    Move ι ConsumerFate BrokerChange → Prop
  | .other _ => True
  | .step i fate => ∀ call ∈ (pool.threads i).nextCall, BelowLimit config id pool.shared fate call

instance (config : Config) (id : ℕ) (pool : ConsumerPool ι) :
    (move : Move ι ConsumerFate BrokerChange) → Decidable (ClaimsBelow config id pool move)
  | .other _ => isTrue trivial
  | .step _ _ => inferInstanceAs (Decidable (∀ call ∈ _, _))

theorem given_cons (e : ConsumerEntry ι) (log : List (ConsumerEntry ι)) :
    given id (e :: log) = gives id e + given id log := by
  simp [given]

variable {config : Config} {b : Broker}

/-- A call that gives nothing and only takes messages off the pending list. -/
theorem Counted.of_shrinks {stream stream' : MessageStream} (h : Counted config id stream log)
    {e : ConsumerEntry ι} (hgives : gives id e = 0)
    (hahead : stream'.Ahead id → given id log = 0)
    (hpending : stream'.pendingOf id = stream.pendingOf id ∨ stream'.pendingOf id = none) :
    Counted config id stream' (e :: log) := by
  constructor
  · intro hafter
    rw [given_cons, hgives, hahead hafter]
  · intro p hp
    rw [given_cons, hgives, Nat.zero_add]
    rcases hpending with hsame | hnone
    · exact h.counted p (hsame ▸ hp)
    · rw [hnone] at hp
      cases hp
  · rw [given_cons, hgives, Nat.zero_add]
    exact h.bounded

/-- A read gives the message for the first time, or not at all. -/
theorem Counted.read {stream stream' : MessageStream} (h : Counted config id stream log)
    {consumer : String} {count : ℕ} {now : ℚ} {taken : List StreamEntry}
    (hread : stream.readGroup consumer count now = some (taken, stream')) {e : ConsumerEntry ι}
    (hgives : gives id e ≤ (taken.map (·.id)).count id) :
    Counted config id stream' (e :: log) := by
  obtain ⟨hnodup, hnew, hahead, hpending⟩ := readGroup_spec hread
  by_cases hid : id ∈ taken.map (·.id)
  · obtain ⟨hbefore, hafter⟩ := hnew id hid
    have hnone := h.ahead hbefore
    have hone : gives id e ≤ 1 := hgives.trans (List.nodup_iff_count_le_one.mp hnodup id)
    constructor
    · intro hahead'
      exact absurd hahead' hafter
    · intro p hp
      rw [hpending, if_pos hid] at hp
      cases hp
      rw [given_cons, hnone]
      exact hone
    · rw [given_cons, hnone]
      exact hone.trans config.maxDeliveries.pos
  · rw [List.count_eq_zero_of_not_mem hid, Nat.le_zero] at hgives
    refine h.of_shrinks hgives (fun hafter => h.ahead (hahead id hafter)) (.inl ?_)
    rw [hpending, if_neg hid]

/-- A claim below the limit gives the message once more at most. -/
theorem Counted.claim {stream stream' : MessageStream} (h : Counted config id stream log)
    {consumer : String} {minIdle now : ℚ} {messageId : ℕ} {taken : List StreamEntry}
    (hclaim : stream.claim consumer minIdle messageId now = some (taken, stream'))
    (hbelow : messageId = id → stream.range id ≠ [] → ∀ p ∈ stream.pendingOf id,
      minIdle ≤ now - p.deliveredAt → p.deliveries < config.maxDeliveries) {e : ConsumerEntry ι}
    (hgives : gives id e ≤ (taken.map (·.id)).count id) :
    Counted config id stream' (e :: log) := by
  have hahead : stream'.Ahead id → given id log = 0 :=
    fun hafter => h.ahead ((ahead_claim hclaim).mp hafter)
  rcases claim_spec hclaim with ⟨rfl, hpending⟩ | ⟨entry, p, rfl, hrange, hp, hidle, hpending⟩
  · exact h.of_shrinks (Nat.le_zero.mp hgives) hahead (hpending id)
  · have hentry : entry.id = messageId := by simpa using (List.mem_filter.mp hrange).2
    by_cases hid : messageId = id
    · subst hid
      have hone : gives messageId e ≤ 1 := by simpa [hentry] using hgives
      have hcount := h.counted p hp
      have hless := hbelow rfl (List.ne_nil_of_mem hrange) p hp hidle
      constructor
      · intro hafter
        have hnone := pendingOf_of_ahead ((ahead_claim hclaim).mp hafter)
        rw [hp] at hnone
        cases hnone
      · intro q hq
        rw [hpending, if_pos rfl] at hq
        cases hq
        rw [given_cons]
        simp only [PendingEntry.redelivered]
        omega
      · rw [given_cons]
        omega
    · have hzero : gives id e = 0 := by simpa [hentry, hid] using hgives
      refine h.of_shrinks hzero hahead (.inl ?_)
      rw [hpending, if_neg (Ne.symm hid)]

/-- The log entry of a call that ends in a given way. -/
def entryOf (config : Config) (i : ι) (fate : ConsumerFate) (call : ConsumerCall) (b : Broker) :
    ConsumerEntry ι where
  thread := i
  op := call
  fate := fate
  reply := (consumerAnswer config fate call b).1
  before := b

theorem Counted.xreadgroup (h : Counted config id b.stream log) (i : ι) (fate : ConsumerFate)
    (consumer : String) :
    Counted config id (consumerAnswer config fate (.xreadgroup consumer) b).2.stream
      (entryOf config i fate (.xreadgroup consumer) b :: log) := by
  have hsame : gives id (entryOf config i fate (.xreadgroup consumer) b) = 0 →
      Counted config id b.stream (entryOf config i fate (.xreadgroup consumer) b :: log) :=
    fun hgives => h.of_shrinks hgives h.ahead (.inl rfl)
  obtain ⟨handled, redis⟩ := fate
  unfold entryOf consumerAnswer at hsame ⊢
  cases hread : b.stream.readGroup consumer batchSize b.now with
  | none =>
      cases redis <;> simp only [command, hread, ofGroup] at hsame ⊢ <;> exact hsame rfl
  | some reply =>
      obtain ⟨taken, stream⟩ := reply
      cases redis with
      | refused message => exact hsame rfl
      | done =>
          simp only [command, hread, ofGroup]
          exact h.read hread (le_refl _)
      | lost message =>
          simp only [command, hread, ofGroup]
          exact h.read hread (Nat.zero_le _)

theorem Counted.xclaim (h : Counted config id b.stream log) (i : ι) (fate : ConsumerFate)
    (consumer : String) (messageId : ℕ)
    (hbelow : BelowLimit config id b fate (.xclaim consumer messageId)) :
    Counted config id (consumerAnswer config fate (.xclaim consumer messageId) b).2.stream
      (entryOf config i fate (.xclaim consumer messageId) b :: log) := by
  have hsame : gives id (entryOf config i fate (.xclaim consumer messageId) b) = 0 →
      Counted config id b.stream (entryOf config i fate (.xclaim consumer messageId) b :: log) :=
    fun hgives => h.of_shrinks hgives h.ahead (.inl rfl)
  obtain ⟨handled, redis⟩ := fate
  unfold entryOf consumerAnswer at hsame ⊢
  cases hclaim : b.stream.claim consumer config.claimMinIdleMs messageId b.now with
  | none =>
      cases redis <;> simp only [command, hclaim, ofGroup] at hsame ⊢ <;> exact hsame rfl
  | some reply =>
      obtain ⟨taken, stream⟩ := reply
      cases redis with
      | refused message => exact hsame rfl
      | done =>
          simp only [command, hclaim, ofGroup]
          exact h.claim hclaim (fun hid => hbelow hid rfl) (le_refl _)
      | lost message =>
          simp only [command, hclaim, ofGroup]
          exact h.claim hclaim (fun hid => hbelow hid rfl) (Nat.zero_le _)

/-- Every call below the limit keeps the count. -/
theorem Counted.called (h : Counted config id b.stream log) (i : ι) (fate : ConsumerFate)
    (call : ConsumerCall) (hbelow : BelowLimit config id b fate call) :
    Counted config id (consumerAnswer config fate call b).2.stream
      (entryOf config i fate call b :: log) := by
  have hsame : gives id (entryOf config i fate call b) = 0 →
      Counted config id b.stream (entryOf config i fate call b :: log) :=
    fun hgives => h.of_shrinks hgives h.ahead (.inl rfl)
  cases call with
  | xreadgroup consumer => exact h.xreadgroup i fate consumer
  | xclaim consumer messageId => exact h.xclaim i fate consumer messageId hbelow
  | xgroupCreate =>
      rw [consumerAnswer_state]
      split
      · exact hsame rfl
      · dsimp only [command]
        split
        · exact hsame rfl
        · rename_i stream hcreate
          have hspec := fun id => pendingOf_createGroup id hcreate
          refine h.of_shrinks rfl (fun _ => h.ahead fun group hgroup => ?_) (.inr (hspec id).2)
          rw [(hspec id).1] at hgroup
          cases hgroup
  | xack messageId =>
      rw [consumerAnswer_state]
      split
      · exact hsame rfl
      · refine h.of_shrinks rfl (fun hafter => h.ahead (ahead_ack.mp hafter)) ?_
        dsimp only [command]
        rw [pendingOf_ack]
        split
        · exact .inr rfl
        · exact .inl rfl
  | xpending =>
      rw [consumerAnswer_state]
      split
      · exact hsame rfl
      · dsimp only [command]
        cases b.stream.pendingIdle config.claimMinIdleMs batchSize b.now with
        | none => exact hsame rfl
        | some rows => exact hsame rfl
  | running | process | sleep | handle | xrange | xadd =>
      rw [consumerAnswer_state]
      split
      · exact hsame rfl
      · exact hsame rfl

theorem Counted.change (h : Counted config id b.stream log) (change : BrokerChange) :
    Counted config id (change.apply b).stream log := by
  cases change with
  | advance | trimDead | setRunning => exact h
  | publish fields =>
      exact ⟨fun hafter => h.ahead (ahead_add fields |>.mp hafter), h.counted, h.bounded⟩
  | remove gone =>
      exact ⟨fun hafter => h.ahead (ahead_remove gone |>.mp hafter), h.counted, h.bounded⟩

end

/-! ## Claim passes -/
section

variable {config : Config} {id : ℕ} {i : ι} {e : ConsumerEntry ι}
  {newer older : List (ConsumerEntry ι)}

/-- A pass that has listed the message at the limit: what it has disposed of since is in
the log, and so is a rejected command. -/
structure AtLimit (config : Config) (id : ℕ) (i : ι) (newer : List (ConsumerEntry ι))
    (pass : ClaimPass) : Prop where
  listed : ∃ row ∈ pass.listed, row.id = id ∧ config.maxDeliveries ≤ row.deliveries
  rows : ∀ row ∈ pass.rows, row.id = id → config.maxDeliveries ≤ row.deliveries
  letters : id ∈ pass.letters → ∃ letter ∈ newer, letter.thread = i ∧ DeadLettered id letter
  acked : id ∈ pass.acked → ∃ ack ∈ newer, ack.thread = i ∧ Acknowledged id ack
  failed : pass.failed = true → ∃ later ∈ newer, later.thread = i ∧ Rejected later

/-- More calls in the log leave a pass as it was. -/
theorem AtLimit.mono {pass : ClaimPass} (h : AtLimit config id i newer pass)
    (e : ConsumerEntry ι) : AtLimit config id i (e :: newer) pass where
  listed := h.listed
  rows := h.rows
  letters hid := (h.letters hid).imp fun _ h => ⟨List.mem_cons_of_mem _ h.1, h.2⟩
  acked hid := (h.acked hid).imp fun _ h => ⟨List.mem_cons_of_mem _ h.1, h.2⟩
  failed hfailed := (h.failed hfailed).imp fun _ h => ⟨List.mem_cons_of_mem _ h.1, h.2⟩

/-- A call of the pass itself is no claim of the message. -/
theorem AtLimit.self {pass : ClaimPass} (h : AtLimit config id i newer pass)
    (hthread : e.thread = i) (hallows : pass.Allows config e.op)
    (hreply : e.reply = (consumerAnswer config e.fate e.op e.before).1) :
    ¬ Claims id e ∧ AtLimit config id i (e :: newer) (pass.next e.op e.reply) := by
  have hmono := h.mono e
  obtain ⟨thread, op, fate, reply, before⟩ := e
  change thread = i at hthread
  subst hthread
  have hcarried : op.isCommand = true → ∀ a, reply = .ok a → fate.redis.carriedOut = true := by
    intro hcommand a ha
    rw [(consumerAnswer_ok hcommand (hreply.symm.trans ha)).1]
    rfl
  -- A rejected command is in the log, and a row leaves the list.
  have hrejected : op.isCommand = true → ∀ failure, reply = .error failure →
      AtLimit config id thread (⟨thread, op, fate, reply, before⟩ :: newer)
        { pass with failed := true } := fun hcommand failure herror =>
    { hmono with failed := fun _ => ⟨_, List.mem_cons_self, rfl, hcommand, failure, herror⟩ }
  have htail : AtLimit config id thread (⟨thread, op, fate, reply, before⟩ :: newer)
      { pass with rows := pass.rows.tail } :=
    { hmono with rows := fun row hrow => hmono.rows row (List.mem_of_mem_tail hrow) }
  cases op with
  | xpending =>
      obtain ⟨row, hrow, -⟩ := h.listed
      rw [show pass = ClaimPass.init from hallows] at hrow
      cases hrow
  | xclaim consumer messageId =>
      constructor
      · rintro ⟨other, hop⟩
        obtain ⟨row, rows, hrows, hid, hlimit⟩ := hallows
        cases hop
        have hrow := h.rows row (hrows ▸ List.mem_cons_self) hid
        omega
      · cases reply with
        | error failure => exact hrejected rfl failure rfl
        | ok _ => exact htail
  | xrange messageId =>
      refine ⟨by simp [Claims], ?_⟩
      cases reply with
      | error failure => exact hrejected rfl failure rfl
      | ok _ => exact htail
  | xadd letter =>
      refine ⟨by simp [Claims], ?_⟩
      cases reply with
      | error failure => exact hrejected rfl failure rfl
      | ok _ =>
          refine { hmono with letters := fun hid => ?_ }
          rcases List.mem_cons.mp hid with hletter | hid
          · exact ⟨_, List.mem_cons_self, rfl, hletter.symm, hcarried rfl _ rfl⟩
          · exact hmono.letters hid
  | xack messageId =>
      refine ⟨by simp [Claims], ?_⟩
      cases reply with
      | error failure => exact hrejected rfl failure rfl
      | ok _ =>
          refine { hmono with acked := fun hid => ?_ }
          rcases List.mem_cons.mp hid with rfl | hid
          · exact ⟨_, List.mem_cons_self, rfl, rfl, hcarried rfl _ rfl⟩
          · exact hmono.acked hid
  | xgroupCreate | xreadgroup =>
      refine ⟨by simp [Claims], ?_⟩
      cases reply with
      | error failure => exact hrejected rfl failure rfl
      | ok _ => exact hmono
  | running | process | sleep | handle =>
      refine ⟨by simp [Claims], ?_⟩
      cases reply with
      | error failure => exact hmono
      | ok _ => exact hmono

variable [DecidableEq ι]

/-- How far a claim pass has come after the calls of a log. -/
def passAfter (config : Config) (i : ι) (log : List (ConsumerEntry ι)) : ClaimPass :=
  Pool.seen (fun _ => passProtocol config) (fun _ => ClaimPass.init) i log

/-- Every call of the log was allowed to its claim pass. -/
abbrev PassLawful (config : Config) (log : List (ConsumerEntry ι)) : Prop :=
  Pool.Lawful (fun _ => passProtocol config) (fun _ => ClaimPass.init) log

/-- A pass lists a message once. -/
theorem atLimit_listed (hallows : (passAfter config e.thread older).Allows config e.op)
    (hreply : e.reply = (consumerAnswer config e.fate e.op e.before).1)
    (h : ListsAtLimit config id e) :
    AtLimit config id e.thread [] (passAfter config e.thread (e :: older)) := by
  unfold passAfter at hallows ⊢
  rw [Pool.seen_self rfl]
  obtain ⟨thread, op, fate, reply, before⟩ := e
  cases op with
  | xpending =>
      cases reply with
      | error failure => exact h.elim
      | ok rows =>
          obtain ⟨row, hrow, hid, hlimit⟩ := h
          have hinit : Pool.seen (fun _ => passProtocol config) (fun _ => ClaimPass.init) thread
              older = ClaimPass.init := hallows
          have hcommand := (consumerAnswer_ok rfl hreply.symm).2
          rw [hcommand] at hreply
          have hnodup : (rows.map (·.id)).Nodup := by
            cases hpending : before.stream.pendingIdle config.claimMinIdleMs batchSize
                before.now with
            | none => simp [command, hpending, ofGroup] at hreply
            | some listed =>
                simp only [command, hpending, ofGroup, Option.map_some, Except.ok.injEq] at hreply
                exact hreply ▸ nodup_pendingIdle hpending
          have hnext : (passProtocol config).next ClaimPass.init .xpending (.ok rows) =
              { ClaimPass.init with listed := rows, rows := rows } := rfl
          dsimp only
          rw [hinit, hnext]
          refine ⟨⟨row, hrow, hid, hlimit⟩, ?_, ?_, ?_, ?_⟩
          · intro other hother hsame
            rw [List.inj_on_of_nodup_map hnodup hother hrow (hsame.trans hid.symm)]
            exact hlimit
          · intro hmem
            cases hmem
          · intro hmem
            cases hmem
          · intro hfailed
            cases hfailed
  | _ => exact h.elim

/-- What a pass has listed at the limit it does not claim. -/
theorem atLimit_newer (hanswered : Pool.Answered (consumerAnswer config) (newer ++ e :: older))
    (hlawful : PassLawful config (newer ++ e :: older)) (h : ListsAtLimit config id e) :
    (∀ later ∈ newer, later.thread = e.thread → ¬ Claims id later) ∧
      AtLimit config id e.thread newer (passAfter config e.thread (newer ++ e :: older)) := by
  induction newer with
  | nil =>
      refine ⟨fun _ hmem => absurd hmem List.not_mem_nil, ?_⟩
      exact atLimit_listed hlawful.1 (hanswered e List.mem_cons_self) h
  | cons x newer ih =>
      obtain ⟨hunclaimed, hlimit⟩ :=
        ih (fun e' he' => hanswered e' (List.mem_cons_of_mem _ he')) hlawful.2
      by_cases hthread : x.thread = e.thread
      · have hallows := hlawful.1
        rw [hthread] at hallows
        obtain ⟨hnot, hnext⟩ := hlimit.self hthread hallows (hanswered x List.mem_cons_self)
        constructor
        · intro later hlater hsame
          rcases List.mem_cons.mp hlater with rfl | hmem
          · exact hnot
          · exact hunclaimed later hmem hsame
        · rw [List.cons_append, passAfter, Pool.seen_self hthread]
          exact hnext
      · constructor
        · intro later hlater hsame
          rcases List.mem_cons.mp hlater with rfl | hmem
          · exact absurd hsame hthread
          · exact hunclaimed later hmem hsame
        · rw [List.cons_append, passAfter, Pool.seen_of_ne hthread]
          exact hlimit.mono x

end

/-! ## Whole runs -/

section

variable [DecidableEq ι] {config : Config} {id : ℕ}

/-- A step below the limit keeps the count. -/
theorem counted_next {pool : ConsumerPool ι}
    (h : Counted config id pool.shared.stream pool.log)
    (move : Move ι ConsumerFate BrokerChange) (hbelow : ClaimsBelow config id pool move) :
    Counted config id (ConsumerPool.next config pool move).shared.stream
      (ConsumerPool.next config pool move).log := by
  cases move with
  | other change => exact h.change change
  | step i fate =>
      unfold ConsumerPool.next Pool.next
      dsimp only
      split
      · rename_i op k hcall
        refine h.called i fate op (hbelow op ?_)
        rw [hcall]
        rfl
      · exact h

theorem counted_run (parse : String → Option Json) (tasks : ι → ConsumerTask) (b : Broker)
    (moves : List (Move ι ConsumerFate BrokerChange))
    (hbelow : Always (ConsumerPool.next config) (ClaimsBelow config id)
      (ConsumerPool.start config parse tasks b) moves) :
    Counted config id (ConsumerPool.after config parse tasks b moves).shared.stream
      (ConsumerPool.after config parse tasks b moves).log :=
  runFrom_of_guarded
    (I := fun pool : ConsumerPool ι => Counted config id pool.shared.stream pool.log)
    (fun _ move h hmove => counted_next h move hmove)
    ⟨fun _ => rfl, fun _ _ => Nat.zero_le _, Nat.zero_le _⟩ hbelow

theorem orderly_passes (config : Config) (parse : String → Option Json)
    (tasks : ι → ConsumerTask) (b : Broker) (moves : List (Move ι ConsumerFate BrokerChange)) :
    Pool.Orderly (consumerAnswer config) (fun _ => passProtocol config)
      (fun _ => ClaimPass.init) (fun _ => ClaimPass.Ended config)
      (ConsumerPool.after config parse tasks b moves) :=
  Pool.orderly_run b (fun i => moves_task parse (tasks i)) moves

/-- In every run of read loops and claim passes in which no claim takes the message at the
limit, the handler is called for it no more often than the limit, and who lists it at the
limit moves it to the dead letters. -/
theorem attempts_bounded (config : Config) (parse : String → Option Json)
    (tasks : ι → ConsumerTask) (b : Broker) (id : ℕ)
    (moves : List (Move ι ConsumerFate BrokerChange))
    (hbelow : Always (ConsumerPool.next config) (ClaimsBelow config id)
      (ConsumerPool.start config parse tasks b) moves) :
    AttemptsBounded config id (ConsumerPool.after config parse tasks b moves) := by
  have hcounted := counted_run parse tasks b moves hbelow
  have hhands := orderly_consumers config parse tasks b moves
  have hpasses := orderly_passes config parse tasks b moves
  set pool := ConsumerPool.after config parse tasks b moves with hpool
  refine ⟨(attempts_le_given hhands.lawful).trans hcounted.bounded, ?_, ?_⟩
  · intro newer e older hlog hlists
    exact (atLimit_newer (hlog ▸ hpasses.answered) (hlog ▸ hpasses.lawful) hlists).1
  · intro newer e older hlog hlists hended haccepted
    have hlimit := (atLimit_newer (hlog ▸ hpasses.answered) (hlog ▸ hpasses.lawful) hlists).2
    obtain ⟨_, hfailed | hthrough⟩ := hpasses.ends.ended hended
    · rw [hlog] at hfailed
      obtain ⟨later, hlater, hthread, hrejected⟩ := hlimit.failed hfailed
      exact absurd hrejected (haccepted later hlater hthread)
    · rw [hlog] at hthrough
      obtain ⟨row, hrow, rfl, hcount⟩ := hlimit.listed
      rcases hthrough row hrow with hmem | hmoved
      · cases hmem
      · exact ⟨hlimit.letters (hmoved hcount).1, hlimit.acked (hmoved hcount).2⟩

/-! ## A pass that is held up -/

/-- The limit is two deliveries. -/
def twoDeliveries : Config := { defaultConfig with maxDeliveries := 2 }

/-- The text of an outcome event. -/
def eventText : String :=
  "\x7b\"schemaVersion\":1,\"eventId\":\"evt_1\",\"eventType\":\"txn.outcome\"," ++
  "\"occurredAt\":\"2026-01-01T00:00:00.000Z\",\"transactionId\":\"txn_1\"," ++
  "\"decisionId\":\"dec_1\",\"channelId\":\"RAIL-A\",\"status\":\"success\"," ++
  "\"latencyMs\":120,\"errorCode\":null,\"attempt\":1,\"routingSource\":\"switch\"\x7d"

/-- A parser that knows one text. -/
def parseEvent (text : String) : Option Json :=
  if text = eventText then some (payoutOutcome "evt_1" "dec_1" "RAIL-A" .success).toJson
  else none

/-- Two messages that nobody has read yet. -/
def twoMessages : Broker where
  now := 0
  stream := ((MessageStream.empty.add ["payload", eventText]).add
    ["payload", eventText]).createGroup.getD .empty
  dead := []
  running _ := true

/-- The tasks of one instance. -/
inductive Worker where
  | loop
  | firstPass
  | secondPass
  deriving DecidableEq

/-- One read loop, and two passes that overlap. -/
def loopAndPasses : Worker → ConsumerTask
  | .loop => .readLoop "switch-1" 1
  | .firstPass | .secondPass => .claimStale "switch-1"

/-- Calls of one task; the handler fails. -/
def failing (task : Worker) (calls : ℕ) : List (Move Worker ConsumerFate BrokerChange) :=
  List.replicate calls
    (.step task { handled := .error (.rejected "connect ECONNREFUSED"), redis := .done })

/-- Some milliseconds pass. -/
def later (ms : ℕ) : List (Move Worker ConsumerFate BrokerChange) := [.other (.advance ms)]

/-- The first pass has listed both messages and waits for the handler of the first one
while the second pass claims the second message; then it claims it too. -/
def heldUp : List (Move Worker ConsumerFate BrokerChange) :=
  failing .loop 6 ++ later 40000 ++ failing .firstPass 4 ++ later 10000 ++
    failing .secondPass 5 ++ later 30000 ++ failing .firstPass 4

theorem attempts_over_limit : ¬ AttemptsBounded twoDeliveries 2
    (ConsumerPool.after twoDeliveries parseEvent loopAndPasses twoMessages heldUp) := by
  intro h
  exact absurd h.bounded (by decide +kernel)

/-- The passes come one after the other, and the last one finds the messages at the
limit. -/
def oneByOne : List (Move Worker ConsumerFate BrokerChange) :=
  failing .loop 6 ++ later 40000 ++ failing .firstPass 8 ++ later 40000 ++
    failing .secondPass 8

theorem attempts_bounded_oneByOne : AttemptsBounded twoDeliveries 2
    (ConsumerPool.after twoDeliveries parseEvent loopAndPasses twoMessages oneByOne) :=
  attempts_bounded twoDeliveries parseEvent loopAndPasses twoMessages 2 oneByOne
    (by decide +kernel)

end

end SwitchService.Runs
