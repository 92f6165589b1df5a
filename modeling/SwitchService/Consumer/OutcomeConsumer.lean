import SwitchService.Consumer.OutcomeHandler
import SwitchService.Foundation.Interleaving
import SwitchService.Foundation.RedisStream

set_option autoImplicit false

/-!
# Consumer: the outcome consumer (`consumer/outcomeConsumer.ts`, `redis/consumerGroup.ts`)

The read loop takes batches from the consumer group, a timer starts passes that claim
what was left pending, and both give each message to `process`.  They are programs over
`ConsumerCall`: the Redis commands, the handler as one call, and what the consumer looks
at in its own memory.  The counters and the events for the console are left out.
-/

namespace SwitchService.Consumer

open SwitchService.Foundation SwitchService.Foundation.Redis SwitchService.Store

/-! ## The calls -/

/-- An entry of the dead-letter stream. -/
structure DeadLetter where
  originalId : ℕ
  reason : String
  payload : String
  deriving DecidableEq

/-- What the consumer waits for. -/
inductive ConsumerCall where
  /-- The flag `this.running` of an instance. -/
  | running (consumer : String)
  /-- `process` begins with a message; nothing else happens. -/
  | process (messageId : ℕ)
  | sleep (ms : ℕ)
  /-- `handler.handle`, for the delivery of a message. -/
  | handle (messageId : ℕ) (message : Json)
  | xgroupCreate
  | xreadgroup (consumer : String)
  | xpending
  | xrange (messageId : ℕ)
  | xclaim (consumer : String) (messageId : ℕ)
  | xadd (letter : DeadLetter)
  | xack (messageId : ℕ)

/-- What a call answers. -/
abbrev ConsumerCall.Ans : ConsumerCall → Type
  | .running _ => Bool
  | .process _ => Unit
  | .sleep _ => Unit
  | .handle _ _ => HandleOutcome
  | .xgroupCreate => Unit
  | .xreadgroup _ => List StreamEntry
  | .xpending => List PendingEntry
  | .xrange _ => List StreamEntry
  | .xclaim _ _ => List StreamEntry
  | .xadd _ => Unit
  | .xack _ => Unit

/-- What the consumers of a group share. -/
structure Broker where
  now : ℚ
  stream : MessageStream
  /-- The dead-letter stream, newest first. -/
  dead : List DeadLetter
  /-- Which instances run. -/
  running : String → Bool

/-- The `COUNT` of both loops. -/
def batchSize : ℕ := 50

/-- The error of a command whose group is not there. -/
def noGroup (config : Config) : String :=
  "NOGROUP No such key '" ++ config.outcomeStream ++ "' or consumer group '" ++
    config.consumerGroup ++ "'"

/-- The error of `XGROUP CREATE` where the group is there already. -/
def busyGroup : String := "BUSYGROUP Consumer Group name already exists"

/-- A command of the group, or the error of a group that is not there. -/
def ofGroup (config : Config) {α : Type} (b : Broker) :
    Option (α × MessageStream) → Except Failure α × Broker
  | none => (.error (.rejected (noGroup config)), b)
  | some (a, stream) => (.ok a, { b with stream := stream })

/-- What a call does when it is carried out.  The handler is not a command. -/
def command (config : Config) (handled : Except Failure HandleOutcome) :
    (call : ConsumerCall) → Broker → Except Failure call.Ans × Broker
  | .running consumer, b => (.ok (b.running consumer), b)
  | .process _, b => (.ok (), b)
  | .sleep _, b => (.ok (), b)
  | .handle _ _, b => (handled, b)
  | .xgroupCreate, b =>
      match b.stream.createGroup with
      | none => (.error (.rejected busyGroup), b)
      | some stream => (.ok (), { b with stream := stream })
  | .xreadgroup consumer, b =>
      ofGroup config b (b.stream.readGroup consumer batchSize b.now)
  | .xpending, b =>
      ofGroup config b ((b.stream.pendingIdle config.claimMinIdleMs batchSize b.now).map
        fun rows => (rows, b.stream))
  | .xrange messageId, b => (.ok (b.stream.range messageId), b)
  | .xclaim consumer messageId, b =>
      ofGroup config b (b.stream.claim consumer config.claimMinIdleMs messageId b.now)
  | .xadd letter, b => (.ok (), { b with dead := letter :: b.dead })
  | .xack messageId, b => (.ok (), { b with stream := b.stream.ack messageId })

/-- A call is a Redis command. -/
def ConsumerCall.isCommand : ConsumerCall → Bool
  | .running _ | .process _ | .sleep _ | .handle _ _ => false
  | _ => true

/-- How a Redis command ends. -/
inductive CommandFate where
  | done
  /-- It rejects and was not carried out. -/
  | refused (message : String)
  /-- It was carried out and rejects all the same. -/
  | lost (message : String)
  deriving DecidableEq

/-- The command took effect. -/
def CommandFate.carriedOut : CommandFate → Bool
  | .refused _ => false
  | _ => true

/-- How a call ends: what the handler resolves to, and how a command ends. -/
structure ConsumerFate where
  handled : Except Failure HandleOutcome
  redis : CommandFate

/-- The answer to a call that ends in a given way. -/
def consumerAnswer (config : Config) :
    Pool.Answer ConsumerFate Broker Failure ConsumerCall.Ans := fun fate call b =>
  match call.isCommand, fate.redis with
  | true, .refused message => (.error (.rejected message), b)
  | true, .lost message => (.error (.rejected message), (command config fate.handled call b).2)
  | _, _ => command config fate.handled call b

/-! ## The programs -/

/-- An asynchronous function of the consumer. -/
abbrev ConsumerProgram (α : Type) : Type := Prog ConsumerCall ConsumerCall.Ans Failure α

/-- The `message` of an error. -/
def errorMessage : Failure → String
  | .contract detail => "the outcome event does not match the contract: " ++ detail
  | .noEligibleChannel message _ => message
  | .rejected message => message

/-- `String.prototype.includes`. -/
def includesText (text part : String) : Bool := decide (part.toList <:+: text.toList)

/-- The value of the first field with a name. -/
def fieldValue : List String → String → Option String
  | field :: value :: fields, name => if field = name then some value else fieldValue fields name
  | _, _ => none

section

variable (config : Config) (parse : String → Option Json)

/-- `payload ? JSON.parse(payload) : null`. -/
def parsePayload (payload : Option String) : Option Json :=
  match payload with
  | none => some .null
  | some text => if text = "" then some .null else parse text

/-- `deadLetter`: the letter is written before the message is acknowledged, and an error is only
logged. -/
def deadLetter (messageId : ℕ) (fields : List String) (reason : String) :
    ConsumerProgram Unit :=
  Prog.tryCatch
    (do
      let _ ← Prog.await (.xadd
        { originalId := messageId
          reason := reason
          payload := (fieldValue fields "payload").getD "" })
      let _ ← Prog.await (.xack messageId)
      return ())
    fun _ => return ()

/-- The part of `process` after the payload was read. -/
def handleMessage (messageId : ℕ) (fields : List String) (message : Json) :
    ConsumerProgram Unit :=
  Prog.tryCatch
    (do
      let _ ← Prog.await (.handle messageId message)
      let _ ← Prog.await (.xack messageId)
      return ())
    fun
      | .contract detail => deadLetter messageId fields detail
      | _ => return ()

/-- `process` begins with a message; this cannot fail. -/
def beginProcess (messageId : ℕ) : ConsumerProgram Unit :=
  Prog.call (.process messageId) fun _ => return ()

/-- `process`: a text that is no JSON goes to the dead letters at once. -/
def process (messageId : ℕ) (fields : List String) : ConsumerProgram Unit := do
  beginProcess messageId
  match parsePayload parse (fieldValue fields "payload") with
  | none => deadLetter messageId fields "payload is not JSON"
  | some message => handleMessage messageId fields message

/-- The loop over the entries of one reply. -/
def processAll : List StreamEntry → ConsumerProgram Unit
  | [] => return ()
  | entry :: entries => do
      process parse entry.id entry.fields
      processAll entries

/-- `ensureConsumerGroup`: true when this call made the group. -/
def ensureConsumerGroup : ConsumerProgram Bool :=
  Prog.tryCatch
    (do
      let _ ← Prog.await .xgroupCreate
      return true)
    fun error =>
      if includesText (errorMessage error) "BUSYGROUP" then return false else .throw error

/-- The `catch` of the read loop; the answer is whether the loop goes on. -/
def repairRead (consumer : String) (error : Failure) : ConsumerProgram Bool := do
  let running ← Prog.await (.running consumer)
  if running then
    if includesText (errorMessage error) "NOGROUP" then
      Prog.tryCatch
        (do
          let _ ← ensureConsumerGroup
          return true)
        fun _ => do
          let _ ← Prog.await (.sleep 500)
          return true
    else do
      let _ ← Prog.await (.sleep 500)
      return true
  else return false

/-- One round of the read loop; the answer is whether the loop goes on. -/
def readRound (consumer : String) : ConsumerProgram Bool :=
  Prog.tryCatch
    (do
      let entries ← Prog.await (.xreadgroup consumer)
      processAll parse entries
      return true)
    (repairRead consumer)

/-- `readLoop`, followed for a number of rounds. -/
def readLoop (consumer : String) : ℕ → ConsumerProgram Unit
  | 0 => return ()
  | rounds + 1 => do
      let running ← Prog.await (.running consumer)
      if running then
        let goesOn ← readRound parse consumer
        if goesOn then readLoop consumer rounds else return ()
      else return ()

/-- The reason of a message that was delivered too often. -/
def failedReason (deliveries : ℕ) : String :=
  "failed " ++ Number.natText deliveries ++ " times"

/-- What a claim pass does with one pending message. -/
def claimOne (consumer : String) (row : PendingEntry) : ConsumerProgram Unit :=
  if row.deliveries ≥ config.maxDeliveries then do
    let entries ← Prog.await (.xrange row.id)
    let fields := (entries.head?.map (·.fields)).getD []
    deadLetter row.id fields (failedReason row.deliveries)
  else do
    let claimed ← Prog.await (.xclaim consumer row.id)
    processAll parse claimed

/-- The loop over the listed messages. -/
def claimAll (consumer : String) : List PendingEntry → ConsumerProgram Unit
  | [] => return ()
  | row :: rows => do
      claimOne config parse consumer row
      claimAll consumer rows

/-- `claimStale`: an error ends the pass and is only logged. -/
def claimStale (consumer : String) : ConsumerProgram Unit := do
  let running ← Prog.await (.running consumer)
  if running then
    Prog.tryCatch
      (do
        let pending ← Prog.await .xpending
        claimAll config parse consumer pending)
      fun _ => return ()
  else return ()

/-- The read loop of an instance, or one of its claim passes. -/
inductive ConsumerTask where
  | readLoop (consumer : String) (rounds : ℕ)
  | claimStale (consumer : String)

/-- The program of a task. -/
def ConsumerTask.program : ConsumerTask → ConsumerProgram Unit
  | .readLoop consumer rounds => Consumer.readLoop parse consumer rounds
  | .claimStale consumer => Consumer.claimStale config parse consumer

/-- The task runs the read loop. -/
def ConsumerTask.reads : ConsumerTask → Bool
  | .readLoop _ _ => true
  | .claimStale _ => false

end

/-! ## What happens besides the calls -/

/-- What happens to the streams and the instances between the calls. -/
inductive BrokerChange where
  | advance (elapsed : ℚ≥0)
  /-- Somebody writes to the outcome stream. -/
  | publish (fields : List String)
  /-- Entries are removed from the outcome stream. -/
  | remove (gone : StreamEntry → Bool)
  /-- Entries are removed from the dead-letter stream. -/
  | trimDead (kept : ℕ)
  /-- An instance starts or stops. -/
  | setRunning (consumer : String) (running : Bool)

/-- What such a change does. -/
def BrokerChange.apply : BrokerChange → Broker → Broker
  | .advance elapsed, b => { b with now := b.now + elapsed }
  | .publish fields, b => { b with stream := b.stream.add fields }
  | .remove gone, b => { b with stream := b.stream.remove gone }
  | .trimDead kept, b => { b with dead := b.dead.take kept }
  | .setRunning consumer running, b =>
      { b with running := Function.update b.running consumer running }

/-- A pool of read loops and claim passes. -/
abbrev ConsumerPool (ι : Type) : Type :=
  Pool ConsumerFate Broker Failure ConsumerCall.Ans fun _ : ι => Unit

/-- A call of a consumer, as the log keeps it. -/
abbrev ConsumerEntry (ι : Type) : Type :=
  Entry ι ConsumerFate Broker Failure ConsumerCall.Ans

section

variable {ι : Type} [DecidableEq ι] (config : Config) (parse : String → Option Json)

/-- The tasks before their first calls. -/
def ConsumerPool.start (tasks : ι → ConsumerTask) (b : Broker) : ConsumerPool ι :=
  Pool.start (fun i => (tasks i).program config parse) b

/-- One step of the pool. -/
def ConsumerPool.next (pool : ConsumerPool ι) (move : Move ι ConsumerFate BrokerChange) :
    ConsumerPool ι :=
  Pool.next (consumerAnswer config) BrokerChange.apply pool move

/-- The pool after a run. -/
def ConsumerPool.after (tasks : ι → ConsumerTask) (b : Broker)
    (moves : List (Move ι ConsumerFate BrokerChange)) : ConsumerPool ι :=
  runFrom (ConsumerPool.next config) (ConsumerPool.start config parse tasks b) moves

end

/-! ## Answers -/

section

variable {config : Config} {fate : ConsumerFate} {call : ConsumerCall} {b : Broker}

/-- A call leaves the state or does what `command` says. -/
theorem consumerAnswer_state :
    (consumerAnswer config fate call b).2 =
      if call.isCommand = true ∧ fate.redis.carriedOut = false then b
      else (command config fate.handled call b).2 := by
  unfold consumerAnswer
  cases call.isCommand with
  | false => cases fate.redis <;> rfl
  | true => cases fate.redis <;> rfl

/-- A command that is answered was carried out. -/
theorem consumerAnswer_ok (hcall : call.isCommand = true) {a : call.Ans}
    (h : (consumerAnswer config fate call b).1 = .ok a) :
    fate.redis = .done ∧
      consumerAnswer config fate call b = command config fate.handled call b := by
  unfold consumerAnswer at h ⊢
  rw [hcall] at h ⊢
  cases hfate : fate.redis with
  | done => exact ⟨rfl, rfl⟩
  | refused message =>
      rw [hfate] at h
      cases h
  | lost message =>
      rw [hfate] at h
      cases h

end

end SwitchService.Consumer
