import SwitchService.Runs.LostUpdate
import SwitchService.Runs.System

set_option autoImplicit false

/-!
# Runs: who owns the probe slot

The slot of a channel belongs to the decision whose route call took it, until an
outcome frees it or its time has passed.  The handler feeds any outcome of a HALF_OPEN
channel to `recordProbe`, stores the result and frees the slot, with one store call each;
between these calls the slot can run out and be taken again.  The log of a pool names the
owners and says when a call is made for the outcome of the owner.
-/

namespace SwitchService.Runs

open SwitchService.Foundation SwitchService.Domain SwitchService.Store
open SwitchService.Repositories SwitchService.Consumer SwitchService.Services

/-! ## The slots by the log -/

/-- A route call took the probe slot of a channel for its decision. -/
structure Acquisition where
  decisionId : String
  channelId : String
  takenAt : ℚ
  deriving DecidableEq

/-- What is remembered of a run: the slots that were taken, the decisions whose outcome freed
a slot, with its channel, and the owner of each slot since it was last taken or freed. -/
structure ProbeLedger where
  acquired : List Acquisition
  freed : List (String × String)
  owner : String → Option String

/-- The slot that a call sets or deletes, with the end of its time. -/
def slotWritten (fate : Fate) : Call → World → Option (String × Option ℚ)
  | .takeProbeSlot id ttlMs, w =>
      if fate.carriedOut = true ∧ ¬ w.slotHeld id then some (id, some (w.now + ttlMs)) else none
  | .releaseProbeSlot id, _ => if fate.carriedOut = true then some (id, none) else none
  | _, _ => none

/-- The ledger after a call of a task. -/
def ProbeLedger.after (ledger : ProbeLedger) (task : Task) (fate : Fate) (call : Call)
    (w : World) : ProbeLedger :=
  match slotWritten fate call w with
  | some (id, some _) =>
      { ledger with
        acquired := (task.decisionId.map fun decisionId =>
            { decisionId := decisionId, channelId := id, takenAt := w.now }).toList ++
          ledger.acquired
        owner := Function.update ledger.owner id task.decisionId }
  | some (id, none) =>
      { ledger with
        freed := (task.event.map fun event => (event.decisionId, id)).toList ++ ledger.freed
        owner := Function.update ledger.owner id none }
  | none => ledger

variable {ι : Type} [DecidableEq ι]

variable (config : Config) (tasks : ι → Task)

/-- The ledger of a run. -/
def ledgerOf : List (TaskEntry ι) → ProbeLedger
  | [] => { acquired := [], freed := [], owner := fun _ => none }
  | e :: log => (ledgerOf log).after (tasks e.thread) e.fate e.op e.before

/-- The channel on which a call of a delivery treats its outcome as a probe: it reads the
breaker as HALF_OPEN and so feeds `recordProbe`, stores what came of that, or frees the
slot. -/
def probedChannel (seen : Seen) (fate : Fate) : Call → World → Option String
  | .readBreaker id, w =>
      if fate = .done ∧ (w.breakers id).state = .halfOpen then some id else none
  | .writeBreaker id _, _ =>
      if fate.carriedOut = true ∧ (seen.read id).any (·.state = .halfOpen) = true then some id
      else none
  | .releaseProbeSlot id, _ => if fate.carriedOut = true then some id else none
  | _, _ => none

/-- The outcome that a step treats as a probe, with the channel. -/
def probed (pool : TaskPool tasks) : Move ι Fate Change → Option (String × TxnOutcomeEvent)
  | .step i fate =>
      match (pool.threads i).nextCall, (tasks i).event with
      | some call, some event =>
          (probedChannel (seenBy config tasks i pool.log) fate call pool.shared).map
            fun id => (id, event)
      | _, _ => none
  | .other _ => none

/-- The outcome is one of a decision that took the slot of the channel less than the slot's
time to live ago, and no outcome of this decision has freed the slot. -/
def ProbesInTime (pool : TaskPool tasks) (move : Move ι Fate Change) : Prop :=
  ∀ probe ∈ probed config tasks pool move,
    (probe.2.decisionId, probe.1) ∉ (ledgerOf tasks pool.log).freed ∧
      ∃ a ∈ (ledgerOf tasks pool.log).acquired, a.decisionId = probe.2.decisionId ∧
        a.channelId = probe.1 ∧ pool.shared.now < a.takenAt + probeSlotTtlMs

instance (pool : TaskPool tasks) (move : Move ι Fate Change) :
    Decidable (ProbesInTime config tasks pool move) :=
  inferInstanceAs (Decidable (∀ probe ∈ probed config tasks pool move, _ ∧ _))

/-- The outcome is that of the decision that owns the slot, and the slot is held. -/
def ProbesAsOwner (pool : TaskPool tasks) (move : Move ι Fate Change) : Prop :=
  ∀ probe ∈ probed config tasks pool move, pool.shared.slotHeld probe.1 ∧
    (ledgerOf tasks pool.log).owner probe.1 = some probe.2.decisionId

instance (pool : TaskPool tasks) (move : Move ι Fate Change) :
    Decidable (ProbesAsOwner config tasks pool move) :=
  inferInstanceAs (Decidable (∀ probe ∈ probed config tasks pool move, _ ∧ _))

/-! ## The owners -/

/-- A decision that no outcome has freed a slot of owns the slot that it took, for the time
of the slot. -/
def OwnsInTime (ledger : ProbeLedger) (w : World) : Prop :=
  ∀ a ∈ ledger.acquired, w.now < a.takenAt + probeSlotTtlMs →
    (a.decisionId, a.channelId) ∉ ledger.freed →
    w.probeSlots a.channelId = some (a.takenAt + probeSlotTtlMs) ∧
      ledger.owner a.channelId = some a.decisionId

variable {config tasks} {ledger : ProbeLedger} {w w' : World} {task : Task} {fate : Fate}
  {call : Call}

/-- What leaves the slots does not turn the clock back. -/
theorem OwnsInTime.later (h : OwnsInTime ledger w) (hnow : w.now ≤ w'.now)
    (hslots : w'.probeSlots = w.probeSlots) : OwnsInTime ledger w' := by
  intro a ha hlive hfreed
  rw [hslots]
  exact h a ha (hnow.trans_lt hlive) hfreed

theorem slotWritten_eq_some {id : String} {slot : Option ℚ}
    (h : slotWritten fate call w = some (id, slot)) :
    (∃ ttlMs, call = .takeProbeSlot id ttlMs ∧ ¬ w.slotHeld id ∧ slot = some (w.now + ttlMs)) ∨
      (call = .releaseProbeSlot id ∧ fate.carriedOut = true ∧ slot = none) := by
  cases call with
  | takeProbeSlot id' ttlMs =>
      obtain ⟨htaken, hpair⟩ := Option.ite_none_right_eq_some.mp h
      cases hpair
      exact .inl ⟨ttlMs, rfl, htaken.2, rfl⟩
  | releaseProbeSlot id' =>
      obtain ⟨hfate, hpair⟩ := Option.ite_none_right_eq_some.mp h
      cases hpair
      exact .inr ⟨rfl, hfate, rfl⟩
  | _ => cases h

/-- Only the calls on a slot change it. -/
theorem answer_probeSlots (config : Config) (fate : Fate) (call : Call) (w : World) :
    (answer config fate call w).2.probeSlots =
      match slotWritten fate call w with
      | some (id, slot) => Function.update w.probeSlots id slot
      | none => w.probeSlots := by
  rw [answer_state]
  cases call with
  | takeProbeSlot id ttlMs =>
      cases hfate : fate.carriedOut with
      | false => simp [Call.isAwaited, slotWritten, hfate]
      | true =>
          by_cases hheld : w.slotHeld id
          · simp [Call.isAwaited, slotWritten, hfate, Store.perform, hheld]
          · simp [Call.isAwaited, slotWritten, hfate, Store.perform, hheld]
  | releaseProbeSlot id =>
      cases hfate : fate.carriedOut with
      | false => simp [Call.isAwaited, slotWritten, hfate]
      | true => simp [Call.isAwaited, slotWritten, hfate, Store.perform]
  | claim | record | readWindow | readWindows =>
      simp only [Store.perform, slotWritten]
      split
      · rfl
      · split <;> rfl
  | _ =>
      simp only [slotWritten]
      split <;> rfl

theorem Change.apply_probeSlots (change : Change) (w : World) :
    (change.apply w).probeSlots = w.probeSlots := by
  cases change <;> rfl

/-- A slot that is taken was free, so nobody who is in time loses it. -/
theorem OwnsInTime.taken (h : OwnsInTime ledger w) {id : String} (hfree : ¬ w.slotHeld id)
    (hw : w'.now = w.now)
    (hslots : w'.probeSlots = Function.update w.probeSlots id (some (w.now + probeSlotTtlMs))) :
    OwnsInTime
      { ledger with
        acquired := (task.decisionId.map fun decisionId =>
            { decisionId := decisionId, channelId := id, takenAt := w.now }).toList ++
          ledger.acquired
        owner := Function.update ledger.owner id task.decisionId } w' := by
  intro a ha hlive hfreed
  rw [hslots]
  rcases List.mem_append.mp ha with hnew | hold
  · obtain ⟨decisionId, hdecision, rfl⟩ := Option.map_eq_some_iff.mp (Option.mem_toList.mp hnew)
    simp [hdecision]
  · rw [hw] at hlive
    obtain ⟨hslot, howner⟩ := h a hold hlive hfreed
    have hne : a.channelId ≠ id := by
      rintro rfl
      apply hfree
      unfold World.slotHeld
      rw [hslot]
      exact hlive
    exact ⟨(Function.update_of_ne hne _ _).trans hslot,
      (Function.update_of_ne hne _ _).trans howner⟩

/-- Where the owner frees a slot, the other owners keep theirs. -/
theorem OwnsInTime.freed (h : OwnsInTime ledger w) {id : String} {event : TxnOutcomeEvent}
    (howner : ledger.owner id = some event.decisionId) (hw : w'.now = w.now)
    (hslots : w'.probeSlots = Function.update w.probeSlots id none) :
    OwnsInTime
      { ledger with
        freed := (event.decisionId, id) :: ledger.freed
        owner := Function.update ledger.owner id none } w' := by
  intro a ha hlive hfreed
  rw [hw] at hlive
  obtain ⟨hnew, hold⟩ := not_or.mp (List.mem_cons.not.mp hfreed)
  obtain ⟨hslot, hown⟩ := h a ha hlive hold
  -- On this channel the owner would be the decision whose outcome frees the slot.
  have hne : a.channelId ≠ id := by
    rintro rfl
    rw [howner] at hown
    exact hnew (by rw [Option.some.inj hown])
  rw [hslots]
  exact ⟨(Function.update_of_ne hne _ _).trans hslot, (Function.update_of_ne hne _ _).trans hown⟩

/-! ## Runs -/

/-- The tasks keep to their protocols, and the owners have their slots. -/
structure OwnerInv (config : Config) (tasks : ι → Task) (pool : TaskPool tasks) : Prop where
  sound : TaskPool.Sound config pool
  owns : OwnsInTime (ledgerOf tasks pool.log) pool.shared

theorem ownerInv_start (localeCompare : String → String → Ordering) (w : World) :
    OwnerInv config tasks (TaskPool.start config localeCompare tasks w) where
  sound := TaskPool.sound_start localeCompare w
  owns := by
    intro a ha
    cases ha

theorem probesAsOwner_of_inTime {pool : TaskPool tasks} (h : OwnerInv config tasks pool)
    {move : Move ι Fate Change} (htime : ProbesInTime config tasks pool move) :
    ProbesAsOwner config tasks pool move := by
  intro probe hprobe
  obtain ⟨hfreed, a, ha, hdecision, hchannel, hlive⟩ := htime probe hprobe
  obtain ⟨hslot, howner⟩ := h.owns a ha hlive (by rwa [hdecision, hchannel])
  rw [hchannel] at hslot howner
  refine ⟨?_, howner.trans (by rw [hdecision])⟩
  unfold World.slotHeld
  rw [hslot]
  exact hlive

/-- A call of a task, made for the outcome of the owner where it frees a slot. -/
theorem owns_called {pool : TaskPool tasks} (h : OwnerInv config tasks pool) {i : ι}
    {k : Except Failure call.Ans → Program (tasks i).Result}
    (hcall : pool.threads i = .call call k)
    (hallowed : Allowed config.routing (tasks i) (seenBy config tasks i pool.log) call)
    (howner : ProbesAsOwner config tasks pool (.step i fate)) :
    OwnsInTime (ledgerOf tasks (Pool.called (answer config) pool i fate call k).log)
      (Pool.called (answer config) pool i fate call k).shared := by
  have hnow : (answer config fate call pool.shared).2.now = pool.shared.now :=
    answer_now fate call pool.shared
  have hslots := answer_probeSlots config fate call pool.shared
  simp only [Pool.called, ledgerOf, Pool.entry, ProbeLedger.after]
  cases hwritten : slotWritten fate call pool.shared with
  | none =>
      rw [hwritten] at hslots
      exact h.owns.later hnow.ge hslots
  | some written =>
      obtain ⟨id, slot⟩ := written
      rw [hwritten] at hslots
      rcases slotWritten_eq_some hwritten with ⟨ttlMs, rfl, hfree, rfl⟩ | ⟨rfl, hfate, rfl⟩
      · obtain rfl : ttlMs = probeSlotTtlMs := hallowed
        exact h.owns.taken hfree hnow hslots
      · obtain ⟨event, hevent⟩ := Option.isSome_iff_exists.mp hallowed
        have hprobe : (id, event) ∈ probed config tasks pool (.step i fate) := by
          simp [probed, hcall, Prog.nextCall, hevent, probedChannel, hfate]
        rw [hevent]
        exact h.owns.freed (howner _ hprobe).2 hnow hslots

/-- A step whose probes are in time keeps the owners. -/
theorem ownerInv_next {pool : TaskPool tasks} (h : OwnerInv config tasks pool)
    {move : Move ι Fate Change} (howner : ProbesAsOwner config tasks pool move) :
    OwnerInv config tasks (pool.next config move) where
  sound := h.sound.next move
  owns := by
    refine h.sound.next_of (C := fun pool => OwnsInTime (ledgerOf tasks pool.log) pool.shared)
      h.owns ?_ move ?_
    · intro change
      exact h.owns.later (change.apply_now _) (change.apply_probeSlots _)
    · rintro i fate call k rfl hcall hallowed
      exact owns_called h hcall hallowed howner

/-- In every run of single store calls in which each call that treats an outcome as a probe
is made in time, for a decision that took the slot and has not freed it, each of them is made
for the outcome of the slot's owner. -/
theorem probe_by_owner (config : Config) (localeCompare : String → String → Ordering)
    (tasks : ι → Task) (w : World) (moves : List (Move ι Fate Change))
    (h : Always (TaskPool.next config) (ProbesInTime config tasks)
      (TaskPool.start config localeCompare tasks w) moves) :
    Always (TaskPool.next config) (ProbesAsOwner config tasks)
      (TaskPool.start config localeCompare tasks w) moves := by
  refine Always.of_invariant (I := OwnerInv config tasks) ?_ (ownerInv_start localeCompare w) h
  intro pool move hinv htime
  have howner : ProbesAsOwner config tasks pool move := probesAsOwner_of_inTime hinv htime
  exact ⟨howner, ownerInv_next hinv howner⟩

/-! ## A stranger -/

/-- A payout was routed as `dec_0` while the breaker was closed; then the breaker opened, and
it has been open for its time. -/
def afterOutage : World :=
  runFrom (perform defaultConfig compare) (World.fresh 0 seededA)
    (callFor "0" defaultCorridor :: failures ++ [openTimePasses])

/-- The probe, its outcome, and the late outcome of the first payout. -/
def lateTasks : Fin 3 → Task
  | 0 => .route (Stream'.const (1 / 2)) "1" (requestFor defaultCorridor)
  | 1 => .deliver .wired (payoutOutcome "evt_20" "dec_1" "RAIL-A" .success).toJson
  | 2 => .deliver .wired (payoutOutcome "evt_21" "dec_0" "RAIL-A" .success).toJson

/-- All calls of some tasks, one task after the other. -/
def oneAfterOther (order : List (Fin 3)) : List (Move (Fin 3) Fate Change) :=
  order.flatMap fun i => List.replicate 12 (.step i .done)

/-- The late outcome of the first payout counts as a probe, and frees the slot. -/
theorem probe_by_stranger :
    ¬ Always (TaskPool.next defaultConfig) (ProbesAsOwner defaultConfig lateTasks)
      (TaskPool.start defaultConfig compare lateTasks afterOutage) (oneAfterOther [0, 2]) := by
  decide +kernel

theorem probe_by_owner_first_probe :
    Always (TaskPool.next defaultConfig) (ProbesAsOwner defaultConfig lateTasks)
      (TaskPool.start defaultConfig compare lateTasks afterOutage) (oneAfterOther [0, 1]) :=
  probe_by_owner defaultConfig compare lateTasks afterOutage _ (by decide +kernel)

end SwitchService.Runs
