import SwitchService.Runs.Concurrent

set_option autoImplicit false

/-!
# Runs: concurrent breaker updates

A route call or a delivery reads a breaker, computes, and writes; nothing guards the
write.  The log of a pool tells which failed probes opened the breaker of a channel and
how many good probes were written since it became HALF_OPEN.  Where every write finds the
snapshot that its call read, the stored breaker agrees with that.
-/

namespace SwitchService.Runs

open SwitchService.Foundation SwitchService.Domain SwitchService.Store
open SwitchService.Repositories SwitchService.Consumer SwitchService.Services

/-! ## What the log says about one breaker -/

/-- The snapshot that a call stores for the channel. -/
def written (channelId : String) (fate : Fate) : Call → Option BreakerSnapshot
  | .writeBreaker id next => if id = channelId ∧ fate.carriedOut then some next else none
  | _ => none

/-- What happened to the probes of a channel. -/
structure ProbeHistory where
  /-- The moments with which failed probes opened the breaker. -/
  failedAt : List ℚ
  /-- The good probes since the breaker became HALF_OPEN.  Absent before that, after a
  failed probe, and after the window opened the breaker that they closed. -/
  good : Option ℕ

/-- The history after a write over `stored` by a task that read `read`. -/
def ProbeHistory.after (history : ProbeHistory) (task : Task) (read : Option BreakerSnapshot)
    (stored next : BreakerSnapshot) : ProbeHistory :=
  match read.bind task.probe with
  | some true => { history with good := history.good.map (· + 1) }
  | some false => { failedAt := next.openedAt :: history.failedAt, good := none }
  | none =>
      if stored.state ≠ .halfOpen ∧ next.state = .halfOpen then { history with good := some 0 }
      else if stored.state = .closed ∧ next.state = .opened then { history with good := none }
      else history

variable {ι : Type} [DecidableEq ι]

variable (config : Config) (tasks : ι → Task) (channelId : String)

/-- The history of a channel by the writes of its breaker. -/
def probeHistory : List (TaskEntry ι) → ProbeHistory
  | [] => { failedAt := [], good := none }
  | e :: log =>
      match written channelId e.fate e.op with
      | some next =>
          (probeHistory log).after (tasks e.thread)
            ((seenBy config tasks e.thread log).read channelId)
            (e.before.breakers channelId) next
      | none => probeHistory log

/-- A breaker that a failed probe opened is open for its time. -/
def OpenHolds (history : ProbeHistory) (stored : BreakerSnapshot) (now : ℚ) : Prop :=
  ∀ t ∈ history.failedAt, now < t + config.routing.breaker.openMs → stored.state = .opened

/-- The breaker shows the good probes since it became HALF_OPEN. -/
def ProbesCounted (history : ProbeHistory) (stored : BreakerSnapshot) : Prop :=
  ∀ k ∈ history.good,
    (k < config.routing.breaker.probesToClose →
      stored.state = .halfOpen ∧ stored.probeSuccess = k) ∧
    (config.routing.breaker.probesToClose ≤ k → stored.state = .closed)

/-- No update of the breaker was lost. -/
def UpdatesKept (pool : TaskPool tasks) : Prop :=
  OpenHolds config (probeHistory config tasks channelId pool.log)
      (pool.shared.breakers channelId) pool.shared.now ∧
    ProbesCounted config (probeHistory config tasks channelId pool.log)
      (pool.shared.breakers channelId)

instance (pool : TaskPool tasks) : Decidable (UpdatesKept config tasks channelId pool) := by
  unfold UpdatesKept OpenHolds ProbesCounted
  infer_instance

/-- The task that a step lets write the breaker of the channel. -/
def writer (pool : TaskPool tasks) : Move ι Fate Change → Option ι
  | .step i _ =>
      match (pool.threads i).nextCall with
      | some (.writeBreaker id _) => if id = channelId then some i else none
      | _ => none
  | .other _ => none

/-- A task that writes the breaker finds the snapshot that it read. -/
def FindsRead (pool : TaskPool tasks) (move : Move ι Fate Change) : Prop :=
  ∀ i ∈ writer tasks channelId pool move,
    (seenBy config tasks i pool.log).read channelId = some (pool.shared.breakers channelId)

instance (pool : TaskPool tasks) (move : Move ι Fate Change) :
    Decidable (FindsRead config tasks channelId pool move) :=
  inferInstanceAs (Decidable (∀ i ∈ writer tasks channelId pool move, _ = _))

/-! ## One write -/

/-- An open breaker is the one that the failed probe left, and the count is right. -/
def Kept (history : ProbeHistory) (stored : BreakerSnapshot) (now : ℚ) : Prop :=
  (∀ t ∈ history.failedAt, now < t + config.routing.breaker.openMs →
    stored.state = .opened ∧ stored.openedAt = t) ∧
  ProbesCounted config history stored

variable {config tasks channelId} {history : ProbeHistory} {stored : BreakerSnapshot}
  {now t : ℚ}

theorem Kept.later (h : Kept config history stored t) (ht : t ≤ now) :
    Kept config history stored now :=
  ⟨fun t' ht' hlive => h.1 t' ht' (ht.trans_lt hlive), h.2⟩

/-- A breaker that is not open was left by no failed probe of late. -/
theorem Kept.not_live (h : Kept config history stored now) (hstate : stored.state ≠ .opened)
    (ht : t ∈ history.failedAt) : ¬ now < t + config.routing.breaker.openMs :=
  fun hlive => hstate (h.1 t ht hlive).1

/-- Probes are counted while the breaker is half open. -/
theorem Kept.counted (h : Kept config history stored now) (hstate : stored.state = .halfOpen)
    {k : ℕ} (hk : k ∈ history.good) :
    k < config.routing.breaker.probesToClose ∧ stored.probeSuccess = k := by
  have hopen : k < config.routing.breaker.probesToClose := by
    by_contra hclosed
    have hstate' := (h.2 k hk).2 (not_lt.mp hclosed)
    rw [hstate] at hstate'
    cases hstate'
  exact ⟨hopen, ((h.2 k hk).1 hopen).2⟩

/-- The write of a probe result over the snapshot it was computed from. -/
theorem kept_probe (h : Kept config history stored now) (hstate : stored.state = .halfOpen)
    (success : Bool) (task : Task) (hprobe : task.probe stored = some success) :
    Kept config (history.after task (some stored) stored
      (recordProbe stored success config.routing t))
      (recordProbe stored success config.routing t) now := by
  have hlate : ∀ t' ∈ history.failedAt, ¬ now < t' + config.routing.breaker.openMs :=
    fun t' ht' => h.not_live (by simp [hstate]) ht'
  cases success with
  | false =>
      simp only [ProbeHistory.after, Option.bind_some, hprobe, recordProbe_failed hstate]
      constructor
      · intro t' ht' hlive
        rcases List.mem_cons.mp ht' with rfl | ht'
        · exact ⟨rfl, rfl⟩
        · exact absurd hlive (hlate t' ht')
      · intro k hk
        cases hk
  | true =>
      simp only [ProbeHistory.after, Option.bind_some, hprobe, recordProbe_good hstate]
      constructor
      · intro t' ht' hlive
        exact absurd hlive (hlate t' ht')
      · intro k' hk'
        obtain ⟨k, hk, rfl⟩ := Option.map_eq_some_iff.mp hk'
        obtain ⟨_, hcount⟩ := h.counted hstate hk
        rw [hcount]
        split
        · rename_i hclose
          have hclose' : config.routing.breaker.probesToClose ≤ k + 1 := by
            exact_mod_cast hclose
          exact ⟨fun hlt => absurd hclose' (not_le.mpr hlt), fun _ => rfl⟩
        · rename_i hopen
          have hopen' : k + 1 < config.routing.breaker.probesToClose := by
            exact_mod_cast not_le.mp hopen
          exact ⟨fun _ => ⟨rfl, by push_cast; rfl⟩, fun hle => absurd hle (not_le.mpr hopen')⟩

/-- The write of an evaluation over the snapshot it was computed from. -/
theorem kept_evaluated (h : Kept config history stored now) (stats : ChannelStats)
    (task : Task) (hprobe : task.probe stored = none) (ht : t ≤ now) :
    Kept config (history.after task (some stored) stored
      (evaluateBreaker stored stats config.routing t))
      (evaluateBreaker stored stats config.routing t) now := by
  simp only [ProbeHistory.after, Option.bind_some, hprobe]
  rcases evaluateBreaker_cases stored stats config.routing t with
    hsame | ⟨hclosed, _, hopens⟩ | ⟨hopened, hdue, hhalf⟩
  · rw [hsame]
    split
    · rename_i hne
      exact absurd hne.2 hne.1
    · split
      · rename_i hmoves
        rw [hmoves.1] at hmoves
        cases hmoves.2
      · exact h
  · rw [hopens, if_neg (by simp), if_pos ⟨hclosed, rfl⟩]
    constructor
    · intro t' ht' hlive
      exact absurd hlive (h.not_live (by simp [hclosed]) ht')
    · intro k hk
      cases hk
  · rw [hhalf, if_pos ⟨by simp [hopened], rfl⟩]
    constructor
    · intro t' ht' hlive
      have hopenedAt := (h.1 t' ht' hlive).2
      rw [hopenedAt] at hdue
      linarith
    · intro k hk
      cases hk
      exact ⟨fun _ => ⟨rfl, by simp⟩,
        fun hle => absurd config.accepted.probesToClose (not_lt.mpr hle)⟩

/-- A write over the snapshot it was computed from keeps what the history says. -/
theorem kept_written (h : Kept config history stored now) {task : Task}
    {next : BreakerSnapshot} (hmoved : Moved config.routing task t stored next) (ht : t ≤ now) :
    Kept config (history.after task (some stored) stored next) next now := by
  unfold Moved at hmoved
  split at hmoved
  · rename_i success hprobe
    rw [hmoved]
    refine kept_probe h ?_ success task hprobe
    unfold Task.probe at hprobe
    split at hprobe
    · assumption
    · cases hprobe
  · rename_i hprobe
    obtain ⟨stats, rfl⟩ := hmoved
    exact kept_evaluated h stats task hprobe ht

/-! ## Runs -/

/-- Only a write changes the breaker of the channel. -/
theorem answer_breakers (channelId : String) (fate : Fate) (call : Call) (w : World) :
    (answer config fate call w).2.breakers channelId =
      (written channelId fate call).getD (w.breakers channelId) := by
  rw [answer_state]
  cases call with
  | writeBreaker id next =>
      cases hfate : fate.carriedOut with
      | false => simp [Call.isAwaited, written, hfate]
      | true =>
          by_cases hid : id = channelId
          · simp [Call.isAwaited, written, hfate, hid, Store.perform]
          · simp [Call.isAwaited, written, hfate, hid, Store.perform,
              Function.update_of_ne (Ne.symm hid)]
  | claim | record | readWindow | readWindows | takeProbeSlot =>
      simp only [Store.perform, written, Option.getD_none]
      split
      · rfl
      · split <;> rfl
  | _ =>
      simp only [written, Option.getD_none]
      split <;> rfl

theorem Change.apply_breakers (change : Change) (w : World) :
    (change.apply w).breakers = w.breakers := by
  cases change <;> rfl

theorem written_eq_some {fate : Fate} {call : Call} {next : BreakerSnapshot}
    (h : written channelId fate call = some next) : call = .writeBreaker channelId next := by
  unfold written at h
  split at h
  · split at h
    · rename_i hwrite
      cases h
      rw [hwrite.1]
    · cases h
  · cases h

/-- The state agrees with the log, and every task keeps to its protocol. -/
structure UpdateInv (config : Config) (tasks : ι → Task) (channelId : String)
    (pool : TaskPool tasks) : Prop where
  sound : TaskPool.Sound config pool
  clock : ClockSeen config pool
  kept : Kept config (probeHistory config tasks channelId pool.log)
    (pool.shared.breakers channelId) pool.shared.now

theorem updateInv_start (localeCompare : String → String → Ordering) (w : World) :
    UpdateInv config tasks channelId (TaskPool.start config localeCompare tasks w) where
  sound := TaskPool.sound_start localeCompare w
  clock := by
    intro i now hnow
    cases hnow
  kept := by
    constructor
    · intro t ht
      cases ht
    · intro k hk
      cases hk

/-- A call by a task that finds the snapshot it read. -/
theorem kept_called {pool : TaskPool tasks} (h : UpdateInv config tasks channelId pool)
    {i : ι} {fate : Fate} {call : Call}
    {k : Except Failure call.Ans → Program (tasks i).Result}
    (hcall : pool.threads i = .call call k)
    (hallowed : Allowed config.routing (tasks i) (seenBy config tasks i pool.log) call)
    (hfinds : FindsRead config tasks channelId pool (.step i fate)) :
    Kept config (probeHistory config tasks channelId
        (Pool.called (answer config) pool i fate call k).log)
      ((Pool.called (answer config) pool i fate call k).shared.breakers channelId)
      (Pool.called (answer config) pool i fate call k).shared.now := by
  simp only [Pool.called, answer_now, answer_breakers, probeHistory, Pool.entry]
  cases hwritten : written channelId fate call with
  | none => exact h.kept
  | some next =>
      have heq := written_eq_some hwritten
      subst heq
      obtain ⟨_, read, hread, now, hnow, hmoved⟩ := hallowed
      have hwriter : i ∈ writer tasks channelId pool (.step i fate) := by
        simp [writer, hcall, Prog.nextCall]
      have hstored : (seenBy config tasks i pool.log).read channelId =
          some (pool.shared.breakers channelId) := hfinds i hwriter
      rw [hstored] at hread ⊢
      cases hread
      exact kept_written h.kept hmoved (h.clock i now hnow)

theorem updateInv_next {pool : TaskPool tasks} (h : UpdateInv config tasks channelId pool)
    {move : Move ι Fate Change} (hfinds : FindsRead config tasks channelId pool move) :
    UpdateInv config tasks channelId (pool.next config move) := by
  have hrest : ClockSeen config (pool.next config move) ∧
      Kept config (probeHistory config tasks channelId (pool.next config move).log)
        ((pool.next config move).shared.breakers channelId)
        (pool.next config move).shared.now := by
    refine h.sound.next_of (C := fun pool => ClockSeen config pool ∧
      Kept config (probeHistory config tasks channelId pool.log)
        (pool.shared.breakers channelId) pool.shared.now) ⟨h.clock, h.kept⟩ ?_ move ?_
    · intro change
      constructor
      · intro i now hnow
        exact (h.clock i now hnow).trans (change.apply_now _)
      · rw [change.apply_breakers]
        exact h.kept.later (change.apply_now _)
    · rintro i fate call k rfl hcall hallowed
      exact ⟨clockSeen_called h.clock i fate call k, kept_called h hcall hallowed hfinds⟩
  exact { sound := h.sound.next move, clock := hrest.1, kept := hrest.2 }

/-- In every run in which each breaker write of the channel finds the snapshot that its
call read, no update of the breaker is lost: after all its steps, and so after each. -/
theorem updates_kept (config : Config) (localeCompare : String → String → Ordering)
    (tasks : ι → Task) (channelId : String) (w : World) (moves : List (Move ι Fate Change))
    (h : Always (TaskPool.next config) (FindsRead config tasks channelId)
      (TaskPool.start config localeCompare tasks w) moves) :
    UpdatesKept config tasks channelId
      (runFrom (TaskPool.next config) (TaskPool.start config localeCompare tasks w) moves) := by
  have hinv := runFrom_of_guarded (I := UpdateInv config tasks channelId)
    (fun _ _ hinv hfinds => updateInv_next hinv hfinds) (updateInv_start localeCompare w) h
  exact ⟨fun t ht hlive => (hinv.kept.1 t ht hlive).1, hinv.kept.2⟩

/-! ## Two probes at a time -/

/-- A breaker that has been open for its time. -/
def dueWorld : World :=
  (World.fresh 30000 seededA).setBreaker "RAIL-A"
    { state := .opened, openedAt := 0, probeSuccess := 0 }

/-- A route call, two good outcomes, and failed ones. -/
def probeTasks : ℕ → Task
  | 0 => .route (Stream'.const (1 / 2)) "0"
      { transactionId := "txn_1", corridor := defaultCorridor, supportedChannels := none }
  | n + 1 => .deliver .wired
      (payoutOutcome ("evt_" ++ toString n) "dec_0" "RAIL-A"
        (if n < 2 then .success else .failed)).toJson

/-- The next calls of one task. -/
def callsOf (i n : ℕ) : List (Move ℕ Fate Change) := List.replicate n (.step i .done)

/-- The pool after some calls. -/
def probesAfter (moves : List (Move ℕ Fate Change)) : TaskPool probeTasks :=
  runFrom (TaskPool.next defaultConfig)
    (TaskPool.start defaultConfig compare probeTasks dueWorld) moves

/-- Two good probes read the same snapshot and count as one; a good probe that read the
snapshot before a failed one was written half-opens the breaker again. -/
theorem updates_lost :
    ¬ UpdatesKept defaultConfig probeTasks "RAIL-A"
      (probesAfter (callsOf 0 12 ++ callsOf 1 6 ++ callsOf 2 6 ++ callsOf 1 2 ++ callsOf 2 2)) ∧
    ¬ UpdatesKept defaultConfig probeTasks "RAIL-A"
      (probesAfter (callsOf 0 12 ++ callsOf 1 6 ++ callsOf 3 8 ++ callsOf 1 2)) := by
  decide +kernel

theorem updates_kept_one_by_one :
    UpdatesKept defaultConfig probeTasks "RAIL-A"
      (probesAfter (callsOf 0 12 ++ callsOf 1 8 ++ callsOf 2 8 ++ callsOf 3 8)) :=
  updates_kept defaultConfig compare probeTasks "RAIL-A" dueWorld _ (by decide +kernel)

end SwitchService.Runs
