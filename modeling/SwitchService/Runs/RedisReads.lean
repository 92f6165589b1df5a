import SwitchService.Runs.RedisPool

set_option autoImplicit false

/-!
# Runs: what the tasks read of the windows in Redis

The log of a pool says which outcomes were recorded, newest first.  A read of windows, at
whatever point of the run, counts exactly those of them that are in the window of its
moment: records that rejected after they were carried out count too, records that come late
count for the moment that they were given, and nothing counts twice.
-/

namespace SwitchService.Runs

open SwitchService.Foundation SwitchService.Domain SwitchService.Store
open SwitchService.Repositories

/-- The outcome that a call records when it is carried out. -/
def recordedBy (fate : Fate) : Call → Option WindowStore.Outcome
  | .record channelId success latencyMs moment =>
      if fate.carriedOut then
        some
          { channelId := channelId
            success := success
            latencyMs := latencyMs
            recordedAt := moment }
      else none
  | _ => none

variable {ι σ τ : Type}

/-- The outcomes that a log recorded, newest first. -/
def outcomesOf (log : List (Entry ι Fate σ Failure Call.Ans)) : List WindowStore.Outcome :=
  log.filterMap fun e => recordedBy e.fate e.op

/-- The windows that a call was shown, with the moment of the read. -/
def windowsRead : Entry ι Fate σ Failure Call.Ans → Option (ℚ × (String → Option ChannelStats))
  | { op := .readWindow channelId moment, reply := .ok stats, .. } =>
      some (moment, Function.update (fun _ => none) channelId (some stats))
  | { op := .readWindows _ moment, reply := .ok stats, .. } => some (moment, stats)
  | _ => none

variable {config : Config}

theorem outcomesOf_alike {R : σ → τ → Prop} {log : List (Entry ι Fate σ Failure Call.Ans)}
    {log' : List (Entry ι Fate τ Failure Call.Ans)} (h : List.Forall₂ (Entry.Alike R) log log') :
    outcomesOf log' = outcomesOf log := by
  induction h with
  | nil => rfl
  | cons hentry _ ih =>
      obtain ⟨before, _, rfl⟩ := hentry
      simp only [outcomesOf, List.filterMap_cons, Entry.over] at ih ⊢
      rw [ih]

theorem windowsRead_over (e : Entry ι Fate σ Failure Call.Ans) (before : τ) :
    windowsRead (e.over before) = windowsRead e := by
  obtain ⟨thread, op, fate, reply, state⟩ := e
  cases op with
  | readWindow | readWindows => cases reply <;> rfl
  | _ => rfl

/-! ## The windows of the world by the log -/

/-- Only a record changes a window. -/
theorem perform_windows {call : Call} (w : World) (h : recordedBy .done call = none) :
    (Store.perform config call w).2.windows = w.windows := by
  cases call with
  | record => simp [recordedBy, Fate.carriedOut] at h
  | claim | readWindow | readWindows | takeProbeSlot =>
      simp only [Store.perform]
      split <;> rfl
  | _ => rfl

/-- A call that records nothing shows nothing new. -/
theorem shows_of_unrecorded {history : List WindowStore.Outcome} {w : World}
    (h : Shows config history w) (fate : Fate) {call : Call}
    (hcall : recordedBy .done call = none) :
    Shows config history (answer config fate call w).2 := by
  have hwindows : (answer config fate call w).2.windows = w.windows := by
    rw [answer_state]
    split
    · rfl
    · exact perform_windows w hcall
  intro channelId
  rw [hwindows]
  exact h channelId

/-- A call adds the outcome that it records. -/
theorem shows_answer {history : List WindowStore.Outcome} {w : World}
    (h : Shows config history w) (fate : Fate) (call : Call) :
    Shows config ((recordedBy fate call).toList ++ history) (answer config fate call w).2 := by
  cases call with
  | record channelId success latencyMs moment =>
      have hrecord := shows_record h
        { channelId := channelId, success := success, latencyMs := latencyMs
          recordedAt := moment }
      cases fate with
      | done | lost _ => exact hrecord
      | refused _ => exact h
  | _ => exact shows_of_unrecorded h fate rfl

theorem shows_change {history : List WindowStore.Outcome} {w : World}
    (h : Shows config history w) (change : Change) : Shows config history (change.apply w) := by
  cases change with
  | advance _ | edit _ | clearCache => exact h

/-- A read that is answered shows the outcomes recorded before it. -/
theorem windowsRead_of_shows {history : List WindowStore.Outcome} {e : TaskEntry ι}
    (h : Shows config history e.before)
    (hreply : e.reply = (answer config e.fate e.op e.before).1) {moment : ℚ}
    {shown : String → Option ChannelStats} (hread : windowsRead e = some (moment, shown))
    {channelId : String} {stats : ChannelStats} (hstats : shown channelId = some stats) :
    stats = (WindowStore.ofConfig config.routing).historyStats history channelId moment := by
  have hwindow : ∀ channelId, (e.before.windows channelId).statsAt config.routing channelId
      moment = (WindowStore.ofConfig config.routing).historyStats history channelId moment := by
    intro channelId
    rw [h channelId]
    exact WindowStore.historyBuckets_stats config.accepted.bucketMs config.accepted.bucketMs_le
      channelId
  obtain ⟨thread, op, fate, reply, w⟩ := e
  -- A reply that is no error is what the world shows.
  have hperform : ∀ a, reply = .ok a → (Store.perform config op w).1 = .ok a := by
    rintro a rfl
    unfold answer at hreply
    split at hreply
    · cases hreply
    · cases hreply
    · exact hreply.symm
  cases op with
  | readWindow id moment' =>
      cases reply with
      | error failure => cases hread
      | ok stats' =>
          simp only [windowsRead, Option.some.injEq, Prod.mk.injEq] at hread
          obtain ⟨rfl, rfl⟩ := hread
          have hshown := hperform stats' rfl
          rw [perform_readWindow, Except.ok.injEq] at hshown
          by_cases hid : channelId = id
          · subst hid
            rw [Function.update_self, Option.some.injEq] at hstats
            rw [← hstats, ← hshown]
            exact hwindow channelId
          · rw [Function.update_of_ne hid] at hstats
            cases hstats
  | readWindows ids moment' =>
      cases reply with
      | error failure => cases hread
      | ok shown' =>
          simp only [windowsRead, Option.some.injEq, Prod.mk.injEq] at hread
          obtain ⟨rfl, rfl⟩ := hread
          have hshown := hperform shown' rfl
          rw [perform_readWindows, Except.ok.injEq] at hshown
          rw [← hshown] at hstats
          dsimp only at hstats
          split at hstats
          · rw [← Option.some.inj hstats]
            exact hwindow channelId
          · cases hstats
  | _ => cases hread

section

variable [DecidableEq ι] {tasks : ι → Task}

/-- Every call over the world finds the windows that the log before it recorded. -/
theorem shows_run (config : Config) (localeCompare : String → String → Ordering)
    (tasks : ι → Task) (now : ℚ) (table : Table) (moves : List (Move ι Fate Change)) :
    Pool.Found (fun log w => Shows config (outcomesOf log) w)
      (runFrom (TaskPool.next config)
        (TaskPool.start config localeCompare tasks (World.fresh now table)) moves).log := by
  refine (Pool.found_run (answer config) Change.apply
    (I := fun log w => Shows config (outcomesOf log) w)
    (TaskPool.start config localeCompare tasks (World.fresh now table))
    (fun _ _ change h => shows_change h change) ?_ (shows_fresh now table) trivial moves).2
  intro pool i fate call h
  have hcall := shows_answer h fate call
  cases hrecorded : recordedBy fate call with
  | none =>
      rw [hrecorded] at hcall
      simpa [outcomesOf, Pool.entry, hrecorded] using hcall
  | some outcome =>
      rw [hrecorded] at hcall
      simpa [outcomesOf, Pool.entry, hrecorded] using hcall

/-- Over an empty Redis, whatever the tasks, the order of their calls, the calls that fail
and the time between them: as long as windows are read promptly, every read shows for each
of its channels exactly the outcomes of the window that were recorded before it. -/
theorem redis_reads_exact (config : Config) (localeCompare : String → String → Ordering)
    (tasks : ι → Task) (now : ℕ) (table : Table) (moves : List (Move ι Fate RedisChange))
    (hprompt : Always (RedisPool.next config) (Prompt config)
      (RedisPool.start config localeCompare tasks (Backend.fresh now table)) moves)
    {newer older : List (Entry ι Fate Backend Failure Call.Ans)}
    {e : Entry ι Fate Backend Failure Call.Ans}
    (hlog : (runFrom (RedisPool.next config)
      (RedisPool.start config localeCompare tasks (Backend.fresh now table)) moves).log =
        newer ++ e :: older)
    {moment : ℚ} {shown : String → Option ChannelStats}
    (hread : windowsRead e = some (moment, shown)) :
    ∀ channelId stats, shown channelId = some stats →
      stats = (WindowStore.ofConfig config.routing).historyStats (outcomesOf older) channelId
        moment := by
  have halike := (alike_of_prompt
    (alike_start_redis localeCompare tasks (represents_fresh config now table))
    (redisInv_start localeCompare _) hprompt).log
  rw [hlog] at halike
  obtain ⟨newer', before, older', hworld, _, holder⟩ := Pool.split_of_alike halike
  -- The same call of the world's run found the windows that its log recorded.
  have hshows := shows_run config localeCompare tasks now table
    (moves.map (Move.mapChange RedisChange.abstract))
  have hanswered : Pool.Answered (answer config) (runFrom (TaskPool.next config)
      (TaskPool.start config localeCompare tasks (World.fresh now table))
      (moves.map (Move.mapChange RedisChange.abstract))).log :=
    (Pool.orderly_run (World.fresh now table)
      (fun i => follows_program localeCompare (tasks i))
      (moves.map (Move.mapChange RedisChange.abstract))).answered
  have hmem : e.over before ∈ (runFrom (TaskPool.next config)
      (TaskPool.start config localeCompare tasks (World.fresh now table))
      (moves.map (Move.mapChange RedisChange.abstract))).log := by
    rw [hworld]
    exact List.mem_append_right _ List.mem_cons_self
  rw [hworld] at hshows
  intro channelId stats hstats
  rw [← outcomesOf_alike holder]
  exact windowsRead_of_shows hshows.at (hanswered _ hmem)
    ((windowsRead_over e before).trans hread) hstats

end

/-- The calls of the run of the payouts. -/
def payoutLog : List (Entry ℕ Fate Backend Failure Call.Ans) :=
  (runFrom (RedisPool.next defaultConfig)
    (RedisPool.start defaultConfig compare payoutTasks (Backend.fresh 60000 seededA))
    payoutMoves).log

/-- The theorem at the last call of that run, a read 42 seconds after its moment. -/
theorem redis_reads_exact_payouts :
    ∃ shown, payoutLog.head?.bind windowsRead = some (60000, shown) ∧
      ∀ channelId stats, shown channelId = some stats →
        stats = (WindowStore.ofConfig defaultRoutingConfig).historyStats
          (outcomesOf payoutLog.tail) channelId 60000 := by
  have hmoment : (payoutLog.head?.bind windowsRead).map (·.1) = some 60000 := by
    decide +kernel
  obtain ⟨⟨moment, shown⟩, hread, rfl⟩ := Option.map_eq_some_iff.mp hmoment
  obtain ⟨e, hhead, hshown⟩ := Option.bind_eq_some_iff.mp hread
  have hlog : payoutLog = [] ++ e :: payoutLog.tail := List.eq_cons_of_mem_head? hhead
  exact ⟨shown, hread, redis_reads_exact defaultConfig compare payoutTasks 60000 seededA
    payoutMoves (by decide +kernel) hlog hshown⟩

example : ((WindowStore.ofConfig defaultRoutingConfig).historyStats (outcomesOf payoutLog.tail)
    "RAIL-A" 60000).success = 2 := by decide +kernel

end SwitchService.Runs
