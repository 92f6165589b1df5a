import SwitchService.Runs.Registry

set_option autoImplicit false

/-!
# Runs: a change of a channel is seen at once

A writer clears the cache before it returns, so a later reader asks the table again, or
gets a list that another reader stored after the clearing.  Such a list is as new as the
write unless its reader had queried before the write and stored what it got after the
clearing.
-/

namespace SwitchService.Runs

open SwitchService.Foundation SwitchService.Domain SwitchService.Store
open SwitchService.Repositories SwitchService.Services

variable {ι : Type}

/-! ## Reading the log -/

/-- A statement that was carried out. -/
def wrote (e : RegistryEntry ι) : Bool := e.op.isWrite && e.fate.carriedOut

/-- A writer clears the cache. -/
def clears (e : RegistryEntry ι) : Bool :=
  match e.op with
  | .clearCache => true
  | _ => false

/-- A task queries the channels. -/
def queries [DecidableEq ι] (i : ι) (e : RegistryEntry ι) : Bool :=
  match e.op with
  | .store (.queryChannels _) => decide (e.thread = i)
  | _ => false

/-- A reader stores its list in the cache. -/
def fills : RegistryCall → Bool
  | .store (.setCache _) => true
  | _ => false

/-- The statement of a task was carried out. -/
def HasWritten (j : ι) (log : List (RegistryEntry ι)) : Prop :=
  ∃ e ∈ log, e.thread = j ∧ wrote e = true

instance [DecidableEq ι] (j : ι) (log : List (RegistryEntry ι)) : Decidable (HasWritten j log) :=
  inferInstanceAs (Decidable (∃ e ∈ log, _))

/-- A task has cleared the cache. -/
def HasCleared (j : ι) (log : List (RegistryEntry ι)) : Prop :=
  ∃ e ∈ log, e.thread = j ∧ clears e = true

/-- The writer has returned. -/
def HasReturned (pool : RegistryPool ι) (j : ι) : Prop :=
  ∃ channel, pool.threads j = .ret (.written channel)

/-- The task has not made its first call. -/
def NotBegun (pool : RegistryPool ι) (i : ι) : Prop := ∀ e ∈ pool.log, e.thread ≠ i

/-- No statement has enabled the channel since that of a task. -/
def StaysDisabled (j : ι) (id : String) (log : List (RegistryEntry ι)) : Prop :=
  ∀ newer e older, log = newer ++ e :: older → HasWritten j older → wrote e = true →
    e.op.enables id = false

section

variable [DecidableEq ι]

/-- The calls since the last query of a task, newest first. -/
def sinceQuery (i : ι) (log : List (RegistryEntry ι)) : List (RegistryEntry ι) :=
  log.takeWhile (!queries i ·)

/-- Nobody has both written and cleared the cache since the last query of a task. -/
def InTime (i : ι) (log : List (RegistryEntry ι)) : Prop :=
  ∀ c ∈ sinceQuery i log, clears c = true →
    ∀ e ∈ sinceQuery i log, e.thread = c.thread → wrote e = false

instance (i : ι) (log : List (RegistryEntry ι)) : Decidable (InTime i log) :=
  inferInstanceAs (Decidable (∀ c ∈ sinceQuery i log, _ → ∀ e ∈ sinceQuery i log, _))

/-- A reader that stores its list does so in time. -/
def FillsInTime (pool : RegistryPool ι) : Move ι Fate RegistryChange → Prop
  | .other _ => True
  | .step i _ => ∀ call ∈ (pool.threads i).nextCall, fills call = true → InTime i pool.log

instance (pool : RegistryPool ι) :
    (move : Move ι Fate RegistryChange) → Decidable (FillsInTime pool move)
  | .other _ => isTrue trivial
  | .step _ _ => inferInstanceAs (Decidable (∀ call ∈ _, _ → _))

/-- The tables that were there after the statement of a task was carried out; the first
argument is the table of the moment. -/
def tablesSince (j : ι) : Table → List (RegistryEntry ι) → List Table
  | _, [] => []
  | now, e :: older =>
      if HasWritten j (e :: older) then now :: tablesSince j e.before.table older else []

/-- The list is that of a table that was there after the statement of a task. -/
def Reflects (corridor : String) (j : ι) (pool : RegistryPool ι) (channels : List Channel) :
    Prop :=
  ∃ table ∈ tablesSince j pool.shared.table pool.log, channels = channelsOf table corridor

/-- What a reader that begins after a writer has returned gets to see. -/
structure WritesVisible (corridor : String) (tasks : ι → RegistryTask)
    (before after : RegistryPool ι) : Prop where
  lists : ∀ i j channels, HasReturned before j → NotBegun before i →
    after.threads i = .ret (.channels channels) → Reflects corridor j after channels
  decisions : ∀ i j decision, HasReturned before j → NotBegun before i →
    after.threads i = .ret (.decision decision) →
      ∃ channels, Reflects corridor j after channels ∧
        ∃ channel ∈ channels, channel.id = decision.channelId ∧ channel.enabled = true
  disabled : ∀ i j id decision, tasks j = .setEnabled id false → HasReturned before j →
    NotBegun before i → after.threads i = .ret (.decision decision) →
      StaysDisabled j id after.log → decision.channelId ≠ id

end

section

variable {corridor : String} {config : Config} {idOrder : String → String → Bool}
  {tasks : ι → RegistryTask} {i j : ι} {e : RegistryEntry ι}
  {log newer older : List (RegistryEntry ι)} {table now : Table}

/-! ## The tables since a write -/

theorem HasWritten.mono (newer : List (RegistryEntry ι)) (h : HasWritten j log) :
    HasWritten j (newer ++ log) := by
  obtain ⟨e, he, hwrote⟩ := h
  exact ⟨e, List.mem_append_right _ he, hwrote⟩

variable [DecidableEq ι]

theorem hasWritten_of_mem (h : table ∈ tablesSince j now log) : HasWritten j log := by
  cases log with
  | nil => cases h
  | cons e older =>
      unfold tablesSince at h
      split at h
      · assumption
      · cases h

/-- The table of the moment is one of them. -/
theorem mem_tablesSince_now (h : HasWritten j log) : now ∈ tablesSince j now log := by
  cases log with
  | nil =>
      obtain ⟨e, he, -⟩ := h
      cases he
  | cons e older =>
      rw [tablesSince, if_pos h]
      exact List.mem_cons_self

theorem mem_tablesSince_cons (h : table ∈ tablesSince j e.before.table log) :
    table ∈ tablesSince j now (e :: log) := by
  have hwritten : HasWritten j (e :: log) := (hasWritten_of_mem h).mono [e]
  rw [tablesSince, if_pos hwritten]
  exact List.mem_cons_of_mem _ h

/-- What a later call found is one of them. -/
theorem mem_tablesSince_before (h : HasWritten j older) :
    e.before.table ∈ tablesSince j now (newer ++ e :: older) := by
  induction newer generalizing now with
  | nil => exact mem_tablesSince_cons (mem_tablesSince_now h)
  | cons x newer ih => exact mem_tablesSince_cons ih

/-! ## What the tasks have noted -/

/-- What a task has noted after the calls of a log. -/
def notedAfter (corridor : String) (tasks : ι → RegistryTask) (i : ι)
    (log : List (RegistryEntry ι)) : Noted :=
  Pool.seen (fun i => registryProtocol corridor (tasks i)) (fun _ => Noted.init) i log

/-- What every run of the pool keeps. -/
abbrev RegistryOrderly (config : Config) (idOrder : String → String → Bool) (corridor : String)
    (tasks : ι → RegistryTask) (pool : RegistryPool ι) : Prop :=
  Pool.Orderly (registryAnswer config idOrder) (fun i => registryProtocol corridor (tasks i))
    (fun _ => Noted.init) (fun _ => Noted.Ended) pool

/-- Every call of the log was allowed to its task. -/
abbrev RegistryLawful (corridor : String) (tasks : ι → RegistryTask)
    (log : List (RegistryEntry ι)) : Prop :=
  Pool.Lawful (fun i => registryProtocol corridor (tasks i)) (fun _ => Noted.init) log

theorem notedAfter_self (h : e.thread = i) : notedAfter corridor tasks i (e :: log) =
    (notedAfter corridor tasks i log).next e.op e.reply := Pool.seen_self h log

theorem notedAfter_of_ne (h : e.thread ≠ i) :
    notedAfter corridor tasks i (e :: log) = notedAfter corridor tasks i log :=
  Pool.seen_of_ne h log

theorem RegistryLawful.allows (h : RegistryLawful corridor tasks (e :: older)) :
    (notedAfter corridor tasks e.thread older).Allows corridor (tasks e.thread) e.op := h.1

theorem notedAfter_of_notBegun (h : ∀ e ∈ log, e.thread ≠ i) :
    notedAfter corridor tasks i log = Noted.init := by
  induction log with
  | nil => rfl
  | cons e log ih =>
      rw [notedAfter_of_ne (h e List.mem_cons_self)]
      exact ih fun e' he' => h e' (List.mem_cons_of_mem _ he')

omit [DecidableEq ι] in
/-- A statement that is answered was carried out. -/
theorem wrote_of_ok (hreply : e.reply = (registryAnswer config idOrder e.fate e.op e.before).1)
    (hwrite : e.op.isWrite = true) {a : e.op.Ans} (h : e.reply = .ok a) : wrote e = true := by
  have hawaited : e.op.isAwaited = true := by
    cases hop : e.op with
    | store | clearCache => simp [hop, RegistryCall.isWrite] at hwrite
    | update | upsert | deleteAll => rfl
  have hcarried : e.fate.carriedOut = true := by
    unfold registryAnswer at hreply
    rw [hawaited] at hreply
    cases hfate : e.fate with
    | refused failure =>
        rw [hfate, h] at hreply
        cases hreply
    | done | lost => rfl
  simp [wrote, hwrite, hcarried]

/-- A task that noted its statement has written. -/
theorem hasWritten_of_noted (hanswered : Pool.Answered (registryAnswer config idOrder) log)
    (h : (notedAfter corridor tasks i log).wrote = true) : HasWritten i log := by
  induction log with
  | nil => cases h
  | cons e log ih =>
      have hrest := ih fun e' he' => hanswered e' (List.mem_cons_of_mem _ he')
      by_cases hthread : e.thread = i
      · rw [notedAfter_self hthread] at h
        have hwrote := wrote_of_ok (hanswered e List.mem_cons_self)
        obtain ⟨thread, op, fate, reply, before⟩ := e
        have hold (hsame : (notedAfter corridor tasks i log).wrote = true) :
            HasWritten i (⟨thread, op, fate, reply, before⟩ :: log) :=
          (hrest hsame).mono [_]
        cases op with
        | update | upsert | deleteAll =>
            cases reply with
            | error failure => exact hold h
            | ok a => exact ⟨_, List.mem_cons_self, hthread, hwrote rfl rfl⟩
        | clearCache => exact hold h
        | store call =>
            refine hold ?_
            cases call with
            | getCache => rcases reply with _ | (_ | _) <;> exact h
            | queryChannels => cases reply <;> exact h
            | _ => exact h
      · rw [notedAfter_of_ne hthread] at h
        exact (hrest h).mono [e]

/-- A task that clears the cache has written before. -/
theorem hasWritten_of_clears
    (hanswered : Pool.Answered (registryAnswer config idOrder) (newer ++ e :: older))
    (hlawful : RegistryLawful corridor tasks (newer ++ e :: older)) (h : clears e = true) :
    HasWritten e.thread older := by
  have hallows := RegistryLawful.allows (Pool.Lawful.older newer hlawful)
  have holder : Pool.Answered (registryAnswer config idOrder) older := fun e' he' =>
    hanswered e' (List.mem_append_right _ (List.mem_cons_of_mem _ he'))
  cases hop : e.op with
  | clearCache =>
      rw [hop] at hallows
      exact hasWritten_of_noted holder hallows
  | store | update | upsert | deleteAll => simp [clears, hop] at h

theorem HasCleared.hasWritten (h : HasCleared j log)
    (hanswered : Pool.Answered (registryAnswer config idOrder) log)
    (hlawful : RegistryLawful corridor tasks log) : HasWritten j log := by
  obtain ⟨e, he, rfl, hclears⟩ := h
  obtain ⟨newer, older, rfl⟩ := List.append_of_mem he
  have hwritten := hasWritten_of_clears hanswered hlawful hclears
  exact (hwritten.mono [e]).mono newer

/-- A task that noted its clearing has cleared the cache. -/
theorem hasCleared_of_noted (h : (notedAfter corridor tasks i log).cleared = true) :
    HasCleared i log := by
  induction log with
  | nil => cases h
  | cons e log ih =>
      have hold (hsame : (notedAfter corridor tasks i log).cleared = true) :
          HasCleared i (e :: log) := by
        obtain ⟨c, hc, hclears⟩ := ih hsame
        exact ⟨c, List.mem_cons_of_mem _ hc, hclears⟩
      by_cases hthread : e.thread = i
      · rw [notedAfter_self hthread] at h
        obtain ⟨thread, op, fate, reply, before⟩ := e
        cases op with
        | clearCache => exact ⟨_, List.mem_cons_self, hthread, rfl⟩
        | update | upsert | deleteAll => cases reply <;> exact hold h
        | store call =>
            refine hold ?_
            cases call with
            | getCache => rcases reply with _ | (_ | _) <;> exact h
            | queryChannels => cases reply <;> exact h
            | _ => exact h
      · rw [notedAfter_of_ne hthread] at h
        exact hold h

theorem Noted.next_queried {noted : Noted} {call : RegistryCall}
    (h : ∀ asked, call ≠ .store (.queryChannels asked)) (reply : Except Failure call.Ans) :
    (noted.next call reply).queried = noted.queried := by
  cases call with
  | store call =>
      cases call with
      | queryChannels asked => exact absurd rfl (h asked)
      | getCache => rcases reply with _ | (_ | _) <;> rfl
      | _ => rfl
  | update | upsert | deleteAll => cases reply <;> rfl
  | clearCache => rfl

/-- What a reader has queried is the list that its last query found. -/
theorem queried_at (hanswered : Pool.Answered (registryAnswer config idOrder) log)
    (hlawful : RegistryLawful corridor tasks log) {channels : List Channel}
    (h : (notedAfter corridor tasks i log).queried = some channels) :
    ∃ newer q older, log = newer ++ q :: older ∧ sinceQuery i log = newer ∧
      wrote q = false ∧ clears q = false ∧ channels = channelsOf q.before.table corridor := by
  induction log with
  | nil => cases h
  | cons e log ih =>
      have hrest := ih (fun e' he' => hanswered e' (List.mem_cons_of_mem _ he')) hlawful.2
      have hskip (hnot : queries i e = false)
          (hold : (notedAfter corridor tasks i log).queried = some channels) :
          ∃ newer q older, e :: log = newer ++ q :: older ∧ sinceQuery i (e :: log) = newer ∧
            wrote q = false ∧ clears q = false ∧
              channels = channelsOf q.before.table corridor := by
        obtain ⟨newer, q, older, rfl, hsince, hq⟩ := hrest hold
        refine ⟨e :: newer, q, older, rfl, ?_, hq⟩
        unfold sinceQuery at hsince ⊢
        rw [List.takeWhile_cons_of_pos (by simp [hnot]), hsince]
      by_cases hthread : e.thread = i
      · rw [notedAfter_self hthread] at h
        have hallows := hlawful.allows
        rw [hthread] at hallows
        by_cases hquery : ∃ asked, e.op = .store (.queryChannels asked)
        · obtain ⟨asked, hop⟩ := hquery
          have hreply := hanswered e List.mem_cons_self
          obtain ⟨thread, op, fate, reply, before⟩ := e
          subst hop
          obtain ⟨rfl, hnone⟩ := hallows
          cases reply with
          | error failure =>
              change (notedAfter asked tasks i log).queried = some channels at h
              rw [hnone] at h
              cases h
          | ok rows =>
              refine ⟨[], _, log, rfl, ?_, rfl, rfl, ?_⟩
              · unfold sinceQuery
                rw [List.takeWhile_cons_of_neg (by simpa [queries] using hthread)]
              · have hrows : rows = before.table.rows.filter (·.corridor = asked) := by
                  cases fate with
                  | done => exact Except.ok.inj hreply
                  | refused failure | lost failure => cases hreply
                rw [← Option.some.inj h, hrows]
                rfl
        · rw [Noted.next_queried (fun asked hop => hquery ⟨asked, hop⟩)] at h
          refine hskip ?_ h
          cases hop : e.op with
          | store call =>
              cases call with
              | queryChannels asked => exact absurd ⟨asked, hop⟩ hquery
              | _ => simp [queries, hop]
          | _ => simp [queries, hop]
      · rw [notedAfter_of_ne hthread] at h
        refine hskip ?_ h
        unfold queries
        split
        · simpa using hthread
        · rfl

/-! ## What a call does to the registry -/

theorem registryAnswer_state (fate : Fate) (call : RegistryCall) (w : World) :
    (registryAnswer config idOrder fate call w).2 =
      if call.isAwaited = true ∧ fate.carriedOut = false then w
      else (performRegistry config idOrder call w).2 := by
  unfold registryAnswer
  cases call.isAwaited with
  | false => cases fate <;> rfl
  | true => cases fate <;> rfl

variable (config idOrder) in
/-- A call fills the cache, clears it, or leaves it. -/
theorem registryAnswer_cache (fate : Fate) (call : RegistryCall) (w : World) :
    (∃ entry, call = .store (.setCache entry) ∧
      (registryAnswer config idOrder fate call w).2.cache = some entry) ∨
    (call = .clearCache ∧ (registryAnswer config idOrder fate call w).2.cache = none) ∨
    (fills call = false ∧ call ≠ .clearCache ∧
      (registryAnswer config idOrder fate call w).2.cache = w.cache) := by
  rw [registryAnswer_state]
  cases call with
  | clearCache => exact .inr (.inl ⟨rfl, rfl⟩)
  | update | deleteAll =>
      refine .inr (.inr ⟨rfl, nofun, ?_⟩)
      split <;> rfl
  | upsert input =>
      refine .inr (.inr ⟨rfl, nofun, ?_⟩)
      split
      · rfl
      · unfold performRegistry
        dsimp only
        split <;> rfl
  | store call =>
      by_cases hfill : ∃ entry, call = .setCache entry
      · obtain ⟨entry, rfl⟩ := hfill
        exact .inl ⟨entry, rfl, rfl⟩
      · have hne : ∀ entry, call ≠ .setCache entry := fun entry h => hfill ⟨entry, h⟩
        refine .inr (.inr ⟨?_, nofun, ?_⟩)
        · cases call with
          | setCache entry => exact absurd rfl (hne entry)
          | _ => rfl
        · split
          · rfl
          · exact perform_cache_of_ne hne

/-- The table changes only where a statement is carried out. -/
theorem registryAnswer_table {fate : Fate} {call : RegistryCall} {w : World}
    (h : (call.isWrite && fate.carriedOut) = false) :
    (registryAnswer config idOrder fate call w).2.table = w.table := by
  rw [registryAnswer_state]
  split
  · rfl
  · rename_i hcarried
    refine performRegistry_table ?_
    by_contra hwrite
    have hawaited : call.isAwaited = true := by
      cases call with
      | store | clearCache => exact absurd rfl hwrite
      | update | upsert | deleteAll => rfl
    simp only [Bool.not_eq_false] at hwrite
    simp [hwrite] at h
    exact hcarried ⟨hawaited, h⟩

/-! ## The step -/

/-- A reader began after a writer had cleared the cache. -/
def BeganAfter (i j : ι) (log : List (RegistryEntry ι)) : Prop :=
  ∃ newer older, log = newer ++ older ∧ HasCleared j older ∧ ∀ e ∈ older, e.thread ≠ i

omit [DecidableEq ι] in
theorem BeganAfter.hasCleared (h : BeganAfter i j log) : HasCleared j log := by
  obtain ⟨newer, older, rfl, ⟨e, he, hclears⟩, -⟩ := h
  exact ⟨e, List.mem_append_right _ he, hclears⟩

omit [DecidableEq ι] in
/-- A call is of a task that has not begun, or the reader had begun after the writer
before. -/
theorem beganAfter_cons (h : BeganAfter i j (e :: log)) :
    (∀ e' ∈ e :: log, e'.thread ≠ i) ∨ BeganAfter i j log := by
  obtain ⟨newer, older, hlog, hcleared, hnot⟩ := h
  cases newer with
  | nil =>
      rw [List.nil_append] at hlog
      exact .inl (hlog ▸ hnot)
  | cons e' newer =>
      obtain ⟨rfl, rfl⟩ := List.cons.inj hlog
      exact .inr ⟨newer, older, rfl, hcleared, hnot⟩

/-- The cache and what later readers have noted reflect every writer that has cleared the
cache. -/
structure Reflected (corridor : String) (tasks : ι → RegistryTask) (pool : RegistryPool ι) :
    Prop where
  cache : ∀ j, HasCleared j pool.log → ∀ entry ∈ pool.shared.cache,
    Reflects corridor j pool entry.channels
  noted : ∀ i j channels, BeganAfter i j pool.log →
    (notedAfter corridor tasks i pool.log).Has channels → Reflects corridor j pool channels

variable {pool : RegistryPool ι}

theorem Reflects.called {channels : List Channel} (h : Reflects corridor j pool channels)
    (i : ι) (fate : Fate) (op : RegistryCall)
    (k : Except Failure op.Ans → RegistryProgram RegistryResult) :
    Reflects corridor j (pool.called (registryAnswer config idOrder) i fate op k) channels := by
  obtain ⟨table, hmem, hchannels⟩ := h
  exact ⟨table, mem_tablesSince_cons hmem, hchannels⟩

/-- A list that is stored in time reflects every writer that has cleared the cache. -/
theorem reflects_of_inTime (h : RegistryOrderly config idOrder corridor tasks pool)
    {channels : List Channel}
    (hqueried : (notedAfter corridor tasks i pool.log).queried = some channels)
    (htime : InTime i pool.log) (hcleared : HasCleared j pool.log) :
    Reflects corridor j pool channels := by
  obtain ⟨newer, q, older, hlog, hsince, hwrote, hclears, rfl⟩ :=
    queried_at h.answered h.lawful hqueried
  have hanswered : Pool.Answered (registryAnswer config idOrder) older := fun e he =>
    h.answered e (hlog ▸ List.mem_append_right _ (List.mem_cons_of_mem _ he))
  have hlawful : RegistryLawful corridor tasks (q :: older) :=
    Pool.Lawful.older newer (hlog ▸ h.lawful)
  by_cases hwritten : HasWritten j older
  · exact ⟨q.before.table, hlog ▸ mem_tablesSince_before hwritten, rfl⟩
  · -- Then the writer has both written and cleared the cache since the query.
    obtain ⟨c, hc, hcj, hcclears⟩ := hcleared
    obtain ⟨e, he, hej, hewrote⟩ :=
      HasCleared.hasWritten ⟨c, hc, hcj, hcclears⟩ h.answered h.lawful
    unfold InTime at htime
    rw [hsince] at htime
    have hcnew : c ∈ newer := by
      rw [hlog] at hc
      rcases List.mem_append.mp hc with hmem | hmem
      · exact hmem
      · rcases List.mem_cons.mp hmem with rfl | hmem
        · rw [hclears] at hcclears
          cases hcclears
        · exact absurd (HasCleared.hasWritten ⟨c, hmem, hcj, hcclears⟩ hanswered hlawful.2)
            hwritten
    have henew : e ∈ newer := by
      rw [hlog] at he
      rcases List.mem_append.mp he with hmem | hmem
      · exact hmem
      · rcases List.mem_cons.mp hmem with rfl | hmem
        · rw [hwrote] at hewrote
          cases hewrote
        · exact absurd ⟨e, hmem, hej, hewrote⟩ hwritten
    have hnot := htime c hcnew hcclears e henew (hej.trans hcj.symm)
    rw [hewrote] at hnot
    cases hnot

/-- What a reader notes in a call reflects every writer that it began after. -/
theorem Reflected.noted_called (h : RegistryOrderly config idOrder corridor tasks pool)
    (hreflected : Reflected corridor tasks pool) (i : ι) (fate : Fate) (op : RegistryCall)
    (hallows : (notedAfter corridor tasks i pool.log).Allows corridor (tasks i) op)
    {channels : List Channel} (hbegan : BeganAfter i j pool.log)
    (hhas : ((notedAfter corridor tasks i pool.log).next op
      (registryAnswer config idOrder fate op pool.shared).1).Has channels) :
    Reflects corridor j pool channels := by
  have hold := hreflected.noted i j channels hbegan
  have hcleared := hbegan.hasCleared
  generalize hreply : (registryAnswer config idOrder fate op pool.shared).1 = reply at hhas
  cases op with
  | update | upsert | deleteAll => cases reply <;> exact hold hhas
  | clearCache => exact hold hhas
  | store call =>
      cases call with
      | getCache =>
          rcases reply with _ | (_ | entry)
          · exact hold hhas
          · exact hold hhas
          · rcases hhas with hcached | hqueried
            · obtain rfl := Option.some.inj hcached
              refine hreflected.cache j hcleared entry ?_
              cases fate <;> exact Except.ok.inj hreply
            · exact hold (.inr hqueried)
      | queryChannels asked =>
          cases reply with
          | error failure => exact hold hhas
          | ok rows =>
              rcases hhas with hcached | hqueried
              · exact hold (.inl hcached)
              · obtain rfl := Option.some.inj hqueried
                obtain ⟨rfl, -⟩ := hallows
                refine ⟨pool.shared.table, mem_tablesSince_now
                  (hcleared.hasWritten h.answered h.lawful), ?_⟩
                cases fate with
                | done =>
                    rw [← Except.ok.inj hreply]
                    rfl
                | refused failure | lost failure => cases hreply
      | _ => exact hold hhas

/-- A call keeps it, where a reader that stores its list does so in time. -/
theorem Reflected.called (h : RegistryOrderly config idOrder corridor tasks pool)
    (hreflected : Reflected corridor tasks pool) (i : ι) (fate : Fate) (op : RegistryCall)
    (k : Except Failure op.Ans → RegistryProgram RegistryResult)
    (hallows : (notedAfter corridor tasks i pool.log).Allows corridor (tasks i) op)
    (htime : fills op = true → InTime i pool.log) :
    Reflected corridor tasks (pool.called (registryAnswer config idOrder) i fate op k) := by
  constructor
  · intro j hcleared entry hentry
    have hbefore (hnot : op ≠ .clearCache) : HasCleared j pool.log := by
      obtain ⟨c, hc, hcj, hclears⟩ := hcleared
      rcases List.mem_cons.mp hc with rfl | hc
      · cases op with
        | clearCache => exact absurd rfl hnot
        | _ => cases hclears
      · exact ⟨c, hc, hcj, hclears⟩
    rcases registryAnswer_cache config idOrder fate op pool.shared with
      ⟨filled, rfl, hcache⟩ | ⟨rfl, hcache⟩ | ⟨-, hnot, hcache⟩
    · obtain rfl : filled = entry := Option.some.inj (hcache.symm.trans hentry)
      exact (reflects_of_inTime h hallows (htime rfl) (hbefore (by simp))).called i fate _ k
    · have hnone := hcache.symm.trans hentry
      cases hnone
    · have hkept := hreflected.cache j (hbefore hnot) entry (hcache.symm.trans hentry)
      exact hkept.called i fate op k
  · intro i' j channels hbegan hhas
    change (notedAfter corridor tasks i' (pool.entry (registryAnswer config idOrder) i fate op ::
      pool.log)).Has channels at hhas
    rcases beganAfter_cons hbegan with hnot | hbegan
    · rw [notedAfter_of_notBegun hnot] at hhas
      rcases hhas with hcached | hqueried
      · cases hcached
      · cases hqueried
    · refine Reflects.called ?_ i fate op k
      by_cases hthread : i = i'
      · subst hthread
        rw [notedAfter_self (i := i) (e := pool.entry (registryAnswer config idOrder) i fate op)
          rfl] at hhas
        exact hreflected.noted_called h i fate op hallows hbegan hhas
      · rw [notedAfter_of_ne hthread] at hhas
        exact hreflected.noted i' j channels hbegan hhas

variable (corridor config idOrder tasks) in
theorem orderly_registry (localeCompare : String → String → Ordering) (w : World)
    (moves : List (Move ι Fate RegistryChange)) :
    RegistryOrderly config idOrder corridor tasks
      (RegistryPool.after config localeCompare idOrder corridor tasks w moves) :=
  Pool.orderly_run w (fun i => follows_registryTask localeCompare corridor (tasks i)) moves

/-- What every timely run keeps. -/
theorem reflected_run (localeCompare : String → String → Ordering) (w : World)
    {moves : List (Move ι Fate RegistryChange)}
    (htime : Always (RegistryPool.next config idOrder) FillsInTime
      (RegistryPool.start config localeCompare corridor tasks w) moves) :
    Reflected corridor tasks
      (RegistryPool.after config localeCompare idOrder corridor tasks w moves) := by
  refine (runFrom_of_guarded (I := fun pool : RegistryPool ι =>
    RegistryOrderly config idOrder corridor tasks pool ∧ Reflected corridor tasks pool)
    ?_ ⟨?_, ?_⟩ htime).2
  · rintro pool move ⟨horderly, hreflected⟩ htime
    refine ⟨horderly.next move, ?_⟩
    cases move with
    | other change =>
        cases change with
        | advance elapsed => exact ⟨hreflected.cache, hreflected.noted⟩
        | clearCache =>
            refine ⟨fun _ _ entry hentry => ?_, hreflected.noted⟩
            cases hentry
    | step i fate =>
        unfold RegistryPool.next Pool.next
        dsimp only
        split
        · rename_i op k hcall
          refine hreflected.called horderly i fate op k (horderly.ends.allows hcall) ?_
          exact htime op (by rw [hcall]; rfl)
        · exact hreflected
  · exact ⟨fun i => follows_registryTask localeCompare corridor (tasks i), trivial,
      fun _ he => absurd he List.not_mem_nil⟩
  · refine ⟨fun j ⟨_, he, _⟩ => absurd he List.not_mem_nil, ?_⟩
    rintro i j channels - (hcached | hqueried)
    · cases hcached
    · cases hqueried

/-! ## A channel that was disabled -/

/-- No table since the statement of a task has the channel enabled. -/
def Disabled (j : ι) (id : String) (pool : RegistryPool ι) : Prop :=
  StaysDisabled j id pool.log →
    ∀ table ∈ tablesSince j pool.shared.table pool.log, ¬ EnabledIn table id

/-- A call of any task keeps it. -/
theorem Disabled.called {id : String} (h : Disabled j id pool)
    (htask : tasks j = .setEnabled id false) (i : ι) (fate : Fate) (op : RegistryCall)
    (k : Except Failure op.Ans → RegistryProgram RegistryResult)
    (hallows : (notedAfter corridor tasks i pool.log).Allows corridor (tasks i) op) :
    Disabled j id (pool.called (registryAnswer config idOrder) i fate op k) := by
  intro hstays table hmem
  have hbefore : ∀ table ∈ tablesSince j pool.shared.table pool.log, ¬ EnabledIn table id :=
    h fun newer e older hlog => hstays (_ :: newer) e older (congrArg _ hlog)
  change table ∈ tablesSince j _ (pool.entry (registryAnswer config idOrder) i fate op ::
    pool.log) at hmem
  have hwritten := hasWritten_of_mem hmem
  rw [tablesSince, if_pos hwritten] at hmem
  rcases List.mem_cons.mp hmem with rfl | hmem
  · change ¬ EnabledIn (registryAnswer config idOrder fate op pool.shared).2.table id
    by_cases hold : HasWritten j pool.log
    · have hnow := hbefore _ (mem_tablesSince_now hold)
      cases hwrote : (op.isWrite && fate.carriedOut) with
      | false =>
          rw [registryAnswer_table hwrote]
          exact hnow
      | true =>
          have henables := hstays [] _ pool.log rfl hold hwrote
          intro henabled
          rw [registryAnswer_state] at henabled
          split at henabled
          · exact hnow henabled
          · rcases enabledIn_performRegistry henabled with henabling | henabled
            · exact absurd henabling (by simpa [Pool.entry] using henables)
            · exact hnow henabled
    · -- The call is the statement of the task itself.
      obtain ⟨e, he, hej, hwrote⟩ := hwritten
      rcases List.mem_cons.mp he with rfl | he
      · change i = j at hej
        subst hej
        have hop : op = .update id false := by
          change (op.isWrite && fate.carriedOut) = true at hwrote
          rw [htask] at hallows
          cases op with
          | store | clearCache => cases hwrote
          | update | upsert | deleteAll => exact (Option.some.inj hallows).symm
        subst hop
        rw [registryAnswer_state, if_neg]
        · exact not_enabledIn_disabled
        · rintro ⟨-, hrefused⟩
          change (true && fate.carriedOut) = true at hwrote
          rw [hrefused] at hwrote
          cases hwrote
      · exact absurd ⟨e, he, hej, hwrote⟩ hold
  · exact hbefore table hmem

theorem disabled_run (localeCompare : String → String → Ordering) (w : World) {id : String}
    (htask : tasks j = .setEnabled id false) (moves : List (Move ι Fate RegistryChange)) :
    Disabled j id (RegistryPool.after config localeCompare idOrder corridor tasks w moves) := by
  refine (runFrom_invariant (I := fun pool : RegistryPool ι =>
    Pool.Sound (fun i => registryProtocol corridor (tasks i)) (fun _ => Noted.init) pool ∧
      Disabled j id pool) moves ?_ ⟨?_, ?_⟩).2
  · rintro pool move ⟨hsound, hdisabled⟩
    refine ⟨hsound.next move, ?_⟩
    cases move with
    | other change =>
        cases change with
        | advance | clearCache => exact hdisabled
    | step i fate =>
        unfold RegistryPool.next Pool.next
        dsimp only
        split
        · rename_i op k hcall
          exact hdisabled.called htask i fate op k (hsound.allows hcall)
        · exact hdisabled
  · exact Pool.sound_start fun i =>
      (follows_registryTask localeCompare corridor (tasks i)).mono fun _ _ _ => trivial
  · intro _ table hmem
    cases hmem

/-! ## Later readers -/

/-- A reader that begins after a writer has returned began after it had cleared the cache. -/
theorem beganAfter_run (localeCompare : String → String → Ordering) (w : World)
    {first second : List (Move ι Fate RegistryChange)}
    (hreturned : HasReturned
      (RegistryPool.after config localeCompare idOrder corridor tasks w first) j)
    (hnot : NotBegun (RegistryPool.after config localeCompare idOrder corridor tasks w first) i) :
    BeganAfter i j (RegistryPool.after config localeCompare idOrder corridor tasks w
      (first ++ second)).log := by
  have horderly := orderly_registry corridor config idOrder tasks localeCompare w first
  obtain ⟨channel, hret⟩ := hreturned
  have hcleared := hasCleared_of_noted (horderly.ends.returned hret)
  unfold RegistryPool.after
  rw [runFrom_append]
  obtain ⟨newer, hlog⟩ := Pool.log_run (registryAnswer config idOrder) RegistryChange.apply
    (RegistryPool.after config localeCompare idOrder corridor tasks w first) second
  exact ⟨newer, _, hlog, hcleared, hnot⟩

/-- In every run in which the readers store their lists in time, a reader that begins
after a writer has returned sees the write. -/
theorem writes_visible (config : Config) (localeCompare : String → String → Ordering)
    (idOrder : String → String → Bool) (corridor : String) (tasks : ι → RegistryTask) (w : World)
    (first second : List (Move ι Fate RegistryChange))
    (htime : Always (RegistryPool.next config idOrder) FillsInTime
      (RegistryPool.start config localeCompare corridor tasks w) (first ++ second)) :
    WritesVisible corridor tasks
      (RegistryPool.after config localeCompare idOrder corridor tasks w first)
      (RegistryPool.after config localeCompare idOrder corridor tasks w (first ++ second)) := by
  have horderly := orderly_registry corridor config idOrder tasks localeCompare w
    (first ++ second)
  have hreflected := reflected_run localeCompare w htime
  have hdecision : ∀ i j decision, HasReturned
      (RegistryPool.after config localeCompare idOrder corridor tasks w first) j →
      NotBegun (RegistryPool.after config localeCompare idOrder corridor tasks w first) i →
      (RegistryPool.after config localeCompare idOrder corridor tasks w
        (first ++ second)).threads i = .ret (.decision decision) →
      ∃ channels, Reflects corridor j (RegistryPool.after config localeCompare idOrder corridor
        tasks w (first ++ second)) channels ∧
        ∃ channel ∈ channels, channel.id = decision.channelId ∧ channel.enabled = true := by
    intro i j decision hreturned hnot hret
    obtain ⟨channels, hhas, hnamed⟩ := horderly.ends.returned hret
    exact ⟨channels, hreflected.noted i j channels
      (beganAfter_run localeCompare w hreturned hnot) hhas, hnamed⟩
  refine ⟨?_, hdecision, ?_⟩
  · intro i j channels hreturned hnot hret
    exact hreflected.noted i j channels (beganAfter_run localeCompare w hreturned hnot)
      (horderly.ends.returned hret)
  · intro i j id decision htask hreturned hnot hret hstays hnamed
    obtain ⟨channels, ⟨table, hmem, rfl⟩, channel, hchannel, hid, henabled⟩ :=
      hdecision i j decision hreturned hnot hret
    refine disabled_run localeCompare w htask (first ++ second) hstays table hmem ?_
    obtain ⟨row, hrow, rfl⟩ := List.mem_map.mp hchannel
    exact ⟨row, (List.mem_filter.mp hrow).1, hid.trans hnamed, henabled⟩

end

/-! ## A reload that comes late -/

/-- A lookup, a change of the channel by an operator, and a route call. -/
def reloadTasks : Fin 3 → RegistryTask
  | 0 => .listChannelsCached 0
  | 1 => .setEnabled "RAIL-A" false
  | 2 => .route (Stream'.const 0) "u1" "txn_1" none

/-- Calls of one task, all carried out. -/
def carriedOut (task : Fin 3) (calls : ℕ) : List (Move (Fin 3) Fate RegistryChange) :=
  List.replicate calls (.step task .done)

/-- The pool of these tasks after some calls. -/
def reloadPool (moves : List (Move (Fin 3) Fate RegistryChange)) : RegistryPool (Fin 3) :=
  RegistryPool.after defaultConfig compare (· ≤ ·) defaultCorridor reloadTasks
    (World.fresh 0 seededA) moves

/-- The lookup has queried when the operator's change begins and returns. -/
def changeDuringReload : List (Move (Fin 3) Fate RegistryChange) :=
  carriedOut 0 2 ++ carriedOut 1 2

/-- The lookup stores its list, and the route call is made. -/
def lateReload : List (Move (Fin 3) Fate RegistryChange) := carriedOut 0 1 ++ carriedOut 2 6

/-- The channel of a route call that has returned. -/
def named : RegistryProgram RegistryResult → Option String
  | .ret (.decision decision) => some decision.channelId
  | _ => none

theorem exists_of_named {thread : RegistryProgram RegistryResult} {channelId : String}
    (h : named thread = some channelId) :
    ∃ decision, thread = .ret (.decision decision) ∧ decision.channelId = channelId := by
  unfold named at h
  split at h
  · exact ⟨_, rfl, Option.some.inj h⟩
  · cases h

theorem reload_names_disabled :
    ¬ WritesVisible defaultCorridor reloadTasks (reloadPool changeDuringReload)
      (reloadPool (changeDuringReload ++ lateReload)) := by
  intro h
  have hlog : ∀ e ∈ (reloadPool (changeDuringReload ++ lateReload)).log,
      e.op.enables "RAIL-A" = false := by decide +kernel
  have hnot : NotBegun (reloadPool changeDuringReload) 2 := by
    unfold NotBegun
    decide +kernel
  obtain ⟨decision, hret, hid⟩ := exists_of_named
    (show named ((reloadPool (changeDuringReload ++ lateReload)).threads 2) = some "RAIL-A" by
      decide +kernel)
  refine h.disabled 2 1 "RAIL-A" decision rfl ⟨_, rfl⟩ hnot hret ?_ hid
  intro newer e older hsplit _ _
  exact hlog e (hsplit ▸ List.mem_append_right _ List.mem_cons_self)

/-- The operator's change is made before the lookup queries. -/
def changeBeforeReload : List (Move (Fin 3) Fate RegistryChange) := carriedOut 1 2

theorem writes_visible_changeBefore :
    WritesVisible defaultCorridor reloadTasks (reloadPool changeBeforeReload)
      (reloadPool (changeBeforeReload ++ (carriedOut 0 3 ++ carriedOut 2 6))) :=
  writes_visible defaultConfig compare (· ≤ ·) defaultCorridor reloadTasks (World.fresh 0 seededA)
    changeBeforeReload (carriedOut 0 3 ++ carriedOut 2 6) (by decide +kernel)

end SwitchService.Runs
