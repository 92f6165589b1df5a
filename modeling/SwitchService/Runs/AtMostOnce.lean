import SwitchService.Runs.Concurrent

set_option autoImplicit false

/-!
# Runs: an event is applied at most once

Any number of deliveries of the same events, each at any step of its own and with any of
its store calls failing.  A claim wins only where no mark of the event is left, and every
claim that is carried out leaves one for `PROCESSED_TTL_SECONDS`; a delivery records, and
moves the breaker, only after it won, and once.
-/

namespace SwitchService.Runs

open SwitchService.Foundation SwitchService.Domain SwitchService.Store
open SwitchService.Repositories SwitchService.Consumer SwitchService.Services

/-! ## Reading the log -/

/-- The call claims an event. -/
def isClaim : Call → Bool
  | .claim _ => true
  | _ => false

/-- The call records an outcome in a window. -/
def isRecord : Call → Bool
  | .record .. => true
  | _ => false

/-- The call stores a breaker. -/
def isWrite : Call → Bool
  | .writeBreaker .. => true
  | _ => false

variable {ι : Type}

/-- The claim of the event was answered with `true`. -/
def Won (eventId : String) : TaskEntry ι → Prop
  | ⟨_, .claim id, _, .ok true, _⟩ => id = eventId
  | _ => False

/-- The claim of the event was answered with `false`. -/
def Denied (eventId : String) : TaskEntry ι → Prop
  | ⟨_, .claim id, _, .ok false, _⟩ => id = eventId
  | _ => False

/-- The entry belongs to a delivery of the event. -/
def Delivers (tasks : ι → Task) (eventId : String) (e : TaskEntry ι) : Prop :=
  ∃ event ∈ (tasks e.thread).event, event.eventId = eventId

instance (tasks : ι → Task) (eventId : String) (e : TaskEntry ι) :
    Decidable (Delivers tasks eventId e) :=
  inferInstanceAs (Decidable (∃ event ∈ (tasks e.thread).event, _ = _))

/-- The delivery of a task came to its claim before the deadline. -/
def ClaimedBefore (log : List (TaskEntry ι)) (deadline : ℚ) (i : ι) : Prop :=
  ∃ c ∈ log, c.thread = i ∧ isClaim c.op = true ∧ c.before.now < deadline

instance [DecidableEq ι] (log : List (TaskEntry ι)) (deadline : ℚ) (i : ι) :
    Decidable (ClaimedBefore log deadline i) :=
  inferInstanceAs (Decidable (∃ c ∈ log, _ ∧ _ ∧ _))

/-- How often deliveries of the event that claimed before the deadline made a kind of
call. -/
def callsBefore [DecidableEq ι] (tasks : ι → Task) (eventId : String)
    (log : List (TaskEntry ι)) (deadline : ℚ) (kind : Call → Bool) : ℕ :=
  log.countP fun e =>
    kind e.op = true ∧ Delivers tasks eventId e ∧ ClaimedBefore log deadline e.thread

/-- The time to live of a mark, in milliseconds. -/
def markTtlMs (config : Config) : ℚ := config.processedTtlSeconds * 1000

/-- From the first won claim until the mark is gone, one record and one breaker write. -/
def AppliedOnce [DecidableEq ι] (config : Config) (tasks : ι → Task) (eventId : String)
    (log : List (TaskEntry ι)) : Prop :=
  ∀ newer first older, log = newer ++ first :: older → Won eventId first →
    (∀ e ∈ older, ¬ Won eventId e) →
    callsBefore tasks eventId log (first.before.now + markTtlMs config) isRecord ≤ 1 ∧
      callsBefore tasks eventId log (first.before.now + markTtlMs config) isWrite ≤ 1

/-- A carried-out claim of the event by one of its deliveries. -/
def Marks (tasks : ι → Task) (eventId : String) (e : TaskEntry ι) : Prop :=
  e.op = .claim eventId ∧ e.fate.carriedOut = true ∧ Delivers tasks eventId e

/-- Only an earlier delivery of the same event, or a mark from before the run, suppresses
a delivery. -/
def DeniedByRepeat (config : Config) (tasks : ι → Task) (eventId : String) (w : World)
    (log : List (TaskEntry ι)) : Prop :=
  ∀ newer c older, log = newer ++ c :: older → Denied eventId c →
    liveAt c.before.now (w.processed eventId) ∨
      ∃ e ∈ older, Marks tasks eventId e ∧
        c.before.now < e.before.now + markTtlMs config

/-! ## The marks -/

section

variable {config : Config} {eventId : String}

variable (config) in
/-- Only a carried-out claim of an unmarked event changes the marks. -/
theorem answer_processed (fate : Fate) (call : Call) (w : World) :
    (answer config fate call w).2.processed = w.processed ∨
      ∃ id, call = .claim id ∧ fate.carriedOut = true ∧ ¬ w.marked id ∧
        (answer config fate call w).2.processed =
          Function.update w.processed id (some (w.now + markTtlMs config)) := by
  rw [answer_state]
  cases call with
  | claim id =>
      cases hfate : fate.carriedOut with
      | false => exact .inl rfl
      | true =>
          by_cases hmarked : w.marked id
          · left
            simp [Store.perform, hmarked]
          · right
            exact ⟨id, rfl, rfl, hmarked, by simp [Store.perform, hmarked, markTtlMs]⟩
  | record | readWindow | readWindows | takeProbeSlot =>
      left
      simp only [Store.perform]
      split
      · rfl
      · split <;> rfl
  | _ =>
      left
      split <;> rfl

theorem Change.apply_processed (change : Change) (w : World) :
    (change.apply w).processed = w.processed := by
  cases change <;> rfl

variable (config) in
/-- A claim of the event that is carried out where no mark is left stores a new one. -/
theorem answer_mark (fate : Fate) (call : Call) (eventId : String) (w : World) :
    (answer config fate call w).2.processed eventId = w.processed eventId ∨
      (call = .claim eventId ∧ fate.carriedOut = true ∧ ¬ w.marked eventId ∧
        (answer config fate call w).2.processed eventId =
          some (w.now + markTtlMs config)) := by
  rcases answer_processed config fate call w with
    hsame | ⟨id, hcall, hfate, hmarked, hupdate⟩
  · exact .inl (by rw [hsame])
  · by_cases hid : eventId = id
    · subst hid
      exact .inr ⟨hcall, hfate, hmarked, by rw [hupdate, Function.update_self]⟩
    · exact .inl (by rw [hupdate, Function.update_of_ne hid])

/-- The answer to a claim tells whether the event was marked. -/
theorem answer_claim {fate : Fate} {id : String} {w : World} {claimed : Bool}
    (h : (answer config fate (.claim id) w).1 = .ok claimed) :
    fate.carriedOut = true ∧ (claimed = true ↔ ¬ w.marked id) := by
  cases fate with
  | refused failure => cases h
  | lost failure => cases h
  | done =>
      refine ⟨rfl, ?_⟩
      by_cases hmarked : w.marked id
      · simp [answer, Call.isAwaited, Store.perform, hmarked] at h
        simp [hmarked, ← h]
      · simp [answer, Call.isAwaited, Store.perform, hmarked] at h
        simp [hmarked, ← h]

variable {tasks : ι → Task} {pool : TaskPool tasks} {i : ι} {fate : Fate} {call : Call}

/-- A claim is won where no mark is left. -/
theorem won_entry (h : Won eventId (Pool.entry (answer config) pool i fate call)) :
    call = .claim eventId ∧ fate.carriedOut = true ∧ ¬ pool.shared.marked eventId := by
  cases call with
  | claim id =>
      cases hreply : (answer config fate (.claim id) pool.shared).1 with
      | error failure => simp [Pool.entry, hreply, Won] at h
      | ok claimed =>
          obtain ⟨hfate, hclaimed⟩ := answer_claim hreply
          cases claimed with
          | false => simp [Pool.entry, hreply, Won] at h
          | true =>
              have hid : id = eventId := by simpa [Pool.entry, hreply, Won] using h
              subst hid
              exact ⟨rfl, hfate, hclaimed.mp rfl⟩
  | _ => cases h

/-- A claim is denied where a mark is left. -/
theorem denied_entry (h : Denied eventId (Pool.entry (answer config) pool i fate call)) :
    call = .claim eventId ∧ pool.shared.marked eventId := by
  cases call with
  | claim id =>
      cases hreply : (answer config fate (.claim id) pool.shared).1 with
      | error failure => simp [Pool.entry, hreply, Denied] at h
      | ok claimed =>
          cases claimed with
          | true => simp [Pool.entry, hreply, Denied] at h
          | false =>
              have hid : id = eventId := by simpa [Pool.entry, hreply, Denied] using h
              subst hid
              simpa using (answer_claim hreply).2
  | _ => cases h

/-- What the log says about the marks of one event. -/
structure MarkInv (config : Config) (tasks : ι → Task) (eventId : String) (w : World)
    (pool : TaskPool tasks) : Prop where
  /-- A won claim is past, and its mark or a later one is stored. -/
  kept : ∀ c ∈ pool.log, Won eventId c → c.before.now ≤ pool.shared.now ∧
    ∃ expiresAt, pool.shared.processed eventId = some expiresAt ∧
      c.before.now + markTtlMs config ≤ expiresAt
  spaced : pool.log.Pairwise fun newer older => Won eventId newer → Won eventId older →
    older.before.now + markTtlMs config ≤ newer.before.now
  origin : pool.shared.processed eventId = w.processed eventId ∨
    ∃ e ∈ pool.log, Marks tasks eventId e ∧
      pool.shared.processed eventId = some (e.before.now + markTtlMs config)
  denied : DeniedByRepeat config tasks eventId w pool.log

/-- A mark that is left keeps away every won claim of before. -/
theorem MarkInv.won_past {w : World} (h : MarkInv config tasks eventId w pool)
    (hmarked : ¬ pool.shared.marked eventId) {c : TaskEntry ι} (hc : c ∈ pool.log)
    (hwon : Won eventId c) : c.before.now + markTtlMs config ≤ pool.shared.now := by
  obtain ⟨_, expiresAt, hmark, hle⟩ := h.kept c hc hwon
  have hexpired : ¬ pool.shared.now < expiresAt := by
    simpa [World.marked, hmark] using hmarked
  exact hle.trans (not_lt.mp hexpired)

theorem markInv_other {w : World} (h : MarkInv config tasks eventId w pool) (change : Change) :
    MarkInv config tasks eventId w { pool with shared := change.apply pool.shared } where
  kept c hc hwon := by
    obtain ⟨hpast, hmark⟩ := h.kept c hc hwon
    refine ⟨hpast.trans (change.apply_now _), ?_⟩
    simpa only [change.apply_processed] using hmark
  spaced := h.spaced
  origin := by simpa only [change.apply_processed] using h.origin
  denied := h.denied

theorem markInv_called [DecidableEq ι] {w : World} (h : MarkInv config tasks eventId w pool)
    (k : Except Failure call.Ans → Program (tasks i).Result)
    (hdelivers : call = .claim eventId →
      Delivers tasks eventId (Pool.entry (answer config) pool i fate call)) :
    MarkInv config tasks eventId w (Pool.called (answer config) pool i fate call k) where
  kept c hc hwon := by
    simp only [Pool.called, answer_now] at hc ⊢
    rcases List.mem_cons.mp hc with rfl | hc
    · obtain ⟨hcall, hfate, hmarked⟩ := won_entry hwon
      refine ⟨le_refl _, pool.shared.now + markTtlMs config, ?_, le_refl _⟩
      rw [answer_state, if_neg (by simp [hfate]), hcall]
      simp [Store.perform, hmarked, markTtlMs]
    · obtain ⟨hpast, expiresAt, hmark, hle⟩ := h.kept c hc hwon
      refine ⟨hpast, ?_⟩
      rcases answer_mark config fate call eventId pool.shared with
        hsame | ⟨_, _, _, hupdate⟩
      · exact ⟨expiresAt, hsame.trans hmark, hle⟩
      · exact ⟨_, hupdate, by linarith⟩
  spaced := by
    refine List.pairwise_cons.mpr ⟨fun c hc hwon hwon' => ?_, h.spaced⟩
    exact h.won_past (won_entry hwon).2.2 hc hwon'
  origin := by
    rcases answer_mark config fate call eventId pool.shared with
      hsame | ⟨hcall, hfate, _, hupdate⟩
    · rcases h.origin with horigin | ⟨e, he, hmarks, hmark⟩
      · exact .inl (hsame.trans horigin)
      · exact .inr ⟨e, List.mem_cons_of_mem _ he, hmarks, hsame.trans hmark⟩
    · exact .inr ⟨_, List.mem_cons_self, ⟨hcall, hfate, hdelivers hcall⟩, hupdate⟩
  denied := by
    intro newer c older hlog hdenied
    rcases List.cons_eq_append_iff.mp hlog with ⟨_, hcons⟩ | ⟨newer', _, hrest⟩
    · -- The denied claim is the new entry: its mark was there.
      obtain ⟨rfl, rfl⟩ := List.cons.inj hcons
      have hmarked := (denied_entry hdenied).2
      unfold World.marked at hmarked
      rcases h.origin with horigin | ⟨e, he, hmarks, hmark⟩
      · rw [horigin] at hmarked
        exact .inl hmarked
      · rw [hmark] at hmarked
        exact .inr ⟨e, he, hmarks, hmarked⟩
    · exact h.denied newer' c older hrest hdenied

end

/-! ## One delivery -/

section

variable {config : Config} {eventId : String} {tasks : ι → Task} {i : ι}
  {log : List (TaskEntry ι)}

/-- Every claim of the task was won. -/
def Winner (eventId : String) (i : ι) (log : List (TaskEntry ι)) : Prop :=
  ∀ c ∈ log, c.thread = i → isClaim c.op = true → Won eventId c

theorem winner_cons {e : TaskEntry ι} :
    Winner eventId i (e :: log) ↔
      (e.thread = i → isClaim e.op = true → Won eventId e) ∧ Winner eventId i log := by
  simp [Winner]

variable [DecidableEq ι]

/-- How often a task made a kind of call. -/
def countBy (i : ι) (kind : Call → Bool) (log : List (TaskEntry ι)) : ℕ :=
  log.countP fun e => e.thread = i ∧ kind e.op = true

/-- What a delivery did by its stage. -/
def DeliveryInv (eventId : String) (i : ι) (log : List (TaskEntry ι)) : Stage → Prop
  | .looking => countBy i isClaim log = 0 ∧ countBy i isRecord log = 0 ∧
      countBy i isWrite log = 0
  | .claimed => Winner eventId i log ∧ countBy i isRecord log = 0 ∧ countBy i isWrite log = 0
  | .recorded => Winner eventId i log ∧ countBy i isRecord log ≤ 1 ∧ countBy i isWrite log = 0
  | .moved => Winner eventId i log ∧ countBy i isRecord log ≤ 1 ∧ countBy i isWrite log ≤ 1
  | .stopped => countBy i isRecord log = 0 ∧ countBy i isWrite log = 0

theorem countBy_cons (e : TaskEntry ι) (kind : Call → Bool) :
    countBy i kind (e :: log) =
      countBy i kind log + if e.thread = i ∧ kind e.op = true then 1 else 0 := by
  simp [countBy, List.countP_cons]

theorem countBy_cons_of_not {e : TaskEntry ι} {kind : Call → Bool}
    (h : ¬ (e.thread = i ∧ kind e.op = true)) :
    countBy i kind (e :: log) = countBy i kind log := by
  rw [countBy_cons, if_neg h, add_zero]

/-- A call that is no claim, record or write leaves the stage. -/
theorem Seen.next_stage (seen : Seen) {call : Call} (hclaim : isClaim call = false)
    (hrecord : isRecord call = false) (hwrite : isWrite call = false)
    (reply : Except Failure call.Ans) : (seen.next call reply).stage = seen.stage := by
  cases call with
  | claim => cases hclaim
  | record => cases hrecord
  | writeBreaker => cases hwrite
  | now | readBreaker | readBreakers => cases reply <;> rfl
  | _ => rfl

/-- A call that is none of the task's claims, records and writes. -/
theorem deliveryInv_cons {e : TaskEntry ι} {stage : Stage} (h : DeliveryInv eventId i log stage)
    (hclaim : ¬ (e.thread = i ∧ isClaim e.op = true))
    (hrecord : ¬ (e.thread = i ∧ isRecord e.op = true))
    (hwrite : ¬ (e.thread = i ∧ isWrite e.op = true)) :
    DeliveryInv eventId i (e :: log) stage := by
  cases stage with
  | looking | stopped =>
      simpa only [DeliveryInv, countBy_cons_of_not hclaim, countBy_cons_of_not hrecord,
        countBy_cons_of_not hwrite] using h
  | claimed | recorded | moved =>
      simp only [DeliveryInv, winner_cons, countBy_cons_of_not hrecord,
        countBy_cons_of_not hwrite]
      exact ⟨⟨fun hthread hop => absurd ⟨hthread, hop⟩ hclaim, h.1⟩, h.2⟩

/-- The calls of a delivery, one by one. -/
theorem deliveryInv_called {pool : TaskPool tasks} {fate : Fate} {call : Call}
    (hallowed : Allowed config.routing (tasks i) (seenBy config tasks i pool.log) call)
    {event : TxnOutcomeEvent} (hevent : (tasks i).event = some event)
    (h : DeliveryInv event.eventId i pool.log (seenBy config tasks i pool.log).stage) :
    DeliveryInv event.eventId i (Pool.entry (answer config) pool i fate call :: pool.log)
      ((seenBy config tasks i pool.log).next call
        (answer config fate call pool.shared).1).stage := by
  cases call with
  | claim id =>
      obtain ⟨hstage, event', hevent', hid⟩ := hallowed
      rw [hevent] at hevent'
      cases hevent'
      subst hid
      rw [hstage] at h
      have hrecord : ¬ ((Pool.entry (answer config) pool i fate (.claim event.eventId)).thread =
          i ∧ isRecord (.claim event.eventId) = true) := by simp [isRecord]
      have hwrite : ¬ ((Pool.entry (answer config) pool i fate (.claim event.eventId)).thread =
          i ∧ isWrite (.claim event.eventId) = true) := by simp [isWrite]
      have hstopped : DeliveryInv event.eventId i
          (Pool.entry (answer config) pool i fate (.claim event.eventId) :: pool.log)
          .stopped := by
        simp only [DeliveryInv]
        rw [countBy_cons_of_not hrecord, countBy_cons_of_not hwrite]
        exact h.2
      cases hreply : (answer config fate (.claim event.eventId) pool.shared).1 with
      | error failure => exact hstopped
      | ok claimed =>
          cases claimed with
          | false => exact hstopped
          | true =>
              refine ⟨winner_cons.mpr ⟨fun _ _ => ?_, ?_⟩, ?_⟩
              · simp [Pool.entry, hreply, Won]
              · -- Before its claim the task had made none.
                intro c hc hthread hop
                have hnone := List.countP_eq_zero.mp h.1 c hc
                simp [hthread, hop] at hnone
              · rw [countBy_cons_of_not hrecord, countBy_cons_of_not hwrite]
                exact h.2
  | record channelId success latencyMs now =>
      rw [show (seenBy config tasks i pool.log).stage = .claimed from hallowed] at h
      obtain ⟨hwinner, hrecords, hwrites⟩ := h
      refine ⟨winner_cons.mpr ⟨(fun _ hop => by cases hop), hwinner⟩, ?_, ?_⟩
      · rw [countBy_cons, hrecords]
        split <;> simp
      · rw [countBy_cons_of_not (by simp [Pool.entry, isWrite]), hwrites]
  | writeBreaker id next =>
      rw [hallowed.1 (by simp [hevent])] at h
      obtain ⟨hwinner, hrecords, hwrites⟩ := h
      refine ⟨winner_cons.mpr ⟨(fun _ hop => by cases hop), hwinner⟩, ?_, ?_⟩
      · rwa [countBy_cons_of_not (by simp [Pool.entry, isRecord])]
      · rw [countBy_cons, hwrites]
        split <;> simp
  | _ =>
      rw [Seen.next_stage _ rfl rfl rfl]
      exact deliveryInv_cons h (by simp [Pool.entry, isClaim]) (by simp [Pool.entry, isRecord])
        (by simp [Pool.entry, isWrite])

/-- A delivery records at most once and writes at most once, and only when it won. -/
theorem DeliveryInv.once {stage : Stage} (h : DeliveryInv eventId i log stage) :
    countBy i isRecord log ≤ 1 ∧ countBy i isWrite log ≤ 1 ∧
      (countBy i isRecord log ≠ 0 ∨ countBy i isWrite log ≠ 0 → Winner eventId i log) := by
  cases stage with
  | looking => simp [h.2.1, h.2.2]
  | claimed => simp [h.2.1, h.2.2]
  | recorded => simp [h.1, h.2.1, h.2.2]
  | moved => exact ⟨h.2.1, h.2.2, fun _ => h.1⟩
  | stopped => simp [h.1, h.2]

end

/-! ## Runs -/

section

variable {config : Config} {tasks : ι → Task} {w : World} {eventId : String}
  {log : List (TaskEntry ι)}

/-- A won claim before the first mark is gone is the first won claim. -/
theorem eq_first {newer older : List (TaskEntry ι)} {first c : TaskEntry ι}
    (hspaced : (newer ++ first :: older).Pairwise fun newer older =>
      Won eventId newer → Won eventId older →
        older.before.now + markTtlMs config ≤ newer.before.now)
    (hfirst : Won eventId first) (holder : ∀ e ∈ older, ¬ Won eventId e)
    (hc : c ∈ newer ++ first :: older) (hwon : Won eventId c)
    (htime : c.before.now < first.before.now + markTtlMs config) : c = first := by
  rcases List.mem_append.mp hc with hnewer | hrest
  · have hle := (List.pairwise_append.mp hspaced).2.2 c hnewer first List.mem_cons_self hwon
      hfirst
    exact absurd hle (not_le.mpr htime)
  · rcases List.mem_cons.mp hrest with rfl | hc
    · rfl
    · exact absurd hwon (holder c hc)

variable [DecidableEq ι]

/-- What the log says about the marks and about every delivery. -/
structure OnceInv (config : Config) (tasks : ι → Task) (w : World) (pool : TaskPool tasks) :
    Prop where
  sound : TaskPool.Sound config pool
  marks : ∀ eventId, MarkInv config tasks eventId w pool
  deliveries : ∀ i, ∀ event ∈ (tasks i).event,
    DeliveryInv event.eventId i pool.log (seenBy config tasks i pool.log).stage

theorem onceInv_start (localeCompare : String → String → Ordering) :
    OnceInv config tasks w (TaskPool.start config localeCompare tasks w) where
  sound := TaskPool.sound_start localeCompare w
  marks eventId :=
    { kept := by
        intro c hc
        cases hc
      spaced := List.Pairwise.nil
      origin := .inl rfl
      denied := by
        intro newer c older hlog
        simp [TaskPool.start, Pool.start] at hlog }
  deliveries := fun i event _ => ⟨rfl, rfl, rfl⟩

theorem onceInv_next {pool : TaskPool tasks} (h : OnceInv config tasks w pool)
    (move : Move ι Fate Change) : OnceInv config tasks w (pool.next config move) := by
  have hrest : (∀ eventId, MarkInv config tasks eventId w (pool.next config move)) ∧
      ∀ i, ∀ event ∈ (tasks i).event, DeliveryInv event.eventId i (pool.next config move).log
        (seenBy config tasks i (pool.next config move).log).stage := by
    refine h.sound.next_of (C := fun pool => (∀ eventId, MarkInv config tasks eventId w pool) ∧
      ∀ i, ∀ event ∈ (tasks i).event, DeliveryInv event.eventId i pool.log
        (seenBy config tasks i pool.log).stage) ⟨h.marks, h.deliveries⟩ ?_ move ?_
    · intro change
      exact ⟨fun eventId => markInv_other (h.marks eventId) change, h.deliveries⟩
    · intro i fate call k _ _ hallowed
      constructor
      · intro eventId
        refine markInv_called (h.marks eventId) k ?_
        rintro rfl
        exact hallowed.2
      · intro j event hevent
        by_cases hj : j = i
        · subst hj
          simp only [Pool.called, seenBy]
          rw [Pool.seen_entry_self]
          exact deliveryInv_called hallowed hevent (h.deliveries j event hevent)
        · have hthread : (Pool.entry (answer config) pool i fate call).thread ≠ j :=
            fun heq => hj heq.symm
          simp only [Pool.called, seenBy]
          rw [Pool.seen_entry_of_ne pool hj]
          exact deliveryInv_cons (h.deliveries j event hevent) (fun hclaim => hthread hclaim.1)
            (fun hrecord => hthread hrecord.1) fun hwrite => hthread hwrite.1
  exact { sound := h.sound.next move, marks := hrest.1, deliveries := hrest.2 }

/-- A kind of call that each delivery makes at most once, and only when it won, is made at
most once before the first mark is gone. -/
theorem callsBefore_le_one (kind : Call → Bool)
    (hspaced : log.Pairwise fun newer older => Won eventId newer → Won eventId older →
      older.before.now + markTtlMs config ≤ newer.before.now)
    (honce : ∀ i, ∀ event ∈ (tasks i).event, countBy i kind log ≤ 1 ∧
      (countBy i kind log ≠ 0 → Winner event.eventId i log))
    {newer older : List (TaskEntry ι)} {first : TaskEntry ι}
    (hlog : log = newer ++ first :: older) (hfirst : Won eventId first)
    (holder : ∀ e ∈ older, ¬ Won eventId e) :
    callsBefore tasks eventId log (first.before.now + markTtlMs config) kind ≤ 1 := by
  -- Such a call is made by the delivery that won first.
  have hthread : ∀ e ∈ log, kind e.op = true → Delivers tasks eventId e →
      ClaimedBefore log (first.before.now + markTtlMs config) e.thread →
      e.thread = first.thread := by
    intro e he hkind ⟨event, hevent, hid⟩ ⟨c, hc, hcthread, hclaim, htime⟩
    have hcount : countBy e.thread kind log ≠ 0 := by
      intro hzero
      have hnot := List.countP_eq_zero.mp hzero e he
      simp [hkind] at hnot
    have hwon : Won eventId c := by
      rw [← hid]
      exact (honce e.thread event hevent).2 hcount c hc hcthread hclaim
    rw [hlog] at hspaced hc
    rw [← hcthread, eq_first hspaced hfirst holder hc hwon htime]
  by_contra hmany
  have hpos : 0 < callsBefore tasks eventId log (first.before.now + markTtlMs config) kind := by
    omega
  obtain ⟨e, he, hcalls⟩ := List.countP_pos_iff.mp hpos
  simp only [decide_eq_true_eq] at hcalls
  obtain ⟨hkind, hdelivers, hbefore⟩ := hcalls
  have hfirstThread := hthread e he hkind hdelivers hbefore
  obtain ⟨event, hevent, _⟩ := hdelivers
  have hle : callsBefore tasks eventId log (first.before.now + markTtlMs config) kind ≤
      countBy first.thread kind log := by
    refine List.countP_mono_left fun e' he' hcalls' => ?_
    simp only [decide_eq_true_eq] at hcalls' ⊢
    exact ⟨hthread e' he' hcalls'.1 hcalls'.2.1 hcalls'.2.2, hcalls'.1⟩
  have hone := (honce e.thread event hevent).1
  rw [hfirstThread] at hone
  omega

/-- Whatever the deliveries, the order of their store calls and the calls that fail, an
event is recorded once and moves the breaker once until its first mark is gone, and only a
repeat of the same event is turned away. -/
theorem applied_at_most_once (config : Config) (localeCompare : String → String → Ordering)
    (tasks : ι → Task) (w : World) (moves : List (Move ι Fate Change)) (eventId : String) :
    AppliedOnce config tasks eventId
        (runFrom (TaskPool.next config) (TaskPool.start config localeCompare tasks w) moves).log ∧
      DeniedByRepeat config tasks eventId w
        (runFrom (TaskPool.next config) (TaskPool.start config localeCompare tasks w)
          moves).log := by
  have hinv := runFrom_invariant (I := OnceInv config tasks w) moves
    (fun _ move h => onceInv_next h move) (onceInv_start localeCompare)
  refine ⟨?_, (hinv.marks eventId).denied⟩
  intro newer first older hlog hfirst holder
  have honce := fun i event hevent => (hinv.deliveries i event hevent).once
  constructor
  · exact callsBefore_le_one isRecord (hinv.marks eventId).spaced
      (fun i event hevent => ⟨(honce i event hevent).1,
        fun hcount => (honce i event hevent).2.2 (.inl hcount)⟩) hlog hfirst holder
  · exact callsBefore_le_one isWrite (hinv.marks eventId).spaced
      (fun i event hevent => ⟨(honce i event hevent).2.1,
        fun hcount => (honce i event hevent).2.2 (.inr hcount)⟩) hlog hfirst holder

end

end SwitchService.Runs
