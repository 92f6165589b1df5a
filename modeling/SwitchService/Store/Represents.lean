import SwitchService.Store.Timed

set_option autoImplicit false

/-!
# Store: the keys stand for the world

`carry` carries a call out by the clock of Redis.  `Represents` connects Redis with the
world: a breaker's key stands for its snapshot for good, a mark as long as the world has it,
and the two keys of a bucket until the time to live of its first moment is over, which is
longer than a window looks back.  A record that comes late is lost to Redis only where no
timely read looks.
-/

namespace SwitchService.Store

open SwitchService.Foundation SwitchService.Domain

/-! ## Calls by the clock of Redis -/

/-- What one call does when it is carried out, with the moments that it was given. -/
def Backend.carry (config : Config) : (call : Call) → Backend → Except Failure call.Ans × Backend
  | .record channelId success latencyMs now, b =>
      b.commit (((WindowStore.ofConfig config.routing).recordAt channelId success latencyMs now
        b.now b.db).map fun db => ((), db))
  | .readWindow channelId now, b =>
      b.answer ((WindowStore.ofConfig config.routing).readAt channelId now b.now b.db)
  | .readWindows channelIds now, b =>
      b.answer ((WindowStore.ofConfig config.routing).readManyAt channelIds now b.now b.db)
  | call, b => b.perform config call

/-- A record is carried out in one transaction. -/
theorem Backend.carry_record (config : Config) (channelId : String) (success : Bool)
    (latencyMs : ℕ) (moment : ℚ) (b : Backend) :
    b.carry config (.record channelId success latencyMs moment) =
      (.ok (), { b with
        db := (WindowStore.ofConfig config.routing).recordedAt channelId success latencyMs
          moment b.now b.db }) := by
  have hrecord : (WindowStore.ofConfig config.routing).recordAt channelId success latencyMs
      moment b.now b.db = .ok ((WindowStore.ofConfig config.routing).recordedAt channelId
        success latencyMs moment b.now b.db) :=
    WindowStore.recordAt_of_pos _ config.accepted.bucketMs success latencyMs
  simp only [Backend.carry, hrecord, Except.map, Backend.commit]

/-! ## What a key stands for -/

/-- The moment from which the keys of a bucket need not be there. -/
def keptUntil (config : Config) (id : ℤ) : ℚ :=
  id * config.routing.bucketMs + (WindowStore.ofConfig config.routing).ttlMs

/-- The key is there when the mark is. -/
def Marks (now : ℚ) (content : Option Redis.Stored) (mark : Option ℚ) : Prop :=
  ∀ t, now ≤ t → (Redis.left t content ≠ none ↔ liveAt t mark)

/-- A key stands from now on for what the world keeps of it. -/
def StandsFor (config : Config) (w : World) (now : ℚ) (content : Option Redis.Stored) :
    Key → Prop
  | .bucket channelId id => ∀ t, now ≤ t → t < keptUntil config id →
      WindowStore.ShowsCounts (Redis.left t content) (w.windows channelId id)
  | .latency channelId id => ∀ t, now ≤ t → t < keptUntil config id →
      WindowStore.ShowsSamples (Redis.left t content) (w.windows channelId id)
  | .breaker channelId => Redis.expiryOf content = none ∧
      ∃ fields, Redis.fieldsOf content = .ok fields ∧
        BreakerStore.parseSnapshot fields = w.breakers channelId
  | .probeLock channelId => Marks now content (w.probeSlots channelId)
  | .processed eventId => Marks now content (w.processed eventId)

/-- Redis, the table and the process stand for the world. -/
structure Represents (config : Config) (b : Backend) (w : World) : Prop where
  now : w.now = b.now
  table : w.table = b.table
  cache : w.cache = b.cache
  decisions : w.decisions = b.decisions
  keys : ∀ key : Key, StandsFor config w b.now (b.db key.text) key

variable {config : Config} {w : World} {b : Backend} {now t : ℚ}
  {content : Option Redis.Stored} {mark : Option ℚ}

theorem marks_none (now : ℚ) : Marks now none none := fun t _ => by simp [Redis.left]

theorem Marks.mono (h : Marks now content mark) (hle : now ≤ t) : Marks t content mark :=
  fun t' ht' => h t' (hle.trans ht')

theorem StandsFor.mono {key : Key} (h : StandsFor config w now content key) (hle : now ≤ t) :
    StandsFor config w t content key := by
  cases key with
  | bucket channelId id => exact fun t' ht' => h t' (hle.trans ht')
  | latency channelId id => exact fun t' ht' => h t' (hle.trans ht')
  | breaker channelId => exact h
  | probeLock channelId => exact Marks.mono h hle
  | processed eventId => exact Marks.mono h hle

/-- What is left of a key now stands for as much as the key does. -/
theorem StandsFor.left {key : Key} (h : StandsFor config w now content key) :
    StandsFor config w now (Redis.left now content) key := by
  cases key with
  | bucket channelId id =>
      intro t ht
      rw [Redis.left_left_of_le ht]
      exact h t ht
  | latency channelId id =>
      intro t ht
      rw [Redis.left_left_of_le ht]
      exact h t ht
  | breaker channelId =>
      rw [Redis.left_of_permanent h.1]
      exact h
  | probeLock channelId =>
      intro t ht
      rw [Redis.left_left_of_le ht]
      exact h t ht
  | processed eventId =>
      intro t ht
      rw [Redis.left_left_of_le ht]
      exact h t ht

/-- A Redis that nothing was written to. -/
def Backend.fresh (now : ℕ) (table : Table) : Backend where
  now := now
  db := Redis.empty
  table := table
  cache := none
  decisions := []

/-- An empty Redis stands for a world with nothing stored. -/
theorem represents_fresh (config : Config) (now : ℕ) (table : Table) :
    Represents config (Backend.fresh now table) (World.fresh now table) where
  now := rfl
  table := rfl
  cache := rfl
  decisions := rfl
  keys key := by
    cases key with
    | bucket channelId id => exact fun t _ _ => ⟨fun _ => none, rfl, rfl, rfl⟩
    | latency channelId id => exact fun t _ _ => rfl
    | breaker channelId => exact ⟨rfl, fun _ => none, rfl, rfl⟩
    | probeLock channelId => exact marks_none _
    | processed eventId => exact marks_none _

/-! ## One key and one entry of the world change -/

theorem StandsFor.setBreaker {key : Key} {channelId : String} (snapshot : BreakerSnapshot)
    (hkey : key ≠ .breaker channelId) (h : StandsFor config w now content key) :
    StandsFor config (w.setBreaker channelId snapshot) now content key := by
  cases key with
  | breaker id =>
      have hid : id ≠ channelId := fun heq => hkey (heq ▸ rfl)
      simpa [StandsFor, Function.update_of_ne hid] using h
  | bucket | latency | probeLock | processed => exact h

theorem StandsFor.setProbeSlot {key : Key} {channelId : String} (mark : Option ℚ)
    (hkey : key ≠ .probeLock channelId) (h : StandsFor config w now content key) :
    StandsFor config (w.setProbeSlot channelId mark) now content key := by
  cases key with
  | probeLock id =>
      have hid : id ≠ channelId := fun heq => hkey (heq ▸ rfl)
      simpa [StandsFor, Function.update_of_ne hid] using h
  | bucket | latency | breaker | processed => exact h

theorem StandsFor.setProcessed {key : Key} {eventId : String} (mark : Option ℚ)
    (hkey : key ≠ .processed eventId) (h : StandsFor config w now content key) :
    StandsFor config (w.setProcessed eventId mark) now content key := by
  cases key with
  | processed id =>
      have hid : id ≠ eventId := fun heq => hkey (heq ▸ rfl)
      simpa [StandsFor, Function.update_of_ne hid] using h
  | bucket | latency | breaker | probeLock => exact h

/-- A bucket that the world has not changed is stood for as before. -/
theorem StandsFor.setWindow {key : Key} {channelId : String} {buckets : Buckets} {id : ℤ}
    (hsame : ∀ id', id' ≠ id → buckets id' = w.windows channelId id')
    (hcounters : key ≠ .bucket channelId id) (hsamples : key ≠ .latency channelId id)
    (h : StandsFor config w now content key) :
    StandsFor config (w.setWindow channelId buckets) now content key := by
  have hwindow : ∀ channelId' id', ¬ (channelId' = channelId ∧ id' = id) →
      Function.update w.windows channelId buckets channelId' id' = w.windows channelId' id' := by
    intro channelId' id' hne
    by_cases hchannel : channelId' = channelId
    · subst hchannel
      rw [Function.update_self]
      exact hsame id' fun hid => hne ⟨rfl, hid⟩
    · rw [Function.update_of_ne hchannel]
  cases key with
  | bucket channelId' id' =>
      have hne : ¬ (channelId' = channelId ∧ id' = id) := fun heq => hcounters (by simp [heq])
      simpa [StandsFor, hwindow _ _ hne] using h
  | latency channelId' id' =>
      have hne : ¬ (channelId' = channelId ∧ id' = id) := fun heq => hsamples (by simp [heq])
      simpa [StandsFor, hwindow _ _ hne] using h
  | breaker | probeLock | processed => exact h

/-- One key gets a new content that stands for what the world keeps of it now. -/
theorem Represents.update (h : Represents config b w) {w' : World} (key : Key)
    (hworld : w'.now = w.now ∧ w'.table = w.table ∧ w'.cache = w.cache ∧
      w'.decisions = w.decisions)
    (hothers : ∀ other, other ≠ key → StandsFor config w b.now (b.db other.text) other →
      StandsFor config w' b.now (b.db other.text) other)
    (hkey : StandsFor config w' b.now content key) :
    Represents config { b with db := Function.update b.db key.text content } w' where
  now := hworld.1.trans h.now
  table := hworld.2.1.trans h.table
  cache := hworld.2.2.1.trans h.cache
  decisions := hworld.2.2.2.trans h.decisions
  keys other := by
    by_cases hother : other = key
    · subst hother
      simpa using hkey
    · dsimp only
      rw [Function.update_of_ne (Key.text_ne hother)]
      exact hothers other hother (h.keys other)

/-! ## Marks -/

theorem marks_text (now expiresAt : ℚ) :
    Marks now (some { value := .text "1", expiresAt := some expiresAt }) (some expiresAt) := by
  intro t _
  simp [Redis.left, Option.filter_some, Redis.Stored.isLive]

/-- `SET` with `NX` on a key that stands for a mark. -/
theorem setIfFree_of_marks {key : String} {ttlMs : ℤ} (hpos : 0 < ttlMs) {db : Redis.Keyspace}
    (h : Marks now (db key) mark) :
    BreakerStore.setIfFree key ttlMs now db =
      if liveAt now mark then .ok (false, Function.update db key (Redis.left now (db key)))
      else .ok (true, Function.update db key
        (some { value := .text "1", expiresAt := some (now + ttlMs) })) := by
  have hlive := h now le_rfl
  cases hleft : Redis.left now (db key) with
  | none =>
      rw [if_neg fun hmark => hlive.mpr hmark hleft]
      simp only [BreakerStore.setIfFree, Redis.exec, Redis.Command.key, Redis.Command.apply,
        if_neg (not_le.mpr hpos), hleft]
  | some stored =>
      rw [if_pos (hlive.mp (by simp [hleft]))]
      simp only [BreakerStore.setIfFree, Redis.exec, Redis.Command.key, Redis.Command.apply,
        if_neg (not_le.mpr hpos), hleft]

theorem releaseProbeSlot_eq (channelId : String) (now : ℚ) (db : Redis.Keyspace) :
    BreakerStore.releaseProbeSlot channelId now db =
      Function.update db (probeLockKey channelId) none := by
  simp only [BreakerStore.releaseProbeSlot, Redis.exec, Redis.Command.key, Redis.Command.apply]
  cases Redis.left now (db (probeLockKey channelId)) <;> rfl

/-! ## Breakers -/

/-- A key that stands for a breaker shows its snapshot. -/
theorem Represents.breaker (h : Represents config b w) (channelId : String) :
    BreakerStore.HoldsHash b.now b.db channelId ∧
      BreakerStore.shown b.now b.db channelId = w.breakers channelId := by
  obtain ⟨hpermanent, fields, hfields, hparse⟩ := h.keys (.breaker channelId)
  simp only [Key.text] at hpermanent hfields
  have hleft : Redis.fieldsOf (Redis.left b.now (b.db (breakerKey channelId))) = .ok fields := by
    rw [Redis.left_of_permanent hpermanent, hfields]
  exact ⟨⟨fields, hleft⟩, (BreakerStore.shown_of_fields hleft).trans hparse⟩

theorem Represents.write (h : Represents config b w) (channelId : String)
    {snapshot : BreakerSnapshot} (hstorable : BreakerStore.Storable snapshot) :
    ∃ db, BreakerStore.write channelId snapshot b.now b.db = .ok db ∧
      Represents config { b with db := db } (w.setBreaker channelId snapshot) := by
  obtain ⟨hpermanent, fields, hfields, _⟩ := h.keys (.breaker channelId)
  simp only [Key.text] at hpermanent hfields
  have hwrite : BreakerStore.write channelId snapshot b.now b.db =
      .ok (Function.update b.db (breakerKey channelId) (some
        { value := .hash (Redis.setFields fields (BreakerStore.snapshotFields snapshot))
          expiresAt := Redis.expiryOf (b.db (breakerKey channelId)) })) := by
    have hleft := Redis.left_of_permanent hpermanent b.now
    simp [BreakerStore.write, Redis.exec, Redis.Command.key, Redis.Command.apply, hleft,
      hfields, Except.map]
  refine ⟨_, hwrite, ?_⟩
  refine h.update (.breaker channelId) ⟨rfl, rfl, rfl, rfl⟩
    (fun other hother hstands => hstands.setBreaker snapshot hother) ?_
  refine ⟨hpermanent, _, rfl, ?_⟩
  rw [setBreaker_breakers, Function.update_self]
  exact BreakerStore.parseSnapshot_setFields hstorable fields

/-! ## Windows -/

/-- A read within the slack of a window looks only at buckets that are still kept. -/
theorem lt_keptUntil {id : ℤ}
    (hid : id ∈ windowIds now config.routing.windowMs config.routing.bucketMs)
    (htimely : t + config.routing.bucketMs ≤ now + config.routing.windowMs) :
    t < keptUntil config id := by
  have hbucket := config.accepted.bucketMs
  have hone : 1 ≤ ⌈config.routing.windowMs / config.routing.bucketMs⌉ :=
    Int.one_le_ceil_iff.mpr (div_pos config.accepted.windowMs hbucket)
  have hstart : ⌊now / config.routing.bucketMs⌋ + 1 ≤
      id + ⌈config.routing.windowMs / config.routing.bucketMs⌉ := by
    have hlow := (mem_windowIds.mp hid).1
    unfold windowStart at hlow
    omega
  have hhigh : now < ((⌊now / config.routing.bucketMs⌋ : ℚ) + 1) * config.routing.bucketMs :=
    (div_lt_iff₀ hbucket).mp (Int.lt_floor_add_one _)
  have hceil : (⌈config.routing.windowMs / config.routing.bucketMs⌉ : ℚ) *
      config.routing.bucketMs < config.routing.windowMs + config.routing.bucketMs := by
    have hlt := Int.ceil_lt_add_one (config.routing.windowMs / config.routing.bucketMs)
    have hmul := mul_lt_mul_of_pos_right hlt hbucket
    rwa [add_mul, div_mul_cancel₀ _ hbucket.ne', one_mul] at hmul
  have hspan : ((⌊now / config.routing.bucketMs⌋ : ℚ) + 1) * config.routing.bucketMs ≤
      (id + ⌈config.routing.windowMs / config.routing.bucketMs⌉) * config.routing.bucketMs :=
    mul_le_mul_of_nonneg_right (by exact_mod_cast hstart) hbucket.le
  rw [add_mul (id : ℚ)] at hspan
  have httl : 2 * config.routing.windowMs ≤ (WindowStore.ofConfig config.routing).ttlMs :=
    WindowStore.two_windows_le _
  unfold keptUntil
  linarith

theorem Represents.counters (h : Represents config b w) (channelId : String) {id : ℤ}
    (hkept : b.now < keptUntil config id) :
    WindowStore.ShowsCounts (Redis.left b.now (b.db (bucketKey channelId id)))
      (w.windows channelId id) :=
  h.keys (.bucket channelId id) _ le_rfl hkept

theorem Represents.samples (h : Represents config b w) (channelId : String) {id : ℤ}
    (hkept : b.now < keptUntil config id) :
    WindowStore.ShowsSamples (Redis.left b.now (b.db (latencyKey channelId id)))
      (w.windows channelId id) :=
  h.keys (.latency channelId id) _ le_rfl hkept

/-- The keys of the buckets of a timely read show them. -/
theorem Represents.holds (h : Represents config b w)
    (htimely : (b.now : ℚ) + config.routing.bucketMs ≤ now + config.routing.windowMs)
    (channelId : String) {id : ℤ}
    (hid : id ∈ windowIds now config.routing.windowMs config.routing.bucketMs) :
    WindowStore.Holds b.now b.db channelId id (w.windows channelId id) :=
  ⟨h.counters channelId (lt_keptUntil hid htimely),
    h.samples channelId (lt_keptUntil hid htimely)⟩

/-- A record of a moment that is over stands for the same record in the world. -/
theorem Represents.record (h : Represents config b w) (channelId : String) (success : Bool)
    (latencyMs : ℕ) (hpast : now ≤ b.now) :
    Represents config
      { b with
        db := (WindowStore.ofConfig config.routing).recordedAt channelId success latencyMs now
          b.now b.db }
      (w.setWindow channelId
        ((w.windows channelId).recorded config.routing success latencyMs now)) where
  now := h.now
  table := h.table
  cache := h.cache
  decisions := h.decisions
  keys key := by
    have hbucket := config.accepted.bucketMs
    have hrecorded : (w.windows channelId).recorded config.routing success latencyMs now
        ⌊now / config.routing.bucketMs⌋ =
          (w.windows channelId ⌊now / config.routing.bucketMs⌋).add success latencyMs
            config.routing.maxSamplesPerBucket := Function.update_self ..
    -- The time to live counts from the record, which is not before its bucket begins.
    have hlonger : ∀ t, t < keptUntil config ⌊now / config.routing.bucketMs⌋ →
        t < (b.now : ℚ) + (WindowStore.ofConfig config.routing).ttlMs := by
      intro t ht
      have hbegin : (⌊now / config.routing.bucketMs⌋ : ℚ) * config.routing.bucketMs ≤ now :=
        (le_div_iff₀ hbucket).mp (Int.floor_le _)
      unfold keptUntil at ht
      linarith
    by_cases hcounters : key = .bucket channelId ⌊now / config.routing.bucketMs⌋
    · subst hcounters
      intro t ht hkept
      have hshown := h.counters channelId (lt_of_le_of_lt ht hkept)
      rw [setWindow_windows, Function.update_self, hrecorded]
      exact WindowStore.recordedAt_counters (WindowStore.ofConfig config.routing)
        config.accepted.windowMs hshown success latencyMs (hlonger t hkept)
    · by_cases hsamples : key = .latency channelId ⌊now / config.routing.bucketMs⌋
      · subst hsamples
        intro t ht hkept
        have hshown := h.samples channelId (lt_of_le_of_lt ht hkept)
        rw [setWindow_windows, Function.update_self, hrecorded]
        exact WindowStore.recordedAt_samples (WindowStore.ofConfig config.routing)
          config.accepted.maxSamplesPerBucket config.accepted.windowMs hshown success latencyMs
          (hlonger t hkept)
      · have hframe : (WindowStore.ofConfig config.routing).recordedAt channelId success latencyMs
            now b.now b.db key.text = b.db key.text :=
          WindowStore.recordedAt_frame _ success latencyMs (Key.text_ne hcounters)
            (Key.text_ne hsamples)
        dsimp only
        rw [hframe]
        exact (h.keys key).setWindow (fun id' hid' => Function.update_of_ne hid' _ _) hcounters
          hsamples

/-! ## Calls -/

/-- What a call asks of Redis to be answered as in the world: a record has no moment to
come, a read of windows comes within the slack of a window, a written snapshot can be read
back, and the time to live of a lock is a positive integer. -/
def Timely (config : Config) (clock : ℚ) : Call → Prop
  | .record _ _ _ moment => moment ≤ clock
  | .readWindow _ moment | .readWindows _ moment =>
      clock + config.routing.bucketMs ≤ moment + config.routing.windowMs
  | .writeBreaker _ snapshot => BreakerStore.Storable snapshot
  | .takeProbeSlot _ ttlMs => ∃ ttl : ℤ, 0 < ttl ∧ ttlMs = ttl
  | _ => True

/-- `SET` with `NX` on a key that stands for a mark sets the mark where it is not there. -/
theorem Represents.setIfFree (h : Represents config b w) (key : Key) {w' : World} {ttlMs : ℤ}
    (hpos : 0 < ttlMs) (hmarks : Marks b.now (b.db key.text) mark)
    (hworld : w'.now = w.now ∧ w'.table = w.table ∧ w'.cache = w.cache ∧
      w'.decisions = w.decisions)
    (hothers : ∀ other, other ≠ key → StandsFor config w b.now (b.db other.text) other →
      StandsFor config w' b.now (b.db other.text) other)
    (hkey : ∀ content, Marks b.now content (some (b.now + ttlMs)) →
      StandsFor config w' b.now content key) :
    (if liveAt w.now mark then (.ok false, w) else (.ok true, w') :
        Except Failure Bool × World).1 =
        (b.commit (BreakerStore.setIfFree key.text ttlMs b.now b.db)).1 ∧
      Represents config (b.commit (BreakerStore.setIfFree key.text ttlMs b.now b.db)).2
        (if liveAt w.now mark then (.ok false, w) else (.ok true, w') :
          Except Failure Bool × World).2 := by
  rw [h.now, setIfFree_of_marks hpos hmarks]
  split
  · exact ⟨rfl, h.update key ⟨rfl, rfl, rfl, rfl⟩ (fun _ _ hstands => hstands)
      (h.keys key).left⟩
  · exact ⟨rfl, h.update key hworld hothers (hkey _ (marks_text _ _))⟩

/-- A timely call is answered as in the world, and Redis still stands for the world. -/
theorem Represents.carry (h : Represents config b w) (call : Call)
    (htimely : Timely config b.now call) :
    (perform config call w).1 = (b.carry config call).1 ∧
      Represents config (b.carry config call).2 (perform config call w).2 := by
  cases call with
  | now => exact ⟨congrArg _ h.now, h⟩
  | getCache => exact ⟨congrArg _ h.cache, h⟩
  | setCache entry => exact ⟨rfl, h.now, h.table, rfl, h.decisions, h.keys⟩
  | queryChannels corridor =>
      simp only [perform, Backend.carry, Backend.perform, h.table]
      exact ⟨trivial, h⟩
  | insertDecision decision transactionId =>
      exact ⟨rfl, h.now, h.table, h.cache, congrArg _ h.decisions, h.keys⟩
  | claim eventId =>
      have hpos : (0 : ℤ) < (config.processedTtlSeconds : ℕ) * 1000 := by
        have := config.processedTtlSeconds.pos
        omega
      refine h.setIfFree (.processed eventId) hpos (h.keys (.processed eventId))
        ⟨rfl, rfl, rfl, rfl⟩ (fun _ hother hstands => hstands.setProcessed _ hother) ?_
      intro content hmarks
      simpa [StandsFor, h.now] using hmarks
  | takeProbeSlot channelId ttlMs =>
      obtain ⟨ttl, hpos, rfl⟩ := htimely
      refine h.setIfFree (.probeLock channelId) hpos (h.keys (.probeLock channelId))
        ⟨rfl, rfl, rfl, rfl⟩ (fun _ hother hstands => hstands.setProbeSlot _ hother) ?_
      intro content hmarks
      simpa [StandsFor, h.now] using hmarks
  | releaseProbeSlot channelId =>
      refine ⟨rfl, ?_⟩
      simp only [Backend.carry, Backend.perform, perform, releaseProbeSlot_eq]
      refine h.update (.probeLock channelId) ⟨rfl, rfl, rfl, rfl⟩
        (fun _ hother hstands => hstands.setProbeSlot none hother) ?_
      simpa [StandsFor] using marks_none b.now
  | readBreaker channelId =>
      obtain ⟨hholds, hshown⟩ := h.breaker channelId
      simp only [perform, Backend.carry, Backend.perform, BreakerStore.read_eq hholds, hshown,
        Backend.answer]
      exact ⟨trivial, h⟩
  | readBreakers channelIds =>
      simp only [perform, Backend.carry, Backend.perform, BreakerStore.readMany_eq,
        fun id => (h.breaker id).2]
      exact ⟨trivial, h⟩
  | writeBreaker channelId snapshot =>
      obtain ⟨db, hwrite, hrep⟩ := h.write channelId htimely
      simp only [perform, Backend.carry, Backend.perform, hwrite, Except.map, Backend.commit]
      exact ⟨trivial, hrep⟩
  | record channelId success latencyMs moment =>
      rw [perform_record, Backend.carry_record]
      exact ⟨rfl, h.record channelId success latencyMs htimely⟩
  | readWindow channelId moment =>
      have hread := WindowStore.readAt_of_holds (WindowStore.ofConfig config.routing)
        config.accepted.bucketMs (fun id => fun _ => h.holds htimely id) channelId
      rw [perform_readWindow]
      simp only [Backend.carry, hread, Backend.answer]
      exact ⟨rfl, h⟩
  | readWindows channelIds moment =>
      have hread := WindowStore.readManyAt_of_holds (WindowStore.ofConfig config.routing)
        config.accepted.bucketMs channelIds (fun id => fun _ => h.holds htimely id)
      rw [perform_readWindows]
      simp only [Backend.carry, hread, Backend.answer]
      exact ⟨rfl, h⟩

end SwitchService.Store
