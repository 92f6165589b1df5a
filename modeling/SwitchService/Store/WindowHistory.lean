import SwitchService.Store.WindowStore

set_option autoImplicit false

/-!
# Store: what the window store remembers

A history of records, newest first, and what a read finds of it.  A bucket is kept for
twice the window after its last record, which is longer than it is looked at; so the
keys of every bucket of the window still show all its outcomes.
-/

namespace SwitchService.Store

open SwitchService.Foundation SwitchService.Domain

namespace WindowStore

/-! ## One record -/

section

variable {store : WindowStore} {now t : ℚ} {db : Redis.Keyspace} {channelId key : String}
  {id : ℤ} {bucket : Bucket} {content : Option Redis.Stored}

theorem incremented_counterText (n : ℕ) :
    Redis.incremented 1 (counterText n) = some ((n + 1 : ℕ) : ℤ) := by
  cases n with
  | zero => rfl
  | succ n =>
      simp only [Redis.incremented, counterText, Redis.integerOf_toString, Option.map_some]
      push_cast
      rfl

/-- The commands of a record on the counters, on any hash that they can count in. -/
theorem applyAll_counters {fields : String → Option String}
    (hfields : Redis.fieldsOf (Redis.left now content) = .ok fields) {success : Bool} {n : ℤ}
    (hn : Redis.incremented 1 (fields (counterField success)) = some n) (latencyMs : ℕ)
    (key : String) {seconds : ℤ} (hseconds : 0 < seconds) :
    ∃ fields', Redis.applyAll now [.hincrby key (counterField success) 1,
        .hincrby key "latSum" latencyMs, .expire key seconds] content =
          some { value := .hash fields', expiresAt := some (now + seconds * 1000) } ∧
      fields' (counterField success) = some (toString n) ∧
      fields' (counterField !success) = fields (counterField !success) := by
  let counted : Redis.Stored :=
    { value := .hash (Function.update fields (counterField success) (some (toString n)))
      expiresAt := Redis.expiryOf (Redis.left now content) }
  obtain ⟨fields', hothers, hsame⟩ := Redis.apply_hincrby_others now key "latSum" latencyMs
    (rfl : counted.value = _)
  have hne : ∀ success, counterField success ≠ "latSum" := by decide
  refine ⟨fields', ?_, ?_, ?_⟩
  · simp only [Redis.applyAll, List.foldl_cons, List.foldl_nil]
    rw [Redis.apply_hincrby hfields hn, Redis.left_keep, hothers, Redis.left_keep,
      Redis.apply_expire hseconds]
  · rw [hsame _ (hne success), Function.update_self]
  · rw [hsame _ (hne !success), Function.update_of_ne]
    cases success <;> decide

/-- The counters of a bucket after a record, with the time to live set anew. -/
theorem applyAll_showsCounts (h : ShowsCounts (Redis.left now content) bucket)
    (success : Bool) (latencyMs cap : ℕ) (key : String) {seconds : ℤ} (hseconds : 0 < seconds) :
    ∃ fields, Redis.applyAll now [.hincrby key (counterField success) 1,
        .hincrby key "latSum" latencyMs, .expire key seconds] content =
          some { value := .hash fields, expiresAt := some (now + seconds * 1000) } ∧
      fields "success" = counterText (bucket.add success latencyMs cap).success ∧
      fields "failure" = counterText (bucket.add success latencyMs cap).failure := by
  obtain ⟨fields, hfields, hsuccess, hfailure⟩ := h
  have hcount : Redis.incremented 1 (fields (counterField success)) =
      some (((if success then bucket.success else bucket.failure) + 1 : ℕ) : ℤ) := by
    cases success with
    | true => exact hsuccess ▸ incremented_counterText bucket.success
    | false => exact hfailure ▸ incremented_counterText bucket.failure
  obtain ⟨fields', hcontent, hcounted, hother⟩ :=
    applyAll_counters hfields hcount latencyMs key hseconds
  cases success with
  | true => exact ⟨fields', hcontent, hcounted, hother.trans hfailure⟩
  | false => exact ⟨fields', hcontent, hother.trans hsuccess, hcounted⟩

/-- The commands of a record on the samples, on any list. -/
theorem applyAll_samples {items : List String}
    (hitems : Redis.itemsOf (Redis.left now content) = .ok items) (latencyMs : ℕ) {cap : ℕ}
    (hcap : 1 ≤ cap) {seconds : ℤ} (hseconds : 0 < seconds) :
    Redis.applyAll now [.lpush key (Number.natText latencyMs), .ltrim key 0 (cap - 1),
        .expire key seconds] content =
      some { value := .list ((Number.natText latencyMs :: items).take cap)
             expiresAt := some (now + seconds * 1000) } := by
  have hne : (Number.natText latencyMs :: items).take cap ≠ [] := by
    obtain ⟨cap, rfl⟩ := Nat.exists_eq_add_of_le' hcap
    simp
  simp only [Redis.applyAll, List.foldl_cons, List.foldl_nil]
  rw [Redis.apply_lpush hitems, Redis.left_keep]
  rw [Redis.apply_ltrim rfl (by rwa [Redis.slice_cap hcap]), Redis.slice_cap hcap]
  change ((Redis.Command.expire key seconds).apply now (Redis.left now (some
    { value := _, expiresAt := Redis.expiryOf (Redis.left now content) }))).2 = _
  rw [Redis.left_keep, Redis.apply_expire hseconds]

/-- The keyspace after a record, with a valid bucket size. -/
def recorded (store : WindowStore) (channelId : String) (success : Bool) (latencyMs : ℕ)
    (now : ℚ) (db : Redis.Keyspace) : Redis.Keyspace :=
  (Redis.multi now (store.recordCommands channelId success latencyMs ⌊now / store.bucketMs⌋)
    db).2

theorem record_of_pos (h : 0 < store.bucketMs) (success : Bool) (latencyMs : ℕ) :
    store.record channelId success latencyMs now db =
      .ok (store.recorded channelId success latencyMs now db) := by
  simp only [record, bucketIdAt_of_pos h]
  rfl

/-- The time to live of a bucket, in milliseconds. -/
def ttlMs (store : WindowStore) : ℚ := bucketTtlSeconds store.windowMs * 1000

/-- The commands of a record on the counters of its bucket. -/
theorem filter_counters (success : Bool) (latencyMs : ℕ) (id : ℤ) :
    (store.recordCommands channelId success latencyMs id).filter
        (·.key = bucketKey channelId id) =
      [.hincrby (bucketKey channelId id) (counterField success) 1,
        .hincrby (bucketKey channelId id) "latSum" latencyMs,
        .expire (bucketKey channelId id) (bucketTtlSeconds store.windowMs)] := by
  simp [recordCommands, Redis.Command.key, (bucketKey_ne_latencyKey _ _ _ _).symm]

/-- The commands of a record on the samples of its bucket. -/
theorem filter_samples (success : Bool) (latencyMs : ℕ) (id : ℤ) :
    (store.recordCommands channelId success latencyMs id).filter
        (·.key = latencyKey channelId id) =
      [.lpush (latencyKey channelId id) (Number.natText latencyMs),
        .ltrim (latencyKey channelId id) 0 (store.maxSamplesPerBucket - 1),
        .expire (latencyKey channelId id) (bucketTtlSeconds store.windowMs)] := by
  simp [recordCommands, Redis.Command.key, bucketKey_ne_latencyKey]

/-- A record shows in its bucket for as long as the keys live. -/
theorem recorded_holds (hcap : 1 ≤ store.maxSamplesPerBucket) (hwindow : 0 < store.windowMs)
    (h : Holds now db channelId ⌊now / store.bucketMs⌋ bucket) (success : Bool)
    (latencyMs : ℕ) (ht : t < now + store.ttlMs) :
    Holds t (store.recorded channelId success latencyMs now db) channelId
      ⌊now / store.bucketMs⌋ (bucket.add success latencyMs store.maxSamplesPerBucket) := by
  have hseconds : 0 < bucketTtlSeconds store.windowMs := by
    unfold bucketTtlSeconds
    exact Int.ceil_pos.mpr (by linarith)
  have hlive : ∀ value, ({ value := value, expiresAt := some (now +
      bucketTtlSeconds store.windowMs * 1000) } : Redis.Stored).isLive t = true := by
    intro value
    simpa [Redis.Stored.isLive, ttlMs] using ht
  constructor
  · obtain ⟨fields, hcontent, hsuccess, hfailure⟩ := applyAll_showsCounts h.1 success
      latencyMs store.maxSamplesPerBucket (bucketKey channelId ⌊now / store.bucketMs⌋) hseconds
    unfold recorded
    rw [Redis.multi_key, filter_counters, hcontent, Redis.left_of_live (hlive _)]
    exact ⟨fields, rfl, hsuccess, hfailure⟩
  · unfold recorded
    rw [Redis.multi_key, filter_samples, applyAll_samples h.2 latencyMs hcap hseconds,
      Redis.left_of_live (hlive _), ← List.map_cons, ← List.map_take]
    rfl

/-- A record leaves the keys of every other bucket. -/
theorem recorded_other {channelId' : String} (success : Bool) (latencyMs : ℕ)
    (hne : ¬ (channelId' = channelId ∧ id = ⌊now / store.bucketMs⌋))
    (h : Holds t db channelId' id bucket) :
    Holds t (store.recorded channelId success latencyMs now db) channelId' id bucket := by
  have hcounters : (store.recordCommands channelId success latencyMs
      ⌊now / store.bucketMs⌋).filter (·.key = bucketKey channelId' id) = [] := by
    have hkey : ¬ (channelId = channelId' ∧ ⌊now / store.bucketMs⌋ = id) :=
      fun heq => hne ⟨heq.1.symm, heq.2.symm⟩
    simp [recordCommands, Redis.Command.key, bucketKey_inj, hkey,
      (bucketKey_ne_latencyKey _ _ _ _).symm]
  have hsamples : (store.recordCommands channelId success latencyMs
      ⌊now / store.bucketMs⌋).filter (·.key = latencyKey channelId' id) = [] := by
    have hkey : ¬ (channelId = channelId' ∧ ⌊now / store.bucketMs⌋ = id) :=
      fun heq => hne ⟨heq.1.symm, heq.2.symm⟩
    simp [recordCommands, Redis.Command.key, latencyKey_inj, hkey, bucketKey_ne_latencyKey]
  unfold Holds recorded
  rw [Redis.multi_key, hcounters, Redis.multi_key, hsamples]
  exact h

end

/-! ## Histories -/

/-- One recorded outcome. -/
structure Outcome where
  channelId : String
  success : Bool
  latencyMs : ℕ
  recordedAt : ℚ

/-- The keyspace after a history, newest outcome first. -/
def recordAll (store : WindowStore) : List Outcome → Except String Redis.Keyspace
  | [] => .ok Redis.empty
  | outcome :: older => do
      let db ← store.recordAll older
      store.record outcome.channelId outcome.success outcome.latencyMs outcome.recordedAt db

/-- The outcomes of one bucket of one channel. -/
def bucketOutcomes (store : WindowStore) (channelId : String) (id : ℤ)
    (history : List Outcome) : List Outcome :=
  history.filter fun outcome =>
    outcome.channelId = channelId ∧ ⌊outcome.recordedAt / store.bucketMs⌋ = id

theorem bucketOutcomes_cons_self (store : WindowStore) (outcome : Outcome)
    (history : List Outcome) :
    store.bucketOutcomes outcome.channelId ⌊outcome.recordedAt / store.bucketMs⌋
        (outcome :: history) =
      outcome :: store.bucketOutcomes outcome.channelId
        ⌊outcome.recordedAt / store.bucketMs⌋ history := by
  simp [bucketOutcomes]

theorem bucketOutcomes_cons_of_ne (store : WindowStore) {outcome : Outcome}
    {channelId : String} {id : ℤ} (history : List Outcome)
    (h : ¬ (outcome.channelId = channelId ∧ ⌊outcome.recordedAt / store.bucketMs⌋ = id)) :
    store.bucketOutcomes channelId id (outcome :: history) =
      store.bucketOutcomes channelId id history := by
  simp [bucketOutcomes, h]

/-- The bucket that some outcomes make up. -/
def bucketOf (store : WindowStore) (outcomes : List Outcome) : Bucket :=
  outcomes.foldr
    (fun outcome bucket =>
      bucket.add outcome.success outcome.latencyMs store.maxSamplesPerBucket) .empty

section

variable {store : WindowStore} {history : List Outcome} {db : Redis.Keyspace}
  {channelId : String} {id : ℤ} {now : ℚ}

theorem bucketOf_success (outcomes : List Outcome) :
    (store.bucketOf outcomes).success = outcomes.countP (·.success = true) := by
  induction outcomes with
  | nil => rfl
  | cons outcome outcomes ih =>
      rw [List.countP_cons, ← ih]
      cases hsuccess : outcome.success <;> simp [bucketOf, Bucket.add, hsuccess]

theorem bucketOf_failure (outcomes : List Outcome) :
    (store.bucketOf outcomes).failure = outcomes.countP (·.success = false) := by
  induction outcomes with
  | nil => rfl
  | cons outcome outcomes ih =>
      rw [List.countP_cons, ← ih]
      cases hsuccess : outcome.success <;> simp [bucketOf, Bucket.add, hsuccess]

/-- A bucket keeps the samples of its most recent outcomes. -/
theorem bucketOf_samples (outcomes : List Outcome) :
    (store.bucketOf outcomes).samples =
      (outcomes.map (·.latencyMs)).take store.maxSamplesPerBucket := by
  induction outcomes with
  | nil => simp [bucketOf, Bucket.empty]
  | cons outcome outcomes ih =>
      change (outcome.latencyMs :: (store.bucketOf outcomes).samples).take _ = _
      rw [ih]
      cases store.maxSamplesPerBucket with
      | zero => rfl
      | succ cap => simp [List.take_take]

/-- The keys of a bucket show its outcomes until the time to live of one of them is
over. -/
def Remembers (store : WindowStore) (history : List Outcome) (db : Redis.Keyspace) : Prop :=
  ∀ channelId id t, (∀ outcome ∈ history, outcome.recordedAt ≤ t) →
    (∀ outcome ∈ store.bucketOutcomes channelId id history,
      t < outcome.recordedAt + store.ttlMs) →
    Holds t db channelId id (store.bucketOf (store.bucketOutcomes channelId id history))

theorem two_windows_le (store : WindowStore) : 2 * store.windowMs ≤ store.ttlMs := by
  have h := Int.le_ceil (store.windowMs * 2 / 1000)
  unfold ttlMs bucketTtlSeconds
  linarith

theorem remembers_empty : Remembers store [] Redis.empty := by
  intro channelId id t _ _
  exact ⟨⟨fun _ => none, rfl, rfl, rfl⟩, rfl⟩

/-- Two moments of one bucket are less than a bucket apart. -/
theorem lt_add_of_same_bucket {bucketMs t : ℚ} (hbucket : 0 < bucketMs)
    (h : ⌊t / bucketMs⌋ = ⌊now / bucketMs⌋) : now < t + bucketMs := by
  have hlow : (⌊now / bucketMs⌋ : ℚ) * bucketMs ≤ t := by
    rw [← h]
    exact (le_div_iff₀ hbucket).mp (Int.floor_le _)
  have hhigh : now < ((⌊now / bucketMs⌋ : ℚ) + 1) * bucketMs :=
    (div_lt_iff₀ hbucket).mp (Int.lt_floor_add_one _)
  linarith

/-- A record is remembered beside what was. -/
theorem remembers_recorded (hbucket : 0 < store.bucketMs)
    (hwindow : store.bucketMs ≤ store.windowMs) (hcap : 1 ≤ store.maxSamplesPerBucket)
    {outcome : Outcome} (horder : ∀ older ∈ history, older.recordedAt ≤ outcome.recordedAt)
    (h : Remembers store history db) :
    Remembers store (outcome :: history) (store.recorded outcome.channelId outcome.success
      outcome.latencyMs outcome.recordedAt db) := by
  intro channelId id t hpast hlive
  have hpast' : ∀ older ∈ history, older.recordedAt ≤ t :=
    fun older hmem => hpast older (List.mem_cons_of_mem _ hmem)
  by_cases hsame : outcome.channelId = channelId ∧
      ⌊outcome.recordedAt / store.bucketMs⌋ = id
  · obtain ⟨rfl, rfl⟩ := hsame
    rw [bucketOutcomes_cons_self] at hlive ⊢
    refine recorded_holds hcap (lt_of_lt_of_le hbucket hwindow)
      (h _ _ _ horder fun older hmem => ?_) _ _ (hlive outcome List.mem_cons_self)
    -- The older outcomes of the bucket are still there when the new one arrives.
    have hbucketOf : ⌊older.recordedAt / store.bucketMs⌋ =
        ⌊outcome.recordedAt / store.bucketMs⌋ := by
      have hfilter := List.mem_filter.mp hmem
      simp only [decide_eq_true_eq] at hfilter
      exact hfilter.2.2
    have hnear := lt_add_of_same_bucket hbucket hbucketOf
    have httl := two_windows_le store
    linarith
  · rw [bucketOutcomes_cons_of_ne store history hsame] at hlive ⊢
    exact recorded_other _ _ (fun heq => hsame ⟨heq.1.symm, heq.2.symm⟩) (h _ _ _ hpast' hlive)

/-- Every history in order is remembered. -/
theorem remembers_recordAll (hbucket : 0 < store.bucketMs)
    (hwindow : store.bucketMs ≤ store.windowMs) (hcap : 1 ≤ store.maxSamplesPerBucket)
    (horder : history.Pairwise fun newer older => older.recordedAt ≤ newer.recordedAt) :
    ∃ db, store.recordAll history = .ok db ∧ Remembers store history db := by
  induction history with
  | nil => exact ⟨Redis.empty, rfl, remembers_empty⟩
  | cons outcome history ih =>
      obtain ⟨hnewest, horder⟩ := List.pairwise_cons.mp horder
      obtain ⟨db, hdb, h⟩ := ih horder
      refine ⟨_, ?_, remembers_recorded hbucket hwindow hcap hnewest h⟩
      unfold recordAll
      rw [hdb]
      exact record_of_pos hbucket _ _

/-! ## Reading a history -/

/-- The bucket of the outcome is one of the last `ceil(windowMs / bucketMs)` buckets. -/
def InWindow (store : WindowStore) (now : ℚ) (outcome : Outcome) : Prop :=
  ⌊now / store.bucketMs⌋ - ⌈store.windowMs / store.bucketMs⌉ <
      ⌊outcome.recordedAt / store.bucketMs⌋ ∧
    ⌊outcome.recordedAt / store.bucketMs⌋ ≤ ⌊now / store.bucketMs⌋

instance (store : WindowStore) (now : ℚ) (outcome : Outcome) :
    Decidable (InWindow store now outcome) := inferInstanceAs (Decidable (_ ∧ _))

theorem mem_windowIds_iff (hbucket : 0 < store.bucketMs)
    (hwindow : store.bucketMs ≤ store.windowMs) (outcome : Outcome) :
    ⌊outcome.recordedAt / store.bucketMs⌋ ∈ windowIds now store.windowMs store.bucketMs ↔
      InWindow store now outcome := by
  have hone : 1 ≤ ⌈store.windowMs / store.bucketMs⌉ := by
    rw [Int.one_le_ceil_iff]
    exact div_pos (lt_of_lt_of_le hbucket hwindow) hbucket
  rw [mem_windowIds]
  unfold windowStart InWindow
  omega

/-- A bucket of the window is younger than its time to live. -/
theorem lt_ttl_of_inWindow (hbucket : 0 < store.bucketMs)
    (hwindow : store.bucketMs ≤ store.windowMs) {outcome : Outcome}
    (h : InWindow store now outcome) : now < outcome.recordedAt + store.ttlMs := by
  have hlow : (⌊outcome.recordedAt / store.bucketMs⌋ : ℚ) * store.bucketMs ≤
      outcome.recordedAt := (le_div_iff₀ hbucket).mp (Int.floor_le _)
  have hhigh : now < ((⌊now / store.bucketMs⌋ : ℚ) + 1) * store.bucketMs :=
    (div_lt_iff₀ hbucket).mp (Int.lt_floor_add_one _)
  have hceil : (⌈store.windowMs / store.bucketMs⌉ : ℚ) * store.bucketMs <
      store.windowMs + store.bucketMs := by
    have hlt := Int.ceil_lt_add_one (store.windowMs / store.bucketMs)
    have hmul := mul_lt_mul_of_pos_right hlt hbucket
    rwa [add_mul, div_mul_cancel₀ _ hbucket.ne', one_mul] at hmul
  have hids : (⌊now / store.bucketMs⌋ : ℚ) + 1 ≤
      ⌊outcome.recordedAt / store.bucketMs⌋ + ⌈store.windowMs / store.bucketMs⌉ := by
    have hint := h.1
    have hle : ⌊now / store.bucketMs⌋ + 1 ≤
        ⌊outcome.recordedAt / store.bucketMs⌋ + ⌈store.windowMs / store.bucketMs⌉ := by omega
    exact_mod_cast hle
  have hspan := mul_le_mul_of_nonneg_right hids hbucket.le
  rw [add_mul] at hspan
  have httl := two_windows_le store
  linarith

theorem countP_mem_cons {α : Type} (p : α → Bool) (f : α → ℤ) {id : ℤ} {ids : List ℤ}
    (hid : id ∉ ids) (xs : List α) :
    (xs.countP fun x => p x ∧ f x ∈ id :: ids) =
      (xs.countP fun x => p x ∧ f x = id) + xs.countP fun x => p x ∧ f x ∈ ids := by
  induction xs with
  | nil => rfl
  | cons x xs ih =>
      simp only [List.countP_cons, ih]
      by_cases hx : f x = id
      · simp [hx, hid]
        omega
      · simp [hx]
        omega

/-- Counting by buckets is counting over all of them. -/
theorem sum_countP_eq {α : Type} (p : α → Bool) (f : α → ℤ) {ids : List ℤ} (h : ids.Nodup)
    (xs : List α) :
    (ids.map fun id => xs.countP fun x => p x ∧ f x = id).sum =
      xs.countP fun x => p x ∧ f x ∈ ids := by
  induction ids with
  | nil => simp
  | cons id ids ih =>
      obtain ⟨hid, hids⟩ := List.nodup_cons.mp h
      rw [List.map_cons, List.sum_cons, ih hids, countP_mem_cons p f hid]

/-- The buckets of a channel that a history makes up. -/
def historyBuckets (store : WindowStore) (history : List Outcome) (channelId : String) :
    Buckets :=
  fun id => store.bucketOf (store.bucketOutcomes channelId id history)

/-- A record goes to one bucket of one channel. -/
theorem historyBuckets_cons_self (store : WindowStore) (outcome : Outcome)
    (history : List Outcome) :
    store.historyBuckets (outcome :: history) outcome.channelId
        ⌊outcome.recordedAt / store.bucketMs⌋ =
      (store.historyBuckets history outcome.channelId
        ⌊outcome.recordedAt / store.bucketMs⌋).add outcome.success outcome.latencyMs
          store.maxSamplesPerBucket := by
  unfold historyBuckets
  rw [bucketOutcomes_cons_self]
  rfl

theorem historyBuckets_cons_of_ne {store : WindowStore} {outcome : Outcome}
    {channelId : String} {id : ℤ} (h : ¬ (outcome.channelId = channelId ∧
      ⌊outcome.recordedAt / store.bucketMs⌋ = id)) :
    store.historyBuckets (outcome :: history) channelId id =
      store.historyBuckets history channelId id := by
  unfold historyBuckets
  rw [bucketOutcomes_cons_of_ne store history h]

/-- A read finds the buckets of the history. -/
theorem read_recordAll (store : WindowStore) (hbucket : 0 < store.bucketMs)
    (hwindow : store.bucketMs ≤ store.windowMs) (hcap : 1 ≤ store.maxSamplesPerBucket)
    (horder : history.Pairwise fun newer older => older.recordedAt ≤ newer.recordedAt)
    (hnow : ∀ outcome ∈ history, outcome.recordedAt ≤ now) (channelId : String) :
    ∃ db, store.recordAll history = .ok db ∧ store.read channelId now db =
      .ok ((store.historyBuckets history channelId).stats channelId
        (windowIds now store.windowMs store.bucketMs)) := by
  obtain ⟨db, hdb, hremembers⟩ := remembers_recordAll hbucket hwindow hcap horder
  refine ⟨db, hdb, read_of_holds hbucket fun id hid => ?_⟩
  refine hremembers channelId id now hnow fun outcome hmem => ?_
  have hfilter := List.mem_filter.mp hmem
  simp only [decide_eq_true_eq] at hfilter
  refine lt_ttl_of_inWindow hbucket hwindow ((mem_windowIds_iff hbucket hwindow outcome).mp ?_)
  rwa [hfilter.2.2]

/-- What the window of a channel is to show: the outcomes of the last buckets, counted,
and of each bucket the latencies of the most recent outcomes. -/
def historyStats (store : WindowStore) (history : List Outcome) (channelId : String)
    (now : ℚ) : ChannelStats where
  channelId := channelId
  success := (history.countP fun outcome => outcome.channelId = channelId ∧
    InWindow store now outcome ∧ outcome.success = true : ℕ)
  failure := (history.countP fun outcome => outcome.channelId = channelId ∧
    InWindow store now outcome ∧ outcome.success = false : ℕ)
  latencySamples := (windowIds now store.windowMs store.bucketMs).flatMap fun id =>
    (((store.bucketOutcomes channelId id history).map (·.latencyMs)).take
      store.maxSamplesPerBucket).map fun n : ℕ => .fin n

/-- The outcomes of one kind in the buckets of the window. -/
theorem sum_bucketOutcomes (hbucket : 0 < store.bucketMs)
    (hwindow : store.bucketMs ≤ store.windowMs) (channelId : String) (success : Bool) :
    ((windowIds now store.windowMs store.bucketMs).map fun id =>
        (store.bucketOutcomes channelId id history).countP (·.success = success)).sum =
      history.countP fun outcome => outcome.channelId = channelId ∧
        InWindow store now outcome ∧ outcome.success = success := by
  have hsum := sum_countP_eq
    (fun outcome : Outcome => outcome.channelId = channelId ∧ outcome.success = success)
    (fun outcome => ⌊outcome.recordedAt / store.bucketMs⌋)
    (windowIds_nodup now store.windowMs store.bucketMs) history
  simp only [mem_windowIds_iff hbucket hwindow] at hsum
  have hbuckets : ∀ id, (store.bucketOutcomes channelId id history).countP
      (·.success = success) = history.countP fun outcome =>
        decide (outcome.channelId = channelId ∧ outcome.success = success) = true ∧
          ⌊outcome.recordedAt / store.bucketMs⌋ = id := by
    intro id
    unfold bucketOutcomes
    rw [List.countP_filter]
    refine List.countP_congr fun outcome _ => ?_
    simp only [Bool.and_eq_true, decide_eq_true_eq]
    tauto
  simp only [hbuckets]
  rw [hsum]
  refine List.countP_congr fun outcome _ => ?_
  simp only [decide_eq_true_eq]
  tauto

theorem historyBuckets_stats (hbucket : 0 < store.bucketMs)
    (hwindow : store.bucketMs ≤ store.windowMs) (channelId : String) :
    (store.historyBuckets history channelId).stats channelId
        (windowIds now store.windowMs store.bucketMs) =
      store.historyStats history channelId now := by
  unfold Buckets.stats historyStats historyBuckets
  simp only [bucketOf_success, bucketOf_failure, bucketOf_samples]
  rw [sum_bucketOutcomes hbucket hwindow, sum_bucketOutcomes hbucket hwindow]

/-- An outcome is in the window while it is younger than all but one of its buckets. -/
theorem inWindow_of_young (hbucket : 0 < store.bucketMs) {outcome : Outcome}
    (hpast : outcome.recordedAt ≤ now)
    (h : now - outcome.recordedAt ≤
      (⌈store.windowMs / store.bucketMs⌉ - 1) * store.bucketMs) :
    InWindow store now outcome := by
  have hdiv : now / store.bucketMs - (⌈store.windowMs / store.bucketMs⌉ - 1) ≤
      outcome.recordedAt / store.bucketMs := by
    rw [sub_le_iff_le_add, ← sub_le_iff_le_add', ← sub_div, div_le_iff₀ hbucket]
    exact h
  constructor
  · have hfloor := Int.floor_le_floor hdiv
    have hcast : now / store.bucketMs - ((⌈store.windowMs / store.bucketMs⌉ : ℚ) - 1) =
        now / store.bucketMs - ((⌈store.windowMs / store.bucketMs⌉ - 1 : ℤ) : ℚ) := by
      push_cast
      ring
    rw [hcast, Int.floor_sub_intCast] at hfloor
    omega
  · exact Int.floor_le_floor (div_le_div_of_nonneg_right hpast hbucket.le)

/-- An outcome is out of the window once it is as old as all of its buckets. -/
theorem not_inWindow_of_old (hbucket : 0 < store.bucketMs) {outcome : Outcome}
    (h : ⌈store.windowMs / store.bucketMs⌉ * store.bucketMs ≤ now - outcome.recordedAt) :
    ¬ InWindow store now outcome := by
  have hdiv : outcome.recordedAt / store.bucketMs ≤
      now / store.bucketMs - ⌈store.windowMs / store.bucketMs⌉ := by
    rw [le_sub_iff_add_le', ← le_sub_iff_add_le, ← sub_div, le_div_iff₀ hbucket]
    exact h
  have hfloor := Int.floor_le_floor hdiv
  rw [Int.floor_sub_intCast] at hfloor
  intro hin
  have hlow := hin.1
  omega

/-- A read of a channel counts each outcome of the last `ceil(windowMs / bucketMs)` buckets
once and shows the most recent latencies of each bucket; so it counts every outcome that is
younger than all but one of these buckets, and none that is as old as all of them. -/
theorem read_exact (store : WindowStore) (hbucket : 0 < store.bucketMs)
    (hwindow : store.bucketMs ≤ store.windowMs) (hcap : 1 ≤ store.maxSamplesPerBucket)
    (history : List Outcome)
    (horder : history.Pairwise fun newer older => older.recordedAt ≤ newer.recordedAt)
    (now : ℚ) (hnow : ∀ outcome ∈ history, outcome.recordedAt ≤ now) (channelId : String) :
    (∃ db, store.recordAll history = .ok db ∧
      store.read channelId now db = .ok (store.historyStats history channelId now)) ∧
    ∀ outcome ∈ history,
      (now - outcome.recordedAt ≤ (⌈store.windowMs / store.bucketMs⌉ - 1) * store.bucketMs →
        InWindow store now outcome) ∧
      (⌈store.windowMs / store.bucketMs⌉ * store.bucketMs ≤ now - outcome.recordedAt →
        ¬ InWindow store now outcome) := by
  constructor
  · rw [← historyBuckets_stats hbucket hwindow]
    exact store.read_recordAll hbucket hwindow hcap horder hnow channelId
  · intro outcome hmem
    exact ⟨inWindow_of_young hbucket (hnow outcome hmem), not_inWindow_of_old hbucket⟩

end

/-- A window of a bucket and a half. -/
def shortWindow : WindowStore where
  windowMs := 7000
  bucketMs := 5000
  maxSamplesPerBucket := 2

/-- Outcomes of two channels, newest first. -/
def fewOutcomes : List Outcome :=
  [{ channelId := "RAIL:1", success := false, latencyMs := 90, recordedAt := 9000 },
    { channelId := "RAIL", success := true, latencyMs := 80, recordedAt := 7000 },
    { channelId := "RAIL:1", success := true, latencyMs := 70, recordedAt := 6000 },
    { channelId := "RAIL:1", success := true, latencyMs := 60, recordedAt := 100 }]

theorem read_exact_fewOutcomes :
    ∃ db, shortWindow.recordAll fewOutcomes = .ok db ∧
      shortWindow.read "RAIL:1" 10000 db = .ok
        { channelId := "RAIL:1", success := 1, failure := 1
          latencySamples := [.fin 90, .fin 70] } := by
  have hread := (read_exact shortWindow (by norm_num [shortWindow])
    (by norm_num [shortWindow]) (by decide) fewOutcomes (by decide +kernel) 10000
    (by decide +kernel) "RAIL:1").1
  have hstats : shortWindow.historyStats fewOutcomes "RAIL:1" 10000 =
      { channelId := "RAIL:1", success := 1, failure := 1
        latencySamples := [.fin 90, .fin 70] } := by decide +kernel
  rwa [hstats] at hread

end WindowStore

end SwitchService.Store
