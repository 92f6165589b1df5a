import SwitchService.Store.Backend
import SwitchService.Store.WindowGain
import SwitchService.Domain.KeySpace

set_option autoImplicit false

/-!
# Store: a moment that was read before (`store/windowStore.ts`)

The window store works out its buckets from the moment that it is given, and Redis counts
the time to live of their keys from its own clock.  A task reads the moment first and the
commands reach Redis later, so the two differ.
-/

namespace SwitchService.Store

open SwitchService.Foundation SwitchService.Domain

namespace WindowStore

/-- `record` with a moment that was read before. -/
def recordAt (store : WindowStore) (channelId : String) (success : Bool) (latencyMs : ℕ)
    (now clock : ℚ) (db : Redis.Keyspace) : Except String Redis.Keyspace := do
  let id ← bucketIdAt now store.bucketMs
  return (Redis.multi clock (store.recordCommands channelId success latencyMs id) db).2

/-- `readMany` with a moment that was read before. -/
def readManyAt (store : WindowStore) (channelIds : List String) (now clock : ℚ)
    (db : Redis.Keyspace) : Except String (String → Option ChannelStats) :=
  if channelIds = [] then .ok fun _ => none
  else do
    let ids ← windowBucketIds now store.windowMs store.bucketMs
    let replies := (Redis.multi clock (readCommands channelIds ids) db).1
    return channelIds.zipIdx.foldl
      (fun result (channelId, channelIndex) =>
        Function.update result channelId
          (some (channelStats replies channelId (channelIndex * ids.length) ids.length)))
      fun _ => none

/-- `read` with a moment that was read before. -/
def readAt (store : WindowStore) (channelId : String) (now clock : ℚ) (db : Redis.Keyspace) :
    Except String ChannelStats := do
  let all ← store.readManyAt [channelId] now clock db
  return (all channelId).getD (emptyStats channelId)

variable {store : WindowStore} {now clock t : ℚ} {db : Redis.Keyspace} {channelId : String}
  {id : ℤ} {bucket : Bucket} {buckets : Buckets}

/-! ## Records -/

/-- The keyspace after a record, with a valid bucket size. -/
def recordedAt (store : WindowStore) (channelId : String) (success : Bool) (latencyMs : ℕ)
    (now clock : ℚ) (db : Redis.Keyspace) : Redis.Keyspace :=
  (Redis.multi clock
    (store.recordCommands channelId success latencyMs ⌊now / store.bucketMs⌋) db).2

variable (store) in
theorem recordAt_of_pos (h : 0 < store.bucketMs) (success : Bool) (latencyMs : ℕ) :
    store.recordAt channelId success latencyMs now clock db =
      .ok (store.recordedAt channelId success latencyMs now clock db) := by
  simp only [recordAt, bucketIdAt_of_pos h]
  rfl

variable (store) in
/-- A record leaves every key but the two of its bucket. -/
theorem recordedAt_frame {key : String} (success : Bool) (latencyMs : ℕ)
    (hcounters : key ≠ bucketKey channelId ⌊now / store.bucketMs⌋)
    (hsamples : key ≠ latencyKey channelId ⌊now / store.bucketMs⌋) :
    store.recordedAt channelId success latencyMs now clock db key = db key := by
  refine Redis.multi_other fun command hcommand => ?_
  rcases key_recordCommands hcommand with hkey | hkey
  · rw [hkey]
    exact hcounters.symm
  · rw [hkey]
    exact hsamples.symm

variable (store) in
theorem ttlSeconds_pos (hwindow : 0 < store.windowMs) :
    0 < bucketTtlSeconds store.windowMs := by
  unfold bucketTtlSeconds
  exact Int.ceil_pos.mpr (by linarith)

/-- A value with the time to live of a bucket is there until then. -/
theorem isLive_ttl (value : Redis.Value) (ht : t < clock + store.ttlMs) :
    ({ value := value, expiresAt := some (clock + bucketTtlSeconds store.windowMs * 1000) } :
      Redis.Stored).isLive t = true := by
  simpa [Redis.Stored.isLive, ttlMs] using ht

variable (store) in
theorem recordedAt_counters (hwindow : 0 < store.windowMs)
    (h : ShowsCounts (Redis.left clock (db (bucketKey channelId ⌊now / store.bucketMs⌋))) bucket)
    (success : Bool) (latencyMs : ℕ) (ht : t < clock + store.ttlMs) :
    ShowsCounts (Redis.left t (store.recordedAt channelId success latencyMs now clock db
        (bucketKey channelId ⌊now / store.bucketMs⌋)))
      (bucket.add success latencyMs store.maxSamplesPerBucket) := by
  obtain ⟨fields, hcontent, hsuccess, hfailure⟩ := applyAll_showsCounts h success latencyMs
    store.maxSamplesPerBucket (bucketKey channelId ⌊now / store.bucketMs⌋)
    (ttlSeconds_pos store hwindow)
  unfold recordedAt
  rw [Redis.multi_key, filter_counters, hcontent, Redis.left_of_live (isLive_ttl _ ht)]
  exact ⟨fields, rfl, hsuccess, hfailure⟩

variable (store) in
theorem recordedAt_samples (hcap : 1 ≤ store.maxSamplesPerBucket) (hwindow : 0 < store.windowMs)
    (h : ShowsSamples (Redis.left clock (db (latencyKey channelId ⌊now / store.bucketMs⌋)))
      bucket) (success : Bool) (latencyMs : ℕ) (ht : t < clock + store.ttlMs) :
    ShowsSamples (Redis.left t (store.recordedAt channelId success latencyMs now clock db
        (latencyKey channelId ⌊now / store.bucketMs⌋)))
      (bucket.add success latencyMs store.maxSamplesPerBucket) := by
  unfold recordedAt
  rw [Redis.multi_key, filter_samples, applyAll_samples h latencyMs hcap
    (ttlSeconds_pos store hwindow), Redis.left_of_live (isLive_ttl _ ht), ← List.map_cons,
    ← List.map_take]
  rfl

/-! ## Reads -/

/-- A bucket whose keys show its counters and its samples. -/
theorem bucketShown_of_holds (h : Holds clock db channelId id bucket) :
    bucketShown clock db channelId id = replyOf bucket := by
  have hcounters : countersReply clock db (channelId, id) =
      .ok (.bulks [counterText bucket.success, counterText bucket.failure]) := hmget_shows h.1
  have hsamples : samplesReply clock db (channelId, id) =
      .ok (.bulks ((bucket.samples.map Number.natText).map some)) := lrange_shows h.2
  unfold bucketShown
  rw [hcounters, hsamples]
  exact readBucketReply_shows rfl rfl

/-- The stats of buckets whose keys show them. -/
theorem statsOfReplies_of_holds {ids : List ℤ}
    (h : ∀ id ∈ ids, Holds clock db channelId id (buckets id)) :
    statsOfReplies channelId (ids.map (bucketShown clock db channelId)) =
      buckets.stats channelId ids := by
  have hshown : ids.map (bucketShown clock db channelId) =
      ids.map fun id => replyOf (buckets id) :=
    List.map_congr_left fun id hid => bucketShown_of_holds (h id hid)
  rw [hshown]
  have hcast : ∀ f : ℤ → ℕ, (ids.map fun id => (f id : ℚ)).sum = ((ids.map f).sum : ℕ) := by
    intro f
    rw [Nat.cast_list_sum, List.map_map]
    rfl
  simp only [statsOfReplies, Buckets.stats, replyOf, List.map_map, Function.comp_def,
    List.flatMap_map, hcast]

variable (store) in
/-- A batched read of windows whose keys show their buckets. -/
theorem readManyAt_of_holds (hbucket : 0 < store.bucketMs) (channelIds : List String)
    {windows : String → Buckets}
    (h : ∀ channelId, ∀ id ∈ windowIds now store.windowMs store.bucketMs,
      Holds clock db channelId id (windows channelId id)) :
    store.readManyAt channelIds now clock db = .ok fun channelId =>
      if channelId ∈ channelIds then
        some ((windows channelId).stats channelId
          (windowIds now store.windowMs store.bucketMs))
      else none := by
  unfold readManyAt
  split
  · rename_i hnil
    subst hnil
    simp
  · rw [windowBucketIds_of_pos hbucket]
    simp only [bind, Except.bind, pure, Except.pure]
    rw [foldl_update_zipIdx channelIds 0
      (fun channelId i => channelStats (Redis.multi clock (readCommands channelIds
        (windowIds now store.windowMs store.bucketMs)) db).1 channelId
          (i * (windowIds now store.windowMs store.bucketMs).length)
          (windowIds now store.windowMs store.bucketMs).length)
      fun channelId => (windows channelId).stats channelId
        (windowIds now store.windowMs store.bucketMs)]
    intro i channelId hi
    rw [Nat.zero_add, channelStats_eq hi, statsOfReplies_of_holds (h channelId)]

variable (store) in
theorem readAt_of_holds (hbucket : 0 < store.bucketMs) {windows : String → Buckets}
    (h : ∀ channelId, ∀ id ∈ windowIds now store.windowMs store.bucketMs,
      Holds clock db channelId id (windows channelId id)) (channelId : String) :
    store.readAt channelId now clock db =
      .ok ((windows channelId).stats channelId
        (windowIds now store.windowMs store.bucketMs)) := by
  unfold readAt
  rw [readManyAt_of_holds store hbucket _ h]
  simp [bind, Except.bind, pure, Except.pure]

end WindowStore

end SwitchService.Store
