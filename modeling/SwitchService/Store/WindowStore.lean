import SwitchService.Foundation.Redis
import SwitchService.Store.Buckets

set_option autoImplicit false

/-!
# Store: the window counters in Redis (`store/windowStore.ts`)

A bucket of a channel is a hash with the two counters and a list with the latency
samples, each under a key of its own.  A record and a read are one transaction each.
-/

namespace SwitchService.Store

open SwitchService.Foundation SwitchService.Domain

/-- What the constructor is given. -/
structure WindowStore where
  windowMs : ℚ
  bucketMs : ℚ
  maxSamplesPerBucket : ℕ

/-- What one bucket shows to a reader. -/
structure BucketReply where
  success : ℚ
  failure : ℚ
  samples : List Number

/-- The counter field of an outcome. -/
def counterField (success : Bool) : String := if success then "success" else "failure"

namespace WindowStore

/-- The transaction of `record`.  An integer latency is its own rounding. -/
def recordCommands (store : WindowStore) (channelId : String) (success : Bool)
    (latencyMs : ℕ) (id : ℤ) : List Redis.Command :=
  let counters := bucketKey channelId id
  let samples := latencyKey channelId id
  let ttl := bucketTtlSeconds store.windowMs
  [.hincrby counters (counterField success) 1,
    .hincrby counters "latSum" latencyMs,
    .expire counters ttl,
    .lpush samples (Number.natText latencyMs),
    .ltrim samples 0 (store.maxSamplesPerBucket - 1),
    .expire samples ttl]

/-- Adds one outcome to the bucket that holds `now`. -/
def record (store : WindowStore) (channelId : String) (success : Bool) (latencyMs : ℕ)
    (now : ℚ) (db : Redis.Keyspace) : Except String Redis.Keyspace := do
  let id ← bucketIdAt now store.bucketMs
  return (Redis.multi now (store.recordCommands channelId success latencyMs id) db).2

/-- The transaction of `readMany`: counters and samples of every bucket in turn. -/
def readCommands (channelIds : List String) (ids : List ℤ) : List Redis.Command :=
  channelIds.flatMap fun channelId => ids.flatMap fun id =>
    [.hmget (bucketKey channelId id) ["success", "failure"],
      .lrange (latencyKey channelId id) 0 (-1)]

/-- A counter; what is no positive number counts as zero. -/
def toCount (raw : Option String) : ℚ :=
  match raw with
  | none => 0
  | some text =>
      if text = "" then 0
      else
        match Number.ofText text with
        | .fin value => if value > 0 then value else 0
        | _ => 0

/-- The samples that are kept: finite and not below zero. -/
def isSample : Number → Bool
  | .fin value => 0 ≤ value
  | _ => false

/-- The values of one reply; an error and a missing reply have none. -/
def repliedValues (reply : Option (Except String Redis.Reply)) : List (Option String) :=
  match reply with
  | some (.ok (.bulks values)) => values
  | _ => []

/-- `Number` of a value; `null` is zero. -/
def valueNumber (value : Option String) : Number := (value.map Number.ofText).getD (.fin 0)

/-- Reads one bucket out of the replies: two replies a bucket, the counters first. -/
def readBucketReply (replies : List (Except String Redis.Reply)) (index : ℕ) : BucketReply :=
  let counters := repliedValues replies[index * 2]?
  let raw := repliedValues replies[index * 2 + 1]?
  { success := toCount (counters[0]?.join)
    failure := toCount (counters[1]?.join)
    samples := (raw.map valueNumber).filter isSample }

/-- The stats with one more bucket. -/
def addBucket (stats : ChannelStats) (bucket : BucketReply) : ChannelStats :=
  { stats with
    success := stats.success + bucket.success
    failure := stats.failure + bucket.failure
    latencySamples := stats.latencySamples ++ bucket.samples }

/-- The stats of a channel whose buckets start at the given index of the replies. -/
def channelStats (replies : List (Except String Redis.Reply)) (channelId : String)
    (start count : ℕ) : ChannelStats :=
  (List.range count).foldl
    (fun stats bucketIndex => addBucket stats (readBucketReply replies (start + bucketIndex)))
    (emptyStats channelId)

/-- Reads the window of every channel in one round trip. -/
def readMany (store : WindowStore) (channelIds : List String) (now : ℚ)
    (db : Redis.Keyspace) : Except String (String → Option ChannelStats) :=
  if channelIds = [] then .ok fun _ => none
  else do
    let ids ← windowBucketIds now store.windowMs store.bucketMs
    let replies := (Redis.multi now (readCommands channelIds ids) db).1
    return channelIds.zipIdx.foldl
      (fun result (channelId, channelIndex) =>
        Function.update result channelId
          (some (channelStats replies channelId (channelIndex * ids.length) ids.length)))
      fun _ => none

/-- Reads the window of one channel. -/
def read (store : WindowStore) (channelId : String) (now : ℚ) (db : Redis.Keyspace) :
    Except String ChannelStats := do
  let all ← store.readMany [channelId] now db
  return (all channelId).getD (emptyStats channelId)

/-! ## A bucket in two keys -/

/-- The text of a counter; one that was never written is not there. -/
def counterText : ℕ → Option String
  | 0 => none
  | n + 1 => some (toString ((n + 1 : ℕ) : ℤ))

/-- The hash shows the two counters. -/
def ShowsCounts (content : Option Redis.Stored) (bucket : Bucket) : Prop :=
  ∃ fields, Redis.fieldsOf content = .ok fields ∧
    fields "success" = counterText bucket.success ∧
    fields "failure" = counterText bucket.failure

/-- The list shows the samples. -/
def ShowsSamples (content : Option Redis.Stored) (bucket : Bucket) : Prop :=
  Redis.itemsOf content = .ok (bucket.samples.map Number.natText)

/-- What is left of a bucket's keys at a moment. -/
def Holds (now : ℚ) (db : Redis.Keyspace) (channelId : String) (id : ℤ) (bucket : Bucket) :
    Prop :=
  ShowsCounts (Redis.left now (db (bucketKey channelId id))) bucket ∧
    ShowsSamples (Redis.left now (db (latencyKey channelId id))) bucket

/-! ## Reading -/

theorem toCount_counterText (n : ℕ) : toCount (counterText n) = n := by
  cases n with
  | zero => rfl
  | succ n =>
      have hne : toString ((n + 1 : ℕ) : ℤ) ≠ "" := by
        intro hempty
        have hlist := congrArg String.toList hempty
        rw [Number.toList_toString_ofNat] at hlist
        exact Nat.toDigits_ne_nil hlist
      have hpos : (0 : ℚ) < ((n + 1 : ℕ) : ℚ) := by exact_mod_cast Nat.succ_pos n
      simp only [counterText, toCount, hne, if_false, Number.ofText_toString, gt_iff_lt, hpos,
        if_true]

theorem samples_natText (samples : List ℕ) :
    ((samples.map Number.natText).map fun text => valueNumber (some text)).filter isSample =
      samples.map fun n : ℕ => .fin n := by
  induction samples with
  | nil => rfl
  | cons n samples ih =>
      have hsample : isSample (.fin n) = true := by simp [isSample]
      simp only [List.map_cons, valueNumber, Option.map_some, Option.getD_some,
        Number.ofText_natText, List.filter_cons, hsample, if_true]
      exact congrArg _ ih

/-- A list that gives two items for each of its members. -/
theorem getElem?_flatMap_pair {α β : Type} (f g : α → β) (xs : List α) (i : ℕ) :
    (xs.flatMap fun x => [f x, g x])[i * 2]? = xs[i]?.map f ∧
      (xs.flatMap fun x => [f x, g x])[i * 2 + 1]? = xs[i]?.map g := by
  induction xs generalizing i with
  | nil => simp
  | cons x xs ih =>
      cases i with
      | zero => simp
      | succ i =>
          have h := ih i
          rw [show (i + 1) * 2 = i * 2 + 1 + 1 from by ring]
          simpa using h

section

variable {now : ℚ} {db : Redis.Keyspace} {channelId key : String} {bucket : Bucket}
  {content : Option Redis.Stored}

theorem hmget_shows (h : ShowsCounts content bucket) :
    ((Redis.Command.hmget key ["success", "failure"]).apply now content).1 =
      .ok (.bulks [counterText bucket.success, counterText bucket.failure]) := by
  obtain ⟨fields, hfields, hsuccess, hfailure⟩ := h
  simp [Redis.Command.apply, hfields, hsuccess, hfailure]

theorem lrange_shows (h : ShowsSamples content bucket) :
    ((Redis.Command.lrange key 0 (-1)).apply now content).1 =
      .ok (.bulks ((bucket.samples.map Number.natText).map some)) := by
  unfold ShowsSamples at h
  simp [Redis.Command.apply, h, Redis.slice_all]

/-- The reply that shows a bucket. -/
def replyOf (bucket : Bucket) : BucketReply where
  success := bucket.success
  failure := bucket.failure
  samples := bucket.samples.map fun n : ℕ => .fin n

theorem readBucketReply_shows {replies : List (Except String Redis.Reply)} {index : ℕ}
    (hcounters : replies[index * 2]? =
      some (.ok (.bulks [counterText bucket.success, counterText bucket.failure])))
    (hsamples : replies[index * 2 + 1]? =
      some (.ok (.bulks ((bucket.samples.map Number.natText).map some)))) :
    readBucketReply replies index = replyOf bucket := by
  have hvalues := samples_natText bucket.samples
  simp only [readBucketReply, hcounters, hsamples, repliedValues, replyOf]
  rw [List.map_map, ← hvalues]
  simp [toCount_counterText, Function.comp_def]

/-- Adding up replies that show the buckets. -/
theorem foldl_addBucket (channelId : String) (buckets : Buckets) (ids : List ℤ)
    (stats : ChannelStats) :
    ids.foldl (fun stats id => addBucket stats (replyOf (buckets id))) stats =
      { stats with
        success := stats.success + (buckets.stats channelId ids).success
        failure := stats.failure + (buckets.stats channelId ids).failure
        latencySamples := stats.latencySamples ++
          (buckets.stats channelId ids).latencySamples } := by
  induction ids generalizing stats with
  | nil => simp [Buckets.stats]
  | cons id ids ih =>
      rw [List.foldl_cons, ih]
      simp [addBucket, replyOf, Buckets.stats, add_assoc]

theorem channelStats_shows {replies : List (Except String Redis.Reply)} {ids : List ℤ}
    {buckets : Buckets}
    (h : ∀ i id, ids[i]? = some id → readBucketReply replies i = replyOf (buckets id)) :
    channelStats replies channelId 0 ids.length = buckets.stats channelId ids := by
  have hreplies : (List.range ids.length).map (fun i => readBucketReply replies (0 + i)) =
      ids.map fun id => replyOf (buckets id) := by
    refine List.ext_getElem (by simp) fun i hi hi' => ?_
    rw [List.getElem_map, List.getElem_map, List.getElem_range, Nat.zero_add]
    exact h i _ (List.getElem?_eq_getElem _)
  have hfold := foldl_addBucket channelId buckets ids (emptyStats channelId)
  unfold channelStats
  rw [← List.foldl_map (f := fun i => readBucketReply replies (0 + i)) (g := addBucket),
    hreplies, List.foldl_map, hfold]
  simp [emptyStats, Buckets.stats]

/-- A read of keys that show the buckets of the window gives their total. -/
theorem read_of_holds {store : WindowStore} {buckets : Buckets} (hbucket : 0 < store.bucketMs)
    (h : ∀ id ∈ windowIds now store.windowMs store.bucketMs,
      Holds now db channelId id (buckets id)) :
    store.read channelId now db =
      .ok (buckets.stats channelId (windowIds now store.windowMs store.bucketMs)) := by
  set ids := windowIds now store.windowMs store.bucketMs with hids
  have hreplies : (Redis.multi now (readCommands [channelId] ids) db).1 =
      ids.flatMap fun id =>
        [.ok (.bulks [counterText (buckets id).success, counterText (buckets id).failure]),
          .ok (.bulks (((buckets id).samples.map Number.natText).map some))] := by
    rw [Redis.multi_replies_of_reads]
    · simp only [readCommands, List.flatMap_cons, List.flatMap_nil, List.append_nil,
        List.map_flatMap, List.map_cons, List.map_nil]
      refine List.flatMap_congr fun id hid => ?_
      simp only [Redis.Command.key]
      rw [hmget_shows (h id hid).1, lrange_shows (h id hid).2]
    · intro command hcommand content
      simp only [readCommands, List.flatMap_cons, List.flatMap_nil, List.append_nil,
        List.mem_flatMap, List.mem_cons, List.not_mem_nil, or_false] at hcommand
      obtain ⟨id, _, rfl | rfl⟩ := hcommand
      · exact Redis.apply_reads (.inl ⟨_, _, rfl⟩) _
      · exact Redis.apply_reads (.inr ⟨_, _, _, rfl⟩) _
  have hstats : channelStats (Redis.multi now (readCommands [channelId] ids) db).1 channelId 0
      ids.length = buckets.stats channelId ids := by
    refine channelStats_shows fun i id hid => ?_
    rw [hreplies]
    obtain ⟨hcounters, hsamples⟩ := getElem?_flatMap_pair
      (fun id => (.ok (.bulks [counterText (buckets id).success,
        counterText (buckets id).failure]) : Except String Redis.Reply))
      (fun id => .ok (.bulks (((buckets id).samples.map Number.natText).map some))) ids i
    rw [hid] at hcounters hsamples
    exact readBucketReply_shows hcounters hsamples
  unfold read readMany
  rw [if_neg (by simp), windowBucketIds_of_pos hbucket, ← hids]
  simp only [bind, Except.bind, pure, Except.pure, List.zipIdx_cons, List.zipIdx_nil,
    List.foldl_cons, List.foldl_nil, Nat.zero_mul, Function.update_self, Option.getD_some,
    hstats]

end

end WindowStore

end SwitchService.Store
