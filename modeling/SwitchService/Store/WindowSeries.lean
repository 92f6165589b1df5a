import SwitchService.Store.WindowStore

set_option autoImplicit false

/-!
# Store: the series of a channel and the reads of its window (`store/windowStore.ts`)

All three reads lay their commands out alike, two a bucket, and find a bucket's replies by
its index.  So each of them shows a bucket as the two keys of that bucket alone show it,
whatever the keys hold and whatever other channels are read with it.
-/

namespace SwitchService.Store

open SwitchService.Foundation SwitchService.Domain

/-- One entry of the series of a channel. -/
structure BucketEntry where
  bucketId : ℤ
  startMs : ℚ
  reply : BucketReply

namespace WindowStore

/-- The buckets of one channel, oldest first, with the time of each bucket. -/
def readBuckets (store : WindowStore) (channelId : String) (now : ℚ) (db : Redis.Keyspace) :
    Except String (List BucketEntry) := do
  let ids ← windowBucketIds now store.windowMs store.bucketMs
  let replies := (Redis.multi now (readCommands [channelId] ids) db).1
  return ids.mapIdx fun index id =>
    { bucketId := id
      startMs := id * store.bucketMs
      reply := readBucketReply replies index }

/-! ## The replies of one bucket -/

/-- The channels and buckets of a read, in the order of their commands. -/
def readPairs (channelIds : List String) (ids : List ℤ) : List (String × ℤ) :=
  channelIds.flatMap fun channelId => ids.map fun id => (channelId, id)

/-- The reply to the first command of a bucket. -/
def countersReply (now : ℚ) (db : Redis.Keyspace) (pair : String × ℤ) :
    Except String Redis.Reply :=
  ((Redis.Command.hmget (bucketKey pair.1 pair.2) ["success", "failure"]).apply now
    (Redis.left now (db (bucketKey pair.1 pair.2)))).1

/-- The reply to the second command of a bucket. -/
def samplesReply (now : ℚ) (db : Redis.Keyspace) (pair : String × ℤ) :
    Except String Redis.Reply :=
  ((Redis.Command.lrange (latencyKey pair.1 pair.2) 0 (-1)).apply now
    (Redis.left now (db (latencyKey pair.1 pair.2)))).1

/-- What the keys of one bucket show. -/
def bucketShown (now : ℚ) (db : Redis.Keyspace) (channelId : String) (id : ℤ) : BucketReply :=
  readBucketReply [countersReply now db (channelId, id), samplesReply now db (channelId, id)] 0

variable {now : ℚ} {db : Redis.Keyspace}

/-- The replies come back two a bucket, in the order of the buckets. -/
theorem replies_readCommands (channelIds : List String) (ids : List ℤ) :
    (Redis.multi now (readCommands channelIds ids) db).1 =
      (readPairs channelIds ids).flatMap fun pair =>
        [countersReply now db pair, samplesReply now db pair] := by
  rw [Redis.multi_replies_of_reads]
  · simp only [readCommands, readPairs, List.map_flatMap, List.flatMap_assoc, List.flatMap_map]
    rfl
  · intro command hcommand content
    simp only [readCommands, List.mem_flatMap, List.mem_cons, List.not_mem_nil,
      or_false] at hcommand
    obtain ⟨channelId, _, id, _, rfl | rfl⟩ := hcommand
    · exact Redis.apply_reads (.inl ⟨_, _, rfl⟩) _
    · exact Redis.apply_reads (.inr ⟨_, _, _, rfl⟩) _

/-- The buckets of the channel at an index start at that many whole windows. -/
theorem getElem?_readPairs {channelIds : List String} {ids : List ℤ} {i j : ℕ}
    {channelId : String} {id : ℤ} (hi : channelIds[i]? = some channelId)
    (hj : ids[j]? = some id) :
    (readPairs channelIds ids)[i * ids.length + j]? = some (channelId, id) := by
  have hlt : j < ids.length := (List.getElem?_eq_some_iff.mp hj).1
  induction channelIds generalizing i with
  | nil => simp at hi
  | cons first channelIds ih =>
      unfold readPairs at ih ⊢
      rw [List.flatMap_cons]
      cases i with
      | zero =>
          obtain rfl : first = channelId := by simpa using hi
          rw [List.getElem?_append_left (by simpa using hlt)]
          simp [hj]
      | succ i =>
          have hrest := ih (i := i) (by simpa using hi)
          rw [List.getElem?_append_right (by rw [List.length_map, Nat.succ_mul]; omega)]
          rw [List.length_map, show (i + 1) * ids.length + j - ids.length = i * ids.length + j by
            rw [Nat.succ_mul]
            omega]
          exact hrest

/-- A bucket is shown by its own two replies. -/
theorem readBucketReply_of_pair {pairs : List (String × ℤ)} {index : ℕ} {channelId : String}
    {id : ℤ} (h : pairs[index]? = some (channelId, id)) :
    readBucketReply (pairs.flatMap fun pair =>
        [countersReply now db pair, samplesReply now db pair]) index =
      bucketShown now db channelId id := by
  obtain ⟨hcounters, hsamples⟩ :=
    getElem?_flatMap_pair (countersReply now db) (samplesReply now db) pairs index
  rw [h, Option.map_some] at hcounters hsamples
  simp only [readBucketReply, hcounters, hsamples, bucketShown]
  rfl

/-! ## The three reads -/

/-- The stats that a list of replies adds up to. -/
def statsOfReplies (channelId : String) (replies : List BucketReply) : ChannelStats where
  channelId := channelId
  success := (replies.map (·.success)).sum
  failure := (replies.map (·.failure)).sum
  latencySamples := replies.flatMap (·.samples)

theorem foldl_addBucket_eq (replies : List BucketReply) (stats : ChannelStats) :
    replies.foldl addBucket stats =
      { stats with
        success := stats.success + (replies.map (·.success)).sum
        failure := stats.failure + (replies.map (·.failure)).sum
        latencySamples := stats.latencySamples ++ replies.flatMap (·.samples) } := by
  induction replies generalizing stats with
  | nil => simp
  | cons reply replies ih =>
      rw [List.foldl_cons, ih]
      simp [addBucket, add_assoc]

/-- What the keys of a channel's window show. -/
def windowShown (store : WindowStore) (channelId : String) (now : ℚ) (db : Redis.Keyspace) :
    List BucketReply :=
  (windowIds now store.windowMs store.bucketMs).map (bucketShown now db channelId)

/-- A channel's window is shown by the keys of its own buckets. -/
theorem windowShown_congr {store : WindowStore} {channelId : String} {db' : Redis.Keyspace}
    (hcounters : ∀ id, Redis.left now (db' (bucketKey channelId id)) =
      Redis.left now (db (bucketKey channelId id)))
    (hsamples : ∀ id, Redis.left now (db' (latencyKey channelId id)) =
      Redis.left now (db (latencyKey channelId id))) :
    store.windowShown channelId now db' = store.windowShown channelId now db := by
  unfold windowShown
  refine List.map_congr_left fun id _ => ?_
  simp only [bucketShown, countersReply, samplesReply, hcounters, hsamples]

/-- The stats of a channel are the total of its buckets, wherever its replies stand. -/
theorem channelStats_eq {channelIds : List String} {ids : List ℤ} {i : ℕ} {channelId : String}
    (hi : channelIds[i]? = some channelId) :
    channelStats (Redis.multi now (readCommands channelIds ids) db).1 channelId
        (i * ids.length) ids.length =
      statsOfReplies channelId (ids.map (bucketShown now db channelId)) := by
  have hreplies : (List.range ids.length).map (fun j => readBucketReply
      (Redis.multi now (readCommands channelIds ids) db).1 (i * ids.length + j)) =
        ids.map (bucketShown now db channelId) := by
    refine List.ext_getElem (by simp) fun j hj hj' => ?_
    rw [List.length_map] at hj'
    rw [List.getElem_map, List.getElem_map, List.getElem_range, replies_readCommands]
    exact readBucketReply_of_pair (getElem?_readPairs hi (List.getElem?_eq_getElem hj'))
  unfold channelStats
  rw [← List.foldl_map (f := fun j => readBucketReply
    (Redis.multi now (readCommands channelIds ids) db).1 (i * ids.length + j)) (g := addBucket),
    hreplies, foldl_addBucket_eq]
  simp [emptyStats, statsOfReplies]

/-- Setting one key after another leaves each listed key with its own value. -/
theorem foldl_update_zipIdx {β : Type} (xs : List String) (start : ℕ) (f : String → ℕ → β)
    (g : String → β) (hf : ∀ i x, xs[i]? = some x → f x (start + i) = g x)
    (result : String → Option β) :
    (xs.zipIdx start).foldl
        (fun (result : String → Option β) (pair : String × ℕ) =>
          Function.update result pair.1 (some (f pair.1 pair.2))) result =
      fun x => if x ∈ xs then some (g x) else result x := by
  induction xs generalizing start result with
  | nil => simp
  | cons a xs ih =>
      rw [List.zipIdx_cons, List.foldl_cons, ih (start + 1)]
      · funext x
        by_cases hx : x ∈ xs
        · simp [hx]
        · by_cases hxa : x = a
          · subst hxa
            have hhead := hf 0 x (by simp)
            simp only [Nat.add_zero] at hhead
            simp [hx, hhead]
          · simp [hx, hxa]
      · intro i x hi
        rw [Nat.add_right_comm, Nat.add_assoc]
        exact hf (i + 1) x (by simpa using hi)

/-- `readMany` shows every channel by the keys of its own window. -/
theorem readMany_eq {store : WindowStore} (hbucket : 0 < store.bucketMs)
    (channelIds : List String) :
    store.readMany channelIds now db = .ok fun channelId =>
      if channelId ∈ channelIds then
        some (statsOfReplies channelId (store.windowShown channelId now db))
      else none := by
  unfold readMany
  split
  · rename_i hnil
    subst hnil
    simp
  · rw [windowBucketIds_of_pos hbucket]
    simp only [bind, Except.bind, pure, Except.pure]
    rw [foldl_update_zipIdx channelIds 0
      (fun channelId i => channelStats (Redis.multi now (readCommands channelIds
        (windowIds now store.windowMs store.bucketMs)) db).1 channelId
          (i * (windowIds now store.windowMs store.bucketMs).length)
          (windowIds now store.windowMs store.bucketMs).length)
      fun channelId => statsOfReplies channelId (store.windowShown channelId now db)]
    intro i channelId hi
    rw [Nat.zero_add]
    exact channelStats_eq hi

theorem read_eq {store : WindowStore} (hbucket : 0 < store.bucketMs) (channelId : String) :
    store.read channelId now db =
      .ok (statsOfReplies channelId (store.windowShown channelId now db)) := by
  unfold read
  rw [readMany_eq hbucket]
  simp [bind, Except.bind, pure, Except.pure]

/-- A key that holds nothing, or a stream. -/
def Silent (content : Option Redis.Stored) : Prop :=
  content = none ∨ ∃ messages expiresAt,
    content = some { value := .stream messages, expiresAt := expiresAt }

/-- Such keys show a bucket of zeros. -/
theorem bucketShown_of_silent {channelId : String} {id : ℤ}
    (hcounters : Silent (Redis.left now (db (bucketKey channelId id))))
    (hsamples : Silent (Redis.left now (db (latencyKey channelId id)))) :
    bucketShown now db channelId id = { success := 0, failure := 0, samples := [] } := by
  have hzero : ∀ reply, countersReply now db (channelId, id) = reply →
      (reply = .ok (.bulks [none, none]) ∨ ∃ message, reply = .error message) := by
    rintro reply rfl
    unfold countersReply
    rcases hcounters with h | ⟨messages, expiresAt, h⟩
    · exact .inl (by rw [h]; rfl)
    · exact .inr ⟨_, by rw [h]; rfl⟩
  have hnone : ∀ reply, samplesReply now db (channelId, id) = reply →
      (reply = .ok (.bulks []) ∨ ∃ message, reply = .error message) := by
    rintro reply rfl
    unfold samplesReply
    rcases hsamples with h | ⟨messages, expiresAt, h⟩
    · exact .inl (by rw [h]; rfl)
    · exact .inr ⟨_, by rw [h]; rfl⟩
  unfold bucketShown
  rcases hzero _ rfl with hreply | ⟨_, hreply⟩
  · rcases hnone _ rfl with hreply' | ⟨_, hreply'⟩
    · rw [hreply, hreply']
      rfl
    · rw [hreply, hreply']
      rfl
  · rcases hnone _ rfl with hreply' | ⟨_, hreply'⟩
    · rw [hreply, hreply']
      rfl
    · rw [hreply, hreply']
      rfl

/-- A window of such keys reads as empty. -/
theorem read_of_silent {store : WindowStore} (hbucket : 0 < store.bucketMs) {channelId : String}
    (hcounters : ∀ id, Silent (Redis.left now (db (bucketKey channelId id))))
    (hsamples : ∀ id, Silent (Redis.left now (db (latencyKey channelId id)))) :
    store.read channelId now db = .ok (emptyStats channelId) := by
  have hshown : ∀ id, bucketShown now db channelId id =
      { success := 0, failure := 0, samples := [] } := fun id =>
    bucketShown_of_silent (hcounters id) (hsamples id)
  rw [read_eq hbucket, windowShown, funext hshown]
  simp [statsOfReplies, emptyStats]

/-- An index that only finds its element again. -/
theorem mapIdx_eq_map {α β : Type} {xs : List α} {f : ℕ → α → β} {g : α → β}
    (h : ∀ i x, xs[i]? = some x → f i x = g x) : xs.mapIdx f = xs.map g := by
  refine List.ext_getElem (by simp) fun i hi hi' => ?_
  rw [List.getElem_mapIdx, List.getElem_map]
  exact h i _ (List.getElem?_eq_getElem _)

theorem readBuckets_eq {store : WindowStore} (hbucket : 0 < store.bucketMs)
    (channelId : String) :
    store.readBuckets channelId now db =
      .ok ((windowIds now store.windowMs store.bucketMs).map fun id =>
        { bucketId := id
          startMs := id * store.bucketMs
          reply := bucketShown now db channelId id }) := by
  have hentries : ∀ i id, (windowIds now store.windowMs store.bucketMs)[i]? = some id →
      readBucketReply (Redis.multi now (readCommands [channelId]
        (windowIds now store.windowMs store.bucketMs)) db).1 i =
          bucketShown now db channelId id := by
    intro i id hi
    have hpair := getElem?_readPairs (i := 0) (show [channelId][0]? = some channelId from rfl) hi
    rw [Nat.zero_mul, Nat.zero_add] at hpair
    rw [replies_readCommands]
    exact readBucketReply_of_pair hpair
  unfold readBuckets
  rw [windowBucketIds_of_pos hbucket]
  refine congrArg Except.ok (mapIdx_eq_map fun i id hi => ?_)
  rw [hentries i id hi]

/-! ## The identifiers of the series -/

theorem windowIds_consecutive (nowMs windowMs bucketMs : ℚ) :
    (windowIds nowMs windowMs bucketMs).IsChain fun a b => b = a + 1 := by
  rw [List.isChain_iff_getElem]
  intro i hi
  simp only [windowIds, List.getElem_map, List.getElem_range]
  push_cast
  ring

theorem windowIds_getLast? (nowMs windowMs bucketMs : ℚ) :
    (windowIds nowMs windowMs bucketMs).getLast? = some ⌊nowMs / bucketMs⌋ := by
  unfold windowIds
  rw [List.getLast?_map, List.getLast?_range, if_neg (by omega), Option.map_some]
  congr 1
  omega

/-- The entry of a channel in the batched read is its single read, and both are the total
of its series; the series has one entry a bucket, one after another, up to the bucket of
now. -/
theorem reads_agree (store : WindowStore) (hbucket : 0 < store.bucketMs)
    (channelIds : List String) (now : ℚ) (db : Redis.Keyspace) :
    ∃ all, store.readMany channelIds now db = .ok all ∧
      ∀ channelId ∈ channelIds, ∃ stats series, all channelId = some stats ∧
        store.read channelId now db = .ok stats ∧
        store.readBuckets channelId now db = .ok series ∧
        stats.success = (series.map (·.reply.success)).sum ∧
        stats.failure = (series.map (·.reply.failure)).sum ∧
        stats.latencySamples = series.flatMap (·.reply.samples) ∧
        bucketCount store.windowMs store.bucketMs = .ok series.length ∧
        (series.map (·.bucketId)).IsChain (fun a b => b = a + 1) ∧
        (series.map (·.bucketId)).getLast? = some ⌊now / store.bucketMs⌋ ∧
        ∀ entry ∈ series, entry.startMs = entry.bucketId * store.bucketMs := by
  refine ⟨_, readMany_eq hbucket channelIds, fun channelId hmem => ?_⟩
  refine ⟨_, _, if_pos hmem, read_eq hbucket channelId, readBuckets_eq hbucket channelId, ?_⟩
  refine ⟨?_, ?_, ?_, ?_, ?_, ?_, ?_⟩
  · simp [statsOfReplies, windowShown, Function.comp_def]
  · simp [statsOfReplies, windowShown, Function.comp_def]
  · simp [statsOfReplies, windowShown, List.flatMap_map]
  · rw [bucketCount_of_pos hbucket]
    simp [windowIds]
  · rw [List.map_map]
    simpa [Function.comp_def] using windowIds_consecutive now store.windowMs store.bucketMs
  · rw [List.map_map]
    simpa [Function.comp_def] using windowIds_getLast? now store.windowMs store.bucketMs
  · intro entry hentry
    obtain ⟨id, _, rfl⟩ := List.mem_map.mp hentry
    rfl

/-- The buckets of two channels.  Of the second, one counter is no number, and two keys hold a
text where a list and a hash belong. -/
def damagedBuckets : Redis.Keyspace :=
  (Redis.multi 60000 [
    .hset (bucketKey "a" 12) [("success", "3"), ("failure", "1")],
    .lpush (latencyKey "a" 12) "120",
    .hset (bucketKey "b" 11) [("success", "7"), ("failure", "many")],
    .setNx (latencyKey "b" 11) "lost" 5000,
    .setNx (bucketKey "b" 12) "lost" 5000,
    .lpush (latencyKey "b" 12) "80"] Redis.empty).2

/-- What is left of the damaged channel is read alike, beside the other one. -/
theorem reads_agree_at :
    ∃ all stats series,
      (WindowStore.mk 60000 5000 200).readMany ["a", "b"] 60000 damagedBuckets = .ok all ∧
      all "b" = some stats ∧
      (WindowStore.mk 60000 5000 200).read "b" 60000 damagedBuckets = .ok stats ∧
      (WindowStore.mk 60000 5000 200).readBuckets "b" 60000 damagedBuckets = .ok series ∧
      stats.success = (series.map (·.reply.success)).sum ∧
      (stats.success, stats.failure, stats.latencySamples) = (7, 0, [.fin 80]) := by
  obtain ⟨all, hall, hentries⟩ := reads_agree (WindowStore.mk 60000 5000 200)
    (show (0 : ℚ) < 5000 by norm_num) ["a", "b"] 60000 damagedBuckets
  obtain ⟨stats, series, hentry, hread, hseries, hsuccess, _⟩ := hentries "b" (by decide)
  have hshown : ((WindowStore.mk 60000 5000 200).read "b" 60000 damagedBuckets).toOption.map
      (fun stats => (stats.success, stats.failure, stats.latencySamples)) =
        some (7, 0, [.fin 80]) := by decide +kernel
  rw [hread] at hshown
  exact ⟨all, stats, series, hall, hentry, hread, hseries, hsuccess, Option.some.inj hshown⟩

end WindowStore

end SwitchService.Store
