import SwitchService.Foundation.NumberText

set_option autoImplicit false

/-!
# Domain: the sliding window (`domain/window.ts`)

A bucket is named by an absolute identifier, `floor(now / bucketMs)`, and the
window that ends now is the last `ceil(windowMs / bucketMs)` identifiers.  The
keys under which the stores keep their values are built here as well.
-/

namespace SwitchService.Domain

open SwitchService.Foundation

/-- The message of the error that refuses a bucket size. -/
def bucketMsMessage : String := "bucketMs must be a positive number"

/-- The bucket that holds the given moment. -/
def bucketIdAt (nowMs bucketMs : ℚ) : Except String ℤ :=
  if bucketMs ≤ 0 then .error bucketMsMessage else .ok ⌊nowMs / bucketMs⌋

/-- The count of buckets in one window. -/
def bucketCount (windowMs bucketMs : ℚ) : Except String ℕ :=
  if bucketMs ≤ 0 then .error bucketMsMessage else .ok (max 1 ⌈windowMs / bucketMs⌉.toNat)

/-- The bucket identifiers of the window that ends now, oldest first. -/
def windowBucketIds (nowMs windowMs bucketMs : ℚ) : Except String (List ℤ) := do
  let count ← bucketCount windowMs bucketMs
  let current ← bucketIdAt nowMs bucketMs
  return (List.range count).map fun i : ℕ => current - ((count : ℤ) - 1 - i)

/-- How long a bucket key must live: twice the window, in whole seconds. -/
def bucketTtlSeconds (windowMs : ℚ) : ℤ := ⌈windowMs * 2 / 1000⌉

/-- The key of one bucket of one channel. -/
def bucketKey (channelId : String) (id : ℤ) : String :=
  "sw:" ++ channelId ++ ":" ++ Number.numberText id

/-- The key of the latency samples of one bucket. -/
def latencyKey (channelId : String) (id : ℤ) : String :=
  "sw:" ++ channelId ++ ":" ++ Number.numberText id ++ ":lat"

/-- The hash of a breaker. -/
def breakerKey (channelId : String) : String := "breaker:" ++ channelId

/-- The lock that keeps a HALF_OPEN breaker to one probe at a time. -/
def probeLockKey (channelId : String) : String := "probe:" ++ channelId

/-- The mark of a processed event. -/
def processedKey (eventId : String) : String := "processed:" ++ eventId

/-! ## The identifiers of a window -/

/-- The first identifier after the window that ends now, counted back. -/
def windowStart (nowMs windowMs bucketMs : ℚ) : ℤ :=
  ⌊nowMs / bucketMs⌋ - ((max 1 ⌈windowMs / bucketMs⌉.toNat : ℕ) : ℤ) + 1

variable {nowMs windowMs bucketMs : ℚ}

@[simp] theorem bucketIdAt_of_pos (h : 0 < bucketMs) :
    bucketIdAt nowMs bucketMs = .ok ⌊nowMs / bucketMs⌋ := by
  simp [bucketIdAt, not_le.mpr h]

@[simp] theorem bucketCount_of_pos (h : 0 < bucketMs) :
    bucketCount windowMs bucketMs = .ok (max 1 ⌈windowMs / bucketMs⌉.toNat) := by
  simp [bucketCount, not_le.mpr h]

/-- The identifiers of a window, with a valid bucket size. -/
def windowIds (nowMs windowMs bucketMs : ℚ) : List ℤ :=
  (List.range (max 1 ⌈windowMs / bucketMs⌉.toNat)).map fun i : ℕ =>
    ⌊nowMs / bucketMs⌋ - (((max 1 ⌈windowMs / bucketMs⌉.toNat : ℕ) : ℤ) - 1 - i)

theorem windowBucketIds_of_pos (h : 0 < bucketMs) :
    windowBucketIds nowMs windowMs bucketMs = .ok (windowIds nowMs windowMs bucketMs) := by
  simp only [windowBucketIds, bucketIdAt_of_pos h, bucketCount_of_pos h]
  rfl

/-- The window holds the identifiers from its start up to the bucket of now. -/
theorem mem_windowIds {id : ℤ} :
    id ∈ windowIds nowMs windowMs bucketMs ↔
      windowStart nowMs windowMs bucketMs ≤ id ∧ id ≤ ⌊nowMs / bucketMs⌋ := by
  simp only [windowIds, windowStart, List.mem_map, List.mem_range]
  constructor
  · rintro ⟨i, hi, rfl⟩
    omega
  · rintro ⟨hlow, hhigh⟩
    refine ⟨(id - (⌊nowMs / bucketMs⌋
      - ((max 1 ⌈windowMs / bucketMs⌉.toNat : ℕ) : ℤ) + 1)).toNat, ?_, ?_⟩
    · omega
    · omega

theorem windowIds_nodup (nowMs windowMs bucketMs : ℚ) :
    (windowIds nowMs windowMs bucketMs).Nodup := by
  refine List.Nodup.map ?_ List.nodup_range
  intro i j hij
  simp only at hij
  omega

/-! ## Keys of different buckets -/

/-- The last separator splits a list in one way. -/
theorem append_cons_inj_last {α : Type} {xs xs' ys ys' : List α} {a : α} (hys : a ∉ ys)
    (hys' : a ∉ ys') (h : xs ++ a :: ys = xs' ++ a :: ys') : xs = xs' ∧ ys = ys' := by
  rcases List.append_eq_append_iff.mp h with ⟨zs, hxs, hrest⟩ | ⟨zs, hxs, hrest⟩
  · cases zs with
    | nil => simp_all
    | cons z zs =>
        obtain ⟨_, rfl⟩ := List.cons.inj hrest
        exact absurd (List.mem_append_right zs List.mem_cons_self) hys
  · cases zs with
    | nil => simp_all
    | cons z zs =>
        obtain ⟨_, rfl⟩ := List.cons.inj hrest
        exact absurd (List.mem_append_right zs List.mem_cons_self) hys'

/-- The printed identifier of a bucket has no colon. -/
theorem colon_notMem_numberText (id : ℤ) : ':' ∉ (Number.numberText id).toList := by
  intro h
  exact absurd (Number.isNumeral_numberText id ':' h) (by decide)

theorem bucketKey_toList (channelId : String) (id : ℤ) :
    (bucketKey channelId id).toList =
      ("sw:".toList ++ channelId.toList) ++ ':' :: (Number.numberText id).toList := by
  simp [bucketKey]

theorem latencyKey_toList (channelId : String) (id : ℤ) :
    (latencyKey channelId id).toList =
      (bucketKey channelId id).toList ++ ':' :: "lat".toList := by
  simp [latencyKey, bucketKey]

/-- A bucket key names its channel and its bucket, whatever the channel is called. -/
theorem bucketKey_inj {channelId channelId' : String} {id id' : ℤ} :
    bucketKey channelId id = bucketKey channelId' id' ↔ channelId = channelId' ∧ id = id' := by
  constructor
  · intro h
    have hlist := congrArg String.toList h
    rw [bucketKey_toList, bucketKey_toList] at hlist
    obtain ⟨hchannel, hid⟩ := append_cons_inj_last (colon_notMem_numberText id)
      (colon_notMem_numberText id') hlist
    exact ⟨String.toList_injective (List.append_cancel_left hchannel),
      Number.numberText_int_injective (String.toList_injective hid)⟩
  · rintro ⟨rfl, rfl⟩
    rfl

theorem latencyKey_inj {channelId channelId' : String} {id id' : ℤ} :
    latencyKey channelId id = latencyKey channelId' id' ↔
      channelId = channelId' ∧ id = id' := by
  constructor
  · intro h
    have hlist := congrArg String.toList h
    rw [latencyKey_toList, latencyKey_toList] at hlist
    exact bucketKey_inj.mp (String.toList_injective (List.append_cancel_right hlist))
  · rintro ⟨rfl, rfl⟩
    rfl

/-- No counters are kept under a key of samples. -/
theorem bucketKey_ne_latencyKey (channelId channelId' : String) (id id' : ℤ) :
    bucketKey channelId id ≠ latencyKey channelId' id' := by
  intro h
  have hlist := congrArg String.toList h
  rw [bucketKey_toList, latencyKey_toList] at hlist
  obtain ⟨_, hid⟩ := append_cons_inj_last (colon_notMem_numberText id) (by decide) hlist
  have hmem : 'l' ∈ (Number.numberText id).toList := by
    rw [hid]
    decide
  exact absurd (Number.isNumeral_numberText id 'l' hmem) (by decide)

/-! ## Keys of different families -/

/-- What stands before the first colon of a key. -/
def keyFamily (key : String) : List Char := key.toList.takeWhile (· ≠ ':')

theorem ne_of_keyFamily {key key' : String} (h : keyFamily key ≠ keyFamily key') :
    key ≠ key' := fun heq => h (congrArg keyFamily heq)

@[simp] theorem keyFamily_bucketKey (channelId : String) (id : ℤ) :
    keyFamily (bucketKey channelId id) = ['s', 'w'] := by
  simp [keyFamily, bucketKey]

@[simp] theorem keyFamily_latencyKey (channelId : String) (id : ℤ) :
    keyFamily (latencyKey channelId id) = ['s', 'w'] := by
  simp [keyFamily, latencyKey]

@[simp] theorem keyFamily_breakerKey (channelId : String) :
    keyFamily (breakerKey channelId) = "breaker".toList := by
  simp [keyFamily, breakerKey]

@[simp] theorem keyFamily_probeLockKey (channelId : String) :
    keyFamily (probeLockKey channelId) = "probe".toList := by
  simp [keyFamily, probeLockKey]

@[simp] theorem keyFamily_processedKey (eventId : String) :
    keyFamily (processedKey eventId) = "processed".toList := by
  simp [keyFamily, processedKey]

theorem probeLockKey_inj {channelId channelId' : String} :
    probeLockKey channelId = probeLockKey channelId' ↔ channelId = channelId' := by
  simp [probeLockKey]

theorem processedKey_inj {eventId eventId' : String} :
    processedKey eventId = processedKey eventId' ↔ eventId = eventId' := by
  simp [processedKey]

theorem breakerKey_inj {channelId channelId' : String} :
    breakerKey channelId = breakerKey channelId' ↔ channelId = channelId' := by
  simp [breakerKey]

end SwitchService.Domain
