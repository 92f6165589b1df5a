import SwitchService.Domain.Types
import SwitchService.Domain.Window
import Mathlib.Algebra.BigOperators.Group.List.Basic

set_option autoImplicit false

/-!
# Store: the buckets of a window

What the window store keeps of one channel, without the keys, the text and the
expiry of Redis: for each bucket identifier the two counters and the latency
samples, newest first.
-/

namespace SwitchService.Store

open SwitchService.Foundation SwitchService.Domain

/-- The content of one bucket. -/
structure Bucket where
  success : ℕ
  failure : ℕ
  samples : List ℕ
  deriving DecidableEq

/-- A bucket that nothing was written to. -/
def Bucket.empty : Bucket where
  success := 0
  failure := 0
  samples := []

/-- One more outcome.  The sample list is capped. -/
def Bucket.add (bucket : Bucket) (success : Bool) (latencyMs cap : ℕ) : Bucket where
  success := if success then bucket.success + 1 else bucket.success
  failure := if success then bucket.failure else bucket.failure + 1
  samples := (latencyMs :: bucket.samples).take cap

/-- An added outcome shows in the counters. -/
theorem Bucket.add_ne (bucket : Bucket) (success : Bool) (latencyMs cap : ℕ) :
    bucket.add success latencyMs cap ≠ bucket := by
  intro h
  have hsuccess := congrArg Bucket.success h
  have hfailure := congrArg Bucket.failure h
  cases success <;> simp [add] at hsuccess hfailure

/-- The buckets of one channel. -/
abbrev Buckets : Type := ℤ → Bucket

/-- The outcome goes to the bucket of the moment it is recorded at. -/
def Buckets.record (buckets : Buckets) (config : RoutingConfig) (success : Bool)
    (latencyMs : ℕ) (now : ℚ) : Except String Buckets := do
  let id ← bucketIdAt now config.bucketMs
  return Function.update buckets id
    ((buckets id).add success latencyMs config.maxSamplesPerBucket)

/-- The total over some buckets: samples of older buckets first. -/
def Buckets.stats (buckets : Buckets) (channelId : String) (ids : List ℤ) : ChannelStats where
  channelId := channelId
  success := ((ids.map fun id => (buckets id).success).sum : ℕ)
  failure := ((ids.map fun id => (buckets id).failure).sum : ℕ)
  latencySamples := ids.flatMap fun id => (buckets id).samples.map fun n : ℕ => .fin n

/-- The window of one channel that ends now. -/
def Buckets.window (buckets : Buckets) (config : RoutingConfig) (channelId : String)
    (now : ℚ) : Except String ChannelStats := do
  let ids ← windowBucketIds now config.windowMs config.bucketMs
  return buckets.stats channelId ids

section

variable {buckets : Buckets} {config : RoutingConfig} {channelId : String} {now : ℚ}

/-- The buckets after a record, with a valid bucket size. -/
def Buckets.recorded (buckets : Buckets) (config : RoutingConfig) (success : Bool)
    (latencyMs : ℕ) (now : ℚ) : Buckets :=
  Function.update buckets ⌊now / config.bucketMs⌋
    ((buckets ⌊now / config.bucketMs⌋).add success latencyMs config.maxSamplesPerBucket)

/-- The window of one channel, with a valid bucket size. -/
def Buckets.statsAt (buckets : Buckets) (config : RoutingConfig) (channelId : String)
    (now : ℚ) : ChannelStats :=
  buckets.stats channelId (windowIds now config.windowMs config.bucketMs)

theorem Buckets.record_of_pos (h : 0 < config.bucketMs) (success : Bool) (latencyMs : ℕ) :
    buckets.record config success latencyMs now =
      .ok (buckets.recorded config success latencyMs now) := by
  simp only [record, bucketIdAt_of_pos h]
  rfl

theorem Buckets.window_of_pos (h : 0 < config.bucketMs) :
    buckets.window config channelId now = .ok (buckets.statsAt config channelId now) := by
  simp only [window, windowBucketIds_of_pos h]
  rfl

/-! ## What one record changes -/

/-- A recorded outcome never takes a success away. -/
theorem Buckets.success_le_recorded (success : Bool) (latencyMs : ℕ) (id : ℤ) :
    (buckets id).success ≤ (buckets.recorded config success latencyMs now id).success := by
  unfold recorded
  by_cases heq : id = ⌊now / config.bucketMs⌋
  · subst heq
    cases success <;> simp [Bucket.add]
  · simp [Function.update_of_ne heq]

/-- A good outcome leaves the failures as they are. -/
theorem Buckets.failure_recorded_good (latencyMs : ℕ) (id : ℤ) :
    (buckets.recorded config true latencyMs now id).failure = (buckets id).failure := by
  unfold recorded
  by_cases heq : id = ⌊now / config.bucketMs⌋
  · subst heq
    simp [Bucket.add]
  · simp [Function.update_of_ne heq]

/-- Two records of one outcome agree only in the same bucket. -/
theorem Buckets.recorded_eq_iff {success : Bool} {latencyMs : ℕ} {t : ℚ} :
    buckets.recorded config success latencyMs t =
        buckets.recorded config success latencyMs now ↔
      ⌊t / config.bucketMs⌋ = ⌊now / config.bucketMs⌋ := by
  constructor
  · intro h
    by_contra hne
    have hbucket := congrFun h ⌊t / config.bucketMs⌋
    unfold recorded at hbucket
    rw [Function.update_self, Function.update_of_ne hne] at hbucket
    exact Bucket.add_ne _ _ _ _ hbucket
  · intro h
    unfold recorded
    rw [h]

/-- A record always shows. -/
theorem Buckets.recorded_ne {success : Bool} {latencyMs : ℕ} :
    buckets.recorded config success latencyMs now ≠ buckets := by
  intro h
  have hbucket := congrFun h ⌊now / config.bucketMs⌋
  unfold recorded at hbucket
  rw [Function.update_self] at hbucket
  exact Bucket.add_ne _ _ _ _ hbucket

theorem Buckets.stats_failure_congr {buckets' : Buckets} (ids : List ℤ)
    (h : ∀ id, (buckets' id).failure = (buckets id).failure) :
    (buckets'.stats channelId ids).failure = (buckets.stats channelId ids).failure := by
  simp [stats, h]

theorem Buckets.stats_success_mono {buckets' : Buckets} (ids : List ℤ)
    (h : ∀ id, (buckets id).success ≤ (buckets' id).success) :
    (buckets.stats channelId ids).success ≤ (buckets'.stats channelId ids).success := by
  simp only [stats, Nat.cast_le]
  exact List.sum_le_sum fun id _ => h id

theorem Buckets.stats_nonneg (ids : List ℤ) :
    0 ≤ (buckets.stats channelId ids).success ∧ 0 ≤ (buckets.stats channelId ids).failure :=
  ⟨Nat.cast_nonneg _, Nat.cast_nonneg _⟩

end

end SwitchService.Store
