import SwitchService.Store.WindowHistory
import SwitchService.Store.WindowSeries

set_option autoImplicit false

/-!
# Store: what one record adds (`store/windowStore.ts`)

A record is a transaction of six commands on the two keys of one bucket.  When none of them
is answered with an error, the bucket has one outcome more, whatever its keys held, and no
other key has changed.
-/

namespace SwitchService.Store

open SwitchService.Foundation SwitchService.Domain

namespace WindowStore

/-- One outcome more under the keys of a bucket: its counter is one up, the other counter is
as it was, and its latency is the newest of the samples that are kept. -/
structure GainsOutcome (store : WindowStore) (now : ℚ) (channelId : String) (success : Bool)
    (latencyMs : ℕ) (id : ℤ) (db db' : Redis.Keyspace) : Prop where
  counters : ∃ fields fields' n,
    Redis.fieldsOf (Redis.left now (db (bucketKey channelId id))) = .ok fields ∧
    Redis.fieldsOf (Redis.left now (db' (bucketKey channelId id))) = .ok fields' ∧
    Redis.incremented 1 (fields (counterField success)) = some n ∧
    fields' (counterField success) = some (toString n) ∧
    fields' (counterField !success) = fields (counterField !success)
  samples : ∃ items,
    Redis.itemsOf (Redis.left now (db (latencyKey channelId id))) = .ok items ∧
    Redis.itemsOf (Redis.left now (db' (latencyKey channelId id))) =
      .ok ((Number.natText latencyMs :: items).take store.maxSamplesPerBucket)

/-- No command of the transaction of a record is answered with an error. -/
def RecordAnswered (store : WindowStore) (channelId : String) (success : Bool)
    (latencyMs : ℕ) (now : ℚ) (db : Redis.Keyspace) : Prop :=
  ∀ reply ∈ (Redis.multi now (store.recordCommands channelId success latencyMs
    ⌊now / store.bucketMs⌋) db).1, ∀ message, reply ≠ .error message

variable {store : WindowStore} {now : ℚ} {db : Redis.Keyspace} {channelId : String}
  {success : Bool} {latencyMs : ℕ}

/-! ## The record -/

/-- The commands of a record name the two keys of its bucket. -/
theorem key_recordCommands {id : ℤ} {command : Redis.Command}
    (h : command ∈ store.recordCommands channelId success latencyMs id) :
    command.key = bucketKey channelId id ∨ command.key = latencyKey channelId id := by
  simp only [recordCommands, List.mem_cons, List.not_mem_nil, or_false] at h
  rcases h with rfl | rfl | rfl | rfl | rfl | rfl
  · exact .inl rfl
  · exact .inl rfl
  · exact .inl rfl
  · exact .inr rfl
  · exact .inr rfl
  · exact .inr rfl

/-- Both depend on the two keys of the bucket only. -/
theorem GainsOutcome.congr {id : ℤ} {db' before after : Redis.Keyspace}
    (h : store.GainsOutcome now channelId success latencyMs id db db')
    (hbefore : ∀ key, key = bucketKey channelId id ∨ key = latencyKey channelId id →
      before key = db key)
    (hafter : ∀ key, key = bucketKey channelId id ∨ key = latencyKey channelId id →
      after key = db' key) :
    store.GainsOutcome now channelId success latencyMs id before after := by
  obtain ⟨hcounters, hsamples⟩ := h
  refine ⟨?_, ?_⟩
  · rw [hbefore _ (.inl rfl), hafter _ (.inl rfl)]
    exact hcounters
  · rw [hbefore _ (.inr rfl), hafter _ (.inr rfl)]
    exact hsamples

theorem RecordAnswered.congr {db' : Redis.Keyspace}
    (h : store.RecordAnswered channelId success latencyMs now db)
    (hsame : ∀ key, key = bucketKey channelId ⌊now / store.bucketMs⌋ ∨
      key = latencyKey channelId ⌊now / store.bucketMs⌋ → db' key = db key) :
    store.RecordAnswered channelId success latencyMs now db' := by
  unfold RecordAnswered
  rw [Redis.multi_replies_congr fun command hcommand => ?_]
  · exact h
  · exact hsame _ (key_recordCommands hcommand)

/-! ## What a reader counts -/

/-- The counter of an outcome, as a reader of the bucket has it. -/
def countOf (success : Bool) (reply : BucketReply) : ℚ :=
  if success then reply.success else reply.failure

/-- The integer that a counter holds; a missing one is zero. -/
def storedCount (raw : Option String) : Option ℤ := Redis.incremented 0 raw

theorem countOf_bucketShown {id : ℤ} {fields : String → Option String}
    (h : Redis.fieldsOf (Redis.left now (db (bucketKey channelId id))) = .ok fields)
    (success : Bool) :
    countOf success (bucketShown now db channelId id) =
      toCount (fields (counterField success)) := by
  cases success <;>
    simp [countOf, bucketShown, readBucketReply, countersReply, Redis.Command.apply, h,
      repliedValues, counterField]

theorem incremented_shift (a b : ℤ) (raw : Option String) :
    Redis.incremented a raw = (Redis.incremented b raw).map (· - b + a) := by
  cases raw with
  | none => simp [Redis.incremented]
  | some text => simp [Redis.incremented, Function.comp_def]

theorem toCount_of_storedCount {raw : Option String} {c : ℤ} (h : storedCount raw = some c)
    (hc : 0 ≤ c) : toCount raw = c := by
  cases raw with
  | none =>
      cases h
      rfl
  | some text =>
      have hint : Redis.integerOf text = some c := by
        simpa [storedCount, Redis.incremented] using h
      obtain ⟨_, htext⟩ := Option.filter_eq_some_iff.mp hint
      obtain rfl : toString c = text := by simpa using htext
      obtain ⟨n, rfl⟩ := Int.eq_ofNat_of_zero_le hc
      cases n with
      | zero =>
          simp only [toCount, Number.ofText_toString 0]
          simp
      | succ n => exact_mod_cast toCount_counterText (n + 1)

/-- Where the counter was not below zero, a reader counts one outcome more. -/
theorem GainsOutcome.shown {id : ℤ} {db' : Redis.Keyspace}
    (h : store.GainsOutcome now channelId success latencyMs id db db')
    (hcount : ∀ fields c, Redis.fieldsOf (Redis.left now (db (bucketKey channelId id))) =
      .ok fields → storedCount (fields (counterField success)) = some c → 0 ≤ c) :
    countOf success (bucketShown now db' channelId id) =
        countOf success (bucketShown now db channelId id) + 1 ∧
      countOf (!success) (bucketShown now db' channelId id) =
        countOf (!success) (bucketShown now db channelId id) := by
  obtain ⟨fields, fields', n, hfields, hfields', hn, hcounted, hother⟩ := h.counters
  rw [countOf_bucketShown hfields, countOf_bucketShown hfields', countOf_bucketShown hfields,
    countOf_bucketShown hfields', hother]
  refine ⟨?_, rfl⟩
  have hbefore : storedCount (fields (counterField success)) = some (n - 1) := by
    rw [storedCount, incremented_shift 0 1, hn]
    simp
  have hafter : storedCount (some (toString n)) = some n := by
    simp only [storedCount, Redis.incremented, Redis.integerOf_toString, Option.map_some,
      add_zero]
  have hnonneg := hcount fields (n - 1) hfields hbefore
  rw [hcounted, toCount_of_storedCount hafter (by omega),
    toCount_of_storedCount hbefore hnonneg]
  push_cast
  ring

end WindowStore

end SwitchService.Store
