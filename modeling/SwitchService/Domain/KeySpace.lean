import SwitchService.Domain.Window
import SwitchService.Foundation.RedisScan

set_option autoImplicit false

/-!
# Domain: the key space (`domain/window.ts`, `store/windowStore.ts`)

The stores share one Redis database, so nothing but their keys keeps them apart.  A key is
a fixed word in front of the identifier of a channel or an event; an identifier can be any
text, also one with a colon or one that looks like a key.  The two kinds of key of a window
share their word and end in the printed number of a bucket.
-/

namespace SwitchService.Domain

open SwitchService.Foundation

/-- The keys that the stores build, by what is kept under them. -/
inductive Key where
  | bucket (channelId : String) (id : ℤ)
  | latency (channelId : String) (id : ℤ)
  | breaker (channelId : String)
  | probeLock (channelId : String)
  | processed (eventId : String)
  deriving DecidableEq

/-- The keys that begin alike, and that a scan finds together. -/
inductive Family where
  | window
  | breaker
  | probeLock
  | processed
  deriving DecidableEq

namespace Key

/-- The key as it is sent to Redis. -/
def text : Key → String
  | .bucket channelId id => bucketKey channelId id
  | .latency channelId id => latencyKey channelId id
  | .breaker channelId => breakerKey channelId
  | .probeLock channelId => probeLockKey channelId
  | .processed eventId => processedKey eventId

/-- The family of a key. -/
def family : Key → Family
  | .bucket .. | .latency .. => .window
  | .breaker _ => .breaker
  | .probeLock _ => .probeLock
  | .processed _ => .processed

end Key

/-- What stands in front of the identifier. -/
def Family.start : Family → String
  | .window => "sw:"
  | .breaker => "breaker:"
  | .probeLock => "probe:"
  | .processed => "processed:"

/-! ## Families -/

/-- No start begins with another one. -/
theorem Family.eq_of_start_prefix {f f' : Family}
    (h : f.start.toList <+: f'.start.toList) : f = f' := by
  cases f with
  | window => cases f' with
    | window => rfl
    | breaker | probeLock | processed => exact absurd h (by decide)
  | breaker => cases f' with
    | breaker => rfl
    | window | probeLock | processed => exact absurd h (by decide)
  | probeLock => cases f' with
    | probeLock => rfl
    | window | breaker | processed => exact absurd h (by decide)
  | processed => cases f' with
    | processed => rfl
    | window | breaker | probeLock => exact absurd h (by decide)

namespace Key

/-- A key begins like its family. -/
theorem start_prefix_text (key : Key) : Redis.BeginsWith key.family.start key.text := by
  rw [Redis.beginsWith_iff]
  cases key with
  | bucket channelId id =>
      exact ⟨channelId ++ ":" ++ Number.numberText id, by
        simp [text, family, Family.start, bucketKey, String.append_assoc]⟩
  | latency channelId id =>
      exact ⟨channelId ++ ":" ++ Number.numberText id ++ ":lat", by
        simp [text, family, Family.start, latencyKey, String.append_assoc]⟩
  | breaker channelId => exact ⟨channelId, rfl⟩
  | probeLock channelId => exact ⟨channelId, rfl⟩
  | processed eventId => exact ⟨eventId, rfl⟩

/-- A key begins like no other family, whatever its identifier is. -/
theorem beginsWith_start_iff (f : Family) (key : Key) :
    Redis.BeginsWith f.start key.text ↔ key.family = f := by
  constructor
  · intro h
    rcases List.prefix_or_prefix_of_prefix (start_prefix_text key) h with hle | hle
    · exact Family.eq_of_start_prefix hle
    · exact (Family.eq_of_start_prefix hle).symm
  · rintro rfl
    exact start_prefix_text key

theorem family_eq_of_text_eq {key key' : Key} (h : key.text = key'.text) :
    key.family = key'.family := by
  have hstart := start_prefix_text key
  rw [h] at hstart
  exact ((beginsWith_start_iff key.family key').mp hstart).symm

/-! ## No collision -/

/-- Two keys with one text were made for the same purpose. -/
theorem eq_of_text_eq {key key' : Key} (h : key.text = key'.text) : key = key' := by
  have hfamily := family_eq_of_text_eq h
  cases key with
  | bucket channelId id =>
      cases key' with
      | bucket channelId' id' =>
          obtain ⟨rfl, rfl⟩ := bucketKey_inj.mp h
          rfl
      | latency channelId' id' =>
          exact absurd h (bucketKey_ne_latencyKey channelId channelId' id id')
      | breaker | probeLock | processed => cases hfamily
  | latency channelId id =>
      cases key' with
      | bucket channelId' id' =>
          exact absurd h.symm (bucketKey_ne_latencyKey channelId' channelId id' id)
      | latency channelId' id' =>
          obtain ⟨rfl, rfl⟩ := latencyKey_inj.mp h
          rfl
      | breaker | probeLock | processed => cases hfamily
  | breaker channelId =>
      cases key' with
      | breaker channelId' => rw [breakerKey_inj.mp h]
      | bucket | latency | probeLock | processed => cases hfamily
  | probeLock channelId =>
      cases key' with
      | probeLock channelId' => rw [probeLockKey_inj.mp h]
      | bucket | latency | breaker | processed => cases hfamily
  | processed eventId =>
      cases key' with
      | processed eventId' => rw [processedKey_inj.mp h]
      | bucket | latency | breaker | probeLock => cases hfamily

theorem text_ne {key key' : Key} (h : key ≠ key') : key.text ≠ key'.text :=
  fun htext => h (eq_of_text_eq htext)

theorem family_eq_window_iff (key : Key) :
    key.family = .window ↔
      ∃ channelId id, key = .bucket channelId id ∨ key = .latency channelId id := by
  cases key with
  | bucket channelId id => simp [family]
  | latency channelId id => simp [family]
  | breaker channelId => simp [family]
  | probeLock channelId => simp [family]
  | processed eventId => simp [family]

/-- What `MATCH` gives for the start of a family and a star. -/
theorem globMatch_text (f : Family) (pattern : String)
    (hpattern : pattern.toList = f.start.toList ++ ['*']) (key : Key) :
    Redis.globMatch pattern.toList key.text.toList = true ↔ key.family = f := by
  have hstar : '*' ∉ f.start.toList := by
    cases f <;> decide
  rw [Redis.globMatch_iff f.start pattern hpattern hstar, beginsWith_start_iff]

/-- The key space has no collisions: a key has one purpose, one channel or event, and one
bucket.  The pattern of `WindowStore.clear` matches the keys of the windows and no other. -/
theorem text_apart :
    Function.Injective text ∧
      ∀ key : Key, Redis.globMatch "sw:*".toList key.text.toList = true ↔
        ∃ channelId id, key = .bucket channelId id ∨ key = .latency channelId id := by
  refine ⟨fun key key' h => eq_of_text_eq h, fun key => ?_⟩
  rw [globMatch_text .window "sw:*" rfl, family_eq_window_iff]

example : (Key.bucket "a:1" 2).text = "sw:a:1:2" ∧ (Key.latency "a" 1).text = "sw:a:1:lat" := by
  decide +kernel

end Key

end SwitchService.Domain
