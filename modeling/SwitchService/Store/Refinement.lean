import SwitchService.Store.Calls
import SwitchService.Store.WindowHistory

set_option autoImplicit false

/-!
# Store: the windows of the world are those of the window store

The calls `record` and `readWindow` work on buckets without keys and expiry.  The
buckets that the records of a history leave in the world are the `historyBuckets` that the
window store has in Redis after the same records.
-/

namespace SwitchService.Store

open SwitchService.Foundation SwitchService.Domain

/-- The window store that the configuration makes. -/
def WindowStore.ofConfig (config : RoutingConfig) : WindowStore where
  windowMs := config.windowMs
  bucketMs := config.bucketMs
  maxSamplesPerBucket := config.maxSamplesPerBucket

/-- The windows of the world are the buckets of a history. -/
def Shows (config : Config) (history : List WindowStore.Outcome) (w : World) : Prop :=
  ∀ channelId, w.windows channelId =
    (WindowStore.ofConfig config.routing).historyBuckets history channelId

variable {config : Config} {history : List WindowStore.Outcome} {w : World}

theorem shows_fresh (now : ℚ) (table : Table) : Shows config [] (World.fresh now table) :=
  fun _ => rfl

/-- A record adds to the history. -/
theorem shows_record (h : Shows config history w) (outcome : WindowStore.Outcome) :
    Shows config (outcome :: history) (perform config (.record outcome.channelId
      outcome.success outcome.latencyMs outcome.recordedAt) w).2 := by
  intro channelId
  rw [perform_record, setWindow_windows]
  funext id
  by_cases hchannel : channelId = outcome.channelId
  · subst hchannel
    rw [Function.update_self, h]
    by_cases hid : id = ⌊outcome.recordedAt / config.routing.bucketMs⌋
    · subst hid
      rw [Buckets.recorded, Function.update_self]
      exact ((WindowStore.ofConfig config.routing).historyBuckets_cons_self outcome
        history).symm
    · rw [Buckets.recorded, Function.update_of_ne hid,
        WindowStore.historyBuckets_cons_of_ne fun heq => hid heq.2.symm]
  · rw [Function.update_of_ne hchannel, h,
      WindowStore.historyBuckets_cons_of_ne fun heq => hchannel heq.1.symm]

end SwitchService.Store
