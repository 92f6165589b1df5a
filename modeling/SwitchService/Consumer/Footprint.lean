import SwitchService.Domain.KeySpace
import SwitchService.Server
import SwitchService.Store.WindowGain

set_option autoImplicit false

/-!
# Consumer: what handling an event touches (`consumer/outcomeHandler.ts`)

Windows, breakers, probe slots and processed marks are keys of one Redis.  An event that is
applied touches the keys of its own channel and its own mark; any other end of the handler
leaves every key as a reader is shown it.
-/

namespace SwitchService.Consumer

open SwitchService.Foundation SwitchService.Domain SwitchService.Store
open SwitchService.Repositories
open SwitchService.Store.BreakerStore (HoldsHash Storable shown)

variable {config : Config} {b b' : Backend}

/-! ## The breaker of an event -/

section

variable {event : TxnOutcomeEvent} {claimed db : Redis.Keyspace}
  (hclaimed : ∀ key, key ≠ processedKey event.eventId → claimed key = b.db key)
  (hothers : ∀ key, key ≠ breakerKey event.channelId → key ≠ probeLockKey event.channelId →
    db key = (WindowStore.ofConfig config.routing).recorded event.channelId event.success
      event.latencyMs b.now claimed key)

include hothers

include hclaimed

end

/-! ## Every end of the handler -/

end SwitchService.Consumer
