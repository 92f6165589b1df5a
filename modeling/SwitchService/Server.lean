import SwitchService.Consumer.OutcomeHandler
import SwitchService.Repositories.ChannelRepository

set_option autoImplicit false

/-!
# The wiring of the outcome handler (`server.ts`)

The handler asks the cached channel list whether it knows the channel of an
outcome, for the default corridor.
-/

namespace SwitchService

open SwitchService.Foundation SwitchService.Domain SwitchService.Store
open SwitchService.Repositories SwitchService.Consumer

/-- The dependency `knownChannel` that `main` passes to the handler. -/
def knownChannel (channelId : String) : Program Bool := do
  let now ← clockNow
  let channels ← listChannelsCached now defaultCorridor
  return channels.any (·.id = channelId)

/-- The handler as `main` builds it. -/
def handleOutcome (config : Config) (message : Json) : Program HandleOutcome :=
  handle config.routing (some knownChannel) message

/-- What the lookup of `knownChannel` answers. -/
def knows (w : World) (channelId : String) : Bool :=
  (lookup w w.now defaultCorridor).any (·.id = channelId)

/-- The state after that lookup. -/
def afterKnown (w : World) : World := afterLookup w w.now defaultCorridor

theorem run_knownChannel {config : Config} {faults : Faults} {w : World} {channelId : String}
    (h : faults (.queryChannels defaultCorridor) = none) :
    (knownChannel channelId).run config faults w =
      (.ok (knows w channelId), afterKnown w) := by
  unfold knownChannel
  rw [run_bind_ok (run_clockNow w), run_bind_ok (run_listChannelsCached h)]
  rfl

end SwitchService
