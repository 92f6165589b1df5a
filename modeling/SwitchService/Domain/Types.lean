import SwitchService.Foundation.Number

set_option autoImplicit false

/-!
# Domain: the types of the routing domain (`domain/types.ts`)

A clock reading and every other `number` of the domain is an exact rational.
Counts that the configuration fixes (`minSamples`, `probesToClose`,
`maxSamplesPerBucket`) are natural numbers, since `loadConfig` admits integers
only; the rates and weights come from the environment unchecked and may be
infinite, so they are `Number`.
-/

namespace SwitchService.Domain

open SwitchService.Foundation

/-- `'CLOSED' | 'OPEN' | 'HALF_OPEN'`. -/
inductive BreakerState where
  | closed
  | opened
  | halfOpen
  deriving DecidableEq, Repr, Inhabited

/-- `'best' | 'explore' | 'only-candidate' | 'degraded'`. -/
inductive RouteStrategy where
  | best
  | explore
  | onlyCandidate
  | degraded
  deriving DecidableEq, Repr, Inhabited

/-- A channel that this service can select. -/
structure Channel where
  id : String
  name : String
  /-- The relative price of the channel.  A smaller number is cheaper. -/
  cost : ℚ
  enabled : Bool
  deriving DecidableEq

/-- What the window holds for one channel. -/
structure ChannelStats where
  channelId : String
  success : ℚ
  failure : ℚ
  latencySamples : List Number
  deriving DecidableEq

/-- The breaker of one channel. -/
structure BreakerSnapshot where
  state : BreakerState
  /-- When the breaker last went to OPEN.  Zero when it was never open. -/
  openedAt : ℚ
  /-- The count of good probes since the breaker went to HALF_OPEN. -/
  probeSuccess : ℚ
  deriving DecidableEq

/-- One line of a decision record. -/
structure Candidate where
  channelId : String
  rank : ℕ
  score : ℚ
  successRate : ℚ
  p95Ms : Option ℚ
  costScore : ℚ
  breakerState : BreakerState
  samples : ℚ
  coldStart : Bool
  eligible : Bool
  ineligibleReason : Option String
  deriving DecidableEq

/-- A routing decision.  `evaluatedAt` is the clock reading that the source
prints as an ISO date. -/
structure RoutingDecision where
  decisionId : String
  channelId : String
  strategy : RouteStrategy
  windowMs : ℚ
  evaluatedAt : ℚ
  candidates : List Candidate
  deriving DecidableEq

/-- The three weights of the score. -/
structure Weights where
  success : Number
  latency : Number
  cost : Number
  deriving DecidableEq

/-- The settings of the breaker. -/
structure BreakerConfig where
  failureRateThreshold : Number
  openMs : ℚ
  probesToClose : ℕ
  deriving DecidableEq

/-- The optimistic defaults of a cold channel. -/
structure ColdStart where
  successRate : Number
  latencyScore : Number
  deriving DecidableEq

/-- Every number of the routing algorithm. -/
structure RoutingConfig where
  windowMs : ℚ
  bucketMs : ℚ
  maxSamplesPerBucket : ℕ
  /-- Below this count of payouts, a channel is cold and the breaker stays shut. -/
  minSamples : ℕ
  /-- A p95 at or above this value scores zero for latency. -/
  latencyCeilingMs : ℚ
  weights : Weights
  breaker : BreakerConfig
  explorationRate : Number
  coldStart : ColdStart
  deriving DecidableEq

/-- `DEFAULT_ROUTING_CONFIG`. -/
def defaultRoutingConfig : RoutingConfig where
  windowMs := 60000
  bucketMs := 5000
  maxSamplesPerBucket := 200
  minSamples := 20
  latencyCeilingMs := 2000
  weights := { success := .fin (6 / 10), latency := .fin (3 / 10), cost := .fin (1 / 10) }
  breaker := { failureRateThreshold := .fin (5 / 10), openMs := 30000, probesToClose := 3 }
  explorationRate := .fin (1 / 10)
  coldStart := { successRate := .fin (8 / 10), latencyScore := .fin (5 / 10) }

/-- `emptyStats`. -/
def emptyStats (channelId : String) : ChannelStats where
  channelId := channelId
  success := 0
  failure := 0
  latencySamples := []

/-- `closedBreaker`. -/
def closedBreaker : BreakerSnapshot where
  state := .closed
  openedAt := 0
  probeSuccess := 0

end SwitchService.Domain
