import SwitchService.Domain.Types
import SwitchService.Foundation.Validation

set_option autoImplicit false

/-!
# The configuration (`config.ts`)

Every number of the routing algorithm is read from the environment here.  The
fields that no modelled function reads (addresses, pool sizes, names) are checked
where the schema can refuse them and then left out of `Config`.
-/

namespace SwitchService

open SwitchService.Foundation SwitchService.Domain

/-- The environment variables. -/
abbrev Environment : Type := String → Option String

/-- `z.coerce.number()` with a default. -/
def numberField (env : Environment) (name : String) (default : ℚ) :
    Validation Issue Number :=
  match (env name).map Number.ofText with
  | none => .valid (.fin default)
  | some .nan => .invalid [{ path := name, message := "Expected number, received nan" }]
  | some value => .valid value

/-- The value of a number that passes `.int().positive()`. -/
def positiveInt? (value : Number) : Option ℕ+ :=
  match value.toInt? with
  | some n => if h : 0 < n.toNat then some ⟨n.toNat, h⟩ else none
  | none => none

/-- `z.coerce.number().int().positive()` with a default. -/
def intField (env : Environment) (name : String) (default : ℕ) : Validation Issue ℕ+ :=
  match numberField env name default with
  | .invalid issues => .invalid issues
  | .valid value =>
      match positiveInt? value with
      | some n => .valid n
      | none => .invalid (integerIssues name .positive value)

/-- `z.enum([...])` with a default. -/
def enumField (env : Environment) (name : String) (options : List String) (default : String) :
    Validation Issue String :=
  let value := (env name).getD default
  if value ∈ options then .valid value
  else .invalid [{
    path := name
    message := "Invalid enum value. Expected " ++
      String.intercalate " | " (options.map fun o => "'" ++ o ++ "'") ++
      ", received '" ++ value ++ "'" }]

/-- `z.string()` with a default. -/
def stringField (env : Environment) (name default : String) : Validation Issue String :=
  .valid ((env name).getD default)

/-- What the schema gives, in the order of its fields. -/
structure RawConfig where
  nodeEnv : String
  port : ℕ+
  logLevel : String
  databasePoolMax : ℕ+
  databaseStatementTimeoutMs : ℕ+
  outcomeStream : String
  consumerGroup : String
  deadLetterStream : String
  maxDeliveries : ℕ+
  claimMinIdleMs : ℕ+
  processedTtlSeconds : ℕ+
  metricsTimeoutMs : ℕ+
  windowMs : ℕ+
  bucketMs : ℕ+
  maxSamplesPerBucket : ℕ+
  minSamples : ℕ+
  latencyCeilingMs : ℕ+
  weightSuccess : Number
  weightLatency : Number
  weightCost : Number
  breakerFailureRateThreshold : Number
  breakerOpenMs : ℕ+
  breakerProbesToClose : ℕ+
  explorationRate : Number
  coldStartSuccessRate : Number
  coldStartLatencyScore : Number

/-- The schema of the environment. -/
def schema (env : Environment) : Validation Issue RawConfig :=
  RawConfig.mk
    <$> enumField env "NODE_ENV" ["development", "test", "production"] "development"
    <*> intField env "PORT" 4011
    <*> enumField env "LOG_LEVEL" ["fatal", "error", "warn", "info", "debug", "trace"] "info"
    <*> intField env "DATABASE_POOL_MAX" 10
    <*> intField env "DATABASE_STATEMENT_TIMEOUT_MS" 5000
    <*> stringField env "OUTCOME_STREAM" "txn.outcomes"
    <*> stringField env "CONSUMER_GROUP" "switch-consumers"
    <*> stringField env "DEAD_LETTER_STREAM" "txn.outcomes.dead"
    <*> intField env "MAX_DELIVERIES" 5
    <*> intField env "CLAIM_MIN_IDLE_MS" 30000
    <*> intField env "PROCESSED_TTL_SECONDS" 600
    <*> intField env "METRICS_TIMEOUT_MS" 300
    <*> intField env "WINDOW_MS" 60000
    <*> intField env "BUCKET_MS" 5000
    <*> intField env "MAX_SAMPLES_PER_BUCKET" 200
    <*> intField env "MIN_SAMPLES" 20
    <*> intField env "LATENCY_CEILING_MS" 2000
    <*> numberField env "WEIGHT_SUCCESS" (6 / 10)
    <*> numberField env "WEIGHT_LATENCY" (3 / 10)
    <*> numberField env "WEIGHT_COST" (1 / 10)
    <*> numberField env "BREAKER_FAILURE_RATE_THRESHOLD" (5 / 10)
    <*> intField env "BREAKER_OPEN_MS" 30000
    <*> intField env "BREAKER_PROBES_TO_CLOSE" 3
    <*> numberField env "EXPLORATION_RATE" (1 / 10)
    <*> numberField env "COLD_START_SUCCESS_RATE" (8 / 10)
    <*> numberField env "COLD_START_LATENCY_SCORE" (5 / 10)

/-- The routing part of the configuration. -/
def RawConfig.routing (value : RawConfig) : RoutingConfig where
  windowMs := value.windowMs
  bucketMs := value.bucketMs
  maxSamplesPerBucket := value.maxSamplesPerBucket
  minSamples := value.minSamples
  latencyCeilingMs := value.latencyCeilingMs
  weights :=
    { success := value.weightSuccess
      latency := value.weightLatency
      cost := value.weightCost }
  breaker :=
    { failureRateThreshold := value.breakerFailureRateThreshold
      openMs := value.breakerOpenMs
      probesToClose := value.breakerProbesToClose }
  explorationRate := value.explorationRate
  coldStart :=
    { successRate := value.coldStartSuccessRate
      latencyScore := value.coldStartLatencyScore }

/-- `WEIGHT_TOLERANCE`. -/
def weightTolerance : ℚ := 1 / 1000000000

/-- The sum of the weights. -/
def Domain.Weights.total (weights : Weights) : Number :=
  (weights.success.add weights.latency).add weights.cost

/-- The weights do not sum to 1. -/
def Domain.Weights.unbalanced (weights : Weights) : Bool :=
  Number.lt (.fin weightTolerance) (weights.total.add (.fin (-1))).abs

/-- What the checks leave of the numbers of the routing algorithm. -/
structure Accepted (config : RoutingConfig) : Prop where
  windowMs : 0 < config.windowMs
  bucketMs : 0 < config.bucketMs
  bucketMs_le : config.bucketMs ≤ config.windowMs
  maxSamplesPerBucket : 0 < config.maxSamplesPerBucket
  minSamples : 0 < config.minSamples
  latencyCeilingMs : 0 < config.latencyCeilingMs
  openMs : 0 < config.breaker.openMs
  probesToClose : 0 < config.breaker.probesToClose
  weights : config.weights.unbalanced = false
  explorationRate_nonneg : Number.lt config.explorationRate (.fin 0) = false
  explorationRate_lt : Number.lt config.explorationRate (.fin 1) = true

/-- The configuration that the modelled functions read.  Only one that passed the
checks can be built. -/
structure Config where
  nodeEnv : String
  isTest : Bool
  outcomeStream : String
  consumerGroup : String
  deadLetterStream : String
  maxDeliveries : ℕ+
  claimMinIdleMs : ℕ+
  processedTtlSeconds : ℕ+
  metricsTimeoutMs : ℕ+
  routing : RoutingConfig
  accepted : Accepted routing
  deriving DecidableEq

/-- The integers of the schema are positive, and the rest is checked. -/
theorem RawConfig.accepted (value : RawConfig)
    (hweights : ¬ value.routing.weights.unbalanced = true)
    (hbucket : ¬ value.routing.bucketMs > value.routing.windowMs)
    (hrate : ¬ (Number.lt value.routing.explorationRate (.fin 0) ∨
      ¬ Number.lt value.routing.explorationRate (.fin 1))) : Accepted value.routing where
  windowMs := by simp [RawConfig.routing]
  bucketMs := by simp [RawConfig.routing]
  bucketMs_le := not_lt.mp hbucket
  maxSamplesPerBucket := value.maxSamplesPerBucket.pos
  minSamples := value.minSamples.pos
  latencyCeilingMs := by simp [RawConfig.routing]
  openMs := by simp [RawConfig.routing]
  probesToClose := value.breakerProbesToClose.pos
  weights := by simpa using hweights
  explorationRate_nonneg := by
    rw [not_or] at hrate
    simpa using hrate.1
  explorationRate_lt := by
    rw [not_or, not_not] at hrate
    exact hrate.2

/-- Why a configuration is refused.  `weights` carries the sum that the message
prints. -/
inductive ConfigError where
  | invalid (issues : List Issue)
  | weights (total : Number)
  | bucketLargerThanWindow
  | explorationRate
  deriving DecidableEq

/-- Reads and checks the configuration. -/
def loadConfig (env : Environment) : Except ConfigError Config :=
  match schema env with
  | .invalid issues => .error (.invalid issues)
  | .valid value =>
      let routing := value.routing
      if hweights : routing.weights.unbalanced then .error (.weights routing.weights.total)
      else if hbucket : routing.bucketMs > routing.windowMs then .error .bucketLargerThanWindow
      else if hrate : Number.lt routing.explorationRate (.fin 0) ∨
          ¬ Number.lt routing.explorationRate (.fin 1) then .error .explorationRate
      else .ok
        { nodeEnv := value.nodeEnv
          isTest := value.nodeEnv = "test"
          outcomeStream := value.outcomeStream
          consumerGroup := value.consumerGroup
          deadLetterStream := value.deadLetterStream
          maxDeliveries := value.maxDeliveries
          claimMinIdleMs := value.claimMinIdleMs
          processedTtlSeconds := value.processedTtlSeconds
          metricsTimeoutMs := value.metricsTimeoutMs
          routing := routing
          accepted := value.accepted hweights hbucket hrate }

/-! ## The configuration of an empty environment -/

/-- What `loadConfig` gives when no variable is set. -/
def defaultConfig : Config where
  nodeEnv := "development"
  isTest := false
  outcomeStream := "txn.outcomes"
  consumerGroup := "switch-consumers"
  deadLetterStream := "txn.outcomes.dead"
  maxDeliveries := 5
  claimMinIdleMs := 30000
  processedTtlSeconds := 600
  metricsTimeoutMs := 300
  routing := defaultRoutingConfig
  accepted := by
    constructor
    all_goals simp [defaultRoutingConfig]
    all_goals decide +kernel

theorem loadConfig_empty : loadConfig (fun _ => none) = .ok defaultConfig := by
  decide +kernel

end SwitchService
