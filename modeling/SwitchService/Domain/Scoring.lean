import SwitchService.Domain.Percentile
import SwitchService.Domain.Types

set_option autoImplicit false

/-!
# Domain: the channel score and the ranking (`domain/scoring.ts`)

    score = weights.success * successRate
          + weights.latency * latencyScore
          + weights.cost    * costScore

`String.prototype.localeCompare` is the collation of the host and stays a
parameter of the ranking.
-/

namespace SwitchService.Domain

open SwitchService.Foundation

/-- The cheapest and the dearest cost of a list. -/
structure CostBounds where
  min : ℚ
  max : ℚ
  deriving DecidableEq

/-- `costBounds`: no channel gives the bounds 0. -/
def costBoundsOf : List Channel → CostBounds
  | [] => { min := 0, max := 0 }
  | channel :: rest =>
      { min := (rest.map (·.cost)).foldl Min.min channel.cost
        max := (rest.map (·.cost)).foldl Max.max channel.cost }

/-- `clamp01`: what is not finite becomes 0. -/
def clamp01 : Number → ℚ
  | .fin value => if value < 0 then 0 else if value > 1 then 1 else value
  | _ => 0

/-- `Math.round`: half goes up. -/
def mathRound (value : ℚ) : ℤ := ⌊value + 1 / 2⌋

/-- `round4`: four decimal places. -/
def round4 (value : ℚ) : ℚ := mathRound (value * 10000) / 10000

/-- A cheap channel scores 1 and the dearest scores 0. -/
def costScoreOf (cost : ℚ) (bounds : CostBounds) : ℚ :=
  let spread := bounds.max - bounds.min
  if spread ≤ 0 then 1 else clamp01 (.fin (1 - (cost - bounds.min) / spread))

/-- A fast channel scores 1.  A channel at the ceiling or above scores 0. -/
def latencyScoreOf (p95Ms : Option ℚ) (config : RoutingConfig) : ℚ :=
  match p95Ms with
  | none => clamp01 config.coldStart.latencyScore
  | some p95Ms =>
      if config.latencyCeilingMs ≤ 0 then 0
      else clamp01 (.fin (1 - Min.min (p95Ms / config.latencyCeilingMs) 1))

/-- The numbers of one channel. -/
structure ScoredChannel where
  score : ℚ
  successRate : ℚ
  p95Ms : Option ℚ
  costScore : ℚ
  samples : ℚ
  coldStart : Bool
  deriving DecidableEq

/-- The weighted sum of the three parts, before it is clamped. -/
def weightedSum (weights : Weights) (successRate latencyScore costScore : ℚ) : Number :=
  ((weights.success.mul (.fin successRate)).add (weights.latency.mul (.fin latencyScore))).add
    (weights.cost.mul (.fin costScore))

/-- Scores one channel. -/
def scoreChannel (channel : Channel) (stats : ChannelStats) (config : RoutingConfig)
    (bounds : CostBounds) : ScoredChannel :=
  let samples := stats.success + stats.failure
  let coldStart := decide (samples < config.minSamples)
  let observedRate := if samples = 0 then 0 else stats.success / samples
  let successRate := if coldStart then clamp01 config.coldStart.successRate else observedRate
  let measuredP95 := p95 stats.latencySamples minSamplesForPercentile
  let latencyScore := latencyScoreOf measuredP95 config
  let costScore := costScoreOf channel.cost bounds
  { score := round4 (clamp01 (weightedSum config.weights successRate latencyScore costScore))
    successRate := round4 successRate
    p95Ms := measuredP95
    costScore := round4 costScore
    samples := samples
    coldStart := coldStart }

/-- Whether a channel may be chosen, and why not. -/
def eligibilityOf (channel : Channel) (breakerState : BreakerState) : Bool × Option String :=
  if channel.enabled = false then (false, some "channel-disabled")
  else if breakerState = .opened then (false, some "breaker-open")
  else (true, none)

/-- The candidate of one channel, before it is ranked. -/
def candidateOf (statsById : String → Option ChannelStats)
    (breakersById : String → Option BreakerSnapshot) (config : RoutingConfig)
    (bounds : CostBounds) (channel : Channel) : Candidate :=
  let stats := (statsById channel.id).getD (emptyStats channel.id)
  let breakerState := ((breakersById channel.id).map (·.state)).getD .closed
  let result := scoreChannel channel stats config bounds
  let eligibility := eligibilityOf channel breakerState
  { channelId := channel.id
    rank := 0
    score := result.score
    successRate := result.successRate
    p95Ms := result.p95Ms
    costScore := result.costScore
    breakerState := breakerState
    samples := result.samples
    coldStart := result.coldStart
    eligible := eligibility.1
    ineligibleReason := eligibility.2 }

/-- The comparison function of the sort. -/
def compareCandidates (localeCompare : String → String → Ordering) (a b : Candidate) :
    Ordering :=
  if a.eligible ≠ b.eligible then (if a.eligible then .lt else .gt)
  else if b.score ≠ a.score then (if b.score - a.score < 0 then .lt else .gt)
  else localeCompare a.channelId b.channelId

/-- Scores every channel and puts them in order. -/
def buildCandidates (localeCompare : String → String → Ordering) (channels : List Channel)
    (statsById : String → Option ChannelStats)
    (breakersById : String → Option BreakerSnapshot) (config : RoutingConfig) :
    List Candidate :=
  let bounds := costBoundsOf channels
  let scored := channels.map (candidateOf statsById breakersById config bounds)
  let sorted := scored.insertionSort fun a b => compareCandidates localeCompare a b ≠ .gt
  sorted.mapIdx fun index candidate => { candidate with rank := index + 1 }

/-! ## What the ranking keeps of each channel -/

section

variable {localeCompare : String → String → Ordering} {channels : List Channel}
  {statsById : String → Option ChannelStats}
  {breakersById : String → Option BreakerSnapshot} {config : RoutingConfig}

/-- A candidate is the candidate of a listed channel with a rank. -/
theorem mem_buildCandidates {candidate : Candidate}
    (h : candidate ∈ buildCandidates localeCompare channels statsById breakersById config) :
    ∃ channel ∈ channels, ∃ rank, candidate =
      { candidateOf statsById breakersById config (costBoundsOf channels) channel with
        rank := rank } := by
  simp only [buildCandidates, List.mem_mapIdx] at h
  obtain ⟨i, hi, rfl⟩ := h
  have hmem := List.getElem_mem hi
  rw [List.mem_insertionSort, List.mem_map] at hmem
  obtain ⟨channel, hchannel, heq⟩ := hmem
  exact ⟨channel, hchannel, i + 1, by rw [heq]⟩

/-- A candidate shows the breaker of its channel. -/
theorem buildCandidates_breakerState {candidate : Candidate}
    (h : candidate ∈ buildCandidates localeCompare channels statsById breakersById config) :
    (∃ channel ∈ channels, channel.id = candidate.channelId) ∧
      candidate.breakerState =
        ((breakersById candidate.channelId).map (·.state)).getD .closed := by
  obtain ⟨channel, hchannel, rank, rfl⟩ := mem_buildCandidates h
  exact ⟨⟨channel, hchannel, rfl⟩, rfl⟩

/-- An eligible candidate has a breaker that is not OPEN. -/
theorem buildCandidates_eligible {candidate : Candidate}
    (h : candidate ∈ buildCandidates localeCompare channels statsById breakersById config)
    (heligible : candidate.eligible = true) : candidate.breakerState ≠ .opened := by
  obtain ⟨channel, hchannel, rank, rfl⟩ := mem_buildCandidates h
  simp only [candidateOf, eligibilityOf] at heligible ⊢
  split at heligible
  · simp at heligible
  · split at heligible
    · simp at heligible
    · rename_i hopened
      exact hopened

end

end SwitchService.Domain
