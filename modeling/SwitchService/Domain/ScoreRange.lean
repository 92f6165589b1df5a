import SwitchService.Config
import SwitchService.Domain.Dominance

set_option autoImplicit false

/-!
# Domain: the range of the weighted sum under an accepted configuration

The check of the weights is one equation.  Each part of the score takes both its ends, so
the sum takes its least value where the parts of the negative weights are 1 and the others
0, and its largest the other way round.  The sum of the weights says neither.
-/

namespace SwitchService.Domain

open SwitchService.Foundation

/-! ## The weighted sum of one channel -/

/-- The part of the score for the success rate, as `scoreChannel` takes it. -/
def scoredRate (stats : ChannelStats) (config : RoutingConfig) : ℚ :=
  if stats.payouts < config.minSamples then clamp01 config.coldStart.successRate
  else stats.successRate

/-- The part of the score for the latency, as `scoreChannel` takes it. -/
def scoredLatency (stats : ChannelStats) (config : RoutingConfig) : ℚ :=
  latencyScoreOf (p95 stats.latencySamples minSamplesForPercentile) config

/-- The weighted sum that `scoreChannel` computes before it clamps. -/
def unclampedScore (channel : Channel) (stats : ChannelStats) (config : RoutingConfig)
    (bounds : CostBounds) : Number :=
  weightedSum config.weights (scoredRate stats config) (scoredLatency stats config)
    (costScoreOf channel.cost bounds)

theorem scoreChannel_score (channel : Channel) (stats : ChannelStats) (config : RoutingConfig)
    (bounds : CostBounds) : (scoreChannel channel stats config bounds).score =
      round4 (clamp01 (unclampedScore channel stats config bounds)) := by
  simp only [scoreChannel, unclampedScore, scoredRate, scoredLatency, decide_eq_true_eq]
  rfl

theorem scoredRate_mem {stats : ChannelStats} (h : stats.Counted) (config : RoutingConfig) :
    scoredRate stats config ∈ Set.Icc (0 : ℚ) 1 := by
  unfold scoredRate
  split
  · exact clamp01_mem _
  · exact observedRate_mem h.1 h.2

theorem scoredLatency_mem (stats : ChannelStats) (config : RoutingConfig) :
    scoredLatency stats config ∈ Set.Icc (0 : ℚ) 1 := by
  unfold scoredLatency latencyScoreOf
  split
  · exact clamp01_mem _
  · split
    · exact ⟨le_refl 0, zero_le_one⟩
    · exact clamp01_mem _

/-! ## What the range should be -/

/-- A number that the clamp changes by at most the tolerance. -/
def NearUnit (sum : Number) : Prop :=
  ∃ v, sum = .fin v ∧ -weightTolerance ≤ v ∧ v ≤ 1 + weightTolerance

/-- The score means what it says: no sum leaves the range, and so no two sums that differ
by more than the tolerance are clamped to one. -/
structure ScoreMeaningful (config : RoutingConfig) : Prop where
  range : ∀ (channels : List Channel), ∀ channel ∈ channels, ∀ stats : ChannelStats,
    stats.Counted → NearUnit (unclampedScore channel stats config (costBoundsOf channels))
  apart : ∀ (channels : List Channel), ∀ a ∈ channels, ∀ b ∈ channels,
    ∀ aStats bStats : ChannelStats, aStats.Counted → bStats.Counted → ∀ v w : ℚ,
      unclampedScore a aStats config (costBoundsOf channels) = .fin v →
      unclampedScore b bStats config (costBoundsOf channels) = .fin w →
      clamp01 (.fin v) = clamp01 (.fin w) → |v - w| ≤ weightTolerance

/-- The weights are finite, the negative ones sum to hardly less than 0 and the positive
ones to hardly more than 1. -/
def Weights.Balanced (weights : Weights) : Prop :=
  ∃ ws wl wc, weights = ⟨.fin ws, .fin wl, .fin wc⟩ ∧
    -weightTolerance ≤ min ws 0 + min wl 0 + min wc 0 ∧
    max ws 0 + max wl 0 + max wc 0 ≤ 1 + weightTolerance

/-! ## Balanced weights are enough -/

theorem mul_mem_of_unit {x : ℚ} (h : x ∈ Set.Icc (0 : ℚ) 1) (w : ℚ) :
    min w 0 ≤ w * x ∧ w * x ≤ max w 0 := by
  obtain ⟨h0, h1⟩ := h
  rcases le_total 0 w with hw | hw
  · rw [min_eq_right hw, max_eq_left hw]
    exact ⟨mul_nonneg hw h0, mul_le_of_le_one_right hw h1⟩
  · rw [min_eq_left hw, max_eq_right hw]
    exact ⟨le_mul_of_le_one_right hw h1, mul_nonpos_of_nonpos_of_nonneg hw h0⟩

theorem nearUnit_of_balanced {config : RoutingConfig} (h : config.weights.Balanced)
    (channel : Channel) {stats : ChannelStats} (hstats : stats.Counted) (bounds : CostBounds) :
    NearUnit (unclampedScore channel stats config bounds) := by
  obtain ⟨ws, wl, wc, hweights, hlow, hhigh⟩ := h
  refine ⟨_, weightedSum_eq_fin.mpr ⟨ws, wl, wc, hweights, rfl⟩, ?_⟩
  have hs := mul_mem_of_unit (scoredRate_mem hstats config) ws
  have hl := mul_mem_of_unit (scoredLatency_mem stats config) wl
  have hc := mul_mem_of_unit (costScoreOf_mem channel.cost bounds) wc
  constructor
  · linarith [hs.1, hl.1, hc.1]
  · linarith [hs.2, hl.2, hc.2]

/-- Within the range, one clamped value stands for sums that are close. -/
theorem abs_sub_le_of_clamp01_eq {v w : ℚ} (hv : NearUnit (.fin v)) (hw : NearUnit (.fin w))
    (h : clamp01 (.fin v) = clamp01 (.fin w)) : |v - w| ≤ weightTolerance := by
  obtain ⟨_, hveq, hv0, hv1⟩ := hv
  obtain ⟨_, hweq, hw0, hw1⟩ := hw
  cases hveq
  cases hweq
  have htolerance : (0 : ℚ) < weightTolerance := by decide +kernel
  have hone : weightTolerance < 1 := by decide +kernel
  unfold clamp01 at h
  dsimp only at h
  rw [abs_le]
  split at h
  · split at h
    · constructor <;> linarith
    · split at h
      · norm_num at h
      · constructor <;> linarith
  · split at h
    · split at h
      · norm_num at h
      · split at h
        · constructor <;> linarith
        · constructor <;> linarith
    · split at h
      · constructor <;> linarith
      · split at h
        · constructor <;> linarith
        · constructor <;> linarith

theorem scoreMeaningful_of_balanced {config : RoutingConfig} (h : config.weights.Balanced) :
    ScoreMeaningful config where
  range channels channel _ stats hstats := nearUnit_of_balanced h channel hstats _
  apart channels a _ b _ aStats bStats ha hb v w hv hw hclamp := by
    have hv' := nearUnit_of_balanced h a ha (costBoundsOf channels)
    have hw' := nearUnit_of_balanced h b hb (costBoundsOf channels)
    rw [hv] at hv'
    rw [hw] at hw'
    exact abs_sub_le_of_clamp01_eq hv' hw' hclamp

/-! ## Every corner is reached -/

/-- The end of the unit interval that a bit names. -/
def corner (bit : Bool) : ℚ := if bit then 1 else 0

/-- A window whose payouts all end one way, with five equal latencies. -/
def cornerStats (config : RoutingConfig) (rate latency : Bool) : ChannelStats where
  channelId := ""
  success := if rate then config.minSamples else 0
  failure := if rate then 0 else config.minSamples
  latencySamples := List.replicate 5 (.fin (if latency then 0 else config.latencyCeilingMs))

/-- A cheap and a dear channel. -/
def cornerChannel (cost : Bool) : Channel where
  id := if cost then "cheap" else "dear"
  name := ""
  cost := if cost then 1 else 2
  enabled := true

/-- The two corners of the cost scale. -/
def cornerChannels : List Channel := [cornerChannel true, cornerChannel false]

theorem cornerChannel_mem (cost : Bool) : cornerChannel cost ∈ cornerChannels := by
  cases cost with
  | true => exact List.mem_cons_self
  | false => exact List.mem_cons_of_mem _ List.mem_cons_self

theorem cornerStats_counted (config : RoutingConfig) (rate latency : Bool) :
    (cornerStats config rate latency).Counted := by
  cases rate with
  | true => exact ⟨Nat.cast_nonneg _, le_refl 0⟩
  | false => exact ⟨le_refl 0, Nat.cast_nonneg _⟩

theorem costScoreOf_corner (cost : Bool) :
    costScoreOf (cornerChannel cost).cost (costBoundsOf cornerChannels) = corner cost := by
  cases cost with
  | true => decide +kernel
  | false => decide +kernel

theorem p95_replicate {x : ℚ} (hx : 0 ≤ x) :
    p95 (List.replicate 5 (.fin x)) minSamplesForPercentile = some x := by
  have hclean : latenciesOf (List.replicate 5 (.fin x)) = List.replicate 5 x := by
    simp [latenciesOf, latencyOf_fin hx]
  have hpos : (0 : ℚ) < 95 / 100 := by norm_num
  have hone : (95 / 100 : ℚ) ≤ 1 := by norm_num
  obtain ⟨k, hk, _, hvalue⟩ := percentile_enough hpos hone (by decide)
    (show minSamplesForPercentile ≤ (latenciesOf (List.replicate 5 (.fin x))).length by
      rw [hclean, List.length_replicate]
      exact le_refl 5)
  have hentry : ∀ y ∈ latenciesOf (List.replicate 5 (.fin x)), y = x := by
    rw [hclean]
    exact fun y hy => List.eq_of_mem_replicate hy
  unfold p95
  rw [hvalue, hentry _ ((List.mem_insertionSort _).mp (List.getElem_mem hk))]
  rfl

theorem scoredLatency_corner {config : RoutingConfig} (hceiling : 0 < config.latencyCeilingMs)
    (rate latency : Bool) : scoredLatency (cornerStats config rate latency) config =
      corner latency := by
  unfold scoredLatency cornerStats
  cases latency with
  | true =>
      rw [p95_replicate (by simp)]
      simp [latencyScoreOf, not_le.mpr hceiling, clamp01, corner]
  | false =>
      rw [p95_replicate (by simpa using hceiling.le)]
      simp [latencyScoreOf, not_le.mpr hceiling, div_self hceiling.ne', clamp01, corner]

theorem scoredRate_corner {config : RoutingConfig} (hmin : 0 < config.minSamples)
    (rate latency : Bool) : scoredRate (cornerStats config rate latency) config =
      corner rate := by
  have hne : (config.minSamples : ℚ) ≠ 0 := by exact_mod_cast hmin.ne'
  cases rate with
  | true => simp [scoredRate, cornerStats, ChannelStats.payouts, ChannelStats.successRate,
      hne, corner]
  | false => simp [scoredRate, cornerStats, ChannelStats.payouts, ChannelStats.successRate,
      hne, corner]

/-- The sum at the corner of the parts. -/
theorem unclampedScore_corner {config : RoutingConfig} (h : Accepted config)
    (rate latency cost : Bool) :
    unclampedScore (cornerChannel cost) (cornerStats config rate latency) config
        (costBoundsOf cornerChannels) =
      weightedSum config.weights (corner rate) (corner latency) (corner cost) := by
  rw [unclampedScore, scoredRate_corner h.minSamples, scoredLatency_corner h.latencyCeilingMs,
    costScoreOf_corner]

theorem mul_corner_neg (w : ℚ) : w * corner (decide (w < 0)) = min w 0 := by
  unfold corner
  rcases lt_or_ge w 0 with hw | hw
  · simp [hw, hw.le]
  · simp [not_lt.mpr hw, hw]

theorem mul_corner_pos (w : ℚ) : w * corner (decide (0 < w)) = max w 0 := by
  unfold corner
  rcases lt_or_ge 0 w with hw | hw
  · simp [hw, hw.le]
  · simp [not_lt.mpr hw, hw]

/-- Only balanced weights keep every corner in the range. -/
theorem balanced_of_scoreMeaningful {config : RoutingConfig} (h : Accepted config)
    (hscore : ScoreMeaningful config) : config.weights.Balanced := by
  have hcorner : ∀ rate latency cost,
      NearUnit (weightedSum config.weights (corner rate) (corner latency) (corner cost)) := by
    intro rate latency cost
    rw [← unclampedScore_corner h]
    exact hscore.range _ _ (cornerChannel_mem cost) _ (cornerStats_counted config rate latency)
  obtain ⟨v, hv, _, _⟩ := hcorner false false false
  obtain ⟨ws, wl, wc, hweights, _⟩ := weightedSum_eq_fin.mp hv
  have hsum : ∀ rate latency cost,
      -weightTolerance ≤ ws * corner rate + wl * corner latency + wc * corner cost ∧
        ws * corner rate + wl * corner latency + wc * corner cost ≤ 1 + weightTolerance := by
    intro rate latency cost
    obtain ⟨v, hv, hlow, hhigh⟩ := hcorner rate latency cost
    rw [weightedSum_eq_fin.mpr ⟨ws, wl, wc, hweights, rfl⟩, Number.fin.injEq] at hv
    rw [hv]
    exact ⟨hlow, hhigh⟩
  refine ⟨ws, wl, wc, hweights, ?_, ?_⟩
  · have hlow := (hsum (decide (ws < 0)) (decide (wl < 0)) (decide (wc < 0))).1
    rwa [mul_corner_neg, mul_corner_neg, mul_corner_neg] at hlow
  · have hhigh := (hsum (decide (0 < ws)) (decide (0 < wl)) (decide (0 < wc))).2
    rwa [mul_corner_pos, mul_corner_pos, mul_corner_pos] at hhigh

/-! ## The configurations that `loadConfig` accepts -/

/-- Under an accepted configuration the score means what it says exactly when the weights
are balanced. -/
theorem scoreMeaningful_iff_balanced {env : Environment} {config : Config}
    (_h : loadConfig env = .ok config) :
    ScoreMeaningful config.routing ↔ config.routing.weights.Balanced :=
  ⟨balanced_of_scoreMeaningful config.accepted, scoreMeaningful_of_balanced⟩

/-- The latency counts for as much as the success rate, and the cost for nothing. -/
def evenWeightsEnv (name : String) : Option String :=
  if name = "WEIGHT_SUCCESS" then some "0.5"
  else if name = "WEIGHT_LATENCY" then some "0.5"
  else if name = "WEIGHT_COST" then some "0"
  else none

/-- An environment with weights of its own is accepted, and they are balanced. -/
theorem scoreMeaningful_iff_balanced_at : ∃ config, loadConfig evenWeightsEnv = .ok config ∧
    config.routing.weights = ⟨.fin (1 / 2), .fin (1 / 2), .fin 0⟩ ∧
    ScoreMeaningful config.routing := by
  have hok : (loadConfig evenWeightsEnv).toOption.map (·.routing.weights) =
      some ⟨.fin (1 / 2), .fin (1 / 2), .fin 0⟩ := by
    decide +kernel
  cases hload : loadConfig evenWeightsEnv with
  | error e =>
      rw [hload] at hok
      cases hok
  | ok config =>
      rw [hload] at hok
      have hweights := Option.some.inj hok
      refine ⟨config, rfl, hweights, (scoreMeaningful_iff_balanced hload).mpr ?_⟩
      exact ⟨1 / 2, 1 / 2, 0, hweights, by decide +kernel, by decide +kernel⟩

/-- Weights that sum to 1, one of them negative. -/
def negativeCostEnv (name : String) : Option String :=
  if name = "WEIGHT_SUCCESS" then some "2"
  else if name = "WEIGHT_LATENCY" then some "0"
  else if name = "WEIGHT_COST" then some "-1"
  else none

/-- The weights of `negativeCostEnv` pass every check. -/
theorem loadConfig_negativeCostEnv : ∃ config, loadConfig negativeCostEnv = .ok config ∧
    config.routing.weights = ⟨.fin 2, .fin 0, .fin (-1)⟩ := by
  have hok : (loadConfig negativeCostEnv).toOption.map (·.routing.weights) =
      some ⟨.fin 2, .fin 0, .fin (-1)⟩ := by
    decide +kernel
  cases hload : loadConfig negativeCostEnv with
  | error e =>
      rw [hload] at hok
      cases hok
  | ok config =>
      rw [hload] at hok
      exact ⟨config, rfl, Option.some.inj hok⟩

/-- Two channels whose sums are 2 and 1, under an accepted configuration, are both clamped
to 1. -/
theorem scoreMeaningful_negativeCostEnv : ∃ config, loadConfig negativeCostEnv = .ok config ∧
    unclampedScore (cornerChannel false) (cornerStats config.routing true false)
        config.routing (costBoundsOf cornerChannels) = .fin 2 ∧
      unclampedScore (cornerChannel true) (cornerStats config.routing true false)
        config.routing (costBoundsOf cornerChannels) = .fin 1 ∧
      clamp01 (.fin 2) = clamp01 (.fin 1) ∧ ¬ ScoreMeaningful config.routing := by
  obtain ⟨config, hload, hweights⟩ := loadConfig_negativeCostEnv
  have htwo : unclampedScore (cornerChannel false) (cornerStats config.routing true false)
      config.routing (costBoundsOf cornerChannels) = .fin 2 := by
    rw [unclampedScore_corner config.accepted, hweights]
    decide +kernel
  have hone : unclampedScore (cornerChannel true) (cornerStats config.routing true false)
      config.routing (costBoundsOf cornerChannels) = .fin 1 := by
    rw [unclampedScore_corner config.accepted, hweights]
    decide +kernel
  refine ⟨config, hload, htwo, hone, by decide +kernel, fun hscore => ?_⟩
  obtain ⟨v, hv, _, hhigh⟩ := hscore.range _ _ (cornerChannel_mem false) _
    (cornerStats_counted config.routing true false)
  rw [htwo, Number.fin.injEq] at hv
  subst hv
  exact absurd hhigh (by decide +kernel)

end SwitchService.Domain
