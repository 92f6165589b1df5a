import SwitchService.Domain.Canonical
import SwitchService.Domain.NearestRank

set_option autoImplicit false

/-!
# Domain: a channel that is better in every part (`domain/scoring.ts`)

Each part of the score moves one way: up with the success rate, down with the latencies
and down with the cost.  Under weights that are not negative the clamp and the rounding
keep that direction, so a channel that is at least as good in every part is not ranked
behind.
-/

namespace SwitchService.Domain

open SwitchService.Foundation

/-! ## The parts of the score move one way -/

theorem clamp01_mono {x y : ℚ} (h : x ≤ y) : clamp01 (.fin x) ≤ clamp01 (.fin y) := by
  unfold clamp01
  dsimp only
  by_cases hx : x < 0
  · rw [if_pos hx]
    split
    · exact le_refl 0
    · rename_i hy
      split
      · exact zero_le_one
      · exact not_lt.mp hy
  · have hy : ¬ y < 0 := fun hlt => hx (h.trans_lt hlt)
    rw [if_neg hx, if_neg hy]
    by_cases hy1 : y > 1
    · rw [if_pos hy1]
      split
      · exact le_refl 1
      · rename_i hx1
        exact not_lt.mp hx1
    · have hx1 : ¬ x > 1 := fun hlt => hy1 (lt_of_lt_of_le hlt h)
      rw [if_neg hy1, if_neg hx1]
      exact h

theorem round4_mono {x y : ℚ} (h : x ≤ y) : round4 x ≤ round4 y := by
  have hfloor : mathRound (x * 10000) ≤ mathRound (y * 10000) := by
    unfold mathRound
    exact Int.floor_le_floor (by linarith)
  have hfloor' : (mathRound (x * 10000) : ℚ) ≤ mathRound (y * 10000) := by exact_mod_cast hfloor
  unfold round4
  exact div_le_div_of_nonneg_right hfloor' (by norm_num)

theorem costScoreOf_anti {cost cost' : ℚ} (h : cost ≤ cost') (bounds : CostBounds) :
    costScoreOf cost' bounds ≤ costScoreOf cost bounds := by
  unfold costScoreOf
  dsimp only
  split
  · exact le_refl 1
  · rename_i hspread
    refine clamp01_mono ?_
    have hdiv : (cost - bounds.min) / (bounds.max - bounds.min) ≤
        (cost' - bounds.min) / (bounds.max - bounds.min) :=
      div_le_div_of_nonneg_right (by linarith) (not_le.mp hspread).le
    linarith

theorem latencyScoreOf_anti {p95Ms p95Ms' : ℚ} (h : p95Ms ≤ p95Ms') (config : RoutingConfig) :
    latencyScoreOf (some p95Ms') config ≤ latencyScoreOf (some p95Ms) config := by
  unfold latencyScoreOf
  dsimp only
  split
  · exact le_refl 0
  · rename_i hceiling
    refine clamp01_mono ?_
    have hdiv : p95Ms / config.latencyCeilingMs ≤ p95Ms' / config.latencyCeilingMs :=
      div_le_div_of_nonneg_right h (not_le.mp hceiling).le
    have hmin := min_le_min_right (1 : ℚ) hdiv
    linarith

/-! ## The weighted sum -/

/-- The sum is finite exactly under finite weights. -/
theorem weightedSum_eq_fin {weights : Weights} {successRate latencyScore costScore v : ℚ} :
    weightedSum weights successRate latencyScore costScore = .fin v ↔
      ∃ ws wl wc, weights = ⟨.fin ws, .fin wl, .fin wc⟩ ∧
        v = ws * successRate + wl * latencyScore + wc * costScore := by
  constructor
  · intro h
    obtain ⟨x, y, hx, hy, rfl⟩ := Number.add_eq_fin h
    obtain ⟨x, z, hx', hz, rfl⟩ := Number.add_eq_fin hx
    obtain ⟨ws, hws, rfl⟩ := Number.mul_fin_eq_fin hx'
    obtain ⟨wl, hwl, rfl⟩ := Number.mul_fin_eq_fin hz
    obtain ⟨wc, hwc, rfl⟩ := Number.mul_fin_eq_fin hy
    refine ⟨ws, wl, wc, ?_, rfl⟩
    cases weights
    simp_all
  · rintro ⟨ws, wl, wc, rfl, rfl⟩
    simp [weightedSum]

/-- No weight is negative. -/
structure Weights.Nonneg (weights : Weights) : Prop where
  success : Number.le (.fin 0) weights.success = true
  latency : Number.le (.fin 0) weights.latency = true
  cost : Number.le (.fin 0) weights.cost = true

/-- Under weights that are not negative, better parts give no smaller a clamped sum. -/
theorem clamp01_weightedSum_mono {weights : Weights} (hweights : weights.Nonneg)
    {s s' l l' c c' : ℚ} (hs : s ≤ s') (hl : l ≤ l') (hc : c ≤ c') :
    clamp01 (weightedSum weights s l c) ≤ clamp01 (weightedSum weights s' l' c') := by
  cases hsum : weightedSum weights s l c with
  | fin v =>
      obtain ⟨ws, wl, wc, rfl, rfl⟩ := weightedSum_eq_fin.mp hsum
      rw [weightedSum_eq_fin.mpr ⟨ws, wl, wc, rfl, rfl⟩]
      obtain ⟨hws, hwl, hwc⟩ := hweights
      simp only [Number.le_fin, decide_eq_true_eq] at hws hwl hwc
      have h1 := mul_le_mul_of_nonneg_left hs hws
      have h2 := mul_le_mul_of_nonneg_left hl hwl
      have h3 := mul_le_mul_of_nonneg_left hc hwc
      exact clamp01_mono (by linarith)
  -- A sum that is not finite is clamped to 0.
  | nan => exact (clamp01_mem _).1
  | negInf => exact (clamp01_mem _).1
  | posInf => exact (clamp01_mem _).1

/-! ## Better in every part -/

/-- The window of a channel, as `buildCandidates` takes it. -/
def statsOf (statsById : String → Option ChannelStats) (id : String) : ChannelStats :=
  (statsById id).getD (emptyStats id)

/-- The payouts of a window. -/
def ChannelStats.payouts (stats : ChannelStats) : ℚ := stats.success + stats.failure

/-- The share of successes of a window. -/
def ChannelStats.successRate (stats : ChannelStats) : ℚ :=
  if stats.payouts = 0 then 0 else stats.success / stats.payouts

/-- Channel `a` is out of cold start like `b`, and at least as good in every part. -/
structure Dominates (config : RoutingConfig) (a b : Channel) (aStats bStats : ChannelStats) :
    Prop where
  warm : (config.minSamples : ℚ) ≤ aStats.payouts
  warm' : (config.minSamples : ℚ) ≤ bStats.payouts
  successRate : bStats.successRate ≤ aStats.successRate
  cost : a.cost ≤ b.cost
  enough : 5 ≤ (latenciesOf aStats.latencySamples).length
  /-- The latencies, sorted, one by one; so there are equally many. -/
  latencies : List.Forall₂ (· ≤ ·)
    ((latenciesOf aStats.latencySamples).insertionSort (· ≤ ·))
    ((latenciesOf bStats.latencySamples).insertionSort (· ≤ ·))

section

variable {config : RoutingConfig} {a b : Channel} {aStats bStats : ChannelStats}

/-- The p95 of the better channel is not larger. -/
theorem Dominates.p95 (h : Dominates config a b aStats bStats) :
    ∃ v v', p95 aStats.latencySamples minSamplesForPercentile = some v ∧
      p95 bStats.latencySamples minSamplesForPercentile = some v' ∧ v ≤ v' := by
  have hlength := h.latencies.length_eq
  rw [List.length_insertionSort, List.length_insertionSort] at hlength
  have hpos : (0 : ℚ) < 95 / 100 := by norm_num
  have hone : (95 / 100 : ℚ) ≤ 1 := by norm_num
  obtain ⟨k, hk, _, hvalue⟩ := percentile_enough hpos hone (by decide)
    (show minSamplesForPercentile ≤ _ from h.enough)
  obtain ⟨v', hvalue', hle⟩ := percentile_mono hpos hone (by decide) hlength
    (fun k hk hk' => h.latencies.get hk hk') hvalue
  refine ⟨_, v', ?_, ?_, hle⟩
  · unfold Domain.p95
    rw [hvalue]
    rfl
  · unfold Domain.p95
    rw [hvalue']
    rfl

/-- The score of the better channel is not smaller. -/
theorem Dominates.score_le (h : Dominates config a b aStats bStats)
    (hweights : config.weights.Nonneg) (bounds : CostBounds) :
    (scoreChannel b bStats config bounds).score ≤
      (scoreChannel a aStats config bounds).score := by
  obtain ⟨v, v', hv, hv', hle⟩ := h.p95
  have hwarm : ¬ aStats.success + aStats.failure < config.minSamples := not_lt.mpr h.warm
  have hwarm' : ¬ bStats.success + bStats.failure < config.minSamples := not_lt.mpr h.warm'
  unfold scoreChannel
  simp only [hwarm, hwarm', hv, hv', decide_false, Bool.false_eq_true, if_false]
  exact round4_mono (clamp01_weightedSum_mono hweights h.successRate
    (latencyScoreOf_anti hle config) (costScoreOf_anti h.cost bounds))

end

/-! ## The better channel in the ranking -/

/-- The candidate of a channel of a list, before it is ranked. -/
abbrev listedCandidate (channels : List Channel) (statsById : String → Option ChannelStats)
    (breakersById : String → Option BreakerSnapshot) (config : RoutingConfig)
    (channel : Channel) : Candidate :=
  candidateOf statsById breakersById config (costBoundsOf channels) channel

section

variable {localeCompare : String → String → Ordering} {channels : List Channel}
  {statsById : String → Option ChannelStats}
  {breakersById : String → Option BreakerSnapshot} {config : RoutingConfig}

/-- Every channel of the list has its candidate in the ranking. -/
theorem exists_mem_buildCandidates {channel : Channel} (h : channel ∈ channels) :
    ∃ rank, { listedCandidate channels statsById breakersById config channel with
      rank := rank } ∈
        buildCandidates localeCompare channels statsById breakersById config := by
  have hmem : listedCandidate channels statsById breakersById config channel ∈
      sortedCandidates localeCompare channels statsById breakersById config :=
    sortedCandidates_perm.mem_iff.mpr (List.mem_map_of_mem h)
  obtain ⟨i, hi, heq⟩ := List.getElem_of_mem hmem
  rw [buildCandidates_eq_mapIdx]
  exact ⟨i + 1, List.mem_mapIdx.mpr ⟨i, hi, by rw [heq]⟩⟩

/-- A candidate that the comparison puts before another has the smaller rank. -/
theorem rank_lt_of_compare
    (h : ConsistentOn localeCompare {id | id ∈ channels.map (·.id)}) {c d : Candidate}
    (hc : c ∈ buildCandidates localeCompare channels statsById breakersById config)
    (hd : d ∈ buildCandidates localeCompare channels statsById breakersById config)
    (hlt : compareCandidates localeCompare c d = .lt) : c.rank < d.rank := by
  have horder : ConsistentOn (compareCandidates localeCompare)
      {c | c.channelId ∈ channels.map (·.id)} :=
    consistentOn_compareCandidates h fun c hc => hc
  have hids : ∀ c ∈ buildCandidates localeCompare channels statsById breakersById config,
      c.channelId ∈ channels.map (·.id) := fun c hc =>
    buildCandidates_ids.mem_iff.mp (List.mem_map_of_mem (f := (·.channelId)) hc)
  have hsorted : (buildCandidates localeCompare channels statsById breakersById config).Pairwise
      (NotAfter (compareCandidates localeCompare)) := by
    refine pairwise_buildCandidates (fun _ _ _ _ h => h) (horder.pairwise_insertionSort ?_)
    intro c hc
    obtain ⟨channel, hchannel, rfl⟩ := List.mem_map.mp hc
    exact List.mem_map_of_mem (f := (·.id)) hchannel
  obtain ⟨i, hi, rfl⟩ := List.getElem_of_mem hc
  obtain ⟨j, hj, rfl⟩ := List.getElem_of_mem hd
  have hij := horder.getElem_lt hsorted hids hi hj hlt
  rw [rank_getElem buildCandidates_ranks hi, rank_getElem buildCandidates_ranks hj]
  omega

/-- A channel that is better in every part has no smaller score.  It stands before the
other, unless the scores are equal and the identifier of the other is smaller. -/
theorem buildCandidates_dominates
    (h : StrictOrderOn localeCompare {id | id ∈ channels.map (·.id)})
    (hweights : config.weights.Nonneg) {a b : Channel} (ha : a ∈ channels) (hb : b ∈ channels)
    (hids : a.id ≠ b.id)
    (heligible : (listedCandidate channels statsById breakersById config a).eligible =
      (listedCandidate channels statsById breakersById config b).eligible)
    (hbetter : Dominates config a b (statsOf statsById a.id) (statsOf statsById b.id)) :
    (listedCandidate channels statsById breakersById config b).score ≤
        (listedCandidate channels statsById breakersById config a).score ∧
      (∃ rank, { listedCandidate channels statsById breakersById config a with
        rank := rank } ∈
          buildCandidates localeCompare channels statsById breakersById config) ∧
      (∃ rank, { listedCandidate channels statsById breakersById config b with
        rank := rank } ∈
          buildCandidates localeCompare channels statsById breakersById config) ∧
      ∀ rank rank',
        { listedCandidate channels statsById breakersById config a with rank := rank } ∈
          buildCandidates localeCompare channels statsById breakersById config →
        { listedCandidate channels statsById breakersById config b with rank := rank' } ∈
          buildCandidates localeCompare channels statsById breakersById config →
        rank < rank' ∨
          ((listedCandidate channels statsById breakersById config b).score =
              (listedCandidate channels statsById breakersById config a).score ∧
            localeCompare b.id a.id = .lt) := by
  have hscore : (listedCandidate channels statsById breakersById config b).score ≤
      (listedCandidate channels statsById breakersById config a).score :=
    hbetter.score_le hweights _
  refine ⟨hscore, exists_mem_buildCandidates ha, exists_mem_buildCandidates hb, ?_⟩
  intro rank rank' hc hd
  have haid : a.id ∈ channels.map (·.id) := List.mem_map_of_mem (f := (·.id)) ha
  have hbid : b.id ∈ channels.map (·.id) := List.mem_map_of_mem (f := (·.id)) hb
  rcases hscore.lt_or_eq with hlt | heq
  · left
    exact rank_lt_of_compare h.toConsistentOn hc hd
      (compareCandidates_eq_lt.mpr (.inr ⟨heligible, .inl hlt⟩))
  · cases hcompare : localeCompare a.id b.id with
    | lt =>
        left
        exact rank_lt_of_compare h.toConsistentOn hc hd
          (compareCandidates_eq_lt.mpr (.inr ⟨heligible, .inr ⟨heq.symm, hcompare⟩⟩))
    | eq => exact absurd ((h.eq_iff _ haid _ hbid).mp hcompare) hids
    | gt =>
        right
        refine ⟨heq, ?_⟩
        rw [h.swap _ haid _ hbid, hcompare]
        rfl

end

/-- The windows of two of the four channels, one better in every part. -/
def twoWindows (id : String) : Option ChannelStats :=
  if id = "c" then
    some { channelId := "c", success := 19, failure := 1
           latencySamples := List.replicate 5 (.fin 100) }
  else if id = "d" then
    some { channelId := "d", success := 18, failure := 2
           latencySamples := List.replicate 5 (.fin 300) }
  else none

/-- The theorem at two of four channels. -/
theorem buildCandidates_dominates_at :
    (listedCandidate fourChannels twoWindows (fun _ => none) defaultRoutingConfig
        { id := "d", name := "D", cost := 5, enabled := true }).score ≤
      (listedCandidate fourChannels twoWindows (fun _ => none) defaultRoutingConfig
        { id := "c", name := "C", cost := 2, enabled := true }).score := by
  have horder : StrictOrderOn compare {id | id ∈ fourChannels.map (·.id)} :=
    strictOrderOn_of_lawful _
  have hweights : defaultRoutingConfig.weights.Nonneg :=
    ⟨by decide +kernel, by decide +kernel, by decide +kernel⟩
  have hbetter : Dominates defaultRoutingConfig
      { id := "c", name := "C", cost := 2, enabled := true }
      { id := "d", name := "D", cost := 5, enabled := true }
      (statsOf twoWindows "c") (statsOf twoWindows "d") :=
    { warm := by decide +kernel
      warm' := by decide +kernel
      successRate := by decide +kernel
      cost := by decide +kernel
      enough := by decide +kernel
      latencies := by decide +kernel }
  have hc : { id := "c", name := "C", cost := 2, enabled := true } ∈ fourChannels := by
    decide +kernel
  have hd : { id := "d", name := "D", cost := 5, enabled := true } ∈ fourChannels := by
    decide +kernel
  have hids : "c" ≠ "d" := by decide
  exact (buildCandidates_dominates horder hweights hc hd hids rfl hbetter).1

end SwitchService.Domain
