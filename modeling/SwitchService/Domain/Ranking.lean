import SwitchService.Domain.Scoring
import SwitchService.Domain.Selection
import SwitchService.Foundation.Ordering

set_option autoImplicit false

/-!
# Domain: what a ranked list of candidates says

`buildCandidates` lists every channel once, with the ranks in order and the eligible ones
first.  Under such a ranking the strategy of a choice tells the rank of what was chosen.
-/

namespace SwitchService.Domain

open SwitchService.Foundation

/-! ## The parts of the score -/

theorem clamp01_mem (value : Number) : clamp01 value ∈ Set.Icc (0 : ℚ) 1 := by
  unfold clamp01
  split
  · split
    · exact ⟨le_refl 0, zero_le_one⟩
    · rename_i hneg
      split
      · exact ⟨zero_le_one, le_refl 1⟩
      · rename_i hone
        exact ⟨not_lt.mp hneg, not_lt.mp hone⟩
  · exact ⟨le_refl 0, zero_le_one⟩

/-- Rounding to four places stays between 0 and 1. -/
theorem round4_mem {value : ℚ} (h : value ∈ Set.Icc (0 : ℚ) 1) :
    round4 value ∈ Set.Icc (0 : ℚ) 1 := by
  obtain ⟨hlow, hhigh⟩ := h
  have hfloor : 0 ≤ mathRound (value * 10000) := by
    unfold mathRound
    rw [Int.floor_nonneg]
    linarith
  have hceil : mathRound (value * 10000) ≤ 10000 := by
    unfold mathRound
    have hlt : ⌊value * 10000 + 1 / 2⌋ < 10001 := by
      rw [Int.floor_lt]
      push_cast
      linarith
    omega
  have hfloor' : (0 : ℚ) ≤ mathRound (value * 10000) := by exact_mod_cast hfloor
  have hceil' : (mathRound (value * 10000) : ℚ) ≤ 10000 := by exact_mod_cast hceil
  unfold round4
  constructor
  · exact div_nonneg hfloor' (by norm_num)
  · rw [div_le_one (by norm_num)]
    exact hceil'

theorem costScoreOf_mem (cost : ℚ) (bounds : CostBounds) :
    costScoreOf cost bounds ∈ Set.Icc (0 : ℚ) 1 := by
  unfold costScoreOf
  dsimp only
  split
  · exact ⟨zero_le_one, le_refl 1⟩
  · exact clamp01_mem _

/-- The share of successes among counts that are not negative. -/
theorem observedRate_mem {success failure : ℚ} (hsuccess : 0 ≤ success)
    (hfailure : 0 ≤ failure) :
    (if success + failure = 0 then 0 else success / (success + failure)) ∈
      Set.Icc (0 : ℚ) 1 := by
  split
  · exact ⟨le_refl 0, zero_le_one⟩
  · exact ⟨div_nonneg hsuccess (add_nonneg hsuccess hfailure),
      div_le_one_of_le₀ (by linarith) (add_nonneg hsuccess hfailure)⟩

/-- The counts of a window are not negative. -/
def ChannelStats.Counted (stats : ChannelStats) : Prop :=
  0 ≤ stats.success ∧ 0 ≤ stats.failure

theorem emptyStats_counted (channelId : String) : (emptyStats channelId).Counted :=
  ⟨le_refl 0, le_refl 0⟩

/-- Every published part of the score lies between 0 and 1. -/
theorem scoreChannel_mem (channel : Channel) {stats : ChannelStats} (h : stats.Counted)
    (config : RoutingConfig) (bounds : CostBounds) :
    (scoreChannel channel stats config bounds).score ∈ Set.Icc (0 : ℚ) 1 ∧
      (scoreChannel channel stats config bounds).successRate ∈ Set.Icc (0 : ℚ) 1 ∧
      (scoreChannel channel stats config bounds).costScore ∈ Set.Icc (0 : ℚ) 1 := by
  refine ⟨round4_mem (clamp01_mem _), round4_mem ?_, round4_mem (costScoreOf_mem _ _)⟩
  split
  · exact clamp01_mem _
  · exact observedRate_mem h.1 h.2

/-! ## The list as a record of its channels -/

/-- What the candidates of a decision keep of the channels they stand for. -/
structure RecordOf (channels : List Channel) (candidates : List Candidate) : Prop where
  ids : (candidates.map (·.channelId)).Perm (channels.map (·.id))
  ranks : candidates.map (·.rank) = List.range' 1 candidates.length
  reason : ∀ c ∈ candidates, c.eligible = true ↔ c.ineligibleReason = none
  enabled : ∀ c ∈ candidates, c.eligible = true →
    ∃ channel ∈ channels, channel.id = c.channelId ∧ channel.enabled = true
  notOpened : ∀ c ∈ candidates, c.eligible = true → c.breakerState ≠ .opened
  scores : ∀ c ∈ candidates, c.score ∈ Set.Icc (0 : ℚ) 1 ∧
    c.successRate ∈ Set.Icc (0 : ℚ) 1 ∧ c.costScore ∈ Set.Icc (0 : ℚ) 1

theorem rank_getElem {candidates : List Candidate}
    (h : candidates.map (·.rank) = List.range' 1 candidates.length) {i : ℕ}
    (hi : i < candidates.length) : candidates[i].rank = i + 1 := by
  have hrank := congrArg (·[i]?) h
  simp only [List.getElem?_map, List.getElem?_eq_getElem hi, Option.map_some,
    List.getElem?_range' hi, Option.some.injEq] at hrank
  omega

section

variable {localeCompare : String → String → Ordering} {channels : List Channel}
  {statsById : String → Option ChannelStats}
  {breakersById : String → Option BreakerSnapshot} {config : RoutingConfig}

theorem eligibilityOf_reason (channel : Channel) (breakerState : BreakerState) :
    (eligibilityOf channel breakerState).1 = true ↔
      (eligibilityOf channel breakerState).2 = none := by
  unfold eligibilityOf
  split
  · simp
  · split <;> simp

theorem eligibilityOf_eligible {channel : Channel} {breakerState : BreakerState}
    (h : (eligibilityOf channel breakerState).1 = true) :
    channel.enabled = true ∧ breakerState ≠ .opened := by
  unfold eligibilityOf at h
  split at h
  · simp at h
  · rename_i henabled
    split at h
    · simp at h
    · rename_i hopened
      exact ⟨by simpa using henabled, hopened⟩

/-- The candidates in their order, before they are ranked. -/
def sortedCandidates (localeCompare : String → String → Ordering) (channels : List Channel)
    (statsById : String → Option ChannelStats)
    (breakersById : String → Option BreakerSnapshot) (config : RoutingConfig) :
    List Candidate :=
  (channels.map (candidateOf statsById breakersById config
    (costBoundsOf channels))).insertionSort fun a b => compareCandidates localeCompare a b ≠ .gt

theorem buildCandidates_eq_mapIdx :
    buildCandidates localeCompare channels statsById breakersById config =
      (sortedCandidates localeCompare channels statsById breakersById config).mapIdx
        fun index candidate => { candidate with rank := index + 1 } := rfl

theorem sortedCandidates_perm :
    (sortedCandidates localeCompare channels statsById breakersById config).Perm
      (channels.map (candidateOf statsById breakersById config (costBoundsOf channels))) :=
  List.perm_insertionSort _ _

theorem length_buildCandidates :
    (buildCandidates localeCompare channels statsById breakersById config).length =
      channels.length := by
  simp [buildCandidates]

/-- The ranks do not change which channels are listed. -/
theorem buildCandidates_ids :
    ((buildCandidates localeCompare channels statsById breakersById config).map
      (·.channelId)).Perm (channels.map (·.id)) := by
  have hsorted : (buildCandidates localeCompare channels statsById breakersById config).map
      (·.channelId) =
        (sortedCandidates localeCompare channels statsById breakersById config).map
          (·.channelId) := by
    rw [buildCandidates_eq_mapIdx]
    exact List.ext_getElem (by simp) fun i hi hi' => by simp
  have hperm : ((sortedCandidates localeCompare channels statsById breakersById config).map
      (·.channelId)).Perm ((channels.map (candidateOf statsById breakersById config
        (costBoundsOf channels))).map (·.channelId)) := sortedCandidates_perm.map _
  rw [List.map_map] at hperm
  rw [hsorted]
  exact hperm

theorem buildCandidates_ranks :
    (buildCandidates localeCompare channels statsById breakersById config).map (·.rank) =
      List.range' 1
        (buildCandidates localeCompare channels statsById breakersById config).length := by
  refine List.ext_getElem (by simp) fun i hi hi' => ?_
  simp [buildCandidates, add_comm]

/-- What holds along the sorted list holds along the ranked one. -/
theorem pairwise_buildCandidates {r : Candidate → Candidate → Prop}
    (hrank : ∀ a b i j, r a b → r { a with rank := i } { b with rank := j })
    (h : (sortedCandidates localeCompare channels statsById breakersById config).Pairwise r) :
    (buildCandidates localeCompare channels statsById breakersById config).Pairwise r := by
  rw [buildCandidates_eq_mapIdx]
  rw [List.pairwise_iff_getElem] at h ⊢
  intro i j hi hj hij
  rw [List.getElem_mapIdx, List.getElem_mapIdx]
  rw [List.length_mapIdx] at hi hj
  exact hrank _ _ _ _ (h i j hi hj hij)

/-- The ranking is a record of all its channels. -/
theorem recordOf_buildCandidates
    (hstats : ∀ id stats, statsById id = some stats → stats.Counted) :
    RecordOf channels (buildCandidates localeCompare channels statsById breakersById config)
    where
  ids := buildCandidates_ids
  ranks := buildCandidates_ranks
  reason c hc := by
    obtain ⟨channel, _, rank, rfl⟩ := mem_buildCandidates hc
    exact eligibilityOf_reason channel _
  enabled c hc heligible := by
    obtain ⟨channel, hchannel, rank, rfl⟩ := mem_buildCandidates hc
    exact ⟨channel, hchannel, rfl, (eligibilityOf_eligible heligible).1⟩
  notOpened _ hc heligible := buildCandidates_eligible hc heligible
  scores c hc := by
    obtain ⟨channel, _, rank, rfl⟩ := mem_buildCandidates hc
    refine scoreChannel_mem channel ?_ config _
    cases hget : statsById channel.id with
    | none => exact emptyStats_counted _
    | some stats => exact hstats channel.id stats hget

/-- The ranking puts the eligible candidates first. -/
theorem classFirst_buildCandidates :
    ClassFirst (·.eligible)
      (buildCandidates localeCompare channels statsById breakersById config) := by
  refine pairwise_buildCandidates (fun _ _ _ _ h => h) (classFirst_insertionSort ?_ ?_ _)
  · intro a b ha hb
    simp [compareCandidates, ha, hb]
  · intro a b ha hb
    simp [compareCandidates, ha, hb]

end

/-! ## What the ranks say about a choice -/

/-- Every eligible candidate has a smaller rank than every other one. -/
def EligibleFirst (candidates : List Candidate) : Prop :=
  ∀ a ∈ candidates, ∀ b ∈ candidates, a.eligible = true → b.eligible = false →
    a.rank < b.rank

/-- The strategy tells the rank of the channel that was chosen. -/
def StrategyShowsRank (candidates : List Candidate) (channelId : String)
    (strategy : RouteStrategy) : Prop :=
  match strategy with
  | .best | .onlyCandidate => ∃ c ∈ candidates, c.channelId = channelId ∧ c.rank = 1
  | .explore => ∃ c ∈ candidates, c.channelId = channelId ∧ c.eligible = true ∧ 2 ≤ c.rank
  | .degraded => True

section

variable {candidates : List Candidate}
  (hranks : candidates.map (·.rank) = List.range' 1 candidates.length)

include hranks

theorem eligibleFirst_iff : EligibleFirst candidates ↔ ClassFirst (·.eligible) candidates := by
  rw [classFirst_iff_getElem]
  constructor
  · intro h i j hi hj hij hb
    by_contra ha
    have hlt := h candidates[j] (List.getElem_mem hj) candidates[i] (List.getElem_mem hi) hb
      (by simpa using ha)
    rw [rank_getElem hranks hi, rank_getElem hranks hj] at hlt
    omega
  · intro h a ha b hb heligible hblocked
    obtain ⟨i, hi, rfl⟩ := List.getElem_of_mem ha
    obtain ⟨j, hj, rfl⟩ := List.getElem_of_mem hb
    rw [rank_getElem hranks hi, rank_getElem hranks hj]
    rcases lt_trichotomy i j with hij | rfl | hji
    · omega
    · rw [heligible] at hblocked
      cases hblocked
    · have hfirst := h j i hj hi hji heligible
      rw [hblocked] at hfirst
      cases hfirst

/-- A candidate behind the head has a rank of at least 2. -/
theorem two_le_rank_of_mem_tail {c : Candidate} (h : c ∈ candidates.tail) : 2 ≤ c.rank := by
  obtain ⟨i, hi, rfl⟩ := List.getElem_of_mem h
  rw [List.length_tail] at hi
  rw [List.getElem_tail, rank_getElem hranks (by omega)]
  omega

theorem rank_of_head {c : Candidate} (h : candidates.head? = some c) : c.rank = 1 := by
  cases candidates with
  | nil => cases h
  | cons b l =>
      obtain rfl := Option.some.inj h
      exact rank_getElem hranks (i := 0) (Nat.succ_pos _)

/-- Where the eligible candidates stand first, a choice is explained by the ranks. -/
theorem selectChannel_shows_rank (hfirst : ClassFirst (·.eligible) candidates)
    {config : RoutingConfig} {rng rng' : Rng} {selection : Selection}
    (h : selectChannel candidates config rng = (.ok selection, rng')) :
    StrategyShowsRank candidates selection.channelId selection.strategy := by
  unfold selectChannel at h
  split at h
  · simp at h
  · rename_i best hfilter
    simp only [Prod.mk.injEq, Except.ok.injEq] at h
    have hhead := hfirst.head_of_filter hfilter
    rw [← h.1]
    exact ⟨best, List.mem_of_head? hhead, rfl, rank_of_head hranks hhead⟩
  · rename_i best others hmany hfilter
    split at h
    · simp only [Prod.mk.injEq, Except.ok.injEq] at h
      set pick := (max 0 (min ((others.length : ℤ) - 1)
        ⌊rng.tail.head * others.length⌋)).toNat with hpick
      have hpos : 0 < others.length := by
        rw [List.length_pos_iff]
        rintro rfl
        exact hmany rfl
      have hrange : pick < others.length := by omega
      have hchosen : others[pick] ∈ others := List.getElem_mem hrange
      have hmem : others[pick] ∈ candidates.filter (·.eligible) := by
        rw [hfilter]
        exact List.mem_cons_of_mem _ hchosen
      rw [← h.1, List.getElem?_eq_getElem hrange]
      exact ⟨others[pick], (List.mem_filter.mp hmem).1, rfl, (List.mem_filter.mp hmem).2,
        two_le_rank_of_mem_tail hranks (mem_tail_of_filter hfilter _ hchosen)⟩
    · simp only [Prod.mk.injEq, Except.ok.injEq] at h
      have hhead := hfirst.head_of_filter hfilter
      rw [← h.1]
      exact ⟨best, List.mem_of_head? hhead, rfl, rank_of_head hranks hhead⟩

end

/-! ## A list of channels -/

/-- Three channels that differ in their cost, and a disabled one. -/
def fourChannels : List Channel :=
  [{ id := "a", name := "A", cost := 3, enabled := true },
    { id := "b", name := "B", cost := 1, enabled := false },
    { id := "c", name := "C", cost := 2, enabled := true },
    { id := "d", name := "D", cost := 5, enabled := true }]

end SwitchService.Domain
