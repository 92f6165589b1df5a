import SwitchService.Domain.Ranking

set_option autoImplicit false

/-!
# Domain: the shares of the exploration (`domain/selection.ts`)

The first draw says whether to explore.  The second is cut into equal shares, one for each
eligible channel but the first, so no channel is starved and none is weighted twice.
-/

namespace SwitchService.Domain

open SwitchService.Foundation

/-- The candidates that may be chosen, in their order. -/
def eligibleOf (candidates : List Candidate) : List Candidate :=
  candidates.filter (·.eligible)

/-- The random source that gives `draw`, then `pick`. -/
def draws (draw pick : ℚ) (rest : Rng) : Rng := Stream'.cons draw (Stream'.cons pick rest)

/-- The draws of `Math.random()`. -/
abbrev UnitDraw (draw : ℚ) : Prop := 0 ≤ draw ∧ draw < 1

/-! ## The index of a draw -/

/-- The share of the unit interval that belongs to index `k` of `n`. -/
def InShare (n k : ℕ) (draw : ℚ) : Prop := (k : ℚ) / n ≤ draw ∧ draw < ((k : ℚ) + 1) / n

theorem inShare_iff {n : ℕ} (hn : 0 < n) (k : ℕ) (draw : ℚ) :
    InShare n k draw ↔ ⌊draw * n⌋ = k := by
  have hpos : (0 : ℚ) < n := by exact_mod_cast hn
  rw [Int.floor_eq_iff, InShare, div_le_iff₀ hpos, lt_div_iff₀ hpos]
  push_cast
  rfl

/-- Every draw lies in the share of one index. -/
theorem exists_inShare {n : ℕ} (hn : 0 < n) {draw : ℚ} (h : UnitDraw draw) :
    ∃ k < n, InShare n k draw := by
  have hpos : (0 : ℚ) < n := by exact_mod_cast hn
  have hlow : 0 ≤ ⌊draw * n⌋ := Int.floor_nonneg.mpr (mul_nonneg h.1 hpos.le)
  have hhigh : ⌊draw * n⌋ < n := by
    rw [Int.floor_lt]
    have hlt : draw * n < 1 * n := mul_lt_mul_of_pos_right h.2 hpos
    rw [one_mul] at hlt
    exact_mod_cast hlt
  obtain ⟨k, hk⟩ := Int.eq_ofNat_of_zero_le hlow
  exact ⟨k, by omega, (inShare_iff hn k draw).mpr hk⟩

/-- The two clamps leave an index of the list as it is. -/
theorem clampedPick {n k : ℕ} {draw : ℚ} (hk : k < n) (h : InShare n k draw) :
    (max 0 (min ((n : ℤ) - 1) ⌊draw * n⌋)).toNat = k := by
  rw [(inShare_iff (by omega) k draw).mp h]
  omega

/-! ## The branches of the choice -/

section

variable {candidates : List Candidate} {config : RoutingConfig} {rate draw pick : ℚ}

theorem selectChannel_none (h : eligibleOf candidates = []) (rng : Rng) :
    (selectChannel candidates config rng).1 = .error
      { reasons := candidates.map fun c =>
          (c.channelId, c.ineligibleReason.getD "unknown") } := by
  unfold selectChannel
  split
  · rfl
  · rename_i hfilter
    exact absurd (h.symm.trans hfilter) (by simp)
  · rename_i hfilter
    exact absurd (h.symm.trans hfilter) (by simp)

theorem selectChannel_one {best : Candidate} (h : eligibleOf candidates = [best]) (rng : Rng) :
    (selectChannel candidates config rng).1 =
      .ok { channelId := best.channelId, strategy := .onlyCandidate } := by
  unfold selectChannel
  split
  · rename_i hfilter
    exact absurd (h.symm.trans hfilter) (by simp)
  · rename_i only hfilter
    obtain rfl : best = only := by simpa using h.symm.trans hfilter
    rfl
  · rename_i first others hne hfilter
    exact absurd (List.cons.inj (h.symm.trans hfilter)).2.symm hne

theorem selectChannel_many {best : Candidate} {others : List Candidate}
    (h : eligibleOf candidates = best :: others) (hne : others ≠ []) (rng : Rng) :
    (selectChannel candidates config rng).1 =
      if Number.lt (.fin rng.head) config.explorationRate then
        .ok { channelId := ((others[(max 0 (min ((others.length : ℤ) - 1)
                ⌊rng.tail.head * others.length⌋)).toNat]?).getD best).channelId
              strategy := .explore }
      else .ok { channelId := best.channelId, strategy := .best } := by
  unfold selectChannel
  split
  · rename_i hfilter
    exact absurd (h.symm.trans hfilter) (by simp)
  · rename_i hfilter
    exact absurd (List.cons.inj (h.symm.trans hfilter)).2 hne
  · rename_i first others' hne' hfilter
    obtain ⟨rfl, rfl⟩ := List.cons.inj (h.symm.trans hfilter)
    split
    · rfl
    · rfl

variable (hrate : config.explorationRate = .fin rate)

include hrate

theorem selectChannel_best {best : Candidate} {others : List Candidate}
    (h : eligibleOf candidates = best :: others) (hne : others ≠ []) (hdraw : rate ≤ draw)
    (rest : Rng) : (selectChannel candidates config (draws draw pick rest)).1 =
      .ok { channelId := best.channelId, strategy := .best } := by
  rw [selectChannel_many h hne, if_neg]
  rw [hrate]
  simpa [draws] using hdraw

theorem selectChannel_explore {best : Candidate} {others : List Candidate}
    (h : eligibleOf candidates = best :: others) (hdraw : draw < rate) {k : ℕ}
    (hk : k < others.length) (hpick : InShare others.length k pick) (rest : Rng) :
    (selectChannel candidates config (draws draw pick rest)).1 =
      .ok { channelId := others[k].channelId, strategy := .explore } := by
  have hne : others ≠ [] := List.ne_nil_of_length_pos (by omega)
  have hlt : Number.lt (.fin (draws draw pick rest).head) config.explorationRate = true := by
    rw [hrate]
    simpa [draws] using hdraw
  have hindex : (max 0 (min ((others.length : ℤ) - 1)
      ⌊(draws draw pick rest).tail.head * others.length⌋)).toNat = k := clampedPick hk hpick
  rw [selectChannel_many h hne, if_pos hlt, hindex, List.getElem?_eq_getElem hk]
  rfl

end

/-! ## Equal shares -/

/-- The choice over all draws, at an exploration rate of `rate`. -/
structure EqualShares (candidates : List Candidate) (config : RoutingConfig) (rate : ℚ) :
    Prop where
  /-- With no eligible candidate the error lists every candidate once. -/
  none : eligibleOf candidates = [] → ∀ rng, ∃ reasons,
    (selectChannel candidates config rng).1 = .error { reasons := reasons } ∧
      reasons.map (·.1) = candidates.map (·.channelId)
  one : ∀ best, eligibleOf candidates = [best] → ∀ rng,
    (selectChannel candidates config rng).1 =
      .ok { channelId := best.channelId, strategy := .onlyCandidate }
  best : ∀ best others, eligibleOf candidates = best :: others → others ≠ [] →
    ∀ draw pick rest, UnitDraw draw → UnitDraw pick → rate ≤ draw →
      (selectChannel candidates config (draws draw pick rest)).1 =
        .ok { channelId := best.channelId, strategy := .best }
  /-- The `k`-th of the others has the `k`-th share of the second draw. -/
  explore : ∀ best others, eligibleOf candidates = best :: others →
    ∀ draw pick rest, UnitDraw draw → UnitDraw pick → draw < rate →
      ∀ (k : ℕ) (hk : k < others.length), InShare others.length k pick →
        (selectChannel candidates config (draws draw pick rest)).1 =
          .ok { channelId := others[k].channelId, strategy := .explore }
  /-- Outside its share, a channel that is listed once is not chosen. -/
  exact : ∀ best others, eligibleOf candidates = best :: others →
    (others.map (·.channelId)).Nodup →
    ∀ draw pick rest, UnitDraw draw → UnitDraw pick → draw < rate →
      ∀ (k : ℕ) (hk : k < others.length),
        (selectChannel candidates config (draws draw pick rest)).1 =
          .ok { channelId := others[k].channelId, strategy := .explore } →
        InShare others.length k pick
  /-- No draws select a blocked candidate. -/
  notBlocked : ∀ rng selection, (selectChannel candidates config rng).1 = .ok selection →
    ∃ c ∈ eligibleOf candidates, c.channelId = selection.channelId
  /-- Some draws select each eligible candidate. -/
  reached : 0 < rate → ∀ c ∈ eligibleOf candidates, ∃ draw pick, UnitDraw draw ∧
    UnitDraw pick ∧ ∀ rest, ∃ strategy,
      (selectChannel candidates config (draws draw pick rest)).1 =
        .ok { channelId := c.channelId, strategy := strategy }
  /-- Without exploration, no draws select any but the first. -/
  onlyFirst : rate = 0 → ∀ best others, eligibleOf candidates = best :: others →
    ∀ draw pick rest, UnitDraw draw → UnitDraw pick → ∃ strategy,
      (selectChannel candidates config (draws draw pick rest)).1 =
        .ok { channelId := best.channelId, strategy := strategy }

/-- A draw that lies in the share of an index. -/
theorem unitDraw_of_share {n k : ℕ} (hk : k < n) :
    UnitDraw ((k : ℚ) / n) ∧ InShare n k ((k : ℚ) / n) := by
  have hpos : (0 : ℚ) < n := by exact_mod_cast (show 0 < n by omega)
  have hlt : (k : ℚ) < n := by exact_mod_cast hk
  refine ⟨⟨div_nonneg (Nat.cast_nonneg k) hpos.le, ?_⟩, le_refl _, ?_⟩
  · rw [div_lt_one hpos]
    exact hlt
  · exact div_lt_div_of_pos_right (by linarith) hpos

/-- Whatever the candidates, the exploration gives the others equal shares. -/
theorem selectChannel_equalShares (candidates : List Candidate) {config : RoutingConfig}
    {rate : ℚ} (hrate : config.explorationRate = .fin rate) (hnonneg : 0 ≤ rate)
    (hone : rate < 1) : EqualShares candidates config rate where
  none h rng := ⟨_, selectChannel_none h rng, by simp⟩
  one best h rng := selectChannel_one h rng
  best best others h hne draw pick rest _ _ hle := selectChannel_best hrate h hne hle rest
  explore best others h draw pick rest _ _ hlt k hk hpick :=
    selectChannel_explore hrate h hlt hk hpick rest
  exact best others h hnodup draw pick rest _ hpick hlt k hk hchosen := by
    obtain ⟨k', hk', hshare⟩ := exists_inShare (n := others.length) (by omega) hpick
    rw [selectChannel_explore hrate h hlt hk' hshare rest, Except.ok.injEq,
      Selection.mk.injEq] at hchosen
    -- Two indices with one identifier are one index.
    have hsame : k' = k := by
      refine (List.getElem?_inj (by simpa using hk') hnodup).mp ?_
      simpa [hk, hk'] using hchosen.1
    exact hsame ▸ hshare
  notBlocked rng selection h := by
    have hpair : selectChannel candidates config rng =
        (.ok selection, (selectChannel candidates config rng).2) := by
      rw [← h]
    obtain ⟨c, hc, heligible, hid⟩ := selectChannel_eligible hpair
    exact ⟨c, List.mem_filter.mpr ⟨hc, heligible⟩, hid⟩
  reached hpos c hc := by
    cases heligible : eligibleOf candidates with
    | nil =>
        rw [heligible] at hc
        cases hc
    | cons best others =>
        rw [heligible] at hc
        have hzero : UnitDraw 0 := ⟨le_refl 0, zero_lt_one⟩
        rcases List.mem_cons.mp hc with rfl | hc
        · -- The first is named by a draw at the rate, or without any draw.
          refine ⟨rate, 0, ⟨hnonneg, hone⟩, hzero, fun rest => ?_⟩
          by_cases hne : others = []
          · subst hne
            exact ⟨_, selectChannel_one heligible _⟩
          · exact ⟨_, selectChannel_best hrate heligible hne (le_refl rate) rest⟩
        · obtain ⟨k, hk, rfl⟩ := List.getElem_of_mem hc
          obtain ⟨hunit, hshare⟩ := unitDraw_of_share hk
          exact ⟨0, _, hzero, hunit, fun rest =>
            ⟨_, selectChannel_explore hrate heligible hpos hk hshare rest⟩⟩
  onlyFirst hzero best others h draw pick rest hdraw _ := by
    by_cases hne : others = []
    · subst hne
      exact ⟨_, selectChannel_one h _⟩
    · exact ⟨_, selectChannel_best hrate h hne (hzero ▸ hdraw.1) rest⟩

/-- The theorem at the ranking of four cold channels, under the default configuration. -/
theorem selectChannel_equalShares_at : EqualShares (buildCandidates compare fourChannels
    (fun _ => none) (fun _ => none) defaultRoutingConfig) defaultRoutingConfig (1 / 10) :=
  selectChannel_equalShares _ rfl (by norm_num) (by norm_num)

end SwitchService.Domain
