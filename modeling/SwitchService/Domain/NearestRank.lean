import SwitchService.Domain.Percentile
import SwitchService.Foundation.OrderStatistic

set_option autoImplicit false

/-!
# Domain: the percentile is the nearest-rank order statistic (`domain/percentile.ts`)

Of `n` samples that can be a latency, the percentile is the one of rank `⌈fraction * n⌉`
in their order.  The clamps of the index never act on a fraction that is not refused.
-/

namespace SwitchService.Domain

open SwitchService.Foundation

/-- The samples that `percentile` keeps. -/
def latenciesOf (samples : List Number) : List ℚ := samples.filterMap latencyOf

/-- The rank, from 1 on, that a fraction asks for among `n` samples. -/
def nearestRank (fraction : ℚ) (n : ℕ) : ℤ := ⌈fraction * n⌉

section

variable {fraction : ℚ} (hpos : 0 < fraction) (hone : fraction ≤ 1)

include hpos in
theorem nearestRank_pos {n : ℕ} (hn : 0 < n) : 0 < nearestRank fraction n :=
  Int.ceil_pos.mpr (mul_pos hpos (by exact_mod_cast hn))

include hone in
theorem nearestRank_le (n : ℕ) : nearestRank fraction n ≤ n := by
  have hmul : fraction * n ≤ 1 * n := mul_le_mul_of_nonneg_right hone (Nat.cast_nonneg n)
  rw [one_mul] at hmul
  exact Int.ceil_le.mpr (by exact_mod_cast hmul)

include hpos hone

/-- A percentile of too few samples. -/
theorem percentile_few {samples : List Number} {minSamples : ℕ}
    (h : (latenciesOf samples).length < minSamples) :
    percentile samples fraction minSamples = .ok none := by
  have hfraction : ¬ (fraction ≤ 0 ∨ fraction > 1) := by
    rw [not_or, not_le, not_lt]
    exact ⟨hpos, hone⟩
  rw [percentile, if_neg hfraction]
  exact if_pos h

/-- With enough samples, the percentile is the entry of the nearest rank. -/
theorem percentile_enough {samples : List Number} {minSamples : ℕ} (hmin : 0 < minSamples)
    (h : minSamples ≤ (latenciesOf samples).length) :
    ∃ (k : ℕ) (hk : k < ((latenciesOf samples).insertionSort (· ≤ ·)).length),
      (k : ℤ) + 1 = nearestRank fraction (latenciesOf samples).length ∧
        percentile samples fraction minSamples =
          .ok (some ((latenciesOf samples).insertionSort (· ≤ ·))[k]) := by
  have hfraction : ¬ (fraction ≤ 0 ∨ fraction > 1) := by
    rw [not_or, not_le, not_lt]
    exact ⟨hpos, hone⟩
  have hlow := nearestRank_pos hpos (n := (latenciesOf samples).length) (by omega)
  have hhigh := nearestRank_le hone (latenciesOf samples).length
  have hlength := List.length_insertionSort (· ≤ ·) (latenciesOf samples)
  obtain ⟨k, hk⟩ := Int.eq_ofNat_of_zero_le
    (a := nearestRank fraction (latenciesOf samples).length - 1) (by omega)
  refine ⟨k, by omega, by omega, ?_⟩
  -- The two clamps leave the rank as it is.
  have hindex : (min (((latenciesOf samples).insertionSort (· ≤ ·)).length - 1 : ℤ)
      (max 0 (⌈fraction * ((latenciesOf samples).insertionSort (· ≤ ·)).length⌉ - 1))).toNat =
        k := by
    rw [hlength]
    unfold nearestRank at hk hlow hhigh
    omega
  rw [percentile, if_neg hfraction]
  refine (if_neg (not_lt.mpr h)).trans ?_
  change Except.ok ((latenciesOf samples).insertionSort (· ≤ ·))[(min
    (((latenciesOf samples).insertionSort (· ≤ ·)).length - 1 : ℤ) (max 0
      (⌈fraction * ((latenciesOf samples).insertionSort (· ≤ ·)).length⌉ - 1))).toNat]? = _
  rw [hindex, List.getElem?_eq_getElem (by omega)]

end

/-! ## What a change of the samples does -/

theorem latenciesOf_perm {samples samples' : List Number} (h : samples.Perm samples') :
    (latenciesOf samples).Perm (latenciesOf samples') := h.filterMap latencyOf

theorem latencyOf_fin {x : ℚ} (h : 0 ≤ x) : latencyOf (.fin x) = some x := if_pos h

/-- Raising one sample raises one latency and leaves the others. -/
theorem latenciesOf_raise (before after : List Number) {x y : ℚ} (hx : 0 ≤ x) (hxy : x ≤ y) :
    List.Forall₂ (· ≤ ·) (latenciesOf (before ++ .fin x :: after))
      (latenciesOf (before ++ .fin y :: after)) := by
  have hsplit : ∀ z : ℚ, 0 ≤ z → latenciesOf (before ++ .fin z :: after) =
      latenciesOf before ++ z :: latenciesOf after := by
    intro z hz
    rw [latenciesOf, List.filterMap_append, List.filterMap_cons, latencyOf_fin hz]
    rfl
  have hrefl : ∀ l : List ℚ, List.Forall₂ (· ≤ ·) l l := fun l =>
    List.forall₂_same.mpr fun z _ => le_refl z
  rw [hsplit x hx, hsplit y (hx.trans hxy)]
  exact List.rel_append (hrefl _) (.cons hxy (hrefl _))

theorem percentile_perm {samples samples' : List Number} (h : samples.Perm samples')
    (fraction : ℚ) (minSamples : ℕ) :
    percentile samples fraction minSamples = percentile samples' fraction minSamples := by
  have hsort := insertionSort_le_perm (latenciesOf_perm h)
  have hlength := (latenciesOf_perm h).length_eq
  unfold latenciesOf at hsort hlength
  unfold percentile
  simp only [hsort, hlength]

/-- Of samples that are at most as large, one by one, the percentile is not larger. -/
theorem percentile_mono {fraction : ℚ} (hpos : 0 < fraction) (hone : fraction ≤ 1)
    {samples samples' : List Number} {minSamples : ℕ} (hmin : 0 < minSamples)
    (hlength : (latenciesOf samples).length = (latenciesOf samples').length)
    (hle : ∀ (k : ℕ) (hk : k < ((latenciesOf samples).insertionSort (· ≤ ·)).length)
      (hk' : k < ((latenciesOf samples').insertionSort (· ≤ ·)).length),
        ((latenciesOf samples).insertionSort (· ≤ ·))[k] ≤
          ((latenciesOf samples').insertionSort (· ≤ ·))[k]) {v : ℚ}
    (h : percentile samples fraction minSamples = .ok (some v)) :
    ∃ v', percentile samples' fraction minSamples = .ok (some v') ∧ v ≤ v' := by
  rcases lt_or_ge (latenciesOf samples).length minSamples with hfew | henough
  · rw [percentile_few hpos hone hfew] at h
    cases h
  · obtain ⟨k, hk, hrank, hvalue⟩ := percentile_enough hpos hone hmin henough
    obtain ⟨k', hk', hrank', hvalue'⟩ := percentile_enough hpos hone hmin
      (hlength ▸ henough : minSamples ≤ (latenciesOf samples').length)
    rw [← hlength, ← hrank] at hrank'
    obtain rfl : k' = k := by omega
    rw [h, Except.ok.injEq, Option.some.injEq] at hvalue
    exact ⟨_, hvalue', hvalue ▸ hle k' hk hk'⟩

/-! ## The order statistic -/

/-- The percentile is `null` exactly with too few samples.  Otherwise it is one of the
samples, at least as many as the rank asks for are not larger, and fewer are smaller.  The
order of the samples does not matter, and raising one never lowers the percentile. -/
theorem percentile_nearestRank {fraction : ℚ} (hpos : 0 < fraction) (hone : fraction ≤ 1)
    {minSamples : ℕ} (hmin : 1 ≤ minSamples) (samples : List Number) :
    (percentile samples fraction minSamples = .ok none ↔
      (latenciesOf samples).length < minSamples) ∧
    (minSamples ≤ (latenciesOf samples).length →
      ∃ v ∈ latenciesOf samples, percentile samples fraction minSamples = .ok (some v) ∧
        ⌈fraction * (latenciesOf samples).length⌉ ≤ (latenciesOf samples).countP (· ≤ v) ∧
        (latenciesOf samples).countP (· < v) < ⌈fraction * (latenciesOf samples).length⌉) ∧
    (∀ samples', samples'.Perm samples →
      percentile samples' fraction minSamples = percentile samples fraction minSamples) ∧
    (∀ (before after : List Number) (x y : ℚ), samples = before ++ .fin x :: after → 0 ≤ x →
      x < y →
        (percentile samples fraction minSamples = .ok none →
          percentile (before ++ .fin y :: after) fraction minSamples = .ok none) ∧
        ∀ v, percentile samples fraction minSamples = .ok (some v) →
          ∃ v', percentile (before ++ .fin y :: after) fraction minSamples = .ok (some v') ∧
            v ≤ v') := by
  have hnull : ∀ l : List Number, percentile l fraction minSamples = .ok none ↔
      (latenciesOf l).length < minSamples := by
    intro l
    constructor
    · intro hnone
      by_contra henough
      obtain ⟨k, hk, _, hvalue⟩ := percentile_enough hpos hone hmin (not_lt.mp henough)
      rw [hnone] at hvalue
      cases hvalue
    · exact percentile_few hpos hone
  refine ⟨hnull samples, ?_, fun samples' h => percentile_perm h fraction minSamples, ?_⟩
  · intro henough
    obtain ⟨k, hk, hrank, hvalue⟩ := percentile_enough hpos hone hmin henough
    have hsorted := List.pairwise_insertionSort (· ≤ ·) (latenciesOf samples)
    have hperm := List.perm_insertionSort (· ≤ ·) (latenciesOf samples)
    unfold nearestRank at hrank
    refine ⟨_, hperm.mem_iff.mp (List.getElem_mem hk), hvalue, ?_, ?_⟩
    · have hcount := succ_le_countP_le hsorted hk
      rw [hperm.countP_eq] at hcount
      omega
    · have hcount := countP_lt_le hsorted hk
      rw [hperm.countP_eq] at hcount
      omega
  · rintro before after x y rfl hx hxy
    have hraise := latenciesOf_raise before after hx hxy.le
    constructor
    · intro hnone
      rw [hnull] at hnone ⊢
      exact hraise.length_eq ▸ hnone
    · intro v hv
      exact percentile_mono hpos hone hmin hraise.length_eq
        (fun k hk hk' => insertionSort_le_of_forall₂ hraise hk hk') hv

/-- The theorem at the p95 of six samples, one of them damaged. -/
theorem percentile_nearestRank_at :
    percentile [.fin 5, .nan, .fin 1, .fin 4, .fin 2, .fin 3] (95 / 100) 5 = .ok (some 5) ∧
      percentile [.fin 1, .fin 2, .fin 3, .fin 4, .fin 5, .nan] (95 / 100) 5 =
        percentile [.fin 5, .nan, .fin 1, .fin 4, .fin 2, .fin 3] (95 / 100) 5 :=
  ⟨by decide +kernel, (percentile_nearestRank (by norm_num) (by norm_num) (by norm_num)
    [.fin 5, .nan, .fin 1, .fin 4, .fin 2, .fin 3]).2.2.1 _ (by decide)⟩

end SwitchService.Domain
