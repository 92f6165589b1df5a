import Mathlib.Algebra.BigOperators.Group.List.Lemmas
import Mathlib.Data.Rat.Cast.CharZero
import Mathlib.Data.List.Dedup
import Mathlib.Tactic

set_option autoImplicit false

/-!
# Foundation: counts by group

A list is counted by a key: every key that occurs has one group, with the number of elements
that have it.  The groups together count every element once, and the parts that they are of
the whole add up to one.
-/

namespace SwitchService.Foundation

variable {α κ : Type} [DecidableEq κ]

/-- The keys of a list, each once, with the number of elements that have it. -/
def groupCounts (key : α → κ) (xs : List α) : List (κ × ℕ) :=
  (xs.map key).dedup.map fun k => (k, xs.countP (key · = k))

variable {key : α → κ} {xs : List α} {k : κ} {n : ℕ}

theorem count_map_key (key : α → κ) (xs : List α) (k : κ) :
    (xs.map key).count k = xs.countP (key · = k) := by
  rw [List.count, List.countP_map]
  refine List.countP_congr fun a _ => ?_
  simp

/-- A group is a key that occurs, with its number. -/
theorem mem_groupCounts :
    (k, n) ∈ groupCounts key xs ↔ n = xs.countP (key · = k) ∧ 0 < n := by
  unfold groupCounts
  constructor
  · intro h
    obtain ⟨k', hk', hpair⟩ := List.mem_map.mp h
    obtain ⟨rfl, rfl⟩ := Prod.mk.inj hpair
    refine ⟨rfl, ?_⟩
    rw [← count_map_key]
    exact List.count_pos_iff.mpr (List.mem_dedup.mp hk')
  · rintro ⟨rfl, hpos⟩
    refine List.mem_map.mpr ⟨k, List.mem_dedup.mpr ?_, rfl⟩
    rw [← count_map_key] at hpos
    exact List.count_pos_iff.mp hpos

theorem nodup_groupCounts (key : α → κ) (xs : List α) :
    ((groupCounts key xs).map Prod.fst).Nodup := by
  unfold groupCounts
  rw [List.map_map]
  have hfst : (Prod.fst ∘ fun k => (k, xs.countP (key · = k))) = id := rfl
  rw [hfst, List.map_id]
  exact List.nodup_dedup _

/-- The groups count every element once. -/
theorem sum_groupCounts (key : α → κ) (xs : List α) :
    ((groupCounts key xs).map Prod.snd).sum = xs.length := by
  have hcounts : (groupCounts key xs).map Prod.snd =
      (xs.map key).dedup.map fun k => (xs.map key).count k := by
    unfold groupCounts
    rw [List.map_map]
    exact List.map_congr_left fun k _ => (count_map_key key xs k).symm
  rw [hcounts, List.sum_map_count_dedup_eq_length, List.length_map]

theorem sum_map_cast_div {F : Type} [Field F] (counts : List ℕ) (whole : F) :
    (counts.map fun n : ℕ => (n : F) / whole).sum = (counts.sum : ℕ) / whole := by
  induction counts with
  | nil => simp
  | cons n counts ih =>
      rw [List.map_cons, List.sum_cons, ih, List.sum_cons, Nat.cast_add, add_div]

/-- The parts of a whole add up to one. -/
theorem sum_parts {F : Type} [Field F] [CharZero F] {counts : List ℕ} (h : counts.sum ≠ 0) :
    (counts.map fun n : ℕ => (n : F) / (counts.sum : ℕ)).sum = 1 := by
  rw [sum_map_cast_div, div_self (Nat.cast_ne_zero.mpr h)]

end SwitchService.Foundation
