import Mathlib.Data.List.Sort
import Mathlib.Tactic

set_option autoImplicit false

/-!
# Foundation: the entries of a sorted list, by counting

The entry at an index of a sorted list is told by two counts: how many entries are at
most as large, and how many are smaller.  So an entry of the sorted list does not depend
on the order of the list, and it does not fall when an entry of the list is raised.
-/

namespace SwitchService.Foundation

variable {α : Type} [LinearOrder α]

/-! ## The counts at an index -/

/-- Up to its own index, a sorted list holds entries that are not larger. -/
theorem succ_le_countP_le {l : List α} (hl : l.Pairwise (· ≤ ·)) {k : ℕ}
    (hk : k < l.length) : k + 1 ≤ l.countP (· ≤ l[k]) := by
  induction l generalizing k with
  | nil => exact absurd hk (Nat.not_lt_zero k)
  | cons a l ih =>
      obtain ⟨ha, hl⟩ := List.pairwise_cons.mp hl
      cases k with
      | zero =>
          rw [List.getElem_cons_zero, List.countP_cons_of_pos (by simp)]
          omega
      | succ k =>
          have hk' : k < l.length := by simpa using hk
          have hle : a ≤ l[k] := ha _ (List.getElem_mem hk')
          have hcount := ih hl hk'
          rw [List.getElem_cons_succ, List.countP_cons_of_pos (by simpa using hle)]
          omega

/-- From its own index on, a sorted list holds no smaller entry. -/
theorem countP_lt_le {l : List α} (hl : l.Pairwise (· ≤ ·)) {k : ℕ} (hk : k < l.length) :
    l.countP (· < l[k]) ≤ k := by
  induction l generalizing k with
  | nil => exact absurd hk (Nat.not_lt_zero k)
  | cons a l ih =>
      obtain ⟨ha, hl⟩ := List.pairwise_cons.mp hl
      cases k with
      | zero =>
          have hnone : ∀ b ∈ a :: l, ¬ b < a := by
            intro b hb
            rcases List.mem_cons.mp hb with rfl | hb
            · exact lt_irrefl b
            · exact not_lt.mpr (ha b hb)
          rw [List.getElem_cons_zero, Nat.le_zero, List.countP_eq_zero]
          intro b hb
          simpa using hnone b hb
      | succ k =>
          have hk' : k < l.length := by simpa using hk
          have hcount := ih hl hk'
          rw [List.getElem_cons_succ, List.countP_cons]
          split
          · omega
          · omega

/-- An entry is at most any value that enough entries do not exceed. -/
theorem getElem_le_of_lt_countP {l : List α} (hl : l.Pairwise (· ≤ ·)) {k : ℕ}
    (hk : k < l.length) {v : α} (h : k < l.countP (· ≤ v)) : l[k] ≤ v := by
  by_contra hlt
  rw [not_le] at hlt
  have hmono : l.countP (· ≤ v) ≤ l.countP (· < l[k]) := by
    refine List.countP_mono_left fun b _ hb => ?_
    rw [decide_eq_true_eq] at hb ⊢
    exact hb.trans_lt hlt
  have hcount := countP_lt_le hl hk
  omega

/-! ## Sorting -/

/-- Sorting does not see the order of the list. -/
theorem insertionSort_le_perm {l l' : List α} (h : l.Perm l') :
    l.insertionSort (· ≤ ·) = l'.insertionSort (· ≤ ·) := by
  have hperm : (l.insertionSort (· ≤ ·)).Perm (l'.insertionSort (· ≤ ·)) :=
    (List.perm_insertionSort _ l).trans (h.trans (List.perm_insertionSort _ l').symm)
  exact hperm.eq_of_pairwise' (r := (· ≤ ·)) (List.pairwise_insertionSort _ l)
    (List.pairwise_insertionSort _ l')

/-- Raising entries of a list leaves fewer of them below a value. -/
theorem countP_le_of_forall₂ {l l' : List α} (h : List.Forall₂ (· ≤ ·) l l') (v : α) :
    l'.countP (· ≤ v) ≤ l.countP (· ≤ v) := by
  induction h with
  | nil => exact le_refl _
  | @cons a b l l' hab _ ih =>
      rw [List.countP_cons, List.countP_cons]
      by_cases hb : b ≤ v
      · rw [if_pos (by simpa using hb), if_pos (by simpa using hab.trans hb)]
        omega
      · rw [if_neg (by simpa using hb)]
        omega

/-- Raising entries of a list raises every entry of the sorted list. -/
theorem insertionSort_le_of_forall₂ {l l' : List α} (h : List.Forall₂ (· ≤ ·) l l') {k : ℕ}
    (hk : k < (l.insertionSort (· ≤ ·)).length)
    (hk' : k < (l'.insertionSort (· ≤ ·)).length) :
    (l.insertionSort (· ≤ ·))[k] ≤ (l'.insertionSort (· ≤ ·))[k] := by
  refine getElem_le_of_lt_countP (List.pairwise_insertionSort _ l) hk ?_
  have hcount := succ_le_countP_le (List.pairwise_insertionSort _ l') hk'
  rw [(List.perm_insertionSort _ l').countP_eq] at hcount
  rw [(List.perm_insertionSort _ l).countP_eq]
  exact hcount.trans (countP_le_of_forall₂ h _)

end SwitchService.Foundation
