import Mathlib.Data.List.Sort

set_option autoImplicit false

/-!
# Foundation: lists with one class of elements first

A sort whose comparison puts one class of elements before the other keeps the classes
apart, whatever it does inside each of them.  In such a list the first element of the
class is the head, and the others of the class stand after it.

A comparison that is a strict total order on the elements of a list sorts it in one way
only.
-/

namespace SwitchService.Foundation

variable {α : Type}

/-- Every element of the class stands before every element outside. -/
def ClassFirst (p : α → Bool) (l : List α) : Prop :=
  l.Pairwise fun a b => p b = true → p a = true

theorem classFirst_iff_getElem {p : α → Bool} {l : List α} :
    ClassFirst p l ↔ ∀ (i j : ℕ) (hi : i < l.length) (hj : j < l.length), i < j →
      p l[j] = true → p l[i] = true := List.pairwise_iff_getElem

/-! ## Sorting -/

theorem ClassFirst.orderedInsert {p : α → Bool} {r : α → α → Prop} [DecidableRel r]
    (hbefore : ∀ a b, p a = true → p b = false → r a b)
    (hafter : ∀ a b, p a = false → p b = true → ¬ r a b) (a : α) {l : List α}
    (h : ClassFirst p l) : ClassFirst p (l.orderedInsert r a) := by
  induction l with
  | nil => exact List.pairwise_singleton _ _
  | cons b l ih =>
      obtain ⟨hb, hl⟩ := List.pairwise_cons.mp h
      rw [List.orderedInsert_cons]
      split
      · rename_i hab
        refine List.pairwise_cons.mpr ⟨fun c hc hpc => ?_, h⟩
        -- An element of the class makes the old head one of the class.
        have hpb : p b = true := by
          rcases List.mem_cons.mp hc with rfl | hc
          · exact hpc
          · exact hb c hc hpc
        by_contra hpa
        exact hafter a b (by simpa using hpa) hpb hab
      · rename_i hab
        refine List.pairwise_cons.mpr ⟨fun c hc hpc => ?_, ih hl⟩
        rcases (List.mem_orderedInsert r).mp hc with rfl | hc
        · by_contra hpb
          exact hab (hbefore c b hpc (by simpa using hpb))
        · exact hb c hc hpc

/-- A sort that compares the classes first puts them in order. -/
theorem classFirst_insertionSort {p : α → Bool} {r : α → α → Prop} [DecidableRel r]
    (hbefore : ∀ a b, p a = true → p b = false → r a b)
    (hafter : ∀ a b, p a = false → p b = true → ¬ r a b) (l : List α) :
    ClassFirst p (l.insertionSort r) := by
  induction l with
  | nil => exact List.Pairwise.nil
  | cons a l ih => exact ih.orderedInsert hbefore hafter a

/-! ## The elements of the class -/

/-- The first of the class has the others of the class behind it. -/
theorem mem_tail_of_filter {p : α → Bool} {l others : List α} {first : α}
    (h : l.filter p = first :: others) : ∀ a ∈ others, a ∈ l.tail := by
  cases l with
  | nil => simp at h
  | cons b l =>
      intro a ha
      rw [List.filter_cons] at h
      split at h
      · obtain ⟨rfl, rfl⟩ := List.cons.inj h
        exact (List.mem_filter.mp ha).1
      · have hmem : a ∈ l.filter p := by
          rw [h]
          exact List.mem_cons_of_mem _ ha
        exact (List.mem_filter.mp hmem).1

/-- Where the class stands first, its first element is the head. -/
theorem ClassFirst.head_of_filter {p : α → Bool} {l others : List α} {first : α}
    (hl : ClassFirst p l) (h : l.filter p = first :: others) : l.head? = some first := by
  cases l with
  | nil => simp at h
  | cons b l =>
      have hfirst : first ∈ b :: l ∧ p first = true := by
        rw [← List.mem_filter, h]
        exact List.mem_cons_self
      have hb : p b = true := by
        rcases List.mem_cons.mp hfirst.1 with rfl | hmem
        · exact hfirst.2
        · exact (List.pairwise_cons.mp hl).1 first hmem hfirst.2
      rw [List.filter_cons, if_pos hb] at h
      obtain ⟨rfl, _⟩ := List.cons.inj h
      rfl

/-! ## Sorting by a comparison -/

/-- The relation that a sort with a comparison function works by. -/
abbrev NotAfter (cmp : α → α → Ordering) (a b : α) : Prop := cmp a b ≠ .gt

/-- The comparison is consistent on the elements of a set. -/
structure ConsistentOn (cmp : α → α → Ordering) (s : Set α) : Prop where
  swap : ∀ a ∈ s, ∀ b ∈ s, cmp b a = (cmp a b).swap
  trans : ∀ a ∈ s, ∀ b ∈ s, ∀ c ∈ s, NotAfter cmp a b → NotAfter cmp b c → NotAfter cmp a c

/-- The comparison is a strict total order on the elements of a set. -/
structure StrictOrderOn (cmp : α → α → Ordering) (s : Set α) : Prop
    extends ConsistentOn cmp s where
  eq_iff : ∀ a ∈ s, ∀ b ∈ s, cmp a b = .eq ↔ a = b

/-- A lawful comparison is a strict total order on every set. -/
theorem strictOrderOn_of_lawful {cmp : α → α → Ordering} [Std.TransCmp cmp]
    [Std.LawfulEqCmp cmp] (s : Set α) : StrictOrderOn cmp s where
  swap _ _ _ _ := Std.OrientedCmp.eq_swap
  trans a _ b _ c _ hab hbc := by
    rw [NotAfter, ne_eq, Ordering.ne_gt_iff_isLE] at hab hbc ⊢
    exact Std.TransCmp.isLE_trans hab hbc
  eq_iff _ _ _ _ := Std.LawfulEqCmp.compare_eq_iff_eq

namespace ConsistentOn

variable {cmp : α → α → Ordering} {s : Set α} (h : ConsistentOn cmp s)

include h

theorem total {a b : α} (ha : a ∈ s) (hb : b ∈ s) : NotAfter cmp a b ∨ NotAfter cmp b a := by
  unfold NotAfter
  rw [h.swap a ha b hb]
  cases cmp a b with
  | lt => simp
  | eq => simp
  | gt => simp

/-- Inserting an element into a list that is in order. -/
theorem pairwise_orderedInsert {a : α} (ha : a ∈ s) {l : List α}
    (hl : l.Pairwise (NotAfter cmp)) (hmem : ∀ b ∈ l, b ∈ s) :
    (l.orderedInsert (fun a b => NotAfter cmp a b) a).Pairwise (NotAfter cmp) := by
  induction l with
  | nil => exact List.pairwise_singleton _ _
  | cons b l ih =>
      obtain ⟨hb, hl'⟩ := List.pairwise_cons.mp hl
      have hbs : b ∈ s := hmem b List.mem_cons_self
      have hmem' : ∀ c ∈ l, c ∈ s := fun c hc => hmem c (List.mem_cons_of_mem b hc)
      rw [List.orderedInsert_cons]
      split
      · rename_i hab
        refine List.pairwise_cons.mpr ⟨fun c hc => ?_, hl⟩
        rcases List.mem_cons.mp hc with rfl | hc
        · exact hab
        · exact h.trans a ha b hbs c (hmem' c hc) hab (hb c hc)
      · rename_i hab
        refine List.pairwise_cons.mpr ⟨fun c hc => ?_, ih hl' hmem'⟩
        rcases (List.mem_orderedInsert _).mp hc with rfl | hc
        · exact (h.total ha hbs).resolve_left hab
        · exact hb c hc

/-- Sorting by a consistent comparison puts the elements in order. -/
theorem pairwise_insertionSort {l : List α} (hmem : ∀ a ∈ l, a ∈ s) :
    (l.insertionSort fun a b => NotAfter cmp a b).Pairwise (NotAfter cmp) := by
  induction l with
  | nil => exact List.Pairwise.nil
  | cons a l ih =>
      have hl : ∀ b ∈ l, b ∈ s := fun b hb => hmem b (List.mem_cons_of_mem a hb)
      rw [List.insertionSort_cons]
      exact h.pairwise_orderedInsert (hmem a List.mem_cons_self) (ih hl) fun b hb =>
        hl b ((List.mem_insertionSort _).mp hb)

/-- In a list that is in order, the one of two elements that comes first stands first. -/
theorem getElem_lt {l : List α} (hl : l.Pairwise (NotAfter cmp)) (hmem : ∀ a ∈ l, a ∈ s)
    {i j : ℕ} (hi : i < l.length) (hj : j < l.length) (hlt : cmp l[i] l[j] = .lt) : i < j := by
  have hswap := h.swap _ (hmem _ (List.getElem_mem hi)) _ (hmem _ (List.getElem_mem hj))
  rw [hlt] at hswap
  rcases lt_trichotomy i j with hij | rfl | hji
  · exact hij
  · rw [hlt] at hswap
    cases hswap
  · exact absurd hswap (List.pairwise_iff_getElem.mp hl j i hj hi hji)

end ConsistentOn

namespace StrictOrderOn

variable {cmp : α → α → Ordering} {s : Set α} (h : StrictOrderOn cmp s)

include h

theorem notAfter_iff {a b : α} (ha : a ∈ s) (hb : b ∈ s) :
    NotAfter cmp a b ↔ cmp a b = .lt ∨ a = b := by
  rw [← h.eq_iff a ha b hb]
  unfold NotAfter
  cases cmp a b with
  | lt => simp
  | eq => simp
  | gt => simp

theorem antisymm {a b : α} (ha : a ∈ s) (hb : b ∈ s) (hab : NotAfter cmp a b)
    (hba : NotAfter cmp b a) : a = b := by
  unfold NotAfter at hba
  rw [h.swap a ha b hb] at hba
  rcases (h.notAfter_iff ha hb).mp hab with hlt | heq
  · rw [hlt] at hba
    exact absurd rfl hba
  · exact heq

/-- A list has one order under a strict total order on its elements. -/
theorem insertionSort_perm {l l' : List α} (hmem : ∀ a ∈ l, a ∈ s) (hperm : l'.Perm l) :
    (l'.insertionSort fun a b => NotAfter cmp a b) =
      l.insertionSort fun a b => NotAfter cmp a b := by
  have hmem' : ∀ a ∈ l', a ∈ s := fun a ha => hmem a (hperm.mem_iff.mp ha)
  refine List.Perm.eq_of_pairwise (fun a b ha hb hab hba => ?_)
    (h.pairwise_insertionSort hmem') (h.pairwise_insertionSort hmem)
    ((List.perm_insertionSort _ l').trans (hperm.trans (List.perm_insertionSort _ l).symm))
  exact h.antisymm (hmem' a ((List.mem_insertionSort _).mp ha))
    (hmem b ((List.mem_insertionSort _).mp hb)) hab hba

end StrictOrderOn

end SwitchService.Foundation
