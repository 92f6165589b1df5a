import Mathlib.Data.Multiset.AddSub
import Mathlib.Data.List.Perm.Basic
import Mathlib.Data.List.Nodup

set_option autoImplicit false

/-!
# Foundation: the first element of each key

A list is collected one element at a time, and an element whose key is there already is
left out.  What is kept has every key once.  A value of the kept elements is the same
collection for every order of arrival exactly when the elements of one key agree on it.
-/

namespace SwitchService.Foundation

variable {α κ β : Type} [DecidableEq κ]

/-- Adds an element unless one of its key is there. -/
def addNew (key : α → κ) (kept : List α) (a : α) : List α :=
  if kept.any fun b => key b = key a then kept else kept ++ [a]

/-- The first element of each key, in the order of arrival. -/
def firstOfEach (key : α → κ) (xs : List α) : List α := xs.foldl (addNew key) []

variable {key : α → κ} {kept kept' xs ys : List α} {a b : α}

theorem addNew_of_mem (h : key a ∈ kept.map key) : addNew key kept a = kept := by
  obtain ⟨b, hb, hkey⟩ := List.mem_map.mp h
  have hany : (kept.any fun b => key b = key a) = true :=
    List.any_eq_true.mpr ⟨b, hb, decide_eq_true hkey⟩
  rw [addNew, if_pos hany]

theorem addNew_of_notMem (h : key a ∉ kept.map key) : addNew key kept a = kept ++ [a] := by
  have hany : ¬ (kept.any fun b => key b = key a) = true := by
    intro hany
    obtain ⟨b, hb, hkey⟩ := List.any_eq_true.mp hany
    exact h (List.mem_map.mpr ⟨b, hb, of_decide_eq_true hkey⟩)
  rw [addNew, if_neg hany]

/-! ## What is kept -/

theorem mem_foldl_addNew (h : a ∈ xs.foldl (addNew key) kept) : a ∈ kept ∨ a ∈ xs := by
  induction xs generalizing kept with
  | nil => exact .inl h
  | cons x xs ih =>
      rw [List.foldl_cons] at h
      by_cases hmem : key x ∈ kept.map key
      · rw [addNew_of_mem hmem] at h
        exact (ih h).imp_right (List.mem_cons_of_mem x)
      · rw [addNew_of_notMem hmem] at h
        rcases ih h with hkept | hxs
        · rcases List.mem_append.mp hkept with hold | hnew
          · exact .inl hold
          · rw [List.mem_singleton.mp hnew]
            exact .inr List.mem_cons_self
        · exact .inr (List.mem_cons_of_mem x hxs)

/-- What is added depends on the keys that are there. -/
theorem foldl_addNew_append (h : ∀ k, k ∈ kept.map key ↔ k ∈ kept'.map key) :
    ∃ more, xs.foldl (addNew key) kept = kept ++ more ∧
      xs.foldl (addNew key) kept' = kept' ++ more := by
  induction xs generalizing kept kept' with
  | nil => exact ⟨[], by simp, by simp⟩
  | cons x xs ih =>
      rw [List.foldl_cons, List.foldl_cons]
      by_cases hmem : key x ∈ kept.map key
      · rw [addNew_of_mem hmem, addNew_of_mem ((h _).mp hmem)]
        exact ih h
      · have hmem' : key x ∉ kept'.map key := fun hx => hmem ((h _).mpr hx)
        rw [addNew_of_notMem hmem, addNew_of_notMem hmem']
        have hnext : ∀ k, k ∈ (kept ++ [x]).map key ↔ k ∈ (kept' ++ [x]).map key := by
          intro k
          rw [List.map_append, List.map_append, List.mem_append, List.mem_append, h]
        obtain ⟨more, hmore, hmore'⟩ := ih hnext
        exact ⟨x :: more, by rw [hmore, List.append_assoc]; rfl,
          by rw [hmore', List.append_assoc]; rfl⟩

theorem keys_foldl_addNew (k : κ) :
    k ∈ (xs.foldl (addNew key) kept).map key ↔ k ∈ kept.map key ∨ k ∈ xs.map key := by
  induction xs generalizing kept with
  | nil => simp
  | cons x xs ih =>
      rw [List.foldl_cons, ih, List.map_cons, List.mem_cons]
      by_cases hmem : key x ∈ kept.map key
      · rw [addNew_of_mem hmem]
        constructor
        · exact fun h => h.imp_right .inr
        · rintro (hk | rfl | hk)
          · exact .inl hk
          · exact .inl hmem
          · exact .inr hk
      · rw [addNew_of_notMem hmem, List.map_append, List.mem_append, List.map_singleton,
          List.mem_singleton, or_assoc]

theorem nodup_foldl_addNew (h : (kept.map key).Nodup) :
    ((xs.foldl (addNew key) kept).map key).Nodup := by
  induction xs generalizing kept with
  | nil => exact h
  | cons x xs ih =>
      rw [List.foldl_cons]
      by_cases hmem : key x ∈ kept.map key
      · rw [addNew_of_mem hmem]
        exact ih h
      · rw [addNew_of_notMem hmem]
        refine ih ?_
        rw [List.map_append, List.map_singleton]
        exact h.append (List.nodup_singleton _) (List.disjoint_singleton.mpr hmem)

theorem mem_of_mem_firstOfEach (h : a ∈ firstOfEach key xs) : a ∈ xs :=
  (mem_foldl_addNew h).resolve_left List.not_mem_nil

/-- Every key has an element that was kept. -/
theorem exists_mem_firstOfEach (h : a ∈ xs) : ∃ b ∈ firstOfEach key xs, key b = key a :=
  List.mem_map.mp ((keys_foldl_addNew (key a)).mpr (.inr (List.mem_map_of_mem h)))

theorem nodup_firstOfEach (key : α → κ) (xs : List α) :
    ((firstOfEach key xs).map key).Nodup := nodup_foldl_addNew List.nodup_nil

/-! ## The order of arrival -/

/-- Where the elements of one key agree on a value, every order keeps the same values. -/
theorem firstOfEach_map_perm (f : α → β)
    (hagree : ∀ a ∈ xs, ∀ b ∈ xs, key a = key b → f a = f b) (h : ys.Perm xs) :
    ((firstOfEach key ys).map f).Perm ((firstOfEach key xs).map f) := by
  have hnodup : ∀ zs : List α, ((firstOfEach key zs).map fun a => (key a, f a)).Nodup := by
    intro zs
    refine List.Nodup.of_map Prod.fst ?_
    rw [List.map_map]
    exact nodup_firstOfEach key zs
  -- A kept pair is the pair of any element of its key.
  have hmem : ∀ zs : List α, zs.Perm xs → ∀ pair : κ × β,
      pair ∈ (firstOfEach key zs).map (fun a => (key a, f a)) ↔
        ∃ a ∈ xs, (key a, f a) = pair := by
    intro zs hzs pair
    rw [List.mem_map]
    constructor
    · rintro ⟨a, ha, hpair⟩
      exact ⟨a, hzs.mem_iff.mp (mem_of_mem_firstOfEach ha), hpair⟩
    · rintro ⟨a, ha, rfl⟩
      obtain ⟨b, hb, hkey⟩ : ∃ b ∈ firstOfEach key zs, key b = key a :=
        exists_mem_firstOfEach (hzs.mem_iff.mpr ha)
      have hbxs := hzs.mem_iff.mp (mem_of_mem_firstOfEach hb)
      exact ⟨b, hb, by rw [hkey, hagree b hbxs a ha hkey]⟩
  have hpairs : ((firstOfEach key ys).map fun a => (key a, f a)).Perm
      ((firstOfEach key xs).map fun a => (key a, f a)) := by
    refine (List.perm_ext_iff_of_nodup (hnodup ys) (hnodup xs)).mpr fun pair => ?_
    rw [hmem ys h, hmem xs (List.Perm.refl xs)]
  have hvalues := hpairs.map Prod.snd
  rw [List.map_map, List.map_map] at hvalues
  exact hvalues

/-- Two elements at the head of a list are the head in one of two orders. -/
theorem exists_perm_cons_cons (ha : a ∈ xs) (hb : b ∈ xs) (hne : a ≠ b) :
    ∃ rest, (a :: b :: rest).Perm xs ∧ (b :: a :: rest).Perm xs := by
  obtain ⟨front, back, rfl⟩ := List.append_of_mem ha
  have hb' : b ∈ front ++ back := by
    rcases List.mem_append.mp hb with hfront | hback
    · exact List.mem_append_left back hfront
    · rcases List.mem_cons.mp hback with heq | hmem
      · exact absurd heq.symm hne
      · exact List.mem_append_right front hmem
  obtain ⟨front', back', hsplit⟩ := List.append_of_mem hb'
  have hperm : (a :: b :: (front' ++ back')).Perm (front ++ a :: back) := by
    refine (List.Perm.cons a ?_).trans List.perm_middle.symm
    rw [hsplit]
    exact List.perm_middle.symm
  exact ⟨front' ++ back', hperm, (List.Perm.swap a b _).trans hperm⟩

/-- Where every order keeps the same values, the elements of one key agree. -/
theorem agree_of_map_perm (f : α → β)
    (h : ∀ ys, ys.Perm xs →
      ((firstOfEach key ys).map f).Perm ((firstOfEach key xs).map f))
    (ha : a ∈ xs) (hb : b ∈ xs) (hkey : key a = key b) : f a = f b := by
  by_cases heq : a = b
  · rw [heq]
  · obtain ⟨rest, hfirst, hsecond⟩ := exists_perm_cons_cons ha hb heq
    have hsame : ∀ k, k ∈ [a].map key ↔ k ∈ [b].map key := by simp [hkey]
    obtain ⟨more, hmore, hmore'⟩ : ∃ more, rest.foldl (addNew key) [a] = [a] ++ more ∧
        rest.foldl (addNew key) [b] = [b] ++ more := foldl_addNew_append hsame
    have hkept : firstOfEach key (a :: b :: rest) = a :: more := by
      have hb' : addNew key [a] b = [a] := addNew_of_mem (by simp [hkey])
      have ha' : addNew key [] a = [a] := rfl
      rw [firstOfEach, List.foldl_cons, List.foldl_cons, ha', hb', hmore]
      rfl
    have hkept' : firstOfEach key (b :: a :: rest) = b :: more := by
      have ha' : addNew key [b] a = [b] := addNew_of_mem (by simp [hkey])
      have hb' : addNew key [] b = [b] := rfl
      rw [firstOfEach, List.foldl_cons, List.foldl_cons, hb', ha', hmore']
      rfl
    have hperm := (h _ hfirst).trans (h _ hsecond).symm
    rw [hkept, hkept', List.map_cons, List.map_cons] at hperm
    have hcons : f a ::ₘ ((more.map f : List β) : Multiset β) =
        f b ::ₘ ((more.map f : List β) : Multiset β) := Multiset.coe_eq_coe.mpr hperm
    exact (Multiset.cons_inj_left _).mp hcons

end SwitchService.Foundation
