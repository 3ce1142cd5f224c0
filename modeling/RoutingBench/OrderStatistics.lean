import RoutingBench.Aggregate
import Mathlib.Algebra.Order.Field.Basic
import Mathlib.Data.List.Sort
import Mathlib.Tactic.Linarith
set_option autoImplicit false

/-!
Order statistics: the values of a list by their rank, and the median in terms of them.
-/

namespace Aggregate

section Rank

variable {κ : Type*} [LinearOrder κ]

def ranked (values : List κ) : List κ := values.mergeSort fun a b => a ≤ b

@[simp] theorem length_ranked (values : List κ) : (ranked values).length = values.length :=
  List.length_mergeSort _

theorem pairwise_ranked (values : List κ) : (ranked values).Pairwise (· ≤ ·) :=
  pairwise_orderBy id values

theorem getElem_le_iff {sorted : List κ} (h : sorted.Pairwise (· ≤ ·)) {k : ℕ}
    (hk : k < sorted.length) {x : κ} : sorted[k] ≤ x ↔ k < sorted.countP (· ≤ x) := by
  induction sorted generalizing k with
  | nil => simp at hk
  | cons a sorted ih =>
    obtain ⟨hhead,htail⟩ := List.pairwise_cons.mp h
    by_cases ha : a ≤ x
    · rw [List.countP_cons_of_pos (by simpa using ha)]
      cases k with
      | zero => simp [ha]
      | succ k => simpa using ih htail (by simpa using hk)
    · have hnone : (a :: sorted).countP (· ≤ x) = 0 := by
        rw [List.countP_eq_zero]
        intro b hb
        rcases List.mem_cons.mp hb with rfl | hb
        · simpa using ha
        · simpa using (not_le.mp ha).trans_le (hhead b hb)
      have hgt : ¬ (a :: sorted)[k] ≤ x := by
        have := List.countP_eq_zero.mp hnone _ (List.getElem_mem hk)
        simpa using this
      simp [hnone,hgt]

theorem ranked_le_iff {values : List κ} {k : ℕ} (hk : k < (ranked values).length) {x : κ} :
    (ranked values)[k] ≤ x ↔ k < values.countP (· ≤ x) := by
  rw [getElem_le_iff (pairwise_ranked values) hk]
  exact iff_of_eq (congrArg (k < ·) ((List.mergeSort_perm values _).countP_eq _))

theorem countP_le_of_forall₂ {xs ys : List κ} (h : List.Forall₂ (· ≤ ·) xs ys) (z : κ) :
    ys.countP (· ≤ z) ≤ xs.countP (· ≤ z) := by
  induction h with
  | nil => exact le_rfl
  | @cons a b xs ys hab _ ih =>
    by_cases hb : b ≤ z
    · rw [List.countP_cons_of_pos (by simpa using hb),
        List.countP_cons_of_pos (by simpa using hab.trans hb)]
      exact Nat.succ_le_succ ih
    · rw [List.countP_cons_of_neg (by simpa using hb)]
      exact ih.trans (List.sublist_cons_self a xs).countP_le

/-- Values that are pointwise not above others are not above them by rank. -/
theorem ranked_le_ranked {xs ys : List κ} (h : List.Forall₂ (· ≤ ·) xs ys) {k : ℕ} {x y : κ}
    (hx : (ranked xs)[k]? = some x) (hy : (ranked ys)[k]? = some y) : x ≤ y := by
  obtain ⟨hkx,rfl⟩ := List.getElem?_eq_some_iff.mp hx
  obtain ⟨hky,rfl⟩ := List.getElem?_eq_some_iff.mp hy
  exact (ranked_le_iff hkx).mpr
    (((ranked_le_iff hky).mp le_rfl).trans_le (countP_le_of_forall₂ h _))

theorem lt_of_lt_getElem {sorted : List κ} (h : sorted.Pairwise (· < ·)) {i j : ℕ} {x y : κ}
    (hij : i < j) (hi : sorted[i]? = some x) (hj : sorted[j]? = some y) : x < y := by
  obtain ⟨hleft,rfl⟩ := List.getElem?_eq_some_iff.mp hi
  obtain ⟨hright,rfl⟩ := List.getElem?_eq_some_iff.mp hj
  exact List.pairwise_iff_getElem.mp h i j hleft hright hij

theorem le_of_le_getElem {sorted : List κ} (h : sorted.Pairwise (· < ·)) {i j : ℕ} {x y : κ}
    (hij : i ≤ j) (hi : sorted[i]? = some x) (hj : sorted[j]? = some y) : x ≤ y := by
  rcases hij.lt_or_eq with hlt | rfl
  · exact (lt_of_lt_getElem h hlt hi hj).le
  · exact (Option.some.inj (hi.symm.trans hj)).le

theorem ranked_eq_of_perm {values sorted : List κ} (hperm : values.Perm sorted)
    (hsorted : sorted.Pairwise (· ≤ ·)) : ranked values = sorted :=
  ((List.mergeSort_perm values _).trans hperm).eq_of_pairwise
    (fun _ _ _ _ => le_antisymm) (pairwise_ranked values) hsorted

/-- The index of the first row of the smallest value. -/
def idxmin {α : Type*} (f : α → κ) (rows : List α) : Option ℕ :=
  (rows.map f).min?.map fun m => (rows.map f).idxOf m

theorem idxmin_eq_some_iff {α : Type*} {f : α → κ} {rows : List α} {k : ℕ} :
    idxmin f rows = some k ↔ ∃ above row below, rows = above ++ row :: below ∧ above.length = k ∧
      (∀ r ∈ rows, f row ≤ f r) ∧ ∀ r ∈ above, f row < f r := by
  simp only [idxmin,Option.map_eq_some_iff,List.min?_eq_some_iff,List.forall_mem_map]
  constructor
  · rintro ⟨m,⟨hm,hmin⟩,rfl⟩
    obtain ⟨before,after,hsplit,hnew⟩ := List.eq_append_cons_of_mem hm
    obtain ⟨above,rest,rfl,rfl,hrest⟩ := List.map_eq_append_iff.mp hsplit
    obtain ⟨row,below,rfl,rfl,rfl⟩ := List.map_eq_cons_iff.mp hrest
    refine ⟨above,row,below,rfl,?_,hmin,fun r hr => ?_⟩
    · rw [hsplit,List.idxOf_append_of_notMem hnew,List.idxOf_cons_self,Nat.add_zero,List.length_map]
    · refine lt_of_le_of_ne (hmin r (List.mem_append_left _ hr)) fun hsame => hnew ?_
      exact hsame ▸ List.mem_map_of_mem hr
  · rintro ⟨above,row,below,rfl,rfl,hmin,hfirst⟩
    refine ⟨f row,⟨by simp,hmin⟩,?_⟩
    have hnew : f row ∉ above.map f := by
      intro hrow
      obtain ⟨r,hr,hsame⟩ := List.mem_map.mp hrow
      exact (hfirst r hr).ne' hsame
    rw [List.map_append,List.map_cons,List.idxOf_append_of_notMem hnew,List.idxOf_cons_self,
      Nat.add_zero,List.length_map]

end Rank

section Middle

variable {κ : Type*} [Field κ] [LinearOrder κ] [IsStrictOrderedRing κ]

/-- The median is the mean of the two values in the middle, which are one if their number is
odd. -/
theorem median_eq_mean {values : List κ} {m : κ} (h : median values = some m) :
    ∃ lower upper, (ranked values)[(values.length - 1) / 2]? = some lower ∧
      (ranked values)[values.length / 2]? = some upper ∧ m = (lower + upper) / 2 := by
  have hranked : (values.mergeSort fun a b => decide (a ≤ b)) = ranked values := rfl
  simp only [median,hranked,length_ranked] at h
  split at h
  · rename_i hodd
    have hsame : (values.length - 1) / 2 = values.length / 2 := by omega
    exact ⟨m,m,hsame ▸ h,h,(add_self_div_two m).symm⟩
  · rename_i heven
    have hlower : (values.length - 1) / 2 = values.length / 2 - 1 := by omega
    obtain ⟨lower,hl,hrest⟩ := Option.bind_eq_some_iff.mp h
    obtain ⟨upper,hu,rfl⟩ := Option.map_eq_some_iff.mp hrest
    exact ⟨lower,upper,hlower ▸ hl,hu,rfl⟩

omit [IsStrictOrderedRing κ] in
theorem median_perm {xs ys : List κ} (h : xs.Perm ys) : median xs = median ys := by
  have hranked : (xs.mergeSort fun a b => decide (a ≤ b)) = ys.mergeSort fun a b => a ≤ b :=
    ranked_eq_of_perm (h.trans (List.mergeSort_perm ys _).symm) (pairwise_ranked ys)
  simp only [median,hranked]

/-- Medians keep the order of values that are ordered pointwise. -/
theorem median_le_median {xs ys : List κ} (h : List.Forall₂ (· ≤ ·) xs ys) {a b : κ}
    (ha : median xs = some a) (hb : median ys = some b) : a ≤ b := by
  obtain ⟨lower,upper,hl,hu,rfl⟩ := median_eq_mean ha
  obtain ⟨lower',upper',hl',hu',rfl⟩ := median_eq_mean hb
  rw [h.length_eq] at hl hu
  have hlower := ranked_le_ranked h hl hl'
  have hupper := ranked_le_ranked h hu hu'
  linarith

/-- Values at the ends change the median: it is greater for the upper part of a strictly
increasing list than for the lower part. -/
theorem median_lt_median {low common high xs ys : List κ}
    (hincreasing : (low ++ common ++ high).Pairwise (· < ·)) (hends : low ++ high ≠ [])
    (hxs : xs.Perm (common ++ high)) (hys : ys.Perm (low ++ common)) {a b : κ}
    (ha : median xs = some a) (hb : median ys = some b) : b < a := by
  have hall : (low ++ (common ++ high)).Pairwise (· < ·) := List.append_assoc _ _ _ ▸ hincreasing
  have hrx := ranked_eq_of_perm hxs ((List.pairwise_append.mp hall).2.1.imp le_of_lt)
  have hry := ranked_eq_of_perm hys ((List.pairwise_append.mp hincreasing).1.imp le_of_lt)
  obtain ⟨lower,upper,hl,hu,rfl⟩ := median_eq_mean ha
  obtain ⟨lower',upper',hl',hu',rfl⟩ := median_eq_mean hb
  have hx : ∀ {k : ℕ} {x : κ}, (ranked xs)[k]? = some x →
      (low ++ common ++ high)[low.length + k]? = some x := by
    intro k x hk
    rw [List.append_assoc,List.getElem?_append_right (Nat.le_add_right _ _),← hrx]
    simpa using hk
  have hy : ∀ {k : ℕ} {x : κ}, (ranked ys)[k]? = some x → (low ++ common ++ high)[k]? = some x := by
    intro k x hk
    rw [hry] at hk
    rw [List.getElem?_append_left (List.getElem?_eq_some_iff.mp hk).1,hk]
  have hlengthx : xs.length = common.length + high.length := by rw [hxs.length_eq,List.length_append]
  have hlengthy : ys.length = low.length + common.length := by rw [hys.length_eq,List.length_append]
  have hpos : 0 < low.length + high.length := by
    rw [← List.length_append]
    exact List.length_pos_iff.mpr hends
  have hxsome : (xs.length - 1) / 2 < xs.length := by
    simpa using (List.getElem?_eq_some_iff.mp hl).1
  have hysome : (ys.length - 1) / 2 < ys.length := by
    simpa using (List.getElem?_eq_some_iff.mp hl').1
  have hlower : lower' ≤ lower := le_of_le_getElem hincreasing (by omega) (hy hl') (hx hl)
  have hupper : upper' ≤ upper := le_of_le_getElem hincreasing (by omega) (hy hu') (hx hu)
  -- one of the two ranks is not the same
  by_cases hstrict : (ys.length - 1) / 2 < low.length + (xs.length - 1) / 2
  · have := lt_of_lt_getElem hincreasing hstrict (hy hl') (hx hl)
    linarith
  · have := lt_of_lt_getElem hincreasing (by omega) (hy hu') (hx hu)
    linarith

end Middle

end Aggregate
