import RoutingBench.ExchangeSort
import RoutingBench.OrderStatistics
import Mathlib.Analysis.Real.Sqrt
set_option autoImplicit false

/-!
compute_stats of run_failover_test.sh, an awk program that reads numbers and prints their mean,
median, minimum, maximum and standard deviation. The numbers are exact, and are not rounded as they
are printed.
-/

namespace RoutingBench
open Aggregate

/-- The pattern `^[0-9]+(\.[0-9]+)?$`. -/
def isNumber (line : List Char) : Bool :=
  line.takeWhile Char.isDigit ≠ [] &&
    match line.dropWhile Char.isDigit with
    | [] => true
    | '.' :: fraction => fraction ≠ [] && fraction.all Char.isDigit
    | _ => false

def digitsValue (digits : List Char) : ℚ :=
  digits.foldl (fun value c => 10 * value + (c.toNat - '0'.toNat : ℕ)) 0

/-- `$1 + 0` of a line that has the pattern. -/
def toNumber (line : List Char) : ℚ :=
  let fraction := (line.dropWhile Char.isDigit).drop 1
  digitsValue (line.takeWhile Char.isDigit) + digitsValue fraction / 10 ^ fraction.length

/-- The variables of the program; what `vals` does not have is 0. -/
structure AwkStats where
  n : ℕ := 0
  vals : ℕ → ℚ := fun _ => 0
  sum : ℚ := 0

def AwkStats.read (self : AwkStats) (line : String) : AwkStats :=
  if isNumber line.toList then
    { n := self.n + 1
      vals := Function.update self.vals (self.n + 1) (toNumber line.toList)
      sum := self.sum + toNumber line.toList }
  else self

structure Stats (ρ : Type*) where
  mean : ℚ
  median : ℚ
  min : ℚ
  max : ℚ
  stddev : ρ

def awkRead (lines : List String) : AwkStats := lines.foldl AwkStats.read {}

/-- Nothing but hyphens is printed if there is no number. -/
def computeStats {ρ : Type*} (sqrt : ℚ → ρ) (lines : List String) : Option (Stats ρ) :=
  let s := awkRead lines
  if s.n = 0 then none
  else
    let mean := s.sum / s.n
    let sumsq := (List.range' 1 s.n).foldl (fun sumsq i => sumsq + (s.vals i - mean) ^ 2) 0
    let denom : ℚ := if 1 < s.n then s.n - 1 else 1
    let vals := ExchangeSort.sort s.n s.vals
    some {
      mean := mean
      median := if s.n % 2 = 0 then (vals (s.n / 2) + vals (s.n / 2 + 1)) / 2
        else vals (s.n / 2 + 1)
      min := vals 1
      max := vals s.n
      stddev := sqrt (sumsq / denom) }

def numbers (lines : List String) : List ℚ :=
  (lines.filter fun line => isNumber line.toList).map fun line => toNumber line.toList

def average (values : List ℚ) : ℚ := values.sum / values.length

def sampleVariance (values : List ℚ) : ℚ :=
  if values.length < 2 then 0
  else (values.map fun v => (v - average values) ^ 2).sum / (values.length - 1)

/-- What the five results are to be. -/
structure IsStatistics {ρ : Type*} (sqrt : ℚ → ρ) (values : List ℚ) (s : Stats ρ) : Prop where
  mean : s.mean = average values
  median : Aggregate.median values = some s.median
  min : s.min ∈ values ∧ ∀ v ∈ values, s.min ≤ v
  max : s.max ∈ values ∧ ∀ v ∈ values, v ≤ s.max
  stddev : s.stddev = sqrt (sampleVariance values)

section Read

theorem values_update (n : ℕ) (vals : ℕ → ℚ) (x : ℚ) :
    ExchangeSort.values (n + 1) (Function.update vals (n + 1) x) =
      ExchangeSort.values n vals ++ [x] := by
  rw [ExchangeSort.values,List.range'_concat,List.map_append,ExchangeSort.values]
  congr 1
  · refine List.map_congr_left fun k hk => Function.update_of_ne ?_ x vals
    rw [List.mem_range'_1] at hk
    omega
  · simp [Nat.add_comm 1 n]

theorem numbers_append (lines rest : List String) :
    numbers (lines ++ rest) = numbers lines ++ numbers rest := by
  simp [numbers]

theorem awkRead_eq (lines : List String) : (awkRead lines).n = (numbers lines).length ∧
    ExchangeSort.values (awkRead lines).n (awkRead lines).vals = numbers lines ∧
      (awkRead lines).sum = (numbers lines).sum := by
  induction lines using List.reverseRecOn with
  | nil => exact ⟨rfl,rfl,rfl⟩
  | append_singleton lines line ih =>
    obtain ⟨hn,hvals,hsum⟩ := ih
    rw [awkRead] at hn hvals hsum
    rw [awkRead,List.foldl_concat,AwkStats.read,numbers_append]
    split
    next hnumber =>
      have hline : numbers [line] = [toNumber line.toList] := by simp [numbers,hnumber]
      rw [values_update,hline,hvals]
      exact ⟨by simp [hn],rfl,by simp [hsum]⟩
    next hother =>
      have hline : numbers [line] = [] := by simp [numbers,hother]
      rw [hline,List.append_nil]
      exact ⟨hn,hvals,hsum⟩

end Read

section Sorted

variable {ρ : Type*} {sqrt : ℚ → ρ} {n : ℕ} {vals : ℕ → ℚ} {values : List ℚ}

theorem sort_eq_ranked (h : ExchangeSort.values n vals = values) {k : ℕ} (hk : k < n) :
    (ranked values)[k]? = some (ExchangeSort.sort n vals (k + 1)) := by
  have hranked : ranked values = ExchangeSort.values n (ExchangeSort.sort n vals) :=
    ranked_eq_of_perm (h ▸ (ExchangeSort.sort_perm n vals).symm) (ExchangeSort.sort_pairwise n vals)
  rw [hranked,ExchangeSort.values,List.getElem?_map,List.getElem?_range' hk]
  simp [Nat.add_comm]

theorem sort_min (h : ExchangeSort.values n vals = values) (hn : 0 < n) :
    ExchangeSort.sort n vals 1 ∈ values ∧ ∀ v ∈ values, ExchangeSort.sort n vals 1 ≤ v := by
  subst h
  refine ⟨ExchangeSort.mem_values_iff.mpr ⟨1,le_rfl,hn,rfl⟩,fun v hv => ?_⟩
  obtain ⟨k,hk,hkn,rfl⟩ := ExchangeSort.mem_values_iff.mp hv
  exact ExchangeSort.sort_le le_rfl hk hkn

theorem sort_max (h : ExchangeSort.values n vals = values) (hn : 0 < n) :
    ExchangeSort.sort n vals n ∈ values ∧ ∀ v ∈ values, v ≤ ExchangeSort.sort n vals n := by
  subst h
  refine ⟨ExchangeSort.mem_values_iff.mpr ⟨n,hn,le_rfl,rfl⟩,fun v hv => ?_⟩
  obtain ⟨k,hk,hkn,rfl⟩ := ExchangeSort.mem_values_iff.mp hv
  exact ExchangeSort.sort_le hk hkn le_rfl

theorem sort_median (h : ExchangeSort.values n vals = values) (hn : 0 < n) :
    Aggregate.median values = some (if n % 2 = 0 then
      (ExchangeSort.sort n vals (n / 2) + ExchangeSort.sort n vals (n / 2 + 1)) / 2
        else ExchangeSort.sort n vals (n / 2 + 1)) := by
  have hlength : (ranked values).length = n := by
    rw [length_ranked,← h,ExchangeSort.values,List.length_map,List.length_range']
  have hsorted : (values.mergeSort fun a b => decide (a ≤ b)) = ranked values := rfl
  have hupper := sort_eq_ranked h (show n / 2 < n by omega)
  simp only [Aggregate.median,hsorted,hlength]
  by_cases hparity : n % 2 = 0
  · have hlower := sort_eq_ranked h (show n / 2 - 1 < n by omega)
    rw [Nat.sub_add_cancel (by omega)] at hlower
    rw [if_neg (by omega),if_pos hparity,hlower,hupper]
    rfl
  · rw [if_pos (by omega),if_neg hparity,hupper]

theorem foldl_places (h : ExchangeSort.values n vals = values) (f : ℚ → ℚ) :
    (List.range' 1 n).foldl (fun sum i => sum + f (vals i)) 0 = (values.map f).sum := by
  rw [← h,ExchangeSort.values,List.map_map,List.sum_eq_foldl,List.foldl_map]
  rfl

theorem sampleVariance_eq (h : values ≠ []) : sampleVariance values =
    (values.map fun v => (v - average values) ^ 2).sum /
      if 1 < values.length then (values.length : ℚ) - 1 else 1 := by
  rw [sampleVariance]
  obtain ⟨v,rest,rfl⟩ := List.exists_cons_of_ne_nil h
  cases rest with
  | nil => simp [average]
  | cons w rest => simp

end Sorted

section Result

variable {ρ : Type*} {sqrt : ℚ → ρ} {lines : List String} {values : List ℚ} {s t : Stats ρ}

theorem computeStats_statistics (h : numbers lines ≠ []) : ∃ s,
    computeStats sqrt lines = some s ∧ IsStatistics sqrt (numbers lines) s := by
  obtain ⟨hn,hvals,hsum⟩ := awkRead_eq lines
  have hpos : 0 < (awkRead lines).n := by
    rw [hn]
    exact List.length_pos_iff.mpr h
  refine ⟨_,if_neg hpos.ne',?_⟩
  constructor
  case mean => rw [average,← hn,← hsum]
  case median => exact sort_median hvals hpos
  case min => exact sort_min hvals hpos
  case max => exact sort_max hvals hpos
  case stddev =>
    rw [sampleVariance_eq h,← foldl_places hvals fun v => (v - average (numbers lines)) ^ 2,
      average,← hn,← hsum]

/-- The statistics of values do not depend on their order. -/
theorem IsStatistics.eq {values' : List ℚ} (hs : IsStatistics sqrt values s)
    (ht : IsStatistics sqrt values' t) (h : values'.Perm values) : t = s := by
  have haverage : average values' = average values := by
    rw [average,average,h.sum_eq,h.length_eq]
  have hvariance : sampleVariance values' = sampleVariance values := by
    rw [sampleVariance,sampleVariance,haverage,h.length_eq,(h.map _).sum_eq]
  have hmedian : Aggregate.median values' = Aggregate.median values := median_perm h
  have hmin : t.min = s.min := le_antisymm (ht.min.2 _ (h.mem_iff.mpr hs.min.1))
    (hs.min.2 _ (h.mem_iff.mp ht.min.1))
  have hmax : t.max = s.max := le_antisymm (hs.max.2 _ (h.mem_iff.mp ht.max.1))
    (ht.max.2 _ (h.mem_iff.mpr hs.max.1))
  cases s
  cases t
  congr
  · exact ht.mean.trans (haverage.trans hs.mean.symm)
  · exact Option.some.inj (ht.median.symm.trans (hmedian.trans hs.median))
  · exact ht.stddev.trans ((congrArg sqrt hvariance).trans hs.stddev.symm)

noncomputable def realSqrt (q : ℚ) : ℝ := Real.sqrt q

/-- The five results are those of the lines that are numbers, in whatever order they are read, and
the array is sorted. -/
structure StatisticsOf (lines : List String) (s : Stats ℝ) : Prop where
  printed : computeStats realSqrt lines = some s
  right : IsStatistics realSqrt (numbers lines) s
  single : (numbers lines).length = 1 → s.stddev = 0
  order : ∀ lines', (numbers lines').Perm (numbers lines) → computeStats realSqrt lines' = some s
  sorted : let vals := ExchangeSort.sort (awkRead lines).n (awkRead lines).vals
    (ExchangeSort.values (awkRead lines).n vals).Pairwise (· ≤ ·) ∧
      (ExchangeSort.values (awkRead lines).n vals).Perm (numbers lines)

theorem numbers_ne_nil (h : ∃ line ∈ lines, isNumber line.toList = true) : numbers lines ≠ [] := by
  obtain ⟨line,hline,hnumber⟩ := h
  exact List.ne_nil_of_mem (List.mem_map_of_mem (List.mem_filter.mpr ⟨hline,hnumber⟩))

theorem compute_stats_right (h : ∃ line ∈ lines, isNumber line.toList = true) :
    ∃ s, StatisticsOf lines s := by
  have hne := numbers_ne_nil h
  obtain ⟨s,hprinted,hright⟩ : ∃ s, computeStats realSqrt lines = some s ∧
      IsStatistics realSqrt (numbers lines) s := computeStats_statistics hne
  refine ⟨s,hprinted,hright,fun hsingle => ?_,fun lines' hperm => ?_,?_,?_⟩
  · rw [hright.stddev,sampleVariance,if_pos (by omega),realSqrt,Rat.cast_zero,Real.sqrt_zero]
  · have hne' : numbers lines' ≠ [] := fun hnil => hne (hnil ▸ hperm).nil_eq.symm
    obtain ⟨t,hprinted',hright'⟩ : ∃ t, computeStats realSqrt lines' = some t ∧
        IsStatistics realSqrt (numbers lines') t := computeStats_statistics hne'
    rw [hprinted',hright.eq hright' hperm]
  · exact ExchangeSort.sort_pairwise _ _
  · exact (ExchangeSort.sort_perm _ _).trans (List.Perm.of_eq (awkRead_eq lines).2.1)

theorem compute_stats_right_downtimes : numbers ["3.5","—","12.0"] = [7 / 2,12] ∧
    ∃ s, StatisticsOf ["3.5","—","12.0"] s :=
  ⟨by decide +kernel,compute_stats_right ⟨"3.5",List.mem_cons_self,by decide⟩⟩

end Result

end RoutingBench
