import RoutingBench.OrderStatistics
import RoutingBench.PhaseCharts
set_option autoImplicit false

/-!
The medians of the waterfall are taken over the runs that have the milestone. When do they keep
an order that the milestones have in every run?
-/

namespace RoutingBench
open Aggregate

inductive WaterfallColumn where
  | t0
  | t1
  | t2
  | t3
  | t4
  | tc
  deriving DecidableEq, Repr

def WaterfallRow.offset (row : WaterfallRow ℚ) : WaterfallColumn → Option ℚ
  | .t0 => row.dtT0
  | .t1 => row.dtT1
  | .t2 => row.dtT2
  | .t3 => row.dtT3
  | .t4 => row.dtT4
  | .tc => row.dtTc

def Medians.offset (m : Medians) : WaterfallColumn → Option ℚ
  | .t0 => m.t0
  | .t1 => m.t1
  | .t2 => m.t2
  | .t3 => m.t3
  | .t4 => m.t4
  | .tc => m.tc

/-- In every run the one milestone is not later than the other, if it has both. -/
def RunsOrdered (rows : List (WaterfallRow ℚ)) (i j : WaterfallColumn) : Prop :=
  ∀ row ∈ rows, ∀ a ∈ row.offset i, ∀ b ∈ row.offset j, a ≤ b

def MediansOrdered (rows : List (WaterfallRow ℚ)) (i j : WaterfallColumn) : Prop :=
  ∀ m, computeWaterfall rows = some m → ∀ a ∈ m.offset i, ∀ b ∈ m.offset j, a ≤ b

def presence (rows : List (WaterfallRow ℚ)) : List (WaterfallColumn → Bool) :=
  rows.map fun row c => (row.offset c).isSome

section Columns

variable {rows : List (WaterfallRow ℚ)} {m : Medians} {i j : WaterfallColumn}

theorem computeWaterfall_offset (h : computeWaterfall rows = some m) (c : WaterfallColumn) :
    m.offset c = median (rows.filterMap fun row => row.offset c) := by
  simp only [computeWaterfall] at h
  split at h
  · contradiction
  · obtain rfl := Option.some.inj h
    cases c <;> rfl

theorem exists_computeWaterfall (h : rows ≠ []) : ∃ m, computeWaterfall rows = some m := by
  simp [computeWaterfall,h]

theorem forall₂_offsets (hsame : ∀ row ∈ rows, (row.offset i).isSome = (row.offset j).isSome)
    (hordered : RunsOrdered rows i j) :
    List.Forall₂ (· ≤ ·) (rows.filterMap fun row => row.offset i)
      (rows.filterMap fun row => row.offset j) := by
  induction rows with
  | nil => exact .nil
  | cons row rows ih =>
    obtain ⟨hhead,htail⟩ := List.forall_mem_cons.mp hsame
    obtain ⟨hle,hrest⟩ := List.forall_mem_cons.mp hordered
    have hvalues := ih htail hrest
    cases hi : row.offset i with
    | none =>
      have hj : row.offset j = none := by simpa [hi] using hhead
      simp only [List.filterMap_cons,hi,hj]
      exact hvalues
    | some a =>
      obtain ⟨b,hj⟩ := Option.isSome_iff_exists.mp (hhead.symm.trans (by rw [hi]; rfl))
      simp only [List.filterMap_cons,hi,hj]
      exact .cons (hle a hi b hj) hvalues

/-- Of milestones of the same runs the medians keep the order. -/
theorem mediansOrdered_of_same
    (hsame : ∀ row ∈ rows, (row.offset i).isSome = (row.offset j).isSome)
    (hordered : RunsOrdered rows i j) : MediansOrdered rows i j := by
  intro m hm a ha b hb
  rw [Option.mem_def,computeWaterfall_offset hm] at ha hb
  exact median_le_median (forall₂_offsets hsame hordered) ha hb

theorem offset_none (hnone : ∀ row ∈ rows, row.offset i = none)
    (hm : computeWaterfall rows = some m) : m.offset i = none := by
  rw [computeWaterfall_offset hm,List.filterMap_eq_nil_iff.mpr hnone,median_nil]

theorem exists_median (hi : ∃ p ∈ presence rows, p i = true) :
    ∃ m a, computeWaterfall rows = some m ∧ m.offset i = some a := by
  obtain ⟨p,hp,hpi⟩ := hi
  obtain ⟨row,hrow,rfl⟩ := List.mem_map.mp hp
  obtain ⟨m,hm⟩ := exists_computeWaterfall (List.ne_nil_of_mem hrow)
  obtain ⟨a,ha⟩ := Option.isSome_iff_exists.mp hpi
  have hne : rows.filterMap (fun row => row.offset i) ≠ [] :=
    List.ne_nil_of_mem (List.mem_filterMap.mpr ⟨row,hrow,ha⟩)
  obtain ⟨b,hb⟩ := Option.isSome_iff_exists.mp (median_isSome hne)
  exact ⟨m,b,hm,(computeWaterfall_offset hm i).trans hb⟩

end Columns

/-- A run that has the milestones of a pattern, at given offsets. -/
def runAt (p : WaterfallColumn → Bool) (value : WaterfallColumn → ℚ) : WaterfallRow ℚ where
  runId := ""
  dtT0 := if p .t0 then some (value .t0) else none
  dtT1 := if p .t1 then some (value .t1) else none
  dtT2 := if p .t2 then some (value .t2) else none
  dtT3 := if p .t3 then some (value .t3) else none
  dtT4 := if p .t4 then some (value .t4) else none
  dtTc := if p .tc then some (value .tc) else none

/-- The k-th of n runs with two milestones of the same offset. The one milestone is later than
these in the runs that have it alone, and the other one is earlier. -/
def apartOffset (i j : WaterfallColumn) (n : ℕ) (p : WaterfallColumn → Bool) (k : ℕ)
    (c : WaterfallColumn) : ℚ :=
  if c = i then if p j then n + k + 1 else 2 * n + k + 1
  else if p i then n + k + 1 else k + 1

def apartRuns (i j : WaterfallColumn) (pattern : List (WaterfallColumn → Bool)) :
    List (WaterfallRow ℚ) :=
  pattern.zipIdx.map fun q => runAt q.1 (apartOffset i j pattern.length q.1 q.2)

section Apart

variable {i j : WaterfallColumn} {pattern : List (WaterfallColumn → Bool)}

theorem offset_runAt (p : WaterfallColumn → Bool) (value : WaterfallColumn → ℚ)
    (c : WaterfallColumn) : (runAt p value).offset c = if p c then some (value c) else none := by
  cases c <;> rfl

theorem presence_apartRuns : presence (apartRuns i j pattern) = pattern := by
  have hrow : ∀ q : (WaterfallColumn → Bool) × ℕ, (fun c =>
      ((runAt q.1 (apartOffset i j pattern.length q.1 q.2)).offset c).isSome) = q.1 := by
    intro q
    funext c
    rw [offset_runAt]
    cases q.1 c <;> rfl
  rw [presence,apartRuns,List.map_map]
  exact (List.map_congr_left fun q _ => hrow q).trans (List.zipIdx_map_fst 0 pattern)

theorem runsOrdered_apartRuns (hij : i ≠ j) : RunsOrdered (apartRuns i j pattern) i j := by
  intro row hrow a ha b hb
  obtain ⟨q,-,rfl⟩ := List.mem_map.mp hrow
  rw [Option.mem_def,offset_runAt,Option.ite_none_right_eq_some] at ha hb
  obtain ⟨hi,ha⟩ := ha
  obtain ⟨hj,hb⟩ := hb
  obtain rfl := Option.some.inj ha
  obtain rfl := Option.some.inj hb
  simp [apartOffset,hi,hj,hij.symm]

theorem filterMap_ite {α β : Type} (p : α → Bool) (f : α → β) (l : List α) :
    (l.filterMap fun a => if p a then some (f a) else none) = (l.filter p).map f := by
  induction l with
  | nil => rfl
  | cons a l ih => cases h : p a <;> simp [h,ih]

/-- The runs that have one milestone, those that have the other as well apart from those that
do not. -/
theorem offsets_perm {α : Type} (p q : α → Bool) (f : α → ℚ) (l : List α) :
    (l.filterMap fun a => if p a then some (f a) else none).Perm
      ((l.filter fun a => p a && q a).map f ++ (l.filter fun a => p a && !q a).map f) := by
  have hsplit := (List.filter_append_perm q (l.filter p)).symm.map f
  rw [filterMap_ite]
  simpa [List.filter_filter,Bool.and_comm] using hsplit

def placed (pattern : List (WaterfallColumn → Bool)) (has : (WaterfallColumn → Bool) → Bool)
    (offset : ℚ) : List ℚ :=
  (pattern.zipIdx.filter fun q => has q.1).map fun q => offset + q.2 + 1

theorem pairwise_placed (has : (WaterfallColumn → Bool) → Bool) (offset : ℚ) :
    (placed pattern has offset).Pairwise (· < ·) := by
  have hplaces : pattern.zipIdx.Pairwise fun a b => a.2 < b.2 := by
    refine List.pairwise_map.mp ?_
    rw [List.zipIdx_map_snd]
    exact List.pairwise_lt_range'
  refine List.pairwise_map.mpr ((hplaces.filter _).imp fun hlt => ?_)
  have : (_ : ℚ) < _ := Nat.cast_lt.mpr hlt
  linarith

theorem mem_placed {has : (WaterfallColumn → Bool) → Bool} {offset x : ℚ}
    (hx : x ∈ placed pattern has offset) : offset < x ∧ x ≤ offset + pattern.length := by
  obtain ⟨q,hq,rfl⟩ := List.mem_map.mp hx
  have hlt := List.snd_lt_of_mem_zipIdx (List.mem_of_mem_filter hq)
  have hle : ((q.2 + 1 : ℕ) : ℚ) ≤ (pattern.length : ℕ) := Nat.cast_le.mpr hlt
  push_cast at hle
  constructor
  · have : (0 : ℚ) ≤ q.2 := Nat.cast_nonneg _
    linarith
  · linarith

theorem filterMap_apartRuns (c : WaterfallColumn) :
    ((apartRuns i j pattern).filterMap fun row => row.offset c) =
      pattern.zipIdx.filterMap fun q => if q.1 c
        then some (apartOffset i j pattern.length q.1 q.2 c) else none := by
  rw [apartRuns,List.filterMap_map]
  exact List.filterMap_congr fun q _ => offset_runAt _ _ c

theorem map_filter_eq_placed (i j c : WaterfallColumn) (pattern : List (WaterfallColumn → Bool))
    (has : (WaterfallColumn → Bool) → Bool) (offset : ℚ)
    (h : ∀ p k, has p = true → apartOffset i j pattern.length p k c = offset + k + 1) :
    (pattern.zipIdx.filter fun q => has q.1).map (fun q =>
      apartOffset i j pattern.length q.1 q.2 c) = placed pattern has offset :=
  List.map_congr_left fun q hq => h q.1 q.2 (List.mem_filter.mp hq).2

theorem offsets_later : ((apartRuns i j pattern).filterMap fun row => row.offset i).Perm
    (placed pattern (fun p => p i && p j) pattern.length ++
      placed pattern (fun p => p i && !p j) (2 * pattern.length)) := by
  have hboth := map_filter_eq_placed i j i pattern (fun p => p i && p j) pattern.length
    fun p k hp => by simp_all [apartOffset]
  have halone := map_filter_eq_placed i j i pattern (fun p => p i && !p j) (2 * pattern.length)
    fun p k hp => by simp_all [apartOffset]
  rw [filterMap_apartRuns,← hboth,← halone]
  exact offsets_perm (fun q => q.1 i) (fun q => q.1 j) _ pattern.zipIdx

theorem offsets_earlier (hij : i ≠ j) :
    ((apartRuns i j pattern).filterMap fun row => row.offset j).Perm
      (placed pattern (fun p => p j && !p i) 0 ++
        placed pattern (fun p => p i && p j) pattern.length) := by
  have hswap : (fun p : WaterfallColumn → Bool => p i && p j) = fun p => p j && p i :=
    funext fun p => Bool.and_comm _ _
  have hboth := map_filter_eq_placed i j j pattern (fun p => p j && p i) pattern.length
    fun p k hp => by simp_all [apartOffset,hij.symm]
  have halone := map_filter_eq_placed i j j pattern (fun p => p j && !p i) 0
    fun p k hp => by simp_all [apartOffset,hij.symm]
  rw [filterMap_apartRuns,hswap,← hboth,← halone]
  exact (offsets_perm (fun q => q.1 j) (fun q => q.1 i) _ pattern.zipIdx).trans
    List.perm_append_comm

theorem apart_increasing : (placed pattern (fun p => p j && !p i) 0 ++
    placed pattern (fun p => p i && p j) pattern.length ++
      placed pattern (fun p => p i && !p j) (2 * pattern.length)).Pairwise (· < ·) := by
  refine List.pairwise_append.mpr ⟨List.pairwise_append.mpr
    ⟨pairwise_placed _ _,pairwise_placed _ _,fun x hx y hy => ?_⟩,pairwise_placed _ _,?_⟩
  · have := (mem_placed hx).2
    have := (mem_placed hy).1
    linarith
  · intro x hx y hy
    have hlow := (mem_placed hy).1
    have hlength : (0 : ℚ) ≤ pattern.length := Nat.cast_nonneg _
    rcases List.mem_append.mp hx with hx | hx
    · have := (mem_placed hx).2
      linarith
    · have := (mem_placed hx).2
      linarith

theorem placed_eq_nil_iff {has : (WaterfallColumn → Bool) → Bool} {offset : ℚ} :
    placed pattern has offset = [] ↔ ∀ p ∈ pattern, has p = false := by
  have hfst : pattern.zipIdx.map Prod.fst = pattern := List.zipIdx_map_fst 0 pattern
  rw [placed,List.map_eq_nil_iff,List.filter_eq_nil_iff]
  conv_rhs => rw [← hfst,List.forall_mem_map]
  simp only [Bool.not_eq_true]

/-- If the two milestones are not there in the same runs, but both in some, their medians can be
in the wrong order. -/
theorem apartRuns_not_ordered (hi : ∃ p ∈ pattern, p i = true) (hj : ∃ p ∈ pattern, p j = true)
    (hapart : ∃ p ∈ pattern, p i ≠ p j) : ¬ MediansOrdered (apartRuns i j pattern) i j := by
  obtain ⟨p,hp,hne⟩ := hapart
  have hij : i ≠ j := fun h => hne (h ▸ rfl)
  have hends : placed pattern (fun p => p j && !p i) 0 ++
      placed pattern (fun p => p i && !p j) (2 * pattern.length) ≠ [] := by
    rw [ne_eq,List.append_eq_nil_iff,placed_eq_nil_iff,placed_eq_nil_iff]
    rintro ⟨hlow,hhigh⟩
    have := hlow p hp
    have := hhigh p hp
    cases hpi : p i <;> cases hpj : p j <;> simp_all
  intro hordered
  have hpresence : presence (apartRuns i j pattern) = pattern := presence_apartRuns
  obtain ⟨m,a,hm,ha⟩ := exists_median (hpresence.symm ▸ hi)
  obtain ⟨m',b,hm',hb⟩ := exists_median (hpresence.symm ▸ hj)
  obtain rfl := Option.some.inj (hm.symm.trans hm')
  have hle := hordered m hm a ha b hb
  rw [computeWaterfall_offset hm] at ha hb
  exact absurd hle (not_le.mpr (median_lt_median apart_increasing hends offsets_later
    (offsets_earlier hij) ha hb))

end Apart

/-- Whatever the offsets in a list of runs, the medians keep the order of two milestones if and
only if the runs that have the one have the other, or no run has one of them. -/
theorem medians_keep_order_iff (i j : WaterfallColumn) (pattern : List (WaterfallColumn → Bool)) :
    (∀ rows, presence rows = pattern → RunsOrdered rows i j → MediansOrdered rows i j) ↔
      (∀ p ∈ pattern, p i = p j) ∨ (∀ p ∈ pattern, p i = false) ∨ ∀ p ∈ pattern, p j = false := by
  constructor
  · intro h
    by_contra hnot
    push Not at hnot
    obtain ⟨hapart,hi,hj⟩ := hnot
    have hij : i ≠ j := by
      obtain ⟨p,-,hne⟩ := hapart
      exact fun h => hne (h ▸ rfl)
    simp only [ne_eq,Bool.not_eq_false] at hi hj
    exact apartRuns_not_ordered hi hj hapart
      (h _ presence_apartRuns (runsOrdered_apartRuns hij))
  · rintro h rows rfl hordered
    simp only [presence,List.forall_mem_map,Option.isSome_eq_false_iff,Option.isNone_iff_eq_none] at h
    rcases h with hsame | hnone | hnone
    · exact mediansOrdered_of_same hsame hordered
    · intro m hm a ha
      rw [offset_none hnone hm] at ha
      contradiction
    · intro m hm a _ b hb
      rw [offset_none hnone hm] at hb
      contradiction

/-- In the one run the client recovers after the promotion, in the other one it never does. -/
def unrecoveredRun : List (WaterfallRow ℚ) :=
  [run "06_20260424_030630" 2 (some 3),run "06_20260424_031030" 10 none]
where
  run (id : String) (promoted : ℚ) (recovered : Option ℚ) : WaterfallRow ℚ :=
    { runId := id
      dtT0 := none
      dtT1 := some promoted
      dtT2 := none
      dtT3 := none
      dtT4 := none
      dtTc := recovered }

/-- By the medians the client recovers three seconds before the promotion. -/
theorem unrecoveredRun_reordered :
    RunsOrdered unrecoveredRun .t1 .tc ∧ ¬ MediansOrdered unrecoveredRun .t1 .tc := by
  constructor
  · intro row hrow a ha b hb
    rcases List.mem_pair.mp hrow with rfl | rfl
    · obtain rfl := Option.some.inj ha
      obtain rfl := Option.some.inj hb
      norm_num
    · contradiction
  · intro h
    have hne : unrecoveredRun ≠ [] := List.cons_ne_nil _ _
    obtain ⟨m,hm⟩ := exists_computeWaterfall hne
    have hpromoted : m.offset .t1 = some 6 := by
      have hsorted : ([2,10] : List ℚ).mergeSort (fun a b => a ≤ b) = [2,10] :=
        List.mergeSort_of_pairwise (by norm_num)
      have hvalues : (unrecoveredRun.filterMap fun row => row.offset .t1) = [2,10] := rfl
      rw [computeWaterfall_offset hm,hvalues,median,hsorted]
      norm_num
    have hrecovered : m.offset .tc = some 3 := by
      have hvalues : (unrecoveredRun.filterMap fun row => row.offset .tc) = [3] := rfl
      rw [computeWaterfall_offset hm,hvalues]
      simp [median]
    exact absurd (h m hm 6 hpromoted 3 hrecovered) (by norm_num)

end RoutingBench
