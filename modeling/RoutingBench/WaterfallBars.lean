import RoutingBench.MedianOrder
import RoutingBench.PhaseTiling
set_option autoImplicit false

/-!
The bars of the batch waterfall as a timeline: the chain is sorted and steps without a duration
are left out, whichever of the six medians there are.
-/

namespace RoutingBench
open Aggregate Tiling

def labelOffset (m : Medians) (label : String) : Option ℚ :=
  if label = "DCS Detection" then m.t2
  else if label = "PG Promotion" then m.t0.or m.t4
  else if label = "Patroni Promotion" then m.t1
  else if label = "Routing Detection" then m.t3
  else if label = "Client Recovery" then m.tc
  else none

/-- The bars follow one another from the failure to the latest point of the chain. -/
structure FaithfulTimeline (m : Medians) (tc : ℚ) (bars : List Bar) (total : ℚ) : Prop where
  positive : ∀ b ∈ bars, 0 < b.duration
  tiles : Tiles Bar.base Bar.duration 0 bars total
  start : bars.head?.map Bar.base = some 0
  labels : (bars.map Bar.name).Nodup
  ends : ∀ b ∈ bars, labelOffset m b.name = some b.stop
  length : (bars.map Bar.duration).sum = total
  largest : (∃ e ∈ waterfallPoints m tc, e.2 = total) ∧ ∀ e ∈ waterfallPoints m tc, e.2 ≤ total

section Bars

variable {m : Medians} {tc : ℚ}

theorem points_pos (htc : m.tc = some tc) (hpos : ∀ c, ∀ v ∈ m.offset c, 0 < v) :
    ∀ e ∈ waterfallPoints m tc, 0 < e.2 := by
  intro e he
  rcases mem_waterfallPoints.mp he with ⟨-,h⟩ | ⟨-,h | ⟨-,h⟩⟩ | ⟨-,-,h⟩ | ⟨-,h⟩ | ⟨-,h⟩
  · exact hpos .t2 e.2 h
  · exact hpos .t0 e.2 h
  · exact hpos .t4 e.2 h
  · exact hpos .t1 e.2 h
  · exact hpos .t3 e.2 h
  · exact h ▸ hpos .tc tc htc

theorem labelOffset_point (htc : m.tc = some tc) {e : String × ℚ} (he : e ∈ waterfallPoints m tc) :
    labelOffset m e.1 = some e.2 := by
  rcases mem_waterfallPoints.mp he with ⟨hn,h⟩ | ⟨hn,h | ⟨h0,h⟩⟩ | ⟨hn,-,h⟩ | ⟨hn,h⟩ | ⟨hn,h⟩
  · simp [labelOffset,hn,h]
  · simp [labelOffset,hn,h]
  · simp [labelOffset,hn,h0,h]
  · simp [labelOffset,hn,h]
  · simp [labelOffset,hn,h]
  · simp [labelOffset,hn,h,htc]

theorem nodup_points (m : Medians) (tc : ℚ) : ((waterfallPoints m tc).map Prod.fst).Nodup := by
  have hsub : ((waterfallPoints m tc).map Prod.fst).Sublist phaseOrder := by
    have hpromotion : ((if m.t0.isSome then link "PG Promotion" m.t0
        else link "PG Promotion" m.t4).map Prod.fst).Sublist ["PG Promotion"] := by
      split <;> exact link_sublist _ _
    have hpatroni : ((if m.t0.isNone then link "Patroni Promotion" m.t1
        else []).map Prod.fst).Sublist ["Patroni Promotion"] := by
      split
      · exact link_sublist _ _
      · exact List.nil_sublist _
    simp only [waterfallPoints,List.map_append]
    exact ((((link_sublist "DCS Detection" m.t2).append hpromotion).append hpatroni).append
      (link_sublist "Routing Detection" m.t3)).append (List.Sublist.refl ["Client Recovery"])
  exact (show phaseOrder.Nodup by decide).sublist hsub

theorem sum_filter_pos {phases : List (String × ℚ)} (h : ∀ p ∈ phases, 0 ≤ p.2) :
    ((phases.filter fun p => 0 < p.2).map Prod.snd).sum = (phases.map Prod.snd).sum := by
  induction phases with
  | nil => rfl
  | cons p phases ih =>
    obtain ⟨hp,hrest⟩ := List.forall_mem_cons.mp h
    by_cases hpos : 0 < p.2
    · simp [hpos,ih hrest]
    · have hzero : p.2 = 0 := le_antisymm (not_lt.mp hpos) hp
      simp [hzero,ih hrest]

theorem client_mem_points (m : Medians) (tc : ℚ) :
    ("Client Recovery",tc) ∈ waterfallPoints m tc :=
  List.mem_append_right _ (List.mem_singleton_self _)

theorem exists_latest (m : Medians) (tc : ℚ) (first : String × ℚ) :
    ∃ last ∈ waterfallPoints m tc, (∀ e ∈ waterfallPoints m tc, e.2 ≤ last.2) ∧
      (first :: (waterfallPoints m tc).mergeSort fun a b => a.2 ≤ b.2).getLast? = some last := by
  have hclient : ("Client Recovery",tc) ∈ (waterfallPoints m tc).mergeSort fun a b => a.2 ≤ b.2 :=
    List.mem_mergeSort.mpr (client_mem_points m tc)
  have hsorted := pairwise_orderBy Prod.snd (waterfallPoints m tc)
  rcases List.eq_nil_or_concat ((waterfallPoints m tc).mergeSort fun a b => a.2 ≤ b.2) with
    hnil | ⟨before,last,hconcat⟩
  · rw [hnil] at hclient
    contradiction
  · rw [List.concat_eq_append] at hconcat
    rw [hconcat] at hsorted ⊢
    have hmem : ∀ e, e ∈ waterfallPoints m tc ↔ e ∈ before ++ [last] := fun e => by
      rw [← hconcat,List.mem_mergeSort]
    refine ⟨last,(hmem last).mpr (List.mem_append_right _ (List.mem_singleton_self _)),?_,?_⟩
    · intro e he
      rcases List.mem_append.mp ((hmem e).mp he) with hbefore | hlast
      · exact (List.pairwise_append.mp hsorted).2.2 e hbefore last (List.mem_singleton_self _)
      · rw [List.mem_singleton.mp hlast]
    · rw [← List.cons_append,List.getLast?_concat]

def waterfallSteps (m : Medians) (tc : ℚ) : List (String × ℚ) :=
  (phasesOf (fun a b => b - a) (waterfallChain m tc)).filter fun p => 0 < p.2

theorem sum_waterfallSteps (hpos : ∀ e ∈ waterfallPoints m tc, 0 < e.2) {last : String × ℚ}
    (hlast : (("Failure",(0 : ℚ)) :: (waterfallPoints m tc).mergeSort fun a b =>
      a.2 ≤ b.2).getLast? = some last) : ((waterfallSteps m tc).map Prod.snd).sum = last.2 := by
  have hnonneg : ∀ p ∈ phasesOf (fun a b : ℚ => b - a) (waterfallChain m tc), 0 ≤ p.2 :=
    (phasesOf_nonneg_iff (fun _ _ => sub_nonneg) _).mpr (pairwise_waterfallChain m tc)
  have hsum : ((phasesOf (fun a b : ℚ => b - a) (("Failure",(0 : ℚ)) ::
      (waterfallPoints m tc).mergeSort fun a b => a.2 ≤ b.2)).map Prod.snd).sum =
        id last.2 - id 0 := sum_phasesOf (fun _ _ => rfl) _ _ _ hlast
  rw [waterfallSteps,sum_filter_pos hnonneg,waterfallChain_eq hpos,hsum]
  simp

theorem waterfallSteps_ne_nil (hpos : ∀ e ∈ waterfallPoints m tc, 0 < e.2) :
    waterfallSteps m tc ≠ [] := by
  intro hempty
  obtain ⟨last,hlast,-,hget⟩ := exists_latest m tc ("Failure",0)
  have hsum := sum_waterfallSteps hpos hget
  rw [hempty] at hsum
  exact (hpos last hlast).ne hsum

theorem renderBatchWaterfall_eq (htc : m.tc = some tc)
    (hpos : ∀ e ∈ waterfallPoints m tc, 0 < e.2) :
    renderBatchWaterfall m = stackBars 0 (waterfallSteps m tc) := by
  have hne := List.isEmpty_iff.not.mpr (waterfallSteps_ne_nil hpos)
  rw [waterfallSteps] at hne
  simp only [renderBatchWaterfall,htc,if_neg hne,waterfallSteps]

theorem waterfallSteps_names (hpos : ∀ e ∈ waterfallPoints m tc, 0 < e.2) :
    ((waterfallSteps m tc).map Prod.fst).Nodup := by
  have hnames : ((phasesOf (fun a b : ℚ => b - a) (waterfallChain m tc)).map Prod.fst).Nodup := by
    rw [waterfallChain_eq hpos,map_phasesOf_fst]
    exact ((List.mergeSort_perm (waterfallPoints m tc) _).map Prod.fst).nodup_iff.mpr
      (nodup_points m tc)
  exact hnames.sublist (List.filter_sublist.map Prod.fst)

/-- Every bar ends at a point of the chain, under its label. -/
theorem waterfallSteps_ends (hpos : ∀ e ∈ waterfallPoints m tc, 0 < e.2) :
    ∀ b ∈ stackBars 0 (waterfallSteps m tc), (b.name,b.stop) ∈ waterfallPoints m tc := by
  have hsorted := pairwise_waterfallChain m tc
  intro b hb
  rw [waterfallSteps,waterfallChain_eq hpos] at hb
  rw [waterfallChain_eq hpos] at hsorted
  exact List.mem_mergeSort.mp (mem_of_stackBars_filter hsorted b hb)

end Bars

/-- Two milestones at once, no promotion of PostgreSQL, and a client that recovers last. -/
def tiedMedians : Medians where
  t0 := none
  t1 := some 4
  t2 := some 4
  t3 := some 7
  t4 := some 5
  tc := some 9

end RoutingBench
