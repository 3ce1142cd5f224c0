import RoutingBench.Milestones
import RoutingBench.Waterfall
import Mathlib.Tactic.Ring
set_option autoImplicit false

/-!
The stacked bars that show the phases of a failover: the phase chart of one run and the batch
waterfall of the medians of many. Seconds are exact, and of a bar only its place is kept.
-/

namespace RoutingBench
open Aggregate

/-- A bar of a stacked chart: `y` is common to all, `x` is the duration. -/
structure Bar where
  name : String
  base : ℚ
  duration : ℚ
  deriving DecidableEq

def Bar.stop (b : Bar) : ℚ := b.base + b.duration

/-- The bars of both charts, each at the cumulative duration of those before it. -/
def stackBars (cumulative : ℚ) : List (String × ℚ) → List Bar
  | [] => []
  | (name,duration) :: phases =>
    { name := name
      base := cumulative
      duration := duration } :: stackBars (cumulative + duration) phases

/-- A point of a chain, if it is known. -/
def link {τ : Type} (name : String) (t : Option τ) : List (String × τ) :=
  (t.map fun t => (name,t)).toList

def phasesOf {τ : Type} (dur : τ → τ → ℚ) (chain : List (String × τ)) : List (String × ℚ) :=
  (chain.zip chain.tail).map fun (a,b) => (b.1,dur a.2 b.2)

section Stacking

variable {τ : Type} {dur : τ → τ → ℚ} {offset : τ → ℚ}

/-- Stacked durations telescope: every bar ends at the offset of its point. -/
theorem stackBars_phasesOf (hdur : ∀ a b, dur a b = offset b - offset a) (rest : List (String × τ))
    (name : String) (t : τ) :
    (stackBars (offset t) (phasesOf dur ((name,t) :: rest))).map (fun b => (b.name,b.stop)) =
      rest.map fun e => (e.1,offset e.2) := by
  induction rest generalizing name t with
  | nil => rfl
  | cons e rest ih =>
    have hnext : offset t + dur t e.2 = offset e.2 := by rw [hdur]; ring
    have hrest := ih e.1 e.2
    simp only [phasesOf,List.tail_cons,List.zip_cons_cons,List.map_cons,stackBars,Bar.stop,
      hnext] at hrest ⊢
    rw [hrest]

theorem mem_of_stackBars_filter {rest : List (String × ℚ)} {name : String} {t : ℚ}
    (hsorted : ((name,t) :: rest).Pairwise fun a b => a.2 ≤ b.2) :
    ∀ b ∈ stackBars t ((phasesOf (fun a b => b - a) ((name,t) :: rest)).filter fun p => 0 < p.2),
      (b.name,b.stop) ∈ rest := by
  induction rest generalizing name t with
  | nil => simp [phasesOf,stackBars]
  | cons e rest ih =>
    have hle : t ≤ e.2 := (List.pairwise_cons.mp hsorted).1 e List.mem_cons_self
    have hrest := ih hsorted.tail
    have hnext : t + (e.2 - t) = e.2 := by ring
    intro b hb
    simp only [phasesOf,List.tail_cons,List.zip_cons_cons,List.map_cons,List.filter_cons,
      sub_pos,decide_eq_true_eq] at hb hrest
    split at hb
    · simp only [stackBars,hnext,List.mem_cons] at hb
      rcases hb with rfl | hb
      · simp [Bar.stop]
      · exact List.mem_cons_of_mem e (hrest b hb)
    · obtain rfl : t = e.2 := le_antisymm hle (not_lt.mp ‹_›)
      exact List.mem_cons_of_mem e (hrest b hb)

theorem exists_stackBars_filter {rest : List (String × ℚ)} {name : String} {t : ℚ}
    {e : String × ℚ} (hsorted : ((name,t) :: rest).Pairwise fun a b => a.2 ≤ b.2) (he : e ∈ rest)
    (hfirst : t ≠ e.2) (halone : ∀ s ∈ rest, s.2 = e.2 → s = e) :
    ∃ b ∈ stackBars t ((phasesOf (fun a b => b - a) ((name,t) :: rest)).filter fun p => 0 < p.2),
      b.name = e.1 ∧ b.stop = e.2 := by
  induction rest generalizing name t with
  | nil => simp at he
  | cons s rest ih =>
    have hle : t ≤ s.2 := (List.pairwise_cons.mp hsorted).1 s List.mem_cons_self
    have hnext : t + (s.2 - t) = s.2 := by ring
    simp only [phasesOf,List.tail_cons,List.zip_cons_cons,List.map_cons,List.filter_cons,
      sub_pos,decide_eq_true_eq]
    by_cases hsame : s = e
    · subst hsame
      rw [if_pos (lt_of_le_of_ne hle hfirst)]
      exact ⟨_,List.mem_cons_self,rfl,hnext⟩
    · have hne : s.2 ≠ e.2 := fun h => hsame (halone s List.mem_cons_self h)
      have hrest := ih hsorted.tail
        ((List.mem_cons.mp he).resolve_left fun h => hsame h.symm) hne
        fun s' hs' => halone s' (List.mem_cons_of_mem s hs')
      obtain ⟨b,hb,hbe⟩ := hrest
      split
      · simp only [stackBars,hnext]
        exact ⟨b,List.mem_cons_of_mem _ hb,hbe⟩
      · obtain rfl : t = s.2 := le_antisymm hle (not_lt.mp ‹_›)
        exact ⟨b,hb,hbe⟩

theorem filterMap_lookup {order : List String} {phases : List (String × ℚ)} (hnodup : order.Nodup)
    (hsub : (phases.map Prod.fst).Sublist order) :
    (order.filterMap fun name => (phases.lookup name).map fun d => (name,d)) = phases := by
  induction order generalizing phases with
  | nil => simpa using (List.sublist_nil.mp hsub).symm
  | cons name order ih =>
    obtain ⟨hnew,hrestnodup⟩ := List.nodup_cons.mp hnodup
    cases phases with
    | nil => simp
    | cons p phases =>
      obtain ⟨n,d⟩ := p
      rcases List.sublist_cons_iff.mp hsub with hskip | ⟨names,heq,hrest⟩
      · have hnone : ((n,d) :: phases).lookup name = none := by
          rw [List.lookup_eq_none_iff]
          intro p hp
          have : p.1 ∈ order := hskip.subset (List.mem_map_of_mem hp)
          refine bne_iff_ne.mpr fun h => ?_
          rw [h] at hnew
          exact hnew this
        rw [List.filterMap_cons,hnone]
        exact ih hrestnodup hskip
      · obtain ⟨rfl,rfl⟩ := List.cons.inj heq
        rw [List.filterMap_cons]
        simp only [List.lookup_cons_self,Option.map_some]
        have hlater : (order.filterMap fun name =>
            (((n,d) :: phases).lookup name).map fun d => (name,d)) =
              order.filterMap fun name => (phases.lookup name).map fun d => (name,d) := by
          refine List.filterMap_congr fun m hm => ?_
          have hne : (m == n) = false := beq_eq_false_iff_ne.mpr fun h => hnew (h ▸ hm)
          rw [List.lookup_cons,hne]
        rw [hlater,ih hrestnodup hrest]

end Stacking

/-- The available milestones of a run in their order, PG Promotion before Patroni Promotion. -/
def availableMilestones (m : Milestones) (firstClientFailure : Timestamp) :
    List (String × Timestamp) :=
  ("Failure",firstClientFailure) :: (link "DCS Detection" m.consulLeaderDeleted ++
    (if m.pgPromoted.isSome then link "PG Promotion" m.pgPromoted
      else link "Patroni Promotion" m.patroniPromoted) ++
    link "Routing Detection" m.haproxyUp ++ link "Client Recovery" m.firstRecovery)

def phaseOrder : List String :=
  ["DCS Detection","PG Promotion","Patroni Promotion","Routing Detection","Client Recovery"]

structure PhaseChart where
  bars : List Bar
  total : ℚ
  phases : List (String × ℚ)
  deriving DecidableEq

/-- `_dur`, the total seconds from one milestone to another. -/
def seconds (a b : Timestamp) : ℚ := epoch (b - a)

def buildPhaseChart (m : Milestones) : Option PhaseChart :=
  m.firstClientFailure.bind fun t0 =>
    let phases := phasesOf seconds (availableMilestones m t0)
    let ordered := phaseOrder.filterMap fun name => (phases.lookup name).map fun d => (name,d)
    if phases.isEmpty then none
    else some {
      bars := stackBars 0 ordered
      total := (ordered.map Prod.snd).sum
      phases := phases }

/-- The result of `_compute_waterfall`. -/
structure Medians where
  t0 : Option ℚ
  t1 : Option ℚ
  t2 : Option ℚ
  t3 : Option ℚ
  t4 : Option ℚ
  tc : Option ℚ
  deriving DecidableEq

def computeWaterfall (rows : List (WaterfallRow ℚ)) : Option Medians :=
  if rows.isEmpty then none
  else some {
    t0 := median (rows.filterMap fun r => r.dtT0)
    t1 := median (rows.filterMap fun r => r.dtT1)
    t2 := median (rows.filterMap fun r => r.dtT2)
    t3 := median (rows.filterMap fun r => r.dtT3)
    t4 := median (rows.filterMap fun r => r.dtT4)
    tc := median (rows.filterMap fun r => r.dtTc) }

/-- The points after the failure, before they are sorted: the time the server is ready stands
for a promotion that is not known, and so does the one Patroni reports. -/
def waterfallPoints (m : Medians) (tc : ℚ) : List (String × ℚ) :=
  link "DCS Detection" m.t2 ++
    (if m.t0.isSome then link "PG Promotion" m.t0 else link "PG Promotion" m.t4) ++
    (if m.t0.isNone then link "Patroni Promotion" m.t1 else []) ++
    link "Routing Detection" m.t3 ++ [("Client Recovery",tc)]

def waterfallChain (m : Medians) (tc : ℚ) : List (String × ℚ) :=
  (("Failure",0) :: waterfallPoints m tc).mergeSort fun a b => a.2 ≤ b.2

/-- The chart of one combination; it is skipped if the client never recovers. -/
def renderBatchWaterfall (m : Medians) : List Bar :=
  match m.tc with
  | none => []
  | some tc =>
    let phases := (phasesOf (fun a b => b - a) (waterfallChain m tc)).filter fun p => 0 < p.2
    stackBars 0 (if phases.isEmpty then [("Total failover",tc)] else phases)

section Ends

theorem mem_link {τ : Type} {name : String} {t : Option τ} {e : String × τ} :
    e ∈ link name t ↔ e.1 = name ∧ t = some e.2 := by
  cases t with
  | none => simp [link]
  | some t =>
    simp only [link,Option.map_some,Option.toList_some,List.mem_singleton,Option.some.injEq]
    rw [Prod.ext_iff]
    exact and_congr_right fun _ => eq_comm

theorem mem_availableMilestones {m : Milestones} {t0 : Timestamp} {e : String × Timestamp} :
    e ∈ (availableMilestones m t0).tail ↔
      (e.1 = "DCS Detection" ∧ m.consulLeaderDeleted = some e.2) ∨
      (e.1 = "PG Promotion" ∧ m.pgPromoted = some e.2) ∨
      (e.1 = "Patroni Promotion" ∧ m.pgPromoted = none ∧ m.patroniPromoted = some e.2) ∨
      (e.1 = "Routing Detection" ∧ m.haproxyUp = some e.2) ∨
      (e.1 = "Client Recovery" ∧ m.firstRecovery = some e.2) := by
  cases h : m.pgPromoted with
  | none => simp [availableMilestones,mem_link,h]
  | some t => simp [availableMilestones,mem_link,h]

theorem mem_waterfallPoints {m : Medians} {tc : ℚ} {e : String × ℚ} :
    e ∈ waterfallPoints m tc ↔
      (e.1 = "DCS Detection" ∧ m.t2 = some e.2) ∨
      (e.1 = "PG Promotion" ∧ (m.t0 = some e.2 ∨ (m.t0 = none ∧ m.t4 = some e.2))) ∨
      (e.1 = "Patroni Promotion" ∧ m.t0 = none ∧ m.t1 = some e.2) ∨
      (e.1 = "Routing Detection" ∧ m.t3 = some e.2) ∨
      (e.1 = "Client Recovery" ∧ e.2 = tc) := by
  cases h : m.t0 with
  | none => simp [waterfallPoints,mem_link,h,Prod.ext_iff]
  | some t => simp [waterfallPoints,mem_link,h,Prod.ext_iff]

theorem map_phasesOf_fst {τ : Type} (dur : τ → τ → ℚ) (rest : List (String × τ)) (e : String × τ) :
    (phasesOf dur (e :: rest)).map Prod.fst = rest.map Prod.fst := by
  induction rest generalizing e with
  | nil => rfl
  | cons e' rest ih =>
    have hrest := ih e'
    simp only [phasesOf,List.tail_cons,List.zip_cons_cons,List.map_cons] at hrest ⊢
    rw [hrest]

theorem link_sublist {τ : Type} (name : String) (t : Option τ) :
    ((link name t).map Prod.fst).Sublist [name] := by
  cases t with
  | none => exact List.nil_sublist _
  | some t => exact List.Sublist.refl _

theorem availableMilestones_sublist (m : Milestones) (t0 : Timestamp) :
    ((availableMilestones m t0).tail.map Prod.fst).Sublist phaseOrder := by
  have hpromotion : ((if m.pgPromoted.isSome then link "PG Promotion" m.pgPromoted
      else link "Patroni Promotion" m.patroniPromoted).map Prod.fst).Sublist
        ["PG Promotion","Patroni Promotion"] := by
    split
    · exact (link_sublist _ _).trans (by decide)
    · exact (link_sublist _ _).trans (by decide)
  have happ := (((link_sublist "DCS Detection" m.consulLeaderDeleted).append hpromotion).append
    (link_sublist "Routing Detection" m.haproxyUp)).append
      (link_sublist "Client Recovery" m.firstRecovery)
  simp only [availableMilestones,List.tail_cons,List.map_append]
  exact happ

theorem phases_names (m : Milestones) (t0 : Timestamp) :
    (phasesOf seconds (availableMilestones m t0)).map Prod.fst =
      (availableMilestones m t0).tail.map Prod.fst :=
  map_phasesOf_fst seconds (availableMilestones m t0).tail ("Failure",t0)

theorem phases_sublist (m : Milestones) (t0 : Timestamp) :
    ((phasesOf seconds (availableMilestones m t0)).map Prod.fst).Sublist phaseOrder :=
  phases_names m t0 ▸ availableMilestones_sublist m t0

theorem phases_eq_nil_iff {m : Milestones} {t0 : Timestamp} :
    phasesOf seconds (availableMilestones m t0) = [] ↔ (availableMilestones m t0).tail = [] := by
  rw [← List.map_eq_nil_iff (f := Prod.fst),phases_names,List.map_eq_nil_iff]

theorem seconds_self (a : Timestamp) : seconds a a = 0 := by simp [seconds,epoch]

theorem seconds_eq_sub (t0 a b : Timestamp) : seconds a b = seconds t0 b - seconds t0 a := by
  simp only [seconds,epoch]
  push_cast
  ring

/-- Every bar of the phase chart ends at the offset of its milestone. -/
theorem phaseChart_stops {m : Milestones} {t0 : Timestamp} {chart : PhaseChart}
    (ht0 : m.firstClientFailure = some t0) (h : buildPhaseChart m = some chart) :
    chart.bars.map (fun b => (b.name,b.stop)) =
      (availableMilestones m t0).tail.map fun e => (e.1,seconds t0 e.2) := by
  simp only [buildPhaseChart,ht0,Option.bind_some] at h
  split at h
  · contradiction
  · obtain rfl := Option.some.inj h
    have hzero : seconds t0 t0 = 0 := by simp [seconds,epoch]
    have hordered := filterMap_lookup (by decide) (phases_sublist m t0)
    have hstops := stackBars_phasesOf (seconds_eq_sub t0) (availableMilestones m t0).tail
      "Failure" t0
    simp only [hordered]
    rw [hzero] at hstops
    exact hstops

theorem phaseChart_mem {m : Milestones} {t0 : Timestamp} {chart : PhaseChart}
    (ht0 : m.firstClientFailure = some t0) (h : buildPhaseChart m = some chart) {b : Bar}
    (hb : b ∈ chart.bars) :
    ∃ e ∈ (availableMilestones m t0).tail, e.1 = b.name ∧ seconds t0 e.2 = b.stop := by
  have hmem : (b.name,b.stop) ∈ chart.bars.map fun b => (b.name,b.stop) :=
    List.mem_map_of_mem hb
  rw [phaseChart_stops ht0 h] at hmem
  obtain ⟨e,he,heq⟩ := List.mem_map.mp hmem
  exact ⟨e,he,Prod.ext_iff.mp heq⟩

theorem exists_phaseChart {m : Milestones} {t0 : Timestamp} {e : String × Timestamp}
    (ht0 : m.firstClientFailure = some t0) (he : e ∈ (availableMilestones m t0).tail) :
    ∃ chart, buildPhaseChart m = some chart ∧
      ∃ b ∈ chart.bars, b.name = e.1 ∧ b.stop = seconds t0 e.2 := by
  have hphases : phasesOf seconds (availableMilestones m t0) ≠ [] :=
    fun hnil => List.ne_nil_of_mem he (phases_eq_nil_iff.mp hnil)
  obtain ⟨chart,hchart⟩ : ∃ chart, buildPhaseChart m = some chart := by
    simp [buildPhaseChart,ht0,hphases]
  refine ⟨chart,hchart,?_⟩
  have hmem : (e.1,seconds t0 e.2) ∈ chart.bars.map fun b => (b.name,b.stop) := by
    rw [phaseChart_stops ht0 hchart]
    exact List.mem_map.mpr ⟨e,he,rfl⟩
  obtain ⟨b,hb,heq⟩ := List.mem_map.mp hmem
  exact ⟨b,hb,Prod.ext_iff.mp heq⟩

variable {m : Medians} {tc : ℚ}

theorem waterfallChain_eq (hpos : ∀ e ∈ waterfallPoints m tc, 0 < e.2) :
    waterfallChain m tc =
      ("Failure",0) :: (waterfallPoints m tc).mergeSort fun a b => a.2 ≤ b.2 := by
  obtain ⟨before,after,hchain,hpoints,hbefore,-⟩ :=
    orderBy_cons Prod.snd ("Failure",(0 : ℚ)) (waterfallPoints m tc)
  cases before with
  | nil => rw [waterfallChain,hchain,hpoints]; rfl
  | cons e before =>
    have he : e ∈ (waterfallPoints m tc).mergeSort fun a b => a.2 ≤ b.2 := by
      rw [hpoints]
      exact List.mem_append_left _ List.mem_cons_self
    have hlate := hbefore e List.mem_cons_self
    simp [(hpos e (List.mem_mergeSort.mp he)).le] at hlate

theorem pairwise_waterfallChain (m : Medians) (tc : ℚ) :
    (waterfallChain m tc).Pairwise fun a b => a.2 ≤ b.2 :=
  pairwise_orderBy Prod.snd _

theorem waterfall_mem (htc : m.tc = some tc) (hpos : ∀ e ∈ waterfallPoints m tc, 0 < e.2) :
    ∀ b ∈ renderBatchWaterfall m,
      b.name = "Total failover" ∨ (b.name,b.stop) ∈ waterfallPoints m tc := by
  have hsorted := pairwise_waterfallChain m tc
  intro b hb
  simp only [renderBatchWaterfall,htc,waterfallChain_eq hpos] at hb hsorted
  split at hb
  · simp only [stackBars,List.mem_singleton] at hb
    subst hb
    exact .inl rfl
  · exact .inr (List.mem_mergeSort.mp (mem_of_stackBars_filter hsorted b hb))

theorem exists_waterfall (htc : m.tc = some tc) (hpos : ∀ e ∈ waterfallPoints m tc, 0 < e.2)
    {e : String × ℚ} (he : e ∈ waterfallPoints m tc)
    (halone : ∀ s ∈ waterfallPoints m tc, s.2 = e.2 → s = e) :
    ∃ b ∈ renderBatchWaterfall m, b.name = e.1 ∧ b.stop = e.2 := by
  have hsorted := pairwise_waterfallChain m tc
  rw [waterfallChain_eq hpos] at hsorted
  obtain ⟨b,hb,hbe⟩ := exists_stackBars_filter hsorted (List.mem_mergeSort.mpr he) (hpos e he).ne
    fun s hs => halone s (List.mem_mergeSort.mp hs)
  refine ⟨b,?_,hbe⟩
  simp only [renderBatchWaterfall,htc,waterfallChain_eq hpos]
  split
  · rename_i hempty
    rw [List.isEmpty_iff.mp hempty] at hb
    simp [stackBars] at hb
  · exact hb

end Ends

end RoutingBench
