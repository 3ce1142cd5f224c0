import RoutingBench.MilestoneAgreement
import RoutingBench.Tiling
set_option autoImplicit false

/-!
Do the phases of the phase chart tile the outage? The chain of milestones is never sorted, so
that its order is that of the events the milestones are chosen from.
-/

namespace RoutingBench
open Aggregate Tiling

section Choice

def ObserverFrameRow.deletesLeaderKey (r : ObserverFrameRow) : Prop :=
  r.eventType = "leader_key_deleted"

def ObserverFrameRow.promotesPg (r : ObserverFrameRow) : Prop :=
  r.eventType ∈ ["pg_promote_detected","pg_promote_requested"]

/-- A change of role to primary, from a known one. -/
def ObserverFrameRow.becomesPrimary (r : ObserverFrameRow) : Prop :=
  r.eventType = "role_change" ∧ r.newValue = "primary" ∧
    ∀ old ∈ r.oldValue, old ∉ ["none","uninitialized"]

def ObserverFrameRow.primaryBackendUp (r : ObserverFrameRow) : Prop :=
  r.eventType = "backend_state_change" ∧ r.newValue = "UP" ∧
    ∃ detail ∈ r.detail, strContains detail "primary_backend" = true

def LastOf (kind : ObserverFrameRow → Prop) (obs : List ObserverFrameRow) (t : Timestamp) : Prop :=
  ∃ before r after, obs = before ++ r :: after ∧ kind r ∧ (∀ s ∈ after, ¬ kind s) ∧ r.ts = t

def FirstOf (kind : ObserverFrameRow → Prop) (obs : List ObserverFrameRow) (t : Timestamp) : Prop :=
  ∃ before r after, obs = before ++ r :: after ∧ kind r ∧ (∀ s ∈ before, ¬ kind s) ∧ r.ts = t

variable {obs : List ObserverFrameRow} {mask : ObserverFrameRow → Bool}
  {kind : ObserverFrameRow → Prop} {t : Timestamp}

theorem firstTs_eq_some_iff (hmask : ∀ r, mask r = true ↔ kind r) :
    firstTs obs mask = some t ↔ FirstOf kind obs t := by
  have hnot : ∀ r, mask r = false ↔ ¬ kind r := fun r => by rw [← hmask,Bool.not_eq_true]
  simp only [firstTs,List.head?_map,List.head?_filter,Option.map_eq_some_iff,
    List.find?_eq_some_iff_append,Bool.not_eq_eq_eq_not,Bool.not_true,hmask,hnot,FirstOf]
  constructor
  · rintro ⟨r,⟨hkind,before,after,hobs,hbefore⟩,hts⟩
    exact ⟨before,r,after,hobs,hkind,hbefore,hts⟩
  · rintro ⟨before,r,after,hobs,hkind,hbefore,hts⟩
    exact ⟨r,⟨hkind,before,after,hobs,hbefore⟩,hts⟩

theorem lastOf_iff : LastOf kind obs t ↔ FirstOf kind obs.reverse t := by
  constructor
  · rintro ⟨before,r,after,rfl,hkind,hafter,hts⟩
    exact ⟨after.reverse,r,before.reverse,by simp,hkind,by simpa using hafter,hts⟩
  · rintro ⟨before,r,after,hobs,hkind,hbefore,hts⟩
    have hrows : obs = after.reverse ++ r :: before.reverse := by
      rw [← obs.reverse_reverse,hobs]
      simp
    exact ⟨after.reverse,r,before.reverse,hrows,hkind,by simpa using hbefore,hts⟩

theorem lastTs_eq_some_iff (hmask : ∀ r, mask r = true ↔ kind r) :
    lastTs obs mask = some t ↔ LastOf kind obs t := by
  rw [lastOf_iff,← firstTs_eq_some_iff hmask,lastTs,firstTs,List.filter_reverse,List.map_reverse,
    List.head?_reverse]

theorem lastTs_eq_none_iff (hmask : ∀ r, mask r = true ↔ kind r) :
    lastTs obs mask = none ↔ ∀ r ∈ obs, ¬ kind r := by
  simp [lastTs,← hmask]

end Choice

/-- The events that the phases of an outage lie between, in the order of the chart: the first
failed query, the last deletion of the leader key, the last promotion of PostgreSQL (of a
Patroni node, if there is none), the first report of a primary_backend server that is up, not
before a failed query, and the first success after a failed one. -/
inductive BoundsPhase (obs : List ObserverFrameRow) (cli : List ClientFrameRow) :
    ℕ → Timestamp → Prop where
  | failure {q : ClientFrameRow} : q ∈ cli → q.success = false →
      (∀ f ∈ cli, f.success = false → q.ts ≤ f.ts) → BoundsPhase obs cli 0 q.ts
  | deletion {t : Timestamp} : LastOf ObserverFrameRow.deletesLeaderKey obs t →
      BoundsPhase obs cli 1 t
  | pgPromotion {t : Timestamp} : LastOf ObserverFrameRow.promotesPg obs t →
      BoundsPhase obs cli 2 t
  | patroniPromotion {t : Timestamp} : (∀ r ∈ obs, ¬ r.promotesPg) →
      LastOf ObserverFrameRow.becomesPrimary obs t → BoundsPhase obs cli 2 t
  | routing {t : Timestamp} :
      FirstOf (fun r => r.primaryBackendUp ∧ ∃ f ∈ cli, f.success = false ∧ f.ts ≤ r.ts) obs t →
        BoundsPhase obs cli 3 t
  | recovery {q : ClientFrameRow} : q ∈ cli → q.success = true →
      (∃ f ∈ cli, f.success = false ∧ f.ts < q.ts) →
      (∀ s ∈ cli, s.success = true → (∃ f ∈ cli, f.success = false ∧ f.ts < s.ts) → q.ts ≤ s.ts) →
        BoundsPhase obs cli 4 q.ts

/-- The events come in the order of the phases they bound. -/
def BoundsInOrder (obs : List ObserverFrameRow) (cli : List ClientFrameRow) : Prop :=
  ∀ i j s t, i < j → BoundsPhase obs cli i s → BoundsPhase obs cli j t → s ≤ t

section Bounds

variable {obs : List ObserverFrameRow} {cli : List ClientFrameRow} {m : Milestones}
  {t0 r t : Timestamp} {i : ℕ}

def phasePoint (m : Milestones) : ℕ → Option Timestamp
  | 0 => m.firstClientFailure
  | 1 => m.consulLeaderDeleted
  | 2 => m.pgPromoted.or m.patroniPromoted
  | 3 => m.haproxyUp
  | 4 => m.firstRecovery
  | _ => none

theorem deletesLeaderKey_mask (r : ObserverFrameRow) :
    (r.eventType == "leader_key_deleted") = true ↔ r.deletesLeaderKey :=
  beq_iff_eq

theorem consulLeaderDeleted_iff :
    (extractMilestones obs cli).consulLeaderDeleted = some t ↔
      LastOf ObserverFrameRow.deletesLeaderKey obs t :=
  lastTs_eq_some_iff deletesLeaderKey_mask

theorem consulLeaderDeleted_none_iff :
    (extractMilestones obs cli).consulLeaderDeleted = none ↔ ∀ r ∈ obs, ¬ r.deletesLeaderKey :=
  lastTs_eq_none_iff deletesLeaderKey_mask

theorem promotesPg_mask (r : ObserverFrameRow) :
    ["pg_promote_detected","pg_promote_requested"].contains r.eventType = true ↔ r.promotesPg :=
  List.contains_iff_mem

theorem pgPromoted_iff :
    (extractMilestones obs cli).pgPromoted = some t ↔
      LastOf ObserverFrameRow.promotesPg obs t :=
  lastTs_eq_some_iff promotesPg_mask

theorem pgPromoted_none_iff :
    (extractMilestones obs cli).pgPromoted = none ↔ ∀ r ∈ obs, ¬ r.promotesPg :=
  lastTs_eq_none_iff promotesPg_mask

theorem patroniPromoted_iff :
    (extractMilestones obs cli).patroniPromoted = some t ↔
      LastOf ObserverFrameRow.becomesPrimary obs t := by
  refine lastTs_eq_some_iff fun r => ?_
  cases hold : r.oldValue with
  | none => simp [ObserverFrameRow.becomesPrimary,hold]
  | some old => simp [ObserverFrameRow.becomesPrimary,hold,and_assoc]

theorem notBeforeFailure_iff
    (hfail : minWhere (fun q => !q.success) ClientFrameRow.ts cli = some t0) :
    t0 ≤ t ↔ ∃ f ∈ cli, f.success = false ∧ f.ts ≤ t := by
  obtain ⟨⟨q,hq,hqfail,rfl⟩,hfirst⟩ := minWhere_eq_some_iff.mp hfail
  simp only [Bool.not_eq_eq_eq_not,Bool.not_true] at hqfail hfirst
  constructor
  · intro hle
    exact ⟨q,hq,hqfail,hle⟩
  · rintro ⟨f,hf,hffail,hle⟩
    exact (hfirst f hf hffail).trans hle

theorem haproxyUp_iff (hfail : (extractMilestones obs cli).firstClientFailure = some t0) :
    (extractMilestones obs cli).haproxyUp = some t ↔
      FirstOf (fun r => r.primaryBackendUp ∧ ∃ f ∈ cli, f.success = false ∧ f.ts ≤ r.ts) obs t := by
  refine firstTs_eq_some_iff fun r => ?_
  have hmin : minWhere (fun q => !q.success) ClientFrameRow.ts cli = some t0 := hfail
  rw [hmin,← notBeforeFailure_iff hmin]
  cases hdetail : r.detail with
  | none => simp [ObserverFrameRow.primaryBackendUp,hdetail]
  | some detail => simp [ObserverFrameRow.primaryBackendUp,hdetail,and_assoc]

theorem firstClientFailure_iff : (extractMilestones obs cli).firstClientFailure = some t ↔
    ∃ q ∈ cli, q.success = false ∧ (∀ f ∈ cli, f.success = false → q.ts ≤ f.ts) ∧ q.ts = t := by
  simp only [extractMilestones,minWhere_eq_some_iff,Bool.not_eq_eq_eq_not,Bool.not_true]
  constructor
  · rintro ⟨⟨q,hq,hfail,rfl⟩,hfirst⟩
    exact ⟨q,hq,hfail,hfirst,rfl⟩
  · rintro ⟨q,hq,hfail,hfirst,rfl⟩
    exact ⟨⟨q,hq,hfail,rfl⟩,hfirst⟩

theorem firstRecovery_iff : (extractMilestones obs cli).firstRecovery = some t ↔
    ∃ q ∈ cli, q.success = true ∧ (∃ f ∈ cli, f.success = false ∧ f.ts < q.ts) ∧
      (∀ s ∈ cli, s.success = true → (∃ f ∈ cli, f.success = false ∧ f.ts < s.ts) → q.ts ≤ s.ts) ∧
        q.ts = t := by
  simp only [extractMilestones,minWhere_eq_some_iff,Bool.and_eq_true,exceeds_minWhere,
    Bool.not_eq_eq_eq_not,Bool.not_true,and_imp]
  constructor
  · rintro ⟨⟨q,hq,⟨hok,hafter⟩,rfl⟩,hfirst⟩
    exact ⟨q,hq,hok,hafter,hfirst,rfl⟩
  · rintro ⟨q,hq,hok,hafter,hfirst,rfl⟩
    exact ⟨⟨q,hq,⟨hok,hafter⟩,rfl⟩,hfirst⟩

theorem BoundsPhase.point (hfail : (extractMilestones obs cli).firstClientFailure = some t0)
    (h : BoundsPhase obs cli i t) : phasePoint (extractMilestones obs cli) i = some t := by
  cases h with
  | @failure q hq hqfail hfirst => exact firstClientFailure_iff.mpr ⟨q,hq,hqfail,hfirst,rfl⟩
  | deletion hlast => exact consulLeaderDeleted_iff.mpr hlast
  | pgPromotion hlast =>
    rw [phasePoint,pgPromoted_iff.mpr hlast]
    rfl
  | patroniPromotion hnone hlast =>
    rw [phasePoint,pgPromoted_none_iff.mpr hnone]
    exact patroniPromoted_iff.mpr hlast
  | routing hfirst => exact (haproxyUp_iff hfail).mpr hfirst
  | @recovery q hq hok hafter hfirst =>
    exact firstRecovery_iff.mpr ⟨q,hq,hok,hafter,hfirst,rfl⟩

/-- With a failure, the points are the times of the events that bound the phases. -/
theorem boundsPhase_iff (hfail : (extractMilestones obs cli).firstClientFailure = some t0) :
    BoundsPhase obs cli i t ↔ phasePoint (extractMilestones obs cli) i = some t := by
  refine ⟨BoundsPhase.point hfail,fun h => ?_⟩
  rcases i with _ | _ | _ | _ | _ | i
  · obtain ⟨q,hq,hqfail,hfirst,rfl⟩ := firstClientFailure_iff.mp h
    exact .failure hq hqfail hfirst
  · exact .deletion (consulLeaderDeleted_iff.mp h)
  · rcases Option.or_eq_some_iff.mp h with hpg | ⟨hnone,hpatroni⟩
    · exact .pgPromotion (pgPromoted_iff.mp hpg)
    · exact .patroniPromotion (pgPromoted_none_iff.mp hnone) (patroniPromoted_iff.mp hpatroni)
  · exact .routing ((haproxyUp_iff hfail).mp h)
  · obtain ⟨q,hq,hok,hafter,hfirst,rfl⟩ := firstRecovery_iff.mp h
    exact .recovery hq hok hafter hfirst
  · contradiction

end Bounds

section Chain

variable {m : Milestones} {t0 : Timestamp}

def phaseName (m : Milestones) : ℕ → String
  | 0 => "Failure"
  | 1 => "DCS Detection"
  | 2 => if m.pgPromoted.isSome then "PG Promotion" else "Patroni Promotion"
  | 3 => "Routing Detection"
  | _ => "Client Recovery"

theorem availableMilestones_eq (hfail : m.firstClientFailure = some t0) :
    availableMilestones m t0 =
      (List.range 5).flatMap fun i => link (phaseName m i) (phasePoint m i) := by
  have hrange : List.range 5 = [0,1,2,3,4] := rfl
  cases hpg : m.pgPromoted with
  | none => simp [hrange,availableMilestones,phaseName,phasePoint,hpg,hfail,link]
  | some t => simp [hrange,availableMilestones,phaseName,phasePoint,hpg,hfail,link]

theorem pairwise_link {τ : Type} {R : String × τ → String × τ → Prop} (name : String)
    (t : Option τ) : (link name t).Pairwise R := by
  cases t <;> simp [link]

theorem pairwise_availableMilestones (hfail : m.firstClientFailure = some t0) :
    (availableMilestones m t0).Pairwise (fun a b => a.2 ≤ b.2) ↔
      ∀ i j s t, i < j → phasePoint m i = some s → phasePoint m j = some t → s ≤ t := by
  rw [availableMilestones_eq hfail,List.pairwise_flatMap,List.pairwise_iff_getElem]
  simp only [List.length_range,List.getElem_range]
  constructor
  · rintro ⟨-,h⟩ i j s t hij hi hj
    have hj5 : j < 5 := by
      by_contra hge
      obtain ⟨k,rfl⟩ := Nat.exists_eq_add_of_le (not_lt.mp hge)
      simp [phasePoint,Nat.add_comm 5] at hj
    exact h i j (hij.trans hj5) hj5 hij (_,s) (mem_link.mpr ⟨rfl,hi⟩) (_,t) (mem_link.mpr ⟨rfl,hj⟩)
  · refine fun h => ⟨fun _ _ => pairwise_link _ _,fun i j _ _ hij a ha b hb => ?_⟩
    exact h i j a.2 b.2 hij (mem_link.mp ha).2 (mem_link.mp hb).2

end Chain

section Stack

variable {τ : Type} {dur : τ → τ → ℚ} {offset : τ → ℚ}

/-- Stacked phases tile the time up to their sum if and only if none is negative. -/
theorem tiles_stackBars {phases : List (String × ℚ)} {lo hi : ℚ} :
    Tiles Bar.base Bar.duration lo (stackBars lo phases) hi ↔
      lo + (phases.map Prod.snd).sum = hi ∧ ∀ p ∈ phases, 0 ≤ p.2 := by
  induction phases generalizing lo with
  | nil => simp [stackBars,Tiles]
  | cons p phases ih =>
    simp only [stackBars,Tiles,true_and,ih,List.map_cons,List.sum_cons,List.forall_mem_cons,
      add_assoc]
    exact and_left_comm

theorem sum_phasesOf (hdur : ∀ a b, dur a b = offset b - offset a) (chain : List (String × τ))
    (e last : String × τ) (hlast : (e :: chain).getLast? = some last) :
    ((phasesOf dur (e :: chain)).map Prod.snd).sum = offset last.2 - offset e.2 := by
  induction chain generalizing e with
  | nil =>
    obtain rfl : e = last := by simpa using hlast
    simp [phasesOf]
  | cons e' chain ih =>
    have hrest := ih e' (by simpa using hlast)
    simp only [phasesOf,List.tail_cons,List.zip_cons_cons,List.map_cons,List.sum_cons] at hrest ⊢
    rw [hrest,hdur]
    ring

/-- The phases between the points of a chain are not negative if the chain is sorted. -/
theorem phasesOf_nonneg_iff [Preorder τ] (hdur : ∀ a b, 0 ≤ dur a b ↔ a ≤ b)
    (chain : List (String × τ)) :
    (∀ p ∈ phasesOf dur chain, 0 ≤ p.2) ↔ chain.Pairwise fun a b => a.2 ≤ b.2 := by
  induction chain with
  | nil => simp [phasesOf]
  | cons e chain ih =>
    cases chain with
    | nil => simp [phasesOf]
    | cons e' chain =>
      have hphases : phasesOf dur (e :: e' :: chain) =
          (e'.1,dur e.2 e'.2) :: phasesOf dur (e' :: chain) := rfl
      rw [hphases,List.forall_mem_cons,ih,hdur]
      constructor
      · rintro ⟨hle,hsorted⟩
        refine List.pairwise_cons.mpr ⟨List.forall_mem_cons.mpr ⟨hle,fun b hb => ?_⟩,hsorted⟩
        exact hle.trans ((List.pairwise_cons.mp hsorted).1 b hb)
      · intro hsorted
        exact ⟨(List.pairwise_cons.mp hsorted).1 e' List.mem_cons_self,hsorted.tail⟩

end Stack

section Chart

variable {m : Milestones} {t0 r : Timestamp} {chart : PhaseChart}

theorem buildPhaseChart_eq (ht0 : m.firstClientFailure = some t0)
    (hne : (availableMilestones m t0).tail ≠ []) :
    buildPhaseChart m = some {
      bars := stackBars 0 (phasesOf seconds (availableMilestones m t0))
      total := ((phasesOf seconds (availableMilestones m t0)).map Prod.snd).sum
      phases := phasesOf seconds (availableMilestones m t0) } := by
  have hphases : phasesOf seconds (availableMilestones m t0) ≠ [] :=
    fun hnil => hne (phases_eq_nil_iff.mp hnil)
  simp only [buildPhaseChart,ht0,Option.bind_some,List.isEmpty_iff,if_neg hphases,
    filterMap_lookup (by decide) (phases_sublist m t0)]

theorem getLast?_availableMilestones (hrec : m.firstRecovery = some r) :
    (availableMilestones m t0).getLast? = some ("Client Recovery",r) := by
  have hlink : link "Client Recovery" (some r) = [("Client Recovery",r)] := rfl
  rw [availableMilestones,hrec,hlink,← List.cons_append,List.getLast?_concat]

theorem phases_sum (hrec : m.firstRecovery = some r) :
    ((phasesOf seconds (availableMilestones m t0)).map Prod.snd).sum = seconds t0 r := by
  have hzero : seconds t0 t0 = 0 := by simp [seconds,epoch]
  have hsum := sum_phasesOf (seconds_eq_sub t0) (availableMilestones m t0).tail ("Failure",t0) _
    (getLast?_availableMilestones hrec)
  rw [hzero,sub_zero] at hsum
  exact hsum

end Chart

/-- The phases of the chart are segments that cover the outage, and nothing else. -/
structure TilesOutage (chart : PhaseChart) (outage : ℚ) : Prop where
  drawn : chart.bars.map (fun b => (b.name,b.duration)) = chart.phases
  tiles : Tiles Bar.base Bar.duration 0 chart.bars outage
  nonneg : ∀ p ∈ chart.phases, 0 ≤ p.2
  sum : (chart.phases.map Prod.snd).sum = outage
  within : ∀ b ∈ chart.bars, 0 ≤ b.base ∧ b.stop ≤ outage

theorem map_stackBars (lo : ℚ) (phases : List (String × ℚ)) :
    (stackBars lo phases).map (fun b => (b.name,b.duration)) = phases := by
  induction phases generalizing lo with
  | nil => rfl
  | cons p phases ih => rw [stackBars,List.map_cons,ih]

section Outage

variable {m : Milestones} {t0 r : Timestamp} {obs : List ObserverFrameRow}
  {cli : List ClientFrameRow}

theorem tilesOutage_iff_sorted (ht0 : m.firstClientFailure = some t0)
    (hrec : m.firstRecovery = some r) :
    (∃ chart, buildPhaseChart m = some chart ∧ TilesOutage chart (seconds t0 r)) ↔
      (availableMilestones m t0).Pairwise fun a b => a.2 ≤ b.2 := by
  have hne : (availableMilestones m t0).tail ≠ [] := by simp [availableMilestones,link,hrec]
  rw [buildPhaseChart_eq ht0 hne,← phasesOf_nonneg_iff fun _ _ => seconds_nonneg_iff]
  constructor
  · rintro ⟨chart,hchart,htiles⟩
    obtain rfl := Option.some.inj hchart
    exact htiles.nonneg
  · intro h
    have htiles := tiles_stackBars.mpr ⟨(zero_add _).trans (phases_sum hrec),h⟩
    exact ⟨_,rfl,{
      drawn := map_stackBars _ _
      tiles := htiles
      nonneg := h
      sum := phases_sum hrec
      within := htiles.within }⟩

/-- The phases tile the outage if and only if the events they lie between come in their order. -/
theorem phases_tile_outage_iff (hfail : (extractMilestones obs cli).firstClientFailure = some t0)
    (hrec : (extractMilestones obs cli).firstRecovery = some r) :
    (∃ chart, buildPhaseChart (extractMilestones obs cli) = some chart ∧
      TilesOutage chart (seconds t0 r)) ↔ BoundsInOrder obs cli := by
  rw [tilesOutage_iff_sorted hfail hrec,pairwise_availableMilestones hfail]
  simp only [BoundsInOrder,boundsPhase_iff hfail]

end Outage

def keyDeletedAt (ts : Timestamp) : List ObserverFrameRow := [{
  ts := ts
  component := "consul"
  node := "consul"
  eventType := "leader_key_deleted"
  oldValue := some "patroni-node1"
  newValue := ""
  detail := some "Leader key removed from Consul KV" }]

def outageQueries : List ClientFrameRow :=
  [query 9900000 1 true,query 10000000 2 false,query 19900000 3 false,query 20000000 4 true]
where
  query (ts : Timestamp) (sequence : Nat) (success : Bool) : ClientFrameRow :=
    (heartbeatRow "06" "06_20260424_030630" ts sequence success).frameRow

theorem phases_tile_outage_keyDeleted :
    (∃ chart, buildPhaseChart (extractMilestones (keyDeletedAt 9500000) outageQueries) = some chart ∧
      TilesOutage chart (seconds 10000000 20000000)) ↔
        BoundsInOrder (keyDeletedAt 9500000) outageQueries :=
  phases_tile_outage_iff (by decide) (by decide)

/-- A client whose connection outlives the leader key: the first phase is of negative duration. -/
theorem keyDeleted_leaves_outage :
    ¬ ∃ chart, buildPhaseChart (extractMilestones (keyDeletedAt 9500000) outageQueries) = some chart ∧
      TilesOutage chart (seconds 10000000 20000000) := by
  rw [tilesOutage_iff_sorted (by decide) (by decide)]
  decide

end RoutingBench
