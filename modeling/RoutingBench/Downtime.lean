import RoutingBench.Milestones
import RoutingBench.Waterfall
set_option autoImplicit false

/-!
The outage of a run, computed five times. Three of the computations look for the recovery
after the last failed query, as documented; the view and the milestones look after the
first one.
-/

namespace RoutingBench
open Aggregate

def ClientEvent.failure (r : ClientEvent) : Bool := !r.success

/-- First failed query to first successful query after the last failed query. -/
def documentedDowntime (rows : List ClientEvent) : Option Int :=
  between (minWhere ClientEvent.failure ClientEvent.ts rows)
    (recoveryFromLast ClientEvent.failure ClientEvent.success ClientEvent.ts rows)

/-- The same with the first successful query after the first failed one. -/
def earliestDowntime (rows : List ClientEvent) : Option Int :=
  between (minWhere ClientEvent.failure ClientEvent.ts rows)
    (recoveryFromFirst ClientEvent.failure ClientEvent.success ClientEvent.ts rows)

structure SingleRun (db : Database) (cid trid : String) (killTs : Timestamp) : Prop where
  registered : ∃ tr ∈ db.testRuns, tr.id = trid ∧ tr.combinationId = cid
  rows : ∀ r ∈ db.clientEvents, r.testRunId = trid ∧ r.combinationId = cid
  killed : ∀ r ∈ db.clientEvents, killTs < r.ts

section Computations

variable {db : Database} {cid trid : String} {killTs : Timestamp}

theorem SingleRun.filter_eq_self (h : SingleRun db cid trid killTs) {p : ClientEvent → Bool}
    (hp : ∀ r : ClientEvent, r.testRunId = trid → r.combinationId = cid → killTs < r.ts →
      p r = true) : db.clientEvents.filter p = db.clientEvents := by
  refine List.filter_eq_self.mpr fun r hr => ?_
  exact hp r (h.rows r hr).1 (h.rows r hr).2 (h.killed r hr)

theorem failoverWindow_downtime (h : SingleRun db cid trid killTs) :
    (failoverWindowOf db.clientEvents trid cid).downtimeMs =
      (earliestDowntime db.clientEvents).map fun d => epoch d * 1000 := by
  have hrows := h.filter_eq_self (p := fun r => r.testRunId = trid && r.combinationId = cid)
    (by simp_all)
  have hsub : minWhere (fun c2 => c2.testRunId = trid && !c2.success) ClientEvent.ts
      db.clientEvents = minWhere ClientEvent.failure ClientEvent.ts db.clientEvents :=
    minWhere_congr fun r hr => by simp [(h.rows r hr).1,ClientEvent.failure]
  simp only [failoverWindowOf,hrows,hsub]
  rfl

theorem measureDowntime_downtime (h : SingleRun db cid trid killTs) :
    (measureDowntime db.clientEvents killTs).1 =
      (documentedDowntime db.clientEvents).map fun d => round1 (epoch d) := by
  have hrows := h.filter_eq_self (p := fun r => killTs < r.ts) (by simp_all)
  have hsub : maxWhere (fun r => !r.success && killTs < r.ts) ClientEvent.ts db.clientEvents =
      maxWhere ClientEvent.failure ClientEvent.ts db.clientEvents :=
    maxWhere_congr fun r hr => by simp [h.killed r hr,ClientEvent.failure]
  simp only [measureDowntime,hrows,hsub]
  rfl

theorem milestones_downtime (h : SingleRun db cid trid killTs) (obs : List ObserverFrameRow) :
    between (extractMilestones obs (loadClientEvents db cid trid)).firstClientFailure
      (extractMilestones obs (loadClientEvents db cid trid)).firstRecovery =
      earliestDowntime db.clientEvents := by
  simp only [extractMilestones,minWhere_loadClientEvents]
  have hmin : ∀ p : ClientEvent → Bool,
      minWhere (fun r => (r.combinationId = cid && r.testRunId = trid) && p r) ClientEvent.ts
        db.clientEvents = minWhere p ClientEvent.ts db.clientEvents := fun p =>
    minWhere_congr fun r hr => by simp [h.rows r hr]
  rw [hmin,hmin]
  rfl

theorem overlapMarkers_downtime (h : SingleRun db cid trid killTs)
    (obs : List ObserverFrameRow) :
    between (extractOverlapPhases obs (loadClientEvents db cid trid)).2.firstFailure
      (extractOverlapPhases obs (loadClientEvents db cid trid)).2.firstRecovery =
      documentedDowntime db.clientEvents := by
  simp only [extractOverlapPhases,minWhere_loadClientEvents,maxWhere_loadClientEvents]
  have hmin : ∀ p : ClientEvent → Bool,
      minWhere (fun r => (r.combinationId = cid && r.testRunId = trid) && p r) ClientEvent.ts
        db.clientEvents = minWhere p ClientEvent.ts db.clientEvents := fun p =>
    minWhere_congr fun r hr => by simp [h.rows r hr]
  have hmax : ∀ p : ClientEvent → Bool,
      maxWhere (fun r => (r.combinationId = cid && r.testRunId = trid) && p r) ClientEvent.ts
        db.clientEvents = maxWhere p ClientEvent.ts db.clientEvents := fun p =>
    maxWhere_congr fun r hr => by simp [h.rows r hr]
  rw [hmin,hmin,hmax]
  rfl

theorem mem_waterfallBase (h : SingleRun db cid trid killTs) {b : WaterfallBase}
    (hid : b.runId = trid) :
    b ∈ waterfallBase db cid ↔ b.combinationId = cid ∧
      minWhere ClientEvent.failure ClientEvent.ts db.clientEvents = some b.tFirstFail ∧
      recoveryFromLast ClientEvent.failure ClientEvent.success ClientEvent.ts db.clientEvents =
        b.tClientRecover := by
  have hrows := h.filter_eq_self (p := fun ce => ce.testRunId = trid) (by simp_all)
  have hsub : maxWhere (fun r => r.testRunId = trid && !r.success) ClientEvent.ts
      db.clientEvents = maxWhere ClientEvent.failure ClientEvent.ts db.clientEvents :=
    maxWhere_congr fun r hr => by simp [(h.rows r hr).1,ClientEvent.failure]
  simp only [waterfallBase,List.mem_filterMap,List.mem_filter,decide_eq_true_eq,
    Option.map_eq_some_iff]
  constructor
  · intro hb
    obtain ⟨tr,⟨-,hcid⟩,first,hfirst,rfl⟩ := hb
    simp only at hid
    subst hid
    rw [hrows] at hfirst
    simp only [hrows,hsub]
    exact ⟨hcid,hfirst,rfl⟩
  · intro hb
    obtain ⟨hcid,hfirst,hrec⟩ := hb
    obtain ⟨tr,htr,hid',hcid'⟩ := h.registered
    subst hid'
    refine ⟨tr,⟨htr,hcid'⟩,b.tFirstFail,by rw [hrows]; exact hfirst,?_⟩
    simp only [hrows,hsub]
    rw [show minWhere _ _ _ = b.tClientRecover from hrec,← hid,hcid',← hcid]

theorem waterfall_downtime {φ : Type} {float : ℚ → φ} {collate : String → String → Bool}
    (h : SingleRun db cid trid killTs) (hfail : ∃ r ∈ db.clientEvents, r.failure = true) :
    (∃ row ∈ waterfallSql float collate db cid, row.runId = trid) ∧
      ∀ row ∈ waterfallSql float collate db cid, row.runId = trid →
        row.dtTc = (documentedDowntime db.clientEvents).map fun d => float (epoch d) := by
  constructor
  · obtain ⟨r,hr,hfail⟩ := hfail
    obtain ⟨first,hfirst⟩ := exists_minWhere (f := ClientEvent.ts) hr hfail
    have hb := (mem_waterfallBase h (b := ⟨trid,cid,first,_⟩) rfl).mpr ⟨rfl,hfirst,rfl⟩
    exact ⟨_,mem_waterfallSql.mpr ⟨_,hb,rfl⟩,rfl⟩
  · intro row hrow hid
    obtain ⟨b,hb,rfl⟩ := mem_waterfallSql.mp hrow
    obtain ⟨-,hfirst,hrec⟩ := (mem_waterfallBase h hid).mp hb
    simp only [documentedDowntime,hfirst,hrec]
    rfl

end Computations

section Agreement

variable {φ : Type} (float : ℚ → φ) (collate : String → String → Bool) (db : Database)
  (cid trid : String) (killTs : Timestamp)

/-- All computations of the outage of a run give the interval `d`. -/
structure DowntimesAgree (d : Int) : Prop where
  documented : documentedDowntime db.clientEvents = some d
  view : ∃ w ∈ failoverWindow db.clientEvents, w.testRunId = trid ∧ w.combinationId = cid ∧
    w.downtimeMs = some (epoch d * 1000)
  runner : (measureDowntime db.clientEvents killTs).1 = some (round1 (epoch d))
  waterfall : ∃ row ∈ waterfallSql float collate db cid, row.runId = trid ∧
    row.dtTc = some (float (epoch d))
  milestones : between
    (extractMilestones (loadObserverEvents db cid trid)
      (loadClientEvents db cid trid)).firstClientFailure
    (extractMilestones (loadObserverEvents db cid trid)
      (loadClientEvents db cid trid)).firstRecovery = some d
  overlap : between
    (extractOverlapPhases (loadObserverEvents db cid trid)
      (loadClientEvents db cid trid)).2.firstFailure
    (extractOverlapPhases (loadObserverEvents db cid trid)
      (loadClientEvents db cid trid)).2.firstRecovery = some d

variable {float} {collate} {db} {cid} {trid} {killTs}

theorem recovered_after_last (hfail : ∃ r ∈ db.clientEvents, r.failure = true)
    (hrecovery : ∃ r ∈ db.clientEvents, r.success = true ∧
      ∀ f ∈ db.clientEvents, f.failure = true → f.ts < r.ts) :
    ∃ rec, recoveryFromLast ClientEvent.failure ClientEvent.success ClientEvent.ts
      db.clientEvents = some rec := by
  obtain ⟨f,hf,hbad⟩ := hfail
  obtain ⟨last,hlast⟩ := exists_maxWhere (f := ClientEvent.ts) hf hbad
  obtain ⟨⟨l,hl,hlbad,hlts⟩,-⟩ := maxWhere_eq_some_iff.mp hlast
  obtain ⟨s,hs,hgood,hafter⟩ := hrecovery
  refine exists_minWhere hs ?_
  have hlt := hafter l hl hlbad
  simpa [hgood,hlast,← hlts] using hlt

/-- The five computations of the outage agree with the documented one if and only if no
successful query lies between two failed ones. -/
theorem downtimes_agree_iff (h : SingleRun db cid trid killTs)
    (hdistinct : (db.clientEvents.map ClientEvent.ts).Nodup)
    (hfail : ∃ r ∈ db.clientEvents, r.failure = true)
    (hrecovery : ∃ r ∈ db.clientEvents, r.success = true ∧
      ∀ f ∈ db.clientEvents, f.failure = true → f.ts < r.ts) :
    (∃ d, DowntimesAgree float collate db cid trid killTs d) ↔
      Contiguous ClientEvent.failure ClientEvent.success ClientEvent.ts db.clientEvents := by
  have hinj : ∀ b ∈ db.clientEvents, ∀ g ∈ db.clientEvents, b.failure = true →
      g.success = true → b.ts ≠ g.ts := by
    intro b hb g hg hbad hgood heq
    obtain rfl := List.inj_on_of_nodup_map hdistinct hb hg heq
    simp [ClientEvent.failure,hgood] at hbad
  obtain ⟨rec,hrec⟩ := recovered_after_last hfail hrecovery
  have hwaterfall := @waterfall_downtime db cid trid killTs φ float collate h hfail
  have hiff := recovery_eq_iff hfail (Option.isSome_of_eq_some hrec) hinj
  obtain ⟨r₀,hr₀,hfail₀⟩ := hfail
  obtain ⟨first,hfirst⟩ := exists_minWhere (f := ClientEvent.ts) hr₀ hfail₀
  have hdoc : documentedDowntime db.clientEvents = some (rec - first) := by
    rw [documentedDowntime,hfirst,hrec,between_some]
  constructor
  · intro hagree
    obtain ⟨d,hd⟩ := hagree
    refine hiff.mp ?_
    have hearly := milestones_downtime h (loadObserverEvents db cid trid)
    rw [hd.milestones,← hd.documented,hdoc,earliestDowntime,hfirst] at hearly
    rw [hrec]
    cases hr : recoveryFromFirst ClientEvent.failure ClientEvent.success ClientEvent.ts
      db.clientEvents with
    | none => simp [hr,between] at hearly
    | some rec' =>
      rw [hr,between_some,Option.some.injEq] at hearly
      rw [sub_left_inj.mp hearly]
  · intro hcon
    have hearly : earliestDowntime db.clientEvents = some (rec - first) := by
      rw [earliestDowntime,hiff.mpr hcon]
      exact hdoc
    obtain ⟨⟨row,hrow,hid⟩,htc⟩ := hwaterfall
    refine ⟨rec - first,hdoc,?_,?_,⟨row,hrow,hid,?_⟩,?_,?_⟩
    · refine ⟨_,mem_failoverWindow.mpr ⟨r₀,hr₀,rfl⟩,(h.rows r₀ hr₀).1,(h.rows r₀ hr₀).2,?_⟩
      rw [(h.rows r₀ hr₀).1,(h.rows r₀ hr₀).2,failoverWindow_downtime h,hearly]
      rfl
    · rw [measureDowntime_downtime h,hdoc]; rfl
    · rw [htc row hrow hid,hdoc]; rfl
    · rw [milestones_downtime h,hearly]
    · rw [overlapMarkers_downtime h,hdoc]

/-- A run of four queries, the first after the kill at `ts`, one every 100 ms. -/
def fourQueries (s₁ s₂ s₃ s₄ : Bool) : Database where
  testRuns := [{
    id := "06_20260424_030640"
    combinationId := "06"
    provider := "auto"
    startedAt := 1777000000000000
    failoverType := some "unknown" }]
  observerEvents := []
  clientEvents := [query 1777000000000000 1 s₁,query 1777000000100000 2 s₂,
    query 1777000000200000 3 s₃,query 1777000000300000 4 s₄]
  primaryKey := by simp
where
  query (ts : Timestamp) (sequence : Nat) (success : Bool) : ClientEvent :=
    heartbeatRow "06" "06_20260424_030640" ts sequence success

/-- A success between the failures: the view reports 100 ms, the outage is 300 ms. -/
theorem fourQueries_flapping :
    SingleRun (fourQueries false true false true) "06" "06_20260424_030640" 1776999999000000 ∧
      ((fourQueries false true false true).clientEvents.map ClientEvent.ts).Nodup ∧
      (∃ r ∈ (fourQueries false true false true).clientEvents, r.failure = true) ∧
      (∃ r ∈ (fourQueries false true false true).clientEvents, r.success = true ∧
        ∀ f ∈ (fourQueries false true false true).clientEvents, f.failure = true → f.ts < r.ts) ∧
      documentedDowntime (fourQueries false true false true).clientEvents = some 300000 ∧
      ∀ d, ¬ DowntimesAgree id (fun a b => decide (a ≤ b)) (fourQueries false true false true)
        "06" "06_20260424_030640" 1776999999000000 d := by
  refine ⟨⟨by decide,by decide,by decide⟩,by decide,by decide,by decide,by decide,?_⟩
  intro d h
  have hdoc : documentedDowntime (fourQueries false true false true).clientEvents =
    some 300000 := by decide
  have hview : ∀ w ∈ failoverWindow (fourQueries false true false true).clientEvents,
    w.downtimeMs = some 100 := by decide +kernel
  obtain ⟨w,hw,-,-,hms⟩ := h.view
  rw [hview w hw,Option.some.injEq] at hms
  have hd := h.documented
  rw [hdoc,Option.some.injEq] at hd
  subst hd
  exact absurd hms (by decide +kernel)

/-- Two failures, then two successes. -/
theorem downtimes_agree_fourQueries :
    (∃ d, DowntimesAgree id (fun a b => decide (a ≤ b)) (fourQueries false false true true)
      "06" "06_20260424_030640" 1776999999000000 d) ↔
    Contiguous ClientEvent.failure ClientEvent.success ClientEvent.ts
      (fourQueries false false true true).clientEvents :=
  downtimes_agree_iff ⟨by decide,by decide,by decide⟩ (by decide) (by decide) (by decide)

end Agreement

end RoutingBench
