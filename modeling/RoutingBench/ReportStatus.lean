import RoutingBench.ComboReport
import RoutingBench.Downtime
import RoutingBench.MilestoneAgreement
set_option autoImplicit false

/-!
What the status SUCCESS says in the two reports that are made from the database: for which runs
it stands, and when it is a recovery.
-/

namespace RoutingBench
open Aggregate Calendar

/-- No query of the run failed, or one succeeded after the last that failed. -/
def Passed (db : Database) (trid : String) : Prop :=
  (∀ q ∈ runQueries db trid, q.success = true) ∨ ClientReturned db trid

/-- No query of the run succeeded after some failed one. -/
def EndsInFailure (db : Database) (trid : String) : Prop :=
  ∃ f ∈ runQueries db trid, f.success = false ∧
    ∀ q ∈ runQueries db trid, q.success = true → q.ts ≤ f.ts

/-- The first failed query of the combination and its first successful one after a failed query
of the run are there, and not simultaneous. -/
def RecoveredOnce (db : Database) (cid trid : String) : Prop :=
  ∃ f ∈ taggedQueries db cid trid, f.success = false ∧
    (∀ e ∈ taggedQueries db cid trid, e.success = false → f.ts ≤ e.ts) ∧
    ∃ q ∈ taggedQueries db cid trid, afterFailedQuery (runQueries db trid) ClientEvent.success q ∧
      (∀ e ∈ taggedQueries db cid trid,
        afterFailedQuery (runQueries db trid) ClientEvent.success e → q.ts ≤ e.ts) ∧ f.ts ≠ q.ts

/-- The queries in the frame of load_run_data: all, or those from 15 s before the anchor of a
large run to 45 s after it. -/
def Shown (db : Database) (cid trid : String) (q : ClientEvent) : Prop :=
  q ∈ taggedQueries db cid trid ∧ (largeRun (loadClientEvents db cid trid) →
    ∀ a ∈ taggedEvents db cid trid, anchorEvent a →
      (∀ e ∈ taggedEvents db cid trid, anchorEvent e → e.ts ≤ a.ts) →
        within (a.ts - timedelta 15) (a.ts + timedelta 45) q.ts)

def ShowsNoFailure (db : Database) (cid trid : String) : Prop :=
  (∃ q, Shown db cid trid q) ∧ ∀ q, Shown db cid trid q → q.success = true

section Status

variable {db : Database} {cid trid : String}

theorem not_passed_iff : ¬ Passed db trid ↔ EndsInFailure db trid := by
  constructor
  · intro h
    obtain ⟨hsome,hnever⟩ := not_or.mp h
    obtain ⟨f,hf,hfail⟩ : ∃ f ∈ runQueries db trid, (!f.success) = true := by
      by_contra hnone
      refine hsome fun q hq => ?_
      by_contra hbad
      exact hnone ⟨q,hq,by simpa using hbad⟩
    obtain ⟨t,ht⟩ := exists_maxWhere (p := fun q => !q.success) (f := ClientEvent.ts) hf hfail
    obtain ⟨⟨last,hlast,hbad,rfl⟩,hmax⟩ := maxWhere_eq_some_iff.mp ht
    refine ⟨last,hlast,by simpa using hbad,fun q hq hsuccess => ?_⟩
    by_contra hlt
    refine hnever ⟨q,hq,hsuccess,fun e he hbad => ?_⟩
    exact lt_of_le_of_lt (hmax e he (by simpa using hbad)) (not_le.mp hlt)
  · rintro ⟨f,hf,hfail,hlast⟩ (hall | ⟨q,hq,hsuccess,hafter⟩)
    · exact absurd (hall f hf) (by simp [hfail])
    · exact absurd (hafter f hf hfail) (not_lt.mpr (hlast q hq hsuccess))

theorem mem_taggedQueries {q : ClientEvent} :
    q ∈ taggedQueries db cid trid ↔
      q ∈ db.clientEvents ∧ q.combinationId = cid ∧ q.testRunId = trid := by
  simp [taggedQueries]

theorem loadFailoverWindow_eq (db : Database) (cid trid : String) :
    loadFailoverWindow db cid trid = if taggedQueries db cid trid = [] then none
      else some (failoverWindowOf db.clientEvents trid cid) := by
  cases hload : loadFailoverWindow db cid trid with
  | none =>
    have hnone := List.find?_eq_none.mp hload
    refine (if_pos (List.eq_nil_iff_forall_not_mem.mpr fun q hq => ?_)).symm
    obtain ⟨hmem,rfl,rfl⟩ := mem_taggedQueries.mp hq
    exact hnone _ (mem_failoverWindow.mpr ⟨q,hmem,rfl⟩) (by simp [failoverWindowOf])
  | some w =>
    obtain ⟨q,hq,rfl⟩ := mem_failoverWindow.mp (List.mem_of_find?_eq_some hload)
    have hkey := List.find?_some hload
    obtain ⟨hcombination,hrun⟩ := Bool.and_eq_true_iff.mp hkey
    obtain rfl : q.combinationId = cid := of_decide_eq_true hcombination
    obtain rfl : q.testRunId = trid := of_decide_eq_true hrun
    have hmem : q ∈ taggedQueries db q.combinationId q.testRunId :=
      mem_taggedQueries.mpr ⟨hq,rfl,rfl⟩
    rw [if_neg (List.ne_nil_of_mem hmem)]

/-- The view's downtime, from the first failed query of the combination to its first successful
one after a failed query of the run. -/
theorem failoverWindowOf_downtimeMs (db : Database) (cid trid : String) :
    (failoverWindowOf db.clientEvents trid cid).downtimeMs =
      (between (minWhere (fun e => !e.success) ClientEvent.ts (taggedQueries db cid trid))
        (minWhere (afterFailedQuery (runQueries db trid) ClientEvent.success) ClientEvent.ts
          (taggedQueries db cid trid))).map fun d => epoch d * 1000 := by
  have hrows : (db.clientEvents.filter fun r => r.testRunId = trid && r.combinationId = cid) =
      taggedQueries db cid trid := by
    simp only [taggedQueries,Bool.and_comm]
  have hrecovery : afterFailedQuery (runQueries db trid) ClientEvent.success = fun r =>
      r.success && exceeds r.ts (minWhere (fun c2 => c2.testRunId = trid && !c2.success)
        ClientEvent.ts db.clientEvents) := by
    funext q
    rw [afterFailedQuery_eq,runQueries,minWhere_filter]
  rw [failoverWindowOf,hrows,hrecovery]

theorem downtime_isSome_iff {a b : Option Timestamp} :
    (((between a b).map fun d => epoch d * 1000).filter (· ≠ 0)).isSome ↔
      ∃ x y, a = some x ∧ b = some y ∧ x ≠ y := by
  cases a with
  | none => simp [between]
  | some x =>
    cases b with
    | none => simp [between]
    | some y =>
      have hzero : epoch (y - x) * 1000 ≠ 0 ↔ x ≠ y := by
        rw [ne_comm (a := x)]
        simp [epoch,sub_eq_zero]
      simp only [between_some,Option.map_some,Option.isSome_filter,Option.any_some,decide_eq_true_eq,
        hzero,Option.some.injEq]
      constructor
      · intro hne
        exact ⟨x,y,rfl,rfl,hne⟩
      · rintro ⟨_,_,rfl,rfl,hne⟩
        exact hne

theorem windowDowntime_isSome_iff :
    (windowDowntime (loadFailoverWindow db cid trid)).isSome ↔ RecoveredOnce db cid trid := by
  rw [loadFailoverWindow_eq]
  by_cases htagged : taggedQueries db cid trid = []
  · rw [if_pos htagged,RecoveredOnce,htagged]
    simp [windowDowntime]
  · rw [if_neg htagged,windowDowntime,Option.isSome_map,Option.bind_some,
      failoverWindowOf_downtimeMs,downtime_isSome_iff]
    simp only [minWhere_eq_some_iff,Bool.not_eq_true']
    constructor
    · rintro ⟨x,y,⟨⟨f,hf,hfail,rfl⟩,hfirst⟩,⟨⟨q,hq,hafter,rfl⟩,hnext⟩,hne⟩
      exact ⟨f,hf,hfail,hfirst,q,hq,hafter,hnext,hne⟩
    · rintro ⟨f,hf,hfail,hfirst,q,hq,hafter,hnext,hne⟩
      exact ⟨f.ts,q.ts,⟨⟨f,hf,hfail,rfl⟩,hfirst⟩,⟨⟨q,hq,hafter,rfl⟩,hnext⟩,hne⟩

theorem mem_loadClientEvents {r : ClientFrameRow} :
    r ∈ loadClientEvents db cid trid ↔ ∃ q ∈ taggedQueries db cid trid, q.frameRow = r := by
  simp only [loadClientEvents,List.mem_map,List.mem_mergeSort]
  rfl

theorem mem_loadWindowedClient {lo hi : Timestamp} {r : ClientFrameRow} :
    r ∈ loadWindowedClient db cid trid lo hi ↔
      ∃ q ∈ taggedQueries db cid trid, within lo hi q.ts = true ∧ q.frameRow = r := by
  simp only [loadWindowedClient,taggedQueries,List.mem_map,List.mem_mergeSort,List.mem_filter,
    Bool.and_eq_true,and_assoc]

theorem mem_windowedFrames {r : ClientFrameRow} :
    r ∈ (windowedFrames 45 db cid trid).2 ↔ ∃ q, Shown db cid trid q ∧ q.frameRow = r := by
  cases hlarge : largeRun (loadClientEvents db cid trid) with
  | false =>
    simp only [windowedFrames,hlarge,Shown,mem_loadClientEvents,Bool.false_eq_true,if_false,
      false_implies,and_true]
  | true =>
    simp only [Shown,hlarge,true_implies]
    cases hanchor : findFailoverAnchor db cid trid with
    | none =>
      have hnone : ∀ a ∈ taggedEvents db cid trid, ¬ anchorEvent a = true := by
        rw [findFailoverAnchor,maxWhere_eq_none_iff] at hanchor
        exact fun a ha => by simp [hanchor a ha]
      simp only [windowedFrames,hlarge,hanchor,if_true,mem_loadClientEvents]
      constructor
      · rintro ⟨q,hq,rfl⟩
        exact ⟨q,⟨hq,fun a ha hkind => absurd hkind (hnone a ha)⟩,rfl⟩
      · rintro ⟨q,⟨hq,-⟩,rfl⟩
        exact ⟨q,hq,rfl⟩
    | some anchor =>
      simp only [windowedFrames,hlarge,hanchor,if_true,mem_loadWindowedClient]
      constructor
      · rintro ⟨q,hq,hin,rfl⟩
        refine ⟨q,⟨hq,fun a ha hkind hlast => ?_⟩,rfl⟩
        have hsame := findFailoverAnchor_eq_some_iff.mpr ⟨a,ha,hkind,hlast,rfl⟩
        rw [hanchor,Option.some.injEq] at hsame
        exact hsame ▸ hin
      · rintro ⟨q,⟨hq,hin⟩,rfl⟩
        obtain ⟨a,ha,hkind,hlast,rfl⟩ := findFailoverAnchor_eq_some_iff.mp hanchor
        exact ⟨q,hq,hin a ha hkind hlast,rfl⟩

/-- The status of a run in the report of its session. -/
theorem iterationStatus_iff :
    iterationStatus (windowDowntime (loadFailoverWindow db cid trid))
        (windowedFrames 45 db cid trid).2 = "SUCCESS" ↔
      RecoveredOnce db cid trid ∨ ShowsNoFailure db cid trid := by
  have hshown : (!(windowedFrames 45 db cid trid).2.isEmpty &&
      (windowedFrames 45 db cid trid).2.all ClientFrameRow.success) = true ↔
        ShowsNoFailure db cid trid := by
    rw [Bool.and_eq_true,Bool.not_eq_true',List.isEmpty_eq_false_iff_exists_mem,List.all_eq_true,
      ShowsNoFailure]
    simp only [mem_windowedFrames]
    constructor
    · rintro ⟨⟨r,q,hq,-⟩,hall⟩
      exact ⟨⟨q,hq⟩,fun q hq => hall q.frameRow ⟨q,hq,rfl⟩⟩
    · rintro ⟨⟨q,hq⟩,hall⟩
      refine ⟨⟨q.frameRow,q,hq,rfl⟩,?_⟩
      rintro _ ⟨q,hq,rfl⟩
      exact hall q hq
  rw [← windowDowntime_isSome_iff,← hshown,iterationStatus]
  split
  next h => simp [h]
  next h =>
    split
    next hall => simp [hall]
    next hall => simp [h,hall]

/-- In the database report no run ends in failure. -/
theorem db_status_iff {comboFilter : Option String} :
    (∀ row ∈ dbReport db comboFilter, row.status = "SUCCESS" →
        ∀ trid, row.testRunId = some trid → Passed db trid) ↔
      ∀ tr ∈ db.testRuns, reported comboFilter tr = true → ¬ EndsInFailure db tr.id := by
  constructor
  · intro h tr htr hreported hends
    have hends' := hends
    obtain ⟨f,hf,-⟩ := hends'
    obtain ⟨hf,hid⟩ := List.mem_filter.mp hf
    have hrow : dbReportRow tr (failoverWindowOf db.clientEvents f.testRunId f.combinationId) ∈
        dbReport db comboFilter :=
      mem_dbReport.mpr ⟨tr,htr,hreported,_,mem_failoverWindow.mpr ⟨f,hf,rfl⟩,
        of_decide_eq_true hid,rfl⟩
    exact not_passed_iff.mpr hends (h _ hrow rfl tr.id rfl)
  · intro h row hrow _ trid htrid
    obtain ⟨tr,htr,hreported,w,-,-,rfl⟩ := mem_dbReport.mp hrow
    obtain rfl := Option.some.inj htrid
    by_contra hfailed
    exact h tr htr hreported (not_passed_iff.mp hfailed)

theorem mem_cmdComboReport {dirName : String} {dir : SessionDir} {x : ReportSection} :
    x ∈ (cmdComboReport db cid dirName dir).getD [] ↔
      ∃ date, parseSessionDate (dirName.toList.takeWhile (· ≠ '_')) = some date ∧
        ∃ k tr, (loadSessionRuns db cid date)[k]? = some tr ∧
          x = reportSection db cid dir (tr,k + 1) := by
  cases hparse : parseSessionDate (dirName.toList.takeWhile (· ≠ '_')) with
  | none =>
    rw [cmdComboReport,hparse]
    simp
  | some date =>
    rw [cmdComboReport_getD hparse,mem_sections]
    simp

/-- In the report of a session no run that ends in failure seems to recover. -/
theorem combo_status_iff {dirName : String} {dir : SessionDir} :
    (∀ x ∈ (cmdComboReport db cid dirName dir).getD [], x.status = "SUCCESS" →
        Passed db x.run.id) ↔
      ∀ date, parseSessionDate (dirName.toList.takeWhile (· ≠ '_')) = some date →
        ∀ tr ∈ db.testRuns, tr.combinationId = cid → utcDate tr.startedAt = date →
          EndsInFailure db tr.id →
            ¬ RecoveredOnce db cid tr.id ∧ ¬ ShowsNoFailure db cid tr.id := by
  have hstatus : ∀ tr k, (reportSection db cid dir (tr,k + 1)).status = "SUCCESS" ↔
      RecoveredOnce db cid tr.id ∨ ShowsNoFailure db cid tr.id :=
    fun tr k => iterationStatus_iff
  constructor
  · intro h date hparse tr htr hcid hdate hends
    obtain ⟨k,hk⟩ := List.mem_iff_getElem?.mp (mem_loadSessionRuns.mpr ⟨htr,hcid,hdate⟩)
    rw [← not_or,← hstatus tr k]
    intro hsuccess
    exact not_passed_iff.mpr hends (h _ (mem_cmdComboReport.mpr ⟨date,hparse,k,tr,hk,rfl⟩) hsuccess)
  · intro h x hx hsuccess
    obtain ⟨date,hparse,k,tr,hk,rfl⟩ := mem_cmdComboReport.mp hx
    obtain ⟨htr,hcid,hdate⟩ := mem_loadSessionRuns.mp (List.mem_of_getElem? hk)
    by_contra hfailed
    have hneither := h date hparse tr htr hcid hdate (not_passed_iff.mp hfailed)
    rw [← not_or,← hstatus tr k] at hneither
    exact hneither hsuccess

/-- SUCCESS is a recovery in the database report if and only if no reported run ends in failure, and
in the report of a session if and only if no run of its date that ends in failure recovered once
before, or is shown with successful queries only. -/
theorem success_is_recovery_iff (db : Database) (comboFilter : Option String)
    (cid dirName : String) (dir : SessionDir) :
    ((∀ row ∈ dbReport db comboFilter, row.status = "SUCCESS" →
        ∀ trid, row.testRunId = some trid → Passed db trid) ↔
      ∀ tr ∈ db.testRuns, reported comboFilter tr = true → ¬ EndsInFailure db tr.id) ∧
    ((∀ x ∈ (cmdComboReport db cid dirName dir).getD [], x.status = "SUCCESS" →
        Passed db x.run.id) ↔
      ∀ date, parseSessionDate (dirName.toList.takeWhile (· ≠ '_')) = some date →
        ∀ tr ∈ db.testRuns, tr.combinationId = cid → utcDate tr.startedAt = date →
          EndsInFailure db tr.id →
            ¬ RecoveredOnce db cid tr.id ∧ ¬ ShowsNoFailure db cid tr.id) :=
  ⟨db_status_iff,combo_status_iff⟩

/-- The client fails, recovers, and fails again until the end: both reports count the run as a
success. -/
theorem failedAgain_success :
    ¬ (∀ row ∈ dbReport (fourQueries true false true false) none, row.status = "SUCCESS" →
        ∀ trid, row.testRunId = some trid →
          Passed (fourQueries true false true false) trid) ∧
      ¬ ∀ x ∈ (cmdComboReport (fourQueries true false true false) "06" unhealthyStart.dirName
          []).getD [], x.status = "SUCCESS" →
            Passed (fourQueries true false true false) x.run.id := by
  have hends : EndsInFailure (fourQueries true false true false) "06_20260424_030640" := by
    unfold EndsInFailure
    decide
  have hrecovered : RecoveredOnce (fourQueries true false true false) "06"
      "06_20260424_030640" := by
    unfold RecoveredOnce
    decide
  refine ⟨fun h => db_status_iff.mp h _ List.mem_cons_self rfl hends,fun h => ?_⟩
  have hparse := (parse_dirName unhealthyStart).1 ⟨by decide,by decide⟩
  exact (combo_status_iff.mp h _ hparse _ List.mem_cons_self rfl (by decide) hends).1 hrecovered

end Status

end RoutingBench
