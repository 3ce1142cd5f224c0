import RoutingBench.Pairing
import RoutingBench.Report
import RoutingBench.Waterfall
set_option autoImplicit false

/-!
The per-iteration table of the batch report. It finds the run of a row by counting: the row's
position among those of its scenario is the run's position in the database.
-/

namespace RoutingBench
open Aggregate Pairing

/-- A line of the table: the row, the run found for it, and what is shown of that run. -/
structure IterationLine where
  row : ResultRow
  runId : Option String
  milestones : Option (WaterfallRow ℚ)
  serverDone : Option ℚ
  clientDelay : Option ℚ
  highlighted : Bool
  deriving DecidableEq

/-- `ftype or "unknown"`. -/
def scenarioKey (tr : TestRun) : String :=
  match tr.failoverType with
  | some ftype => if ftype = "" then "unknown" else ftype
  | none => "unknown"

def runsByScenario (db : Database) (comboId : String) (scenario : Option String) : List TestRun :=
  ((db.testRuns.filter fun tr => tr.combinationId = comboId).mergeSort
    fun a b => a.startedAt ≤ b.startedAt).filter fun tr => some (scenarioKey tr) = scenario

def milestonesOf (db : Database) (comboId : String) (runId : Option String) :
    Option (WaterfallRow ℚ) :=
  runId.bind fun rid => if rid = "" then none
    else (waterfallSql id (fun a b => decide (a ≤ b)) db comboId).find? fun m => m.runId = rid

def iterationLine (db : Database) (comboId : String) (p : ResultRow × Option String) :
    IterationLine :=
  let ms := milestonesOf db comboId p.2
  let serverVals := [ms.bind WaterfallRow.dtT0,ms.bind WaterfallRow.dtT1,
    ms.bind WaterfallRow.dtT2,ms.bind WaterfallRow.dtT3].reduceOption
  let serverDone := serverVals.max?
  let clientDelay := serverDone.bind fun s => (ms.bind WaterfallRow.dtTc).map fun tc =>
    max (tc - s) 0
  { row := p.1
    runId := p.2
    milestones := ms
    serverDone := if clientDelay.isSome then serverDone else none
    clientDelay := clientDelay
    highlighted := serverDone.any fun s => 0 < s && clientDelay.any (3 * s < ·) }

def renderPerIterationTable (rows : List ResultRow) (db : Database) :
    List (String × List IterationLine) :=
  ((rows.map ResultRow.comboDir).dedup.mergeSort fun a b => a ≤ b).map fun comboId =>
    (comboId,(assign ResultRow.scenario (fun s => (runsByScenario db comboId s).map TestRun.id)
      (fun _ => 0) (rows.filter fun row => row.comboDir = comboId)).map (iterationLine db comboId))

/-- Every line shows the milestones of the run its row is about, or none if it is about none. -/
def ShowsOwnRuns (table : List (String × List IterationLine)) : Prop :=
  ∀ part ∈ table, ∀ line ∈ part.2, line.runId = line.row.testRunId

def ownRuns (rows : List ResultRow) (comboId : String) (scenario : Option String) :
    List (Option String) :=
  (rows.filter fun row => row.comboDir = comboId && row.scenario = scenario).map
    ResultRow.testRunId

theorem showsOwnRuns_iff {rows : List ResultRow} {db : Database} :
    ShowsOwnRuns (renderPerIterationTable rows db) ↔ ∀ comboId scenario,
      Matched (ownRuns rows comboId scenario)
        ((runsByScenario db comboId scenario).map TestRun.id) := by
  have hcombo : ∀ comboId, (∀ line ∈ (assign ResultRow.scenario
      (fun s => (runsByScenario db comboId s).map TestRun.id) (fun _ => 0)
        (rows.filter fun row => row.comboDir = comboId)).map (iterationLine db comboId),
          line.runId = line.row.testRunId) ↔ ∀ scenario,
      Matched (ownRuns rows comboId scenario)
        ((runsByScenario db comboId scenario).map TestRun.id) := by
    intro comboId
    simp only [List.forall_mem_map,iterationLine,assign_own_iff,List.drop_zero,List.filter_filter,
      ownRuns,Bool.and_comm]
  constructor
  · intro h comboId
    by_cases hmem : comboId ∈ rows.map ResultRow.comboDir
    · refine (hcombo comboId).mp (h (comboId,_) (List.mem_map.mpr ⟨comboId,?_,rfl⟩))
      simpa using hmem
    · intro scenario
      have hnone : ownRuns rows comboId scenario = [] := by
        simp only [ownRuns,List.map_eq_nil_iff,List.filter_eq_nil_iff]
        intro row hrow hsame
        have hrow' := List.mem_map_of_mem (f := ResultRow.comboDir) hrow
        simp_all
      rw [hnone]
      exact matched_nil _
  · intro h part hpart
    obtain ⟨comboId,-,rfl⟩ := List.mem_map.mp hpart
    exact (hcombo comboId).mpr (h comboId)

/-- In the batch's table of a scenario the iterations with a run come first, the database's runs
begin with theirs, and it has no other run for an iteration without one. -/
structure BatchRunsInOrder (rows : List ResultRow) (db : Database) (comboId : String)
    (scenario : Option String) : Prop where
  unregisteredLast : (ownRuns rows comboId scenario).Pairwise fun a b => a = none → b = none
  registeredFirst : (ownRuns rows comboId scenario).reduceOption <+:
    (runsByScenario db comboId scenario).map TestRun.id
  noOtherRun : none ∈ ownRuns rows comboId scenario →
    (ownRuns rows comboId scenario).reduceOption =
      (runsByScenario db comboId scenario).map TestRun.id

theorem batch_lines_iff {rows : List ResultRow} {db : Database} :
    ShowsOwnRuns (renderPerIterationTable rows db) ↔
      ∀ comboId scenario, BatchRunsInOrder rows db comboId scenario := by
  rw [showsOwnRuns_iff]
  refine forall_congr' fun comboId => forall_congr' fun scenario => ?_
  rw [matched_iff]
  exact ⟨fun ⟨hlast,hfirst,hother⟩ => ⟨hlast,hfirst,hother⟩,
    fun h => ⟨h.unregisteredLast,h.registeredFirst,h.noOtherRun⟩⟩

def HasQueries (db : Database) (trid : String) : Prop :=
  ∃ q ∈ db.clientEvents, q.testRunId = trid

/-- Of the reported runs, those with queries have a scenario, their queries are tagged with one
combination, and no run without queries starts before one of its scenario that has some. -/
structure ReportedRunsInOrder (db : Database) (comboFilter : Option String) : Prop where
  named : ∀ tr ∈ db.testRuns, reported comboFilter tr = true → HasQueries db tr.id →
    tr.failoverType ≠ none ∧ tr.failoverType ≠ some ""
  oneCombination : ∀ tr ∈ db.testRuns, reported comboFilter tr = true →
    ∀ q ∈ db.clientEvents, ∀ q' ∈ db.clientEvents, q.testRunId = tr.id → q'.testRunId = tr.id →
      q.combinationId = q'.combinationId
  inOrder : ∀ comboId scenario, comboWanted comboFilter comboId = true →
    (runsByScenario db comboId scenario).Pairwise fun a b =>
      b.failoverType = scenario ∧ HasQueries db b.id →
        a.failoverType = scenario ∧ HasQueries db a.id

section Database

variable {db : Database} {comboFilter : Option String} {comboId : String}
  {scenario : Option String}

def rowCount (db : Database) (scenario : Option String) (tr : TestRun) : Nat :=
  if tr.failoverType = scenario then (windowsOf db tr.id).length else 0

theorem rowCount_ne_zero_iff {tr : TestRun} :
    rowCount db scenario tr ≠ 0 ↔ tr.failoverType = scenario ∧ HasQueries db tr.id := by
  have hqueries : windowsOf db tr.id ≠ [] ↔ HasQueries db tr.id := by
    rw [ne_eq,windowsOf_eq_nil_iff,HasQueries]
    simp only [not_forall,not_not,exists_prop]
  by_cases h : tr.failoverType = scenario
  · simp [rowCount,h,← hqueries]
  · simp [rowCount,h]

theorem reportKey_le_iff {a b : TestRun} (hcombo : a.combinationId = b.combinationId)
    (htype : a.failoverType = b.failoverType) :
    reportKey a ≤ reportKey b ↔ a.startedAt ≤ b.startedAt := by
  rw [reportKey,reportKey,Prod.Lex.toLex_le_toLex,Prod.Lex.toLex_le_toLex,hcombo,htype]
  constructor
  · rintro (h | ⟨-,h | ⟨-,h⟩⟩)
    · exact absurd h (lt_irrefl _)
    · exact absurd h (lt_irrefl (α := WithTop String) b.failoverType)
    · exact h
  · intro h
    exact .inr ⟨rfl,.inr ⟨rfl,h⟩⟩

theorem ownRuns_dbReport (hcombo : comboWanted comboFilter comboId = true) :
    ownRuns (dbReport db comboFilter) comboId scenario =
      ((db.testRuns.filter fun tr => tr.combinationId = comboId && tr.failoverType = scenario).mergeSort
        fun a b => a.startedAt ≤ b.startedAt).flatMap fun tr =>
          List.replicate (windowsOf db tr.id).length (some tr.id) := by
  have hrows : ∀ tr : TestRun, (((windowsOf db tr.id).map (dbReportRow tr)).filter fun row =>
      row.comboDir = comboId && row.scenario = scenario).map ResultRow.testRunId =
        if tr.combinationId = comboId && tr.failoverType = scenario
          then List.replicate (windowsOf db tr.id).length (some tr.id) else [] := by
    intro tr
    have hsame : ((fun row : ResultRow => decide (row.comboDir = comboId) &&
        decide (row.scenario = scenario)) ∘ dbReportRow tr) =
      fun _ => decide (tr.combinationId = comboId) && decide (tr.failoverType = scenario) := rfl
    rw [List.filter_map,List.map_map,hsame]
    by_cases h : (tr.combinationId = comboId && tr.failoverType = scenario) = true
    · rw [if_pos h,List.filter_eq_self.mpr fun w _ => h]
      exact List.map_const'
    · rw [if_neg h,List.filter_eq_nil_iff.mpr fun w _ => h]
      rfl
  have hreported : (db.testRuns.filter (reported comboFilter)).filter (fun tr =>
      tr.combinationId = comboId && tr.failoverType = scenario) =
        db.testRuns.filter fun tr => tr.combinationId = comboId && tr.failoverType = scenario := by
    rw [List.filter_filter]
    refine List.filter_congr fun tr _ => ?_
    by_cases h : tr.combinationId = comboId
    · subst h
      rw [reported,hcombo,Bool.and_true]
    · simp [h]
  rw [ownRuns,dbReport,List.filter_flatMap,List.map_flatMap]
  simp only [hrows]
  rw [← flatMap_filter,filter_orderBy (g := TestRun.startedAt) ?_,hreported]
  intro a b ha hb
  simp only [Bool.and_eq_true,decide_eq_true_eq] at ha hb
  exact reportKey_le_iff (ha.1.trans hb.1.symm) (ha.2.trans hb.2.symm)

theorem runsByScenario_eq (db : Database) (comboId : String) (scenario : Option String) :
    runsByScenario db comboId scenario =
      (db.testRuns.filter fun tr => tr.combinationId = comboId && some (scenarioKey tr) = scenario
        ).mergeSort fun a b => a.startedAt ≤ b.startedAt := by
  rw [runsByScenario,filter_orderBy (g := TestRun.startedAt) fun _ _ _ _ => Iff.rfl,
    List.filter_filter]
  simp only [Bool.and_comm]

theorem scenarioKey_ne_empty (tr : TestRun) : scenarioKey tr ≠ "" := by
  unfold scenarioKey
  split
  · split
    · decide
    · assumption
  · decide

theorem scenarioKey_of_some {tr : TestRun} {s : String} (h : tr.failoverType = some s)
    (hs : s ≠ "") : scenarioKey tr = s := by
  simp [scenarioKey,h,hs]

theorem scenarioKey_eq_iff {tr : TestRun} {s : String} (hs : s ≠ "") (hs' : s ≠ "unknown") :
    scenarioKey tr = s ↔ tr.failoverType = some s := by
  constructor
  · intro h
    unfold scenarioKey at h
    split at h
    · split at h
      · exact absurd h.symm hs'
      · simp_all
    · exact absurd h.symm hs'
  · intro h
    exact scenarioKey_of_some h hs

theorem ownRuns_eq_repeated {s : String} (hs : s ≠ "")
    (hcombo : comboWanted comboFilter comboId = true) :
    ownRuns (dbReport db comboFilter) comboId (some s) =
      (runsByScenario db comboId (some s)).flatMap fun tr =>
        List.replicate (rowCount db (some s) tr) (some tr.id) := by
  have hruns : (runsByScenario db comboId (some s)).filter (fun tr => tr.failoverType = some s) =
      (db.testRuns.filter fun tr => tr.combinationId = comboId && tr.failoverType = some s).mergeSort
        fun a b => a.startedAt ≤ b.startedAt := by
    rw [runsByScenario_eq,filter_orderBy (g := TestRun.startedAt) fun _ _ _ _ => Iff.rfl,
      List.filter_filter]
    refine congrArg (List.mergeSort · _) (List.filter_congr fun tr _ => ?_)
    by_cases h : tr.failoverType = some s
    · simp [h,scenarioKey_of_some h hs]
    · simp [h]
  rw [ownRuns_dbReport hcombo,← hruns,flatMap_filter]
  refine List.flatMap_congr fun tr _ => ?_
  by_cases h : tr.failoverType = some s
  · simp [rowCount,h]
  · simp [rowCount,h]

theorem nodup_runsByScenario (db : Database) (comboId : String) (scenario : Option String) :
    ((runsByScenario db comboId scenario).map TestRun.id).Nodup := by
  rw [runsByScenario_eq]
  exact nodup_selected_ids db _ _

theorem runsByScenario_unnamed (h : scenario = none ∨ scenario = some "") :
    runsByScenario db comboId scenario = [] := by
  refine List.filter_eq_nil_iff.mpr fun tr _ => ?_
  rcases h with rfl | rfl
  · simp
  · simpa using scenarioKey_ne_empty tr

theorem mem_ownRuns_dbReport {o : Option String} :
    o ∈ ownRuns (dbReport db comboFilter) comboId scenario ↔ ∃ tr ∈ db.testRuns,
      reported comboFilter tr = true ∧ tr.combinationId = comboId ∧ tr.failoverType = scenario ∧
        HasQueries db tr.id ∧ o = some tr.id := by
  simp only [ownRuns,List.mem_map,List.mem_filter,Bool.and_eq_true,decide_eq_true_eq,mem_dbReport,
    mem_failoverWindow]
  constructor
  · rintro ⟨row,⟨⟨tr,htr,hreported,w,⟨q,hq,rfl⟩,hid,rfl⟩,hcombo,htype⟩,rfl⟩
    exact ⟨tr,htr,hreported,hcombo,htype,⟨q,hq,hid⟩,rfl⟩
  · rintro ⟨tr,htr,hreported,hcombo,htype,⟨q,hq,hid⟩,rfl⟩
    exact ⟨_,⟨⟨tr,htr,hreported,_,⟨q,hq,rfl⟩,hid,rfl⟩,hcombo,htype⟩,rfl⟩

/-- In a named scenario the rows match the runs if and only if each run has at most one row, and
none without one comes before one that has it. -/
theorem matched_dbReport_iff {s : String} (hs : s ≠ "")
    (hcombo : comboWanted comboFilter comboId = true) :
    Matched (ownRuns (dbReport db comboFilter) comboId (some s))
        ((runsByScenario db comboId (some s)).map TestRun.id) ↔
      (∀ tr ∈ runsByScenario db comboId (some s), rowCount db (some s) tr ≤ 1) ∧
        (runsByScenario db comboId (some s)).Pairwise fun a b =>
          b.failoverType = some s ∧ HasQueries db b.id →
            a.failoverType = some s ∧ HasQueries db a.id := by
  rw [ownRuns_eq_repeated hs hcombo,matched_repeated_iff (nodup_runsByScenario db comboId _)]
  simp only [rowCount_ne_zero_iff]

theorem reported_named (h : ∀ comboId scenario,
      Matched (ownRuns (dbReport db comboFilter) comboId scenario)
        ((runsByScenario db comboId scenario).map TestRun.id))
    {tr : TestRun} (htr : tr ∈ db.testRuns) (hreported : reported comboFilter tr = true)
    (hqueries : HasQueries db tr.id) : tr.failoverType ≠ none ∧ tr.failoverType ≠ some "" := by
  rw [← not_or]
  intro hunnamed
  have hmatched := h tr.combinationId tr.failoverType
  obtain ⟨k,hk⟩ := List.mem_iff_getElem?.mp
    (mem_ownRuns_dbReport.mpr ⟨tr,htr,hreported,rfl,rfl,hqueries,rfl⟩)
  rw [runsByScenario_unnamed hunnamed] at hmatched
  simpa using hmatched k _ hk

theorem db_lines_iff :
    ShowsOwnRuns (renderPerIterationTable (dbReport db comboFilter) db) ↔
      ReportedRunsInOrder db comboFilter := by
  rw [showsOwnRuns_iff]
  constructor
  · intro h
    have hnamed : ∀ tr ∈ db.testRuns, reported comboFilter tr = true → HasQueries db tr.id →
        tr.failoverType ≠ none ∧ tr.failoverType ≠ some "" :=
      fun _ htr hreported hqueries => reported_named h htr hreported hqueries
    refine ⟨hnamed,?_,?_⟩
    · intro tr htr hreported q hq q' hq' hid hid'
      obtain ⟨hnone,hempty⟩ := hnamed tr htr hreported ⟨q,hq,hid⟩
      obtain ⟨s,hs⟩ := Option.ne_none_iff_exists'.mp hnone
      have hne : s ≠ "" := fun h => hempty (h ▸ hs)
      have hcount := ((matched_dbReport_iff hne hreported).mp (h _ _)).1 tr (by
        rw [runsByScenario_eq]
        simp [htr,scenarioKey_of_some hs hne])
      rw [rowCount,if_pos hs] at hcount
      exact windowsOf_length_le_one_iff.mp hcount q hq q' hq' hid hid'
    · intro comboId scenario hcombo
      by_cases hunnamed : scenario = none ∨ scenario = some ""
      · rw [runsByScenario_unnamed hunnamed]
        exact List.Pairwise.nil
      · obtain ⟨hnone,hempty⟩ := not_or.mp hunnamed
        obtain ⟨s,rfl⟩ := Option.ne_none_iff_exists'.mp hnone
        exact ((matched_dbReport_iff (fun h => hempty (h ▸ rfl)) hcombo).mp (h _ _)).2
  · intro h comboId scenario
    by_cases hnamed : comboWanted comboFilter comboId = true ∧ scenario ≠ none ∧ scenario ≠ some ""
    · obtain ⟨hcombo,hnone,hempty⟩ := hnamed
      obtain ⟨s,rfl⟩ := Option.ne_none_iff_exists'.mp hnone
      refine (matched_dbReport_iff (fun h => hempty (h ▸ rfl)) hcombo).mpr
        ⟨fun tr htr => ?_,h.inOrder comboId (some s) hcombo⟩
      rw [runsByScenario_eq,List.mem_mergeSort,List.mem_filter,Bool.and_eq_true,
        decide_eq_true_eq] at htr
      rw [rowCount]
      split
      · exact windowsOf_length_le_one_iff.mpr
          (h.oneCombination tr htr.1 (by rw [reported,htr.2.1]; exact hcombo))
      · exact Nat.zero_le 1
    · have hnil : ownRuns (dbReport db comboFilter) comboId scenario = [] := by
        refine List.eq_nil_iff_forall_not_mem.mpr fun o ho => hnamed ?_
        obtain ⟨tr,htr,hreported,rfl,rfl,hqueries,-⟩ := mem_ownRuns_dbReport.mp ho
        exact ⟨hreported,h.named tr htr hreported hqueries⟩
      rw [hnil]
      exact matched_nil _

/-- The lines of both reports show their own runs if and only if position tells: in the database
report no run is left out before another one of its scenario, and in the batch report the runs
of the database are those of the batch, as far as the batch has any. -/
theorem lines_show_own_runs_iff (db : Database) (comboFilter : Option String)
    (csv : List ResultRow) :
    (ShowsOwnRuns (renderPerIterationTable (dbReport db comboFilter) db) ↔
      ReportedRunsInOrder db comboFilter) ∧
    (ShowsOwnRuns (renderPerIterationTable csv db) ↔
      ∀ comboId scenario, BatchRunsInOrder csv db comboId scenario) :=
  ⟨db_lines_iff,batch_lines_iff⟩

/-- Two runs of a scenario; the injection of the first one was skipped, and its client had
nothing to report. -/
def skippedInjection : Database where
  testRuns := [hardStopRun "06_20260424_030630" 1776999990000000,
    hardStopRun "06_20260424_031030" 1777000230000000]
  observerEvents := []
  clientEvents := [heartbeatRow "06" "06_20260424_031030" 1777000240000000 1 false]
  primaryKey := by simp [hardStopRun]

/-- The batch that left these runs, after an iteration whose cluster was not healthy. -/
def unhealthyIteration : List ResultRow :=
  [row none "CLUSTER_UNHEALTHY",row (some "06_20260424_030630") "SKIPPED",
    row (some "06_20260424_031030") "SUCCESS"]
where
  row (testRunId : Option String) (status : String) : ResultRow :=
    { comboDir := "06"
      scenario := some "hard_stop"
      testRunId := testRunId
      downtimeS := .text "—"
      failedQueries := .text "—"
      status := status }

/-- In both reports a row shows another run. -/
theorem skippedInjection_shifts :
    ¬ ShowsOwnRuns (renderPerIterationTable (dbReport skippedInjection none) skippedInjection) ∧
      ¬ ShowsOwnRuns (renderPerIterationTable unhealthyIteration skippedInjection) := by
  have hruns : runsByScenario skippedInjection "06" (some "hard_stop") =
      skippedInjection.testRuns := by
    rw [runsByScenario,List.mergeSort_of_pairwise (by decide)]
    rfl
  constructor
  · intro h
    have horder := (db_lines_iff.mp h).inOrder "06" (some "hard_stop") rfl
    rw [hruns] at horder
    have hqueries := List.rel_of_pairwise_cons horder (List.mem_singleton.mpr rfl)
      ⟨rfl,_,List.mem_singleton.mpr rfl,rfl⟩
    obtain ⟨-,q,hq,hid⟩ := hqueries
    obtain rfl := List.mem_singleton.mp hq
    exact absurd hid (by decide)
  · intro h
    have hlast := (batch_lines_iff.mp h "06" (some "hard_stop")).unregisteredLast
    exact absurd hlast (by decide)

end Database

end RoutingBench
