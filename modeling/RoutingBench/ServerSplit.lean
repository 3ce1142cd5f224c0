import RoutingBench.BatchCharts
import RoutingBench.IterationTable
import RoutingBench.MilestoneAgreement
import RoutingBench.WaterfallBars
set_option autoImplicit false

/-!
The outage of a run, split into the time of the server and the delay of the client. The hero
chart, the sections of the waterfall and the table of iterations each compute the split anew.
-/

namespace RoutingBench
open Aggregate Pairing

def Database.ofScenario (db : Database) (scenario : String) : Database where
  testRuns := db.testRuns.filter fun tr => tr.failoverType = some scenario
  observerEvents := db.observerEvents
  clientEvents := db.clientEvents
  primaryKey := db.primaryKey.sublist (List.filter_sublist.map TestRun.id)

def scenarioWaterfall (db : Database) (comboId scenario : String) : Option Medians :=
  computeWaterfall (waterfallSql id (fun a b => decide (a ≤ b)) (db.ofScenario scenario) comboId)

structure HeroPoint where
  comboId : String
  label : String
  serverDone : ℚ
  clientDelay : ℚ
  tc : ℚ
  deriving DecidableEq

def Medians.serverVals (m : Medians) : List ℚ := [m.t0,m.t1,m.t2,m.t3].reduceOption

def heroPoint (db : Database) (comboId : String) : Option HeroPoint :=
  (scenarioWaterfall db comboId "hard_stop").bind fun medians => medians.tc.map fun tc =>
    let serverDone := medians.serverVals.max?.getD 0
    let clientDelay := tc - serverDone
    { comboId := comboId
      label := layerLabel comboId
      serverDone := if clientDelay < 0 then tc else serverDone
      clientDelay := if clientDelay < 0 then 0 else clientDelay
      tc := tc }

def heroPoints (rows : List ResultRow) (db : Database) : List HeroPoint :=
  ((groupKeys (rows.map ResultRow.comboDir)).filterMap (heroPoint db)).mergeSort
    fun a b => a.tc ≤ b.tc

def renderHeroChart (rows : List ResultRow) (db : Database) : Option (List HeroPoint × Bool) :=
  let points := heroPoints rows db
  if points.isEmpty then none else some (points,points.any fun p => p.clientDelay = 0)

/-- round() of a float: a half goes to the even neighbour. -/
def pyRound (x : ℚ) : Int :=
  let rest := x - x.floor
  if rest < 1 / 2 then x.floor
  else if 1 / 2 < rest then x.floor + 1
  else if x.floor % 2 = 0 then x.floor
  else x.floor + 1

/-- The line under the chart of a combination. -/
inductive SplitLine where
  | delay (serverDone clientDelay : ℚ) (clientPct : Int)
  | before (serverDone ahead : ℚ)
  deriving DecidableEq

def splitLine (medians : Medians) (tc : ℚ) : Option SplitLine :=
  medians.serverVals.max?.map fun serverDone =>
    let clientDelay := tc - serverDone
    if clientDelay < 0 then .before serverDone |clientDelay|
    else .delay serverDone clientDelay (if 0 < tc then pyRound (clientDelay / tc * 100) else 0)

structure WaterfallSection where
  comboId : String
  label : String
  bars : List Bar
  split : Option SplitLine
  offsets : List (String × ℚ)
  deriving DecidableEq

def waterfallSection (comboId : String) (medians : Medians) : Option WaterfallSection :=
  medians.tc.map fun tc =>
    { comboId := comboId
      label := layerLabel comboId
      bars := renderBatchWaterfall medians
      split := splitLine medians tc
      offsets := link "DCS detected" medians.t2 ++ link "PG promoted" medians.t0 ++
        link "Patroni promoted" medians.t1 ++ link "Routing updated" medians.t3 ++
          [("Client recovered",tc)] }

/-- The reports compute the medians of hard_stop and pass them on by combination. -/
def waterfallSections (rows : List ResultRow) (db : Database) : List WaterfallSection :=
  (groupKeys (rows.map ResultRow.comboDir)).filterMap fun comboId =>
    (scenarioWaterfall db comboId "hard_stop").bind (waterfallSection comboId)

/-- The times of the server and the client that a report shows. -/
abbrev ShownSplit := Option ℚ × Option ℚ

def SplitLine.shown : SplitLine → ShownSplit
  | .delay serverDone clientDelay _ => (some serverDone,some clientDelay)
  | .before serverDone _ => (some serverDone,none)

def heroSplits (rows : List ResultRow) (db : Database) (comboId : String) : List ShownSplit :=
  ((heroPoints rows db).filter fun p => p.comboId = comboId).map fun p =>
    (some p.serverDone,some p.clientDelay)

def sectionSplits (rows : List ResultRow) (db : Database) (comboId : String) : List ShownSplit :=
  ((waterfallSections rows db).filter fun s => s.comboId = comboId).map fun s =>
    (s.split.map SplitLine.shown).getD (none,none)

def iterationSplits (rows : List ResultRow) (db : Database) (comboId runId : String) :
    List ShownSplit :=
  ((renderPerIterationTable rows db).filter fun part => part.1 = comboId).flatMap fun part =>
    (part.2.filter fun line => line.runId = some runId).map fun line =>
      (line.serverDone,line.clientDelay)

/-- The split is shown, and no other one. -/
def Reports (splits : List ShownSplit) (shown : ShownSplit) : Prop :=
  splits ≠ [] ∧ ∀ s ∈ splits, s = shown

/-- The three reports show one split of the outage of a run. -/
structure OneSplit (rows : List ResultRow) (db : Database) (comboId runId : String)
    (tc server client : ℚ) : Prop where
  hero : Reports (heroSplits rows db comboId) (some server,some client)
  waterfall : Reports (sectionSplits rows db comboId) (some server,some client)
  iteration : Reports (iterationSplits rows db comboId runId) (some server,some client)
  server_nonneg : 0 ≤ server
  client_nonneg : 0 ≤ client
  sum : server + client = tc

def ListsHardStop (rows : List ResultRow) (comboId : String) : Prop :=
  ∃ r ∈ rows, r.comboDir = comboId ∧ r.scenario = some "hard_stop"

/-- What each report shows of a run whose server is done at `serverDone`: only the hero chart
clips the server's time, and the section of the waterfall has no delay if the client is first. -/
structure ShownSplits (rows : List ResultRow) (db : Database) (comboId runId : String)
    (tc serverDone : ℚ) : Prop where
  hero : comboId ∈ rows.map ResultRow.comboDir → Reports (heroSplits rows db comboId)
    (some (min serverDone tc),some (max (tc - serverDone) 0))
  waterfall : comboId ∈ rows.map ResultRow.comboDir → Reports (sectionSplits rows db comboId)
    (some serverDone,if tc < serverDone then none else some (tc - serverDone))
  iteration : ListsHardStop rows comboId → runId ≠ "" →
    Reports (iterationSplits rows db comboId runId)
      (some serverDone,some (max (tc - serverDone) 0))

def hardStopRuns (db : Database) (comboId : String) : List TestRun :=
  db.testRuns.filter fun tr => tr.combinationId = comboId && tr.failoverType = some "hard_stop"

def WaterfallRow.serverVals (row : WaterfallRow ℚ) : List ℚ :=
  [row.dtT0,row.dtT1,row.dtT2,row.dtT3].reduceOption

section Shown

variable {rows : List ResultRow} {db : Database} {comboId runId : String} {s : ShownSplit}

/-- A report that shows one split, and only if something is listed. -/
theorem reports_iff {splits : List ShownSplit} {listed : Prop} {shown shown' : ShownSplit}
    (h : ∀ s, s ∈ splits ↔ listed ∧ s = shown) :
    Reports splits shown' ↔ listed ∧ shown = shown' := by
  constructor
  · rintro ⟨hne,hall⟩
    obtain ⟨s,hs⟩ := List.exists_mem_of_ne_nil _ hne
    obtain ⟨hlisted,rfl⟩ := (h s).mp hs
    exact ⟨hlisted,hall s hs⟩
  · rintro ⟨hlisted,hshown⟩
    have hmem := (h shown).mpr ⟨hlisted,rfl⟩
    exact ⟨List.ne_nil_of_mem hmem,fun s hs => ((h s).mp hs).2.trans hshown⟩

theorem heroPoint_comboId {p : HeroPoint} (h : heroPoint db comboId = some p) :
    p.comboId = comboId := by
  obtain ⟨m,-,hp⟩ := Option.bind_eq_some_iff.mp h
  obtain ⟨tc,-,rfl⟩ := Option.map_eq_some_iff.mp hp
  rfl

theorem waterfallSection_comboId {m : Medians} {part : WaterfallSection}
    (h : waterfallSection comboId m = some part) : part.comboId = comboId := by
  obtain ⟨tc,-,rfl⟩ := Option.map_eq_some_iff.mp h
  rfl

theorem mem_heroSplits {p : HeroPoint} (hp : heroPoint db comboId = some p) :
    s ∈ heroSplits rows db comboId ↔
      comboId ∈ rows.map ResultRow.comboDir ∧ s = (some p.serverDone,some p.clientDelay) := by
  simp only [heroSplits,heroPoints,List.mem_map,List.mem_filter,List.mem_mergeSort,
    List.mem_filterMap,mem_groupKeys,decide_eq_true_eq]
  constructor
  · rintro ⟨q,⟨⟨c,hc,hq⟩,hqc⟩,rfl⟩
    obtain rfl : c = comboId := (heroPoint_comboId hq).symm.trans hqc
    obtain rfl := Option.some.inj (hp.symm.trans hq)
    exact ⟨hc,rfl⟩
  · rintro ⟨hc,rfl⟩
    exact ⟨p,⟨⟨comboId,hc,hp⟩,heroPoint_comboId hp⟩,rfl⟩

theorem mem_sectionSplits {m : Medians} {part : WaterfallSection}
    (hm : scenarioWaterfall db comboId "hard_stop" = some m)
    (hpart : waterfallSection comboId m = some part) :
    s ∈ sectionSplits rows db comboId ↔ comboId ∈ rows.map ResultRow.comboDir ∧
      s = (part.split.map SplitLine.shown).getD (none,none) := by
  simp only [sectionSplits,waterfallSections,List.mem_map,List.mem_filter,List.mem_filterMap,
    mem_groupKeys,decide_eq_true_eq]
  constructor
  · rintro ⟨q,⟨⟨c,hc,hq⟩,hqc⟩,rfl⟩
    obtain ⟨m',hm',hq⟩ := Option.bind_eq_some_iff.mp hq
    obtain rfl : c = comboId := (waterfallSection_comboId hq).symm.trans hqc
    obtain rfl := Option.some.inj (hm.symm.trans hm')
    obtain rfl := Option.some.inj (hpart.symm.trans hq)
    exact ⟨hc,rfl⟩
  · rintro ⟨hc,rfl⟩
    exact ⟨part,⟨⟨comboId,hc,by rw [hm]; exact hpart⟩,waterfallSection_comboId hpart⟩,rfl⟩

end Shown

section Run

variable {rows : List ResultRow} {db : Database} {comboId : String} {tr : TestRun}
  {row : WaterfallRow ℚ} {tc serverDone : ℚ}

theorem mem_hardStopRuns : tr ∈ hardStopRuns db comboId ↔
    tr ∈ db.testRuns ∧ tr.combinationId = comboId ∧ tr.failoverType = some "hard_stop" := by
  simp [hardStopRuns]

theorem waterfallBase_unique {b b' : WaterfallBase} (hb : b ∈ waterfallBase db comboId)
    (hb' : b' ∈ waterfallBase db comboId) (hid : b.runId = b'.runId) : b = b' := by
  obtain ⟨t,-,hc,hbt,hbc,hfail,hrec⟩ := mem_waterfallBase_iff.mp hb
  obtain ⟨t',-,hc',hbt',hbc',hfail',hrec'⟩ := mem_waterfallBase_iff.mp hb'
  have hids : t.id = t'.id := hbt.symm.trans (hid.trans hbt')
  rw [← hids] at hfail' hrec'
  cases b
  cases b'
  simp_all

theorem waterfallRow_unique {row' : WaterfallRow ℚ} {collate : String → String → Bool}
    (hrow : row ∈ waterfallSql id collate db comboId)
    (hrow' : row' ∈ waterfallSql id collate db comboId) (hid : row.runId = row'.runId) :
    row = row' := by
  obtain ⟨b,hb,rfl⟩ := mem_waterfallSql.mp hrow
  obtain ⟨b',hb',rfl⟩ := mem_waterfallSql.mp hrow'
  rw [waterfallBase_unique hb hb' hid]

theorem length_waterfallSql_le {φ : Type} {float : ℚ → φ} {collate : String → String → Bool} :
    (waterfallSql float collate db comboId).length ≤
      (db.testRuns.filter fun tr => tr.combinationId = comboId).length := by
  simp only [waterfallSql,List.length_map,List.length_mergeSort,waterfallBase]
  exact List.length_filterMap_le _ _

theorem scenarioSql_single {collate : String → String → Bool}
    (hrun : hardStopRuns db comboId = [tr]) (hrow : row ∈ waterfallSql id collate db comboId)
    (hid : row.runId = tr.id) :
    waterfallSql id collate (db.ofScenario "hard_stop") comboId = [row] := by
  have htr : tr ∈ hardStopRuns db comboId := hrun ▸ List.mem_singleton_self _
  obtain ⟨hmem,hcombo,hscenario⟩ := mem_hardStopRuns.mp htr
  obtain ⟨b,hb,rfl⟩ := mem_waterfallSql.mp hrow
  obtain ⟨t,-,hc,hbt,hbc,hfail,hrec⟩ := mem_waterfallBase_iff.mp hb
  have hids : t.id = tr.id := hbt.symm.trans hid
  have hbase : b ∈ waterfallBase (db.ofScenario "hard_stop") comboId :=
    mem_waterfallBase_iff.mpr ⟨tr,List.mem_filter.mpr ⟨hmem,by simpa using hscenario⟩,hcombo,hid,
      (hbc.trans hc).trans hcombo.symm,hids ▸ hfail,hids ▸ hrec⟩
  have hfound : waterfallRow id (waterfallMilestones db b) ∈
      waterfallSql id collate (db.ofScenario "hard_stop") comboId :=
    mem_waterfallSql.mpr ⟨b,hbase,rfl⟩
  have hlength : (waterfallSql (id : ℚ → ℚ) collate (db.ofScenario "hard_stop") comboId).length ≤
      1 := by
    refine length_waterfallSql_le.trans (le_of_eq ?_)
    rw [Database.ofScenario,List.filter_filter,← List.length_singleton (a := tr),← hrun]
    rfl
  obtain ⟨only,honly⟩ := List.length_eq_one_iff.mp
    (le_antisymm hlength (List.length_pos_of_mem hfound))
  rw [honly] at hfound ⊢
  rw [List.mem_singleton.mp hfound]

theorem scenarioWaterfall_single (hrun : hardStopRuns db comboId = [tr])
    (hrow : row ∈ waterfallSql id (fun a b => decide (a ≤ b)) db comboId)
    (hid : row.runId = tr.id) : scenarioWaterfall db comboId "hard_stop" = some {
      t0 := row.dtT0
      t1 := row.dtT1
      t2 := row.dtT2
      t3 := row.dtT3
      t4 := row.dtT4
      tc := row.dtTc } := by
  rw [scenarioWaterfall,scenarioSql_single hrun hrow hid]
  simp only [computeWaterfall,List.isEmpty_cons,median_filterMap_singleton]
  rfl

theorem milestonesOf_run (hrow : row ∈ waterfallSql id (fun a b => decide (a ≤ b)) db comboId)
    (hne : row.runId ≠ "") : milestonesOf db comboId (some row.runId) = some row := by
  rw [milestonesOf,Option.bind_some,if_neg hne]
  cases hfind : (waterfallSql id (fun a b => decide (a ≤ b)) db comboId).find? fun m =>
      m.runId = row.runId with
  | none => simpa using List.find?_eq_none.mp hfind row hrow
  | some found =>
    have hfound : found.runId = row.runId := by simpa using List.find?_some hfind
    rw [waterfallRow_unique (List.mem_of_find?_eq_some hfind) hrow hfound]

theorem runsByScenario_single (hrun : hardStopRuns db comboId = [tr]) :
    runsByScenario db comboId (some "hard_stop") = [tr] := by
  have hfilter : (db.testRuns.filter fun t =>
      t.combinationId = comboId && some (scenarioKey t) = some "hard_stop") = [tr] := by
    rw [← hrun,hardStopRuns]
    refine List.filter_congr fun t _ => ?_
    simp only [Option.some.injEq,scenarioKey_eq_iff (s := "hard_stop") (by decide) (by decide)]
  rw [runsByScenario_eq,hfilter,List.mergeSort_singleton]

theorem mem_iterationSplits (hrun : hardStopRuns db comboId = [tr]) {shown : ShownSplit}
    (hshown : ∀ p : ResultRow × Option String, p.2 = some tr.id →
      ((iterationLine db comboId p).serverDone,(iterationLine db comboId p).clientDelay) = shown)
    (s : ShownSplit) : s ∈ iterationSplits rows db comboId tr.id ↔
      ListsHardStop rows comboId ∧ s = shown := by
  obtain ⟨htr,hcombo,hscenario⟩ := mem_hardStopRuns.mp (hrun ▸ List.mem_singleton_self tr)
  simp only [iterationSplits,renderPerIterationTable,List.mem_flatMap,List.mem_filter,
    List.mem_map,decide_eq_true_eq]
  constructor
  · rintro ⟨part,⟨⟨c,-,rfl⟩,rfl⟩,line,⟨hline,hid⟩,rfl⟩
    obtain ⟨p,hp,rfl⟩ := List.mem_map.mp hline
    obtain ⟨hmem,hpool⟩ := mem_of_assigned hp
    obtain ⟨hr,hdir⟩ := List.mem_filter.mp hmem
    obtain ⟨t,ht,hids⟩ := List.mem_map.mp (hpool tr.id hid)
    rw [runsByScenario_eq,List.mem_mergeSort,List.mem_filter,Bool.and_eq_true,decide_eq_true_eq,
      decide_eq_true_eq] at ht
    obtain rfl : t = tr := List.inj_on_of_nodup_map db.primaryKey ht.1 htr hids
    rw [scenarioKey_of_some hscenario (by decide)] at ht
    exact ⟨⟨p.1,hr,by simpa using hdir,ht.2.2.symm⟩,hshown p hid⟩
  · rintro ⟨⟨r,hr,hdir,hkey⟩,rfl⟩
    have hlisted : ∃ q ∈ rows.filter (fun q => q.comboDir = comboId),
        q.scenario = some "hard_stop" :=
      ⟨r,List.mem_filter.mpr ⟨hr,by simpa using hdir⟩,hkey⟩
    have hfirst : ∃ p ∈ assign ResultRow.scenario
        (fun s => (runsByScenario db comboId s).map TestRun.id) (fun _ => 0)
          (rows.filter fun q => q.comboDir = comboId), p.1.scenario = some "hard_stop" ∧
            p.2 = ((runsByScenario db comboId (some "hard_stop")).map TestRun.id)[0]? :=
      exists_assigned hlisted
    obtain ⟨p,hp,-,hitem⟩ := hfirst
    rw [runsByScenario_single hrun] at hitem
    refine ⟨_,⟨⟨comboId,?_,rfl⟩,rfl⟩,iterationLine db comboId p,⟨List.mem_map_of_mem hp,hitem⟩,
      hshown p hitem⟩
    simpa using ⟨r,hr,hdir⟩

theorem waterfallSql_pos {collate : String → String → Bool}
    (hrow : row ∈ waterfallSql id collate db comboId) (c : WaterfallColumn) :
    ∀ v ∈ row.offset c, 0 < v := by
  obtain ⟨b,hb,rfl⟩ := mem_waterfallSql.mp hrow
  have hpos : ∀ t ∈ [(waterfallMilestones db b).tPgPromote,
      (waterfallMilestones db b).tPatroniPrimary,(waterfallMilestones db b).tConsulKey,
      (waterfallMilestones db b).tHaproxyUp,(waterfallMilestones db b).tPgReady,
      (waterfallMilestones db b).tClientRecover],
      ∀ v : ℚ, (between (some b.tFirstFail) t).map (fun d => id (epoch d)) = some v → 0 < v := by
    intro t ht v hv
    cases t with
    | none => simp [between] at hv
    | some a =>
      obtain rfl : seconds b.tFirstFail a = v := Option.some.inj hv
      exact seconds_pos (milestones_after hb _ ht a rfl)
  intro v hv
  cases c with
  | t0 => exact hpos _ (by simp) v hv
  | t1 => exact hpos _ (by simp) v hv
  | t2 => exact hpos _ (by simp) v hv
  | t3 => exact hpos _ (by simp) v hv
  | t4 => exact hpos _ (by simp) v hv
  | tc => exact hpos _ (by simp) v hv

theorem mem_serverVals {v : ℚ} : v ∈ row.serverVals ↔
    row.offset .t0 = some v ∨ row.offset .t1 = some v ∨ row.offset .t2 = some v ∨
      row.offset .t3 = some v := by
  simp [WaterfallRow.serverVals,WaterfallRow.offset,List.reduceOption_mem_iff,eq_comm]

theorem serverVals_pos {collate : String → String → Bool}
    (hrow : row ∈ waterfallSql id collate db comboId) : ∀ v ∈ row.serverVals, 0 < v := by
  intro v hv
  rcases mem_serverVals.mp hv with h | h | h | h
  · exact waterfallSql_pos hrow .t0 v h
  · exact waterfallSql_pos hrow .t1 v h
  · exact waterfallSql_pos hrow .t2 v h
  · exact waterfallSql_pos hrow .t3 v h

theorem iterationLine_split {p : ResultRow × Option String}
    (hms : milestonesOf db comboId p.2 = some row) (htc : row.dtTc = some tc)
    (hmax : row.serverVals.max? = some serverDone) :
    ((iterationLine db comboId p).serverDone,(iterationLine db comboId p).clientDelay) =
      (some serverDone,some (max (tc - serverDone) 0)) := by
  rw [WaterfallRow.serverVals] at hmax
  simp [iterationLine,hms,htc,hmax]

theorem iterationLine_unnamed {p : ResultRow × Option String} (hp : p.2 = some "") :
    ((iterationLine db comboId p).serverDone,(iterationLine db comboId p).clientDelay) =
      (none,none) := by
  simp [iterationLine,milestonesOf,hp]

theorem ListsHardStop.listed (h : ListsHardStop rows comboId) :
    comboId ∈ rows.map ResultRow.comboDir := by
  obtain ⟨r,hr,rfl,-⟩ := h
  exact List.mem_map_of_mem hr

theorem exists_serverDone (h : row.serverVals ≠ []) : ∃ s, row.serverVals.max? = some s :=
  Option.isSome_iff_exists.mp (by simpa using h)

variable {shown : ShownSplit}

/-- A run without an identifier is listed without its milestones. -/
theorem reports_unnamed (hrun : hardStopRuns db comboId = [tr]) (hname : tr.id = "") :
    Reports (iterationSplits rows db comboId tr.id) shown ↔
      ListsHardStop rows comboId ∧ (none,none) = shown :=
  reports_iff (mem_iterationSplits hrun fun _ hp => iterationLine_unnamed (hname ▸ hp))

section Single

variable (hrun : hardStopRuns db comboId = [tr])
  (hrow : row ∈ waterfallSql id (fun a b => decide (a ≤ b)) db comboId) (hid : row.runId = tr.id)
  (htc : row.dtTc = some tc) (hmax : row.serverVals.max? = some serverDone)

include hrun hrow hid htc hmax

theorem reports_hero : Reports (heroSplits rows db comboId) shown ↔
    comboId ∈ rows.map ResultRow.comboDir ∧
      (some (min serverDone tc),some (max (tc - serverDone) 0)) = shown := by
  have hpoint : heroPoint db comboId = some
      { comboId := comboId
        label := layerLabel comboId
        serverDone := if tc - serverDone < 0 then tc else serverDone
        clientDelay := if tc - serverDone < 0 then 0 else tc - serverDone
        tc := tc } := by
    rw [WaterfallRow.serverVals] at hmax
    simp [heroPoint,scenarioWaterfall_single hrun hrow hid,htc,Medians.serverVals,hmax]
  rw [reports_iff fun s => mem_heroSplits hpoint]
  by_cases hearly : tc - serverDone < 0
  · rw [if_pos hearly,if_pos hearly,min_eq_right (sub_neg.mp hearly).le,max_eq_right hearly.le]
  · rw [if_neg hearly,if_neg hearly,min_eq_left (sub_nonneg.mp (not_lt.mp hearly)),
      max_eq_left (not_lt.mp hearly)]

theorem reports_section : Reports (sectionSplits rows db comboId) shown ↔
    comboId ∈ rows.map ResultRow.comboDir ∧
      (some serverDone,if tc < serverDone then none else some (tc - serverDone)) = shown := by
  have hm := scenarioWaterfall_single hrun hrow hid
  rw [WaterfallRow.serverVals] at hmax
  rw [reports_iff fun s => mem_sectionSplits hm (by rw [waterfallSection,htc]; rfl)]
  by_cases hearly : tc < serverDone
  · simp [splitLine,Medians.serverVals,hmax,hearly,SplitLine.shown]
  · simp [splitLine,Medians.serverVals,hmax,hearly,SplitLine.shown]

theorem reports_iteration (hname : tr.id ≠ "") :
    Reports (iterationSplits rows db comboId tr.id) shown ↔
      ListsHardStop rows comboId ∧ (some serverDone,some (max (tc - serverDone) 0)) = shown := by
  have hms := milestonesOf_run hrow (hid ▸ hname)
  exact reports_iff (mem_iterationSplits hrun fun p hp =>
    iterationLine_split (by rw [hp,← hid]; exact hms) htc hmax)

theorem oneSplit_iff : (∃ server client, OneSplit rows db comboId tr.id tc server client) ↔
    ListsHardStop rows comboId ∧ tr.id ≠ "" ∧ serverDone ≤ tc := by
  constructor
  · rintro ⟨server,client,h⟩
    have hshown := ((reports_section hrun hrow hid htc hmax).mp h.waterfall).2
    have hname : tr.id ≠ "" := by
      intro hname
      simpa using ((reports_unnamed hrun hname).mp h.iteration).2
    have hlisted := ((reports_iteration hrun hrow hid htc hmax hname).mp h.iteration).1
    refine ⟨hlisted,hname,not_lt.mp fun hearly => ?_⟩
    simp [hearly] at hshown
  · rintro ⟨hlisted,hname,hle⟩
    have hnonneg : 0 ≤ tc - serverDone := sub_nonneg.mpr hle
    have hpos := serverVals_pos hrow serverDone (List.max?_mem hmax)
    refine ⟨serverDone,tc - serverDone,{
      hero := (reports_hero hrun hrow hid htc hmax).mpr ⟨hlisted.listed,?_⟩
      waterfall := (reports_section hrun hrow hid htc hmax).mpr ⟨hlisted.listed,?_⟩
      iteration := (reports_iteration hrun hrow hid htc hmax hname).mpr ⟨hlisted,?_⟩
      server_nonneg := hpos.le
      client_nonneg := hnonneg
      sum := by ring }⟩
    · rw [min_eq_left hle,max_eq_left hnonneg]
    · rw [if_neg (not_lt.mpr hle)]
    · rw [max_eq_left hnonneg]

end Single

end Run

def multihostTestRun : TestRun where
  id := "01_20260424_030630"
  combinationId := "01-libpq-multihost"
  startedAt := 1776999990000000
  failoverType := some "hard_stop"

/-- A failover with client-side routing: Patroni promotes 5 s after the first failed query. -/
def multihostRun (recovered : Int) : Database where
  testRuns := [multihostTestRun]
  observerEvents := [{
    ts := 1777000005000000
    combinationId := "01-libpq-multihost"
    testRunId := "01_20260424_030630"
    component := "patroni"
    node := "patroni-2"
    eventType := "role_change"
    oldValue := some "replica"
    newValue := "primary"
    detail := none }]
  clientEvents := [query 0 1 false,query recovered 2 true]
  primaryKey := by simp
where
  query (second : Int) (sequence : Nat) (success : Bool) : ClientEvent :=
    heartbeatRow "01-libpq-multihost" "01_20260424_030630" (1777000000000000 + 1000000 * second)
      sequence success

def multihostRow (recovered : ℚ) : WaterfallRow ℚ where
  runId := "01_20260424_030630"
  dtT0 := none
  dtT1 := some 5
  dtT2 := none
  dtT3 := none
  dtT4 := none
  dtTc := some recovered

/-- The row of its iteration in the batch's table. -/
def multihostIteration : ResultRow where
  comboDir := "01-libpq-multihost"
  scenario := some "hard_stop"
  testRunId := some "01_20260424_030630"
  downtimeS := .text "3.0"
  failedQueries := .text "30"
  status := "SUCCESS"

end RoutingBench
