import RoutingBench.Bench
import RoutingBench.IterationTable
import RoutingBench.PhaseCharts
import RoutingBench.Strptime
import RoutingBench.Windowing
set_option autoImplicit false

/-!
The report of one session. It takes the runs of a combination that started on the session's
day, and for each run the charts in the directory of the iteration at the run's position.
-/

namespace RoutingBench
open Calendar Pairing

def undashed : List Directive := [.year,.month,.day]

def stamped : List Directive := undashed ++ [.literal '_',.hour,.minute,.second]

/-- The date of a session: the first of three formats that reads the text. -/
def parseSessionDate (ts : List Char) : Option Date :=
  [dashed,undashed,stamped].findSome? fun format => strptimeDate format (strip ts)

/-- A session directory: the iterations' directories, each with its files. -/
abbrev SessionDir := List (String × List (String × String))

def iterDirName (iterNum : Nat) (scenario : String) : String :=
  "iter" ++ toString iterNum ++ "_" ++ scenario

def chartNames : List String := ["failover_gantt","failover_phases","failover_phases_overlap"]

def savedCharts (files : List (String × String)) : List (String × String) :=
  chartNames.filterMap fun name => (files.lookup (name ++ ".png")).map fun png => (name,png)

def loadIterCharts (dir : SessionDir) (iterNum : Nat) (scenario : String) :
    List (String × String) :=
  savedCharts ((dir.lookup (iterDirName iterNum scenario)).getD [])

/-- started_at::date in UTC. -/
def utcDate (ts : Timestamp) : Date := (DateTime.ofSeconds (ts / 1000000)).date

def loadSessionRuns (db : Database) (cid : String) (sessionDate : Date) : List TestRun :=
  (db.testRuns.filter fun tr => tr.combinationId = cid && utcDate tr.startedAt = sessionDate
    ).mergeSort fun a b => a.startedAt ≤ b.startedAt

def inferKilledLeader (obs : List ObserverFrameRow) : String :=
  let dem := obs.filter fun e => e.component == "patroni" && e.eventType == "role_change" &&
    e.oldValue.any (["primary","running"].contains ·) &&
    ["stopped","unreachable","replica"].contains e.newValue
  match dem with
  | [] => "—"
  | e :: _ => e.node.replace "patroni-" ""

/-- An entry of `iterations` with what its section of the report shows. -/
structure ReportSection where
  num : Nat
  run : TestRun
  scenario : String
  leader : String
  downtimeS : Option ℚ
  failedQueries : Option Nat
  status : String
  /-- The directory the charts are loaded from. -/
  iterDir : String
  charts : List (String × String)
  phases : List (String × ℚ)

/-- A downtime of zero counts as none. -/
def windowDowntime (fw : Option FailoverWindow) : Option ℚ :=
  ((fw.bind FailoverWindow.downtimeMs).filter (· ≠ 0)).map (· / 1000)

def iterationStatus (downtimeS : Option ℚ) (cli : List ClientFrameRow) : String :=
  if downtimeS.isSome then "SUCCESS"
  else if !cli.isEmpty && cli.all ClientFrameRow.success then "SUCCESS"
  else "UNKNOWN"

def reportSection (db : Database) (cid : String) (dir : SessionDir) (p : TestRun × Nat) :
    ReportSection :=
  let scenario := scenarioKey p.1
  let (obs,cli,fw) := loadRunData db cid p.1.id
  { num := p.2
    run := p.1
    scenario := scenario
    leader := inferKilledLeader obs
    downtimeS := windowDowntime fw
    failedQueries := fw.map FailoverWindow.totalFailures
    status := iterationStatus (windowDowntime fw) cli
    iterDir := iterDirName p.2 scenario
    charts := loadIterCharts dir p.2 scenario
    phases := if obs.isEmpty then []
      else ((buildPhaseChart (extractMilestones obs cli)).map PhaseChart.phases).getD [] }

/-- The sections of the report; the command exits if the name of the directory does not begin
with a date, or no run started on it. -/
def cmdComboReport (db : Database) (cid dirName : String) (dir : SessionDir) :
    Option (List ReportSection) :=
  (parseSessionDate (dirName.toList.takeWhile (· ≠ '_'))).bind fun sessionDate =>
    let runs := loadSessionRuns db cid sessionDate
    if runs.isEmpty then none else some ((runs.zipIdx 1).map (reportSection db cid dir))

/-- One iteration of run_failover_test.sh with the files in its directory. If it came as far as
step 3 and its INSERT succeeded, it is `registered`, with its local clock and its START_TS. -/
structure SessionIteration where
  scenario : String
  registered : Option (Int × Timestamp)
  files : List (String × String)

def SessionIteration.testRun (cid : String) (it : SessionIteration) : Option TestRun :=
  it.registered.map fun (localSeconds,startTs) =>
    Iteration.testRun {
      localSeconds := localSeconds
      startTs := startTs
      scenario := it.scenario } cid

/-- A session of the runner. Its date and the time in its directory's name are read one after
the other, and the iterations follow each other. -/
structure RunnerSession where
  combinationId : String
  dateSeconds : Int
  timeSeconds : Int
  iterations : List SessionIteration
  increasing : (iterations.filterMap SessionIteration.registered).Pairwise fun a b => a.2 < b.2

def RunnerSession.date (s : RunnerSession) : Date := (DateTime.ofSeconds s.dateSeconds).date

def RunnerSession.dirName (s : RunnerSession) : String :=
  String.ofList (s.date.iso ++ '_' :: (DateTime.ofSeconds s.timeSeconds).timeStamp)

def RunnerSession.dir (s : RunnerSession) : SessionDir :=
  (s.iterations.zipIdx 1).map fun (it,n) => (iterDirName n it.scenario,it.files)

def RunnerSession.testRuns (s : RunnerSession) : List TestRun :=
  s.iterations.filterMap (SessionIteration.testRun s.combinationId)

def TestRun.asInserted (tr : TestRun) : TestRun := { tr with endedAt := none }

/-- The report shows the runs of the session, and no charts but those of the run's own iteration. -/
structure CoversSession (s : RunnerSession) (sections : List ReportSection) : Prop where
  runs : (sections.map fun x => x.run.asInserted) = s.testRuns
  charts : ∀ x ∈ sections, x.charts ≠ [] → ∀ (n : Nat) (it : SessionIteration),
    s.iterations[n]? = some it → it.testRun s.combinationId = some x.run.asInserted →
      x.iterDir = iterDirName (n + 1) it.scenario

/-- The runs of the session are those of the combination that started on its date. -/
structure AloneOnItsDate (db : Database) (s : RunnerSession) : Prop where
  recorded : ∀ tr ∈ s.testRuns, tr ∈ db.testRuns.map TestRun.asInserted
  sameDate : ∀ tr ∈ s.testRuns, utcDate tr.startedAt = s.date
  datable : s.testRuns ≠ [] → s.date.FourDigitYear
  noOther : s.date.FourDigitYear → ∀ tr ∈ db.testRuns, tr.combinationId = s.combinationId →
    utcDate tr.startedAt = s.date → tr.asInserted ∈ s.testRuns

def registeredBefore (s : RunnerSession) (n : Nat) : Nat :=
  (s.iterations.take n).countP fun it => it.registered.isSome

/-- No other iteration with charts of the scenario is where a registered one is counted. -/
def ChartsInPlace (s : RunnerSession) : Prop :=
  ∀ (n : Nat) (it : SessionIteration) (tr : TestRun), s.iterations[n]? = some it →
    it.testRun s.combinationId = some tr → ∀ other, s.iterations[registeredBefore s n]? = some other →
      other.scenario = scenarioKey tr → savedCharts other.files ≠ [] → registeredBefore s n = n

section Report

variable {db : Database} {s : RunnerSession}

/-- The date of a session is read back if and only if its year has four digits. -/
theorem parseSessionDate_iso (days : Int) :
    ((Date.ofDays days).FourDigitYear →
        parseSessionDate (Date.ofDays days).iso = some (Date.ofDays days)) ∧
      (¬ (Date.ofDays days).FourDigitYear → parseSessionDate (Date.ofDays days).iso = none) := by
  have hdash := iso_dash (Date.ofDays days)
  simp only [parseSessionDate,strip_iso,List.findSome?_cons,List.findSome?_nil,
    strptimeDate_dash (show Directive.literal '-' ∉ undashed by decide) hdash,
    strptimeDate_dash (show Directive.literal '-' ∉ stamped by decide) hdash]
  constructor
  · intro hyear
    rw [strptimeDate_iso hyear]
  · intro hyear
    rw [strptimeDate_iso_none hyear]

def sessionReport (db : Database) (s : RunnerSession) : List ReportSection :=
  (cmdComboReport db s.combinationId s.dirName s.dir).getD []

theorem takeWhile_dirName (s : RunnerSession) :
    s.dirName.toList.takeWhile (· ≠ '_') = s.date.iso := by
  have hiso : ∀ c ∈ s.date.iso, decide (c ≠ '_') = true := by
    intro c hc
    rcases isDigit_or_dash hc with hdigit | rfl
    · rw [decide_eq_true_eq]
      rintro rfl
      contradiction
    · decide
  rw [RunnerSession.dirName,String.toList_ofList,List.takeWhile_append_of_pos hiso]
  simp

theorem parse_dirName (s : RunnerSession) :
    (s.date.FourDigitYear →
        parseSessionDate (s.dirName.toList.takeWhile (· ≠ '_')) = some s.date) ∧
      (¬ s.date.FourDigitYear →
        parseSessionDate (s.dirName.toList.takeWhile (· ≠ '_')) = none) := by
  rw [takeWhile_dirName]
  exact parseSessionDate_iso (s.dateSeconds / 86400 + epochDays)

theorem cmdComboReport_getD {cid dirName : String} {dir : SessionDir} {date : Date}
    (hparse : parseSessionDate (dirName.toList.takeWhile (· ≠ '_')) = some date) :
    (cmdComboReport db cid dirName dir).getD [] =
      ((loadSessionRuns db cid date).zipIdx 1).map (reportSection db cid dir) := by
  rw [cmdComboReport,hparse,Option.bind_some]
  cases hruns : loadSessionRuns db cid date with
  | nil => rfl
  | cons tr runs => rfl

theorem sessionReport_eq (db : Database) (s : RunnerSession) :
    (s.date.FourDigitYear → sessionReport db s =
        ((loadSessionRuns db s.combinationId s.date).zipIdx 1).map
          (reportSection db s.combinationId s.dir)) ∧
      (¬ s.date.FourDigitYear → sessionReport db s = []) := by
  obtain ⟨hparse,hnone⟩ := parse_dirName s
  refine ⟨fun hyear => cmdComboReport_getD (hparse hyear),fun hyear => ?_⟩
  rw [sessionReport,cmdComboReport,hnone hyear]
  rfl

theorem map_run_sections (runs : List TestRun) (cid : String) (dir : SessionDir) :
    ((runs.zipIdx 1).map (reportSection db cid dir)).map (fun x => x.run.asInserted) =
      runs.map TestRun.asInserted := by
  rw [List.map_map]
  have hrun : (fun x => x.run.asInserted) ∘ reportSection db cid dir =
      TestRun.asInserted ∘ Prod.fst := rfl
  rw [hrun,← List.map_map,List.zipIdx_map_fst]

theorem pairwise_testRuns (s : RunnerSession) :
    s.testRuns.Pairwise fun a b => a.startedAt < b.startedAt := by
  have hincreasing := s.increasing
  rw [List.pairwise_filterMap] at hincreasing
  rw [RunnerSession.testRuns,List.pairwise_filterMap]
  refine hincreasing.imp fun h a ha b hb => ?_
  obtain ⟨p,hp,rfl⟩ := Option.map_eq_some_iff.mp ha
  obtain ⟨q,hq,rfl⟩ := Option.map_eq_some_iff.mp hb
  exact h p hp q hq

theorem nodup_testRuns (s : RunnerSession) : s.testRuns.Nodup := by
  refine (pairwise_testRuns s).imp fun h heq => ?_
  rw [heq] at h
  exact lt_irrefl _ h

theorem testRuns_startedAt_inj {a b : TestRun} (ha : a ∈ s.testRuns) (hb : b ∈ s.testRuns)
    (h : a.startedAt = b.startedAt) : a = b := by
  have hnodup : (s.testRuns.map TestRun.startedAt).Nodup :=
    List.pairwise_map.mpr ((pairwise_testRuns s).imp fun hlt => ne_of_lt hlt)
  exact List.inj_on_of_nodup_map hnodup ha hb h

theorem mem_loadSessionRuns {cid : String} {date : Date} {tr : TestRun} :
    tr ∈ loadSessionRuns db cid date ↔
      tr ∈ db.testRuns ∧ tr.combinationId = cid ∧ utcDate tr.startedAt = date := by
  simp [loadSessionRuns]

theorem pairwise_loadSessionRuns (db : Database) (cid : String) (date : Date) :
    (loadSessionRuns db cid date).Pairwise fun a b => a.startedAt ≤ b.startedAt :=
  Aggregate.pairwise_orderBy TestRun.startedAt _

theorem nodup_loadSessionRuns (db : Database) (cid : String) (date : Date) :
    ((loadSessionRuns db cid date).map TestRun.asInserted).Nodup := by
  refine List.Nodup.of_map TestRun.id ?_
  rw [List.map_map]
  exact nodup_selected_ids db _ _

theorem mem_session_combination {tr : TestRun} (h : tr ∈ s.testRuns) :
    tr.combinationId = s.combinationId := by
  obtain ⟨it,-,hit⟩ := List.mem_filterMap.mp h
  obtain ⟨p,-,rfl⟩ := Option.map_eq_some_iff.mp hit
  rfl

theorem loadSessionRuns_iff (hyear : s.date.FourDigitYear) :
    (loadSessionRuns db s.combinationId s.date).map TestRun.asInserted = s.testRuns ↔
      AloneOnItsDate db s := by
  constructor
  · intro h
    have hmem : ∀ tr, tr ∈ s.testRuns ↔ ∃ r ∈ db.testRuns, r.combinationId = s.combinationId ∧
        utcDate r.startedAt = s.date ∧ r.asInserted = tr := by
      intro tr
      rw [← h,List.mem_map]
      simp only [mem_loadSessionRuns,and_assoc]
    refine ⟨fun tr htr => ?_,fun tr htr => ?_,fun _ => hyear,fun _ tr htr hcid hdate => ?_⟩
    · obtain ⟨r,hr,-,-,rfl⟩ := (hmem tr).mp htr
      exact List.mem_map_of_mem hr
    · obtain ⟨r,-,-,hdate,rfl⟩ := (hmem tr).mp htr
      exact hdate
    · exact (hmem _).mpr ⟨tr,htr,hcid,hdate,rfl⟩
  · intro h
    have hsame : ∀ tr, tr ∈ (loadSessionRuns db s.combinationId s.date).map TestRun.asInserted ↔
        tr ∈ s.testRuns := by
      intro tr
      rw [List.mem_map]
      constructor
      · rintro ⟨r,hr,rfl⟩
        obtain ⟨hr,hcid,hdate⟩ := mem_loadSessionRuns.mp hr
        exact h.noOther hyear r hr hcid hdate
      · intro htr
        have hcid := mem_session_combination htr
        have hdate := h.sameDate tr htr
        obtain ⟨r,hr,rfl⟩ := List.mem_map.mp (h.recorded tr htr)
        exact ⟨r,mem_loadSessionRuns.mpr ⟨hr,hcid,hdate⟩,rfl⟩
    have hperm := (List.perm_ext_iff_of_nodup (nodup_loadSessionRuns db _ _) (nodup_testRuns s)).mpr
      hsame
    have hsorted := (pairwise_loadSessionRuns db s.combinationId s.date).map TestRun.asInserted
      (S := fun a b => a.startedAt ≤ b.startedAt) fun _ _ h => h
    refine List.Perm.eq_of_pairwise (fun a b ha hb hab hba => ?_) hsorted
      ((pairwise_testRuns s).imp le_of_lt) hperm
    exact testRuns_startedAt_inj ((hsame a).mp ha) hb (le_antisymm hab hba)

theorem iterDirName_inj {m n : Nat} {a b : String} (h : iterDirName m a = iterDirName n b) :
    m = n ∧ a = b := by
  have hlist := congrArg String.toList h
  simp only [iterDirName,String.toList_append,Nat.toString_eq_repr,Nat.toList_repr,
    List.append_assoc,List.append_cancel_left_eq] at hlist
  have hdigits : ∀ k : Nat, ∀ c ∈ Nat.toDigits 10 k, (c != '_') = true := by
    intro k c hc
    rw [bne_iff_ne]
    rintro rfl
    exact Nat.underscore_not_in_toDigits hc
  have hnumber := congrArg (List.takeWhile (· != '_')) hlist
  rw [List.takeWhile_append_of_pos (hdigits m),List.takeWhile_append_of_pos (hdigits n)] at hnumber
  obtain rfl : m = n := toDigits_inj (by simpa using hnumber)
  refine ⟨rfl,String.toList_inj.mp ?_⟩
  simpa using hlist

theorem lookup_iterDirName (iterations : List SessionIteration) (first m : Nat) (scenario : String) :
    ((iterations.zipIdx first).map fun (it,n) => (iterDirName n it.scenario,it.files)).lookup
        (iterDirName m scenario) =
      if m < first then none
      else (iterations[m - first]?).bind fun it => if it.scenario = scenario then some it.files
        else none := by
  induction iterations generalizing first with
  | nil => simp
  | cons it iterations ih =>
    rw [List.zipIdx_cons,List.map_cons,List.lookup_cons,ih (first + 1)]
    by_cases hname : iterDirName m scenario = iterDirName first it.scenario
    · obtain ⟨rfl,rfl⟩ := iterDirName_inj hname
      simp
    · rw [beq_eq_false_iff_ne.mpr hname]
      rcases lt_trichotomy m first with hlt | rfl | hgt
      · simp [hlt,Nat.lt_succ_of_lt hlt]
      · have hscenario : it.scenario ≠ scenario := fun h => hname (h ▸ rfl)
        simp [hscenario]
      · obtain ⟨k,rfl⟩ := Nat.exists_eq_add_of_lt hgt
        have hfirst : ¬ first + k + 1 < first := by omega
        have hnext : ¬ first + k + 1 < first + 1 := by omega
        have hindex : first + k + 1 - first = k + 1 := by omega
        have hindex' : first + k + 1 - (first + 1) = k := by omega
        simp only [hfirst,hnext,if_false,hindex,hindex',List.getElem?_cons_succ]

theorem loadIterCharts_ne_nil_iff {k : Nat} {scenario : String} :
    loadIterCharts s.dir (k + 1) scenario ≠ [] ↔ ∃ other, s.iterations[k]? = some other ∧
      other.scenario = scenario ∧ savedCharts other.files ≠ [] := by
  have hnone : savedCharts [] = [] := rfl
  rw [loadIterCharts,RunnerSession.dir,lookup_iterDirName,if_neg (by omega),Nat.add_sub_cancel]
  cases hit : s.iterations[k]? with
  | none => simp [hnone]
  | some other =>
    by_cases h : other.scenario = scenario
    · simp [h]
    · simp [h,hnone]

theorem mem_sections {runs : List TestRun} {cid : String} {dir : SessionDir} {x : ReportSection} :
    x ∈ (runs.zipIdx 1).map (reportSection db cid dir) ↔
      ∃ k tr, runs[k]? = some tr ∧ x = reportSection db cid dir (tr,k + 1) := by
  rw [List.mem_map]
  constructor
  · rintro ⟨⟨tr,n⟩,hmem,rfl⟩
    obtain ⟨hpos,hget⟩ := List.mk_mem_zipIdx_iff_le_and_getElem?_sub.mp hmem
    obtain ⟨k,rfl⟩ := Nat.exists_eq_add_of_le' hpos
    exact ⟨k,tr,hget,rfl⟩
  · rintro ⟨k,tr,hget,rfl⟩
    exact ⟨(tr,k + 1),List.mk_mem_zipIdx_iff_le_and_getElem?_sub.mpr ⟨by omega,hget⟩,rfl⟩

theorem testRuns_registeredBefore {n : Nat} {it : SessionIteration} {tr : TestRun}
    (hit : s.iterations[n]? = some it) (htr : it.testRun s.combinationId = some tr) :
    s.testRuns[registeredBefore s n]? = some tr := by
  have hcount := getElem?_filterMap (f := SessionIteration.testRun s.combinationId) hit htr
  have hsome : (fun it : SessionIteration => (it.testRun s.combinationId).isSome) =
      fun it => it.registered.isSome := funext fun it => Option.isSome_map
  rw [hsome] at hcount
  exact hcount

/-- If the report shows the runs of the session, its charts are the runs' own if and only if no
iteration stands where another one is counted. -/
theorem sections_charts_iff {runs : List TestRun}
    (hruns : runs.map TestRun.asInserted = s.testRuns) :
    (∀ x ∈ (runs.zipIdx 1).map (reportSection db s.combinationId s.dir), x.charts ≠ [] →
      ∀ (n : Nat) (it : SessionIteration), s.iterations[n]? = some it →
        it.testRun s.combinationId = some x.run.asInserted →
          x.iterDir = iterDirName (n + 1) it.scenario) ↔ ChartsInPlace s := by
  constructor
  · intro h n it tr hit htr other hother hscenario hcharts
    have hget := testRuns_registeredBefore hit htr
    rw [← hruns,List.getElem?_map,Option.map_eq_some_iff] at hget
    obtain ⟨r,hr,rfl⟩ := hget
    have hsame := h _ (mem_sections.mpr ⟨registeredBefore s n,r,hr,rfl⟩)
      (loadIterCharts_ne_nil_iff.mpr ⟨other,hother,hscenario,hcharts⟩) n it hit htr
    exact Nat.succ.inj (iterDirName_inj hsame).1
  · intro h x hx hcharts n it hit htr
    obtain ⟨k,r,hr,rfl⟩ := mem_sections.mp hx
    obtain ⟨other,hother,hscenario,hsaved⟩ := loadIterCharts_ne_nil_iff.mp hcharts
    have hget := testRuns_registeredBefore hit htr
    have hk : s.testRuns[k]? = some r.asInserted := by
      rw [← hruns,List.getElem?_map,hr]
      rfl
    have hcount : k = registeredBefore s n := by
      obtain ⟨hlt,hval⟩ := List.getElem?_eq_some_iff.mp hk
      obtain ⟨hlt',hval'⟩ := List.getElem?_eq_some_iff.mp hget
      exact (nodup_testRuns s).getElem_inj_iff.mp (hval.trans hval'.symm)
    subst hcount
    have hplace := h n it r.asInserted hit htr other hother hscenario hsaved
    rw [hplace,hit] at hother
    obtain rfl := Option.some.inj hother
    show iterDirName (registeredBefore s n + 1) (scenarioKey r) = iterDirName (n + 1) it.scenario
    rw [hplace,hscenario]

theorem sessionReport_runs_iff :
    ((sessionReport db s).map fun x => x.run.asInserted) = s.testRuns ↔ AloneOnItsDate db s := by
  obtain ⟨hshown,hnone⟩ := sessionReport_eq db s
  by_cases hyear : s.date.FourDigitYear
  · rw [hshown hyear,map_run_sections]
    exact loadSessionRuns_iff hyear
  · rw [hnone hyear]
    constructor
    · intro h
      have hempty : s.testRuns = [] := h.symm
      refine ⟨?_,?_,fun hne => absurd hempty hne,fun h => absurd h hyear⟩
      · rw [hempty]
        exact fun tr htr => absurd htr List.not_mem_nil
      · rw [hempty]
        exact fun tr htr => absurd htr List.not_mem_nil
    · intro h
      by_contra hne
      exact hyear (h.datable fun hempty => hne hempty.symm)

theorem sessionReport_charts_iff
    (hruns : ((sessionReport db s).map fun x => x.run.asInserted) = s.testRuns) :
    CoversSession s (sessionReport db s) ↔ ChartsInPlace s := by
  obtain ⟨hshown,hnone⟩ := sessionReport_eq db s
  by_cases hyear : s.date.FourDigitYear
  · have hruns' := hruns
    rw [hshown hyear,map_run_sections] at hruns'
    rw [← sections_charts_iff hruns',← hshown hyear]
    exact ⟨fun h => h.charts,fun h => ⟨hruns,h⟩⟩
  · have hempty := hruns
    rw [hnone hyear] at hempty
    refine iff_of_true ⟨hruns,?_⟩ ?_
    · rw [hnone hyear]
      exact fun x hx => absurd hx List.not_mem_nil
    · intro n it tr hit htr
      have hmem : tr ∈ s.testRuns := List.mem_filterMap.mpr ⟨it,List.mem_of_getElem? hit,htr⟩
      rw [← hempty] at hmem
      exact absurd hmem List.not_mem_nil

/-- The report covers exactly its session if and only if the combination has no other run on
the session's date and the session none on another, and no iteration with charts of the same
scenario stands where a registered one is counted. -/
theorem covers_session_iff (db : Database) (s : RunnerSession) :
    CoversSession s (sessionReport db s) ↔ AloneOnItsDate db s ∧ ChartsInPlace s := by
  rw [← sessionReport_runs_iff]
  exact ⟨fun h => ⟨h.runs,(sessionReport_charts_iff h.runs).mp h⟩,
    fun h => (sessionReport_charts_iff h.1).mpr h.2⟩

def hardStopIteration (registered : Option Int) (png : Option String) : SessionIteration where
  scenario := "hard_stop"
  registered := registered.map fun seconds => (seconds,1000000 * seconds)
  files := (png.map fun png => ("failover_gantt.png",png)).toList

/-- The cluster is not healthy before the first of three iterations. -/
def unhealthyStart : RunnerSession where
  combinationId := "06"
  dateSeconds := 1776999900
  timeSeconds := 1776999901
  iterations := [hardStopIteration none none,hardStopIteration (some 1776999990) (some "first"),
    hardStopIteration (some 1777000230) (some "second")]
  increasing := by decide

/-- The second of two iterations begins after midnight. -/
def pastMidnight : RunnerSession where
  combinationId := "06"
  dateSeconds := 1777075020
  timeSeconds := 1777075021
  iterations := [hardStopIteration (some 1777075110) (some "first"),
    hardStopIteration (some 1777075350) (some "second")]
  increasing := by decide

def registeredRun (seconds : Int) : TestRun :=
  Iteration.testRun {
    localSeconds := seconds
    startTs := 1000000 * seconds
    scenario := "hard_stop" } "06"

def twoRuns (first second : Int) (hne : first ≠ second) : Database where
  testRuns := [registeredRun first,registeredRun second]
  observerEvents := []
  clientEvents := []
  primaryKey := by
    refine List.nodup_cons.mpr ⟨fun h => ?_,List.nodup_singleton _⟩
    exact hne (strftime_ofSeconds_inj (a := "06") (b := "06") (List.mem_singleton.mp h)).2

/-- The second section shows the charts of the first run, or it is missing. -/
theorem session_not_covered :
    ¬ CoversSession unhealthyStart
        (sessionReport (twoRuns 1776999990 1777000230 (by decide)) unhealthyStart) ∧
      ¬ CoversSession pastMidnight
        (sessionReport (twoRuns 1777075110 1777075350 (by decide)) pastMidnight) := by
  constructor
  · intro h
    have hplace := (sessionReport_charts_iff h.runs).mp h 2 _ _ rfl rfl _ rfl rfl (by decide)
    exact absurd hplace (by decide)
  · intro h
    have hsame := (sessionReport_runs_iff.mp h.runs).sameDate
      (registeredRun 1777075350) (by simp [RunnerSession.testRuns,pastMidnight,hardStopIteration,
        SessionIteration.testRun,registeredRun])
    exact absurd hsame (by decide)

end Report

end RoutingBench
