import RoutingBench.FailoverTest
set_option autoImplicit false

/-!
What run_failover_test.sh does after the table of results: the statistics, the summary of the runs
and the report. An arithmetic command fails where its value is 0, which is what `(( x++ ))` has when
x is 0.
-/

namespace RoutingBench.Statistics
open Errexit
open Runner (Scenario Results dropPrefix)

def allScenarios : List String :=
  [Scenario.hardStop,Scenario.hardKill,Scenario.switchover].map Scenario.name

/-- A line of the statistics, with the values that go into it. -/
inductive StatLine where
  | valid (successCount totalRecorded percent : Nat)
  | scenario (s dtVals : String) (success total : Nat)
  | noSuccess (s : String) (success total : Nat)
  | downtime (scenario dtVals : String)
  | failedQueries (fqVals : String)
  | lowRate
  deriving DecidableEq, Repr

structure StatVars where
  successCount : Nat := 0
  totalRecorded : Nat := 0
  sDtVals : String := ""
  sSuccess : Nat := 0
  sTotal : Nat := 0
  dtSuccessVals : String := ""
  fqSuccessVals : String := ""
  runIds : String := ""
  printed : List StatLine := []
  deriving DecidableEq, Repr

/-- What is called: psql for the runs' summary, and the charts container for the report. -/
inductive StatProgram where
  | runSummary (combinationId runIds : String)
  | comboReport (combinationId sessionDir output : String)
  deriving DecidableEq, Repr

structure StatConfig where
  scenario : String
  combinationId : String
  sessionDir : String
  generateReport : Bool

abbrev StatScript := Cmd StatVars StatProgram

def assign (f : StatVars → StatVars) : StatScript := .builtin fun v => (f v,true)

def test (p : StatVars → Bool) : StatScript := .builtin fun v => (v,p v)

def skip : StatScript := .builtin fun v => (v,true)

/-- `(( x++ ))` -/
def increment (x : StatVars → Nat) (store : Nat → StatVars → StatVars) : StatScript :=
  .builtin fun v => (store (x v + 1) v,x v ≠ 0)

def print (line : StatVars → StatLine) : StatScript :=
  assign fun v => { v with printed := v.printed ++ [line v] }

section Script

variable (cfg : StatConfig) (r : Results)

def countRound (i : Nat) : StatScript :=
  .and (test fun _ => r.status[i]?.getD "" = "SUCCESS")
    (increment StatVars.successCount fun n v => { v with successCount := n })

def scenarioRow (s : String) (i : Nat) : StatScript :=
  .cond (test fun _ => r.scenario[i]?.getD "" = s)
    (.seq (increment StatVars.sTotal fun n v => { v with sTotal := n }) <|
      .cond (test fun _ => r.status[i]?.getD "" = "SUCCESS")
        (.seq (increment StatVars.sSuccess fun n v => { v with sSuccess := n }) <|
          assign fun v => { v with sDtVals := v.sDtVals ++ r.down[i]?.getD "" ++ "\n" })
        skip)
    skip

def scenarioRound (k : Nat) : StatScript :=
  let s := allScenarios[k]?.getD ""
  .seq (assign fun v => { v with sDtVals := "", sSuccess := 0, sTotal := 0 }) <|
  .seq (.forLoop r.scenario.length (scenarioRow r s)) <|
  .seq (.cond (test fun v => v.sTotal = 0) .next skip) <|
  .cond (test fun v => 0 < v.sSuccess)
    (print fun v => .scenario s v.sDtVals v.sSuccess v.sTotal)
    (print fun v => .noSuccess s 0 v.sTotal)

def aggregateRound (i : Nat) : StatScript :=
  .cond (test fun _ => r.status[i]?.getD "" = "SUCCESS")
    (.seq (assign fun v =>
        { v with dtSuccessVals := v.dtSuccessVals ++ r.down[i]?.getD "" ++ "\n" }) <|
      assign fun v =>
        { v with fqSuccessVals := v.fqSuccessVals ++ r.failed[i]?.getD "" ++ "\n" })
    skip

/-- The breakdown by scenario, or the statistics of the one scenario. -/
def breakdown : StatScript :=
  .cond (test fun _ => cfg.scenario = "all")
    (.forLoop allScenarios.length (scenarioRound r)) <|
  .seq (assign fun v => { v with dtSuccessVals := "", fqSuccessVals := "" }) <|
  .seq (.forLoop r.status.length (aggregateRound r)) <|
  .cond (test fun v => 0 < v.successCount)
    (.seq (print fun v => .downtime cfg.scenario v.dtSuccessVals) <|
      print fun v => .failedQueries v.fqSuccessVals)
    skip

/-- `run_ids+="'${rid}',"` -/
def runIdRound (i : Nat) : StatScript :=
  let rid := r.runId[i]?.getD ""
  .and (test fun _ => rid ≠ "")
    (assign fun v => { v with runIds := v.runIds ++ "'" ++ rid ++ "'," })

/-- `${text%,}` -/
def dropComma (text : String) : String :=
  if text.toList.getLast? = some ',' then String.ofList text.toList.dropLast else text

def runSummary : StatScript :=
  .cond (test fun _ => 0 < r.runId.length)
    (.seq (assign fun v => { v with runIds := "" }) <|
      .seq (.forLoop r.runId.length (runIdRound r)) <|
      .seq (assign fun v => { v with runIds := dropComma v.runIds }) <|
      .cond (test fun v => v.runIds ≠ "")
        (.or (.external (fun v => .runSummary cfg.combinationId v.runIds) fun _ v => v) skip)
        skip)
    skip

def report : StatScript :=
  .cond (test fun _ => cfg.generateReport)
    (.cond (.external (fun _ => .comboReport cfg.combinationId
        ("/results/" ++ dropPrefix "runner/results/" cfg.sessionDir)
        ("/results/" ++ dropPrefix "runner/results/" (cfg.sessionDir ++ "/report.html")))
      fun _ v => v) skip skip)
    skip

/-- The script from the end of the table to its own end. -/
def statistics : StatScript :=
  .seq (assign fun v => { v with successCount := 0 }) <|
  .seq (.forLoop r.status.length (countRound r)) <|
  .seq (assign fun v => { v with totalRecorded := r.status.length }) <|
  .seq (print fun v => .valid v.successCount v.totalRecorded
    (v.successCount * 100 / if 0 < v.totalRecorded then v.totalRecorded else 1)) <|
  .seq (breakdown cfg r) <|
  .seq (.cond (test fun v => v.successCount * 10 < v.totalRecorded * 6) (print fun _ => .lowRate)
    skip) <|
  .seq (runSummary cfg r) (report cfg)

def runStatistics (w : World StatProgram) : Flow × Shell StatVars StatProgram :=
  (statistics cfg r).eval w true ⟨{},[]⟩

end Script

section Specification

variable (cfg : StatConfig) (r : Results)

def recorded (s : String) : Nat := r.scenario.count s

def succeeded (s : String) : Nat := (r.scenario.zip r.status).count (s,"SUCCESS")

def StatLine.counts : StatLine → Option (String × Nat × Nat)
  | .scenario s _ success total => some (s,success,total)
  | .noSuccess s success total => some (s,success,total)
  | _ => none

def runIdText : List String → String
  | [] => ""
  | rid :: runIds => (if rid ≠ "" then "'" ++ rid ++ "'," else "") ++ runIdText runIds

/-- The script reaches its end, with the right numbers and the two calls after them. -/
structure StatisticsRight (w : World StatProgram) : Prop where
  reached : ∃ ok, (runStatistics cfg r w).1 = .done ok
  counted : (runStatistics cfg r w).2.vars.successCount = r.status.count "SUCCESS"
  scenarios : cfg.scenario = "all" →
    (runStatistics cfg r w).2.vars.printed.filterMap StatLine.counts =
      (allScenarios.filter fun s => 0 < recorded r s).map fun s => (s,succeeded r s,recorded r s)
  summary : (∃ rid ∈ r.runId, rid ≠ "") → ∃ c ∈ (runStatistics cfg r w).2.calls,
    c.1 = .runSummary cfg.combinationId (dropComma (runIdText r.runId))
  reported : cfg.generateReport = true → ∃ c ∈ (runStatistics cfg r w).2.calls,
    c.1 = .comboReport cfg.combinationId
      ("/results/" ++ dropPrefix "runner/results/" cfg.sessionDir)
      ("/results/" ++ dropPrefix "runner/results/" (cfg.sessionDir ++ "/report.html"))

structure NothingCounted : Prop where
  status : "SUCCESS" ∉ r.status
  scenario : cfg.scenario = "all" → ∀ s ∈ allScenarios, s ∉ r.scenario

end Specification

section Commands

variable {w : World StatProgram} {cfg : StatConfig} {r : Results} {e : Bool}
  {s : Shell StatVars StatProgram}
  {a b : StatScript} {p : StatVars → Bool}

theorem assign_eval (f : StatVars → StatVars) :
    (assign f).eval w e s = (.done true,{ s with vars := f s.vars }) := by
  rw [assign,Cmd.eval,finish_ok]

theorem cond_test : (Cmd.cond (test p) a b).eval w e s =
    if p s.vars then a.eval w e s else b.eval w e s := rfl

theorem skip_eval : skip.eval w e s = (.done true,s) := by
  rw [skip,Cmd.eval,finish_ok]

theorem and_test : (Cmd.and (test p) a).eval w e s =
    if p s.vars then a.eval w e s else (.done false,s) := rfl

/-- The first increment of a counter ends the script. -/
theorem increment_eval {x : StatVars → Nat} {store : Nat → StatVars → StatVars}
    (h : x s.vars = 0) : ((increment x store).eval w true s).1 = .exited := by
  simp [increment,finish,h]

theorem countRound_pass {i : Nat} (h : r.status[i]?.getD "" ≠ "SUCCESS") :
    Passes ((countRound r i).eval w true s) s := by
  rw [countRound,and_test,if_neg (by simpa using h)]
  exact Or.inl ⟨false,rfl⟩

theorem countRound_exits {i : Nat} (h : r.status[i]?.getD "" = "SUCCESS")
    (hcount : s.vars.successCount = 0) : ((countRound r i).eval w true s).1 = .exited := by
  rw [countRound,and_test,if_pos (by simpa using h)]
  exact increment_eval hcount

theorem scenarioRow_pass {name : String} {i : Nat} (h : r.scenario[i]?.getD "" ≠ name) :
    Passes ((scenarioRow r name i).eval w true s) s := by
  rw [scenarioRow,cond_test,if_neg (by simpa using h),skip_eval]
  exact Or.inl ⟨true,rfl⟩

theorem scenarioRow_exits {name : String} {i : Nat} (h : r.scenario[i]?.getD "" = name)
    (hcount : s.vars.sTotal = 0) : ((scenarioRow r name i).eval w true s).1 = .exited := by
  rw [scenarioRow,cond_test,if_pos (by simpa using h)]
  exact seq_exited (increment_eval hcount)

theorem aggregateRound_pass {i : Nat} (h : r.status[i]?.getD "" ≠ "SUCCESS") :
    Passes ((aggregateRound r i).eval w true s) s := by
  rw [aggregateRound,cond_test,if_neg (by simpa using h),skip_eval]
  exact Or.inl ⟨true,rfl⟩

theorem getD_ne {array : List String} {text : String} (h : text ∉ array) {i : Nat}
    (hi : i < array.length) : array[i]?.getD "" ≠ text := by
  rw [List.getElem?_eq_getElem hi,Option.getD_some]
  exact fun heq => h (heq ▸ List.getElem_mem hi)

theorem exists_getD {array : List String} {text : String} (h : text ∈ array) :
    ∃ i < array.length, array[i]?.getD "" = text := by
  obtain ⟨i,hi,rfl⟩ := List.getElem_of_mem h
  exact ⟨i,hi,by rw [List.getElem?_eq_getElem hi,Option.getD_some]⟩

/-- The variables of the breakdown before it begins. -/
structure Unset (v : StatVars) : Prop where
  sDtVals : v.sDtVals = ""
  sSuccess : v.sSuccess = 0
  sTotal : v.sTotal = 0

theorem Unset.reset {v : StatVars} (h : Unset v) :
    { v with sDtVals := "", sSuccess := 0, sTotal := 0 } = v := by
  cases v
  obtain ⟨rfl,rfl,rfl⟩ := h
  rfl

theorem scenarioRound_pass {k : Nat} (hunset : Unset s.vars)
    (h : allScenarios[k]?.getD "" ∉ r.scenario) :
    Passes ((scenarioRound r k).eval w true s) s := by
  obtain ⟨last,hloop⟩ := forLoop_pass (n := r.scenario.length)
    (fun i hi => scenarioRow_pass (w := w) (s := s) (getD_ne h hi))
  right
  rw [scenarioRound,seq_done (assign_eval _),hunset.reset,seq_done hloop]
  refine seq_stop ?_ (by simp)
  rw [cond_test,if_pos (by simpa using hunset.sTotal)]
  rfl

theorem scenarioRound_exits {k : Nat} (hunset : Unset s.vars)
    (h : allScenarios[k]?.getD "" ∈ r.scenario) :
    ((scenarioRound r k).eval w true s).1 = .exited := by
  rw [scenarioRound,seq_done (assign_eval _),hunset.reset]
  obtain ⟨i,hi,hname⟩ := exists_getD h
  refine seq_exited (forLoop_exits hi (scenarioRow_exits hname hunset.sTotal) fun j _ => ?_)
  by_cases hj : r.scenario[j]?.getD "" = allScenarios[k]?.getD ""
  · exact Or.inr (scenarioRow_exits hj hunset.sTotal)
  · exact Or.inl (scenarioRow_pass hj)

end Commands

section Rest

variable {w : World StatProgram} {cfg : StatConfig} {r : Results} {s : Shell StatVars StatProgram}

theorem breakdown_exits (hunset : Unset s.vars) (hall : cfg.scenario = "all")
    (h : ∃ name ∈ allScenarios, name ∈ r.scenario) :
    ((breakdown cfg r).eval w true s).1 = .exited := by
  obtain ⟨name,hname,hmem⟩ := h
  obtain ⟨k,hk,hat⟩ := exists_getD hname
  rw [breakdown,cond_test,if_pos (by simpa using hall)]
  refine forLoop_exits hk (scenarioRound_exits hunset (hat ▸ hmem)) fun j _ => ?_
  by_cases hj : allScenarios[j]?.getD "" ∈ r.scenario
  · exact Or.inr (scenarioRound_exits hunset hj)
  · exact Or.inl (scenarioRound_pass hunset hj)

/-- Without a success and, where there is a breakdown, without a scenario of it nothing is
printed. -/
theorem breakdown_pass (h : NothingCounted cfg r) (hunset : Unset s.vars)
    (hcount : s.vars.successCount = 0)
    (hvals : { s.vars with dtSuccessVals := "", fqSuccessVals := "" } = s.vars) :
    ∃ ok, (breakdown cfg r).eval w true s = (.done ok,s) := by
  rw [breakdown,cond_test]
  by_cases hall : cfg.scenario = "all"
  · rw [if_pos (by simpa using hall)]
    refine forLoop_pass fun k hk => scenarioRound_pass hunset (h.scenario hall _ ?_)
    rw [List.getElem?_eq_getElem hk,Option.getD_some]
    exact List.getElem_mem hk
  · rw [if_neg (by simpa using hall),seq_done (assign_eval _),hvals]
    obtain ⟨last,hloop⟩ := forLoop_pass (n := r.status.length)
      (fun i hi => aggregateRound_pass (w := w) (r := r) (s := s) (getD_ne h.status hi))
    rw [seq_done hloop,cond_test,if_neg (by simp [hcount]),skip_eval]
    exact ⟨true,rfl⟩

theorem dropComma_ne {text : String} (h : 2 ≤ text.toList.length) : dropComma text ≠ "" := by
  rw [dropComma]
  split
  · intro heq
    have hlength := congrArg (fun t : String => t.toList.length) heq
    simp only [String.toList_ofList,List.length_dropLast] at hlength
    change text.toList.length - 1 = 0 at hlength
    omega
  · rintro rfl
    contradiction

theorem runIdText_length {runIds : List String} (h : ∃ rid ∈ runIds, rid ≠ "") :
    2 ≤ (runIdText runIds).toList.length := by
  induction runIds with
  | nil => simp at h
  | cons rid runIds ih =>
    by_cases hrid : rid = ""
    · subst hrid
      simpa [runIdText] using ih (by simpa using h)
    · simp [runIdText,hrid]
      omega

theorem runIdRound_eval (r : Results) (i : Nat) (rid : String) (hrid : r.runId[i]?  = some rid)
    (t : Shell StatVars StatProgram) : ∃ ok, (runIdRound r i).eval w true t =
      (.done ok,if rid ≠ "" then { t with vars := { t.vars with
        runIds := t.vars.runIds ++ "'" ++ rid ++ "'," } } else t) := by
  rw [runIdRound,and_test,hrid,Option.getD_some]
  by_cases h : rid = ""
  · exact ⟨false,by rw [if_neg (by simpa using h),if_neg (by simpa using h)]⟩
  · exact ⟨true,by rw [if_pos (by simpa using h),if_pos (by simpa using h),assign_eval]⟩

theorem foldl_runIds (runIds : List String) (s : Shell StatVars StatProgram) :
    runIds.foldl (fun t rid => if rid ≠ "" then
        { t with vars := { t.vars with runIds := t.vars.runIds ++ "'" ++ rid ++ "'," } } else t) s =
      { s with vars := { s.vars with runIds := s.vars.runIds ++ runIdText runIds } } := by
  induction runIds generalizing s with
  | nil => simp [runIdText]
  | cons rid runIds ih =>
    rw [List.foldl_cons,ih]
    by_cases hrid : rid = ""
    · simp [runIdText,hrid]
    · simp [runIdText,hrid,String.append_assoc]

theorem warned_eval (program : StatVars → StatProgram) :
    (Cmd.or (.external program fun _ v => v) skip).eval w true s =
      (.done true,{ s with calls := s.calls ++
        [(program s.vars,w.answer s.calls (program s.vars))] }) := by
  by_cases h : (w.answer s.calls (program s.vars)).status = 0 <;>
    simp [h,skip]

theorem checked_eval (program : StatVars → StatProgram) :
    (Cmd.cond (.external program fun _ v => v) skip skip).eval w true s =
      (.done true,{ s with calls := s.calls ++
        [(program s.vars,w.answer s.calls (program s.vars))] }) := by
  by_cases h : (w.answer s.calls (program s.vars)).status = 0 <;>
    simp [h,skip]

theorem lowRate_eval : ∃ lines, (Cmd.cond
    (test fun v => v.successCount * 10 < v.totalRecorded * 6) (print fun _ => .lowRate)
      skip).eval w true s = (.done true,{ s with vars := { s.vars with
        printed := s.vars.printed ++ lines } }) ∧ lines.filterMap StatLine.counts = [] := by
  rw [cond_test]
  split
  · exact ⟨[.lowRate],assign_eval _,rfl⟩
  · refine ⟨[],?_,rfl⟩
    rw [skip_eval,List.append_nil]

theorem runSummary_eval (cfg : StatConfig) (r : Results) (w : World StatProgram)
    (s : Shell StatVars StatProgram) : ∃ ok runIds made, (runSummary cfg r).eval w true s =
    (.done ok,{ vars := { s.vars with runIds := runIds }, calls := s.calls ++ made }) ∧
      ((∃ rid ∈ r.runId, rid ≠ "") → ∃ c ∈ made,
        c.1 = .runSummary cfg.combinationId (dropComma (runIdText r.runId))) := by
  rw [runSummary,cond_test]
  split
  next hlength =>
    obtain ⟨last,hloop⟩ := forLoop_array (w := w) (e := true)
      (s := { s with vars := { s.vars with runIds := "" } }) (runIdRound_eval r)
    rw [seq_done (assign_eval _),seq_done hloop,foldl_runIds,seq_done (assign_eval _),cond_test]
    split
    next hids =>
      refine ⟨true,_,_,warned_eval _,fun _ => ⟨_,List.mem_singleton_self _,?_⟩⟩
      rw [String.empty_append]
    next hids =>
      refine ⟨true,_,[],by rw [skip_eval,List.append_nil],fun hex => absurd ?_ hids⟩
      simpa using dropComma_ne (runIdText_length hex)
  next hlength =>
    have hnil : r.runId = [] := by simpa using hlength
    exact ⟨true,s.vars.runIds,[],by rw [skip_eval,List.append_nil],by simp [hnil]⟩

theorem report_eval (cfg : StatConfig) (w : World StatProgram)
    (s : Shell StatVars StatProgram) : ∃ ok made, (report cfg).eval w true s =
    (.done ok,{ s with calls := s.calls ++ made }) ∧
      (cfg.generateReport = true → ∃ c ∈ made, c.1 = .comboReport cfg.combinationId
        ("/results/" ++ dropPrefix "runner/results/" cfg.sessionDir)
        ("/results/" ++ dropPrefix "runner/results/" (cfg.sessionDir ++ "/report.html"))) := by
  rw [report,cond_test]
  split
  next hreport =>
    exact ⟨true,_,checked_eval _,fun _ => ⟨_,List.mem_singleton_self _,rfl⟩⟩
  next hreport =>
    refine ⟨true,[],by rw [skip_eval,List.append_nil],fun h => absurd (decide_eq_true h) ?_⟩
    simpa using hreport

end Rest

section Result

variable {cfg : StatConfig} {r : Results} {w : World StatProgram}

/-- After the line about the valid iterations, of which there are none. -/
def noneValid (r : Results) : Shell StatVars StatProgram where
  vars := { totalRecorded := r.status.length, printed := [.valid 0 r.status.length 0] }
  calls := []

theorem runStatistics_exits (h : "SUCCESS" ∈ r.status) :
    (runStatistics cfg r w).1 = .exited := by
  obtain ⟨k,hk,hstatus⟩ := exists_getD h
  rw [runStatistics,statistics,seq_done (assign_eval _)]
  refine seq_exited (forLoop_exits hk (countRound_exits hstatus rfl) fun j _ => ?_)
  by_cases hj : r.status[j]?.getD "" = "SUCCESS"
  · exact Or.inr (countRound_exits hj rfl)
  · exact Or.inl (countRound_pass hj)

theorem runStatistics_eq (h : "SUCCESS" ∉ r.status) : runStatistics cfg r w =
    (Cmd.seq (breakdown cfg r) <|
      .seq (.cond (test fun v => v.successCount * 10 < v.totalRecorded * 6)
        (print fun _ => .lowRate) skip) <|
      .seq (runSummary cfg r) (report cfg)).eval w true (noneValid r) := by
  obtain ⟨last,hloop⟩ := forLoop_pass (n := r.status.length) (fun i hi =>
    countRound_pass (w := w) (r := r) (s := ⟨{},[]⟩) (getD_ne h hi))
  rw [runStatistics,statistics,seq_done (assign_eval _),seq_done hloop,seq_done (assign_eval _),
    print,seq_done (assign_eval _)]
  simp [noneValid]

theorem noneValid_unset : Unset (noneValid r).vars := ⟨rfl,rfl,rfl⟩

theorem NothingCounted.right (h : NothingCounted cfg r) : StatisticsRight cfg r w := by
  have hrun : runStatistics cfg r w = _ := runStatistics_eq h.status
  obtain ⟨_,hbreakdown⟩ := breakdown_pass (w := w) h noneValid_unset rfl rfl
  obtain ⟨lines,hrate,hlines⟩ := lowRate_eval (w := w) (s := noneValid r)
  rw [seq_done hbreakdown,seq_done hrate] at hrun
  obtain ⟨_,runIds,summaries,hsummary,hcalled⟩ := runSummary_eval cfg r w
    { noneValid r with vars := { (noneValid r).vars with
        printed := (noneValid r).vars.printed ++ lines } }
  rw [seq_done hsummary] at hrun
  obtain ⟨ok,reports,hreport,hreported⟩ := report_eval cfg w
    { vars := { (noneValid r).vars with
        printed := (noneValid r).vars.printed ++ lines, runIds := runIds }
      calls := (noneValid r).calls ++ summaries }
  rw [hreport] at hrun
  constructor
  case reached => exact ⟨ok,by rw [hrun]⟩
  case counted =>
    rw [hrun,List.count_eq_zero.mpr h.status]
    rfl
  case scenarios =>
    intro hall
    have hnone : allScenarios.filter (fun s => 0 < recorded r s) = [] := by
      refine List.filter_eq_nil_iff.mpr fun s hs => ?_
      rw [recorded,List.count_eq_zero.mpr (h.scenario hall s hs)]
      simp
    rw [hrun,hnone]
    simpa [noneValid,StatLine.counts] using hlines
  case summary =>
    intro hex
    obtain ⟨c,hc,hcall⟩ := hcalled hex
    rw [hrun]
    exact ⟨c,List.mem_append_left _ (List.mem_append_right _ hc),hcall⟩
  case reported =>
    intro hex
    obtain ⟨c,hc,hcall⟩ := hreported hex
    rw [hrun]
    exact ⟨c,List.mem_append_right _ hc,hcall⟩

/-- The end is reached, with the right numbers, if and only if nothing is counted. -/
theorem statistics_right_iff (cfg : StatConfig) (r : Results) (w : World StatProgram) :
    StatisticsRight cfg r w ↔ NothingCounted cfg r := by
  refine ⟨fun hright => ?_,fun h => h.right⟩
  have hruns : (runStatistics cfg r w).1 ≠ .exited := by
    obtain ⟨ok,hok⟩ := hright.reached
    rw [hok]
    simp
  have hstatus : "SUCCESS" ∉ r.status := fun h => hruns (runStatistics_exits h)
  refine ⟨hstatus,fun hall name hname hmem => hruns ?_⟩
  rw [runStatistics_eq hstatus]
  exact seq_exited (breakdown_exits noneValid_unset hall ⟨name,hname,hmem⟩)

def oneSuccess : Results where
  iter := ["1"]
  scenario := ["hard_stop"]
  leader := ["node1"]
  down := ["3.2"]
  failed := ["12"]
  runId := ["06_20260424_030630"]
  status := ["SUCCESS"]

theorem oneSuccess_exits : ¬ StatisticsRight
    ⟨"hard_stop","06-haproxy-rest-polling","runner/results/06/20260424_030600",true⟩ oneSuccess
    ⟨fun _ _ => ⟨0,""⟩,fun _ => 0⟩ := by
  intro h
  obtain ⟨ok,hok⟩ := h.reached
  rw [runStatistics_exits (by decide)] at hok
  contradiction

end Result

end RoutingBench.Statistics
