import RoutingBench.FailoverResults
import RoutingBench.ResultTable
set_option autoImplicit false

/-!
From an iteration of the runner to its line in the CSV file of the batch: by the arrays, the table
and the captured output.
-/

namespace RoutingBench.ResultTable
open Errexit PythonText Runner

section Runs

variable (cfg : Config) (w : World Program)

/-- The shell and the arrays after the first rounds of the main loop. -/
def shellAfter (k : Nat) : Shell Vars Program :=
  ((Cmd.forLoop k (mainRound cfg)).eval w true ⟨{},[]⟩).2

def resultsAfter (k : Nat) : Results := (shellAfter cfg w k).vars.globals.results

/-- Every iteration adds an entry to each of the arrays, and what is printed of the entries is read
back from the output as the line of that iteration. -/
structure ReadBack (rows : List Row) (comboDir comboPrefix sessionFolder : String)
    (output : List Char) : Prop where
  length : rows.length = cfg.scenarioList.length
  appended : ∀ i row, rows[i]? = some row →
    ∃ runId, resultsAfter cfg w (i + 1) = (resultsAfter cfg w i).add row runId
  parsed : parseRunnerRows comboDir comboPrefix sessionFolder output =
    rows.map (csvLine comboDir comboPrefix sessionFolder)
  lines : ∀ row ∈ rows, '\n' ∉ (csvLine comboDir comboPrefix sessionFolder row).toList ∧
    (csvLine comboDir comboPrefix sessionFolder row).toList.splitOn ',' =
      (csvFields comboDir comboPrefix sessionFolder row).map String.toList

/-- What the first rounds have recorded. -/
structure Recorded (k : Nat) : Prop where
  aligned : (resultsAfter cfg w k).Aligned
  length : (resultsAfter cfg w k).rows.length = k
  appended : ∀ i row, (resultsAfter cfg w k).rows[i]? = some row → row.iter = toString (i + 1) ∧
    ∃ runId, resultsAfter cfg w (i + 1) = (resultsAfter cfg w i).add row runId

end Runs

section Rounds

variable {cfg : Config} {w : World Program} {k : Nat} {row : Row} {runId : String}

theorem Recorded.next (h : Recorded cfg w k) (hiter : row.iter = toString (k + 1))
    (hadds : resultsAfter cfg w (k + 1) = (resultsAfter cfg w k).add row runId) :
    Recorded cfg w (k + 1) := by
  have hrows : (resultsAfter cfg w (k + 1)).rows = (resultsAfter cfg w k).rows ++ [row] := by
    rw [hadds,h.aligned.rows_add]
  constructor
  case aligned => rw [hadds]; exact h.aligned.add row runId
  case length => rw [hrows,List.length_append,h.length]; rfl
  case appended =>
    intro i entry hentry
    rw [hrows] at hentry
    rcases Nat.lt_trichotomy i k with hlt | rfl | hgt
    · rw [List.getElem?_append_left (by rw [h.length]; exact hlt)] at hentry
      exact h.appended i entry hentry
    · rw [List.getElem?_append_right (Nat.le_of_eq h.length),h.length,Nat.sub_self] at hentry
      obtain rfl : row = entry := by simpa using hentry
      exact ⟨hiter,runId,hadds⟩
    · rw [List.getElem?_eq_none (by rw [List.length_append,h.length]; exact hgt)] at hentry
      contradiction

/-- The rounds of a run that is not ended by a failure. -/
theorem rounds_record (hk : k ≤ cfg.scenarioList.length)
    (hruns : ((Cmd.forLoop k (mainRound cfg)).eval w true ⟨{},[]⟩).1.exits = false) :
    ∃ ok, (Cmd.forLoop k (mainRound cfg)).eval w true ⟨{},[]⟩ = (.done ok,shellAfter cfg w k) ∧
      Recorded cfg w k := by
  induction k with
  | zero => exact ⟨true,rfl,⟨⟨rfl,rfl,rfl,rfl,rfl⟩,rfl,fun i row hrow => by contradiction⟩⟩
  | succ k ih =>
    obtain ⟨ok,hloop,hrecorded⟩ := ih (by omega) (forLoop_runs (by omega) hruns)
    rw [forLoop_succ hloop] at hruns
    obtain ⟨made,⟨flow,t⟩,heval,-,-,hflow,⟨runId,hresults⟩,-⟩ :=
      mainRound_eval cfg (by omega) (iterate_runs hruns)
    obtain ⟨last,hgoes⟩ : ∃ last, (Cmd.forLoop (k + 1) (mainRound cfg)).eval w true ⟨{},[]⟩ =
        (.done last,t) := by
      rw [forLoop_succ hloop]
      exact iterate_goes heval hflow ok
    obtain rfl : shellAfter cfg w (k + 1) = t := by rw [shellAfter,hgoes]
    exact ⟨last,hgoes,hrecorded.next rfl hresults⟩

theorem table_eval {rows : List Row}
    (htable : (runScript cfg w).2.vars.globals.table = some rows) :
    Recorded cfg w cfg.scenarioList.length ∧
      rows = (resultsAfter cfg w cfg.scenarioList.length).rows := by
  have hruns : (runScript cfg w).1.exits = false := by
    have hrun := runScript_eval (w := w) cfg
    cases hexits : (runScript cfg w).1.exits with
    | false => rfl
    | true =>
      rw [hexits,if_pos rfl,htable] at hrun
      contradiction
  obtain ⟨ok,hloop,hrecorded⟩ := rounds_record (Nat.le_refl _) (seq_runs hruns)
  rw [runScript,runFailoverTest,seq_done hloop] at htable
  exact ⟨hrecorded,(Option.some_inj.mp htable).symm⟩

end Rounds

section Output

variable {cfg : Config} {w : World Program} {rows : List Row}
  {comboDir comboPrefix sessionFolder : String} {before after : List Char}

theorem isInt_toString (n : Nat) : isInt (toString n).toList = true := by
  rw [Nat.toString_eq_repr,Nat.toList_repr]
  exact isInt_toDigits n

/-- What the runner prints of its results is what the batch writes into its CSV file. -/
theorem rows_read_back (htable : (runScript cfg w).2.vars.globals.table = some rows)
    (hplain : ∀ row ∈ rows, ∀ value ∈ rowValues row, PlainValue value)
    (hreturn : ∀ row ∈ rows, ∀ value ∈ rowValues row, '\r' ∉ value.toList)
    (hargs : ∀ value ∈ [comboDir,comboPrefix,sessionFolder],
      ',' ∉ value.toList ∧ '\n' ∉ value.toList)
    (hbefore : NoRow before) (hafter : NoRow after) :
    ReadBack cfg w rows comboDir comboPrefix sessionFolder
      (before ++ printTable rows ++ after) := by
  obtain ⟨hrecorded,rfl⟩ := table_eval htable
  have hint : ∀ row ∈ (resultsAfter cfg w cfg.scenarioList.length).rows,
      isInt row.iter.toList = true := by
    intro row hrow
    obtain ⟨i,hi⟩ := List.mem_iff_getElem?.mp hrow
    rw [(hrecorded.appended i row hi).1]
    exact isInt_toString (i + 1)
  have hfields : ∀ row ∈ (resultsAfter cfg w cfg.scenarioList.length).rows,
      ∀ value ∈ csvFields comboDir comboPrefix sessionFolder row,
        ',' ∉ value.toList ∧ '\n' ∉ value.toList := by
    intro row hrow value hvalue
    rcases mem_csvFields hvalue with harg | hvalue
    · exact hargs value harg
    · exact ⟨(hplain row hrow value hvalue).comma,(hplain row hrow value hvalue).newline⟩
  constructor
  case length => exact hrecorded.length
  case appended => exact fun i row hrow => (hrecorded.appended i row hrow).2
  case parsed => rw [parseRunnerRows,filterMap_printTable hplain hreturn hint hbefore hafter]
  case lines =>
    intro row hrow
    exact ⟨newline_not_mem_csvLine fun value hvalue => (hfields row hrow value hvalue).2,
      splitOn_csvLine fun value hvalue => (hfields row hrow value hvalue).1⟩

/-- Nothing fails, and the downtime is measured as this text. -/
def measuredAs (text : String) : World Program where
  answer _ program :=
    match program with
    | .patronictlList _ => ⟨0,nodesTable⟩
    | .psql .steadyState => ⟨0,"45\n"⟩
    | .psql (.recovered _) => ⟨0,"7\n"⟩
    | .psql (.downtime _) => ⟨0,text⟩
    | .date _ => ⟨0,"2026\n"⟩
    | _ => ⟨0,""⟩
  passes _ := 1

def twoScenarios : Config := { twoStops with scenarioList := [.switchover,.hardStop] }

/-- No cluster is listed in the first iteration. -/
def unhealthyFirst : World Program where
  answer calls program :=
    match program with
    | .patronictlList n =>
      if calls.length < 3 then ⟨0,""⟩ else (measuredAs "").answer calls (.patronictlList n)
    | _ => (measuredAs "1234567890.125|98765\n").answer calls program
  passes _ := 1

/-- The status of the first row and the downtime of the second are wider than their columns. -/
def twoRows : List Row :=
  [⟨"1","switchover","—","—","—","CLUSTER_UNHEALTHY"⟩,
    ⟨"2","hard_stop","node2","1234567890.125","98765","SUCCESS"⟩]

def logBefore : List Char :=
  "[INFO] Iteration 2/2: hard_stop\n║ this is not a row of the table ║\n".toList

def logAfter : List Char := "[INFO] Results: runner/results/06/s\n".toList

theorem noRow_of_lengths {text : List Char} (h : ((readlines text).all fun line =>
    (lineCells line).all fun cells => cells.length ≠ 6) = true) : NoRow text := by
  intro line hline cells hcells hlength
  have hother := List.all_eq_true.mp h line hline
  rw [hcells,Option.all_some,decide_eq_true_eq] at hother
  exact absurd hlength hother

theorem rows_read_back_twoRows :
    ReadBack twoScenarios unhealthyFirst twoRows "06" "prb-06" "runner/results/06/s"
      (logBefore ++ printTable twoRows ++ logAfter) :=
  rows_read_back (by decide +kernel) (by decide +kernel) (by decide +kernel) (by decide +kernel)
    (noRow_of_lengths (by decide +kernel)) (noRow_of_lengths (by decide +kernel))

def oneStop : Config := { twoStops with scenarioList := [.hardStop] }

/-- A carriage return in a value ends the line, and no row is read. -/
theorem carriageReturn_loses_row :
    (runScript oneStop (measuredAs "12.3|1\r10\n")).2.vars.globals.table =
        some [⟨"1","hard_stop","node2","12.3","1\r10","SUCCESS"⟩] ∧
      (∀ value ∈ rowValues ⟨"1","hard_stop","node2","12.3","1\r10","SUCCESS"⟩,
        PlainValue value) ∧
      parseRunnerRows "06" "prb-06" "runner/results/06/s"
        (printTable [⟨"1","hard_stop","node2","12.3","1\r10","SUCCESS"⟩]) = [] ∧
      ¬ReadBack oneStop (measuredAs "12.3|1\r10\n")
        [⟨"1","hard_stop","node2","12.3","1\r10","SUCCESS"⟩] "06" "prb-06" "runner/results/06/s"
        (printTable [⟨"1","hard_stop","node2","12.3","1\r10","SUCCESS"⟩]) := by
  have hparsed : parseRunnerRows "06" "prb-06" "runner/results/06/s"
      (printTable [⟨"1","hard_stop","node2","12.3","1\r10","SUCCESS"⟩]) = [] := by decide +kernel
  refine ⟨by decide +kernel,by decide +kernel,hparsed,fun hback => ?_⟩
  have hrow := hback.parsed
  rw [hparsed] at hrow
  exact List.cons_ne_nil _ _ hrow.symm

end Output

end RoutingBench.ResultTable
