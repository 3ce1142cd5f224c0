import RoutingBench.BatchVerdict
import RoutingBench.ErrexitTriples
import RoutingBench.ResultTable
set_option autoImplicit false

/-!
The CSV file of a batch: the rows of every combination go into one file, out of which the successes
of a combination are counted. Does a combination pass exactly if an iteration of it was a success?
-/

namespace RoutingBench.Batch
open Errexit PythonText TextFields
open Runner (Row captured number)
open ResultTable (parseLine parseRunnerRows csvFields csvLine toList_csvLine rowValues)

/-- The combination of a call by which it gets its status. -/
def BatchProgram.comboDir? : BatchProgram → Option String
  | runFailoverTest args => some (args[3]?.getD "")
  | parseRunnerRows _ dir _ _ => some dir
  | countSuccesses dir => some dir
  | _ => none

def tested (calls : List (Call BatchProgram)) : List (Call BatchProgram) :=
  calls.filter fun c => c.1.comboDir?.isSome

/-- `tee "$runner_output"` -/
def runnerLog (calls : List (Call BatchProgram)) : List Char :=
  ((calls.filterMap fun c => match c.1 with
    | .runFailoverTest _ => some c.2.output.toList
    | _ => none).getLast?).getD []

def csvHeader : String :=
  "combo_dir,prefix,scenario,iteration,leader_killed,downtime_s,failed_queries,status,session_folder"

/-- What `>> "$BATCH_CSV"` has added to the header. -/
def csvRows (calls : List (Call BatchProgram)) : List Char :=
  calls.flatMap fun c => match c.1 with
    | .parseRunnerRows .. => c.2.output.toList
    | _ => []

def csvText (calls : List (Call BatchProgram)) : List Char :=
  csvHeader.toList ++ '\n' :: csvRows calls

/-- In a pattern of grep the name stands for itself. -/
def literal (name : String) : Bool :=
  name.toList.all fun c => c ∉ ['.','[',']','*','^','$','\\']

/-- `grep "^${combo_dir},"`, for a literal name. -/
def grepCombo (dir : String) (lines : List (List Char)) : List (List Char) :=
  lines.filter fun line => (dir.toList ++ [',']).isPrefixOf line

/-- `$8=="SUCCESS"`, where `,` is between the fields. -/
def isSuccess (line : List Char) : Bool :=
  ((line.splitOn ',')[7]?).any fun status => String.ofList status = "SUCCESS"

/-- `awk -F',' '$8=="SUCCESS"{c++} END{print c+0}'` -/
def awkSuccesses (lines : List (List Char)) : Nat := lines.countP isSuccess

def successesIn (dir : String) (text : List Char) : Nat :=
  awkSuccesses (grepCombo dir (text.splitOn '\n'))

def rowsOf (log : List Char) : List Row := (readlines log).filterMap parseLine

/-- The rows are parsed out of the runner's output into the file, and the successes are counted
in the file. -/
structure Grounded (w : World BatchProgram) : Prop where
  parses : ∀ calls output dir comboPrefix folder,
    (w.answer calls (.parseRunnerRows output dir comboPrefix folder)).status = 0 →
      (w.answer calls (.parseRunnerRows output dir comboPrefix folder)).output.toList =
        (parseRunnerRows dir comboPrefix folder (runnerLog calls)).flatMap
          fun line => line.toList ++ ['\n']
  counts : ∀ calls dir, literal dir = true → (w.answer calls (.countSuccesses dir)).output =
    toString (successesIn dir (csvText calls)) ++ "\n"

def PlainField (value : String) : Prop := ',' ∉ value.toList ∧ '\n' ∉ value.toList

structure Combo.Plain (combo : Combo) : Prop where
  dir : PlainField combo.dir
  literal : literal combo.dir = true
  comboPrefix : PlainField combo.comboPrefix

/-- The runner prints rows of plain fields, and the session folder is one line. -/
structure PlainOutputs (w : World BatchProgram) : Prop where
  rows : ∀ calls args, ∀ row ∈ rowsOf (w.answer calls (.runFailoverTest args)).output.toList,
    ∀ value ∈ rowValues row, PlainField value
  session : ∀ calls id,
    PlainField (dropSlash (captured (w.answer calls (.latestSession id)).output))

/-- An iteration of the combination was a success, by the output of a run of its tests. -/
def Succeeded (dir : String) (calls : List (Call BatchProgram)) : Prop :=
  ∃ args a, (.runFailoverTest args,a) ∈ calls ∧ args[3]? = some dir ∧
    ∃ row ∈ rowsOf a.output.toList, row.status = "SUCCESS"

section Text

variable {calls made : List (Call BatchProgram)} {c : Call BatchProgram} {text : List Char}
  {lines : List (List Char)} {dir comboPrefix folder : String} {row : Row}

theorem runnerLog_tested : runnerLog (tested calls) = runnerLog calls := by
  have heq : ∀ l : List (Call BatchProgram), ((tested l).filterMap fun c => match c.1 with
      | .runFailoverTest _ => some c.2.output.toList
      | _ => none) = l.filterMap fun c => match c.1 with
      | .runFailoverTest _ => some c.2.output.toList
      | _ => none := by
    intro l
    rw [tested,List.filterMap_filter]
    congr 1
    funext c
    obtain ⟨program,a⟩ := c
    cases program <;> simp [BatchProgram.comboDir?]
  rw [runnerLog,heq,runnerLog]

theorem csvRows_tested : csvRows (tested calls) = csvRows calls := by
  induction calls with
  | nil => rfl
  | cons c calls ih =>
    obtain ⟨program,a⟩ := c
    cases program <;> simpa [csvRows,tested,BatchProgram.comboDir?,List.filter_cons] using ih

theorem csvText_tested : csvText (tested calls) = csvText calls := by
  rw [csvText,csvRows_tested,csvText]

theorem runnerLog_snoc (args : List String) (a : Answer) :
    runnerLog (calls ++ [(.runFailoverTest args,a)]) = a.output.toList := by
  rw [runnerLog,List.filterMap_append,List.filterMap_cons,List.filterMap_nil,
    List.getLast?_concat]
  rfl

theorem csvText_append : csvText (calls ++ made) = csvText calls ++ csvRows made := by
  simp [csvText,csvRows]

/-- The header is a line like the others, and no success. -/
theorem successesIn_csvText (dir : String) :
    successesIn dir (csvText calls) = successesIn dir (csvRows calls) := by
  have hline : '\n' ∉ csvHeader.toList := by decide
  have hheader : ¬isSuccess csvHeader.toList = true := by decide
  rw [successesIn,csvText,List.splitOn_append_cons_self,List.splitOn_eq_singleton hline,
    List.singleton_append,grepCombo,List.filter_cons,successesIn,grepCombo]
  split
  · exact List.countP_cons_of_neg hheader
  · rfl

theorem splitOn_whole (h : ∀ line ∈ lines, '\n' ∉ line) (t : List Char) :
    ((lines.flatMap fun line => line ++ ['\n']) ++ t).splitOn '\n' = lines ++ t.splitOn '\n' := by
  induction lines with
  | nil => rfl
  | cons line lines ih =>
    obtain ⟨hfirst,hrest⟩ := List.forall_mem_cons.mp h
    rw [List.flatMap_cons,List.append_assoc,List.append_assoc,List.singleton_append,
      List.splitOn_append_cons_self,List.splitOn_eq_singleton hfirst,ih hrest]
    rfl

/-- A line is one of the combination if its first field is the name, for a name that is one
field. -/
theorem isPrefixOf_field {d d' rest : List Char} (hd : ',' ∉ d) (hd' : ',' ∉ d') :
    (d ++ [',']).isPrefixOf (d' ++ ',' :: rest) = decide (d = d') := by
  rw [Bool.eq_iff_iff,List.isPrefixOf_iff_prefix,decide_eq_true_iff]
  constructor
  · rintro ⟨t,ht⟩
    have hparts := congrArg (partition ',') ht
    rw [List.append_assoc,List.singleton_append,partition_append_cons hd,
      partition_append_cons hd'] at hparts
    exact (Prod.mk.inj hparts).1
  · rintro rfl
    exact ⟨rest,by simp⟩

structure PlainLine (dir comboPrefix folder : String) (row : Row) : Prop where
  args : ∀ value ∈ [dir,comboPrefix,folder], PlainField value
  row : ∀ value ∈ rowValues row, PlainField value

theorem PlainLine.fields (h : PlainLine dir comboPrefix folder row) :
    ∀ value ∈ ResultTable.csvFields dir comboPrefix folder row, PlainField value := by
  intro value hvalue
  rcases ResultTable.mem_csvFields hvalue with harg | hvalue
  · exact h.args value harg
  · exact h.row value hvalue

theorem PlainLine.newline (h : PlainLine dir comboPrefix folder row) :
    '\n' ∉ (csvLine dir comboPrefix folder row).toList :=
  ResultTable.newline_not_mem_csvLine fun value hvalue => (h.fields value hvalue).2

theorem PlainLine.grep {dir' : String} (h : PlainLine dir' comboPrefix folder row)
    (hdir : ',' ∉ dir.toList) :
    (dir.toList ++ [',']).isPrefixOf (csvLine dir' comboPrefix folder row).toList =
      decide (dir = dir') := by
  have hsplit : ∃ rest, (csvLine dir' comboPrefix folder row).toList = dir'.toList ++ ',' :: rest := by
    have hcomma : ",".toList = [','] := by decide
    rw [csvLine,String.toList_intercalate,hcomma,ResultTable.csvFields]
    exact ⟨_,rfl⟩
  obtain ⟨rest,hrest⟩ := hsplit
  rw [hrest,isPrefixOf_field hdir (h.args dir' (by simp)).1]
  simp [String.toList_inj]

theorem PlainLine.awk (h : PlainLine dir comboPrefix folder row) :
    isSuccess (csvLine dir comboPrefix folder row).toList = decide (row.status = "SUCCESS") := by
  have hstatus : ((csvLine dir comboPrefix folder row).toList.splitOn ',')[7]? =
      some row.status.toList := by
    rw [ResultTable.splitOn_csvLine fun value hvalue => (h.fields value hvalue).1]
    rfl
  rw [isSuccess,hstatus,Option.any_some,String.ofList_toList]

theorem successesIn_append {rows : List Row} {dir' : String} (hlines : ∀ line ∈ lines, '\n' ∉ line)
    (hrows : ∀ row ∈ rows, PlainLine dir' comboPrefix folder row) (hdir : ',' ∉ dir.toList) :
    successesIn dir ((lines.flatMap fun line => line ++ ['\n']) ++
        (rows.map (csvLine dir' comboPrefix folder)).flatMap fun line => line.toList ++ ['\n']) =
      successesIn dir (lines.flatMap fun line => line ++ ['\n']) +
        if dir = dir' then rows.countP (fun row => row.status = "SUCCESS") else 0 := by
  have hblock : ((rows.map (csvLine dir' comboPrefix folder)).flatMap fun line =>
      line.toList ++ ['\n']) = (rows.map fun row =>
        (csvLine dir' comboPrefix folder row).toList).flatMap fun line => line ++ ['\n'] := by
    simp [List.flatMap_map]
  have hwhole : ∀ line ∈ rows.map fun row => (csvLine dir' comboPrefix folder row).toList,
      '\n' ∉ line := List.forall_mem_map.mpr fun row hrow => (hrows row hrow).newline
  have hnil : grepCombo dir [[]] = [] := by simp [grepCombo]
  have hself := splitOn_whole hlines []
  have hboth := splitOn_whole hwhole []
  rw [List.append_nil,List.splitOn_nil] at hself hboth
  have hgrep : (grepCombo dir (rows.map fun row => (csvLine dir' comboPrefix folder row).toList)) =
      if dir = dir' then rows.map (fun row => (csvLine dir' comboPrefix folder row).toList)
      else [] := by
    rw [grepCombo]
    split
    next heq =>
      refine List.filter_eq_self.mpr (List.forall_mem_map.mpr fun row hrow => ?_)
      rw [(hrows row hrow).grep hdir,heq]
      simp
    next hne =>
      refine List.filter_eq_nil_iff.mpr (List.forall_mem_map.mpr fun row hrow => ?_)
      rw [(hrows row hrow).grep hdir]
      simpa using hne
  have happend : ∀ l l', grepCombo dir (l ++ l') = grepCombo dir l ++ grepCombo dir l' :=
    fun l l' => List.filter_append ..
  rw [hblock,successesIn,successesIn,splitOn_whole hlines,hboth,hself,happend,happend,happend,
    hnil,List.append_nil,List.append_nil,hgrep,awkSuccesses,List.countP_append,awkSuccesses]
  congr 1
  split
  · rw [List.countP_map]
    refine List.countP_congr fun row hrow => ?_
    rw [Function.comp_apply,(hrows row hrow).awk]
  · rfl

end Text

def runnerArgs (cfg : BatchConfig) (combo : Combo) : List String :=
  ["--combo-id",combo.dir,"--combo-dir",combo.dir,"--prefix",combo.comboPrefix,"--scenario",
    cfg.scenario,"--iterations",cfg.iterations,"--interval",cfg.interval] ++
    if cfg.generateReport then ["--generate-report"] else []

/-- What the statuses of the first combinations say, and what the calls leave to the others. -/
structure Tallied (combos : List Combo) (k : Nat) (statuses : List String)
    (calls : List (Call BatchProgram)) : Prop where
  length : statuses.length = k
  passed : ∀ i combo, i < k → combos[i]? = some combo →
    (statuses[i]? = some "PASSED" ↔ Succeeded combo.dir calls)
  absent : ∀ i combo, k ≤ i → combos[i]? = some combo →
    ∀ c ∈ calls, c.1.comboDir? ≠ some combo.dir
  fresh : ∀ i combo, k ≤ i → combos[i]? = some combo → successesIn combo.dir (csvText calls) = 0
  whole : ∃ lines : List (List Char), (∀ line ∈ lines, '\n' ∉ line) ∧
    csvText calls = lines.flatMap fun line => line ++ ['\n']

/-- The calls by which the tests of a combination are run, parsed and counted. -/
structure Round (combo : Combo) (calls : List (Call BatchProgram)) (args : List String)
    (a p c : Answer) (output folder : String) : Prop where
  named : args[3]? = some combo.dir
  plain : ∀ row ∈ rowsOf a.output.toList, PlainLine combo.dir combo.comboPrefix folder row
  parsed : p.output.toList =
    (parseRunnerRows combo.dir combo.comboPrefix folder a.output.toList).flatMap
      fun line => line.toList ++ ['\n']
  counted : c.output = toString (successesIn combo.dir (csvText (calls ++
    [(.runFailoverTest args,a),
      (.parseRunnerRows output combo.dir combo.comboPrefix folder,p)]))) ++ "\n"

theorem number_captured (n : Nat) : number (captured (toString n ++ "\n")) = n := by
  have hdigit : ∀ c ∈ Nat.toDigits 10 n, c.isDigit = true :=
    fun c hc => Nat.isDigit_of_mem_toDigits (by decide) (by decide) hc
  have hlist : (toString n ++ "\n").toList = Nat.toDigits 10 n ++ ['\n'] := by
    rw [String.toList_append,Nat.toString_eq_repr,Nat.toList_repr]
    rfl
  have hkeep : (Nat.toDigits 10 n).reverse.dropWhile (fun c => c = '\n') =
      (Nat.toDigits 10 n).reverse := by
    refine dropWhile_eq_self.mpr fun c hc => ?_
    have hc' := hdigit c (List.mem_reverse.mp (List.mem_of_mem_head? hc))
    refine decide_eq_false ?_
    rintro rfl
    contradiction
  rw [captured,hlist,List.reverse_append,List.reverse_singleton,List.singleton_append,
    List.dropWhile_cons_of_pos (by decide),hkeep,List.reverse_reverse,number,String.toList_ofList,
    if_pos (List.all_eq_true.mpr hdigit)]
  exact (Nat.ofDigitChars_eq_foldl).symm.trans Nat.ofDigitChars_ten_toDigits

section Tally

variable {combos : List Combo} {k : Nat} {statuses : List String} {combo : Combo}
  {calls : List (Call BatchProgram)} {args : List String} {a p c : Answer}
  {output folder status : String}

theorem not_succeeded {dir : String} (h : ∀ c ∈ calls, c.1.comboDir? ≠ some dir) :
    ¬Succeeded dir calls := by
  rintro ⟨args,a,hmem,hargs,-⟩
  exact h _ hmem (by simp [BatchProgram.comboDir?,hargs])

theorem dir_ne (hnodup : (combos.map Combo.dir).Nodup) {i j : Nat} {combo combo' : Combo}
    (hi : combos[i]? = some combo) (hj : combos[j]? = some combo') (hne : i ≠ j) :
    combo.dir ≠ combo'.dir := by
  have hi' : (combos.map Combo.dir)[i]? = some combo.dir := by rw [List.getElem?_map,hi]; rfl
  have hj' : (combos.map Combo.dir)[j]? = some combo'.dir := by rw [List.getElem?_map,hj]; rfl
  intro heq
  have hlt := (List.getElem?_eq_some_iff.mp hi').1
  exact hne ((List.getElem?_inj hlt hnodup).mp (hi'.trans ((congrArg some heq).trans hj'.symm)))

theorem Tallied.gaveUp (h : Tallied combos k statuses calls) (hk : combos[k]? = some combo)
    (hstatus : status ≠ "PASSED") : Tallied combos (k + 1) (statuses ++ [status]) calls := by
  constructor
  case length => rw [List.length_append,h.length]; rfl
  case passed =>
    intro i combo' hi hcombo
    rcases Nat.lt_or_eq_of_le (Nat.le_of_lt_succ hi) with hlt | rfl
    · rw [List.getElem?_append_left (by rw [h.length]; exact hlt)]
      exact h.passed i combo' hlt hcombo
    · have hlast : (statuses ++ [status])[i]? = some status := by
        rw [← h.length]
        exact List.getElem?_concat_length
      rw [hlast,Option.some_inj]
      exact iff_of_false hstatus (not_succeeded (h.absent i combo' (Nat.le_refl i) hcombo))
  case absent => exact fun i combo' hi => h.absent i combo' (by omega)
  case fresh => exact fun i combo' hi => h.fresh i combo' (by omega)
  case whole => exact h.whole

def roundCalls (combo : Combo) (args : List String) (a p c : Answer) (output folder : String) :
    List (Call BatchProgram) :=
  [(.runFailoverTest args,a),(.parseRunnerRows output combo.dir combo.comboPrefix folder,p),
    (.countSuccesses combo.dir,c)]

theorem Round.csvText (hround : Round combo calls args a p c output folder) :
    csvText (calls ++ roundCalls combo args a p c output folder) = Batch.csvText calls ++
      ((rowsOf a.output.toList).map (csvLine combo.dir combo.comboPrefix folder)).flatMap
        fun line => line.toList ++ ['\n'] := by
  rw [csvText_append]
  simp [csvRows,roundCalls,hround.parsed,parseRunnerRows,rowsOf]

theorem csvText_counted : csvText (calls ++ [(.runFailoverTest args,a),
      (.parseRunnerRows output combo.dir combo.comboPrefix folder,p)]) =
    csvText (calls ++ roundCalls combo args a p c output folder) := by
  rw [csvText_append,csvText_append]
  simp [csvRows,roundCalls]

theorem Round.successesIn (hround : Round combo calls args a p c output folder)
    (hwhole : ∃ lines : List (List Char), (∀ line ∈ lines, '\n' ∉ line) ∧
      Batch.csvText calls = lines.flatMap fun line => line ++ ['\n'])
    {dir : String} (hdir : ',' ∉ dir.toList) :
    successesIn dir (Batch.csvText (calls ++ roundCalls combo args a p c output folder)) =
      Batch.successesIn dir (Batch.csvText calls) + if dir = combo.dir then
        (rowsOf a.output.toList).countP (fun row => row.status = "SUCCESS") else 0 := by
  obtain ⟨lines,hlines,htext⟩ := hwhole
  rw [hround.csvText,htext]
  exact successesIn_append hlines hround.plain hdir

theorem Round.succeeded_iff (hround : Round combo calls args a p c output folder) {dir : String} :
    Succeeded dir (calls ++ roundCalls combo args a p c output folder) ↔
      Succeeded dir calls ∨ dir = combo.dir ∧ ∃ row ∈ rowsOf a.output.toList,
        row.status = "SUCCESS" := by
  constructor
  · rintro ⟨args',a',hcall,hargs,hrow⟩
    rcases List.mem_append.mp hcall with hcall | hcall
    · exact .inl ⟨args',a',hcall,hargs,hrow⟩
    · simp only [roundCalls,List.mem_cons,Prod.mk.injEq,BatchProgram.runFailoverTest.injEq,
        reduceCtorEq,false_and,List.not_mem_nil,or_false] at hcall
      obtain ⟨rfl,rfl⟩ := hcall
      exact .inr ⟨(Option.some.inj (hround.named.symm.trans hargs)).symm,hrow⟩
  · rintro (⟨args',a',hcall,hrest⟩ | ⟨rfl,hrow⟩)
    · exact ⟨args',a',List.mem_append_left _ hcall,hrest⟩
    · exact ⟨args,a,List.mem_append_right _ List.mem_cons_self,hround.named,hrow⟩

theorem passed_iff (n : Nat) : (if 0 < n then "PASSED" else "FAILED") = "PASSED" ↔ 0 < n := by
  by_cases h : 0 < n
  · simp [h]
  · rw [if_neg h]
    exact iff_of_false (by simp) h

/-- The status of a combination is that of its own rows: none was in the file before. -/
theorem Round.status_iff (hround : Round combo calls args a p c output folder)
    (h : Tallied combos k statuses calls) (hcomma : ',' ∉ combo.dir.toList)
    (hk : combos[k]? = some combo) :
    (if 0 < number (captured c.output) then "PASSED" else "FAILED") = "PASSED" ↔
      ∃ row ∈ rowsOf a.output.toList, row.status = "SUCCESS" := by
  rw [passed_iff,hround.counted,number_captured,csvText_counted,
    hround.successesIn h.whole hcomma,h.fresh k combo (Nat.le_refl k) hk,if_pos rfl,Nat.zero_add,
    List.countP_pos_iff]
  simp

theorem Round.next (hround : Round combo calls args a p c output folder)
    (h : Tallied combos k statuses calls) (hnodup : (combos.map Combo.dir).Nodup)
    (hcomma : ∀ combo ∈ combos, ',' ∉ combo.dir.toList) (hk : combos[k]? = some combo) :
    Tallied combos (k + 1)
      (statuses ++ [if 0 < number (captured c.output) then "PASSED" else "FAILED"])
      (calls ++ roundCalls combo args a p c output folder) := by
  have hstatus := hround.status_iff h (hcomma combo (List.mem_of_getElem? hk)) hk
  constructor
  case length => rw [List.length_append,h.length]; rfl
  case passed =>
    intro i combo' hi hcombo
    rw [hround.succeeded_iff]
    rcases Nat.lt_or_eq_of_le (Nat.le_of_lt_succ hi) with hlt | rfl
    · have hne := dir_ne hnodup hcombo hk (Nat.ne_of_lt hlt)
      rw [List.getElem?_append_left (by rw [h.length]; exact hlt),h.passed i combo' hlt hcombo]
      exact (or_iff_left fun hsame => hne hsame.1).symm
    · obtain rfl : combo = combo' := Option.some.inj (hk.symm.trans hcombo)
      have hlast : ∀ status, (statuses ++ [status])[i]? = some status := fun status => by
        rw [← h.length]
        exact List.getElem?_concat_length
      rw [hlast,Option.some_inj,hstatus,
        or_iff_right (not_succeeded (h.absent i combo (Nat.le_refl i) hk))]
      exact (and_iff_right rfl).symm
  case absent =>
    intro i combo' hi hcombo c' hc'
    have hne := dir_ne hnodup hk hcombo (by omega)
    rcases List.mem_append.mp hc' with hc' | hc'
    · exact h.absent i combo' (by omega) hcombo c' hc'
    · simp only [roundCalls,List.mem_cons,List.not_mem_nil,or_false] at hc'
      rcases hc' with rfl | rfl | rfl <;> simpa [BatchProgram.comboDir?,hround.named] using hne
  case fresh =>
    intro i combo' hi hcombo
    have hne := dir_ne hnodup hcombo hk (by omega)
    rw [hround.successesIn h.whole (hcomma combo' (List.mem_of_getElem? hcombo)),
      h.fresh i combo' (by omega) hcombo,if_neg hne]
  case whole =>
    obtain ⟨lines,hlines,htext⟩ := h.whole
    refine ⟨lines ++ (rowsOf a.output.toList).map fun row =>
      (csvLine combo.dir combo.comboPrefix folder row).toList,?_,?_⟩
    · intro line hline
      rcases List.mem_append.mp hline with hline | hline
      · exact hlines line hline
      · obtain ⟨row,hrow,rfl⟩ := List.mem_map.mp hline
        exact (hround.plain row hrow).newline
    · rw [hround.csvText,htext,List.flatMap_append]
      simp [List.flatMap_map]

end Tally

section Script

variable {cfg : BatchConfig} {combos : List Combo} {w : World BatchProgram} {k : Nat}
  {combo : Combo} {e : Bool} {R : Bool → Shell BatchVars BatchProgram → Prop}

/-- A condition on the statuses and on the calls that they are got by. -/
def View (I : List String → List (Call BatchProgram) → Prop) (s : Shell BatchVars BatchProgram) :
    Prop := I s.vars.batchStatus (tested s.calls)

theorem tested_snoc {calls : List (Call BatchProgram)} {program : BatchProgram} {a : Answer}
    (h : program.comboDir? = none) : tested (calls ++ [(program,a)]) = tested calls := by
  simp [tested,h]

theorem tested_snoc_some {calls : List (Call BatchProgram)} {program : BatchProgram} {a : Answer}
    (dir : String) (h : program.comboDir? = some dir) :
    tested (calls ++ [(program,a)]) = tested calls ++ [(program,a)] := by
  simp [tested,h]

theorem triple_tolerate {P A : Shell BatchVars BatchProgram → Prop}
    {program : BatchVars → BatchProgram} {store : Answer → BatchVars → BatchVars}
    (h : ∀ s, P s → ∀ a, a = w.answer s.calls (program s.vars) →
      A ⟨store a s.vars,s.calls ++ [(program s.vars,a)]⟩) :
    Triple w e P (tolerate program store) (fun _ => A) R := by
  refine triple_or (A := A) (triple_external fun s hs a ha _ => ?_)
    (triple_builtin fun _ hs => hs)
  split <;> exact h s hs a ha

/-- Other programs, and the other variables, make no difference. -/
theorem triple_view {p : BatchScript} {I : List String → List (Call BatchProgram) → Prop}
    (hframes : p.Frames (fun p => p.comboDir? = none) BatchVars.batchStatus)
    (hclosed : p.Closed) : Triple w e (View I) p (fun _ => View I) (fun _ => View I) := by
  refine triple_frame hframes hclosed ?_
  rintro s t _ hs ⟨hkeep,made,hmade,huntested⟩
  have hnone : made.filter (fun c => c.1.comboDir?.isSome) = [] := by
    refine List.filter_eq_nil_iff.mpr fun c hc => ?_
    simp [huntested c hc]
  have htested : tested t.calls = tested s.calls := by
    rw [tested,hmade,List.filter_append,hnone,List.append_nil,tested]
  rw [View,hkeep,htested]
  exact hs

theorem triple_giveUp {status : String} (hstatus : status ≠ "PASSED")
    (hk : combos[k]? = some combo) {Q : Bool → Shell BatchVars BatchProgram → Prop} :
    Triple w e (View (Tallied combos k)) (giveUp status) Q
      (fun _ => View (Tallied combos (k + 1))) :=
  triple_seq (A := View (Tallied combos (k + 1)))
    (triple_builtin fun _ hs => hs.gaveUp hk hstatus) <|
  triple_seq (A := View (Tallied combos (k + 1))) (triple_builtin fun _ hs => hs)
    (triple_ret fun _ hs => hs)

/-- `if ! program; then ...; fi`, where the combination may be given up. -/
theorem triple_unless {program : BatchProgram} {a : BatchScript}
    {I : List String → List (Call BatchProgram) → Prop} (hprogram : program.comboDir? = none)
    (ha : Triple w e (View I) a (fun _ => View I) R) :
    Triple w e (View I) (.cond (.not (run fun _ => program)) a skip) (fun _ => View I) R := by
  refine triple_cond (A := View I) (B := View I) (triple_not (triple_external fun s hs a _ _ => ?_))
    ha (triple_builtin fun _ hs => hs)
  have hview : View I ⟨s.vars,s.calls ++ [(program,a)]⟩ := by
    rw [View,tested_snoc hprogram]
    exact hs
  split <;> exact hview

theorem triple_composeDown {I : List String → List (Call BatchProgram) → Prop} :
    Triple w e (View I) (tolerate (fun _ => .composeDown (composeFile combo)) fun _ v => v)
      (fun _ => View I) R :=
  triple_tolerate fun s hs a _ => by
    rw [View,tested_snoc rfl]
    exact hs

theorem triple_checkComposeFile (hk : combos[k]? = some combo) :
    Triple w e (View (Tallied combos k)) (checkComposeFile combo)
      (fun _ => View (Tallied combos k)) (fun _ => View (Tallied combos (k + 1))) :=
  triple_unless rfl (triple_giveUp (by decide) hk)

theorem triple_startStack (hk : combos[k]? = some combo) :
    Triple w e (View (Tallied combos k)) (startStack combo)
      (fun _ => View (Tallied combos k)) (fun _ => View (Tallied combos (k + 1))) :=
  triple_seq triple_composeDown (triple_unless rfl (triple_giveUp (by decide) hk))

theorem triple_awaitBootstrap (hk : combos[k]? = some combo) :
    Triple w e (View (Tallied combos k)) (awaitBootstrap combo)
      (fun _ => View (Tallied combos k)) (fun _ => View (Tallied combos (k + 1))) := by
  have hframes : (bootstrapWait combo).Frames (fun p => p.comboDir? = none)
      BatchVars.batchStatus := by
    simp [bootstrapWait,bootstrapRound,Cmd.Frames,print,assign,skip,test,BatchProgram.comboDir?]
  have hwait : Triple w false (View (Tallied combos k)) (.call (bootstrapWait combo))
      (fun _ => View (Tallied combos k)) (fun _ => View (Tallied combos (k + 1))) :=
    triple_call (triple_view hframes closed_bootstrapWait)
  refine triple_cond (A := View (Tallied combos k)) (B := View (Tallied combos k))
    (triple_not (hwait.conseq (fun _ hs => hs) ?_ fun _ _ ht => ht))
    (triple_seq triple_composeDown (triple_giveUp (by decide) hk)) (triple_builtin fun _ hs => hs)
  intro ok t ht
  cases ok <;> exact ht

def Prepared (combos : List Combo) (k : Nat) (combo : Combo)
    (s : Shell BatchVars BatchProgram) : Prop :=
  View (Tallied combos k) s ∧ s.vars.runnerArgs[3]? = some combo.dir

def Ran (combos : List Combo) (k : Nat) (combo : Combo) (statuses : List String)
    (calls : List (Call BatchProgram)) : Prop :=
  ∃ before args a, Tallied combos k statuses before ∧
    calls = before ++ [(.runFailoverTest args,a)] ∧ args[3]? = some combo.dir ∧
    ∀ row ∈ rowsOf a.output.toList, ∀ value ∈ rowValues row, PlainField value

/-- The rows of the combination are in the file; only their number is missing. -/
def Parsed (combos : List Combo) (k : Nat) (combo : Combo) (statuses : List String)
    (calls : List (Call BatchProgram)) : Prop :=
  ∃ before args a p output folder, Tallied combos k statuses before ∧
    calls = before ++ [(.runFailoverTest args,a),
      (.parseRunnerRows output combo.dir combo.comboPrefix folder,p)] ∧
    ∀ c : Answer, c.output = toString (successesIn combo.dir (csvText calls)) ++ "\n" →
      Round combo before args a p c output folder

/-- The combination is tallied by the number that is in the variable. -/
def Counted (combos : List Combo) (k : Nat) (s : Shell BatchVars BatchProgram) : Prop :=
  View (fun statuses => Tallied combos (k + 1) (statuses ++
    [if 0 < number s.vars.successCount then "PASSED" else "FAILED"])) s

theorem triple_runTests (hplain : PlainOutputs w) :
    Triple w e (View (Tallied combos k)) (runTests cfg combo)
      (fun _ => View (Ran combos k combo)) R := by
  refine triple_seq (A := Prepared combos k combo) (triple_builtin fun s hs => ⟨hs,rfl⟩) <|
    triple_seq (A := Prepared combos k combo) (triple_and (A := Prepared combos k combo)
      (triple_builtin fun s hs => ?_) (triple_builtin fun s hs => ⟨hs.1,?_⟩)) <|
    triple_seq (A := Prepared combos k combo) (triple_external fun s hs a _ _ => ⟨?_,hs.2⟩) <|
    triple_seq (A := View (Ran combos k combo)) (triple_tolerate fun s hs a ha => ?_) <|
    triple_and (A := View (Ran combos k combo)) (triple_builtin fun s hs => ?_)
      (triple_builtin fun _ hs => hs)
  · cases cfg.generateReport <;> exact hs
  · rw [List.getElem?_append_left (List.getElem?_eq_some_iff.mp hs.2).1]
    exact hs.2
  · rw [View,tested_snoc rfl]
    exact hs.1
  · have hdir : (BatchProgram.runFailoverTest s.vars.runnerArgs).comboDir? = some combo.dir := by
      rw [BatchProgram.comboDir?,hs.2]
      rfl
    rw [View,tested_snoc_some combo.dir hdir]
    exact ⟨_,_,a,hs.1,rfl,hs.2,ha ▸ hplain.rows s.calls s.vars.runnerArgs⟩
  · simp only
    split <;> exact hs

theorem triple_recordSession (hplain : PlainOutputs w)
    {I : List String → List (Call BatchProgram) → Prop} :
    Triple w e (View I) (recordSession combo)
      (fun _ s => View I s ∧ PlainField s.vars.sessionFolder) R := by
  refine triple_seq
    (A := fun s => View I s ∧ PlainField (dropSlash s.vars.sessionFolder))
    (triple_tolerate fun s hs a ha => ⟨?_,ha ▸ hplain.session s.calls combo.dir⟩) <|
    triple_seq (A := fun s => View I s ∧ PlainField s.vars.sessionFolder)
      (triple_builtin fun _ hs => hs) (triple_builtin fun _ hs => hs)
  rw [View,tested_snoc rfl]
  exact hs

theorem triple_parse (hgrounded : Grounded w) (hcombo : PlainField combo.dir)
    (hpre : PlainField combo.comboPrefix) :
    Triple w true (fun s => View (Ran combos k combo) s ∧ PlainField s.vars.sessionFolder)
      (run fun v => .parseRunnerRows v.runnerOutput combo.dir combo.comboPrefix v.sessionFolder)
      (fun _ => View (Parsed combos k combo)) R := by
  refine triple_external fun s ⟨hran,hfolder⟩ p hp hstatus => ?_
  obtain ⟨before,args,a,htally,hcalls,hnamed,hrows⟩ := hran
  have hparsed := hgrounded.parses s.calls s.vars.runnerOutput combo.dir combo.comboPrefix
    s.vars.sessionFolder (hp ▸ hstatus rfl)
  rw [← hp,← runnerLog_tested,hcalls,runnerLog_snoc] at hparsed
  rw [View,tested_snoc_some combo.dir rfl,hcalls,List.append_assoc]
  refine ⟨before,args,a,p,_,_,htally,rfl,fun c hc => ⟨hnamed,?_,hparsed,hc⟩⟩
  intro row hrow
  refine ⟨?_,hrows row hrow⟩
  simpa using ⟨hcombo,hpre,hfolder⟩

theorem triple_countCombo (hgrounded : Grounded w) (hplain : ∀ combo ∈ combos, combo.Plain)
    (hnodup : (combos.map Combo.dir).Nodup) (hk : combos[k]? = some combo) :
    Triple w true (fun s => View (Ran combos k combo) s ∧ PlainField s.vars.sessionFolder)
      (countCombo combo) (fun _ => View (Tallied combos (k + 1))) R := by
  obtain ⟨hcombo,hliteral,hpre⟩ := hplain combo (List.mem_of_getElem? hk)
  refine triple_seq (triple_parse hgrounded hcombo hpre) <|
    triple_seq (A := View (Parsed combos k combo)) (triple_external fun s hs a _ _ => ?_) <|
    triple_seq (A := Counted combos k) (triple_tolerate fun s hs c hc => ?_) <|
    triple_cond (A := fun s => Counted combos k s ∧ 0 < number s.vars.successCount)
      (B := fun s => Counted combos k s ∧ ¬0 < number s.vars.successCount)
      (triple_builtin fun s hs => ?_)
      (triple_builtin fun s hs => ?_) (triple_builtin fun s hs => ?_)
  · rw [View,tested_snoc rfl]
    exact hs
  · obtain ⟨before,args,a,p,output,folder,htally,hcalls,hround⟩ := hs
    have hnumber := hgrounded.counts s.calls combo.dir hliteral
    rw [← hc,← csvText_tested] at hnumber
    have hnext := (hround c hnumber).next htally hnodup (fun combo hmem => (hplain combo hmem).dir.1)
      hk
    rw [Counted,View,tested_snoc_some combo.dir rfl,hcalls,List.append_assoc]
    exact hnext
  · by_cases h : 0 < number s.vars.successCount
    · simpa [h] using hs
    · simpa [h] using hs
  · obtain ⟨hs,hpos⟩ := hs
    rw [Counted,if_pos hpos] at hs
    exact hs
  · obtain ⟨hs,hzero⟩ := hs
    rw [Counted,if_neg hzero] at hs
    exact hs

theorem triple_processCombo (hgrounded : Grounded w) (houtputs : PlainOutputs w)
    (hplain : ∀ combo ∈ combos, combo.Plain)
    (hnodup : (combos.map Combo.dir).Nodup) (hk : combos[k]? = some combo) :
    Triple w true (View (Tallied combos k)) (processCombo cfg combo)
      (fun _ => View (Tallied combos (k + 1))) (fun _ => View (Tallied combos (k + 1))) :=
  triple_seq (triple_checkComposeFile hk) <|
  triple_seq (triple_startStack hk) <|
  triple_seq (triple_awaitBootstrap hk) <|
  triple_seq (triple_runTests houtputs) <|
  triple_seq (triple_recordSession houtputs) <|
  triple_seq (triple_countCombo hgrounded hplain hnodup hk) <|
  triple_seq triple_composeDown (triple_ret fun _ hs => hs)

theorem triple_mainRound (hgrounded : Grounded w) (houtputs : PlainOutputs w)
    (hplain : ∀ combo ∈ combos, combo.Plain)
    (hnodup : (combos.map Combo.dir).Nodup) (hk : k < combos.length) :
    Triple w true (View (Tallied combos k)) (mainRound cfg combos k)
      (fun _ => View (Tallied combos (k + 1))) R := by
  have hcombo : combos[k]? = some combos[k] := List.getElem?_eq_getElem hk
  have hclean : cleanupBetweenCombos.Frames (fun p => p.comboDir? = none)
      BatchVars.batchStatus := by
    simp [cleanupBetweenCombos,Cmd.Frames,tolerate,run,skip,test,BatchProgram.comboDir?]
  have hclosed : cleanupBetweenCombos.Closed := by
    simp [cleanupBetweenCombos,Cmd.Closed,tolerate,run,skip,test]
  rw [mainRound,hcombo]
  refine triple_seq (triple_call (triple_processCombo hgrounded houtputs hplain hnodup hcombo)) ?_
  refine triple_cond (A := View (Tallied combos (k + 1))) (B := View (Tallied combos (k + 1)))
    (triple_builtin fun s hs => ?_) (triple_call (triple_view hclean hclosed))
    (triple_builtin fun _ hs => hs)
  split <;> exact hs

theorem tallied_nil (combos : List Combo) : Tallied combos 0 [] [] := by
  constructor
  case length => rfl
  case passed => exact fun i combo hi => absurd hi (Nat.not_lt_zero i)
  case absent => exact fun i combo _ _ c hc => absurd hc List.not_mem_nil
  case fresh =>
    intro i combo _ _
    rw [successesIn_csvText]
    simp [csvRows,successesIn,grepCombo,awkSuccesses]
  case whole => exact ⟨[csvHeader.toList],List.forall_mem_singleton.mpr (by decide),by simp [csvText,csvRows]⟩

theorem triple_mainLoop (hgrounded : Grounded w) (houtputs : PlainOutputs w)
    (hplain : ∀ combo ∈ combos, combo.Plain)
    (hnodup : (combos.map Combo.dir).Nodup) :
    Triple w true (View (Tallied combos 0)) (mainLoop cfg combos)
      (fun _ => View (Tallied combos combos.length)) R :=
  triple_forLoop (I := fun k => View (Tallied combos k)) fun _ hk =>
    triple_mainRound hgrounded houtputs hplain hnodup hk

theorem triple_runBatch (cfg : BatchConfig) (hgrounded : Grounded w) (houtputs : PlainOutputs w)
    (hplain : ∀ combo ∈ combos, combo.Plain)
    (hnodup : (combos.map Combo.dir).Nodup) :
    Triple w true (View (Tallied combos 0)) (runBatch cfg combos)
      (fun _ => View (Tallied combos combos.length))
      (fun _ => View (Tallied combos combos.length)) := by
  have hsummary : (summary combos).Frames (fun p => p.comboDir? = none)
      BatchVars.batchStatus := by
    simp [summary,summaryRound,assign,skip,test]
  have hreport : (report cfg).Frames (fun p => p.comboDir? = none) BatchVars.batchStatus := by
    simp [report,Cmd.Frames,run,skip,test,BatchProgram.comboDir?]
  refine triple_seq (triple_mainLoop hgrounded houtputs hplain hnodup) <|
    triple_seq (triple_view hsummary ?_) (triple_view hreport ?_)
  · simp [summary,summaryRound,Cmd.Closed,assign,skip,test]
  · simp [report,Cmd.Closed,run,skip,test]

theorem succeeded_tested {dir : String} {calls : List (Call BatchProgram)} :
    Succeeded dir (tested calls) ↔ Succeeded dir calls := by
  refine exists_congr fun args => exists_congr fun a => and_congr_left fun _ => ?_
  rw [tested,List.mem_filter]
  exact and_iff_left rfl

end Script

/-- At the end of a batch that is not aborted, every combination has been tallied. -/
theorem tallied_runScript (cfg : BatchConfig) {combos : List Combo} {w : World BatchProgram}
    (hgrounded : Grounded w) (houtputs : PlainOutputs w)
    (hplain : ∀ combo ∈ combos, combo.Plain)
    (hnodup : (combos.map Combo.dir).Nodup) (hruns : (runScript cfg combos w).1.exits = false) :
    View (Tallied combos combos.length) (runScript cfg combos w).2 := by
  have hpost := triple_runBatch cfg hgrounded houtputs hplain hnodup ⟨{},[]⟩
    (tallied_nil combos)
  rw [← runScript] at hpost
  revert hpost hruns
  cases runScript cfg combos w with
  | mk flow t =>
    intro hruns hpost
    cases flow with
    | done ok => exact hpost
    | returned ok => exact hpost
    | continued => exact hpost.elim
    | exited => contradiction

/-- In a batch that is not aborted, a combination passes exactly if one of the iterations that were
run for it was a success: neither another combination's rows nor the header count for it. -/
theorem passed_iff_succeeded (cfg : BatchConfig) (combos : List Combo) (w : World BatchProgram)
    (hgrounded : Grounded w) (houtputs : PlainOutputs w)
    (hplain : ∀ combo ∈ combos, combo.Plain)
    (hnodup : (combos.map Combo.dir).Nodup) (hruns : (runScript cfg combos w).1.exits = false)
    (k : Nat) (hk : k < combos.length) :
    (runScript cfg combos w).2.vars.batchStatus[k]? = some "PASSED" ↔
      Succeeded combos[k].dir (runScript cfg combos w).2.calls := by
  have htallied := tallied_runScript cfg hgrounded houtputs hplain hnodup hruns
  rw [htallied.passed k combos[k] hk (List.getElem?_eq_getElem hk),succeeded_tested]

def succeededRow : Row := ⟨"1","hard_stop","node1","3.2","4","SUCCESS"⟩

def unrecoveredRow : Row := ⟨"1","hard_stop","node2","—","—","TIMEOUT"⟩

/-- The iteration of the first combination is a success, that of the second is not. -/
def unevenBatch : World BatchProgram where
  answer calls program :=
    match program with
    | .patronictlList _ _ => ⟨0,"Replica streaming\n| patroni1 Leader running\nReplica streaming"⟩
    | .runFailoverTest args =>
      if args[3]? = some "01-libpq-multihost" then
        ⟨0,"║ 1 ║ hard_stop ║ node1 ║ 3.2 ║ 4 ║ SUCCESS ║\n"⟩
      else ⟨0,"║ 1 ║ hard_stop ║ node2 ║ — ║ — ║ TIMEOUT ║\n"⟩
    | .latestSession _ => ⟨0,"s1/\n"⟩
    | .parseRunnerRows _ dir comboPrefix folder =>
      ⟨0,String.ofList ((rowsOf (runnerLog calls)).flatMap fun row =>
        [','].intercalate ((csvFields dir comboPrefix folder row).map String.toList) ++ ['\n'])⟩
    | .countSuccesses dir => ⟨0,toString (successesIn dir (csvRows calls)) ++ "\n"⟩
    | _ => ⟨0,""⟩
  passes _ := 18

theorem rowsOf_unevenBatch (calls : List (Call BatchProgram)) (args : List String) :
    rowsOf (unevenBatch.answer calls (.runFailoverTest args)).output.toList =
      if args[3]? = some "01-libpq-multihost" then [succeededRow] else [unrecoveredRow] := by
  have hfirst : rowsOf (unevenBatch.answer [] (.runFailoverTest
      ["","","","01-libpq-multihost"])).output.toList = [succeededRow] := by decide +kernel
  have hother : rowsOf (unevenBatch.answer [] (.runFailoverTest [])).output.toList =
      [unrecoveredRow] := by decide +kernel
  by_cases hdir : args[3]? = some "01-libpq-multihost"
  · rw [if_pos hdir,← hfirst]
    simp only [unevenBatch,if_pos hdir]
    rfl
  · rw [if_neg hdir,← hother]
    simp only [unevenBatch,if_neg hdir]
    rfl

theorem grounded_unevenBatch : Grounded unevenBatch where
  parses calls output dir comboPrefix folder _ := by
    rw [parseRunnerRows,List.flatMap_map]
    simp only [toList_csvLine]
    exact String.toList_ofList
  counts calls dir _ := by
    rw [successesIn_csvText]
    rfl

theorem plainOutputs_unevenBatch : PlainOutputs unevenBatch := by
  have hvalues : ∀ row ∈ [succeededRow,unrecoveredRow], ∀ value ∈ rowValues row,
      ',' ∉ value.toList ∧ '\n' ∉ value.toList := by decide +kernel
  have hsession : PlainField (dropSlash (captured "s1/\n")) :=
    ⟨by decide +kernel,by decide +kernel⟩
  refine ⟨fun calls args row hrow => ?_,fun _ _ => hsession⟩
  rw [rowsOf_unevenBatch] at hrow
  split at hrow
  · exact hvalues row (List.mem_of_mem_take (i := 1) hrow)
  · exact hvalues row (List.mem_cons_of_mem _ hrow)

theorem runScript_unevenBatch :
    (runScript defaults (firstCombos.take 2) unevenBatch).1.exits = false ∧
      (runScript defaults (firstCombos.take 2) unevenBatch).2.vars.batchStatus =
        ["PASSED","FAILED"] := by decide +kernel

theorem passed_iff_succeeded_unevenBatch :
    let run := runScript defaults (firstCombos.take 2) unevenBatch
    run.2.vars.batchStatus = ["PASSED","FAILED"] ∧
      Succeeded "01-libpq-multihost" run.2.calls ∧ ¬Succeeded "02-consul-dns" run.2.calls := by
  obtain ⟨hruns,hstatus⟩ := runScript_unevenBatch
  have hplain : ∀ combo ∈ firstCombos.take 2, combo.Plain := by
    have hall : ∀ combo ∈ firstCombos.take 2,
        (',' ∉ combo.dir.toList ∧ '\n' ∉ combo.dir.toList) ∧ literal combo.dir = true ∧
          ',' ∉ combo.comboPrefix.toList ∧ '\n' ∉ combo.comboPrefix.toList := by decide +kernel
    exact fun combo hcombo => ⟨(hall combo hcombo).1,(hall combo hcombo).2.1,
      (hall combo hcombo).2.2⟩
  have hpassed := passed_iff_succeeded defaults (firstCombos.take 2) unevenBatch
    grounded_unevenBatch plainOutputs_unevenBatch hplain (by decide) hruns
  refine ⟨hstatus,(hpassed 0 (by decide)).mp (by rw [hstatus]; rfl),fun hsucceeded => ?_⟩
  have hsecond := (hpassed 1 (by decide)).mpr hsucceeded
  rw [hstatus] at hsecond
  exact absurd hsecond (by decide)

end RoutingBench.Batch
