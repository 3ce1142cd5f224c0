import RoutingBench.BatchCsv
set_option autoImplicit false

/-!
run_batch.sh from its arguments to its exit code: the options, the checks before the main loop, and
the combinations that the filters select. When is the exit code 0?
-/

namespace RoutingBench.Batch
open Errexit

def comboDirs : List String :=
  ["01-libpq-multihost","02-consul-dns","03-vip-manager-poll","04-vip-patroni-callback",
    "05-bgp-anycast","06-haproxy-rest-polling","06-haproxy-rest-polling-tuned",
    "07-consul-template-reload","08-consul-template-runtime-api","09-patroni-callback-haproxy",
    "10-consul-connect-envoy"]

def comboPrefixes : List String :=
  ["prb-01","prb-02","prb-03","prb-04","prb-05","prb-06","prb-06t","prb-07","prb-08","prb-09",
    "prb-10"]

structure BatchOptions where
  filterCombos : String := ""
  skipCombos : String := ""
  scenario : String := "all"
  iterations : String := "1"
  interval : String := "90"
  generateReport : Bool := false
  batchReport : Bool := false
  deriving DecidableEq, Repr

inductive ParsedArgs where
  | options (o : BatchOptions)
  | help
  | failed
  deriving DecidableEq, Repr

/-- The loop over the arguments. Without a value to an option `shift 2` fails. -/
def parseArgs (o : BatchOptions) : List String → ParsedArgs
  | [] => .options o
  | "--combos" :: value :: args => parseArgs { o with filterCombos := value } args
  | "--skip" :: value :: args => parseArgs { o with skipCombos := value } args
  | "--scenario" :: value :: args => parseArgs { o with scenario := value } args
  | "--iterations" :: value :: args => parseArgs { o with iterations := value } args
  | "--interval" :: value :: args => parseArgs { o with interval := value } args
  | "--generate-report" :: args => parseArgs { o with generateReport := true } args
  | "--batch-report" :: args => parseArgs { o with batchReport := true } args
  | "-h" :: _ => .help
  | "--help" :: _ => .help
  | _ :: _ => .failed

/-- `${dir%%-*}` -/
def comboNumber (dir : String) : List Char := dir.toList.takeWhile (· ≠ '-')

/-- `${f// /}` -/
def removeBlanks (field : List Char) : List Char := field.filter (· ≠ ' ')

/-- `IFS=',' read -ra`: the fields of the first line, of which an empty last one does not count. -/
def readFields (text : String) : List (List Char) :=
  let fields := (text.toList.takeWhile (· ≠ '\n')).splitOn ','
  if fields.getLast? = some [] then fields.dropLast else fields

def shouldRun (o : BatchOptions) (dir : String) : Bool :=
  if o.filterCombos ≠ "" ∧
      ¬(readFields o.filterCombos).any (fun f => comboNumber dir = removeBlanks f) then false
  else if o.skipCombos ≠ "" ∧
      (readFields o.skipCombos).any (fun s => comboNumber dir = removeBlanks s) then false
  else true

/-- RUN_DIRS, RUN_PREFIXES and RUN_IDS. -/
structure RunArrays where
  dirs : List String := []
  prefixes : List String := []
  ids : List String := []

def selectRound (o : BatchOptions) (arrays : RunArrays) (i : Nat) : RunArrays :=
  let dir := comboDirs[i]?.getD ""
  if shouldRun o dir then
    { dirs := arrays.dirs ++ [dir]
      prefixes := arrays.prefixes ++ [comboPrefixes[i]?.getD ""]
      ids := arrays.ids ++ [dir] }
  else arrays

def selectCombos (o : BatchOptions) : RunArrays :=
  (List.range comboDirs.length).foldl (selectRound o) {}

def RunArrays.combos (arrays : RunArrays) : List Combo :=
  (List.range arrays.dirs.length).map fun i =>
    ⟨arrays.dirs[i]?.getD "",arrays.prefixes[i]?.getD ""⟩

def BatchOptions.config (o : BatchOptions) : BatchConfig where
  scenario := o.scenario
  iterations := o.iterations
  interval := o.interval
  generateReport := o.generateReport
  batchReport := o.batchReport

/-- What is found before the main loop: the containers, the runner, and whether the directory of the
batch and its CSV file can be written. -/
structure Host where
  timescaledb : Bool
  grafana : Bool
  runner : Bool
  writable : Bool

/-- run_batch.sh: what it exits with, or `none` if it is aborted in its main loop. -/
def runBatchSh (args : List String) (host : Host) (w : World BatchProgram) : Option Nat :=
  match parseArgs {} args with
  | .help => some 0
  | .failed => some 1
  | .options o =>
    if !host.timescaledb then some 1
    else if !host.grafana then some 1
    else if !host.runner then some 1
    else if !host.writable then some 1
    else
      let arrays := selectCombos o
      if arrays.dirs.length = 0 then some 1 else exitCode o.config arrays.combos w

/-! ### The arguments -/

inductive Setting where
  | combos (value : String)
  | skip (value : String)
  | scenario (value : String)
  | iterations (value : String)
  | interval (value : String)
  | generateReport
  | batchReport

def Setting.words : Setting → List String
  | .combos value => ["--combos",value]
  | .skip value => ["--skip",value]
  | .scenario value => ["--scenario",value]
  | .iterations value => ["--iterations",value]
  | .interval value => ["--interval",value]
  | .generateReport => ["--generate-report"]
  | .batchReport => ["--batch-report"]

def BatchOptions.set (o : BatchOptions) : Setting → BatchOptions
  | .combos value => { o with filterCombos := value }
  | .skip value => { o with skipCombos := value }
  | .scenario value => { o with scenario := value }
  | .iterations value => { o with iterations := value }
  | .interval value => { o with interval := value }
  | .generateReport => { o with generateReport := true }
  | .batchReport => { o with batchReport := true }

def optionsOf (settings : List Setting) : BatchOptions := settings.foldl BatchOptions.set {}

def helpWords : List String := ["-h","--help"]

section Arguments

variable {o : BatchOptions} {args : List String}

theorem parseArgs_words (o : BatchOptions) (setting : Setting) (args : List String) :
    parseArgs o (setting.words ++ args) = parseArgs (o.set setting) args := by
  cases setting <;> rfl

theorem parseArgs_settings (o : BatchOptions) (settings : List Setting) (args : List String) :
    parseArgs o (settings.flatMap Setting.words ++ args) =
      parseArgs (settings.foldl BatchOptions.set o) args := by
  induction settings generalizing o with
  | nil => rfl
  | cons setting settings ih =>
    rw [List.flatMap_cons,List.append_assoc,parseArgs_words,ih,List.foldl_cons]

/-- What the arguments are, by what comes of them. -/
def Reads (o : BatchOptions) (args : List String) : ParsedArgs → Prop
  | .options o' => ∃ settings : List Setting, args = settings.flatMap Setting.words ∧
      o' = settings.foldl BatchOptions.set o
  | .help => ∃ (settings : List Setting) (word : String) (rest : List String), word ∈ helpWords ∧
      args = settings.flatMap Setting.words ++ word :: rest
  | .failed => True

theorem Reads.set {parsed : ParsedArgs} (setting : Setting)
    (h : Reads (o.set setting) args parsed) : Reads o (setting.words ++ args) parsed := by
  cases parsed with
  | options o' =>
    obtain ⟨settings,rfl,rfl⟩ := h
    exact ⟨setting :: settings,rfl,rfl⟩
  | help =>
    obtain ⟨settings,word,rest,hword,rfl⟩ := h
    refine ⟨setting :: settings,word,rest,hword,?_⟩
    rw [List.flatMap_cons,List.append_assoc]
  | failed => trivial

theorem reads_parseArgs (o : BatchOptions) (args : List String) :
    Reads o args (parseArgs o args) := by
  fun_induction parseArgs o args with
  | case1 o => exact ⟨[],rfl,rfl⟩
  | case2 o value args ih => exact ih.set (.combos value)
  | case3 o value args ih => exact ih.set (.skip value)
  | case4 o value args ih => exact ih.set (.scenario value)
  | case5 o value args ih => exact ih.set (.iterations value)
  | case6 o value args ih => exact ih.set (.interval value)
  | case7 o args ih => exact ih.set .generateReport
  | case8 o args ih => exact ih.set .batchReport
  | case9 o rest => exact ⟨[],"-h",rest,by simp [helpWords],rfl⟩
  | case10 o rest => exact ⟨[],"--help",rest,by simp [helpWords],rfl⟩
  | case11 => trivial

/-- The arguments that are accepted are those that write settings out, one after the other. -/
theorem parseArgs_eq_options {o' : BatchOptions} :
    parseArgs o args = .options o' ↔ ∃ settings : List Setting,
      args = settings.flatMap Setting.words ∧ o' = settings.foldl BatchOptions.set o := by
  constructor
  · intro h
    have hreads := reads_parseArgs o args
    rwa [h] at hreads
  · rintro ⟨settings,rfl,rfl⟩
    have hparse := parseArgs_settings o settings []
    rwa [List.append_nil] at hparse

theorem parseArgs_eq_help :
    parseArgs o args = .help ↔ ∃ (settings : List Setting) (word : String) (rest : List String),
      word ∈ helpWords ∧ args = settings.flatMap Setting.words ++ word :: rest := by
  constructor
  · intro h
    have hreads := reads_parseArgs o args
    rwa [h] at hreads
  · rintro ⟨settings,word,rest,hword,rfl⟩
    rw [parseArgs_settings]
    simp only [helpWords,List.mem_cons,List.not_mem_nil,or_false] at hword
    rcases hword with rfl | rfl <;> rfl

end Arguments

/-! ### The selection -/

def registry : List Combo := List.zipWith Combo.mk comboDirs comboPrefixes

/-- The numbers that a filter names: between commas, and blanks do not count. -/
def numbersOf (text : String) : List (List Char) :=
  ((text.toList.takeWhile (· ≠ '\n')).splitOn ',').map removeBlanks

def Wanted (o : BatchOptions) (dir : String) : Prop :=
  (o.filterCombos = "" ∨ comboNumber dir ∈ numbersOf o.filterCombos) ∧
    comboNumber dir ∉ numbersOf o.skipCombos

instance (o : BatchOptions) : DecidablePred (Wanted o) := fun _ =>
  inferInstanceAs (Decidable (_ ∧ _))

def selected (o : BatchOptions) : List Combo := registry.filter fun combo => Wanted o combo.dir

section Selection

variable {o : BatchOptions} {dir : String}

theorem any_readFields (hdir : comboNumber dir ≠ []) (text : String) :
    (readFields text).any (fun f => comboNumber dir = removeBlanks f) = true ↔
      comboNumber dir ∈ numbersOf text := by
  rw [List.any_eq_true,numbersOf,List.mem_map,readFields]
  simp only [decide_eq_true_eq]
  split
  case isTrue hlast =>
    obtain ⟨front,hfront⟩ := List.getLast?_eq_some_iff.mp hlast
    rw [hfront,List.dropLast_concat]
    constructor
    · rintro ⟨f,hf,heq⟩
      exact ⟨f,List.mem_append_left _ hf,heq.symm⟩
    · rintro ⟨f,hf,heq⟩
      rcases List.mem_append.mp hf with hf | hf
      · exact ⟨f,hf,heq.symm⟩
      · obtain rfl := List.mem_singleton.mp hf
        exact absurd heq.symm hdir
  case isFalse =>
    exact exists_congr fun f => and_congr_right fun _ => eq_comm

theorem numbersOf_empty : numbersOf "" = [[]] := by decide

theorem shouldRun_iff (hdir : comboNumber dir ≠ []) : shouldRun o dir = true ↔ Wanted o dir := by
  simp only [shouldRun,any_readFields hdir,Wanted]
  by_cases hskip : o.skipCombos = ""
  · simp [hskip,numbersOf_empty,hdir,or_iff_not_imp_left]
  · by_cases hfilter : o.filterCombos = ""
    · simp [hskip,hfilter]
    · by_cases hnamed : comboNumber dir ∈ numbersOf o.filterCombos <;> simp [hskip,hfilter,hnamed]

def arraysOf (combos : List Combo) : RunArrays where
  dirs := combos.map Combo.dir
  prefixes := combos.map Combo.comboPrefix
  ids := combos.map Combo.dir

theorem combos_arraysOf (combos : List Combo) : (arraysOf combos).combos = combos := by
  refine List.ext_getElem (by simp [RunArrays.combos,arraysOf]) fun i hi hi' => ?_
  simp [RunArrays.combos,arraysOf,hi']

theorem selectRound_arraysOf (combos : List Combo) {i : Nat} {combo : Combo}
    (hi : registry[i]? = some combo) :
    selectRound o (arraysOf combos) i =
      arraysOf (combos ++ if shouldRun o combo.dir then [combo] else []) := by
  obtain ⟨dir,word,hdir,hword,rfl⟩ : ∃ dir word, comboDirs[i]? = some dir ∧
      comboPrefixes[i]? = some word ∧ Combo.mk dir word = combo := by
    simpa [registry,List.getElem?_zipWith_eq_some] using hi
  rw [selectRound,hdir,hword]
  by_cases hrun : shouldRun o dir = true
  · simp [hrun,arraysOf]
  · simp [hrun]

/-- The arrays stay in step: they have the selected combinations, in the order of the registry. -/
theorem selectRounds {n : Nat} (hn : n ≤ registry.length) :
    (List.range n).foldl (selectRound o) {} =
      arraysOf ((registry.take n).filter fun combo => shouldRun o combo.dir) := by
  induction n with
  | zero => rfl
  | succ n ih =>
    have hlt : n < registry.length := hn
    rw [List.range_succ,List.foldl_append,ih (Nat.le_of_lt hlt),List.foldl_cons,List.foldl_nil,
      selectRound_arraysOf _ (List.getElem?_eq_getElem hlt),List.take_succ_eq_append_getElem hlt,
      List.filter_append,List.filter_cons,List.filter_nil]

theorem number_registry : ∀ combo ∈ registry, comboNumber combo.dir ≠ [] := by decide +kernel

theorem selectCombos_eq (o : BatchOptions) : selectCombos o = arraysOf (selected o) := by
  have hrounds := selectRounds (o := o) (Nat.le_refl registry.length)
  rw [List.take_length] at hrounds
  have hsame : selectCombos o = (List.range registry.length).foldl (selectRound o) {} := rfl
  rw [hsame,hrounds,selected]
  congr 1
  refine List.filter_congr fun combo hcombo => ?_
  rw [Bool.eq_iff_iff,shouldRun_iff (number_registry combo hcombo),decide_eq_true_iff]

end Selection

section ExitCode

variable {w : World BatchProgram}

def testSucceeded (dir : String) (c : Call BatchProgram) : Bool :=
  match c.1 with
  | .runFailoverTest args => args[3]? = some dir &&
      (rowsOf c.2.output.toList).any fun row => row.status = "SUCCESS"
  | _ => false

theorem any_testSucceeded (dir : String) (calls : List (Call BatchProgram)) :
    calls.any (testSucceeded dir) = true ↔ Succeeded dir calls := by
  rw [List.any_eq_true]
  constructor
  · rintro ⟨⟨program,a⟩,hc,htest⟩
    cases program with
    | runFailoverTest args =>
      have hparts : args[3]? = some dir ∧ ∃ row ∈ rowsOf a.output.toList, row.status = "SUCCESS" := by
        simpa [testSucceeded] using htest
      exact ⟨args,a,hc,hparts⟩
    | _ => contradiction
  · rintro ⟨args,a,hc,hdir,hrow⟩
    refine ⟨_,hc,?_⟩
    simpa [testSucceeded] using ⟨hdir,hrow⟩

instance (dir : String) (calls : List (Call BatchProgram)) : Decidable (Succeeded dir calls) :=
  decidable_of_iff _ (any_testSucceeded dir calls)

theorem plain_registry : ∀ combo ∈ registry, combo.Plain := by
  have hall : ∀ combo ∈ registry, (',' ∉ combo.dir.toList ∧ '\n' ∉ combo.dir.toList) ∧
      literal combo.dir = true ∧ ',' ∉ combo.comboPrefix.toList ∧ '\n' ∉ combo.comboPrefix.toList := by
    decide +kernel
  exact fun combo hcombo => ⟨(hall combo hcombo).1,(hall combo hcombo).2.1,
    (hall combo hcombo).2.2⟩

theorem nodup_registry : (registry.map Combo.dir).Nodup := by decide +kernel

theorem count_passed {combos : List Combo} {statuses : List String}
    {calls : List (Call BatchProgram)} (h : Tallied combos combos.length statuses calls) :
    statuses.count "PASSED" = combos.countP fun combo => Succeeded combo.dir calls := by
  have hsame : statuses.map (fun status => status == "PASSED") =
      combos.map fun combo => decide (Succeeded combo.dir calls) := by
    refine List.ext_getElem (by simp [h.length]) fun k hk hk' => ?_
    rw [List.length_map] at hk hk'
    have hpassed := h.passed k combos[k] hk' (List.getElem?_eq_getElem hk')
    rw [List.getElem?_eq_getElem hk,Option.some_inj] at hpassed
    rw [List.getElem_map,List.getElem_map,Bool.eq_iff_iff,beq_iff_eq,decide_eq_true_iff]
    exact hpassed
  have hcount := congrArg (List.countP id) hsame
  rwa [List.countP_map,List.countP_map] at hcount

/-- The batch runs to its end, and in 80 % of its combinations, rounded down, an iteration was a
success. -/
structure Suffices (o : BatchOptions) (w : World BatchProgram) : Prop where
  selects : selected o ≠ []
  ends : (runScript o.config (selected o) w).1.exits = false
  enough : (selected o).length * 80 / 100 ≤ (selected o).countP fun combo =>
    Succeeded combo.dir (runScript o.config (selected o) w).2.calls

theorem exitCode_selected (hgrounded : Grounded w) (houtputs : PlainOutputs w) (o : BatchOptions)
    (hselects : selected o ≠ []) :
    exitCode o.config (selected o) w = some 0 ↔ Suffices o w := by
  rw [exitCode]
  cases hruns : (runScript o.config (selected o) w).1.exits with
  | true =>
    refine iff_of_false (by simp) fun h => ?_
    rw [h.ends] at hruns
    contradiction
  | false =>
    have hsub : (selected o).Sublist registry := List.filter_sublist
    have htallied := tallied_runScript o.config hgrounded houtputs
      (fun combo hcombo => plain_registry combo (hsub.subset hcombo))
      (nodup_registry.sublist (hsub.map _)) hruns
    have hcount := (runScript_eval hruns).2.1.trans (count_passed htallied)
    simp only [succeeded_tested] at hcount
    rw [if_neg Bool.false_ne_true,Option.some_inj,
      verdict_zero _ _ (fun h => hselects (List.length_eq_zero_iff.mp h)),hcount]
    exact ⟨fun h => ⟨hselects,hruns,h⟩,Suffices.enough⟩

end ExitCode

def Host.Ready (host : Host) : Prop :=
  host.timescaledb = true ∧ host.grafana = true ∧ host.runner = true ∧ host.writable = true

theorem runBatchSh_options {args : List String} {host : Host} {w : World BatchProgram}
    {o : BatchOptions} (hparse : parseArgs {} args = .options o) :
    runBatchSh args host w = some 0 ↔
      host.Ready ∧ selected o ≠ [] ∧ exitCode o.config (selected o) w = some 0 := by
  have hcombos : (selectCombos o).combos = selected o := by
    rw [selectCombos_eq,combos_arraysOf]
  have hlength : (selectCombos o).dirs.length = 0 ↔ selected o = [] := by
    rw [selectCombos_eq,arraysOf,List.length_map,List.length_eq_zero_iff]
  obtain ⟨timescaledb,grafana,runner,writable⟩ := host
  simp only [runBatchSh,hparse,hcombos,hlength,Host.Ready]
  by_cases hselects : selected o = []
  · simp [hselects]
  · cases timescaledb <;> cases grafana <;> cases runner <;> cases writable <;> simp [hselects]

/-- run_batch.sh exits with 0 exactly if it was asked for help, or its arguments are settings,
nothing is missing, and enough of the combinations that the filters ask for had a success. -/
theorem runBatchSh_zero_iff (args : List String) (host : Host) (w : World BatchProgram)
    (hgrounded : Grounded w) (houtputs : PlainOutputs w) :
    runBatchSh args host w = some 0 ↔
      (∃ (settings : List Setting) (word : String) (rest : List String), word ∈ helpWords ∧
        args = settings.flatMap Setting.words ++ word :: rest) ∨
      ∃ settings : List Setting, args = settings.flatMap Setting.words ∧ host.Ready ∧
        Suffices (optionsOf settings) w := by
  rw [← parseArgs_eq_help]
  have hoptions : (∃ settings : List Setting, args = settings.flatMap Setting.words ∧
      host.Ready ∧ Suffices (optionsOf settings) w) ↔
        ∃ o, parseArgs {} args = .options o ∧ host.Ready ∧ Suffices o w := by
    simp only [parseArgs_eq_options,optionsOf]
    constructor
    · rintro ⟨settings,hargs,h⟩
      exact ⟨_,⟨settings,hargs,rfl⟩,h⟩
    · rintro ⟨o,⟨settings,hargs,rfl⟩,h⟩
      exact ⟨settings,hargs,h⟩
  rw [hoptions]
  cases hparse : parseArgs {} args with
  | help => simp [runBatchSh,hparse]
  | failed => simp [runBatchSh,hparse]
  | options o =>
    rw [runBatchSh_options hparse]
    simp only [reduceCtorEq,false_or,ParsedArgs.options.injEq,exists_eq_left']
    refine and_congr_right fun _ => ⟨fun h => ?_,fun h => ⟨h.selects,?_⟩⟩
    · exact (exitCode_selected hgrounded houtputs o h.1).mp h.2
    · exact (exitCode_selected hgrounded houtputs o h.selects).mpr h

/-- Of two combinations one passes, which is enough. -/
theorem runBatchSh_zero_iff_unevenBatch :
    (∃ (settings : List Setting) (word : String) (rest : List String), word ∈ helpWords ∧
        ["--combos","01,02"] = settings.flatMap Setting.words ++ word :: rest) ∨
      ∃ settings : List Setting, ["--combos","01,02"] = settings.flatMap Setting.words ∧
        Host.Ready ⟨true,true,true,true⟩ ∧ Suffices (optionsOf settings) unevenBatch := by
  refine (runBatchSh_zero_iff _ ⟨true,true,true,true⟩ _ grounded_unevenBatch
    plainOutputs_unevenBatch).mp ?_
  obtain ⟨hruns,hstatus⟩ := runScript_unevenBatch
  have hselected : selected { filterCombos := "01,02" } = firstCombos.take 2 := by decide +kernel
  have hcount := (runScript_eval hruns).2.1
  rw [hstatus] at hcount
  refine (runBatchSh_options (o := { filterCombos := "01,02" }) (by decide +kernel)).mpr
    ⟨⟨rfl,rfl,rfl,rfl⟩,?_,?_⟩
  · rw [hselected]
    decide
  · rw [hselected]
    change exitCode defaults _ _ = _
    rw [exitCode,hruns,hcount]
    decide

end RoutingBench.Batch
