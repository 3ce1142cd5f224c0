import RoutingBench.FailoverTest
set_option autoImplicit false

/-!
run_batch.sh from its main loop on: every combination is processed, and the exit code says whether
enough of them passed.
-/

namespace RoutingBench.Batch
open Errexit
open Runner (captured healthy number)

/-- A combination; its directory is its id. -/
structure Combo where
  dir : String
  comboPrefix : String
  deriving DecidableEq, Repr

inductive BatchProgram where
  | fileExists (path : String)
  | composeDown (file : String)
  | composeUp (file : String)
  | patronictlList (comboPrefix : String) (n : Nat)
  | mktemp
  | runFailoverTest (args : List String)
  | latestSession (comboId : String)
  | parseRunnerRows (output dir comboPrefix sessionFolder : String)
  | removeFile (path : String)
  | countSuccesses (dir : String)
  | inspectTimescaledb
  | prune (what : String)
  | batchReport
  deriving DecidableEq, Repr

structure BatchVars where
  batchStatus : List String := []
  batchSessions : List String := []
  passedCombos : Nat := 0
  stdout : String := ""
  output : String := ""
  runnerArgs : List String := []
  runnerOutput : String := ""
  runnerRc : Nat := 0
  sessionFolder : String := ""
  successCount : String := ""
  deriving DecidableEq, Repr

structure BatchConfig where
  scenario : String
  iterations : String
  interval : String
  generateReport : Bool
  batchReport : Bool

abbrev BatchScript := Cmd BatchVars BatchProgram

def assign (f : BatchVars → BatchVars) : BatchScript := .builtin fun v => (f v,true)

def test (p : BatchVars → Bool) : BatchScript := .builtin fun v => (v,p v)

/-- `true`, and what is only logged. -/
def skip : BatchScript := .builtin fun v => (v,true)

def run (program : BatchVars → BatchProgram) : BatchScript := .external program fun _ v => v

/-- A program whose failure is met by `true`, by a warning or by `set +e`. -/
def tolerate (program : BatchVars → BatchProgram) (store : Answer → BatchVars → BatchVars) :
    BatchScript :=
  .or (.external program store) skip

def print (program : BatchProgram) : BatchScript :=
  .external (fun _ => program) fun a v => { v with stdout := v.stdout ++ a.output }

section Functions

variable (cfg : BatchConfig) (combo : Combo)

def bootstrapRound : BatchScript :=
  .seq (.or (.subst
      (.seq (assign fun v => { v with stdout := "" }) <|
        .or (.or (print (.patronictlList combo.comboPrefix 1))
          (print (.patronictlList combo.comboPrefix 2)))
          (print (.patronictlList combo.comboPrefix 3)))
      fun inner v => { v with output := captured inner.stdout }) skip) <|
  .cond (test fun v => healthy v.output) (.ret true) skip

def bootstrapWait : BatchScript := .seq (.waitLoop (bootstrapRound combo)) (.ret false)

/-- `BATCH_STATUS+=(...)`, `BATCH_SESSIONS+=("")` and `return 0`. -/
def giveUp (status : String) : BatchScript :=
  .seq (assign fun v => { v with batchStatus := v.batchStatus ++ [status] }) <|
  .seq (assign fun v => { v with batchSessions := v.batchSessions ++ [""] }) (.ret true)

def composeFile : String := "dcs/consul/" ++ combo.dir ++ "/docker-compose.yml"

def checkComposeFile : BatchScript :=
  .cond (.not (run fun _ => .fileExists (composeFile combo))) (giveUp "SKIPPED") skip

def startStack : BatchScript :=
  .seq (tolerate (fun _ => .composeDown (composeFile combo)) fun _ v => v) <|
  .cond (.not (run fun _ => .composeUp (composeFile combo))) (giveUp "START_FAILED") skip

def awaitBootstrap : BatchScript :=
  .cond (.not (.call (bootstrapWait combo)))
    (.seq (tolerate (fun _ => .composeDown (composeFile combo)) fun _ v => v)
      (giveUp "BOOTSTRAP_TIMEOUT"))
    skip

/-- Steps 4 and 5. -/
def runTests : BatchScript :=
  .seq (assign fun v => { v with runnerArgs := ["--combo-id",combo.dir,"--combo-dir",combo.dir,
    "--prefix",combo.comboPrefix,"--scenario",cfg.scenario,"--iterations",cfg.iterations,
    "--interval",cfg.interval] }) <|
  .seq (.and (test fun _ => cfg.generateReport)
    (assign fun v => { v with runnerArgs := v.runnerArgs ++ ["--generate-report"] })) <|
  .seq (.external (fun _ => .mktemp) fun a v => { v with runnerOutput := captured a.output }) <|
  .seq (tolerate (fun v => .runFailoverTest v.runnerArgs) fun a v =>
    { v with runnerRc := a.status }) <|
  .and (test fun v => v.runnerRc ≠ 0) skip

/-- `${text%/}` -/
def dropSlash (text : String) : String :=
  if text.toList.getLast? = some '/' then String.ofList text.toList.dropLast else text

/-- Step 6. -/
def recordSession : BatchScript :=
  .seq (tolerate (fun _ => .latestSession combo.dir) fun a v =>
    { v with sessionFolder := captured a.output }) <|
  .seq (assign fun v => { v with sessionFolder := dropSlash v.sessionFolder }) <|
  assign fun v => { v with batchSessions := v.batchSessions ++ [v.sessionFolder] }

/-- Steps 7 and 8. -/
def countCombo : BatchScript :=
  .seq (run fun v =>
    .parseRunnerRows v.runnerOutput combo.dir combo.comboPrefix v.sessionFolder) <|
  .seq (run fun v => .removeFile v.runnerOutput) <|
  .seq (tolerate (fun _ => .countSuccesses combo.dir) fun a v =>
    { v with successCount := captured a.output }) <|
  .cond (test fun v => 0 < number v.successCount)
    (assign fun v => { v with batchStatus := v.batchStatus ++ ["PASSED"] })
    (assign fun v => { v with batchStatus := v.batchStatus ++ ["FAILED"] })

def processCombo : BatchScript :=
  .seq (checkComposeFile combo) <|
  .seq (startStack combo) <|
  .seq (awaitBootstrap combo) <|
  .seq (runTests cfg combo) <|
  .seq (recordSession combo) <|
  .seq (countCombo combo) <|
  .seq (tolerate (fun _ => .composeDown (composeFile combo)) fun _ v => v) (.ret true)

/-- Without TimescaleDB the batch is aborted with `exit 1`. -/
def cleanupBetweenCombos : BatchScript :=
  .seq (.cond (.not (run fun _ => .inspectTimescaledb)) (test fun _ => false) skip) <|
  .seq (tolerate (fun _ => .prune "container") fun _ v => v) <|
  .seq (tolerate (fun _ => .prune "image") fun _ v => v) <|
  .seq (tolerate (fun _ => .prune "network") fun _ v => v) <|
  tolerate (fun _ => .prune "volume") fun _ v => v

end Functions

section Main

variable (cfg : BatchConfig) (combos : List Combo)

def mainRound (i : Nat) : BatchScript :=
  match combos[i]? with
  | some combo =>
    .seq (.call (processCombo cfg combo)) <|
    .cond (test fun _ => i + 1 < combos.length) (.call cleanupBetweenCombos) skip
  | none => skip

def mainLoop : BatchScript := .forLoop combos.length (mainRound cfg combos)

/-- `[[ "$s" == "PASSED" ]] && (( passed_combos++ )) || true` -/
def summaryRound (i : Nat) : BatchScript :=
  .or (.and (test fun v => v.batchStatus[i]?.getD "" = "PASSED")
    (.builtin fun v => ({ v with passedCombos := v.passedCombos + 1 },v.passedCombos ≠ 0))) skip

def summary : BatchScript :=
  .seq (assign fun v => { v with passedCombos := 0 }) (.forLoop combos.length summaryRound)

def report : BatchScript :=
  .cond (test fun _ => cfg.batchReport) (.cond (run fun _ => .batchReport) skip skip) skip

def runBatch : BatchScript := .seq (mainLoop cfg combos) (.seq (summary combos) (report cfg))

/-- The exit code, from the threshold of 80 %, which is truncated. -/
def verdict (totalCombos passedCombos : Nat) : Nat :=
  if totalCombos = 0 then 1
  else if totalCombos * 80 / 100 ≤ passedCombos then 0 else 1

/-- A run of the script from the main loop on. -/
def runScript (w : World BatchProgram) : Flow × Shell BatchVars BatchProgram :=
  (runBatch cfg combos).eval w true ⟨{},[]⟩

def exitCode (w : World BatchProgram) : Option Nat :=
  if (runScript cfg combos w).1.exits then none
  else some (verdict combos.length (runScript cfg combos w).2.vars.passedCombos)

def afterRounds (w : World BatchProgram) (k : Nat) : Shell BatchVars BatchProgram :=
  ((Cmd.forLoop k (mainRound cfg combos)).eval w true ⟨{},[]⟩).2

/-- One entry for every combination, added in its round, and an exit code of 0 if and only if at
least 80 % of the combinations passed. -/
structure BatchRight (w : World BatchProgram) : Prop where
  statuses : (runScript cfg combos w).2.vars.batchStatus.length = combos.length
  sessions : (runScript cfg combos w).2.vars.batchSessions.length = combos.length
  ordered : ∀ k ≤ combos.length,
    (afterRounds cfg combos w k).vars.batchStatus =
      (runScript cfg combos w).2.vars.batchStatus.take k ∧
    (afterRounds cfg combos w k).vars.batchSessions =
      (runScript cfg combos w).2.vars.batchSessions.take k
  outcomes : ∀ status ∈ (runScript cfg combos w).2.vars.batchStatus,
    status ∈ ["SKIPPED","START_FAILED","BOOTSTRAP_TIMEOUT","FAILED","PASSED"]
  exitsZero : exitCode cfg combos w = some 0 ↔
    80 * combos.length ≤ 100 * (runScript cfg combos w).2.vars.batchStatus.count "PASSED"

/-- The combinations of which the batch's CSV file is found to have a success. -/
def successful (calls : List (Call BatchProgram)) : Nat :=
  calls.countP fun c => match c.1 with
    | .countSuccesses _ => 0 < number (captured c.2.output)
    | _ => false

end Main

end RoutingBench.Batch
