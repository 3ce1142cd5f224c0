import RoutingBench.Errexit
set_option autoImplicit false

/-!
The runner, run_failover_test.sh: its main loop, the functions the loop calls, and the table of
results. Its log messages and pauses are left out.
-/

namespace RoutingBench.Runner
open Errexit

inductive Scenario where
  | hardStop
  | hardKill
  | networkPartition
  | postgresCrash
  | switchover
  | pause
  deriving DecidableEq, Repr

def Scenario.name : Scenario → String
  | hardStop => "hard_stop"
  | hardKill => "hard_kill"
  | networkPartition => "network_partition"
  | postgresCrash => "postgres_crash"
  | switchover => "switchover"
  | pause => "pause"

/-- The containers of a combination, each name after its prefix. -/
inductive Container where
  | client
  | node (num : String)
  | vip (n : Nat)
  | obsVip (n : Nat)
  deriving DecidableEq, Repr

def Container.name (comboPrefix : String) : Container → String
  | client => comboPrefix ++ "-client"
  | node num => comboPrefix ++ "-node" ++ num
  | vip n => comboPrefix ++ "-vip" ++ toString n
  | obsVip n => comboPrefix ++ "-obs-vip" ++ toString n

/-- What is sent to TimescaleDB. -/
inductive Query where
  | steadyState
  | recovered (killTs : String)
  | downtime (killTs : String)
  | insertTestRun (id combinationId failoverType startedAt : String)
  | endTestRun (id endedAt : String)
  | tagObserverEvents (id start stop : String)
  | tagClientEvents (id start stop : String)
  deriving DecidableEq, Repr

/-- What the runner asks of programs other than the shell, and of the file system. -/
inductive Program where
  | mkdir (dir : String)
  | fileExists (path : String)
  | composeDown (file : String)
  | composeUp (file : String)
  | patronictlList (n : Nat)
  | patronictlProbe (c : Container)
  | patronictlSwitchover (leader candidate : String)
  | dockerStop (c : Container)
  | dockerStart (c : Container)
  | dockerRestart (c : Container)
  | dockerKill (c : Container)
  | dockerPause (c : Container)
  | dockerUnpause (c : Container)
  | networkDisconnect (c : Container)
  | networkConnect (c : Container)
  | killPostgres (c : Container)
  | dockerPs
  | psql (q : Query)
  | date (format : String)
  | charts (testRunId dir : String)
  deriving DecidableEq, Repr

section Text

/-- What `$(...)` takes of an output. -/
def captured (text : String) : String :=
  String.ofList (text.toList.reverse.dropWhile fun c => c = '\n').reverse

def lines (text : String) : List (List Char) := text.toList.splitOn '\n'

/-- What comes after the first place where a text occurs. -/
def after (p : List Char) : List Char → Option (List Char)
  | [] => if p = [] then some [] else none
  | c :: cs => if p.isPrefixOf (c :: cs) then some ((c :: cs).drop p.length) else after p cs

/-- `/first.*second/` -/
def followed (first second : String) (line : List Char) : Bool :=
  (after first.toList line).any fun rest => (after second.toList rest).isSome

/-- `awk '{print $2}'` -/
def secondField (line : List Char) : List Char :=
  ((line.splitOnP fun c => c = ' ' || c = '\t').filter fun field => field ≠ [])[1]?.getD []

/-- `${text##p}` -/
def dropPrefix (p text : String) : String :=
  if p.toList.isPrefixOf text.toList then String.ofList (text.toList.drop p.length) else text

/-- `${text%%|*}` and `${text##*|}` -/
def beforeBar (text : String) : String := String.ofList (text.toList.takeWhile fun c => c ≠ '|')

def afterBar (text : String) : String :=
  String.ofList (text.toList.reverse.takeWhile fun c => c ≠ '|').reverse

/-- The number psql prints; any other text is no more than 0 to `-gt`. -/
def number (text : String) : Nat :=
  if text.toList.all Char.isDigit then
    text.toList.foldl (fun n c => 10 * n + (c.toNat - '0'.toNat)) 0
  else 0

/-- The leader's column of `patronictl list`, and the number in the node's name. -/
def leaderColumn (out : String) : String :=
  captured (String.ofList (((lines out).filter fun line =>
    (after "Leader".toList line).isSome).flatMap fun line => secondField line ++ ['\n']))

def leaderNumber (out : String) : String :=
  captured (dropPrefix "patroni-node" (leaderColumn out) ++ "\n")

def replicaColumn (out : String) : String :=
  match (lines out).find? (followed "Replica" "streaming") with
  | some line => String.ofList (secondField line)
  | none => ""

def healthy (output : String) : Bool :=
  (lines output).countP (followed "Leader" "running") = 1 &&
    (lines output).countP (followed "Replica" "streaming") = 2

def orDash (text : String) : String := if text = "" then "—" else text

end Text

/-- The arrays RES_ITER to RES_STATUS. -/
structure Results where
  iter : List String := []
  scenario : List String := []
  leader : List String := []
  down : List String := []
  failed : List String := []
  runId : List String := []
  status : List String := []

structure Row where
  iter : String
  scenario : String
  leader : String
  down : String
  failed : String
  status : String
  deriving DecidableEq, Repr

/-- The line at an index; what an array does not have is empty. -/
def Results.row (r : Results) (i : Nat) : Row where
  iter := r.iter[i]?.getD ""
  scenario := r.scenario[i]?.getD ""
  leader := r.leader[i]?.getD ""
  down := r.down[i]?.getD ""
  failed := r.failed[i]?.getD ""
  status := r.status[i]?.getD ""

def Results.rows (r : Results) : List Row := (List.range r.iter.length).map r.row

/-- `table` is what is printed at the end. -/
structure Globals where
  leaderNum : String := ""
  testRunId : String := ""
  startTs : String := ""
  killTs : String := ""
  iterStatus : String := ""
  endTs : String := ""
  raw : String := ""
  downtime : String := ""
  failedQ : String := ""
  results : Results := {}
  table : Option (List Row) := none

/-- The variables of the functions, and what a subshell has printed. -/
structure Locals where
  stdout : String := ""
  output : String := ""
  out : String := ""
  leader : String := ""
  count : String := ""
  recovered : String := ""
  target : String := ""
  containers : String := ""

structure Vars where
  globals : Globals := {}
  locals : Locals := {}

structure Config where
  comboPrefix : String
  combinationId : String
  comboDir : String
  sessionDir : String
  freshCluster : Bool
  skipClientRestart : Bool
  scenarioList : List Scenario

abbrev Script := Cmd Vars Program

def assign (f : Globals → Globals) : Script :=
  .builtin fun v => ({ v with globals := f v.globals },true)

def assignLocal (f : Locals → Locals) : Script :=
  .builtin fun v => ({ v with locals := f v.locals },true)

def test (p : Vars → Bool) : Script := .builtin fun v => (v,p v)

/-- `true`, and what is only logged. -/
def skip : Script := .builtin fun v => (v,true)

def run (program : Globals → Program) : Script :=
  .external (fun v => program v.globals) fun _ v => v

def print (program : Globals → Program) : Script :=
  .external (fun v => program v.globals) fun a v =>
    { v with locals := { v.locals with stdout := v.locals.stdout ++ a.output } }

def echo (text : Locals → String) : Script :=
  assignLocal fun l => { l with stdout := l.stdout ++ text l ++ "\n" }

/-- `x=$(program)` -/
def ask (program : Globals → Program) (store : String → Globals → Globals) : Script :=
  .external (fun v => program v.globals) fun a v =>
    { v with globals := store (captured a.output) v.globals }

/-- `x=$(body)` -/
def capture (body : Script) (store : String → Vars → Vars) : Script :=
  .subst (.seq (assignLocal fun l => { l with stdout := "" }) body) fun inner v =>
    store (captured inner.locals.stdout) v

section Functions

/-- `docker exec` of one node after the other. -/
def listCluster : Script :=
  .or (.or (print fun _ => .patronictlList 1) (print fun _ => .patronictlList 2))
    (print fun _ => .patronictlList 3)

def healthRound : Script :=
  .seq (.or (capture listCluster fun text v =>
    { v with locals := { v.locals with output := text } }) skip) <|
  .cond (test fun v => healthy v.locals.output) (.ret true) skip

def waitForClusterHealthy : Script := .seq (.waitLoop healthRound) (.ret false)

def leaderRound (n : Nat) : Script :=
  .seq (.or (capture (print fun _ => .patronictlList n) fun text v =>
    { v with locals := { v.locals with out := text } }) .next) <|
  .seq (assignLocal fun l => { l with leader := leaderColumn l.out }) <|
  .cond (test fun v => v.locals.leader ≠ "")
    (.seq (echo fun l => dropPrefix "patroni-node" l.leader) (.ret true)) skip

def findLeader : Script := .seq (.forLoop 3 fun k => leaderRound (k + 1)) (.ret false)

def steadyRound : Script :=
  .seq (capture (.or (print fun _ => .psql .steadyState) (echo fun _ => "0")) fun text v =>
    { v with locals := { v.locals with count := text } }) <|
  .cond (test fun v => 20 < number v.locals.count) (.ret true) skip

def waitForSteadyState : Script := .seq (.forLoop 3 fun _ => steadyRound) skip

def recoveryRound : Script :=
  .seq (capture (.or (print fun g => .psql (.recovered g.killTs)) (echo fun _ => "0"))
    fun text v => { v with locals := { v.locals with recovered := text } }) <|
  .cond (test fun v => 5 < number v.locals.recovered) (.ret true) skip

def waitForRecovery : Script := .seq (.waitLoop recoveryRound) (.ret false)

def measureDowntime : Script := .or (print fun g => .psql (.downtime g.killTs)) skip

def victim (g : Globals) : Container := .node g.leaderNum

/-- `${victim##*-node}` -/
def victimNumber (comboPrefix : String) (g : Globals) : String :=
  let name := ((victim g).name comboPrefix).toList.reverse
  let last := (List.range (name.length + 1)).find? fun n => "edon-".toList.isPrefixOf (name.drop n)
  String.ofList (name.take (last.getD name.length)).reverse

def injectFailure (cfg : Config) : Scenario → Script
  | .hardStop => run fun g => .dockerStop (victim g)
  | .hardKill => run fun g => .dockerKill (victim g)
  | .networkPartition => run fun g => .networkDisconnect (victim g)
  | .postgresCrash => .or (run fun g => .killPostgres (victim g)) skip
  | .switchover =>
    .seq (capture (.seq (print fun _ => .patronictlList 1)
        (assignLocal fun l => { l with stdout := replicaColumn l.stdout }))
      fun text v => { v with locals := { v.locals with target := text } }) <|
    .seq (.cond (test fun v => v.locals.target = "") (.ret false) skip) <|
    .external (fun v => .patronictlSwitchover
      ("patroni-node" ++ victimNumber cfg.comboPrefix v.globals) v.locals.target) fun _ v => v
  | .pause => run fun g => .dockerPause (victim g)

/-- `docker ps -a | grep -q "^name$"`, under pipefail. -/
def hasContainer (cfg : Config) (c : Container) : Script :=
  .and (.external (fun _ => .dockerPs) fun a v =>
      { v with locals := { v.locals with containers := a.output } })
    (test fun v => (lines v.locals.containers).contains (c.name cfg.comboPrefix).toList)

def restartSidecars (cfg : Config) : Script :=
  .forLoop 3 fun n => .forLoop 2 fun k =>
    let sidecar : Container := if k = 0 then .vip (n + 1) else .obsVip (n + 1)
    .cond (hasContainer cfg sidecar) (.or (run fun _ => .dockerRestart sidecar) skip) skip

def recoverNode (cfg : Config) (scenario : Scenario) (iterNum total : Nat) : Script :=
  .seq (match scenario with
    | .hardStop => run fun g => .dockerStart (victim g)
    | .hardKill => run fun g => .dockerStart (victim g)
    | .networkPartition => run fun g => .networkConnect (victim g)
    | .postgresCrash => .cond (.not (run fun g => .patronictlProbe (victim g)))
        (run fun g => .dockerRestart (victim g)) skip
    | .switchover => skip
    | .pause => run fun g => .dockerUnpause (victim g)) <|
  .seq (restartSidecars cfg) <|
  .cond (test fun _ => iterNum < total)
    (.seq (.or (.call waitForClusterHealthy) (.ret false)) <|
      .cond (.call waitForClusterHealthy) skip skip)
    skip

def composeFile (cfg : Config) : String := "dcs/consul/" ++ cfg.comboDir ++ "/docker-compose.yml"

def freshClusterCycle (cfg : Config) : Script :=
  .seq (.cond (.not (run fun _ => .fileExists (composeFile cfg))) (.ret false) skip) <|
  .seq (.or (run fun _ => .composeDown (composeFile cfg)) skip) <|
  .seq (.or (run fun _ => .composeUp (composeFile cfg)) (.ret false)) skip

end Functions

section Loop

def Results.add (r : Results) (row : Row) (runId : String) : Results where
  iter := r.iter ++ [row.iter]
  scenario := r.scenario ++ [row.scenario]
  leader := r.leader ++ [row.leader]
  down := r.down ++ [row.down]
  failed := r.failed ++ [row.failed]
  runId := r.runId ++ [runId]
  status := r.status ++ [row.status]

def record (row : Globals → Row) (runId : Globals → String) : Script :=
  assign fun g => { g with results := g.results.add (row g) (runId g) }

variable (cfg : Config) (iterNum : Nat) (scenario : Scenario)

def bareRow (leader status : String) : Row where
  iter := toString iterNum
  scenario := scenario.name
  leader := leader
  down := "—"
  failed := "—"
  status := status

def iterDir : String :=
  cfg.sessionDir ++ "/iter" ++ toString iterNum ++ "_" ++ scenario.name

/-- `if ! p; then RES_ITER+=…; continue; fi` -/
def skipUnless (p : Script) (row : Globals → Row) (runId : Globals → String) : Script :=
  .cond (.not p) (.seq (record row runId) .next) skip

def unhealthyUnless (p : Script) : Script :=
  skipUnless p (fun _ => bareRow iterNum scenario "—" "CLUSTER_UNHEALTHY") fun _ => ""

/-- Step 0. -/
def checkCluster : Script :=
  .seq (.cond (test fun _ => cfg.freshCluster)
    (unhealthyUnless iterNum scenario (.call (freshClusterCycle cfg))) skip) <|
  unhealthyUnless iterNum scenario (.call waitForClusterHealthy)

/-- Step 1. -/
def findVictim : Script :=
  skipUnless (capture (.call findLeader) fun text v =>
      { v with globals := { v.globals with leaderNum := text } })
    (fun _ => bareRow iterNum scenario "—" "ERROR") fun _ => ""

/-- Step 2. -/
def restartClient : Script :=
  .cond (test fun _ => cfg.skipClientRestart) (run fun _ => .dockerRestart .client) <|
    .seq (.or (run fun _ => .dockerStop .client) skip) <|
    .seq (run fun _ => .dockerStart .client) (.call waitForSteadyState)

/-- Step 3. -/
def registerTestRun : Script :=
  .seq (ask (fun _ => .date "+%Y%m%d_%H%M%S") fun text g =>
    { g with testRunId := cfg.combinationId ++ "_" ++ text }) <|
  .seq (ask (fun _ => .date "-u +%Y-%m-%dT%H:%M:%S.%N+00:00") fun text g =>
    { g with startTs := text }) <|
  .or (run fun g => .psql (.insertTestRun g.testRunId cfg.combinationId scenario.name g.startTs))
    skip

/-- Step 4. -/
def failVictim : Script :=
  .seq (ask (fun _ => .date "-u +%Y-%m-%dT%H:%M:%S+00:00") fun text g =>
    { g with killTs := text }) <|
  skipUnless (.call (injectFailure cfg scenario))
    (fun g => bareRow iterNum scenario ("node" ++ g.leaderNum) "SKIPPED") fun g => g.testRunId

/-- Steps 5 and 6. -/
def awaitRecovery : Script :=
  .seq (assign fun g => { g with iterStatus := "TIMEOUT" }) <|
  .seq (.cond (.call waitForRecovery) (assign fun g => { g with iterStatus := "SUCCESS" }) skip) <|
  .cond (.not (test fun _ => cfg.skipClientRestart)) (.or (run fun _ => .dockerStop .client) skip)
    skip

/-- Step 7. -/
def tagEvents : Script :=
  .seq (ask (fun _ => .date "-u +%Y-%m-%dT%H:%M:%S.%N+00:00") fun text g =>
    { g with endTs := text }) <|
  .seq (.or (run fun g => .psql (.endTestRun g.testRunId g.endTs)) skip) <|
  .seq (.or (run fun g => .psql (.tagObserverEvents g.testRunId g.startTs g.endTs)) skip) <|
  .or (run fun g => .psql (.tagClientEvents g.testRunId g.startTs g.endTs)) skip

/-- Step 8. -/
def measure : Script :=
  .seq (capture (.call measureDowntime) fun text v =>
    { v with globals := { v.globals with raw := text } }) <|
  .seq (assign fun g => { g with downtime := beforeBar g.raw, failedQ := afterBar g.raw }) <|
  .seq (.and (test fun v => v.globals.downtime = "")
    (assign fun g => { g with downtime := "—" })) <|
  .seq (.and (test fun v => v.globals.failedQ = "")
    (assign fun g => { g with failedQ := "—" })) <|
  record (fun g => {
      iter := toString iterNum
      scenario := scenario.name
      leader := "node" ++ g.leaderNum
      down := g.downtime
      failed := g.failedQ
      status := g.iterStatus }) fun g => g.testRunId

/-- Steps 8a and 9. -/
def recover (total : Nat) : Script :=
  .seq (.cond (test fun v => v.globals.iterStatus = "SUCCESS")
    (.cond (run fun g => .charts g.testRunId
      ("/results/" ++ dropPrefix "runner/results/" (iterDir cfg iterNum scenario))) skip skip)
    skip) <|
  .or (.call (recoverNode cfg scenario iterNum total)) skip

def iteration (total : Nat) : Script :=
  .seq (run fun _ => .mkdir (iterDir cfg iterNum scenario)) <|
  .seq (checkCluster cfg iterNum scenario) <|
  .seq (findVictim iterNum scenario) <|
  .seq (restartClient cfg) <|
  .seq (registerTestRun cfg scenario) <|
  .seq (failVictim cfg iterNum scenario) <|
  .seq (awaitRecovery cfg) <|
  .seq tagEvents <|
  .seq (measure iterNum scenario) <|
  recover cfg iterNum scenario total

def printTable : Script := assign fun g => { g with table := some g.results.rows }

def mainRound (i : Nat) : Script :=
  match cfg.scenarioList[i]? with
  | some scenario => iteration cfg (i + 1) scenario cfg.scenarioList.length
  | none => skip

/-- The main loop and the table. -/
def runFailoverTest : Script := .seq (.forLoop cfg.scenarioList.length (mainRound cfg)) printTable

/-- A run of the script from the main loop on. -/
def runScript (w : World Program) : Flow × Shell Vars Program :=
  (runFailoverTest cfg).eval w true ⟨{},[]⟩

end Loop

end RoutingBench.Runner
