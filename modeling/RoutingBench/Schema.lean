import Mathlib.Data.List.Nodup
set_option autoImplicit false

/-!
The tables of the TimescaleDB schema and the statements that write them. Every
statement is autocommitted, so its effect is one step of the database.
-/

namespace RoutingBench

/-- Microseconds since the Unix epoch, the resolution of TIMESTAMPTZ. -/
abbrev Timestamp := Int

structure TestRun where
  id : String
  combinationId : String
  dcs : String := "consul"
  provider : String := "local"
  startedAt : Timestamp
  endedAt : Option Timestamp := none
  failoverType : Option String := none
  deriving DecidableEq, Repr

structure ObserverEvent where
  ts : Timestamp
  combinationId : String
  testRunId : String
  component : String
  node : String
  eventType : String
  oldValue : Option String
  newValue : String
  detail : Option String
  deriving DecidableEq, Repr

structure ClientEvent where
  ts : Timestamp
  combinationId : String
  testRunId : String
  sequence : Nat
  success : Bool
  latencyUs : Nat
  error : String
  deriving DecidableEq, Repr

def hardStopRun (id : String) (startedAt : Timestamp) : TestRun where
  id := id
  combinationId := "06"
  startedAt := startedAt
  failoverType := some "hard_stop"

/-- A query that is answered after 2.5 ms, or refused. -/
def heartbeatRow (combinationId testRunId : String) (ts : Timestamp) (sequence : Nat)
    (success : Bool) : ClientEvent where
  ts := ts
  combinationId := combinationId
  testRunId := testRunId
  sequence := sequence
  success := success
  latencyUs := 2500
  error := if success then "" else "refused"

/-- What an INSERT into observer_events carries; unlike in a row of the table, the
new value can be missing. -/
structure ObserverValues where
  ts : Timestamp
  combinationId : String
  testRunId : String
  component : String
  node : String
  eventType : String
  oldValue : Option String
  newValue : Option String
  detail : Option String
  deriving DecidableEq, Repr

/-- A text column cannot hold the character NUL. -/
def storable (text : String) : Bool := !text.toList.contains '\x00'

def ObserverValues.texts (v : ObserverValues) : List String :=
  [v.combinationId,v.testRunId,v.component,v.node,v.eventType] ++
    v.oldValue.toList ++ v.newValue.toList ++ v.detail.toList

def ObserverValues.row (v : ObserverValues) : Option ObserverEvent :=
  if v.texts.all storable then
    v.newValue.map fun newValue =>
      { ts := v.ts, combinationId := v.combinationId, testRunId := v.testRunId
        component := v.component, node := v.node, eventType := v.eventType
        oldValue := v.oldValue, newValue := newValue, detail := v.detail }
  else none

structure Database where
  testRuns : List TestRun
  observerEvents : List ObserverEvent
  clientEvents : List ClientEvent
  primaryKey : (testRuns.map TestRun.id).Nodup

def Database.empty : Database := ⟨[],[],[],List.nodup_nil⟩

inductive Statement where
  | insertTestRun : TestRun → Statement
  | insertObserverEvent : ObserverValues → Statement
  | insertClientEvent : ClientEvent → Statement
  | tagObserverEvents (testRunId : String) (start stop : Timestamp)
  | tagClientEvents (testRunId : String) (start stop : Timestamp)
  | setEndedAt (testRunId : String) (endedAt : Timestamp)
  deriving DecidableEq, Repr

/-- SET test_run_id WHERE ts BETWEEN start AND stop AND (test_run_id IS NULL OR
test_run_id = ''); the column is NOT NULL. -/
def newTestRunId (testRunId : String) (start stop ts : Timestamp) (old : String) : String :=
  if (start ≤ ts ∧ ts ≤ stop) ∧ old = "" then testRunId else old

def ObserverEvent.tag (testRunId : String) (start stop : Timestamp) (r : ObserverEvent) :
    ObserverEvent :=
  { r with testRunId := newTestRunId testRunId start stop r.ts r.testRunId }

def ClientEvent.tag (testRunId : String) (start stop : Timestamp) (r : ClientEvent) :
    ClientEvent :=
  { r with testRunId := newTestRunId testRunId start stop r.ts r.testRunId }

def TestRun.setEndedAt (testRunId : String) (endedAt : Timestamp) (r : TestRun) : TestRun :=
  if r.id = testRunId then { r with endedAt := some endedAt } else r

@[simp] theorem TestRun.setEndedAt_id (testRunId : String) (endedAt : Timestamp) (r : TestRun) :
    (r.setEndedAt testRunId endedAt).id = r.id := by
  unfold setEndedAt; split <;> rfl

@[simp] theorem TestRun.setEndedAt_combinationId (testRunId : String) (endedAt : Timestamp)
    (r : TestRun) : (r.setEndedAt testRunId endedAt).combinationId = r.combinationId := by
  unfold setEndedAt; split <;> rfl

/-- `none` is a statement the database refuses: a duplicate key, a missing NOT NULL
value or a text it cannot store. -/
def Database.exec (db : Database) : Statement → Option Database
  | .insertTestRun r =>
    if h : r.id ∈ db.testRuns.map TestRun.id then none
    else some { db with
      testRuns := db.testRuns ++ [r]
      primaryKey := by
        rw [List.map_append,List.nodup_append]
        refine ⟨db.primaryKey,by simp,?_⟩
        rintro a ha b hb rfl
        obtain rfl : a = r.id := by simpa using hb
        exact h ha }
  | .insertObserverEvent v =>
    v.row.map fun r => { db with observerEvents := db.observerEvents ++ [r] }
  | .insertClientEvent r =>
    if storable r.error then some { db with clientEvents := db.clientEvents ++ [r] } else none
  | .tagObserverEvents testRunId start stop =>
    some { db with
      observerEvents := db.observerEvents.map (ObserverEvent.tag testRunId start stop) }
  | .tagClientEvents testRunId start stop =>
    some { db with
      clientEvents := db.clientEvents.map (ClientEvent.tag testRunId start stop) }
  | .setEndedAt testRunId endedAt =>
    some { db with
      testRuns := db.testRuns.map (TestRun.setEndedAt testRunId endedAt)
      primaryKey := by
        have h : db.testRuns.map (TestRun.id ∘ TestRun.setEndedAt testRunId endedAt) =
            db.testRuns.map TestRun.id := List.map_congr_left fun r _ => by simp
        rw [List.map_map,h]
        exact db.primaryKey }

/-- A statement whose failure the caller swallows. -/
def Database.attempt (db : Database) (s : Statement) : Database := (db.exec s).getD db

section Effects

variable {db db' : Database}

theorem exec_insertTestRun {r : TestRun} (h : db.exec (.insertTestRun r) = some db') :
    r.id ∉ db.testRuns.map TestRun.id ∧ db'.testRuns = db.testRuns ++ [r] ∧
      db'.observerEvents = db.observerEvents ∧ db'.clientEvents = db.clientEvents := by
  simp only [Database.exec] at h
  split at h
  next => contradiction
  next hr =>
    obtain rfl := Option.some.inj h
    exact ⟨hr,rfl,rfl,rfl⟩

theorem attempt_insertTestRun (db : Database) (r : TestRun) :
    (r.id ∉ db.testRuns.map TestRun.id ∧
        (db.attempt (.insertTestRun r)).testRuns = db.testRuns ++ [r]) ∨
      (r.id ∈ db.testRuns.map TestRun.id ∧ db.attempt (.insertTestRun r) = db) := by
  unfold Database.attempt
  cases h : db.exec (.insertTestRun r) with
  | none =>
    simp only [Database.exec] at h
    split at h
    next hmem => exact .inr ⟨hmem,rfl⟩
    next => contradiction
  | some db' =>
    obtain ⟨hmem,htr,-⟩ := exec_insertTestRun h
    exact .inl ⟨hmem,htr⟩

theorem exec_insertObserverEvent {v : ObserverValues}
    (h : db.exec (.insertObserverEvent v) = some db') :
    ∃ r, v.row = some r ∧ db'.observerEvents = db.observerEvents ++ [r] ∧
      db'.testRuns = db.testRuns ∧ db'.clientEvents = db.clientEvents := by
  obtain ⟨r,hr,rfl⟩ := Option.map_eq_some_iff.mp h
  exact ⟨r,hr,rfl,rfl,rfl⟩

theorem exec_insertClientEvent {r : ClientEvent}
    (h : db.exec (.insertClientEvent r) = some db') :
    db'.clientEvents = db.clientEvents ++ [r] ∧ db'.testRuns = db.testRuns ∧
      db'.observerEvents = db.observerEvents := by
  simp only [Database.exec] at h
  split at h
  next =>
    obtain rfl := Option.some.inj h
    exact ⟨rfl,rfl,rfl⟩
  next => contradiction

theorem row_fields {v : ObserverValues} {r : ObserverEvent} (h : v.row = some r) :
    r.ts = v.ts ∧ r.combinationId = v.combinationId ∧ r.testRunId = v.testRunId := by
  unfold ObserverValues.row at h
  split at h
  next =>
    obtain ⟨n,-,rfl⟩ := Option.map_eq_some_iff.mp h
    exact ⟨rfl,rfl,rfl⟩
  next => contradiction

end Effects

section Tagging

variable {testRunId old : String} {start stop ts : Timestamp}

theorem newTestRunId_of_tagged (h : old ≠ "") :
    newTestRunId testRunId start stop ts old = old := by
  simp [newTestRunId,h]

theorem newTestRunId_within (hw : start ≤ ts ∧ ts ≤ stop)
    (hold : old = "" ∨ old = testRunId) :
    newTestRunId testRunId start stop ts old = testRunId := by
  unfold newTestRunId
  rcases hold with rfl | rfl
  · rw [if_pos ⟨hw,rfl⟩]
  · split <;> rfl

theorem newTestRunId_cases (testRunId : String) (start stop ts : Timestamp) (old : String) :
    newTestRunId testRunId start stop ts old = old ∨
      ((start ≤ ts ∧ ts ≤ stop) ∧ old = "" ∧
        newTestRunId testRunId start stop ts old = testRunId) := by
  unfold newTestRunId
  split
  next h => exact .inr ⟨h.1,h.2,rfl⟩
  next => exact .inl rfl

theorem newTestRunId_eq_iff (hw : start ≤ ts ∧ ts ≤ stop) :
    newTestRunId testRunId start stop ts old = testRunId ↔ old = "" ∨ old = testRunId := by
  constructor
  · intro h
    rcases newTestRunId_cases testRunId start stop ts old with heq | ⟨-,hold,-⟩
    · exact .inr (heq ▸ h)
    · exact .inl hold
  · exact newTestRunId_within hw

/-- Where the UPDATE of another run leaves no id but the own one: where it finds none else
and has nothing to tag. -/
theorem newTestRunId_own_iff {own : String} (hid : testRunId ≠ "") :
    newTestRunId testRunId start stop ts old = "" ∨
        newTestRunId testRunId start stop ts old = own ↔
      (old = "" ∨ old = own) ∧
        (testRunId ≠ own → start ≤ ts ∧ ts ≤ stop → old ≠ "") := by
  rcases newTestRunId_cases testRunId start stop ts old with heq | ⟨hw,rfl,heq⟩
  · rw [heq]
    constructor
    · intro hold
      refine ⟨hold,fun _ hw hempty => hid ?_⟩
      have htagged : newTestRunId testRunId start stop ts old = testRunId :=
        newTestRunId_within hw (.inl hempty)
      rw [← htagged,heq,hempty]
    · exact fun h => h.1
  · rw [heq]
    constructor
    · exact fun h => ⟨.inl rfl,fun hne => absurd (h.resolve_left hid) hne⟩
    · intro h
      by_contra hne
      exact h.2 (fun hown => hne (.inr hown)) hw rfl

end Tagging

end RoutingBench
