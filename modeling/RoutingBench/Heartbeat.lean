import RoutingBench.Calendar
import RoutingBench.Runs
import RoutingBench.Schema
set_option autoImplicit false

/-!
The heartbeat client: its query loop, the detector that opens and closes test runs by
itself, and the flush of its results. A step ends where the client talks to the database,
so that everything another program does can fall between two steps.
-/

namespace RoutingBench
open Calendar

/-- Result of a single heartbeat query attempt. -/
structure QueryResult where
  wallTs : Timestamp
  monoNs : Nat
  success : Bool
  latencyUs : Nat
  error : String := ""
  sequence : Nat := 0
  deriving DecidableEq, Repr

/-- What a query attempt meets: the clocks and the text of the exception, if one is raised. -/
structure Outcome where
  wallTs : Timestamp
  monoStart : Nat
  monoEnd : Nat
  exception : Option String
  deriving DecidableEq, Repr

structure HeartbeatClient where
  timescaleConnstring : String
  combinationId : String
  testRunId : String
  running : Bool := true
  sequence : Nat := 0
  results : List QueryResult := []
  batchSize : Nat := 50
  autoTestRun : Bool
  inFailover : Bool := false
  currentTestRunId : String
  failoverStartTs : Option Timestamp := none
  consecutiveSuccesses : Nat := 0
  failoverCount : Nat := 0
  deriving DecidableEq, Repr

/-- The client of an environment; without an explicit id it detects test runs itself. -/
def HeartbeatClient.init (timescaleConnstring combinationId testRunId : String) :
    HeartbeatClient where
  timescaleConnstring := timescaleConnstring
  combinationId := combinationId
  testRunId := testRunId
  autoTestRun := testRunId = ""
  currentTestRunId := testRunId

/-- The result `_attempt_query` returns; the sequence number has been counted up before. -/
def queryResult (sequence : Nat) (o : Outcome) : QueryResult where
  wallTs := o.wallTs
  monoNs := o.monoStart
  success := o.exception.isNone
  latencyUs := (o.monoEnd - o.monoStart) / 1000
  error := match o.exception with
    | none => ""
    | some e => String.ofList (e.toList.take 500)
  sequence := sequence

/-- A database call of the detector. Each opens its own connection, and a call that raises
is only logged. -/
inductive DbCall where
  | register : TestRun → DbCall
  | tag (testRunId : String) (start : Timestamp) (stop : Timestamp)
  | summary (testRunId : String)
  deriving DecidableEq, Repr

def DbCall.statement : DbCall → Option Statement
  | .register r => some (.insertTestRun r)
  | .tag testRunId start stop => some (.tagObserverEvents testRunId start stop)
  | .summary _ => none

def generateTestRunId (combinationId : String) (ts : Timestamp) : String :=
  combinationId ++ "_" ++ (DateTime.ofSeconds (ts / 1000000)).strftime

def registration (combinationId : String) (ts : Timestamp) : TestRun where
  id := generateTestRunId combinationId ts
  combinationId := combinationId
  dcs := "consul"
  provider := "auto"
  failoverType := some "unknown"
  startedAt := ts

/-- `_handle_auto_test_run`: the new state and the database calls it makes, in order. -/
def HeartbeatClient.handleAutoTestRun (self : HeartbeatClient) (result : QueryResult) :
    HeartbeatClient × List DbCall :=
  if !self.autoTestRun then (self,[])
  else if result.success then
    let self := { self with consecutiveSuccesses := self.consecutiveSuccesses + 1 }
    if self.inFailover && 3 ≤ self.consecutiveSuccesses then
      ({ self with inFailover := false },
        (self.failoverStartTs.map fun start =>
          .tag self.currentTestRunId start result.wallTs).toList ++
        [.summary self.currentTestRunId])
    else (self,[])
  else
    let self := { self with consecutiveSuccesses := 0 }
    if !self.inFailover then
      let testRunId := generateTestRunId self.combinationId result.wallTs
      ({ self with
          inFailover := true
          failoverCount := self.failoverCount + 1
          failoverStartTs := some result.wallTs
          currentTestRunId := testRunId
          testRunId := testRunId },
        [.register (registration self.combinationId result.wallTs)])
    else (self,[])

/-- The row `_flush_results` inserts for a result: the ids are read when it is inserted. -/
def HeartbeatClient.row (self : HeartbeatClient) (r : QueryResult) : ClientEvent where
  ts := r.wallTs
  combinationId := self.combinationId
  testRunId := self.testRunId
  sequence := r.sequence
  success := r.success
  latencyUs := r.latencyUs
  error := r.error

/-- Where the client is: at the top of its loop, in the database calls of the detector, in
a flush that has inserted so many of the results, the final one or not, and done. -/
inductive ClientPhase where
  | loop
  | calling (calls : List DbCall)
  | flushing (inserted : Nat) (final : Bool)
  | stopped
  deriving DecidableEq, Repr

def afterFlush (final : Bool) : ClientPhase := if final then .stopped else .loop

/-- `attempts` records the result of every attempted query. -/
structure ClientProc where
  self : HeartbeatClient
  phase : ClientPhase
  attempts : List QueryResult
  deriving DecidableEq, Repr

def ClientProc.start (self : HeartbeatClient) : ClientProc := ⟨self,.loop,[]⟩

inductive ClientAction where
  | attempt : Outcome → ClientAction
  | callOk
  | callFail
  | checkBatch
  | insertRow
  | flushFail
  | flushDone
  | shutdown
  | exit
  deriving DecidableEq, Repr

/-- Up to the first INSERT of `_flush_results`. -/
def ClientProc.flushResults (p : ClientProc) (final : Bool) : ClientProc :=
  if p.self.results = [] ∨ p.self.timescaleConnstring = "" then
    { p with self := { p.self with results := [] }, phase := afterFlush final }
  else { p with phase := .flushing 0 final }

/-- The counted attempt and its appended result, before the detector sees it. -/
def HeartbeatClient.appendResult (self : HeartbeatClient) (result : QueryResult) :
    HeartbeatClient :=
  { self with sequence := self.sequence + 1, results := self.results ++ [result] }

def ClientProc.attempt (p : ClientProc) (o : Outcome) : ClientProc :=
  let result := queryResult (p.self.sequence + 1) o
  let handled := (p.self.appendResult result).handleAutoTestRun result
  { self := handled.1, phase := .calling handled.2, attempts := p.attempts ++ [result] }

/-- One step of the client, with the statement it sends. -/
def ClientProc.step (p : ClientProc) : ClientAction → Option (ClientProc × Option Statement)
  | .attempt o =>
    match p.phase with
    | .loop => if p.self.running then some (p.attempt o,none) else none
    | _ => none
  | .callOk =>
    match p.phase with
    | .calling (c :: calls) => some ({ p with phase := .calling calls },c.statement)
    | _ => none
  -- The connection is refused, or it is lost before the statement.
  | .callFail =>
    match p.phase with
    | .calling (_ :: calls) => some ({ p with phase := .calling calls },none)
    | _ => none
  | .checkBatch =>
    match p.phase with
    | .calling [] =>
      if p.self.batchSize ≤ p.self.results.length then some (p.flushResults false,none)
      else some ({ p with phase := .loop },none)
    | _ => none
  | .insertRow =>
    match p.phase with
    | .flushing inserted final =>
      (p.self.results[inserted]?).map fun r =>
        ({ p with phase := .flushing (inserted + 1) final },
          some (.insertClientEvent (p.self.row r)))
    | _ => none
  | .flushFail =>
    match p.phase with
    | .flushing _ final => some ({ p with phase := afterFlush final },none)
    | _ => none
  | .flushDone =>
    match p.phase with
    | .flushing inserted final =>
      if inserted = p.self.results.length then
        some ({ p with self := { p.self with results := [] }, phase := afterFlush final },none)
      else none
    | _ => none
  | .shutdown => some ({ p with self := { p.self with running := false } },none)
  | .exit =>
    match p.phase with
    | .loop => if p.self.running then none else some (p.flushResults true,none)
    | _ => none

structure ClientSession where
  proc : ClientProc
  db : Database

def ClientSession.start (self : HeartbeatClient) (db : Database) : ClientSession :=
  ⟨.start self,db⟩

/-- The INSERT of a result is a step of the flush only if it succeeds; one that raises is a
`flushFail`. What happens to a call of the detector does not matter to the client. -/
def ClientSession.step (s : ClientSession) (a : ClientAction) : Option ClientSession :=
  match s.proc.step a with
  | none => none
  | some (p,none) => some ⟨p,s.db⟩
  | some (p,some (.insertClientEvent r)) =>
    (s.db.exec (.insertClientEvent r)).map fun db => ⟨p,db⟩
  | some (p,some st) => some ⟨p,s.db.attempt st⟩

def ClientPhase.calls : ClientPhase → List DbCall
  | .calling calls => calls
  | _ => []

@[simp] theorem ClientPhase.calls_calling (calls : List DbCall) :
    (calling calls).calls = calls := rfl

@[simp] theorem ClientPhase.calls_flushing (inserted : Nat) (final : Bool) :
    (flushing inserted final).calls = [] := rfl

@[simp] theorem afterFlush_calls (final : Bool) : (afterFlush final).calls = [] := by
  cases final <;> rfl

section Steps

variable {p p' : ClientProc} {out : Option Statement}

theorem flushResults_cases (p : ClientProc) (final : Bool) :
    ((p.self.results = [] ∨ p.self.timescaleConnstring = "") ∧ p.flushResults final =
      { p with self := { p.self with results := [] }, phase := afterFlush final }) ∨
    (p.self.results ≠ [] ∧ p.self.timescaleConnstring ≠ "" ∧
      p.flushResults final = { p with phase := .flushing 0 final }) := by
  unfold ClientProc.flushResults
  split
  next h => exact .inl ⟨h,rfl⟩
  next h => exact .inr ⟨fun hr => h (.inl hr),fun hc => h (.inr hc),rfl⟩

theorem client_attempt {o : Outcome} (h : p.step (.attempt o) = some (p',out)) :
    p.phase = .loop ∧ p.self.running = true ∧ out = none ∧ p' = p.attempt o := by
  cases hph : p.phase <;> simp [ClientProc.step,hph] at h
  obtain ⟨hr,rfl,rfl⟩ := h
  exact ⟨rfl,hr,rfl,rfl⟩

theorem client_callOk (h : p.step .callOk = some (p',out)) :
    ∃ c calls, p.phase = .calling (c :: calls) ∧ out = c.statement ∧
      p' = { p with phase := .calling calls } := by
  cases hph : p.phase with
  | calling calls =>
    cases calls with
    | nil => simp [ClientProc.step,hph] at h
    | cons c calls =>
      simp [ClientProc.step,hph] at h
      obtain ⟨rfl,rfl⟩ := h
      exact ⟨c,calls,rfl,rfl,rfl⟩
  | _ => simp [ClientProc.step,hph] at h

theorem client_callFail (h : p.step .callFail = some (p',out)) :
    ∃ c calls, p.phase = .calling (c :: calls) ∧ out = none ∧
      p' = { p with phase := .calling calls } := by
  cases hph : p.phase with
  | calling calls =>
    cases calls with
    | nil => simp [ClientProc.step,hph] at h
    | cons c calls =>
      simp [ClientProc.step,hph] at h
      obtain ⟨rfl,rfl⟩ := h
      exact ⟨c,calls,rfl,rfl,rfl⟩
  | _ => simp [ClientProc.step,hph] at h

theorem client_checkBatch (h : p.step .checkBatch = some (p',out)) :
    p.phase = .calling [] ∧ out = none ∧
      ((p.self.batchSize ≤ p.self.results.length ∧ p' = p.flushResults false) ∨
        (p.self.results.length < p.self.batchSize ∧ p' = { p with phase := .loop })) := by
  cases hph : p.phase with
  | calling calls =>
    cases calls with
    | nil =>
      by_cases hb : p.self.batchSize ≤ p.self.results.length
      · simp [ClientProc.step,hph,hb] at h
        obtain ⟨rfl,rfl⟩ := h
        exact ⟨rfl,rfl,.inl ⟨hb,rfl⟩⟩
      · simp [ClientProc.step,hph,hb] at h
        obtain ⟨rfl,rfl⟩ := h
        exact ⟨rfl,rfl,.inr ⟨by omega,rfl⟩⟩
    | cons c calls => simp [ClientProc.step,hph] at h
  | _ => simp [ClientProc.step,hph] at h

theorem client_insertRow (h : p.step .insertRow = some (p',out)) :
    ∃ r inserted final, p.phase = .flushing inserted final ∧ p.self.results[inserted]? = some r ∧
      out = some (.insertClientEvent (p.self.row r)) ∧
      p' = { p with phase := .flushing (inserted + 1) final } := by
  cases hph : p.phase <;> simp [ClientProc.step,hph] at h
  next inserted final =>
    obtain ⟨r,hr,rfl,rfl⟩ := h
    exact ⟨r,inserted,final,rfl,hr,rfl,rfl⟩

theorem client_flushFail (h : p.step .flushFail = some (p',out)) :
    ∃ inserted final, p.phase = .flushing inserted final ∧ out = none ∧
      p' = { p with phase := afterFlush final } := by
  cases hph : p.phase <;> simp [ClientProc.step,hph] at h
  next inserted final =>
    obtain ⟨rfl,rfl⟩ := h
    exact ⟨inserted,final,rfl,rfl,rfl⟩

theorem client_flushDone (h : p.step .flushDone = some (p',out)) :
    ∃ final, p.phase = .flushing p.self.results.length final ∧ out = none ∧
      p' = { p with self := { p.self with results := [] }, phase := afterFlush final } := by
  cases hph : p.phase <;> simp [ClientProc.step,hph] at h
  next inserted final =>
    obtain ⟨rfl,rfl,rfl⟩ := h
    exact ⟨final,rfl,rfl,rfl⟩

theorem client_shutdown (h : p.step .shutdown = some (p',out)) :
    out = none ∧ p' = { p with self := { p.self with running := false } } := by
  simp [ClientProc.step] at h
  exact ⟨h.2.symm,h.1.symm⟩

theorem client_exit (h : p.step .exit = some (p',out)) :
    p.phase = .loop ∧ p.self.running = false ∧ out = none ∧ p' = p.flushResults true := by
  cases hph : p.phase <;> simp [ClientProc.step,hph] at h
  obtain ⟨hr,rfl,rfl⟩ := h
  exact ⟨rfl,hr,rfl,rfl⟩

theorem client_quiet {a : ClientAction} (h : p.step a = some (p',out)) (hi : a ≠ .insertRow)
    (hc : a ≠ .callOk) : out = none := by
  cases a with
  | insertRow => contradiction
  | callOk => contradiction
  | attempt o => exact (client_attempt h).2.2.1
  | callFail => obtain ⟨_,_,-,hout,-⟩ := client_callFail h; exact hout
  | checkBatch => exact (client_checkBatch h).2.1
  | flushFail => obtain ⟨_,_,-,hout,-⟩ := client_flushFail h; exact hout
  | flushDone => obtain ⟨_,-,hout,-⟩ := client_flushDone h; exact hout
  | shutdown => exact (client_shutdown h).1
  | exit => exact (client_exit h).2.2.1

theorem client_stopped {a : ClientAction} (h : p.step a = some (p',out))
    (hph : p.phase = .stopped) : p'.phase = .stopped ∧ out = none := by
  cases a with
  | shutdown => obtain ⟨rfl,rfl⟩ := client_shutdown h; exact ⟨hph,rfl⟩
  | _ => simp [ClientProc.step,hph] at h

/-- Every step but an attempt leaves the history and the detector alone, and the results
unless it clears them. -/
theorem client_keeps {a : ClientAction} (h : p.step a = some (p',out))
    (ha : ∀ o, a ≠ .attempt o) :
    p'.attempts = p.attempts ∧ (p'.self.results = p.self.results ∨ p'.self.results = []) ∧
      p'.self = { p.self with results := p'.self.results, running := p'.self.running } := by
  have hflush : ∀ final, (p.flushResults final).attempts = p.attempts ∧
      ((p.flushResults final).self.results = p.self.results ∨
        (p.flushResults final).self.results = []) ∧
      (p.flushResults final).self = { p.self with
        results := (p.flushResults final).self.results
        running := (p.flushResults final).self.running } := by
    intro final
    rcases flushResults_cases p final with ⟨-,hf⟩ | ⟨-,-,hf⟩ <;> rw [hf]
    · exact ⟨rfl,.inr rfl,rfl⟩
    · exact ⟨rfl,.inl rfl,rfl⟩
  cases a with
  | attempt o => exact absurd rfl (ha o)
  | callOk => obtain ⟨_,_,-,-,rfl⟩ := client_callOk h; exact ⟨rfl,.inl rfl,rfl⟩
  | callFail => obtain ⟨_,_,-,-,rfl⟩ := client_callFail h; exact ⟨rfl,.inl rfl,rfl⟩
  | checkBatch =>
    obtain ⟨-,-,⟨-,rfl⟩ | ⟨-,rfl⟩⟩ := client_checkBatch h
    · exact hflush false
    · exact ⟨rfl,.inl rfl,rfl⟩
  | insertRow => obtain ⟨_,_,_,-,-,-,rfl⟩ := client_insertRow h; exact ⟨rfl,.inl rfl,rfl⟩
  | flushFail => obtain ⟨_,_,-,-,rfl⟩ := client_flushFail h; exact ⟨rfl,.inl rfl,rfl⟩
  | flushDone => obtain ⟨_,-,-,rfl⟩ := client_flushDone h; exact ⟨rfl,.inr rfl,rfl⟩
  | shutdown => obtain ⟨-,rfl⟩ := client_shutdown h; exact ⟨rfl,.inl rfl,rfl⟩
  | exit => obtain ⟨-,-,-,rfl⟩ := client_exit h; exact hflush true

theorem flushResults_calls (p : ClientProc) (final : Bool) :
    (p.flushResults final).phase.calls = [] := by
  rcases flushResults_cases p final with ⟨-,hf⟩ | ⟨-,-,hf⟩ <;> rw [hf]
  · exact afterFlush_calls final
  · rfl

/-- A statement of the client is a call of the detector that was due, or a row. -/
theorem client_calls {a : ClientAction} (h : p.step a = some (p',out)) (ha : ∀ o, a ≠ .attempt o) :
    p'.phase.calls ⊆ p.phase.calls ∧ ∀ st ∈ out, (∃ r, st = .insertClientEvent r) ∨
      ∃ c ∈ p.phase.calls, c.statement = some st := by
  cases a with
  | attempt o => exact absurd rfl (ha o)
  | callOk =>
    obtain ⟨c,calls,hph,rfl,rfl⟩ := client_callOk h
    rw [hph]
    exact ⟨List.subset_cons_self c calls,fun st hst => .inr ⟨c,List.mem_cons_self,hst⟩⟩
  | callFail =>
    obtain ⟨c,calls,hph,rfl,rfl⟩ := client_callFail h
    rw [hph]
    exact ⟨List.subset_cons_self c calls,by simp⟩
  | checkBatch =>
    obtain ⟨-,rfl,⟨-,rfl⟩ | ⟨-,rfl⟩⟩ := client_checkBatch h
    · rw [flushResults_calls]
      exact ⟨List.nil_subset _,by simp⟩
    · exact ⟨List.nil_subset _,by simp⟩
  | insertRow =>
    obtain ⟨r,_,_,-,-,rfl,rfl⟩ := client_insertRow h
    refine ⟨List.nil_subset _,fun st hst => .inl ⟨_,(Option.some.inj hst).symm⟩⟩
  | flushFail =>
    obtain ⟨_,final,-,rfl,rfl⟩ := client_flushFail h
    exact ⟨by rw [afterFlush_calls]; exact List.nil_subset _,by simp⟩
  | flushDone =>
    obtain ⟨final,-,rfl,rfl⟩ := client_flushDone h
    exact ⟨by rw [afterFlush_calls]; exact List.nil_subset _,by simp⟩
  | shutdown =>
    obtain ⟨rfl,rfl⟩ := client_shutdown h
    exact ⟨List.Subset.refl _,by simp⟩
  | exit =>
    obtain ⟨-,-,rfl,rfl⟩ := client_exit h
    rw [flushResults_calls]
    exact ⟨List.nil_subset _,by simp⟩

theorem client_ne_observerEvent {a : ClientAction} (h : p.step a = some (p',out))
    (v : ObserverValues) : out ≠ some (.insertObserverEvent v) := by
  intro hout
  by_cases ha : ∃ o, a = .attempt o
  · obtain ⟨o,rfl⟩ := ha
    obtain ⟨-,-,rfl,-⟩ := client_attempt h
    contradiction
  · rcases (client_calls h fun o ho => ha ⟨o,ho⟩).2 _ hout with ⟨r,hr⟩ | ⟨c,-,hst⟩
    · contradiction
    · cases c <;> simp [DbCall.statement] at hst

end Steps

section Session

variable {s s' : ClientSession} {a : ClientAction}

/-- What a step of a session does to the database: one row of a result, one call of the
detector, or nothing. -/
theorem session_step (h : s.step a = some s') :
    (s.proc.step a = some (s'.proc,none) ∧ s'.db = s.db) ∨
      (∃ r, s.proc.step a = some (s'.proc,some (.insertClientEvent r)) ∧
        s.db.exec (.insertClientEvent r) = some s'.db) ∨
      ∃ st, s.proc.step a = some (s'.proc,some st) ∧ (∀ r, st ≠ .insertClientEvent r) ∧
        s'.db = s.db.attempt st := by
  unfold ClientSession.step at h
  cases hp : s.proc.step a with
  | none => simp [hp] at h
  | some next =>
    obtain ⟨p,out⟩ := next
    cases out with
    | none =>
      simp [hp] at h
      subst h
      exact .inl ⟨rfl,rfl⟩
    | some st =>
      cases st with
      | insertClientEvent r =>
        simp [hp] at h
        obtain ⟨db,hdb,rfl⟩ := h
        exact .inr (.inl ⟨r,rfl,hdb⟩)
      | _ =>
        simp [hp] at h
        subst h
        exact .inr (.inr ⟨_,rfl,by simp,rfl⟩)

theorem statement_ne_insertClientEvent {c : DbCall} {r : ClientEvent} :
    c.statement ≠ some (.insertClientEvent r) := by
  cases c <;> simp [DbCall.statement]

theorem attempt_clientEvents {c : DbCall} {st : Statement} (hc : c.statement = some st)
    (db : Database) : (db.attempt st).clientEvents = db.clientEvents := by
  cases c with
  | register r =>
    obtain rfl := Option.some.inj hc
    unfold Database.attempt
    cases h : db.exec (.insertTestRun r) with
    | none => rfl
    | some db' => exact (exec_insertTestRun h).2.2.2
  | tag testRunId start stop =>
    obtain rfl := Option.some.inj hc
    rfl
  | summary testRunId => simp [DbCall.statement] at hc

theorem session_insertRow (h : s.step .insertRow = some s') :
    ∃ r inserted final, s.proc.phase = .flushing inserted final ∧
      s.proc.self.results[inserted]? = some r ∧
      s'.proc = { s.proc with phase := .flushing (inserted + 1) final } ∧
      s'.db.clientEvents = s.db.clientEvents ++ [s.proc.self.row r] ∧
      s'.db.testRuns = s.db.testRuns := by
  rcases session_step h with ⟨hp,-⟩ | ⟨e,hp,hdb⟩ | ⟨st,hp,hne,-⟩
  · obtain ⟨_,_,_,-,-,hout,-⟩ := client_insertRow hp
    contradiction
  · obtain ⟨r,inserted,final,hph,hr,hout,hproc⟩ := client_insertRow hp
    obtain rfl : e = s.proc.self.row r := by simpa using hout
    obtain ⟨hev,htr,-⟩ := exec_insertClientEvent hdb
    exact ⟨r,inserted,final,hph,hr,hproc,hev,htr⟩
  · obtain ⟨_,_,_,-,-,hout,-⟩ := client_insertRow hp
    exact absurd (Option.some.inj hout) (hne _)

theorem session_callOk (h : s.step .callOk = some s') :
    ∃ c calls, s.proc.phase = .calling (c :: calls) ∧
      s'.proc = { s.proc with phase := .calling calls } ∧
      s'.db = match c.statement with
        | some st => s.db.attempt st
        | none => s.db := by
  rcases session_step h with ⟨hp,hdb⟩ | ⟨e,hp,-⟩ | ⟨st,hp,-,hdb⟩
  · obtain ⟨c,calls,hph,hout,hproc⟩ := client_callOk hp
    exact ⟨c,calls,hph,hproc,by rw [← hout]; exact hdb⟩
  · obtain ⟨c,calls,-,hout,-⟩ := client_callOk hp
    exact absurd hout.symm statement_ne_insertClientEvent
  · obtain ⟨c,calls,hph,hout,hproc⟩ := client_callOk hp
    exact ⟨c,calls,hph,hproc,by rw [← hout]; exact hdb⟩

theorem session_quiet (h : s.step a = some s') (hi : a ≠ .insertRow) (hc : a ≠ .callOk) :
    s.proc.step a = some (s'.proc,none) ∧ s'.db = s.db := by
  have hnone : ∀ out, s.proc.step a = some (s'.proc,out) → out = none :=
    fun out hp => client_quiet hp hi hc
  rcases session_step h with hp | ⟨e,hp,-⟩ | ⟨st,hp,-,-⟩
  · exact hp
  · exact absurd (hnone _ hp) (by simp)
  · exact absurd (hnone _ hp) (by simp)

theorem session_proc (h : s.step a = some s') : ∃ out, s.proc.step a = some (s'.proc,out) := by
  rcases session_step h with ⟨hp,-⟩ | ⟨_,hp,-⟩ | ⟨_,hp,-⟩ <;> exact ⟨_,hp⟩

theorem session_clientEvents (h : s.step a = some s') (hi : a ≠ .insertRow) :
    s'.db.clientEvents = s.db.clientEvents := by
  by_cases hc : a = .callOk
  · subst hc
    obtain ⟨c,calls,-,-,hdb⟩ := session_callOk h
    cases hst : c.statement with
    | none => rw [hdb,hst]
    | some st => rw [hdb,hst]; exact attempt_clientEvents hst s.db
  · rw [(session_quiet h hi hc).2]

end Session

end RoutingBench
