import RoutingBench.Emitter
import RoutingBench.Heartbeat
set_option autoImplicit false

/-!
The bench as one system: heartbeat clients, observers and runners around one database.
Every action is one step of one of them, and every statement takes effect at once.
-/

namespace RoutingBench
open Calendar

/-- One iteration of the runner from its step 3 on. The id is taken from the local clock. -/
structure Iteration where
  localSeconds : Int
  startTs : Timestamp
  scenario : String
  deriving DecidableEq, Repr

def Iteration.testRunId (it : Iteration) (combinationId : String) : String :=
  combinationId ++ "_" ++ (DateTime.ofSeconds it.localSeconds).strftime

def Iteration.testRun (it : Iteration) (combinationId : String) : TestRun where
  id := it.testRunId combinationId
  combinationId := combinationId
  dcs := "consul"
  provider := "local"
  failoverType := some it.scenario
  startedAt := it.startTs

/-- Step 7: tag events and record end time. -/
def Iteration.updates (it : Iteration) (combinationId : String) (endTs : Timestamp) :
    List Statement :=
  [.setEndedAt (it.testRunId combinationId) endTs,
    .tagObserverEvents (it.testRunId combinationId) it.startTs endTs,
    .tagClientEvents (it.testRunId combinationId) it.startTs endTs]

/-- Between iterations, at the INSERT of step 3, in steps 4 to 6, and in step 7 with the
statements still to send. -/
inductive RunnerPhase where
  | idle
  | registering (it : Iteration)
  | running (it : Iteration)
  | tagging (it : Iteration) (updates : List Statement)
  deriving DecidableEq, Repr

structure RunnerProc where
  combinationId : String
  phase : RunnerPhase
  deriving DecidableEq, Repr

/-- `skip` is a failure injection that was skipped; `lost` a psql command that fails. -/
inductive RunnerAction where
  | start (it : Iteration)
  | skip
  | stop (endTs : Timestamp)
  | sent
  | lost
  deriving DecidableEq, Repr

def afterUpdate (it : Iteration) : List Statement → RunnerPhase
  | [] => .idle
  | updates => .tagging it updates

def RunnerProc.step (p : RunnerProc) : RunnerAction → Option (RunnerProc × Option Statement)
  | .start it =>
    match p.phase with
    | .idle => some ({ p with phase := .registering it },none)
    | _ => none
  | .skip =>
    match p.phase with
    | .running _ => some ({ p with phase := .idle },none)
    | _ => none
  | .stop endTs =>
    match p.phase with
    | .running it => some ({ p with phase := .tagging it (it.updates p.combinationId endTs) },none)
    | _ => none
  | .sent =>
    match p.phase with
    | .registering it =>
      some ({ p with phase := .running it },some (.insertTestRun (it.testRun p.combinationId)))
    | .tagging it (st :: updates) => some ({ p with phase := afterUpdate it updates },some st)
    | _ => none
  | .lost =>
    match p.phase with
    | .registering it => some ({ p with phase := .running it },none)
    | .tagging it (_ :: updates) => some ({ p with phase := afterUpdate it updates },none)
    | _ => none

def RunnerPhase.updates : RunnerPhase → List Statement
  | .tagging _ updates => updates
  | _ => []

@[simp] theorem afterUpdate_updates (it : Iteration) (updates : List Statement) :
    (afterUpdate it updates).updates = updates := by
  cases updates <;> rfl

theorem runner_step {p p' : RunnerProc} {a : RunnerAction} {out : Option Statement}
    (h : p.step a = some (p',out)) :
    p'.combinationId = p.combinationId ∧
      ((out = none ∧ (a = .lost ∨ p.phase.updates = []) ∧
          p'.phase.updates ⊆ p.phase.updates) ∨
        (∃ it, p.phase = .registering it ∧ p'.phase = .running it ∧
          out = some (.insertTestRun (it.testRun p.combinationId))) ∨
        (∃ it endTs, a = .stop endTs ∧ p.phase = .running it ∧ out = none ∧
          p'.phase = .tagging it (it.updates p.combinationId endTs)) ∨
        ∃ it st updates, p.phase = .tagging it (st :: updates) ∧
          p'.phase = afterUpdate it updates ∧ out = some st) := by
  cases a with
  | start it =>
    cases hph : p.phase <;> simp [RunnerProc.step,hph] at h
    obtain ⟨rfl,rfl⟩ := h
    exact ⟨rfl,.inl ⟨rfl,.inr rfl,List.nil_subset _⟩⟩
  | skip =>
    cases hph : p.phase <;> simp [RunnerProc.step,hph] at h
    obtain ⟨rfl,rfl⟩ := h
    exact ⟨rfl,.inl ⟨rfl,.inr rfl,List.nil_subset _⟩⟩
  | stop endTs =>
    cases hph : p.phase <;> simp [RunnerProc.step,hph] at h
    next it =>
      obtain ⟨rfl,rfl⟩ := h
      exact ⟨rfl,.inr (.inr (.inl ⟨it,endTs,rfl,rfl,rfl,rfl⟩))⟩
  | sent =>
    cases hph : p.phase with
    | tagging it updates =>
      cases updates <;> simp [RunnerProc.step,hph] at h
      next st updates =>
        obtain ⟨rfl,rfl⟩ := h
        exact ⟨rfl,.inr (.inr (.inr ⟨it,st,updates,rfl,rfl,rfl⟩))⟩
    | registering it =>
      simp [RunnerProc.step,hph] at h
      obtain ⟨rfl,rfl⟩ := h
      exact ⟨rfl,.inr (.inl ⟨it,rfl,rfl,rfl⟩)⟩
    | _ => simp [RunnerProc.step,hph] at h
  | lost =>
    cases hph : p.phase with
    | tagging it updates =>
      cases updates <;> simp [RunnerProc.step,hph] at h
      next st updates =>
        obtain ⟨rfl,rfl⟩ := h
        refine ⟨rfl,.inl ⟨rfl,.inl rfl,?_⟩⟩
        rw [afterUpdate_updates]
        exact List.subset_cons_self st updates
    | registering it =>
      simp [RunnerProc.step,hph] at h
      obtain ⟨rfl,rfl⟩ := h
      exact ⟨rfl,.inl ⟨rfl,.inl rfl,List.nil_subset _⟩⟩
    | _ => simp [RunnerProc.step,hph] at h

/-- The rows an UPDATE is about to tag, each by its combination, with the id they take. -/
def Statement.tags (db : Database) : Statement → List (String × String)
  | .tagObserverEvents testRunId start stop =>
    (db.observerEvents.filter fun r => (start ≤ r.ts ∧ r.ts ≤ stop) ∧ r.testRunId = "").map
      fun r => (r.combinationId,testRunId)
  | .tagClientEvents testRunId start stop =>
    (db.clientEvents.filter fun r => (start ≤ r.ts ∧ r.ts ≤ stop) ∧ r.testRunId = "").map
      fun r => (r.combinationId,testRunId)
  | _ => []

/-- `tagged` records every row an UPDATE has tagged, by its combination, and the id. -/
structure Bench (ι κ ρ : Type) where
  clients : ι → ClientProc
  emitters : κ → EmitterProc
  runners : ρ → RunnerProc
  db : Database
  tagged : List (String × String)

inductive BenchAction (ι κ ρ : Type) where
  | client : ι → ClientAction → BenchAction ι κ ρ
  | emitter : κ → EmitterAction → BenchAction ι κ ρ
  | runner : ρ → RunnerAction → BenchAction ι κ ρ
  deriving DecidableEq

section Step

variable {ι κ ρ : Type} [DecidableEq ι] [DecidableEq κ] [DecidableEq ρ]

/-- The statement a party sends with its next action, with its combination. -/
def Bench.sends (b : Bench ι κ ρ) : BenchAction ι κ ρ → Option (String × Statement)
  | .client i a => ((b.clients i).step a).bind fun (p,out) =>
    out.map fun st => (p.self.combinationId,st)
  | .emitter k a => ((b.emitters k).step a).bind fun (p,out) =>
    out.map fun entry => (p.self.combinationId,.insertObserverEvent (p.self.values entry.event))
  | .runner j a => ((b.runners j).step a).bind fun (p,out) =>
    out.map fun st => (p.combinationId,st)

/-- What the database makes of a statement; the INSERT of a row that fails is no step of its
flush. -/
def Database.receive (db : Database) : Statement → Option Database
  | .insertClientEvent r => db.exec (.insertClientEvent r)
  | .insertObserverEvent v => db.exec (.insertObserverEvent v)
  | st => some (db.attempt st)

def Bench.move (b : Bench ι κ ρ) : BenchAction ι κ ρ → Option (Bench ι κ ρ)
  | .client i a => ((b.clients i).step a).map fun (p,_) =>
    { b with clients := Function.update b.clients i p }
  | .emitter k a => ((b.emitters k).step a).map fun (p,_) =>
    { b with emitters := Function.update b.emitters k p }
  | .runner j a => ((b.runners j).step a).map fun (p,_) =>
    { b with runners := Function.update b.runners j p }

def Bench.step (b : Bench ι κ ρ) (a : BenchAction ι κ ρ) : Option (Bench ι κ ρ) :=
  (b.move a).bind fun b' =>
    match b.sends a with
    | none => some b'
    | some (_,st) => (b.db.receive st).map fun db =>
      { b' with db := db, tagged := b.tagged ++ st.tags b.db }

end Step

def Statement.observerEvents (rows : List ObserverEvent) : Statement → List ObserverEvent
  | .insertObserverEvent v => rows ++ v.row.toList
  | .tagObserverEvents testRunId start stop =>
    rows.map (ObserverEvent.tag testRunId start stop)
  | _ => rows

def Statement.clientEvents (rows : List ClientEvent) : Statement → List ClientEvent
  | .insertClientEvent r => rows ++ [r]
  | .tagClientEvents testRunId start stop => rows.map (ClientEvent.tag testRunId start stop)
  | _ => rows

section Receive

variable {db db' : Database} {st : Statement}

theorem receive_events (h : db.receive st = some db') :
    db'.observerEvents = st.observerEvents db.observerEvents ∧
      db'.clientEvents = st.clientEvents db.clientEvents := by
  cases st with
  | insertTestRun r =>
    obtain rfl := Option.some.inj h
    unfold Database.attempt
    cases hexec : db.exec (.insertTestRun r) with
    | none => exact ⟨rfl,rfl⟩
    | some db' =>
      obtain ⟨-,-,hobs,hcl⟩ := exec_insertTestRun hexec
      exact ⟨hobs,hcl⟩
  | insertObserverEvent v =>
    obtain ⟨r,hr,hobs,-,hcl⟩ := exec_insertObserverEvent h
    exact ⟨by rw [hobs,Statement.observerEvents,hr]; rfl,hcl⟩
  | insertClientEvent r =>
    obtain ⟨hcl,-,hobs⟩ := exec_insertClientEvent h
    exact ⟨hobs,hcl⟩
  | _ =>
    obtain rfl := Option.some.inj h
    exact ⟨rfl,rfl⟩

theorem receive_testRuns (h : db.receive st = some db') {tr : TestRun}
    (htr : tr ∈ db'.testRuns) :
    st = .insertTestRun tr ∨
      ∃ r ∈ db.testRuns, tr.id = r.id ∧ tr.combinationId = r.combinationId := by
  cases st with
  | insertTestRun r =>
    obtain rfl := Option.some.inj h
    rcases attempt_insertTestRun db r with ⟨-,hins⟩ | ⟨-,hsame⟩
    · rw [hins] at htr
      rcases List.mem_append.mp htr with htr | htr
      · exact .inr ⟨tr,htr,rfl,rfl⟩
      · obtain rfl := List.mem_singleton.mp htr
        exact .inl rfl
    · rw [hsame] at htr
      exact .inr ⟨tr,htr,rfl,rfl⟩
  | insertObserverEvent v =>
    obtain ⟨-,-,-,hruns,-⟩ := exec_insertObserverEvent h
    exact .inr ⟨tr,hruns ▸ htr,rfl,rfl⟩
  | insertClientEvent r =>
    obtain ⟨-,hruns,-⟩ := exec_insertClientEvent h
    exact .inr ⟨tr,hruns ▸ htr,rfl,rfl⟩
  | setEndedAt testRunId endedAt =>
    obtain rfl := Option.some.inj h
    obtain ⟨r,hr,rfl⟩ := List.mem_map.mp htr
    exact .inr ⟨r,hr,by simp,by simp⟩
  | _ =>
    obtain rfl := Option.some.inj h
    exact .inr ⟨tr,htr,rfl,rfl⟩

end Receive

section Steps

variable {ι κ ρ : Type} [DecidableEq ι] [DecidableEq κ] [DecidableEq ρ]
  {b b' : Bench ι κ ρ} {a : BenchAction ι κ ρ}

theorem bench_step (h : b.step a = some b') :
    ∃ m, b.move a = some m ∧ b'.clients = m.clients ∧ b'.emitters = m.emitters ∧
      b'.runners = m.runners ∧
      ((b.sends a = none ∧ b'.db = m.db ∧ b'.tagged = m.tagged) ∨
        ∃ c st, b.sends a = some (c,st) ∧ b.db.receive st = some b'.db ∧
          b'.tagged = b.tagged ++ st.tags b.db) := by
  unfold Bench.step at h
  obtain ⟨m,hm,h⟩ := Option.bind_eq_some_iff.mp h
  cases hs : b.sends a with
  | none =>
    simp only [hs,Option.some.injEq] at h
    subst h
    exact ⟨m,hm,rfl,rfl,rfl,.inl ⟨rfl,rfl,rfl⟩⟩
  | some out =>
    obtain ⟨c,st⟩ := out
    simp only [hs,Option.map_eq_some_iff] at h
    obtain ⟨db,hdb,rfl⟩ := h
    exact ⟨m,hm,rfl,rfl,rfl,.inr ⟨c,st,rfl,hdb,rfl⟩⟩

theorem bench_client {i : ι} {act : ClientAction} (h : b.step (.client i act) = some b') :
    ∃ p out, (b.clients i).step act = some (p,out) ∧
      b'.clients = Function.update b.clients i p ∧ b'.emitters = b.emitters ∧
      b'.runners = b.runners ∧
      b.sends (.client i act) = out.map fun st => (p.self.combinationId,st) := by
  obtain ⟨m,hm,hc,he,hr,-⟩ := bench_step h
  obtain ⟨⟨p,out⟩,hp,rfl⟩ := Option.map_eq_some_iff.mp hm
  exact ⟨p,out,hp,hc,he,hr,by simp [Bench.sends,hp]⟩

theorem bench_emitter {k : κ} {act : EmitterAction} (h : b.step (.emitter k act) = some b') :
    ∃ p out, (b.emitters k).step act = some (p,out) ∧ b'.clients = b.clients ∧
      b'.emitters = Function.update b.emitters k p ∧ b'.runners = b.runners ∧
      b.sends (.emitter k act) = out.map fun entry =>
        (p.self.combinationId,.insertObserverEvent (p.self.values entry.event)) := by
  obtain ⟨m,hm,hc,he,hr,-⟩ := bench_step h
  obtain ⟨⟨p,out⟩,hp,rfl⟩ := Option.map_eq_some_iff.mp hm
  exact ⟨p,out,hp,hc,he,hr,by simp [Bench.sends,hp]⟩

theorem bench_runner {j : ρ} {act : RunnerAction} (h : b.step (.runner j act) = some b') :
    ∃ p out, (b.runners j).step act = some (p,out) ∧ b'.clients = b.clients ∧
      b'.emitters = b.emitters ∧ b'.runners = Function.update b.runners j p ∧
      b.sends (.runner j act) = out.map fun st => (p.combinationId,st) := by
  obtain ⟨m,hm,hc,he,hr,-⟩ := bench_step h
  obtain ⟨⟨p,out⟩,hp,rfl⟩ := Option.map_eq_some_iff.mp hm
  exact ⟨p,out,hp,hc,he,hr,by simp [Bench.sends,hp]⟩

theorem bench_database (h : b.step a = some b') :
    (b.sends a = none ∧ b'.db = b.db ∧ b'.tagged = b.tagged) ∨
      ∃ c st, b.sends a = some (c,st) ∧ b.db.receive st = some b'.db ∧
        b'.tagged = b.tagged ++ st.tags b.db := by
  obtain ⟨m,hm,-,-,-,⟨hs,hdb,ht⟩ | hsent⟩ := bench_step h
  · have hkeep : m.db = b.db ∧ m.tagged = b.tagged := by
      cases a <;> obtain ⟨_,-,rfl⟩ := Option.map_eq_some_iff.mp hm <;> exact ⟨rfl,rfl⟩
    exact .inl ⟨hs,by rw [hdb,hkeep.1],by rw [ht,hkeep.2]⟩
  · exact .inr hsent

theorem bench_events (h : b.step a = some b') :
    b'.db.observerEvents = (b.sends a).elim b.db.observerEvents
        (fun out => out.2.observerEvents b.db.observerEvents) ∧
      b'.db.clientEvents = (b.sends a).elim b.db.clientEvents
        (fun out => out.2.clientEvents b.db.clientEvents) := by
  rcases bench_database h with ⟨hs,hdb,-⟩ | ⟨c,st,hs,hdb,-⟩ <;> rw [hs]
  · rw [hdb]
    exact ⟨rfl,rfl⟩
  · exact receive_events hdb

theorem emitter_rows {k : κ} {act : EmitterAction} (h : b.step (.emitter k act) = some b') :
    b'.db.clientEvents = b.db.clientEvents ∧
      ((b.sends (.emitter k act) = none ∧ b'.db.observerEvents = b.db.observerEvents) ∨
        ∃ c v row, b.sends (.emitter k act) = some (c,.insertObserverEvent v) ∧
          b'.db.observerEvents = b.db.observerEvents ++ [row] ∧ row.ts = v.ts ∧
          row.testRunId = (b.emitters k).self.testRunId) := by
  obtain ⟨p,out,hp,-,-,-,hsend⟩ := bench_emitter h
  obtain ⟨hobs,hcl⟩ := bench_events h
  cases out with
  | none =>
    rw [hsend] at hobs hcl ⊢
    exact ⟨hcl,.inl ⟨rfl,hobs⟩⟩
  | some entry =>
    rcases bench_database h with ⟨hs,-⟩ | ⟨c,st,hs,hdb,-⟩
    · rw [hsend] at hs; simp at hs
    have hsend' := hs
    rw [hsend] at hs
    obtain ⟨rfl,rfl⟩ := Prod.mk.inj (Option.some.inj hs)
    obtain ⟨row,hrow,hrows,-⟩ := exec_insertObserverEvent hdb
    obtain ⟨hts,-,htrid⟩ := row_fields hrow
    rw [hsend'] at hcl
    exact ⟨hcl,.inr ⟨_,_,row,hsend',hrows,hts,htrid.trans (emitter_frame hp).1⟩⟩

theorem clients_step (h : b.step a = some b') (i : ι) :
    b'.clients i = b.clients i ∨
      ∃ act out, a = .client i act ∧ (b.clients i).step act = some (b'.clients i,out) ∧
        b.sends a = out.map fun st => ((b'.clients i).self.combinationId,st) := by
  cases a with
  | client j act =>
    obtain ⟨p,out,hp,hc,-,-,hs⟩ := bench_client h
    by_cases hij : i = j
    · subst hij
      rw [hc,Function.update_self]
      exact .inr ⟨act,out,rfl,hp,hs⟩
    · exact .inl (by rw [hc,Function.update_of_ne hij])
  | emitter k act =>
    obtain ⟨_,_,-,hc,-⟩ := bench_emitter h
    exact .inl (by rw [hc])
  | runner j act =>
    obtain ⟨_,_,-,hc,-⟩ := bench_runner h
    exact .inl (by rw [hc])

theorem emitters_step (h : b.step a = some b') (k : κ) :
    b'.emitters k = b.emitters k ∨
      ∃ act out, a = .emitter k act ∧ (b.emitters k).step act = some (b'.emitters k,out) := by
  cases a with
  | client i act =>
    obtain ⟨_,_,-,-,he,-⟩ := bench_client h
    exact .inl (by rw [he])
  | emitter j act =>
    obtain ⟨p,out,hp,-,he,-⟩ := bench_emitter h
    by_cases hkj : k = j
    · subst hkj
      rw [he,Function.update_self]
      exact .inr ⟨act,out,rfl,hp⟩
    · exact .inl (by rw [he,Function.update_of_ne hkj])
  | runner j act =>
    obtain ⟨_,_,-,-,he,-⟩ := bench_runner h
    exact .inl (by rw [he])

theorem emitters_testRunId (h : b.step a = some b') (k : κ) :
    (b'.emitters k).self.testRunId = (b.emitters k).self.testRunId := by
  rcases emitters_step h k with heq | ⟨act,out,-,hp⟩
  · rw [heq]
  · exact (emitter_frame hp).1

theorem runners_step (h : b.step a = some b') (j : ρ) :
    b'.runners j = b.runners j ∨
      ∃ act out, a = .runner j act ∧ (b.runners j).step act = some (b'.runners j,out) ∧
        b.sends a = out.map fun st => ((b'.runners j).combinationId,st) := by
  cases a with
  | client i act =>
    obtain ⟨_,_,-,-,-,hr,-⟩ := bench_client h
    exact .inl (by rw [hr])
  | emitter k act =>
    obtain ⟨_,_,-,-,-,hr,-⟩ := bench_emitter h
    exact .inl (by rw [hr])
  | runner i act =>
    obtain ⟨p,out,hp,-,-,hr,hs⟩ := bench_runner h
    by_cases hij : j = i
    · subst hij
      rw [hr,Function.update_self]
      exact .inr ⟨act,out,rfl,hp,hs⟩
    · exact .inl (by rw [hr,Function.update_of_ne hij])

end Steps

end RoutingBench
