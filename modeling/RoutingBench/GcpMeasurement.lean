import RoutingBench.IterationTags
import RoutingBench.Report
set_option autoImplicit false

/-!
The bench on GCP around its database: inject.yml registers the runs of its scenarios and tags their
events, while the client, whose environment has no id, detects runs by itself.
-/

namespace RoutingBench.Gcp
open Aggregate Calendar Episodes Runs

/-- A run of inject.yml that injects. The id is taken from the clock of the controller. -/
structure Injection where
  comboId : String
  scenario : String
  localSeconds : Int
  startTs : Timestamp
  deriving DecidableEq, Repr

def Injection.testRunId (inj : Injection) : String :=
  inj.comboId ++ "_" ++ (DateTime.ofSeconds inj.localSeconds).strftime

def Injection.testRun (inj : Injection) : TestRun where
  id := inj.testRunId
  combinationId := inj.comboId
  dcs := "consul"
  provider := "gcp"
  failoverType := some inj.scenario
  startedAt := inj.startTs

/-- Tag events with test_run_id (post-failover). -/
def Injection.tags (inj : Injection) (endTs : Timestamp) : List Statement :=
  [.tagObserverEvents inj.testRunId inj.startTs endTs,
    .tagClientEvents inj.testRunId inj.startTs endTs]

/-- Between playbooks, at the INSERT of the test run, in the injection and the wait after it, and
with the UPDATEs that are still to send. -/
inductive InjectPhase where
  | idle
  | registering (inj : Injection)
  | injecting (inj : Injection)
  | tagging (tags : List Statement)
  deriving DecidableEq, Repr

/-- `sent` is a psql command that exits with 0. A task that fails ends the playbook. -/
inductive InjectAction where
  | start (inj : Injection)
  | sent
  | tag (endTs : Timestamp)
  | failed
  deriving DecidableEq, Repr

def InjectPhase.step (p : InjectPhase) : InjectAction → Option (InjectPhase × Option Statement)
  | .start inj =>
    match p with
    | .idle => some (.registering inj,none)
    | _ => none
  | .sent =>
    match p with
    | .registering inj => some (.injecting inj,some (.insertTestRun inj.testRun))
    | .tagging (st :: tags) => some (.tagging tags,some st)
    -- What is shown in the end is read only.
    | .tagging [] => some (.idle,none)
    | _ => none
  | .tag endTs =>
    match p with
    | .injecting inj => some (.tagging (inj.tags endTs),none)
    | _ => none
  | .failed => some (.idle,none)

structure GcpBench (κ ρ : Type) where
  client : ClientProc
  emitters : κ → EmitterProc
  injections : ρ → InjectPhase
  db : Database

inductive GcpAction (κ ρ : Type) where
  | client : ClientAction → GcpAction κ ρ
  | emitter : κ → EmitterAction → GcpAction κ ρ
  | inject : ρ → InjectAction → GcpAction κ ρ
  deriving DecidableEq

section Step

variable {κ ρ : Type} [DecidableEq κ] [DecidableEq ρ]

def GcpBench.start (timescaleConnstring combinationId : String) (emitters : κ → EmitterProc)
    (db : Database) : GcpBench κ ρ where
  client := .start (.init timescaleConnstring combinationId "")
  emitters := emitters
  injections := fun _ => .idle
  db := db

def GcpBench.step (b : GcpBench κ ρ) : GcpAction κ ρ → Option (GcpBench κ ρ)
  | .client a => (b.client.step a).bind fun (p,out) =>
    (out.elim (some b.db) b.db.receive).map fun db => { b with client := p, db := db }
  | .emitter k a => ((b.emitters k).step a).bind fun (p,out) =>
    (out.elim (some b.db) fun entry =>
      b.db.receive (.insertObserverEvent (p.self.values entry.event))).map fun db =>
        { b with emitters := Function.update b.emitters k p, db := db }
  | .inject j a => ((b.injections j).step a).bind fun (p,out) =>
    (out.elim (some b.db) b.db.exec).map fun db =>
      { b with injections := Function.update b.injections j p, db := db }

end Step

/-- A row as the client inserted it, and as the UPDATEs have left it. -/
structure Retagged (own row : ClientEvent) : Prop where
  same : { row with testRunId := own.testRunId } = own
  testRunId : own.testRunId ≠ "" → row.testRunId = own.testRunId

section Rows

variable {own row : ClientEvent} {owns rows : List ClientEvent}

theorem Retagged.refl (row : ClientEvent) : Retagged row row := ⟨rfl,fun _ => rfl⟩

theorem Retagged.success (h : Retagged own row) : row.success = own.success := by
  rw [← h.same]

theorem Retagged.tag (h : Retagged own row) (testRunId : String) (start stop : Timestamp) :
    Retagged own (row.tag testRunId start stop) where
  same := h.same
  testRunId hown := by
    have hrow := h.testRunId hown
    rw [ClientEvent.tag,newTestRunId_of_tagged (by rw [hrow]; exact hown),hrow]

/-- Every row is one that the client inserted, but for its id. -/
def Owned (owns rows : List ClientEvent) : Prop := ∀ row ∈ rows, ∃ own ∈ owns, Retagged own row

theorem owned_tag (h : Owned owns rows) (testRunId : String) (start stop : Timestamp) :
    Owned owns (rows.map (ClientEvent.tag testRunId start stop)) := by
  intro row' hrow'
  obtain ⟨row,hrow,rfl⟩ := List.mem_map.mp hrow'
  obtain ⟨own,hown,hsame⟩ := h row hrow
  exact ⟨own,hown,hsame.tag testRunId start stop⟩

theorem owned_insert (h : Owned owns rows) (row : ClientEvent) :
    Owned (owns ++ [row]) (rows ++ [row]) := by
  intro row' hrow'
  rcases List.mem_append.mp hrow' with hrow' | hrow'
  · obtain ⟨own,hown,hsame⟩ := h row' hrow'
    exact ⟨own,List.mem_append_left _ hown,hsame⟩
  · obtain rfl := List.mem_singleton.mp hrow'
    exact ⟨row',by simp,.refl row'⟩

end Rows

section Statements

variable {db db' : Database} {st : Statement}

theorem receive_cases (h : db.receive st = some db') : db' = db ∨ db.exec st = some db' := by
  cases st with
  | insertClientEvent r => exact .inr h
  | insertObserverEvent v => exact .inr h
  | _ =>
    obtain rfl := Option.some.inj h
    unfold Database.attempt
    cases hexec : db.exec _ with
    | none => exact .inl rfl
    | some db' => exact .inr rfl

theorem exec_testRuns (h : db.exec st = some db') (hended : ∀ id ts, st ≠ .setEndedAt id ts)
    {tr : TestRun} (htr : tr ∈ db'.testRuns) : st = .insertTestRun tr ∨ tr ∈ db.testRuns := by
  cases st with
  | insertTestRun r =>
    obtain ⟨-,hins,-,-⟩ := exec_insertTestRun h
    rw [hins] at htr
    rcases List.mem_append.mp htr with htr | htr
    · exact .inr htr
    · obtain rfl := List.mem_singleton.mp htr
      exact .inl rfl
  | insertObserverEvent v =>
    obtain ⟨-,-,-,hruns,-⟩ := exec_insertObserverEvent h
    exact .inr (hruns ▸ htr)
  | insertClientEvent r =>
    obtain ⟨-,hruns,-⟩ := exec_insertClientEvent h
    exact .inr (hruns ▸ htr)
  | setEndedAt id ts => exact absurd rfl (hended id ts)
  | _ =>
    obtain rfl := Option.some.inj h
    exact .inr htr

theorem receive_runs (h : db.receive st = some db') (hended : ∀ id ts, st ≠ .setEndedAt id ts)
    {tr : TestRun} (htr : tr ∈ db'.testRuns) : st = .insertTestRun tr ∨ tr ∈ db.testRuns := by
  rcases receive_cases h with rfl | hexec
  · exact .inr htr
  · exact exec_testRuns hexec hended htr

end Statements

section Client

variable {p p' : ClientProc} {a : ClientAction} {out : Option Statement}

theorem client_sends (h : p.step a = some (p',out)) :
    out = none ∨ (∃ r, out = some (.insertClientEvent r)) ∨
      ∃ c calls, p.phase = .calling (c :: calls) ∧ out = c.statement ∧
        p'.attempts = p.attempts := by
  by_cases hi : a = .insertRow
  · subst hi
    obtain ⟨r,_,_,-,-,hout,-⟩ := client_insertRow h
    exact .inr (.inl ⟨_,hout⟩)
  by_cases hc : a = .callOk
  · subst hc
    obtain ⟨c,calls,hph,hout,rfl⟩ := client_callOk h
    exact .inr (.inr ⟨c,calls,hph,hout,rfl⟩)
  · exact .inl (client_quiet h hi hc)

theorem call_clientEvents {c : DbCall} {st : Statement} (h : c.statement = some st)
    (rows : List ClientEvent) : st.clientEvents rows = rows := by
  cases c with
  | register r =>
    obtain rfl := Option.some.inj h
    rfl
  | tag testRunId start stop =>
    obtain rfl := Option.some.inj h
    rfl
  | summary testRunId => contradiction

end Client

section Session

variable {conn comb : String} {db₀ : Database} {as : List ClientAction} {s : ClientSession}

theorem mem_testRunsOf {es : List FailoverEpisode} {tr : TestRun} :
    tr ∈ testRunsOf comb es ↔ ∃ e ∈ es, tr = registration comb e.onset.wallTs := by
  simp only [testRunsOf,List.mem_map,List.mem_reverse,eq_comm]

theorem run_registrations
    (hrun : run ClientSession.step (.start (.init conn comb "") db₀) as = some s) :
    s.proc.phase.registrations ⊆ testRunsOf comb (failoverEpisodes s.proc.attempts) := by
  induction as using List.reverseRecOn generalizing s with
  | nil =>
    obtain rfl : ClientSession.start (.init conn comb "") db₀ = s := by simpa using hrun
    exact List.nil_subset _
  | append_singleton as a ih =>
    obtain ⟨t,ht,hstep⟩ := run_snoc.mp hrun
    obtain ⟨hd,hc⟩ := run_detects ht
    rcases step_registrations hstep hd hc with ⟨-,-,hnew⟩ | ⟨hatt,⟨hsame,-⟩ | ⟨r,hr,-⟩⟩
    · rw [hnew]
      exact List.subset_append_right _ _
    · rw [hatt,hsame]
      exact ih ht
    · rw [hatt]
      exact List.Subset.trans (List.subset_cons_self r _) (hr ▸ ih ht)

theorem testRunsOf_step {s' : ClientSession} {a : ClientAction} (h : s.step a = some s') :
    testRunsOf comb (failoverEpisodes s.proc.attempts) ⊆
      testRunsOf comb (failoverEpisodes s'.proc.attempts) := by
  intro tr htr
  obtain ⟨e,he,rfl⟩ := mem_testRunsOf.mp htr
  obtain ⟨e',he',honset⟩ := List.mem_map.mp ((onsets_step h).subset (List.mem_map_of_mem he))
  exact mem_testRunsOf.mpr ⟨e',he',by rw [honset]⟩

end Session

/-- What is told of the playbooks: the runs they name have `P`, and they tag by UPDATEs. -/
def InjectPhase.Of (P : Injection → Prop) : InjectPhase → Prop
  | .idle => True
  | .registering inj => P inj
  | .injecting inj => P inj
  | .tagging tags => ∀ st ∈ tags, ∃ id start stop,
      st = .tagObserverEvents id start stop ∨ st = .tagClientEvents id start stop

def GcpAction.Of {κ ρ : Type} (P : Injection → Prop) (a : GcpAction κ ρ) : Prop :=
  ∀ j inj, a = .inject j (.start inj) → P inj

theorem inject_step {P : Injection → Prop} {p p' : InjectPhase} {a : InjectAction}
    {out : Option Statement} (hp : p.Of P) (ha : ∀ inj, a = .start inj → P inj)
    (h : p.step a = some (p',out)) :
    p'.Of P ∧ (out = none ∨ (∃ inj, P inj ∧ out = some (.insertTestRun inj.testRun)) ∨
      (∃ id start stop, out = some (.tagObserverEvents id start stop)) ∨
      ∃ id start stop, out = some (.tagClientEvents id start stop)) := by
  cases a with
  | start inj =>
    cases p <;> simp only [InjectPhase.step,Option.some.injEq,reduceCtorEq] at h
    obtain ⟨rfl,rfl⟩ := Prod.mk.inj h
    exact ⟨ha inj rfl,.inl rfl⟩
  | sent =>
    cases p with
    | registering inj =>
      obtain ⟨rfl,rfl⟩ := Prod.mk.inj (Option.some.inj h)
      exact ⟨hp,.inr (.inl ⟨inj,hp,rfl⟩)⟩
    | tagging tags =>
      cases tags with
      | nil =>
        obtain ⟨rfl,rfl⟩ := Prod.mk.inj (Option.some.inj h)
        exact ⟨trivial,.inl rfl⟩
      | cons st tags =>
        obtain ⟨rfl,rfl⟩ := Prod.mk.inj (Option.some.inj h)
        refine ⟨fun st' hst' => hp st' (List.mem_cons_of_mem _ hst'),?_⟩
        obtain ⟨id,start,stop,rfl | rfl⟩ := hp st List.mem_cons_self
        · exact .inr (.inr (.inl ⟨id,start,stop,rfl⟩))
        · exact .inr (.inr (.inr ⟨id,start,stop,rfl⟩))
    | _ => contradiction
  | tag endTs =>
    cases p with
    | injecting inj =>
      obtain ⟨rfl,rfl⟩ := Prod.mk.inj (Option.some.inj h)
      refine ⟨?_,.inl rfl⟩
      exact List.forall_mem_cons.mpr ⟨⟨_,_,_,.inl rfl⟩,
        List.forall_mem_singleton.mpr ⟨_,_,_,.inr rfl⟩⟩
    | _ => contradiction
  | failed =>
    obtain ⟨rfl,rfl⟩ := Prod.mk.inj (Option.some.inj h)
    exact ⟨trivial,.inl rfl⟩

section System

variable {κ ρ : Type} {conn comb : String} {db₀ : Database} {emitters : κ → EmitterProc}
  {P : Injection → Prop} {b b' : GcpBench κ ρ} {a : GcpAction κ ρ} {as : List (GcpAction κ ρ)}

/-- The client runs as if it was alone with its rows, but for the ids of those it leaves without
one; and the registered runs are those from before, its own and the injected ones. -/
structure Measured (conn comb : String) (db₀ : Database) (P : Injection → Prop)
    (b : GcpBench κ ρ) : Prop where
  session : ∃ cs s, run ClientSession.step (.start (.init conn comb "") db₀) cs = some s ∧
    s.proc = b.client ∧ Owned s.db.clientEvents b.db.clientEvents
  testRuns : ∀ tr ∈ b.db.testRuns, tr ∈ db₀.testRuns ∨
    tr ∈ testRunsOf comb (failoverEpisodes b.client.attempts) ∨ ∃ inj, P inj ∧ tr = inj.testRun
  injections : ∀ j, (b.injections j).Of P

theorem measured_start : Measured conn comb db₀ P
    (.start conn comb emitters db₀ : GcpBench κ ρ) where
  session := ⟨[],_,rfl,rfl,fun row hrow => ⟨row,hrow,.refl row⟩⟩
  testRuns _ htr := .inl htr
  injections _ := trivial

/-- A query failed in the run of a row, whatever made the row tell so. -/
theorem outage_failed {clientEvents : List ClientEvent} {tr : TestRun} {w : FailoverWindow}
    (hw : w ∈ failoverWindow clientEvents) (hid : w.testRunId = tr.id)
    (hout : (dbReportRow tr w).downtimeS ≠ .missing ∨
      (dbReportRow tr w).failedQueries ≠ .number 0) :
    ∃ row ∈ clientEvents, row.testRunId = tr.id ∧ row.success = false := by
  obtain ⟨r,-,rfl⟩ := mem_failoverWindow.mp hw
  by_contra hnone
  have hsucceeded : ∀ row ∈ clientEvents.filter fun q =>
      q.testRunId = r.testRunId && q.combinationId = r.combinationId, row.success = true := by
    intro row hrow
    obtain ⟨hrow,hgroup⟩ := List.mem_filter.mp hrow
    have hrun : row.testRunId = r.testRunId := by simp at hgroup; exact hgroup.1
    by_contra hfail
    exact hnone ⟨row,hrow,hrun.trans hid,by simpa using hfail⟩
  have hfirst : (failoverWindowOf clientEvents r.testRunId r.combinationId).firstFailure = none :=
    minWhere_eq_none_iff.mpr fun row hrow => by rw [hsucceeded row hrow]; rfl
  have hcount : (failoverWindowOf clientEvents r.testRunId r.combinationId).totalFailures = 0 :=
    List.countP_eq_zero.mpr fun row hrow => by rw [hsucceeded row hrow]; simp
  have hdowntime :
      (failoverWindowOf clientEvents r.testRunId r.combinationId).downtimeMs = none := by
    rw [failoverWindowOf] at hfirst ⊢
    simp only at hfirst ⊢
    rw [hfirst]
    rfl
  rcases hout with hout | hout
  · exact hout (by rw [dbReportRow,hdowntime]; rfl)
  · exact hout (by rw [dbReportRow,hcount]; rfl)

/-- The row of a failed query carries the id of a failover that the client detected. -/
theorem Measured.failed_own (hm : Measured conn comb db₀ P b)
    (hbefore : ∀ row ∈ db₀.clientEvents, row.success = true) {row : ClientEvent}
    (hrow : row ∈ b.db.clientEvents) (hfail : row.success = false) :
    ∃ e ∈ failoverEpisodes b.client.attempts, row.testRunId = episodeId comb e := by
  obtain ⟨cs,s,hs,hproc,hrows⟩ := hm.session
  obtain ⟨own,hown,hsame⟩ := hrows row hrow
  have hownFail : own.success = false := by rw [← hsame.success,hfail]
  have hnew : own ∈ s.db.clientEvents.drop db₀.clientEvents.length := by
    obtain ⟨rest,hrest⟩ := (run_kept hs).before
    rw [← hrest] at hown ⊢
    rw [List.drop_left]
    rcases List.mem_append.mp hown with hold | hnew
    · exact absurd (hbefore own hold) (by rw [hownFail]; simp)
    · exact hnew
  obtain ⟨e,he,hid⟩ := run_failed_rows hs own hnew hownFail
  rw [hproc] at he
  refine ⟨e,he,(hsame.testRunId ?_).trans hid⟩
  rw [hid]
  exact episodeId_ne_empty comb e

/-- The test run that has the id of a failover is the one that the client registered. -/
theorem Measured.registered_own (hm : Measured conn comb db₀ P b) {e : FailoverEpisode}
    (hruns : ∀ tr ∈ db₀.testRuns, tr.id ≠ episodeId comb e)
    (hapart : ∀ inj, P inj → inj.testRunId ≠ episodeId comb e) {tr : TestRun}
    (htr : tr ∈ b.db.testRuns) (hid : tr.id = episodeId comb e) :
    tr.failoverType = some "unknown" ∧ tr.combinationId = comb := by
  rcases hm.testRuns tr htr with hold | hown | ⟨inj,hinj,rfl⟩
  · exact absurd hid (hruns tr hold)
  · obtain ⟨e',-,rfl⟩ := mem_testRunsOf.mp hown
    exact ⟨rfl,rfl⟩
  · exact absurd hid (hapart inj hinj)

variable [DecidableEq κ] [DecidableEq ρ]

theorem measured_client {act : ClientAction} (hm : Measured conn comb db₀ P b)
    (h : b.step (.client act) = some b') : Measured conn comb db₀ P b' := by
  obtain ⟨cs,s,hs,hproc,hrows⟩ := hm.session
  obtain ⟨⟨p,out⟩,hp,h⟩ := Option.bind_eq_some_iff.mp h
  obtain ⟨db,hdb,rfl⟩ := Option.map_eq_some_iff.mp h
  have hstorable : ∀ r, out = some (.insertClientEvent r) → storable r.error = true := by
    rintro r rfl
    by_contra hno
    simp [Database.receive,Database.exec,hno] at hdb
  obtain ⟨s',hs',hp',hev⟩ := session_of_step (by rw [hproc]; exact hp) hstorable
  have hgrow : ∀ tr ∈ testRunsOf comb (failoverEpisodes b.client.attempts),
      tr ∈ testRunsOf comb (failoverEpisodes p.attempts) := by
    rw [← hproc,← hp']
    exact testRunsOf_step hs'
  have hkept : ∀ tr ∈ b.db.testRuns, tr ∈ db₀.testRuns ∨
      tr ∈ testRunsOf comb (failoverEpisodes p.attempts) ∨ ∃ inj, P inj ∧ tr = inj.testRun :=
    fun tr htr => (hm.testRuns tr htr).imp_right (Or.imp_left (hgrow tr))
  have hrun' := run_snoc.mpr ⟨s,hs,hs'⟩
  rcases client_sends hp with rfl | ⟨r,rfl⟩ | ⟨c,calls,hph,rfl,hatt⟩
  · obtain rfl := Option.some.inj hdb
    exact ⟨⟨_,s',hrun',hp',by rw [hev]; exact hrows⟩,hkept,hm.injections⟩
  · obtain ⟨hcl,hruns,-⟩ := exec_insertClientEvent hdb
    refine ⟨⟨_,s',hrun',hp',?_⟩,?_,hm.injections⟩
    · rw [hev]
      exact hcl ▸ owned_insert hrows r
    · rw [hruns]
      exact hkept
  · cases hc : c.statement with
    | none =>
      rw [hc] at hdb hev
      obtain rfl := Option.some.inj hdb
      exact ⟨⟨_,s',hrun',hp',by rw [hev]; exact hrows⟩,hkept,hm.injections⟩
    | some st =>
      rw [hc] at hdb hev
      refine ⟨⟨_,s',hrun',hp',?_⟩,?_,hm.injections⟩
      · rw [hev,Option.elim_some,call_clientEvents hc,(receive_events hdb).2,call_clientEvents hc]
        exact hrows
      · intro tr htr
        have hended : ∀ id ts, st ≠ .setEndedAt id ts := by
          rintro id ts rfl
          cases c <;> simp [DbCall.statement] at hc
        rcases receive_runs hdb hended htr with rfl | htr
        · refine .inr (.inl ?_)
          cases c <;> simp only [DbCall.statement,Option.some.injEq,reduceCtorEq] at hc
          obtain rfl := Statement.insertTestRun.inj hc
          refine hgrow _ (hproc ▸ run_registrations hs ?_)
          rw [hproc,hph]
          exact List.mem_cons_self
        · exact hkept tr htr

theorem measured_step (hm : Measured conn comb db₀ P b) (ha : a.Of P)
    (h : b.step a = some b') : Measured conn comb db₀ P b' := by
  cases a with
  | client act => exact measured_client hm h
  | emitter k act =>
    obtain ⟨⟨p,out⟩,hp,h⟩ := Option.bind_eq_some_iff.mp h
    obtain ⟨db,hdb,rfl⟩ := Option.map_eq_some_iff.mp h
    cases out with
    | none =>
      obtain rfl := Option.some.inj hdb
      exact ⟨hm.session,hm.testRuns,hm.injections⟩
    | some entry =>
      obtain ⟨-,-,-,hruns,hcl⟩ := exec_insertObserverEvent hdb
      exact ⟨by rw [hcl]; exact hm.session,by rw [hruns]; exact hm.testRuns,hm.injections⟩
  | inject j act =>
    obtain ⟨⟨p,out⟩,hp,h⟩ := Option.bind_eq_some_iff.mp h
    obtain ⟨db,hdb,rfl⟩ := Option.map_eq_some_iff.mp h
    obtain ⟨hp',hout⟩ := inject_step (hm.injections j)
      (fun inj hstart => ha j inj (by rw [hstart])) hp
    have hphases : ∀ i, (Function.update b.injections j p i).Of P := by
      intro i
      by_cases hij : i = j
      · subst hij
        rw [Function.update_self]
        exact hp'
      · rw [Function.update_of_ne hij]
        exact hm.injections i
    rcases hout with rfl | ⟨inj,hinj,rfl⟩ | ⟨id,start,stop,rfl⟩ | ⟨id,start,stop,rfl⟩
    · obtain rfl := Option.some.inj hdb
      exact ⟨hm.session,hm.testRuns,hphases⟩
    · have hexec : b.db.exec (.insertTestRun inj.testRun) = some db := hdb
      refine ⟨?_,fun tr htr => ?_,hphases⟩
      · rw [(exec_insertTestRun hexec).2.2.2]
        exact hm.session
      · rcases exec_testRuns hexec (by simp) htr with heq | htr
        · obtain rfl := Statement.insertTestRun.inj heq
          exact .inr (.inr ⟨inj,hinj,rfl⟩)
        · exact hm.testRuns tr htr
    · obtain rfl := Option.some.inj hdb
      exact ⟨hm.session,hm.testRuns,hphases⟩
    · obtain rfl := Option.some.inj hdb
      obtain ⟨cs,s,hs,hproc,hrows⟩ := hm.session
      exact ⟨⟨cs,s,hs,hproc,owned_tag hrows id start stop⟩,hm.testRuns,hphases⟩

theorem run_measured (hrun : run GcpBench.step (.start conn comb emitters db₀) as = some b)
    (hP : ∀ a ∈ as, a.Of P) : Measured conn comb db₀ P b :=
  invariant (P := fun (_ : GcpBench κ ρ) (a : GcpAction κ ρ) => a.Of P)
    (fun _ _ _ hm ha hstep => measured_step hm ha hstep) measured_start (along_of_mem hP _) hrun

/-- The outages that a report of the bench on GCP shows are all under the scenario `unknown`, in
runs of the client; no scenario that is injected gets a downtime, a failed query or a waterfall. -/
theorem outages_unknown {comboFilter : Option String}
    (hrun : run GcpBench.step (.start conn comb emitters db₀) as = some b)
    (hbefore : ∀ row ∈ db₀.clientEvents, row.success = true)
    (hruns : ∀ tr ∈ db₀.testRuns, ∀ e ∈ failoverEpisodes b.client.attempts,
      tr.id ≠ episodeId comb e)
    (hapart : ∀ j inj, GcpAction.inject j (.start inj) ∈ as → inj.comboId = comb →
      ∀ e ∈ failoverEpisodes b.client.attempts, inj.localSeconds ≠ onsetSecond e) :
    (∀ row ∈ dbReport b.db comboFilter,
      row.downtimeS ≠ .missing ∨ row.failedQueries ≠ .number 0 →
        row.scenario = some "unknown" ∧ row.comboDir = comb ∧
          ∃ e ∈ failoverEpisodes b.client.attempts, row.testRunId = some (episodeId comb e)) ∧
    ∀ combination, ∀ base ∈ waterfallBase b.db combination,
      ∃ tr ∈ b.db.testRuns, tr.id = base.runId ∧ tr.failoverType = some "unknown" ∧
        tr.combinationId = comb := by
  have hm := run_measured (P := fun inj => ∃ j, GcpAction.inject j (.start inj) ∈ as) hrun
    fun a ha j inj hstart => ⟨j,hstart ▸ ha⟩
  have hown : ∀ tr ∈ b.db.testRuns, (∃ row ∈ b.db.clientEvents,
      row.testRunId = tr.id ∧ row.success = false) →
        (∃ e ∈ failoverEpisodes b.client.attempts, tr.id = episodeId comb e) ∧
          tr.failoverType = some "unknown" ∧ tr.combinationId = comb := by
    rintro tr htr ⟨row,hrow,hid,hfail⟩
    obtain ⟨e,he,hrowId⟩ := hm.failed_own hbefore hrow hfail
    refine ⟨⟨e,he,hid.symm.trans hrowId⟩,hm.registered_own (fun tr htr => hruns tr htr e he) ?_ htr
      (hid.symm.trans hrowId)⟩
    rintro inj ⟨j,hj⟩ hsame
    obtain ⟨hcombo,hsecond⟩ := strftime_ofSeconds_inj hsame
    exact hapart j inj hj hcombo e he hsecond
  constructor
  · intro row hrow hout
    obtain ⟨tr,htr,-,w,hw,hid,rfl⟩ := mem_dbReport.mp hrow
    obtain ⟨⟨e,he,hepisode⟩,hscenario,hcombo⟩ := hown tr htr (outage_failed hw hid hout)
    exact ⟨hscenario,hcombo,e,he,congrArg some hepisode⟩
  · intro combination base hbase
    simp only [waterfallBase,List.mem_filterMap,List.mem_filter,decide_eq_true_eq] at hbase
    obtain ⟨tr,⟨htr,-⟩,hbase⟩ := hbase
    obtain ⟨first,hfirst,rfl⟩ := Option.map_eq_some_iff.mp hbase
    obtain ⟨⟨row,hrow,hfail,-⟩,-⟩ := minWhere_eq_some_iff.mp hfirst
    obtain ⟨hrow,hid⟩ := List.mem_filter.mp hrow
    exact ⟨tr,htr,rfl,(hown tr htr ⟨row,hrow,by simpa using hid,by simpa using hfail⟩).2⟩

def consulTemplateStop : Injection where
  comboId := "07-consul-template-reload-gcp"
  scenario := "hard_stop"
  localSeconds := 1776999999
  startTs := 1776999999500000

def stopSeen : List ClientAction :=
  successes 0 1 ++ failure 1 ++ recovery 2 ++ [.shutdown,.exit] ++ List.replicate 5 .insertRow ++
    [.flushDone]

def measuredStop : List (GcpAction Unit Unit) :=
  [.inject () (.start consulTemplateStop),.inject () .sent] ++ stopSeen.map .client ++
    [.inject () (.tag 1777000001000000),.inject () .sent,.inject () .sent,.inject () .sent]

theorem outages_unknown_measuredStop : ∃ b : GcpBench Unit Unit,
    run GcpBench.step (.start heartbeatClient.timescaleConnstring "06-haproxy-rest-polling-gcp"
      (fun _ => .start haproxyEmitter) .empty) measuredStop = some b ∧
      b.db.testRuns.map TestRun.failoverType = [some "hard_stop",some "unknown"] ∧
      ∀ row ∈ dbReport b.db none, row.downtimeS ≠ .missing ∨ row.failedQueries ≠ .number 0 →
        row.scenario = some "unknown" ∧ row.comboDir = "06-haproxy-rest-polling-gcp" := by
  obtain ⟨b,hrun,hscenarios⟩ : ∃ b : GcpBench Unit Unit,
      run GcpBench.step (.start heartbeatClient.timescaleConnstring "06-haproxy-rest-polling-gcp"
        (fun _ => .start haproxyEmitter) .empty) measuredStop = some b ∧
        b.db.testRuns.map TestRun.failoverType = [some "hard_stop",some "unknown"] :=
    ⟨_,rfl,rfl⟩
  have hapart : ∀ j inj, GcpAction.inject j (.start inj) ∈ measuredStop →
      inj.comboId = "06-haproxy-rest-polling-gcp" →
        ∀ e ∈ failoverEpisodes b.client.attempts, inj.localSeconds ≠ onsetSecond e := by
    intro j inj hmem hcombo
    obtain rfl : inj = consulTemplateStop := by
      simpa [measuredStop] using hmem
    exact absurd hcombo (by decide)
  refine ⟨b,hrun,hscenarios,fun row hrow hout => ?_⟩
  obtain ⟨hscenario,hcombo,-⟩ := (outages_unknown hrun (by simp [Database.empty])
    (by simp [Database.empty]) hapart).1 row hrow hout
  exact ⟨hscenario,hcombo⟩

end System

end RoutingBench.Gcp
