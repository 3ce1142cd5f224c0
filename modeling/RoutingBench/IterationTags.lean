import RoutingBench.EpisodeTags
import RoutingBench.Waterfall
set_option autoImplicit false

/-!
The two taggers of one iteration of the runner: the client, which detects test runs by
itself and relabels its rows, and step 7, which only tags rows that have no id yet.
-/

namespace RoutingBench
open Aggregate Episodes Runs

section Session

theorem session_of_step {s : ClientSession} {a : ClientAction} {p : ClientProc}
    {out : Option Statement} (hp : s.proc.step a = some (p,out))
    (hst : ∀ r, out = some (.insertClientEvent r) → storable r.error = true) :
    ∃ s', s.step a = some s' ∧ s'.proc = p ∧ s'.db.clientEvents =
      out.elim s.db.clientEvents fun st => st.clientEvents s.db.clientEvents := by
  unfold ClientSession.step
  rw [hp]
  cases out with
  | none => exact ⟨⟨p,s.db⟩,rfl,rfl,rfl⟩
  | some st =>
    cases st with
    | insertClientEvent r =>
      have hexec : s.db.exec (.insertClientEvent r) =
          some { s.db with clientEvents := s.db.clientEvents ++ [r] } := by
        simp [Database.exec,hst r rfl]
      simp only [hexec]
      exact ⟨_,rfl,rfl,rfl⟩
    | insertTestRun r => exact ⟨_,rfl,rfl,(@receive_events s.db _ (.insertTestRun r) rfl).2⟩
    | insertObserverEvent v =>
      refine ⟨_,rfl,rfl,?_⟩
      unfold Database.attempt
      cases hexec : s.db.exec (.insertObserverEvent v) with
      | none => rfl
      | some db' => exact (@receive_events s.db db' (.insertObserverEvent v) hexec).2
    | _ => exact ⟨_,rfl,rfl,rfl⟩

/-- The row of a failed query carries the id of a failover. -/
theorem run_failed_rows {conn comb : String} {db₀ : Database} {as : List ClientAction}
    {s : ClientSession}
    (hrun : run ClientSession.step (.start (.init conn comb "") db₀) as = some s) :
    ∀ row ∈ s.db.clientEvents.drop db₀.clientEvents.length, row.success = false →
      ∃ e ∈ failoverEpisodes s.proc.attempts, row.testRunId = episodeId comb e := by
  induction as using List.reverseRecOn generalizing s with
  | nil =>
    obtain rfl : ClientSession.start (.init conn comb "") db₀ = s := by simpa using hrun
    simp [ClientSession.start]
  | append_singleton as a ih =>
    obtain ⟨t,ht,hstep⟩ := run_snoc.mp hrun
    have hk := run_kept ht
    obtain ⟨hd,hcomb⟩ := run_detects ht
    have hold : ∀ row ∈ t.db.clientEvents.drop db₀.clientEvents.length, row.success = false →
        ∃ e ∈ failoverEpisodes s.proc.attempts, row.testRunId = episodeId comb e := by
      intro row hrow hfail
      obtain ⟨e,he,hid⟩ := ih ht row hrow hfail
      obtain ⟨e',he',honset⟩ :=
        List.mem_map.mp ((onsets_step hstep).subset (List.mem_map_of_mem he))
      refine ⟨e',he',hid.trans ?_⟩
      simp only [episodeId,honset]
    by_cases hi : a = .insertRow
    · subst hi
      obtain ⟨r,inserted,final,-,hr,hp,hev,-⟩ := session_insertRow hstep
      intro row hrow hfail
      rw [hev,List.drop_append_of_le_length hk.before.length_le] at hrow
      rcases List.mem_append.mp hrow with hrow | hrow
      · exact hold row hrow hfail
      · obtain rfl := List.mem_singleton.mp hrow
        have hmem := hk.results r (List.mem_of_getElem? hr)
        have hatt : s.proc.attempts = t.proc.attempts := by rw [hp]
        rw [hatt]
        cases hes : failoverEpisodes t.proc.attempts with
        | nil => exact absurd hes (episodes_ne_nil hmem hfail)
        | cons e rest =>
          refine ⟨e,List.mem_cons_self,?_⟩
          show t.proc.self.testRunId = episodeId comb e
          rw [hd.testRunId,hd.current e (by rw [hes]; rfl),hcomb]
    · rw [session_clientEvents hstep hi]
      exact hold

end Session

section Views

variable {comb testRunId : String} {failed : List QueryResult} {db : Database}

/-- failover_window and the waterfall query, asked for a run, see these failed queries. -/
structure SeesFailures (comb testRunId : String) (failed : List QueryResult) (db : Database) :
    Prop where
  rows : ∀ q ∈ failed, ∃ r ∈ db.clientEvents, RowOf comb q r ∧ r.testRunId = testRunId
  window : failed.length ≤ (failoverWindowOf db.clientEvents testRunId comb).totalFailures
  waterfall : ∀ base ∈ waterfallBase db comb, base.runId = testRunId →
    ∀ q ∈ failed, base.tFirstFail ≤ q.wallTs

theorem seesFailures_of_rows (hnodup : (failed.map QueryResult.sequence).Nodup)
    (hfail : ∀ q ∈ failed, q.success = false)
    (hrows : ∀ q ∈ failed, ∃ r ∈ db.clientEvents, RowOf comb q r ∧ r.testRunId = testRunId) :
    SeesFailures comb testRunId failed db := by
  refine ⟨hrows,?_,?_⟩
  · simp only [failoverWindowOf]
    rw [List.countP_eq_length_filter]
    have hsub : failed.map QueryResult.sequence ⊆
        ((db.clientEvents.filter fun r => r.testRunId = testRunId && r.combinationId = comb).filter
          fun r => !r.success).map ClientEvent.sequence := by
      intro n hn
      obtain ⟨q,hq,rfl⟩ := List.mem_map.mp hn
      obtain ⟨r,hr,hof,hid⟩ := hrows q hq
      refine List.mem_map.mpr ⟨r,?_,hof.sequence⟩
      simp [hr,hid,hof.combinationId,hof.success,hfail q hq]
    simpa using (hnodup.subperm hsub).length_le
  · intro base hbase hrun q hq
    simp only [waterfallBase,List.mem_filterMap,List.mem_filter,decide_eq_true_eq] at hbase
    obtain ⟨tr,-,hbase⟩ := hbase
    obtain ⟨first,hfirst,rfl⟩ := Option.map_eq_some_iff.mp hbase
    obtain ⟨r,hr,hof,hid⟩ := hrows q hq
    rw [← hof.ts]
    refine (minWhere_eq_some_iff.mp hfirst).2 r ?_ (by simp [hof.success,hfail q hq])
    simp [hr,hid,← hrun]

end Views

section Before

variable {κ : Type} [DecidableEq κ] {b₀ b b' : Bench Unit κ Unit}
  {a : BenchAction Unit κ Unit} {as : List (BenchAction Unit κ Unit)}
  {conn comb testRunId : String} {start stop : Timestamp}

/-- What holds up to step 7 of the runner. -/
structure BeforeStep7 (comb : String) (b : Bench Unit κ Unit) : Prop where
  tagger : Tagger comb b
  updates : (b.runners ()).phase.updates = []

def NoStop (a : BenchAction Unit κ Unit) : Prop := ∀ endTs, a ≠ .runner () (.stop endTs)

theorem runner_before {act : RunnerAction} (hb : BeforeStep7 comb b)
    (ha : NoStop (.runner () act : BenchAction Unit κ Unit))
    (h : b.step (.runner () act) = some b') :
    (b'.runners ()).phase.updates = [] ∧ b'.db.clientEvents = b.db.clientEvents ∧
      b'.db.observerEvents = b.db.observerEvents := by
  obtain ⟨p,out,hp,-,-,hr,hsend⟩ := bench_runner h
  have hp' : b'.runners () = p := by rw [hr]; exact Function.update_self ..
  obtain ⟨hobs,hcl⟩ := bench_events h
  rw [hsend] at hobs hcl
  have hupdates := hb.updates
  rw [hp']
  obtain ⟨-,⟨rfl,-,hsub⟩ | ⟨it,-,hph',rfl⟩ | ⟨it,endTs,rfl,-⟩ |
    ⟨it,st,updates,hph,-,-⟩⟩ := runner_step hp
  · rw [hupdates] at hsub
    exact ⟨List.subset_nil.mp hsub,hcl,hobs⟩
  · exact ⟨by rw [hph']; rfl,hcl,hobs⟩
  · exact absurd rfl (ha endTs)
  · rw [hph] at hupdates
    simp [RunnerPhase.updates] at hupdates

theorem beforeStep7_step (hb : BeforeStep7 comb b) (ha : NoStop a) (h : b.step a = some b') :
    BeforeStep7 comb b' := by
  refine ⟨tagger_step hb.tagger h,?_⟩
  cases a with
  | client i act =>
    obtain ⟨_,_,-,-,-,hr,-⟩ := bench_client h
    rw [hr]; exact hb.updates
  | emitter k act =>
    obtain ⟨_,_,-,-,-,hr,-⟩ := bench_emitter h
    rw [hr]; exact hb.updates
  | runner j act => exact (runner_before hb ha h).1

theorem client_session (hb : BeforeStep7 comb b₀) (ha : Along Bench.step (fun _ a => NoStop a) b₀ as)
    (hrun : run Bench.step b₀ as = some b) :
    ∃ cs s, run ClientSession.step ⟨b₀.clients (),b₀.db⟩ cs = some s ∧
      s.proc = b.clients () ∧ s.db.clientEvents = b.db.clientEvents := by
  refine (invariant (I := fun b : Bench Unit κ Unit => BeforeStep7 comb b ∧
    ∃ cs s, run ClientSession.step ⟨b₀.clients (),b₀.db⟩ cs = some s ∧
      s.proc = b.clients () ∧ s.db.clientEvents = b.db.clientEvents) ?_
    ⟨hb,[],_,rfl,rfl,rfl⟩ ha hrun).2
  intro t a t' hI hstop hstep
  obtain ⟨hbt,cs,s,hs,hproc,hrows⟩ := hI
  refine ⟨beforeStep7_step hbt hstop hstep,?_⟩
  cases a with
  | client i act =>
    obtain ⟨p,out,hp,hc,-,-,hsend⟩ := bench_client hstep
    have hcl := (bench_events hstep).2
    rw [hsend] at hcl
    have hstorable : ∀ r, out = some (.insertClientEvent r) → storable r.error = true := by
      intro r hout
      rw [hout] at hsend
      rcases bench_database hstep with ⟨hnone,-⟩ | ⟨c,st,hs,hdb,-⟩
      · rw [hsend] at hnone; simp at hnone
      · rw [hsend] at hs
        obtain ⟨-,rfl⟩ := Prod.mk.inj (Option.some.inj hs)
        by_contra hno
        simp [Database.receive,Database.exec,hno] at hdb
    obtain ⟨s',hs',hp',hev⟩ := session_of_step (by rw [hproc]; exact hp) hstorable
    refine ⟨cs ++ [act],s',run_snoc.mpr ⟨s,hs,hs'⟩,?_,?_⟩
    · rw [hp',hc,Function.update_self]
    · rw [hev,hcl,hrows]
      cases out <;> rfl
  | emitter k act =>
    obtain ⟨_,_,-,hc,-⟩ := bench_emitter hstep
    exact ⟨cs,s,hs,by rw [hproc,hc],by rw [hrows,(emitter_rows hstep).1]⟩
  | runner j act =>
    obtain ⟨_,_,-,hc,-⟩ := bench_runner hstep
    exact ⟨cs,s,hs,by rw [hproc,hc],by rw [hrows,(runner_before hbt hstop hstep).2.1]⟩

/-- No row of the window carries the id of another run. -/
structure NoOtherRun (testRunId : String) (start stop : Timestamp) (db : Database) : Prop where
  clientEvents : ∀ r ∈ db.clientEvents, start ≤ r.ts ∧ r.ts ≤ stop →
    r.testRunId = "" ∨ r.testRunId = testRunId
  observerEvents : ∀ r ∈ db.observerEvents, start ≤ r.ts ∧ r.ts ≤ stop →
    r.testRunId = "" ∨ r.testRunId = testRunId

/-- When the client inserts the row of a query in the window, the latest failover it has
detected, if any, has this id; and the recovery UPDATE of a failover with another id finds no
row of the window to tag. -/
def KeepsToRun (comb testRunId : String) (start stop : Timestamp) (b : Bench Unit κ Unit) :
    BenchAction Unit κ Unit → Prop
  | .client _ .insertRow => ∀ inserted final r,
    (b.clients ()).phase = .flushing inserted final →
      (b.clients ()).self.results[inserted]? = some r → start ≤ r.wallTs ∧ r.wallTs ≤ stop →
        ∀ e ∈ (failoverEpisodes (b.clients ()).attempts).head?, episodeId comb e = testRunId
  | .client _ .callOk => ∀ id first last calls,
    (b.clients ()).phase = .calling (.tag id first last :: calls) → id ≠ testRunId →
      ∀ r ∈ b.db.observerEvents, first ≤ r.ts ∧ r.ts ≤ last → start ≤ r.ts ∧ r.ts ≤ stop →
        r.testRunId ≠ ""
  | _ => True

section Step

theorem noOtherRun_append {db db' : Database} {new : List ObserverEvent}
    (hcl : db'.clientEvents = db.clientEvents)
    (hobs : db'.observerEvents = db.observerEvents ++ new)
    (hnew : ∀ r ∈ new, r.testRunId = "" ∨ r.testRunId = testRunId) :
    NoOtherRun testRunId start stop db' ↔ NoOtherRun testRunId start stop db := by
  constructor
  · intro hno
    refine ⟨hcl ▸ hno.clientEvents,fun r hr => hno.observerEvents r ?_⟩
    rw [hobs]
    exact List.mem_append_left _ hr
  · intro hno
    refine ⟨hcl ▸ hno.clientEvents,?_⟩
    intro r hr hw
    rw [hobs] at hr
    rcases List.mem_append.mp hr with hr | hr
    · exact hno.observerEvents r hr hw
    · exact hnew r hr

theorem noOtherRun_congr {db db' : Database} (hcl : db'.clientEvents = db.clientEvents)
    (hobs : db'.observerEvents = db.observerEvents) :
    NoOtherRun testRunId start stop db' ↔ NoOtherRun testRunId start stop db :=
  noOtherRun_append hcl (hobs.trans (List.append_nil _).symm) (by simp)

omit [DecidableEq κ] in
theorem client_id_iff (hs : Settles comb (b.clients ())) :
    (b.clients ()).self.testRunId = "" ∨ (b.clients ()).self.testRunId = testRunId ↔
      ∀ e ∈ (failoverEpisodes (b.clients ()).attempts).head?, episodeId comb e = testRunId := by
  have hd := hs.detects
  cases hes : failoverEpisodes (b.clients ()).attempts with
  | nil => simp [hd.untagged hes]
  | cons e rest =>
    have hid : (b.clients ()).self.testRunId = episodeId comb e := by
      rw [hd.testRunId,hd.current e (by rw [hes]; rfl),hs.combinationId]
    simp [hid,episodeId_ne_empty]

theorem noOtherRun_insertRow (hb : BeforeStep7 comb b)
    (h : b.step (.client () .insertRow) = some b') :
    NoOtherRun testRunId start stop b'.db ↔ NoOtherRun testRunId start stop b.db ∧
      KeepsToRun comb testRunId start stop b (.client () .insertRow) := by
  obtain ⟨p,out,hp,-,-,-,hsend⟩ := bench_client h
  obtain ⟨hobs,hcl⟩ := bench_events h
  obtain ⟨r,inserted,final,hph,hr,rfl,-⟩ := client_insertRow hp
  rw [hsend] at hobs hcl
  have hrows : b'.db.clientEvents = b.db.clientEvents ++ [(b.clients ()).self.row r] := hcl
  have hsame : b'.db.observerEvents = b.db.observerEvents := hobs
  constructor
  · intro hno
    refine ⟨⟨fun q hq => hno.clientEvents q ?_,hsame ▸ hno.observerEvents⟩,?_⟩
    · rw [hrows]; exact List.mem_append_left _ hq
    · intro inserted' final' r' hph' hr' hw
      obtain ⟨rfl,rfl⟩ := ClientPhase.flushing.inj (hph.symm.trans hph')
      obtain rfl : r = r' := Option.some.inj (hr.symm.trans hr')
      have hrow := hno.clientEvents ((b.clients ()).self.row r) (by rw [hrows]; simp) hw
      exact (client_id_iff hb.tagger.settles).mp hrow
  · intro hno
    refine ⟨?_,hsame ▸ hno.1.observerEvents⟩
    intro q hq hw
    rw [hrows] at hq
    rcases List.mem_append.mp hq with hq | hq
    · exact hno.1.clientEvents q hq hw
    · obtain rfl := List.mem_singleton.mp hq
      exact (client_id_iff hb.tagger.settles).mpr (hno.2 inserted final r hph hr hw)

theorem noOtherRun_callOk (hb : BeforeStep7 comb b)
    (h : b.step (.client () .callOk) = some b') :
    NoOtherRun testRunId start stop b'.db ↔ NoOtherRun testRunId start stop b.db ∧
      KeepsToRun comb testRunId start stop b (.client () .callOk) := by
  obtain ⟨p,out,hp,-,-,-,hsend⟩ := bench_client h
  obtain ⟨hobs,hcl⟩ := bench_events h
  obtain ⟨c,calls,hph,rfl,-⟩ := client_callOk hp
  rw [hsend] at hobs hcl
  cases c with
  | register r =>
    rw [noOtherRun_congr hcl hobs,and_iff_left]
    intro id first last calls' hph'
    rw [hph] at hph'
    simp at hph'
  | summary id =>
    rw [noOtherRun_congr hcl hobs,and_iff_left]
    intro id first last calls' hph'
    rw [hph] at hph'
    simp at hph'
  | tag id first last =>
    have hid : id ≠ "" := by
      obtain ⟨e,rest,r,-,-,-,hph'⟩ := hb.tagger.settles.due (by
        rw [hph]; simp [ClientPhase.tagDue,DbCall.isTag])
      exact (@forall_tag_iff comb _ e r (fun id _ _ => id ≠ "") hph').mpr
        (episodeId_ne_empty comb e) _ _ _ _ hph
    have hrows : b'.db.observerEvents =
      b.db.observerEvents.map (ObserverEvent.tag id first last) := hobs
    have hsame : b'.db.clientEvents = b.db.clientEvents := hcl
    constructor
    · intro hno
      have hown : ∀ r ∈ b.db.observerEvents, start ≤ r.ts ∧ r.ts ≤ stop →
          (r.testRunId = "" ∨ r.testRunId = testRunId) ∧
            (id ≠ testRunId → first ≤ r.ts ∧ r.ts ≤ last → r.testRunId ≠ "") := by
        intro r hr hw
        exact (newTestRunId_own_iff hid).mp (hno.observerEvents (r.tag id first last)
          (by rw [hrows]; exact List.mem_map_of_mem hr) hw)
      refine ⟨⟨hsame ▸ hno.clientEvents,fun r hr hw => (hown r hr hw).1⟩,?_⟩
      intro id' first' last' calls' hph' hne r hr hcov hw
      obtain ⟨hcall,-⟩ := List.cons.inj (ClientPhase.calling.inj (hph.symm.trans hph'))
      obtain ⟨rfl,rfl,rfl⟩ := DbCall.tag.inj hcall
      exact (hown r hr hw).2 hne hcov
    · intro hno
      refine ⟨hsame ▸ hno.1.clientEvents,?_⟩
      rw [hrows,List.forall_mem_map]
      intro r hr hw
      exact (newTestRunId_own_iff hid).mpr ⟨hno.1.observerEvents r hr hw,
        fun hne hcov => hno.2 id first last calls hph hne r hr hcov hw⟩

theorem noOtherRun_step (hb : BeforeStep7 comb b) (ha : NoStop a) (h : b.step a = some b') :
    NoOtherRun testRunId start stop b'.db ↔ NoOtherRun testRunId start stop b.db ∧
      KeepsToRun comb testRunId start stop b a := by
  cases a with
  | client i act =>
    by_cases hi : act = .insertRow
    · subst hi; exact noOtherRun_insertRow hb h
    by_cases hc : act = .callOk
    · subst hc; exact noOtherRun_callOk hb h
    obtain ⟨p,out,hp,-,-,-,hsend⟩ := bench_client h
    obtain ⟨hobs,hcl⟩ := bench_events h
    obtain rfl := client_quiet hp hi hc
    rw [hsend] at hobs hcl
    rw [noOtherRun_congr hcl hobs,and_iff_left]
    cases act <;> first | contradiction | trivial
  | emitter k act =>
    obtain ⟨hcl,⟨-,hobs⟩ | ⟨c,v,row,-,hobs,-,hid⟩⟩ := emitter_rows h
    · rw [noOtherRun_congr hcl hobs,and_iff_left]
      trivial
    · have hown : ∀ r ∈ [row], r.testRunId = "" ∨ r.testRunId = testRunId := by
        intro r hr
        obtain rfl := List.mem_singleton.mp hr
        exact .inl (hid.trans (hb.tagger.emitters k))
      rw [noOtherRun_append hcl hobs hown,and_iff_left]
      trivial
  | runner j act =>
    obtain ⟨-,hcl,hobs⟩ := runner_before hb ha h
    rw [noOtherRun_congr hcl hobs,and_iff_left]
    trivial

end Step

end Before

section Step7

variable {κ : Type} [DecidableEq κ] {b₀ b b' : Bench Unit κ Unit}
  {a : BenchAction Unit κ Unit} {as : List (BenchAction Unit κ Unit)} {conn comb : String}
  {it : Iteration} {endTs : Timestamp}

/-- What the statements of step 7 sent so far have made of the rows that were there; the
rows that came in between carry no other id than the runner's. -/
structure Step7 (comb : String) (it : Iteration) (updates : List Statement) (db : Database)
    (b : Bench Unit κ Unit) : Prop where
  stopped : (b.clients ()).phase = .stopped
  emitters : ∀ k, (b.emitters k).self.testRunId = ""
  sent : ∃ sent new, updates = sent ++ (b.runners ()).phase.updates ∧
    b.db.clientEvents = sent.foldl Statement.clientEvents db.clientEvents ∧
    b.db.observerEvents = sent.foldl Statement.observerEvents db.observerEvents ++ new ∧
    ∀ r ∈ new, r.testRunId = "" ∨ r.testRunId = it.testRunId comb

def OnlySends (a : BenchAction Unit κ Unit) : Prop := ∀ act, a = .runner () act → act = .sent

theorem updates_append {st : Statement} (hst : st ∈ it.updates comb endTs)
    (rows : List ObserverEvent) {new : List ObserverEvent}
    (hnew : ∀ r ∈ new, r.testRunId = "" ∨ r.testRunId = it.testRunId comb) :
    ∃ new', st.observerEvents (rows ++ new) = st.observerEvents rows ++ new' ∧
      ∀ r ∈ new', r.testRunId = "" ∨ r.testRunId = it.testRunId comb := by
  simp only [Iteration.updates,List.mem_cons,List.not_mem_nil,or_false] at hst
  rcases hst with rfl | rfl | rfl
  · exact ⟨new,rfl,hnew⟩
  · refine ⟨_,List.map_append,?_⟩
    rw [List.forall_mem_map]
    intro r hr
    show newTestRunId _ _ _ r.ts r.testRunId = "" ∨ newTestRunId _ _ _ r.ts r.testRunId = _
    rcases newTestRunId_cases (it.testRunId comb) it.startTs endTs r.ts r.testRunId with
      heq | ⟨-,-,heq⟩ <;> rw [heq]
    · exact hnew r hr
    · exact .inr rfl
  · exact ⟨new,rfl,hnew⟩

omit [DecidableEq κ] in
theorem step7_start (hstopped : (b.clients ()).phase = .stopped)
    (hemitters : ∀ k, (b.emitters k).self.testRunId = "") :
    Step7 comb it (b.runners ()).phase.updates b.db b :=
  ⟨hstopped,hemitters,[],[],rfl,rfl,by simp,by simp⟩

theorem step7_step {db : Database} {updates : List Statement}
    (hsub : updates ⊆ it.updates comb endTs) (hs : Step7 comb it updates db b)
    (ha : OnlySends a) (h : b.step a = some b') : Step7 comb it updates db b' := by
  obtain ⟨hobs,hcl⟩ := bench_events h
  obtain ⟨sent,new,hupdates,hclient,hobserver,hnew⟩ := hs.sent
  have hemitters := fun k => (emitters_testRunId h k).trans (hs.emitters k)
  cases a with
  | client i act =>
    obtain ⟨p,out,hp,hc,-,hr,hsend⟩ := bench_client h
    obtain ⟨hph,rfl⟩ := client_stopped hp hs.stopped
    rw [hsend] at hobs hcl
    refine ⟨?_,hemitters,sent,new,hr ▸ hupdates,hcl.trans hclient,hobs.trans hobserver,
      hnew⟩
    rw [hc,Function.update_self]
    exact hph
  | emitter k act =>
    obtain ⟨_,_,-,hc,-,hr,-⟩ := bench_emitter h
    obtain ⟨hcl',hrows⟩ := emitter_rows h
    have hstopped : (b'.clients ()).phase = .stopped := by rw [hc]; exact hs.stopped
    rcases hrows with ⟨-,hobs'⟩ | ⟨_,_,row,-,hobs',-,hid⟩
    · exact ⟨hstopped,hemitters,sent,new,hr ▸ hupdates,hcl'.trans hclient,
        hobs'.trans hobserver,hnew⟩
    · refine ⟨hstopped,hemitters,sent,new ++ [row],hr ▸ hupdates,hcl'.trans hclient,?_,?_⟩
      · rw [hobs',hobserver,List.append_assoc]
      · intro r hr
        rcases List.mem_append.mp hr with hr | hr
        · exact hnew r hr
        · obtain rfl := List.mem_singleton.mp hr
          exact .inl (hid.trans (hs.emitters k))
  | runner j act =>
    obtain rfl := ha act rfl
    obtain ⟨p,out,hp,hc,-,hr,hsend⟩ := bench_runner h
    have hp' : b'.runners () = p := by rw [hr]; exact Function.update_self ..
    rw [hsend] at hobs hcl
    have hstopped : (b'.clients ()).phase = .stopped := by rw [hc]; exact hs.stopped
    obtain ⟨-,⟨rfl,hlost,hless⟩ | ⟨it',hph,hph',rfl⟩ | ⟨_,_,hstop,-⟩ |
      ⟨it',st,rest,hph,hph',rfl⟩⟩ := runner_step hp
    · have hnil := hlost.resolve_left (by simp)
      rw [hnil] at hless
      refine ⟨hstopped,hemitters,sent,new,?_,hcl.trans hclient,hobs.trans hobserver,hnew⟩
      rw [hupdates,hp',hnil,List.subset_nil.mp hless]
    · refine ⟨hstopped,hemitters,sent,new,?_,hcl.trans hclient,hobs.trans hobserver,hnew⟩
      rw [hupdates,hp',hph,hph']
      rfl
    · contradiction
    · have hst : st ∈ it.updates comb endTs := by
        refine hsub ?_
        rw [hupdates,hph]
        simp [RunnerPhase.updates]
      obtain ⟨new',happend,hnew'⟩ :=
        updates_append hst (sent.foldl Statement.observerEvents db.observerEvents) hnew
      refine ⟨hstopped,hemitters,sent ++ [st],new',?_,?_,?_,hnew'⟩
      · rw [hupdates,hp',hph,hph',afterUpdate_updates,List.append_assoc]; rfl
      · rw [List.foldl_append,← hclient]; exact hcl
      · rw [List.foldl_append,hobs]
        show st.observerEvents b.db.observerEvents = _
        rw [hobserver]
        exact happend

def Iteration.taggingUpdates (it : Iteration) (comb : String) (endTs : Timestamp) :
    List Statement :=
  [.tagObserverEvents (it.testRunId comb) it.startTs endTs,
    .tagClientEvents (it.testRunId comb) it.startTs endTs]

/-- An iteration against a client in auto mode: the client is started at `b₀`, it is stopped
and its last flush is done at `b₁`, the two UPDATEs that tag come next at `b₂`, and at `b₃`
they have succeeded. -/
structure IterationRun (conn comb : String) (it : Iteration) (endTs : Timestamp)
    (b₀ b₁ b₂ b₃ : Bench Unit κ Unit) (pre mid post : List (BenchAction Unit κ Unit)) :
    Prop where
  connstring : conn ≠ ""
  client : b₀.clients () = .start (.init conn comb "")
  emitters : ∀ k, (b₀.emitters k).self.testRunId = ""
  idle : b₀.runners () = ⟨comb,.idle⟩
  before : run Bench.step b₀ pre = some b₁
  noStop : ∀ a ∈ pre, NoStop a
  running : b₁.runners () = ⟨comb,.running it⟩
  stopped : (b₁.clients ()).phase = .stopped
  flushed : (b₁.clients ()).self.results = []
  ended : run Bench.step b₁ (.runner () (.stop endTs) :: mid) = some b₂
  midSends : ∀ a ∈ mid, OnlySends a
  tagging : (b₂.runners ()).phase = .tagging it (it.taggingUpdates comb endTs)
  updated : run Bench.step b₂ post = some b₃
  postSends : ∀ a ∈ post, OnlySends a
  done : (b₃.runners ()).phase = .idle

def failedWithin (start stop : Timestamp) (attempts : List QueryResult) : List QueryResult :=
  attempts.filter fun q => !q.success && decide (start ≤ q.wallTs ∧ q.wallTs ≤ stop)

/-- Every client row of the window carries the runner's id, every observer row written before
the UPDATE does, and the views see every failed query of the window. -/
structure IterationTagged (comb : String) (it : Iteration) (endTs : Timestamp)
    (b₁ b₂ b₃ : Bench Unit κ Unit) : Prop where
  clientEvents : ∀ r ∈ b₃.db.clientEvents, it.startTs ≤ r.ts ∧ r.ts ≤ endTs →
    r.testRunId = it.testRunId comb
  observerEvents : ∀ r ∈ b₃.db.observerEvents.take b₂.db.observerEvents.length,
    it.startTs ≤ r.ts ∧ r.ts ≤ endTs → r.testRunId = it.testRunId comb
  failures : SeesFailures comb (it.testRunId comb)
    (failedWithin it.startTs endTs (b₁.clients ()).attempts) b₃.db

section Iteration

variable {b₁ b₂ b₃ : Bench Unit κ Unit} {pre mid post : List (BenchAction Unit κ Unit)}

theorem IterationRun.beforeStep7 (h : IterationRun conn comb it endTs b₀ b₁ b₂ b₃ pre mid post) :
    BeforeStep7 comb b₀ :=
  ⟨⟨by rw [h.client]; exact settles_start conn comb,h.emitters⟩,by rw [h.idle]; rfl⟩

theorem IterationRun.mid_rows (h : IterationRun conn comb it endTs b₀ b₁ b₂ b₃ pre mid post) :
    Step7 comb it (it.taggingUpdates comb endTs) b₂.db b₂ ∧
      b₂.db.clientEvents = b₁.db.clientEvents ∧
      ∃ new, b₂.db.observerEvents = b₁.db.observerEvents ++ new ∧
        ∀ r ∈ new, r.testRunId = "" ∨ r.testRunId = it.testRunId comb := by
  have hbefore : BeforeStep7 comb b₁ := invariant (fun _ _ _ => beforeStep7_step) h.beforeStep7
    (along_of_mem h.noStop b₀) h.before
  obtain ⟨t,ht,hmid⟩ := run_cons.mp h.ended
  obtain ⟨p,out,hp,hc,he,hr,hsend⟩ := bench_runner ht
  obtain ⟨hobs,hcl⟩ := bench_events ht
  rw [h.running] at hp
  obtain ⟨rfl,rfl⟩ := Prod.mk.inj (Option.some.inj hp)
  rw [hsend] at hobs hcl
  have hupdates : (t.runners ()).phase.updates = it.updates comb endTs := by
    rw [hr,Function.update_self]
    rfl
  have hstart : Step7 comb it (it.updates comb endTs) t.db t :=
    hupdates ▸ step7_start (by rw [hc]; exact h.stopped) (by rw [he]; exact hbefore.tagger.emitters)
  have hend := invariant (fun _ _ _ => step7_step (List.Subset.refl _)) hstart
    (along_of_mem h.midSends t) hmid
  obtain ⟨sent,new,hsent,hclient,hobserver,hnew⟩ := hend.sent
  rw [h.tagging] at hsent
  have hsplit : [Statement.setEndedAt (it.testRunId comb) endTs] ++
      it.taggingUpdates comb endTs = sent ++ it.taggingUpdates comb endTs := hsent
  obtain rfl := List.append_cancel_right hsplit
  refine ⟨?_,hclient.trans hcl,new,?_,hnew⟩
  · have hagain : Step7 comb it (b₂.runners ()).phase.updates b₂.db b₂ :=
      step7_start hend.stopped hend.emitters
    rw [h.tagging] at hagain
    exact hagain
  · rw [hobserver,hobs]
    rfl

theorem IterationRun.tagged (h : IterationRun conn comb it endTs b₀ b₁ b₂ b₃ pre mid post) :
    b₃.db.clientEvents =
        b₂.db.clientEvents.map (ClientEvent.tag (it.testRunId comb) it.startTs endTs) ∧
      b₃.db.observerEvents.take b₂.db.observerEvents.length =
        b₂.db.observerEvents.map (ObserverEvent.tag (it.testRunId comb) it.startTs endTs) := by
  have hend := invariant (fun _ _ _ => step7_step (List.subset_cons_self _ _)) h.mid_rows.1
    (along_of_mem h.postSends b₂) h.updated
  obtain ⟨sent,new,hsent,hclient,hobserver,-⟩ := hend.sent
  rw [h.done] at hsent
  obtain rfl : it.taggingUpdates comb endTs = sent := hsent.trans (List.append_nil sent)
  have hobs : b₃.db.observerEvents = b₂.db.observerEvents.map
      (ObserverEvent.tag (it.testRunId comb) it.startTs endTs) ++ new := hobserver
  refine ⟨hclient,?_⟩
  rw [hobs]
  exact List.take_left' (List.length_map _)

theorem IterationRun.session (h : IterationRun conn comb it endTs b₀ b₁ b₂ b₃ pre mid post) :
    ∃ cs s, run ClientSession.step (.start (.init conn comb "") b₀.db) cs = some s ∧
      s.proc = b₁.clients () ∧ s.db.clientEvents = b₁.db.clientEvents := by
  have hsession := client_session h.beforeStep7 (along_of_mem h.noStop b₀) h.before
  rw [h.client] at hsession
  exact hsession

theorem IterationRun.sequences_nodup
    (h : IterationRun conn comb it endTs b₀ b₁ b₂ b₃ pre mid post) :
    ((b₁.clients ()).attempts.map QueryResult.sequence).Nodup := by
  obtain ⟨cs,s,hs,hproc,-⟩ := h.session
  rw [← hproc]
  exact (run_kept hs).nodup

/-- The flushes of the stopped client have delivered every query, a failed one under the id
of a failover. -/
theorem IterationRun.delivered (h : IterationRun conn comb it endTs b₀ b₁ b₂ b₃ pre mid post) :
    ∀ q ∈ (b₁.clients ()).attempts, ∃ r ∈ b₂.db.clientEvents, RowOf comb q r ∧
      (q.success = false → ∃ e ∈ failoverEpisodes (b₁.clients ()).attempts,
        r.testRunId = episodeId comb e) := by
  intro q hq
  obtain ⟨cs,s,hs,hproc,hrows⟩ := h.session
  obtain ⟨r,hr,hof⟩ := run_delivered h.connstring hs (by rw [hproc]; exact h.flushed) q
    (by rw [hproc]; exact hq)
  have hmem : r ∈ b₂.db.clientEvents := by
    rw [h.mid_rows.2.1,← hrows]
    exact List.mem_of_mem_drop hr
  refine ⟨r,hmem,hof,fun hfail => ?_⟩
  rw [← hproc]
  exact run_failed_rows hs r hr (hof.success.trans hfail)

theorem IterationRun.tagged_iff (h : IterationRun conn comb it endTs b₀ b₁ b₂ b₃ pre mid post) :
    IterationTagged comb it endTs b₁ b₂ b₃ ↔
      NoOtherRun (it.testRunId comb) it.startTs endTs b₂.db := by
  obtain ⟨hcl,hobs⟩ := h.tagged
  have hclient : (∀ r ∈ b₃.db.clientEvents, it.startTs ≤ r.ts ∧ r.ts ≤ endTs →
      r.testRunId = it.testRunId comb) ↔ ∀ r ∈ b₂.db.clientEvents,
        it.startTs ≤ r.ts ∧ r.ts ≤ endTs → r.testRunId = "" ∨ r.testRunId = it.testRunId comb := by
    rw [hcl,List.forall_mem_map]
    exact forall₂_congr fun r _ => forall_congr' fun hw => newTestRunId_eq_iff hw
  constructor
  · intro ht
    refine ⟨hclient.mp ht.clientEvents,?_⟩
    rw [← tag_covered_iff,← hobs]
    exact ht.observerEvents
  · intro hno
    have hrows := hclient.mpr hno.clientEvents
    refine ⟨hrows,?_,?_⟩
    · rw [hobs]
      exact tag_covered_iff.mpr hno.observerEvents
    · refine seesFailures_of_rows (h.sequences_nodup.sublist (List.filter_sublist.map _)) ?_ ?_
      · intro q hq
        simpa using (Bool.and_eq_true_iff.mp (List.mem_filter.mp hq).2).1
      · intro q hq
        obtain ⟨hatt,hfilter⟩ := List.mem_filter.mp hq
        have hw := of_decide_eq_true (Bool.and_eq_true_iff.mp hfilter).2
        obtain ⟨r,hr,hof,-⟩ := h.delivered q hatt
        have hmem : r.tag (it.testRunId comb) it.startTs endTs ∈ b₃.db.clientEvents := by
          rw [hcl]; exact List.mem_map_of_mem hr
        refine ⟨_,hmem,
          ⟨hof.ts,hof.combinationId,hof.sequence,hof.success,hof.latencyUs,hof.error⟩,?_⟩
        refine hrows _ hmem ?_
        show it.startTs ≤ r.ts ∧ r.ts ≤ endTs
        rw [hof.ts]
        exact hw

theorem IterationRun.noOtherRun_iff
    (h : IterationRun conn comb it endTs b₀ b₁ b₂ b₃ pre mid post) :
    NoOtherRun (it.testRunId comb) it.startTs endTs b₂.db ↔
      NoOtherRun (it.testRunId comb) it.startTs endTs b₁.db := by
  obtain ⟨-,hcl,new,hobs,hnew⟩ := h.mid_rows
  exact noOtherRun_append hcl hobs hnew

end Iteration

end Step7

section Samples

def iterationBench : Bench Unit Unit Unit where
  clients _ := .start heartbeatClient
  emitters _ := .start haproxyEmitter
  runners _ := ⟨"06-haproxy-rest-polling",.idle⟩
  db := .empty
  tagged := []

def hardStop : Iteration where
  localSeconds := 1776999990
  startTs := 1776999990000000
  scenario := "hard_stop"

/-- Steps 2 to 6 around what the client does until it is stopped. -/
def stepsTo6 (client : List ClientAction) : List (BenchAction Unit Unit Unit) :=
  [.runner () (.start hardStop),.runner () .sent] ++ client.map (.client ()) ++
    [.client () .shutdown,.client () .exit,.client () .insertRow,.client () .flushDone]

/-- No failover is open, and none has been. -/
def Undisturbed (b : Bench Unit Unit Unit) : Prop :=
  (failoverEpisodes (b.clients ()).attempts).isEmpty = true ∧
    (b.clients ()).phase.tagDue = false

instance (b : Bench Unit Unit Unit) : Decidable (Undisturbed b) :=
  inferInstanceAs (Decidable (_ ∧ _))

theorem keepsToRun_of_undisturbed {comb testRunId : String} {start stop : Timestamp}
    (b : Bench Unit Unit Unit) (a : BenchAction Unit Unit Unit) (h : Undisturbed b) :
    KeepsToRun comb testRunId start stop b a := by
  obtain ⟨hnone,hdue⟩ := h
  rw [List.isEmpty_iff] at hnone
  cases a with
  | client i act =>
    cases act with
    | insertRow =>
      intro inserted final r _ _ _ e he
      rw [hnone] at he
      simp at he
    | callOk =>
      intro id first last calls hph
      rw [hph] at hdue
      simp [ClientPhase.tagDue,DbCall.isTag] at hdue
    | _ => trivial
  | _ => trivial

/-- Two queries succeed, and an observer sees a backend go down. -/
def watchedSuccesses : List (BenchAction Unit Unit Unit) :=
  [.runner () (.start hardStop),.runner () .sent] ++ (successes 0 2).map (.client ()) ++
    (emitAndFlush backendDown).map (.emitter ()) ++
    ([.shutdown,.exit,.insertRow,.insertRow,.flushDone] : List ClientAction).map (.client ())

end Samples

end RoutingBench
