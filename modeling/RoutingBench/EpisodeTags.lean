import RoutingBench.Bench
import RoutingBench.EmitterDelivery
import RoutingBench.RunIds
set_option autoImplicit false

/-!
Which observer rows the client's recovery UPDATE tags: those that are in the table by
then. One client and any number of emitters.
-/

namespace RoutingBench
open Episodes Runs

/-- Between the first failed query of a failover and the success that closes it. -/
def FailoverEpisode.covers (e : FailoverEpisode) (ts : Timestamp) : Prop :=
  e.onset.wallTs ≤ ts ∧ (e.later.head?.any fun r => decide (ts ≤ r.wallTs)) = true

instance (e : FailoverEpisode) (ts : Timestamp) : Decidable (e.covers ts) :=
  inferInstanceAs (Decidable (_ ∧ _))

theorem FailoverEpisode.covers_iff {e : FailoverEpisode} {r : QueryResult}
    (h : e.later.head? = some r) (ts : Timestamp) :
    e.covers ts ↔ e.onset.wallTs ≤ ts ∧ ts ≤ r.wallTs := by
  simp [covers,h]

theorem episodeId_ne_empty (comb : String) (e : FailoverEpisode) : episodeId comb e ≠ "" := by
  simp [episodeId,generateTestRunId]

def DbCall.isTag : DbCall → Bool
  | .tag _ _ _ => true
  | _ => false

def ClientPhase.tagDue (ph : ClientPhase) : Bool := ph.calls.any DbCall.isTag

def ClientProc.settled (p : ClientProc) : List FailoverEpisode :=
  ((failoverEpisodes p.attempts).drop (if p.phase.tagDue then 1 else 0)).filter fun e =>
    e.closed 3

section Client

variable {comb : String} {p p' : ClientProc} {out : Option Statement} {a : ClientAction}

def recoveryCalls (comb : String) (e : FailoverEpisode) (r : QueryResult) : List DbCall :=
  [.tag (episodeId comb e) e.onset.wallTs r.wallTs,.summary (episodeId comb e)]

/-- A recovery UPDATE that is due is the one of the latest failover, which is closed. -/
structure Settles (comb : String) (p : ClientProc) : Prop where
  combinationId : p.self.combinationId = comb
  detects : Detects p.self (failoverEpisodes p.attempts)
  due : p.phase.tagDue = true → ∃ e rest r, failoverEpisodes p.attempts = e :: rest ∧
    e.closed 3 = true ∧ e.later.head? = some r ∧ p.phase = .calling (recoveryCalls comb e r)

theorem settles_start (conn comb : String) : Settles comb (.start (.init conn comb "")) :=
  ⟨rfl,detects_init conn comb,by simp [ClientProc.start,ClientPhase.tagDue,ClientPhase.calls]⟩

theorem settled_of_not_due (h : p.phase.tagDue = false) :
    p.settled = (failoverEpisodes p.attempts).filter fun e => e.closed 3 := by
  simp [ClientProc.settled,h]

theorem settles_attempt {o : Outcome} (hs : Settles comb p) (hph : p.phase = .loop) :
    Settles comb (p.attempt o) ∧ (p.attempt o).settled = p.settled := by
  have hd := detects_appendResult hs.detects (queryResult (p.self.sequence + 1) o)
  have hd' := detects_step hd (queryResult (p.self.sequence + 1) o)
  have hphase : (p.attempt o).phase = .calling
      ((p.self.appendResult (queryResult (p.self.sequence + 1) o)).handleAutoTestRun
        (queryResult (p.self.sequence + 1) o)).2 := rfl
  have hold : p.settled = (failoverEpisodes p.attempts).filter fun e => e.closed 3 :=
    settled_of_not_due (by rw [hph]; rfl)
  have hepisodes : failoverEpisodes (p.attempt o).attempts =
      add 3 (failoverEpisodes p.attempts) (queryResult (p.self.sequence + 1) o) :=
    failoverEpisodes_snoc _ _
  have hcomb : (p.attempt o).self.combinationId = comb := by
    rw [attempt_combinationId]; exact hs.combinationId
  have hdetects : Detects (p.attempt o).self (failoverEpisodes (p.attempt o).attempts) := by
    rw [hepisodes]; exact hd'
  have hnone : (p.attempt o).phase.tagDue = false →
      (add 3 (failoverEpisodes p.attempts) (queryResult (p.self.sequence + 1) o)).filter
        (fun e => e.closed 3) = (failoverEpisodes p.attempts).filter (fun e => e.closed 3) →
      Settles comb (p.attempt o) ∧ (p.attempt o).settled = p.settled := by
    intro hdue hfilter
    refine ⟨⟨hcomb,hdetects,by simp [hdue]⟩,?_⟩
    rw [settled_of_not_due hdue,hepisodes,hfilter,hold]
  rcases add_cases 3 (failoverEpisodes p.attempts)
    (queryResult (p.self.sequence + 1) o) with ⟨hin,hr,hadd⟩ | ⟨hr,hin,hadd⟩ |
      ⟨e,rest,hes,hc,hadd⟩
  · refine hnone ?_ (by rw [hadd])
    rw [hphase,handle_idle hd hin hr]
    rfl
  · refine hnone ?_ (by rw [hadd]; simp [Episode.closed,streak])
    rw [hphase,handle_onset hd hin hr]
    rfl
  · rw [hes] at hd
    cases hc' : (e.extend (queryResult (p.self.sequence + 1) o)).closed 3 with
    | false =>
      refine hnone ?_ (by rw [hadd,hes]; simp [hc,hc'])
      rw [hphase,handle_inside hd hc hc']
      rfl
    | true =>
      have hcalls : (p.attempt o).phase = .calling (recoveryCalls comb
          (e.extend (queryResult (p.self.sequence + 1) o))
          (queryResult (p.self.sequence + 1) o)) := by
        rw [hphase,handle_recovery hd hc hc',← hs.combinationId]
        rfl
      have hdue : (p.attempt o).phase.tagDue = true := by rw [hcalls]; rfl
      refine ⟨⟨hcomb,hdetects,fun _ => ⟨_,rest,_,by rw [hepisodes,hadd],hc',rfl,hcalls⟩⟩,?_⟩
      rw [hold,ClientProc.settled,hdue,hepisodes,hadd,hes]
      simp [hc]

theorem observerEvents_of_not_tag {c : DbCall} {st : Statement} (hc : c.isTag = false)
    (hst : c.statement = some st) (rows : List ObserverEvent) : st.observerEvents rows = rows := by
  cases c with
  | register r =>
    obtain rfl := Option.some.inj hst
    rfl
  | tag testRunId start stop => simp [DbCall.isTag] at hc
  | summary testRunId => simp [DbCall.statement] at hst

theorem settles_not_due (hs : Settles comb p) (hdue : p.phase.tagDue = false)
    (h : p.step a = some (p',out)) (ha : ∀ o, a ≠ .attempt o) :
    Settles comb p' ∧ p'.settled = p.settled ∧
      ∀ st ∈ out, ∀ rows, st.observerEvents rows = rows := by
  obtain ⟨hatt,-,hself⟩ := client_keeps h ha
  obtain ⟨hsub,hout⟩ := client_calls h ha
  have hcalls : ∀ c ∈ p.phase.calls, c.isTag = false := by
    simpa [ClientPhase.tagDue] using hdue
  have hdue' : p'.phase.tagDue = false := by
    simp only [ClientPhase.tagDue,List.any_eq_false]
    intro c hc
    simp [hcalls c (hsub hc)]
  refine ⟨⟨by rw [hself]; exact hs.combinationId,detects_client_step h hs.detects,
    by simp [hdue']⟩,?_,?_⟩
  · rw [settled_of_not_due hdue',settled_of_not_due hdue,hatt]
  · intro st hst rows
    rcases hout st hst with ⟨r,rfl⟩ | ⟨c,hc,hcst⟩
    · rfl
    · exact observerEvents_of_not_tag (hcalls c hc) hcst rows

theorem settles_made {e : FailoverEpisode} {rest : List FailoverEpisode} {r : QueryResult}
    {c : DbCall} {calls : List DbCall} (hs : Settles comb p)
    (hes : failoverEpisodes p.attempts = e :: rest) (hclosed : e.closed 3 = true)
    (hph : p.phase = .calling (recoveryCalls comb e r)) (hcall : p.phase = .calling (c :: calls)) :
    c = .tag (episodeId comb e) e.onset.wallTs r.wallTs ∧
      Settles comb { p with phase := .calling calls } ∧
      ({ p with phase := .calling calls } : ClientProc).settled = e :: p.settled := by
  obtain ⟨rfl,rfl⟩ := List.cons.inj (ClientPhase.calling.inj (hcall.symm.trans hph))
  have hdue : ({ p with phase := .calling [.summary (episodeId comb e)] } :
    ClientProc).phase.tagDue = false := rfl
  refine ⟨rfl,⟨hs.combinationId,hs.detects,by simp [hdue]⟩,?_⟩
  rw [settled_of_not_due hdue,ClientProc.settled,hph]
  show List.filter _ (failoverEpisodes p.attempts) = _
  simp [hes,hclosed,ClientPhase.tagDue,recoveryCalls,DbCall.isTag]

theorem settles_step (hs : Settles comb p) (h : p.step a = some (p',out)) :
    Settles comb p' ∧
      ((p'.settled = p.settled ∧ (a = .callOk ∨ a = .callFail → p.phase.tagDue = false) ∧
          ∀ st ∈ out, ∀ rows, st.observerEvents rows = rows) ∨
        ∃ e r, e.later.head? = some r ∧ p.phase = .calling (recoveryCalls comb e r) ∧
          p'.settled = e :: p.settled ∧
          ((a = .callOk ∧
              out = some (.tagObserverEvents (episodeId comb e) e.onset.wallTs r.wallTs)) ∨
            (a = .callFail ∧ out = none))) := by
  by_cases ha : ∃ o, a = .attempt o
  · obtain ⟨o,rfl⟩ := ha
    obtain ⟨hph,-,rfl,rfl⟩ := client_attempt h
    obtain ⟨hs',hsettled⟩ := settles_attempt (o := o) hs hph
    exact ⟨hs',.inl ⟨hsettled,by simp,by simp⟩⟩
  have ha' := fun o ho => ha ⟨o,ho⟩
  cases hdue : p.phase.tagDue with
  | false =>
    obtain ⟨hs',hsettled,hout⟩ := settles_not_due hs hdue h ha'
    exact ⟨hs',.inl ⟨hsettled,fun _ => rfl,hout⟩⟩
  | true =>
    obtain ⟨e,rest,r,hes,hclosed,hr,hph⟩ := hs.due hdue
    cases a with
    | attempt o => exact absurd rfl (ha' o)
    | callOk =>
      obtain ⟨c,calls,hcall,rfl,rfl⟩ := client_callOk h
      obtain ⟨rfl,hs',hset⟩ := settles_made hs hes hclosed hph hcall
      exact ⟨hs',.inr ⟨e,r,hr,hph,hset,.inl ⟨rfl,rfl⟩⟩⟩
    | callFail =>
      obtain ⟨c,calls,hcall,rfl,rfl⟩ := client_callFail h
      obtain ⟨rfl,hs',hset⟩ := settles_made hs hes hclosed hph hcall
      exact ⟨hs',.inr ⟨e,r,hr,hph,hset,.inr ⟨rfl,rfl⟩⟩⟩
    | shutdown =>
      obtain ⟨rfl,rfl⟩ := client_shutdown h
      exact ⟨⟨hs.combinationId,detects_client_step h hs.detects,hs.due⟩,
        .inl ⟨rfl,by simp,by simp⟩⟩
    | checkBatch =>
      obtain ⟨hph',-⟩ := client_checkBatch h
      simp [hph,recoveryCalls] at hph'
    | insertRow =>
      obtain ⟨_,_,_,hph',-⟩ := client_insertRow h
      simp [hph] at hph'
    | flushFail =>
      obtain ⟨_,_,hph',-⟩ := client_flushFail h
      simp [hph] at hph'
    | flushDone =>
      obtain ⟨_,hph',-⟩ := client_flushDone h
      simp [hph] at hph'
    | exit =>
      obtain ⟨hph',-⟩ := client_exit h
      simp [hph] at hph'

theorem forall_tag_iff {ph : ClientPhase} {e : FailoverEpisode} {r : QueryResult}
    {P : String → Timestamp → Timestamp → Prop} (hph : ph = .calling (recoveryCalls comb e r)) :
    (∀ testRunId start stop calls, ph = .calling (.tag testRunId start stop :: calls) →
        P testRunId start stop) ↔ P (episodeId comb e) e.onset.wallTs r.wallTs := by
  constructor
  · exact fun h => h _ _ _ _ hph
  · intro h testRunId start stop calls hcall
    obtain ⟨htag,-⟩ := List.cons.inj (ClientPhase.calling.inj (hcall.symm.trans hph))
    obtain ⟨rfl,rfl,rfl⟩ := DbCall.tag.inj htag
    exact h

end Client

section Tagger

variable {κ ρ : Type} [DecidableEq κ] [DecidableEq ρ] {b b' : Bench Unit κ ρ}
  {a : BenchAction Unit κ ρ} {comb : String}

/-- What holds in every run of one client with emitters that have no id of their own. -/
structure Tagger (comb : String) (b : Bench Unit κ ρ) : Prop where
  settles : Settles comb (b.clients ())
  emitters : ∀ k, (b.emitters k).self.testRunId = ""

theorem tagger_step (ht : Tagger comb b) (h : b.step a = some b') : Tagger comb b' := by
  constructor
  · rcases clients_step h () with heq | ⟨act,out,-,hp,-⟩
    · rw [heq]; exact ht.settles
    · exact (settles_step ht.settles hp).1
  · exact fun k => (emitters_testRunId h k).trans (ht.emitters k)

end Tagger

section Bench

variable {κ : Type} [DecidableEq κ] {b₀ b b' : Bench Unit κ Empty}
  {a : BenchAction Unit κ Empty} {as : List (BenchAction Unit κ Empty)} {conn comb : String}

/-- Every observer row covered by a closed failover whose UPDATE is over carries its id. -/
def EpisodesTagged (comb : String) (b : Bench Unit κ Empty) : Prop :=
  ∀ e ∈ (b.clients ()).settled, ∀ r ∈ b.db.observerEvents, e.covers r.ts →
    r.testRunId = episodeId comb e

/-- An event is not inserted once the UPDATE of a failover that covers it is over. -/
def InsertedInTime (b : Bench Unit κ Empty) (a : BenchAction Unit κ Empty) : Prop :=
  ∀ c v, b.sends a = some (c,.insertObserverEvent v) →
    ∀ e ∈ (b.clients ()).settled, ¬ e.covers v.ts

/-- No covered row carries another id when the recovery UPDATE is made, and none is without
the id when it is lost. -/
def UpdateReaches (b : Bench Unit κ Empty) : BenchAction Unit κ Empty → Prop
  | .client _ .callOk => ∀ testRunId start stop calls,
    (b.clients ()).phase = .calling (.tag testRunId start stop :: calls) →
      ∀ r ∈ b.db.observerEvents, start ≤ r.ts ∧ r.ts ≤ stop →
        r.testRunId = "" ∨ r.testRunId = testRunId
  | .client _ .callFail => ∀ testRunId start stop calls,
    (b.clients ()).phase = .calling (.tag testRunId start stop :: calls) →
      ∀ r ∈ b.db.observerEvents, start ≤ r.ts ∧ r.ts ≤ stop → r.testRunId = testRunId
  | _ => True

theorem tag_covered_iff {rows : List ObserverEvent} {testRunId : String} {start stop : Timestamp} :
    (∀ r ∈ rows.map (ObserverEvent.tag testRunId start stop), start ≤ r.ts ∧ r.ts ≤ stop →
        r.testRunId = testRunId) ↔
      ∀ r ∈ rows, start ≤ r.ts ∧ r.ts ≤ stop → r.testRunId = "" ∨ r.testRunId = testRunId := by
  rw [List.forall_mem_map]
  exact forall₂_congr fun r _ => forall_congr' fun hw => newTestRunId_eq_iff hw

omit [DecidableEq κ] in
theorem updateReaches_of_not_due {act : ClientAction}
    (h : act = .callOk ∨ act = .callFail → (b.clients ()).phase.tagDue = false) :
    UpdateReaches b (.client () act) := by
  have hundue : act = .callOk ∨ act = .callFail → ∀ testRunId start stop calls,
      (b.clients ()).phase ≠ .calling (.tag testRunId start stop :: calls) := by
    intro hact testRunId start stop calls hph
    have := h hact
    simp [hph,ClientPhase.tagDue,DbCall.isTag] at this
  cases act with
  | callOk => exact fun _ _ _ _ hph => absurd hph (hundue (.inl rfl) _ _ _ _)
  | callFail => exact fun _ _ _ _ hph => absurd hph (hundue (.inr rfl) _ _ _ _)
  | _ => trivial

theorem episodesTagged_client {act : ClientAction} (ht : Tagger comb b)
    (hI : EpisodesTagged comb b) (h : b.step (.client () act) = some b') :
    EpisodesTagged comb b' ↔ UpdateReaches b (.client () act) := by
  obtain ⟨p,out,hp,hc,-,-,hsend⟩ := bench_client h
  have hcl : b'.clients () = p := by rw [hc]; exact Function.update_self ..
  have hobs := (bench_events h).1
  rw [hsend] at hobs
  unfold EpisodesTagged at hI ⊢
  rw [hcl]
  obtain ⟨-,⟨hset,hnot,hout⟩ | ⟨e,r,hr,hph,hset,hmade⟩⟩ := settles_step ht.settles hp
  · have hsame : b'.db.observerEvents = b.db.observerEvents := by
      cases out with
      | none => exact hobs
      | some st => exact hobs.trans (hout st rfl _)
    rw [hset,hsame]
    exact iff_of_true hI (updateReaches_of_not_due hnot)
  · rw [hset,List.forall_mem_cons]
    simp only [e.covers_iff hr]
    rcases hmade with ⟨rfl,rfl⟩ | ⟨rfl,rfl⟩
    · have hrows : b'.db.observerEvents = b.db.observerEvents.map
          (ObserverEvent.tag (episodeId comb e) e.onset.wallTs r.wallTs) := hobs
      have hothers : ∀ e' ∈ (b.clients ()).settled, ∀ row ∈ b'.db.observerEvents,
          e'.covers row.ts → row.testRunId = episodeId comb e' := by
        intro e' he' row hrow hcov
        rw [hrows] at hrow
        obtain ⟨old,hold,rfl⟩ := List.mem_map.mp hrow
        have hthere := hI e' he' old hold hcov
        have hkeep := @newTestRunId_of_tagged (episodeId comb e) old.testRunId e.onset.wallTs
          r.wallTs old.ts (hthere ▸ episodeId_ne_empty comb e')
        exact hkeep.trans hthere
      rw [and_iff_left hothers,hrows,tag_covered_iff]
      exact (@forall_tag_iff comb _ e r (fun testRunId start stop =>
        ∀ row ∈ b.db.observerEvents, start ≤ row.ts ∧ row.ts ≤ stop →
          row.testRunId = "" ∨ row.testRunId = testRunId) hph).symm
    · have hrows : b'.db.observerEvents = b.db.observerEvents := hobs
      rw [hrows,and_iff_left hI]
      exact (@forall_tag_iff comb _ e r (fun testRunId start stop =>
        ∀ row ∈ b.db.observerEvents, start ≤ row.ts ∧ row.ts ≤ stop →
          row.testRunId = testRunId) hph).symm

theorem episodesTagged_emitter {k : κ} {act : EmitterAction} (ht : Tagger comb b)
    (hI : EpisodesTagged comb b) (h : b.step (.emitter k act) = some b') :
    EpisodesTagged comb b' ↔ InsertedInTime b (.emitter k act) := by
  obtain ⟨_,_,-,hc,-⟩ := bench_emitter h
  unfold EpisodesTagged InsertedInTime at *
  rw [hc]
  rcases (emitter_rows h).2 with ⟨hsend,hobs⟩ | ⟨c,v,row,hsend,hobs,hts,hid⟩
  · rw [hsend,hobs]
    exact iff_of_true hI (by simp)
  · rw [hsend,hobs]
    constructor
    · intro htagged c' v' hv e he hcov
      have hval := (Prod.mk.inj (Option.some.inj hv)).2
      obtain rfl := Statement.insertObserverEvent.inj hval
      have hthere := htagged e he row (by simp) (hts ▸ hcov)
      exact episodeId_ne_empty comb e (by rw [← hthere,hid,ht.emitters k])
    · intro hlate e he r hr hcov
      rcases List.mem_append.mp hr with hr | hr
      · exact hI e he r hr hcov
      · obtain rfl := List.mem_singleton.mp hr
        exact absurd (hts ▸ hcov) (hlate _ _ rfl e he)

theorem episodesTagged_step (ht : Tagger comb b) (hI : EpisodesTagged comb b)
    (h : b.step a = some b') :
    EpisodesTagged comb b' ↔ InsertedInTime b a ∧ UpdateReaches b a := by
  cases a with
  | client i act =>
    obtain ⟨p,out,hp,-,-,-,hsend⟩ := bench_client h
    have hins : InsertedInTime b (.client i act) := by
      intro c v hs
      rw [hsend] at hs
      obtain ⟨st,hst,heq⟩ := Option.map_eq_some_iff.mp hs
      obtain ⟨-,rfl⟩ := Prod.mk.inj heq
      exact absurd hst (client_ne_observerEvent hp v)
    rw [and_iff_right hins]
    exact episodesTagged_client ht hI h
  | emitter k act =>
    rw [and_iff_left (show UpdateReaches b (.emitter k act) from trivial)]
    exact episodesTagged_emitter ht hI h
  | runner j act => exact j.elim

/-- No observer event escapes the tagging, in any state of a run, drained or not: exactly if
no event is inserted after the UPDATE of a failover that covers it, no UPDATE finds a covered
row with another id, and none with a row still to tag is lost. -/
theorem no_event_escapes (hclient : b₀.clients () = .start (.init conn comb ""))
    (hemitters : ∀ k, (b₀.emitters k).self.testRunId = "")
    (hrun : run Bench.step b₀ as = some b) :
    (∀ pre post t, as = pre ++ post → run Bench.step b₀ pre = some t → EpisodesTagged comb t) ↔
      Along Bench.step (fun b a => InsertedInTime b a ∧ UpdateReaches b a) b₀ as := by
  refine always_iff_along (J := Tagger comb) (I := EpisodesTagged comb)
    (fun _ _ _ => tagger_step) (fun _ _ _ => episodesTagged_step) ?_ ?_ hrun
  · exact ⟨by rw [hclient]; exact settles_start conn comb,hemitters⟩
  · intro e he
    rw [hclient] at he
    simp [ClientProc.settled,ClientProc.start,failoverEpisodes,episodes] at he

end Bench

section Samples

def clientAndObserver : Bench Unit Unit Empty where
  clients _ := .start heartbeatClient
  emitters _ := .start haproxyEmitter
  runners := Empty.elim
  db := .empty
  tagged := []

def flushOnce : List EmitterAction :=
  [.loopTest,.waited,.take .flusher,.insert .flusher,.close .flusher]

/-- A failover of 300 ms, within the second the observer's event waits for its flush. -/
def flushAfterUpdate : List (BenchAction Unit Unit Empty) :=
  [.emitter () (.emit backendDown),.emitter () .checkLength] ++
    (failure 0 ++ recovery 1).map (.client ()) ++ flushOnce.map (.emitter ())

theorem flushAfterUpdate_escapes : ∃ b,
    run Bench.step clientAndObserver flushAfterUpdate = some b ∧
      (EmitterRun.mk (b.emitters ()) []).Drained ∧
      ∃ e ∈ (b.clients ()).settled, ∃ r ∈ b.db.observerEvents, e.covers r.ts ∧
        r.testRunId ≠ episodeId "06-haproxy-rest-polling" e :=
  ⟨_,rfl,⟨rfl,by decide⟩,by decide +kernel⟩

/-- The same event, flushed before the recovery. -/
def flushBeforeUpdate : List (BenchAction Unit Unit Empty) :=
  [.emitter () (.emit backendDown),.emitter () .checkLength] ++ flushOnce.map (.emitter ()) ++
    (failure 0 ++ recovery 1).map (.client ())

theorem no_event_escapes_flushBeforeUpdate : ∃ b,
    run Bench.step clientAndObserver flushBeforeUpdate = some b ∧
      ((∀ pre post t, flushBeforeUpdate = pre ++ post →
          run Bench.step clientAndObserver pre = some t →
          EpisodesTagged "06-haproxy-rest-polling" t) ↔
        Along Bench.step (fun b a => InsertedInTime b a ∧ UpdateReaches b a) clientAndObserver
          flushBeforeUpdate) :=
  ⟨_,rfl,@no_event_escapes Unit _ clientAndObserver _ flushBeforeUpdate
    heartbeatClient.timescaleConnstring "06-haproxy-rest-polling" rfl (fun _ => rfl) rfl⟩

end Samples

end RoutingBench
