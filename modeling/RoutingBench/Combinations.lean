import RoutingBench.Bench
import RoutingBench.RunIds
set_option autoImplicit false

/-!
Tags and combinations. An id is made from a combination and a second, so it determines
its combination; the tagging UPDATEs, however, take the rows of every combination.
-/

namespace RoutingBench
open Calendar Runs

def OwnId (combinationId testRunId : String) : Prop :=
  ∃ s : Int, testRunId = combinationId ++ "_" ++ (DateTime.ofSeconds s).strftime

theorem OwnId.combination_eq {c c' testRunId : String} (h : OwnId c testRunId)
    (h' : OwnId c' testRunId) : c = c' := by
  obtain ⟨s,rfl⟩ := h
  obtain ⟨s',h'⟩ := h'
  exact (strftime_ofSeconds_inj h').1

theorem ownId_generate (c : String) (ts : Timestamp) : OwnId c (generateTestRunId c ts) :=
  ⟨_,rfl⟩

/-- The ids in a statement are made from the combination of its sender. -/
def Statement.Named (c : String) : Statement → Prop
  | .insertTestRun r => r.combinationId = c ∧ OwnId c r.id
  | .tagObserverEvents testRunId _ _ => OwnId c testRunId
  | .tagClientEvents testRunId _ _ => OwnId c testRunId
  | _ => True

section Client

variable {p p' : ClientProc} {out : Option Statement} {a : ClientAction}

structure NamedClient (p : ClientProc) : Prop where
  current : p.self.inFailover = true → OwnId p.self.combinationId p.self.currentTestRunId
  calls : ∀ c ∈ p.phase.calls, ∀ st ∈ c.statement, st.Named p.self.combinationId

theorem namedClient_start (conn comb trid : String) :
    NamedClient (.start (.init conn comb trid)) :=
  ⟨by simp [ClientProc.start,HeartbeatClient.init],
    by simp [ClientProc.start,ClientPhase.calls]⟩

theorem handle_named {self : HeartbeatClient} (r : QueryResult)
    (h : self.inFailover = true → OwnId self.combinationId self.currentTestRunId) :
    ((self.handleAutoTestRun r).1.inFailover = true →
        OwnId self.combinationId (self.handleAutoTestRun r).1.currentTestRunId) ∧
      ∀ c ∈ (self.handleAutoTestRun r).2, ∀ st ∈ c.statement,
        st.Named self.combinationId := by
  unfold HeartbeatClient.handleAutoTestRun
  split
  · exact ⟨h,by simp⟩
  split
  · simp only
    split
    next hrec =>
      have hin : self.inFailover = true := by simp at hrec; exact hrec.1
      refine ⟨by simp,?_⟩
      intro c hc st hst
      rcases List.mem_append.mp hc with hc | hc
      · obtain ⟨start,-,rfl⟩ := Option.map_eq_some_iff.mp (Option.mem_toList.mp hc)
        obtain rfl := Option.some.inj hst
        exact h hin
      · obtain rfl := List.mem_singleton.mp hc
        simp [DbCall.statement] at hst
    next => exact ⟨h,by simp⟩
  · simp only
    split
    · refine ⟨fun _ => ownId_generate _ _,?_⟩
      intro c hc st hst
      obtain rfl := List.mem_singleton.mp hc
      obtain rfl := Option.some.inj hst
      exact ⟨rfl,ownId_generate _ _⟩
    · exact ⟨h,by simp⟩

theorem namedClient_step (hn : NamedClient p) (h : p.step a = some (p',out)) :
    NamedClient p' ∧ ∀ st ∈ out, st.Named p'.self.combinationId := by
  by_cases ha : ∃ o, a = .attempt o
  · obtain ⟨o,rfl⟩ := ha
    obtain ⟨-,-,rfl,rfl⟩ := client_attempt h
    have hhandled := @handle_named (p.self.appendResult (queryResult (p.self.sequence + 1) o))
      (queryResult (p.self.sequence + 1) o) hn.current
    refine ⟨⟨?_,?_⟩,by simp⟩ <;> rw [attempt_combinationId]
    · exact hhandled.1
    · exact hhandled.2
  · have ha' := fun o ho => ha ⟨o,ho⟩
    obtain ⟨-,-,hself⟩ := client_keeps h ha'
    obtain ⟨hsub,hout⟩ := client_calls h ha'
    have hcomb : p'.self.combinationId = p.self.combinationId := by rw [hself]
    refine ⟨⟨?_,?_⟩,?_⟩ <;> rw [hcomb]
    · rw [hself]; exact hn.current
    · exact fun c hc => hn.calls c (hsub hc)
    · intro st hst
      rcases hout st hst with ⟨r,rfl⟩ | ⟨c,hc,hcst⟩
      · trivial
      · exact hn.calls c hc st hcst

end Client

section Runner

variable {p p' : RunnerProc} {out : Option Statement} {a : RunnerAction}

theorem Iteration.updates_named (it : Iteration) (c : String) (endTs : Timestamp) :
    ∀ st ∈ it.updates c endTs, st.Named c := by
  intro st hst
  have hown : OwnId c (it.testRunId c) := ⟨_,rfl⟩
  simp only [Iteration.updates,List.mem_cons,List.not_mem_nil,or_false] at hst
  rcases hst with rfl | rfl | rfl
  · trivial
  · exact hown
  · exact hown

def NamedRunner (p : RunnerProc) : Prop := ∀ st ∈ p.phase.updates, st.Named p.combinationId

theorem namedRunner_step (hn : NamedRunner p) (h : p.step a = some (p',out)) :
    NamedRunner p' ∧ ∀ st ∈ out, st.Named p'.combinationId := by
  unfold NamedRunner at hn ⊢
  obtain ⟨hcomb,⟨rfl,-,hsub⟩ | ⟨it,-,hph',rfl⟩ | ⟨it,endTs,-,-,rfl,hph'⟩ |
    ⟨it,st,updates,hph,hph',rfl⟩⟩ := runner_step h <;> rw [hcomb]
  · exact ⟨fun st hst => hn st (hsub hst),by simp⟩
  · rw [hph']
    refine ⟨by simp [RunnerPhase.updates],?_⟩
    intro st hst
    obtain rfl := Option.some.inj hst
    exact ⟨rfl,_,rfl⟩
  · rw [hph']
    exact ⟨it.updates_named _ endTs,by simp⟩
  · rw [hph] at hn
    rw [hph',afterUpdate_updates]
    refine ⟨fun st' hst' => hn st' (List.mem_cons_of_mem st hst'),?_⟩
    intro st' hst'
    obtain rfl := Option.some.inj hst'
    exact hn st List.mem_cons_self

end Runner

section Bench

variable {ι κ ρ : Type} [DecidableEq ι] [DecidableEq κ] [DecidableEq ρ]
  {b₀ b b' : Bench ι κ ρ} {a : BenchAction ι κ ρ} {as : List (BenchAction ι κ ρ)}

structure WellNamed (b : Bench ι κ ρ) : Prop where
  clients : ∀ i, NamedClient (b.clients i)
  runners : ∀ j, NamedRunner (b.runners j)
  testRuns : ∀ tr ∈ b.db.testRuns, OwnId tr.combinationId tr.id

omit [DecidableEq ι] [DecidableEq κ] [DecidableEq ρ] in
theorem sends_named (hw : WellNamed b) {c : String} {st : Statement}
    (hs : b.sends a = some (c,st)) : st.Named c := by
  cases a with
  | client i act =>
    obtain ⟨⟨p,out⟩,hp,hout⟩ := Option.bind_eq_some_iff.mp hs
    obtain ⟨st',hst',heq⟩ := Option.map_eq_some_iff.mp hout
    obtain ⟨rfl,rfl⟩ := Prod.mk.inj heq
    exact (namedClient_step (hw.clients i) hp).2 st' hst'
  | emitter k act =>
    obtain ⟨⟨p,out⟩,hp,hout⟩ := Option.bind_eq_some_iff.mp hs
    obtain ⟨entry,-,heq⟩ := Option.map_eq_some_iff.mp hout
    obtain ⟨rfl,rfl⟩ := Prod.mk.inj heq
    trivial
  | runner j act =>
    obtain ⟨⟨p,out⟩,hp,hout⟩ := Option.bind_eq_some_iff.mp hs
    obtain ⟨st',hst',heq⟩ := Option.map_eq_some_iff.mp hout
    obtain ⟨rfl,rfl⟩ := Prod.mk.inj heq
    exact (namedRunner_step (hw.runners j) hp).2 st' hst'

theorem wellNamed_step (hw : WellNamed b) (h : b.step a = some b') : WellNamed b' := by
  refine ⟨?_,?_,?_⟩
  · intro i
    rcases clients_step h i with heq | ⟨act,out,-,hp,-⟩
    · rw [heq]; exact hw.clients i
    · exact (namedClient_step (hw.clients i) hp).1
  · intro j
    rcases runners_step h j with heq | ⟨act,out,-,hp,-⟩
    · rw [heq]; exact hw.runners j
    · exact (namedRunner_step (hw.runners j) hp).1
  · intro tr htr
    rcases bench_database h with ⟨-,hdb,-⟩ | ⟨c,st,hs,hdb,-⟩
    · exact hw.testRuns tr (hdb ▸ htr)
    · rcases receive_testRuns hdb htr with rfl | ⟨r,hr,hid,hcomb⟩
      · obtain ⟨hcomb,hown⟩ := sends_named hw hs
        rw [hcomb]; exact hown
      · rw [hid,hcomb]; exact hw.testRuns r hr

structure Bench.Fresh (b : Bench ι κ ρ) : Prop where
  clients : ∀ i, ∃ conn comb trid, b.clients i = .start (.init conn comb trid)
  runners : ∀ j, (b.runners j).phase = .idle
  testRuns : ∀ tr ∈ b.db.testRuns, OwnId tr.combinationId tr.id
  tagged : b.tagged = []

omit [DecidableEq ι] [DecidableEq κ] [DecidableEq ρ] in
theorem Bench.Fresh.wellNamed (h : b.Fresh) : WellNamed b := by
  refine ⟨fun i => ?_,fun j => ?_,h.testRuns⟩
  · obtain ⟨conn,comb,trid,hi⟩ := h.clients i
    rw [hi]
    exact namedClient_start conn comb trid
  · simp [NamedRunner,h.runners j,RunnerPhase.updates]

/-- The window of a tagging UPDATE holds no untagged row of another combination than its
sender's. -/
def FindsOwnRows (b : Bench ι κ ρ) (a : BenchAction ι κ ρ) : Prop :=
  ∀ out ∈ b.sends a, ∀ tag ∈ out.2.tags b.db, tag.1 = out.1

/-- A tagged row is of the combination of the test run it names. -/
def TagsOwnCombination (b : Bench ι κ ρ) : Prop :=
  ∀ tag ∈ b.tagged, ∀ tr ∈ b.db.testRuns, tr.id = tag.2 → tr.combinationId = tag.1

theorem tags_own {c : String} {st : Statement} (hst : st.Named c) {db : Database}
    {tag : String × String} (htag : tag ∈ st.tags db) : OwnId c tag.2 := by
  cases st with
  | tagObserverEvents testRunId start stop =>
    obtain ⟨r,-,rfl⟩ := List.mem_map.mp htag
    exact hst
  | tagClientEvents testRunId start stop =>
    obtain ⟨r,-,rfl⟩ := List.mem_map.mp htag
    exact hst
  | _ => simp [Statement.tags] at htag

theorem tagged_step (hw : WellNamed b) (h : b.step a = some b') :
    ∃ new, b'.tagged = b.tagged ++ new ∧
      ∀ tag ∈ new, ∃ out ∈ b.sends a, tag ∈ out.2.tags b.db ∧ OwnId out.1 tag.2 := by
  rcases bench_database h with ⟨-,-,ht⟩ | ⟨c,st,hs,-,ht⟩
  · exact ⟨[],by rw [ht,List.append_nil],by simp⟩
  · exact ⟨_,ht,fun tag htag => ⟨(c,st),hs,htag,tags_own (sends_named hw hs) htag⟩⟩

theorem tagged_grows {t : Bench ι κ ρ} (hw : WellNamed b)
    (hrun : run Bench.step b as = some t) : b.tagged <+: t.tagged := by
  refine (reachable (I := fun t => WellNamed t ∧ b.tagged <+: t.tagged) ?_
    ⟨hw,List.prefix_refl _⟩ hrun).2
  intro s a s' hI hstep
  obtain ⟨new,hnew,-⟩ := tagged_step hI.1 hstep
  exact ⟨wellNamed_step hI.1 hstep,hI.2.trans (by rw [hnew]; exact List.prefix_append _ _)⟩

/-- Tags stay within a combination: in every run in which each tagging UPDATE finds only
untagged rows of its sender's combination, and, if the test runs of all tags are in the
table, in no other. -/
theorem tags_own_combination (hfresh : b₀.Fresh) (hrun : run Bench.step b₀ as = some b) :
    (Along Bench.step FindsOwnRows b₀ as → TagsOwnCombination b) ∧
      ((∀ tag ∈ b.tagged, tag.2 ∈ b.db.testRuns.map TestRun.id) → TagsOwnCombination b →
        Along Bench.step FindsOwnRows b₀ as) := by
  constructor
  · intro hfinds
    have h := invariant (I := fun t : Bench ι κ ρ => WellNamed t ∧
      ∀ tag ∈ t.tagged, OwnId tag.1 tag.2) ?_ ⟨hfresh.wellNamed,by simp [hfresh.tagged]⟩
      hfinds hrun
    · intro tag htag tr htr hid
      refine OwnId.combination_eq (h.1.testRuns tr htr) ?_
      rw [hid]
      exact h.2 tag htag
    · intro t a t' hI hown hstep
      obtain ⟨new,hnew,hnewOwn⟩ := tagged_step hI.1 hstep
      refine ⟨wellNamed_step hI.1 hstep,?_⟩
      intro tag htag
      rw [hnew] at htag
      rcases List.mem_append.mp htag with htag | htag
      · exact hI.2 tag htag
      · obtain ⟨out,hout,hmem,hid⟩ := hnewOwn tag htag
        rw [hown out hout tag hmem]
        exact hid
  · intro hregistered hwithin
    refine (along_iff hrun).mpr ?_
    intro pre a post t has hpre out hout tag htag
    have hw : WellNamed t := reachable (fun _ _ _ hI hstep => wellNamed_step hI hstep)
      hfresh.wellNamed hpre
    have hpost : run Bench.step t (a :: post) = some b := by
      obtain ⟨t',ht',hpost⟩ := run_append_some.mp (has ▸ hrun)
      rw [hpre] at ht'
      exact Option.some.inj ht' ▸ hpost
    obtain ⟨t',hstep,hrest⟩ := run_cons.mp hpost
    have htagged : tag ∈ b.tagged := by
      refine (tagged_grows (wellNamed_step hw hstep) hrest).subset ?_
      rcases bench_database hstep with ⟨hs,-⟩ | ⟨c,st,hs,-,ht⟩
      · rw [hs] at hout; simp at hout
      · obtain rfl := Option.some.inj (hs.symm.trans hout)
        rw [ht]
        exact List.mem_append_right _ htag
    obtain ⟨tr,htr,hid⟩ := List.mem_map.mp (hregistered tag htagged)
    have hwb : WellNamed b := reachable (fun _ _ _ hI hstep => wellNamed_step hI hstep)
      hfresh.wellNamed hrun
    have hcomb := hwithin tag htagged tr htr hid
    rw [← hcomb]
    refine (hwb.testRuns tr htr).combination_eq ?_
    rw [hid]
    exact tags_own (sends_named hw hout) htag

end Bench

section Samples

instance decidableFindsOwnRows {ι κ ρ : Type} (b : Bench ι κ ρ) (a : BenchAction ι κ ρ) :
    Decidable (FindsOwnRows b a) :=
  decidable_of_iff (∀ out ∈ (b.sends a).toList, ∀ tag ∈ out.2.tags b.db, tag.1 = out.1) (by
    simp [FindsOwnRows])

def twoCombinations : Bench Bool Unit Empty where
  clients second := .start (if second then
    .init heartbeatClient.timescaleConnstring "07-consul-template-reload" ""
    else heartbeatClient)
  emitters _ := .start { haproxyEmitter with combinationId := "07-consul-template-reload" }
  runners := Empty.elim
  db := .empty
  tagged := []

theorem twoCombinations_fresh : twoCombinations.Fresh := by
  refine ⟨?_,by simp,?_,rfl⟩
  · intro second
    cases second <;> exact ⟨_,_,_,rfl⟩
  · intro tr htr
    simp [twoCombinations,Database.empty] at htr

/-- A failover of combination 06 while a backend of combination 07 goes down. -/
def overlappingFailover : List (BenchAction Bool Unit Empty) :=
  (emitAndFlush backendDown).map (.emitter ()) ++ (failure 0 ++ recovery 1).map (.client false)

theorem overlappingFailover_crosses : twoCombinations.Fresh ∧ ∃ b,
    run Bench.step twoCombinations overlappingFailover = some b ∧
      ∃ tag ∈ b.tagged, ∃ tr ∈ b.db.testRuns, tr.id = tag.2 ∧ tr.combinationId ≠ tag.1 :=
  ⟨twoCombinations_fresh,_,rfl,by decide +kernel⟩

def oneFailover : List ClientAction :=
  failure 0 ++ recovery 1 ++ [.shutdown,.exit,.insertRow]

/-- Combination 07 recovers first, and its UPDATE is the first to reach the row. -/
def ownUpdateFirst : List (BenchAction Bool Unit Empty) :=
  (emitAndFlush backendDown).map (.emitter ()) ++ oneFailover.map (.client true) ++
    oneFailover.map (.client false)

theorem tags_own_combination_ownUpdateFirst : ∃ b,
    run Bench.step twoCombinations ownUpdateFirst = some b ∧ b.tagged ≠ [] ∧
      TagsOwnCombination b :=
  ⟨_,rfl,by decide +kernel,(@tags_own_combination Bool Unit Empty _ _ _ twoCombinations _
    ownUpdateFirst twoCombinations_fresh rfl).1 (by decide +kernel)⟩

end Samples

end RoutingBench
