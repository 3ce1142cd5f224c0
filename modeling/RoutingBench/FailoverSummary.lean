import RoutingBench.Report
import RoutingBench.RunIds
import Mathlib.Tactic.NormNum
set_option autoImplicit false

/-!
The summary a recovery logs. It is read from failover_window, over the rows that are in the
table by then, when the last results of the failover are still in memory.
-/

namespace RoutingBench
open Aggregate Episodes Runs

/-- `fetchone` of the window of a run, with the values that go into the log. A downtime that is
NULL cannot be formatted, and then nothing is logged. -/
def loggedSummary (db : Database) (testRunId : String) : Option (ℚ × Nat) :=
  (windowsOf db testRunId).head?.bind fun w => w.downtimeMs.map fun ms => (ms,w.totalFailures)

def recoveredAt (attempts : List QueryResult) : Option QueryResult :=
  (attempts.reverse.takeWhile QueryResult.success).getLast?

/-- Downtime and failures of the attempts of a failover: from the first failure to the first
success after the last one. -/
def attemptsSummary (attempts : List QueryResult) : Option (ℚ × Nat) :=
  (attempts.find? fun r => !r.success).bind fun failure =>
    (recoveredAt attempts).map fun recovery =>
      (epoch (recovery.wallTs - failure.wallTs) * 1000,attempts.countP fun r => !r.success)

def Unbroken (attempts : List QueryResult) : Prop :=
  attempts.Pairwise fun a b => a.success = true → b.success = true

instance (attempts : List QueryResult) : Decidable (Unbroken attempts) :=
  inferInstanceAs (Decidable (List.Pairwise _ attempts))

def ClientEvent.failureOf (testRunId : String) (row : ClientEvent) : Bool :=
  row.testRunId = testRunId && !row.success

def ClientEvent.successOf (testRunId : String) (row : ClientEvent) : Bool :=
  row.testRunId = testRunId && row.success

theorem loggedSummary_eq {db : Database} {testRunId comb : String}
    (hcomb : ∀ row ∈ db.clientEvents, row.testRunId = testRunId → row.combinationId = comb) :
    loggedSummary db testRunId = (between
        (minWhere (ClientEvent.failureOf testRunId) ClientEvent.ts db.clientEvents)
        (recoveryFromFirst (ClientEvent.failureOf testRunId) (ClientEvent.successOf testRunId)
          ClientEvent.ts db.clientEvents)).map fun d =>
      (epoch d * 1000,db.clientEvents.countP (ClientEvent.failureOf testRunId)) := by
  have hrows : ∀ row ∈ db.clientEvents,
      (decide (row.testRunId = testRunId) && decide (row.combinationId = comb)) =
        decide (row.testRunId = testRunId) := by
    intro row hrow
    by_cases hid : row.testRunId = testRunId <;> simp [hid,hcomb row hrow]
  have hwindow : (failoverWindowOf db.clientEvents testRunId comb).downtimeMs = (between
      (minWhere (ClientEvent.failureOf testRunId) ClientEvent.ts db.clientEvents)
      (recoveryFromFirst (ClientEvent.failureOf testRunId) (ClientEvent.successOf testRunId)
        ClientEvent.ts db.clientEvents)).map fun d => epoch d * 1000 := by
    simp only [failoverWindowOf,List.filter_congr hrows,minWhere_filter]
    simp only [← Bool.and_assoc]
    rfl
  have htotal : (failoverWindowOf db.clientEvents testRunId comb).totalFailures =
      db.clientEvents.countP (ClientEvent.failureOf testRunId) := by
    simp only [failoverWindowOf,List.filter_congr hrows,List.countP_filter]
    exact List.countP_congr fun row _ => by simp [ClientEvent.failureOf,and_comm]
  cases hhead : (windowsOf db testRunId).head? with
  | none =>
    have hnone := windowsOf_eq_nil_iff.mp (List.head?_eq_none_iff.mp hhead)
    have hmin : minWhere (ClientEvent.failureOf testRunId) ClientEvent.ts db.clientEvents = none :=
      minWhere_eq_none_iff.mpr fun row hrow => by simp [ClientEvent.failureOf,hnone row hrow]
    rw [loggedSummary,hhead,hmin]
    rfl
  | some w =>
    have hw := List.mem_filter.mp (List.mem_of_head? hhead)
    obtain ⟨row,hrow,rfl⟩ := mem_failoverWindow.mp hw.1
    have hid : row.testRunId = testRunId := of_decide_eq_true hw.2
    rw [hid,hcomb row hrow hid] at hhead
    rw [loggedSummary,hhead,Option.bind_some,hwindow,htotal,Option.map_map]
    rfl

section Due

variable {conn comb : String} {db₀ : Database} {s s' : ClientSession} {as : List ClientAction}
  {a : ClientAction}

/-- A summary that is due is of the latest failover, which is closed. -/
def SummaryDue (comb : String) (p : ClientProc) : Prop :=
  ∀ testRunId, .summary testRunId ∈ p.phase.calls → ∃ e rest,
    failoverEpisodes p.attempts = e :: rest ∧ e.closed 3 = true ∧ testRunId = episodeId comb e

theorem summaryDue_attempt {p : ClientProc} (o : Outcome)
    (hd : Detects p.self (failoverEpisodes p.attempts)) (hc : p.self.combinationId = comb) :
    SummaryDue comb (p.attempt o) := by
  have hd' := detects_appendResult hd (queryResult (p.self.sequence + 1) o)
  have hcalls : (p.attempt o).phase.calls =
    ((p.self.appendResult (queryResult (p.self.sequence + 1) o)).handleAutoTestRun
      (queryResult (p.self.sequence + 1) o)).2 := rfl
  rw [SummaryDue,attempt_attempts,failoverEpisodes_snoc,hcalls]
  rcases add_cases 3 (failoverEpisodes p.attempts)
    (queryResult (p.self.sequence + 1) o) with ⟨hin,hr,-⟩ | ⟨hr,hin,-⟩ | ⟨e,rest,hes,hopen,hadd⟩
  · rw [handle_idle hd' hin hr]
    simp
  · rw [handle_onset hd' hin hr]
    simp
  · rw [hes] at hd'
    cases hclosed : (e.extend (queryResult (p.self.sequence + 1) o)).closed 3 with
    | false =>
      rw [handle_inside hd' hopen hclosed]
      simp
    | true =>
      rw [handle_recovery hd' hopen hclosed]
      intro testRunId hmem
      simp only [List.mem_cons,reduceCtorEq,DbCall.summary.injEq,List.not_mem_nil,or_false,
        false_or] at hmem
      exact ⟨_,rest,hadd,hclosed,hc ▸ hmem⟩

theorem summaryDue_step (h : SummaryDue comb s.proc) (hk : Kept conn comb db₀ s)
    (hd : Detects s.proc.self (failoverEpisodes s.proc.attempts)) (hstep : s.step a = some s') :
    SummaryDue comb s'.proc := by
  obtain ⟨out,hp⟩ := session_proc hstep
  by_cases ha : ∃ o, a = .attempt o
  · obtain ⟨o,rfl⟩ := ha
    obtain ⟨-,-,-,hp'⟩ := client_attempt hp
    rw [hp']
    exact summaryDue_attempt o hd hk.combinationId
  · have ha' := fun o ho => ha ⟨o,ho⟩
    intro testRunId hmem
    rw [(client_keeps hp ha').1]
    exact h testRunId ((client_calls hp ha').1 hmem)

/-- Rows of the latest failover's queries carry its id, and rows are inserted in the order of the
queries. -/
structure StoredInOrder (comb : String) (db₀ : Database) (s : ClientSession) : Prop where
  current : ∀ e ∈ (failoverEpisodes s.proc.attempts).head?, ∀ r ∈ e.results,
    ∀ row ∈ s.db.clientEvents.drop db₀.clientEvents.length, row.sequence = r.sequence →
      row.testRunId = episodeId comb e
  suffix : s.proc.self.results <:+ s.proc.attempts
  earlier : ∀ r ∈ s.proc.attempts, r.sequence ∈ rowSequences db₀.clientEvents.length s.db →
    ∀ r' ∈ s.proc.attempts, r'.sequence ≤ r.sequence →
      r'.sequence ∈ rowSequences db₀.clientEvents.length s.db

theorem Kept.sequences_sorted (hk : Kept conn comb db₀ s) :
    s.proc.attempts.Pairwise fun a b => a.sequence < b.sequence := by
  rw [← List.pairwise_map,hk.sequences]
  exact List.pairwise_lt_range'

theorem Kept.sequence_le (hk : Kept conn comb db₀ s) {r : QueryResult}
    (hr : r ∈ s.proc.attempts) : r.sequence ≤ s.proc.self.sequence := by
  have hmem : r.sequence ∈ s.proc.attempts.map QueryResult.sequence := List.mem_map_of_mem hr
  rw [hk.sequences,List.mem_range'] at hmem
  obtain ⟨i,hi,hseq⟩ := hmem
  omega

theorem Kept.unstored (hk : Kept conn comb db₀ s) :
    s.proc.self.sequence + 1 ∉ rowSequences db₀.clientEvents.length s.db := by
  intro hmem
  obtain ⟨row,hrow,hseq⟩ := List.mem_map.mp hmem
  obtain ⟨r,hr,hof⟩ := hk.rows row hrow
  exact hk.fresh hr (hof.sequence.symm.trans hseq)

theorem flushing_configured_step
    (hf : s.proc.phase.isFlushing = true → s.proc.self.timescaleConnstring ≠ "")
    (hstep : s.step a = some s') (h : s'.proc.phase.isFlushing = true) :
    s'.proc.self.timescaleConnstring ≠ "" := by
  have hflush : ∀ final, (s.proc.flushResults final).phase.isFlushing = true →
      (s.proc.flushResults final).self.timescaleConnstring ≠ "" := by
    intro final hflushing
    rcases flushResults_cases s.proc final with ⟨-,h⟩ | ⟨-,hconn,h⟩
    · rw [h] at hflushing
      cases final <;> simp [afterFlush,ClientPhase.isFlushing] at hflushing
    · rw [h]
      exact hconn
  obtain ⟨out,hp⟩ := session_proc hstep
  cases a with
  | attempt o =>
    obtain ⟨-,-,-,hp'⟩ := client_attempt hp
    obtain ⟨calls,hcalls⟩ := attempt_phase s.proc o
    simp [hp',hcalls,ClientPhase.isFlushing] at h
  | callOk =>
    obtain ⟨_,_,-,-,hp'⟩ := client_callOk hp
    simp [hp',ClientPhase.isFlushing] at h
  | callFail =>
    obtain ⟨_,_,-,-,hp'⟩ := client_callFail hp
    simp [hp',ClientPhase.isFlushing] at h
  | checkBatch =>
    obtain ⟨-,-,⟨-,hp'⟩ | ⟨-,hp'⟩⟩ := client_checkBatch hp
    · rw [hp'] at h ⊢
      exact hflush false h
    · simp [hp',ClientPhase.isFlushing] at h
  | insertRow =>
    obtain ⟨_,_,_,hph,-,-,hp'⟩ := client_insertRow hp
    rw [hp']
    exact hf (by rw [hph]; rfl)
  | flushFail =>
    obtain ⟨_,final,-,-,hp'⟩ := client_flushFail hp
    cases final <;> simp [hp',afterFlush,ClientPhase.isFlushing] at h
  | flushDone =>
    obtain ⟨final,-,-,hp'⟩ := client_flushDone hp
    cases final <;> simp [hp',afterFlush,ClientPhase.isFlushing] at h
  | shutdown =>
    obtain ⟨-,hp'⟩ := client_shutdown hp
    rw [hp'] at h ⊢
    exact hf h
  | exit =>
    obtain ⟨-,-,-,hp'⟩ := client_exit hp
    rw [hp'] at h ⊢
    exact hflush true h

theorem earlier_insertRow (hk : Kept conn comb db₀ s) (hi : StoredInOrder comb db₀ s)
    {repeated : List Nat} (hl : (s.outbox db₀.clientEvents.length repeated).Lawful)
    {r : QueryResult} {inserted : Nat} {final : Bool}
    (hph : s.proc.phase = .flushing inserted final) (hr : s.proc.self.results[inserted]? = some r) :
    ∀ r' ∈ s.proc.attempts, r'.sequence < r.sequence →
      r'.sequence ∈ rowSequences db₀.clientEvents.length s.db := by
  intro r' hr' hlt
  have hsorted := hk.sequences_sorted.sublist hi.suffix.sublist
  have hmem : r'.sequence ∈ s.proc.attempts.map QueryResult.sequence := List.mem_map_of_mem hr'
  have hrecorded := hl.sound.recorded ()
  simp only [ClientSession.outbox,hph,ClientPhase.flushing_batch,if_true] at hrecorded
  rcases Outbox.no_loss hl hmem with h | ⟨w,h⟩ | h
  · simp [ClientSession.outbox,hph] at h
  · simp only [ClientSession.outbox,hph,ClientPhase.flushing_batch,if_true] at h
    refine hrecorded _ ?_
    obtain ⟨j,hj,hget⟩ := List.getElem_of_mem h
    have hjlt : j < s.proc.self.results.length := by simpa [ClientProc.pending] using hj
    have hseq : s.proc.self.results[j].sequence = r'.sequence := by
      simpa [ClientProc.pending] using hget
    obtain ⟨hilt,rfl⟩ := List.getElem?_eq_some_iff.mp hr
    have hji : j < inserted := by
      by_contra hle
      rcases Nat.lt_or_eq_of_le (Nat.le_of_not_lt hle) with hij | rfl
      · have := List.pairwise_iff_getElem.mp hsorted inserted j hilt hjlt hij
        omega
      · omega
    exact List.mem_take_iff_getElem.mpr ⟨j,by omega,hget⟩
  · exact h

theorem storedInOrder_insertRow (hi : StoredInOrder comb db₀ s) (hk : Kept conn comb db₀ s)
    (hl : conn ≠ "" → ∃ repeated, (s.outbox db₀.clientEvents.length repeated).Lawful)
    (hf : s.proc.phase.isFlushing = true → s.proc.self.timescaleConnstring ≠ "")
    (hd : Detects s.proc.self (failoverEpisodes s.proc.attempts))
    (hstep : s.step .insertRow = some s') : StoredInOrder comb db₀ s' := by
  obtain ⟨q,inserted,final,hph,hq,hp,hev,-⟩ := session_insertRow hstep
  have hc : conn ≠ "" := hk.connstring ▸ hf (by rw [hph]; rfl)
  obtain ⟨repeated,hlawful⟩ := hl hc
  have hself : s'.proc.self = s.proc.self := by rw [hp]
  have hatt : s'.proc.attempts = s.proc.attempts := by rw [hp]
  have hnew : s'.db.clientEvents.drop db₀.clientEvents.length =
      s.db.clientEvents.drop db₀.clientEvents.length ++ [s.proc.self.row q] := by
    rw [hev,List.drop_append_of_le_length hk.before.length_le]
  have hstored : rowSequences db₀.clientEvents.length s'.db =
      rowSequences db₀.clientEvents.length s.db ++ [q.sequence] := by
    rw [rowSequences,hnew,List.map_append]
    rfl
  refine ⟨?_,by rw [hself,hatt]; exact hi.suffix,?_⟩
  · intro e he r hr row hrow hseq
    rw [hatt] at he
    rw [hnew] at hrow
    rcases List.mem_append.mp hrow with hrow | hrow
    · exact hi.current e he r hr row hrow hseq
    · obtain rfl := List.mem_singleton.mp hrow
      show s.proc.self.testRunId = _
      rw [hd.testRunId,hd.current e he,hk.combinationId]
  · intro r hr hmem r' hr' hle
    rw [hatt] at hr hr'
    rw [hstored] at hmem ⊢
    rcases List.mem_append.mp hmem with hmem | hmem
    · exact List.mem_append_left _ (hi.earlier r hr hmem r' hr' hle)
    · have hrq : r.sequence = q.sequence := List.mem_singleton.mp hmem
      rcases Nat.lt_or_eq_of_le (hrq ▸ hle) with hlt | heq
      · exact List.mem_append_left _ (earlier_insertRow hk hi hlawful hph hq r' hr' hlt)
      · exact List.mem_append_right _ (List.mem_singleton.mpr heq)

theorem storedInOrder_attempt {o : Outcome} (hi : StoredInOrder comb db₀ s)
    (hk : Kept conn comb db₀ s) (hev : s'.db.clientEvents = s.db.clientEvents)
    (hp : s'.proc = s.proc.attempt o) : StoredInOrder comb db₀ s' := by
  have hfresh := hk.unstored
  have hatt : s'.proc.attempts =
      s.proc.attempts ++ [queryResult (s.proc.self.sequence + 1) o] := by
    rw [hp,attempt_attempts]
  have hnorow : ∀ row ∈ s.db.clientEvents.drop db₀.clientEvents.length,
      row.sequence ≠ s.proc.self.sequence + 1 := by
    intro row hrow hseq
    exact hfresh (List.mem_map.mpr ⟨row,hrow,hseq⟩)
  refine ⟨?_,?_,?_⟩
  · rw [hatt,hev,failoverEpisodes_snoc]
    rcases add_cases 3 (failoverEpisodes s.proc.attempts)
      (queryResult (s.proc.self.sequence + 1) o) with ⟨-,-,hadd⟩ | ⟨_,-,hadd⟩ |
        ⟨e,rest,hes,-,hadd⟩
    · rw [hadd]
      exact hi.current
    · rw [hadd]
      intro e he r hr row hrow hseq
      obtain rfl := Option.some.inj he
      obtain rfl : r = _ := by simpa [Episode.results] using hr
      exact absurd hseq (hnorow row hrow)
    · rw [hadd]
      intro e' he' r hr row hrow hseq
      obtain rfl := Option.some.inj he'
      rcases List.mem_cons.mp hr with rfl | hr
      · exact absurd hseq (hnorow row hrow)
      · exact hi.current e (by rw [hes]; rfl) r hr row hrow hseq
  · obtain ⟨done,hdone⟩ := hi.suffix
    rw [hatt,hp,attempt_results,← hdone]
    exact ⟨done,(List.append_assoc _ _ _).symm⟩
  · rw [hatt,rowSequences_congr hev]
    intro r hr hmem r' hr' hle
    rcases List.mem_append.mp hr with hr | hr
    · rcases List.mem_append.mp hr' with hr' | hr'
      · exact hi.earlier r hr hmem r' hr' hle
      · obtain rfl := List.mem_singleton.mp hr'
        have hbound := hk.sequence_le hr
        simp only [queryResult_sequence] at hle
        omega
    · obtain rfl := List.mem_singleton.mp hr
      exact absurd hmem hfresh

theorem storedInOrder_step (hi : StoredInOrder comb db₀ s) (hk : Kept conn comb db₀ s)
    (hl : conn ≠ "" → ∃ repeated, (s.outbox db₀.clientEvents.length repeated).Lawful)
    (hf : s.proc.phase.isFlushing = true → s.proc.self.timescaleConnstring ≠ "")
    (hd : Detects s.proc.self (failoverEpisodes s.proc.attempts)) (hstep : s.step a = some s') :
    StoredInOrder comb db₀ s' := by
  by_cases hinsert : a = .insertRow
  · subst hinsert
    exact storedInOrder_insertRow hi hk hl hf hd hstep
  have hev := session_clientEvents hstep hinsert
  obtain ⟨out,hp⟩ := session_proc hstep
  by_cases ha : ∃ o, a = .attempt o
  · obtain ⟨o,rfl⟩ := ha
    obtain ⟨-,-,-,hp'⟩ := client_attempt hp
    exact storedInOrder_attempt hi hk hev hp'
  · obtain ⟨hatt,hres,-⟩ := client_keeps hp fun o ho => ha ⟨o,ho⟩
    refine ⟨by rw [hatt,hev]; exact hi.current,?_,
      by rw [hatt,rowSequences_congr hev]; exact hi.earlier⟩
    rw [hatt]
    rcases hres with hres | hres
    · rw [hres]
      exact hi.suffix
    · rw [hres]
      exact List.nil_suffix

theorem run_storedInOrder
    (hrun : run ClientSession.step (.start (.init conn comb "") db₀) as = some s) :
    SummaryDue comb s.proc ∧ StoredInOrder comb db₀ s := by
  have h := history (P := fun _ _ => True) (I := fun as s =>
      run ClientSession.step (.start (.init conn comb "") db₀) as = some s ∧
        (s.proc.phase.isFlushing = true → s.proc.self.timescaleConnstring ≠ "") ∧
        SummaryDue comb s.proc ∧ StoredInOrder comb db₀ s) ⟨rfl,?_,?_,?_⟩ ?_
    (along_of_forall (fun _ _ => trivial) _ _) hrun
  · exact h.2.2
  · simp [ClientSession.start,ClientProc.start,ClientPhase.isFlushing]
  · simp [SummaryDue,ClientSession.start,ClientProc.start,ClientPhase.calls]
  · constructor <;> simp [ClientSession.start,ClientProc.start,failoverEpisodes,episodes,
      HeartbeatClient.init]
  · intro as s a s' hI _ hstep
    obtain ⟨hrun,hf,hdue,hi⟩ := hI
    have hk := run_kept hrun
    obtain ⟨hd,-⟩ := run_detects hrun
    exact ⟨run_snoc.mpr ⟨s,hrun,hstep⟩,flushing_configured_step hf hstep,
      summaryDue_step hdue hk hd hstep,
      storedInOrder_step hi hk (fun hc => (run_client_outbox hc hrun).2) hf hd hstep⟩

end Due

section Summary

variable {conn comb : String} {db₀ : Database} {s : ClientSession} {e : FailoverEpisode}
  {rest : List FailoverEpisode}

/-- The results of a closed failover: up to its last failure, the recovery, and the successes
after it. -/
structure Recovers (e : FailoverEpisode) (during : List QueryResult) (last recovery : QueryResult)
    (after : List QueryResult) : Prop where
  results : e.results.reverse = during ++ last :: recovery :: after
  last : last.success = false
  recovery : recovery.success = true
  after : ∀ r ∈ after, r.success = true

theorem exists_recovers (he : e ∈ failoverEpisodes s.proc.attempts) (hclosed : e.closed 3 = true) :
    ∃ during last recovery after, Recovers e during last recovery after := by
  have hends := (endsEpisode_results he).trans hclosed
  rw [endsEpisode,Bool.and_eq_true,decide_eq_true_eq,decide_eq_true_eq,streak_eq_iff] at hends
  obtain ⟨later,f,earlier,hresults,hf,hlater,hlength⟩ := hends
  obtain ⟨third,second,first,rfl⟩ := List.length_eq_three.mp hlength
  exact ⟨earlier.reverse,f,first,[second,third],by simp [hresults],hf,hlater first (by simp),
    fun r hr => hlater r (by simp at hr ⊢; tauto)⟩

variable {during after : List QueryResult} {last recovery : QueryResult}

theorem Recovers.recoveredAt_eq (h : Recovers e during last recovery after) :
    recoveredAt e.results.reverse = some recovery := by
  rw [recoveredAt,h.results]
  have hall : ∀ r ∈ after.reverse ++ [recovery], r.success = true := by
    intro r hr
    rcases List.mem_append.mp hr with hr | hr
    · exact h.after r (List.mem_reverse.mp hr)
    · exact List.mem_singleton.mp hr ▸ h.recovery
  have hsplit : (during ++ last :: recovery :: after).reverse =
      (after.reverse ++ [recovery]) ++ last :: during.reverse := by simp
  rw [hsplit,List.takeWhile_append_of_pos hall,List.takeWhile_cons_of_neg (by simp [h.last])]
  simp

theorem Recovers.attemptsSummary_eq (h : Recovers e during last recovery after) :
    attemptsSummary e.results.reverse = some (epoch (recovery.wallTs - e.onset.wallTs) * 1000,
      e.results.reverse.countP fun r => !r.success) := by
  have hfirst : e.results.reverse.find? (fun r => !r.success) = some e.onset := by
    simp [Episode.results,e.failed]
  rw [attemptsSummary,hfirst,h.recoveredAt_eq]
  rfl

theorem Recovers.unbroken_iff (h : Recovers e during last recovery after) :
    Unbroken e.results.reverse ↔ ∀ r ∈ during, r.success = false := by
  rw [Unbroken,h.results]
  constructor
  · intro hpair r hr
    by_contra hsuccess
    have hlast := (List.pairwise_append.mp hpair).2.2 r hr last (by simp) (by simpa using hsuccess)
    rw [h.last] at hlast
    contradiction
  · intro hfailed
    refine List.pairwise_append.mpr ⟨?_,?_,?_⟩
    · refine List.pairwise_of_forall_mem_list fun r hr r' _ hsuccess => ?_
      rw [hfailed r hr] at hsuccess
      contradiction
    · refine List.Pairwise.cons (fun r _ hsuccess => ?_) ?_
      · rw [h.last] at hsuccess
        contradiction
      · refine List.Pairwise.cons (fun r hr _ => h.after r hr) ?_
        exact List.pairwise_of_forall_mem_list fun _ _ r hr _ => h.after r hr
    · intro r hr r' _ hsuccess
      rw [hfailed r hr] at hsuccess
      contradiction

/-- The clock is not set back, no row of the table has had the id before, and the failed rows
that carry it are of queries of the failover. -/
structure UndisturbedRun (db₀ : Database) (testRunId : String) (e : FailoverEpisode)
    (s : ClientSession) : Prop where
  clock : s.proc.attempts.Pairwise fun a b => a.wallTs < b.wallTs
  fresh : ∀ row ∈ db₀.clientEvents, row.testRunId ≠ testRunId
  own : ∀ row ∈ s.db.clientEvents, row.failureOf testRunId = true →
    ∃ r ∈ e.results, row.sequence = r.sequence

/-- By the time of the summary the recovery has its row, no failed query has two, and no success
came between the failures. -/
structure FlushedInTime (before : Nat) (testRunId : String) (e : FailoverEpisode)
    (s : ClientSession) : Prop where
  recovery : ∃ r ∈ recoveredAt e.results.reverse, r.sequence ∈ rowSequences before s.db
  once : ((s.db.clientEvents.filter (ClientEvent.failureOf testRunId)).map
    ClientEvent.sequence).Nodup
  unbroken : Unbroken e.results.reverse

instance (db₀ : Database) (testRunId : String) (e : FailoverEpisode) (s : ClientSession) :
    Decidable (UndisturbedRun db₀ testRunId e s) :=
  decidable_of_iff (_ ∧ _ ∧ _) ⟨fun h => ⟨h.1,h.2.1,h.2.2⟩,fun h => ⟨h.clock,h.fresh,h.own⟩⟩

instance (before : Nat) (testRunId : String) (e : FailoverEpisode) (s : ClientSession) :
    Decidable (FlushedInTime before testRunId e s) :=
  decidable_of_iff (_ ∧ _ ∧ _)
    ⟨fun h => ⟨h.1,h.2.1,h.2.2⟩,fun h => ⟨h.recovery,h.once,h.unbroken⟩⟩

theorem row_of_query (hk : Kept conn comb db₀ s) {testRunId : String}
    (hfresh : ∀ row ∈ db₀.clientEvents, row.testRunId ≠ testRunId) {row : ClientEvent}
    (hrow : row ∈ s.db.clientEvents) (hid : row.testRunId = testRunId) :
    row ∈ s.db.clientEvents.drop db₀.clientEvents.length ∧
      ∃ r ∈ s.proc.attempts, RowOf comb r row := by
  obtain ⟨new,hnew⟩ := hk.before
  have hdrop : s.db.clientEvents.drop db₀.clientEvents.length = new := by
    rw [← hnew,List.drop_left]
  have hmem : row ∈ new := by
    rw [← hnew] at hrow
    rcases List.mem_append.mp hrow with hrow | hrow
    · exact absurd hid (hfresh row hrow)
    · exact hrow
  rw [← hdrop] at hmem
  exact ⟨hmem,hk.rows row hmem⟩

/-- The latest failover of a client, all of whose rows with the id are its own. -/
structure Logs (conn comb : String) (db₀ : Database) (s : ClientSession) (e : FailoverEpisode) :
    Prop where
  kept : Kept conn comb db₀ s
  order : StoredInOrder comb db₀ s
  latest : ∃ rest, failoverEpisodes s.proc.attempts = e :: rest
  run : UndisturbedRun db₀ (episodeId comb e) e s

section Stored

theorem Logs.attempted (h : Logs conn comb db₀ s e) {r : QueryResult} (hr : r ∈ e.results) :
    r ∈ s.proc.attempts := by
  obtain ⟨rest,hes⟩ := h.latest
  exact mem_of_mem_results (hes ▸ List.mem_cons_self) hr

theorem Logs.stored_row (h : Logs conn comb db₀ s e) {r : QueryResult} (hr : r ∈ e.results)
    (hstored : r.sequence ∈ rowSequences db₀.clientEvents.length s.db) :
    ∃ row ∈ s.db.clientEvents, row.testRunId = episodeId comb e ∧ RowOf comb r row := by
  obtain ⟨rest,hes⟩ := h.latest
  obtain ⟨row,hrow,hseq⟩ := List.mem_map.mp hstored
  obtain ⟨q,hq,hof⟩ := h.kept.rows row hrow
  obtain rfl := h.kept.eq_of_sequence hq (h.attempted hr) (hof.sequence.symm.trans hseq)
  exact ⟨row,List.mem_of_mem_drop hrow,h.order.current e (by rw [hes]; rfl) q hr row hrow hseq,hof⟩

theorem Logs.own_row (h : Logs conn comb db₀ s e) {row : ClientEvent}
    (hrow : row ∈ s.db.clientEvents) (hid : row.testRunId = episodeId comb e) :
    ∃ r ∈ s.proc.attempts, RowOf comb r row ∧
      r.sequence ∈ rowSequences db₀.clientEvents.length s.db := by
  obtain ⟨hnew,r,hr,hof⟩ := row_of_query h.kept h.run.fresh hrow hid
  exact ⟨r,hr,hof,List.mem_map.mpr ⟨row,hnew,hof.sequence⟩⟩

theorem Logs.failed_row (h : Logs conn comb db₀ s e) {row : ClientEvent}
    (hrow : row ∈ s.db.clientEvents) (hfailed : row.failureOf (episodeId comb e) = true) :
    ∃ r ∈ e.results, r.success = false ∧ RowOf comb r row := by
  obtain ⟨r,hr,hseq⟩ := h.run.own row hrow hfailed
  simp only [ClientEvent.failureOf,Bool.and_eq_true,decide_eq_true_eq,Bool.not_eq_true'] at hfailed
  obtain ⟨q,hq,hof,-⟩ := h.own_row hrow hfailed.1
  obtain rfl := h.kept.eq_of_sequence hq (h.attempted hr) (hof.sequence.symm.trans hseq)
  exact ⟨q,hr,hof.success ▸ hfailed.2,hof⟩

theorem nodup_iff_length_eq {α : Type*} {as bs : List α} (hbs : bs.Nodup) (hsub : as ⊆ bs)
    (hsup : bs ⊆ as) : as.Nodup ↔ as.length = bs.length := by
  constructor
  · intro has
    exact ((List.perm_ext_iff_of_nodup has hbs).mpr fun a => ⟨@hsub a,@hsup a⟩).length_eq
  · intro hlength
    exact ((List.subperm_of_subset hbs hsup).perm_of_length_le hlength.le).nodup_iff.mp hbs

theorem Logs.total_iff (h : Logs conn comb db₀ s e) (hstored : ∀ r ∈ e.results,
      r.success = false → r.sequence ∈ rowSequences db₀.clientEvents.length s.db) :
    ((s.db.clientEvents.filter (ClientEvent.failureOf (episodeId comb e))).map
        ClientEvent.sequence).Nodup ↔
      s.db.clientEvents.countP (ClientEvent.failureOf (episodeId comb e)) =
        e.results.reverse.countP fun r => !r.success := by
  have hnodup : ((e.results.filter fun r => !r.success).map QueryResult.sequence).Nodup := by
    obtain ⟨rest,hes⟩ := h.latest
    obtain ⟨front,idle,hsplit,-⟩ := latest_split hes
    have hall := h.kept.nodup
    rw [hsplit,List.map_append,List.map_append] at hall
    have hresults := (List.nodup_append.mp (List.nodup_append.mp hall).1).2.1
    rw [List.map_reverse,List.nodup_reverse] at hresults
    exact hresults.sublist (List.filter_sublist.map _)
  have hsub : (s.db.clientEvents.filter (ClientEvent.failureOf (episodeId comb e))).map
      ClientEvent.sequence ⊆ (e.results.filter fun r => !r.success).map QueryResult.sequence := by
    intro n hn
    obtain ⟨row,hrow,rfl⟩ := List.mem_map.mp hn
    obtain ⟨r,hr,hfailed,hof⟩ :=
      h.failed_row (List.mem_filter.mp hrow).1 (List.mem_filter.mp hrow).2
    exact List.mem_map.mpr ⟨r,List.mem_filter.mpr ⟨hr,by simp [hfailed]⟩,hof.sequence.symm⟩
  have hsup : (e.results.filter fun r => !r.success).map QueryResult.sequence ⊆
      (s.db.clientEvents.filter (ClientEvent.failureOf (episodeId comb e))).map
        ClientEvent.sequence := by
    intro n hn
    obtain ⟨r,hr,rfl⟩ := List.mem_map.mp hn
    have hfailed : r.success = false := by simpa using (List.mem_filter.mp hr).2
    obtain ⟨row,hrow,hid,hof⟩ := h.stored_row (List.mem_filter.mp hr).1
      (hstored r (List.mem_filter.mp hr).1 hfailed)
    refine List.mem_map.mpr ⟨row,List.mem_filter.mpr ⟨hrow,?_⟩,hof.sequence⟩
    simp [ClientEvent.failureOf,hid,hof.success,hfailed]
  rw [nodup_iff_length_eq hnodup hsub hsup,List.length_map,List.length_map,
    ← List.countP_eq_length_filter,← List.countP_eq_length_filter,List.countP_reverse]

theorem Logs.ordered (h : Logs conn comb db₀ s e) : ∃ front idle,
    s.proc.attempts = front ++ e.results.reverse ++ idle ∧
      (∀ a ∈ front, ∀ r ∈ e.results, a.wallTs < r.wallTs) ∧
      (e.results.reverse.Pairwise fun a b => a.wallTs < b.wallTs ∧ a.sequence < b.sequence) ∧
      ∀ r ∈ e.results, ∀ b ∈ idle, r.wallTs < b.wallTs := by
  obtain ⟨rest,hes⟩ := h.latest
  obtain ⟨front,idle,hsplit,-⟩ := latest_split hes
  have hpair := h.run.clock.and h.kept.sequences_sorted
  rw [hsplit] at hpair
  obtain ⟨hleft,-,hidle⟩ := List.pairwise_append.mp hpair
  obtain ⟨-,hresults,hfront⟩ := List.pairwise_append.mp hleft
  refine ⟨front,idle,hsplit,fun a ha r hr => ?_,hresults,fun r hr b hb => ?_⟩
  · exact (hfront a ha r (List.mem_reverse.mpr hr)).1
  · exact (hidle r (List.mem_append_right _ (List.mem_reverse.mpr hr)) b hb).1

theorem Logs.onset_le (h : Logs conn comb db₀ s e) {r : QueryResult} (hr : r ∈ e.results) :
    e.onset.wallTs ≤ r.wallTs ∧ (r ≠ e.onset → e.onset.wallTs < r.wallTs) := by
  obtain ⟨-,-,-,-,hpair,-⟩ := h.ordered
  have hresults : e.results.reverse = e.onset :: e.later.reverse := by simp [Episode.results]
  rw [hresults] at hpair
  have hlater := (List.pairwise_cons.mp hpair).1
  rcases List.mem_cons.mp (hresults ▸ List.mem_reverse.mpr hr) with rfl | hr
  · exact ⟨le_refl _,fun hne => absurd rfl hne⟩
  · exact ⟨(hlater r hr).1.le,fun _ => (hlater r hr).1⟩

theorem Logs.first_failure (h : Logs conn comb db₀ s e)
    (hstored : e.onset.sequence ∈ rowSequences db₀.clientEvents.length s.db) :
    minWhere (ClientEvent.failureOf (episodeId comb e)) ClientEvent.ts s.db.clientEvents =
      some e.onset.wallTs := by
  obtain ⟨row,hrow,hid,hof⟩ := h.stored_row (by simp [Episode.results]) hstored
  refine minWhere_eq_some_iff.mpr ⟨⟨row,hrow,?_,hof.ts⟩,fun row' hrow' hfailed => ?_⟩
  · simp [ClientEvent.failureOf,hid,hof.success,e.failed]
  · obtain ⟨r,hr,-,hof'⟩ := h.failed_row hrow' hfailed
    rw [hof'.ts]
    exact (h.onset_le hr).1

theorem Logs.stored_until (h : Logs conn comb db₀ s e) (hr : Recovers e during last recovery after)
    (hstored : recovery.sequence ∈ rowSequences db₀.clientEvents.length s.db) {r : QueryResult}
    (hmem : r ∈ during ++ [last]) :
    r ∈ e.results ∧ r.wallTs < recovery.wallTs ∧
      r.sequence ∈ rowSequences db₀.clientEvents.length s.db := by
  obtain ⟨-,-,-,-,hpair,-⟩ := h.ordered
  have hresults : e.results.reverse = (during ++ [last]) ++ recovery :: after := by
    rw [hr.results,List.append_assoc]
    rfl
  rw [hresults] at hpair
  have hlt := (List.pairwise_append.mp hpair).2.2 r hmem recovery (by simp)
  have hin : ∀ q ∈ (during ++ [last]) ++ recovery :: after, q ∈ e.results := by
    intro q hq
    exact List.mem_reverse.mp (hresults ▸ hq)
  have hr : r ∈ e.results := hin r (List.mem_append_left _ hmem)
  exact ⟨hr,hlt.1,h.order.earlier recovery (h.attempted (hin recovery (by simp))) hstored r
    (h.attempted hr) hlt.2.le⟩

theorem Logs.onset_stored (h : Logs conn comb db₀ s e) {r : QueryResult} (hr : r ∈ e.results)
    (hstored : r.sequence ∈ rowSequences db₀.clientEvents.length s.db) :
    e.onset.sequence ∈ rowSequences db₀.clientEvents.length s.db := by
  obtain ⟨-,-,-,-,hpair,-⟩ := h.ordered
  have hresults : e.results.reverse = e.onset :: e.later.reverse := by simp [Episode.results]
  rw [hresults] at hpair
  have honset : e.onset ∈ e.results := by simp [Episode.results]
  rcases List.mem_cons.mp (hresults ▸ List.mem_reverse.mpr hr) with rfl | hlater
  · exact hstored
  · exact h.order.earlier r (h.attempted hr) hstored e.onset (h.attempted honset)
      ((List.pairwise_cons.mp hpair).1 r hlater).2.le

/-- The view finds the recovery if and only if its row is stored and no success came before. -/
theorem Logs.recovery_iff (h : Logs conn comb db₀ s e) (hr : Recovers e during last recovery after)
    (hmin : minWhere (ClientEvent.failureOf (episodeId comb e)) ClientEvent.ts s.db.clientEvents =
      some e.onset.wallTs) :
    recoveryFromFirst (ClientEvent.failureOf (episodeId comb e))
        (ClientEvent.successOf (episodeId comb e)) ClientEvent.ts s.db.clientEvents =
        some recovery.wallTs ↔
      recovery.sequence ∈ rowSequences db₀.clientEvents.length s.db ∧
        ∀ r ∈ during, r.success = false := by
  obtain ⟨front,idle,hsplit,hfront,hpair,hidle⟩ := h.ordered
  have hin : ∀ q ∈ during ++ last :: recovery :: after, q ∈ e.results := by
    intro q hq
    exact List.mem_reverse.mp (hr.results ▸ hq)
  have hrecovery : recovery ∈ e.results := hin recovery (by simp)
  have hlate : e.onset.wallTs < recovery.wallTs := by
    refine (h.onset_le hrecovery).2 fun heq => ?_
    have hfailed := e.failed
    rw [← heq,hr.recovery] at hfailed
    contradiction
  rw [recoveryFromFirst,hmin,minWhere_eq_some_iff]
  simp only [ClientEvent.successOf,Bool.and_eq_true,decide_eq_true_eq,exceeds_some]
  constructor
  · rintro ⟨⟨row,hrow,⟨⟨hid,-⟩,-⟩,hts⟩,hleast⟩
    obtain ⟨q,hq,hof,hstored⟩ := h.own_row hrow hid
    have heq : q = recovery := by
      have hnodup : (s.proc.attempts.map QueryResult.wallTs).Nodup :=
        (List.pairwise_map.mpr h.run.clock).imp ne_of_lt
      exact List.inj_on_of_nodup_map hnodup hq (h.attempted hrecovery) (hof.ts.symm.trans hts)
    rw [heq] at hstored
    refine ⟨hstored,fun r hmem => ?_⟩
    by_contra hsuccess
    obtain ⟨hresult,hlt,hstored'⟩ := h.stored_until hr hstored (List.mem_append_left _ hmem)
    obtain ⟨row',hrow',hid',hof'⟩ := h.stored_row hresult hstored'
    have hafter := (h.onset_le hresult).2 fun heq => hsuccess (heq ▸ e.failed)
    have hle := hleast row' hrow' ⟨⟨hid',by simpa [hof'.success] using hsuccess⟩,hof'.ts ▸ hafter⟩
    rw [hof'.ts] at hle
    exact absurd hlt (not_lt.mpr hle)
  · intro ⟨hstored,hduring⟩
    obtain ⟨row,hrow,hid,hof⟩ := h.stored_row hrecovery hstored
    refine ⟨⟨row,hrow,⟨⟨hid,hof.success.trans hr.recovery⟩,hof.ts ▸ hlate⟩,hof.ts⟩,?_⟩
    intro row' hrow' ⟨⟨hid',hsuccess⟩,hafter⟩
    obtain ⟨q,hq,hof',-⟩ := h.own_row hrow' hid'
    rw [hof'.ts] at hafter ⊢
    rw [hof'.success] at hsuccess
    rw [hsplit] at hq
    rcases List.mem_append.mp hq with hq | hq
    · rcases List.mem_append.mp hq with hq | hq
      · have hbefore := hfront q hq e.onset (by simp [Episode.results])
        exact absurd hafter (not_lt.mpr hbefore.le)
      · rw [hr.results] at hpair hq
        simp only [List.mem_append,List.mem_cons] at hq
        rcases hq with hq | rfl | rfl | hq
        · rw [hduring q hq] at hsuccess
          contradiction
        · rw [hr.last] at hsuccess
          contradiction
        · exact le_refl _
        · have hlast := (List.pairwise_cons.mp (List.pairwise_append.mp hpair).2.1).2
          exact ((List.pairwise_cons.mp hlast).1 q hq).1.le
    · exact (hidle recovery hrecovery q hq).le

theorem epoch_inj {a b : Int} : epoch a = epoch b ↔ a = b := by
  rw [epoch,epoch,div_left_inj' (by norm_num),Int.cast_inj]

theorem Logs.summary_iff (h : Logs conn comb db₀ s e) (hr : Recovers e during last recovery after) :
    loggedSummary s.db (episodeId comb e) = attemptsSummary e.results.reverse ↔
      FlushedInTime db₀.clientEvents.length (episodeId comb e) e s := by
  have hcomb : ∀ row ∈ s.db.clientEvents, row.testRunId = episodeId comb e →
      row.combinationId = comb := by
    intro row hrow hid
    obtain ⟨_,-,hof,-⟩ := h.own_row hrow hid
    exact hof.combinationId
  have hfailures : recovery.sequence ∈ rowSequences db₀.clientEvents.length s.db →
      ∀ r ∈ e.results, r.success = false →
        r.sequence ∈ rowSequences db₀.clientEvents.length s.db := by
    intro hstored r hresult hfailed
    have hmem := hr.results ▸ List.mem_reverse.mpr hresult
    simp only [List.mem_append,List.mem_cons] at hmem
    rcases hmem with hmem | rfl | rfl | hmem
    · exact (h.stored_until hr hstored (List.mem_append_left _ hmem)).2.2
    · exact (h.stored_until hr hstored (by simp)).2.2
    · exact hstored
    · rw [hr.after r hmem] at hfailed
      contradiction
  have hrecovered : (∃ r ∈ recoveredAt e.results.reverse,
      r.sequence ∈ rowSequences db₀.clientEvents.length s.db) ↔
        recovery.sequence ∈ rowSequences db₀.clientEvents.length s.db := by
    rw [hr.recoveredAt_eq]
    simp
  rw [loggedSummary_eq hcomb,hr.attemptsSummary_eq]
  constructor
  · intro hlogged
    obtain ⟨d,hd,hvalue⟩ := Option.map_eq_some_iff.mp hlogged
    obtain ⟨hdowntime,htotal⟩ := Prod.mk.inj hvalue
    obtain ⟨first,hfirst,hd⟩ := Option.bind_eq_some_iff.mp hd
    obtain ⟨found,hfound,rfl⟩ := Option.map_eq_some_iff.mp hd
    -- Some failed row is there, and so the one of the first failure.
    obtain ⟨⟨row,hrow,hfailed,-⟩,-⟩ := minWhere_eq_some_iff.mp hfirst
    obtain ⟨r,hresult,-,hof⟩ := h.failed_row hrow hfailed
    have hid : row.testRunId = episodeId comb e := by
      simp only [ClientEvent.failureOf,Bool.and_eq_true,decide_eq_true_eq] at hfailed
      exact hfailed.1
    obtain ⟨q,-,hof',hstored⟩ := h.own_row hrow hid
    rw [← hof'.sequence,hof.sequence] at hstored
    have hmin := h.first_failure (h.onset_stored hresult hstored)
    obtain rfl := Option.some.inj (hmin.symm.trans hfirst)
    have hts : found = recovery.wallTs := by
      rw [mul_left_inj' (by norm_num),epoch_inj] at hdowntime
      omega
    rw [hts,h.recovery_iff hr hmin] at hfound
    exact ⟨hrecovered.mpr hfound.1,(h.total_iff (hfailures hfound.1)).mpr htotal,
      hr.unbroken_iff.mpr hfound.2⟩
  · intro hflushed
    have hstored := hrecovered.mp hflushed.recovery
    have honset := h.onset_stored (List.mem_reverse.mp (by rw [hr.results]; simp)) hstored
    have hmin := h.first_failure honset
    rw [hmin,(h.recovery_iff hr hmin).mpr ⟨hstored,hr.unbroken_iff.mp hflushed.unbroken⟩,
      (h.total_iff (hfailures hstored)).mp hflushed.once]
    rfl

end Stored

/-- When a recovery reads its summary, it logs the downtime and the failures of the attempts if
and only if the rows have been flushed in time. -/
theorem summary_logged_iff {as : List ClientAction} {testRunId : String} {calls : List DbCall}
    (hrun : run ClientSession.step (.start (.init conn comb "") db₀) as = some s)
    (hcall : s.proc.phase = .calling (.summary testRunId :: calls)) :
    ∃ e rest, failoverEpisodes s.proc.attempts = e :: rest ∧ e.closed 3 = true ∧
      testRunId = episodeId comb e ∧
      (UndisturbedRun db₀ testRunId e s →
        (loggedSummary s.db testRunId = attemptsSummary e.results.reverse ↔
          FlushedInTime db₀.clientEvents.length testRunId e s)) := by
  obtain ⟨hdue,hi⟩ := run_storedInOrder hrun
  obtain ⟨e,rest,hes,hclosed,rfl⟩ := hdue testRunId (by rw [hcall]; simp)
  refine ⟨e,rest,hes,hclosed,rfl,fun hu => ?_⟩
  obtain ⟨during,last,recovery,after,hr⟩ := exists_recovers (hes ▸ List.mem_cons_self) hclosed
  have h : Logs conn comb db₀ s e := ⟨run_kept hrun,hi,⟨rest,hes⟩,hu⟩
  exact h.summary_iff hr

/-- One failed query after so many others, up to the query of the summary; what is flushed is
flushed after the first success. -/
def upToSummary (before : Nat) (flush : List ClientAction) : List ClientAction :=
  successes 0 before ++
    [.attempt (probe before (some "connection refused")),.callOk,.checkBatch] ++
    successes (before + 1) 1 ++ flush ++ successes (before + 2) 1 ++
    [.attempt (probe (before + 3) none),.callOk]

/-- With all of the failover in memory, nothing is logged. -/
theorem unflushedFailover_no_summary : ∃ s testRunId,
    run ClientSession.step (.start heartbeatClient .empty) (upToSummary 0 []) = some s ∧
      s.proc.phase = .calling [.summary testRunId] ∧ loggedSummary s.db testRunId = none ∧
      (failoverEpisodes s.proc.attempts).map (fun e => attemptsSummary e.results.reverse) =
        [some (100,1)] := by
  have h : (run ClientSession.step (.start heartbeatClient .empty) (upToSummary 0 [])).map
      (fun s => (s.proc.phase,loggedSummary s.db "06-haproxy-rest-polling_20260424_030640",
        (failoverEpisodes s.proc.attempts).map fun e => attemptsSummary e.results.reverse)) =
      some (.calling [.summary "06-haproxy-rest-polling_20260424_030640"],none,
        [some (100,1)]) := by decide +kernel
  obtain ⟨s,hs,hvalue⟩ := Option.map_eq_some_iff.mp h
  obtain ⟨hphase,hlogged,hattempts⟩ := by simpa only [Prod.mk.injEq] using hvalue
  exact ⟨s,_,hs,hphase,hlogged,hattempts⟩

/-- A batch is full with the first success, and is flushed before the summary is read. -/
def fullBatch : List ClientAction := upToSummary 48 (List.replicate 50 .insertRow ++ [.flushDone])

theorem summary_logged_fullBatch : ∃ s testRunId,
    run ClientSession.step (.start heartbeatClient .empty) fullBatch = some s ∧
      s.proc.phase = .calling [.summary testRunId] ∧
      loggedSummary s.db testRunId = some (100,1) := by
  have h : (run ClientSession.step (.start heartbeatClient .empty) fullBatch).map
      (fun s : ClientSession => (s.proc.phase,decide (∀ e ∈ failoverEpisodes s.proc.attempts,
        UndisturbedRun .empty "06-haproxy-rest-polling_20260424_030644" e s ∧
          FlushedInTime 0 "06-haproxy-rest-polling_20260424_030644" e s ∧
          attemptsSummary e.results.reverse = some (100,1)))) =
      some (.calling [.summary "06-haproxy-rest-polling_20260424_030644"],true) := by
    decide +kernel
  obtain ⟨s,hs,hvalue⟩ := Option.map_eq_some_iff.mp h
  obtain ⟨hphase,hall⟩ := Prod.mk.inj hvalue
  obtain ⟨e,rest,hes,-,-,hiff⟩ := summary_logged_iff hs hphase
  obtain ⟨hown,hflushed,hattempts⟩ := of_decide_eq_true hall e (hes ▸ List.mem_cons_self)
  exact ⟨s,_,hs,hphase,((hiff hown).mpr hflushed).trans hattempts⟩

end Summary

end RoutingBench
