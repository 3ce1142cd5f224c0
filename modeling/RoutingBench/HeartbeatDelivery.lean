import RoutingBench.Detector
import RoutingBench.Outbox
import RoutingBench.Views
set_option autoImplicit false

/-!
What the heartbeat client delivers. With a connection string it implements an outbox of
sequence numbers with a single worker: the batch in flight is the whole list of results.
-/

namespace RoutingBench
open Runs

def ClientPhase.inserted : ClientPhase → Nat
  | .flushing inserted _ => inserted
  | _ => 0

def ClientPhase.isFlushing : ClientPhase → Bool
  | .flushing _ _ => true
  | _ => false

@[simp] theorem ClientPhase.loop_batch : loop.inserted = 0 ∧ loop.isFlushing = false := ⟨rfl,rfl⟩

@[simp] theorem ClientPhase.calling_batch (calls : List DbCall) :
    (calling calls).inserted = 0 ∧ (calling calls).isFlushing = false := ⟨rfl,rfl⟩

@[simp] theorem ClientPhase.flushing_batch (inserted : Nat) (final : Bool) :
    (flushing inserted final).inserted = inserted ∧
      (flushing inserted final).isFlushing = true := ⟨rfl,rfl⟩

@[simp] theorem afterFlush_batch (final : Bool) :
    (afterFlush final).inserted = 0 ∧ (afterFlush final).isFlushing = false := by
  cases final <;> exact ⟨rfl,rfl⟩

def ClientProc.pending (p : ClientProc) : List Nat := p.self.results.map QueryResult.sequence

/-- The sequence numbers of the rows beyond the first `before` rows of the table. -/
def rowSequences (before : Nat) (db : Database) : List Nat :=
  (db.clientEvents.drop before).map ClientEvent.sequence

/-- The outbox of a client; what was given back although it has a row is remembered beside. -/
def ClientSession.outbox (before : Nat) (s : ClientSession) (repeated : List Nat) :
    Outbox Nat Unit where
  buffer := if s.proc.phase.isFlushing then [] else s.proc.pending
  batch _ := if s.proc.phase.isFlushing then s.proc.pending else []
  sent _ := s.proc.phase.inserted
  written := rowSequences before s.db
  pushed := s.proc.attempts.map QueryResult.sequence
  repeated := repeated

def ClientAction.repeats (p : ClientProc) : ClientAction → List Nat
  | .flushFail => p.pending.take p.phase.inserted
  | _ => []

theorem rowSequences_congr {before : Nat} {db db' : Database}
    (h : db'.clientEvents = db.clientEvents) : rowSequences before db' = rowSequences before db := by
  simp [rowSequences,h]

section Refinement

variable {before : Nat} {s s' : ClientSession} {a : ClientAction}

theorem flushResults_refines {db : Database} {p : ClientProc} {final : Bool}
    (hc : p.self.timescaleConnstring ≠ "") (hph : p.phase.isFlushing = false)
    (hzero : p.phase.inserted = 0) (repeated : List Nat) :
    (ClientSession.mk (p.flushResults final) db).outbox before repeated =
        (ClientSession.mk p db).outbox before repeated ∨
      ∃ b, ((ClientSession.mk p db).outbox before repeated).step b =
        some ((ClientSession.mk (p.flushResults final) db).outbox before repeated) := by
  rcases flushResults_cases p final with ⟨hempty | hconn,h⟩ | ⟨-,-,h⟩
  · rw [h]
    refine .inl ?_
    simp [ClientSession.outbox,ClientProc.pending,hph,hzero,hempty]
  · exact absurd hconn hc
  · rw [h]
    refine .inr ⟨.take (),?_⟩
    simp [Outbox.step,ClientSession.outbox,ClientProc.pending,hph,funext_iff]

theorem client_refines (hc : s.proc.self.timescaleConnstring ≠ "")
    (hbefore : before ≤ s.db.clientEvents.length) (h : s.step a = some s')
    (repeated : List Nat) :
    s'.outbox before (repeated ++ a.repeats s.proc) = s.outbox before repeated ∨
      ∃ b, (s.outbox before repeated).step b =
        some (s'.outbox before (repeated ++ a.repeats s.proc)) := by
  obtain ⟨p,db⟩ := s
  obtain ⟨p',db'⟩ := s'
  cases a with
  | attempt o =>
    obtain ⟨hp,hdb⟩ := session_quiet h (by simp) (by simp)
    simp only at hp hdb
    subst hdb
    obtain ⟨hph,-,-,hp'⟩ := client_attempt hp
    subst hp'
    refine .inr ⟨.push (p.self.sequence + 1),?_⟩
    obtain ⟨calls,hcalls⟩ := attempt_phase p o
    simp [Outbox.step,ClientSession.outbox,ClientAction.repeats,ClientProc.pending,hph,hcalls]
  | callOk =>
    have hev := session_clientEvents h (by simp)
    obtain ⟨c,calls,hph,hp',-⟩ := session_callOk h
    simp only at hph hp' hev
    subst hp'
    refine .inl ?_
    simp [ClientSession.outbox,ClientAction.repeats,rowSequences_congr hev,hph,ClientProc.pending]
  | callFail =>
    obtain ⟨hp,hdb⟩ := session_quiet h (by simp) (by simp)
    simp only at hp hdb
    subst hdb
    obtain ⟨c,calls,hph,-,hp'⟩ := client_callFail hp
    subst hp'
    refine .inl ?_
    simp [ClientSession.outbox,ClientAction.repeats,hph,ClientProc.pending]
  | checkBatch =>
    obtain ⟨hp,hdb⟩ := session_quiet h (by simp) (by simp)
    simp only at hp hdb
    subst hdb
    obtain ⟨hph,-,⟨-,rfl⟩ | ⟨-,rfl⟩⟩ := client_checkBatch hp
    · simpa [ClientAction.repeats] using flushResults_refines hc (by rw [hph]; rfl)
        (by rw [hph]; rfl) repeated
    · refine .inl ?_
      simp [ClientSession.outbox,ClientAction.repeats,hph,ClientProc.pending]
  | insertRow =>
    obtain ⟨r,inserted,final,hph,hr,hp',hev,-⟩ := session_insertRow h
    simp only at hph hp' hr hev hbefore
    subst hp'
    refine .inr ⟨.write (),?_⟩
    have hrows : rowSequences before db' = rowSequences before db ++ [r.sequence] := by
      simp [rowSequences,hev,List.drop_append_of_le_length hbefore,HeartbeatClient.row]
    simp [Outbox.step,ClientSession.outbox,ClientAction.repeats,hph,hr,hrows,
      ClientProc.pending,funext_iff]
  | flushFail =>
    obtain ⟨hp,hdb⟩ := session_quiet h (by simp) (by simp)
    simp only at hp hdb
    subst hdb
    obtain ⟨inserted,final,hph,-,hp'⟩ := client_flushFail hp
    subst hp'
    refine .inr ⟨.giveBack (),?_⟩
    simp [Outbox.step,Outbox.release,ClientSession.outbox,ClientAction.repeats,hph,
      ClientProc.pending,funext_iff]
  | flushDone =>
    obtain ⟨hp,hdb⟩ := session_quiet h (by simp) (by simp)
    simp only at hp hdb
    subst hdb
    obtain ⟨final,hph,-,hp'⟩ := client_flushDone hp
    subst hp'
    refine .inr ⟨.settle (),?_⟩
    simp [Outbox.step,Outbox.release,ClientSession.outbox,ClientAction.repeats,hph,
      ClientProc.pending,funext_iff]
  | shutdown =>
    obtain ⟨hp,hdb⟩ := session_quiet h (by simp) (by simp)
    simp only at hp hdb
    subst hdb
    obtain ⟨-,rfl⟩ := client_shutdown hp
    exact .inl (by simp [ClientSession.outbox,ClientAction.repeats,ClientProc.pending])
  | exit =>
    obtain ⟨hp,hdb⟩ := session_quiet h (by simp) (by simp)
    simp only at hp hdb
    subst hdb
    obtain ⟨hph,-,-,rfl⟩ := client_exit hp
    simpa [ClientAction.repeats] using flushResults_refines hc (by rw [hph]; rfl)
      (by rw [hph]; rfl) repeated

end Refinement

section Delivery

variable {conn comb trid : String} {db₀ : Database} {s s' : ClientSession}
  {as : List ClientAction} {a : ClientAction}

/-- A row of client_events is the row of a result, under some test run id. -/
structure RowOf (comb : String) (r : QueryResult) (row : ClientEvent) : Prop where
  ts : row.ts = r.wallTs
  combinationId : row.combinationId = comb
  sequence : row.sequence = r.sequence
  success : row.success = r.success
  latencyUs : row.latencyUs = r.latencyUs
  error : row.error = r.error

/-- The bookkeeping of a client: attempts are numbered from one, the results are attempts,
and the rows it has inserted are rows of attempts. -/
structure Kept (conn comb : String) (db₀ : Database) (s : ClientSession) : Prop where
  connstring : s.proc.self.timescaleConnstring = conn
  combinationId : s.proc.self.combinationId = comb
  sequences : s.proc.attempts.map QueryResult.sequence = List.range' 1 s.proc.self.sequence
  results : ∀ r ∈ s.proc.self.results, r ∈ s.proc.attempts
  before : db₀.clientEvents <+: s.db.clientEvents
  rows : ∀ row ∈ s.db.clientEvents.drop db₀.clientEvents.length,
    ∃ r ∈ s.proc.attempts, RowOf comb r row

theorem kept_start : Kept conn comb db₀ (.start (.init conn comb trid) db₀) := by
  constructor <;> simp [ClientSession.start,ClientProc.start,HeartbeatClient.init]

theorem kept_step (hk : Kept conn comb db₀ s) (h : s.step a = some s') :
    Kept conn comb db₀ s' := by
  by_cases hi : a = .insertRow
  · subst hi
    obtain ⟨r,inserted,final,hph,hr,hp,hev,-⟩ := session_insertRow h
    have hmem := List.mem_of_getElem? hr
    have hself : s'.proc.self = s.proc.self := by rw [hp]
    have hatt : s'.proc.attempts = s.proc.attempts := by rw [hp]
    refine ⟨?_,?_,?_,?_,?_,?_⟩
    · rw [hself]; exact hk.connstring
    · rw [hself]; exact hk.combinationId
    · rw [hself,hatt]; exact hk.sequences
    · rw [hself,hatt]; exact hk.results
    · rw [hev]; exact hk.before.trans (List.prefix_append _ _)
    · intro row hrow
      rw [hev,List.drop_append_of_le_length hk.before.length_le] at hrow
      rw [hatt]
      rcases List.mem_append.mp hrow with hrow | hrow
      · exact hk.rows row hrow
      · obtain rfl := List.mem_singleton.mp hrow
        exact ⟨r,hk.results r hmem,rfl,hk.combinationId,rfl,rfl,rfl,rfl⟩
  · have hev := session_clientEvents h hi
    obtain ⟨out,hp⟩ := session_proc h
    cases a with
    | attempt o =>
      obtain ⟨-,-,-,hp'⟩ := client_attempt hp
      refine ⟨?_,?_,?_,?_,by rw [hev]; exact hk.before,?_⟩
      · rw [hp',attempt_connstring]; exact hk.connstring
      · rw [hp',attempt_combinationId]; exact hk.combinationId
      · rw [hp',attempt_attempts,attempt_sequence,List.map_append,hk.sequences,
          List.range'_concat]
        simp [Nat.add_comm]
      · rw [hp']
        intro r hr
        rw [attempt_results] at hr
        rw [attempt_attempts]
        rcases List.mem_append.mp hr with hr | hr
        · exact List.mem_append_left _ (hk.results r hr)
        · exact List.mem_append_right _ hr
      · rw [hev,hp']
        intro row hrow
        obtain ⟨r,hr,hof⟩ := hk.rows row hrow
        exact ⟨r,List.mem_append_left _ hr,hof⟩
    | _ =>
      obtain ⟨hatt,hres,hself⟩ := client_keeps hp (by simp)
      refine ⟨?_,?_,?_,?_,by rw [hev]; exact hk.before,by rw [hev,hatt]; exact hk.rows⟩
      · rw [hself]; exact hk.connstring
      · rw [hself]; exact hk.combinationId
      · rw [hatt,hself]; exact hk.sequences
      · intro r hr
        rw [hatt]
        rcases hres with hres | hres
        · exact hk.results r (hres ▸ hr)
        · rw [hres] at hr; simp at hr

theorem run_kept (hrun : run ClientSession.step (.start (.init conn comb trid) db₀) as = some s) :
    Kept conn comb db₀ s :=
  reachable (fun _ _ _ hk hstep => kept_step hk hstep) kept_start hrun

theorem Kept.nodup (hk : Kept conn comb db₀ s) :
    (s.proc.attempts.map QueryResult.sequence).Nodup := by
  rw [hk.sequences]
  exact List.nodup_range'

theorem Kept.eq_of_sequence (hk : Kept conn comb db₀ s) {q r : QueryResult}
    (hq : q ∈ s.proc.attempts) (hr : r ∈ s.proc.attempts) (h : q.sequence = r.sequence) : q = r :=
  List.inj_on_of_nodup_map hk.nodup hq hr h

theorem outbox_start_client : (ClientSession.start (.init conn comb trid) db₀).outbox
    db₀.clientEvents.length [] = Outbox.empty Nat Unit := by
  simp [ClientSession.outbox,ClientSession.start,ClientProc.start,Outbox.empty,rowSequences,
    ClientProc.pending,HeartbeatClient.init]

theorem lawful_client_step (hc : conn ≠ "") (hk : Kept conn comb db₀ s) {repeated : List Nat}
    (hl : (s.outbox db₀.clientEvents.length repeated).Lawful) (h : s.step a = some s') :
    (s'.outbox db₀.clientEvents.length (repeated ++ a.repeats s.proc)).Lawful := by
  rcases client_refines (by rw [hk.connstring]; exact hc) hk.before.length_le h repeated with heq | ⟨b,hb⟩
  · rw [heq]; exact hl
  · exact Outbox.lawful_step hl hb

theorem run_client_outbox (hc : conn ≠ "")
    (hrun : run ClientSession.step (.start (.init conn comb trid) db₀) as = some s) :
    Kept conn comb db₀ s ∧
      ∃ repeated, (s.outbox db₀.clientEvents.length repeated).Lawful := by
  refine reachable (I := fun s => Kept conn comb db₀ s ∧
    ∃ repeated, (s.outbox db₀.clientEvents.length repeated).Lawful) ?_ ⟨kept_start,[],?_⟩ hrun
  · intro s a s' hI hstep
    obtain ⟨hk,repeated,hl⟩ := hI
    exact ⟨kept_step hk hstep,_,lawful_client_step hc hk hl hstep⟩
  · rw [outbox_start_client]; exact Outbox.lawful_empty

def PartialFlush (s : ClientSession) (a : ClientAction) : Prop :=
  a = .flushFail ∧ 0 < s.proc.phase.inserted

theorem run_no_partial (hc : conn ≠ "")
    (hno : Along ClientSession.step (fun s a => ¬ PartialFlush s a)
      (.start (.init conn comb trid) db₀) as)
    (hrun : run ClientSession.step (.start (.init conn comb trid) db₀) as = some s) :
    (s.outbox db₀.clientEvents.length []).Lawful := by
  have h := invariant (I := fun s => Kept conn comb db₀ s ∧
    (s.outbox db₀.clientEvents.length []).Lawful) ?_ ⟨kept_start,?_⟩ hno hrun
  · exact h.2
  · intro s a s' hI hp hstep
    obtain ⟨hk,hl⟩ := hI
    have hrep : a.repeats s.proc = [] := by
      cases a with
      | flushFail =>
        have hz : s.proc.phase.inserted = 0 := by
          have := not_and.mp hp rfl
          omega
        simp [ClientAction.repeats,hz]
      | _ => rfl
    have hl' := lawful_client_step hc hk hl hstep
    rw [hrep] at hl'
    exact ⟨kept_step hk hstep,hl'⟩
  · rw [outbox_start_client]; exact Outbox.lawful_empty

theorem rowSequences_step (hk : Kept conn comb db₀ s) (h : s.step a = some s') :
    rowSequences db₀.clientEvents.length s.db <+: rowSequences db₀.clientEvents.length s'.db := by
  by_cases hi : a = .insertRow
  · subst hi
    obtain ⟨r,_,_,-,-,-,hev,-⟩ := session_insertRow h
    rw [rowSequences,rowSequences,hev,List.drop_append_of_le_length hk.before.length_le,List.map_append]
    exact List.prefix_append _ _
  · rw [rowSequences_congr (session_clientEvents h hi)]

/-- The flush that comes next begins with a result that has a row. -/
structure Resends (before : Nat) (r : QueryResult) (s : ClientSession) : Prop where
  head : s.proc.self.results.head? = some r
  row : r.sequence ∈ rowSequences before s.db
  inserted : s.proc.phase.inserted = 0

theorem resends_step {r : QueryResult} {before : Nat} (hc : s.proc.self.timescaleConnstring ≠ "")
    (hr : Resends before r s) (h : s.step a = some s') (hi : a ≠ .insertRow) :
    Resends before r s' := by
  have hne : s.proc.self.results ≠ [] := by
    intro h0
    have := hr.head
    simp [h0] at this
  have hrow : r.sequence ∈ rowSequences before s'.db := by
    rw [rowSequences_congr (session_clientEvents h hi)]; exact hr.row
  have hflush : ∀ final, (s.proc.flushResults final).self.results = s.proc.self.results ∧
      (s.proc.flushResults final).phase.inserted = 0 := by
    intro final
    rcases flushResults_cases s.proc final with ⟨h0 | hconn,-⟩ | ⟨-,-,hf⟩
    · exact absurd h0 hne
    · exact absurd hconn hc
    · rw [hf]; exact ⟨rfl,rfl⟩
  obtain ⟨out,hp⟩ := session_proc h
  cases a with
  | insertRow => contradiction
  | attempt o =>
    obtain ⟨-,-,-,hp'⟩ := client_attempt hp
    refine ⟨?_,hrow,by rw [hp']; rfl⟩
    rw [hp',attempt_results,List.head?_append,hr.head]
    rfl
  | callOk =>
    obtain ⟨_,_,-,-,hp'⟩ := client_callOk hp
    exact ⟨by rw [hp']; exact hr.head,hrow,by rw [hp']; rfl⟩
  | callFail =>
    obtain ⟨_,_,-,-,hp'⟩ := client_callFail hp
    exact ⟨by rw [hp']; exact hr.head,hrow,by rw [hp']; rfl⟩
  | checkBatch =>
    obtain ⟨-,-,⟨-,hp'⟩ | ⟨-,hp'⟩⟩ := client_checkBatch hp
    · exact ⟨by rw [hp',(hflush false).1]; exact hr.head,hrow,by rw [hp']; exact (hflush false).2⟩
    · exact ⟨by rw [hp']; exact hr.head,hrow,by rw [hp']; rfl⟩
  | flushFail =>
    obtain ⟨_,final,-,-,hp'⟩ := client_flushFail hp
    exact ⟨by rw [hp']; exact hr.head,hrow,by rw [hp']; simp⟩
  | flushDone =>
    obtain ⟨final,hph,-,-⟩ := client_flushDone hp
    have h0 := hr.inserted
    rw [hph] at h0
    exact absurd (List.eq_nil_of_length_eq_zero h0) hne
  | shutdown =>
    obtain ⟨-,hp'⟩ := client_shutdown hp
    exact ⟨by rw [hp']; exact hr.head,hrow,by rw [hp']; exact hr.inserted⟩
  | exit =>
    obtain ⟨-,-,-,hp'⟩ := client_exit hp
    exact ⟨by rw [hp',(hflush true).1]; exact hr.head,hrow,by rw [hp']; exact (hflush true).2⟩

/-- At most one row per attempt, none lost, and so the totals of failover_window count no
more than the queries that were attempted. -/
structure RowsOnce (db₀ : Database) (s : ClientSession) : Prop where
  once : ∀ n, (rowSequences db₀.clientEvents.length s.db).count n ≤ 1
  kept : ∀ r ∈ s.proc.attempts, r ∈ s.proc.self.results ∨
    r.sequence ∈ rowSequences db₀.clientEvents.length s.db
  failures : ∀ t c, (failoverWindowOf s.db.clientEvents t c).totalFailures ≤
    (failoverWindowOf db₀.clientEvents t c).totalFailures +
      s.proc.attempts.countP fun r => !r.success
  successes : ∀ t c, (failoverWindowOf s.db.clientEvents t c).totalSuccesses ≤
    (failoverWindowOf db₀.clientEvents t c).totalSuccesses +
      s.proc.attempts.countP fun r => r.success

theorem countP_rows_le (hk : Kept conn comb db₀ s)
    (hone : (rowSequences db₀.clientEvents.length s.db).Nodup) (f : Bool → Bool) :
    (s.db.clientEvents.drop db₀.clientEvents.length).countP (fun r => f r.success) ≤
      s.proc.attempts.countP fun r => f r.success := by
  rw [List.countP_eq_length_filter,List.countP_eq_length_filter]
  have hnodup : (((s.db.clientEvents.drop db₀.clientEvents.length).filter
      fun r => f r.success).map ClientEvent.sequence).Nodup :=
    hone.sublist (List.filter_sublist.map _)
  have hsub : ((s.db.clientEvents.drop db₀.clientEvents.length).filter
      fun r => f r.success).map ClientEvent.sequence ⊆
      (s.proc.attempts.filter fun r => f r.success).map QueryResult.sequence := by
    intro n hn
    obtain ⟨row,hrow,rfl⟩ := List.mem_map.mp hn
    obtain ⟨hmem,hf⟩ := List.mem_filter.mp hrow
    obtain ⟨r,hr,hof⟩ := hk.rows row hmem
    refine List.mem_map.mpr ⟨r,List.mem_filter.mpr ⟨hr,?_⟩,hof.sequence.symm⟩
    rw [← hof.success]; exact hf
  simpa using (hnodup.subperm hsub).length_le

theorem total_le (hk : Kept conn comb db₀ s)
    (hone : (rowSequences db₀.clientEvents.length s.db).Nodup) (f : Bool → Bool)
    (g : ClientEvent → Bool) :
    (s.db.clientEvents.filter g).countP (fun r => f r.success) ≤
      (db₀.clientEvents.filter g).countP (fun r => f r.success) +
        s.proc.attempts.countP fun r => f r.success := by
  have hsplit : s.db.clientEvents =
      db₀.clientEvents ++ s.db.clientEvents.drop db₀.clientEvents.length :=
    (List.prefix_iff_eq_append.mp hk.before).symm
  have hle := countP_rows_le hk hone f
  have hfilter : ((s.db.clientEvents.drop db₀.clientEvents.length).filter g).countP
      (fun r => f r.success) ≤
      (s.db.clientEvents.drop db₀.clientEvents.length).countP fun r => f r.success :=
    List.filter_sublist.countP_le
  rw [hsplit,List.filter_append,List.countP_append]
  omega

/-- Once a flush has failed after inserting a row no further row is inserted. -/
def NoInsertAfterPartialFlush (s₀ : ClientSession) (as : List ClientAction) : Prop :=
  ∀ pre post t, as = pre ++ .flushFail :: post → run ClientSession.step s₀ pre = some t →
    0 < t.proc.phase.inserted → ClientAction.insertRow ∉ post

theorem NoInsertAfterPartialFlush.of_append {s₀ : ClientSession} {as bs : List ClientAction}
    (h : NoInsertAfterPartialFlush s₀ (as ++ bs)) : NoInsertAfterPartialFlush s₀ as := by
  intro pre post t has ht hpos hmem
  refine h pre (post ++ bs) t (by rw [has]; simp) ht hpos ?_
  exact List.mem_append_left _ hmem

theorem NoInsertAfterPartialFlush.no_partial {s₀ : ClientSession}
    (h : NoInsertAfterPartialFlush s₀ (as ++ [.insertRow]))
    (hrun : run ClientSession.step s₀ (as ++ [.insertRow]) = some s) :
    Along ClientSession.step (fun s a => ¬ PartialFlush s a) s₀ (as ++ [.insertRow]) := by
  refine (along_iff hrun).mpr ?_
  intro pre a post t has ht hpartial
  obtain ⟨rfl,hpos⟩ := hpartial
  refine h pre post t has ht hpos ?_
  rcases List.eq_nil_or_concat post with rfl | ⟨rest,x,rfl⟩
  · have := (List.append_inj' has rfl).2
    simp at this
  · rw [List.concat_eq_append,← List.cons_append,← List.append_assoc] at has
    have hlast := (List.append_inj' has rfl).2
    simp_all

theorem run_once (hc : conn ≠ "")
    (hrun : run ClientSession.step (.start (.init conn comb trid) db₀) as = some s)
    (hno : NoInsertAfterPartialFlush (.start (.init conn comb trid) db₀) as) :
    (rowSequences db₀.clientEvents.length s.db).Nodup := by
  induction as using List.reverseRecOn generalizing s with
  | nil =>
    obtain rfl : ClientSession.start (.init conn comb trid) db₀ = s := by simpa using hrun
    simp [rowSequences,ClientSession.start]
  | append_singleton as a ih =>
    obtain ⟨t,ht,hstep⟩ := run_snoc.mp hrun
    by_cases hi : a = .insertRow
    · subst hi
      have hl := run_no_partial hc (hno.no_partial hrun) hrun
      refine List.nodup_iff_count_le_one.mpr fun n => ?_
      exact Outbox.written_count_le hl rfl (run_kept hrun).nodup n
    · rw [rowSequences_congr (session_clientEvents hstep hi)]
      exact ih ht hno.of_append

theorem rowSequences_run (hk : Kept conn comb db₀ s)
    (hrun : run ClientSession.step s as = some s') :
    rowSequences db₀.clientEvents.length s.db <+: rowSequences db₀.clientEvents.length s'.db := by
  refine (reachable (I := fun t => Kept conn comb db₀ t ∧
    rowSequences db₀.clientEvents.length s.db <+: rowSequences db₀.clientEvents.length t.db)
    ?_ ⟨hk,List.prefix_refl _⟩ hrun).2
  intro t a t' hI hstep
  exact ⟨kept_step hI.1 hstep,hI.2.trans (rowSequences_step hI.1 hstep)⟩

theorem resends_insertRow {r : QueryResult} (hk : Kept conn comb db₀ s)
    (hr : Resends db₀.clientEvents.length r s) (h : s.step .insertRow = some s') :
    2 ≤ (rowSequences db₀.clientEvents.length s'.db).count r.sequence := by
  obtain ⟨q,inserted,final,hph,hq,-,hev,-⟩ := session_insertRow h
  have hzero := hr.inserted
  rw [hph] at hzero
  obtain rfl : inserted = 0 := hzero
  obtain rfl : q = r := by
    have := hr.head
    rw [List.head?_eq_getElem?,hq] at this
    exact Option.some.inj this
  have hpos := List.count_pos_iff.mpr hr.row
  rw [rowSequences,hev,List.drop_append_of_le_length hk.before.length_le,List.map_append,
    List.count_append]
  rw [rowSequences] at hpos
  have hone : ([s.proc.self.row q].map ClientEvent.sequence).count q.sequence = 1 := by
    simp [HeartbeatClient.row]
  omega

theorem resends_of_partial {repeated : List Nat}
    (hl : (s.outbox db₀.clientEvents.length repeated).Lawful) (hpos : 0 < s.proc.phase.inserted)
    (h : s.step .flushFail = some s') : ∃ r, Resends db₀.clientEvents.length r s' := by
  obtain ⟨hp,hdb⟩ := session_quiet h (by simp) (by simp)
  obtain ⟨inserted,final,hph,-,hp'⟩ := client_flushFail hp
  rw [hph] at hpos
  have hrec := hl.sound.recorded ()
  have hle := hl.sound.sent_le ()
  simp [ClientSession.outbox,hph,ClientProc.pending] at hrec hle hpos
  cases hres : s.proc.self.results with
  | nil => simp [hres] at hle; omega
  | cons r rest =>
    obtain ⟨m,rfl⟩ := Nat.exists_eq_succ_of_ne_zero (Nat.ne_of_gt hpos)
    refine ⟨r,by rw [hp']; simp [hres],?_,by rw [hp']; simp⟩
    rw [hdb]
    exact hrec r.sequence (by simp [hres])

/-- A further INSERT after a partial flush repeats a row. -/
theorem partial_flush_repeats (hc : conn ≠ "") {pre post : List ClientAction} {t : ClientSession}
    (hpre : run ClientSession.step (.start (.init conn comb trid) db₀) pre = some t)
    (hpos : 0 < t.proc.phase.inserted)
    (hrun : run ClientSession.step t (.flushFail :: post) = some s)
    (hmem : ClientAction.insertRow ∈ post) :
    ∃ n, 2 ≤ (rowSequences db₀.clientEvents.length s.db).count n := by
  obtain ⟨hk,repeated,hl⟩ := run_client_outbox hc hpre
  obtain ⟨t₁,hfail,hpost⟩ := run_cons.mp hrun
  obtain ⟨r,hr⟩ := resends_of_partial hl hpos hfail
  obtain ⟨mid,rest,rfl,hmid⟩ := List.eq_append_cons_of_mem hmem
  obtain ⟨t₂,hrun₂,hrest⟩ := run_append_some.mp hpost
  obtain ⟨t₃,hinsert,hrun₃⟩ := run_cons.mp hrest
  have hI := invariant (P := fun _ a => a ≠ .insertRow)
    (I := fun t => Kept conn comb db₀ t ∧ Resends db₀.clientEvents.length r t) ?_
    ⟨kept_step hk hfail,hr⟩ ((along_iff hrun₂).mpr ?_) hrun₂
  · have htwo := resends_insertRow hI.1 hI.2 hinsert
    have hpre := rowSequences_run (kept_step hI.1 hinsert) hrun₃
    exact ⟨r.sequence,htwo.trans (hpre.sublist.count_le _)⟩
  · intro t a t' hI ha hstep
    have hconn : t.proc.self.timescaleConnstring ≠ "" := by rw [hI.1.connstring]; exact hc
    exact ⟨kept_step hI.1 hstep,resends_step hconn hI.2 hstep ha⟩
  · intro p a q u hmidEq _ ha
    refine hmid ?_
    rw [hmidEq,ha]
    simp

/-- Every attempted query is in `self.results` or has a row. -/
theorem run_nothing_lost (hc : conn ≠ "")
    (hrun : run ClientSession.step (.start (.init conn comb trid) db₀) as = some s) :
    ∀ r ∈ s.proc.attempts, r ∈ s.proc.self.results ∨
      r.sequence ∈ rowSequences db₀.clientEvents.length s.db := by
  obtain ⟨hk,repeated,hl⟩ := run_client_outbox hc hrun
  intro r hr
  have hmem : r.sequence ∈ s.proc.attempts.map QueryResult.sequence :=
    List.mem_map_of_mem hr
  have hpending : r.sequence ∈ s.proc.pending → r ∈ s.proc.self.results := by
    intro hp
    obtain ⟨q,hq,hqr⟩ := List.mem_map.mp hp
    obtain rfl := hk.eq_of_sequence (hk.results q hq) hr hqr
    exact hq
  rcases Outbox.no_loss hl hmem with h | ⟨w,h⟩ | h
  · simp only [ClientSession.outbox] at h
    split at h
    · simp at h
    · exact .inl (hpending h)
  · simp only [ClientSession.outbox] at h
    split at h
    · exact .inl (hpending h)
    · simp at h
  · exact .inr h

/-- With no result left to flush every attempted query has its row. -/
theorem run_delivered (hc : conn ≠ "")
    (hrun : run ClientSession.step (.start (.init conn comb trid) db₀) as = some s)
    (hflushed : s.proc.self.results = []) :
    ∀ r ∈ s.proc.attempts, ∃ row ∈ s.db.clientEvents.drop db₀.clientEvents.length,
      RowOf comb r row := by
  intro r hr
  have hk := run_kept hrun
  rcases run_nothing_lost hc hrun r hr with h | h
  · rw [hflushed] at h; simp at h
  · obtain ⟨row,hrow,hseq⟩ := List.mem_map.mp h
    obtain ⟨q,hq,hof⟩ := hk.rows row hrow
    obtain rfl := hk.eq_of_sequence hq hr (hof.sequence.symm.trans hseq)
    exact ⟨row,hrow,hof⟩

/-- Each attempted query has at most one row, and is in `self.results` or has one, and
failover_window does not overcount: exactly in the runs in which no row is inserted any more
once a flush has failed after inserting one. -/
theorem heartbeat_rows_once (hc : conn ≠ "")
    (hrun : run ClientSession.step (.start (.init conn comb trid) db₀) as = some s) :
    RowsOnce db₀ s ↔ NoInsertAfterPartialFlush (.start (.init conn comb trid) db₀) as := by
  have hk := run_kept hrun
  constructor
  · intro h pre post t has hpre hpos hmem
    subst has
    obtain ⟨t',ht',hpost⟩ := run_append_some.mp hrun
    obtain rfl : t = t' := by rw [hpre] at ht'; exact Option.some.inj ht'
    obtain ⟨n,hn⟩ := partial_flush_repeats hc hpre hpos hpost hmem
    have := h.once n
    omega
  · intro hno
    have hone := run_once hc hrun hno
    refine ⟨List.nodup_iff_count_le_one.mp hone,run_nothing_lost hc hrun,?_,?_⟩
    · exact fun t c => total_le hk hone (fun b => !b) _
    · exact fun t c => total_le hk hone (fun b => b) _

def heartbeatClient : HeartbeatClient :=
  .init "host=prb-timescaledb port=5432 dbname=bench" "06-haproxy-rest-polling" ""

def probe (k : Nat) (exception : Option String) : Outcome where
  wallTs := 1777000000000000 + 100000 * k
  monoStart := 100000000 * k
  monoEnd := 100000000 * k + 2500000
  exception := exception

/-- Successful queries, each with the test of the batch size after it. -/
def successes (first count : Nat) : List ClientAction :=
  (List.range' first count).flatMap fun k => [.attempt (probe k none),.checkBatch]

/-- The first flush fails after one row, and the next one, a query later, starts over. -/
def retriedBatch : List ClientAction :=
  successes 0 50 ++ [.insertRow,.flushFail] ++ successes 50 1 ++ [.insertRow]

theorem retriedBatch_two_rows : ∃ s,
    run ClientSession.step (.start heartbeatClient .empty) retriedBatch = some s ∧
      (rowSequences 0 s.db).count 1 = 2 := by
  have h : (run ClientSession.step (.start heartbeatClient .empty) retriedBatch).map
      (fun s => (rowSequences 0 s.db).count 1) = some 2 := by decide +kernel
  obtain ⟨s,hs,hcount⟩ := Option.map_eq_some_iff.mp h
  exact ⟨s,hs,hcount⟩

/-- The client is stopped after two queries, and its last flush succeeds. -/
def stoppedClient : List ClientAction :=
  successes 0 2 ++ [.shutdown,.exit,.insertRow,.insertRow,.flushDone]

theorem heartbeat_rows_once_stoppedClient : ∃ s,
    run ClientSession.step (.start heartbeatClient .empty) stoppedClient = some s ∧
      (RowsOnce .empty s ↔
        NoInsertAfterPartialFlush (.start heartbeatClient .empty) stoppedClient) :=
  ⟨_,rfl,heartbeat_rows_once (by decide) rfl⟩

end Delivery

end RoutingBench
