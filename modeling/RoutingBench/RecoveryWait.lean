import RoutingBench.HeartbeatDelivery
set_option autoImplicit false

/-!
The runner's wait for recovery beside a running client. The runner decides on the rows one
query has read, and the client goes on until the decision is made.
-/

namespace RoutingBench
open Aggregate Runs

/-- The COUNT(*) of wait_for_recovery; COALESCE gives 1970-01-01 where no query failed. -/
def recoveredCount (clientEvents : List ClientEvent) (killTs : Timestamp) : Nat :=
  let lastFailure := (maxWhere (fun r => !r.success && killTs < r.ts) ClientEvent.ts
    clientEvents).getD 0
  clientEvents.countP fun r => r.success && lastFailure < r.ts && killTs < r.ts

/-- `polled` holds the rows the query has read, none if psql failed. -/
inductive WaitPhase where
  | waiting
  | polled (clientEvents : List ClientEvent)
  | success
  | timeout
  deriving DecidableEq, Repr

structure RecoveryWait where
  client : ClientSession
  phase : WaitPhase

inductive WaitAction where
  | client : ClientAction → WaitAction
  | poll
  | pollFail
  | decide
  | giveUp
  deriving DecidableEq, Repr

/-- One step of the client or of wait_for_recovery. -/
def RecoveryWait.step (killTs : Timestamp) (s : RecoveryWait) : WaitAction → Option RecoveryWait
  | .client a => (s.client.step a).map fun client => { s with client := client }
  | .poll =>
    match s.phase with
    | .waiting => some { s with phase := .polled s.client.db.clientEvents }
    | _ => none
  -- `|| echo "0"`
  | .pollFail =>
    match s.phase with
    | .waiting => some { s with phase := .polled [] }
    | _ => none
  | .decide =>
    match s.phase with
    | .polled rows =>
      some { s with phase := if 5 < recoveredCount rows killTs then .success else .waiting }
    | _ => none
  | .giveUp =>
    match s.phase with
    | .waiting => some { s with phase := .timeout }
    | _ => none

/-- The attempts after the kill, and those of them with fewer than six more recent ones. -/
def afterKill (killTs : Timestamp) (attempts : List QueryResult) : List QueryResult :=
  attempts.filter fun q => killTs < q.wallTs

def mostRecentSix (killTs : Timestamp) (attempts : List QueryResult) : List QueryResult :=
  (afterKill killTs attempts).filter fun q => (afterKill q.wallTs attempts).length < 6

structure Recovered (killTs : Timestamp) (attempts : List QueryResult) : Prop where
  six : 6 ≤ (afterKill killTs attempts).length
  succeeded : ∀ q ∈ mostRecentSix killTs attempts, q.success = true

/-- No attempt after the kill has two of the rows. -/
def DistinctRows (killTs : Timestamp) (rows : List ClientEvent) : Prop :=
  ((rows.filter fun r => killTs < r.ts).map ClientEvent.sequence).Nodup

/-- A failed query among the most recent six has its row among the rows. -/
def ReadsFailures (killTs : Timestamp) (rows : List ClientEvent) (attempts : List QueryResult) :
    Prop :=
  ∀ q ∈ mostRecentSix killTs attempts, q.success = false →
    ∃ r ∈ rows, killTs < r.ts ∧ r.sequence = q.sequence

section Decision

variable {comb : String} {killTs : Timestamp} {rows : List ClientEvent}
  {attempts : List QueryResult}

theorem six_later (hrows : ∀ r ∈ rows, killTs < r.ts → ∃ q ∈ attempts, RowOf comb q r)
    (hdistinct : DistinctRows killTs rows) (hcount : 5 < recoveredCount rows killTs) {t : Timestamp}
    (ht : ∀ r ∈ rows, r.success = true →
      (maxWhere (fun r => !r.success && killTs < r.ts) ClientEvent.ts rows).getD 0 < r.ts →
        killTs < r.ts → t < r.ts) : 6 ≤ (afterKill t attempts).length := by
  unfold recoveredCount at hcount
  rw [List.countP_eq_length_filter,← List.filter_filter] at hcount
  generalize hlast : (maxWhere (fun r => !r.success && killTs < r.ts) ClientEvent.ts rows).getD 0 =
    last at hcount ht
  have hnodup := hdistinct.sublist (List.Sublist.map ClientEvent.sequence
    (List.filter_sublist (p := fun r : ClientEvent => r.success && decide (last < r.ts))))
  have hsub : ((rows.filter fun r => killTs < r.ts).filter fun r =>
      r.success && decide (last < r.ts)).map ClientEvent.sequence ⊆
        (afterKill t attempts).map QueryResult.sequence := by
    intro n hn
    obtain ⟨r,hr,rfl⟩ := List.mem_map.mp hn
    simp only [List.mem_filter,Bool.and_eq_true,decide_eq_true_eq] at hr
    obtain ⟨⟨hr,hkill⟩,hok,hafter⟩ := hr
    obtain ⟨q,hq,hof⟩ := hrows r hr hkill
    refine List.mem_map.mpr ⟨q,List.mem_filter.mpr ⟨hq,?_⟩,hof.sequence.symm⟩
    simpa [← hof.ts] using ht r hr hok hafter hkill
  have hle := (hnodup.subperm hsub).length_le
  simp only [List.length_map] at hle
  omega

/-- If the query has counted more than five successes and no attempt twice, the client has
recovered exactly if the query has read every recent failure. -/
theorem recovered_iff (hrows : ∀ r ∈ rows, killTs < r.ts → ∃ q ∈ attempts, RowOf comb q r)
    (hsequences : (attempts.map QueryResult.sequence).Nodup)
    (hdistinct : DistinctRows killTs rows) (hcount : 5 < recoveredCount rows killTs) :
    Recovered killTs attempts ↔ ReadsFailures killTs rows attempts := by
  constructor
  · intro h q hq hfail
    rw [h.succeeded q hq] at hfail
    contradiction
  · intro hreads
    refine ⟨six_later hrows hdistinct hcount fun r _ _ _ hkill => hkill,?_⟩
    intro q hq
    by_contra hbad
    have hfail : q.success = false := by simpa using hbad
    obtain ⟨r,hr,hkill,hseq⟩ := hreads q hq hfail
    obtain ⟨q',hq',hof⟩ := hrows r hr hkill
    obtain ⟨hafter,hfew⟩ := List.mem_filter.mp hq
    obtain rfl := List.inj_on_of_nodup_map hsequences (List.mem_filter.mp hafter).1 hq'
      (hseq.symm.trans hof.sequence)
    -- The counted successes are all later than the failed query.
    have hsix := six_later hrows hdistinct hcount (t := q.wallTs) ?_
    · have : (afterKill q.wallTs attempts).length < 6 := by simpa using hfew
      omega
    · intro r' _ _ hlast _
      obtain ⟨last,hmax⟩ := exists_maxWhere (p := fun r => !r.success && killTs < r.ts)
        (f := ClientEvent.ts) hr (by simp [hof.success,hfail,hkill])
      have hle := (maxWhere_eq_some_iff.mp hmax).2 r hr (by simp [hof.success,hfail,hkill])
      rw [hmax,Option.getD_some] at hlast
      rw [hof.ts] at hle
      exact lt_of_le_of_lt hle hlast

end Decision

section Waiting

variable {conn comb trid : String} {db₀ : Database} {killTs : Timestamp} {s s' : RecoveryWait}
  {as : List WaitAction} {a : WaitAction}

def RecoveryWait.start (self : HeartbeatClient) (db : Database) : RecoveryWait :=
  ⟨.start self db,.waiting⟩

/-- The decision is due and finds that the query has read no attempt twice and every recent
failure. -/
def ReadsRecent (killTs : Timestamp) (s : RecoveryWait) (a : WaitAction) : Prop :=
  a = .decide → ∀ rows, s.phase = .polled rows →
    DistinctRows killTs rows ∧ ReadsFailures killTs rows s.client.proc.attempts

/-- The rows a query has read are rows of attempts. -/
structure Waits (conn comb : String) (db₀ : Database) (killTs : Timestamp) (s : RecoveryWait) :
    Prop where
  kept : Kept conn comb db₀ s.client
  polled : ∀ rows, s.phase = .polled rows → ∀ r ∈ rows, killTs < r.ts →
    ∃ q ∈ s.client.proc.attempts, RowOf comb q r

theorem session_attempts {s s' : ClientSession} {a : ClientAction} (h : s.step a = some s') :
    s.proc.attempts ⊆ s'.proc.attempts := by
  obtain ⟨out,hp⟩ := session_proc h
  cases a with
  | attempt o =>
    obtain ⟨-,-,-,hp'⟩ := client_attempt hp
    rw [hp',attempt_attempts]
    exact List.subset_append_left _ _
  | _ =>
    rw [(client_keeps hp (by simp)).1]
    exact List.Subset.refl _

theorem Kept.rowOf {s : ClientSession} (hk : Kept conn comb db₀ s)
    (hold : ∀ r ∈ db₀.clientEvents, r.ts ≤ killTs) :
    ∀ r ∈ s.db.clientEvents, killTs < r.ts → ∃ q ∈ s.proc.attempts, RowOf comb q r := by
  intro r hr hkill
  obtain ⟨new,hnew⟩ := hk.before
  refine hk.rows r ?_
  rw [← hnew] at hr ⊢
  rw [List.drop_left]
  rcases List.mem_append.mp hr with hr | hr
  · exact absurd (hold r hr) (not_le.mpr hkill)
  · exact hr

theorem waits_step (hold : ∀ r ∈ db₀.clientEvents, r.ts ≤ killTs)
    (hw : Waits conn comb db₀ killTs s) (h : s.step killTs a = some s') :
    Waits conn comb db₀ killTs s' := by
  cases a with
  | client act =>
    obtain ⟨client,hclient,rfl⟩ := Option.map_eq_some_iff.mp h
    refine ⟨kept_step hw.kept hclient,?_⟩
    intro rows hph r hr hkill
    obtain ⟨q,hq,hof⟩ := hw.polled rows hph r hr hkill
    exact ⟨q,session_attempts hclient hq,hof⟩
  | poll =>
    cases hph : s.phase <;> simp [RecoveryWait.step,hph] at h
    subst h
    refine ⟨hw.kept,?_⟩
    rintro rows heq r hr hkill
    obtain rfl := WaitPhase.polled.inj heq
    exact hw.kept.rowOf hold r hr hkill
  | pollFail =>
    cases hph : s.phase <;> simp [RecoveryWait.step,hph] at h
    subst h
    refine ⟨hw.kept,?_⟩
    rintro rows heq r hr -
    obtain rfl := WaitPhase.polled.inj heq
    simp at hr
  | decide =>
    cases hph : s.phase <;> simp [RecoveryWait.step,hph] at h
    subst h
    refine ⟨hw.kept,?_⟩
    rintro rows heq
    simp only at heq
    split at heq <;> contradiction
  | giveUp =>
    cases hph : s.phase <;> simp [RecoveryWait.step,hph] at h
    subst h
    exact ⟨hw.kept,by rintro rows heq; contradiction⟩

theorem decide_success (h : s.step killTs .decide = some s') (hs : s'.phase = .success) :
    ∃ rows, s.phase = .polled rows ∧ 5 < recoveredCount rows killTs ∧ s'.client = s.client := by
  cases hph : s.phase <;> simp [RecoveryWait.step,hph] at h
  next rows =>
    subst h
    refine ⟨rows,rfl,?_,rfl⟩
    by_contra hno
    simp [hno] at hs

theorem run_waits (hold : ∀ r ∈ db₀.clientEvents, r.ts ≤ killTs)
    (hrun : run (RecoveryWait.step killTs) (.start (.init conn comb trid) db₀) as = some s) :
    Waits conn comb db₀ killTs s :=
  reachable (fun _ _ _ hw hstep => waits_step hold hw hstep)
    ⟨kept_start,by rintro rows heq; contradiction⟩ hrun

/-- wait_for_recovery returns success only after six recent successes if each decision comes
from a query that has read every attempt at most once and every recent failure; and for a
query that has read no attempt twice that is exactly the condition. -/
theorem success_after_recovery (hold : ∀ r ∈ db₀.clientEvents, r.ts ≤ killTs)
    (hrun : run (RecoveryWait.step killTs) (.start (.init conn comb trid) db₀) as = some s) :
    (Along (RecoveryWait.step killTs) (ReadsRecent killTs) (.start (.init conn comb trid) db₀) as →
      ∀ pre post t t', as = pre ++ .decide :: post →
        run (RecoveryWait.step killTs) (.start (.init conn comb trid) db₀) pre = some t →
          t.step killTs .decide = some t' → t'.phase = .success →
            Recovered killTs t'.client.proc.attempts) ∧
      ∀ pre post t t' rows, as = pre ++ .decide :: post →
        run (RecoveryWait.step killTs) (.start (.init conn comb trid) db₀) pre = some t →
          t.step killTs .decide = some t' → t'.phase = .success → t.phase = .polled rows →
            DistinctRows killTs rows →
              (Recovered killTs t'.client.proc.attempts ↔
                ReadsFailures killTs rows t.client.proc.attempts) := by
  have hexact : ∀ pre t t' rows,
      run (RecoveryWait.step killTs) (.start (.init conn comb trid) db₀) pre = some t →
        t.step killTs .decide = some t' → t'.phase = .success → t.phase = .polled rows →
          DistinctRows killTs rows →
            (Recovered killTs t'.client.proc.attempts ↔
              ReadsFailures killTs rows t.client.proc.attempts) := by
    intro pre t t' rows hpre hstep hsuccess hph hdistinct
    obtain ⟨rows',hph',hcount,hsame⟩ := decide_success hstep hsuccess
    obtain rfl := WaitPhase.polled.inj (hph.symm.trans hph')
    have hw := run_waits hold hpre
    rw [hsame]
    exact recovered_iff (hw.polled rows hph) hw.kept.nodup hdistinct hcount
  refine ⟨?_,fun pre post t t' rows _ => hexact pre t t' rows⟩
  intro hreads pre post t t' has hpre hstep hsuccess
  obtain ⟨rows,hph,-,-⟩ := decide_success hstep hsuccess
  obtain ⟨hdistinct,hfailures⟩ := (along_iff hrun).mp hreads pre _ post t has hpre rfl rows hph
  exact (hexact pre t t' rows hpre hstep hsuccess hph hdistinct).mpr hfailures

instance decidableReadsRecent (killTs : Timestamp) (s : RecoveryWait) (a : WaitAction) :
    Decidable (ReadsRecent killTs s a) := by
  unfold ReadsRecent DistinctRows ReadsFailures
  cases hph : s.phase with
  | polled rows =>
    refine decidable_of_iff (a = .decide → ((rows.filter fun r => killTs < r.ts).map
      ClientEvent.sequence).Nodup ∧ ∀ q ∈ mostRecentSix killTs s.client.proc.attempts,
        q.success = false → ∃ r ∈ rows, killTs < r.ts ∧ r.sequence = q.sequence) ?_
    simp
  | _ => exact .isTrue (by simp)

/-- A batch of fifty successes, the last nine after the kill, is flushed. -/
def flushedBatch : List WaitAction :=
  (successes 0 50 ++ List.replicate 50 ClientAction.insertRow ++ [ClientAction.flushDone]).map .client

/-- The outage begins with the next query, whose result waits for the next batch. -/
def bufferedFailure : List WaitAction :=
  flushedBatch ++ [.client (.attempt (probe 50 (some "connection refused"))),.poll]

theorem bufferedFailure_success : ∃ t t',
    run (RecoveryWait.step 1777000004000000) (.start heartbeatClient .empty) bufferedFailure =
        some t ∧
      t.step 1777000004000000 .decide = some t' ∧ t'.phase = .success ∧
      ¬ Recovered 1777000004000000 t'.client.proc.attempts := by
  have h : ((run (RecoveryWait.step 1777000004000000) (.start heartbeatClient .empty)
      bufferedFailure).bind fun t => (t.step 1777000004000000 .decide).map fun t' =>
        (t'.phase,(mostRecentSix 1777000004000000 t'.client.proc.attempts).all
          QueryResult.success)) = some (.success,false) := by decide +kernel
  obtain ⟨t,ht,h⟩ := Option.bind_eq_some_iff.mp h
  obtain ⟨t',ht',h⟩ := Option.map_eq_some_iff.mp h
  obtain ⟨hphase,hall⟩ := Prod.mk.inj h
  refine ⟨t,t',ht,ht',hphase,fun hrec => ?_⟩
  rw [List.all_eq_true.mpr hrec.succeeded] at hall
  contradiction

theorem success_after_recovery_flushedBatch : ∃ t t',
    run (RecoveryWait.step 1777000004000000) (.start heartbeatClient .empty)
        (flushedBatch ++ [.poll]) = some t ∧
      t.step 1777000004000000 .decide = some t' ∧ t'.phase = .success ∧
      Recovered 1777000004000000 t'.client.proc.attempts := by
  have h : ((run (RecoveryWait.step 1777000004000000) (.start heartbeatClient .empty)
      (flushedBatch ++ [.poll])).bind fun t => (t.step 1777000004000000 .decide).map fun t' =>
        t'.phase) = some .success := by decide +kernel
  obtain ⟨t,ht,h⟩ := Option.bind_eq_some_iff.mp h
  obtain ⟨t',ht',hphase⟩ := Option.map_eq_some_iff.mp h
  refine ⟨t,t',ht,ht',hphase,?_⟩
  exact (success_after_recovery (by simp [Database.empty])
    (run_snoc.mpr ⟨t,ht,ht'⟩)).1 (by decide +kernel) _ [] t t' rfl ht ht' hphase

end Waiting

end RoutingBench
