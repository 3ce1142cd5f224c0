import RoutingBench.RunIds
import RoutingBench.Sampling
import RoutingBench.Views
import Mathlib.Algebra.Order.Group.Int
import Mathlib.Algebra.Order.Field.Basic
import Mathlib.Algebra.Order.Ring.Rat
import Mathlib.Tactic.Ring
import Mathlib.Tactic.NormNum
set_option autoImplicit false

/-!
How exact is the downtime that the bench measures? The client probes the database through the
routing layer; the failover_window view takes the time from the first probe that failed to the first
one after it that succeeded.
-/

namespace RoutingBench
open Aggregate Episodes Runs Sampling

/-- A query as a probe: it has seen the service at some instant while it ran. -/
def QueryResult.probe (r : QueryResult) : Probe Timestamp :=
  ⟨r.wallTs,r.wallTs + r.latencyUs,r.success⟩

theorem QueryResult.start_le_stop (r : QueryResult) : r.wallTs ≤ r.probe.stop :=
  Int.le_add_of_nonneg_right (Int.natCast_nonneg r.latencyUs)

section Ids

variable {conn comb trid : String} {db₀ : Database} {s s' : ClientSession} {as : List ClientAction}
  {a : ClientAction}

/-- A configured id stays. -/
structure Configured (trid : String) (db₀ : Database) (s : ClientSession) : Prop where
  manual : s.proc.self.autoTestRun = false
  testRunId : s.proc.self.testRunId = trid
  before : db₀.clientEvents <+: s.db.clientEvents
  rows : ∀ row ∈ s.db.clientEvents.drop db₀.clientEvents.length, row.testRunId = trid

theorem configured_step (hs : Configured trid db₀ s) (h : s.step a = some s') :
    Configured trid db₀ s' := by
  by_cases hi : a = .insertRow
  · subst hi
    obtain ⟨r,inserted,final,-,-,hp,hev,-⟩ := session_insertRow h
    refine ⟨by rw [hp]; exact hs.manual,by rw [hp]; exact hs.testRunId,?_,?_⟩
    · rw [hev]
      exact hs.before.trans (List.prefix_append _ _)
    · rw [hev,List.drop_append_of_le_length hs.before.length_le]
      intro row hrow
      rcases List.mem_append.mp hrow with hrow | hrow
      · exact hs.rows row hrow
      · obtain rfl := List.mem_singleton.mp hrow
        exact hs.testRunId
  · obtain ⟨out,hp⟩ := session_proc h
    have hev := session_clientEvents h hi
    by_cases ha : ∃ o, a = .attempt o
    · obtain ⟨o,rfl⟩ := ha
      obtain ⟨-,-,-,hp'⟩ := client_attempt hp
      have hauto : (s.proc.self.appendResult (queryResult (s.proc.self.sequence + 1)
          o)).autoTestRun = false := hs.manual
      have hself : s'.proc.self =
          s.proc.self.appendResult (queryResult (s.proc.self.sequence + 1) o) := by
        rw [hp',ClientProc.attempt,HeartbeatClient.handleAutoTestRun]
        simp [hauto]
      refine ⟨by rw [hself]; exact hs.manual,by rw [hself]; exact hs.testRunId,?_,?_⟩ <;> rw [hev]
      · exact hs.before
      · exact hs.rows
    · obtain ⟨-,-,hself⟩ := client_keeps hp fun o ho => ha ⟨o,ho⟩
      refine ⟨by rw [hself]; exact hs.manual,by rw [hself]; exact hs.testRunId,?_,?_⟩ <;> rw [hev]
      · exact hs.before
      · exact hs.rows

/-- The rows of a query that follows a failed one carry the id of a failover. -/
structure Following (comb : String) (db₀ : Database) (s : ClientSession) : Prop where
  rows : ∀ row ∈ s.db.clientEvents.drop db₀.clientEvents.length, ∀ q ∈ s.proc.attempts,
    q.success = false → q.sequence ≤ row.sequence →
      ∃ e ∈ failoverEpisodes s.proc.attempts, row.testRunId = episodeId comb e

theorem following_step (hk : Kept conn comb db₀ s)
    (hd : Detects s.proc.self (failoverEpisodes s.proc.attempts)) (hs : Following comb db₀ s)
    (h : s.step a = some s') : Following comb db₀ s' := by
  have hold : ∀ row ∈ s.db.clientEvents.drop db₀.clientEvents.length, ∀ q ∈ s.proc.attempts,
      q.success = false → q.sequence ≤ row.sequence →
        ∃ e ∈ failoverEpisodes s'.proc.attempts, row.testRunId = episodeId comb e := by
    intro row hrow q hq hfail hle
    obtain ⟨e,he,hid⟩ := hs.rows row hrow q hq hfail hle
    obtain ⟨e',he',honset⟩ :=
      List.mem_map.mp ((onsets_step h).subset (List.mem_map_of_mem he))
    refine ⟨e',he',hid.trans ?_⟩
    simp only [episodeId,honset]
  by_cases hi : a = .insertRow
  · subst hi
    obtain ⟨r,inserted,final,-,hr,hp,hev,-⟩ := session_insertRow h
    have hatt : s'.proc.attempts = s.proc.attempts := by rw [hp]
    refine ⟨?_⟩
    intro row hrow q hq hfail hle
    rw [hev,List.drop_append_of_le_length hk.before.length_le] at hrow
    rw [hatt] at hq
    rcases List.mem_append.mp hrow with hrow | hrow
    · exact hold row hrow q hq hfail hle
    · obtain rfl := List.mem_singleton.mp hrow
      rw [hatt]
      cases hes : failoverEpisodes s.proc.attempts with
      | nil => exact absurd hes (episodes_ne_nil hq hfail)
      | cons e rest =>
        refine ⟨e,List.mem_cons_self,?_⟩
        show s.proc.self.testRunId = episodeId comb e
        rw [hd.testRunId,hd.current e (by rw [hes]; rfl),hk.combinationId]
  · have hev := session_clientEvents h hi
    obtain ⟨out,hp⟩ := session_proc h
    refine ⟨?_⟩
    rw [hev]
    intro row hrow q hq hfail hle
    by_cases ha : ∃ o, a = .attempt o
    · obtain ⟨o,rfl⟩ := ha
      obtain ⟨-,-,-,hp'⟩ := client_attempt hp
      rw [hp',attempt_attempts] at hq
      rcases List.mem_append.mp hq with hq | hq
      · exact hold row hrow q hq hfail hle
      · obtain rfl := List.mem_singleton.mp hq
        obtain ⟨q',hq',hof⟩ := hk.rows row hrow
        have hlast : q'.sequence ≤ s.proc.self.sequence := by
          have hmem : q'.sequence ∈ s.proc.attempts.map QueryResult.sequence :=
            List.mem_map_of_mem hq'
          rw [hk.sequences,List.mem_range'] at hmem
          omega
        rw [hof.sequence] at hle
        exact absurd (hle.trans hlast) (by simp [queryResult])
    · rw [(client_keeps hp fun o ho => ha ⟨o,ho⟩).1] at hq
      exact hold row hrow q hq hfail hle

theorem run_configured (htrid : trid ≠ "")
    (hrun : run ClientSession.step (.start (.init conn comb trid) db₀) as = some s) :
    Configured trid db₀ s :=
  reachable (fun _ _ _ hs hstep => configured_step hs hstep)
    ⟨by simp [ClientSession.start,ClientProc.start,HeartbeatClient.init,htrid],rfl,
      List.prefix_refl _,by simp [ClientSession.start]⟩ hrun

theorem run_following
    (hrun : run ClientSession.step (.start (.init conn comb "") db₀) as = some s) :
    Following comb db₀ s := by
  induction as using List.reverseRecOn generalizing s with
  | nil =>
    obtain rfl : ClientSession.start (.init conn comb "") db₀ = s := by simpa using hrun
    exact ⟨by simp [ClientSession.start]⟩
  | append_singleton as a ih =>
    obtain ⟨t,ht,hstep⟩ := run_snoc.mp hrun
    exact following_step (run_kept ht) (run_detects ht).1 (ih ht) hstep

end Ids

/-- The id that the rows of an outage get whose first failed query was at `f`. -/
def sessionRunId (comb trid : String) (f : Timestamp) : String :=
  if trid = "" then generateTestRunId comb f else trid

section Measured

variable {conn comb trid : String} {db₀ : Database} {s : ClientSession} {as : List ClientAction}
  {start stop f : Timestamp} {gap : Int}

structure Probed (start stop : Timestamp) (gap : Int) (attempts : List QueryResult) : Prop where
  sampled : Sampled (Outage start stop) gap (attempts.map QueryResult.probe)
  covers : Covers start stop gap (attempts.map QueryResult.probe)

theorem Probed.sequential {attempts : List QueryResult} (h : Probed start stop gap attempts) :
    attempts.Pairwise fun p q => p.probe.stop ≤ q.wallTs :=
  List.pairwise_map.mp h.sampled.sequential

theorem Probed.stop_le_start (h : Probed start stop gap s.proc.attempts)
    (hk : Kept conn comb db₀ s) {p q : QueryResult} (hp : p ∈ s.proc.attempts)
    (hq : q ∈ s.proc.attempts) (hlt : p.sequence < q.sequence) :
    p.probe.stop ≤ q.wallTs := by
  have hnumbers : s.proc.attempts.Pairwise fun p q => p.sequence < q.sequence := by
    rw [← List.pairwise_map,hk.sequences]
    exact List.pairwise_lt_range'
  have hsymm : Std.Symm fun p q : QueryResult =>
      (p.sequence < q.sequence → p.probe.stop ≤ q.wallTs) ∧
        (q.sequence < p.sequence → q.probe.stop ≤ p.wallTs) :=
    ⟨fun _ _ => And.symm⟩
  have hboth : s.proc.attempts.Pairwise fun p q =>
      (p.sequence < q.sequence → p.probe.stop ≤ q.wallTs) ∧
        (q.sequence < p.sequence → q.probe.stop ≤ p.wallTs) :=
    h.sequential.imp₂
      (fun _ _ hle hnumber => ⟨fun _ => hle,fun hgt => absurd hgt (lt_asymm hnumber)⟩) hnumbers
  exact (hboth.forall hp hq fun heq => by rw [heq] at hlt; exact lt_irrefl _ hlt).1 hlt

theorem Probed.split {attempts : List QueryResult} (h : Probed start stop gap attempts)
    (hf : firstFailure (attempts.map QueryResult.probe) = some f) :
    ∃ pre q rest, attempts = pre ++ q :: rest ∧ (∀ r ∈ pre, r.success = true) ∧
      q.success = false ∧ q.wallTs = f ∧
        rest.Pairwise fun r r' => r'.success = false → r.success = false := by
  obtain ⟨⟨p,hp,hfail,hpf⟩,hleast⟩ := minWhere_eq_some_iff.mp hf
  obtain ⟨q₀,hq₀,rfl⟩ := List.mem_map.mp hp
  have hfailed : q₀.success = false := by simpa [QueryResult.probe] using hfail
  have hsplit := List.takeWhile_append_dropWhile (p := QueryResult.success) (l := attempts)
  have hhead := List.head?_dropWhile_not QueryResult.success attempts
  cases hdrop : attempts.dropWhile QueryResult.success with
  | nil =>
    have hok := List.dropWhile_eq_nil_iff.mp hdrop q₀ hq₀
    rw [hfailed] at hok
    contradiction
  | cons q rest =>
    rw [hdrop] at hsplit hhead
    have hq : q.success = false := by simpa using hhead
    have hpre : ∀ r ∈ attempts.takeWhile QueryResult.success, r.success = true :=
      fun r hr => List.mem_takeWhile_imp hr
    have hsequential := h.sequential
    have hsampled := h.sampled
    rw [← hsplit] at hsequential hsampled
    obtain ⟨hafter,hrest⟩ := List.pairwise_cons.mp (List.pairwise_append.mp hsequential).2.1
    refine ⟨_,q,rest,hsplit.symm,hpre,hq,le_antisymm ?_ ?_,?_⟩
    · have hmem : q₀ ∈ attempts.takeWhile QueryResult.success ++ q :: rest := by
        rw [hsplit]
        exact hq₀
      rcases List.mem_append.mp hmem with hmem | hmem
      · rw [hpre q₀ hmem] at hfailed
        contradiction
      rcases List.mem_cons.mp hmem with heq | hmem
      · rw [← heq]
        exact hpf.le
      · have hstart : q₀.wallTs = f := hpf
        exact hstart ▸ q.start_le_stop.trans (hafter q₀ hmem)
    · exact hleast q.probe (List.mem_map_of_mem (by rw [← hsplit]; simp))
        (by simp [QueryResult.probe,hq])
    · refine hrest.imp_of_mem fun {r r'} hr hr' hle hfail' => ?_
      have hmem : ∀ x ∈ rest, x.probe ∈ (attempts.takeWhile QueryResult.success ++
          q :: rest).map QueryResult.probe := fun x hx => List.mem_map_of_mem (by simp [hx])
      have hdown := hsampled.failed (p := q.probe) (List.mem_map_of_mem (by simp)) hq
      cases hok : r.success with
      | false => rfl
      | true =>
        have hend := hsampled.succeeded (hmem r hr) hok (hdown.2.trans (hafter r hr))
        exact absurd (hsampled.failed (hmem r' hr') hfail').1 (not_lt.mpr (hend.trans hle))

/-- A query that failed, or began after the first that did, has a row with the id of the outage. -/
theorem Probed.row (h : Probed start stop gap s.proc.attempts) (hc : conn ≠ "")
    (hrun : run ClientSession.step (.start (.init conn comb trid) db₀) as = some s)
    (hflushed : s.proc.self.results = [])
    (hf : firstFailure (s.proc.attempts.map QueryResult.probe) = some f) {q : QueryResult}
    (hq : q ∈ s.proc.attempts) (hafter : q.success = false ∨ f < q.wallTs) :
    ∃ row ∈ s.db.clientEvents, RowOf comb q row ∧ row.testRunId = sessionRunId comb trid f := by
  have hk := run_kept hrun
  obtain ⟨row,hrow,hof⟩ := run_delivered hc hrun hflushed q hq
  refine ⟨row,List.mem_of_mem_drop hrow,hof,?_⟩
  by_cases htrid : trid = ""
  · subst htrid
    rw [sessionRunId,if_pos rfl]
    obtain ⟨pre,q₀,rest,hsplit,hpre,hfail,rfl,hrest⟩ := h.split hf
    have hq₀ : q₀ ∈ s.proc.attempts := by rw [hsplit]; simp
    have hbehind : ∃ q' ∈ s.proc.attempts, q'.success = false ∧ q'.sequence ≤ row.sequence := by
      rw [hof.sequence]
      rcases hafter with hown | hlater
      · exact ⟨q,hq,hown,le_refl _⟩
      · refine ⟨q₀,hq₀,hfail,?_⟩
        by_contra hlt
        have hstop := h.stop_le_start hk hq hq₀ (not_le.mp hlt)
        exact absurd (q.start_le_stop.trans hstop) (not_le.mpr hlater)
    obtain ⟨q',hq',hfail',hle⟩ := hbehind
    obtain ⟨e,he,hid⟩ := (run_following hrun).rows row hrow q' hq' hfail' hle
    have honset : e.onset ∈ (failoverEpisodes s.proc.attempts).map Episode.onset :=
      List.mem_map_of_mem he
    rw [failoverEpisodes,hsplit,onsets_single (by decide) hpre hfail hrest,
      List.mem_singleton] at honset
    rw [hid,episodeId,honset]
  · rw [sessionRunId,if_neg htrid]
    exact (run_configured htrid hrun).rows row hrow

/-- An aggregate over the rows of the outage is one over its probes, where it only looks at failed
queries and those after the first of them. -/
theorem Probed.minWhere_eq (h : Probed start stop gap s.proc.attempts) (hc : conn ≠ "")
    (hrun : run ClientSession.step (.start (.init conn comb trid) db₀) as = some s)
    (hflushed : s.proc.self.results = [])
    (hf : firstFailure (s.proc.attempts.map QueryResult.probe) = some f)
    (hfresh : ∀ row ∈ db₀.clientEvents, row.testRunId ≠ sessionRunId comb trid f)
    {mask : ClientEvent → Bool} {P : Bool → Timestamp → Bool}
    (hmask : ∀ row, mask row = true →
      row.testRunId = sessionRunId comb trid f ∧ P row.success row.ts = true)
    (hown : ∀ row, row.testRunId = sessionRunId comb trid f → row.combinationId = comb →
      P row.success row.ts = true → mask row = true)
    (hP : ∀ ok ts, P ok ts = true → ok = false ∨ f < ts) :
    minWhere mask ClientEvent.ts s.db.clientEvents =
      minWhere (fun p => P p.ok p.start) Probe.start (s.proc.attempts.map QueryResult.probe) := by
  have hk := run_kept hrun
  refine minWhere_of_values fun m => ?_
  constructor
  · rintro ⟨row,hrow,hmasked,rfl⟩
    obtain ⟨hid,hpred⟩ := hmask row hmasked
    obtain ⟨new,hnew⟩ := hk.before
    rw [← hnew] at hrow
    rcases List.mem_append.mp hrow with hrow | hrow
    · exact absurd hid (hfresh row hrow)
    · obtain ⟨q,hq,hof⟩ := hk.rows row (by rw [← hnew,List.drop_left]; exact hrow)
      refine ⟨q.probe,List.mem_map_of_mem hq,?_,hof.ts.symm⟩
      rw [hof.success,hof.ts] at hpred
      exact hpred
  · rintro ⟨p,hp,hpred,rfl⟩
    obtain ⟨q,hq,rfl⟩ := List.mem_map.mp hp
    obtain ⟨row,hrow,hof,hid⟩ := h.row hc hrun hflushed hf hq (hP _ _ hpred)
    refine ⟨row,hrow,hown row hid hof.combinationId ?_,hof.ts⟩
    rw [hof.success,hof.ts]
    exact hpred

theorem Probed.window_firstFailure (h : Probed start stop gap s.proc.attempts) (hc : conn ≠ "")
    (hrun : run ClientSession.step (.start (.init conn comb trid) db₀) as = some s)
    (hflushed : s.proc.self.results = [])
    (hf : firstFailure (s.proc.attempts.map QueryResult.probe) = some f)
    (hfresh : ∀ row ∈ db₀.clientEvents, row.testRunId ≠ sessionRunId comb trid f) :
    (failoverWindowOf s.db.clientEvents (sessionRunId comb trid f) comb).firstFailure = some f := by
  rw [← hf,failoverWindowOf]
  simp only
  rw [minWhere_filter]
  refine h.minWhere_eq hc hrun hflushed hf hfresh (P := fun ok _ => !ok) ?_ ?_ ?_
  · intro row hmask
    obtain ⟨⟨hid,-⟩,hpred⟩ : (row.testRunId = sessionRunId comb trid f ∧ row.combinationId = comb) ∧
        row.success = false := by simpa using hmask
    exact ⟨hid,by simp [hpred]⟩
  · exact fun row hid hcomb hpred => by simp [hid,hcomb,hpred]
  · exact fun ok ts hpred => .inl (by simpa using hpred)

theorem Probed.window_firstRecovery (h : Probed start stop gap s.proc.attempts) (hc : conn ≠ "")
    (hrun : run ClientSession.step (.start (.init conn comb trid) db₀) as = some s)
    (hflushed : s.proc.self.results = [])
    (hf : firstFailure (s.proc.attempts.map QueryResult.probe) = some f)
    (hfresh : ∀ row ∈ db₀.clientEvents, row.testRunId ≠ sessionRunId comb trid f)
    {r : Timestamp} (hr : firstRecovery (s.proc.attempts.map QueryResult.probe) = some r) :
    (failoverWindowOf s.db.clientEvents (sessionRunId comb trid f) comb).firstRecovery =
      some r := by
  have hsub : minWhere (fun c2 => c2.testRunId = sessionRunId comb trid f && !c2.success)
      ClientEvent.ts s.db.clientEvents = some f := by
    rw [← hf]
    refine h.minWhere_eq hc hrun hflushed hf hfresh (P := fun ok _ => !ok) ?_ ?_ ?_
    · exact fun row hmask => by simpa using hmask
    · exact fun row hid _ hpred => by simp [hid,hpred]
    · exact fun ok ts hpred => .inl (by simpa using hpred)
  rw [← hr,failoverWindowOf,firstRecovery,hf]
  simp only
  rw [minWhere_filter,hsub]
  refine h.minWhere_eq hc hrun hflushed hf hfresh
    (P := fun ok ts => ok && exceeds ts (some f)) ?_ ?_ ?_
  · intro row hmask
    obtain ⟨⟨hid,-⟩,hpred⟩ : (row.testRunId = sessionRunId comb trid f ∧ row.combinationId = comb) ∧
        (row.success && exceeds row.ts (some f)) = true := by simpa using hmask
    exact ⟨hid,hpred⟩
  · exact fun row hid hcomb hpred => by simp [hid,hcomb,hpred]
  · exact fun ok ts hpred => .inr (by simpa using (Bool.and_eq_true_iff.mp hpred).2)

theorem epoch_near {d gap : Int} (h : |d - (stop - start)| ≤ gap + gap) :
    |epoch d * 1000 - (stop - start) / 1000| ≤ 2 * gap / 1000 := by
  have hms : epoch d * 1000 - (stop - start) / 1000 =
      ((d - (stop - start) : Int) : ℚ) / 1000 := by
    rw [epoch]
    push_cast
    ring
  have hcast : ((|d - (stop - start)| : Int) : ℚ) ≤ ((gap + gap : Int) : ℚ) := Int.cast_le.mpr h
  rw [hms,abs_div,← Int.cast_abs,abs_of_pos (by norm_num : (0 : ℚ) < 1000)]
  refine div_le_div_of_nonneg_right ?_ (by norm_num)
  push_cast at hcast ⊢
  rw [two_mul]
  exact hcast

/-- The downtime that failover_window shows for an outage is its length, but for two gaps between
queries. -/
theorem downtime_measured (hc : conn ≠ "")
    (hrun : run ClientSession.step (.start (.init conn comb trid) db₀) as = some s)
    (hflushed : s.proc.self.results = []) (h : Probed start stop gap s.proc.attempts)
    (hfresh : ∀ row ∈ db₀.clientEvents, ∀ f, |f - start| ≤ gap →
      row.testRunId ≠ sessionRunId comb trid f) :
    ∃ f r, |f - start| ≤ gap ∧ |r - stop| ≤ gap ∧
      ∃ w ∈ failoverWindow s.db.clientEvents, w.testRunId = sessionRunId comb trid f ∧
        w.combinationId = comb ∧ w.firstFailure = some f ∧ w.firstRecovery = some r ∧
        ∃ ms, w.downtimeMs = some ms ∧ |ms - (stop - start) / 1000| ≤ 2 * gap / 1000 := by
  obtain ⟨f,r,hf,hr,hfnear,hrnear,hnear⟩ := h.sampled.measured h.covers
  have hfresh' := fun row hrow => hfresh row hrow f hfnear
  obtain ⟨⟨p,hp,hfail,-⟩,-⟩ := minWhere_eq_some_iff.mp hf
  obtain ⟨q,hq,rfl⟩ := List.mem_map.mp hp
  obtain ⟨row,hrow,hof,hid⟩ :=
    h.row hc hrun hflushed hf hq (.inl (by simpa [QueryResult.probe] using hfail))
  have hfirst := h.window_firstFailure hc hrun hflushed hf hfresh'
  have hrecovery := h.window_firstRecovery hc hrun hflushed hf hfresh' hr
  refine ⟨f,r,hfnear,hrnear,
    failoverWindowOf s.db.clientEvents (sessionRunId comb trid f) comb,?_,rfl,rfl,?_,?_,?_⟩
  · exact mem_failoverWindow.mpr ⟨row,hrow,by rw [hid,hof.combinationId]⟩
  · exact hfirst
  · exact hrecovery
  · refine ⟨epoch (r - f) * 1000,?_,?_⟩
    · rw [failoverWindowOf] at hfirst hrecovery ⊢
      simp only at hfirst hrecovery ⊢
      rw [hfirst,hrecovery]
      rfl
    · exact epoch_near hnear

/-- Four queries of eight fail. -/
def outageSession : List ClientAction :=
  successes 0 1 ++ failure 1 ++
    (List.range' 2 3).flatMap (fun k => [.attempt (probe k (some "connection refused")),.checkBatch]) ++
    recovery 5 ++ [.shutdown,.exit] ++ List.replicate 8 .insertRow ++ [.flushDone]

theorem downtime_measured_outageSession : ∃ s f r,
    run ClientSession.step (.start heartbeatClient .empty) outageSession = some s ∧
      |f - 1777000000050000| ≤ 100000 ∧ |r - 1777000000450000| ≤ 100000 ∧
      ∃ w ∈ failoverWindow s.db.clientEvents,
        w.testRunId = sessionRunId "06-haproxy-rest-polling" "" f ∧
        w.combinationId = "06-haproxy-rest-polling" ∧ w.firstFailure = some f ∧
        w.firstRecovery = some r ∧ ∃ ms, w.downtimeMs = some ms ∧
        |ms - (((1777000000450000 : Timestamp) : ℚ) - ((1777000000050000 : Timestamp) : ℚ)) / 1000| ≤
          2 * ((100000 : Int) : ℚ) / 1000 := by
  obtain ⟨s,hrun,hresults,hprobes⟩ : ∃ s,
      run ClientSession.step (.start heartbeatClient .empty) outageSession = some s ∧
        s.proc.self.results = [] ∧ s.proc.attempts.map QueryResult.probe =
          (List.range 8).map fun (k : Nat) => ⟨1777000000000000 + 100000 * (k : Int),
            1777000000002500 + 100000 * (k : Int),decide (k = 0 ∨ 5 ≤ k)⟩ := ⟨_,rfl,rfl,rfl⟩
  have hprobed : Probed 1777000000050000 1777000000450000 100000 s.proc.attempts := by
    constructor
    · rw [hprobes]
      refine ⟨by decide,by decide,by decide,fun p hp => ⟨p.start,le_refl _,?_⟩⟩
      revert p
      decide
    · rw [hprobes]
      exact ⟨by decide,by decide,by decide⟩
  have hconn : heartbeatClient.timescaleConnstring ≠ "" := by decide
  obtain ⟨f,r,h⟩ := downtime_measured hconn hrun hresults hprobed (by simp [Database.empty])
  exact ⟨s,f,r,hrun,h⟩

end Measured

end RoutingBench
