import RoutingBench.HeartbeatDelivery
set_option autoImplicit false

/-!
Which test run the client's rows name, and whether each failover has a test run of its
own. The id of a row is read when the row is inserted, and an id is a second of the clock.
-/

namespace RoutingBench
open Episodes Runs

section Attribution

variable {conn comb : String} {db₀ : Database} {s s' : ClientSession} {as : List ClientAction}
  {a : ClientAction}

/-- Where a failure begins an episode, the results of earlier episodes have left
`self.results`, except for those of an episode of the same id. -/
def FlushedBeforeOnset (s : ClientSession) : ClientAction → Prop
  | .attempt o => s.proc.self.inFailover = false → o.exception ≠ none →
      ∀ e ∈ failoverEpisodes s.proc.attempts, ∀ r ∈ e.results, r ∈ s.proc.self.results →
        episodeId s.proc.self.combinationId e =
          generateTestRunId s.proc.self.combinationId o.wallTs
  | _ => True

/-- The rows of an episode carry its id, and its results waiting for a flush will. -/
structure Attributed (comb : String) (db₀ : Database) (s : ClientSession) : Prop where
  detects : Detects s.proc.self (failoverEpisodes s.proc.attempts)
  pending : ∀ e ∈ failoverEpisodes s.proc.attempts, ∀ r ∈ e.results,
    r ∈ s.proc.self.results → episodeId comb e = s.proc.self.testRunId
  rows : ∀ e ∈ failoverEpisodes s.proc.attempts, ∀ r ∈ e.results,
    ∀ row ∈ s.db.clientEvents.drop db₀.clientEvents.length, row.sequence = r.sequence →
      row.testRunId = episodeId comb e

theorem Kept.fresh (hk : Kept conn comb db₀ s) {r : QueryResult} (hr : r ∈ s.proc.attempts) :
    r.sequence ≠ s.proc.self.sequence + 1 := by
  intro h
  have hmem : r.sequence ∈ s.proc.attempts.map QueryResult.sequence := List.mem_map_of_mem hr
  rw [hk.sequences,List.mem_range'] at hmem
  obtain ⟨i,hi,hseq⟩ := hmem
  omega

theorem attributed_insertRow (hk : Kept conn comb db₀ s) (hs : Attributed comb db₀ s)
    (h : s.step .insertRow = some s') : Attributed comb db₀ s' := by
  obtain ⟨q,inserted,final,hph,hq,hp,hev,-⟩ := session_insertRow h
  have hself : s'.proc.self = s.proc.self := by rw [hp]
  have hatt : s'.proc.attempts = s.proc.attempts := by rw [hp]
  refine ⟨by rw [hself,hatt]; exact hs.detects,by rw [hself,hatt]; exact hs.pending,?_⟩
  intro e he r hr row hrow hseq
  rw [hatt] at he
  rw [hev,List.drop_append_of_le_length hk.before.length_le] at hrow
  rcases List.mem_append.mp hrow with hrow | hrow
  · exact hs.rows e he r hr row hrow hseq
  · obtain rfl := List.mem_singleton.mp hrow
    have hmem := List.mem_of_getElem? hq
    obtain rfl := hk.eq_of_sequence (hk.results q hmem) (mem_of_mem_results he hr) hseq
    exact (hs.pending e he q hr hmem).symm

theorem attempt_episodes {o : Outcome} (hs : Attributed comb db₀ s) (hk : Kept conn comb db₀ s)
    (hcond : FlushedBeforeOnset s (.attempt o)) {e' : FailoverEpisode}
    (he' : e' ∈ failoverEpisodes (s.proc.attempt o).attempts) {q : QueryResult}
    (hq : q ∈ e'.results) :
    (q = queryResult (s.proc.self.sequence + 1) o ∧
        episodeId comb e' = (s.proc.attempt o).self.testRunId) ∨
      ∃ e ∈ failoverEpisodes s.proc.attempts, q ∈ e.results ∧
        episodeId comb e = episodeId comb e' ∧
        (q ∈ s.proc.self.results → episodeId comb e = (s.proc.attempt o).self.testRunId) := by
  have hid : (s.proc.attempt o).self.testRunId =
      if inEpisode 3 (failoverEpisodes s.proc.attempts) = false ∧
          (queryResult (s.proc.self.sequence + 1) o).success = false then
        generateTestRunId s.proc.self.combinationId o.wallTs else s.proc.self.testRunId :=
    handle_testRunId (detects_appendResult hs.detects _) _
  have hcomb := hk.combinationId
  rw [attempt_attempts,failoverEpisodes_snoc] at he'
  rcases add_cases 3 (failoverEpisodes s.proc.attempts)
    (queryResult (s.proc.self.sequence + 1) o) with ⟨hin,hr,hadd⟩ | ⟨hr,hin,hadd⟩ |
      ⟨e,rest,hes,hc,hadd⟩
  · rw [hadd] at he'
    rw [if_neg (by simp [hr])] at hid
    refine .inr ⟨e',he',hq,rfl,fun hmem => ?_⟩
    rw [hid]; exact hs.pending e' he' q hq hmem
  · rw [hadd] at he'
    rw [if_pos ⟨hin,hr⟩] at hid
    rcases List.mem_cons.mp he' with rfl | he'
    · refine .inl ⟨by simpa [Episode.results] using hq,?_⟩
      rw [hid,hcomb]; rfl
    · refine .inr ⟨e',he',hq,rfl,fun hmem => ?_⟩
      have hflag : s.proc.self.inFailover = false := by rw [hs.detects.inFailover,hin]
      have hexc : o.exception ≠ none := by
        intro h0
        simp [queryResult,h0] at hr
      rw [hid,← hcond hflag hexc e' he' q hq hmem,hcomb]
  · have hopen : inEpisode 3 (failoverEpisodes s.proc.attempts) = true := by
      rw [hes]; simp [inEpisode,hc]
    rw [if_neg (by simp [hopen])] at hid
    have hmem : e ∈ failoverEpisodes s.proc.attempts := by rw [hes]; exact List.mem_cons_self
    have hcur : episodeId comb e = s.proc.self.testRunId := by
      rw [hs.detects.testRunId,hs.detects.current e (by rw [hes]; rfl),hcomb]
    rw [hadd] at he'
    rcases List.mem_cons.mp he' with rfl | he'
    · rcases List.mem_cons.mp hq with rfl | hq
      · exact .inl ⟨rfl,by rw [hid,← hcur]; rfl⟩
      · exact .inr ⟨e,hmem,hq,rfl,fun _ => by rw [hid,hcur]⟩
    · have he'' : e' ∈ failoverEpisodes s.proc.attempts := by
        rw [hes]; exact List.mem_cons_of_mem _ he'
      refine .inr ⟨e',he'',hq,rfl,fun hwait => ?_⟩
      rw [hid]; exact hs.pending e' he'' q hq hwait

theorem attributed_step (hk : Kept conn comb db₀ s) (hs : Attributed comb db₀ s)
    (hcond : FlushedBeforeOnset s a) (h : s.step a = some s') : Attributed comb db₀ s' := by
  by_cases hi : a = .insertRow
  · subst hi
    exact attributed_insertRow hk hs h
  obtain ⟨out,hp⟩ := session_proc h
  have hdet := detects_client_step hp hs.detects
  have hev := session_clientEvents h hi
  by_cases ha : ∃ o, a = .attempt o
  · obtain ⟨o,rfl⟩ := ha
    obtain ⟨-,-,-,hp'⟩ := client_attempt hp
    refine ⟨hdet,?_,?_⟩
    · intro e' he' q hq hwait
      rw [hp'] at he' hwait ⊢
      rcases attempt_episodes hs hk hcond he' hq with ⟨-,hid⟩ | ⟨e,he,hqe,hee,hid⟩
      · exact hid
      · rw [attempt_results] at hwait
        rcases List.mem_append.mp hwait with hwait | hnew
        · rw [← hee]; exact hid hwait
        · obtain rfl := List.mem_singleton.mp hnew
          exact absurd rfl (hk.fresh (mem_of_mem_results he hqe))
    · intro e' he' q hq row hrow hseq
      rw [hp'] at he'
      rw [hev] at hrow
      rcases attempt_episodes hs hk hcond he' hq with ⟨rfl,-⟩ | ⟨e,he,hqe,hee,-⟩
      · obtain ⟨r,hr,hof⟩ := hk.rows row hrow
        rw [hof.sequence] at hseq
        exact absurd hseq (hk.fresh hr)
      · rw [← hee]; exact hs.rows e he q hqe row hrow hseq
  · obtain ⟨hatt,hres,hself⟩ := client_keeps hp fun o ho => ha ⟨o,ho⟩
    refine ⟨hdet,?_,by rw [hatt,hev]; exact hs.rows⟩
    intro e he q hq hwait
    rw [hatt] at he
    rw [hself]
    rcases hres with hres | hres
    · exact hs.pending e he q hq (hres ▸ hwait)
    · rw [hres] at hwait; simp at hwait

/-- Every row written for a query of a failover carries the id of that failover, in every
run in which a failover begins only when the results of the ones before are flushed. -/
theorem rows_name_their_failover
    (hflushed : Along ClientSession.step FlushedBeforeOnset (.start (.init conn comb "") db₀) as)
    (hrun : run ClientSession.step (.start (.init conn comb "") db₀) as = some s) :
    ∀ e ∈ failoverEpisodes s.proc.attempts, ∀ r ∈ e.results,
      ∀ row ∈ s.db.clientEvents.drop db₀.clientEvents.length, row.sequence = r.sequence →
        row.testRunId = episodeId comb e := by
  have h := invariant (I := fun s => Kept conn comb db₀ s ∧ Attributed comb db₀ s) ?_
    ⟨kept_start,?_⟩ hflushed hrun
  · exact h.2.rows
  · intro s a s' hI hcond hstep
    exact ⟨kept_step hI.1 hstep,attributed_step hI.1 hI.2 hcond hstep⟩
  · refine ⟨detects_init conn comb,?_,?_⟩ <;>
      simp [ClientSession.start,ClientProc.start,failoverEpisodes,episodes]

instance decidableFlushedBeforeOnset (s : ClientSession) (a : ClientAction) :
    Decidable (FlushedBeforeOnset s a) := by
  cases a <;> unfold FlushedBeforeOnset <;> infer_instance

def failure (k : Nat) : List ClientAction :=
  [.attempt (probe k (some "connection refused")),.callOk,.checkBatch]

def recovery (k : Nat) : List ClientAction :=
  successes k 2 ++ [.attempt (probe (k + 2) none),.callOk,.callOk,.checkBatch]

/-- A failover, another one a second after its begin, and then the final flush. -/
def secondFailover : List ClientAction :=
  failure 0 ++ recovery 1 ++ failure 10 ++ [.shutdown,.exit,.insertRow]

theorem secondFailover_takes_over : ∃ s,
    run ClientSession.step (.start heartbeatClient .empty) secondFailover = some s ∧
      ∃ e ∈ failoverEpisodes s.proc.attempts, ∃ r ∈ e.results, ∃ row ∈ s.db.clientEvents,
        row.sequence = r.sequence ∧
          row.testRunId ≠ episodeId "06-haproxy-rest-polling" e :=
  ⟨_,rfl,by decide +kernel⟩

/-- Two failovers, five seconds from each other, and a full batch that is flushed between them. -/
def twoFailovers : List ClientAction :=
  failure 0 ++ recovery 1 ++ successes 4 46 ++ List.replicate 50 .insertRow ++ [.flushDone] ++
    failure 50 ++ recovery 51 ++ [.shutdown,.exit] ++ List.replicate 4 .insertRow ++ [.flushDone]

theorem rows_name_their_failover_twoFailovers : ∃ s,
    run ClientSession.step (.start heartbeatClient .empty) twoFailovers = some s ∧
      (failoverEpisodes s.proc.attempts).length = 2 ∧ s.db.clientEvents.length = 54 ∧
      ∀ e ∈ failoverEpisodes s.proc.attempts, ∀ r ∈ e.results,
        ∀ row ∈ s.db.clientEvents.drop 0, row.sequence = r.sequence →
          row.testRunId = episodeId "06-haproxy-rest-polling" e := by
  have hends : (run ClientSession.step (.start heartbeatClient .empty) twoFailovers).map
      (fun s => ((failoverEpisodes s.proc.attempts).length,s.db.clientEvents.length)) =
        some (2,54) := by decide +kernel
  obtain ⟨s,hrun,hlengths⟩ := Option.map_eq_some_iff.mp hends
  obtain ⟨hepisodes,hrows⟩ := Prod.mk.inj hlengths
  exact ⟨s,hrun,hepisodes,hrows,@rows_name_their_failover
    "host=prb-timescaledb port=5432 dbname=bench" "06-haproxy-rest-polling" .empty s twoFailovers
    (by decide +kernel) hrun⟩

end Attribution

section Registration

variable {conn comb : String} {db₀ : Database} {s s' : ClientSession} {as : List ClientAction}
  {a : ClientAction}

def registrations : List DbCall → List TestRun
  | [] => []
  | .register r :: calls => r :: registrations calls
  | _ :: calls => registrations calls

def ClientPhase.registrations : ClientPhase → List TestRun
  | .calling calls => RoutingBench.registrations calls
  | _ => []

@[simp] theorem afterFlush_registrations (final : Bool) : (afterFlush final).registrations = [] := by
  cases final <;> rfl

/-- The test runs of a list of failovers, first failover first. -/
def testRunsOf (comb : String) (es : List FailoverEpisode) : List TestRun :=
  es.reverse.map fun e => registration comb e.onset.wallTs

theorem attempt_registrations {p : ClientProc} (o : Outcome)
    (hd : Detects p.self (failoverEpisodes p.attempts)) (hc : p.self.combinationId = comb) :
    testRunsOf comb (failoverEpisodes (p.attempt o).attempts) =
      testRunsOf comb (failoverEpisodes p.attempts) ++ (p.attempt o).phase.registrations := by
  have hd' := detects_appendResult hd (queryResult (p.self.sequence + 1) o)
  have hphase : (p.attempt o).phase.registrations = RoutingBench.registrations
    ((p.self.appendResult (queryResult (p.self.sequence + 1) o)).handleAutoTestRun
      (queryResult (p.self.sequence + 1) o)).2 := rfl
  rw [attempt_attempts,failoverEpisodes_snoc,hphase]
  rcases add_cases 3 (failoverEpisodes p.attempts)
    (queryResult (p.self.sequence + 1) o) with ⟨hin,hr,hadd⟩ | ⟨hr,hin,hadd⟩ |
      ⟨e,rest,hes,hclosed,hadd⟩
  · rw [handle_idle hd' hin hr,hadd]
    simp [registrations]
  · rw [handle_onset hd' hin hr,hadd]
    simp [testRunsOf,registrations,HeartbeatClient.appendResult,hc]
  · rw [hes] at hd' ⊢
    rw [hes] at hadd
    rw [hadd]
    cases hc' : (e.extend (queryResult (p.self.sequence + 1) o)).closed 3 with
    | false => rw [handle_inside hd' hclosed hc']; simp [testRunsOf,registrations]
    | true => rw [handle_recovery hd' hclosed hc']; simp [testRunsOf,registrations]

theorem flushResults_registrations (p : ClientProc) (final : Bool) :
    (p.flushResults final).attempts = p.attempts ∧
      (p.flushResults final).phase.registrations = [] := by
  rcases flushResults_cases p final with ⟨-,hf⟩ | ⟨-,-,hf⟩ <;> rw [hf]
  · exact ⟨rfl,afterFlush_registrations final⟩
  · exact ⟨rfl,rfl⟩

theorem step_registrations (h : s.step a = some s')
    (hd : Detects s.proc.self (failoverEpisodes s.proc.attempts))
    (hc : s.proc.self.combinationId = comb) :
    (s.proc.phase.registrations = [] ∧ s'.db.testRuns = s.db.testRuns ∧
        testRunsOf comb (failoverEpisodes s'.proc.attempts) =
          testRunsOf comb (failoverEpisodes s.proc.attempts) ++ s'.proc.phase.registrations) ∨
      (s'.proc.attempts = s.proc.attempts ∧
        ((s'.proc.phase.registrations = s.proc.phase.registrations ∧
            s'.db.testRuns = s.db.testRuns) ∨
          ∃ r, s.proc.phase.registrations = r :: s'.proc.phase.registrations ∧
            ((a = .callOk ∧ s'.db = s.db.attempt (.insertTestRun r)) ∨
              (a = .callFail ∧ s'.db = s.db ∧
                ∃ calls, s.proc.phase = .calling (.register r :: calls))))) := by
  by_cases hok : a = .callOk
  · subst hok
    obtain ⟨c,calls,hph,hp,hdb⟩ := session_callOk h
    refine .inr ⟨by rw [hp],?_⟩
    rw [hp,hph]
    cases c with
    | register r => exact .inr ⟨r,rfl,.inl ⟨rfl,hdb⟩⟩
    | tag testRunId start stop => exact .inl ⟨rfl,by rw [hdb]; rfl⟩
    | summary testRunId => exact .inl ⟨rfl,by rw [hdb]; rfl⟩
  by_cases hi : a = .insertRow
  · subst hi
    obtain ⟨_,inserted,final,hph,-,hp,-,htr⟩ := session_insertRow h
    exact .inr ⟨by rw [hp],.inl ⟨by rw [hp,hph]; rfl,htr⟩⟩
  obtain ⟨hp,hdb⟩ := session_quiet h hi hok
  have htr : s'.db.testRuns = s.db.testRuns := by rw [hdb]
  cases a with
  | callOk => contradiction
  | insertRow => contradiction
  | attempt o =>
    obtain ⟨hph,-,-,hp'⟩ := client_attempt hp
    refine .inl ⟨by rw [hph]; rfl,htr,?_⟩
    rw [hp']
    exact attempt_registrations o hd hc
  | callFail =>
    obtain ⟨c,calls,hph,-,hp'⟩ := client_callFail hp
    refine .inr ⟨by rw [hp'],?_⟩
    rw [hp',hph]
    cases c with
    | register r => exact .inr ⟨r,rfl,.inr ⟨rfl,hdb,calls,rfl⟩⟩
    | tag testRunId start stop => exact .inl ⟨rfl,htr⟩
    | summary testRunId => exact .inl ⟨rfl,htr⟩
  | checkBatch =>
    obtain ⟨hph,-,⟨-,hp'⟩ | ⟨-,hp'⟩⟩ := client_checkBatch hp
    · have hflush := flushResults_registrations s.proc false
      exact .inr ⟨by rw [hp',hflush.1],.inl ⟨by rw [hp',hflush.2,hph]; rfl,htr⟩⟩
    · exact .inr ⟨by rw [hp'],.inl ⟨by rw [hp',hph]; rfl,htr⟩⟩
  | flushFail =>
    obtain ⟨_,final,hph,-,hp'⟩ := client_flushFail hp
    exact .inr ⟨by rw [hp'],.inl ⟨by rw [hp',hph,afterFlush_registrations]; rfl,htr⟩⟩
  | flushDone =>
    obtain ⟨final,hph,-,hp'⟩ := client_flushDone hp
    exact .inr ⟨by rw [hp'],.inl ⟨by rw [hp',hph,afterFlush_registrations]; rfl,htr⟩⟩
  | shutdown =>
    obtain ⟨-,hp'⟩ := client_shutdown hp
    exact .inr ⟨by rw [hp'],.inl ⟨by rw [hp'],htr⟩⟩
  | exit =>
    obtain ⟨hph,-,-,hp'⟩ := client_exit hp
    have hflush := flushResults_registrations s.proc true
    exact .inr ⟨by rw [hp',hflush.1],.inl ⟨by rw [hp',hflush.2,hph]; rfl,htr⟩⟩

/-- Distinct failovers have distinct ids, and the test runs added to the table are one for
each failover, in order. -/
def OwnTestRuns (comb : String) (db₀ : Database) (s : ClientSession) : Prop :=
  ((failoverEpisodes s.proc.attempts).map (episodeId comb)).Nodup ∧
    s.db.testRuns = db₀.testRuns ++ testRunsOf comb (failoverEpisodes s.proc.attempts)

def onsetSecond (e : FailoverEpisode) : Int := e.onset.wallTs / 1000000

/-- No two failovers begin in the same second, and none in one for which the table had a
test run of the combination before. -/
def FreshOnsets (comb : String) (db₀ : Database) (s : ClientSession) : Prop :=
  ((failoverEpisodes s.proc.attempts).map onsetSecond).Nodup ∧
    ∀ e ∈ failoverEpisodes s.proc.attempts, episodeId comb e ∉ db₀.testRuns.map TestRun.id

def RegistrationSent (s : ClientSession) (a : ClientAction) : Prop :=
  a = .callFail → ∀ r calls, s.proc.phase ≠ .calling (.register r :: calls)

theorem episodeId_eq_iff {e e' : FailoverEpisode} :
    episodeId comb e = episodeId comb e' ↔ onsetSecond e = onsetSecond e' := by
  constructor
  · exact fun h => (Calendar.strftime_ofSeconds_inj h).2
  · intro h
    unfold onsetSecond at h
    simp only [episodeId,generateTestRunId,h]

theorem nodup_episodeId_iff {es : List FailoverEpisode} :
    (es.map (episodeId comb)).Nodup ↔ (es.map onsetSecond).Nodup := by
  simp only [List.Nodup,List.pairwise_map,ne_eq,episodeId_eq_iff]

theorem testRunsOf_ids (es : List FailoverEpisode) :
    (testRunsOf comb es).map TestRun.id = (es.map (episodeId comb)).reverse := by
  simp [testRunsOf,Function.comp_def,registration,episodeId]

theorem FreshOnsets.of_suffix (hf : FreshOnsets comb db₀ s')
    (h : (failoverEpisodes s.proc.attempts).map Episode.onset <:+
      (failoverEpisodes s'.proc.attempts).map Episode.onset) : FreshOnsets comb db₀ s := by
  constructor
  · have hsec : ∀ es : List FailoverEpisode, es.map onsetSecond =
        (es.map Episode.onset).map fun r => r.wallTs / 1000000 := by simp [onsetSecond]
    have hn := hf.1
    rw [hsec] at hn ⊢
    exact hn.sublist (h.sublist.map _)
  · intro e he
    obtain ⟨e',he',hee⟩ := List.mem_map.mp (h.subset (List.mem_map_of_mem he))
    have hid : episodeId comb e = episodeId comb e' := by simp only [episodeId,hee]
    rw [hid]
    exact hf.2 e' he'

theorem FreshOnsets.ids_nodup (hf : FreshOnsets comb db₀ s) :
    ((db₀.testRuns ++ testRunsOf comb (failoverEpisodes s.proc.attempts)).map TestRun.id).Nodup := by
  rw [List.map_append,testRunsOf_ids,List.nodup_append]
  refine ⟨db₀.primaryKey,List.nodup_reverse.mpr (nodup_episodeId_iff.mpr hf.1),?_⟩
  intro i hi j hj heq
  obtain ⟨e,he,rfl⟩ := List.mem_map.mp (List.mem_reverse.mp hj)
  exact hf.2 e he (heq ▸ hi)

theorem run_detects
    (hrun : run ClientSession.step (.start (.init conn comb "") db₀) as = some s) :
    Detects s.proc.self (failoverEpisodes s.proc.attempts) ∧
      s.proc.self.combinationId = comb := by
  refine ⟨?_,(run_kept hrun).combinationId⟩
  refine reachable (I := fun s : ClientSession =>
    Detects s.proc.self (failoverEpisodes s.proc.attempts)) ?_ (detects_init conn comb) hrun
  intro s a s' hd hstep
  obtain ⟨out,hp⟩ := session_proc hstep
  exact detects_client_step hp hd

theorem onsets_step (h : s.step a = some s') :
    (failoverEpisodes s.proc.attempts).map Episode.onset <:+
      (failoverEpisodes s'.proc.attempts).map Episode.onset := by
  obtain ⟨out,hp⟩ := session_proc h
  by_cases ha : ∃ o, a = .attempt o
  · obtain ⟨o,rfl⟩ := ha
    obtain ⟨-,-,-,hp'⟩ := client_attempt hp
    rw [hp',attempt_attempts]
    exact onsets_suffix _ _
  · rw [(client_keeps hp fun o ho => ha ⟨o,ho⟩).1]

/-- With fresh onsets and every registration sent, the table and the registrations that are
due are those of the failovers. -/
theorem run_registered (hrun : run ClientSession.step (.start (.init conn comb "") db₀) as = some s)
    (hsent : Along ClientSession.step RegistrationSent (.start (.init conn comb "") db₀) as)
    (hfresh : FreshOnsets comb db₀ s) :
    s.db.testRuns ++ s.proc.phase.registrations =
      db₀.testRuns ++ testRunsOf comb (failoverEpisodes s.proc.attempts) := by
  induction as using List.reverseRecOn generalizing s with
  | nil =>
    obtain rfl : ClientSession.start (.init conn comb "") db₀ = s := by simpa using hrun
    rfl
  | append_singleton as a ih =>
    obtain ⟨t,ht,hstep⟩ := run_snoc.mp hrun
    have hal := (along_append ht).mp hsent
    have hfresh' := hfresh.of_suffix (onsets_step hstep)
    have heq := ih ht hal.1 hfresh'
    obtain ⟨hd,hc⟩ := run_detects ht
    rcases step_registrations hstep hd hc with ⟨hnil,htr,hnew⟩ |
      ⟨hatt,⟨hsame,htr⟩ | ⟨r,hr,⟨-,hdb⟩ | ⟨rfl,-,calls,hph⟩⟩⟩
    · rw [hnil,List.append_nil] at heq
      rw [htr,hnew,heq,List.append_assoc]
    · rw [hsame,htr,hatt]
      exact heq
    · rw [hr] at heq
      have hid : r.id ∉ t.db.testRuns.map TestRun.id := by
        intro hmem
        have hnodup := hfresh'.ids_nodup
        rw [← heq,List.map_append,List.nodup_append] at hnodup
        exact hnodup.2.2 r.id hmem r.id (by simp) rfl
      rcases attempt_insertTestRun t.db r with ⟨-,hins⟩ | ⟨hmem,-⟩
      · rw [hdb,hins,hatt,List.append_assoc]
        exact heq
      · exact absurd hmem hid
    · exact absurd hph (hal.2.1 rfl r calls)

/-- There are never more test runs and due registrations than failovers, and fewer as soon
as a registration was not sent. -/
theorem run_registrations_le
    (hrun : run ClientSession.step (.start (.init conn comb "") db₀) as = some s) :
    s.db.testRuns.length + s.proc.phase.registrations.length ≤
        db₀.testRuns.length + (failoverEpisodes s.proc.attempts).length ∧
      (s.db.testRuns.length + s.proc.phase.registrations.length =
          db₀.testRuns.length + (failoverEpisodes s.proc.attempts).length →
        Along ClientSession.step RegistrationSent (.start (.init conn comb "") db₀) as) := by
  induction as using List.reverseRecOn generalizing s with
  | nil =>
    obtain rfl : ClientSession.start (.init conn comb "") db₀ = s := by simpa using hrun
    exact ⟨Nat.le_refl _,fun _ => trivial⟩
  | append_singleton as a ih =>
    obtain ⟨t,ht,hstep⟩ := run_snoc.mp hrun
    obtain ⟨hle,himp⟩ := ih ht
    obtain ⟨hd,hc⟩ := run_detects ht
    have hstepped : s.db.testRuns.length + s.proc.phase.registrations.length ≤
          db₀.testRuns.length + (failoverEpisodes s.proc.attempts).length ∧
        (s.db.testRuns.length + s.proc.phase.registrations.length =
            db₀.testRuns.length + (failoverEpisodes s.proc.attempts).length →
          t.db.testRuns.length + t.proc.phase.registrations.length =
            db₀.testRuns.length + (failoverEpisodes t.proc.attempts).length ∧
          RegistrationSent t a) := by
      rcases step_registrations hstep hd hc with ⟨hnil,htr,hnew⟩ |
        ⟨hatt,⟨hsame,htr⟩ | ⟨r,hr,⟨rfl,hdb⟩ | ⟨rfl,hdb,-⟩⟩⟩
      · have hlen := congrArg List.length hnew
        simp only [testRunsOf,List.length_append,List.length_map,List.length_reverse] at hlen
        have hzero : t.proc.phase.registrations.length = 0 := by rw [hnil]; rfl
        rw [htr]
        refine ⟨by omega,fun heq => ⟨by omega,?_⟩⟩
        intro _ r calls hph
        rw [hph] at hnil
        simp [ClientPhase.registrations,registrations] at hnil
      · rw [hsame,htr,hatt]
        refine ⟨hle,fun heq => ⟨heq,?_⟩⟩
        intro ha r calls hph
        subst ha
        obtain ⟨hp,-⟩ := session_quiet hstep (by simp) (by simp)
        obtain ⟨c,calls',hph',-,hp'⟩ := client_callFail hp
        rw [hph] at hph'
        obtain ⟨-,rfl⟩ := List.cons.inj (ClientPhase.calling.inj hph')
        rw [hp',hph] at hsame
        simp [ClientPhase.registrations,registrations] at hsame
      · have hone : (t.db.attempt (.insertTestRun r)).testRuns.length ≤
            t.db.testRuns.length + 1 := by
          rcases attempt_insertTestRun t.db r with ⟨-,hins⟩ | ⟨-,hins⟩ <;> rw [hins] <;> simp
        have hlen : t.proc.phase.registrations.length =
          s.proc.phase.registrations.length + 1 := by rw [hr]; rfl
        rw [hatt,hdb]
        exact ⟨by omega,fun heq => ⟨by omega,by simp [RegistrationSent]⟩⟩
      · have hlen : t.proc.phase.registrations.length =
          s.proc.phase.registrations.length + 1 := by rw [hr]; rfl
        rw [hatt,hdb]
        exact ⟨by omega,fun heq => by omega⟩
    refine ⟨hstepped.1,fun heq => ?_⟩
    obtain ⟨heq',hsent⟩ := hstepped.2 heq
    exact (along_append ht).mpr ⟨himp heq',hsent,by rw [hstep]; trivial⟩

/-- Each failover gets a test run of its own: in a run with no registration still due,
exactly if no two failovers begin in the same second, or in one the table has a test run of,
and every registration reached the database. -/
theorem each_failover_own_test_run
    (hrun : run ClientSession.step (.start (.init conn comb "") db₀) as = some s)
    (hidle : s.proc.phase.registrations = []) :
    OwnTestRuns comb db₀ s ↔ FreshOnsets comb db₀ s ∧
      Along ClientSession.step RegistrationSent (.start (.init conn comb "") db₀) as := by
  constructor
  · intro hown
    refine ⟨⟨nodup_episodeId_iff.mp hown.1,?_⟩,?_⟩
    · intro e he hmem
      have hkey := s.db.primaryKey
      rw [hown.2,List.map_append,testRunsOf_ids,List.nodup_append] at hkey
      exact hkey.2.2 _ hmem _ (List.mem_reverse.mpr (List.mem_map_of_mem he)) rfl
    · refine (run_registrations_le hrun).2 ?_
      rw [hidle,hown.2]
      simp [testRunsOf]
  · intro h
    have heq := run_registered hrun h.2 h.1
    rw [hidle,List.append_nil] at heq
    exact ⟨nodup_episodeId_iff.mpr h.1.1,heq⟩

/-- A failover is over after 300 ms, and the next query fails again. -/
def sameSecond : List ClientAction := failure 0 ++ recovery 1 ++ failure 4

theorem sameSecond_shares_id : ∃ s,
    run ClientSession.step (.start heartbeatClient .empty) sameSecond = some s ∧
      (failoverEpisodes s.proc.attempts).length = 2 ∧
      ¬ ((failoverEpisodes s.proc.attempts).map
        (episodeId "06-haproxy-rest-polling")).Nodup ∧
      s.db.testRuns.length = 1 :=
  ⟨_,rfl,by decide +kernel,by decide +kernel,by decide +kernel⟩

theorem each_failover_own_test_run_twoFailovers : ∃ s,
    run ClientSession.step (.start heartbeatClient .empty) twoFailovers = some s ∧
      s.db.testRuns.length = 2 ∧
      (OwnTestRuns "06-haproxy-rest-polling" .empty s ↔
        FreshOnsets "06-haproxy-rest-polling" .empty s ∧
          Along ClientSession.step RegistrationSent (.start heartbeatClient .empty)
            twoFailovers) := by
  have hends : (run ClientSession.step (.start heartbeatClient .empty) twoFailovers).map
      (fun s => (s.db.testRuns.length,s.proc.phase.registrations)) = some (2,[]) := by
    decide +kernel
  obtain ⟨s,hrun,hidle⟩ := Option.map_eq_some_iff.mp hends
  obtain ⟨hruns,hidle⟩ := Prod.mk.inj hidle
  exact ⟨s,hrun,hruns,@each_failover_own_test_run "host=prb-timescaledb port=5432 dbname=bench"
    "06-haproxy-rest-polling" .empty s twoFailovers hrun hidle⟩

end Registration

end RoutingBench
