import RoutingBench.Episodes
import RoutingBench.Heartbeat
set_option autoImplicit false

/-!
The client's online detector against the episodes of its history: flag, counter, ids and
streak say at any time what the latest episode says.
-/

namespace RoutingBench
open Episodes

abbrev FailoverEpisode := Episode QueryResult.success

/-- A failover lasts from its first failed query to the third successful one in a row. -/
def failoverEpisodes (attempts : List QueryResult) : List FailoverEpisode :=
  episodes QueryResult.success 3 attempts

def episodeId (combinationId : String) (e : FailoverEpisode) : String :=
  generateTestRunId combinationId e.onset.wallTs

structure Detects (client : HeartbeatClient) (es : List FailoverEpisode) : Prop where
  auto : client.autoTestRun = true
  inFailover : client.inFailover = inEpisode 3 es
  failoverCount : client.failoverCount = es.length
  startTs : client.failoverStartTs = es.head?.map fun e => e.onset.wallTs
  streak : ∀ e ∈ es.head?, e.closed 3 = false →
    client.consecutiveSuccesses = streak QueryResult.success e.later
  current : ∀ e ∈ es.head?, client.currentTestRunId = episodeId client.combinationId e
  testRunId : client.testRunId = client.currentTestRunId
  untagged : es = [] → client.testRunId = ""

theorem detects_init (timescaleConnstring combinationId : String) :
    Detects (.init timescaleConnstring combinationId "") (failoverEpisodes []) := by
  constructor <;> simp [HeartbeatClient.init,failoverEpisodes,episodes,inEpisode]

section Handle

variable {self : HeartbeatClient} {es : List FailoverEpisode} {r : QueryResult}

/-- The detector changes nothing but its own fields. -/
structure DetectorFrame (client client' : HeartbeatClient) : Prop where
  timescaleConnstring : client'.timescaleConnstring = client.timescaleConnstring
  combinationId : client'.combinationId = client.combinationId
  running : client'.running = client.running
  sequence : client'.sequence = client.sequence
  results : client'.results = client.results
  batchSize : client'.batchSize = client.batchSize

theorem handle_frame (self : HeartbeatClient) (r : QueryResult) :
    DetectorFrame self (self.handleAutoTestRun r).1 := by
  unfold HeartbeatClient.handleAutoTestRun
  split
  · exact ⟨rfl,rfl,rfl,rfl,rfl,rfl⟩
  split
  · simp only
    split <;> exact ⟨rfl,rfl,rfl,rfl,rfl,rfl⟩
  · simp only
    split <;> exact ⟨rfl,rfl,rfl,rfl,rfl,rfl⟩

section Attempt

variable (p : ClientProc) (o : Outcome)

theorem attempt_frame : DetectorFrame
    (p.self.appendResult (queryResult (p.self.sequence + 1) o)) (p.attempt o).self :=
  handle_frame _ _

@[simp] theorem attempt_results : (p.attempt o).self.results =
    p.self.results ++ [queryResult (p.self.sequence + 1) o] :=
  (attempt_frame p o).results

@[simp] theorem attempt_sequence : (p.attempt o).self.sequence = p.self.sequence + 1 :=
  (attempt_frame p o).sequence

@[simp] theorem attempt_connstring :
    (p.attempt o).self.timescaleConnstring = p.self.timescaleConnstring :=
  (attempt_frame p o).timescaleConnstring

@[simp] theorem attempt_combinationId :
    (p.attempt o).self.combinationId = p.self.combinationId :=
  (attempt_frame p o).combinationId

@[simp] theorem attempt_attempts : (p.attempt o).attempts =
    p.attempts ++ [queryResult (p.self.sequence + 1) o] := rfl

theorem attempt_phase : ∃ calls, (p.attempt o).phase = .calling calls := ⟨_,rfl⟩

@[simp] theorem queryResult_sequence (n : Nat) : (queryResult n o).sequence = n := rfl

end Attempt

theorem handle_idle (h : Detects self es) (hin : inEpisode 3 es = false)
    (hr : r.success = true) : self.handleAutoTestRun r =
      ({ self with consecutiveSuccesses := self.consecutiveSuccesses + 1 },[]) := by
  have hf : self.inFailover = false := by rw [h.inFailover,hin]
  simp [HeartbeatClient.handleAutoTestRun,h.auto,hr,hf]

theorem handle_onset (h : Detects self es) (hin : inEpisode 3 es = false)
    (hr : r.success = false) : self.handleAutoTestRun r =
      ({ self with
          consecutiveSuccesses := 0
          inFailover := true
          failoverCount := self.failoverCount + 1
          failoverStartTs := some r.wallTs
          currentTestRunId := generateTestRunId self.combinationId r.wallTs
          testRunId := generateTestRunId self.combinationId r.wallTs },
        [.register (registration self.combinationId r.wallTs)]) := by
  have hf : self.inFailover = false := by rw [h.inFailover,hin]
  simp [HeartbeatClient.handleAutoTestRun,h.auto,hr,hf]

theorem consecutiveSuccesses_extend {e : FailoverEpisode} {rest : List FailoverEpisode}
    (h : Detects self (e :: rest)) (hc : e.closed 3 = false) :
    streak QueryResult.success (r :: e.later) =
      if r.success then self.consecutiveSuccesses + 1 else 0 := by
  rw [h.streak e (by simp) hc]
  by_cases hr : r.success = true
  · rw [if_pos hr,streak_ok hr]
  · rw [if_neg hr,streak_fail (by simpa using hr)]

theorem handle_inside {e : FailoverEpisode} {rest : List FailoverEpisode}
    (h : Detects self (e :: rest)) (hc : e.closed 3 = false)
    (hc' : (e.extend r).closed 3 = false) : self.handleAutoTestRun r =
      ({ self with
          consecutiveSuccesses := streak QueryResult.success (r :: e.later) },[]) := by
  have hf : self.inFailover = true := by rw [h.inFailover]; simp [inEpisode,hc]
  have hs := consecutiveSuccesses_extend (r := r) h hc
  by_cases hr : r.success = true
  · rw [if_pos hr] at hs
    simp only [Episode.closed,Episode.extend_later,hs,decide_eq_false_iff_not] at hc'
    simp [HeartbeatClient.handleAutoTestRun,h.auto,hr,hf,hs,hc']
  · rw [if_neg hr] at hs
    simp [HeartbeatClient.handleAutoTestRun,h.auto,hr,hf,hs]

theorem handle_recovery {e : FailoverEpisode} {rest : List FailoverEpisode}
    (h : Detects self (e :: rest)) (hc : e.closed 3 = false)
    (hc' : (e.extend r).closed 3 = true) : self.handleAutoTestRun r =
      ({ self with
          consecutiveSuccesses := streak QueryResult.success (r :: e.later)
          inFailover := false },
        [.tag (episodeId self.combinationId e) e.onset.wallTs r.wallTs,
          .summary (episodeId self.combinationId e)]) := by
  have hf : self.inFailover = true := by rw [h.inFailover]; simp [inEpisode,hc]
  have hs := consecutiveSuccesses_extend (r := r) h hc
  have hcur := h.current e (by simp)
  have hstart : self.failoverStartTs = some e.onset.wallTs := by rw [h.startTs]; rfl
  by_cases hr : r.success = true
  · rw [if_pos hr] at hs
    simp only [Episode.closed,Episode.extend_later,hs,decide_eq_true_eq] at hc'
    simp [HeartbeatClient.handleAutoTestRun,h.auto,hr,hf,hs,hc',hcur,hstart]
  · rw [if_neg hr] at hs
    simp [Episode.closed,hs] at hc'

/-- The online detector follows the episodes of the history. -/
theorem detects_step (h : Detects self es) (r : QueryResult) :
    Detects (self.handleAutoTestRun r).1 (add 3 es r) := by
  rcases add_cases 3 es r with ⟨hin,hr,hadd⟩ | ⟨hr,hin,hadd⟩ | ⟨e,rest,rfl,hc,hadd⟩
  · rw [handle_idle h hin hr,hadd]
    refine ⟨h.auto,h.inFailover,h.failoverCount,h.startTs,?_,h.current,h.testRunId,h.untagged⟩
    intro e he hopen
    cases es with
    | nil => simp at he
    | cons e' rest =>
      obtain rfl : e' = e := by simpa using he
      simp [inEpisode,hopen] at hin
  · rw [handle_onset h hin hr,hadd]
    constructor <;> simp [h.auto,h.failoverCount,inEpisode,Episode.closed,streak,episodeId]
  · rw [hadd]
    have hcur : ∀ e' ∈ (e.extend r :: rest).head?,
        self.currentTestRunId = episodeId self.combinationId e' := by
      intro e' he'
      obtain rfl : e.extend r = e' := by simpa using he'
      exact h.current e (by simp)
    have hstart : self.failoverStartTs =
        (e.extend r :: rest).head?.map fun e => e.onset.wallTs := by
      rw [h.startTs]; rfl
    cases hc' : (e.extend r).closed 3 with
    | false =>
      rw [handle_inside h hc hc']
      refine ⟨h.auto,?_,h.failoverCount,hstart,?_,hcur,h.testRunId,by simp⟩
      · show self.inFailover = _
        rw [h.inFailover]
        simp [inEpisode,hc,hc']
      · simp
    | true =>
      rw [handle_recovery h hc hc']
      refine ⟨h.auto,?_,h.failoverCount,hstart,?_,hcur,h.testRunId,by simp⟩
      · simp [inEpisode,hc']
      · simp [hc']

theorem handle_testRunId (h : Detects self es) (r : QueryResult) :
    (self.handleAutoTestRun r).1.testRunId =
      if inEpisode 3 es = false ∧ r.success = false then
        generateTestRunId self.combinationId r.wallTs else self.testRunId := by
  rcases add_cases 3 es r with ⟨hin,hr,-⟩ | ⟨hr,hin,-⟩ | ⟨e,rest,rfl,hc,-⟩
  · rw [handle_idle h hin hr]
    simp [hr]
  · rw [handle_onset h hin hr]
    simp [hin,hr]
  · have hin : inEpisode 3 (e :: rest) = true := by simp [inEpisode,hc]
    cases hc' : (e.extend r).closed 3 with
    | false => rw [handle_inside h hc hc']; simp [hin]
    | true => rw [handle_recovery h hc hc']; simp [hin]

end Handle

section Proc

variable {p p' : ClientProc} {out : Option Statement} {a : ClientAction}

theorem detects_appendResult {self : HeartbeatClient} {es : List FailoverEpisode}
    (h : Detects self es) (r : QueryResult) : Detects (self.appendResult r) es :=
  ⟨h.auto,h.inFailover,h.failoverCount,h.startTs,h.streak,h.current,h.testRunId,h.untagged⟩

theorem failoverEpisodes_snoc (attempts : List QueryResult) (r : QueryResult) :
    failoverEpisodes (attempts ++ [r]) = add 3 (failoverEpisodes attempts) r :=
  episodes_snoc attempts r

theorem detects_client_step (h : p.step a = some (p',out))
    (hd : Detects p.self (failoverEpisodes p.attempts)) :
    Detects p'.self (failoverEpisodes p'.attempts) := by
  by_cases ha : ∃ o, a = .attempt o
  · obtain ⟨o,rfl⟩ := ha
    obtain ⟨-,-,-,rfl⟩ := client_attempt h
    rw [attempt_attempts,failoverEpisodes_snoc]
    exact detects_step (detects_appendResult hd _) _
  · obtain ⟨hatt,-,hself⟩ := client_keeps h fun o ho => ha ⟨o,ho⟩
    rw [hatt,hself]
    exact ⟨hd.auto,hd.inFailover,hd.failoverCount,hd.startTs,hd.streak,hd.current,hd.testRunId,
      hd.untagged⟩

end Proc

end RoutingBench
