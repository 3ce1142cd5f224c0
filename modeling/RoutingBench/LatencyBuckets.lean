import RoutingBench.Views
import Mathlib.Algebra.BigOperators.Group.List.Lemmas
set_option autoImplicit false

/-!
The view client_latency_buckets, which joins every client row with the outage of its run to
say in which phase of the run it falls.
-/

namespace RoutingBench
open Aggregate

inductive LatencyPhase where
  | before | failover | after
  deriving DecidableEq, Repr

/-- The CASE of the view: a comparison with a bound that is NULL is not true. -/
def latencyPhase (ts : Timestamp) (fw : Option FailoverWindow) : LatencyPhase :=
  let firstFailure := fw.bind FailoverWindow.firstFailure
  let firstRecovery := fw.bind FailoverWindow.firstRecovery
  if firstFailure.any (· ≤ ts) && firstRecovery.any (ts ≤ ·) then .failover
  else if firstFailure.any (ts < ·) then .before
  else .after

/-- client_events LEFT JOIN failover_window ON test_run_id. -/
def joinFailoverWindow (clientEvents : List ClientEvent) :
    List (ClientEvent × Option FailoverWindow) :=
  clientEvents.flatMap fun ce =>
    match (failoverWindow clientEvents).filter fun fw => fw.testRunId = ce.testRunId with
    | [] => [(ce,none)]
    | fws => fws.map fun fw => (ce,some fw)

/-- ROUND(x::numeric, 0), halves away from zero. -/
def round0 (x : ℚ) : ℚ := if 0 ≤ x then (x + 1 / 2).floor else -((-x + 1 / 2).floor)

def avg (values : List Nat) : ℚ := (values.sum : ℚ) / values.length

/-- PERCENTILE_CONT: between two values the percentile is interpolated. -/
def percentileCont (fraction : ℚ) (values : List Nat) : ℚ :=
  let sorted := values.mergeSort fun a b => a ≤ b
  let position := fraction * (values.length - 1 : Nat)
  let low : ℚ := (sorted[position.floor.toNat]?.getD 0 : Nat)
  let high : ℚ := (sorted[position.ceil.toNat]?.getD 0 : Nat)
  low + (position - position.floor) * (high - low)

structure LatencyKey where
  testRunId : String
  combinationId : String
  phase : LatencyPhase
  success : Bool
  deriving DecidableEq, Repr

structure LatencyBucket where
  key : LatencyKey
  queryCount : Nat
  avgLatencyUs : ℚ
  p50LatencyUs : ℚ
  p95LatencyUs : ℚ
  p99LatencyUs : ℚ
  deriving DecidableEq

def latencyKey (row : ClientEvent × Option FailoverWindow) : LatencyKey where
  testRunId := row.1.testRunId
  combinationId := row.1.combinationId
  phase := latencyPhase row.1.ts row.2
  success := row.1.success

/-- The view: GROUP BY test_run_id, combination_id, phase, success. -/
def clientLatencyBuckets (clientEvents : List ClientEvent) : List LatencyBucket :=
  let rows := joinFailoverWindow clientEvents
  (rows.map latencyKey).dedup.map fun key =>
    let latencies := (rows.filter fun row => latencyKey row = key).map fun row => row.1.latencyUs
    { key := key
      queryCount := latencies.length
      avgLatencyUs := round0 (avg latencies)
      p50LatencyUs := round0 (percentileCont (50 / 100) latencies)
      p95LatencyUs := round0 (percentileCont (95 / 100) latencies)
      p99LatencyUs := round0 (percentileCont (99 / 100) latencies) }

def countedQueries (p : LatencyKey → Bool) (buckets : List LatencyBucket) : Nat :=
  ((buckets.filter fun b => p b.key).map LatencyBucket.queryCount).sum

def ofPair (testRunId combinationId : String) (r : ClientEvent) : Bool :=
  r.testRunId = testRunId && r.combinationId = combinationId

/-- The buckets of a run and a combination count each of their queries once, and each failed one
as part of the failover. -/
structure PhasesPartition (clientEvents : List ClientEvent) (testRunId combinationId : String) :
    Prop where
  total : countedQueries (fun k => k.testRunId = testRunId && k.combinationId = combinationId)
    (clientLatencyBuckets clientEvents) = clientEvents.countP (ofPair testRunId combinationId)
  failures : countedQueries (fun k => (k.testRunId = testRunId && k.combinationId = combinationId) &&
      (!k.success && k.phase = .failover)) (clientLatencyBuckets clientEvents) =
    clientEvents.countP fun r => ofPair testRunId combinationId r && !r.success

section Counts

variable {clientEvents : List ClientEvent} {testRunId combinationId : String}

theorem countedQueries_buckets (p : LatencyKey → Bool) :
    countedQueries p (clientLatencyBuckets clientEvents) =
      (joinFailoverWindow clientEvents).countP fun row => p (latencyKey row) := by
  have hcount : ∀ key, ((joinFailoverWindow clientEvents).filter fun row =>
      latencyKey row = key).length = ((joinFailoverWindow clientEvents).map latencyKey).count key := by
    intro key
    rw [List.count,List.countP_map,List.countP_eq_length_filter]
    rfl
  rw [countedQueries,clientLatencyBuckets,List.filter_map,List.map_map]
  simp only [Function.comp_def,List.length_map,hcount]
  rw [List.sum_map_count_dedup_filter_eq_countP,List.countP_map]
  rfl

/-- The outages of a run, one for each of its combinations. -/
def windowsOfRun (clientEvents : List ClientEvent) (testRunId : String) : List FailoverWindow :=
  (failoverWindow clientEvents).filter fun fw => fw.testRunId = testRunId

theorem joinFailoverWindow_eq : joinFailoverWindow clientEvents =
    clientEvents.flatMap fun ce => (windowsOfRun clientEvents ce.testRunId).map fun fw =>
      (ce,some fw) := by
  refine List.flatMap_congr fun ce hce => ?_
  have hown : failoverWindowOf clientEvents ce.testRunId ce.combinationId ∈
      windowsOfRun clientEvents ce.testRunId :=
    List.mem_filter.mpr ⟨mem_failoverWindow.mpr ⟨ce,hce,rfl⟩,decide_eq_true rfl⟩
  rw [windowsOfRun] at hown ⊢
  split
  next hnil => rw [hnil] at hown; contradiction
  next => rfl

theorem sum_map_if {α : Type*} (q : α → Bool) (m : Nat) (l : List α) :
    (l.map fun x => if q x then m else 0).sum = l.countP q * m := by
  induction l with
  | nil => simp
  | cons x l ih =>
    rw [List.map_cons,List.sum_cons,ih,List.countP_cons]
    cases q x <;> simp [Nat.add_mul,Nat.add_comm]

/-- Every query of a run is counted once for each outage of the run. -/
theorem countedQueries_pair : countedQueries
    (fun k => k.testRunId = testRunId && k.combinationId = combinationId)
      (clientLatencyBuckets clientEvents) =
    clientEvents.countP (ofPair testRunId combinationId) *
      (windowsOfRun clientEvents testRunId).length := by
  rw [countedQueries_buckets,joinFailoverWindow_eq,List.countP_flatMap,← sum_map_if]
  refine congrArg List.sum (List.map_congr_left fun ce _ => ?_)
  rw [Function.comp_apply,List.countP_map]
  by_cases hpair : ofPair testRunId combinationId ce = true
  · obtain ⟨rfl,rfl⟩ : ce.testRunId = testRunId ∧ ce.combinationId = combinationId := by
      simpa [ofPair] using hpair
    simp [Function.comp_def,latencyKey,ofPair]
  · rw [if_neg hpair,List.countP_eq_zero]
    exact fun fw _ => hpair

theorem countP_and_eq_iff {α : Type*} {p q : α → Bool} {l : List α} :
    (l.countP fun r => p r && q r) = l.countP p ↔ ∀ r ∈ l, p r = true → q r = true := by
  have hfilter : (l.countP fun r => p r && q r) = (l.filter p).countP q := by
    rw [List.countP_filter]
    simp only [Bool.and_comm]
  rw [hfilter,List.countP_eq_length_filter (p := p),List.countP_eq_length]
  simp

end Counts

section Partition

variable {clientEvents : List ClientEvent} {testRunId combinationId : String}

def OwnRun (clientEvents : List ClientEvent) (testRunId combinationId : String) : Prop :=
  ∀ r ∈ clientEvents, r.testRunId = testRunId → r.combinationId = combinationId

/-- A successful query of the pair that comes after a failed one. -/
def LaterSuccess (clientEvents : List ClientEvent) (testRunId combinationId : String)
    (s : ClientEvent) : Prop :=
  (s ∈ clientEvents ∧ ofPair testRunId combinationId s = true ∧ s.success = true) ∧
    ∃ f ∈ clientEvents, ofPair testRunId combinationId f = true ∧ f.success = false ∧ f.ts < s.ts

/-- There is a success after the first failure, and no failure after such a success. -/
structure RecoveredForGood (clientEvents : List ClientEvent) (testRunId combinationId : String) :
    Prop where
  recovered : ∃ s, LaterSuccess clientEvents testRunId combinationId s
  forGood : ∀ s, LaterSuccess clientEvents testRunId combinationId s → ∀ f ∈ clientEvents,
    ofPair testRunId combinationId f = true → f.success = false → f.ts ≤ s.ts

theorem mem_windowKeys {key : String × String} :
    key ∈ ((clientEvents.map fun r => (r.testRunId,r.combinationId)).dedup.filter fun key =>
        key.1 = testRunId) ↔
      ∃ r ∈ clientEvents, r.testRunId = testRunId ∧ key = (testRunId,r.combinationId) := by
  simp only [List.mem_filter,List.mem_dedup,List.mem_map,decide_eq_true_eq]
  constructor
  · intro h
    obtain ⟨⟨r,hr,rfl⟩,rfl⟩ := h
    exact ⟨r,hr,rfl,rfl⟩
  · intro h
    obtain ⟨r,hr,rfl,rfl⟩ := h
    exact ⟨⟨r,hr,rfl⟩,rfl⟩

theorem windowsOfRun_eq : windowsOfRun clientEvents testRunId =
    ((clientEvents.map fun r => (r.testRunId,r.combinationId)).dedup.filter fun key =>
      key.1 = testRunId).map fun key => failoverWindowOf clientEvents key.1 key.2 := by
  rw [windowsOfRun,failoverWindow,List.filter_map]
  rfl

theorem windowsOfRun_length_eq_one_iff {r : ClientEvent} (hr : r ∈ clientEvents)
    (hpair : ofPair testRunId combinationId r = true) :
    (windowsOfRun clientEvents testRunId).length = 1 ↔
      OwnRun clientEvents testRunId combinationId := by
  obtain ⟨rfl,rfl⟩ : r.testRunId = testRunId ∧ r.combinationId = combinationId := by
    simpa [ofPair] using hpair
  have hown := mem_windowKeys.mpr ⟨r,hr,rfl,rfl⟩
  have hnodup := ((clientEvents.map fun r => (r.testRunId,r.combinationId)).nodup_dedup).filter
    fun key => decide (key.1 = r.testRunId)
  have hkeys := @mem_windowKeys clientEvents r.testRunId
  rw [windowsOfRun_eq,List.length_map]
  generalize ((clientEvents.map fun r => (r.testRunId,r.combinationId)).dedup.filter fun key =>
    key.1 = r.testRunId) = keys at hown hnodup hkeys ⊢
  constructor
  · intro hlength r' hr' hid
    obtain ⟨key,rfl⟩ := List.length_eq_one_iff.mp hlength
    have hother := hkeys.mpr ⟨r',hr',hid,rfl⟩
    rw [List.mem_singleton] at hown hother
    exact (Prod.mk.inj (hother.trans hown.symm)).2
  · intro h
    have hall : ∀ key ∈ keys, key = (r.testRunId,r.combinationId) := by
      intro key hkey
      obtain ⟨r',hr',hid,rfl⟩ := hkeys.mp hkey
      rw [h r' hr' hid]
    rw [List.eq_replicate_of_mem hall] at hnodup
    have hle := List.nodup_replicate.mp hnodup
    have hpos := List.length_pos_of_mem hown
    omega

theorem windowsOfRun_own {r : ClientEvent} (hr : r ∈ clientEvents)
    (hpair : ofPair testRunId combinationId r = true)
    (hown : OwnRun clientEvents testRunId combinationId) :
    windowsOfRun clientEvents testRunId = [failoverWindowOf clientEvents testRunId combinationId] := by
  obtain ⟨rfl,rfl⟩ : r.testRunId = testRunId ∧ r.combinationId = combinationId := by
    simpa [ofPair] using hpair
  obtain ⟨fw,hfw⟩ := List.length_eq_one_iff.mp ((windowsOfRun_length_eq_one_iff hr hpair).mpr hown)
  have hmem : failoverWindowOf clientEvents r.testRunId r.combinationId ∈
      windowsOfRun clientEvents r.testRunId :=
    List.mem_filter.mpr ⟨mem_failoverWindow.mpr ⟨r,hr,rfl⟩,decide_eq_true rfl⟩
  rw [hfw,List.mem_singleton] at hmem
  rw [hfw,hmem]

theorem laterSuccess_iff (hown : OwnRun clientEvents testRunId combinationId) {s : ClientEvent} :
    LaterSuccess clientEvents testRunId combinationId s ↔
      s ∈ clientEvents.filter (ofPair testRunId combinationId) ∧ (s.success &&
        exceeds s.ts (minWhere (fun c2 => c2.testRunId = testRunId && !c2.success)
          ClientEvent.ts clientEvents)) = true := by
  rw [Bool.and_eq_true,exceeds_minWhere,List.mem_filter,and_assoc]
  have hfailed : ∀ f ∈ clientEvents, (f.testRunId = testRunId && !f.success) = true ↔
      ofPair testRunId combinationId f = true ∧ f.success = false := by
    intro f hf
    simp only [ofPair,Bool.and_eq_true,decide_eq_true_eq,Bool.not_eq_true']
    exact ⟨fun h => ⟨⟨h.1,hown f hf h.1⟩,h.2⟩,fun h => ⟨h.1.1,h.2⟩⟩
  constructor
  · intro h
    obtain ⟨⟨hs,hpair,hok⟩,f,hf,hfpair,hfail,hlt⟩ := h
    exact ⟨hs,hpair,hok,f,hf,(hfailed f hf).mpr ⟨hfpair,hfail⟩,hlt⟩
  · intro h
    obtain ⟨hs,hpair,hok,f,hf,hfail,hlt⟩ := h
    obtain ⟨hfpair,hfail⟩ := (hfailed f hf).mp hfail
    exact ⟨⟨hs,hpair,hok⟩,f,hf,hfpair,hfail,hlt⟩

/-- In a run of one combination the recovery of the view is the earliest later success. -/
theorem firstRecovery_eq_some_iff (hown : OwnRun clientEvents testRunId combinationId)
    {t : Timestamp} :
    (failoverWindowOf clientEvents testRunId combinationId).firstRecovery = some t ↔
      (∃ s, LaterSuccess clientEvents testRunId combinationId s ∧ s.ts = t) ∧
        ∀ s, LaterSuccess clientEvents testRunId combinationId s → t ≤ s.ts := by
  simp only [laterSuccess_iff hown]
  refine Iff.trans minWhere_eq_some_iff ?_
  simp only [and_imp,and_assoc]
  rfl

theorem exists_firstRecovery (hown : OwnRun clientEvents testRunId combinationId)
    {s : ClientEvent} (hs : LaterSuccess clientEvents testRunId combinationId s) :
    ∃ t, (failoverWindowOf clientEvents testRunId combinationId).firstRecovery = some t := by
  obtain ⟨hmem,hlater⟩ := (laterSuccess_iff hown).mp hs
  exact exists_minWhere hmem hlater

/-- A failed query is counted as part of the failover if and only if it does not come after the
recovery. -/
theorem latencyPhase_failed {r : ClientEvent} (hr : r ∈ clientEvents)
    (hpair : ofPair testRunId combinationId r = true) (hfail : r.success = false) :
    latencyPhase r.ts (some (failoverWindowOf clientEvents testRunId combinationId)) = .failover ↔
      ∃ t, (failoverWindowOf clientEvents testRunId combinationId).firstRecovery = some t ∧
        r.ts ≤ t := by
  obtain ⟨first,hfirst⟩ := exists_minWhere (p := fun r : ClientEvent => !r.success)
    (f := ClientEvent.ts)
    (List.mem_filter.mpr ⟨hr,hpair⟩ : r ∈ clientEvents.filter (ofPair testRunId combinationId))
    (by simp [hfail])
  have hle := (minWhere_eq_some_iff.mp hfirst).2 r (List.mem_filter.mpr ⟨hr,hpair⟩) (by simp [hfail])
  have hbound : (failoverWindowOf clientEvents testRunId combinationId).firstFailure = some first :=
    hfirst
  simp only [latencyPhase,Option.bind_some,hbound,Option.any_some,decide_eq_true hle,Bool.true_and]
  cases hrec : (failoverWindowOf clientEvents testRunId combinationId).firstRecovery with
  | none => simp [not_lt.mpr hle]
  | some t =>
    by_cases ht : r.ts ≤ t
    · simp [ht]
    · simp [ht,not_lt.mpr hle]

theorem countedQueries_own {r : ClientEvent} (hr : r ∈ clientEvents)
    (hpair : ofPair testRunId combinationId r = true)
    (hown : OwnRun clientEvents testRunId combinationId) (q : LatencyPhase → Bool → Bool) :
    countedQueries (fun k => (k.testRunId = testRunId && k.combinationId = combinationId) &&
        q k.phase k.success) (clientLatencyBuckets clientEvents) =
      clientEvents.countP fun r => ofPair testRunId combinationId r &&
        q (latencyPhase r.ts (some (failoverWindowOf clientEvents testRunId combinationId)))
          r.success := by
  rw [countedQueries_buckets,joinFailoverWindow_eq,List.countP_flatMap,
    ← Nat.mul_one (clientEvents.countP _),← sum_map_if]
  refine congrArg List.sum (List.map_congr_left fun ce _ => ?_)
  rw [Function.comp_apply,List.countP_map]
  by_cases hce : ofPair testRunId combinationId ce = true
  · obtain ⟨rfl,rfl⟩ : ce.testRunId = testRunId ∧ ce.combinationId = combinationId := by
      simpa [ofPair] using hce
    rw [windowsOfRun_own hr hpair hown,List.countP_singleton]
    simp [latencyKey,ofPair]
  · rw [if_neg (by simp [hce]),List.countP_eq_zero]
    intro fw _ hkey
    exact hce (Bool.and_eq_true_iff.mp hkey).1

/-- In a run of one combination the failed queries are all counted as part of the failover if and
only if there are none or the run has recovered for good. -/
theorem failures_counted_iff {r : ClientEvent} (hr : r ∈ clientEvents)
    (hpair : ofPair testRunId combinationId r = true)
    (hown : OwnRun clientEvents testRunId combinationId) :
    countedQueries (fun k => (k.testRunId = testRunId && k.combinationId = combinationId) &&
        (!k.success && k.phase = .failover)) (clientLatencyBuckets clientEvents) =
      (clientEvents.countP fun r => ofPair testRunId combinationId r && !r.success) ↔
    ((∃ f ∈ clientEvents, ofPair testRunId combinationId f = true ∧ f.success = false) →
      RecoveredForGood clientEvents testRunId combinationId) := by
  rw [countedQueries_own hr hpair hown fun phase success => !success && phase = .failover]
  simp only [← Bool.and_assoc]
  rw [countP_and_eq_iff]
  simp only [Bool.and_eq_true,Bool.not_eq_true',decide_eq_true_eq,and_imp]
  constructor
  · intro h ⟨f,hf,hfpair,hfail⟩
    obtain ⟨t,ht,-⟩ := (latencyPhase_failed hf hfpair hfail).mp (h f hf hfpair hfail)
    obtain ⟨⟨s,hs,-⟩,hmin⟩ := (firstRecovery_eq_some_iff hown).mp ht
    refine ⟨⟨s,hs⟩,fun s' hs' f' hf' hpair' hfail' => ?_⟩
    obtain ⟨t',ht',hle⟩ := (latencyPhase_failed hf' hpair' hfail').mp (h f' hf' hpair' hfail')
    obtain rfl := Option.some.inj (ht.symm.trans ht')
    exact hle.trans (hmin s' hs')
  · intro h f hf hfpair hfail
    have hgood := h ⟨f,hf,hfpair,hfail⟩
    obtain ⟨s,hs⟩ := hgood.recovered
    obtain ⟨t,ht⟩ := exists_firstRecovery hown hs
    obtain ⟨⟨s',hs',rfl⟩,-⟩ := (firstRecovery_eq_some_iff hown).mp ht
    exact (latencyPhase_failed hf hfpair hfail).mpr ⟨_,ht,hgood.forGood s' hs' f hf hfpair hfail⟩

/-- The phases partition the queries of a run and a combination if and only if the pair has none,
or no other combination has rows of the run and the run has recovered for good if it failed. -/
theorem phases_partition_iff (clientEvents : List ClientEvent) (testRunId combinationId : String) :
    PhasesPartition clientEvents testRunId combinationId ↔
      ((∃ r ∈ clientEvents, ofPair testRunId combinationId r = true) →
        OwnRun clientEvents testRunId combinationId ∧
          ((∃ f ∈ clientEvents, ofPair testRunId combinationId f = true ∧ f.success = false) →
            RecoveredForGood clientEvents testRunId combinationId)) := by
  by_cases hany : ∃ r ∈ clientEvents, ofPair testRunId combinationId r = true
  · obtain ⟨r,hr,hpair⟩ := hany
    have htotal : countedQueries
        (fun k => k.testRunId = testRunId && k.combinationId = combinationId)
          (clientLatencyBuckets clientEvents) =
        clientEvents.countP (ofPair testRunId combinationId) ↔
          OwnRun clientEvents testRunId combinationId := by
      have hpos := List.countP_pos_iff.mpr ⟨r,hr,hpair⟩
      rw [countedQueries_pair,← windowsOfRun_length_eq_one_iff hr hpair]
      constructor
      · intro h
        exact Nat.eq_of_mul_eq_mul_left hpos (h.trans (Nat.mul_one _).symm)
      · intro h
        rw [h,Nat.mul_one]
    constructor
    · intro h _
      have hown := htotal.mp h.total
      exact ⟨hown,(failures_counted_iff hr hpair hown).mp h.failures⟩
    · intro h
      obtain ⟨hown,hgood⟩ := h ⟨r,hr,hpair⟩
      exact ⟨htotal.mpr hown,(failures_counted_iff hr hpair hown).mpr hgood⟩
  · refine iff_of_true ?_ fun h => absurd h hany
    have hnone : ∀ r ∈ clientEvents, ofPair testRunId combinationId r = false := by
      simpa using hany
    have hzero : clientEvents.countP (ofPair testRunId combinationId) = 0 :=
      List.countP_eq_zero.mpr fun r hr => by simp [hnone r hr]
    have hcounted : ∀ q : LatencyKey → Bool, countedQueries (fun k =>
        (k.testRunId = testRunId && k.combinationId = combinationId) && q k)
          (clientLatencyBuckets clientEvents) = 0 := by
      intro q
      rw [countedQueries_buckets,joinFailoverWindow_eq,List.countP_eq_zero]
      intro row hrow hkey
      obtain ⟨ce,hce,hmem⟩ := List.mem_flatMap.mp hrow
      obtain ⟨fw,-,rfl⟩ := List.mem_map.mp hmem
      exact absurd ((hnone ce hce).symm.trans (Bool.and_eq_true_iff.mp hkey).1) Bool.false_ne_true
    refine ⟨?_,?_⟩
    · rw [countedQueries_pair,hzero,Nat.zero_mul]
    · rw [hcounted,eq_comm,List.countP_eq_zero]
      intro r hr
      simp [hnone r hr]

/-- Two combinations report under the same, empty, run id. -/
def sharedRunId : List ClientEvent :=
  [heartbeatRow "06" "" 1777000000000000 1 true,heartbeatRow "07" "" 1777000000100000 2 true]

def failingRun : List ClientEvent :=
  [heartbeatRow "06" "06_20260424_030630" 1777000000000000 1 true,
    heartbeatRow "06" "06_20260424_030630" 1777000000100000 2 false]

/-- The rows of the one are counted twice, the failure of the other is counted in no failover. -/
theorem sharedRunId_counted_twice : ¬ PhasesPartition sharedRunId "" "06" ∧
    ¬ PhasesPartition failingRun "06_20260424_030630" "06" := by
  constructor
  · intro h
    have htotal := h.total
    rw [countedQueries_pair] at htotal
    exact absurd htotal (by decide +kernel)
  · intro h
    have hfailures := h.failures
    rw [countedQueries_buckets] at hfailures
    exact absurd hfailures (by decide +kernel)

end Partition

end RoutingBench
