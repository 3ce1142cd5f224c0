import RoutingBench.Aggregate
import RoutingBench.Schema
import Mathlib.Data.List.Dedup
import Mathlib.Algebra.Field.Rat
import Mathlib.Data.Int.Cast.Lemmas
set_option autoImplicit false

/-!
The failover_window view and the runner's own downtime query.
-/

namespace RoutingBench
open Aggregate

/-- EXTRACT(EPOCH FROM interval), in seconds. -/
def epoch (interval : Int) : ℚ := interval / 1000000

/-- A difference of timestamps is NULL if one of them is. -/
def between (start stop : Option Timestamp) : Option Int :=
  start.bind fun a => stop.map fun b => b - a

@[simp] theorem between_some (a b : Timestamp) : between (some a) (some b) = some (b - a) := rfl

structure FailoverWindow where
  testRunId : String
  combinationId : String
  firstFailure : Option Timestamp
  lastFailure : Option Timestamp
  firstRecovery : Option Timestamp
  totalFailures : Nat
  totalSuccesses : Nat
  downtimeMs : Option ℚ
  deriving DecidableEq

/-- The row of one group. The subselect looks at every client row of the run, whatever
its combination. -/
def failoverWindowOf (clientEvents : List ClientEvent) (testRunId combinationId : String) :
    FailoverWindow :=
  let rows := clientEvents.filter fun r =>
    r.testRunId = testRunId && r.combinationId = combinationId
  let subselect := minWhere (fun c2 => c2.testRunId = testRunId && !c2.success) ClientEvent.ts
    clientEvents
  let firstFailure := minWhere (fun r => !r.success) ClientEvent.ts rows
  let firstRecovery := minWhere (fun r => r.success && exceeds r.ts subselect) ClientEvent.ts rows
  { testRunId := testRunId
    combinationId := combinationId
    firstFailure := firstFailure
    lastFailure := maxWhere (fun r => !r.success) ClientEvent.ts rows
    firstRecovery := firstRecovery
    totalFailures := rows.countP fun r => !r.success
    totalSuccesses := rows.countP fun r => r.success
    downtimeMs := (between firstFailure firstRecovery).map fun d => epoch d * 1000 }

/-- GROUP BY test_run_id, combination_id. -/
def failoverWindow (clientEvents : List ClientEvent) : List FailoverWindow :=
  (clientEvents.map fun r => (r.testRunId,r.combinationId)).dedup.map fun (t,c) =>
    failoverWindowOf clientEvents t c

/-- ROUND(x::numeric, 1), halves away from zero. -/
def round1 (x : ℚ) : ℚ :=
  if 0 ≤ x then (x * 10 + 1 / 2).floor / 10 else -((-x * 10 + 1 / 2).floor / 10)

/-- The runner's measure_downtime: downtime_s and failed, over every client row after the
kill, of whatever run. -/
def measureDowntime (clientEvents : List ClientEvent) (killTs : Timestamp) : Option ℚ × Nat :=
  let rows := clientEvents.filter fun r => killTs < r.ts
  let subselect := maxWhere (fun r => !r.success && killTs < r.ts) ClientEvent.ts clientEvents
  let recovery := minWhere (fun r => r.success && exceeds r.ts subselect) ClientEvent.ts rows
  let failure := minWhere (fun r => !r.success) ClientEvent.ts rows
  ((between failure recovery).map fun d => round1 (epoch d),rows.countP fun r => !r.success)

theorem mem_failoverWindow {clientEvents : List ClientEvent} {w : FailoverWindow} :
    w ∈ failoverWindow clientEvents ↔ ∃ r ∈ clientEvents,
      w = failoverWindowOf clientEvents r.testRunId r.combinationId := by
  simp only [failoverWindow,List.mem_map,List.mem_dedup]
  constructor
  · intro h
    obtain ⟨key,⟨r,hr,rfl⟩,rfl⟩ := h
    exact ⟨r,hr,rfl⟩
  · intro h
    obtain ⟨r,hr,rfl⟩ := h
    exact ⟨_,⟨r,hr,rfl⟩,rfl⟩

end RoutingBench
