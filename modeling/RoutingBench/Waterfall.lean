import RoutingBench.Views
set_option autoImplicit false

/-!
The waterfall query of the chart generator. Offsets are numerics until the cast to
float, which is the parameter `float`; ORDER BY compares texts by the database's collation.
-/

namespace RoutingBench
open Aggregate

/-- SQL LIKE: a percent sign stands for any text, an underscore for any character. -/
def likeChars : List Char → List Char → Bool
  | [],text => text.isEmpty
  | '%' :: pattern,text => text.tails.any (likeChars pattern)
  | '_' :: _,[] => false
  | '_' :: pattern,_ :: text => likeChars pattern text
  | _ :: _,[] => false
  | c :: pattern,d :: text => c == d && likeChars pattern text

def like (text pattern : String) : Bool := likeChars pattern.toList text.toList

structure WaterfallBase where
  runId : String
  combinationId : String
  tFirstFail : Timestamp
  tClientRecover : Option Timestamp
  deriving DecidableEq, Repr

/-- The CTE base: a run with no failed query is dropped by HAVING. -/
def waterfallBase (db : Database) (combinationId : String) : List WaterfallBase :=
  (db.testRuns.filter fun tr => tr.combinationId = combinationId).filterMap fun tr =>
    let rows := db.clientEvents.filter fun ce => ce.testRunId = tr.id
    let subselect := maxWhere (fun r => r.testRunId = tr.id && !r.success) ClientEvent.ts
      db.clientEvents
    (minWhere (fun ce => !ce.success) ClientEvent.ts rows).map fun tFirstFail =>
      { runId := tr.id
        combinationId := tr.combinationId
        tFirstFail := tFirstFail
        tClientRecover := minWhere (fun ce => ce.success && exceeds ce.ts subselect)
          ClientEvent.ts rows }

structure WaterfallMilestones where
  runId : String
  tFirstFail : Timestamp
  tClientRecover : Option Timestamp
  tPgPromote : Option Timestamp
  tPatroniPrimary : Option Timestamp
  tConsulKey : Option Timestamp
  tHaproxyUp : Option Timestamp
  tPgReady : Option Timestamp
  deriving DecidableEq, Repr

/-- The CTE milestones: the join keeps only observer events after the first failure. -/
def waterfallMilestones (db : Database) (b : WaterfallBase) : WaterfallMilestones :=
  let rows := db.observerEvents.filter fun oe => oe.testRunId = b.runId && b.tFirstFail < oe.ts
  let first := fun p => minWhere p ObserverEvent.ts rows
  { runId := b.runId
    tFirstFail := b.tFirstFail
    tClientRecover := b.tClientRecover
    tPgPromote := first fun oe => oe.component == "postgres" &&
      ["pg_promote_requested","pg_promote_detected"].contains oe.eventType
    tPatroniPrimary := first fun oe => oe.component == "patroni" &&
      oe.eventType == "role_change" && oe.newValue == "primary" && b.tFirstFail < oe.ts
    tConsulKey := first fun oe => oe.component == "consul" &&
      oe.eventType == "leader_key_created" && b.tFirstFail < oe.ts
    tHaproxyUp := first fun oe => oe.component == "haproxy" &&
      oe.eventType == "backend_state_change" && oe.newValue == "UP" &&
      oe.detail.all (fun detail => like detail "%primary_backend%") && b.tFirstFail < oe.ts
    tPgReady := first fun oe => oe.component == "postgres" &&
      oe.eventType == "pg_ready_accept_connections" && b.tFirstFail < oe.ts }

structure WaterfallRow (φ : Type) where
  runId : String
  dtT0 : Option φ
  dtT1 : Option φ
  dtT2 : Option φ
  dtT3 : Option φ
  dtT4 : Option φ
  dtTc : Option φ
  deriving DecidableEq

variable {φ : Type} (float : ℚ → φ) (collate : String → String → Bool)

def waterfallRow (m : WaterfallMilestones) : WaterfallRow φ :=
  let offset := fun t => (between (some m.tFirstFail) t).map fun d => float (epoch d)
  { runId := m.runId
    dtT0 := offset m.tPgPromote
    dtT1 := offset m.tPatroniPrimary
    dtT2 := offset m.tConsulKey
    dtT3 := offset m.tHaproxyUp
    dtT4 := offset m.tPgReady
    dtTc := offset m.tClientRecover }

def waterfallSql (db : Database) (combinationId : String) : List (WaterfallRow φ) :=
  (((waterfallBase db combinationId).map (waterfallMilestones db)).mergeSort
    fun a b => collate a.runId b.runId).map (waterfallRow float)

variable {float} {collate} {db : Database} {combinationId : String}

theorem mem_waterfallSql {row : WaterfallRow φ} :
    row ∈ waterfallSql float collate db combinationId ↔
      ∃ b ∈ waterfallBase db combinationId,
        row = waterfallRow float (waterfallMilestones db b) := by
  simp only [waterfallSql,List.mem_map,List.mem_mergeSort]
  constructor
  · intro h
    obtain ⟨m,⟨b,hb,rfl⟩,rfl⟩ := h
    exact ⟨b,hb,rfl⟩
  · intro h
    obtain ⟨b,hb,rfl⟩ := h
    exact ⟨_,⟨b,hb,rfl⟩,rfl⟩

end RoutingBench
