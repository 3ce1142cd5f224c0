import RoutingBench.Views
import Mathlib.Data.Prod.Lex
import Mathlib.Data.String.Basic
import Mathlib.Order.WithBot
set_option autoImplicit false

/-!
The table of results, one row an iteration, which the batch report reads from its CSV and the
database report queries. An empty cell of the CSV and a NULL are `none` or `missing`.
-/

namespace RoutingBench
open Aggregate

/-- A cell of a column that should be numeric. -/
inductive Cell where
  | number (q : ℚ)
  | text (s : String)
  | missing
  deriving DecidableEq

structure ResultRow where
  comboDir : String
  scenario : Option String
  /-- The column test_run_id of the database report; for a row of the CSV, which has no such
  column, the run that its iteration registered. No table or chart reads it. -/
  testRunId : Option String
  downtimeS : Cell
  failedQueries : Cell
  status : String
  deriving DecidableEq

/-- ORDER BY combination_id, failover_type, started_at, with NULL last and texts by code point. -/
def reportKey (tr : TestRun) : String ×ₗ WithTop String ×ₗ Timestamp :=
  toLex (tr.combinationId,toLex ((tr.failoverType : WithTop String),tr.startedAt))

def windowsOf (db : Database) (trid : String) : List FailoverWindow :=
  (failoverWindow db.clientEvents).filter fun w => w.testRunId = trid

def dbReportRow (tr : TestRun) (w : FailoverWindow) : ResultRow where
  comboDir := tr.combinationId
  scenario := tr.failoverType
  testRunId := some tr.id
  downtimeS := (w.downtimeMs.map fun ms => Cell.number (ms / 1000)).getD .missing
  failedQueries := .number w.totalFailures
  status := "SUCCESS"

/-- `--combination-id`; an empty one is none. -/
def comboWanted (comboFilter : Option String) (comboId : String) : Bool :=
  (comboFilter.filter (· ≠ "")).all (comboId = ·)

def reported (comboFilter : Option String) (tr : TestRun) : Bool :=
  comboWanted comboFilter tr.combinationId

/-- The table of cmd_db_report; it exits if there is no row. -/
def dbReport (db : Database) (comboFilter : Option String) : List ResultRow :=
  ((db.testRuns.filter (reported comboFilter)).mergeSort fun a b => reportKey a ≤ reportKey b).flatMap
    fun tr => (windowsOf db tr.id).map (dbReportRow tr)

section Rows

variable {db : Database} {comboFilter : Option String}

theorem mem_dbReport {row : ResultRow} :
    row ∈ dbReport db comboFilter ↔ ∃ tr ∈ db.testRuns, reported comboFilter tr = true ∧
      ∃ w ∈ failoverWindow db.clientEvents, w.testRunId = tr.id ∧ row = dbReportRow tr w := by
  simp only [dbReport,windowsOf,List.mem_flatMap,List.mem_mergeSort,List.mem_filter,List.mem_map,
    decide_eq_true_eq]
  constructor
  · rintro ⟨tr,⟨htr,hreported⟩,w,⟨hw,hid⟩,rfl⟩
    exact ⟨tr,htr,hreported,w,hw,hid,rfl⟩
  · rintro ⟨tr,htr,hreported,w,hw,hid,rfl⟩
    exact ⟨tr,⟨htr,hreported⟩,w,⟨hw,hid⟩,rfl⟩

theorem nodup_selected_ids (db : Database) (p : TestRun → Bool) (le : TestRun → TestRun → Bool) :
    (((db.testRuns.filter p).mergeSort le).map TestRun.id).Nodup :=
  ((List.mergeSort_perm _ le).map TestRun.id).nodup_iff.mpr
    (db.primaryKey.sublist (List.filter_sublist.map _))

theorem windowsOf_eq_nil_iff {trid : String} :
    windowsOf db trid = [] ↔ ∀ q ∈ db.clientEvents, q.testRunId ≠ trid := by
  simp only [windowsOf,List.filter_eq_nil_iff,decide_eq_true_eq,mem_failoverWindow]
  constructor
  · intro h q hq
    exact h _ ⟨q,hq,rfl⟩
  · rintro h w ⟨q,hq,rfl⟩
    exact h q hq

theorem nodup_failoverWindow (clientEvents : List ClientEvent) :
    (failoverWindow clientEvents).Nodup := by
  refine (List.nodup_dedup _).map fun a b hab => ?_
  have hid : a.1 = b.1 := congrArg FailoverWindow.testRunId hab
  have hcombination : a.2 = b.2 := congrArg FailoverWindow.combinationId hab
  exact Prod.ext hid hcombination

theorem length_le_one_iff {α : Type*} {rows : List α} (hnodup : rows.Nodup) :
    rows.length ≤ 1 ↔ ∀ a ∈ rows, ∀ b ∈ rows, a = b := by
  match rows with
  | [] => simp
  | [a] => simp
  | a :: b :: rows =>
    have hne : a ≠ b := fun h => (List.nodup_cons.mp hnodup).1 (h ▸ List.mem_cons_self)
    refine iff_of_false (fun h => ?_) fun h => hne (h a (by simp) b (by simp))
    simp only [List.length_cons] at h
    omega

/-- A run has a row for each combination its queries are tagged with. -/
theorem windowsOf_length_le_one_iff {trid : String} :
    (windowsOf db trid).length ≤ 1 ↔ ∀ q ∈ db.clientEvents, ∀ q' ∈ db.clientEvents,
      q.testRunId = trid → q'.testRunId = trid → q.combinationId = q'.combinationId := by
  rw [windowsOf,length_le_one_iff ((nodup_failoverWindow _).filter _)]
  simp only [List.mem_filter,decide_eq_true_eq,mem_failoverWindow]
  constructor
  · intro h q hq q' hq' hid hid'
    have hsame := h _ ⟨⟨q,hq,rfl⟩,hid⟩ _ ⟨⟨q',hq',rfl⟩,hid'⟩
    exact congrArg FailoverWindow.combinationId hsame
  · rintro h w ⟨⟨q,hq,rfl⟩,hid⟩ w' ⟨⟨q',hq',rfl⟩,hid'⟩
    rw [h q hq q' hq' hid hid',show q.testRunId = q'.testRunId from hid.trans hid'.symm]

end Rows

end RoutingBench
