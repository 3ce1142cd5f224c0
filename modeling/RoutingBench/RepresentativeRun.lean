import RoutingBench.OrderStatistics
import RoutingBench.ServerSplit
set_option autoImplicit false

/-!
The representative run of a combination. The table of results says which row is the closest to
the median, and the position of the row is that of a run in the database.
-/

namespace RoutingBench
open Aggregate Pairing

structure TimelineRow where
  offsetS : ℚ
  success : Bool
  latencyMs : ℚ
  error : String
  downtimeS : Option ℚ
  deriving DecidableEq

/-- The query `_LATENCY_TIMELINE_SQL`: two seconds before the first failure to two seconds after
the recovery, or a minute if there is none. -/
def latencyTimelineSql (db : Database) (testRunId : String) : List TimelineRow :=
  let rows := db.clientEvents.filter fun ce => ce.testRunId = testRunId
  let subselect := maxWhere (fun ce => !ce.success) ClientEvent.ts rows
  let firstRecovery := minWhere (fun ce => ce.success && exceeds ce.ts subselect)
    ClientEvent.ts rows
  match minWhere (fun ce => !ce.success) ClientEvent.ts rows with
  | none => []
  | some firstFailure =>
    ((rows.filter fun ce => firstFailure - 2000000 ≤ ce.ts &&
      ce.ts ≤ firstRecovery.getD (firstFailure + 60000000) + 2000000).mergeSort
        fun a b => a.ts ≤ b.ts).map fun ce =>
      { offsetS := epoch (ce.ts - firstFailure)
        success := ce.success
        latencyMs := ce.latencyUs / 1000
        error := ce.error
        downtimeS := (between (some firstFailure) firstRecovery).map epoch }

/-- The chart of a combination: the answers, the failures with the size of their mark, and the
line of the recovery. -/
structure LatencyChart where
  comboId : String
  label : String
  testRunId : String
  ok : List (ℚ × ℚ)
  failed : List (ℚ × ℚ × Nat)
  recovery : Option ℚ
  deriving DecidableEq

section Render

variable (parse : String → Option ℚ)

/-- The rows of hard_stop with a numeric downtime, by a new index. -/
def hardStopDowntimes (rows : List ResultRow) (comboId : String) : List (ResultRow × ℚ) :=
  (rows.filter fun row => row.comboDir = comboId && row.scenario = some "hard_stop").filterMap
    fun row => (toNumeric parse row.downtimeS).map fun downtime => (row,downtime)

def closestIdx (hs : List (ResultRow × ℚ)) : Option Nat :=
  (median (hs.map Prod.snd)).bind fun medianDt => idxmin (fun p => |p.2 - medianDt|) hs

def hardStopByStart (db : Database) (comboId : String) : List TestRun :=
  (hardStopRuns db comboId).mergeSort fun a b => a.startedAt ≤ b.startedAt

def latencyChart (rows : List ResultRow) (db : Database) (comboId : String) :
    Option LatencyChart :=
  (closestIdx (hardStopDowntimes parse rows comboId)).bind fun idx =>
    (hardStopByStart db comboId)[idx]?.bind fun tr =>
      match latencyTimelineSql db tr.id with
      | [] => none
      | first :: rest => some
        { comboId := comboId
          label := layerLabel comboId
          testRunId := tr.id
          ok := ((first :: rest).filter fun r => r.success).map fun r =>
            (r.offsetS,max r.latencyMs (1 / 100))
          failed := ((first :: rest).filter fun r => !r.success).map fun r =>
            (r.offsetS,max r.latencyMs (1 / 100),if 1000 < max r.latencyMs (1 / 100) then 12 else 5)
          recovery := first.downtimeS }

def renderClientLatencyTimeline (rows : List ResultRow) (db : Database) : List LatencyChart :=
  (groupKeys (rows.map ResultRow.comboDir)).filterMap (latencyChart parse rows db)

def IsClosest (hs : List (ResultRow × ℚ)) (p : ResultRow × ℚ) : Prop :=
  p ∈ hs ∧ ∃ medianDt, median (hs.map Prod.snd) = some medianDt ∧
    ∀ q ∈ hs, |p.2 - medianDt| ≤ |q.2 - medianDt|

/-- Every plotted run is the run of a hard_stop row closest to the median of its combination. -/
def RunsRepresentative (rows : List ResultRow) (db : Database) : Prop :=
  ∀ chart ∈ renderClientLatencyTimeline parse rows db, ∃ p,
    IsClosest (hardStopDowntimes parse rows chart.comboId) p ∧
      p.1.testRunId = some chart.testRunId

end Render

/-- So many numeric rows are above the first one that is closest to the median. -/
def RowsAboveClosest (hs : List (ResultRow × ℚ)) (n : Nat) : Prop :=
  ∃ above p below, hs = above ++ p :: below ∧ above.length = n ∧ IsClosest hs p ∧
    ∀ q ∈ above, ¬ IsClosest hs q

/-- So many runs of hard_stop started before the run. -/
def RunsBefore (db : Database) (comboId : String) (tr : TestRun) (n : Nat) : Prop :=
  ∃ earlier later, hardStopByStart db comboId = earlier ++ tr :: later ∧ earlier.length = n

def HasFailedQuery (db : Database) (trid : String) : Prop :=
  ∃ q ∈ db.clientEvents, q.testRunId = trid ∧ q.success = false

/-- As many runs started before the run of a closest row as there are rows above the first
closest one, or there is nothing to plot of the run in that place. -/
def InStep (hs : List (ResultRow × ℚ)) (db : Database) (comboId : String) : Prop :=
  ∀ n, RowsAboveClosest hs n →
    (∃ p tr, IsClosest hs p ∧ p.1.testRunId = some tr.id ∧ RunsBefore db comboId tr n) ∨
      ∀ tr, RunsBefore db comboId tr n → ¬ HasFailedQuery db tr.id

section Timeline

variable {db : Database} {comboId trid : String} {tr : TestRun} {n : Nat}

theorem le_recovery {rows : List ClientEvent} {f : ClientEvent} (hf : f ∈ rows)
    (hfail : f.success = false) : f.ts ≤ (minWhere (fun ce => ce.success && exceeds ce.ts
      (maxWhere (fun ce => !ce.success) ClientEvent.ts rows)) ClientEvent.ts rows).getD
        (f.ts + 60000000) := by
  obtain ⟨last,hlast⟩ := exists_maxWhere (p := fun ce : ClientEvent => !ce.success)
    (f := ClientEvent.ts) hf (by simp [hfail])
  have hle := (maxWhere_eq_some_iff.mp hlast).2 f hf (by simp [hfail])
  cases hrec : minWhere (fun ce => ce.success && exceeds ce.ts
      (maxWhere (fun ce => !ce.success) ClientEvent.ts rows)) ClientEvent.ts rows with
  | none =>
    exact Int.le_add_of_nonneg_right (by decide)
  | some recovery =>
    obtain ⟨⟨r,-,hr,rfl⟩,-⟩ := minWhere_eq_some_iff.mp hrec
    rw [hlast,Bool.and_eq_true,exceeds_some] at hr
    exact hle.trans hr.2.le

/-- The first failure is a row of its own timeline. -/
theorem latencyTimelineSql_ne_nil_iff :
    latencyTimelineSql db trid ≠ [] ↔ HasFailedQuery db trid := by
  constructor
  · intro h
    by_contra hnone
    refine h ?_
    have hfirst : minWhere (fun ce : ClientEvent => !ce.success) ClientEvent.ts
        (db.clientEvents.filter fun ce => ce.testRunId = trid) = none := by
      refine minWhere_eq_none_iff.mpr fun q hq => ?_
      obtain ⟨hq,hid⟩ := List.mem_filter.mp hq
      by_contra hfail
      exact hnone ⟨q,hq,by simpa using hid,by simpa using hfail⟩
    simp only [latencyTimelineSql,hfirst]
  · rintro ⟨q,hq,hid,hfail⟩
    obtain ⟨firstFailure,hfirst⟩ := exists_minWhere (p := fun ce : ClientEvent => !ce.success)
      (f := ClientEvent.ts) (List.mem_filter.mpr ⟨hq,decide_eq_true hid⟩ :
        q ∈ db.clientEvents.filter fun ce => ce.testRunId = trid) (by simp [hfail])
    obtain ⟨⟨f,hf,hffail,rfl⟩,-⟩ := minWhere_eq_some_iff.mp hfirst
    simp only [latencyTimelineSql,hfirst]
    refine List.ne_nil_of_mem (List.mem_map_of_mem (List.mem_mergeSort.mpr
      (List.mem_filter.mpr ⟨hf,?_⟩)))
    have hend := le_recovery hf (by simpa using hffail)
    rw [Bool.and_eq_true,decide_eq_true_eq,decide_eq_true_eq]
    exact ⟨Int.sub_le_self _ (by decide),hend.trans (Int.le_add_of_nonneg_right (by decide))⟩

theorem runsBefore_iff :
    RunsBefore db comboId tr n ↔ (hardStopByStart db comboId)[n]? = some tr := by
  constructor
  · rintro ⟨earlier,later,hruns,rfl⟩
    rw [hruns]
    simp
  · intro h
    obtain ⟨hn,rfl⟩ := List.getElem?_eq_some_iff.mp h
    refine ⟨(hardStopByStart db comboId).take n,(hardStopByStart db comboId).drop (n + 1),?_,?_⟩
    · rw [← List.drop_eq_getElem_cons hn,List.take_append_drop]
    · exact List.length_take_of_le hn.le

end Timeline

section Closest

variable {parse : String → Option ℚ} {rows : List ResultRow} {db : Database} {comboId : String}
  {hs : List (ResultRow × ℚ)} {n : Nat}

theorem closestIdx_eq_some_iff : closestIdx hs = some n ↔ RowsAboveClosest hs n := by
  simp only [closestIdx,Option.bind_eq_some_iff,idxmin_eq_some_iff]
  constructor
  · rintro ⟨medianDt,hm,above,p,below,rfl,hlength,hmin,hfirst⟩
    refine ⟨above,p,below,rfl,hlength,⟨by simp,medianDt,hm,hmin⟩,?_⟩
    rintro q hq ⟨-,m,hm',hclosest⟩
    obtain rfl := Option.some.inj (hm.symm.trans hm')
    exact not_le.mpr (hfirst q hq) (hclosest p (by simp))
  · rintro ⟨above,p,below,rfl,hlength,⟨hp,medianDt,hm,hmin⟩,hfirst⟩
    refine ⟨medianDt,hm,above,p,below,rfl,hlength,hmin,fun q hq => not_le.mp fun hle => ?_⟩
    exact hfirst q hq ⟨List.mem_append_left _ hq,medianDt,hm,fun r hr => hle.trans (hmin r hr)⟩

theorem latencyChart_comboId {chart : LatencyChart}
    (h : latencyChart parse rows db comboId = some chart) : chart.comboId = comboId := by
  obtain ⟨idx,-,h⟩ := Option.bind_eq_some_iff.mp h
  obtain ⟨tr,-,h⟩ := Option.bind_eq_some_iff.mp h
  split at h
  · contradiction
  · obtain rfl := Option.some.inj h
    rfl

theorem plotted_iff {trid : String} :
    (∃ chart, latencyChart parse rows db comboId = some chart ∧ chart.testRunId = trid) ↔
      ∃ n tr, RowsAboveClosest (hardStopDowntimes parse rows comboId) n ∧
        RunsBefore db comboId tr n ∧ HasFailedQuery db tr.id ∧ tr.id = trid := by
  simp only [← closestIdx_eq_some_iff,runsBefore_iff,← latencyTimelineSql_ne_nil_iff]
  constructor
  · rintro ⟨chart,hchart,rfl⟩
    obtain ⟨idx,hidx,hrest⟩ := Option.bind_eq_some_iff.mp hchart
    obtain ⟨tr,htr,hrest⟩ := Option.bind_eq_some_iff.mp hrest
    split at hrest
    · contradiction
    · rename_i first rest hrows
      obtain rfl := Option.some.inj hrest
      exact ⟨idx,tr,hidx,htr,by simp [hrows],rfl⟩
  · rintro ⟨n,tr,hn,htr,hrows,rfl⟩
    obtain ⟨first,rest,hcons⟩ := List.exists_cons_of_ne_nil hrows
    simp only [latencyChart,hn,htr,Option.bind_some,hcons]
    exact ⟨_,rfl,rfl⟩

theorem listed_of_rowsAbove (h : RowsAboveClosest (hardStopDowntimes parse rows comboId) n) :
    comboId ∈ rows.map ResultRow.comboDir := by
  obtain ⟨above,p,below,hsplit,-⟩ := h
  have hp : p ∈ hardStopDowntimes parse rows comboId := hsplit ▸ List.mem_append_cons_self
  obtain ⟨row,hrow,-⟩ := List.mem_filterMap.mp hp
  obtain ⟨hrow,hcombo⟩ := List.mem_filter.mp hrow
  rw [Bool.and_eq_true,decide_eq_true_eq] at hcombo
  exact hcombo.1 ▸ List.mem_map_of_mem hrow

end Closest

/-- Two runs of hard_stop; the client of the first one never recovers. -/
def unrecoveredFirst : Database where
  testRuns := [hardStopRun "06_20260425_090630" 1776999990000000,
    hardStopRun "06_20260425_091030" 1777000230000000]
  observerEvents := []
  clientEvents := [heartbeatRow "06" "06_20260425_090630" 1777000000000000 1 false,
    heartbeatRow "06" "06_20260425_091030" 1777000240000000 2 false,
    heartbeatRow "06" "06_20260425_091030" 1777000243000000 3 true]
  primaryKey := by simp [hardStopRun]

end RoutingBench
