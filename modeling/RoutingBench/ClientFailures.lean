import RoutingBench.Dictionary
import RoutingBench.ServerSplit
import Mathlib.Algebra.BigOperators.Ring.Finset
import Mathlib.Tactic.FieldSimp
set_option autoImplicit false

/-!
The client failure analysis of the batch report: for every combination its failed queries, by what
their errors tell. Is every failed query in one line of one table, and what do the lines add up to?
-/

namespace RoutingBench
open Dictionary

/-- `str.lower` where ASCII letters come out of it; two characters beyond ASCII have one. -/
def lowerChar (c : Char) : List Char :=
  if c = '\u212a' then ['k'] else if c = '\u0130' then ['i','\u0307'] else [c.toLower]

def lowerText (text : String) : List Char := text.toList.flatMap lowerChar

/-- `needle in e` -/
def occursIn (needle : String) (e : List Char) : Bool := needle.toList <:+: e

def categorizeError (errorText : String) : String :=
  if errorText = "" then "Unknown"
  else
    let e := lowerText errorText
    if occursIn "timeout" e && occursIn "connect" e then "Connect timeout"
    else if occursIn "timeout" e then "Timeout"
    else if occursIn "connection refused" e then "Connection refused"
    else if occursIn "resolve" e || occursIn "name or service not known" e then
      "DNS resolution failed"
    else if occursIn "shutting down" e then "Server shutting down"
    else if occursIn "closed the connection unexpectedly" e || occursIn "server closed" e then
      "Connection closed by server"
    else if occursIn "read-write" e || occursIn "target_session_attrs" e then
      "Read-only (not primary)"
    else if occursIn "authentication" e then "Authentication error"
    else "Other"

abbrev FailedRow := String × Nat

def failedRows (db : Database) (comboId : String) : List FailedRow :=
  db.clientEvents.flatMap fun ce =>
    (db.testRuns.filter fun tr => tr.id = ce.testRunId && (tr.combinationId = comboId &&
      !ce.success)).map fun _ => (ce.error,ce.latencyUs)

structure CatData where
  count : Nat := 0
  latencies : List ℚ := []

def CatData.add (data : CatData) (row : FailedRow) : CatData where
  count := data.count + 1
  latencies := data.latencies ++ [(row.2 : ℚ)]

structure FailureLine where
  cat : String
  count : Nat
  pct : Int
  avgUs : ℚ
  maxUs : Option ℚ
  impactS : Option ℚ
  highlight : Bool
  deriving DecidableEq

def failureLine (totalFailures : Nat) (cat : String) (data : CatData) : FailureLine :=
  let avgUs := mean data.latencies
  { cat := cat
    count := data.count
    pct := if totalFailures = 0 then 0 else pyRound (data.count / totalFailures * 100)
    avgUs := avgUs.getD 0
    maxUs := data.latencies.max?
    impactS := avgUs.map fun avg => data.count * avg / 1000000
    highlight := 1000000 < avgUs.getD 0 }

def failureLines (rows : List FailedRow) : List FailureLine :=
  let catData := collect {} (fun row => categorizeError row.1) CatData.add rows
  let totalFailures := (catData.map fun e => e.2.count).sum
  (catData.mergeSort fun x y => y.2.count ≤ x.2.count).map fun e =>
    failureLine totalFailures e.1 e.2

structure FailureSection where
  comboId : String
  label : String
  lines : List FailureLine

def renderClientFailureAnalysis (fetch : String → List FailedRow) (df : List ResultRow) :
    List FailureSection :=
  (groupKeys (df.map ResultRow.comboDir)).filterMap fun comboId =>
    if fetch comboId = [] then none
    else some ⟨comboId,layerLabel comboId,failureLines (fetch comboId)⟩

def failedOf (db : Database) (comboId : String) : List ClientEvent :=
  db.clientEvents.filter fun ce => !ce.success &&
    db.testRuns.any fun tr => tr.id = ce.testRunId && tr.combinationId = comboId

def ClientEvent.failedRow (ce : ClientEvent) : FailedRow := (ce.error,ce.latencyUs)

def ofCat (cat : String) (rows : List FailedRow) : List FailedRow :=
  rows.filter fun row => categorizeError row.1 = cat

def totalWait (rows : List FailedRow) : ℚ := (rows.map fun row => (row.2 : ℚ)).sum

/-- Lines that tell of these failed queries: each is in one of them, with the time that it took. -/
structure BreaksDown (rows : List FailedRow) (lines : List FailureLine) : Prop where
  descending : lines.Pairwise fun a b => b.count ≤ a.count
  once : (lines.map FailureLine.cat).Nodup
  covers : ∀ row ∈ rows, ∃ line ∈ lines, line.cat = categorizeError row.1
  counts : ∀ line ∈ lines, line.count = (ofCat line.cat rows).length ∧ 0 < line.count
  waits : ∀ line ∈ lines, line.impactS = some (totalWait (ofCat line.cat rows) / 1000000) ∧
    line.avgUs * line.count = totalWait (ofCat line.cat rows)
  longest : ∀ line ∈ lines, ∃ row ∈ ofCat line.cat rows, line.maxUs = some (row.2 : ℚ) ∧
    ∀ row' ∈ ofCat line.cat rows, row'.2 ≤ row.2
  total : (lines.map FailureLine.count).sum = rows.length
  shares : |((lines.map FailureLine.pct).sum : ℚ) - 100| ≤ lines.length / 2

section Lines

variable {rows rows' : List FailedRow} {lines : List FailureLine}

theorem foldl_add (data : CatData) (rows : List FailedRow) : rows.foldl CatData.add data =
    ⟨data.count + rows.length,data.latencies ++ rows.map fun row => (row.2 : ℚ)⟩ := by
  induction rows generalizing data with
  | nil => simp
  | cons row rows ih =>
    rw [List.foldl_cons,ih]
    simp [CatData.add,Nat.add_assoc,Nat.add_comm 1]

theorem mem_catData {cat : String} {data : CatData} :
    (cat,data) ∈ collect {} (fun row => categorizeError row.1) CatData.add rows ↔
      ofCat cat rows ≠ [] ∧
        data = ⟨(ofCat cat rows).length,(ofCat cat rows).map fun row => (row.2 : ℚ)⟩ := by
  rw [mem_collect,foldl_add]
  have hne : (∃ a ∈ rows, categorizeError a.1 = cat) ↔ ofCat cat rows ≠ [] := by
    simp [ofCat,List.filter_eq_nil_iff]
  rw [hne]
  simp [ofCat]

theorem total_catData (rows : List FailedRow) :
    ((collect {} (fun row => categorizeError row.1) CatData.add rows).map
      fun e => e.2.count).sum = rows.length := by
  rw [sum_collect CatData.count (fun _ => 1) rfl fun _ _ => rfl]
  simp

theorem mem_failureLines {line : FailureLine} :
    line ∈ failureLines rows ↔ ∃ cat, ofCat cat rows ≠ [] ∧ line = failureLine rows.length cat
      ⟨(ofCat cat rows).length,(ofCat cat rows).map fun row => (row.2 : ℚ)⟩ := by
  simp only [failureLines,total_catData,List.mem_map,List.mem_mergeSort]
  constructor
  · rintro ⟨⟨cat,data⟩,hmem,rfl⟩
    obtain ⟨hne,rfl⟩ := mem_catData.mp hmem
    exact ⟨cat,hne,rfl⟩
  · rintro ⟨cat,hne,rfl⟩
    exact ⟨_,mem_catData.mpr ⟨hne,rfl⟩,rfl⟩

theorem mean_waits {cat : String} (h : ofCat cat rows ≠ []) :
    mean ((ofCat cat rows).map fun row => (row.2 : ℚ)) =
      some (totalWait (ofCat cat rows) / (ofCat cat rows).length) := by
  rw [mean,if_neg (by simpa using h),List.length_map,totalWait]

theorem max?_waits {cat : String} (h : ofCat cat rows ≠ []) :
    ∃ row ∈ ofCat cat rows, ((ofCat cat rows).map fun row => (row.2 : ℚ)).max? = some (row.2 : ℚ) ∧
      ∀ row' ∈ ofCat cat rows, row'.2 ≤ row.2 := by
  have hne : (ofCat cat rows).map (fun row => (row.2 : ℚ)) ≠ [] := mt List.map_eq_nil_iff.mp h
  obtain ⟨m,hm⟩ := Option.ne_none_iff_exists'.mp (mt List.max?_eq_none_iff.mp hne)
  obtain ⟨hmem,hmax⟩ := List.max?_eq_some_iff.mp hm
  obtain ⟨row,hrow,rfl⟩ := List.mem_map.mp hmem
  refine ⟨row,hrow,hm,fun row' hrow' => ?_⟩
  have hle := hmax _ (List.mem_map.mpr ⟨row',hrow',rfl⟩)
  exact Nat.cast_le.mp hle

theorem abs_pyRound_sub_le (x : ℚ) : |(pyRound x : ℚ) - x| ≤ 1 / 2 := by
  have hlow := Rat.floor_le x
  have hhigh := Rat.lt_floor_add_one x
  push_cast at hhigh
  rw [abs_le]
  simp only [pyRound]
  split_ifs <;> push_cast <;> constructor <;> linarith

theorem abs_sum_pyRound_sub_le (xs : List ℚ) :
    |((xs.map pyRound).sum : ℚ) - xs.sum| ≤ xs.length / 2 := by
  induction xs with
  | nil => simp
  | cons x xs ih =>
    have hx := abs_pyRound_sub_le x
    rw [abs_le] at hx ih ⊢
    simp only [List.map_cons,List.sum_cons,List.length_cons,Int.cast_add,Nat.cast_add,Nat.cast_one]
    constructor <;> linarith [hx.1,hx.2,ih.1,ih.2]

def sortedCatData (rows : List FailedRow) : List (String × CatData) :=
  (collect {} (fun row => categorizeError row.1) CatData.add rows).mergeSort
    fun x y => y.2.count ≤ x.2.count

theorem failureLines_eq (rows : List FailedRow) : failureLines rows =
    (sortedCatData rows).map fun e => failureLine rows.length e.1 e.2 := by
  simp only [failureLines,total_catData,sortedCatData]

theorem perm_sortedCatData (rows : List FailedRow) :
    (sortedCatData rows).Perm (collect {} (fun row => categorizeError row.1) CatData.add rows) :=
  List.mergeSort_perm _ _

theorem sum_count_sorted (rows : List FailedRow) :
    ((sortedCatData rows).map fun e => e.2.count).sum = rows.length := by
  rw [((perm_sortedCatData rows).map _).sum_eq,total_catData]

theorem descending_failureLines (rows : List FailedRow) :
    (failureLines rows).Pairwise fun a b => b.count ≤ a.count := by
  rw [failureLines_eq,List.pairwise_map]
  refine (List.pairwise_mergeSort ?_ ?_ _).imp fun {x y} h => ?_
  · intro x y z hxy hyz
    exact decide_eq_true (Nat.le_trans (of_decide_eq_true hyz) (of_decide_eq_true hxy))
  · intro x y
    simpa using Nat.le_total y.2.count x.2.count
  · exact of_decide_eq_true h

theorem once_failureLines (rows : List FailedRow) :
    ((failureLines rows).map FailureLine.cat).Nodup := by
  have hcats : (failureLines rows).map FailureLine.cat = (sortedCatData rows).map Prod.fst := by
    rw [failureLines_eq,List.map_map]
    rfl
  rw [hcats]
  exact ((perm_sortedCatData rows).map Prod.fst).nodup_iff.mpr (nodup_collect rows)

theorem total_failureLines (rows : List FailedRow) :
    ((failureLines rows).map FailureLine.count).sum = rows.length := by
  rw [failureLines_eq,List.map_map]
  exact sum_count_sorted rows

/-- The shares are rounded one by one: each is wrong by a half at most. -/
theorem shares_failureLines (hne : rows ≠ []) :
    |(((failureLines rows).map FailureLine.pct).sum : ℚ) - 100| ≤
      (failureLines rows).length / 2 := by
  have hpos : (rows.length : ℚ) ≠ 0 := by simpa using hne
  let shares := (sortedCatData rows).map fun e => (e.2.count : ℚ) / rows.length * 100
  have hpcts : (failureLines rows).map FailureLine.pct = shares.map pyRound := by
    rw [failureLines_eq,List.map_map,List.map_map]
    refine List.map_congr_left fun e _ => ?_
    simp [failureLine,hne]
  have hsum : shares.sum = 100 := by
    have hcount := congrArg (Nat.cast (R := ℚ)) (sum_count_sorted rows)
    rw [Nat.cast_list_sum,List.map_map] at hcount
    have hscale : shares.sum = ((sortedCatData rows).map fun e => (e.2.count : ℚ)).sum *
        (100 / rows.length) := by
      rw [← List.sum_map_mul_right]
      exact congrArg List.sum (List.map_congr_left fun e _ => by ring)
    rw [hscale,show ((sortedCatData rows).map fun e => (e.2.count : ℚ)).sum = rows.length from
      hcount]
    field_simp
  have hlength : (failureLines rows).length = shares.length := by
    rw [failureLines_eq,List.length_map,List.length_map]
  rw [hpcts,hlength]
  have hround := abs_sum_pyRound_sub_le shares
  rwa [hsum] at hround

theorem breaksDown_failureLines (hne : rows ≠ []) : BreaksDown rows (failureLines rows) where
  descending := descending_failureLines rows
  once := once_failureLines rows
  total := total_failureLines rows
  shares := shares_failureLines hne
  covers row hrow := by
    have hcat : ofCat (categorizeError row.1) rows ≠ [] :=
      List.ne_nil_of_mem (List.mem_filter.mpr ⟨hrow,by simp⟩)
    exact ⟨_,mem_failureLines.mpr ⟨_,hcat,rfl⟩,rfl⟩
  counts line hline := by
    obtain ⟨cat,hcat,rfl⟩ := mem_failureLines.mp hline
    exact ⟨rfl,List.length_pos_iff.mpr hcat⟩
  waits line hline := by
    obtain ⟨cat,hcat,rfl⟩ := mem_failureLines.mp hline
    have hlength : ((ofCat cat rows).length : ℚ) ≠ 0 := by simpa using hcat
    have hmean := mean_waits hcat
    constructor
    · simp only [failureLine,hmean,Option.map_some]
      field_simp
    · simp only [failureLine,hmean,Option.getD_some]
      field_simp
  longest line hline := by
    obtain ⟨cat,hcat,rfl⟩ := mem_failureLines.mp hline
    exact max?_waits hcat

/-- What lines tell of failed queries does not depend on the order in which these are fetched. -/
theorem BreaksDown.perm (h : BreaksDown rows lines) (hperm : rows.Perm rows') :
    BreaksDown rows' lines := by
  have hcat : ∀ cat, (ofCat cat rows).Perm (ofCat cat rows') := fun cat => hperm.filter _
  have hwait : ∀ cat, totalWait (ofCat cat rows) = totalWait (ofCat cat rows') := fun cat =>
    ((hcat cat).map _).sum_eq
  constructor
  case descending => exact h.descending
  case once => exact h.once
  case covers => exact fun row hrow => h.covers row (hperm.mem_iff.mpr hrow)
  case counts =>
    intro line hline
    rw [← (hcat line.cat).length_eq]
    exact h.counts line hline
  case waits =>
    intro line hline
    rw [← hwait line.cat]
    exact h.waits line hline
  case longest =>
    intro line hline
    obtain ⟨row,hrow,hmax,hall⟩ := h.longest line hline
    exact ⟨row,(hcat line.cat).mem_iff.mp hrow,hmax,
      fun row' hrow' => hall row' ((hcat line.cat).mem_iff.mpr hrow')⟩
  case total => exact h.total.trans hperm.length_eq
  case shares => exact h.shares

end Lines

section Tables

variable {db : Database} {df : List ResultRow} {fetch : String → List FailedRow} {comboId : String}

theorem length_filter_runs {runs : List TestRun} (hnodup : (runs.map TestRun.id).Nodup)
    {testRunId : String} {q : TestRun → Bool} (hq : ∀ tr, q tr = true → tr.id = testRunId) :
    (runs.filter q).length = if runs.any q then 1 else 0 := by
  induction runs with
  | nil => rfl
  | cons tr runs ih =>
    rw [List.map_cons,List.nodup_cons] at hnodup
    by_cases htr : q tr = true
    · have hnone : runs.filter q = [] := by
        refine List.filter_eq_nil_iff.mpr fun tr' htr' h => hnodup.1 ?_
        exact List.mem_map.mpr ⟨tr',htr',(hq tr' h).trans (hq tr htr).symm⟩
      simp [htr,hnone]
    · simp [htr,ih hnodup.2]

theorem failedRows_eq (db : Database) (comboId : String) :
    failedRows db comboId = (failedOf db comboId).map ClientEvent.failedRow := by
  rw [failedRows,failedOf]
  induction db.clientEvents with
  | nil => rfl
  | cons ce events ih =>
    have hid : ∀ tr : TestRun, (tr.id = ce.testRunId && (tr.combinationId = comboId &&
        !ce.success)) = true → tr.id = ce.testRunId := fun tr htr => by
      simpa using (Bool.and_eq_true_iff.mp htr).1
    have hjoin := length_filter_runs db.primaryKey hid
    rw [List.flatMap_cons,ih,List.map_const',hjoin]
    cases hs : ce.success with
    | true => simp [hs]
    | false =>
      by_cases hrun : (db.testRuns.any fun tr =>
          tr.id = ce.testRunId && tr.combinationId = comboId) = true
      · simp [hs,hrun,ClientEvent.failedRow]
      · simp [hs,hrun]

section Kinds

variable {α κ : Type*} {keys : List κ} {p : κ → α → Bool}

theorem sum_kinds (hnodup : keys.Nodup) {a : α}
    (hone : ∀ c c', p c a = true → p c' a = true → c = c') :
    (keys.map fun c => if p c a = true then 1 else 0).sum =
      if keys.any (fun c => p c a) = true then 1 else 0 := by
  induction keys with
  | nil => rfl
  | cons c keys ih =>
    rw [List.nodup_cons] at hnodup
    by_cases hc : p c a = true
    · have hzero : (keys.map fun c' => if p c' a = true then 1 else 0).sum = 0 :=
        List.sum_eq_zero fun n hn => by
          obtain ⟨c',hc',rfl⟩ := List.mem_map.mp hn
          exact if_neg fun h => hnodup.1 (hone c c' hc h ▸ hc')
      simp [hc,hzero]
    · simpa [hc] using ih hnodup.2

theorem sum_countP (hnodup : keys.Nodup)
    (hone : ∀ a c c', p c a = true → p c' a = true → c = c') (l : List α) :
    (keys.map fun c => l.countP (p c)).sum = l.countP fun a => keys.any fun c => p c a := by
  induction l with
  | nil => simp
  | cons a l ih =>
    simp only [List.countP_cons,List.sum_map_add,ih]
    exact congrArg _ (sum_kinds hnodup (hone a))

end Kinds

def FailureSection.count (s : FailureSection) : Nat := (s.lines.map FailureLine.count).sum

theorem mem_render {s : FailureSection} : s ∈ renderClientFailureAnalysis fetch df ↔
    s.comboId ∈ df.map ResultRow.comboDir ∧ fetch s.comboId ≠ [] ∧
      s = ⟨s.comboId,layerLabel s.comboId,failureLines (fetch s.comboId)⟩ := by
  rw [renderClientFailureAnalysis,List.mem_filterMap]
  constructor
  · rintro ⟨comboId,hcombo,hs⟩
    by_cases hnil : fetch comboId = []
    · rw [if_pos hnil] at hs
      contradiction
    · rw [if_neg hnil] at hs
      obtain rfl := Option.some.inj hs
      exact ⟨mem_groupKeys.mp hcombo,hnil,rfl⟩
  · rintro ⟨hcombo,hne,hs⟩
    exact ⟨s.comboId,mem_groupKeys.mpr hcombo,by rw [if_neg hne,← hs]⟩

theorem comboIds_render : (renderClientFailureAnalysis fetch df).map FailureSection.comboId =
    (groupKeys (df.map ResultRow.comboDir)).filter fun comboId => fetch comboId ≠ [] := by
  rw [renderClientFailureAnalysis]
  induction groupKeys (df.map ResultRow.comboDir) with
  | nil => rfl
  | cons comboId keys ih =>
    by_cases hnil : fetch comboId = []
    · simp [hnil,ih]
    · simp [hnil,ih]

theorem count_render : ((renderClientFailureAnalysis fetch df).map FailureSection.count).sum =
    ((groupKeys (df.map ResultRow.comboDir)).map fun comboId => (fetch comboId).length).sum := by
  rw [renderClientFailureAnalysis]
  induction groupKeys (df.map ResultRow.comboDir) with
  | nil => rfl
  | cons comboId keys ih =>
    by_cases hnil : fetch comboId = []
    · simp [hnil,ih]
    · simp [hnil,ih,FailureSection.count,total_failureLines]

def failedOfReported (db : Database) (df : List ResultRow) : List ClientEvent :=
  db.clientEvents.filter fun ce => !ce.success &&
    db.testRuns.any fun tr => tr.id = ce.testRunId && df.any fun row => row.comboDir = tr.combinationId

theorem any_groupKeys (db : Database) (df : List ResultRow) (ce : ClientEvent) :
    ((groupKeys (df.map ResultRow.comboDir)).any fun comboId => !ce.success &&
        db.testRuns.any fun tr => tr.id = ce.testRunId && tr.combinationId = comboId) =
      (!ce.success && db.testRuns.any fun tr => tr.id = ce.testRunId &&
        df.any fun row => row.comboDir = tr.combinationId) := by
  rw [Bool.eq_iff_iff]
  simp only [List.any_eq_true,Bool.and_eq_true,decide_eq_true_eq,mem_groupKeys,List.mem_map]
  constructor
  · rintro ⟨_,⟨row,hrow,rfl⟩,hs,tr,htr,hid,hcombo⟩
    exact ⟨hs,tr,htr,hid,row,hrow,hcombo.symm⟩
  · rintro ⟨hs,tr,htr,hid,row,hrow,hcombo⟩
    exact ⟨_,⟨row,hrow,rfl⟩,hs,tr,htr,hid,hcombo.symm⟩

theorem length_failedOf (db : Database) (df : List ResultRow) :
    ((groupKeys (df.map ResultRow.comboDir)).map fun comboId => (failedOf db comboId).length).sum =
      (failedOfReported db df).length := by
  have hone : ∀ (ce : ClientEvent) (c c' : String),
      (!ce.success && db.testRuns.any fun tr => tr.id = ce.testRunId && tr.combinationId = c) =
          true →
        (!ce.success && db.testRuns.any fun tr => tr.id = ce.testRunId && tr.combinationId = c') =
          true → c = c' := by
    intro ce c c' h h'
    simp only [List.any_eq_true,Bool.and_eq_true,decide_eq_true_eq] at h h'
    obtain ⟨-,tr,htr,hid,rfl⟩ := h
    obtain ⟨-,tr',htr',hid',rfl⟩ := h'
    rw [List.inj_on_of_nodup_map db.primaryKey htr htr' (hid.trans hid'.symm)]
  have hsum := sum_countP (nodup_groupKeys (df.map ResultRow.comboDir)) hone db.clientEvents
  simp only [failedOf,failedOfReported,← List.countP_eq_length_filter,hsum,any_groupKeys]

/-- Whatever the order in which the database returns them, every failed query of a run of a reported
combination is in one line of the table of this combination, and there is no other line; the lines
add up to the failures, to the time that these took, and but for rounding to 100 %. -/
theorem failures_break_down
    (hfetch : ∀ comboId, (fetch comboId).Perm (failedRows db comboId)) :
    (∀ comboId, (∃ s ∈ renderClientFailureAnalysis fetch df, s.comboId = comboId) ↔
      comboId ∈ df.map ResultRow.comboDir ∧ failedOf db comboId ≠ []) ∧
    ((renderClientFailureAnalysis fetch df).map FailureSection.comboId).Nodup ∧
    (∀ s ∈ renderClientFailureAnalysis fetch df,
      BreaksDown ((failedOf db s.comboId).map ClientEvent.failedRow) s.lines) ∧
    ((renderClientFailureAnalysis fetch df).map FailureSection.count).sum =
      (failedOfReported db df).length := by
  have hperm : ∀ comboId,
      (fetch comboId).Perm ((failedOf db comboId).map ClientEvent.failedRow) := fun comboId => by
    rw [← failedRows_eq]
    exact hfetch comboId
  have hnil : ∀ comboId, fetch comboId ≠ [] ↔ failedOf db comboId ≠ [] := fun comboId => by
    rw [ne_eq,← List.length_eq_zero_iff,(hperm comboId).length_eq,List.length_map,
      List.length_eq_zero_iff]
  refine ⟨fun comboId => ?_,?_,fun s hs => ?_,?_⟩
  · constructor
    · rintro ⟨s,hs,rfl⟩
      obtain ⟨hcombo,hne,-⟩ := mem_render.mp hs
      exact ⟨hcombo,(hnil _).mp hne⟩
    · rintro ⟨hcombo,hne⟩
      exact ⟨⟨comboId,layerLabel comboId,failureLines (fetch comboId)⟩,
        mem_render.mpr ⟨hcombo,(hnil comboId).mpr hne,rfl⟩,rfl⟩
  · rw [comboIds_render]
    exact (nodup_groupKeys _).filter _
  · obtain ⟨-,hne,heq⟩ := mem_render.mp hs
    have hlines : s.lines = failureLines (fetch s.comboId) := congrArg FailureSection.lines heq
    rw [hlines]
    exact (breaksDown_failureLines hne).perm (hperm s.comboId)
  · rw [count_render,← length_failedOf]
    refine congrArg List.sum (List.map_congr_left fun comboId _ => ?_)
    rw [(hperm comboId).length_eq,List.length_map]

def queryOf (testRunId : String) (latencyUs : Nat) (error : String) : ClientEvent where
  ts := 1777000000000000
  combinationId := "06"
  testRunId := testRunId
  sequence := 1
  success := error = ""
  latencyUs := latencyUs
  error := error

/-- Failures of two runs, of two kinds in the first one, a success, and a failure of no run. -/
def fiveFailures : Database where
  testRuns := [⟨"06_1","06","consul","local",0,none,some "hard_stop"⟩,
    ⟨"07_1","07","consul","local",0,none,some "hard_stop"⟩]
  observerEvents := []
  clientEvents := [queryOf "06_1" 2500 "connection refused",queryOf "06_1" 900 "",
    queryOf "06_1" 500000 "timeout expired",queryOf "06_1" 1500 "Connection refused",
    queryOf "07_1" 700 "the database system is shutting down",queryOf "" 800 "connection refused"]
  primaryKey := by decide

def bothReported : List ResultRow :=
  unhealthyIteration ++ unhealthyIteration.map fun row => { row with comboDir := "07" }

theorem failures_break_down_fiveFailures :
    let fetch := fun comboId => (failedRows fiveFailures comboId).reverse
    let sections := renderClientFailureAnalysis fetch bothReported
    (["06","07"].map fun comboId => (failedOf fiveFailures comboId).length) = [3,1] ∧
    (failedOfReported fiveFailures bothReported).length = 4 ∧
    (∀ comboId, (∃ s ∈ sections, s.comboId = comboId) ↔
      comboId ∈ bothReported.map ResultRow.comboDir ∧ failedOf fiveFailures comboId ≠ []) ∧
    (sections.map FailureSection.comboId).Nodup ∧
    (∀ s ∈ sections,
      BreaksDown ((failedOf fiveFailures s.comboId).map ClientEvent.failedRow) s.lines) ∧
    (sections.map FailureSection.count).sum = (failedOfReported fiveFailures bothReported).length :=
  ⟨by decide,by decide,failures_break_down fun _ => List.reverse_perm _⟩

end Tables

end RoutingBench
