import RoutingBench.PhaseTiling
import Mathlib.Algebra.BigOperators.Ring.List
import Mathlib.Data.List.ReduceOption
set_option autoImplicit false

/-!
Two other views of the same phases: the comparison of all combinations, which stacks fixed pairs
of milestones, and the table of the phases of one run, which lists fixed names.
-/

namespace RoutingBench
open Aggregate Tiling

def comparisonDur : Option Timestamp → Option Timestamp → ℚ
  | some a,some b => seconds a b
  | _,_ => 0

def Milestones.count (m : Milestones) : ℕ :=
  [m.firstClientFailure,m.firstRecovery,m.consulLeaderDeleted,m.patroniPromoted,m.haproxyUp,
    m.pgPromoted].reduceOption.length

def comparisonRow (m : Milestones) : Option (List (String × ℚ)) :=
  if m.count < 2 then none
  else some [("DCS Detection",comparisonDur m.firstClientFailure m.consulLeaderDeleted),
    ("Patroni Promotion",comparisonDur m.consulLeaderDeleted m.patroniPromoted),
    ("Routing Detection",comparisonDur m.patroniPromoted m.haproxyUp),
    ("Client Recovery",comparisonDur m.haproxyUp m.firstRecovery)]

def comparisonColumns : List String :=
  ["DCS Detection","Patroni Promotion","Routing Detection","Client Recovery"]

/-- The bars of a phase, one for each combination. -/
structure PhaseTrace where
  name : String
  color : String
  bars : List (String × ℚ)
  deriving DecidableEq

def comparisonRows (runs : List (String × Milestones)) : List (String × List (String × ℚ)) :=
  runs.filterMap fun run => (comparisonRow run.2).map fun row => (run.1,row)

/-- The chart over the milestones of the latest failover of each combination. -/
def generateComparisonPhases (runs : List (String × Milestones)) : List PhaseTrace :=
  let rows := comparisonRows runs
  if rows.isEmpty then []
  else (phaseColors.filter fun phase => comparisonColumns.contains phase.1).map fun phase => {
    name := phase.1
    color := phase.2
    bars := rows.map fun row => (row.1,(row.2.lookup phase.1).getD 0) }

def stackedFor (cid : String) (traces : List PhaseTrace) : List ℚ :=
  traces.flatMap fun trace => (trace.bars.filter fun bar => bar.1 = cid).map Prod.snd

/-- Where the pairs from the failure on end, as far as no milestone is missing. -/
def coveredUntil (m : Milestones) (t0 : Timestamp) : Timestamp :=
  match m.consulLeaderDeleted,m.patroniPromoted with
  | none,_ => t0
  | some deleted,none => deleted
  | some _,some promoted => promoted

/-- Where the pairs up to the recovery start, as far as no milestone is missing. -/
def coveredFrom (m : Milestones) (r : Timestamp) : Timestamp :=
  match m.haproxyUp,m.patroniPromoted with
  | none,_ => r
  | some up,none => up
  | some _,some promoted => promoted

section Comparison

variable {m : Milestones} {t0 r : Timestamp} {runs : List (String × Milestones)} {cid : String}

theorem seconds_add_seconds (a b c : Timestamp) : seconds a b + seconds b c = seconds a c := by
  rw [seconds_eq_sub a b c,seconds_eq_sub a a b,seconds_eq_sub a a c]
  ring

/-- The pairs cover the time up to the first gap and the time after the last one. -/
theorem sum_pairs (m : Milestones) (t0 r : Timestamp) :
    comparisonDur (some t0) m.consulLeaderDeleted +
        (comparisonDur m.consulLeaderDeleted m.patroniPromoted +
          (comparisonDur m.patroniPromoted m.haproxyUp + comparisonDur m.haproxyUp (some r))) =
      seconds t0 (coveredUntil m t0) + seconds (coveredFrom m r) r := by
  cases hd : m.consulLeaderDeleted <;> cases hp : m.patroniPromoted <;> cases hh : m.haproxyUp <;>
    simp [comparisonDur,coveredUntil,coveredFrom,hd,hp,hh,seconds_self,seconds_add_seconds]

theorem comparisonRow_eq (ht0 : m.firstClientFailure = some t0) (hrec : m.firstRecovery = some r) :
    comparisonRow m = some [("DCS Detection",comparisonDur (some t0) m.consulLeaderDeleted),
      ("Patroni Promotion",comparisonDur m.consulLeaderDeleted m.patroniPromoted),
      ("Routing Detection",comparisonDur m.patroniPromoted m.haproxyUp),
      ("Client Recovery",comparisonDur m.haproxyUp (some r))] := by
  have hcount : ¬ m.count < 2 := by
    rw [Milestones.count,ht0,hrec,List.reduceOption_cons_of_some,List.reduceOption_cons_of_some]
    simp
  rw [comparisonRow,if_neg hcount,ht0,hrec]

theorem filter_key_eq_singleton {α β : Type} [DecidableEq α] {rows : List (α × β)} {k : α} {b : β}
    (hnodup : (rows.map Prod.fst).Nodup) (hmem : (k,b) ∈ rows) :
    rows.filter (fun row => row.1 = k) = [(k,b)] := by
  induction rows with
  | nil => contradiction
  | cons row rows ih =>
    obtain ⟨hnew,hrest⟩ := List.nodup_cons.mp hnodup
    rcases List.mem_cons.mp hmem with rfl | hmem
    · have hnil : rows.filter (fun row => row.1 = k) = [] := by
        refine List.filter_eq_nil_iff.mpr fun row hrow h => hnew ?_
        have hkey : row.1 ∈ rows.map Prod.fst := List.mem_map_of_mem hrow
        rw [of_decide_eq_true h] at hkey
        exact hkey
      rw [List.filter_cons_of_pos (by simp),hnil]
    · have hne : row.1 ≠ k := fun h => hnew (h ▸ List.mem_map_of_mem hmem)
      rw [List.filter_cons_of_neg (by simpa using hne),ih hrest hmem]

theorem comparisonRows_keys (runs : List (String × Milestones)) :
    ((comparisonRows runs).map Prod.fst).Sublist (runs.map Prod.fst) := by
  induction runs with
  | nil => exact List.Sublist.refl _
  | cons run runs ih =>
    cases hrow : comparisonRow run.2 with
    | none =>
      simp only [comparisonRows,List.filterMap_cons,hrow,Option.map_none]
      exact ih.cons _
    | some row =>
      simp only [comparisonRows,List.filterMap_cons,hrow,Option.map_some]
      exact ih.cons_cons _

theorem stackedFor_eq {row : List (String × ℚ)} (hnodup : (runs.map Prod.fst).Nodup)
    (hmem : (cid,m) ∈ runs) (hrow : comparisonRow m = some row) :
    stackedFor cid (generateComparisonPhases runs) =
      comparisonColumns.map fun phase => (row.lookup phase).getD 0 := by
  have hrows : (cid,row) ∈ comparisonRows runs :=
    List.mem_filterMap.mpr ⟨(cid,m),hmem,by rw [hrow]; rfl⟩
  have hkeys := hnodup.sublist (comparisonRows_keys runs)
  have hcolumns : phaseColors.filter (fun phase => comparisonColumns.contains phase.1) =
    [("DCS Detection","#e67e22"),("Patroni Promotion","#f39c12"),("Routing Detection","#3498db"),
      ("Client Recovery","#2ecc71")] := by decide
  have hne : ¬ (comparisonRows runs).isEmpty = true := by
    simpa using List.ne_nil_of_mem hrows
  simp only [generateComparisonPhases,if_neg hne,hcolumns,stackedFor,List.map_cons,List.map_nil,
    List.flatMap_cons,List.flatMap_nil,List.filter_map,Function.comp_def,
    filter_key_eq_singleton hkeys hrows]
  rfl

/-- The comparison and the phase chart of an outage have one total if and only if the pairs from
the failure on end where the pairs up to the recovery start. -/
theorem totals_agree_iff (hnodup : (runs.map Prod.fst).Nodup) (hmem : (cid,m) ∈ runs)
    (ht0 : m.firstClientFailure = some t0) (hrec : m.firstRecovery = some r) :
    (∃ chart, buildPhaseChart m = some chart ∧
      (stackedFor cid (generateComparisonPhases runs)).sum = chart.total) ↔
        coveredUntil m t0 = coveredFrom m r := by
  have hne : (availableMilestones m t0).tail ≠ [] := by simp [availableMilestones,link,hrec]
  have hstacked : (stackedFor cid (generateComparisonPhases runs)).sum =
      seconds t0 (coveredUntil m t0) + seconds (coveredFrom m r) r := by
    rw [stackedFor_eq hnodup hmem (comparisonRow_eq ht0 hrec),← sum_pairs]
    simp [comparisonColumns,List.lookup_cons]
  have hgap : seconds t0 r = seconds t0 (coveredUntil m t0) + seconds (coveredFrom m r) r +
      seconds (coveredUntil m t0) (coveredFrom m r) := by
    rw [← seconds_add_seconds t0 (coveredUntil m t0) r,
      ← seconds_add_seconds (coveredUntil m t0) (coveredFrom m r) r]
    ring
  simp only [buildPhaseChart_eq ht0 hne,Option.some.injEq,exists_eq_left',phases_sum hrec,hstacked]
  constructor
  · intro heq
    rw [hgap,left_eq_add,← seconds_self (coveredUntil m t0)] at heq
    exact (seconds_inj heq).symm
  · intro heq
    rw [hgap,heq,seconds_self,add_zero]

end Comparison

/-- A failover without HAProxy: the client finds the new primary by itself. -/
def multihostMilestones : Milestones where
  firstClientFailure := some 10000000
  firstRecovery := some 20000000
  consulLeaderDeleted := some 12000000
  patroniPromoted := some 15000000
  haproxyUp := none
  pgPromoted := none

theorem totals_agree_multihost :
    (∃ chart, buildPhaseChart multihostMilestones = some chart ∧
      (stackedFor "01" (generateComparisonPhases [("01",multihostMilestones)])).sum = chart.total) ↔
        coveredUntil multihostMilestones 10000000 = coveredFrom multihostMilestones 20000000 :=
  totals_agree_iff (by decide) (by decide) rfl rfl

/-- The comparison stacks five of the ten seconds. -/
theorem multihost_totals_differ :
    ¬ ∃ chart, buildPhaseChart multihostMilestones = some chart ∧
      (stackedFor "01" (generateComparisonPhases [("01",multihostMilestones)])).sum = chart.total := by
  have hchart := buildPhaseChart_eq (m := multihostMilestones) rfl (by decide)
  rintro ⟨chart,hbuilt,hsum⟩
  obtain rfl := Option.some.inj (hchart.symm.trans hbuilt)
  revert hsum
  decide +kernel

structure PhaseTableRow where
  name : String
  duration : ℚ
  share : ℚ
  deriving DecidableEq

/-- The table of the phases, with its Total row; the shares are not rounded. -/
structure PhaseTable where
  rows : List PhaseTableRow
  total : ℚ
  deriving DecidableEq

def listedPhases : List String :=
  ["DCS Detection","Patroni Promotion","Routing Detection","Client Recovery"]

def phaseTableRow (total : ℚ) (name : String) (dur : ℚ) : PhaseTableRow where
  name := name
  duration := dur
  share := if 0 < total then dur / total * 100 else 0

/-- `_render_phase_breakdown`; without phases there is no table. -/
def renderPhaseBreakdown (phases : List (String × ℚ)) : Option PhaseTable :=
  if phases.isEmpty then none
  else
    let total := (phases.map Prod.snd).sum
    some {
      rows := listedPhases.filterMap fun name => (phases.lookup name).map fun dur =>
        phaseTableRow total name dur
      total := total }

/-- The phases that build_phase_chart returns; without a chart there are none. -/
def chartPhases (m : Milestones) : List (String × ℚ) :=
  ((buildPhaseChart m).map PhaseChart.phases).getD []

/-- The rows of a table sum to its Total row, and their shares to 100. -/
def AddsUp (table : Option PhaseTable) : Prop :=
  ∀ t ∈ table, (t.rows.map PhaseTableRow.duration).sum = t.total ∧
    (0 < t.total → (t.rows.map PhaseTableRow.share).sum = 100)

section Table

variable {phases : List (String × ℚ)}

theorem sum_lookups {β : Type} (phases : List (String × ℚ)) (row : String → ℚ → β) (value : β → ℚ)
    (f : ℚ → ℚ) (hvalue : ∀ name d, value (row name d) = f d) (hf : f 0 = 0)
    (names : List String) :
    ((names.filterMap fun name => (phases.lookup name).map fun d => row name d).map value).sum =
      (names.map fun name => f ((phases.lookup name).getD 0)).sum := by
  induction names with
  | nil => rfl
  | cons name names ih =>
    cases h : phases.lookup name with
    | none => simp [h,hf,ih]
    | some d => simp [h,hvalue,ih]

/-- What the table does not list is a promotion of PostgreSQL. -/
theorem sum_listedPhases (hsub : (phases.map Prod.fst).Sublist phaseOrder) :
    (listedPhases.map fun name => (phases.lookup name).getD 0).sum +
      (phases.lookup "PG Promotion").getD 0 = (phases.map Prod.snd).sum := by
  have hall := sum_lookups phases Prod.mk Prod.snd id (fun _ _ => rfl) rfl phaseOrder
  rw [filterMap_lookup (by decide) hsub] at hall
  simp only [id_eq,phaseOrder,listedPhases,List.map_cons,List.map_nil,List.sum_cons,
    List.sum_nil] at hall ⊢
  rw [hall]
  ring

/-- The table adds up if and only if the phase it does not list is of no duration. -/
theorem addsUp_iff (hsub : (phases.map Prod.fst).Sublist phaseOrder) :
    AddsUp (renderPhaseBreakdown phases) ↔ (phases.lookup "PG Promotion").getD 0 = 0 := by
  by_cases hne : phases = []
  · simp [hne,renderPhaseBreakdown,AddsUp]
  · have hlisted := sum_listedPhases hsub
    have hdurations := sum_lookups phases (phaseTableRow (phases.map Prod.snd).sum)
      PhaseTableRow.duration id (fun _ _ => rfl) rfl listedPhases
    have hshares := sum_lookups phases (phaseTableRow (phases.map Prod.snd).sum)
      PhaseTableRow.share (fun d => (phaseTableRow (phases.map Prod.snd).sum "" d).share)
      (fun _ _ => rfl) (by simp [phaseTableRow]) listedPhases
    simp only [AddsUp,renderPhaseBreakdown,List.isEmpty_iff,if_neg hne,Option.mem_some_iff,
      forall_eq']
    rw [hdurations,hshares]
    constructor
    · rintro ⟨hsum,-⟩
      simp only [id_eq] at hsum
      rwa [hsum,add_eq_left] at hlisted
    · intro hzero
      rw [hzero,add_zero] at hlisted
      refine ⟨hlisted,fun hpos => ?_⟩
      simp only [phaseTableRow,if_pos hpos,div_eq_mul_inv,List.sum_map_mul_right,hlisted]
      rw [mul_inv_cancel₀ hpos.ne',one_mul]

theorem lookup_pgPromotion (m : Milestones) (t0 : Timestamp) :
    ((phasesOf seconds (availableMilestones m t0)).lookup "PG Promotion").getD 0 =
      (m.pgPromoted.map (seconds (m.consulLeaderDeleted.getD t0))).getD 0 := by
  cases hpg : m.pgPromoted with
  | some p =>
    cases hd : m.consulLeaderDeleted <;>
      simp [availableMilestones,phasesOf,link,hpg,hd,List.lookup_cons]
  | none =>
    have hnone : (phasesOf seconds (availableMilestones m t0)).lookup "PG Promotion" = none := by
      rw [List.lookup_eq_none_iff]
      intro p hp
      have hname := List.mem_map_of_mem (f := Prod.fst) hp
      rw [phases_names] at hname
      obtain ⟨e,he,hsame⟩ := List.mem_map.mp hname
      rw [← hsame]
      rcases mem_availableMilestones.mp he with h | ⟨-,h⟩ | h | h | h
      · simp [h.1]
      · simp [hpg] at h
      · simp [h.1]
      · simp [h.1]
      · simp [h.1]
    rw [hnone]
    rfl

end Table

/-- Nothing is left out: the last promotion of PostgreSQL is at the time of the last deletion of
the leader key, or at that of the failure, if the key is not deleted. -/
def PromotionInstant (obs : List ObserverFrameRow) (cli : List ClientFrameRow) : Prop :=
  ∀ t0 p, BoundsPhase obs cli 0 t0 → LastOf ObserverFrameRow.promotesPg obs p →
    LastOf ObserverFrameRow.deletesLeaderKey obs p ∨
      (p = t0 ∧ ∀ r ∈ obs, ¬ r.deletesLeaderKey)

section Sums

variable {obs : List ObserverFrameRow} {cli : List ClientFrameRow} {m : Milestones}
  {t0 : Timestamp}

theorem chartPhases_eq (ht0 : m.firstClientFailure = some t0) :
    chartPhases m = phasesOf seconds (availableMilestones m t0) := by
  by_cases hne : (availableMilestones m t0).tail = []
  · simp [chartPhases,buildPhaseChart,ht0,phases_eq_nil_iff.mpr hne]
  · rw [chartPhases,buildPhaseChart_eq ht0 hne]
    rfl

theorem promotionInstant_iff (hfail : (extractMilestones obs cli).firstClientFailure = some t0) :
    (((extractMilestones obs cli).pgPromoted.map (seconds
      ((extractMilestones obs cli).consulLeaderDeleted.getD t0))).getD 0 = 0) ↔
        PromotionInstant obs cli := by
  have hbound : ∀ t, BoundsPhase obs cli 0 t ↔ t0 = t := fun t => by
    rw [boundsPhase_iff hfail,phasePoint,hfail,Option.some.injEq]
  have hpromoted : ∀ p, LastOf ObserverFrameRow.promotesPg obs p ↔
      (extractMilestones obs cli).pgPromoted = some p := fun _ => pgPromoted_iff.symm
  have hdeleted : ∀ p, LastOf ObserverFrameRow.deletesLeaderKey obs p ↔
      (extractMilestones obs cli).consulLeaderDeleted = some p :=
    fun _ => consulLeaderDeleted_iff.symm
  have hkept : (∀ r ∈ obs, ¬ r.deletesLeaderKey) ↔
      (extractMilestones obs cli).consulLeaderDeleted = none := consulLeaderDeleted_none_iff.symm
  simp only [PromotionInstant,hbound,hpromoted,hdeleted,hkept]
  have hzero : ∀ a b, seconds a b = 0 ↔ b = a := fun a b =>
    ⟨fun h => seconds_inj (h.trans (seconds_self a).symm),fun h => h ▸ seconds_self a⟩
  cases (extractMilestones obs cli).pgPromoted with
  | none => simp
  | some p =>
    cases (extractMilestones obs cli).consulLeaderDeleted with
    | none => simp [hzero]
    | some d => simp [hzero,eq_comm]

end Sums

/-- The table of the phases adds up if and only if there is no promotion of PostgreSQL, or it
takes no time. -/
theorem phase_table_adds_up_iff (obs : List ObserverFrameRow) (cli : List ClientFrameRow) :
    AddsUp (renderPhaseBreakdown (chartPhases (extractMilestones obs cli))) ↔
      PromotionInstant obs cli := by
  cases hfail : (extractMilestones obs cli).firstClientFailure with
  | none =>
    refine iff_of_true ?_ fun t0 p ht0 _ => ?_
    · simp [chartPhases,buildPhaseChart,hfail,renderPhaseBreakdown,AddsUp]
    · cases ht0 with
      | @failure q hq hqfail hfirst =>
        rw [firstClientFailure_iff.mpr ⟨q,hq,hqfail,hfirst,rfl⟩] at hfail
        contradiction
  | some t0 =>
    rw [chartPhases_eq hfail,addsUp_iff (phases_sublist _ t0),lookup_pgPromotion,
      promotionInstant_iff hfail]

/-- The leader key expires two seconds after the failure, and PostgreSQL is promoted one later. -/
def detectedPromotion : List ObserverFrameRow :=
  [{ ts := 12000000
     component := "consul"
     node := "consul"
     eventType := "leader_key_deleted"
     oldValue := some "patroni-node1"
     newValue := ""
     detail := some "Leader key removed from Consul KV" },
   { ts := 13000000
     component := "postgres"
     node := "patroni-node2"
     eventType := "pg_promote_detected"
     oldValue := some "in_recovery"
     newValue := "primary"
     detail := none }]

/-- The rows sum to nine of the ten seconds of the Total row. -/
theorem detectedPromotion_not_listed :
    ¬ AddsUp (renderPhaseBreakdown
      (chartPhases (extractMilestones detectedPromotion outageQueries))) := by
  have hphases : chartPhases (extractMilestones detectedPromotion outageQueries) =
      [("DCS Detection",2),("PG Promotion",1),("Client Recovery",7)] := by
    decide +kernel
  rw [hphases,addsUp_iff (by decide)]
  decide

end RoutingBench
