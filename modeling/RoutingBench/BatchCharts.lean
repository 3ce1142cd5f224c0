import RoutingBench.Downtime
import RoutingBench.Report
set_option autoImplicit false

/-!
The heatmap and the bars of the batch report, made from the successful rows of a table of
results. A NaN is `none`; of a figure only the data are kept.
-/

namespace RoutingBench
open Aggregate

def scenarioOrder : List String :=
  ["hard_stop","hard_kill","network_partition","postgres_crash","switchover","pause"]

def layerLabels : List (String × String) :=
  [("01-libpq-multihost","libpq (client-side)"),
    ("02-consul-dns","Consul DNS"),
    ("03-vip-manager-poll","VIP (poll)"),
    ("04-vip-patroni-callback","VIP (Patroni callback)"),
    ("05-bgp-anycast","BGP anycast"),
    ("06-haproxy-rest-polling","HAProxy REST poll"),
    ("06-haproxy-rest-polling-tuned","HAProxy REST poll (tuned)"),
    ("07-consul-template-reload","Consul Template reload"),
    ("08-consul-template-runtime-api","Consul Template runtime API"),
    ("09-patroni-callback-haproxy","Patroni callback → HAProxy"),
    ("10-consul-connect-envoy","Consul Connect / Envoy")]

def layerLabel (comboDir : String) : String := (layerLabels.lookup comboDir).getD comboDir

section Render

-- What pd.to_numeric reads in a text, if it is a number.
variable (parse : String → Option ℚ)

def toNumeric : Cell → Option ℚ
  | .number q => some q
  | .text s => if s = "—" then none else parse s
  | .missing => none

def successRows (rows : List ResultRow) : List ResultRow :=
  rows.filter fun row => row.status = "SUCCESS"

def presentScenarios (success : List ResultRow) : List String :=
  scenarioOrder.filter fun s => success.any fun row => row.scenario = some s

def groupKeys (keys : List String) : List String := keys.dedup.mergeSort fun a b => a ≤ b

/-- The median of a column of a group without its NaN. -/
def groupMedian (column : ResultRow → Cell) (group : List ResultRow) : Option ℚ :=
  median (group.filterMap fun row => toNumeric parse (column row))

/-- sort_values puts NaN last. -/
def nanLast (v : Option ℚ) : WithTop ℚ := v

def mean (values : List ℚ) : Option ℚ :=
  if values.isEmpty then none else some (values.sum / values.length)

structure HeatmapRow where
  comboDir : String
  y : String
  z : List (Option ℚ)

structure Heatmap where
  x : List String
  rows : List HeatmapRow

def heatmapRow (success : List ResultRow) (columns : List String) (combo : String) :
    HeatmapRow where
  comboDir := combo
  y := layerLabel combo
  z := columns.map fun s => groupMedian parse ResultRow.downtimeS
    (success.filter fun row => row.comboDir = combo && row.scenario = some s)

/-- The heatmap; without cells there is a text instead. -/
def renderBatchHeatmap (rows : List ResultRow) : Option Heatmap :=
  let success := successRows rows
  let columns := presentScenarios success
  let pivot := (groupKeys ((success.filter fun row => row.scenario.isSome).map
    ResultRow.comboDir)).map (heatmapRow parse success columns)
  if pivot.isEmpty || columns.isEmpty then none
  else some {
    x := columns
    rows := pivot.mergeSort fun a b =>
      nanLast (mean a.z.reduceOption) ≤ nanLast (mean b.z.reduceOption) }

/-- A pair of bars; the text at the second is a whole number. -/
structure ComboBars where
  comboDir : String
  x : String
  downtime : Option ℚ
  failedQueries : ℚ
  failedText : Int

structure ScenarioBars where
  scenario : String
  bars : List ComboBars

/-- Python's `int`, which cuts towards zero. -/
def truncate (q : ℚ) : Int := if 0 ≤ q then q.floor else q.ceil

def medDt (sub : List ResultRow) : List (String × Option ℚ) :=
  ((groupKeys (sub.map ResultRow.comboDir)).map fun combo =>
    (combo,groupMedian parse ResultRow.downtimeS (sub.filter fun row => row.comboDir = combo))
    ).mergeSort fun a b => nanLast a.2 ≤ nanLast b.2

def comboBars (sub : List ResultRow) (p : String × Option ℚ) : Option ComboBars :=
  (groupMedian parse ResultRow.failedQueries (sub.filter fun row => row.comboDir = p.1)).map
    fun fq => {
      comboDir := p.1
      x := layerLabel p.1
      downtime := p.2
      failedQueries := fq
      failedText := truncate fq }

def scenarioBars (success : List ResultRow) (scenario : String) : Option ScenarioBars :=
  let sub := success.filter fun row => row.scenario = some scenario
  ((medDt parse sub).mapM (comboBars parse sub)).map fun bars => ⟨scenario,bars⟩

/-- The bars of every scenario; the `int` of a NaN raises a ValueError. -/
def renderBatchScenarioBars (rows : List ResultRow) : Option (List ScenarioBars) :=
  (presentScenarios (successRows rows)).mapM (scenarioBars parse (successRows rows))

end Render

def Heatmap.cells (h : Heatmap) (combo : String) (scenario : Option String) : List (Option ℚ) :=
  (h.rows.filter fun row => row.comboDir = combo).flatMap fun row =>
    ((h.x.zip row.z).filter fun p => some p.1 = scenario).map Prod.snd

def barsOf (parts : List ScenarioBars) (combo : String) (scenario : Option String) :
    List (Option ℚ) :=
  (parts.filter fun part => some part.scenario = scenario).flatMap fun part =>
    (part.bars.filter fun bars => bars.comboDir = combo).map ComboBars.downtime

def successGroup (rows : List ResultRow) (combo : String) (scenario : Option String) :
    List ResultRow :=
  (successRows rows).filter fun row => row.comboDir = combo && row.scenario = scenario

/-- Every group with a numeric downtime has one cell and one bar, at its median. -/
def ShowsEverySuccess (parse : String → Option ℚ) (rows : List ResultRow) : Prop :=
  ∀ combo scenario, (∃ row ∈ successGroup rows combo scenario,
      (toNumeric parse row.downtimeS).isSome) →
    ∃ med, groupMedian parse ResultRow.downtimeS (successGroup rows combo scenario) = some med ∧
      (∃ h, renderBatchHeatmap parse rows = some h ∧ h.cells combo scenario = [some med]) ∧
      ∃ parts, renderBatchScenarioBars parse rows = some parts ∧
        barsOf parts combo scenario = [some med]

/-- The scenario of every successful row with a numeric downtime is in SCENARIO_ORDER, and if
there is one, every group of successful rows in SCENARIO_ORDER has a number of failed queries. -/
structure ScenariosListed (parse : String → Option ℚ) (rows : List ResultRow) : Prop where
  listed : ∀ row ∈ successRows rows, (toNumeric parse row.downtimeS).isSome →
    ∃ s ∈ scenarioOrder, row.scenario = some s
  counted : (∃ row ∈ successRows rows, (toNumeric parse row.downtimeS).isSome) →
    ∀ row ∈ successRows rows, ∀ s ∈ scenarioOrder, row.scenario = some s →
      ∃ other ∈ successGroup rows row.comboDir (some s),
        (toNumeric parse other.failedQueries).isSome

section Traverse

variable {α β : Type} {f : α → Option β} {l : List α} {bs : List β}

theorem mapM_eq_some_iff : l.mapM f = some bs ↔ l.map f = bs.map some := by
  induction l generalizing bs with
  | nil => cases bs <;> simp
  | cons a l ih =>
    cases bs with
    | nil => simp [Option.bind_eq_some_iff]
    | cons b bs => simp [Option.bind_eq_some_iff,ih]

theorem exists_mapM_iff : (∃ bs, l.mapM f = some bs) ↔ ∀ a ∈ l, (f a).isSome := by
  constructor
  · rintro ⟨bs,hbs⟩ a ha
    have hmem := List.mem_map_of_mem (f := f) ha
    rw [mapM_eq_some_iff.mp hbs] at hmem
    obtain ⟨b,-,hb⟩ := List.mem_map.mp hmem
    rw [← hb]
    rfl
  · intro h
    refine ⟨l.filterMap f,mapM_eq_some_iff.mpr ?_⟩
    induction l with
    | nil => rfl
    | cons a l ih =>
      obtain ⟨hhead,htail⟩ := List.forall_mem_cons.mp h
      obtain ⟨b,hb⟩ := Option.isSome_iff_exists.mp hhead
      simp [hb,ih htail]

theorem exists_of_mem_mapM (h : l.mapM f = some bs) {b : β} (hb : b ∈ bs) :
    ∃ a ∈ l, f a = some b := by
  have hmem := List.mem_map_of_mem (f := some) hb
  rw [← mapM_eq_some_iff.mp h] at hmem
  exact List.mem_map.mp hmem

theorem map_of_mapM {g : β → α} (hg : ∀ a b, f a = some b → g b = a) (h : l.mapM f = some bs) :
    bs.map g = l := by
  have hmap := mapM_eq_some_iff.mp h
  clear h
  induction l generalizing bs with
  | nil => simpa using hmap
  | cons a l ih =>
    cases bs with
    | nil => contradiction
    | cons b bs =>
      obtain ⟨hhead,htail⟩ := List.cons.inj hmap
      rw [List.map_cons,hg a b hhead,ih htail]

theorem flatMap_of_mapM {γ : Type} (h : l.mapM f = some bs) {g : β → List γ} {k : α → List γ}
    (hk : ∀ a ∈ l, ∀ b, f a = some b → g b = k a) : bs.flatMap g = l.flatMap k := by
  have hmap := mapM_eq_some_iff.mp h
  clear h
  induction l generalizing bs with
  | nil =>
    obtain rfl : bs = [] := by simpa using hmap
    rfl
  | cons a l ih =>
    cases bs with
    | nil => contradiction
    | cons b bs =>
      obtain ⟨hhead,htail⟩ := List.cons.inj hmap
      obtain ⟨ha,hl⟩ := List.forall_mem_cons.mp hk
      rw [List.flatMap_cons,List.flatMap_cons,ha b hhead,ih hl htail]

end Traverse

section Charts

variable {parse : String → Option ℚ} {rows : List ResultRow} {combo s : String}

theorem mem_groupKeys {keys : List String} : combo ∈ groupKeys keys ↔ combo ∈ keys := by
  simp [groupKeys]

theorem nodup_groupKeys (keys : List String) : (groupKeys keys).Nodup :=
  (List.mergeSort_perm _ _).nodup_iff.mpr (List.nodup_dedup keys)

theorem mem_presentScenarios {success : List ResultRow} :
    s ∈ presentScenarios success ↔ s ∈ scenarioOrder ∧ ∃ row ∈ success, row.scenario = some s := by
  simp [presentScenarios]

theorem nodup_presentScenarios (success : List ResultRow) : (presentScenarios success).Nodup :=
  List.Nodup.filter _ (by decide)

theorem mem_successGroup {scenario : Option String} {row : ResultRow} :
    row ∈ successGroup rows combo scenario ↔
      row ∈ successRows rows ∧ row.comboDir = combo ∧ row.scenario = scenario := by
  simp [successGroup]

theorem groupMedian_isSome {column : ResultRow → Cell} {group : List ResultRow} :
    (groupMedian parse column group).isSome ↔
      ∃ row ∈ group, (toNumeric parse (column row)).isSome := by
  rw [groupMedian]
  constructor
  · intro h
    by_contra hnone
    have hempty : group.filterMap (fun row => toNumeric parse (column row)) = [] := by
      refine List.filterMap_eq_nil_iff.mpr fun row hrow => ?_
      by_contra hne
      exact hnone ⟨row,hrow,Option.isSome_iff_ne_none.mpr hne⟩
    rw [hempty,median_nil] at h
    contradiction
  · rintro ⟨row,hrow,hsome⟩
    obtain ⟨q,hq⟩ := Option.isSome_iff_exists.mp hsome
    exact median_isSome (List.ne_nil_of_mem (List.mem_filterMap.mpr ⟨row,hrow,hq⟩))

theorem zip_map_filter {g : String → Option ℚ} {columns : List String} (hnodup : columns.Nodup)
    (hs : s ∈ columns) :
    ((columns.zip (columns.map g)).filter fun p => some p.1 = some s).map Prod.snd = [g s] := by
  have hfilter : columns.filter (fun c => some c = some s) = [s] := by
    simpa using filter_eq_singleton hnodup hs
  rw [← List.map_prod_left_eq_zip,List.filter_map,List.map_map]
  exact congrArg (List.map g) hfilter

theorem heatmap_cells {row : ResultRow} (hrow : row ∈ successGroup rows combo (some s))
    (hs : s ∈ scenarioOrder) :
    ∃ h, renderBatchHeatmap parse rows = some h ∧ h.cells combo (some s) =
      [groupMedian parse ResultRow.downtimeS (successGroup rows combo (some s))] := by
  obtain ⟨hsuccess,hcombo,hscenario⟩ := mem_successGroup.mp hrow
  have hcolumn : s ∈ presentScenarios (successRows rows) :=
    mem_presentScenarios.mpr ⟨hs,row,hsuccess,hscenario⟩
  have hkey : combo ∈ groupKeys (((successRows rows).filter fun row => row.scenario.isSome).map
      ResultRow.comboDir) :=
    mem_groupKeys.mpr (List.mem_map.mpr
      ⟨row,List.mem_filter.mpr ⟨hsuccess,by simp [hscenario]⟩,hcombo⟩)
  rw [renderBatchHeatmap]
  simp only [List.isEmpty_eq_false_iff_exists_mem.mpr ⟨s,hcolumn⟩,List.isEmpty_map,
    List.isEmpty_eq_false_iff_exists_mem.mpr ⟨combo,hkey⟩,Bool.or_false,Bool.false_eq_true,if_false]
  refine ⟨_,rfl,?_⟩
  have hpivot : ((groupKeys (((successRows rows).filter fun row => row.scenario.isSome).map
      ResultRow.comboDir)).map (heatmapRow parse (successRows rows)
        (presentScenarios (successRows rows)))).filter (fun row => row.comboDir = combo) =
          [heatmapRow parse (successRows rows) (presentScenarios (successRows rows)) combo] := by
    rw [List.filter_map]
    exact congrArg (List.map _) (filter_eq_singleton (nodup_groupKeys _) hkey)
  rw [Heatmap.cells,filter_mergeSort_singleton hpivot,List.flatMap_singleton]
  exact zip_map_filter (nodup_presentScenarios _) hcolumn

theorem cells_listed {h : Heatmap} {scenario : Option String} {v : Option ℚ}
    (hrender : renderBatchHeatmap parse rows = some h) (hv : v ∈ h.cells combo scenario) :
    ∃ s ∈ scenarioOrder, scenario = some s := by
  rw [renderBatchHeatmap,Option.ite_none_left_eq_some,Option.some.injEq] at hrender
  obtain ⟨-,rfl⟩ := hrender
  obtain ⟨row,-,hcell⟩ := List.mem_flatMap.mp hv
  obtain ⟨⟨s,v⟩,hp,-⟩ := List.mem_map.mp hcell
  obtain ⟨hzip,hs⟩ := List.mem_filter.mp hp
  exact ⟨s,(mem_presentScenarios.mp (List.of_mem_zip hzip).1).1,(of_decide_eq_true hs).symm⟩

theorem medDt_filter {sub : List ResultRow} {row : ResultRow} (hrow : row ∈ sub) :
    (medDt parse sub).filter (fun p => p.1 = row.comboDir) = [(row.comboDir,
      groupMedian parse ResultRow.downtimeS
        (sub.filter fun other => other.comboDir = row.comboDir))] := by
  have hkey : row.comboDir ∈ groupKeys (sub.map ResultRow.comboDir) :=
    mem_groupKeys.mpr (List.mem_map_of_mem hrow)
  refine filter_mergeSort_singleton ?_
  rw [List.filter_map]
  exact congrArg (List.map _) (filter_eq_singleton (nodup_groupKeys _) hkey)

theorem mem_medDt {sub : List ResultRow} {p : String × Option ℚ} :
    p ∈ medDt parse sub ↔ ∃ row ∈ sub, p = (row.comboDir,
      groupMedian parse ResultRow.downtimeS
        (sub.filter fun other => other.comboDir = row.comboDir)) := by
  simp only [medDt,List.mem_mergeSort,List.mem_map,mem_groupKeys]
  constructor
  · rintro ⟨_,⟨row,hrow,rfl⟩,rfl⟩
    exact ⟨row,hrow,rfl⟩
  · rintro ⟨row,hrow,rfl⟩
    exact ⟨_,⟨row,hrow,rfl⟩,rfl⟩

theorem filter_group (success : List ResultRow) (combo : String) (scenario : Option String) :
    (success.filter fun row => row.scenario = scenario).filter (fun row => row.comboDir = combo) =
      success.filter fun row => row.comboDir = combo && row.scenario = scenario :=
  List.filter_filter ..

theorem scenarioBars_isSome :
    (scenarioBars parse (successRows rows) s).isSome ↔
      ∀ row ∈ successRows rows, row.scenario = some s →
        ∃ other ∈ successGroup rows row.comboDir (some s),
          (toNumeric parse other.failedQueries).isSome := by
  rw [scenarioBars,Option.isSome_map,Option.isSome_iff_exists,exists_mapM_iff]
  simp only [mem_medDt,comboBars,Option.isSome_map,groupMedian_isSome]
  constructor
  · intro h row hrow hs
    have hsub : row ∈ (successRows rows).filter fun row => row.scenario = some s :=
      List.mem_filter.mpr ⟨hrow,decide_eq_true hs⟩
    have hcounted := h _ ⟨row,hsub,rfl⟩
    rw [filter_group] at hcounted
    exact hcounted
  · rintro h _ ⟨row,hsub,rfl⟩
    obtain ⟨hrow,hs⟩ := List.mem_filter.mp hsub
    rw [filter_group]
    exact h row hrow (of_decide_eq_true hs)

theorem scenarioBars_shows {part : ScenarioBars} {row : ResultRow}
    (hpart : scenarioBars parse (successRows rows) s = some part)
    (hrow : row ∈ successGroup rows combo (some s)) :
    part.scenario = s ∧ (part.bars.filter fun bars => bars.comboDir = combo).map
      ComboBars.downtime =
        [groupMedian parse ResultRow.downtimeS (successGroup rows combo (some s))] := by
  obtain ⟨hsuccess,rfl,hscenario⟩ := mem_successGroup.mp hrow
  obtain ⟨bars,hbars,rfl⟩ := Option.map_eq_some_iff.mp hpart
  have hmedians : bars.map (fun b => (b.comboDir,b.downtime)) =
      medDt parse ((successRows rows).filter fun row => row.scenario = some s) := by
    refine map_of_mapM (fun p b hb => ?_) hbars
    obtain ⟨fq,-,rfl⟩ := Option.map_eq_some_iff.mp hb
    rfl
  have hsub : row ∈ (successRows rows).filter fun row => row.scenario = some s :=
    List.mem_filter.mpr ⟨hsuccess,decide_eq_true hscenario⟩
  have hcombo : (medDt parse _).filter _ = _ := medDt_filter hsub
  rw [← hmedians,List.filter_map,filter_group] at hcombo
  have hdowntimes := congrArg (List.map Prod.snd) hcombo
  rw [List.map_map] at hdowntimes
  exact ⟨rfl,hdowntimes⟩

theorem bars_shown {parts : List ScenarioBars} {row : ResultRow}
    (hparts : renderBatchScenarioBars parse rows = some parts)
    (hrow : row ∈ successGroup rows combo (some s)) (hs : s ∈ scenarioOrder) :
    barsOf parts combo (some s) =
      [groupMedian parse ResultRow.downtimeS (successGroup rows combo (some s))] := by
  obtain ⟨hsuccess,-,hscenario⟩ := mem_successGroup.mp hrow
  have hscenarios : parts.map ScenarioBars.scenario = presentScenarios (successRows rows) := by
    refine map_of_mapM (fun s part hpart => ?_) hparts
    obtain ⟨bars,-,rfl⟩ := Option.map_eq_some_iff.mp hpart
    rfl
  have hpresent : s ∈ presentScenarios (successRows rows) :=
    mem_presentScenarios.mpr ⟨hs,row,hsuccess,hscenario⟩
  have hone : parts.filter ((fun x => decide (some x = some s)) ∘ ScenarioBars.scenario) =
      parts.filter ((fun x => decide (x = s)) ∘ ScenarioBars.scenario) := by
    simp only [Option.some.injEq]
  have hname := filter_eq_singleton (nodup_presentScenarios _) hpresent
  rw [← hscenarios,List.filter_map,← hone] at hname
  obtain ⟨part,hpart,rfl⟩ := List.map_eq_singleton_iff.mp hname
  have hmem : part ∈ parts := List.mem_of_mem_filter (hpart ▸ List.mem_singleton.mpr rfl)
  obtain ⟨s,-,hbars⟩ := exists_of_mem_mapM hparts hmem
  obtain ⟨bars,-,rfl⟩ := Option.map_eq_some_iff.mp hbars
  rw [barsOf]
  refine (congrArg (List.flatMap _) hpart).trans ?_
  rw [List.flatMap_singleton]
  exact (scenarioBars_shows hbars hrow).2

/-- Every group with a numeric downtime has its cell and its bar if and only if their scenarios
are all in SCENARIO_ORDER and every group of a scenario in it has a number of failed queries. -/
theorem shows_every_success_iff (parse : String → Option ℚ) (rows : List ResultRow) :
    ShowsEverySuccess parse rows ↔ ScenariosListed parse rows := by
  constructor
  · intro h
    have hgroup : ∀ row ∈ successRows rows, row ∈ successGroup rows row.comboDir row.scenario :=
      fun row hrow => mem_successGroup.mpr ⟨hrow,rfl,rfl⟩
    refine ⟨fun row hrow hnumeric => ?_,fun ⟨row,hrow,hnumeric⟩ => ?_⟩
    · obtain ⟨med,-,⟨heatmap,hrender,hcells⟩,-⟩ := h _ _ ⟨row,hgroup row hrow,hnumeric⟩
      have hcell : some med ∈ heatmap.cells row.comboDir row.scenario := by
        rw [hcells]
        exact List.mem_singleton.mpr rfl
      exact cells_listed hrender hcell
    · obtain ⟨-,-,-,parts,hparts,-⟩ := h _ _ ⟨row,hgroup row hrow,hnumeric⟩
      intro other hother s hs hscenario
      have hpresent : s ∈ presentScenarios (successRows rows) :=
        mem_presentScenarios.mpr ⟨hs,other,hother,hscenario⟩
      have hdrawn := exists_mapM_iff.mp ⟨parts,hparts⟩ s hpresent
      exact scenarioBars_isSome.mp hdrawn other hother hscenario
  · rintro h combo scenario ⟨row,hrow,hnumeric⟩
    obtain ⟨hsuccess,rfl,rfl⟩ := mem_successGroup.mp hrow
    obtain ⟨s,hs,hscenario⟩ := h.listed row hsuccess hnumeric
    rw [hscenario] at hrow ⊢
    obtain ⟨med,hmed⟩ := Option.isSome_iff_exists.mp
      (groupMedian_isSome.mpr ⟨row,hrow,hnumeric⟩)
    obtain ⟨heatmap,hrender,hcells⟩ : ∃ h, renderBatchHeatmap parse rows = some h ∧ _ :=
      heatmap_cells hrow hs
    obtain ⟨parts,hparts⟩ : ∃ parts, renderBatchScenarioBars parse rows = some parts := by
      refine exists_mapM_iff.mpr fun s hs => scenarioBars_isSome.mpr fun other hother hother' => ?_
      exact h.counted ⟨row,hsuccess,hnumeric⟩ other hother s (mem_presentScenarios.mp hs).1 hother'
    refine ⟨med,hmed,⟨heatmap,hrender,?_⟩,parts,hparts,?_⟩
    · rw [hcells,hmed]
    · rw [bars_shown hparts hrow hs,hmed]

/-- The batch of two combinations; for the second one the number of failed queries was not
measured. -/
def unmeasured : List ResultRow :=
  [row "06" (.number 3) (.number 30),row "07" (.text "—") (.text "—")]
where
  row (comboDir : String) (downtimeS failedQueries : Cell) : ResultRow :=
    { comboDir := comboDir
      scenario := some "hard_stop"
      testRunId := none
      downtimeS := downtimeS
      failedQueries := failedQueries
      status := "SUCCESS" }

/-- The run of an automatic client is not in the charts of the database report, and no bar is
drawn of a batch with a group that has no number of failed queries. -/
theorem automaticRun_not_shown :
    ¬ ShowsEverySuccess (fun _ => none) (dbReport (fourQueries true false true true) none) ∧
      ¬ ShowsEverySuccess (fun _ => none) unmeasured := by
  constructor
  · intro h
    have hrow : dbReportRow (fourQueries true false true true).testRuns[0]
        (failoverWindowOf (fourQueries true false true true).clientEvents "06_20260424_030640" "06") ∈
          successGroup (dbReport (fourQueries true false true true) none) "06" (some "unknown") := by
      refine mem_successGroup.mpr ⟨List.mem_filter.mpr ⟨mem_dbReport.mpr ?_,rfl⟩,rfl,rfl⟩
      exact ⟨_,List.mem_cons_self,rfl,_,mem_failoverWindow.mpr ⟨_,List.mem_cons_self,rfl⟩,rfl,rfl⟩
    obtain ⟨med,-,⟨heatmap,hrender,hcells⟩,-⟩ := h _ _ ⟨_,hrow,rfl⟩
    have hcell : some med ∈ heatmap.cells "06" (some "unknown") := by
      rw [hcells]
      exact List.mem_singleton.mpr rfl
    obtain ⟨s,hs,hunknown⟩ := cells_listed hrender hcell
    obtain rfl := Option.some.inj hunknown
    exact absurd hs (by decide)
  · intro h
    obtain ⟨-,-,-,parts,hparts,-⟩ := h "06" (some "hard_stop")
      ⟨_,mem_successGroup.mpr ⟨List.mem_cons_self,rfl,rfl⟩,rfl⟩
    have hdrawn := exists_mapM_iff.mp ⟨parts,hparts⟩ "hard_stop" (by decide)
    obtain ⟨other,hother,hcounted⟩ := scenarioBars_isSome.mp hdrawn
      (unmeasured.row "07" (.text "—") (.text "—")) (by decide) rfl
    have honly : ∀ other ∈ successGroup unmeasured "07" (some "hard_stop"),
      (toNumeric (fun _ => none) other.failedQueries).isSome = false := by decide
    exact absurd hcounted (by rw [honly other hother]; exact Bool.false_ne_true)

end Charts

end RoutingBench
