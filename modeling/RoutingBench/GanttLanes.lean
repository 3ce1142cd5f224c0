import RoutingBench.BatchCharts
import RoutingBench.Milestones
import RoutingBench.PhaseCharts
set_option autoImplicit false

/-!
The lanes of the Gantt chart. A lane is named after a node, and the events of the lane are
those of the nodes whose names match a pattern taken from the name of the lane.
-/

namespace RoutingBench
open Aggregate

/-- str.replace with the empty text. The number counts the characters of an occurrence that are
still to be left out. -/
def removeText (pattern : List Char) : Nat → List Char → List Char
  | _,[] => []
  | skip + 1,_ :: text => removeText pattern skip text
  | 0,c :: text =>
    if pattern.isPrefixOf (c :: text) then removeText pattern (pattern.length - 1) text
    else c :: removeText pattern 0 text

def splitText (sep : List Char) : Nat → List Char → List (List Char)
  | _,[] => [[]]
  | skip + 1,_ :: text => splitText sep skip text
  | 0,c :: text =>
    if sep.isPrefixOf (c :: text) then [] :: splitText sep (sep.length - 1) text
    else (splitText sep 0 text).modifyHead (c :: ·)

def laneOf (node : String) : String :=
  "Patroni / " ++ String.ofList (removeText "patroni-".toList 0 node.toList)

/-- `lane.split("/ ")[1]`. -/
def nodeSfx (lane : String) : String :=
  String.ofList ((splitText "/ ".toList 0 lane.toList)[1]?.getD [])

def hasComponent (component : String) (obs : List ObserverFrameRow) : Bool :=
  obs.any fun r => r.component = component

def patroniNodes (obs : List ObserverFrameRow) : List String :=
  groupKeys ((obs.filter fun r => r.component = "patroni").map ObserverFrameRow.node)

def observerLanes (obs : List ObserverFrameRow) : List String :=
  (if hasComponent "haproxy" obs then ["HAProxy"] else []) ++
    (if hasComponent "consul" obs then ["Consul"] else []) ++ (patroniNodes obs).map laneOf

/-- A bar from its base; the state it stands for is that of an event, or the one before the
first event. -/
structure GanttBar where
  lane : String
  base : ℚ
  width : ℚ
  event : Option ObserverFrameRow
  deriving DecidableEq

structure GanttMarker where
  lane : String
  x : ℚ
  event : ObserverFrameRow
  deriving DecidableEq

structure GanttLane where
  label : String
  bars : List GanttBar
  markers : List GanttMarker
  deriving DecidableEq

/-- Of the figure the bars and the marks, and the lines of the first failure and the recovery. -/
structure GanttChart where
  laneOrder : List String
  clientBars : List GanttBar
  lanes : List GanttLane
  firstFailure : Option ℚ
  firstRecovery : Option ℚ
  deriving DecidableEq

/-- `total_seconds() or 0.1`. -/
def barWidth (start stop : Timestamp) : ℚ :=
  if seconds start stop = 0 then 1 / 10 else seconds start stop

/-- Runs of queries with the same outcome, from the one that began at `start`. -/
def clientRuns (success : Bool) (start : Timestamp) :
    Timestamp → List ClientFrameRow → List (Timestamp × Timestamp)
  | last,[] => [(start,last)]
  | _,row :: rows =>
    if row.success = success then clientRuns success start row.ts rows
    else (start,row.ts) :: clientRuns row.success row.ts row.ts rows

def clientBars (wStart : Timestamp) (cli : List ClientFrameRow) : List GanttBar :=
  match cli.mergeSort fun a b => a.ts ≤ b.ts with
  | [] => []
  | first :: rest => (clientRuns first.success first.ts first.ts rest).map fun run =>
    { lane := "Client", base := seconds wStart run.1, width := barWidth run.1 run.2, event := none }

/-- The state before the first event, and one bar for each event up to the next one. -/
def stateBars (lane : String) (wStart wEnd : Timestamp) : List ObserverFrameRow → List GanttBar
  | [] => []
  | first :: rest =>
    (if 5 / 100 < seconds wStart first.ts then
      [{ lane := lane, base := 0, width := seconds wStart first.ts, event := none }] else []) ++
    (first :: rest).zipWith (fun row stop =>
      { lane := lane, base := seconds wStart row.ts, width := barWidth row.ts stop
        event := some row }) (rest.map ObserverFrameRow.ts ++ [wEnd])

def sortByTs (obs : List ObserverFrameRow) : List ObserverFrameRow :=
  obs.mergeSort fun a b => a.ts ≤ b.ts

def isTimelineChange (r : ObserverFrameRow) : Bool := r.eventType = "timeline_change"

section Build

-- The search for the pattern of str.contains; an invalid regular expression raises an error.
variable (compile : String → Option (String → Bool))

def patroniLane (obs : List ObserverFrameRow) (wStart wEnd : Timestamp) (lane : String) :
    Option GanttLane :=
  (compile (nodeSfx lane)).map fun search =>
    let ev := sortByTs (obs.filter fun r =>
      !isTimelineChange r && (r.component = "patroni" && search r.node))
    if ev.isEmpty && nodeSfx lane ≠ "" then
      { label := lane
        bars := [{ lane := lane, base := 0, width := barWidth wStart wEnd, event := none }]
        markers := (obs.filter fun r =>
          r.component = "patroni" && search r.node && isTimelineChange r).map fun r =>
            { lane := lane, x := seconds wStart r.ts, event := r } }
    else { label := lane, bars := stateBars lane wStart wEnd ev, markers := [] }

def componentLane (obs : List ObserverFrameRow) (wStart wEnd : Timestamp)
    (lane component : String) : GanttLane where
  label := lane
  bars := stateBars lane wStart wEnd (sortByTs (obs.filter fun r =>
    !isTimelineChange r && r.component = component))
  markers := []

def observerLane (obs : List ObserverFrameRow) (wStart wEnd : Timestamp) (lane : String) :
    Option GanttLane :=
  if lane = "HAProxy" then some (componentLane obs wStart wEnd lane "haproxy")
  else if lane = "Consul" then some (componentLane obs wStart wEnd lane "consul")
  else patroniLane compile obs wStart wEnd lane

def buildGanttChart (obs : List ObserverFrameRow) (cli : List ClientFrameRow) : Option GanttChart :=
  let allTs := obs.map ObserverFrameRow.ts ++ cli.map ClientFrameRow.ts
  let wStart := allTs.min?.getD 0
  let wEnd := allTs.max?.getD 0
  let ms := extractMilestones (obs.filter fun r => !isTimelineChange r) cli
  ((observerLanes obs).mapM (observerLane compile obs wStart wEnd)).map fun lanes =>
    { laneOrder := "Client" :: observerLanes obs
      clientBars := clientBars wStart cli
      lanes := lanes
      firstFailure := ms.firstClientFailure.map (seconds wStart)
      firstRecovery := ms.firstRecovery.map (seconds wStart) }

end Build

def GanttChart.bars (chart : GanttChart) : List GanttBar :=
  chart.clientBars ++ chart.lanes.flatMap GanttLane.bars

def isPatroniLane (lane : String) : Bool := "Patroni /".toList.isPrefixOf lane.toList

/-- The lanes on which an event is drawn, once for each bar. -/
def GanttChart.lanesOf (chart : GanttChart) (e : ObserverFrameRow) : List String :=
  (chart.bars.filter fun b => b.event = some e).map GanttBar.lane

def IsStateEvent (obs : List ObserverFrameRow) (e : ObserverFrameRow) : Prop :=
  e ∈ obs ∧ e.component = "patroni" ∧ isTimelineChange e = false

/-- Every node has a lane of its own, and every event of a node has its bars there and nowhere
else, one for each time it is in the log. -/
structure OwnLanes (obs : List ObserverFrameRow) (chart : GanttChart) : Prop where
  lanes : (chart.lanes.map GanttLane.label).filter isPatroniLane = (patroniNodes obs).map laneOf
  distinct : (chart.lanes.map GanttLane.label).Nodup
  events : ∀ e, IsStateEvent obs e → chart.lanesOf e = List.replicate (obs.count e) (laneOf e.node)

/-- The names of the lanes are different, and the pattern of a node finds the node itself and no
other one, as far as they have events. -/
structure LanesApart (compile : String → Option (String → Bool)) (obs : List ObserverFrameRow) :
    Prop where
  labels : ((patroniNodes obs).map laneOf).Nodup
  patterns : ∀ node ∈ patroniNodes obs, ∃ search, compile (nodeSfx (laneOf node)) = some search ∧
    ∀ e, IsStateEvent obs e → (search e.node = true ↔ e.node = node)

section Bars

variable {lane : String} {wStart wEnd : Timestamp} {ev : List ObserverFrameRow}
  {e : ObserverFrameRow}

theorem laneOf_toList (node : String) : (laneOf node).toList =
    "Patroni / ".toList ++ removeText "patroni-".toList 0 node.toList := by
  simp [laneOf]

theorem isPatroniLane_laneOf (node : String) : isPatroniLane (laneOf node) = true := by
  rw [isPatroniLane,laneOf_toList]
  rfl

theorem laneOf_ne {label : String} (h : isPatroniLane label = false) (node : String) :
    laneOf node ≠ label := by
  intro hsame
  rw [← hsame,isPatroniLane_laneOf] at h
  contradiction

theorem lanes_of_bars {bars : List GanttBar} (h : ∀ b ∈ bars, b.lane = lane) :
    (bars.filter fun b => b.event = some e).map GanttBar.lane =
      List.replicate ((bars.filterMap GanttBar.event).count e) lane := by
  induction bars with
  | nil => rfl
  | cons b bars ih =>
    obtain ⟨hb,hrest⟩ := List.forall_mem_cons.mp h
    cases hevent : b.event with
    | none => simp [hevent,ih hrest]
    | some e' =>
      by_cases hsame : e' = e
      · simp [hevent,hsame,ih hrest,hb,List.replicate_succ]
      · simp [hevent,hsame,ih hrest]

theorem zipWith_events {f : ObserverFrameRow → Timestamp → GanttBar}
    (hf : ∀ row stop, (f row stop).event = some row) {rows : List ObserverFrameRow}
    {stops : List Timestamp} (hlength : rows.length = stops.length) :
    (rows.zipWith f stops).filterMap GanttBar.event = rows := by
  induction rows generalizing stops with
  | nil => rfl
  | cons row rows ih =>
    cases stops with
    | nil => contradiction
    | cons stop stops => simp [hf,ih (Nat.succ.inj hlength)]

theorem stateBars_events : (stateBars lane wStart wEnd ev).filterMap GanttBar.event = ev := by
  cases ev with
  | nil => rfl
  | cons first rest =>
    rw [stateBars,List.filterMap_append,zipWith_events (fun _ _ => rfl) (by simp)]
    split <;> rfl

theorem stateBars_lane : ∀ b ∈ stateBars lane wStart wEnd ev, b.lane = lane := by
  cases ev with
  | nil => simp [stateBars]
  | cons first rest =>
    intro b hb
    rcases List.mem_append.mp hb with hb | hb
    · split at hb
      · rw [List.mem_singleton.mp hb]
      · contradiction
    · obtain ⟨i,hi,rfl⟩ := List.getElem_of_mem hb
      rw [List.getElem_zipWith]

theorem count_sortByTs (obs : List ObserverFrameRow) : (sortByTs obs).count e = obs.count e :=
  (List.mergeSort_perm obs _).count_eq e

theorem count_filter_of {p : ObserverFrameRow → Bool} {obs : List ObserverFrameRow} :
    (obs.filter p).count e = if p e then obs.count e else 0 := by
  cases hp : p e with
  | false => simp [List.count_eq_zero,hp]
  | true => simp [List.count_filter hp]

end Bars

section Lanes

variable {compile : String → Option (String → Bool)} {obs : List ObserverFrameRow}
  {wStart wEnd : Timestamp} {lane : String} {drawn : GanttLane} {e : ObserverFrameRow}

theorem observerLane_label (h : observerLane compile obs wStart wEnd lane = some drawn) :
    drawn.label = lane := by
  unfold observerLane at h
  split at h
  · obtain rfl := Option.some.inj h
    rfl
  · split at h
    · obtain rfl := Option.some.inj h
      rfl
    · obtain ⟨search,-,rfl⟩ := Option.map_eq_some_iff.mp h
      dsimp only
      split <;> rfl

theorem observerLane_laneOf (node : String) : observerLane compile obs wStart wEnd (laneOf node) =
    patroniLane compile obs wStart wEnd (laneOf node) := by
  rw [observerLane,if_neg (laneOf_ne (by decide) node),if_neg (laneOf_ne (by decide) node)]

theorem patroniLane_bars {search : String → Bool} (hsearch : compile (nodeSfx lane) = some search)
    (h : patroniLane compile obs wStart wEnd lane = some drawn) :
    (∀ b ∈ drawn.bars, b.lane = lane) ∧ drawn.bars.filterMap GanttBar.event =
      sortByTs (obs.filter fun r =>
        !isTimelineChange r && (r.component = "patroni" && search r.node)) := by
  rw [patroniLane,hsearch,Option.map_some,Option.some.injEq] at h
  subst h
  dsimp only
  split
  · rename_i hempty
    rw [Bool.and_eq_true,List.isEmpty_iff] at hempty
    exact ⟨by simp,hempty.1.symm⟩
  · exact ⟨stateBars_lane,stateBars_events⟩

theorem patroniLane_lanes {search : String → Bool} (hsearch : compile (nodeSfx lane) = some search)
    (h : patroniLane compile obs wStart wEnd lane = some drawn) (he : IsStateEvent obs e) :
    (drawn.bars.filter fun b => b.event = some e).map GanttBar.lane =
      if search e.node then List.replicate (obs.count e) lane else [] := by
  obtain ⟨hlane,hevents⟩ := patroniLane_bars hsearch h
  obtain ⟨-,hcomponent,htimeline⟩ := he
  rw [lanes_of_bars hlane,hevents,count_sortByTs,count_filter_of]
  cases hfound : search e.node with
  | false => simp
  | true => simp [hcomponent,htimeline]

theorem componentLane_lanes {component : String} (hother : component ≠ "patroni")
    (he : IsStateEvent obs e) : ((componentLane obs wStart wEnd lane component).bars.filter
      fun b => b.event = some e).map GanttBar.lane = [] := by
  obtain ⟨-,hcomponent,-⟩ := he
  rw [componentLane,lanes_of_bars stateBars_lane,stateBars_events,count_sortByTs,count_filter_of]
  simp [hcomponent,hother.symm]

theorem clientBars_event (cli : List ClientFrameRow) :
    (clientBars wStart cli).filter (fun b => b.event = some e) = [] := by
  unfold clientBars
  split
  · rfl
  · rw [List.filter_eq_nil_iff]
    intro b hb
    obtain ⟨run,-,rfl⟩ := List.mem_map.mp hb
    simp

end Lanes

section Chart

variable {compile : String → Option (String → Bool)} {obs : List ObserverFrameRow}
  {cli : List ClientFrameRow} {chart : GanttChart} {e : ObserverFrameRow}

def searchOf (compile : String → Option (String → Bool)) (lane : String) : String → Bool :=
  (compile (nodeSfx lane)).getD fun _ => false

theorem mem_observerLanes {lane : String} (h : lane ∈ observerLanes obs) :
    lane = "HAProxy" ∨ lane = "Consul" ∨ ∃ node ∈ patroniNodes obs, lane = laneOf node := by
  have hoptional : ∀ {present : Bool} {label : String},
      lane ∈ (if present then [label] else []) → lane = label := by
    intro present label hlane
    cases present with
    | false => contradiction
    | true => exact List.mem_singleton.mp hlane
  simp only [observerLanes,List.mem_append,List.mem_map] at h
  rcases h with (h | h) | ⟨node,hnode,rfl⟩
  · exact .inl (hoptional h)
  · exact .inr (.inl (hoptional h))
  · exact .inr (.inr ⟨node,hnode,rfl⟩)

theorem laneOf_mem_observerLanes {node : String} (h : node ∈ patroniNodes obs) :
    laneOf node ∈ observerLanes obs :=
  List.mem_append_right _ (List.mem_map_of_mem h)

theorem exists_chart_iff : (∃ chart, buildGanttChart compile obs cli = some chart) ↔
    ∀ node ∈ patroniNodes obs, (compile (nodeSfx (laneOf node))).isSome := by
  constructor
  · rintro ⟨chart,h⟩ node hnode
    obtain ⟨lanes,hlanes,-⟩ := Option.map_eq_some_iff.mp h
    have hsome := exists_mapM_iff.mp ⟨lanes,hlanes⟩ _ (laneOf_mem_observerLanes hnode)
    rwa [observerLane_laneOf,patroniLane,Option.isSome_map] at hsome
  · intro h
    have hlanes : ∀ wStart wEnd : Timestamp, ∃ lanes,
        (observerLanes obs).mapM (observerLane compile obs wStart wEnd) = some lanes := by
      intro wStart wEnd
      refine exists_mapM_iff.mpr fun lane hlane => ?_
      rcases mem_observerLanes hlane with rfl | rfl | ⟨node,hnode,rfl⟩
      · rfl
      · rfl
      · rw [observerLane_laneOf,patroniLane,Option.isSome_map]
        exact h node hnode
    obtain ⟨lanes,hlanes⟩ := hlanes _ _
    exact ⟨_,Option.map_eq_some_iff.mpr ⟨lanes,hlanes,rfl⟩⟩

theorem chart_labels (h : buildGanttChart compile obs cli = some chart) :
    chart.lanes.map GanttLane.label = observerLanes obs := by
  obtain ⟨lanes,hlanes,rfl⟩ := Option.map_eq_some_iff.mp h
  exact map_of_mapM (fun _ _ => observerLane_label) hlanes

/-- The lanes that a lane of the chart has of an event. -/
def drawnOn (compile : String → Option (String → Bool)) (obs : List ObserverFrameRow)
    (e : ObserverFrameRow) (lane : String) : List String :=
  if isPatroniLane lane && searchOf compile lane e.node then List.replicate (obs.count e) lane
  else []

theorem observerLane_lanes {wStart wEnd : Timestamp} {lane : String} {drawn : GanttLane}
    (he : IsStateEvent obs e) (hlane : lane ∈ observerLanes obs)
    (h : observerLane compile obs wStart wEnd lane = some drawn) :
    (drawn.bars.filter fun b => b.event = some e).map GanttBar.lane =
      drawnOn compile obs e lane := by
  rcases mem_observerLanes hlane with rfl | rfl | ⟨node,-,rfl⟩
  · obtain rfl := Option.some.inj h
    exact componentLane_lanes (by decide) he
  · obtain rfl := Option.some.inj h
    exact componentLane_lanes (by decide) he
  · rw [observerLane_laneOf] at h
    obtain ⟨search,hsearch,-⟩ := Option.map_eq_some_iff.mp h
    rw [patroniLane_lanes hsearch h he,drawnOn,isPatroniLane_laneOf,searchOf,hsearch]
    rfl

theorem chart_lanesOf (h : buildGanttChart compile obs cli = some chart) (he : IsStateEvent obs e) :
    chart.lanesOf e = ((patroniNodes obs).filter fun node =>
      searchOf compile (laneOf node) e.node).flatMap fun node =>
        List.replicate (obs.count e) (laneOf node) := by
  obtain ⟨lanes,hlanes,rfl⟩ := Option.map_eq_some_iff.mp h
  have hoptional : ∀ {present : Bool} {label : String}, isPatroniLane label = false →
      (if present then [label] else []).flatMap (drawnOn compile obs e) = [] := by
    intro present label hlabel
    cases present with
    | false => rfl
    | true => simp [drawnOn,hlabel]
  simp only [GanttChart.lanesOf,GanttChart.bars,List.filter_append,clientBars_event,List.nil_append,
    List.filter_flatMap,List.map_flatMap]
  rw [flatMap_of_mapM hlanes fun _ hlane _ => observerLane_lanes he hlane,flatMap_filter,
    observerLanes,List.flatMap_append,List.flatMap_append,List.flatMap_map,
    hoptional (by decide),hoptional (by decide),List.nil_append,List.nil_append]
  simp only [drawnOn,isPatroniLane_laneOf,Bool.true_and]

theorem mem_patroniNodes_of_row {r : ObserverFrameRow} (hr : r ∈ obs)
    (hcomponent : r.component = "patroni") : r.node ∈ patroniNodes obs :=
  mem_groupKeys.mpr
    (List.mem_map_of_mem (List.mem_filter.mpr ⟨hr,decide_eq_true hcomponent⟩))

theorem mem_patroniNodes (he : IsStateEvent obs e) : e.node ∈ patroniNodes obs :=
  mem_patroniNodes_of_row he.1 he.2.1

theorem filter_observerLanes :
    (observerLanes obs).filter isPatroniLane = (patroniNodes obs).map laneOf := by
  have hpatroni : ((patroniNodes obs).map laneOf).filter isPatroniLane =
      (patroniNodes obs).map laneOf := by
    rw [List.filter_eq_self,List.forall_mem_map]
    exact fun node _ => isPatroniLane_laneOf node
  rw [observerLanes,List.filter_append,hpatroni]
  split
  · split <;> rfl
  · split <;> rfl

theorem nodup_observerLanes (h : ((patroniNodes obs).map laneOf).Nodup) :
    (observerLanes obs).Nodup := by
  have hhaproxy : ∀ node ∈ patroniNodes obs, laneOf node ≠ "HAProxy" :=
    fun node _ => laneOf_ne (by decide) node
  have hconsul : ∀ node ∈ patroniNodes obs, laneOf node ≠ "Consul" :=
    fun node _ => laneOf_ne (by decide) node
  rw [observerLanes]
  split
  · split
    · simpa [h] using ⟨hhaproxy,hconsul⟩
    · simpa [h] using hhaproxy
  · split
    · simpa [h] using hconsul
    · exact h

theorem flatMap_replicate_eq_iff {α β : Type} [DecidableEq α] {items : List α} {label : α → β}
    {p : α → Bool} {own : α} {n : ℕ} (hlabels : (items.map label).Nodup) (hown : own ∈ items)
    (hn : 0 < n) : (items.filter p).flatMap (fun a => List.replicate n (label a)) =
      List.replicate n (label own) ↔ ∀ a ∈ items, (p a = true ↔ own = a) := by
  have hinj : ∀ a ∈ items, label a = label own → a = own := fun a ha h =>
    List.inj_on_of_nodup_map hlabels ha hown h
  have hmem : ∀ x, x ∈ (items.filter p).flatMap (fun a => List.replicate n (label a)) ↔
      ∃ a ∈ items, p a = true ∧ x = label a := by
    intro x
    simp [List.mem_flatMap,hn.ne',and_assoc]
  constructor
  · intro h a ha
    rw [h] at hmem
    constructor
    · intro hp
      have hlabel := (hmem (label a)).mpr ⟨a,ha,hp,rfl⟩
      exact (hinj a ha (List.eq_of_mem_replicate hlabel)).symm
    · rintro rfl
      obtain ⟨b,hb,hp,hlabel⟩ := (hmem (label own)).mp (List.mem_replicate.mpr ⟨hn.ne',rfl⟩)
      exact hinj b hb hlabel.symm ▸ hp
  · intro h
    have hfilter : items.filter p = [own] := by
      rw [← filter_eq_singleton (hlabels.of_map label) hown]
      refine List.filter_congr fun a ha => ?_
      rw [Bool.eq_iff_iff,h a ha,decide_eq_true_eq,eq_comm]
    simp [hfilter]

theorem OwnLanes.apart (h : buildGanttChart compile obs cli = some chart)
    (hown : OwnLanes obs chart) : LanesApart compile obs := by
  have hlabels : ((patroniNodes obs).map laneOf).Nodup := by
    rw [← hown.lanes]
    exact hown.distinct.filter _
  refine ⟨hlabels,fun node hnode => ?_⟩
  obtain ⟨search,hsearch⟩ := Option.isSome_iff_exists.mp (exists_chart_iff.mp ⟨chart,h⟩ node hnode)
  refine ⟨search,hsearch,fun e he => ?_⟩
  have hevents := hown.events e he
  rw [chart_lanesOf h he] at hevents
  have hcount : 0 < obs.count e := List.count_pos_iff.mpr he.1
  have hiff := (flatMap_replicate_eq_iff hlabels (mem_patroniNodes he) hcount).mp hevents node hnode
  rwa [searchOf,hsearch] at hiff

theorem LanesApart.own (h : LanesApart compile obs) :
    ∃ chart, buildGanttChart compile obs cli = some chart ∧ OwnLanes obs chart := by
  obtain ⟨chart,hchart⟩ := exists_chart_iff.mpr fun node hnode => by
    obtain ⟨search,hsearch,-⟩ := h.patterns node hnode
    exact Option.isSome_iff_exists.mpr ⟨search,hsearch⟩
  refine ⟨chart,hchart,?_,?_,fun e he => ?_⟩
  · rw [chart_labels hchart,filter_observerLanes]
  · rw [chart_labels hchart]
    exact nodup_observerLanes h.labels
  · have hcount : 0 < obs.count e := List.count_pos_iff.mpr he.1
    rw [chart_lanesOf hchart he,flatMap_replicate_eq_iff h.labels (mem_patroniNodes he) hcount]
    intro node hnode
    obtain ⟨search,hsearch,hfinds⟩ := h.patterns node hnode
    rw [searchOf,hsearch]
    exact hfinds e he

end Chart

section Literal

variable {compile : String → Option (String → Bool)} {obs : List ObserverFrameRow}

theorem splitText_of_notMem {c : Char} {sep text : List Char} (h : c ∉ text) :
    splitText (c :: sep) 0 text = [text] := by
  induction text with
  | nil => rfl
  | cons d text ih =>
    rw [List.mem_cons,not_or] at h
    simp [splitText,h.1,ih h.2]

theorem nodeSfx_laneOf {node : String} (h : '/' ∉ removeText "patroni-".toList 0 node.toList) :
    nodeSfx (laneOf node) = String.ofList (removeText "patroni-".toList 0 node.toList) := by
  have hsplit : ∀ text, splitText "/ ".toList 0 ("Patroni / ".toList ++ text) =
      "Patroni ".toList :: splitText "/ ".toList 0 text := fun text => rfl
  have htext : "/ ".toList = ['/',' '] := rfl
  rw [nodeSfx,laneOf_toList,hsplit,htext,splitText_of_notMem h]
  rfl

theorem mem_of_mem_removeText {pattern text : List Char} {skip : ℕ} {c : Char}
    (h : c ∈ removeText pattern skip text) : c ∈ text := by
  fun_induction removeText pattern skip text with
  | case1 => contradiction
  | case2 skip d text ih => exact List.mem_cons_of_mem _ (ih h)
  | case3 d text hfound ih => exact List.mem_cons_of_mem _ (ih h)
  | case4 d text hfound ih =>
    rcases List.mem_cons.mp h with rfl | h
    · exact List.mem_cons_self
    · exact List.mem_cons_of_mem _ (ih h)

theorem strContains_ofList {text : String} {pattern : List Char} :
    strContains text (String.ofList pattern) = true ↔ pattern <:+: text.toList := by
  rw [strContains_iff,String.toList_ofList]

/-- A letter, a digit, a hyphen or an underscore stands for itself in a pattern. -/
def isLiteral (c : Char) : Bool := c.isAlphanum || c = '-' || c = '_'

/-- With names of literal characters the lanes are apart if and only if what is left of a node's
name is a part of that name and of no other one, and different for every node. -/
theorem lanesApart_literal_iff (hcompile : ∀ pattern, pattern.toList.all isLiteral = true →
      compile pattern = some fun text => strContains text pattern)
    (hnames : ∀ node ∈ patroniNodes obs, node.toList.all isLiteral = true) :
    LanesApart compile obs ↔ ((patroniNodes obs).map laneOf).Nodup ∧
      ∀ node ∈ patroniNodes obs, ∀ e, IsStateEvent obs e →
        (removeText "patroni-".toList 0 node.toList <:+: e.node.toList ↔ e.node = node) := by
  have hsearch : ∀ node ∈ patroniNodes obs, compile (nodeSfx (laneOf node)) = some fun text =>
      strContains text (String.ofList (removeText "patroni-".toList 0 node.toList)) := by
    intro node hnode
    have hliteral : ∀ c ∈ removeText "patroni-".toList 0 node.toList, isLiteral c = true :=
      fun c hc => List.all_eq_true.mp (hnames node hnode) c (mem_of_mem_removeText hc)
    have hslash : '/' ∉ removeText "patroni-".toList 0 node.toList :=
      fun h => absurd (hliteral '/' h) (by decide)
    rw [nodeSfx_laneOf hslash,hcompile _ (by simpa using hliteral)]
  constructor
  · intro h
    refine ⟨h.labels,fun node hnode e he => ?_⟩
    obtain ⟨search,hfound,hfinds⟩ := h.patterns node hnode
    obtain rfl := Option.some.inj ((hsearch node hnode).symm.trans hfound)
    exact strContains_ofList.symm.trans (hfinds e he)
  · rintro ⟨hlabels,hparts⟩
    refine ⟨hlabels,fun node hnode => ⟨_,hsearch node hnode,fun e he => ?_⟩⟩
    exact strContains_ofList.trans (hparts node hnode e he)

end Literal

/-- Every event of Patroni is drawn on the lane of its node only, if and only if the names of
the lanes are different and their patterns find no other node. -/
theorem own_lanes_iff (compile : String → Option (String → Bool)) (obs : List ObserverFrameRow)
    (cli : List ClientFrameRow) :
    (∃ chart, buildGanttChart compile obs cli = some chart ∧ OwnLanes obs chart) ↔
      LanesApart compile obs := by
  constructor
  · rintro ⟨chart,h,hown⟩
    exact hown.apart h
  · intro h
    exact h.own

/-- A switchover from the first to the tenth node of a cluster. -/
def tenNodes : List ObserverFrameRow :=
  [roleChange 1777000000000000 "patroni-1" "primary" "replica",
    roleChange 1777000001000000 "patroni-10" "replica" "primary"]
where
  roleChange (ts : Timestamp) (node oldValue newValue : String) : ObserverFrameRow :=
    { ts := ts
      component := "patroni"
      node := node
      eventType := "role_change"
      oldValue := some oldValue
      newValue := newValue
      detail := none }

/-- The promotion of the tenth node is drawn on the lane of the first one as well. -/
theorem tenNodes_drawn_twice :
    ¬ ∃ chart, buildGanttChart (fun pattern => some fun text => strContains text pattern)
      tenNodes [] = some chart ∧ OwnLanes tenNodes chart := by
  rintro ⟨chart,h,hown⟩
  have hnode : "patroni-1" ∈ patroniNodes tenNodes := mem_groupKeys.mpr (by decide)
  obtain ⟨search,hsearch,hfinds⟩ := (hown.apart h).patterns "patroni-1" hnode
  have hpattern : nodeSfx (laneOf "patroni-1") = "1" := by decide +kernel
  rw [hpattern,Option.some.injEq] at hsearch
  subst hsearch
  have htenth : IsStateEvent tenNodes
      (tenNodes.roleChange 1777000001000000 "patroni-10" "replica" "primary") :=
    ⟨List.mem_cons_of_mem _ (List.mem_singleton_self _),rfl,rfl⟩
  exact absurd ((hfinds _ htenth).mp (by decide)) (by decide)

end RoutingBench
