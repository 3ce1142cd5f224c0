import RoutingBench.GanttLanes
import RoutingBench.JsonText
import RoutingBench.MilestoneAgreement
import RoutingBench.Timeline
import Mathlib.Tactic.Linarith
set_option autoImplicit false

/-!
The colours of the bars of the Gantt chart, and which one is to be seen at an instant: the bars
of a lane overlay each other, and the one that was drawn last is on top.
-/

namespace RoutingBench
open Aggregate Timeline

section Colors

def stateColors : List (String × String) :=
  [("primary","#2ecc71"),("running","#2ecc71"),("UP","#2ecc71"),("ok","#2ecc71"),
    ("bound","#2ecc71"),("replica","#3498db"),("streaming","#3498db"),("stopped","#e74c3c"),
    ("DOWN","#e74c3c"),("fail","#e74c3c"),("unreachable","#95a5a6"),("starting","#f39c12"),
    ("creating replica","#f39c12"),("promote_requested","#f39c12"),
    ("timeline_selected","#f39c12"),("ready_accept_connections","#2ecc71"),
    ("ready_readonly","#3498db"),("entering_standby","#3498db"),("redo_starts","#f39c12"),
    ("consistent_recovery","#3498db"),("streaming_started","#3498db")]

/-- The text starts with DOWN in capitals or not. -/
def upperStartsWithDown (text : String) : Bool :=
  "DOWN".toList.isPrefixOf (text.toList.map Char.toUpper)

def getStateColor (state : String) : String :=
  if state = "" then "#e74c3c"
  else match stateColors.lookup state with
    | some color => color
    | none =>
      if upperStartsWithUp state then "#2ecc71"
      else if upperStartsWithDown state then "#e74c3c"
      else "#95a5a6"

def getConsulColor (eventType newValue : String) : String :=
  if eventType = "leader_key_deleted" then "#e74c3c"
  else if ["leader_key_created","leader_key_change"].contains eventType && newValue ≠ "" then
    "#2ecc71"
  else getStateColor newValue

abbrev ServerStates := List ((String × String) × String)

def ServerStates.set (states : ServerStates) (server : String × String) (status : String) :
    ServerStates :=
  (server,status) :: states.filter fun entry => entry.1 ≠ server

def haproxyAggregateColor (serverStates : ServerStates) : String :=
  let primary := serverStates.filter fun entry => entry.1.1 = "primary_backend"
  if primary.isEmpty then "#f39c12"
  else if primary.any fun entry => upperStartsWithUp entry.2 then "#2ecc71" else "#e74c3c"

/-- The backend and the server of a detail, if it can be read and has both. -/
def detailServer (detail : Option String) : Option (String × String) :=
  match (detail.filter fun text => text ≠ "").bind jsonLoads with
  | some fields =>
    let backend := jsonGet fields "backend"
    let server := jsonGet fields "server"
    if backend ≠ "" ∧ server ≠ "" then some (backend,server) else none
  | none => none

def haproxyStates (states : ServerStates) (row : ObserverFrameRow) : ServerStates :=
  match detailServer row.detail with
  | some server => states.set server row.newValue
  | none => states

def haproxyColors (states : ServerStates) : List ObserverFrameRow → List String
  | [] => []
  | row :: rows =>
    haproxyAggregateColor (haproxyStates states row) ::
      haproxyColors (haproxyStates states row) rows

def initialHaproxyColor (first : ObserverFrameRow) : String :=
  match detailServer first.detail with
  | some server => haproxyAggregateColor [(server,first.oldValue.getD "None")]
  | none => "#2ecc71"

def initialConsulColor (first : ObserverFrameRow) : String :=
  if first.eventType = "leader_key_deleted" then "#2ecc71"
  else getConsulColor first.eventType (first.oldValue.getD "")

def initialPatroniColor (first : ObserverFrameRow) : String :=
  let old := first.oldValue.getD ""
  getStateColor (if ["none","uninitialized",""].contains old then "replica" else old)

end Colors

section Painting

/-- The bars of a lane with their colours. The bar of the state before the first event has none. -/
def paint (initial : String) (colors : List String) (bars : List GanttBar) :
    List (GanttBar × String) :=
  match bars.head?.map GanttBar.event with
  | some none => bars.zip (initial :: colors)
  | _ => bars.zip colors

def GanttLane.painted (lane : GanttLane) : List (GanttBar × String) :=
  match lane.bars.filterMap GanttBar.event with
  -- a node without events is drawn as a replica
  | [] => lane.bars.map fun bar => (bar,"#3498db")
  | first :: rest =>
    if lane.label = "HAProxy" then
      paint (initialHaproxyColor first) (haproxyColors [] (first :: rest)) lane.bars
    else if lane.label = "Consul" then
      paint (initialConsulColor first)
        ((first :: rest).map fun row => getConsulColor row.eventType row.newValue) lane.bars
    else
      paint (initialPatroniColor first)
        ((first :: rest).map fun row => getStateColor row.newValue) lane.bars

/-- A bar is to be seen at an instant, in seconds from the left. -/
def GanttBar.covers (x : ℚ) (bar : GanttBar) : Bool := bar.base ≤ x ∧ x ≤ bar.base + bar.width

def shownAt (bars : List (GanttBar × String)) (x : ℚ) : Option String :=
  (bars.filter fun bar => bar.1.covers x).getLast?.map Prod.snd

end Painting

section Shown

variable {lane initial color : String} {wStart wEnd : Timestamp} {x : ℚ}
  {before after : List ObserverFrameRow} {e : ObserverFrameRow} {early late : List String}

theorem shownAt_append (front : List (GanttBar × String)) {bar : GanttBar}
    {hidden : List (GanttBar × String)} (hbar : bar.covers x = true)
    (hhidden : ∀ b ∈ hidden, b.1.covers x = false) :
    shownAt (front ++ (bar,color) :: hidden) x = some color := by
  have hnone : hidden.filter (fun b => b.1.covers x) = [] :=
    List.filter_eq_nil_iff.mpr fun b hb => by simp [hhidden b hb]
  rw [shownAt,List.filter_append,List.filter_cons_of_pos (by simpa using hbar),hnone,
    List.getLast?_concat]
  rfl

def eventBar (lane : String) (wStart : Timestamp) (row : ObserverFrameRow) (stop : Timestamp) :
    GanttBar where
  lane := lane
  base := seconds wStart row.ts
  width := barWidth row.ts stop
  event := some row

theorem stateBars_cons (first : ObserverFrameRow) (rest : List ObserverFrameRow) :
    stateBars lane wStart wEnd (first :: rest) =
      (if 5 / 100 < seconds wStart first.ts then
        [{ lane := lane, base := 0, width := seconds wStart first.ts, event := none }] else []) ++
      (first :: rest).zipWith (eventBar lane wStart) (rest.map ObserverFrameRow.ts ++ [wEnd]) :=
  rfl

theorem zipWith_stops (wEnd : Timestamp) (f : ObserverFrameRow → Timestamp → GanttBar)
    (before : List ObserverFrameRow) (e : ObserverFrameRow) (after : List ObserverFrameRow) :
    ∃ front hidden, (before ++ e :: after).zipWith f
        ((before ++ e :: after).tail.map ObserverFrameRow.ts ++ [wEnd]) =
          front ++ f e ((after.map ObserverFrameRow.ts).head?.getD wEnd) :: hidden ∧
      front.length = before.length ∧ ∀ bar ∈ hidden, ∃ a ∈ after, ∃ stop, bar = f a stop := by
  induction before with
  | nil =>
    cases after with
    | nil => exact ⟨[],[],rfl,rfl,by simp⟩
    | cons a after =>
      refine ⟨[],_,rfl,rfl,fun bar hbar => ?_⟩
      obtain ⟨i,hi,rfl⟩ := List.getElem_of_mem hbar
      rw [List.getElem_zipWith]
      exact ⟨_,List.getElem_mem _,_,rfl⟩
  | cons b before ih =>
    obtain ⟨front,hidden,hbars,hlength,hhidden⟩ := ih
    have hnext : ∃ stop, (b :: before ++ e :: after).zipWith f
        ((b :: before ++ e :: after).tail.map ObserverFrameRow.ts ++ [wEnd]) = f b stop ::
          (before ++ e :: after).zipWith f
            ((before ++ e :: after).tail.map ObserverFrameRow.ts ++ [wEnd]) := by
      cases before with
      | nil => exact ⟨_,rfl⟩
      | cons b' before => exact ⟨_,rfl⟩
    obtain ⟨stop,hnext⟩ := hnext
    exact ⟨f b stop :: front,hidden,by rw [hnext,hbars]; rfl,congrArg Nat.succ hlength,hhidden⟩

theorem eventBar_covers {row : ObserverFrameRow} {stop : Timestamp}
    (hrow : seconds wStart row.ts ≤ x) (hstop : x ≤ seconds wStart stop) :
    (eventBar lane wStart row stop).covers x = true := by
  have hwidth : seconds row.ts stop = seconds wStart stop - seconds wStart row.ts :=
    seconds_eq_sub wStart row.ts stop
  refine decide_eq_true ⟨hrow,?_⟩
  rw [eventBar,barWidth]
  split
  next hzero =>
    rw [hzero] at hwidth
    linarith
  next =>
    rw [hwidth]
    linarith

theorem eventBar_hidden {row : ObserverFrameRow} (h : x < seconds wStart row.ts)
    (stop : Timestamp) : (eventBar lane wStart row stop).covers x = false :=
  decide_eq_false fun hcovers => absurd hcovers.1 (not_le.mpr h)

theorem shownAt_events (front : List (GanttBar × String)) (hlength : early.length = before.length)
    (he : seconds wStart e.ts ≤ x) (hafter : ∀ a ∈ after, x < seconds wStart a.ts)
    (hx : x ≤ seconds wStart wEnd) :
    shownAt (front ++ ((before ++ e :: after).zipWith (eventBar lane wStart)
        ((before ++ e :: after).tail.map ObserverFrameRow.ts ++ [wEnd])).zip
          (early ++ color :: late)) x = some color := by
  obtain ⟨bars,hidden,hbars,hbefore,hhidden⟩ :=
    zipWith_stops wEnd (eventBar lane wStart) before e after
  rw [hbars,List.zip_append (hbefore.trans hlength.symm),List.zip_cons_cons,← List.append_assoc]
  refine shownAt_append _ (eventBar_covers he ?_) fun b hb => ?_
  · cases after with
    | nil => exact hx
    | cons a after => exact (hafter a List.mem_cons_self).le
  · obtain ⟨a,ha,stop,hbar⟩ := hhidden b.1 (List.of_mem_zip hb).1
    rw [hbar]
    exact eventBar_hidden (hafter a ha) stop

/-- At an instant after the first event a lane has the colour of the last event up to it. -/
theorem shownAt_paint (hlength : early.length = before.length)
    (he : seconds wStart e.ts ≤ x) (hafter : ∀ a ∈ after, x < seconds wStart a.ts)
    (hx : x ≤ seconds wStart wEnd) :
    shownAt (paint initial (early ++ color :: late)
      (stateBars lane wStart wEnd (before ++ e :: after))) x = some color := by
  obtain ⟨first,rest,hrows⟩ : ∃ first rest, before ++ e :: after = first :: rest := by
    cases before with
    | nil => exact ⟨_,_,rfl⟩
    | cons b before => exact ⟨_,_,rfl⟩
  have hfront : ∀ front : List (GanttBar × String),
      shownAt (front ++ ((before ++ e :: after).zipWith (eventBar lane wStart)
        ((before ++ e :: after).tail.map ObserverFrameRow.ts ++ [wEnd])).zip
          (early ++ color :: late)) x = some color :=
    fun front => shownAt_events front hlength he hafter hx
  rw [hrows] at hfront ⊢
  rw [stateBars_cons]
  split
  next => exact hfront [(_,initial)]
  next =>
    have hplain := hfront []
    cases rest <;> exact hplain

/-- Before the first event it has the initial colour, if the bar is drawn. -/
theorem shownAt_before {first : ObserverFrameRow} {rest : List ObserverFrameRow}
    {colors : List String} (hzero : 0 ≤ x)
    (hx : ∀ row ∈ first :: rest, x < seconds wStart row.ts) :
    shownAt (paint initial colors (stateBars lane wStart wEnd (first :: rest))) x =
      if 5 / 100 < seconds wStart first.ts then some initial else none := by
  have hevents : ∀ (stops : List Timestamp) (colors : List String),
      ∀ b ∈ ((first :: rest).zipWith (eventBar lane wStart) stops).zip colors,
        b.1.covers x = false := by
    intro stops colors b hb
    obtain ⟨i,hi,hbar⟩ := List.getElem_of_mem (List.of_mem_zip hb).1
    rw [List.getElem_zipWith] at hbar
    rw [← hbar]
    exact eventBar_hidden (hx _ (List.getElem_mem _)) _
  rw [stateBars_cons]
  split
  next hlong =>
    refine shownAt_append [] (decide_eq_true ⟨hzero,?_⟩) (hevents _ colors)
    simpa using (hx first List.mem_cons_self).le
  next =>
    have hnone : shownAt (((first :: rest).zipWith (eventBar lane wStart)
        (rest.map ObserverFrameRow.ts ++ [wEnd])).zip colors) x = none := by
      rw [shownAt,List.filter_eq_nil_iff.mpr fun b hb => by simp [hevents _ colors b hb]]
      rfl
    cases rest <;> exact hnone

end Shown

section Chart

variable {compile : String → Option (String → Bool)} {obs : List ObserverFrameRow}
  {cli : List ClientFrameRow} {chart : GanttChart} {lane : GanttLane}

def chartTimes (obs : List ObserverFrameRow) (cli : List ClientFrameRow) : List Timestamp :=
  obs.map ObserverFrameRow.ts ++ cli.map ClientFrameRow.ts

def chartStart (obs : List ObserverFrameRow) (cli : List ClientFrameRow) : Timestamp :=
  (chartTimes obs cli).min?.getD 0

def chartEnd (obs : List ObserverFrameRow) (cli : List ClientFrameRow) : Timestamp :=
  (chartTimes obs cli).max?.getD 0

theorem chart_contains {t : Timestamp} (ht : t ∈ chartTimes obs cli) :
    chartStart obs cli ≤ t ∧ t ≤ chartEnd obs cli := by
  obtain ⟨first,hfirst⟩ := Option.isSome_iff_exists.mp (List.isSome_min?_of_mem ht)
  obtain ⟨last,hlast⟩ := Option.isSome_iff_exists.mp (List.isSome_max?_of_mem ht)
  rw [chartStart,chartEnd,hfirst,hlast]
  exact ⟨(List.min?_eq_some_iff.mp hfirst).2 t ht,(List.max?_eq_some_iff.mp hlast).2 t ht⟩

theorem chart_lane (h : buildGanttChart compile obs cli = some chart) (hlane : lane ∈ chart.lanes) :
    lane.label ∈ observerLanes obs ∧
      observerLane compile obs (chartStart obs cli) (chartEnd obs cli) lane.label = some lane := by
  obtain ⟨lanes,hlanes,rfl⟩ := Option.map_eq_some_iff.mp h
  obtain ⟨label,hlabel,hdrawn⟩ := exists_of_mem_mapM hlanes hlane
  rw [observerLane_label hdrawn]
  exact ⟨hlabel,hdrawn⟩

theorem exists_lane (h : buildGanttChart compile obs cli = some chart) {label : String}
    (hlabel : label ∈ observerLanes obs) : ∃ lane ∈ chart.lanes, lane.label = label := by
  rw [← chart_labels h] at hlabel
  exact List.mem_map.mp hlabel

/-- The instant of an event, in seconds from the left. -/
def instant (wStart : Timestamp) (row : ObserverFrameRow) : ℚ := seconds wStart row.ts

theorem instant_lt_iff {wStart : Timestamp} {a b : ObserverFrameRow} :
    instant wStart a < instant wStart b ↔ a.ts < b.ts :=
  seconds_lt_iff

theorem instant_le_end {row : ObserverFrameRow} (h : row.ts ∈ chartTimes obs cli) :
    instant (chartStart obs cli) row ≤ seconds (chartStart obs cli) (chartEnd obs cli) :=
  seconds_le_iff.mpr (chart_contains h).2

theorem cut_instants_iff {wStart : Timestamp} {log before after : List ObserverFrameRow}
    {e : ObserverFrameRow} :
    Cut (instant wStart) log before e after ↔ Cut ObserverFrameRow.ts log before e after := by
  constructor
  · intro h
    exact ⟨h.split,fun a ha => instant_lt_iff.mp (h.later a ha)⟩
  · intro h
    exact ⟨h.split,fun a ha => instant_lt_iff.mpr (h.later a ha)⟩

theorem ordered_instants {wStart : Timestamp} {rows : List ObserverFrameRow}
    (h : rows.Pairwise fun a b => a.ts ≤ b.ts) : Ordered (instant wStart) rows :=
  h.imp fun {_ _} => seconds_le_iff.mpr

end Chart

end RoutingBench
