import RoutingBench.LaneColors
import RoutingBench.PatroniWatcher
set_option autoImplicit false

/-!
What the lane of a Patroni node says of the node. Role and state are two quantities with one lane,
whose colour is that of the last event alone; when does it say what both of them are?
-/

namespace RoutingBench
open Aggregate ChangeLog Timeline

/-- The events of a node's watcher, each with its time. -/
structure PatroniTrace where
  polls : List PatroniResponse
  times : List Timestamp
  length : times.length = (patroniEvents polls).length
  ordered : times.Pairwise (· ≤ ·)

def patroniRow (node : String) (ts : Timestamp) (e : Emission) : ObserverFrameRow where
  ts := ts
  component := "patroni"
  node := node
  eventType := e.eventType
  oldValue := some e.oldValue
  newValue := e.newValue
  detail := some e.detail

def PatroniTrace.rows (trace : PatroniTrace) (node : String) : List ObserverFrameRow :=
  (trace.times.zip (patroniEvents trace.polls)).map fun (ts,e) => patroniRow node ts e

/-- The events that say what role or state the node has. -/
def PatroniTrace.states (trace : PatroniTrace) (node : String) : List ObserverFrameRow :=
  (trace.rows node).filter fun r => !isTimelineChange r

/-- The roles that are answered are those of a node of a cluster. -/
def PatroniTrace.Roles (trace : PatroniTrace) : Prop :=
  ∀ r ∈ trace.polls, ∀ role, r.role = some role → role = "primary" ∨ role = "replica"

def lastReported (eventType : String) (log : List ObserverFrameRow) : Option String :=
  (log.filter fun r => r.eventType = eventType).getLast?.map ObserverFrameRow.newValue

/-- Green is a running primary, and blue a running replica. -/
structure SaysState (color : Option String) (log : List ObserverFrameRow) : Prop where
  green : color = some "#2ecc71" ↔
    lastReported "role_change" log = some "primary" ∧
      lastReported "node_state_change" log = some "running"
  blue : color = some "#3498db" ↔
    lastReported "role_change" log = some "replica" ∧
      lastReported "node_state_change" log = some "running"

/-- The lane of the node says at every instant from its first event on what the node is. -/
def LaneSaysState (compile : String → Option (String → Bool)) (obs : List ObserverFrameRow)
    (cli : List ClientFrameRow) (node : String) (states : List ObserverFrameRow) : Prop :=
  ∃ chart, buildGanttChart compile obs cli = some chart ∧
    ∀ lane ∈ chart.lanes, lane.label = laneOf node →
      ∀ x ≤ seconds (chartStart obs cli) (chartEnd obs cli),
        upTo (instant (chartStart obs cli)) x states ≠ [] →
          SaysState (shownAt lane.painted x) (upTo (instant (chartStart obs cli)) x states)

/-- After an event the other quantity is what makes its colour true: a role is that of a running
node, the state running that of a primary, and the colour of another state means neither. -/
def ColorFits (log : List ObserverFrameRow) (e : ObserverFrameRow) : Prop :=
  if e.eventType = "role_change" then lastReported "node_state_change" log = some "running"
  else if e.newValue = "running" then lastReported "role_change" log = some "primary"
  else getStateColor e.newValue ≠ "#2ecc71" ∧ getStateColor e.newValue ≠ "#3498db"

/-- The last event of every instant fits to those before it. -/
def PatroniTrace.ColorsFit (trace : PatroniTrace) (node : String) : Prop :=
  ∀ before e after, Cut ObserverFrameRow.ts (trace.states node) before e after → ColorFits before e

section Trace

variable {trace : PatroniTrace} {node : String}

theorem pollState_events (self : PatroniWatcher) (emitInitial : Bool) (r : PatroniResponse) :
    ∀ e ∈ (self.pollState emitInitial r).2,
      (e.eventType = "role_change" ∧ r.role = some e.newValue) ∨
        e.eventType = "node_state_change" ∨ e.eventType = "timeline_change" := by
  intro e he
  cases r with
  | requestException text =>
    simp only [PatroniWatcher.pollState] at he
    split at he
    · obtain rfl := List.mem_singleton.mp he
      exact .inr (.inl rfl)
    · contradiction
  | invalid => contradiction
  | object role state timeline serverVersion =>
    simp only [PatroniWatcher.pollState,List.mem_append,List.mem_ite_nil_right,
      List.mem_singleton] at he
    rcases he with (⟨-,rfl⟩ | ⟨-,rfl⟩) | ⟨-,rfl⟩
    · exact .inl ⟨rfl,rfl⟩
    · exact .inr (.inl rfl)
    · exact .inr (.inr rfl)

theorem patroniEvents_types (polls : List PatroniResponse) : ∀ e ∈ patroniEvents polls,
    (e.eventType = "role_change" ∧ ∃ r ∈ polls, r.role = some e.newValue) ∨
      e.eventType = "node_state_change" ∨ e.eventType = "timeline_change" := by
  induction polls using List.reverseRecOn with
  | nil => exact fun e he => absurd he List.not_mem_nil
  | append_singleton polls r ih =>
    intro e he
    rw [patroniEvents,patroniWatch,observe_snoc] at he
    rcases List.mem_append.mp he with he | he
    · rcases ih e he with ⟨htype,r',hr',hrole⟩ | htype
      · exact .inl ⟨htype,r',List.mem_append_left _ hr',hrole⟩
      · exact .inr htype
    · rcases pollState_events _ _ r e he with ⟨htype,hrole⟩ | htype
      · exact .inl ⟨htype,r,by simp,hrole⟩
      · exact .inr htype

theorem PatroniTrace.mem_rows {row : ObserverFrameRow} (h : row ∈ trace.rows node) :
    ∃ ts ∈ trace.times, ∃ e ∈ patroniEvents trace.polls, row = patroniRow node ts e := by
  obtain ⟨⟨ts,e⟩,hmem,rfl⟩ := List.mem_map.mp h
  obtain ⟨hts,he⟩ := List.of_mem_zip hmem
  exact ⟨ts,hts,e,he,rfl⟩

theorem PatroniTrace.map_ts (trace : PatroniTrace) (node : String) :
    (trace.rows node).map ObserverFrameRow.ts = trace.times := by
  rw [PatroniTrace.rows,List.map_map]
  exact List.map_fst_zip trace.length.le

theorem PatroniTrace.states_ordered (trace : PatroniTrace) (node : String) :
    (trace.states node).Pairwise fun a b => a.ts ≤ b.ts := by
  have hrows : (trace.rows node).Pairwise fun a b => a.ts ≤ b.ts := by
    have htimes := trace.ordered
    rw [← trace.map_ts node] at htimes
    exact List.pairwise_map.mp htimes
  exact hrows.filter _

theorem PatroniTrace.states_types (hroles : trace.Roles) {row : ObserverFrameRow}
    (h : row ∈ trace.states node) :
    (row.eventType = "role_change" ∧ (row.newValue = "primary" ∨ row.newValue = "replica")) ∨
      row.eventType = "node_state_change" := by
  obtain ⟨hrow,hstate⟩ := List.mem_filter.mp h
  obtain ⟨ts,-,e,he,rfl⟩ := PatroniTrace.mem_rows hrow
  rcases patroniEvents_types trace.polls e he with ⟨htype,r,hr,hrole⟩ | htype | htype
  · exact .inl ⟨htype,hroles r hr e.newValue hrole⟩
  · exact .inr htype
  · simp [isTimelineChange,patroniRow,htype] at hstate

end Trace

section Colors

variable {log : List ObserverFrameRow} {e : ObserverFrameRow}

theorem lastReported_own {eventType : String} (h : e.eventType = eventType) :
    lastReported eventType (log ++ [e]) = some e.newValue := by
  rw [lastReported,List.filter_append,List.filter_cons_of_pos (by simpa using h),List.filter_nil,
    List.getLast?_concat]
  rfl

theorem lastReported_other {eventType : String} (h : e.eventType ≠ eventType) :
    lastReported eventType (log ++ [e]) = lastReported eventType log := by
  rw [lastReported,List.filter_append,List.filter_cons_of_neg (by simpa using h),List.filter_nil,
    List.append_nil]
  rfl

theorem saysState_primary_iff : SaysState (some (getStateColor "primary")) log ↔
    lastReported "role_change" log = some "primary" ∧
      lastReported "node_state_change" log = some "running" := by
  constructor
  · intro h
    exact h.green.mp rfl
  · intro h
    exact ⟨iff_of_true rfl h,
      iff_of_false (by decide) fun hblue => absurd (h.1.symm.trans hblue.1) (by decide)⟩

theorem saysState_replica_iff : SaysState (some (getStateColor "replica")) log ↔
    lastReported "role_change" log = some "replica" ∧
      lastReported "node_state_change" log = some "running" := by
  constructor
  · intro h
    exact h.blue.mp rfl
  · intro h
    exact ⟨iff_of_false (by decide) fun hgreen =>
      absurd (h.1.symm.trans hgreen.1) (by decide),iff_of_true rfl h⟩

theorem saysState_role_iff (htype : e.eventType = "role_change")
    (hvalue : e.newValue = "primary" ∨ e.newValue = "replica") :
    SaysState (some (getStateColor e.newValue)) (log ++ [e]) ↔ ColorFits log e := by
  have hstate : lastReported "node_state_change" (log ++ [e]) =
      lastReported "node_state_change" log := lastReported_other (by rw [htype]; decide)
  have hown : lastReported "role_change" (log ++ [e]) = some e.newValue := lastReported_own htype
  rw [ColorFits,if_pos htype]
  rcases hvalue with hvalue | hvalue
  · rw [hvalue] at hown ⊢
    rw [saysState_primary_iff,hstate]
    exact and_iff_right hown
  · rw [hvalue] at hown ⊢
    rw [saysState_replica_iff,hstate]
    exact and_iff_right hown

theorem saysState_state_iff (htype : e.eventType = "node_state_change") :
    SaysState (some (getStateColor e.newValue)) (log ++ [e]) ↔ ColorFits log e := by
  have hrole : lastReported "role_change" (log ++ [e]) = lastReported "role_change" log :=
    lastReported_other (by rw [htype]; decide)
  have hown : lastReported "node_state_change" (log ++ [e]) = some e.newValue :=
    lastReported_own htype
  rw [ColorFits,if_neg (by rw [htype]; decide)]
  split
  next hrunning =>
    have hgreen : getStateColor e.newValue = getStateColor "primary" := by rw [hrunning]; rfl
    rw [hrunning] at hown
    rw [hgreen,saysState_primary_iff,hrole]
    exact and_iff_left hown
  next hrunning =>
    have hnot : lastReported "node_state_change" (log ++ [e]) ≠ some "running" := by
      rw [hown]
      exact fun h => hrunning (Option.some.inj h)
    constructor
    · intro h
      exact ⟨fun hgreen => hnot (h.green.mp (congrArg some hgreen)).2,
        fun hblue => hnot (h.blue.mp (congrArg some hblue)).2⟩
    · intro ⟨hgreen,hblue⟩
      exact ⟨iff_of_false (fun h => hgreen (Option.some.inj h)) fun h => hnot h.2,
        iff_of_false (fun h => hblue (Option.some.inj h)) fun h => hnot h.2⟩

/-- The colour of an event says what the node is if and only if it fits to those before. -/
theorem saysState_iff (htype : (e.eventType = "role_change" ∧
      (e.newValue = "primary" ∨ e.newValue = "replica")) ∨ e.eventType = "node_state_change") :
    SaysState (some (getStateColor e.newValue)) (log ++ [e]) ↔ ColorFits log e := by
  rcases htype with ⟨htype,hvalue⟩ | htype
  · exact saysState_role_iff htype hvalue
  · exact saysState_state_iff htype

end Colors

section Lane

variable {compile : String → Option (String → Bool)} {search : String → Bool}
  {obs : List ObserverFrameRow} {cli : List ClientFrameRow} {chart : GanttChart} {lane : GanttLane}
  {trace : PatroniTrace} {node : String}

/-- A frame with the trace of a node, whose lane's pattern finds this node and no other. -/
structure ShowsTrace (compile : String → Option (String → Bool)) (obs : List ObserverFrameRow)
    (node : String) (trace : PatroniTrace) : Prop where
  rows : (obs.filter fun r => r.component = "patroni" && r.node = node) = trace.rows node
  found : ∃ search, compile (nodeSfx (laneOf node)) = some search ∧
    ∀ other ∈ patroniNodes obs, search other = true ↔ other = node
  compiles : ∀ other ∈ patroniNodes obs, (compile (nodeSfx (laneOf other))).isSome

theorem PatroniTrace.states_node {row : ObserverFrameRow} (h : row ∈ trace.rows node) :
    row.node = node := by
  obtain ⟨ts,-,e,-,rfl⟩ := PatroniTrace.mem_rows h
  rfl

theorem laneEvents_eq
    (hrows : (obs.filter fun r => r.component = "patroni" && r.node = node) = trace.rows node)
    (hfinds : ∀ other ∈ patroniNodes obs, search other = true ↔ other = node) :
    sortByTs (obs.filter fun r =>
      !isTimelineChange r && (r.component = "patroni" && search r.node)) = trace.states node := by
  have hfilter : (obs.filter fun r =>
      !isTimelineChange r && (r.component = "patroni" && search r.node)) = trace.states node := by
    rw [PatroniTrace.states,← hrows,List.filter_filter]
    refine List.filter_congr fun r hr => ?_
    by_cases hcomponent : r.component = "patroni"
    · have hsearch : search r.node = decide (r.node = node) := by
        rw [Bool.eq_iff_iff,decide_eq_true_iff]
        exact hfinds r.node (mem_patroniNodes_of_row hr hcomponent)
      rw [hsearch]
    · simp [hcomponent]
  rw [hfilter,sortByTs]
  exact List.mergeSort_of_pairwise
    ((trace.states_ordered node).imp fun {_ _} h => decide_eq_true h)

theorem nodeLane_eq (h : ShowsTrace compile obs node trace)
    (hchart : buildGanttChart compile obs cli = some chart) (hlane : lane ∈ chart.lanes)
    (hlabel : lane.label = laneOf node) {first : ObserverFrameRow} {rest : List ObserverFrameRow}
    (hstates : trace.states node = first :: rest) :
    lane.bars = stateBars (laneOf node) (chartStart obs cli) (chartEnd obs cli) (first :: rest) ∧
      lane.painted = paint (initialPatroniColor first)
        ((first :: rest).map fun row => getStateColor row.newValue) lane.bars := by
  obtain ⟨-,hdrawn⟩ := chart_lane hchart hlane
  obtain ⟨search,hsearch,hfinds⟩ := h.found
  rw [hlabel,observerLane_laneOf,patroniLane,hsearch,Option.map_some,Option.some.injEq,
    laneEvents_eq h.rows hfinds,hstates] at hdrawn
  have hbars : lane.bars =
      stateBars (laneOf node) (chartStart obs cli) (chartEnd obs cli) (first :: rest) := by
    rw [← hdrawn]
    rfl
  refine ⟨hbars,?_⟩
  rw [GanttLane.painted,hlabel,hbars,stateBars_events]
  simp only [if_neg (laneOf_ne (by decide : isPatroniLane "HAProxy" = false) node),
    if_neg (laneOf_ne (by decide : isPatroniLane "Consul" = false) node)]

/-- The colour of the node's lane at an instant is that of the last event up to it. -/
theorem nodeLane_shown (h : ShowsTrace compile obs node trace)
    (hchart : buildGanttChart compile obs cli = some chart) (hlane : lane ∈ chart.lanes)
    (hlabel : lane.label = laneOf node) {x : ℚ}
    (hx : x ≤ seconds (chartStart obs cli) (chartEnd obs cli))
    (hne : upTo (instant (chartStart obs cli)) x (trace.states node) ≠ []) :
    shownAt lane.painted x = (upTo (instant (chartStart obs cli)) x
      (trace.states node)).getLast?.map fun row => getStateColor row.newValue := by
  have hordered : Ordered (instant (chartStart obs cli)) (trace.states node) :=
    ordered_instants (trace.states_ordered node)
  obtain ⟨before,e,after,⟨hsplit,-⟩,he,hafter⟩ := exists_cut hordered hne
  have hstates : trace.states node ≠ [] := by simp [hsplit]
  obtain ⟨first,rest,hstates⟩ := List.exists_cons_of_ne_nil hstates
  obtain ⟨hbars,hpainted⟩ := nodeLane_eq h hchart hlane hlabel hstates
  rw [hsplit] at hordered
  rw [hpainted,hbars,← hstates,hsplit,hordered.upTo_eq he hafter,List.map_append,List.map_cons,
    List.getLast?_concat,Option.map_some]
  exact shownAt_paint (List.length_map _) he hafter hx

theorem exists_nodeLane (h : ShowsTrace compile obs node trace)
    (hchart : buildGanttChart compile obs cli = some chart) {row : ObserverFrameRow}
    (hrow : row ∈ trace.states node) : ∃ lane ∈ chart.lanes, lane.label = laneOf node := by
  have hmem : row ∈ obs.filter fun r => r.component = "patroni" && r.node = node :=
    h.rows ▸ (List.mem_filter.mp hrow).1
  obtain ⟨hobs,hrow⟩ := List.mem_filter.mp hmem
  obtain ⟨hcomponent,rfl⟩ : row.component = "patroni" ∧ row.node = node := by simpa using hrow
  exact exists_lane hchart (laneOf_mem_observerLanes (mem_patroniNodes_of_row hobs hcomponent))

/-- The colour of the last event says what the node is, at every instant, if it does at the
cuts of the trace. -/
theorem says_upTo_iff (cli : List ClientFrameRow) (h : ShowsTrace compile obs node trace)
    (hroles : trace.Roles) :
    (∀ x ≤ seconds (chartStart obs cli) (chartEnd obs cli),
      upTo (instant (chartStart obs cli)) x (trace.states node) ≠ [] →
        SaysState ((upTo (instant (chartStart obs cli)) x (trace.states node)).getLast?.map
          fun row => getStateColor row.newValue)
            (upTo (instant (chartStart obs cli)) x (trace.states node))) ↔
      trace.ColorsFit node := by
  have hordered : Ordered (instant (chartStart obs cli)) (trace.states node) :=
    ordered_instants (trace.states_ordered node)
  have hbound : ∀ row ∈ trace.states node,
      instant (chartStart obs cli) row ≤ seconds (chartStart obs cli) (chartEnd obs cli) := by
    intro row hrow
    have hobs : row ∈ obs :=
      (List.mem_filter.mp (h.rows.symm ▸ (List.mem_filter.mp hrow).1)).1
    exact instant_le_end (List.mem_append_left _ (List.mem_map_of_mem hobs))
  rw [forall_upTo_iff (P := fun log => SaysState
    (log.getLast?.map fun row => getStateColor row.newValue) log) hordered hbound]
  refine forall_congr' fun before => forall_congr' fun e => forall_congr' fun after => ?_
  rw [cut_instants_iff]
  refine imp_congr_right fun hcut => ?_
  have he : e ∈ trace.states node := hcut.split ▸ List.mem_append_right _ List.mem_cons_self
  rw [List.getLast?_concat,Option.map_some]
  exact saysState_iff (PatroniTrace.states_types hroles he)

theorem LaneSaysState.colorsFit (h : ShowsTrace compile obs node trace) (hroles : trace.Roles)
    (hlanes : LaneSaysState compile obs cli node (trace.states node)) : trace.ColorsFit node := by
  obtain ⟨chart,hchart,hlanes⟩ := hlanes
  refine (says_upTo_iff cli h hroles).mp fun x hx hne => ?_
  obtain ⟨row,hrow⟩ := List.exists_mem_of_ne_nil _ hne
  obtain ⟨lane,hlane,hlabel⟩ := exists_nodeLane h hchart (List.mem_filter.mp hrow).1
  rw [← nodeLane_shown h hchart hlane hlabel hx hne]
  exact hlanes lane hlane hlabel x hx hne

theorem PatroniTrace.ColorsFit.laneSaysState (h : ShowsTrace compile obs node trace)
    (hroles : trace.Roles) (hfit : trace.ColorsFit node) :
    LaneSaysState compile obs cli node (trace.states node) := by
  obtain ⟨chart,hchart⟩ : ∃ chart, buildGanttChart compile obs cli = some chart :=
    exists_chart_iff.mpr h.compiles
  refine ⟨chart,hchart,fun lane hlane hlabel x hx hne => ?_⟩
  rw [nodeLane_shown h hchart hlane hlabel hx hne]
  exact (says_upTo_iff cli h hroles).mpr hfit x hx hne

end Lane

section Law

variable {compile : String → Option (String → Bool)} {obs : List ObserverFrameRow}
  {trace : PatroniTrace} {node : String}

theorem mem_of_lastReported {eventType text : String} {log : List ObserverFrameRow}
    (h : lastReported eventType log = some text) :
    ∃ row ∈ log, row.eventType = eventType ∧ row.newValue = text := by
  obtain ⟨row,hrow,htext⟩ := Option.map_eq_some_iff.mp h
  obtain ⟨hmem,htype⟩ := List.mem_filter.mp (List.mem_of_getLast? hrow)
  exact ⟨row,hmem,by simpa using htype,htext⟩

/-- Where every event has an instant of its own, no role may be reported at all, and no state
that is drawn green or blue: the first event of this kind does not fit. -/
theorem colorsFit_strict_iff (hstrict : (trace.states node).Pairwise fun a b => a.ts < b.ts) :
    trace.ColorsFit node ↔ ∀ row ∈ trace.states node, row.eventType ≠ "role_change" ∧
      getStateColor row.newValue ≠ "#2ecc71" ∧ getStateColor row.newValue ≠ "#3498db" := by
  constructor
  · intro h
    have hbefore : ∀ before after, trace.states node = before ++ after → ∀ row ∈ before,
        row.eventType ≠ "role_change" ∧ getStateColor row.newValue ≠ "#2ecc71" ∧
          getStateColor row.newValue ≠ "#3498db" := by
      intro before
      induction before using List.reverseRecOn with
      | nil => simp
      | append_singleton before e ih =>
        intro after hsplit
        rw [List.append_assoc,List.singleton_append] at hsplit
        have hplain := ih (e :: after) hsplit
        have hfits := h before e after ((cut_iff_of_strict hstrict).mpr hsplit)
        have htype : e.eventType ≠ "role_change" := by
          intro htype
          rw [ColorFits,if_pos htype] at hfits
          obtain ⟨row,hrow,-,hrunning⟩ := mem_of_lastReported hfits
          exact (hplain row hrow).2.1 (by rw [hrunning]; rfl)
        have hstate : e.newValue ≠ "running" := by
          intro hstate
          rw [ColorFits,if_neg htype,if_pos hstate] at hfits
          obtain ⟨row,hrow,hrole,-⟩ := mem_of_lastReported hfits
          exact (hplain row hrow).1 hrole
        rw [ColorFits,if_neg htype,if_neg hstate] at hfits
        intro row hrow
        rcases List.mem_append.mp hrow with hrow | hrow
        · exact hplain row hrow
        · obtain rfl := List.mem_singleton.mp hrow
          exact ⟨htype,hfits⟩
    exact hbefore (trace.states node) [] (List.append_nil _).symm
  · intro h before e after hcut
    obtain ⟨htype,hgreen,hblue⟩ :=
      h e (hcut.split ▸ List.mem_append_right _ List.mem_cons_self)
    have hstate : e.newValue ≠ "running" := by
      intro hstate
      rw [hstate] at hgreen
      exact hgreen rfl
    rw [ColorFits,if_neg htype,if_neg hstate]
    exact ⟨hgreen,hblue⟩

/-- The lane of a node is green where it is a running primary and blue where it is a running
replica, if and only if the last event of every instant fits to the role and the state that were
reported before. -/
theorem green_means_primary_iff (h : ShowsTrace compile obs node trace) (hroles : trace.Roles)
    (cli : List ClientFrameRow) :
    LaneSaysState compile obs cli node (trace.states node) ↔ trace.ColorsFit node :=
  ⟨LaneSaysState.colorsFit h hroles,PatroniTrace.ColorsFit.laneSaysState h hroles⟩

/-- A replica that runs when its watcher starts. -/
def startedReplica : PatroniTrace where
  polls := [.object (some "replica") (some "running") (some 3) (some 160002)]
  times := [1777000000000000,1777000000000200]
  length := by decide
  ordered := by decide

def replicaRows : List ObserverFrameRow :=
  startedReplica.rows "patroni-1" ++ startedReplica.rows "patroni-2"

theorem startedReplica_shown : ShowsTrace (fun pattern => some fun text => strContains text pattern)
    replicaRows "patroni-2" startedReplica := by
  have hfinds : ∀ r ∈ replicaRows, strContains r.node (nodeSfx (laneOf "patroni-2")) = true ↔
      r.node = "patroni-2" := by decide +kernel
  refine ⟨by decide,⟨_,rfl,fun other hother => ?_⟩,fun _ _ => rfl⟩
  obtain ⟨r,hr,rfl⟩ := List.mem_map.mp (mem_groupKeys.mp hother)
  exact hfinds r (List.mem_filter.mp hr).1

theorem startedReplica_roles : startedReplica.Roles := by
  intro r hr role hrole
  obtain rfl := List.mem_singleton.mp hr
  exact .inr (Option.some.inj hrole).symm

theorem green_means_primary_startedReplica :
    LaneSaysState (fun pattern => some fun text => strContains text pattern)
      replicaRows [] "patroni-2" (startedReplica.states "patroni-2") ↔
        startedReplica.ColorsFit "patroni-2" :=
  green_means_primary_iff startedReplica_shown startedReplica_roles []

/-- The replica's lane is green from the report of its state on. -/
theorem startedReplica_green :
    ¬LaneSaysState (fun pattern => some fun text => strContains text pattern)
      replicaRows [] "patroni-2" (startedReplica.states "patroni-2") := by
  intro hlanes
  have hplain := (colorsFit_strict_iff (by decide)).mp
    (hlanes.colorsFit startedReplica_shown startedReplica_roles)
  obtain ⟨row,hrow,htype⟩ : ∃ row ∈ startedReplica.states "patroni-2",
      row.eventType = "role_change" := by decide
  exact (hplain row hrow).1 htype

end Law

end RoutingBench
