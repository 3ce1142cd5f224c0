import RoutingBench.LaneColors
import RoutingBench.HaproxyWatcher
set_option autoImplicit false

/-!
What the lane of HAProxy says of the primary_backend. It replays the events of its window, and
begins with nothing; when is that what a replay of the whole log says?
-/

namespace RoutingBench
open Aggregate ChangeLog Timeline

structure HaproxyTrace where
  polls : List HaproxyResponse
  times : List Timestamp
  length : times.length = (haproxyWatch polls).2.length
  ordered : times.Pairwise (· ≤ ·)

def HaproxyTrace.log (trace : HaproxyTrace) : List (Timestamp × BackendStateChange) :=
  trace.times.zip (haproxyWatch trace.polls).2

def haproxyRow (node : String) (e : Timestamp × BackendStateChange) : ObserverFrameRow where
  ts := e.1
  component := "haproxy"
  node := node
  eventType := "backend_state_change"
  oldValue := some e.2.oldValue
  newValue := e.2.newValue
  detail := some e.2.emission.detail

/-- The log begins with the status of every server that is ever listed. -/
def HaproxyTrace.Complete (trace : HaproxyTrace) : Prop :=
  ∃ table rest, trace.polls = .stats table :: rest ∧
    ∀ r ∈ rest, ∀ key, r.status key ≠ none → table.status key ≠ none

def HasPrimary (log : List BackendStateChange) : Prop :=
  ∃ server, loggedStatus log ("primary_backend",server) ≠ none

def PrimaryUp (log : List BackendStateChange) : Prop :=
  ∃ server status, loggedStatus log ("primary_backend",server) = some status ∧
    upperStartsWithUp status = true

/-- Green says that a server is UP, and red that none is. -/
def Tells (color : Option String) (up : Prop) : Prop :=
  (color = some "#2ecc71" ↔ up) ∧ (color = some "#e74c3c" ↔ ¬up)

def windowed (s e : Timestamp) (obs : List ObserverFrameRow) : List ObserverFrameRow :=
  obs.filter fun r => within s e r.ts

def windowedClient (s e : Timestamp) (cli : List ClientFrameRow) : List ClientFrameRow :=
  cli.filter fun r => within s e r.ts

def HaproxyTrace.window (trace : HaproxyTrace) (s e : Timestamp) :
    List (Timestamp × BackendStateChange) :=
  trace.log.filter fun event => within s e event.1

def HaproxyTrace.before (trace : HaproxyTrace) (s : Timestamp) : List BackendStateChange :=
  (trace.log.filter fun event => event.1 < s).map Prod.snd

/-- The whole log up to an instant of the chart. -/
def HaproxyTrace.replay (trace : HaproxyTrace) (wStart : Timestamp) (x : ℚ) :
    List BackendStateChange :=
  (upTo (fun e => seconds wStart e.1) x trace.log).map Prod.snd

/-- The lane of HAProxy, in a chart of these frames, says at every instant what the whole log
does. -/
def AggregateShown (trace : HaproxyTrace) (obs : List ObserverFrameRow)
    (cli : List ClientFrameRow) (chart : GanttChart) : Prop :=
  ∀ lane ∈ chart.lanes, lane.label = "HAProxy" →
    ∀ x, 0 ≤ x → x ≤ seconds (chartStart obs cli) (chartEnd obs cli) →
      Tells (shownAt lane.painted x) (PrimaryUp (trace.replay (chartStart obs cli) x))

/-- What the events of a window must tell of those before it. -/
structure WindowTells (before : List BackendStateChange) (wStart : Timestamp)
    (window : List (Timestamp × BackendStateChange)) : Prop where
  /-- If the window does not begin with the first event, there is a bar before it, and what it is
  made from, the status of a single server, tells whether any server was UP. -/
  start : ∀ first rest, window = first :: rest → wStart < first.1 →
    5 / 100 < seconds wStart first.1 ∧
      if first.2.backend = "" then PrimaryUp before
      else first.2.backend = "primary_backend" ∧
        (upperStartsWithUp first.2.oldValue = true ↔ PrimaryUp before)
  /-- From then on the primary_backend has had an event, and while a server is UP, one that has
  had an event is. -/
  events : ∀ done e after, Cut Prod.fst window done e after →
    HasPrimary ((done ++ [e]).map Prod.snd) ∧
      (PrimaryUp (before ++ (done ++ [e]).map Prod.snd) → PrimaryUp ((done ++ [e]).map Prod.snd))

section Decoding

theorem plain_fields (c : BackendStateChange) :
    ∀ field ∈ [("backend",c.backend),("server",c.server),("check_status",c.checkStatus),
      ("check_duration",c.checkDuration),("last_chk",c.lastChk)], Plain field.1 := by
  have hkeys : ∀ key ∈ ["backend","server","check_status","check_duration","last_chk"],
      Plain key := by decide
  intro field hfield
  simp only [List.mem_cons,List.not_mem_nil,or_false] at hfield
  rcases hfield with rfl | rfl | rfl | rfl | rfl <;> exact hkeys _ (by simp)

theorem detailServer_emission (c : BackendStateChange) :
    detailServer (some c.emission.detail) =
      if c.backend ≠ "" ∧ c.server ≠ "" then some c.key else none := by
  have hloads := jsonLoads_jsonDumps (plain_fields c)
  have hdetail : c.emission.detail = jsonDumps (jsonTexts [("backend",c.backend),
      ("server",c.server),("check_status",c.checkStatus),("check_duration",c.checkDuration),
      ("last_chk",c.lastChk)]) := rfl
  have hne : c.emission.detail ≠ "" := by
    intro hempty
    have hnone : jsonLoads "" = none := by decide
    rw [← hdetail,hempty,hnone] at hloads
    contradiction
  rw [detailServer,Option.filter_some,if_pos (decide_eq_true hne),Option.bind_some,hdetail,hloads]
  rfl

theorem haproxyWatch_server (polls : List HaproxyResponse) :
    ∀ c ∈ (haproxyWatch polls).2, c.server ≠ "" := by
  induction polls using List.reverseRecOn with
  | nil => exact fun c hc => absurd hc List.not_mem_nil
  | append_singleton polls r ih =>
    intro c hc
    rw [haproxyWatch_snoc] at hc
    rcases List.mem_append.mp hc with hc | hc
    · exact ih c hc
    · cases r with
      | requestException text => contradiction
      | stats table =>
        obtain ⟨row,hrow,hc⟩ := List.mem_flatMap.mp hc
        have hkey := rowChange_key _ _ row c hc
        have hserver : c.server = row.svname.getD "" := congrArg Prod.snd hkey
        have hisServer := (List.mem_filter.mp hrow).2
        rw [hserver]
        intro hempty
        simp [HaproxyRow.isServer,hempty] at hisServer

end Decoding

section Replay

variable {log : List (Timestamp × BackendStateChange)} {node : String}

theorem loggedStatus_concat (changes : List BackendStateChange) (c : BackendStateChange)
    (key : String × String) : loggedStatus (changes ++ [c]) key =
      if c.key = key then some c.newValue else loggedStatus changes key := by
  rw [loggedStatus,List.filter_append]
  split
  next hkey =>
    rw [List.filter_cons_of_pos (by simpa using hkey),List.filter_nil,List.getLast?_concat]
    rfl
  next hkey =>
    rw [List.filter_cons_of_neg (by simpa using hkey),List.filter_nil,List.append_nil]
    rfl

theorem loggedStatus_or (before changes : List BackendStateChange) (key : String × String) :
    loggedStatus (before ++ changes) key =
      (loggedStatus changes key).or (loggedStatus before key) := by
  rw [loggedStatus,List.filter_append,List.getLast?_append,Option.map_or]
  rfl

theorem ServerStates.mem_set {states : ServerStates} {server key : String × String}
    {status status' : String} : (key,status') ∈ states.set server status ↔
      if server = key then status' = status else (key,status') ∈ states := by
  rw [ServerStates.set,List.mem_cons,List.mem_filter]
  split
  next h =>
    subst h
    simp
  next h => simp [Ne.symm h]

theorem mem_states_iff (hlog : ∀ e ∈ log, e.2.server ≠ "") (server status : String) :
    (("primary_backend",server),status) ∈ (log.map (haproxyRow node)).foldl haproxyStates [] ↔
      loggedStatus (log.map Prod.snd) ("primary_backend",server) = some status := by
  induction log using List.reverseRecOn with
  | nil => simp [loggedStatus]
  | append_singleton log e ih =>
    have hrest := ih fun e' he' => hlog e' (List.mem_append_left _ he')
    have hserver := hlog e (by simp)
    rw [List.map_append,List.map_singleton,List.foldl_append,List.foldl_cons,List.foldl_nil,
      List.map_append,List.map_singleton,loggedStatus_concat,haproxyStates,haproxyRow,
      detailServer_emission]
    by_cases hbackend : e.2.backend = ""
    · have hother : e.2.key ≠ ("primary_backend",server) := by
        intro hkey
        have hprimary : e.2.backend = "primary_backend" := congrArg Prod.fst hkey
        rw [hbackend] at hprimary
        exact absurd hprimary (by decide)
      rw [if_neg (fun h => h.1 hbackend),if_neg hother]
      exact hrest
    · rw [if_pos ⟨hbackend,hserver⟩]
      dsimp only
      rw [ServerStates.mem_set]
      split
      next => rw [Option.some.injEq,eq_comm]
      next => exact hrest

theorem exists_primary_iff {states : ServerStates} (p : String → Prop) :
    (∃ entry ∈ states.filter (fun entry => entry.1.1 = "primary_backend"), p entry.2) ↔
      ∃ server status, (("primary_backend",server),status) ∈ states ∧ p status := by
  constructor
  · rintro ⟨⟨⟨backend,server⟩,status⟩,hentry,hp⟩
    obtain ⟨hmem,hbackend⟩ := List.mem_filter.mp hentry
    obtain rfl : backend = "primary_backend" := by simpa using hbackend
    exact ⟨server,status,hmem,hp⟩
  · rintro ⟨server,status,hmem,hp⟩
    exact ⟨_,List.mem_filter.mpr ⟨hmem,by simp⟩,hp⟩

theorem not_tells {color : Option String} {up : Prop} (hgreen : color ≠ some "#2ecc71")
    (hred : color ≠ some "#e74c3c") : ¬Tells color up :=
  fun h => hred (h.2.mpr fun hup => hgreen (h.1.mpr hup))

theorem tells_aggregate_iff {states : ServerStates} {up : Prop} :
    Tells (some (haproxyAggregateColor states)) up ↔
      (∃ server status, (("primary_backend",server),status) ∈ states) ∧
        (up ↔ ∃ server status, (("primary_backend",server),status) ∈ states ∧
          upperStartsWithUp status = true) := by
  have hsome : (states.filter fun entry => entry.1.1 = "primary_backend").isEmpty = false ↔
      ∃ server status, (("primary_backend",server),status) ∈ states := by
    rw [List.isEmpty_eq_false_iff_exists_mem]
    simp
  have hany : (states.filter fun entry => entry.1.1 = "primary_backend").any
      (fun entry => upperStartsWithUp entry.2) = true ↔
        ∃ server status, (("primary_backend",server),status) ∈ states ∧
          upperStartsWithUp status = true := by
    rw [List.any_eq_true]
    exact exists_primary_iff fun status => upperStartsWithUp status = true
  rw [← hsome,← hany,haproxyAggregateColor]
  cases (states.filter fun entry => entry.1.1 = "primary_backend").isEmpty with
  | true =>
    have hneither : ¬Tells (some "#f39c12") up := not_tells (by decide) (by decide)
    simpa using hneither
  | false =>
    cases (states.filter fun entry => entry.1.1 = "primary_backend").any
        fun entry => upperStartsWithUp entry.2 with
    | true => simp [Tells]
    | false => simp [Tells]

theorem haproxyColors_split (states : ServerStates) (done : List ObserverFrameRow)
    (e : ObserverFrameRow) (after : List ObserverFrameRow) :
    ∃ early late, haproxyColors states (done ++ e :: after) =
        early ++ haproxyAggregateColor ((done ++ [e]).foldl haproxyStates states) :: late ∧
      early.length = done.length := by
  induction done generalizing states with
  | nil => exact ⟨[],_,rfl,rfl⟩
  | cons d done ih =>
    obtain ⟨early,late,hcolors,hlength⟩ := ih (haproxyStates states d)
    exact ⟨haproxyAggregateColor (haproxyStates states d) :: early,late,
      by rw [List.cons_append,haproxyColors,hcolors]; rfl,congrArg Nat.succ hlength⟩

/-- What is told by the events of a window, after some of them. -/
theorem tells_states_iff (hlog : ∀ e ∈ log, e.2.server ≠ "") (before : List BackendStateChange) :
    Tells (some (haproxyAggregateColor ((log.map (haproxyRow node)).foldl haproxyStates [])))
        (PrimaryUp (before ++ log.map Prod.snd)) ↔
      HasPrimary (log.map Prod.snd) ∧
        (PrimaryUp (before ++ log.map Prod.snd) → PrimaryUp (log.map Prod.snd)) := by
  have hup : PrimaryUp (log.map Prod.snd) → PrimaryUp (before ++ log.map Prod.snd) := by
    rintro ⟨server,status,hstatus,hup⟩
    exact ⟨server,status,by rw [loggedStatus_or,hstatus]; rfl,hup⟩
  have hhas : HasPrimary (log.map Prod.snd) ↔
      ∃ server status, loggedStatus (log.map Prod.snd) ("primary_backend",server) = some status :=
    exists_congr fun server => Option.ne_none_iff_exists'
  simp only [tells_aggregate_iff,mem_states_iff hlog]
  rw [hhas]
  exact and_congr_right fun _ => ⟨fun h => h.mp,fun h => ⟨h,hup⟩⟩

theorem tells_single_iff {server : String × String} {status : String} {up : Prop} :
    Tells (some (haproxyAggregateColor [(server,status)])) up ↔
      server.1 = "primary_backend" ∧ (upperStartsWithUp status = true ↔ up) := by
  obtain ⟨backend,name⟩ := server
  have hentry : ∀ server status', (("primary_backend",server),status') ∈ [((backend,name),status)] ↔
      backend = "primary_backend" ∧ server = name ∧ status' = status := by
    intro server status'
    simp [eq_comm,and_assoc]
  simp only [tells_aggregate_iff,hentry]
  constructor
  · rintro ⟨⟨-,-,hprimary,-,-⟩,hiff⟩
    refine ⟨hprimary,?_⟩
    rw [hiff]
    exact ⟨fun hup => ⟨name,status,⟨hprimary,rfl,rfl⟩,hup⟩,
      fun ⟨_,_,⟨_,_,hstatus⟩,hup⟩ => hstatus ▸ hup⟩
  · rintro ⟨hprimary,hiff⟩
    refine ⟨⟨name,status,hprimary,rfl,rfl⟩,?_⟩
    rw [← hiff]
    exact ⟨fun hup => ⟨name,status,⟨hprimary,rfl,rfl⟩,hup⟩,
      fun ⟨_,_,⟨_,_,hstatus⟩,hup⟩ => hstatus ▸ hup⟩

theorem tells_initial_iff {first : Timestamp × BackendStateChange} (hserver : first.2.server ≠ "")
    {up : Prop} : Tells (some (initialHaproxyColor (haproxyRow node first))) up ↔
      if first.2.backend = "" then up
      else first.2.backend = "primary_backend" ∧
        (upperStartsWithUp first.2.oldValue = true ↔ up) := by
  rw [initialHaproxyColor,haproxyRow,detailServer_emission]
  by_cases hbackend : first.2.backend = ""
  · rw [if_neg fun h => h.1 hbackend,if_pos hbackend]
    simp [Tells]
  · rw [if_pos ⟨hbackend,hserver⟩,if_neg hbackend]
    exact tells_single_iff

end Replay

section Chart

variable {compile : String → Option (String → Bool)} {obs : List ObserverFrameRow}
  {cli : List ClientFrameRow} {chart : GanttChart} {lane : GanttLane} {trace : HaproxyTrace}
  {node : String} {s e wStart wEnd : Timestamp} {x : ℚ}

theorem HaproxyTrace.log_ordered (trace : HaproxyTrace) :
    trace.log.Pairwise fun a b => a.1 ≤ b.1 := by
  have htimes := trace.ordered
  rw [← List.map_fst_zip trace.length.le] at htimes
  exact List.pairwise_map.mp htimes

theorem HaproxyTrace.log_server (trace : HaproxyTrace) : ∀ ev ∈ trace.log, ev.2.server ≠ "" :=
  fun _ hev => haproxyWatch_server trace.polls _ (List.of_mem_zip hev).2

theorem HaproxyTrace.window_ordered (trace : HaproxyTrace) (s e : Timestamp) :
    (trace.window s e).Pairwise fun a b => a.1 ≤ b.1 :=
  trace.log_ordered.filter _

theorem HaproxyTrace.replay_eq (trace : HaproxyTrace) (hlo : seconds wStart s ≤ x)
    (hhi : x ≤ seconds wStart e) : trace.replay wStart x = trace.before s ++
      (upTo (fun ev => seconds wStart ev.1) x (trace.window s e)).map Prod.snd := by
  have hordered : Ordered (fun ev : Timestamp × BackendStateChange => seconds wStart ev.1)
      trace.log := trace.log_ordered.imp fun {_ _} => seconds_le_iff.mpr
  have hbefore : (trace.log.filter fun ev => seconds wStart ev.1 < seconds wStart s) =
      trace.log.filter fun ev => ev.1 < s :=
    List.filter_congr fun ev _ => by rw [decide_eq_decide,seconds_lt_iff]
  have hwindow : (trace.log.filter fun ev => seconds wStart s ≤ seconds wStart ev.1 ∧
      seconds wStart ev.1 ≤ seconds wStart e) = trace.window s e :=
    List.filter_congr fun ev _ => by simp only [seconds_le_iff,within,Bool.decide_and]
  rw [HaproxyTrace.replay,hordered.upTo_window hlo hhi,List.map_append,hbefore,hwindow]
  rfl

theorem chart_within (hne : chartTimes (windowed s e obs) (windowedClient s e cli) ≠ []) :
    s ≤ chartStart (windowed s e obs) (windowedClient s e cli) ∧
      chartEnd (windowed s e obs) (windowedClient s e cli) ≤ e := by
  have hall : ∀ t ∈ chartTimes (windowed s e obs) (windowedClient s e cli), s ≤ t ∧ t ≤ e := by
    intro t ht
    rcases List.mem_append.mp ht with ht | ht <;> obtain ⟨r,hr,rfl⟩ := List.mem_map.mp ht
    · simpa [within] using (List.mem_filter.mp hr).2
    · simpa [within] using (List.mem_filter.mp hr).2
  obtain ⟨first,hfirst⟩ := Option.isSome_iff_exists.mp (List.isSome_min?_of_ne_nil hne)
  obtain ⟨last,hlast⟩ := Option.isSome_iff_exists.mp (List.isSome_max?_of_ne_nil hne)
  rw [chartStart,chartEnd,hfirst,hlast]
  exact ⟨(hall first (List.min?_mem hfirst)).1,(hall last (List.max?_mem hlast)).2⟩

theorem haproxyEvents_eq (hobs : (obs.filter fun r => r.component = "haproxy") =
      trace.log.map (haproxyRow node)) :
    sortByTs ((windowed s e obs).filter fun r =>
      !isTimelineChange r && r.component = "haproxy") =
        (trace.window s e).map (haproxyRow node) := by
  have hfilter : ((windowed s e obs).filter fun r =>
      !isTimelineChange r && r.component = "haproxy") =
        (trace.window s e).map (haproxyRow node) := by
    have hrows : ((windowed s e obs).filter fun r => r.component = "haproxy") =
        (trace.window s e).map (haproxyRow node) := by
      rw [windowed,List.filter_filter]
      simp only [Bool.and_comm]
      rw [← List.filter_filter,hobs,List.filter_map]
      rfl
    rw [← List.filter_filter,hrows,List.filter_eq_self,List.forall_mem_map]
    exact fun ev _ => rfl
  rw [hfilter,sortByTs]
  refine List.mergeSort_of_pairwise (List.pairwise_map.mpr ?_)
  exact (trace.window_ordered s e).imp fun {_ _} h => decide_eq_true h

/-- What a chart shows of a log: the frame of the whole session has its events, and the chart is
drawn from a window. -/
structure ShowsWindow (compile : String → Option (String → Bool)) (obs : List ObserverFrameRow)
    (cli : List ClientFrameRow) (node : String) (trace : HaproxyTrace) (s e : Timestamp)
    (chart : GanttChart) : Prop where
  rows : (obs.filter fun r => r.component = "haproxy") = trace.log.map (haproxyRow node)
  drawn : buildGanttChart compile (windowed s e obs) (windowedClient s e cli) = some chart

theorem haproxyLane_eq (h : ShowsWindow compile obs cli node trace s e chart)
    (hlane : lane ∈ chart.lanes) (hlabel : lane.label = "HAProxy")
    {first : Timestamp × BackendStateChange} {rest : List (Timestamp × BackendStateChange)}
    (hwindow : trace.window s e = first :: rest) :
    lane.painted = paint (initialHaproxyColor (haproxyRow node first))
      (haproxyColors [] ((first :: rest).map (haproxyRow node)))
      (stateBars "HAProxy" (chartStart (windowed s e obs) (windowedClient s e cli))
        (chartEnd (windowed s e obs) (windowedClient s e cli))
        ((first :: rest).map (haproxyRow node))) := by
  obtain ⟨-,hdrawn⟩ := chart_lane h.drawn hlane
  rw [hlabel,observerLane,if_pos rfl,Option.some.injEq,componentLane,haproxyEvents_eq h.rows,
    hwindow] at hdrawn
  rw [← hdrawn,GanttLane.painted]
  dsimp only
  rw [stateBars_events]
  rfl

theorem mem_windowed (h : ShowsWindow compile obs cli node trace s e chart)
    {ev : Timestamp × BackendStateChange} (hev : ev ∈ trace.window s e) :
    haproxyRow node ev ∈ windowed s e obs := by
  obtain ⟨hlog,hwithin⟩ := List.mem_filter.mp hev
  have hrow : haproxyRow node ev ∈ obs.filter fun r => r.component = "haproxy" :=
    h.rows ▸ List.mem_map_of_mem hlog
  exact List.mem_filter.mpr ⟨(List.mem_filter.mp hrow).1,hwithin⟩

theorem exists_haproxyLane (h : ShowsWindow compile obs cli node trace s e chart)
    (hne : trace.window s e ≠ []) : ∃ lane ∈ chart.lanes, lane.label = "HAProxy" := by
  obtain ⟨ev,hev⟩ := List.exists_mem_of_ne_nil _ hne
  have hcomponent : hasComponent "haproxy" (windowed s e obs) = true :=
    List.any_eq_true.mpr ⟨_,mem_windowed h hev,rfl⟩
  refine exists_lane h.drawn ?_
  rw [observerLanes,if_pos hcomponent]
  exact List.mem_append_left _ (List.mem_append_left _ (List.mem_singleton_self _))

theorem window_nonempty (h : ShowsWindow compile obs cli node trace s e chart)
    (hlane : lane ∈ chart.lanes) (hlabel : lane.label = "HAProxy") : trace.window s e ≠ [] := by
  have hmem := hlabel ▸ (chart_lane h.drawn hlane).1
  cases hcomponent : hasComponent "haproxy" (windowed s e obs) with
  | false =>
    have hconsul :
        "HAProxy" ∉ if hasComponent "consul" (windowed s e obs) then ["Consul"] else [] := by
      split <;> simp
    have hnodes : "HAProxy" ∉ (patroniNodes (windowed s e obs)).map laneOf := by
      rw [List.mem_map]
      rintro ⟨other,-,hother⟩
      exact laneOf_ne (by decide) other hother
    rw [observerLanes,hcomponent] at hmem
    rcases List.mem_append.mp hmem with hmem | hmem
    · rcases List.mem_append.mp hmem with hmem | hmem
      · contradiction
      · exact absurd hmem hconsul
    · exact absurd hmem hnodes
  | true =>
    obtain ⟨r,hr,hhaproxy⟩ := List.any_eq_true.mp hcomponent
    obtain ⟨hrow,hwithin⟩ := List.mem_filter.mp hr
    have hlog : r ∈ trace.log.map (haproxyRow node) :=
      h.rows ▸ List.mem_filter.mpr ⟨hrow,hhaproxy⟩
    obtain ⟨ev,hev,rfl⟩ := List.mem_map.mp hlog
    exact List.ne_nil_of_mem (List.mem_filter.mpr ⟨hev,hwithin⟩)

section Shown

variable {first : Timestamp × BackendStateChange} {rest : List (Timestamp × BackendStateChange)}

theorem haproxyLane_after (h : ShowsWindow compile obs cli node trace s e chart)
    (hlane : lane ∈ chart.lanes) (hlabel : lane.label = "HAProxy")
    (hstart : chartStart (windowed s e obs) (windowedClient s e cli) = wStart)
    (hend : chartEnd (windowed s e obs) (windowedClient s e cli) = wEnd)
    (hx : x ≤ seconds wStart wEnd)
    (hne : upTo (fun ev => seconds wStart ev.1) x (trace.window s e) ≠ []) :
    shownAt lane.painted x = some (haproxyAggregateColor
      (((upTo (fun ev => seconds wStart ev.1) x (trace.window s e)).map
        (haproxyRow node)).foldl haproxyStates [])) := by
  have hordered : Ordered (fun ev : Timestamp × BackendStateChange => seconds wStart ev.1)
      (trace.window s e) := (trace.window_ordered s e).imp fun {_ _} => seconds_le_iff.mpr
  obtain ⟨done,ev,after,⟨hsplit,-⟩,hev,hafter⟩ := exists_cut hordered hne
  have hwindow : trace.window s e ≠ [] := by simp [hsplit]
  obtain ⟨first,rest,hwindow⟩ := List.exists_cons_of_ne_nil hwindow
  obtain ⟨early,late,hcolors,hlength⟩ := haproxyColors_split [] (done.map (haproxyRow node))
    (haproxyRow node ev) (after.map (haproxyRow node))
  rw [hsplit] at hordered
  rw [haproxyLane_eq h hlane hlabel hwindow,hstart,hend,← hwindow,hsplit,
    hordered.upTo_eq hev hafter,List.map_append,List.map_append,List.map_cons,hcolors]
  exact shownAt_paint (hlength.trans (by rw [List.length_map])) hev
    (List.forall_mem_map.mpr hafter) hx

theorem haproxyLane_before (h : ShowsWindow compile obs cli node trace s e chart)
    (hlane : lane ∈ chart.lanes) (hlabel : lane.label = "HAProxy")
    (hstart : chartStart (windowed s e obs) (windowedClient s e cli) = wStart)
    (hwindow : trace.window s e = first :: rest) (hzero : 0 ≤ x) (hx : x < seconds wStart first.1) :
    shownAt lane.painted x = if 5 / 100 < seconds wStart first.1 then
      some (initialHaproxyColor (haproxyRow node first)) else none := by
  have hordered := trace.window_ordered s e
  rw [hwindow] at hordered
  have hlater : ∀ row ∈ (first :: rest).map (haproxyRow node), x < seconds wStart row.ts := by
    rw [List.forall_mem_map,List.forall_mem_cons]
    refine ⟨hx,fun ev hev => lt_of_lt_of_le hx (seconds_le_iff.mpr ?_)⟩
    exact (List.pairwise_cons.mp hordered).1 ev hev
  rw [haproxyLane_eq h hlane hlabel hwindow,hstart]
  exact shownAt_before hzero hlater

end Shown

section Law

variable (h : ShowsWindow compile obs cli node trace s e chart)
  (hstart : chartStart (windowed s e obs) (windowedClient s e cli) = wStart)
  (hend : chartEnd (windowed s e obs) (windowedClient s e cli) = wEnd)
  (hlane : lane ∈ chart.lanes) (hlabel : lane.label = "HAProxy")

include h hstart hend

theorem replay_window (hne : trace.window s e ≠ []) (hzero : 0 ≤ x) (hx : x ≤ seconds wStart wEnd) :
    trace.replay wStart x = trace.before s ++
      (upTo (fun ev => seconds wStart ev.1) x (trace.window s e)).map Prod.snd := by
  obtain ⟨ev,hev⟩ := List.exists_mem_of_ne_nil _ hne
  have hmem := List.mem_append_left ((windowedClient s e cli).map ClientFrameRow.ts)
    (List.mem_map_of_mem (f := ObserverFrameRow.ts) (mem_windowed h hev))
  obtain ⟨hlo,hhi⟩ : s ≤ chartStart (windowed s e obs) (windowedClient s e cli) ∧
      chartEnd (windowed s e obs) (windowedClient s e cli) ≤ e :=
    chart_within (List.ne_nil_of_mem hmem)
  rw [hstart] at hlo
  rw [hend] at hhi
  refine trace.replay_eq (le_trans ?_ hzero) (le_trans hx (seconds_le_iff.mpr hhi))
  rw [← seconds_self wStart]
  exact seconds_le_iff.mpr hlo

theorem window_within {ev : Timestamp × BackendStateChange} (hev : ev ∈ trace.window s e) :
    0 ≤ seconds wStart ev.1 ∧ seconds wStart ev.1 ≤ seconds wStart wEnd := by
  have hmem := List.mem_append_left ((windowedClient s e cli).map ClientFrameRow.ts)
    (List.mem_map_of_mem (f := ObserverFrameRow.ts) (mem_windowed h hev))
  obtain ⟨hlo,hhi⟩ := chart_contains hmem
  rw [hstart] at hlo
  rw [hend] at hhi
  rw [← seconds_self wStart]
  exact ⟨seconds_le_iff.mpr hlo,seconds_le_iff.mpr hhi⟩

include hlane hlabel

theorem tells_after_iff : (∀ x ≤ seconds wStart wEnd,
      upTo (fun ev => seconds wStart ev.1) x (trace.window s e) ≠ [] →
        Tells (shownAt lane.painted x) (PrimaryUp (trace.replay wStart x))) ↔
      ∀ done ev after, Cut Prod.fst (trace.window s e) done ev after →
        HasPrimary ((done ++ [ev]).map Prod.snd) ∧
          (PrimaryUp (trace.before s ++ (done ++ [ev]).map Prod.snd) →
            PrimaryUp ((done ++ [ev]).map Prod.snd)) := by
  have hordered : Ordered (fun ev : Timestamp × BackendStateChange => seconds wStart ev.1)
      (trace.window s e) := (trace.window_ordered s e).imp fun {_ _} => seconds_le_iff.mpr
  have hserver : ∀ ev ∈ trace.window s e, ev.2.server ≠ "" :=
    fun ev hev => trace.log_server ev (List.mem_filter.mp hev).1
  have hcut : ∀ done ev after, Cut (fun ev : Timestamp × BackendStateChange => seconds wStart ev.1)
      (trace.window s e) done ev after ↔ Cut Prod.fst (trace.window s e) done ev after := by
    intro done ev after
    constructor
    · exact fun h => ⟨h.split,fun a ha => seconds_lt_iff.mp (h.later a ha)⟩
    · exact fun h => ⟨h.split,fun a ha => seconds_lt_iff.mpr (h.later a ha)⟩
  simp only [← hcut]
  rw [← forall_upTo_iff (P := fun log => HasPrimary (log.map Prod.snd) ∧
    (PrimaryUp (trace.before s ++ log.map Prod.snd) → PrimaryUp (log.map Prod.snd))) hordered
      fun ev hev => (window_within h hstart hend hev).2]
  refine forall_congr' fun x => imp_congr_right fun hx => imp_congr_right fun hne => ?_
  obtain ⟨ev,hev⟩ := List.exists_mem_of_ne_nil _ hne
  obtain ⟨hmem,hle⟩ := List.mem_filter.mp hev
  have hzero : 0 ≤ x :=
    le_trans (window_within h hstart hend hmem).1 (of_decide_eq_true hle)
  rw [haproxyLane_after h hlane hlabel hstart hend hx hne,
    replay_window h hstart hend (List.ne_nil_of_mem hmem) hzero hx]
  exact tells_states_iff (fun ev hev => hserver ev (List.mem_filter.mp hev).1) _

theorem tells_before_iff {first : Timestamp × BackendStateChange}
    {rest : List (Timestamp × BackendStateChange)} (hwindow : trace.window s e = first :: rest) :
    (∀ x, 0 ≤ x → x < seconds wStart first.1 →
        Tells (shownAt lane.painted x) (PrimaryUp (trace.replay wStart x))) ↔
      (wStart < first.1 → 5 / 100 < seconds wStart first.1 ∧
        if first.2.backend = "" then PrimaryUp (trace.before s)
        else first.2.backend = "primary_backend" ∧
          (upperStartsWithUp first.2.oldValue = true ↔ PrimaryUp (trace.before s))) := by
  have hmem : first ∈ trace.window s e := hwindow ▸ List.mem_cons_self
  have hserver := trace.log_server first (List.mem_filter.mp hmem).1
  have hordered := trace.window_ordered s e
  rw [hwindow] at hordered
  have htells : ∀ x, 0 ≤ x → x < seconds wStart first.1 →
      (Tells (shownAt lane.painted x) (PrimaryUp (trace.replay wStart x)) ↔
        5 / 100 < seconds wStart first.1 ∧
          if first.2.backend = "" then PrimaryUp (trace.before s)
          else first.2.backend = "primary_backend" ∧
            (upperStartsWithUp first.2.oldValue = true ↔ PrimaryUp (trace.before s))) := by
    intro x hzero hx
    have hnothing : upTo (fun ev => seconds wStart ev.1) x (trace.window s e) = [] := by
      refine List.filter_eq_nil_iff.mpr fun ev hev => ?_
      rw [hwindow] at hev
      have hlater : seconds wStart first.1 ≤ seconds wStart ev.1 := by
        rcases List.mem_cons.mp hev with rfl | hev
        · exact le_rfl
        · exact seconds_le_iff.mpr ((List.pairwise_cons.mp hordered).1 ev hev)
      simpa using lt_of_lt_of_le hx hlater
    rw [haproxyLane_before h hlane hlabel hstart hwindow hzero hx,
      replay_window h hstart hend (List.ne_nil_of_mem hmem) hzero
        (hx.le.trans (window_within h hstart hend hmem).2),hnothing,List.map_nil,List.append_nil]
    split
    next hlong => rw [tells_initial_iff hserver,and_iff_right hlong]
    next hshort =>
      exact iff_of_false (not_tells (by simp) (by simp)) fun hlong => hshort hlong.1
  constructor
  · intro hall hlt
    have hpos : 0 < seconds wStart first.1 := seconds_pos hlt
    exact (htells 0 le_rfl hpos).mp (hall 0 le_rfl hpos)
  · intro hfirst x hzero hx
    refine (htells x hzero hx).mpr (hfirst ?_)
    rw [← seconds_lt_iff (t := wStart),seconds_self]
    exact lt_of_le_of_lt hzero hx

end Law

theorem AggregateShown.tells (h : ShowsWindow compile obs cli node trace s e chart)
    (hshown : AggregateShown trace (windowed s e obs) (windowedClient s e cli) chart) :
    WindowTells (trace.before s) (chartStart (windowed s e obs) (windowedClient s e cli))
      (trace.window s e) := by
  constructor
  · intro first rest hwindow
    have hmem : first ∈ trace.window s e := hwindow ▸ List.mem_cons_self
    obtain ⟨lane,hlane,hlabel⟩ := exists_haproxyLane h (List.ne_nil_of_mem hmem)
    refine (tells_before_iff h rfl rfl hlane hlabel hwindow).mp fun x hzero hx => ?_
    exact hshown lane hlane hlabel x hzero (hx.le.trans (window_within h rfl rfl hmem).2)
  · intro done ev after hcut
    have hmem : ev ∈ trace.window s e := hcut.split ▸ List.mem_append_right _ List.mem_cons_self
    obtain ⟨lane,hlane,hlabel⟩ := exists_haproxyLane h (List.ne_nil_of_mem hmem)
    refine (tells_after_iff h rfl rfl hlane hlabel).mp (fun x hx hne => ?_) done ev after hcut
    obtain ⟨ev',hev'⟩ := List.exists_mem_of_ne_nil _ hne
    obtain ⟨hmem',hle⟩ := List.mem_filter.mp hev'
    exact hshown lane hlane hlabel x
      (le_trans (window_within h rfl rfl hmem').1 (of_decide_eq_true hle)) hx

theorem WindowTells.shown (h : ShowsWindow compile obs cli node trace s e chart)
    (htells : WindowTells (trace.before s)
      (chartStart (windowed s e obs) (windowedClient s e cli)) (trace.window s e)) :
    AggregateShown trace (windowed s e obs) (windowedClient s e cli) chart := by
  intro lane hlane hlabel x hzero hx
  obtain ⟨first,rest,hwindow⟩ := List.exists_cons_of_ne_nil (window_nonempty h hlane hlabel)
  by_cases hne : upTo (fun ev => seconds
      (chartStart (windowed s e obs) (windowedClient s e cli)) ev.1) x (trace.window s e) = []
  · have hbefore :
        x < seconds (chartStart (windowed s e obs) (windowedClient s e cli)) first.1 := by
      have hfirst := List.filter_eq_nil_iff.mp hne first (hwindow ▸ List.mem_cons_self)
      simpa using hfirst
    exact (tells_before_iff h rfl rfl hlane hlabel hwindow).mpr
      (htells.start first rest hwindow) x hzero hbefore
  · exact (tells_after_iff h rfl rfl hlane hlabel).mpr htells.events x hx hne

end Chart

section Maintenance

def primaryServer (svname status : String) : HaproxyRow :=
  { HaproxyRow.ofServer svname status with pxname := some "primary_backend" }

def nodesListed : StatsTable where
  rows := [primaryServer "patroni-node1" "UP",primaryServer "patroni-node2" "DOWN"]
  distinct := by decide

def secondInMaintenance : StatsTable where
  rows := [primaryServer "patroni-node1" "UP",primaryServer "patroni-node2" "MAINT"]
  distinct := by decide

/-- The second server goes into maintenance, long after the log has begun. -/
def maintenanceTrace : HaproxyTrace where
  polls := [.stats nodesListed,.stats secondInMaintenance]
  times := [1777000000000000,1777000000000200,1777000600000000]
  length := by decide
  ordered := by decide

def maintenanceRows : List ObserverFrameRow := maintenanceTrace.log.map (haproxyRow "haproxy")

def maintenanceQueries : List ClientFrameRow :=
  [{ ts := 1777000590000000, success := true, latencyUs := 900, error := "" },
    { ts := 1777000610000000, success := true, latencyUs := 900, error := "" }]

def maintenanceObs : List ObserverFrameRow :=
  windowed 1777000590000000 1777000610000000 maintenanceRows

def maintenanceCli : List ClientFrameRow :=
  windowedClient 1777000590000000 1777000610000000 maintenanceQueries

theorem maintenanceTrace_complete : maintenanceTrace.Complete := by
  refine ⟨nodesListed,_,rfl,fun r hr key hlisted => ?_⟩
  obtain rfl := List.mem_singleton.mp hr
  obtain ⟨status,hstatus⟩ := Option.ne_none_iff_exists'.mp hlisted
  obtain ⟨row,hrow,rfl,-⟩ := StatsTable.status_eq_some hstatus
  have hall : ∀ row ∈ secondInMaintenance.servers, nodesListed.status row.key ≠ none := by decide
  exact hall row hrow

theorem maintenanceTrace_shown : ∃ chart, ShowsWindow
    (fun pattern => some fun text => strContains text pattern) maintenanceRows maintenanceQueries
    "haproxy" maintenanceTrace 1777000590000000 1777000610000000 chart := by
  obtain ⟨chart,hchart⟩ : ∃ chart, buildGanttChart
      (fun pattern => some fun text => strContains text pattern) maintenanceObs maintenanceCli =
        some chart := exists_chart_iff.mpr fun _ _ => rfl
  refine ⟨chart,List.filter_eq_self.mpr ?_,hchart⟩
  rw [maintenanceRows,List.forall_mem_map]
  exact fun _ _ => rfl

end Maintenance

end RoutingBench
