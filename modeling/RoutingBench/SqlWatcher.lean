import RoutingBench.Milestones
import RoutingBench.Watcher
import RoutingBench.Waterfall
set_option autoImplicit false

/-!
The PostgreSQL watcher, which polls every node with SQL, and the four analyses that look for
the promotion it sees.
-/

namespace RoutingBench
open Aggregate

/-- What a poll meets: the two queries' answers, or an exception. -/
inductive PollResult where
  | row (inRecovery : Bool) (timeline : Int) (connCount : Nat)
  | exception (text : String)
  deriving DecidableEq, Repr

/-- A poll; `now n` is the time when it emits its event number `n`. -/
structure Poll where
  now : Nat → Timestamp
  result : PollResult

structure PostgresSQLWatcher where
  lastInRecovery : Option Bool := none
  lastTimeline : Option Int := none
  lastReachable : Option Bool := none
  deriving DecidableEq, Repr

def PostgresSQLWatcher.pollState (self : PostgresSQLWatcher) (emitInitial : Bool) :
    PollResult → PostgresSQLWatcher × List Emission
  | .row inRecovery timeline connCount =>
    let ready : List Emission := if self.lastReachable = some false then
      [⟨"pg_ready_accept_connections","unreachable","accepting_connections",
        jsonDumps [("in_recovery",jsonBool inRecovery),("timeline",toString timeline),
          ("connections",toString connCount)]⟩]
      else []
    let detail := jsonDumps [("timeline",toString timeline),("connections",toString connCount)]
    let state : List Emission :=
      if some inRecovery ≠ self.lastInRecovery ∧ (self.lastInRecovery ≠ none ∨ emitInitial) then
        if self.lastInRecovery = some true ∧ inRecovery = false then
          [⟨"pg_promote_detected","in_recovery","primary",detail⟩]
        else if self.lastInRecovery = some false ∧ inRecovery = true then
          [⟨"pg_demote_detected","primary","in_recovery",detail⟩]
        else if emitInitial then
          [⟨"pg_state_detected","none",if !inRecovery then "primary" else "in_recovery",detail⟩]
        else []
      else []
    let timelineChange : List Emission := match self.lastTimeline with
      | some last => if timeline ≠ last then
          [⟨"pg_timeline_change",toString last,toString timeline,
            jsonDumps [("in_recovery",jsonBool inRecovery),("connections",toString connCount)]⟩]
        else []
      | none => []
    ({ lastInRecovery := some inRecovery
       lastTimeline := some timeline
       lastReachable := some true },ready ++ state ++ timelineChange)
  | .exception text =>
    if self.lastReachable ≠ some false then
      ({ self with lastReachable := some false },
        if self.lastReachable ≠ none then
          [⟨"pg_connection_lost","accepting_connections","unreachable",
            String.ofList (text.toList.take 200)⟩]
        else [])
    else (self,[])

def Poll.stamp (p : Poll) (emissions : List Emission) : List (Timestamp × Emission) :=
  emissions.zipIdx.map fun (e,n) => (p.now n,e)

/-- What a watcher emits over its polls; only the first one, in `setup`, is initial. -/
def PostgresSQLWatcher.events (self : PostgresSQLWatcher) (emitInitial : Bool) :
    List Poll → List (Timestamp × Emission)
  | [] => []
  | p :: polls =>
    let r := self.pollState emitInitial p.result
    p.stamp r.2 ++ r.1.events false polls

def watcherEvents (polls : List Poll) : List (Timestamp × Emission) :=
  ({} : PostgresSQLWatcher).events true polls

section Watcher

variable {self : PostgresSQLWatcher} {emitInitial : Bool} {polls : List Poll}

theorem mem_stamp {p : Poll} {emissions : List Emission} {t : Timestamp} {e : Emission}
    (h : (t,e) ∈ p.stamp emissions) : e ∈ emissions ∧ ∃ n, t = p.now n := by
  obtain ⟨⟨e',n⟩,hmem,heq⟩ := List.mem_map.mp h
  obtain ⟨rfl,rfl⟩ := Prod.mk.inj heq
  exact ⟨List.fst_mem_of_mem_zipIdx hmem,n,rfl⟩

theorem stamp_mem {p : Poll} {emissions : List Emission} {e : Emission} (h : e ∈ emissions) :
    ∃ n, (p.now n,e) ∈ p.stamp emissions := by
  obtain ⟨n,hn,rfl⟩ := List.mem_iff_getElem.mp h
  exact ⟨n,List.mem_map.mpr ⟨(emissions[n],n),by simp [List.mem_zipIdx_iff_getElem?],rfl⟩⟩

theorem pollState_eventType (self : PostgresSQLWatcher) (emitInitial : Bool) (r : PollResult) :
    ∀ e ∈ (self.pollState emitInitial r).2, e.eventType ≠ "pg_promote_requested" := by
  cases r with
  | row inRecovery timeline connCount =>
    intro e he
    simp only [PostgresSQLWatcher.pollState,List.mem_append] at he
    rcases he with (he | he) | he
    · split at he <;> simp_all
    · split at he
      · split at he
        · simp_all
        · split at he
          · simp_all
          · split at he <;> simp_all
      · simp_all
    · split at he
      · split at he <;> simp_all
      · simp_all
  | exception text =>
    intro e he
    simp only [PostgresSQLWatcher.pollState] at he
    split at he
    · simp only at he
      split at he <;> simp_all
    · simp_all

/-- The watcher never says that a promotion was requested. -/
theorem events_eventType (self : PostgresSQLWatcher) (emitInitial : Bool) (polls : List Poll) :
    ∀ e ∈ self.events emitInitial polls, e.2.eventType ≠ "pg_promote_requested" := by
  induction polls generalizing self emitInitial with
  | nil => simp [PostgresSQLWatcher.events]
  | cons p polls ih =>
    intro e he
    rcases List.mem_append.mp he with he | he
    · exact pollState_eventType self emitInitial p.result _ (mem_stamp he).1
    · exact ih _ false e he

def PollResult.inRecovery : PollResult → Option Bool
  | .row inRecovery _ _ => some inRecovery
  | .exception _ => none

/-- The node is in recovery, then perhaps unreachable, and then not in recovery any more,
all after a time. -/
def Promotes (after : Timestamp) (polls : List Poll) : Prop :=
  ∃ before p unreachable q later, polls = before ++ p :: (unreachable ++ q :: later) ∧
    p.result.inRecovery = some true ∧ (∀ m ∈ unreachable, m.result.inRecovery = none) ∧
    q.result.inRecovery = some false ∧ ∀ n, after < q.now n

theorem lastInRecovery_of_exception {r : PollResult} (h : r.inRecovery = none) :
    (self.pollState emitInitial r).1.lastInRecovery = self.lastInRecovery := by
  cases r with
  | row => simp [PollResult.inRecovery] at h
  | exception text =>
    simp only [PostgresSQLWatcher.pollState]
    split <;> rfl

theorem lastInRecovery_of_row {r : PollResult} {b : Bool} (h : r.inRecovery = some b) :
    (self.pollState emitInitial r).1.lastInRecovery = some b := by
  cases r with
  | row inRecovery timeline connCount => exact h
  | exception text => simp [PollResult.inRecovery] at h

theorem promote_emitted (emitInitial : Bool) {r : PollResult} (hlast : self.lastInRecovery = some true)
    (h : r.inRecovery = some false) :
    ∃ e ∈ (self.pollState emitInitial r).2, e.eventType = "pg_promote_detected" ∧
      e.newValue = "primary" := by
  cases r with
  | row inRecovery timeline connCount =>
    obtain rfl := Option.some.inj h
    refine ⟨⟨"pg_promote_detected","in_recovery","primary",
      jsonDumps [("timeline",toString timeline),("connections",toString connCount)]⟩,?_,rfl,rfl⟩
    simp only [PostgresSQLWatcher.pollState,hlast]
    refine List.mem_append_left _ (List.mem_append_right _ ?_)
    simp
  | exception text => simp [PollResult.inRecovery] at h

/-- A promotion is emitted once the node answers again, whatever the watcher knew before. -/
theorem events_promotion {after : Timestamp} (h : Promotes after polls)
    (self : PostgresSQLWatcher) (emitInitial : Bool) :
    ∃ e ∈ self.events emitInitial polls, after < e.1 ∧ e.2.eventType = "pg_promote_detected" ∧
      e.2.newValue = "primary" := by
  obtain ⟨before,p,unreachable,q,later,rfl,hp,hmid,hq,hafter⟩ := h
  induction before generalizing self emitInitial with
  | cons b before ih =>
    obtain ⟨e,he,h⟩ := ih _ false
    exact ⟨e,List.mem_append_right _ he,h⟩
  | nil =>
    suffices hrest : ∀ w : PostgresSQLWatcher, w.lastInRecovery = some true →
        ∀ b, ∃ e ∈ w.events b (unreachable ++ q :: later), after < e.1 ∧
          e.2.eventType = "pg_promote_detected" ∧ e.2.newValue = "primary" by
      obtain ⟨e,he,h⟩ := hrest _ (lastInRecovery_of_row hp) false
      exact ⟨e,List.mem_append_right _ he,h⟩
    intro w hw b
    induction unreachable generalizing w b with
    | nil =>
      obtain ⟨e,he,htype,hnew⟩ := promote_emitted b hw hq
      obtain ⟨n,hn⟩ := stamp_mem (p := q) he
      exact ⟨_,List.mem_append_left _ hn,hafter n,htype,hnew⟩
    | cons m unreachable ih =>
      obtain ⟨e,he,h⟩ := ih (fun m' hm' => hmid m' (List.mem_cons_of_mem m hm')) _
        ((lastInRecovery_of_exception (hmid m List.mem_cons_self)).trans hw) false
      exact ⟨e,List.mem_append_right _ he,h⟩

end Watcher

/-- The row of an event that a node's watcher emits, tagged with the run. -/
def watcherRow (cid trid node : String) (e : Timestamp × Emission) : ObserverEvent where
  ts := e.1
  combinationId := cid
  testRunId := trid
  component := "postgres"
  node := node
  eventType := e.2.eventType
  oldValue := some e.2.oldValue
  newValue := e.2.newValue
  detail := some e.2.detail

/-- The event types of the view component_timing. -/
def timedEventTypes : List String :=
  ["role_change","leader_key_change","backend_state_change","vip_state_change","timeline_change",
    "pg_promote_requested","pg_ready_accept_connections"]

structure ComponentTiming where
  testRunId : String
  combinationId : String
  component : String
  node : String
  eventType : String
  firstDetected : Option Timestamp
  oldValue : Option String
  newValue : String
  deriving DecidableEq, Repr

/-- ORDER BY on a column that can be NULL. -/
def nullsLast : Option Timestamp → Option Timestamp → Bool
  | some a,some b => a ≤ b
  | some _,none => true
  | none,b => b.isNone

/-- The view component_timing: a row for each group of equal events. -/
def componentTiming (observerEvents : List ObserverEvent) : List ComponentTiming :=
  let rows := observerEvents.filter fun r => timedEventTypes.contains r.eventType
  let group := fun r : ObserverEvent => ComponentTiming.mk r.testRunId r.combinationId r.component
    r.node r.eventType none r.oldValue r.newValue
  ((rows.map group).dedup.map fun g => { g with
    firstDetected := minWhere (fun r => group r = g) ObserverEvent.ts rows }).mergeSort
      fun a b => nullsLast a.firstDetected b.firstDetected

theorem mem_componentTiming {rows : List ObserverEvent} {t : ComponentTiming}
    (h : t ∈ componentTiming rows) : ∃ r ∈ rows, r.eventType ∈ timedEventTypes ∧
      t.testRunId = r.testRunId ∧ t.eventType = r.eventType := by
  simp only [componentTiming,List.mem_mergeSort,List.mem_map,List.mem_dedup,List.mem_filter,
    List.contains_iff_mem] at h
  obtain ⟨g,⟨r,⟨hr,htype⟩,rfl⟩,rfl⟩ := h
  exact ⟨r,hr,htype,rfl,rfl⟩

/-- The rows of a run whose nodes are watched with SQL: everything the watchers emit is there,
nothing else is of the component postgres, and no other component asks for a promotion. -/
structure WatchedRun (watchers : List (String × List Poll)) (cid trid : String)
    (firstFailure : Timestamp) (db : Database) : Prop where
  registered : ∃ tr ∈ db.testRuns, tr.id = trid ∧ tr.combinationId = cid
  failure : minWhere (fun ce => ce.testRunId = trid && !ce.success) ClientEvent.ts
    db.clientEvents = some firstFailure
  delivered : ∀ w ∈ watchers, ∀ e ∈ watcherEvents w.2, watcherRow cid trid w.1 e ∈ db.observerEvents
  postgres : ∀ r ∈ db.observerEvents, r.testRunId = trid → r.component = "postgres" →
    ∃ w ∈ watchers, ∃ e ∈ watcherEvents w.2, r = watcherRow cid trid w.1 e
  others : ∀ r ∈ db.observerEvents, r.testRunId = trid → r.component ≠ "postgres" →
    r.eventType ≠ "pg_promote_requested"

structure PromotionReported (cid trid node : String) (db : Database) : Prop where
  milestones : (extractMilestones (loadObserverEvents db cid trid)
    (loadClientEvents db cid trid)).pgPromoted.isSome
  waterfall : ∃ b ∈ waterfallBase db cid, b.runId = trid ∧
    (waterfallMilestones db b).tPgPromote.isSome
  timing : ∃ t ∈ componentTiming db.observerEvents, t.testRunId = trid ∧ t.node = node ∧
    t.component = "postgres" ∧ t.eventType ∈ ["pg_promote_requested","pg_promote_detected"]
  overlap : ∀ p ∈ db.observerEvents, p.testRunId = trid → p.node = node →
    p.eventType = "pg_promote_detected" → ∀ r ∈ db.observerEvents, r.testRunId = trid →
      r.eventType = "pg_ready_accept_connections" → p.ts < r.ts →
        ∃ ph ∈ (extractOverlapPhases (loadObserverEvents db cid trid)
          (loadClientEvents db cid trid)).1, ph.name = "Patroni Promotion"

section Analyses

variable {watchers : List (String × List Poll)} {cid trid : String} {firstFailure : Timestamp}
  {db : Database}

theorem mem_loadObserverEvents {r : ObserverFrameRow} :
    r ∈ loadObserverEvents db cid trid ↔ ∃ e ∈ db.observerEvents, e.combinationId = cid ∧
      e.testRunId = trid ∧ e.frameRow = r := by
  simp [loadObserverEvents,and_assoc]

theorem WatchedRun.not_requested (h : WatchedRun watchers cid trid firstFailure db) :
    ∀ r ∈ db.observerEvents, r.testRunId = trid → r.eventType ≠ "pg_promote_requested" := by
  intro r hr hid
  by_cases hpg : r.component = "postgres"
  · obtain ⟨w,-,e,he,rfl⟩ := h.postgres r hr hid hpg
    exact events_eventType _ true w.2 e he
  · exact h.others r hr hid hpg

theorem lastTs_isSome_iff {obs : List ObserverFrameRow} {mask : ObserverFrameRow → Bool} :
    (lastTs obs mask).isSome ↔ ∃ r ∈ obs, mask r = true := by
  simp [lastTs]

theorem addPhase_name {name : String} {start stop : Option Timestamp} :
    ∀ ph ∈ addPhase name start stop, ph.name = name := by
  unfold addPhase
  split <;> simp

theorem WatchedRun.no_promotion_phase (h : WatchedRun watchers cid trid firstFailure db) :
    ∀ ph ∈ (extractOverlapPhases (loadObserverEvents db cid trid)
      (loadClientEvents db cid trid)).1, ph.name ≠ "Patroni Promotion" := by
  have hnone : lastTs (loadObserverEvents db cid trid)
      (fun r => r.eventType == "pg_promote_requested") = none := by
    rw [← Option.not_isSome_iff_eq_none,lastTs_isSome_iff]
    rintro ⟨r,hr,htype⟩
    obtain ⟨e,he,-,hid,rfl⟩ := mem_loadObserverEvents.mp hr
    exact h.not_requested e he hid (by simpa [ObserverEvent.frameRow] using htype)
  intro ph hph
  simp only [extractOverlapPhases,hnone,List.mem_append] at hph
  rcases hph with ((hph | hph) | hph) | hph
  · rw [addPhase_name ph hph]; decide
  · simp [addPhase] at hph
  · rw [addPhase_name ph hph]; decide
  · rw [addPhase_name ph hph]; decide

theorem WatchedRun.milestones (h : WatchedRun watchers cid trid firstFailure db) {node : String}
    {polls : List Poll} (hw : (node,polls) ∈ watchers) (hp : Promotes firstFailure polls) :
    (extractMilestones (loadObserverEvents db cid trid)
      (loadClientEvents db cid trid)).pgPromoted.isSome := by
  obtain ⟨e,he,-,htype,-⟩ := events_promotion hp {} true
  refine lastTs_isSome_iff.mpr ⟨(watcherRow cid trid node e).frameRow,
    mem_loadObserverEvents.mpr ⟨_,h.delivered _ hw e he,rfl,rfl,rfl⟩,?_⟩
  simp [ObserverEvent.frameRow,watcherRow,htype]

theorem WatchedRun.waterfall (h : WatchedRun watchers cid trid firstFailure db) {node : String}
    {polls : List Poll} (hw : (node,polls) ∈ watchers) (hp : Promotes firstFailure polls) :
    ∃ b ∈ waterfallBase db cid, b.runId = trid ∧ (waterfallMilestones db b).tPgPromote.isSome := by
  obtain ⟨tr,htr,rfl,rfl⟩ := h.registered
  obtain ⟨e,he,hafter,htype,-⟩ := events_promotion hp {} true
  have hfirst : minWhere (fun ce => !ce.success) ClientEvent.ts
      (db.clientEvents.filter fun ce => ce.testRunId = tr.id) = some firstFailure := by
    rw [minWhere_filter]
    exact h.failure
  have hbase : ∃ b ∈ waterfallBase db tr.combinationId, b.runId = tr.id ∧
      b.tFirstFail = firstFailure := by
    simp only [waterfallBase,List.mem_filterMap]
    exact ⟨_,⟨tr,by simp [htr],by rw [hfirst]; rfl⟩,rfl,rfl⟩
  obtain ⟨b,hb,hid,hb'⟩ := hbase
  refine ⟨b,hb,hid,?_⟩
  obtain ⟨t,ht⟩ := exists_minWhere (f := ObserverEvent.ts)
    (p := fun oe : ObserverEvent => oe.component == "postgres" &&
      ["pg_promote_requested","pg_promote_detected"].contains oe.eventType)
    (List.mem_filter.mpr ⟨h.delivered _ hw e he,
      by simp [watcherRow,hafter,hid,hb']⟩ : watcherRow tr.combinationId tr.id node e ∈
        db.observerEvents.filter fun oe => oe.testRunId = b.runId && b.tFirstFail < oe.ts)
    (by simp [watcherRow,htype])
  exact Option.isSome_iff_exists.mpr ⟨t,ht⟩

/-- A promotion the watcher sees never reaches all four analyses: the milestones and the
waterfall report it, component_timing has no row for it and no phase is called after it. -/
theorem promotion_not_reported (h : WatchedRun watchers cid trid firstFailure db) {node : String}
    {polls : List Poll} (hw : (node,polls) ∈ watchers) (hp : Promotes firstFailure polls) :
    ¬ PromotionReported cid trid node db ∧
      ((extractMilestones (loadObserverEvents db cid trid)
        (loadClientEvents db cid trid)).pgPromoted.isSome ∧
      ∃ b ∈ waterfallBase db cid, b.runId = trid ∧
        (waterfallMilestones db b).tPgPromote.isSome) ∧
      ∀ ph ∈ (extractOverlapPhases (loadObserverEvents db cid trid)
        (loadClientEvents db cid trid)).1, ph.name ≠ "Patroni Promotion" := by
  refine ⟨fun hall => ?_,⟨h.milestones hw hp,h.waterfall hw hp⟩,h.no_promotion_phase⟩
  obtain ⟨t,ht,hid,-,-,htype⟩ := hall.timing
  obtain ⟨r,hr,htimed,hrun,hsame⟩ := mem_componentTiming ht
  rw [hsame] at htype
  rcases List.mem_pair.mp htype with hreq | hdet
  · exact h.not_requested r hr (hrun.symm.trans hid) hreq
  · rw [hdet] at htimed
    exact absurd htimed (by decide)

def pollAt (second : Int) (result : PollResult) : Poll where
  now n := 1777000000000000 + 1000000 * second + n
  result := result

/-- The leader fails and comes back as a replica, and the replica is promoted in between. -/
def failoverPolls : List (String × List Poll) :=
  [("patroni-1",[pollAt (-10) (.row false 1 3),pollAt 0 (.exception "connection refused"),
      pollAt 12 (.row true 2 1)]),
    ("patroni-2",[pollAt (-10) (.row true 1 1),pollAt 3 (.row false 2 2)])]

def failoverDatabase : Database where
  testRuns := [hardStopRun "06_20260424_030630" 1776999990000000]
  observerEvents := failoverPolls.flatMap fun w =>
    (watcherEvents w.2).map (watcherRow "06" "06_20260424_030630" w.1)
  clientEvents := [heartbeatRow "06" "06_20260424_030630" 1777000000000000 1 false]
  primaryKey := List.nodup_singleton _

theorem failoverDatabase_watched :
    WatchedRun failoverPolls "06" "06_20260424_030630" 1777000000000000 failoverDatabase := by
  have hrows : ∀ r, r ∈ failoverDatabase.observerEvents ↔ ∃ w ∈ failoverPolls,
      ∃ e ∈ watcherEvents w.2, watcherRow "06" "06_20260424_030630" w.1 e = r := by
    simp [failoverDatabase]
  refine ⟨by decide,by decide,fun w hw e he => (hrows _).mpr ⟨w,hw,e,he,rfl⟩,?_,?_⟩
  · intro r hr _ _
    obtain ⟨w,hw,e,he,rfl⟩ := (hrows r).mp hr
    exact ⟨w,hw,e,he,rfl⟩
  · intro r hr _ hne
    obtain ⟨w,hw,e,he,rfl⟩ := (hrows r).mp hr
    exact absurd rfl hne

theorem failoverPolls_promotes :
    Promotes 1777000000000000 [pollAt (-10) (.row true 1 1),pollAt 3 (.row false 2 2)] := by
  refine ⟨[],_,[],_,[],rfl,rfl,by simp,rfl,fun n => ?_⟩
  have hn : (0 : Int) ≤ n := Int.natCast_nonneg n
  show (1777000000000000 : Int) < 1777000000000000 + 1000000 * 3 + n
  omega

theorem failoverDatabase_not_reported :
    WatchedRun failoverPolls "06" "06_20260424_030630" 1777000000000000 failoverDatabase ∧
      Promotes 1777000000000000 [pollAt (-10) (.row true 1 1),pollAt 3 (.row false 2 2)] ∧
      ¬ PromotionReported "06" "06_20260424_030630" "patroni-2" failoverDatabase := by
  refine ⟨failoverDatabase_watched,failoverPolls_promotes,fun h => ?_⟩
  obtain ⟨t,ht,-,-,-,htype⟩ := h.timing
  obtain ⟨r,hr,htimed,-,hsame⟩ := mem_componentTiming ht
  rw [hsame] at htype
  have hnone : ∀ r ∈ failoverDatabase.observerEvents, r.eventType ∈ timedEventTypes →
      r.eventType ∉ ["pg_promote_requested","pg_promote_detected"] := by decide
  exact hnone r hr htimed htype

theorem promotion_not_reported_failover :
    ¬ PromotionReported "06" "06_20260424_030630" "patroni-2" failoverDatabase :=
  (promotion_not_reported failoverDatabase_watched (List.mem_cons_of_mem _ List.mem_cons_self)
    failoverPolls_promotes).1

end Analyses

end RoutingBench
