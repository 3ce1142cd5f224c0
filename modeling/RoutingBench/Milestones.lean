import RoutingBench.Aggregate
import RoutingBench.Schema
import Mathlib.Data.List.Infix
set_option autoImplicit false

/-!
The frames the chart generator loads and the milestones it extracts from them. A column
that can be missing is an option, and so is a key that is not always in the dictionary.
-/

namespace RoutingBench
open Aggregate

structure ObserverFrameRow where
  ts : Timestamp
  component : String
  node : String
  eventType : String
  oldValue : Option String
  newValue : String
  detail : Option String
  deriving DecidableEq, Repr

structure ClientFrameRow where
  ts : Timestamp
  success : Bool
  latencyUs : Nat
  error : String
  deriving DecidableEq, Repr

def ObserverEvent.frameRow (r : ObserverEvent) : ObserverFrameRow where
  ts := r.ts
  component := r.component
  node := r.node
  eventType := r.eventType
  oldValue := r.oldValue
  newValue := r.newValue
  detail := r.detail

def ClientEvent.frameRow (r : ClientEvent) : ClientFrameRow where
  ts := r.ts
  success := r.success
  latencyUs := r.latencyUs
  error := r.error

def loadObserverEvents (db : Database) (cid trid : String) : List ObserverFrameRow :=
  ((db.observerEvents.filter fun r => r.combinationId = cid && r.testRunId = trid).mergeSort
    fun a b => a.ts ≤ b.ts).map ObserverEvent.frameRow

def loadClientEvents (db : Database) (cid trid : String) : List ClientFrameRow :=
  ((db.clientEvents.filter fun r => r.combinationId = cid && r.testRunId = trid).mergeSort
    fun a b => a.ts ≤ b.ts).map ClientEvent.frameRow

/-- str.contains of a pattern without special characters. -/
def strContains (text pattern : String) : Bool :=
  text.toList.tails.any pattern.toList.isPrefixOf

theorem strContains_iff {text pattern : String} :
    strContains text pattern = true ↔ pattern.toList <:+: text.toList := by
  rw [strContains,List.any_eq_true]
  simp only [List.mem_tails,List.isPrefixOf_iff_prefix]
  constructor
  · rintro ⟨tail,htail,hpattern⟩
    exact hpattern.isInfix.trans htail.isInfix
  · rintro ⟨before,after,htext⟩
    exact ⟨pattern.toList ++ after,⟨before,by simpa using htext⟩,List.prefix_append _ _⟩

/-- The text starts with UP in capitals or not. -/
def upperStartsWithUp (text : String) : Bool :=
  match text.toList with
  | a :: b :: _ => a.toUpper == 'U' && b.toUpper == 'P'
  | _ => false

structure Milestones where
  firstClientFailure : Option Timestamp
  firstRecovery : Option Timestamp
  consulLeaderDeleted : Option Timestamp
  patroniPromoted : Option Timestamp
  haproxyUp : Option Timestamp
  pgPromoted : Option Timestamp
  deriving DecidableEq, Repr

/-- `iloc[-1]` and `iloc[0]` of the timestamps of the rows a mask selects. -/
def lastTs (obs : List ObserverFrameRow) (mask : ObserverFrameRow → Bool) : Option Timestamp :=
  ((obs.filter mask).map ObserverFrameRow.ts).getLast?

def firstTs (obs : List ObserverFrameRow) (mask : ObserverFrameRow → Bool) : Option Timestamp :=
  ((obs.filter mask).map ObserverFrameRow.ts).head?

def extractMilestones (obs : List ObserverFrameRow) (cli : List ClientFrameRow) : Milestones :=
  let firstClientFailure := minWhere (fun r => !r.success) ClientFrameRow.ts cli
  let notBeforeFailure := fun ts : Timestamp => firstClientFailure.all (· ≤ ts)
  { firstClientFailure := firstClientFailure
    firstRecovery := minWhere (fun r => r.success && exceeds r.ts firstClientFailure)
      ClientFrameRow.ts cli
    consulLeaderDeleted := lastTs obs fun r => r.eventType == "leader_key_deleted"
    patroniPromoted := lastTs obs fun r => r.eventType == "role_change" &&
      r.newValue == "primary" && !r.oldValue.any (["none","uninitialized"].contains ·)
    haproxyUp := firstTs obs fun r => r.eventType == "backend_state_change" &&
      r.newValue == "UP" && r.detail.any (strContains · "primary_backend") &&
      notBeforeFailure r.ts
    pgPromoted := lastTs obs fun r =>
      ["pg_promote_detected","pg_promote_requested"].contains r.eventType }

structure OverlapPhase where
  name : String
  start : Timestamp
  stop : Timestamp
  color : String
  instant : Bool
  deriving DecidableEq, Repr

structure OverlapMarkers where
  firstFailure : Option Timestamp
  firstRecovery : Option Timestamp
  deriving DecidableEq, Repr

def phaseColors : List (String × String) :=
  [("DCS Detection","#e67e22"),("PG Promotion","#e74c3c"),("Patroni Promotion","#f39c12"),
    ("Routing Detection","#3498db"),("Client Recovery","#2ecc71")]

/-- The `_add` of extract_overlap_phases: a phase needs both of its ends. -/
def addPhase (name : String) (start stop : Option Timestamp) : List OverlapPhase :=
  match start,stop with
  | some s,some e => [{
      name := name
      start := s
      stop := e
      color := (phaseColors.lookup name).getD "#95a5a6"
      instant := s == e }]
  | _,_ => []

/-- The HAProxy span: from the first backend change not before the failure to the first UP,
one of the primary_backend if there is any. -/
def haproxySpan (obs : List ObserverFrameRow) (firstFailure : Option Timestamp) :
    Option Timestamp × Option Timestamp :=
  let after := obs.filter fun r => r.eventType == "backend_state_change" &&
    firstFailure.all (· ≤ r.ts)
  let up := after.filter fun r => upperStartsWithUp r.newValue
  let pb := up.filter fun r => r.detail.any (strContains · "primary_backend")
  ((after.map ObserverFrameRow.ts).head?,
    ((if pb.isEmpty then up else pb).map ObserverFrameRow.ts).head?)

def extractOverlapPhases (obs : List ObserverFrameRow) (cli : List ClientFrameRow) :
    List OverlapPhase × OverlapMarkers :=
  let firstFailure := minWhere (fun r => !r.success) ClientFrameRow.ts cli
  let lastFailure := maxWhere (fun r => !r.success) ClientFrameRow.ts cli
  let firstRecovery := minWhere (fun r => r.success && exceeds r.ts lastFailure)
    ClientFrameRow.ts cli
  let leaderDeleted := lastTs obs fun r => r.eventType == "leader_key_deleted"
  let pgStart := lastTs obs fun r => r.eventType == "pg_promote_requested"
  let pgEnd := firstTs obs fun r => r.eventType == "pg_ready_accept_connections" &&
    pgStart.all (· ≤ r.ts)
  let ha := haproxySpan obs firstFailure
  (addPhase "DCS Detection" firstFailure leaderDeleted ++
      addPhase "Patroni Promotion" pgStart pgEnd ++
      addPhase "Routing Detection" ha.1 ha.2 ++
      addPhase "Client Recovery" lastFailure firstRecovery,
    { firstFailure := firstFailure, firstRecovery := firstRecovery })

section Loaded

variable {db : Database} {cid trid : String} (p : ClientFrameRow → Bool)

theorem minWhere_loadClientEvents :
    minWhere p ClientFrameRow.ts (loadClientEvents db cid trid) =
      minWhere (fun r => (r.combinationId = cid && r.testRunId = trid) && p r.frameRow)
        ClientEvent.ts db.clientEvents := by
  rw [loadClientEvents,minWhere_map,minWhere_of_mem_iff fun r => List.mem_mergeSort,minWhere_filter]
  rfl

theorem maxWhere_loadClientEvents :
    maxWhere p ClientFrameRow.ts (loadClientEvents db cid trid) =
      maxWhere (fun r => (r.combinationId = cid && r.testRunId = trid) && p r.frameRow)
        ClientEvent.ts db.clientEvents := by
  rw [loadClientEvents,maxWhere_map,maxWhere_of_mem_iff fun r => List.mem_mergeSort,maxWhere_filter]
  rfl

theorem pairwise_loadObserverEvents :
    (loadObserverEvents db cid trid).Pairwise fun a b => a.ts ≤ b.ts :=
  List.pairwise_map.mpr (pairwise_orderBy ObserverEvent.ts _)

variable (mask : ObserverFrameRow → Bool)

theorem lastTs_loadObserverEvents :
    lastTs (loadObserverEvents db cid trid) mask =
      maxWhere (fun r => (r.combinationId = cid && r.testRunId = trid) && mask r.frameRow)
        ObserverEvent.ts db.observerEvents := by
  rw [lastTs,getLast?_eq_maxWhere pairwise_loadObserverEvents,loadObserverEvents,maxWhere_map,
    maxWhere_of_mem_iff fun r => List.mem_mergeSort,maxWhere_filter]
  rfl

theorem firstTs_loadObserverEvents :
    firstTs (loadObserverEvents db cid trid) mask =
      minWhere (fun r => (r.combinationId = cid && r.testRunId = trid) && mask r.frameRow)
        ObserverEvent.ts db.observerEvents := by
  rw [firstTs,head?_eq_minWhere pairwise_loadObserverEvents,loadObserverEvents,minWhere_map,
    minWhere_of_mem_iff fun r => List.mem_mergeSort,minWhere_filter]
  rfl

end Loaded

section Kinds

def taggedEvents (db : Database) (cid trid : String) : List ObserverEvent :=
  db.observerEvents.filter fun r => r.combinationId = cid && r.testRunId = trid

def taggedQueries (db : Database) (cid trid : String) : List ClientEvent :=
  db.clientEvents.filter fun r => r.combinationId = cid && r.testRunId = trid

def leaderKeyDeleted (r : ObserverEvent) : Bool := r.eventType == "leader_key_deleted"

def promotion (r : ObserverEvent) : Bool :=
  ["pg_promote_detected","pg_promote_requested"].contains r.eventType

/-- A change of role to primary, from a known one. -/
def becomesPrimary (r : ObserverEvent) : Bool :=
  r.eventType == "role_change" && r.newValue == "primary" &&
    !r.oldValue.any (["none","uninitialized"].contains ·)

def primaryBackendUp (r : ObserverEvent) : Bool :=
  r.eventType == "backend_state_change" && r.newValue == "UP" &&
    r.detail.any (strContains · "primary_backend")

theorem extractMilestones_load (db : Database) (cid trid : String) :
    let first := minWhere (fun q => !q.success) ClientEvent.ts (taggedQueries db cid trid)
    extractMilestones (loadObserverEvents db cid trid) (loadClientEvents db cid trid) = {
      firstClientFailure := first
      firstRecovery := minWhere (fun q => q.success && exceeds q.ts first) ClientEvent.ts
        (taggedQueries db cid trid)
      consulLeaderDeleted := maxWhere leaderKeyDeleted ObserverEvent.ts (taggedEvents db cid trid)
      patroniPromoted := maxWhere becomesPrimary ObserverEvent.ts (taggedEvents db cid trid)
      haproxyUp := minWhere (fun r => primaryBackendUp r && first.all (· ≤ r.ts)) ObserverEvent.ts
        (taggedEvents db cid trid)
      pgPromoted := maxWhere promotion ObserverEvent.ts (taggedEvents db cid trid) } := by
  simp only [extractMilestones,minWhere_loadClientEvents,lastTs_loadObserverEvents,
    firstTs_loadObserverEvents,taggedQueries,taggedEvents,minWhere_filter,maxWhere_filter]
  rfl

end Kinds

end RoutingBench
