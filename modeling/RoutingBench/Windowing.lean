import RoutingBench.Milestones
import RoutingBench.Views
set_option autoImplicit false

/-!
How the chart generator cuts the data of a large run down to a window around its failover,
which it finds by the last server event that tells of one.
-/

namespace RoutingBench
open Aggregate

def loadFailoverWindow (db : Database) (cid trid : String) : Option FailoverWindow :=
  (failoverWindow db.clientEvents).find? fun w => w.combinationId = cid && w.testRunId = trid

/-- The events find_failover_anchor looks for; NOT IN is not true of a NULL. -/
def anchorEvent (r : ObserverEvent) : Bool :=
  r.eventType == "leader_key_deleted" || (r.eventType == "role_change" &&
    r.newValue == "primary" && r.oldValue.any fun old => !(["none","uninitialized"].contains old))

/-- ORDER BY ts DESC LIMIT 1. -/
def findFailoverAnchor (db : Database) (cid trid : String) : Option Timestamp :=
  maxWhere anchorEvent ObserverEvent.ts (taggedEvents db cid trid)

def loadWindowedObserver (db : Database) (cid trid : String) (s e : Timestamp) :
    List ObserverFrameRow :=
  ((db.observerEvents.filter fun r => (r.combinationId = cid && r.testRunId = trid) &&
    within s e r.ts).mergeSort fun a b => a.ts ≤ b.ts).map ObserverEvent.frameRow

def loadWindowedClient (db : Database) (cid trid : String) (s e : Timestamp) :
    List ClientFrameRow :=
  ((db.clientEvents.filter fun r => (r.combinationId = cid && r.testRunId = trid) &&
    within s e r.ts).mergeSort fun a b => a.ts ≤ b.ts).map ClientEvent.frameRow

def timedelta (seconds : Int) : Int := 1000000 * seconds

/-- More than 5000 queries, or more than 120 s from the first to the last. -/
def largeRun (cli : List ClientFrameRow) : Bool :=
  5000 < cli.length || (between (minWhere (fun _ => true) ClientFrameRow.ts cli)
    (maxWhere (fun _ => true) ClientFrameRow.ts cli)).any (timedelta 120 < ·)

/-- The frames of a run, cut down to the window if the run is large and has an anchor. -/
def windowedFrames (tail : Int) (db : Database) (cid trid : String) :
    List ObserverFrameRow × List ClientFrameRow :=
  match if largeRun (loadClientEvents db cid trid) then findFailoverAnchor db cid trid else none with
  | some anchor =>
    let ws := anchor - timedelta 15
    let we := anchor + timedelta tail
    (loadWindowedObserver db cid trid ws we,loadWindowedClient db cid trid ws we)
  | none => (loadObserverEvents db cid trid,loadClientEvents db cid trid)

def loadRunData (db : Database) (cid trid : String) :
    List ObserverFrameRow × List ClientFrameRow × Option FailoverWindow :=
  let frames := windowedFrames 45 db cid trid
  (frames.1,frames.2,loadFailoverWindow db cid trid)

/-- The frames cmd_iteration draws; without observer events it exits. -/
def cmdIterationData (db : Database) (cid trid : String) :
    Option (List ObserverFrameRow × List ClientFrameRow) :=
  let frames := windowedFrames 30 db cid trid
  if frames.1.isEmpty then none else some frames

def Milestones.offsets (m : Milestones) : List (Option Int) :=
  [m.consulLeaderDeleted,m.patroniPromoted,m.haproxyUp,m.pgPromoted].map
    (between m.firstClientFailure)

structure SameOutage (m m' : Milestones) : Prop where
  firstClientFailure : m.firstClientFailure = m'.firstClientFailure
  firstRecovery : m.firstRecovery = m'.firstRecovery
  offsets : m.offsets = m'.offsets

/-- A query or event of a kind with a failed query before it, or at the same time. -/
def afterFailedQuery (queries : List ClientEvent) (kind : ClientEvent → Bool) (q : ClientEvent) :
    Bool :=
  kind q && queries.any fun f => !f.success && f.ts < q.ts

def sinceFailedQuery (queries : List ClientEvent) (kind : ObserverEvent → Bool)
    (r : ObserverEvent) : Bool :=
  kind r && queries.any fun f => !f.success && f.ts ≤ r.ts

/-- The window has the first failed query and, if there is one, every query and event that
decides about a milestone. -/
structure KeepsOutage (db : Database) (cid trid : String) (lo hi : Timestamp) : Prop where
  failure : FirstWithin (fun q => !q.success) ClientEvent.ts lo hi (taggedQueries db cid trid)
  recovery : FirstWithin (afterFailedQuery (taggedQueries db cid trid) ClientEvent.success)
    ClientEvent.ts lo hi (taggedQueries db cid trid)
  routing : FirstWithin (sinceFailedQuery (taggedQueries db cid trid) primaryBackendUp)
    ObserverEvent.ts lo hi (taggedEvents db cid trid)
  server : (∃ q ∈ taggedQueries db cid trid, q.success = false) →
    ∀ kind ∈ [leaderKeyDeleted,becomesPrimary,promotion],
      LastWithin kind ObserverEvent.ts lo hi (taggedEvents db cid trid)

/-- A large run keeps its outage in the window from 15 s before its last deletion of the leader
key or promotion to some seconds after it. -/
def WindowKeepsOutage (tail : Int) (db : Database) (cid trid : String) : Prop :=
  largeRun (loadClientEvents db cid trid) → ∀ a ∈ taggedEvents db cid trid, anchorEvent a →
    (∀ e ∈ taggedEvents db cid trid, anchorEvent e → e.ts ≤ a.ts) →
      KeepsOutage db cid trid (a.ts - timedelta 15) (a.ts + timedelta tail)

section Window

variable {db : Database} {cid trid : String} {lo hi : Timestamp}

theorem windowed_milestones (db : Database) (cid trid : String) (lo hi : Timestamp) :
    let first := minWhere (fun q => within lo hi q.ts && !q.success) ClientEvent.ts
      (taggedQueries db cid trid)
    let last := fun kind => maxWhere (fun r : ObserverEvent => within lo hi r.ts && kind r)
      ObserverEvent.ts (taggedEvents db cid trid)
    extractMilestones (loadWindowedObserver db cid trid lo hi)
      (loadWindowedClient db cid trid lo hi) = {
      firstClientFailure := first
      firstRecovery := minWhere (fun q => within lo hi q.ts && (q.success && exceeds q.ts first))
        ClientEvent.ts (taggedQueries db cid trid)
      consulLeaderDeleted := last leaderKeyDeleted
      patroniPromoted := last becomesPrimary
      haproxyUp := minWhere (fun r => within lo hi r.ts && (primaryBackendUp r &&
        first.all (· ≤ r.ts))) ObserverEvent.ts (taggedEvents db cid trid)
      pgPromoted := last promotion } := by
  let cut : Database := { db with
    observerEvents := db.observerEvents.filter fun r => within lo hi r.ts
    clientEvents := db.clientEvents.filter fun q => within lo hi q.ts }
  have hobs : loadWindowedObserver db cid trid lo hi = loadObserverEvents cut cid trid := by
    simp only [loadWindowedObserver,loadObserverEvents,cut,List.filter_filter]
  have hcli : loadWindowedClient db cid trid lo hi = loadClientEvents cut cid trid := by
    simp only [loadWindowedClient,loadClientEvents,cut,List.filter_filter]
  have hqueries : taggedQueries cut cid trid =
      (taggedQueries db cid trid).filter fun q => within lo hi q.ts := by
    simp only [taggedQueries,cut,List.filter_filter,Bool.and_comm]
  have hevents : taggedEvents cut cid trid =
      (taggedEvents db cid trid).filter fun r => within lo hi r.ts := by
    simp only [taggedEvents,cut,List.filter_filter,Bool.and_comm]
  have hload := extractMilestones_load cut cid trid
  rw [hqueries,hevents] at hload
  simp only [minWhere_filter,maxWhere_filter] at hload
  rw [hobs,hcli]
  exact hload

theorem any_since {t0 : Timestamp} {queries : List ClientEvent}
    (ht0 : minWhere (fun q => !q.success) ClientEvent.ts queries = some t0) (x : Timestamp) :
    queries.any (fun f => !f.success && f.ts ≤ x) = decide (t0 ≤ x) := by
  obtain ⟨⟨f,hf,hfail,rfl⟩,hmin⟩ := minWhere_eq_some_iff.mp ht0
  refine Bool.eq_iff_iff.mpr ?_
  simp only [List.any_eq_true,Bool.and_eq_true,decide_eq_true_eq]
  constructor
  · rintro ⟨g,hg,hbad,hle⟩
    exact (hmin g hg hbad).trans hle
  · intro hle
    exact ⟨f,hf,hfail,hle⟩

theorem afterFailedQuery_eq (queries : List ClientEvent) (kind : ClientEvent → Bool)
    (q : ClientEvent) : afterFailedQuery queries kind q =
      (kind q && exceeds q.ts (minWhere (fun e => !e.success) ClientEvent.ts queries)) := by
  rw [afterFailedQuery]
  refine congrArg (kind q && ·) (Bool.eq_iff_iff.mpr ?_)
  rw [exceeds_minWhere]
  simp only [List.any_eq_true,Bool.and_eq_true,decide_eq_true_eq]

theorem between_inj {t : Timestamp} {a b : Option Timestamp}
    (h : between (some t) a = between (some t) b) : a = b := by
  cases a with
  | none => cases b with
    | none => rfl
    | some b => simp [between] at h
  | some a => cases b with
    | none => simp [between] at h
    | some b =>
      simp only [between_some,Option.some.injEq] at h
      rw [sub_left_inj.mp h]

theorem keepsOutage_of_none
    (h : minWhere (fun q => !q.success) ClientEvent.ts (taggedQueries db cid trid) = none) :
    KeepsOutage db cid trid lo hi := by
  have hnone := minWhere_eq_none_iff.mp h
  have hany : ∀ p : ClientEvent → Bool,
      (taggedQueries db cid trid).any (fun f => !f.success && p f) = false := by
    intro p
    refine List.any_eq_false.mpr fun f hf => ?_
    simp [hnone f hf]
  refine ⟨fun q hq hbad => ?_,fun q hq hafter => ?_,fun r hr hafter => ?_,fun ⟨q,hq,hbad⟩ => ?_⟩
  · exact absurd ((hnone q hq).symm.trans hbad) Bool.false_ne_true
  · rw [afterFailedQuery,hany,Bool.and_false] at hafter
    contradiction
  · rw [sinceFailedQuery,hany,Bool.and_false] at hafter
    contradiction
  · exact absurd hbad (by simpa using hnone q hq)

section FirstFailure

variable {t0 : Timestamp}
  (ht0 : minWhere (fun q => !q.success) ClientEvent.ts (taggedQueries db cid trid) = some t0)
include ht0

theorem afterFailedQuery_of_some (kind : ClientEvent → Bool) :
    afterFailedQuery (taggedQueries db cid trid) kind =
      fun q => kind q && exceeds q.ts (some t0) := by
  funext q
  rw [afterFailedQuery_eq,ht0]

theorem sinceFailedQuery_of_some (kind : ObserverEvent → Bool) :
    sinceFailedQuery (taggedQueries db cid trid) kind =
      fun r => kind r && decide (t0 ≤ r.ts) :=
  funext fun r => congrArg (kind r && ·) (any_since ht0 r.ts)

end FirstFailure

/-- A window shows the outage of the whole run if and only if it has the rows that decide. -/
theorem sameOutage_iff (db : Database) (cid trid : String) (lo hi : Timestamp) :
    SameOutage
      (extractMilestones (loadWindowedObserver db cid trid lo hi)
        (loadWindowedClient db cid trid lo hi))
      (extractMilestones (loadObserverEvents db cid trid) (loadClientEvents db cid trid)) ↔
        KeepsOutage db cid trid lo hi := by
  have hfirst : minWhere (fun q => within lo hi q.ts && !q.success) ClientEvent.ts
      (taggedQueries db cid trid) = minWhere (fun q => !q.success) ClientEvent.ts
        (taggedQueries db cid trid) ↔ _ := minWhere_within_iff
  rw [windowed_milestones,extractMilestones_load]
  cases ht0 : minWhere (fun q => !q.success) ClientEvent.ts (taggedQueries db cid trid) with
  | none =>
    have hkeeps : KeepsOutage db cid trid lo hi := keepsOutage_of_none ht0
    refine iff_of_true ?_ hkeeps
    rw [hfirst.mpr hkeeps.failure,ht0]
    exact ⟨rfl,by simp [exceeds,minWhere],by simp [Milestones.offsets,between]⟩
  | some t0 =>
    have hrecovery := afterFailedQuery_of_some ht0 ClientEvent.success
    have hrouting := sinceFailedQuery_of_some ht0 primaryBackendUp
    obtain ⟨⟨f,hf,hfail,-⟩,-⟩ := minWhere_eq_some_iff.mp ht0
    rw [ht0] at hfirst
    constructor
    · intro h
      have hsame : minWhere (fun q => within lo hi q.ts && !q.success) ClientEvent.ts
        (taggedQueries db cid trid) = some t0 := h.firstClientFailure
      have hrec := h.firstRecovery
      have hoffsets := h.offsets
      simp only [Milestones.offsets,hsame,List.map_cons,List.map_nil,List.cons.injEq,and_true,
        Option.all_some] at hrec hoffsets
      obtain ⟨hdeleted,hprimary,hup,hpromoted⟩ := hoffsets
      refine ⟨hfirst.mp hsame,?_,?_,?_⟩
      · rw [hrecovery]
        exact minWhere_within_iff.mp hrec
      · rw [hrouting]
        exact minWhere_within_iff.mp (between_inj hup)
      · intro _ kind hkind
        simp only [List.mem_cons,List.not_mem_nil,or_false] at hkind
        rcases hkind with rfl | rfl | rfl
        · exact maxWhere_within_iff.mp (between_inj hdeleted)
        · exact maxWhere_within_iff.mp (between_inj hprimary)
        · exact maxWhere_within_iff.mp (between_inj hpromoted)
    · intro h
      have hserver := h.server ⟨f,hf,by simpa using hfail⟩
      have hrec := h.recovery
      have hup := h.routing
      rw [hrecovery] at hrec
      rw [hrouting] at hup
      simp only [hfirst.mpr h.failure,Option.all_some,minWhere_within_iff.mpr hrec,
        minWhere_within_iff.mpr hup,maxWhere_within_iff.mpr (hserver leaderKeyDeleted (by simp)),
        maxWhere_within_iff.mpr (hserver becomesPrimary (by simp)),
        maxWhere_within_iff.mpr (hserver promotion (by simp))]
      exact ⟨rfl,rfl,rfl⟩

theorem KeepsOutage.mono {hi' : Timestamp} (h : KeepsOutage db cid trid lo hi) (hle : hi ≤ hi') :
    KeepsOutage db cid trid lo hi' where
  failure := h.failure.mono hle
  recovery := h.recovery.mono hle
  routing := h.routing.mono hle
  server hfail kind hkind := (h.server hfail kind hkind).mono hle

theorem WindowKeepsOutage.mono {tail tail' : Int} (h : WindowKeepsOutage tail db cid trid)
    (hle : tail ≤ tail') : WindowKeepsOutage tail' db cid trid := by
  intro hlarge a ha hanchor hlast
  refine (h hlarge a ha hanchor hlast).mono ?_
  show a.ts + 1000000 * tail ≤ a.ts + 1000000 * tail'
  exact Int.add_le_add_left (Int.mul_le_mul_of_nonneg_left hle (by decide)) a.ts

theorem findFailoverAnchor_eq_some_iff {anchor : Timestamp} :
    findFailoverAnchor db cid trid = some anchor ↔ ∃ a ∈ taggedEvents db cid trid,
      anchorEvent a = true ∧ (∀ e ∈ taggedEvents db cid trid, anchorEvent e = true → e.ts ≤ a.ts) ∧
        a.ts = anchor := by
  rw [findFailoverAnchor,maxWhere_eq_some_iff]
  constructor
  · rintro ⟨⟨a,ha,hanchor,rfl⟩,hlast⟩
    exact ⟨a,ha,hanchor,hlast,rfl⟩
  · rintro ⟨a,ha,hanchor,hlast,rfl⟩
    exact ⟨⟨a,ha,hanchor,rfl⟩,hlast⟩

/-- The frames of a run show its outage if and only if it is not cut away. -/
theorem windowedFrames_same_iff (tail : Int) (db : Database) (cid trid : String) :
    SameOutage
      (extractMilestones (windowedFrames tail db cid trid).1 (windowedFrames tail db cid trid).2)
      (extractMilestones (loadObserverEvents db cid trid) (loadClientEvents db cid trid)) ↔
        WindowKeepsOutage tail db cid trid := by
  cases hlarge : largeRun (loadClientEvents db cid trid) with
  | false =>
    simp only [windowedFrames,hlarge,WindowKeepsOutage]
    exact iff_of_true ⟨rfl,rfl,rfl⟩ fun h => absurd h Bool.false_ne_true
  | true =>
    cases hanchor : findFailoverAnchor db cid trid with
    | none =>
      simp only [windowedFrames,hlarge,hanchor,WindowKeepsOutage]
      refine iff_of_true ⟨rfl,rfl,rfl⟩ fun _ a ha hkind _ => ?_
      rw [findFailoverAnchor,maxWhere_eq_none_iff] at hanchor
      rw [hanchor a ha] at hkind
      contradiction
    | some anchor =>
      simp only [windowedFrames,hlarge,hanchor,if_true,sameOutage_iff,WindowKeepsOutage,
        true_implies]
      constructor
      · intro hkeeps a ha hkind hlast
        have hsame := findFailoverAnchor_eq_some_iff.mpr ⟨a,ha,hkind,hlast,rfl⟩
        rw [hanchor,Option.some.injEq] at hsame
        exact hsame ▸ hkeeps
      · intro hkeeps
        obtain ⟨a,ha,hkind,hlast,rfl⟩ := findFailoverAnchor_eq_some_iff.mp hanchor
        exact hkeeps a ha hkind hlast

/-- The anchor is in its own window, so that a window never lacks observer events. -/
theorem windowedFrames_nonempty {tail : Int} (htail : 0 ≤ tail) {anchor : Timestamp}
    (hlarge : largeRun (loadClientEvents db cid trid) = true)
    (hanchor : findFailoverAnchor db cid trid = some anchor) :
    (windowedFrames tail db cid trid).1.isEmpty = false := by
  obtain ⟨a,ha,-,-,rfl⟩ := findFailoverAnchor_eq_some_iff.mp hanchor
  have hin : within (a.ts - timedelta 15) (a.ts + timedelta tail) a.ts = true := by
    have hrest : a.ts ≤ a.ts + 1000000 * tail :=
      Int.le_add_of_nonneg_right (Int.mul_nonneg (by decide) htail)
    simp [within,timedelta,hrest]
  rw [List.isEmpty_eq_false_iff_exists_mem]
  refine ⟨a.frameRow,?_⟩
  simp only [windowedFrames,hlarge,hanchor,if_true,loadWindowedObserver,List.mem_map,
    List.mem_mergeSort,List.mem_filter]
  exact ⟨a,⟨(List.mem_filter.mp ha).1,by rw [(List.mem_filter.mp ha).2,hin]; rfl⟩,rfl⟩

/-- Both commands show the outage of a run if and only if it is small enough not to be cut, or
the shorter of the two windows keeps every row that decides. -/
theorem windowing_preserves_outage_iff (db : Database) (cid trid : String) :
    (SameOutage
        (extractMilestones (loadRunData db cid trid).1 (loadRunData db cid trid).2.1)
        (extractMilestones (loadObserverEvents db cid trid) (loadClientEvents db cid trid)) ∧
      ∀ frames, cmdIterationData db cid trid = some frames →
        SameOutage (extractMilestones frames.1 frames.2)
          (extractMilestones (loadObserverEvents db cid trid) (loadClientEvents db cid trid))) ↔
      WindowKeepsOutage 30 db cid trid := by
  have hload := windowedFrames_same_iff 45 db cid trid
  have hiteration := windowedFrames_same_iff 30 db cid trid
  constructor
  · intro h hlarge a ha hkind hlast
    have hanchor := findFailoverAnchor_eq_some_iff.mpr ⟨a,ha,hkind,hlast,rfl⟩
    have hrows := windowedFrames_nonempty (by decide : (0 : Int) ≤ 30) hlarge hanchor
    have hframes : cmdIterationData db cid trid = some (windowedFrames 30 db cid trid) := by
      rw [cmdIterationData,hrows]
      rfl
    exact hiteration.mp (h.2 _ hframes) hlarge a ha hkind hlast
  · intro h
    refine ⟨hload.mpr (h.mono (by decide)),fun frames hframes => ?_⟩
    simp only [cmdIterationData,Option.ite_none_left_eq_some,Option.some.injEq] at hframes
    obtain ⟨-,rfl⟩ := hframes
    exact hiteration.mpr h

theorem largeRun_load (db : Database) (cid trid : String) :
    largeRun (loadClientEvents db cid trid) = (5000 < (taggedQueries db cid trid).length ||
      (between (minWhere (fun _ => true) ClientEvent.ts (taggedQueries db cid trid))
        (maxWhere (fun _ => true) ClientEvent.ts (taggedQueries db cid trid))).any
          (timedelta 120 < ·)) := by
  rw [largeRun,minWhere_loadClientEvents,maxWhere_loadClientEvents,loadClientEvents,
    List.length_map,List.length_mergeSort,taggedQueries,minWhere_filter,maxWhere_filter]

/-- The leader fails at 0 s, and its key expires 30 s later with the session. -/
def expiredSession : Database where
  testRuns := [hardStopRun "06_20260424_030630" 1776999930000000]
  observerEvents := [{
    ts := 1777000030000000
    combinationId := "06"
    testRunId := "06_20260424_030630"
    component := "consul"
    node := "consul-1"
    eventType := "leader_key_deleted"
    oldValue := some "patroni-1"
    newValue := ""
    detail := some "Leader key removed from Consul KV" }]
  clientEvents := [query (-60) 1 true,query 0 2 false,query 20 3 false,query 40 4 true,
    query 70 5 true]
  primaryKey := List.nodup_singleton _
where
  query (second : Int) (sequence : Nat) (success : Bool) : ClientEvent :=
    heartbeatRow "06" "06_20260424_030630" (1777000000000000 + 1000000 * second) sequence success

/-- Both windows begin after the first failed query and show an outage 20 s shorter. -/
theorem expiredSession_cut :
    ¬ SameOutage
      (extractMilestones (loadRunData expiredSession "06" "06_20260424_030630").1
        (loadRunData expiredSession "06" "06_20260424_030630").2.1)
      (extractMilestones (loadObserverEvents expiredSession "06" "06_20260424_030630")
        (loadClientEvents expiredSession "06" "06_20260424_030630")) ∧
    ∃ frames, cmdIterationData expiredSession "06" "06_20260424_030630" = some frames ∧
      ¬ SameOutage (extractMilestones frames.1 frames.2)
        (extractMilestones (loadObserverEvents expiredSession "06" "06_20260424_030630")
          (loadClientEvents expiredSession "06" "06_20260424_030630")) := by
  have hlarge : largeRun (loadClientEvents expiredSession "06" "06_20260424_030630") = true := by
    rw [largeRun_load]
    decide
  have hanchor : findFailoverAnchor expiredSession "06" "06_20260424_030630" =
    some 1777000030000000 := by decide
  have hcut : ∀ tail, ¬ WindowKeepsOutage tail expiredSession "06" "06_20260424_030630" := by
    intro tail hkeeps
    have hfailure := (hkeeps hlarge expiredSession.observerEvents[0] (by decide) (by decide)
      (by decide)).failure expiredSession.clientEvents[1] (by decide) (by decide)
    obtain ⟨s,hs,⟨hin,-⟩,hle⟩ := hfailure
    have hlow := (Bool.and_eq_true_iff.mp hin).1
    exact absurd (le_trans (of_decide_eq_true hlow) hle) (by decide)
  refine ⟨fun h => hcut 45 ((windowedFrames_same_iff 45 _ _ _).mp h),
    windowedFrames 30 expiredSession "06" "06_20260424_030630",?_,
    fun h => hcut 30 ((windowedFrames_same_iff 30 _ _ _).mp h)⟩
  rw [cmdIterationData,windowedFrames_nonempty (by decide : (0 : Int) ≤ 30) hlarge hanchor]
  rfl

end Window

end RoutingBench
