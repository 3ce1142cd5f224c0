import RoutingBench.Watcher
set_option autoImplicit false

/-!
The Consul watcher: the leader key of the cluster, which exists with a value or does not.
-/

namespace RoutingBench
open ChangeLog

/-- The entry of the key; its value is the leader, base64 encoded on the way. -/
structure ConsulEntry where
  value : String
  modifyIndex : Option Nat
  createIndex : Option Int
  session : Option String
  deriving DecidableEq, Repr

inductive ConsulResponse where
  | requestException (text : String)
  | notFound
  | emptyList
  | key (entry : ConsulEntry)
  deriving DecidableEq, Repr

structure ConsulWatcher where
  lastLeader : Option String := none
  lastModifyIndex : Nat := 0
  deriving DecidableEq, Repr

def ConsulWatcher.fetchLeader (self : ConsulWatcher) (emitInitial : Bool) :
    ConsulResponse → ConsulWatcher × List Emission
  | .requestException _ => (self,[])
  | .notFound =>
    match self.lastLeader with
    | some leader => ({ self with lastLeader := none },
        [⟨"leader_key_deleted",leader,"","Leader key removed from Consul KV"⟩])
    | none => (self,[])
  | .emptyList => (self,[])
  | .key entry =>
    let modifyIndex := entry.modifyIndex.getD 0
    if some entry.value ≠ self.lastLeader then
      let detail := jsonDumps [("modify_index",toString modifyIndex),
        ("create_index",jsonInt entry.createIndex),
        ("session",jsonString (entry.session.getD ""))]
      ({ lastLeader := some entry.value, lastModifyIndex := modifyIndex },
        if self.lastLeader = none ∧ emitInitial = false then
          [⟨"leader_key_created","",entry.value,detail⟩]
        else if self.lastLeader ≠ none ∨ emitInitial = true then
          [⟨"leader_key_change",valueOr self.lastLeader "none",entry.value,detail⟩]
        else [])
    else ({ self with lastModifyIndex := modifyIndex },[])

def consulWatch (polls : List ConsulResponse) : ConsulWatcher × List Emission :=
  observe ConsulWatcher.fetchLeader {} polls

def ConsulResponse.seen : ConsulResponse → Option (Option String)
  | .notFound => some none
  | .key entry => some (some entry.value)
  | _ => none

def latestSeen (polls : List ConsulResponse) : Option (Option String) :=
  (polls.filterMap ConsulResponse.seen).getLast?

def applyLeaderEvent (leader : Option String) (e : Emission) : Option String :=
  if e.eventType = "leader_key_created" ∨ e.eventType = "leader_key_change" then some e.newValue
  else if e.eventType = "leader_key_deleted" then none
  else leader

def replayLeader (log : List Emission) : Option String := log.foldl applyLeaderEvent none

/-- The events follow the life of the key: it is created after it was seen to be absent, deleted
after it was seen with the leader it had, and the log replays to the leader seen last. -/
structure FollowsKey (polls : List ConsulResponse) : Prop where
  created : ∀ before r after, polls = before ++ r :: after →
    ∀ e ∈ emitted ConsulWatcher.fetchLeader {} before r, e.eventType = "leader_key_created" →
      latestSeen before = some none
  deleted : ∀ before r after, polls = before ++ r :: after →
    ∀ e ∈ emitted ConsulWatcher.fetchLeader {} before r, e.eventType = "leader_key_deleted" →
      r = .notFound ∧ latestSeen before = some (some e.oldValue)
  replays : ∀ done, done <+: polls → ∀ leader, latestSeen done = some leader →
    replayLeader (consulWatch done).2 = leader

section Step

variable {self : ConsulWatcher} {emitInitial : Bool} {r : ConsulResponse} {e : Emission}

theorem lastLeader_step :
    (self.fetchLeader emitInitial r).1.lastLeader = r.seen.getD self.lastLeader := by
  cases r with
  | notFound =>
    cases h : self.lastLeader <;> simp [ConsulWatcher.fetchLeader,ConsulResponse.seen,h]
  | key entry =>
    simp only [ConsulWatcher.fetchLeader,ConsulResponse.seen]
    split
    next => rfl
    next h => exact (not_not.mp h).symm
  | _ => rfl

theorem created_step (he : e ∈ (self.fetchLeader emitInitial r).2)
    (htype : e.eventType = "leader_key_created") :
    self.lastLeader = none ∧ emitInitial = false ∧ r.seen = some (some e.newValue) := by
  cases r with
  | notFound =>
    cases h : self.lastLeader <;> simp_all [ConsulWatcher.fetchLeader]
  | key entry =>
    simp only [ConsulWatcher.fetchLeader] at he
    split at he
    · simp only at he
      split at he
      next h =>
        obtain rfl := List.mem_singleton.mp he
        exact ⟨h.1,h.2,rfl⟩
      next => split at he <;> simp_all
    · contradiction
  | _ => contradiction

theorem deleted_step (he : e ∈ (self.fetchLeader emitInitial r).2)
    (htype : e.eventType = "leader_key_deleted") :
    r = .notFound ∧ self.lastLeader = some e.oldValue := by
  cases r with
  | notFound =>
    cases h : self.lastLeader with
    | none => simp [ConsulWatcher.fetchLeader,h] at he
    | some leader =>
      simp only [ConsulWatcher.fetchLeader,h,List.mem_singleton] at he
      exact ⟨rfl,by rw [he]⟩
  | key entry =>
    simp only [ConsulWatcher.fetchLeader] at he
    split at he
    · simp only at he
      split at he
      · simp_all
      · split at he <;> simp_all
    · contradiction
  | _ => contradiction

theorem replay_step : (self.fetchLeader emitInitial r).2.foldl applyLeaderEvent self.lastLeader =
    (self.fetchLeader emitInitial r).1.lastLeader := by
  cases r with
  | notFound =>
    cases h : self.lastLeader <;> simp [ConsulWatcher.fetchLeader,h,applyLeaderEvent]
  | key entry =>
    simp only [ConsulWatcher.fetchLeader]
    split
    · by_cases hnone : self.lastLeader = none
      · cases emitInitial <;> simp [hnone,applyLeaderEvent]
      · simp [hnone,applyLeaderEvent]
    · rfl
  | _ => rfl

end Step

section Run

variable {polls before after : List ConsulResponse} {r : ConsulResponse} {e : Emission}

theorem latestSeen_snoc (polls : List ConsulResponse) (r : ConsulResponse) :
    latestSeen (polls ++ [r]) = r.seen.or (latestSeen polls) := by
  cases h : r.seen <;> simp [latestSeen,h]

theorem consulWatch_snoc (polls : List ConsulResponse) (r : ConsulResponse) :
    consulWatch (polls ++ [r]) =
      (((consulWatch polls).1.fetchLeader polls.isEmpty r).1,
        (consulWatch polls).2 ++ ((consulWatch polls).1.fetchLeader polls.isEmpty r).2) :=
  observe_snoc _ polls r

/-- What is remembered is what was seen last, and the log says so. -/
theorem watch_leader (polls : List ConsulResponse) :
    (consulWatch polls).1.lastLeader = (latestSeen polls).join ∧
      replayLeader (consulWatch polls).2 = (consulWatch polls).1.lastLeader := by
  induction polls using List.reverseRecOn with
  | nil => exact ⟨rfl,rfl⟩
  | append_singleton polls r ih =>
    obtain ⟨hlast,hlog⟩ := ih
    rw [replayLeader] at hlog
    rw [consulWatch_snoc]
    constructor
    · rw [lastLeader_step,latestSeen_snoc,hlast]
      cases r.seen <;> rfl
    · rw [replayLeader,List.foldl_append,hlog,replay_step]

theorem created_unseen (he : e ∈ emitted ConsulWatcher.fetchLeader {} before r)
    (htype : e.eventType = "leader_key_created") :
    before ≠ [] ∧ (latestSeen before).join = none ∧ r.seen = some (some e.newValue) := by
  obtain ⟨hlast,hpoll,hseen⟩ := created_step he htype
  refine ⟨by simpa using hpoll,?_,hseen⟩
  rw [← (watch_leader before).1]
  exact hlast

theorem deleted_seen (he : e ∈ emitted ConsulWatcher.fetchLeader {} before r)
    (htype : e.eventType = "leader_key_deleted") :
    r = .notFound ∧ latestSeen before = some (some e.oldValue) := by
  obtain ⟨hr,hlast⟩ := deleted_step he htype
  have hjoin := (watch_leader before).1.symm.trans hlast
  exact ⟨hr,Option.join_eq_some_iff.mp hjoin⟩

theorem created_emitted {leader : String} (hbefore : before ≠ []) (hnone : latestSeen before = none)
    (hseen : r.seen = some (some leader)) :
    ∃ e ∈ emitted ConsulWatcher.fetchLeader {} before r, e.eventType = "leader_key_created" := by
  have hlast : (consulWatch before).1.lastLeader = none := by
    rw [(watch_leader before).1,hnone]
    rfl
  have hpoll : before.isEmpty = false := by simpa using hbefore
  cases r with
  | key entry =>
    show ∃ e ∈ ((consulWatch before).1.fetchLeader before.isEmpty (.key entry)).2,_
    simp [ConsulWatcher.fetchLeader,hlast,hpoll]
  | notFound => simp [ConsulResponse.seen] at hseen
  | _ => contradiction

end Run

/-- The setup fetch shows whether the key is there, or what is shown first is that it is not. -/
def Announced (polls : List ConsulResponse) : Prop :=
  (∃ r ∈ polls.head?, r.seen ≠ none) ∨
    ∀ leader, (polls.filterMap ConsulResponse.seen).head? ≠ some (some leader)

section Law

variable {polls : List ConsulResponse}

theorem announced_of_followsKey (h : FollowsKey polls) : Announced polls := by
  by_contra hnot
  obtain ⟨hhead,hfirst⟩ := not_or.mp hnot
  obtain ⟨leader,hleader⟩ := not_forall.mp hfirst
  rw [not_not,List.head?_filterMap] at hleader
  obtain ⟨before,r,after,rfl,hseen,hnone⟩ := List.findSome?_eq_some_iff.mp hleader
  have hlatest : latestSeen before = none := by
    rw [latestSeen,List.filterMap_eq_nil_iff.mpr hnone]
    rfl
  have hbefore : before ≠ [] := by
    intro hnil
    subst hnil
    exact hhead ⟨r,rfl,by rw [hseen]; simp⟩
  obtain ⟨e,he,htype⟩ := created_emitted hbefore hlatest hseen
  have habsent := h.created before r after rfl e he htype
  rw [hlatest] at habsent
  contradiction

/-- The events follow the life of the key if and only if the key is not seen for the first time
after a setup fetch that did not show whether it is there. -/
theorem followsKey_iff (polls : List ConsulResponse) : FollowsKey polls ↔ Announced polls := by
  constructor
  · exact announced_of_followsKey
  · intro h
    constructor
    · intro before r after hpolls e he htype
      obtain ⟨hbefore,hjoin,hseen⟩ := created_unseen he htype
      cases hlatest : latestSeen before with
      | some leader =>
        rw [hlatest] at hjoin
        exact congrArg some hjoin
      | none =>
        have hnone : before.filterMap ConsulResponse.seen = [] := by
          simpa [latestSeen] using hlatest
        subst hpolls
        rcases h with ⟨r',hr',hne⟩ | hfirst
        · rw [List.head?_append_of_ne_nil _ hbefore] at hr'
          exact absurd (List.filterMap_eq_nil_iff.mp hnone r' (List.mem_of_mem_head? hr')) hne
        · refine absurd ?_ (hfirst e.newValue)
          simp [List.filterMap_append,hnone,hseen]
    · intro before r after _ e he htype
      exact deleted_seen he htype
    · intro done _ leader hleader
      rw [(watch_leader done).2,(watch_leader done).1,hleader]
      rfl

def consulLate : List ConsulResponse :=
  [.requestException "Max retries exceeded",.key ⟨"patroni-node1",some 61,some 14,some "9c1f"⟩]

/-- The key is said to be created although it was never seen to be absent. -/
theorem consulLate_created : ¬ FollowsKey consulLate := by
  intro h
  have habsent := h.created [.requestException "Max retries exceeded"] _ [] rfl _
    (List.mem_singleton_self _) rfl
  exact absurd habsent (by decide)

end Law

end RoutingBench
