import RoutingBench.Calendar
import RoutingBench.Watcher
set_option autoImplicit false

/-!
The Patroni watcher: role, state and timeline of a node, polled over its REST API. Does its
log say at any time what the node was last known to be?
-/

namespace RoutingBench
open ChangeLog

/-- What the request meets: an exception of requests (a body that is not JSON is one from requests
2.27 on), a ValueError that is none, or an object with some of the keys. -/
inductive PatroniResponse where
  | requestException (text : String)
  | invalid
  | object (role state : Option String) (timeline serverVersion : Option Int)
  deriving DecidableEq, Repr

structure PatroniWatcher where
  lastRole : Option String := none
  lastState : Option String := none
  lastTimeline : Option Int := none
  deriving DecidableEq, Repr

/-- str() of an integer that can be None. -/
def pythonStr : Option Int → String
  | some n => toString n
  | none => "None"

def PatroniWatcher.pollState (self : PatroniWatcher) (emitInitial : Bool) :
    PatroniResponse → PatroniWatcher × List Emission
  | .requestException text =>
    if self.lastState ≠ some "unreachable" then
      ({ self with lastState := some "unreachable" },
        [⟨"node_state_change",valueOr self.lastState "unknown","unreachable",
          String.ofList (text.toList.take 200)⟩])
    else (self,[])
  | .invalid => (self,[])
  | .object role state timeline serverVersion =>
    let role := role.getD "unknown"
    let state := state.getD "unknown"
    let roleChange : List Emission :=
      if some role ≠ self.lastRole ∧ (self.lastRole ≠ none ∨ emitInitial = true) then
        [⟨"role_change",valueOr self.lastRole "none",role,
          jsonDumps [("state",jsonString state),("timeline",jsonInt timeline),
            ("server_version",jsonInt serverVersion)]⟩]
      else []
    let stateChange : List Emission :=
      if some state ≠ self.lastState ∧ (self.lastState ≠ none ∨ emitInitial = true) then
        [⟨"node_state_change",valueOr self.lastState "none",state,
          jsonDumps [("role",jsonString role)]⟩]
      else []
    let timelineChange : List Emission :=
      if timeline ≠ self.lastTimeline ∧ self.lastTimeline ≠ none then
        [⟨"timeline_change",pythonStr self.lastTimeline,pythonStr timeline,
          jsonDumps [("role",jsonString role),("state",jsonString state)]⟩]
      else []
    ({ lastRole := some role
       lastState := some state
       lastTimeline := timeline },roleChange ++ stateChange ++ timelineChange)

/-- The watcher after `setup` and the polls after it, with what it has emitted. -/
def patroniWatch (polls : List PatroniResponse) : PatroniWatcher × List Emission :=
  observe PatroniWatcher.pollState {} polls

def patroniEvents (polls : List PatroniResponse) : List Emission := (patroniWatch polls).2

/-- A failed request, or an object with a role and a state that are not empty. -/
def PatroniResponse.Regular : PatroniResponse → Prop
  | .requestException _ => True
  | .invalid => False
  | .object role state _ _ => (∃ r, role = some r ∧ r ≠ "") ∧ ∃ s, state = some s ∧ s ≠ ""

def PatroniResponse.role : PatroniResponse → Option String
  | .object role _ _ _ => some (role.getD "unknown")
  | _ => none

def PatroniResponse.state : PatroniResponse → Option String
  | .requestException _ => some "unreachable"
  | .invalid => none
  | .object _ state _ _ => some (state.getD "unknown")

/-- The timeline a successful response reports, which can be that it has none. -/
def PatroniResponse.timeline : PatroniResponse → Option (Option Int)
  | .object _ _ timeline _ => some timeline
  | _ => none

def latestRole (polls : List PatroniResponse) : Option String :=
  (polls.filterMap PatroniResponse.role).getLast?

def latestState (polls : List PatroniResponse) : Option String :=
  (polls.filterMap PatroniResponse.state).getLast?

def roleChanges (polls : List PatroniResponse) : List (Change String) :=
  changesOf "role_change" (patroniEvents polls)

def stateChanges (polls : List PatroniResponse) : List (Change String) :=
  changesOf "node_state_change" (patroniEvents polls)

def timelineChanges (polls : List PatroniResponse) : List (Change String) :=
  changesOf "timeline_change" (patroniEvents polls)

def seenTimelines (polls : List PatroniResponse) : List (Option Int) :=
  polls.filterMap PatroniResponse.timeline

/-- The log says what the node was last known to be, and each event changes what the one of its
type before it has said. -/
structure ReplaysNode (polls : List PatroniResponse) : Prop where
  role : ∀ r, latestRole polls = some r → latest (roleChanges polls) = some r
  state : ∀ s, latestState polls = some s → latest (stateChanges polls) = some s
  roles : Chained (roleChanges polls)
  states : Chained (stateChanges polls)
  timelines : Chained (timelineChanges polls)

section Step

variable {self : PatroniWatcher} {emitInitial : Bool} {r : PatroniResponse}

theorem lastRole_step : (self.pollState emitInitial r).1.lastRole = r.role.or self.lastRole := by
  cases r with
  | requestException text => simp only [PatroniWatcher.pollState]; split <;> rfl
  | invalid => rfl
  | object role state timeline serverVersion => rfl

theorem lastState_step : (self.pollState emitInitial r).1.lastState = r.state.or self.lastState := by
  cases r with
  | requestException text =>
    simp only [PatroniWatcher.pollState]
    split
    next => rfl
    next h => exact not_not.mp h
  | invalid => rfl
  | object role state timeline serverVersion => rfl

theorem changesOf_if {eventType : String} {c : Prop} [Decidable c] {e : Emission} :
    changesOf eventType (if c then [e] else []) =
      if c ∧ e.eventType = eventType then [⟨e.oldValue,e.newValue⟩] else [] := by
  by_cases hc : c
  · by_cases he : e.eventType = eventType
    · simp [hc,he,changesOf]
    · simp [hc,he,changesOf]
  · simp [hc]

theorem roleChanges_step (emitInitial : Bool) (r : PatroniResponse)
    (hlast : ∀ text, self.lastRole = some text → text ≠ "") :
    changesOf "role_change" (self.pollState emitInitial r).2 =
      changed emitInitial "none" self.lastRole r.role := by
  cases r with
  | requestException text =>
    simp only [PatroniWatcher.pollState]
    split <;> simp [changesOf,PatroniResponse.role]
  | invalid => rfl
  | object role state timeline serverVersion =>
    simp only [PatroniWatcher.pollState,changesOf_append,changesOf_if]
    simp [PatroniResponse.role,changed,valueOr_getD hlast]

theorem stateChanges_failed {text : String} (hlast : ∀ text, self.lastState = some text → text ≠ "") :
    changesOf "node_state_change" (self.pollState emitInitial (.requestException text)).2 =
      changed true "unknown" self.lastState (some "unreachable") := by
  simp only [PatroniWatcher.pollState]
  split
  next h => simp [changesOf,changed,Ne.symm h,valueOr_getD hlast]
  next h => simp [not_not.mp h]

theorem stateChanges_object (emitInitial : Bool) (role state : Option String)
    (timeline serverVersion : Option Int)
    (hlast : ∀ text, self.lastState = some text → text ≠ "") :
    changesOf "node_state_change"
      (self.pollState emitInitial (.object role state timeline serverVersion)).2 =
        changed emitInitial "none" self.lastState (some (state.getD "unknown")) := by
  simp only [PatroniWatcher.pollState,changesOf_append,changesOf_if]
  simp [changed,valueOr_getD hlast]

theorem lastTimeline_step :
    (self.pollState emitInitial r).1.lastTimeline = r.timeline.getD self.lastTimeline := by
  cases r with
  | requestException text => simp only [PatroniWatcher.pollState]; split <;> rfl
  | invalid => rfl
  | object role state timeline serverVersion => rfl

theorem timelineChanges_step (emitInitial : Bool) (r : PatroniResponse) :
    changesOf "timeline_change" (self.pollState emitInitial r).2 =
      r.timeline.elim [] (lossy pythonStr self.lastTimeline) := by
  cases r with
  | requestException text =>
    simp only [PatroniWatcher.pollState]
    split <;> simp [changesOf,PatroniResponse.timeline]
  | invalid => rfl
  | object role state timeline serverVersion =>
    simp only [PatroniWatcher.pollState,changesOf_append,changesOf_if]
    simp [PatroniResponse.timeline,lossy]

end Step

section Timelines

theorem toList_toString (n : Int) : (toString n).toList = Calendar.yearDigits n := by
  cases n with
  | ofNat n => simp [Calendar.yearDigits,ToString.toString,Int.repr]
  | negSucc n => simp [Calendar.yearDigits,ToString.toString,Int.repr]

theorem toString_ne_none (n : Int) : toString n ≠ "None" := by
  intro h
  have hlist := (toList_toString n).symm.trans (congrArg String.toList h)
  cases n with
  | ofNat n =>
    have hmem : 'N' ∈ Nat.toDigits 10 n := by
      rw [show Nat.toDigits 10 n = _ from hlist]
      decide
    have hdigit := Nat.isDigit_of_mem_toDigits (by decide) (by decide) hmem
    contradiction
  | negSucc n => exact absurd (List.cons.inj hlist).1 (by decide)

theorem pythonStr_injective : Function.Injective pythonStr := by
  intro a b h
  cases a with
  | none =>
    cases b with
    | none => rfl
    | some n => exact absurd h.symm (toString_ne_none n)
  | some m =>
    cases b with
    | none => exact absurd h (toString_ne_none m)
    | some n =>
      have hlist := congrArg String.toList h
      rw [pythonStr,pythonStr,toList_toString,toList_toString] at hlist
      rw [Calendar.yearDigits_inj hlist]

theorem seenTimelines_snoc (polls : List PatroniResponse) (r : PatroniResponse) :
    seenTimelines (polls ++ [r]) = seenTimelines polls ++ r.timeline.toList := by
  cases h : r.timeline <;> simp [seenTimelines,h]

theorem watch_lastTimeline (polls : List PatroniResponse) :
    (patroniWatch polls).1.lastTimeline = (seenTimelines polls).getLast?.getD none := by
  induction polls using List.reverseRecOn with
  | nil => rfl
  | append_singleton polls r ih =>
    rw [patroniWatch,observe_snoc,lastTimeline_step,seenTimelines_snoc]
    cases r.timeline with
    | none => rw [Option.toList_none,List.append_nil,← ih]; rfl
    | some v => simp

/-- A change of the timeline is logged as long as there was one before. -/
theorem timelineChanges_eq (polls : List PatroniResponse) :
    timelineChanges polls = lossyLog pythonStr none (seenTimelines polls) := by
  induction polls using List.reverseRecOn with
  | nil => rfl
  | append_singleton polls r ih =>
    have hlog : timelineChanges (polls ++ [r]) = timelineChanges polls ++
        r.timeline.elim [] (lossy pythonStr (patroniWatch polls).1.lastTimeline) := by
      rw [timelineChanges,patroniEvents,patroniWatch,observe_snoc,changesOf_append,emitted,
        timelineChanges_step]
      rfl
    rw [hlog,ih,watch_lastTimeline,seenTimelines_snoc]
    cases r.timeline with
    | none => simp
    | some v => exact (lossyLog_snoc none (seenTimelines polls) v).symm

/-- The events for the timeline chain, if and only if after a loss of the timeline it does not
change. -/
theorem chained_timelineChanges (polls : List PatroniResponse) :
    Chained (timelineChanges polls) ↔ SteadyAfterLoss (seenTimelines polls) := by
  rw [timelineChanges_eq,chained_lossyLog pythonStr_injective,steadyAfterLoss_cons]
  exact and_iff_right fun h => absurd rfl h

/-- After the loss of timeline 3 the change from 4 to 5 does not continue the log. -/
example : timelineChanges ([some 3,none,some 4,some 5].map fun timeline =>
    .object (some "replica") (some "running") timeline none) = [⟨"3","None"⟩,⟨"4","5"⟩] := by decide

end Timelines

/-- What is remembered after regular polls is a text that is not empty. -/
structure Named (w : PatroniWatcher) : Prop where
  role : ∀ text, w.lastRole = some text → text ≠ ""
  state : ∀ text, w.lastState = some text → text ≠ ""

/-- The log says what is remembered. -/
structure Tracks (w : PatroniWatcher) (log : List Emission) : Prop where
  role : latest (changesOf "role_change" log) = w.lastRole
  state : latest (changesOf "node_state_change" log) = w.lastState
  roles : Chained (changesOf "role_change" log)
  states : Chained (changesOf "node_state_change" log)

/-- A node that answers, with role and state other than the text "none". -/
def PatroniResponse.Baseline (r : PatroniResponse) : Prop :=
  ∃ role, r.role = some role ∧ role ≠ "none" ∧ ∀ state, r.state = some state → state ≠ "none"

section Run

variable {self : PatroniWatcher} {emitInitial : Bool} {log : List Emission} {r : PatroniResponse}
  {polls : List PatroniResponse}

theorem named_init : Named {} := by
  constructor <;> simp

theorem named_step (h : Named self) (hr : r.Regular) :
    Named (self.pollState emitInitial r).1 := by
  constructor
  · intro text htext
    rw [lastRole_step,Option.or_eq_some_iff] at htext
    rcases htext with hseen | ⟨-,hlast⟩
    · cases r with
      | object role state timeline serverVersion =>
        obtain ⟨⟨role,rfl,hrole⟩,-⟩ := hr
        exact Option.some.inj hseen ▸ hrole
      | _ => simp [PatroniResponse.role] at hseen
    · exact h.role text hlast
  · intro text htext
    rw [lastState_step,Option.or_eq_some_iff] at htext
    rcases htext with hseen | ⟨-,hlast⟩
    · cases r with
      | object role state timeline serverVersion =>
        obtain ⟨-,state,rfl,hstate⟩ := hr
        exact Option.some.inj hseen ▸ hstate
      | requestException text' =>
        obtain rfl := Option.some.inj hseen
        decide
      | invalid => simp [PatroniResponse.state] at hseen
    · exact h.state text hlast

theorem tracks_init (hr : r.Baseline) :
    Tracks (PatroniWatcher.pollState {} true r).1 (PatroniWatcher.pollState {} true r).2 := by
  obtain ⟨role,hrole,hne,hstate⟩ := hr
  have hroles := roleChanges_step true r named_init.role
  cases r with
  | object role' state timeline serverVersion =>
    obtain rfl := Option.some.inj hrole
    have hstates := stateChanges_object true role' state timeline serverVersion named_init.state
    simp only [PatroniResponse.role,changed_initial] at hroles hstates
    constructor
    · rw [hroles]
      rfl
    · rw [hstates]
      rfl
    · rw [hroles]
      exact chained_snoc.mpr ⟨chained_nil,Ne.symm hne,by simp⟩
    · rw [hstates]
      exact chained_snoc.mpr ⟨chained_nil,Ne.symm (hstate _ rfl),by simp⟩
  | _ => simp [PatroniResponse.role] at hrole

/-- Where role and state are known every poll keeps the log true. -/
theorem tracks_step (hn : Named self) (h : Tracks self log) {role state : String}
    (hrole : self.lastRole = some role) (hstate : self.lastState = some state) :
    Tracks (self.pollState false r).1 (log ++ (self.pollState false r).2) := by
  have hroles := roleChanges_step false r hn.role
  rw [hrole] at hroles
  have hstates : ∃ initial missing, changesOf "node_state_change" (self.pollState false r).2 =
      changed initial missing (some state) r.state := by
    cases r with
    | requestException text =>
      exact ⟨true,"unknown",hstate ▸ stateChanges_failed hn.state⟩
    | invalid => exact ⟨true,"unknown",rfl⟩
    | object role state timeline serverVersion =>
      exact ⟨false,"none",hstate ▸ stateChanges_object _ _ _ _ _ hn.state⟩
  obtain ⟨initial,missing,hstates⟩ := hstates
  have hlatestRole := h.role.trans hrole
  have hlatestState := h.state.trans hstate
  constructor
  · rw [changesOf_append,hroles,latest_changed hlatestRole,lastRole_step,hrole]
  · rw [changesOf_append,hstates,latest_changed hlatestState,lastState_step,hstate]
  · rw [changesOf_append,hroles]
    exact chained_changed h.roles hlatestRole
  · rw [changesOf_append,hstates]
    exact chained_changed h.states hlatestState

theorem latestRole_snoc (polls : List PatroniResponse) (r : PatroniResponse) :
    latestRole (polls ++ [r]) = r.role.or (latestRole polls) := by
  cases h : r.role <;> simp [latestRole,h]

theorem latestState_snoc (polls : List PatroniResponse) (r : PatroniResponse) :
    latestState (polls ++ [r]) = r.state.or (latestState polls) := by
  cases h : r.state <;> simp [latestState,h]

/-- The watcher remembers what the polls have shown last. -/
theorem watch_latest (h : polls ≠ []) :
    (patroniWatch polls).1.lastRole = latestRole polls ∧
      (patroniWatch polls).1.lastState = latestState polls := by
  refine observe_induction (M := fun polls (w : PatroniWatcher) _ => w.lastRole = latestRole polls ∧
    w.lastState = latestState polls) ?_ ?_ h
  · intro r
    rw [lastRole_step,lastState_step]
    exact ⟨(latestRole_snoc [] r).symm,(latestState_snoc [] r).symm⟩
  · intro rs w log r _ hw
    rw [lastRole_step,lastState_step,latestRole_snoc,latestState_snoc,hw.1,hw.2]
    exact ⟨rfl,rfl⟩

theorem watch_named (hregular : ∀ r ∈ polls, r.Regular) : Named (patroniWatch polls).1 := by
  induction polls using List.reverseRecOn with
  | nil => exact named_init
  | append_singleton polls r ih =>
    have hr := hregular r (by simp)
    by_cases hpolls : polls = []
    · subst hpolls
      exact named_step named_init hr
    · rw [patroniWatch,observe_poll _ r hpolls]
      exact named_step (ih fun r' hr' => hregular r' (List.mem_append_left _ hr')) hr

theorem latest_of_baseline {first : PatroniResponse} (hhead : polls.head? = some first)
    (hfirst : first.Baseline) :
    ∃ role state, latestRole polls = some role ∧ latestState polls = some state := by
  obtain ⟨role,hrole,-⟩ := hfirst
  have hmem := List.mem_of_mem_head? hhead
  have hsome : ∀ f : PatroniResponse → Option String, (f first).isSome →
      ∃ text, (polls.filterMap f).getLast? = some text := by
    intro f hf
    obtain ⟨text,htext⟩ := Option.isSome_iff_exists.mp hf
    rw [← Option.isSome_iff_exists,List.getLast?_isSome]
    exact List.ne_nil_of_mem (List.mem_filterMap.mpr ⟨first,hmem,htext⟩)
  cases first with
  | object role state timeline serverVersion =>
    obtain ⟨role,hrole⟩ := hsome PatroniResponse.role rfl
    obtain ⟨state,hstate⟩ := hsome PatroniResponse.state rfl
    exact ⟨role,state,hrole,hstate⟩
  | _ => simp [PatroniResponse.role] at hrole

/-- After a setup poll with an answer the log is true after every poll. -/
theorem watch_tracks (hregular : ∀ r ∈ polls, r.Regular) {first : PatroniResponse}
    (hhead : polls.head? = some first) (hfirst : first.Baseline) :
    Tracks (patroniWatch polls).1 (patroniWatch polls).2 := by
  induction polls using List.reverseRecOn with
  | nil => contradiction
  | append_singleton polls r ih =>
    by_cases hpolls : polls = []
    · subst hpolls
      obtain rfl := Option.some.inj hhead
      exact tracks_init hfirst
    · have hbefore : ∀ r' ∈ polls, r'.Regular := fun r' hr' =>
        hregular r' (List.mem_append_left _ hr')
      rw [List.head?_append_of_ne_nil _ hpolls] at hhead
      have hknown := watch_latest hpolls
      obtain ⟨role,state,hrole,hstate⟩ := latest_of_baseline hhead hfirst
      rw [patroniWatch,observe_poll _ r hpolls]
      exact tracks_step (watch_named hbefore) (ih hbefore hhead) (hknown.1.trans hrole)
        (hknown.2.trans hstate)

theorem watch_unanswered (h : polls ≠ []) (hregular : ∀ r ∈ polls, r.Regular)
    (hnone : ∀ r ∈ polls, r.role = none) :
    roleChanges polls = [] ∧ stateChanges polls = [⟨"unknown","unreachable"⟩] ∧
      (patroniWatch polls).1.lastRole = none ∧
      (patroniWatch polls).1.lastState = some "unreachable" := by
  have hfailed : ∀ r ∈ polls, ∃ text, r = .requestException text := by
    intro r hr
    cases r with
    | requestException text => exact ⟨text,rfl⟩
    | invalid => exact absurd (hregular _ hr) id
    | object => simpa [PatroniResponse.role] using hnone _ hr
  clear hregular hnone
  revert hfailed
  refine observe_induction (M := fun polls (w : PatroniWatcher) log =>
    (∀ r ∈ polls, ∃ text, r = .requestException text) → changesOf "role_change" log = [] ∧
      changesOf "node_state_change" log = [⟨"unknown","unreachable"⟩] ∧ w.lastRole = none ∧
      w.lastState = some "unreachable") ?_ ?_ h
  · intro r hr
    obtain ⟨text,rfl⟩ := hr r (List.mem_singleton_self r)
    simp [PatroniWatcher.pollState,changesOf,valueOr]
  · intro rs w log r _ hw hr
    obtain ⟨text,rfl⟩ := hr r (by simp)
    obtain ⟨hroles,hstates,hrole,hstate⟩ := hw fun r' hr' => hr r' (List.mem_append_left _ hr')
    simp [PatroniWatcher.pollState,hstate,hroles,hstates,hrole]

/-- The first answer after a failed setup poll is not logged. -/
theorem roleChanges_unanswered (h : polls ≠ []) (hregular : ∀ r ∈ polls, r.Regular)
    (hnone : ∀ r ∈ polls, r.role = none) (r : PatroniResponse) :
    roleChanges (polls ++ [r]) = [] := by
  obtain ⟨hroles,-,hlast,-⟩ := watch_unanswered h hregular hnone
  rw [roleChanges,patroniEvents,patroniWatch,observe_poll _ r h,append,changesOf_append]
  have hstep := roleChanges_step false r (watch_named hregular).role
  rw [hlast,changed_silent] at hstep
  exact List.append_eq_nil_iff.mpr ⟨hroles,hstep⟩

end Run

def AlwaysReplays (polls : List PatroniResponse) : Prop :=
  ∀ done, done <+: polls → done ≠ [] → ReplaysNode done

section Law

variable {polls : List PatroniResponse}

theorem Tracks.replays (h : polls ≠ []) (hsteady : SteadyAfterLoss (seenTimelines polls))
    (ht : Tracks (patroniWatch polls).1 (patroniWatch polls).2) : ReplaysNode polls where
  role _ hr := (ht.role.trans (watch_latest h).1).trans hr
  state _ hs := (ht.state.trans (watch_latest h).2).trans hs
  roles := ht.roles
  states := ht.states
  timelines := (chained_timelineChanges polls).mpr hsteady

theorem replays_of_unanswered (h : polls ≠ []) (hsteady : SteadyAfterLoss (seenTimelines polls))
    (hregular : ∀ r ∈ polls, r.Regular) (hnone : ∀ r ∈ polls, r.role = none) :
    ReplaysNode polls := by
  obtain ⟨hroles,hstates,-,hstate⟩ := watch_unanswered h hregular hnone
  constructor
  · intro role hrole
    rw [latestRole,List.filterMap_eq_nil_iff.mpr hnone] at hrole
    contradiction
  · intro state hlatest
    rw [hstates,← hlatest,← (watch_latest h).2,hstate]
    rfl
  · rw [hroles]
    exact chained_nil
  · rw [hstates]
    exact chained_snoc.mpr ⟨chained_nil,by decide,by simp⟩
  · exact (chained_timelineChanges polls).mpr hsteady

theorem baseline_of_replays {first : PatroniResponse} (h : ReplaysNode [first]) {role : String}
    (hrole : first.role = some role) : first.Baseline := by
  have hroles : roleChanges [first] = changed true "none" none first.role :=
    roleChanges_step true first named_init.role
  rw [hrole,changed_initial] at hroles
  refine ⟨role,hrole,Ne.symm (h.roles.changes _ (hroles ▸ List.mem_singleton_self _)),?_⟩
  intro state hstate
  cases first with
  | object role' state' timeline serverVersion =>
    have hstates : stateChanges [.object role' state' timeline serverVersion] =
        changed true "none" none (some (state'.getD "unknown")) :=
      stateChanges_object true role' state' timeline serverVersion named_init.state
    obtain rfl := Option.some.inj hstate
    rw [changed_initial] at hstates
    exact Ne.symm (h.states.changes _ (hstates ▸ List.mem_singleton_self _))
  | _ => simp [PatroniResponse.role] at hrole

theorem unanswered_of_replays (h : AlwaysReplays polls) (hregular : ∀ r ∈ polls, r.Regular)
    (hfirst : ∀ r ∈ polls.head?, r.role = none) : ∀ r ∈ polls, r.role = none := by
  induction polls using List.reverseRecOn with
  | nil => simp
  | append_singleton polls r ih =>
    by_cases hpolls : polls = []
    · subst hpolls
      simpa using hfirst
    rw [List.head?_append_of_ne_nil _ hpolls] at hfirst
    have hbefore : ∀ r' ∈ polls, r'.Regular := fun r' hr' =>
      hregular r' (List.mem_append_left _ hr')
    have hnone := ih (fun done hdone => h done (hdone.trans (List.prefix_append _ _))) hbefore hfirst
    have hempty := roleChanges_unanswered hpolls hbefore hnone r
    have hreplays := h (polls ++ [r]) (List.prefix_refl _) (by simp)
    intro r' hr'
    rcases List.mem_append.mp hr' with hr' | hr'
    · exact hnone r' hr'
    · obtain rfl := List.mem_singleton.mp hr'
      rw [Option.eq_none_iff_forall_ne_some]
      intro role hrole
      have hlatest := hreplays.role role (by rw [latestRole_snoc,hrole]; rfl)
      rw [hempty] at hlatest
      contradiction

/-- The log says after every poll what the node was last known to be, if and only if the setup
poll was answered, with role and state other than the text "none", or no poll ever is, and once the
node has lost its timeline the one it shows next does not change. -/
theorem log_replays_node_iff (hregular : ∀ r ∈ polls, r.Regular) :
    AlwaysReplays polls ↔
      ((∃ first, polls.head? = some first ∧ first.Baseline) ∨ ∀ r ∈ polls, r.role = none) ∧
        SteadyAfterLoss (seenTimelines polls) := by
  constructor
  · intro h
    cases polls with
    | nil => exact ⟨.inr (by simp),steadyAfterLoss_nil⟩
    | cons first rest =>
      refine ⟨?_,(chained_timelineChanges _).mp (h _ (List.prefix_refl _) (by simp)).timelines⟩
      cases hrole : first.role with
      | none => exact .inr (unanswered_of_replays h hregular (by simpa using hrole))
      | some role =>
        have hsetup := h [first] (by simp) (by simp)
        exact .inl ⟨first,rfl,baseline_of_replays hsetup hrole⟩
  · intro ⟨h,hsteady⟩ done hdone hne
    have hdoneSteady : SteadyAfterLoss (seenTimelines done) := hsteady.of_prefix (hdone.filterMap _)
    have hdoneRegular : ∀ r ∈ done, r.Regular := fun r hr => hregular r (hdone.subset hr)
    rcases h with ⟨first,hhead,hfirst⟩ | hnone
    · have hhead' : done.head? = some first := by
        obtain ⟨rest,rfl⟩ := hdone
        rwa [List.head?_append_of_ne_nil _ hne] at hhead
      exact (watch_tracks hdoneRegular hhead' hfirst).replays hne hdoneSteady
    · exact replays_of_unanswered hne hdoneSteady hdoneRegular fun r hr => hnone r (hdone.subset hr)

/-- A node that is restarted while it is watched, and has no timeline for a while. -/
def restartedNode : List PatroniResponse :=
  [.object (some "primary") (some "running") (some 3) (some 160002),.requestException "refused",
    .object (some "replica") (some "starting") none (some 160002),
    .object (some "replica") (some "running") (some 4) (some 160002)]

theorem log_replays_node_restartedNode :
    AlwaysReplays restartedNode ↔
      ((∃ first, restartedNode.head? = some first ∧ first.Baseline) ∨
        ∀ r ∈ restartedNode, r.role = none) ∧ SteadyAfterLoss (seenTimelines restartedNode) :=
  log_replays_node_iff (by simp [restartedNode,PatroniResponse.Regular])

/-- A node that is not up yet when the watcher starts. -/
def lateNode : List PatroniResponse :=
  [.requestException "refused",.object (some "primary") (some "running") (some 3) (some 160002)]

/-- Its role is in no event. -/
theorem lateNode_role_lost : (∀ r ∈ lateNode, r.Regular) ∧ latestRole lateNode = some "primary" ∧
    roleChanges lateNode = [] ∧ ¬ AlwaysReplays lateNode := by
  have hempty : roleChanges lateNode = [] := by decide
  refine ⟨by simp [lateNode,PatroniResponse.Regular],rfl,hempty,fun h => ?_⟩
  have hrole := (h lateNode (List.prefix_refl _) (by decide)).role "primary" rfl
  rw [hempty] at hrole
  contradiction

end Law

end RoutingBench
