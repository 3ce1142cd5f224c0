import RoutingBench.EmitterDelivery
import RoutingBench.HaproxyLane
import RoutingBench.PatroniWatcher
import RoutingBench.Registers
set_option autoImplicit false

/-!
From a watcher to a chart: the events go through the emitter, which may repeat them and write them
out of order, and are read back in the order of their times. What do the rows say of the component?
-/

namespace RoutingBench
open Runs Registers Timeline ChangeLog

/-- `ORDER BY ts`; rows of one time are in any order. -/
structure Selected (rows : List Entry) (shown : List Event) : Prop where
  perm : shown.Perm (rows.map Entry.event)
  ordered : shown.Pairwise fun a b => a.ts ≤ b.ts

/-- What was emitted up to an instant has its rows: it does not wait in the buffer, nor behind the
INSERTs of a batch. -/
structure SettledUpTo (r : EmitterRun) (x : Timestamp) : Prop where
  buffer : ∀ e ∈ r.proc.self.buffer, x < e.event.ts
  batch : ∀ t, ∀ e ∈ (r.proc.phase t).events.drop (r.proc.phase t).committed, x < e.event.ts

def typeValue (event : Event) : Option (String × String) :=
  event.newValue.map fun value => (event.eventType,value)

section Rows

variable {self : Emitter} {as : List EmitterAction} {r : EmitterRun} {event : Event}
  {shown : List Event} {κ ν : Type} [DecidableEq κ] {reg : Event → Option (κ × ν)} {x : Timestamp}

theorem emitted_of_row (hc : self.timescaleConnstring ≠ "")
    (hrun : run EmitterRun.step (.start self) as = some r) {e : Entry} (he : e ∈ r.rows) :
    e.event ∈ emits as := by
  obtain ⟨-,repeated,hl⟩ := run_outbox hc hrun
  have hcount := hl.balanced e
  have hwritten : 0 < (r.outbox repeated).written.count e := List.count_pos_iff.mpr he
  have hpushed : e ∈ (r.outbox repeated).pushed := by
    by_cases hrepeated : e ∈ (r.outbox repeated).repeated
    · exact hl.sound.repeated_pushed e hrepeated
    · rw [List.count_eq_zero_of_not_mem hrepeated] at hcount
      exact List.count_pos_iff.mp (by omega)
  have hnumbered : (r.outbox repeated).pushed = (emits as).mapIdx Entry.mk := run_emitted hrun
  rw [hnumbered,List.mem_mapIdx] at hpushed
  obtain ⟨i,hi,rfl⟩ := hpushed
  exact List.getElem_mem hi

theorem row_of_emitted (hc : self.timescaleConnstring ≠ "")
    (hrun : run EmitterRun.step (.start self) as = some r) (he : event ∈ emits as) :
    ∃ call, ⟨call,event⟩ ∈ r.rows ∨ ⟨call,event⟩ ∈ r.proc.self.buffer ∨
      ∃ t, ⟨call,event⟩ ∈ (r.proc.phase t).events.drop (r.proc.phase t).committed := by
  obtain ⟨-,repeated,hl⟩ := run_outbox hc hrun
  obtain ⟨call,hcall,rfl⟩ := List.getElem_of_mem he
  have hpushed : ⟨call,(emits as)[call]⟩ ∈ (r.outbox repeated).pushed := by
    have hnumbered : (r.outbox repeated).pushed = (emits as).mapIdx Entry.mk := run_emitted hrun
    rw [hnumbered,List.mem_mapIdx]
    exact ⟨call,hcall,rfl⟩
  refine ⟨call,?_⟩
  rcases Outbox.no_loss hl hpushed with hbuffer | ⟨t,hbatch⟩ | hrow
  · exact .inr (.inl hbuffer)
  · rw [← List.take_append_drop ((r.outbox repeated).sent t) ((r.outbox repeated).batch t),
      List.mem_append] at hbatch
    rcases hbatch with hsent | hrest
    · exact .inl (hl.sound.recorded t _ hsent)
    · exact .inr (.inr ⟨t,hrest⟩)
  · exact .inl hrow

theorem mem_upTo_iff (hc : self.timescaleConnstring ≠ "")
    (hrun : run EmitterRun.step (.start self) as = some r) (hsettled : SettledUpTo r x)
    (hshown : Selected r.rows shown) :
    event ∈ upTo Event.ts x shown ↔ event ∈ upTo Event.ts x (emits as) := by
  rw [upTo,upTo,List.mem_filter,List.mem_filter,hshown.perm.mem_iff,List.mem_map]
  refine and_congr_left fun htime => ?_
  have htime : event.ts ≤ x := by simpa using htime
  constructor
  · rintro ⟨e,he,rfl⟩
    exact emitted_of_row hc hrun he
  · intro he
    obtain ⟨call,hrow | hbuffer | ⟨t,hbatch⟩⟩ := row_of_emitted hc hrun he
    · exact ⟨_,hrow,rfl⟩
    · exact absurd htime (not_le.mpr (hsettled.buffer _ hbuffer))
    · exact absurd htime (not_le.mpr (hsettled.batch t _ hbatch))

theorem EmitterRun.Drained.settledUpTo (h : r.Drained) (x : Timestamp) : SettledUpTo r x where
  buffer e he := absurd he (h.1 ▸ List.not_mem_nil)
  batch t e he := by
    rw [(Phase.empty_of_not_holding (h.2 t)).1,List.drop_nil] at he
    contradiction

/-- However the threads of the emitter interleave, and whatever flushes fail and are repeated: what
the rows up to an instant leave in a register is what the events leave that were emitted up to it. -/
theorem rows_replay (hc : self.timescaleConnstring ≠ "")
    (hrun : run EmitterRun.step (.start self) as = some r)
    (hstamped : Stamped Event.ts reg (emits as)) (hsettled : SettledUpTo r x)
    (hshown : Selected r.rows shown) (k : κ) :
    lastTo k ((upTo Event.ts x shown).filterMap reg) =
      lastTo k ((upTo Event.ts x (emits as)).filterMap reg) :=
  lastTo_of_mem_iff (hshown.ordered.filter _) (hstamped.filter _)
    (fun _ => mem_upTo_iff hc hrun hsettled hshown) k

/-- A flush that fails after its first row and is repeated. -/
def emitRepeated (events : List Event) : List EmitterAction :=
  events.flatMap (fun event => [.emit event,.checkLength]) ++
    [.loopTest,.waited,.take .flusher,.insert .flusher,.fail .flusher,.requeue .flusher,.loopTest,
      .waited,.take .flusher] ++
    events.map (fun _ => .insert .flusher) ++ [.close .flusher]

theorem rows_replay_repeated : ∃ r,
    run EmitterRun.step (.start haproxyEmitter) (emitRepeated [backendDown,backendUp]) = some r ∧
      lastTo "backend_state_change" ((upTo Event.ts 1777000005000000
        [backendDown,backendDown,backendUp]).filterMap typeValue) =
      lastTo "backend_state_change"
        ((upTo Event.ts 1777000005000000 [backendDown,backendUp]).filterMap typeValue) := by
  obtain ⟨r,hrun,hrows,hbuffer,hphase⟩ : ∃ r, run EmitterRun.step (.start haproxyEmitter)
      (emitRepeated [backendDown,backendUp]) = some r ∧
        r.rows.map Entry.event = [backendDown,backendDown,backendUp] ∧
        r.proc.self.buffer = [] ∧ ∀ t, (r.proc.phase t).holding = false :=
    ⟨_,rfl,rfl,rfl,fun t => by cases t <;> rfl⟩
  have hdrained : r.Drained := ⟨hbuffer,hphase⟩
  have hshown : Selected r.rows [backendDown,backendDown,backendUp] :=
    ⟨by rw [hrows],by decide⟩
  exact ⟨r,hrun,rows_replay (by decide) hrun (.of_strict (by decide)) (hdrained.settledUpTo _)
    hshown _⟩

end Rows

section Drained

variable {self : Emitter} {as : List EmitterAction} {r : EmitterRun} {shown : List Event}
  {κ ν : Type} [DecidableEq κ] {reg : Event → Option (κ × ν)}

theorem mem_shown_iff (hc : self.timescaleConnstring ≠ "")
    (hrun : run EmitterRun.step (.start self) as = some r) (hdrained : r.Drained)
    (hshown : Selected r.rows shown) (event : Event) : event ∈ shown ↔ event ∈ emits as := by
  have hiff : event ∈ upTo Event.ts event.ts shown ↔ event ∈ upTo Event.ts event.ts (emits as) :=
    mem_upTo_iff hc hrun (hdrained.settledUpTo event.ts) hshown
  simpa [upTo] using hiff

theorem drained_replay (hc : self.timescaleConnstring ≠ "")
    (hrun : run EmitterRun.step (.start self) as = some r) (hdrained : r.Drained)
    (hstamped : Stamped Event.ts reg (emits as)) (hshown : Selected r.rows shown) (k : κ) :
    lastTo k (shown.filterMap reg) = lastTo k ((emits as).filterMap reg) :=
  lastTo_of_mem_iff hshown.ordered hstamped (mem_shown_iff hc hrun hdrained hshown) k

end Drained

def Emission.event (ts : Timestamp) (e : Emission) : Event where
  ts := ts
  eventType := e.eventType
  newValue := some e.newValue
  oldValue := some e.oldValue
  detail := some e.detail

structure Carries (log : List Emission) (events : List Event) : Prop where
  times : ∃ times : List Timestamp, times.length = log.length ∧
    events = times.zipWith Emission.event log

theorem carries_snoc {log : List Emission} {e : Emission} {events : List Event}
    (h : Carries (log ++ [e]) events) :
    ∃ before ts, Carries log before ∧ events = before ++ [e.event ts] := by
  obtain ⟨times,hlength,rfl⟩ := h.times
  obtain ⟨early,ts,rfl⟩ : ∃ early ts, times = early ++ [ts] := by
    rcases List.eq_nil_or_concat times with rfl | ⟨early,ts,rfl⟩
    · simp at hlength
    · exact ⟨early,ts,List.concat_eq_append⟩
  have hearly : early.length = log.length := by simpa using hlength
  exact ⟨_,ts,⟨early,hearly,rfl⟩,List.zipWith_append hearly⟩

theorem carries_nil {events : List Event} (h : Carries [] events) : events = [] := by
  obtain ⟨times,-,rfl⟩ := h.times
  exact List.zipWith_nil_right

section Haproxy

def Event.frameRow (self : Emitter) (event : Event) : ObserverFrameRow where
  ts := event.ts
  component := self.component
  node := self.nodeName
  eventType := event.eventType
  oldValue := event.oldValue
  newValue := event.newValue.getD ""
  detail := event.detail

def serverStatus (event : Event) : Option ((String × String) × String) :=
  (detailServer event.detail).map fun server => (server,event.newValue.getD "")

variable {polls : List HaproxyResponse} {log : List BackendStateChange} {events : List Event}
  {key : String × String}

theorem mem_haproxyStates_iff (self : Emitter) (events : List Event) (key : String × String)
    (status : String) : (key,status) ∈ (events.map (Event.frameRow self)).foldl haproxyStates [] ↔
      lastTo key (events.filterMap serverStatus) = some status := by
  induction events using List.reverseRecOn with
  | nil => simp
  | append_singleton events event ih =>
    rw [List.map_append,List.map_singleton,List.foldl_append,List.foldl_cons,List.foldl_nil,
      lastTo_filterMap_snoc,haproxyStates,serverStatus]
    have hdetail : (event.frameRow self).detail = event.detail := rfl
    have hvalue : (event.frameRow self).newValue = event.newValue.getD "" := rfl
    rw [hdetail,hvalue]
    cases detailServer event.detail with
    | none => exact ih
    | some server =>
      dsimp only
      rw [ServerStates.mem_set,Option.map_some,Option.bind_some]
      by_cases hserver : server = key
      · simp [hserver,eq_comm]
      · simpa [hserver] using ih

theorem lastTo_serverStatus (hcarries : Carries (log.map BackendStateChange.emission) events)
    (hserver : ∀ c ∈ log, c.server ≠ "") (hkey : key.1 ≠ "") :
    lastTo key (events.filterMap serverStatus) = loggedStatus log key := by
  induction log using List.reverseRecOn generalizing events with
  | nil =>
    rw [carries_nil hcarries]
    rfl
  | append_singleton log c ih =>
    rw [List.map_append,List.map_singleton] at hcarries
    obtain ⟨before,ts,hbefore,rfl⟩ := carries_snoc hcarries
    have hstatus : serverStatus (c.emission.event ts) =
        if c.backend ≠ "" ∧ c.server ≠ "" then some (c.key,c.newValue) else none := by
      have hdetail := detailServer_emission c
      rw [serverStatus]
      change (detailServer (some c.emission.detail)).map _ = _
      rw [hdetail]
      split <;> rfl
    rw [lastTo_filterMap_snoc,ih hbefore fun c' hc' => hserver c' (List.mem_append_left _ hc'),
      loggedStatus_concat,hstatus]
    by_cases hbackend : c.backend = ""
    · have hother : c.key ≠ key := fun heq => hkey (by rw [← heq]; exact hbackend)
      simp [hbackend,hother]
    · rw [if_pos ⟨hbackend,hserver c (by simp)⟩,Option.bind_some]
      split
      · rfl
      · rfl

/-- What the chart makes of the rows in the end is what HAProxy has listed: the lane is green if a
server of the primary_backend was UP when it was listed last, and red if none was. -/
theorem haproxy_rows_tell {self : Emitter} {as : List EmitterAction} {r : EmitterRun}
    {shown : List Event} (hc : self.timescaleConnstring ≠ "")
    (hrun : run EmitterRun.step (.start self) as = some r) (hdrained : r.Drained)
    (hcarries : Carries ((haproxyWatch polls).2.map BackendStateChange.emission) (emits as))
    (hstamped : Stamped Event.ts serverStatus (emits as)) (haccounted : Accounted polls)
    (hshown : Selected r.rows shown) :
    Tells (some (haproxyAggregateColor ((shown.map (Event.frameRow self)).foldl haproxyStates [])))
        (∃ server status, lastListed polls ("primary_backend",server) = some status ∧
          upperStartsWithUp status = true) ↔
      ∃ server, lastListed polls ("primary_backend",server) ≠ none := by
  have hstates : ∀ server status, (("primary_backend",server),status) ∈
      (shown.map (Event.frameRow self)).foldl haproxyStates [] ↔
        lastListed polls ("primary_backend",server) = some status := by
    intro server status
    rw [mem_haproxyStates_iff,drained_replay hc hrun hdrained hstamped hshown,
      lastTo_serverStatus hcarries (haproxyWatch_server polls) (by simp),
      logsListed_of_accounted haccounted]
  rw [tells_aggregate_iff]
  simp only [hstates]
  rw [and_true]
  exact exists_congr fun server => Option.ne_none_iff_exists'.symm

def listedEvents : List Event :=
  [1777000000000000,1777000000000200].zipWith Emission.event
    ((haproxyWatch [.stats nodesListed]).2.map BackendStateChange.emission)

theorem haproxy_rows_tell_listed : ∃ r,
    run EmitterRun.step (.start haproxyEmitter) (emitRepeated listedEvents) = some r ∧
      (Tells (some (haproxyAggregateColor (((listedEvents.take 1 ++ listedEvents).map
          (Event.frameRow haproxyEmitter)).foldl haproxyStates [])))
        (∃ server status, lastListed [.stats nodesListed] ("primary_backend",server) = some status ∧
          upperStartsWithUp status = true) ↔
        ∃ server, lastListed [.stats nodesListed] ("primary_backend",server) ≠ none) := by
  obtain ⟨r,hrun,hrows,hbuffer,hphase⟩ : ∃ r, run EmitterRun.step (.start haproxyEmitter)
      (emitRepeated listedEvents) = some r ∧
        r.rows.map Entry.event = listedEvents.take 1 ++ listedEvents ∧
        r.proc.self.buffer = [] ∧ ∀ t, (r.proc.phase t).holding = false :=
    ⟨_,rfl,rfl,rfl,fun t => by cases t <;> rfl⟩
  have haccounted : Accounted [.stats nodesListed] := by
    intro before table after hpolls hne
    cases before with
    | nil => contradiction
    | cons first rest => simp at hpolls
  have hshown : Selected r.rows (listedEvents.take 1 ++ listedEvents) :=
    ⟨by rw [hrows],by decide⟩
  exact ⟨r,hrun,haproxy_rows_tell (by decide) hrun ⟨hbuffer,hphase⟩
    ⟨[1777000000000000,1777000000000200],by decide,rfl⟩ (.of_strict (by decide)) haccounted hshown⟩

end Haproxy

section Patroni

theorem lastTo_typeValue {log : List Emission} {events : List Event} (hcarries : Carries log events)
    (eventType : String) :
    lastTo eventType (events.filterMap typeValue) = latest (changesOf eventType log) := by
  induction log using List.reverseRecOn generalizing events with
  | nil =>
    rw [carries_nil hcarries]
    rfl
  | append_singleton log e ih =>
    obtain ⟨before,ts,hbefore,rfl⟩ := carries_snoc hcarries
    have hvalue : typeValue (e.event ts) = some (e.eventType,e.newValue) := rfl
    rw [lastTo_filterMap_snoc,ih hbefore,hvalue,Option.bind_some,changesOf_append]
    by_cases htype : e.eventType = eventType
    · simp [htype,changesOf]
    · simp [htype,changesOf]

/-- The latest rows of a node whose first poll was answered say what it was last known to be. -/
theorem patroni_rows_tell {self : Emitter} {as : List EmitterAction} {r : EmitterRun}
    {shown : List Event} {polls : List PatroniResponse} {first : PatroniResponse}
    (hc : self.timescaleConnstring ≠ "")
    (hrun : run EmitterRun.step (.start self) as = some r) (hdrained : r.Drained)
    (hcarries : Carries (patroniEvents polls) (emits as))
    (hstamped : Stamped Event.ts typeValue (emits as)) (hregular : ∀ p ∈ polls, p.Regular)
    (hhead : polls.head? = some first) (hfirst : first.Baseline) (hshown : Selected r.rows shown) :
    lastTo "role_change" (shown.filterMap typeValue) = latestRole polls ∧
      lastTo "node_state_change" (shown.filterMap typeValue) = latestState polls := by
  have hne : polls ≠ [] := by
    rintro rfl
    contradiction
  have htracks := watch_tracks hregular hhead hfirst
  obtain ⟨hrole,hstate⟩ := watch_latest hne
  rw [drained_replay hc hrun hdrained hstamped hshown,
    drained_replay hc hrun hdrained hstamped hshown,lastTo_typeValue hcarries,
    lastTo_typeValue hcarries]
  exact ⟨htracks.role.trans hrole,htracks.state.trans hstate⟩

/-- A leader is restarted, and comes back as a replica on the next timeline. -/
def leaderPolls : List PatroniResponse :=
  [.object (some "primary") (some "running") (some 3) (some 160002),
    .requestException "connection refused",
    .object (some "replica") (some "running") (some 4) (some 160002)]

def leaderEvents : List Event :=
  [1777000000000000,1777000000000100,1777000000500000,1777000001000000,1777000001000100,
    1777000001000200].zipWith Emission.event (patroniEvents leaderPolls)

/-- They are inserted in two batches, each of them after a first try that failed. -/
def leaderRows : List Event :=
  leaderEvents.take 1 ++ leaderEvents.take 3 ++ ((leaderEvents.drop 3).take 1 ++ leaderEvents.drop 3)

theorem patroni_rows_tell_leader : ∃ r,
    run EmitterRun.step (.start haproxyEmitter)
        (emitRepeated (leaderEvents.take 3) ++ emitRepeated (leaderEvents.drop 3)) = some r ∧
      (lastTo "role_change" (leaderRows.filterMap typeValue) = latestRole leaderPolls ∧
        lastTo "node_state_change" (leaderRows.filterMap typeValue) = latestState leaderPolls) := by
  obtain ⟨r,hrun,hrows,hbuffer,hphase⟩ : ∃ r, run EmitterRun.step (.start haproxyEmitter)
      (emitRepeated (leaderEvents.take 3) ++ emitRepeated (leaderEvents.drop 3)) = some r ∧
        r.rows.map Entry.event = leaderRows ∧ r.proc.self.buffer = [] ∧
        ∀ t, (r.proc.phase t).holding = false :=
    ⟨_,rfl,rfl,rfl,fun t => by cases t <;> rfl⟩
  have hshown : Selected r.rows leaderRows := ⟨by rw [hrows],by decide⟩
  have hcarries : Carries (patroniEvents leaderPolls)
      (emits (emitRepeated (leaderEvents.take 3) ++ emitRepeated (leaderEvents.drop 3))) :=
    ⟨[1777000000000000,1777000000000100,1777000000500000,1777000001000000,1777000001000100,
      1777000001000200],by decide,rfl⟩
  exact ⟨r,hrun,patroni_rows_tell (by decide) hrun ⟨hbuffer,hphase⟩ hcarries
    (.of_strict (by decide)) (by simp [leaderPolls,PatroniResponse.Regular]) rfl
    ⟨"primary",rfl,by decide,by simp [PatroniResponse.state]⟩ hshown⟩

end Patroni

end RoutingBench
