import RoutingBench.Outbox
import RoutingBench.Schema
import Mathlib.Data.Fintype.Defs
set_option autoImplicit false

/-!
The observers' event emitter: one buffer under a lock, flushed by the watcher
thread when it is long enough, by the background thread every second and by
`stop`. A step is what happens between two points where another thread can run:
one section under the lock, or one autocommitted INSERT.
-/

namespace RoutingBench

/-- A single state-change event from a component. `newValue` is what the watcher passes
on, which can be None. -/
structure Event where
  ts : Timestamp
  eventType : String
  newValue : Option String
  oldValue : Option String := some ""
  detail : Option String := some ""
  deriving DecidableEq, Repr

/-- An Event object in the buffer. Two calls of `emit` pass two objects, however much the
events look alike; the number of the call tells them apart. -/
structure Entry where
  call : Nat
  event : Event
  deriving DecidableEq, Repr

structure Emitter where
  timescaleConnstring : String
  combinationId : String
  testRunId : String
  nodeName : String
  component : String
  batchSize : Nat := 5
  buffer : List Entry := []
  stopEvent : Bool := false
  deriving DecidableEq, Repr

def Emitter.values (self : Emitter) (event : Event) : ObserverValues where
  ts := event.ts
  combinationId := self.combinationId
  testRunId := self.testRunId
  component := self.component
  node := self.nodeName
  eventType := event.eventType
  oldValue := event.oldValue
  newValue := event.newValue
  detail := event.detail

inductive Thread where
  | watcher | flusher | stopper
  deriving DecidableEq, Repr

instance : Fintype Thread := ⟨{.watcher,.flusher,.stopper},fun t => by cases t <;> decide⟩

/-- Where a thread is in the emitter's code: outside it (for the flusher, at the test of
`_flush_loop`); in `emit` after the append; in `_stop_event.wait`; in `_flush_thread.join`;
in `flush` before the lock, with `committed` rows of the taken batch inserted, and in its
except branch before the lock; and done with it for good. -/
inductive Phase where
  | outside
  | appended
  | waiting
  | joining
  | entering
  | writing (events : List Entry) (committed : Nat)
  | failed (events : List Entry) (committed : Nat)
  | finished
  deriving DecidableEq, Repr

def Phase.events : Phase → List Entry
  | .writing events _ | .failed events _ => events
  | _ => []

def Phase.committed : Phase → Nat
  | .writing _ committed | .failed _ committed => committed
  | _ => 0

def Phase.holding : Phase → Bool
  | .writing _ _ | .failed _ _ => true
  | _ => false

theorem Phase.empty_of_not_holding {ph : Phase} (h : ph.holding = false) :
    ph.events = [] ∧ ph.committed = 0 := by
  cases ph <;> simp_all [holding,events,committed]

@[simp] theorem Phase.events_writing (es : List Entry) (n : Nat) : (writing es n).events = es := rfl
@[simp] theorem Phase.events_failed (es : List Entry) (n : Nat) : (failed es n).events = es := rfl
@[simp] theorem Phase.committed_writing (es : List Entry) (n : Nat) :
    (writing es n).committed = n := rfl
@[simp] theorem Phase.committed_failed (es : List Entry) (n : Nat) :
    (failed es n).committed = n := rfl

def Thread.afterFlush : Thread → Phase
  | .watcher | .flusher => .outside
  | .stopper => .finished

@[simp] theorem Thread.afterFlush_holding (t : Thread) : t.afterFlush.holding = false := by
  cases t <;> rfl

/-- `emitted` records every event ever passed to `emit`. -/
structure EmitterProc where
  self : Emitter
  phase : Thread → Phase
  emitted : List Entry

def EmitterProc.start (self : Emitter) : EmitterProc :=
  ⟨{ self with buffer := [], stopEvent := false },fun _ => .outside,[]⟩

inductive EmitterAction where
  | emit : Event → EmitterAction
  | checkLength
  | loopTest
  | waited
  | stop
  | joined
  | take : Thread → EmitterAction
  | insert : Thread → EmitterAction
  | close : Thread → EmitterAction
  | fail : Thread → EmitterAction
  | requeue : Thread → EmitterAction
  deriving DecidableEq, Repr

def EmitterProc.goto (p : EmitterProc) (t : Thread) (phase : Phase) : EmitterProc :=
  { p with phase := Function.update p.phase t phase }

def EmitterProc.withBuffer (p : EmitterProc) (buffer : List Entry) : EmitterProc :=
  { p with self := { p.self with buffer := buffer } }

/-- One step of one thread, with the event whose row it inserts, if any. -/
def EmitterProc.step (p : EmitterProc) : EmitterAction → Option (EmitterProc × Option Entry)
  | .emit event =>
    match p.phase .watcher with
    | .outside =>
      let entry : Entry := ⟨p.emitted.length,event⟩
      some ({ (p.goto .watcher .appended).withBuffer (p.self.buffer ++ [entry]) with
        emitted := p.emitted ++ [entry] },none)
    | _ => none
  | .checkLength =>
    match p.phase .watcher with
    | .appended =>
      some (p.goto .watcher
        (if p.self.batchSize ≤ p.self.buffer.length then .entering else .outside),none)
    | _ => none
  | .loopTest =>
    match p.phase .flusher with
    | .outside => some (p.goto .flusher (if p.self.stopEvent then .finished else .waiting),none)
    | _ => none
  | .waited =>
    match p.phase .flusher with
    | .waiting => some (p.goto .flusher .entering,none)
    | _ => none
  | .stop =>
    match p.phase .stopper with
    | .outside =>
      some ({ p.goto .stopper .joining with self := { p.self with stopEvent := true } },none)
    | _ => none
  -- The join returns when the flush thread has ended, or after five seconds.
  | .joined =>
    match p.phase .stopper with
    | .joining => some (p.goto .stopper .entering,none)
    | _ => none
  | .take t =>
    match p.phase t with
    | .entering =>
      if p.self.buffer = [] then some (p.goto t t.afterFlush,none)
      else if p.self.timescaleConnstring = "" then
        some ((p.goto t t.afterFlush).withBuffer [],none)
      else some ((p.goto t (.writing p.self.buffer 0)).withBuffer [],none)
    | _ => none
  | .insert t =>
    match p.phase t with
    | .writing events committed =>
      (events[committed]?).map fun entry =>
        (p.goto t (.writing events (committed + 1)),some entry)
    | _ => none
  | .close t =>
    match p.phase t with
    | .writing events committed =>
      if committed = events.length then some (p.goto t t.afterFlush,none) else none
    | _ => none
  -- Connecting, an INSERT or closing the connection raised.
  | .fail t =>
    match p.phase t with
    | .writing events committed => some (p.goto t (.failed events committed),none)
    | _ => none
  | .requeue t =>
    match p.phase t with
    | .failed events _ =>
      some ((p.goto t t.afterFlush).withBuffer (events ++ p.self.buffer),none)
    | _ => none

/-- One emitter and the rows it has in observer_events, each by the event it is of. -/
structure EmitterRun where
  proc : EmitterProc
  rows : List Entry

def EmitterRun.start (self : Emitter) : EmitterRun := ⟨.start self,[]⟩

def EmitterRun.step (r : EmitterRun) (a : EmitterAction) : Option EmitterRun :=
  (r.proc.step a).map fun (p,out) => ⟨p,r.rows ++ out.toList⟩

def emits : List EmitterAction → List Event
  | [] => []
  | .emit event :: as => event :: emits as
  | _ :: as => emits as

theorem emits_append (as bs : List EmitterAction) : emits (as ++ bs) = emits as ++ emits bs := by
  induction as with
  | nil => rfl
  | cons a as ih => cases a <;> simp [emits,ih]

section Steps

variable {p p' : EmitterProc} {out : Option Entry} {t : Thread} {a : EmitterAction}

@[simp] theorem goto_self (p : EmitterProc) (t : Thread) (ph : Phase) :
    (p.goto t ph).self = p.self := rfl

@[simp] theorem goto_emitted (p : EmitterProc) (t : Thread) (ph : Phase) :
    (p.goto t ph).emitted = p.emitted := rfl

@[simp] theorem goto_phase (p : EmitterProc) (t : Thread) (ph : Phase) :
    (p.goto t ph).phase = Function.update p.phase t ph := rfl

@[simp] theorem withBuffer_phase (p : EmitterProc) (b : List Entry) :
    (p.withBuffer b).phase = p.phase := rfl

@[simp] theorem withBuffer_emitted (p : EmitterProc) (b : List Entry) :
    (p.withBuffer b).emitted = p.emitted := rfl

@[simp] theorem withBuffer_buffer (p : EmitterProc) (b : List Entry) :
    (p.withBuffer b).self.buffer = b := rfl

theorem step_emit {event : Event} (h : p.step (.emit event) = some (p',out)) :
    p.phase .watcher = .outside ∧ out = none ∧
      p' = { (p.goto .watcher .appended).withBuffer
          (p.self.buffer ++ [⟨p.emitted.length,event⟩]) with
        emitted := p.emitted ++ [⟨p.emitted.length,event⟩] } := by
  cases hw : p.phase .watcher <;> simp [EmitterProc.step,hw] at h
  obtain ⟨rfl,rfl⟩ := h
  exact ⟨rfl,rfl,rfl⟩

theorem step_take (h : p.step (.take t) = some (p',out)) :
    p.phase t = .entering ∧ out = none ∧
      ((p.self.buffer = [] ∧ p' = p.goto t t.afterFlush) ∨
        (p.self.buffer ≠ [] ∧ p.self.timescaleConnstring = "" ∧
          p' = (p.goto t t.afterFlush).withBuffer []) ∨
        (p.self.buffer ≠ [] ∧ p.self.timescaleConnstring ≠ "" ∧
          p' = (p.goto t (.writing p.self.buffer 0)).withBuffer [])) := by
  cases hw : p.phase t <;> simp [EmitterProc.step,hw] at h
  by_cases hb : p.self.buffer = []
  · simp [hb] at h
    obtain ⟨rfl,rfl⟩ := h
    exact ⟨rfl,rfl,.inl ⟨hb,rfl⟩⟩
  by_cases hc : p.self.timescaleConnstring = ""
  · simp [hb,hc] at h
    obtain ⟨rfl,rfl⟩ := h
    exact ⟨rfl,rfl,.inr (.inl ⟨hb,hc,rfl⟩)⟩
  · simp [hb,hc] at h
    obtain ⟨rfl,rfl⟩ := h
    exact ⟨rfl,rfl,.inr (.inr ⟨hb,hc,rfl⟩)⟩

theorem step_insert (h : p.step (.insert t) = some (p',out)) :
    ∃ events committed entry, p.phase t = .writing events committed ∧
      events[committed]? = some entry ∧ out = some entry ∧
      p' = p.goto t (.writing events (committed + 1)) := by
  cases hw : p.phase t <;> simp [EmitterProc.step,hw] at h
  next events committed =>
    obtain ⟨entry,he,rfl,rfl⟩ := h
    exact ⟨events,committed,entry,rfl,he,rfl,rfl⟩

theorem step_close (h : p.step (.close t) = some (p',out)) :
    ∃ events, p.phase t = .writing events events.length ∧ out = none ∧
      p' = p.goto t t.afterFlush := by
  cases hw : p.phase t <;> simp [EmitterProc.step,hw] at h
  next events committed =>
    obtain ⟨rfl,rfl,rfl⟩ := h
    exact ⟨events,rfl,rfl,rfl⟩

theorem step_fail (h : p.step (.fail t) = some (p',out)) :
    ∃ events committed, p.phase t = .writing events committed ∧ out = none ∧
      p' = p.goto t (.failed events committed) := by
  cases hw : p.phase t <;> simp [EmitterProc.step,hw] at h
  next events committed =>
    obtain ⟨rfl,rfl⟩ := h
    exact ⟨events,committed,rfl,rfl,rfl⟩

theorem step_requeue (h : p.step (.requeue t) = some (p',out)) :
    ∃ events committed, p.phase t = .failed events committed ∧ out = none ∧
      p' = (p.goto t t.afterFlush).withBuffer (events ++ p.self.buffer) := by
  cases hw : p.phase t <;> simp [EmitterProc.step,hw] at h
  next events committed =>
    obtain ⟨rfl,rfl⟩ := h
    exact ⟨events,committed,rfl,rfl,rfl⟩

def EmitterAction.quiet : EmitterAction → Option Thread
  | .checkLength => some .watcher
  | .loopTest | .waited => some .flusher
  | .stop | .joined => some .stopper
  | _ => none

theorem step_quiet (ha : a.quiet = some t) (h : p.step a = some (p',out)) :
    out = none ∧ p'.self.buffer = p.self.buffer ∧ p'.emitted = p.emitted ∧
      p'.self.timescaleConnstring = p.self.timescaleConnstring ∧
      ∃ ph, p'.phase = Function.update p.phase t ph ∧
        (p.phase t).holding = false ∧ ph.holding = false := by
  cases a <;> simp only [EmitterAction.quiet,Option.some.injEq,reduceCtorEq] at ha <;> subst ha
  case checkLength =>
    cases hw : p.phase .watcher <;> simp [EmitterProc.step,hw] at h
    obtain ⟨rfl,rfl⟩ := h
    refine ⟨rfl,rfl,rfl,rfl,_,rfl,rfl,?_⟩
    split <;> rfl
  case loopTest =>
    cases hw : p.phase .flusher <;> simp [EmitterProc.step,hw] at h
    obtain ⟨rfl,rfl⟩ := h
    refine ⟨rfl,rfl,rfl,rfl,_,rfl,rfl,?_⟩
    split <;> rfl
  case waited =>
    cases hw : p.phase .flusher <;> simp [EmitterProc.step,hw] at h
    obtain ⟨rfl,rfl⟩ := h
    exact ⟨rfl,rfl,rfl,rfl,_,rfl,rfl,rfl⟩
  case stop =>
    cases hw : p.phase .stopper <;> simp [EmitterProc.step,hw] at h
    obtain ⟨rfl,rfl⟩ := h
    exact ⟨rfl,rfl,rfl,rfl,_,rfl,rfl,rfl⟩
  case joined =>
    cases hw : p.phase .stopper <;> simp [EmitterProc.step,hw] at h
    obtain ⟨rfl,rfl⟩ := h
    exact ⟨rfl,rfl,rfl,rfl,_,rfl,rfl,rfl⟩

theorem emitter_frame (h : p.step a = some (p',out)) :
    p'.self.testRunId = p.self.testRunId ∧ p'.self.combinationId = p.self.combinationId := by
  cases a with
  | emit event => obtain ⟨-,-,rfl⟩ := step_emit h; exact ⟨rfl,rfl⟩
  | take t => obtain ⟨-,-,⟨-,rfl⟩ | ⟨-,-,rfl⟩ | ⟨-,-,rfl⟩⟩ := step_take h <;> exact ⟨rfl,rfl⟩
  | insert t => obtain ⟨_,_,_,-,-,-,rfl⟩ := step_insert h; exact ⟨rfl,rfl⟩
  | close t => obtain ⟨_,-,-,rfl⟩ := step_close h; exact ⟨rfl,rfl⟩
  | fail t => obtain ⟨_,_,-,-,rfl⟩ := step_fail h; exact ⟨rfl,rfl⟩
  | requeue t => obtain ⟨_,_,-,-,rfl⟩ := step_requeue h; exact ⟨rfl,rfl⟩
  | _ =>
    simp only [EmitterProc.step] at h
    split at h
    · obtain ⟨rfl,rfl⟩ := Prod.mk.inj (Option.some.inj h)
      exact ⟨rfl,rfl⟩
    · contradiction

end Steps

def haproxyEmitter : Emitter where
  timescaleConnstring := "host=prb-timescaledb port=5432 dbname=bench"
  combinationId := "06-haproxy-rest-polling"
  testRunId := ""
  nodeName := "haproxy"
  component := "haproxy"

def backendDown : Event where
  ts := 1777000000000000
  eventType := "backend_state_change"
  newValue := some "DOWN"
  oldValue := some "UP"

def backendUp : Event where
  ts := 1777000009000000
  eventType := "backend_state_change"
  newValue := some "UP"
  oldValue := some "DOWN"

def emitAndFlush (event : Event) : List EmitterAction :=
  [.emit event,.checkLength,.loopTest,.waited,.take .flusher,.insert .flusher,.close .flusher]

end RoutingBench
