import RoutingBench.Runs
import Mathlib.Logic.Function.Basic
set_option autoImplicit false

/-!
The observer agent with several targets: a thread for each watcher, the main thread that starts
and joins them, and a signal handler that interrupts it. `run` and `stop` write one flag from two
threads.
-/

namespace RoutingBench
open Runs

/-- Where a watcher's thread is: not started; before `self._running = True`; in `setup`; at the
loop test; in `poll`; asleep; in `teardown`; done, which it also is when `setup` raised. -/
inductive RunPhase where
  | created | entered | setup | loopTest | polling | sleeping | teardown | ended
  deriving DecidableEq, Repr

/-- Where `_run_multi_target` is: with the handler installed for the first signal, and in its
three loops, each with the index it has come to. -/
inductive MainPhase where
  | installing
  | starting (k : Nat)
  | joining (k : Nat)
  | stopping (k : Nat)
  | exited
  deriving DecidableEq, Repr

/-- `handlers` are the calls of `shutdown` in progress, each with the watcher it comes to next;
a signal interrupts the main thread and any handler it is in. -/
structure Agent (n : Nat) where
  main : MainPhase
  handlers : List Nat
  running : Fin n → Bool
  phase : Fin n → RunPhase

def Agent.start (n : Nat) : Agent n := ⟨.installing,[],fun _ => false,fun _ => .created⟩

inductive AgentAction (n : Nat) where
  | main
  | signal
  | stop : Fin n → AgentAction n
  | handled
  | assign : Fin n → AgentAction n
  | ready : Fin n → AgentAction n
  | crash : Fin n → AgentAction n
  | test : Fin n → AgentAction n
  | polled : Fin n → AgentAction n
  | slept : Fin n → AgentAction n
  | tornDown : Fin n → AgentAction n
  deriving DecidableEq, Repr

variable {n : Nat}

def Agent.goto (s : Agent n) (i : Fin n) (phase : RunPhase) : Agent n :=
  { s with phase := Function.update s.phase i phase }

def Agent.write (s : Agent n) (i : Fin n) (value : Bool) : Agent n :=
  { s with running := Function.update s.running i value }

/-- A step of the main thread where no handler holds it up. -/
def Agent.advance (s : Agent n) : Option (Agent n) :=
  match s.main with
  | .installing => some { s with main := .starting 0 }
  | .starting k =>
    if h : k < n then some { s.goto ⟨k,h⟩ .entered with main := .starting (k + 1) }
    else some { s with main := .joining 0 }
  | .joining k =>
    if h : k < n then
      if s.phase ⟨k,h⟩ = .ended then some { s with main := .joining (k + 1) } else none
    else some { s with main := .stopping 0 }
  | .stopping k => some { s with main := if k < n then .stopping (k + 1) else .exited }
  | .exited => none

def Agent.move (s : Agent n) (i : Fin n) (old next : RunPhase) : Option (Agent n) :=
  if s.phase i = old then some (s.goto i next) else none

/-- One assignment of an attribute, one poll, or one step between them. -/
def Agent.step (s : Agent n) : AgentAction n → Option (Agent n)
  | .main => if s.handlers = [] then s.advance else none
  | .signal => if s.main = .exited then none else some { s with handlers := 0 :: s.handlers }
  | .stop i =>
    match s.handlers with
    | j :: rest =>
      if j = i then some { s.write i false with handlers := (j + 1) :: rest } else none
    | [] => none
  | .handled =>
    match s.handlers with
    | j :: rest => if j = n then some { s with handlers := rest } else none
    | [] => none
  | .assign i => (s.move i .entered .setup).map fun s => s.write i true
  | .ready i => s.move i .setup .loopTest
  -- `setup` raised, and `run` raises again.
  | .crash i => s.move i .setup .ended
  | .test i => s.move i .loopTest (if s.running i then .polling else .teardown)
  -- An exception of `poll` is only logged.
  | .polled i => s.move i .polling .sleeping
  | .slept i => s.move i .sleeping .loopTest
  | .tornDown i => s.move i .teardown .ended

section Step

variable {s s' : Agent n} {a : AgentAction n} {i : Fin n}

theorem move_running {old next : RunPhase} (h : s.move i old next = some s') :
    s'.running = s.running := by
  simp only [Agent.move,Option.ite_none_right_eq_some,Option.some.injEq] at h
  rw [← h.2]
  rfl

theorem advance_running (h : s.advance = some s') : s'.running = s.running := by
  unfold Agent.advance at h
  split at h
  · rw [← Option.some.inj h]
  · split at h <;> rw [← Option.some.inj h]
    rfl
  · split at h
    · simp only [Option.ite_none_right_eq_some,Option.some.injEq] at h
      rw [← h.2]
    · rw [← Option.some.inj h]
  · rw [← Option.some.inj h]
  · contradiction

theorem step_running (h : s.step a = some s') (i : Fin n) :
    s'.running i = true ↔ a = .assign i ∨ s.running i = true ∧ a ≠ .stop i := by
  cases a with
  | main =>
    simp only [Agent.step,Option.ite_none_right_eq_some] at h
    simp [advance_running h.2]
  | signal =>
    simp only [Agent.step,Option.ite_none_left_eq_some,Option.some.injEq] at h
    simp [← h.2]
  | stop j =>
    cases hs : s.handlers with
    | nil => simp [Agent.step,hs] at h
    | cons k rest =>
      simp only [Agent.step,hs,Option.ite_none_right_eq_some,Option.some.injEq] at h
      rw [← h.2]
      by_cases hi : i = j
      · subst hi
        simp [Agent.write]
      · simp [Agent.write,hi,Ne.symm hi]
  | handled =>
    cases hs : s.handlers with
    | nil => simp [Agent.step,hs] at h
    | cons k rest =>
      simp only [Agent.step,hs,Option.ite_none_right_eq_some,Option.some.injEq] at h
      simp [← h.2]
  | assign j =>
    obtain ⟨t,ht,rfl⟩ := Option.map_eq_some_iff.mp h
    by_cases hi : i = j
    · subst hi
      simp [Agent.write]
    · simp [Agent.write,hi,Ne.symm hi,move_running ht]
  | ready j => simp [move_running h]
  | crash j => simp [move_running h]
  | test j => simp [move_running h]
  | polled j => simp [move_running h]
  | slept j => simp [move_running h]
  | tornDown j => simp [move_running h]

/-- The flag is up if and only if it was raised and not lowered since. -/
theorem run_running {as : List (AgentAction n)} (hrun : run Agent.step (.start n) as = some s)
    (i : Fin n) : s.running i = true ↔ Since (.assign i) (.stop i) as := by
  refine history (P := fun _ _ => True)
    (I := fun as s => s.running i = true ↔ Since (.assign i) (.stop i) as) ?_ ?_
    (along_of_forall (fun _ _ => trivial) _ _) hrun
  · exact iff_of_false (by simp [Agent.start]) not_since_nil
  · intro as s a s' h _ hstep
    rw [step_running hstep,since_snoc,h]

theorem step_test (h : s.step (.test i) = some s') :
    s.phase i = .loopTest ∧ s'.phase i = if s.running i then .polling else .teardown := by
  simp only [Agent.step,Agent.move,Option.ite_none_right_eq_some,Option.some.injEq] at h
  exact ⟨h.1,by rw [← h.2]; simp [Agent.goto]⟩

end Step

/-- In a run with these actions no loop test after a call of `stop` starts a poll. -/
def NeverForgets (n : Nat) (as : List (AgentAction n)) : Prop :=
  ∀ pre i post s, as = pre ++ .test i :: post → .stop i ∈ pre →
    run Agent.step (.start n) (pre ++ [.test i]) = some s → s.phase i ≠ .polling

/-- A stop request is not forgotten if and only if, at each loop test after one, one has come
after the thread's assignment `self._running = True`. -/
theorem never_forgets_iff {as : List (AgentAction n)} {s : Agent n}
    (hrun : run Agent.step (.start n) as = some s) : NeverForgets n as ↔
      ∀ pre i post, as = pre ++ .test i :: post → .stop i ∈ pre →
        Since (.stop i) (.assign i) pre := by
  have hpoll : ∀ pre i post, as = pre ++ .test i :: post → .stop i ∈ pre → ∃ s,
      run Agent.step (.start n) (pre ++ [.test i]) = some s ∧
        (s.phase i ≠ .polling ↔ Since (.stop i) (.assign i) pre) := by
    rintro pre i post rfl hstop
    obtain ⟨t,ht,hrest⟩ := run_append_some.mp hrun
    obtain ⟨u,hu,-⟩ := run_cons.mp hrest
    refine ⟨u,run_snoc.mpr ⟨t,ht,hu⟩,?_⟩
    rw [← not_since_iff (by simp) hstop,← run_running ht,(step_test hu).2]
    cases t.running i <;> simp
  constructor
  · intro h pre i post has hstop
    obtain ⟨u,hu,hiff⟩ := hpoll pre i post has hstop
    exact hiff.mp (h pre i post u has hstop hu)
  · intro h pre i post u has hstop hu
    obtain ⟨v,hv,hiff⟩ := hpoll pre i post has hstop
    obtain rfl : u = v := Option.some.inj (hu.symm.trans hv)
    exact hiff.mpr (h pre i post has hstop)

/-- The signal comes after the handlers are installed, before the only thread has entered
`run`. -/
def earlySignal : List (AgentAction 1) :=
  [.main,.signal,.stop 0,.handled,.main,.assign 0,.ready 0,.test 0]

theorem earlySignal_forgotten : ∃ s, run Agent.step (.start 1) earlySignal = some s ∧
    s.phase 0 = .polling ∧ ¬ NeverForgets 1 earlySignal :=
  ⟨_,rfl,rfl,fun h => h [.main,.signal,.stop 0,.handled,.main,.assign 0,.ready 0] 0 [] _ rfl
    (by decide) rfl rfl⟩

/-- The signal comes during the first poll. -/
def lateSignal : List (AgentAction 1) :=
  [.main,.main,.assign 0,.ready 0,.test 0,.signal,.stop 0,.handled,.polled 0,.slept 0,.test 0]

theorem never_forgets_iff_lateSignal : ∃ s,
    run Agent.step (.start 1) lateSignal = some s ∧ (NeverForgets 1 lateSignal ↔
      ∀ pre i post, lateSignal = pre ++ .test i :: post → .stop i ∈ pre →
        Since (.stop i) (.assign i) pre) :=
  ⟨_,rfl,never_forgets_iff rfl⟩

end RoutingBench
