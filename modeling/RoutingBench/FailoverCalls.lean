import RoutingBench.FailoverTest
set_option autoImplicit false

/-!
What the functions of the runner call, and where a call that fails ends the script.
-/

namespace RoutingBench.Runner
open Errexit

def Program.isList : Program → Bool
  | patronictlList _ => true
  | _ => false

def Program.stopsClient : Program → Bool
  | dockerStop .client => true
  | dockerRestart .client => true
  | _ => false

def Program.isMkdir : Program → Bool
  | mkdir _ => true
  | _ => false

def Program.registers : Program → Bool
  | psql (.insertTestRun _ _ _ _) => true
  | _ => false

def Program.measures : Program → Bool
  | psql (.downtime _) => true
  | _ => false

def Program.pollsRecovery : Program → Bool
  | psql (.recovered _) => true
  | _ => false

/-- What `$(program || echo "0")` takes of an answer. -/
def orZero (a : Answer) : String :=
  captured (a.output ++ if a.status = 0 then "" else "0\n")

def showsRecovery (c : Call Program) : Bool := c.1.pollsRecovery && 5 < number (orZero c.2)

/-- The outputs of `patronictl list` that calls make up: a call that fails is followed by one on
the next node, and the text goes on. -/
def readings (text : String) : List (Call Program) → List String
  | [] => []
  | (.patronictlList n,a) :: calls =>
    if a.status = 0 ∨ n = 3 then captured (text ++ a.output) :: readings "" calls
    else readings (text ++ a.output) calls
  | _ :: calls => readings "" calls

/-- The programs that the row of an iteration is read off, and the one that begins it. -/
def Program.marks : Program → Bool
  | mkdir _ => true
  | psql (.insertTestRun _ _ _ _) => true
  | psql (.downtime _) => true
  | psql (.recovered _) => true
  | _ => false

/-- What is called where errexit is in force. -/
@[simp] def Program.unguarded : Program → Bool
  | mkdir _ => true
  | date _ => true
  | dockerStart .client => true
  | dockerRestart .client => true
  | _ => false

section Guard
variable {w : World Program} (cfg : Config)

theorem guarded_waitForClusterHealthy :
    waitForClusterHealthy.Guarded w Program.unguarded false := by
  simp [waitForClusterHealthy,healthRound,listCluster,capture,print,assignLocal,test,skip]

theorem guarded_findLeader : findLeader.Guarded w Program.unguarded false := by
  simp [findLeader,leaderRound,capture,print,assignLocal,test,echo,skip]

theorem guarded_injectFailure (scenario : Scenario) :
    (injectFailure cfg scenario).Guarded w Program.unguarded false := by
  cases scenario <;>
    simp [injectFailure,victim,run,capture,print,assignLocal,test,skip]

theorem guarded_recoverNode (scenario : Scenario) (iterNum total : Nat) :
    (recoverNode cfg scenario iterNum total).Guarded w Program.unguarded false := by
  refine ⟨?_,?_,?_⟩
  · cases scenario <;> simp [victim,run,skip]
  · intro n k
    dsimp only
    split <;> simp [hasContainer,run,test,skip]
  · simp [test,skip,guarded_waitForClusterHealthy]

theorem guarded_freshClusterCycle : (freshClusterCycle cfg).Guarded w Program.unguarded false := by
  simp [freshClusterCycle,run,skip]

theorem capture_eval (body : Script) (store : String → Vars → Vars) (e : Bool)
    (s : Shell Vars Program) : (capture body store).eval w e s =
      let r := body.eval w false
        ⟨{ s.vars with locals := { s.vars.locals with stdout := "" } },s.calls⟩
      (finish e r.1.ok,⟨store (captured r.2.vars.locals.stdout) s.vars,r.2.calls⟩) := rfl

theorem captureOrZero_eval (program : Globals → Program) (store : String → Vars → Vars) (e : Bool)
    (s : Shell Vars Program) :
    (capture (.or (print program) (echo fun _ => "0")) store).eval w e s =
      let a := w.answer s.calls (program s.vars.globals)
      (.done true,⟨store (orZero a) s.vars,s.calls ++ [(program s.vars.globals,a)]⟩) := by
  have hzero : "0" ++ "\n" = "0\n" := rfl
  simp only [capture_eval,print,echo,assignLocal,Cmd.eval,andThen,finish_unchecked,orZero]
  by_cases hok : (w.answer s.calls (program s.vars.globals)).status = 0 <;>
    simp [hok,Flow.ok,String.append_assoc,hzero]

theorem steadyRound_eval (e : Bool) (s : Shell Vars Program) :
    (steadyRound.eval w e s).1 = .done true ∨ (steadyRound.eval w e s).1 = .returned true := by
  simp only [steadyRound,Cmd.eval,captureOrZero_eval,andThen,test,skip,finish_unchecked,finish_ok]
  split <;> simp

theorem waitForSteadyState_ok (s : Shell Vars Program) :
    (waitForSteadyState.eval w true s).1.ok = true := by
  have hloop := iterate_flow (Q := fun flow => (∃ ok, flow = .done ok) ∨ flow = .returned true)
    (fun ok => .inl ⟨ok,rfl⟩) (b := fun _ => steadyRound.eval w true)
    (fun _ s => .inr ((steadyRound_eval true s).imp_left fun h => ⟨true,h⟩)) 3 0 true s
  rw [waitForSteadyState,Cmd.eval,Cmd.eval]
  rcases hflow : iterate (fun _ => steadyRound.eval w true) 3 0 true s with ⟨flow,t⟩
  rw [hflow] at hloop
  rcases hloop with ⟨ok,rfl⟩ | rfl <;> rfl

theorem guarded_captureOrZero {program : Globals → Program} {store : String → Vars → Vars}
    (hprogram : ∀ g, (program g).unguarded = false) (e : Bool) :
    (capture (.or (print program) (echo fun _ => "0")) store).Guarded w Program.unguarded e := by
  refine ⟨⟨fun _ _ => rfl,fun v => hprogram v.globals,fun _ _ => rfl⟩,fun _ s => ?_⟩
  have hflow := congrArg Prod.fst (captureOrZero_eval (w := w) program store true s)
  rw [capture_eval] at hflow
  cases hok : (Cmd.eval w (.seq (assignLocal fun l => { l with stdout := "" })
      (.or (print program) (echo fun _ => "0"))) false s).1.ok with
  | true => rfl
  | false => exact absurd (hflow.symm.trans (congrArg (finish true) hok)) (by simp [finish])

theorem guarded_waitForSteadyState : waitForSteadyState.Guarded w Program.unguarded true := by
  refine ⟨fun _ => ⟨guarded_captureOrZero (fun _ => rfl) true,?_⟩,fun _ _ => rfl⟩
  simp [test,skip]

theorem guarded_waitForRecovery : waitForRecovery.Guarded w Program.unguarded false := by
  refine ⟨⟨guarded_captureOrZero (fun _ => rfl) false,?_⟩,trivial⟩
  simp [test,skip]

theorem guarded_iteration (iterNum total : Nat) (scenario : Scenario) :
    (iteration cfg iterNum scenario total).Guarded w Program.unguarded true := by
  refine ⟨?_,?_,?_,?_,?_,?_,?_,?_,?_,?_⟩
  · exact fun _ => rfl
  · simp [checkCluster,unhealthyUnless,skipUnless,record,assign,test,skip,
      guarded_waitForClusterHealthy,guarded_freshClusterCycle]
  · simp [findVictim,skipUnless,record,capture,assign,assignLocal,skip,guarded_findLeader]
  · simp [restartClient,run,test,skip,guarded_waitForSteadyState,waitForSteadyState_ok]
  · simp [registerTestRun,ask,run,skip]
  · simp [failVictim,skipUnless,ask,record,assign,skip,guarded_injectFailure]
  · simp [awaitRecovery,assign,run,test,skip,guarded_waitForRecovery]
  · simp [tagEvents,ask,run,skip]
  · simp [measure,measureDowntime,capture,print,record,assign,assignLocal,test,skip,finish,Flow.ok]
  · simp [recover,run,test,skip,guarded_recoverNode]

theorem guarded_runFailoverTest : (runFailoverTest cfg).Guarded w Program.unguarded true := by
  refine ⟨fun i => ?_,fun _ _ => rfl⟩
  rw [mainRound]
  split
  · exact guarded_iteration cfg _ _ _
  · exact fun _ _ => rfl

end Guard

section Steps
variable {w : World Program} (cfg : Config)

/-- Calls that are made one after the other, with the variables of the main loop as they were. -/
structure Makes (s t : Shell Vars Program) (made : List (Call Program)) : Prop where
  globals : t.vars.globals = s.vars.globals
  calls : t.calls = s.calls ++ made

theorem Makes.trans {s t u : Shell Vars Program} {made made' : List (Call Program)}
    (h : Makes s t made) (h' : Makes t u made') : Makes s u (made ++ made') :=
  ⟨h'.globals.trans h.globals,by rw [h'.calls,h.calls,List.append_assoc]⟩

theorem listCluster_eval (s : Shell Vars Program) :
    let r := (capture listCluster fun text v =>
      { v with locals := { v.locals with output := text } }).eval w false s
    (∃ ok, r.1 = .done ok) ∧ ∃ made, Makes s r.2 made ∧ (∀ c ∈ made, c.1.isList = true) ∧
      ∀ rest, readings "" (made ++ rest) = r.2.vars.locals.output :: readings "" rest := by
  obtain ⟨a₁,ha₁⟩ : ∃ a, w.answer s.calls (.patronictlList 1) = a := ⟨_,rfl⟩
  obtain ⟨a₂,ha₂⟩ : ∃ a, w.answer (s.calls ++ [(.patronictlList 1,a₁)]) (.patronictlList 2) = a :=
    ⟨_,rfl⟩
  obtain ⟨a₃,ha₃⟩ : ∃ a, w.answer (s.calls ++ [(.patronictlList 1,a₁),(.patronictlList 2,a₂)])
    (.patronictlList 3) = a := ⟨_,rfl⟩
  simp only [capture_eval,listCluster,print,Cmd.eval,finish_unchecked,ha₁]
  refine ⟨⟨_,rfl⟩,?_⟩
  by_cases hok₁ : a₁.status = 0
  · exact ⟨[(.patronictlList 1,a₁)],⟨rfl,by simp [andThen,hok₁]⟩,by simp [Program.isList],
      by simp [andThen,readings,hok₁]⟩
  by_cases hok₂ : a₂.status = 0
  · exact ⟨[(.patronictlList 1,a₁),(.patronictlList 2,a₂)],
      ⟨rfl,by simp [andThen,hok₁,hok₂,ha₂]⟩,by simp [Program.isList],
      by simp [andThen,readings,hok₁,hok₂,ha₂]⟩
  · exact ⟨[(.patronictlList 1,a₁),(.patronictlList 2,a₂),(.patronictlList 3,a₃)],
      ⟨rfl,by simp [andThen,hok₁,hok₂,ha₂,ha₃]⟩,by simp [Program.isList],
      by simp [andThen,readings,hok₁,hok₂,ha₂,ha₃]⟩

theorem healthRound_eval (s : Shell Vars Program) : ∃ made text t,
    healthRound.eval w false s = (if healthy text then .returned true else .done true,t) ∧
      Makes s t made ∧ (∀ c ∈ made, c.1.isList = true) ∧
      ∀ rest, readings "" (made ++ rest) = text :: readings "" rest := by
  obtain ⟨⟨ok,hflow⟩,made,hmade,hlist,hreadings⟩ := listCluster_eval (w := w) s
  refine ⟨made,_,_,?_,hmade,hlist,hreadings⟩
  rw [healthRound,Cmd.eval,Cmd.eval]
  generalize (capture listCluster fun text v =>
    { v with locals := { v.locals with output := text } }).eval w false s = r at hflow ⊢
  obtain ⟨flow,t⟩ := r
  obtain rfl : flow = .done ok := hflow
  by_cases hhealthy : healthy t.vars.locals.output = true <;> cases ok <;>
    simp [test,skip,hhealthy]

/-- The rounds of wait_for_cluster_healthy: their readings are not healthy, but for the last one if
it ends the wait. -/
theorem healthRounds_eval (n i : Nat) (ok : Bool) (s : Shell Vars Program) : ∃ made found flow t,
    iterate (fun _ => healthRound.eval w false) n i ok s = (flow,t) ∧
      (flow = .returned true ∧ found = true ∨ (∃ last, flow = .done last) ∧ found = false) ∧
      Makes s t made ∧ (∀ c ∈ made, c.1.isList = true) ∧
      ∀ rest, (readings "" (made ++ rest)).any healthy =
        (found || (readings "" rest).any healthy) := by
  induction n generalizing i ok s with
  | zero =>
    exact ⟨[],false,_,s,rfl,.inr ⟨⟨ok,rfl⟩,rfl⟩,⟨rfl,(List.append_nil _).symm⟩,by simp,
      fun _ => rfl⟩
  | succ n ih =>
    obtain ⟨made,text,t,heval,hmade,hlist,hreadings⟩ := healthRound_eval (w := w) s
    rw [iterate,heval]
    by_cases hhealthy : healthy text = true
    · refine ⟨made,true,.returned true,t,by rw [if_pos hhealthy],.inl ⟨rfl,rfl⟩,hmade,hlist,
        fun rest => ?_⟩
      rw [hreadings,List.any_cons,hhealthy]
    · obtain ⟨made',found,flow,u,hrest,hflow,hmade',hlist',hreadings'⟩ := ih (i + 1) true t
      refine ⟨made ++ made',found,flow,u,?_,hflow,hmade.trans hmade',?_,fun rest => ?_⟩
      · rw [if_neg hhealthy]
        exact hrest
      · intro c hc
        rcases List.mem_append.mp hc with hc | hc
        · exact hlist c hc
        · exact hlist' c hc
      · rw [List.append_assoc,hreadings,List.any_cons,Bool.eq_false_iff.mpr hhealthy,hreadings']
        rfl

theorem waitForClusterHealthy_eval (s : Shell Vars Program) : ∃ made found t,
    waitForClusterHealthy.eval w false s = (.returned found,t) ∧ Makes s t made ∧
      (∀ c ∈ made, c.1.isList = true) ∧ ∀ rest, (readings "" (made ++ rest)).any healthy =
        (found || (readings "" rest).any healthy) := by
  obtain ⟨made,found,flow,t,hrounds,hflow,hmade,hlist,hreadings⟩ :=
    healthRounds_eval (w := w) (w.passes s.calls) 0 true s
  refine ⟨made,found,t,?_,hmade,hlist,hreadings⟩
  rw [waitForClusterHealthy,Cmd.eval,Cmd.eval,hrounds]
  rcases hflow with ⟨rfl,rfl⟩ | ⟨⟨last,rfl⟩,rfl⟩ <;> rfl

theorem leaderRound_eval (n : Nat) (s : Shell Vars Program) :
    let r := (leaderRound n).eval w false s
    ∃ a, Makes s r.2 [(.patronictlList n,a)] ∧
      ((r.1 = .continued ∨ r.1 = .done true) ∧ r.2.vars.locals.stdout = s.vars.locals.stdout ∨
        r.1 = .returned true ∧ r.2.vars.locals.stdout = s.vars.locals.stdout ++
          dropPrefix "patroni-node" (leaderColumn (captured a.output)) ++ "\n") := by
  obtain ⟨a,ha⟩ : ∃ a, w.answer s.calls (.patronictlList n) = a := ⟨_,rfl⟩
  simp only [leaderRound,capture_eval,print,echo,assignLocal,test,skip,Cmd.eval,finish_unchecked,
    finish_ok,ha]
  refine ⟨a,?_⟩
  by_cases hok : a.status = 0
  · by_cases hleader : leaderColumn (captured a.output) = ""
    · exact ⟨⟨by simp [Flow.ok,hok,hleader],by simp [Flow.ok,hok,hleader]⟩,
        .inl (by simp [Flow.ok,hok,hleader])⟩
    · exact ⟨⟨by simp [Flow.ok,hok,hleader],by simp [Flow.ok,hok,hleader]⟩,
        .inr (by simp [Flow.ok,hok,hleader])⟩
  · exact ⟨⟨by simp [Flow.ok,hok],by simp [Flow.ok,hok]⟩,
      .inl (by simp [Flow.ok,hok])⟩

def Found (s t : Shell Vars Program) (made : List (Call Program)) : Prop :=
  ∃ front c, made = front ++ [c] ∧ t.vars.locals.stdout = s.vars.locals.stdout ++
    dropPrefix "patroni-node" (leaderColumn (captured c.2.output)) ++ "\n"

theorem leaderRounds_eval (n i : Nat) (ok : Bool) (s : Shell Vars Program) : ∃ made flow t,
    iterate (fun k => (leaderRound (k + 1)).eval w false) n i ok s = (flow,t) ∧
      ((∃ last, flow = .done last) ∨ flow = .returned true ∧ Found s t made) ∧
      Makes s t made ∧ ∀ c ∈ made, c.1.isList = true := by
  induction n generalizing i ok s with
  | zero => exact ⟨[],_,s,rfl,.inl ⟨ok,rfl⟩,⟨rfl,(List.append_nil _).symm⟩,by simp⟩
  | succ n ih =>
    obtain ⟨a,hmade,hflow⟩ := leaderRound_eval (w := w) (i + 1) s
    rcases heval : (leaderRound (i + 1)).eval w false s with ⟨flow,t⟩
    rw [heval] at hmade hflow
    have hgoes : t.vars.locals.stdout = s.vars.locals.stdout →
        ∃ made flow u, iterate (fun k => (leaderRound (k + 1)).eval w false) n (i + 1) true t =
          (flow,u) ∧ ((∃ last, flow = .done last) ∨ flow = .returned true ∧ Found s u made) ∧
          Makes s u made ∧ ∀ c ∈ made, c.1.isList = true := by
      intro hstdout
      obtain ⟨made,flow,u,hrest,hflow,hmade',hlist⟩ := ih (i + 1) true t
      refine ⟨(.patronictlList (i + 1),a) :: made,flow,u,hrest,?_,hmade.trans hmade',?_⟩
      · refine hflow.imp_right fun h => ⟨h.1,?_⟩
        obtain ⟨front,c,rfl,hu⟩ := h.2
        exact ⟨_ :: front,c,rfl,hu.trans (by rw [hstdout])⟩
      · intro c hc
        rcases List.mem_cons.mp hc with rfl | hc
        · rfl
        · exact hlist c hc
    rcases hflow with ⟨hflow | hflow,hstdout⟩ | ⟨hflow,hstdout⟩ <;> subst hflow
    · rw [iterate_continued heval]
      exact hgoes hstdout
    · rw [iterate_done heval]
      exact hgoes hstdout
    · rw [iterate_returned heval]
      exact ⟨[(.patronictlList (i + 1),a)],_,t,rfl,
        .inr ⟨rfl,[],(.patronictlList (i + 1),a),rfl,hstdout⟩,hmade,by simp [Program.isList]⟩

theorem findLeader_eval (s : Shell Vars Program) :
    let r := (capture (.call findLeader) fun text v =>
      { v with globals := { v.globals with leaderNum := text } }).eval w false s
    ∃ made found, r.1 = .done found ∧ r.2.calls = s.calls ++ made ∧
      (∀ c ∈ made, c.1.isList = true) ∧
      ∃ num, r.2.vars.globals = { s.vars.globals with leaderNum := num } ∧
        (found = true → ∃ front c, made = front ++ [c] ∧
          num = leaderNumber (captured c.2.output)) := by
  obtain ⟨made,flow,t,hrounds,hflow,hmade,hlist⟩ := leaderRounds_eval (w := w) 3 0 true
    ⟨{ s.vars with locals := { s.vars.locals with stdout := "" } },s.calls⟩
  have hfind : findLeader.eval w false
      ⟨{ s.vars with locals := { s.vars.locals with stdout := "" } },s.calls⟩ =
        (.returned (decide (flow = .returned true)),t) := by
    rw [findLeader,Cmd.eval,Cmd.eval,hrounds]
    rcases hflow with ⟨last,rfl⟩ | ⟨rfl,-⟩ <;> rfl
  simp only [capture_eval,Cmd.eval,hfind,leave,finish_unchecked,Flow.ok]
  refine ⟨made,_,rfl,hmade.calls,hlist,_,rfl,fun hfound => ?_⟩
  rcases hflow with ⟨last,rfl⟩ | ⟨-,front,c,rfl,hstdout⟩
  · simp at hfound
  · refine ⟨front,c,rfl,?_⟩
    rw [hstdout]
    simp [leaderNumber]

theorem recoveryRound_eval (s : Shell Vars Program) : ∃ a t,
    recoveryRound.eval w false s =
        (if 5 < number (orZero a) then .returned true else .done true,t) ∧
      Makes s t [(.psql (.recovered s.vars.globals.killTs),a)] := by
  refine ⟨w.answer s.calls (.psql (.recovered s.vars.globals.killTs)),
    ⟨{ s.vars with locals := { s.vars.locals with
        recovered := orZero (w.answer s.calls (.psql (.recovered s.vars.globals.killTs))) } },
      s.calls ++ [_]⟩,?_,⟨rfl,rfl⟩⟩
  simp only [recoveryRound,Cmd.eval,captureOrZero_eval,andThen,test,skip,finish_unchecked,
    decide_eq_true_eq]
  split <;> rfl

/-- The rounds of wait_for_recovery, which the first poll that shows enough successes ends. -/
theorem recoveryRounds_eval (n i : Nat) (ok : Bool) (s : Shell Vars Program) :
    ∃ made found flow t, iterate (fun _ => recoveryRound.eval w false) n i ok s = (flow,t) ∧
      (flow = .returned true ∧ found = true ∨ (∃ last, flow = .done last) ∧ found = false) ∧
      Makes s t made ∧ (∀ c ∈ made, c.1.pollsRecovery = true) ∧
      made.any showsRecovery = found := by
  induction n generalizing i ok s with
  | zero =>
    exact ⟨[],false,_,s,rfl,.inr ⟨⟨ok,rfl⟩,rfl⟩,⟨rfl,(List.append_nil _).symm⟩,by simp,rfl⟩
  | succ n ih =>
    obtain ⟨a,t,heval,hmade⟩ := recoveryRound_eval (w := w) s
    by_cases henough : 5 < number (orZero a)
    · rw [if_pos henough] at heval
      rw [iterate_returned (b := fun _ => recoveryRound.eval w false) heval]
      exact ⟨[(.psql (.recovered s.vars.globals.killTs),a)],true,_,t,rfl,.inl ⟨rfl,rfl⟩,hmade,
        by simp [Program.pollsRecovery],by simp [showsRecovery,Program.pollsRecovery,henough]⟩
    · rw [if_neg henough] at heval
      rw [iterate_done (b := fun _ => recoveryRound.eval w false) heval]
      obtain ⟨made,found,flow,u,hrest,hflow,hmade',hpolls,hany⟩ := ih (i + 1) true t
      refine ⟨(.psql (.recovered s.vars.globals.killTs),a) :: made,found,flow,u,hrest,hflow,
        hmade.trans hmade',?_,?_⟩
      · intro c hc
        rcases List.mem_cons.mp hc with rfl | hc
        · rfl
        · exact hpolls c hc
      · rw [List.any_cons,hany]
        simp [showsRecovery,henough]

theorem waitForRecovery_eval (s : Shell Vars Program) : ∃ made found t,
    (Cmd.call waitForRecovery).eval w false s = (.done found,t) ∧ Makes s t made ∧
      (∀ c ∈ made, c.1.pollsRecovery = true) ∧ made.any showsRecovery = found := by
  obtain ⟨made,found,flow,t,hrounds,hflow,hmade,hpolls,hany⟩ :=
    recoveryRounds_eval (w := w) (w.passes s.calls) 0 true s
  refine ⟨made,found,t,?_,hmade,hpolls,hany⟩
  rw [Cmd.eval,waitForRecovery,Cmd.eval,Cmd.eval,hrounds]
  rcases hflow with ⟨rfl,rfl⟩ | ⟨⟨last,rfl⟩,rfl⟩ <;> rfl

end Steps

section Frames

variable {w : World Program} (cfg : Config)

theorem frames_freshClusterCycle : (freshClusterCycle cfg).Frames
    (fun p => p.marks = false ∧ p.isList = false ∧ p.stopsClient = false) Vars.globals := by
  simp [freshClusterCycle,run,skip,Program.marks,Program.isList,Program.stopsClient]

theorem frames_waitForSteadyState : waitForSteadyState.Frames (fun p => p.marks = false)
    Vars.globals := by
  simp [waitForSteadyState,steadyRound,capture,print,echo,assignLocal,test,skip,Program.marks]

theorem frames_injectFailure (scenario : Scenario) :
    (injectFailure cfg scenario).Frames (fun p => p.marks = false) Vars.globals := by
  cases scenario <;>
    simp [injectFailure,run,capture,print,assignLocal,test,skip,Program.marks]

theorem frames_waitForClusterHealthy : waitForClusterHealthy.Frames (fun p => p.marks = false)
    Vars.globals := by
  simp [waitForClusterHealthy,healthRound,listCluster,capture,print,assignLocal,test,skip,
    Program.marks]

theorem frames_recover (iterNum total : Nat) (scenario : Scenario) :
    (recover cfg iterNum scenario total).Frames (fun p => p.marks = false) Vars.globals := by
  refine ⟨?_,⟨?_,?_,?_⟩,?_⟩
  · simp [test,run,skip,Program.marks]
  · cases scenario <;> simp [run,skip,Program.marks]
  · intro n k
    dsimp only
    simp [hasContainer,run,test,skip,Program.marks]
  · simp [test,skip,frames_waitForClusterHealthy]
  · simp [skip]

end Frames

end RoutingBench.Runner
