import RoutingBench.FailoverCalls
set_option autoImplicit false

/-!
The steps of an iteration of the runner: what each one calls, what it leaves in the variables of
the main loop, and whether it ends the iteration.
-/

namespace RoutingBench.Runner
open Errexit

section Stages
variable {w : World Program} (cfg : Config) (iterNum : Nat) (scenario : Scenario)

theorem test_eval (p : Vars → Bool) (s : Shell Vars Program) :
    (test p).eval w false s = (.done (p s.vars),s) := rfl

def Globals.record (g : Globals) (row : Row) (runId : String) : Globals :=
  { g with results := g.results.add row runId }

def recorded (row : Row) (runId : String) (s : Shell Vars Program) : Shell Vars Program :=
  ⟨{ s.vars with globals := s.vars.globals.record row runId },s.calls⟩

theorem skipUnless_eval {p : Script} {row : Globals → Row} {runId : Globals → String} {e ok : Bool}
    {s t : Shell Vars Program} (h : p.eval w false s = (.done ok,t)) :
    (skipUnless p row runId).eval w e s =
      if ok then (.done true,t)
      else (.continued,recorded (row t.vars.globals) (runId t.vars.globals) t) := by
  rw [skipUnless,cond_done (not_done h)]
  cases ok <;> cases e <;> rfl

theorem readings_skip {made : List (Call Program)} (h : ∀ c ∈ made, c.1.isList = false)
    (rest : List (Call Program)) : readings "" (made ++ rest) = readings "" rest := by
  induction made with
  | nil => rfl
  | cons c made ih =>
    have hc := h c List.mem_cons_self
    obtain ⟨p,a⟩ := c
    have hrest := ih fun c hc => h c (List.mem_cons_of_mem _ hc)
    cases p <;> first | exact hrest | contradiction

theorem list_quiet {made : List (Call Program)} (h : ∀ c ∈ made, c.1.isList = true) :
    ∀ c ∈ made, c.1.marks = false ∧ c.1.stopsClient = false := by
  intro c hc
  have hlist := h c hc
  obtain ⟨p,a⟩ := c
  cases p <;> first | exact ⟨rfl,rfl⟩ | contradiction

theorem freshClusterCycle_eval (s : Shell Vars Program) : ∃ made ok t,
    (Cmd.call (freshClusterCycle cfg)).eval w false s = (.done ok,t) ∧ Makes s t made ∧
      (∀ c ∈ made, c.1.isList = false) ∧
      ∀ c ∈ made, c.1.marks = false ∧ c.1.stopsClient = false := by
  obtain ⟨hglobals,made,hmade,hquiet⟩ :=
    frame_eval (w := w) (frames_freshClusterCycle cfg) false s
  refine ⟨made,_,_,call_unchecked ?_ s,⟨hglobals,hmade⟩,fun c hc => (hquiet c hc).2.1,
    fun c hc => ⟨(hquiet c hc).1,(hquiet c hc).2.2⟩⟩
  simp [freshClusterCycle,run,skip,Cmd.Closed]

theorem injectFailure_eval (s : Shell Vars Program) : ∃ made ok t,
    (Cmd.call (injectFailure cfg scenario)).eval w false s = (.done ok,t) ∧ Makes s t made ∧
      ∀ c ∈ made, c.1.marks = false := by
  obtain ⟨hglobals,made,hmade,hquiet⟩ :=
    frame_eval (w := w) (frames_injectFailure cfg scenario) false s
  refine ⟨made,_,_,call_unchecked ?_ s,⟨hglobals,hmade⟩,hquiet⟩
  cases scenario <;> simp [injectFailure,run,capture,print,assignLocal,test,skip,Cmd.Closed]

/-- How step 0 ends: no reading shows a healthy cluster and the iteration is over, or one does. -/
structure Checked (s : Shell Vars Program) (made : List (Call Program))
    (r : Flow × Shell Vars Program) : Prop where
  calls : r.2.calls = s.calls ++ made
  quiet : ∀ c ∈ made, c.1.marks = false ∧ c.1.stopsClient = false
  ends :
    r.1 = .continued ∧ r.2.vars.globals =
        s.vars.globals.record (bareRow iterNum scenario "—" "CLUSTER_UNHEALTHY") "" ∧
      (readings "" made).any healthy = false ∨
    r.1 = .done true ∧ r.2.vars.globals = s.vars.globals ∧
      ∀ rest, (readings "" (made ++ rest)).any healthy = true

/-- The second half of step 0, after a cycle of the stack or without one. -/
theorem healthCheck_eval {s u : Shell Vars Program} {made : List (Call Program)}
    (hmade : Makes s u made) (hnolist : ∀ c ∈ made, c.1.isList = false)
    (hquiet : ∀ c ∈ made, c.1.marks = false ∧ c.1.stopsClient = false) :
    ∃ made, Checked iterNum scenario s made
      ((unhealthyUnless iterNum scenario (.call waitForClusterHealthy)).eval w true u) := by
  obtain ⟨made',found,t,hwait,hmade',hlist,hreadings⟩ := waitForClusterHealthy_eval (w := w) u
  have hcall : (Cmd.call waitForClusterHealthy).eval w false u = (.done found,t) := by
    rw [Cmd.eval,hwait]
    rfl
  have hall : ∀ c ∈ made ++ made', c.1.marks = false ∧ c.1.stopsClient = false := by
    intro c hc
    rcases List.mem_append.mp hc with hc | hc
    · exact hquiet c hc
    · exact list_quiet hlist c hc
  have hmakes := hmade.trans hmade'
  have hread : ∀ rest, (readings "" (made ++ made' ++ rest)).any healthy =
      (found || (readings "" rest).any healthy) := by
    intro rest
    rw [List.append_assoc,readings_skip hnolist,hreadings]
  rw [unhealthyUnless,skipUnless_eval hcall]
  cases found with
  | true => exact ⟨_,hmakes.calls,hall,.inr ⟨rfl,hmakes.globals,hread⟩⟩
  | false =>
    refine ⟨_,hmakes.calls,hall,.inl ⟨rfl,congrArg (Globals.record · _ _) hmakes.globals,?_⟩⟩
    simpa [readings] using hread []

theorem checkCluster_eval (s : Shell Vars Program) : ∃ made,
    Checked iterNum scenario s made ((checkCluster cfg iterNum scenario).eval w true s) := by
  rw [checkCluster]
  by_cases hfresh : cfg.freshCluster = true
  · obtain ⟨made,ok,t,hcycle,hmade,hnolist,hquiet⟩ := freshClusterCycle_eval (w := w) cfg s
    have hunless : (Cmd.cond (test fun _ => cfg.freshCluster)
        (unhealthyUnless iterNum scenario (.call (freshClusterCycle cfg))) skip).eval w true s =
          if ok then (.done true,t)
          else (.continued,recorded (bareRow iterNum scenario "—" "CLUSTER_UNHEALTHY") "" t) := by
      rw [cond_done (test_eval _ s),if_pos hfresh]
      exact skipUnless_eval hcycle
    cases ok with
    | true =>
      rw [seq_done hunless]
      exact healthCheck_eval iterNum scenario hmade hnolist hquiet
    | false =>
      have hreadings := readings_skip hnolist []
      rw [List.append_nil] at hreadings
      rw [seq_stop hunless (by simp)]
      refine ⟨made,hmade.calls,hquiet,.inl ⟨rfl,?_,by rw [hreadings]; rfl⟩⟩
      exact congrArg (Globals.record · _ _) hmade.globals
  · have hnocycle : (Cmd.cond (test fun _ => cfg.freshCluster)
        (unhealthyUnless iterNum scenario (.call (freshClusterCycle cfg))) skip).eval w true s =
          (.done true,s) := by
      rw [cond_done (test_eval _ s),if_neg hfresh]
      rfl
    rw [seq_done hnocycle]
    exact healthCheck_eval iterNum scenario ⟨rfl,(List.append_nil _).symm⟩ (by simp) (by simp)

theorem findVictim_eval (s : Shell Vars Program) : ∃ made t,
    t.calls = s.calls ++ made ∧ (∀ c ∈ made, c.1.isList = true) ∧ ∃ num,
      ((findVictim iterNum scenario).eval w true s = (.continued,t) ∧
          t.vars.globals = { s.vars.globals with leaderNum := num }.record
            (bareRow iterNum scenario "—" "ERROR") "" ∨
        (findVictim iterNum scenario).eval w true s = (.done true,t) ∧
          t.vars.globals = { s.vars.globals with leaderNum := num } ∧
          ∃ front c, made = front ++ [c] ∧ num = leaderNumber (captured c.2.output)) := by
  obtain ⟨made,found,hflow,hcalls,hlist,num,hglobals,hnum⟩ := findLeader_eval (w := w) s
  rcases hr : (capture (.call findLeader) fun text v =>
    { v with globals := { v.globals with leaderNum := text } }).eval w false s with ⟨flow,t⟩
  rw [hr] at hflow hcalls hglobals
  obtain rfl : flow = .done found := hflow
  rw [findVictim,skipUnless_eval hr]
  cases found with
  | true => exact ⟨made,t,hcalls,hlist,num,.inr ⟨rfl,hglobals,hnum rfl⟩⟩
  | false =>
    exact ⟨made,recorded _ _ t,hcalls,hlist,num,.inl ⟨rfl,congrArg (Globals.record · _ _) hglobals⟩⟩

theorem restartClient_eval {s : Shell Vars Program}
    (hruns : ((restartClient cfg).eval w true s).1.exits = false) : ∃ c rest ok t,
    (restartClient cfg).eval w true s = (.done ok,t) ∧ Makes s t (c :: rest) ∧
      (∀ x ∈ c :: rest, x.1.marks = false) ∧ c.1.stopsClient = true := by
  by_cases hskip : cfg.skipClientRestart = true
  · have heval : (restartClient cfg).eval w true s =
        (run fun _ => .dockerRestart .client).eval w true s := by
      rw [restartClient,cond_done (test_eval _ s),if_pos hskip]
    rw [heval] at hruns ⊢
    obtain ⟨ok,hdone⟩ := straight_eval
      (show (run fun _ => .dockerRestart .client).Straight from trivial) hruns
    exact ⟨_,[],ok,_,hdone,⟨rfl,rfl⟩,by simp [Program.marks],rfl⟩
  · obtain ⟨a,ha⟩ : ∃ a, w.answer s.calls (.dockerStop .client) = a := ⟨_,rfl⟩
    have heval : (restartClient cfg).eval w true s =
        (Cmd.seq (run fun _ => .dockerStart .client) (.call waitForSteadyState)).eval w true
          ⟨s.vars,s.calls ++ [(.dockerStop .client,a)]⟩ := by
      by_cases hok : a.status = 0 <;>
        simp [restartClient,test,run,skip,hskip,ha,hok]
    rw [heval] at hruns ⊢
    obtain ⟨ok,hdone⟩ := straight_eval (by
      simp [waitForSteadyState,steadyRound,capture,run,test,skip,Cmd.Straight]) hruns
    have hframes : (Cmd.seq (run fun _ => .dockerStart .client)
        (.call waitForSteadyState)).Frames (fun p => p.marks = false) Vars.globals :=
      ⟨fun _ => ⟨rfl,fun _ => rfl⟩,frames_waitForSteadyState⟩
    obtain ⟨hglobals,made,hmade,hquiet⟩ := frame_eval (w := w) hframes true
      ⟨s.vars,s.calls ++ [(.dockerStop .client,a)]⟩
    refine ⟨_,made,ok,_,hdone,⟨hglobals,by rw [hmade,List.append_assoc]; rfl⟩,?_,rfl⟩
    intro x hx
    rcases List.mem_cons.mp hx with rfl | hx
    · rfl
    · exact hquiet x hx

theorem ask_eval {program : Globals → Program} {store : String → Globals → Globals}
    {s : Shell Vars Program} (hruns : ((ask program store).eval w true s).1.exits = false) :
    ∃ a, (ask program store).eval w true s = (.done true,⟨{ s.vars with
      globals := store (captured a.output) s.vars.globals },
      s.calls ++ [(program s.vars.globals,a)]⟩) := by
  refine ⟨w.answer s.calls (program s.vars.globals),?_⟩
  simp only [ask,Cmd.eval,finish_exits,Bool.true_and,Bool.not_eq_false'] at hruns ⊢
  rw [hruns,finish_ok]

theorem tolerated_eval (program : Globals → Program) (e : Bool) (s : Shell Vars Program) :
    ∃ a, (Cmd.or (run program) skip).eval w e s =
      (.done true,⟨s.vars,s.calls ++ [(program s.vars.globals,a)]⟩) := by
  refine ⟨w.answer s.calls (program s.vars.globals),?_⟩
  by_cases hok : (w.answer s.calls (program s.vars.globals)).status = 0 <;>
    simp [run,skip,hok]

theorem registerTestRun_eval {s : Shell Vars Program}
    (hruns : ((registerTestRun cfg scenario).eval w true s).1.exits = false) : ∃ made t,
    (registerTestRun cfg scenario).eval w true s = (.done true,t) ∧ t.calls = s.calls ++ made ∧
      (∀ c ∈ made, c.1.isMkdir = false ∧ c.1.measures = false ∧ c.1.pollsRecovery = false) ∧
      made.any (fun c => c.1.registers) = true ∧
      t.vars.globals.leaderNum = s.vars.globals.leaderNum ∧
      t.vars.globals.results = s.vars.globals.results ∧
      t.vars.globals.table = s.vars.globals.table := by
  rw [registerTestRun] at hruns ⊢
  obtain ⟨a,hid⟩ := ask_eval (seq_runs hruns)
  rw [seq_done hid] at hruns ⊢
  obtain ⟨b,hstart⟩ := ask_eval (seq_runs hruns)
  rw [seq_done hstart]
  obtain ⟨c,hinsert⟩ := tolerated_eval (w := w) (fun g => .psql
    (.insertTestRun g.testRunId cfg.combinationId scenario.name g.startTs)) true _
  exact ⟨_,_,hinsert,by simp only [List.append_assoc]; rfl,by simp [Program.isMkdir,
    Program.measures,Program.pollsRecovery],by simp [Program.registers],rfl,rfl,rfl⟩

theorem failVictim_eval {s : Shell Vars Program}
    (hruns : ((failVictim cfg iterNum scenario).eval w true s).1.exits = false) : ∃ made t g,
    t.calls = s.calls ++ made ∧ (∀ c ∈ made, c.1.marks = false) ∧
      g.leaderNum = s.vars.globals.leaderNum ∧ g.results = s.vars.globals.results ∧
      g.table = s.vars.globals.table ∧
      ((failVictim cfg iterNum scenario).eval w true s = (.continued,t) ∧ t.vars.globals =
          g.record (bareRow iterNum scenario ("node" ++ g.leaderNum) "SKIPPED") g.testRunId ∨
        (failVictim cfg iterNum scenario).eval w true s = (.done true,t) ∧
          t.vars.globals = g) := by
  rw [failVictim] at hruns ⊢
  obtain ⟨a,hkill⟩ := ask_eval (seq_runs hruns)
  rw [seq_done hkill]
  obtain ⟨made,ok,t,hinject,hmade,hquiet⟩ := injectFailure_eval (w := w) cfg scenario _
  rw [skipUnless_eval hinject]
  have hcalls := hmade.calls
  rw [List.append_assoc] at hcalls
  have hall : ∀ c ∈ (Program.date "-u +%Y-%m-%dT%H:%M:%S+00:00",a) :: made, c.1.marks = false := by
    intro c hc
    rcases List.mem_cons.mp hc with rfl | hc
    · rfl
    · exact hquiet c hc
  refine ⟨_,if ok then t else recorded (bareRow iterNum scenario
    ("node" ++ t.vars.globals.leaderNum) "SKIPPED") t.vars.globals.testRunId t,t.vars.globals,
    ?_,hall,?_,?_,?_,?_⟩
  · cases ok <;> exact hcalls
  · rw [hmade.globals]
  · rw [hmade.globals]
  · rw [hmade.globals]
  · cases ok with
    | true => exact .inr ⟨rfl,rfl⟩
    | false => exact .inl ⟨rfl,rfl⟩

theorem awaitRecovery_eval (s : Shell Vars Program) : ∃ made ok t,
    (awaitRecovery cfg).eval w true s = (.done ok,t) ∧ t.calls = s.calls ++ made ∧
      (∀ c ∈ made, c.1.isMkdir = false ∧ c.1.registers = false ∧ c.1.measures = false) ∧
      t.vars.globals = { s.vars.globals with
        iterStatus := if made.any showsRecovery then "SUCCESS" else "TIMEOUT" } := by
  obtain ⟨made,found,t,hwait,hmade,hpolls,hany⟩ := waitForRecovery_eval (w := w)
    ⟨{ s.vars with globals := { s.vars.globals with iterStatus := "TIMEOUT" } },s.calls⟩
  have hquiet : ∀ c ∈ made, c.1.isMkdir = false ∧ c.1.registers = false ∧ c.1.measures = false := by
    intro c hc
    have hpoll := hpolls c hc
    obtain ⟨p,a⟩ := c
    cases p with
    | psql q => cases q <;> first | exact ⟨rfl,rfl,rfl⟩ | contradiction
    | _ => contradiction
  have hstatus : ∃ u, (Cmd.cond (.call waitForRecovery)
      (assign fun g => { g with iterStatus := "SUCCESS" }) skip).eval w true
        ⟨{ s.vars with globals := { s.vars.globals with iterStatus := "TIMEOUT" } },s.calls⟩ =
      (.done true,u) ∧ u.calls = s.calls ++ made ∧ u.vars.globals = { s.vars.globals with
        iterStatus := if made.any showsRecovery then "SUCCESS" else "TIMEOUT" } := by
    rw [hany,Cmd.eval,hwait]
    cases found with
    | true => exact ⟨_,rfl,hmade.calls,
        congrArg (fun g : Globals => { g with iterStatus := "SUCCESS" }) hmade.globals⟩
    | false => exact ⟨t,rfl,hmade.calls,hmade.globals⟩
  obtain ⟨u,hstatus,hcalls,hglobals⟩ := hstatus
  rw [awaitRecovery,seq_done (by rw [assign,Cmd.eval,finish_ok]),seq_done hstatus]
  by_cases hskip : cfg.skipClientRestart = true
  · refine ⟨made,true,u,?_,hcalls,hquiet,hglobals⟩
    rw [cond_done (not_done (test_eval _ u)),if_neg (by simp [hskip])]
    rfl
  · obtain ⟨a,hstop⟩ := tolerated_eval (w := w) (fun _ => .dockerStop .client) true u
    refine ⟨made ++ [(.dockerStop .client,a)],true,⟨u.vars,u.calls ++ [(.dockerStop .client,a)]⟩,
      ?_,?_,?_,?_⟩
    · rw [cond_done (not_done (test_eval _ u)),if_pos (by simp [hskip])]
      exact hstop
    · rw [hcalls,List.append_assoc]
    · intro c hc
      rcases List.mem_append.mp hc with hc | hc
      · exact hquiet c hc
      · obtain rfl := List.mem_singleton.mp hc
        exact ⟨rfl,rfl,rfl⟩
    · have hlast : [(Program.dockerStop .client,a)].any showsRecovery = false := rfl
      rw [List.any_append,hlast,Bool.or_false]
      exact hglobals

theorem tagEvents_eval {s : Shell Vars Program}
    (hruns : (tagEvents.eval w true s).1.exits = false) : ∃ made t text,
    tagEvents.eval w true s = (.done true,t) ∧ t.calls = s.calls ++ made ∧
      (∀ c ∈ made, c.1.marks = false) ∧
      t.vars.globals = { s.vars.globals with endTs := text } := by
  rw [tagEvents] at hruns ⊢
  obtain ⟨a,hend⟩ := ask_eval (seq_runs hruns)
  rw [seq_done hend]
  obtain ⟨b,hended⟩ := tolerated_eval (w := w) (fun g => .psql (.endTestRun g.testRunId g.endTs))
    true _
  rw [seq_done hended]
  obtain ⟨c,hobserver⟩ := tolerated_eval (w := w)
    (fun g => .psql (.tagObserverEvents g.testRunId g.startTs g.endTs)) true _
  rw [seq_done hobserver]
  obtain ⟨d,hclient⟩ := tolerated_eval (w := w)
    (fun g => .psql (.tagClientEvents g.testRunId g.startTs g.endTs)) true _
  exact ⟨_,_,_,hclient,by simp only [List.append_assoc]; rfl,by simp [Program.marks],rfl⟩

theorem measure_eval (s : Shell Vars Program) : ∃ q a t,
    (measure iterNum scenario).eval w true s = (.done true,t) ∧ Program.measures q = true ∧
      t.calls = s.calls ++ [(q,a)] ∧ t.vars.globals.table = s.vars.globals.table ∧
      t.vars.globals.results = s.vars.globals.results.add {
        iter := toString iterNum
        scenario := scenario.name
        leader := "node" ++ s.vars.globals.leaderNum
        down := orDash (beforeBar (captured a.output))
        failed := orDash (afterBar (captured a.output))
        status := s.vars.globals.iterStatus } s.vars.globals.testRunId := by
  obtain ⟨a,ha⟩ : ∃ a, w.answer s.calls (.psql (.downtime s.vars.globals.killTs)) = a := ⟨_,rfl⟩
  have hraw : (capture (.call measureDowntime) fun text v =>
      { v with globals := { v.globals with raw := text } }).eval w true s =
      (.done true,⟨{ s.vars with globals := { s.vars.globals with raw := captured a.output } },
        s.calls ++ [(.psql (.downtime s.vars.globals.killTs),a)]⟩) := by
    by_cases hok : a.status = 0 <;>
      simp [capture_eval,measureDowntime,print,skip,Flow.ok,ha,hok]
  refine ⟨.psql (.downtime s.vars.globals.killTs),a,⟨{ s.vars with globals := { s.vars.globals with
    raw := captured a.output
    downtime := orDash (beforeBar (captured a.output))
    failedQ := orDash (afterBar (captured a.output))
    results := s.vars.globals.results.add _ s.vars.globals.testRunId } },
    s.calls ++ [(.psql (.downtime s.vars.globals.killTs),a)]⟩,?_,rfl,rfl,rfl,rfl⟩
  rw [measure,seq_done hraw]
  by_cases hdown : beforeBar (captured a.output) = "" <;>
    by_cases hfailed : afterBar (captured a.output) = "" <;>
      simp [record,assign,test,orDash,hdown,hfailed]

theorem recover_eval {total : Nat} {s : Shell Vars Program}
    (hruns : ((recover cfg iterNum scenario total).eval w true s).1.exits = false) : ∃ made ok t,
    (recover cfg iterNum scenario total).eval w true s = (.done ok,t) ∧ Makes s t made ∧
      ∀ c ∈ made, c.1.marks = false := by
  obtain ⟨hglobals,made,hmade,hquiet⟩ :=
    frame_eval (w := w) (frames_recover cfg iterNum total scenario) true s
  obtain ⟨ok,hdone⟩ := straight_eval (by
    cases scenario <;> simp [recover,recoverNode,restartSidecars,hasContainer,
      waitForClusterHealthy,healthRound,capture,run,test,skip,Cmd.Straight]) hruns
  exact ⟨made,ok,_,hdone,⟨hglobals,hmade⟩,hquiet⟩

end Stages

end RoutingBench.Runner
