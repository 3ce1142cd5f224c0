import RoutingBench.FailoverSteps
set_option autoImplicit false

/-!
Which failures of commands the results of the runner survive. They are in shell variables until
the table is printed, and each row is compared with what the calls of its iteration answered.
-/

namespace RoutingBench.Runner
open Errexit

def measurement (calls : List (Call Program)) : Option String :=
  (calls.find? fun c => c.1.measures).map fun c => captured c.2.output

/-- The row of an iteration, read off the calls it has made. -/
def ownRow (iterNum : Nat) (scenario : Scenario) (calls : List (Call Program)) : Row where
  iter := toString iterNum
  scenario := scenario.name
  leader :=
    if calls.any fun c => c.1.registers then
      "node" ++ ((calls.takeWhile fun c => !c.1.stopsClient).getLast?.elim ""
        fun c => leaderNumber (captured c.2.output))
    else "—"
  down := (measurement calls).elim "—" fun text => orDash (beforeBar text)
  failed := (measurement calls).elim "—" fun text => orDash (afterBar text)
  status :=
    if calls.any fun c => c.1.measures then
      if calls.any showsRecovery then "SUCCESS" else "TIMEOUT"
    else if calls.any fun c => c.1.registers then "SKIPPED"
    else if (readings "" calls).any healthy then "ERROR"
    else "CLUSTER_UNHEALTHY"

/-- An iteration begins where it makes its directory. -/
def IsIteration (cfg : Config) (iterNum : Nat) (scenario : Scenario) (calls : List (Call Program)) :
    Prop :=
  ∃ a rest, calls = (.mkdir (iterDir cfg iterNum scenario),a) :: rest ∧
    ∀ c ∈ rest, c.1.isMkdir = false

/-- The table is printed, with the row of every iteration. -/
def ResultsSurvive (cfg : Config) (w : World Program) : Prop :=
  ∃ parts : List (Scenario × List (Call Program)), parts.map Prod.fst = cfg.scenarioList ∧
    (runScript cfg w).2.calls = parts.flatMap Prod.snd ∧
    (∀ part ∈ parts.zipIdx 1, IsIteration cfg part.2 part.1.1 part.1.2) ∧
    (runScript cfg w).2.vars.globals.table =
      some ((parts.zipIdx 1).map fun part => ownRow part.2 part.1.1 part.1.2)

section Iteration
variable {w : World Program} (cfg : Config) (iterNum : Nat) (scenario : Scenario)

/-- The row of an iteration whose test run is registered, read off what it calls then. -/
def laterRow (leader : String) (calls : List (Call Program)) : Row where
  iter := toString iterNum
  scenario := scenario.name
  leader := leader
  down := (measurement calls).elim "—" fun text => orDash (beforeBar text)
  failed := (measurement calls).elim "—" fun text => orDash (afterBar text)
  status :=
    if calls.any fun c => c.1.measures then
      if calls.any showsRecovery then "SUCCESS" else "TIMEOUT"
    else "SKIPPED"

theorem marks_eq_false {p : Program} (h : p.marks = false) :
    p.isMkdir = false ∧ p.registers = false ∧ p.measures = false ∧ p.pollsRecovery = false := by
  cases p with
  | psql q => cases q <;> first | exact ⟨rfl,rfl,rfl,rfl⟩ | contradiction
  | mkdir dir => contradiction
  | _ => exact ⟨rfl,rfl,rfl,rfl⟩

theorem showsRecovery_eq_false {c : Call Program} (h : c.1.pollsRecovery = false) :
    showsRecovery c = false := by
  simp [showsRecovery,h]

theorem any_skip {p : Call Program → Bool} {made : List (Call Program)}
    (h : ∀ c ∈ made, p c = false) (rest : List (Call Program)) :
    (made ++ rest).any p = rest.any p := by
  have hnone : made.any p = false := List.any_eq_false.mpr fun c hc => by simp [h c hc]
  rw [List.any_append,hnone,Bool.false_or]

theorem measurement_skip {made : List (Call Program)} (h : ∀ c ∈ made, c.1.measures = false)
    (rest : List (Call Program)) : measurement (made ++ rest) = measurement rest := by
  have hnone : made.find? (fun c => c.1.measures) = none :=
    List.find?_eq_none.mpr fun c hc => by simp [h c hc]
  rw [measurement,List.find?_append,hnone,Option.none_or,measurement]

theorem laterRow_skip {made : List (Call Program)}
    (h : ∀ c ∈ made, c.1.measures = false ∧ c.1.pollsRecovery = false) (leader : String)
    (rest : List (Call Program)) :
    laterRow iterNum scenario leader (made ++ rest) = laterRow iterNum scenario leader rest := by
  rw [laterRow,measurement_skip fun c hc => (h c hc).1,any_skip fun c hc => (h c hc).1,
    any_skip fun c hc => showsRecovery_eq_false (h c hc).2,laterRow]

theorem laterRow_measured {made₁ made₂ made₃ : List (Call Program)} {q : Program}
    (h₁ : ∀ c ∈ made₁, c.1.measures = false) (h₂ : ∀ c ∈ made₂, c.1.marks = false)
    (hq : q.measures = true) (h₃ : ∀ c ∈ made₃, c.1.marks = false) (leader : String) (a : Answer) :
    laterRow iterNum scenario leader (made₁ ++ (made₂ ++ (q,a) :: made₃)) = {
      iter := toString iterNum
      scenario := scenario.name
      leader := leader
      down := orDash (beforeBar (captured a.output))
      failed := orDash (afterBar (captured a.output))
      status := if made₁.any showsRecovery then "SUCCESS" else "TIMEOUT" } := by
  have hmeasurement : measurement (made₁ ++ (made₂ ++ (q,a) :: made₃)) =
      some (captured a.output) := by
    rw [measurement_skip h₁,measurement_skip fun c hc => (marks_eq_false (h₂ c hc)).2.2.1]
    simp [measurement,hq]
  have hnoPoll : showsRecovery (q,a) = false := by
    apply showsRecovery_eq_false
    cases q with
    | psql q => cases q <;> first | rfl | contradiction
    | _ => rfl
  have hpolls : (made₂ ++ (q,a) :: made₃).any showsRecovery = false := by
    rw [any_skip fun c hc => showsRecovery_eq_false (marks_eq_false (h₂ c hc)).2.2.2,List.any_cons,
      hnoPoll,Bool.false_or]
    refine List.any_eq_false.mpr fun c hc => ?_
    simp [showsRecovery_eq_false (marks_eq_false (h₃ c hc)).2.2.2]
  have hmeasures : (made₁ ++ (made₂ ++ (q,a) :: made₃)).any (fun c => c.1.measures) = true := by
    simp [hq]
  rw [laterRow,hmeasurement,if_pos hmeasures,List.any_append,hpolls,Bool.or_false,
    Option.elim_some,Option.elim_some]

/-- An iteration, or what is left of one, with the row that it adds. -/
structure AddsRow (row : Row) (s : Shell Vars Program) (r : Flow × Shell Vars Program) : Prop where
  flow : r.1 = .continued ∨ ∃ ok, r.1 = .done ok
  results : ∃ runId, r.2.vars.globals.results = s.vars.globals.results.add row runId
  table : r.2.vars.globals.table = s.vars.globals.table

theorem awaitAndMeasure_eval {total : Nat} {s : Shell Vars Program}
    (hruns : ((Cmd.seq (awaitRecovery cfg) <| .seq tagEvents <| .seq (measure iterNum scenario) <|
      recover cfg iterNum scenario total).eval w true s).1.exits = false) : ∃ made r,
    (Cmd.seq (awaitRecovery cfg) <| .seq tagEvents <| .seq (measure iterNum scenario) <|
      recover cfg iterNum scenario total).eval w true s = r ∧ r.2.calls = s.calls ++ made ∧
      (∀ c ∈ made, c.1.isMkdir = false ∧ c.1.registers = false) ∧
      AddsRow (laterRow iterNum scenario ("node" ++ s.vars.globals.leaderNum) made) s r := by
  obtain ⟨made₁,ok,s₁,hawait,hcalls₁,hquiet₁,hglobals₁⟩ := awaitRecovery_eval (w := w) cfg s
  rw [seq_done hawait] at hruns ⊢
  obtain ⟨made₂,s₂,text,htag,hcalls₂,hquiet₂,hglobals₂⟩ := tagEvents_eval (seq_runs hruns)
  rw [seq_done htag] at hruns ⊢
  obtain ⟨q,a,s₃,hmeasure,hq,hcalls₃,htable,hresults⟩ := measure_eval (w := w) iterNum scenario s₂
  rw [seq_done hmeasure] at hruns ⊢
  obtain ⟨made₄,ok',s₄,hrecover,hmade₄,hquiet₄⟩ := recover_eval cfg iterNum scenario hruns
  refine ⟨made₁ ++ (made₂ ++ (q,a) :: made₄),(.done ok',s₄),hrecover,?_,?_,.inr ⟨ok',rfl⟩,
    ⟨s₂.vars.globals.testRunId,?_⟩,?_⟩
  · rw [hmade₄.calls,hcalls₃,hcalls₂,hcalls₁]
    simp
  · intro c hc
    simp only [List.mem_append,List.mem_cons] at hc
    rcases hc with hc | hc | rfl | hc
    · exact ⟨(hquiet₁ c hc).1,(hquiet₁ c hc).2.1⟩
    · exact ⟨(marks_eq_false (hquiet₂ c hc)).1,(marks_eq_false (hquiet₂ c hc)).2.1⟩
    · cases q with
      | psql q => cases q <;> first | exact ⟨rfl,rfl⟩ | contradiction
      | _ => contradiction
    · exact ⟨(marks_eq_false (hquiet₄ c hc)).1,(marks_eq_false (hquiet₄ c hc)).2.1⟩
  · rw [laterRow_measured iterNum scenario (fun c hc => (hquiet₁ c hc).2.2) hquiet₂ hq hquiet₄]
    show s₄.vars.globals.results = _
    rw [hmade₄.globals,hresults,hglobals₂,hglobals₁]
  · show s₄.vars.globals.table = _
    rw [hmade₄.globals,htable,hglobals₂,hglobals₁]

theorem failAndMeasure_eval {total : Nat} {s : Shell Vars Program}
    (hruns : ((Cmd.seq (failVictim cfg iterNum scenario) <| .seq (awaitRecovery cfg) <|
      .seq tagEvents <| .seq (measure iterNum scenario) <|
      recover cfg iterNum scenario total).eval w true s).1.exits = false) : ∃ made r,
    (Cmd.seq (failVictim cfg iterNum scenario) <| .seq (awaitRecovery cfg) <|
      .seq tagEvents <| .seq (measure iterNum scenario) <|
      recover cfg iterNum scenario total).eval w true s = r ∧ r.2.calls = s.calls ++ made ∧
      (∀ c ∈ made, c.1.isMkdir = false ∧ c.1.registers = false) ∧
      AddsRow (laterRow iterNum scenario ("node" ++ s.vars.globals.leaderNum) made) s r := by
  obtain ⟨made₁,s₁,g,hcalls₁,hquiet₁,hleader,hresults,htable,hends⟩ :=
    failVictim_eval cfg iterNum scenario (seq_runs hruns)
  rcases hends with ⟨hskip,hglobals⟩ | ⟨hfail,hglobals⟩
  · refine ⟨made₁,(.continued,s₁),seq_stop hskip (by simp),hcalls₁,?_,.inl rfl,
      ⟨g.testRunId,?_⟩,?_⟩
    · exact fun c hc => ⟨(marks_eq_false (hquiet₁ c hc)).1,(marks_eq_false (hquiet₁ c hc)).2.1⟩
    · have hrow := laterRow_skip iterNum scenario
        (fun c hc => (marks_eq_false (hquiet₁ c hc)).2.2) ("node" ++ s.vars.globals.leaderNum) []
      rw [List.append_nil] at hrow
      show s₁.vars.globals.results = _
      rw [hrow,hglobals,← hleader,← hresults]
      rfl
    · show s₁.vars.globals.table = _
      rw [hglobals,← htable]
      rfl
  · rw [seq_done hfail] at hruns ⊢
    obtain ⟨made₂,r,hrest,hcalls₂,hquiet₂,hadds⟩ :=
      awaitAndMeasure_eval cfg iterNum scenario hruns
    refine ⟨made₁ ++ made₂,r,hrest,?_,?_,?_⟩
    · rw [hcalls₂,hcalls₁,List.append_assoc]
    · intro c hc
      rcases List.mem_append.mp hc with hc | hc
      · exact ⟨(marks_eq_false (hquiet₁ c hc)).1,(marks_eq_false (hquiet₁ c hc)).2.1⟩
      · exact hquiet₂ c hc
    · rw [laterRow_skip iterNum scenario fun c hc => (marks_eq_false (hquiet₁ c hc)).2.2]
      obtain ⟨hflow,⟨runId,hrow⟩,hrest⟩ := hadds
      rw [hglobals,hleader] at hrow
      exact ⟨hflow,⟨runId,hrow.trans (by rw [hresults])⟩,
        hrest.trans (by rw [hglobals,htable])⟩

theorem ownRow_unregistered {made : List (Call Program)} (hquiet : ∀ c ∈ made, c.1.marks = false)
    (dir : String) (a : Answer) :
    ownRow iterNum scenario ((.mkdir dir,a) :: made) = bareRow iterNum scenario "—"
      (if (readings "" made).any healthy then "ERROR" else "CLUSTER_UNHEALTHY") := by
  have hmarks : ∀ c ∈ (Program.mkdir dir,a) :: made,
      c.1.registers = false ∧ c.1.measures = false := by
    intro c hc
    rcases List.mem_cons.mp hc with rfl | hc
    · exact ⟨rfl,rfl⟩
    · exact (marks_eq_false (hquiet c hc)).2.imp_right And.left
  have hregisters : ((Program.mkdir dir,a) :: made).any (fun c => c.1.registers) = false :=
    List.any_eq_false.mpr fun c hc => by simp [(hmarks c hc).1]
  have hmeasures : ((Program.mkdir dir,a) :: made).any (fun c => c.1.measures) = false :=
    List.any_eq_false.mpr fun c hc => by simp [(hmarks c hc).2]
  have hmeasurement := measurement_skip (fun c hc => (hmarks c hc).2) []
  have hreadings : readings "" ((.mkdir dir,a) :: made) = readings "" made :=
    readings_skip (List.forall_mem_singleton.mpr rfl) made
  rw [List.append_nil] at hmeasurement
  rw [ownRow,hregisters,hmeasures,hmeasurement,hreadings]
  rfl

/-- The leader is what the last call before the client is stopped has shown. -/
theorem ownRow_registered {found between later : List (Call Program)} {c d : Call Program}
    (hfound : ∀ x ∈ found ++ [c], x.1.marks = false ∧ x.1.stopsClient = false)
    (hd : d.1.stopsClient = true)
    (hquiet : ∀ x ∈ d :: between, x.1.measures = false ∧ x.1.pollsRecovery = false)
    (hregisters : between.any (fun x => x.1.registers) = true) (dir : String) (a : Answer) :
    ownRow iterNum scenario ((.mkdir dir,a) :: (found ++ [c] ++ (d :: between ++ later))) =
      laterRow iterNum scenario ("node" ++ leaderNumber (captured c.2.output)) later := by
  have hbefore : ∀ x ∈ (Program.mkdir dir,a) :: (found ++ [c]),
      x.1.stopsClient = false ∧ x.1.measures = false ∧ x.1.pollsRecovery = false := by
    intro x hx
    rcases List.mem_cons.mp hx with rfl | hx
    · exact ⟨rfl,rfl,rfl⟩
    · exact ⟨(hfound x hx).2,(marks_eq_false (hfound x hx).1).2.2⟩
  have hquiet : ∀ x ∈ (Program.mkdir dir,a) :: (found ++ [c]) ++ d :: between,
      x.1.measures = false ∧ x.1.pollsRecovery = false := by
    intro x hx
    rcases List.mem_append.mp hx with hx | hx
    · exact (hbefore x hx).2
    · exact hquiet x hx
  have hsplit : (Program.mkdir dir,a) :: (found ++ [c] ++ (d :: between ++ later)) =
      (Program.mkdir dir,a) :: (found ++ [c]) ++ d :: between ++ later := by simp
  have hlast : (((Program.mkdir dir,a) :: (found ++ [c]) ++ d :: between ++ later).takeWhile
      fun x => !x.1.stopsClient).getLast? = some c := by
    rw [List.append_assoc,List.takeWhile_append_of_pos (fun x hx => by simp [hbefore x hx]),
      @List.cons_append _ d between later,List.takeWhile_cons_of_neg (by simp [hd]),
      List.append_nil,← List.cons_append,List.getLast?_concat]
  have hany : ((Program.mkdir dir,a) :: (found ++ [c]) ++ d :: between ++ later).any
      (fun x => x.1.registers) = true := by simp [hregisters]
  rw [hsplit,← laterRow_skip iterNum scenario hquiet,ownRow,hany,hlast]
  rfl

theorem AddsRow.of_eq {row : Row} {s s' : Shell Vars Program} {r : Flow × Shell Vars Program}
    (h : AddsRow row s r) (hresults : s.vars.globals.results = s'.vars.globals.results)
    (htable : s.vars.globals.table = s'.vars.globals.table) : AddsRow row s' r :=
  ⟨h.flow,by rw [← hresults]; exact h.results,h.table.trans htable⟩

theorem restartAndMeasure_eval {total : Nat} {s : Shell Vars Program}
    (hruns : ((Cmd.seq (restartClient cfg) <| .seq (registerTestRun cfg scenario) <|
      .seq (failVictim cfg iterNum scenario) <| .seq (awaitRecovery cfg) <| .seq tagEvents <|
      .seq (measure iterNum scenario) <|
      recover cfg iterNum scenario total).eval w true s).1.exits = false) : ∃ d between later r,
    (Cmd.seq (restartClient cfg) <| .seq (registerTestRun cfg scenario) <|
      .seq (failVictim cfg iterNum scenario) <| .seq (awaitRecovery cfg) <| .seq tagEvents <|
      .seq (measure iterNum scenario) <| recover cfg iterNum scenario total).eval w true s = r ∧
      r.2.calls = s.calls ++ (d :: between ++ later) ∧ d.1.stopsClient = true ∧
      (∀ x ∈ d :: between,
        x.1.isMkdir = false ∧ x.1.measures = false ∧ x.1.pollsRecovery = false) ∧
      between.any (fun x => x.1.registers) = true ∧ (∀ x ∈ later, x.1.isMkdir = false) ∧
      AddsRow (laterRow iterNum scenario ("node" ++ s.vars.globals.leaderNum) later) s r := by
  obtain ⟨d,made₁,ok,s₁,hrestart,hmade₁,hquiet₁,hd⟩ := restartClient_eval cfg (seq_runs hruns)
  rw [seq_done hrestart] at hruns ⊢
  obtain ⟨made₂,s₂,hregister,hcalls₂,hquiet₂,hany,hleader,hresults,htable⟩ :=
    registerTestRun_eval cfg scenario (seq_runs hruns)
  rw [seq_done hregister] at hruns ⊢
  obtain ⟨later,r,hrest,hcalls,hquiet,hadds⟩ := failAndMeasure_eval cfg iterNum scenario hruns
  rw [hleader,hmade₁.globals] at hadds
  rw [hmade₁.globals] at hresults htable
  refine ⟨d,made₁ ++ made₂,later,r,hrest,?_,hd,?_,?_,fun x hx => (hquiet x hx).1,
    hadds.of_eq hresults htable⟩
  · rw [hcalls,hcalls₂,hmade₁.calls]
    simp
  · intro x hx
    rw [← List.cons_append] at hx
    rcases List.mem_append.mp hx with hx | hx
    · exact ⟨(marks_eq_false (hquiet₁ x hx)).1,(marks_eq_false (hquiet₁ x hx)).2.2⟩
    · exact hquiet₂ x hx
  · rw [List.any_append,hany,Bool.or_true]

/-- Steps 1 to 9, which end early if no leader is found, and else have two halves: the search,
and what follows from the stop of the client on. -/
theorem findAndMeasure_eval {total : Nat} {s : Shell Vars Program}
    (hruns : ((Cmd.seq (findVictim iterNum scenario) <| .seq (restartClient cfg) <|
      .seq (registerTestRun cfg scenario) <| .seq (failVictim cfg iterNum scenario) <|
      .seq (awaitRecovery cfg) <| .seq tagEvents <| .seq (measure iterNum scenario) <|
      recover cfg iterNum scenario total).eval w true s).1.exits = false) : ∃ search rest r,
    (Cmd.seq (findVictim iterNum scenario) <| .seq (restartClient cfg) <|
      .seq (registerTestRun cfg scenario) <| .seq (failVictim cfg iterNum scenario) <|
      .seq (awaitRecovery cfg) <| .seq tagEvents <| .seq (measure iterNum scenario) <|
      recover cfg iterNum scenario total).eval w true s = r ∧
      r.2.calls = s.calls ++ (search ++ rest) ∧ (∀ x ∈ search, x.1.isList = true) ∧
      (∀ x ∈ rest, x.1.isMkdir = false) ∧
      (rest = [] ∧ AddsRow (bareRow iterNum scenario "—" "ERROR") s r ∨
        ∃ front c d between later, search = front ++ [c] ∧ rest = d :: between ++ later ∧
          d.1.stopsClient = true ∧
          (∀ x ∈ d :: between, x.1.measures = false ∧ x.1.pollsRecovery = false) ∧
          between.any (fun x => x.1.registers) = true ∧
          AddsRow (laterRow iterNum scenario ("node" ++ leaderNumber (captured c.2.output)) later)
            s r) := by
  obtain ⟨search,s₁,hcalls₁,hlist,num,hfind⟩ := findVictim_eval (w := w) iterNum scenario s
  rcases hfind with ⟨hnone,hglobals⟩ | ⟨hfound,hglobals,front,c,rfl,rfl⟩
  · rw [seq_stop hnone (by simp)]
    refine ⟨search,[],_,rfl,by rw [List.append_nil]; exact hcalls₁,hlist,by simp,
      .inl ⟨rfl,.inl rfl,⟨"",?_⟩,?_⟩⟩
    · exact congrArg Globals.results hglobals
    · show s₁.vars.globals.table = _
      rw [hglobals]
      rfl
  · rw [seq_done hfound] at hruns ⊢
    obtain ⟨d,between,later,r,hrest,hcalls,hd,hquiet,hany,hlater,hadds⟩ :=
      restartAndMeasure_eval cfg iterNum scenario hruns
    refine ⟨front ++ [c],d :: between ++ later,r,hrest,?_,hlist,?_,.inr ⟨front,c,d,between,later,
      rfl,rfl,hd,fun x hx => (hquiet x hx).2,hany,?_⟩⟩
    · rw [hcalls,hcalls₁,List.append_assoc]
    · intro x hx
      rcases List.mem_append.mp hx with hx | hx
      · exact (hquiet x hx).1
      · exact hlater x hx
    · have hleader := congrArg Globals.leaderNum hglobals
      have hresults := congrArg Globals.results hglobals
      have htable := congrArg Globals.table hglobals
      rw [hleader] at hadds
      exact hadds.of_eq hresults htable

theorem iteration_eval {total : Nat} {s : Shell Vars Program}
    (hruns : ((iteration cfg iterNum scenario total).eval w true s).1.exits = false) : ∃ made r,
    (iteration cfg iterNum scenario total).eval w true s = r ∧ r.2.calls = s.calls ++ made ∧
      IsIteration cfg iterNum scenario made ∧ AddsRow (ownRow iterNum scenario made) s r := by
  rw [iteration] at hruns ⊢
  obtain ⟨ok,hmkdir⟩ := straight_eval (show (run fun _ =>
    .mkdir (iterDir cfg iterNum scenario)).Straight from trivial) (seq_runs hruns)
  rw [seq_done hmkdir] at hruns ⊢
  obtain ⟨a,s₀,hs₀,hvars₀,hcalls₀⟩ : ∃ a s₀,
      ((run fun _ => .mkdir (iterDir cfg iterNum scenario)).eval w true s).2 = s₀ ∧
        s₀.vars = s.vars ∧ s₀.calls = s.calls ++ [(.mkdir (iterDir cfg iterNum scenario),a)] :=
    ⟨_,_,rfl,rfl,rfl⟩
  rw [hs₀] at hruns ⊢
  obtain ⟨made₁,hcalls₁,hquiet₁,hcheck⟩ := checkCluster_eval (w := w) cfg iterNum scenario s₀
  rcases hrun : (checkCluster cfg iterNum scenario).eval w true s₀ with ⟨flow,s₁⟩
  rw [hrun] at hcalls₁ hcheck
  dsimp only at hcalls₁ hcheck
  rcases hcheck with ⟨rfl,hglobals₁,hreadings⟩ | ⟨rfl,hglobals₁,hreadings⟩
  · rw [seq_stop hrun (by simp)]
    refine ⟨(.mkdir (iterDir cfg iterNum scenario),a) :: made₁,_,rfl,?_,⟨a,made₁,rfl,?_⟩,.inl rfl,
      ⟨"",?_⟩,?_⟩
    · rw [hcalls₁,hcalls₀,List.append_assoc]
      rfl
    · exact fun x hx => (marks_eq_false (hquiet₁ x hx).1).1
    · rw [ownRow_unregistered iterNum scenario fun x hx => (hquiet₁ x hx).1,hreadings,hglobals₁,
        hvars₀]
      rfl
    · rw [hglobals₁,hvars₀]
      rfl
  rw [seq_done hrun] at hruns ⊢
  obtain ⟨search,rest,r,hrest,hcalls,hlist,hmkdirs,hends⟩ :=
    findAndMeasure_eval cfg iterNum scenario hruns
  have hquiet : ∀ x ∈ made₁ ++ search, x.1.marks = false ∧ x.1.stopsClient = false := by
    intro x hx
    rcases List.mem_append.mp hx with hx | hx
    · exact hquiet₁ x hx
    · exact list_quiet hlist x hx
  refine ⟨(.mkdir (iterDir cfg iterNum scenario),a) :: (made₁ ++ search ++ rest),r,hrest,?_,
    ⟨a,_,rfl,?_⟩,?_⟩
  · rw [hcalls,hcalls₁,hcalls₀]
    simp
  · intro x hx
    rcases List.mem_append.mp hx with hx | hx
    · exact (marks_eq_false (hquiet x hx).1).1
    · exact hmkdirs x hx
  have hresults : s₁.vars.globals.results = s.vars.globals.results := by rw [hglobals₁,hvars₀]
  have htable : s₁.vars.globals.table = s.vars.globals.table := by rw [hglobals₁,hvars₀]
  rcases hends with ⟨rfl,hadds⟩ | ⟨front,c,d,between,later,rfl,rfl,hd,hquiet₂,hany,hadds⟩
  · rw [List.append_nil,ownRow_unregistered iterNum scenario fun x hx => (hquiet x hx).1,hreadings]
    exact hadds.of_eq hresults htable
  · rw [← List.append_assoc made₁ front [c]] at hquiet ⊢
    rw [ownRow_registered iterNum scenario hquiet hd hquiet₂ hany]
    exact hadds.of_eq hresults htable

end Iteration

section Loop
variable {w : World Program} (cfg : Config)

structure Results.Aligned (r : Results) : Prop where
  scenario : r.scenario.length = r.iter.length
  leader : r.leader.length = r.iter.length
  down : r.down.length = r.iter.length
  failed : r.failed.length = r.iter.length
  status : r.status.length = r.iter.length

theorem Results.Aligned.add {r : Results} (h : r.Aligned) (row : Row) (runId : String) :
    (r.add row runId).Aligned := by
  constructor <;> simp [Results.add,h.scenario,h.leader,h.down,h.failed,h.status]

theorem entry_new {xs : List String} {n : Nat} (h : xs.length = n) (x : String) :
    (xs ++ [x])[n]?.getD "" = x := by
  rw [← h,List.getElem?_concat_length,Option.getD_some]

theorem Results.Aligned.rows_add {r : Results} (h : r.Aligned) (row : Row) (runId : String) :
    (r.add row runId).rows = r.rows ++ [row] := by
  have hold : ∀ i < r.iter.length, (r.add row runId).row i = r.row i := by
    intro i hi
    simp [Results.row,Results.add,List.getElem?_append_left,hi,h.scenario,h.leader,h.down,h.failed,
      h.status]
  have hnew : (r.add row runId).row r.iter.length = row := by
    rw [Results.row,Results.add]
    simp only [entry_new h.scenario,entry_new h.leader,entry_new h.down,entry_new h.failed,
      entry_new h.status,entry_new (rfl : r.iter.length = r.iter.length)]
  have hlength : (r.add row runId).iter.length = r.iter.length + 1 := by simp [Results.add]
  rw [Results.rows,Results.rows,hlength,List.range_succ,List.map_append,List.map_singleton,hnew]
  congr 1
  exact List.map_congr_left fun i hi => hold i (List.mem_range.mp hi)

theorem mainRound_eval {i : Nat} (hi : i < cfg.scenarioList.length) {s : Shell Vars Program}
    (hruns : ((mainRound cfg i).eval w true s).1.exits = false) : ∃ made r,
    (mainRound cfg i).eval w true s = r ∧ r.2.calls = s.calls ++ made ∧
      IsIteration cfg (i + 1) cfg.scenarioList[i] made ∧
      AddsRow (ownRow (i + 1) cfg.scenarioList[i] made) s r := by
  have hround : mainRound cfg i =
      iteration cfg (i + 1) cfg.scenarioList[i] cfg.scenarioList.length := by
    rw [mainRound,List.getElem?_eq_getElem hi]
  rw [hround] at hruns ⊢
  exact iteration_eval cfg _ _ hruns

/-- What the loop leaves behind, from a round on. -/
theorem rounds_eval (n i : Nat) (ok : Bool) (s : Shell Vars Program)
    (hn : i + n = cfg.scenarioList.length) (halign : s.vars.globals.results.Aligned)
    (hruns : (iterate (fun i => (mainRound cfg i).eval w true) n i ok s).1.exits = false) :
    ∃ (parts : List (Scenario × List (Call Program))) (last : Bool) (t : Shell Vars Program),
      iterate (fun i => (mainRound cfg i).eval w true) n i ok s = (.done last,t) ∧
      parts.map Prod.fst = cfg.scenarioList.drop i ∧ t.calls = s.calls ++ parts.flatMap Prod.snd ∧
      (∀ part ∈ parts.zipIdx (i + 1), IsIteration cfg part.2 part.1.1 part.1.2) ∧
      t.vars.globals.results.rows = s.vars.globals.results.rows ++
        (parts.zipIdx (i + 1)).map fun part => ownRow part.2 part.1.1 part.1.2 := by
  induction n generalizing i ok s with
  | zero =>
    refine ⟨[],ok,s,rfl,?_,by simp,by simp,by simp⟩
    rw [List.drop_of_length_le (by omega)]
    rfl
  | succ n ih =>
    have hi : i < cfg.scenarioList.length := by omega
    obtain ⟨made,⟨flow,s₁⟩,heval,hcalls,hiter,hadds⟩ :=
      mainRound_eval cfg hi (iterate_runs hruns)
    obtain ⟨hflow,⟨runId,hresults⟩,-⟩ := hadds
    obtain ⟨last,hgoes⟩ : ∃ last, iterate (fun i => (mainRound cfg i).eval w true) (n + 1) i ok s =
        iterate (fun i => (mainRound cfg i).eval w true) n (i + 1) last s₁ :=
      iterate_goes heval hflow ok
    rw [hgoes] at hruns ⊢
    obtain ⟨parts,last,t,hrest,hscenarios,hcalls',hiters,hrows⟩ := ih (i + 1) last s₁ (by omega)
      (by rw [hresults]; exact halign.add _ _) hruns
    refine ⟨(cfg.scenarioList[i],made) :: parts,last,t,hrest,?_,?_,?_,?_⟩
    · rw [List.map_cons,hscenarios,List.drop_eq_getElem_cons hi]
    · rw [hcalls',hcalls,List.flatMap_cons,List.append_assoc]
    · intro part hpart
      rcases List.mem_cons.mp hpart with rfl | hpart
      · exact hiter
      · exact hiters part hpart
    · rw [hrows,hresults,halign.rows_add,List.append_assoc]
      rfl

theorem frames_rounds : (Cmd.forLoop cfg.scenarioList.length (mainRound cfg)).Frames (fun _ => True)
    (fun v => v.globals.table) := by
  intro i
  rw [mainRound]
  split
  · rename_i scenario hscenario
    cases scenario <;> simp [iteration,checkCluster,unhealthyUnless,skipUnless,freshClusterCycle,
      waitForClusterHealthy,healthRound,listCluster,findVictim,findLeader,leaderRound,restartClient,
      waitForSteadyState,steadyRound,registerTestRun,failVictim,injectFailure,awaitRecovery,
      waitForRecovery,recoveryRound,tagEvents,measure,measureDowntime,recover,recoverNode,
      restartSidecars,hasContainer,capture,print,echo,ask,record,assign,assignLocal,run,test,skip]
  · exact fun _ => rfl

/-- The table is printed, with the row of every iteration, or it is not printed at all. -/
theorem runScript_eval : if (runScript cfg w).1.exits then
    (runScript cfg w).2.vars.globals.table = none else ResultsSurvive cfg w := by
  obtain ⟨htable,-⟩ := frame_eval (w := w) (frames_rounds cfg) true ⟨{},[]⟩
  rcases hloop : (Cmd.forLoop cfg.scenarioList.length (mainRound cfg)).eval w true ⟨{},[]⟩ with
    ⟨flow,t⟩
  rw [hloop] at htable
  cases hexits : flow.exits with
  | true =>
    have hflow : flow = .exited := by cases flow <;> first | rfl | contradiction
    rw [runScript,runFailoverTest,seq_stop hloop (by simp [hflow]),hflow]
    exact htable
  | false =>
    rw [Cmd.eval] at hloop
    obtain ⟨parts,last,u,hrounds,hscenarios,hcalls,hiters,hrows⟩ := rounds_eval (w := w) cfg
      cfg.scenarioList.length 0 true ⟨{},[]⟩ (Nat.zero_add _) ⟨rfl,rfl,rfl,rfl,rfl⟩
      (by rw [hloop]; exact hexits)
    have hrun : runScript cfg w = (.done true,⟨{ u.vars with globals := { u.vars.globals with
        table := some u.vars.globals.results.rows } },u.calls⟩) := by
      rw [runScript,runFailoverTest,
        seq_done (a := .forLoop cfg.scenarioList.length (mainRound cfg)) hrounds]
      rfl
    rw [hrun]
    refine ⟨parts,hscenarios,?_,hiters,?_⟩
    · rw [hrun]
      exact hcalls
    · rw [hrun]
      exact congrArg some hrows

/-- The results survive every failure but those of the commands that nothing guards. -/
theorem results_survive_iff : ResultsSurvive cfg w ↔
    ∀ c ∈ (runScript cfg w).2.calls, c.1.unguarded = true → failed c = false := by
  obtain ⟨made,hmade,hexits⟩ := exits_iff (guarded_runFailoverTest (w := w) cfg) ⟨{},[]⟩
  rw [List.nil_append] at hmade
  have hrun := runScript_eval (w := w) cfg
  rw [runScript,hmade]
  constructor
  · intro hsurvive c hc hunguarded
    by_contra hfailed
    have hexited : (runScript cfg w).1.exits = true :=
      hexits.mpr ⟨c,hc,hunguarded,by simpa using hfailed⟩
    obtain ⟨_,_,_,_,htable⟩ := hsurvive
    rw [if_pos hexited,htable] at hrun
    contradiction
  · intro hguarded
    have hruns : ¬(runScript cfg w).1.exits = true := by
      intro hexited
      obtain ⟨c,hc,hunguarded,hfailed⟩ := hexits.mp hexited
      rw [hguarded c hc hunguarded] at hfailed
      contradiction
    rwa [if_neg hruns] at hrun

end Loop

section LostResults

def nodesTable : String :=
  "Replica streaming\n| patroni-node2 Leader running\nReplica streaming"

/-- The client is not started again once the downtime of an iteration has been measured. Right
after a recovery, no node is listed. -/
def secondStartFails : World Program where
  answer calls program :=
    match program with
    | .patronictlList _ =>
      ⟨0,if calls.getLast?.any fun c => c.1 = .dockerPs then "" else nodesTable⟩
    | .psql .steadyState => ⟨0,"45\n"⟩
    | .psql (.recovered _) => ⟨0,"7\n"⟩
    | .psql (.downtime _) => ⟨0,"12.3|110\n"⟩
    | .date _ => ⟨0,"2026\n"⟩
    | .dockerStart .client => ⟨if calls.any fun c => c.1.measures then 1 else 0,""⟩
    | _ => ⟨0,""⟩
  passes _ := 1

def twoStops : Config where
  comboPrefix := "prb-06"
  combinationId := "06"
  comboDir := "06"
  sessionDir := "runner/results/06/s"
  freshCluster := false
  skipClientRestart := false
  scenarioList := [.hardStop,.hardStop]

/-- The start of the client in the second iteration is all that fails, and the row of the first
iteration is lost with it. -/
theorem secondStartFails_loses_results :
    ((runScript twoStops secondStartFails).2.calls.filter failed).map Prod.fst =
        [.dockerStart .client] ∧
      (runScript twoStops secondStartFails).2.vars.globals.results.rows =
        [⟨"1","hard_stop","node2","12.3","110","SUCCESS"⟩] ∧
      (runScript twoStops secondStartFails).2.vars.globals.table = none ∧
      ¬ResultsSurvive twoStops secondStartFails := by
  have hrun : ((runScript twoStops secondStartFails).2.calls.filter failed).map Prod.fst =
        [.dockerStart .client] ∧
      (runScript twoStops secondStartFails).2.vars.globals.results.rows =
        [⟨"1","hard_stop","node2","12.3","110","SUCCESS"⟩] ∧
      (runScript twoStops secondStartFails).2.vars.globals.table = none := by decide +kernel
  refine ⟨hrun.1,hrun.2.1,hrun.2.2,fun ⟨_,_,_,_,htable⟩ => ?_⟩
  exact absurd (hrun.2.2.symm.trans htable) (by simp)

end LostResults

end RoutingBench.Runner
