import RoutingBench.Batch
set_option autoImplicit false

/-!
The arrays of run_batch.sh have one entry for every combination. Is the batch a success exactly if
80 % of the combinations are?
-/

namespace RoutingBench.Batch
open Errexit
open Runner (captured healthy number)

def BatchProgram.counts : BatchProgram → Bool
  | countSuccesses _ => true
  | _ => false

def arrays (v : BatchVars) : List String × List String := (v.batchStatus,v.batchSessions)

/-- The arrays are left alone, and no successes are counted. -/
def Quiet (s t : Shell BatchVars BatchProgram) : Prop :=
  Frame (fun p => p.counts = false) arrays s false t

structure AddsEntry (s t : Shell BatchVars BatchProgram) : Prop where
  entry : ∃ status session made, t.vars.batchStatus = s.vars.batchStatus ++ [status] ∧
    t.vars.batchSessions = s.vars.batchSessions ++ [session] ∧ t.calls = s.calls ++ made ∧
    successful made = [status].count "PASSED" ∧
    status ∈ ["SKIPPED","START_FAILED","BOOTSTRAP_TIMEOUT","FAILED","PASSED"]

/-- A part of process_combo passes, returns with an entry, or ends the script. -/
inductive Segment (s : Shell BatchVars BatchProgram) :
    Flow × Shell BatchVars BatchProgram → Prop where
  | passes (ok : Bool) {t : Shell BatchVars BatchProgram} (h : Quiet s t) : Segment s (.done ok,t)
  | returns {t : Shell BatchVars BatchProgram} (h : AddsEntry s t) : Segment s (.returned true,t)
  | exits (t : Shell BatchVars BatchProgram) : Segment s (.exited,t)

/-- process_combo returns with an entry, or ends the script. -/
inductive Entry (s : Shell BatchVars BatchProgram) :
    Flow × Shell BatchVars BatchProgram → Prop where
  | returns {t : Shell BatchVars BatchProgram} (h : AddsEntry s t) : Entry s (.returned true,t)
  | exits (t : Shell BatchVars BatchProgram) : Entry s (.exited,t)

section Segments

variable {w : World BatchProgram} {cfg : BatchConfig} {combo : Combo}
  {s t u : Shell BatchVars BatchProgram} {a b c : BatchScript} {e ok : Bool}

theorem successful_append (made made' : List (Call BatchProgram)) :
    successful (made ++ made') = successful made + successful made' := List.countP_append

theorem successful_quiet {made : List (Call BatchProgram)}
    (h : ∀ c ∈ made, c.1.counts = false) : successful made = 0 := by
  refine List.countP_eq_zero.mpr fun c hc => ?_
  have hc := h c hc
  cases hp : c.1 <;> rw [hp] at hc <;> simp_all [BatchProgram.counts]

theorem Quiet.trans (h : Quiet s t) (h' : Quiet t u) : Quiet s u := by
  obtain ⟨hkeep,made,hmade,hquiet⟩ := h
  obtain ⟨hkeep',made',hmade',hquiet'⟩ := h'
  refine ⟨hkeep'.trans hkeep,made ++ made',by rw [hmade',hmade,List.append_assoc],fun c hc => ?_⟩
  rcases List.mem_append.mp hc with hc | hc
  · exact hquiet c hc
  · exact hquiet' c hc

theorem Quiet.addsEntry (h : Quiet s t) (h' : AddsEntry t u) : AddsEntry s u := by
  obtain ⟨hkeep,made,hmade,hquiet⟩ := h
  obtain ⟨status,session,made',hstatus,hsession,hmade',hcount,houtcome⟩ := h'
  obtain ⟨hstatuses,hsessions⟩ := Prod.mk.inj hkeep
  refine ⟨status,session,made ++ made',?_,?_,?_,?_,houtcome⟩
  · rw [hstatus,hstatuses]
  · rw [hsession,hsessions]
  · rw [hmade',hmade,List.append_assoc]
  · rw [successful_append,successful_quiet hquiet,hcount,Nat.zero_add]

theorem AddsEntry.quiet (h : AddsEntry s t) (h' : Quiet t u) : AddsEntry s u := by
  obtain ⟨status,session,made,hstatus,hsession,hmade,hcount,houtcome⟩ := h
  obtain ⟨hkeep,made',hmade',hquiet⟩ := h'
  obtain ⟨hstatuses,hsessions⟩ := Prod.mk.inj hkeep
  refine ⟨status,session,made ++ made',?_,?_,?_,?_,houtcome⟩
  · rw [hstatuses,hstatus]
  · rw [hsessions,hsession]
  · rw [hmade',hmade,List.append_assoc]
  · rw [successful_append,successful_quiet hquiet,hcount,Nat.add_zero]

theorem Segment.after {r : Flow × Shell BatchVars BatchProgram} (h : Quiet s t)
    (h' : Segment t r) : Segment s r := by
  cases h' with
  | passes ok h' => exact .passes ok (h.trans h')
  | returns h' => exact .returns (h.addsEntry h')
  | exits t => exact .exits t

theorem seq_segment (ha : Segment s (a.eval w e s))
    (hb : ∀ t, Quiet s t → Segment t (b.eval w e t)) : Segment s ((Cmd.seq a b).eval w e s) := by
  rw [Cmd.eval]
  cases hflow : a.eval w e s with
  | mk flow t =>
    rw [hflow] at ha
    cases ha with
    | passes ok h => exact (hb t h).after h
    | returns h => exact .returns h
    | exits t => exact .exits t

theorem seq_entry (ha : Segment s (a.eval w e s))
    (hb : ∀ t, Quiet s t → Entry t (b.eval w e t)) : Entry s ((Cmd.seq a b).eval w e s) := by
  rw [Cmd.eval]
  cases hflow : a.eval w e s with
  | mk flow t =>
    rw [hflow] at ha
    cases ha with
    | passes ok h =>
      have hrest := hb t h
      simp only [andThen]
      cases hrest' : b.eval w e t with
      | mk flow u =>
        rw [hrest'] at hrest
        cases hrest with
        | returns h' => exact .returns (h.addsEntry h')
        | exits => exact .exits u
    | returns h => exact .returns h
    | exits t => exact .exits t

theorem cond_segment (hc : c.eval w false s = (.done ok,t)) (h : Quiet s t)
    (ha : Segment t (a.eval w e t)) (hb : Segment t (b.eval w e t)) :
    Segment s ((Cmd.cond c a b).eval w e s) := by
  rw [cond_done hc]
  split
  · exact ha.after h
  · exact hb.after h

theorem quiet_cases {p : BatchScript} (hframes : p.Frames (fun p => p.counts = false) arrays)
    (hstraight : p.Straight) (e : Bool) (s : Shell BatchVars BatchProgram) :
    (p.eval w e s).1 = .exited ∨ ∃ ok t, p.eval w e s = (.done ok,t) ∧ Quiet s t := by
  have hquiet : Quiet s (p.eval w e s).2 := frame_eval hframes e s
  cases hexits : (p.eval w e s).1.exits with
  | false =>
    obtain ⟨ok,hflow⟩ := straight_eval hstraight hexits
    exact Or.inr ⟨ok,_,hflow,hquiet⟩
  | true =>
    left
    cases hflow : (p.eval w e s).1 <;> rw [hflow] at hexits <;> first | rfl | contradiction

theorem Segment.of_exited {r : Flow × Shell BatchVars BatchProgram} (h : r.1 = .exited) :
    Segment s r := by
  obtain ⟨flow,t⟩ := r
  obtain rfl : flow = .exited := h
  exact .exits t

theorem quiet_segment {p : BatchScript} (hframes : p.Frames (fun p => p.counts = false) arrays)
    (hstraight : p.Straight) : Segment s (p.eval w e s) := by
  rcases quiet_cases (w := w) hframes hstraight e s with hexit | ⟨ok,t,hflow,hquiet⟩
  · exact .of_exited hexit
  · rw [hflow]
    exact .passes ok hquiet

theorem assign_eval (f : BatchVars → BatchVars) :
    (assign f).eval w e s = (.done true,{ s with vars := f s.vars }) := by
  rw [assign,Cmd.eval,finish_ok]

theorem tolerate_eval (program : BatchVars → BatchProgram)
    (store : Answer → BatchVars → BatchVars) :
    (tolerate program store).eval w e s =
      (.done true,⟨store (w.answer s.calls (program s.vars)) s.vars,
        s.calls ++ [(program s.vars,w.answer s.calls (program s.vars))]⟩) := by
  by_cases h : (w.answer s.calls (program s.vars)).status = 0 <;>
    simp [tolerate,h,skip]

theorem cond_test {p : BatchVars → Bool} : (Cmd.cond (test p) a b).eval w e s =
    if p s.vars then a.eval w e s else b.eval w e s := rfl

theorem skip_eval : skip.eval w e s = (.done true,s) := by
  rw [skip,Cmd.eval,finish_ok]

theorem skip_segment : Segment s (skip.eval w e s) :=
  quiet_segment (fun _ => rfl) trivial

theorem tolerate_segment {program : BatchVars → BatchProgram}
    (h : ∀ v, (program v).counts = false) :
    Segment s ((tolerate program fun _ v => v).eval w e s) :=
  quiet_segment ⟨fun v => ⟨h v,fun _ => rfl⟩,fun _ => rfl⟩ ⟨trivial,trivial⟩

theorem giveUp_segment {status : String}
    (h : status ∈ ["SKIPPED","START_FAILED","BOOTSTRAP_TIMEOUT"]) :
    Segment s ((giveUp status).eval w e s) := by
  rw [giveUp,seq_done (assign_eval _),seq_done (assign_eval _)]
  refine .returns ⟨status,"",[],rfl,rfl,(List.append_nil _).symm,?_,?_⟩
  · simp only [List.mem_cons,List.not_mem_nil,or_false] at h
    rcases h with rfl | rfl | rfl <;> rfl
  · simp only [List.mem_cons,List.not_mem_nil,or_false] at h ⊢
    tauto

theorem unless_segment {program : BatchProgram} (h : program.counts = false)
    (ha : ∀ t, Segment t (a.eval w e t)) :
    Segment s ((Cmd.cond (.not (run fun _ => program)) a skip).eval w e s) :=
  cond_segment (not_done rfl) ⟨rfl,_,rfl,by simpa using h⟩ (ha _) skip_segment

theorem checkComposeFile_segment : Segment s ((checkComposeFile combo).eval w e s) :=
  unless_segment rfl fun _ => giveUp_segment (by simp)

theorem startStack_segment : Segment s ((startStack combo).eval w e s) :=
  seq_segment (tolerate_segment fun _ => rfl) fun _ _ =>
    unless_segment rfl fun _ => giveUp_segment (by simp)

theorem frames_bootstrapWait : (bootstrapWait combo).Frames (fun p => p.counts = false) arrays := by
  simp [bootstrapWait,bootstrapRound,print,assign,skip,test,arrays,BatchProgram.counts]

theorem closed_bootstrapWait : (bootstrapWait combo).Closed := by
  simp [bootstrapWait,bootstrapRound,Cmd.Closed,skip,test]

theorem awaitBootstrap_segment : Segment s ((awaitBootstrap combo).eval w e s) := by
  refine cond_segment (not_done (call_unchecked closed_bootstrapWait s))
    (frame_eval frames_bootstrapWait false s) ?_ skip_segment
  exact seq_segment (tolerate_segment fun _ => rfl) fun _ _ => giveUp_segment (by simp)

theorem runTests_segment : Segment s ((runTests cfg combo).eval w e s) := by
  apply quiet_segment
  · simp [runTests,tolerate,assign,skip,test,arrays,BatchProgram.counts]
  · simp [runTests,Cmd.Straight,tolerate,assign,skip,test]

theorem Entry.of_exited {r : Flow × Shell BatchVars BatchProgram} (h : r.1 = .exited) :
    Entry s r := by
  obtain ⟨flow,t⟩ := r
  obtain rfl : flow = .exited := h
  exact .exits t

theorem run_cases (program : BatchVars → BatchProgram) (h : ∀ v, (program v).counts = false)
    (e : Bool) (s : Shell BatchVars BatchProgram) : ((run program).eval w e s).1 = .exited ∨
      ∃ ok t, (run program).eval w e s = (.done ok,t) ∧ Quiet s t := by
  have hframes : (run program).Frames (fun p => p.counts = false) arrays :=
    fun v => ⟨h v,fun _ => rfl⟩
  exact quiet_cases hframes trivial e s

theorem recordSession_eval (combo : Combo) (e : Bool) (s : Shell BatchVars BatchProgram) :
    ∃ folder made t, (recordSession combo).eval w e s = (.done true,t) ∧
      t.vars.batchStatus = s.vars.batchStatus ∧
      t.vars.batchSessions = s.vars.batchSessions ++ [folder] ∧
      t.calls = s.calls ++ made ∧ ∀ c ∈ made, c.1.counts = false := by
  rw [recordSession,seq_done (tolerate_eval _ _),seq_done (assign_eval _),assign_eval]
  exact ⟨_,_,_,rfl,rfl,rfl,rfl,List.forall_mem_singleton.mpr rfl⟩

theorem countStatus_eval (combo : Combo) (e : Bool) (s : Shell BatchVars BatchProgram) :
    ∃ status made t, (Cmd.seq (tolerate (fun _ => .countSuccesses combo.dir) fun a v =>
        { v with successCount := captured a.output }) <|
      .cond (test fun v => 0 < number v.successCount)
        (assign fun v => { v with batchStatus := v.batchStatus ++ ["PASSED"] })
        (assign fun v => { v with batchStatus := v.batchStatus ++ ["FAILED"] })).eval w e s =
          (.done true,t) ∧
      t.vars.batchStatus = s.vars.batchStatus ++ [status] ∧
      t.vars.batchSessions = s.vars.batchSessions ∧ t.calls = s.calls ++ made ∧
      successful made = [status].count "PASSED" ∧ (status = "FAILED" ∨ status = "PASSED") := by
  rw [seq_done (tolerate_eval _ _),cond_test]
  generalize w.answer s.calls (BatchProgram.countSuccesses combo.dir) = a
  split
  next h =>
    rw [assign_eval]
    refine ⟨"PASSED",[(.countSuccesses combo.dir,a)],_,rfl,rfl,rfl,rfl,?_,Or.inr rfl⟩
    rw [successful,List.countP_singleton]
    exact if_pos h
  next h =>
    rw [assign_eval]
    refine ⟨"FAILED",[(.countSuccesses combo.dir,a)],_,rfl,rfl,rfl,rfl,?_,Or.inl rfl⟩
    rw [successful,List.countP_singleton]
    exact if_neg h

theorem countCombo_eval (combo : Combo) (e : Bool) (s : Shell BatchVars BatchProgram) :
    ((countCombo combo).eval w e s).1 = .exited ∨
      ∃ status made t, (countCombo combo).eval w e s = (.done true,t) ∧
        t.vars.batchStatus = s.vars.batchStatus ++ [status] ∧
        t.vars.batchSessions = s.vars.batchSessions ∧ t.calls = s.calls ++ made ∧
        successful made = [status].count "PASSED" ∧ (status = "FAILED" ∨ status = "PASSED") := by
  rw [countCombo]
  rcases run_cases (w := w) (fun v => .parseRunnerRows v.runnerOutput combo.dir combo.comboPrefix
    v.sessionFolder) (fun _ => rfl) e s with hparse | ⟨_,t,hparse,hst⟩
  · exact Or.inl (seq_exited hparse)
  rw [seq_done hparse]
  rcases run_cases (w := w) (fun v => .removeFile v.runnerOutput) (fun _ => rfl) e t with
    hremove | ⟨_,u,hremove,htu⟩
  · exact Or.inl (seq_exited hremove)
  rw [seq_done hremove]
  obtain ⟨hkeep,quiet,hcalls,hquiet⟩ := hst.trans htu
  obtain ⟨hstatuses,hsessions⟩ := Prod.mk.inj hkeep
  obtain ⟨status,made,v,hcount,hstatus,hsession,hcalls',hmade,houtcome⟩ :=
    countStatus_eval (w := w) combo e u
  refine Or.inr ⟨status,quiet ++ made,v,hcount,?_,?_,?_,?_,houtcome⟩
  · rw [hstatus,hstatuses]
  · rw [hsession,hsessions]
  · rw [hcalls',hcalls,List.append_assoc]
  · rw [successful_append,successful_quiet hquiet,hmade,Nat.zero_add]

theorem countAndReturn_entry : Entry s ((Cmd.seq (recordSession combo) <|
    .seq (countCombo combo) <|
    .seq (tolerate (fun _ => .composeDown (composeFile combo)) fun _ v => v)
      (.ret true)).eval w e s) := by
  obtain ⟨folder,made,t,hrecord,hstatus,hsession,hcalls,hquiet⟩ :=
    recordSession_eval (w := w) combo e s
  rw [seq_done hrecord]
  rcases countCombo_eval (w := w) combo e t with
    hexit | ⟨status,made',u,hcount,hstatus',hsession',hcalls',hmade,houtcome⟩
  · exact .of_exited (seq_exited hexit)
  · rw [seq_done hcount]
    have hadds : AddsEntry s u := by
      refine ⟨status,folder,made ++ made',?_,?_,?_,?_,?_⟩
      · rw [hstatus',hstatus]
      · rw [hsession',hsession]
      · rw [hcalls',hcalls,List.append_assoc]
      · rw [successful_append,successful_quiet hquiet,hmade,Nat.zero_add]
      · rcases houtcome with rfl | rfl <;> simp
    rw [seq_done (tolerate_eval _ _)]
    exact .returns (hadds.quiet ⟨rfl,_,rfl,List.forall_mem_singleton.mpr rfl⟩)

theorem processCombo_entry : Entry s ((processCombo cfg combo).eval w e s) :=
  seq_entry checkComposeFile_segment fun _ _ =>
    seq_entry startStack_segment fun _ _ =>
      seq_entry awaitBootstrap_segment fun _ _ =>
        seq_entry runTests_segment fun _ _ => countAndReturn_entry

theorem cleanupBetweenCombos_cases (e : Bool) (s : Shell BatchVars BatchProgram) :
    ((Cmd.call cleanupBetweenCombos).eval w e s).1 = .exited ∨
      ∃ ok t, (Cmd.call cleanupBetweenCombos).eval w e s = (.done ok,t) ∧ Quiet s t := by
  refine quiet_cases ?_ ?_ e s
  · simp [cleanupBetweenCombos,tolerate,run,skip,test,arrays,BatchProgram.counts]
  · simp [cleanupBetweenCombos,Cmd.Straight,tolerate,run,skip,test]

end Segments

section Rounds

variable {w : World BatchProgram} {cfg : BatchConfig} {combos : List Combo}
  {s t : Shell BatchVars BatchProgram} {k : Nat}

theorem mainRound_cases (hk : k < combos.length) (s : Shell BatchVars BatchProgram) :
    ((mainRound cfg combos k).eval w true s).1 = .exited ∨
      ∃ ok t, (mainRound cfg combos k).eval w true s = (.done ok,t) ∧ AddsEntry s t := by
  have hround : mainRound cfg combos k = .seq (.call (processCombo cfg combos[k])) (.cond
      (test fun _ => k + 1 < combos.length) (.call cleanupBetweenCombos) skip) := by
    rw [mainRound,List.getElem?_eq_getElem hk]
  rw [hround]
  have hprocess : Entry s ((processCombo cfg combos[k]).eval w true s) := processCombo_entry
  cases hflow : (processCombo cfg combos[k]).eval w true s with
  | mk flow t =>
    rw [hflow] at hprocess
    cases hprocess with
    | exits =>
      refine Or.inl (seq_exited ?_)
      rw [Cmd.eval,hflow]
      rfl
    | returns hadds =>
      have hcall : (Cmd.call (processCombo cfg combos[k])).eval w true s = (.done true,t) := by
        rw [Cmd.eval,hflow]
        rfl
      rw [seq_done hcall,cond_test]
      split
      · rcases cleanupBetweenCombos_cases (w := w) true t with hexit | ⟨ok,u,hclean,hquiet⟩
        · exact Or.inl hexit
        · exact Or.inr ⟨ok,u,hclean,hadds.quiet hquiet⟩
      · exact Or.inr ⟨true,t,skip_eval,hadds⟩

/-- What holds after the first rounds. -/
structure Done (k : Nat) (t : Shell BatchVars BatchProgram) : Prop where
  statuses : t.vars.batchStatus.length = k
  sessions : t.vars.batchSessions.length = k
  successes : successful t.calls = t.vars.batchStatus.count "PASSED"
  outcomes : ∀ status ∈ t.vars.batchStatus,
    status ∈ ["SKIPPED","START_FAILED","BOOTSTRAP_TIMEOUT","FAILED","PASSED"]

theorem Done.next (h : Done k s) (hadds : AddsEntry s t) : Done (k + 1) t := by
  obtain ⟨status,session,made,hstatus,hsession,hcalls,hmade,houtcome⟩ := hadds
  constructor
  case statuses => rw [hstatus,List.length_append,h.statuses]; rfl
  case sessions => rw [hsession,List.length_append,h.sessions]; rfl
  case successes => rw [hcalls,successful_append,h.successes,hstatus,List.count_append,hmade]
  case outcomes =>
    rw [hstatus,List.forall_mem_append]
    exact ⟨h.outcomes,List.forall_mem_singleton.mpr houtcome⟩

theorem afterRounds_succ {ok : Bool} (hk : k < combos.length)
    (hloop : (Cmd.forLoop k (mainRound cfg combos)).eval w true ⟨{},[]⟩ =
      (.done ok,afterRounds cfg combos w k))
    (hruns : ((Cmd.forLoop (k + 1) (mainRound cfg combos)).eval w true ⟨{},[]⟩).1.exits = false) :
    ∃ last, (Cmd.forLoop (k + 1) (mainRound cfg combos)).eval w true ⟨{},[]⟩ =
      (.done last,afterRounds cfg combos w (k + 1)) ∧
      AddsEntry (afterRounds cfg combos w k) (afterRounds cfg combos w (k + 1)) := by
  have hround : ((mainRound cfg combos k).eval w true (afterRounds cfg combos w k)).1 = .exited ∨
      ∃ ok t, (mainRound cfg combos k).eval w true (afterRounds cfg combos w k) = (.done ok,t) ∧
        AddsEntry (afterRounds cfg combos w k) t := mainRound_cases hk _
  rcases hround with hexit | ⟨last,t,hround,hadds⟩
  · rw [forLoop_succ hloop,iterate_exited hexit] at hruns
    contradiction
  · have hafter : (Cmd.forLoop (k + 1) (mainRound cfg combos)).eval w true ⟨{},[]⟩ =
        (.done last,t) := by
      rw [forLoop_succ hloop]
      exact iterate_done hround
    obtain rfl : afterRounds cfg combos w (k + 1) = t := by rw [afterRounds,hafter]
    exact ⟨last,hafter,hadds⟩

theorem rounds_eval (hk : k ≤ combos.length)
    (hruns : ((Cmd.forLoop k (mainRound cfg combos)).eval w true ⟨{},[]⟩).1.exits = false) :
    ∃ ok, (Cmd.forLoop k (mainRound cfg combos)).eval w true ⟨{},[]⟩ =
      (.done ok,afterRounds cfg combos w k) ∧ Done k (afterRounds cfg combos w k) := by
  induction k with
  | zero => exact ⟨true,rfl,⟨rfl,rfl,rfl,by simp [afterRounds]⟩⟩
  | succ k ih =>
    obtain ⟨ok,hloop,hdone⟩ := ih (by omega) (forLoop_runs (by omega) hruns)
    obtain ⟨last,hafter,hadds⟩ := afterRounds_succ (by omega) hloop hruns
    exact ⟨last,hafter,hdone.next hadds⟩

theorem take_afterRounds (hk : k ≤ combos.length)
    (hruns : ((Cmd.forLoop k (mainRound cfg combos)).eval w true ⟨{},[]⟩).1.exits = false)
    {j : Nat} (hj : j ≤ k) :
    (afterRounds cfg combos w j).vars.batchStatus =
        (afterRounds cfg combos w k).vars.batchStatus.take j ∧
      (afterRounds cfg combos w j).vars.batchSessions =
        (afterRounds cfg combos w k).vars.batchSessions.take j := by
  induction hj with
  | refl =>
    obtain ⟨-,-,hdone⟩ := rounds_eval hk hruns
    rw [List.take_of_length_le (Nat.le_of_eq hdone.statuses),
      List.take_of_length_le (Nat.le_of_eq hdone.sessions)]
    exact ⟨rfl,rfl⟩
  | @step k hj ih =>
    have hbefore := forLoop_runs (Nat.le_succ k) hruns
    obtain ⟨ok,hloop,hdone⟩ := rounds_eval (by omega) hbefore
    obtain ⟨-,-,status,session,made,hstatus,hsession,-⟩ := afterRounds_succ (by omega) hloop hruns
    rw [hstatus,hsession,List.take_append_of_le_length (by rw [hdone.statuses]; exact hj),
      List.take_append_of_le_length (by rw [hdone.sessions]; exact hj)]
    exact ih (by omega) hbefore

theorem summaryRound_eval (i : Nat) (s : Shell BatchVars BatchProgram) :
    (summaryRound i).eval w true s = (.done true,{ s with vars := { s.vars with
      passedCombos := s.vars.passedCombos +
        if s.vars.batchStatus[i]?.getD "" = "PASSED" then 1 else 0 } }) := by
  by_cases hpassed : s.vars.batchStatus[i]?.getD "" = "PASSED"
  · by_cases hzero : s.vars.passedCombos = 0 <;>
      simp [summaryRound,test,skip,hpassed,hzero]
  · simp [summaryRound,test,skip,hpassed]

theorem summaryLoop_eval (hk : k ≤ s.vars.batchStatus.length) :
    (Cmd.forLoop k summaryRound).eval w true s = (.done true,{ s with vars := { s.vars with
      passedCombos := s.vars.passedCombos + (s.vars.batchStatus.take k).count "PASSED" } }) := by
  induction k with
  | zero => rfl
  | succ k ih =>
    have hlt : k < s.vars.batchStatus.length := by omega
    rw [forLoop_succ (ih (by omega)),iterate_done (summaryRound_eval k _),iterate]
    simp only [List.getElem?_eq_getElem hlt,Option.getD_some,List.take_add_one,
      Option.toList_some,List.count_append,List.count_singleton,beq_iff_eq,Nat.add_assoc]

theorem report_eval (cfg : BatchConfig) (w : World BatchProgram)
    (s : Shell BatchVars BatchProgram) :
    ∃ made, (report cfg).eval w true s = (.done true,⟨s.vars,s.calls ++ made⟩) ∧
      ∀ c ∈ made, c.1.counts = false := by
  rw [report,cond_test]
  cases cfg.batchReport with
  | false => exact ⟨[],by simp [skip_eval],by simp⟩
  | true =>
    refine ⟨[(.batchReport,w.answer s.calls .batchReport)],?_,List.forall_mem_singleton.mpr rfl⟩
    rw [if_pos rfl,cond_done rfl]
    split <;> exact skip_eval

theorem summary_eval (h : s.vars.batchStatus.length = combos.length) :
    (summary combos).eval w true s = (.done true,{ s with vars := { s.vars with
      passedCombos := s.vars.batchStatus.count "PASSED" } }) := by
  rw [summary,seq_done (assign_eval _),summaryLoop_eval (by exact Nat.le_of_eq h.symm)]
  simp only [Nat.zero_add,← h,List.take_length]

theorem runScript_eval (hruns : (runScript cfg combos w).1.exits = false) :
    Done combos.length (runScript cfg combos w).2 ∧
      (runScript cfg combos w).2.vars.passedCombos =
        (runScript cfg combos w).2.vars.batchStatus.count "PASSED" ∧
      ∀ k ≤ combos.length, (afterRounds cfg combos w k).vars.batchStatus =
          (runScript cfg combos w).2.vars.batchStatus.take k ∧
        (afterRounds cfg combos w k).vars.batchSessions =
          (runScript cfg combos w).2.vars.batchSessions.take k := by
  obtain ⟨ok,hrounds,hdone⟩ := rounds_eval (Nat.le_refl combos.length) (seq_runs hruns)
  have hrun : runScript cfg combos w = (report cfg).eval w true
      { afterRounds cfg combos w combos.length with vars :=
        { (afterRounds cfg combos w combos.length).vars with passedCombos :=
          (afterRounds cfg combos w combos.length).vars.batchStatus.count "PASSED" } } := by
    rw [runScript,runBatch,mainLoop,seq_done hrounds,seq_done (summary_eval hdone.statuses)]
  obtain ⟨made,hreport,hquiet⟩ := report_eval cfg w
    { afterRounds cfg combos w combos.length with vars :=
      { (afterRounds cfg combos w combos.length).vars with passedCombos :=
        (afterRounds cfg combos w combos.length).vars.batchStatus.count "PASSED" } }
  rw [hrun,hreport]
  refine ⟨⟨hdone.statuses,hdone.sessions,?_,hdone.outcomes⟩,rfl,
    fun k hk => take_afterRounds (Nat.le_refl combos.length) (seq_runs hruns) hk⟩
  rw [successful_append,successful_quiet hquiet,hdone.successes,Nat.add_zero]

end Rounds

theorem verdict_zero (total passed : Nat) (h : total ≠ 0) :
    verdict total passed = 0 ↔ total * 80 / 100 ≤ passed := by
  rw [verdict,if_neg h]
  split <;> simp_all

/-- The batch is right if and only if the threshold is not truncated, or the passed combinations
are not as many as the truncated threshold. -/
theorem batch_right_iff {cfg : BatchConfig} {combos : List Combo} {w : World BatchProgram}
    (hne : combos ≠ []) (hruns : (runScript cfg combos w).1.exits = false) :
    BatchRight cfg combos w ↔ combos.length % 5 = 0 ∨
      successful (runScript cfg combos w).2.calls ≠ combos.length * 80 / 100 := by
  obtain ⟨hdone,hpassed,hordered⟩ := runScript_eval hruns
  have hpos : combos.length ≠ 0 := by simpa using hne
  have hcode : exitCode cfg combos w = some 0 ↔
      combos.length * 80 / 100 ≤ (runScript cfg combos w).2.vars.batchStatus.count "PASSED" := by
    rw [exitCode,hruns,if_neg Bool.false_ne_true,hpassed,Option.some_inj,verdict_zero _ _ hpos]
  rw [hdone.successes]
  constructor
  · intro hright
    have hzero := hcode.symm.trans hright.exitsZero
    omega
  · intro hcond
    refine ⟨hdone.statuses,hdone.sessions,hordered,hdone.outcomes,hcode.trans ?_⟩
    omega

def nothingToStart : World BatchProgram where
  answer := fun _ program => match program with
    | .fileExists _ => ⟨1,""⟩
    | _ => ⟨0,""⟩
  passes := fun _ => 18

def defaults : BatchConfig where
  scenario := "all"
  iterations := "1"
  interval := "90"
  generateReport := false
  batchReport := false

def libpqMultihost : Combo := ⟨"01-libpq-multihost","prb-01"⟩

def firstCombos : List Combo :=
  [libpqMultihost,⟨"02-consul-dns","prb-02"⟩,⟨"03-vip-manager-poll","prb-03"⟩]

/-- The second combination has no success, and the third no docker-compose.yml. -/
def unevenCombos : World BatchProgram where
  answer _ program :=
    match program with
    | .fileExists path =>
      if path = "dcs/consul/03-vip-manager-poll/docker-compose.yml" then ⟨1,""⟩ else ⟨0,""⟩
    | .patronictlList _ _ => ⟨0,"Replica streaming\n| patroni1 Leader running\nReplica streaming"⟩
    | .countSuccesses dir => if dir = "02-consul-dns" then ⟨0,"0\n"⟩ else ⟨0,"2\n"⟩
    | _ => ⟨0,""⟩
  passes _ := 18

theorem batch_right_unevenCombos :
    (runScript defaults firstCombos unevenCombos).2.vars.batchStatus =
        ["PASSED","FAILED","SKIPPED"] ∧
      BatchRight defaults firstCombos unevenCombos := by
  obtain ⟨hruns,hstatus,hsuccessful⟩ :
      (runScript defaults firstCombos unevenCombos).1.exits = false ∧
        (runScript defaults firstCombos unevenCombos).2.vars.batchStatus =
          ["PASSED","FAILED","SKIPPED"] ∧
        successful (runScript defaults firstCombos unevenCombos).2.calls = 1 := by
    decide +kernel
  refine ⟨hstatus,(batch_right_iff (by decide) hruns).mpr (Or.inr ?_)⟩
  rw [hsuccessful]
  decide

/-- One combination, which is skipped, is a success. -/
theorem oneSkipped_exits :
    (runScript defaults [libpqMultihost] nothingToStart).2.vars.batchStatus = ["SKIPPED"] ∧
      exitCode defaults [libpqMultihost] nothingToStart = some 0 ∧
      ¬BatchRight defaults [libpqMultihost] nothingToStart := by
  refine ⟨by decide,by decide,fun hright => ?_⟩
  exact absurd (hright.exitsZero.mp (by decide)) (by decide)

end RoutingBench.Batch
