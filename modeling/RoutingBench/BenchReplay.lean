import RoutingBench.EventReplay
import RoutingBench.IterationTags
import RoutingBench.Parts
import RoutingBench.WatcherTargets
set_option autoImplicit false

/-!
What the charts of an iteration read of an observer. On the bench all observers write one table,
whose rows the client and the runner tag in between, and the charts read it by the id of a run.
-/

namespace RoutingBench
open Runs Registers Parts

/-- By what the rows of an observer are told apart. -/
def Emitter.label (self : Emitter) : String × String × String :=
  (self.combinationId,self.component,self.nodeName)

def ObserverEvent.label (r : ObserverEvent) : String × String × String :=
  (r.combinationId,r.component,r.node)

/-- The row of an event, whatever id it has been given. -/
structure RowOfEvent (emitter : Emitter) (event : Event) (r : ObserverEvent) : Prop where
  combinationId : r.combinationId = emitter.combinationId
  frameRow : r.frameRow = event.frameRow emitter

structure SameEvent (r₀ r : ObserverEvent) : Prop where
  combinationId : r.combinationId = r₀.combinationId
  frameRow : r.frameRow = r₀.frameRow

section Row

variable {self self' : Emitter} {event : Event} {r r₀ : ObserverEvent}

theorem RowOfEvent.ts (h : RowOfEvent self event r) : r.ts = event.ts :=
  congrArg ObserverFrameRow.ts h.frameRow

theorem RowOfEvent.label (h : RowOfEvent self event r) : r.label = self.label := by
  have hcomponent : r.component = self.component := congrArg ObserverFrameRow.component h.frameRow
  have hnode : r.node = self.nodeName := congrArg ObserverFrameRow.node h.frameRow
  rw [ObserverEvent.label,Emitter.label,h.combinationId,hcomponent,hnode]

theorem SameEvent.label (h : SameEvent r₀ r) : r.label = r₀.label := by
  have hcomponent : r.component = r₀.component := congrArg ObserverFrameRow.component h.frameRow
  have hnode : r.node = r₀.node := congrArg ObserverFrameRow.node h.frameRow
  rw [ObserverEvent.label,ObserverEvent.label,h.combinationId,hcomponent,hnode]

theorem rowOfEvent_values (h : (self.values event).row = some r) : RowOfEvent self event r := by
  unfold ObserverValues.row at h
  split at h
  next =>
    obtain ⟨newValue,hvalue,rfl⟩ := Option.map_eq_some_iff.mp h
    have hsame : event.newValue = some newValue := hvalue
    refine ⟨rfl,?_⟩
    rw [Event.frameRow,hsame]
    rfl
  next => contradiction

theorem values_step {p p' : EmitterProc} {a : EmitterAction} {out : Option Entry}
    (h : p.step a = some (p',out)) : p'.self.values = p.self.values := by
  cases a with
  | emit event => obtain ⟨-,-,rfl⟩ := step_emit h; rfl
  | take t => obtain ⟨-,-,⟨-,rfl⟩ | ⟨-,-,rfl⟩ | ⟨-,-,rfl⟩⟩ := step_take h <;> rfl
  | insert t => obtain ⟨_,_,_,-,-,-,rfl⟩ := step_insert h; rfl
  | close t => obtain ⟨_,-,-,rfl⟩ := step_close h; rfl
  | fail t => obtain ⟨_,_,-,-,rfl⟩ := step_fail h; rfl
  | requeue t => obtain ⟨_,_,-,-,rfl⟩ := step_requeue h; rfl
  | _ =>
    simp only [EmitterProc.step] at h
    split at h
    · obtain ⟨rfl,rfl⟩ := Prod.mk.inj (Option.some.inj h)
      rfl
    · contradiction

end Row

section Table

variable {ι κ ρ : Type} [DecidableEq ι] [DecidableEq κ] [DecidableEq ρ]
  {bₛ b b' : Bench ι κ ρ} {a : BenchAction ι κ ρ} {as : List (BenchAction ι κ ρ)}

def emitterAction : BenchAction ι κ ρ → Option (κ × EmitterAction)
  | .emitter k act => some (k,act)
  | _ => none

def Bench.inserts (b : Bench ι κ ρ) : BenchAction ι κ ρ → Option (κ × Entry)
  | .emitter k act => ((b.emitters k).step act).bind fun (_,out) => out.map fun entry => (k,entry)
  | _ => none

def emitterRun (k : κ) (s : Bench ι κ ρ × List (κ × Entry)) : EmitterRun :=
  ⟨s.1.emitters k,outOf k s.2⟩

theorem composed_emitters : Composed (logged (Bench.step (ι := ι) (ρ := ρ)) Bench.inserts)
    emitterAction (emitterRun (κ := κ)) EmitterRun.step where
  own s s' a k act h hof := by
    obtain ⟨hstep,hlog⟩ := logged_iff.mp h
    cases a with
    | emitter j act' =>
      obtain ⟨rfl,rfl⟩ := Prod.mk.inj (Option.some.inj hof)
      obtain ⟨p,out,hp,-,he,-,-⟩ := bench_emitter hstep
      have hinserts : s.1.inserts (.emitter j act') = out.map fun entry => (j,entry) := by
        rw [Bench.inserts,hp]
        rfl
      have hrows : outOf j s'.2 = outOf j s.2 ++ out.toList := by
        rw [hlog,hinserts,outOf_append]
        cases out <;> simp [outOf]
      rw [EmitterRun.step,emitterRun,emitterRun,hp,he,Function.update_self,hrows]
      rfl
    | _ => contradiction
  other s s' a k h hof := by
    obtain ⟨hstep,hlog⟩ := logged_iff.mp h
    cases a with
    | emitter j act =>
      have hne : k ≠ j := fun heq => hof act (by rw [heq]; rfl)
      obtain ⟨p,out,hp,-,he,-,-⟩ := bench_emitter hstep
      have hinserts : s.1.inserts (.emitter j act) = out.map fun entry => (j,entry) := by
        rw [Bench.inserts,hp]
        rfl
      have hrows : outOf k s'.2 = outOf k s.2 := by
        rw [hlog,hinserts,outOf_append]
        cases out <;> simp [outOf,Ne.symm hne]
      rw [emitterRun,emitterRun,he,Function.update_of_ne hne,hrows]
    | client i act =>
      obtain ⟨_,_,-,-,he,-⟩ := bench_client hstep
      rw [emitterRun,emitterRun,he,hlog]
      simp [Bench.inserts]
    | runner j act =>
      obtain ⟨_,_,-,-,he,-⟩ := bench_runner hstep
      rw [emitterRun,emitterRun,he,hlog]
      simp [Bench.inserts]

/-- The table: the rows that were there, and one for each entry that was inserted. -/
structure TableOf (old : List ObserverEvent) (emitters : κ → Emitter) (rows : List ObserverEvent)
    (log : List (κ × Entry)) : Prop where
  split : ∃ earlier new, rows = earlier ++ new ∧ List.Forall₂ SameEvent old earlier ∧
    List.Forall₂ (fun r w => RowOfEvent (emitters w.1) w.2.event r) new log

/-- The statement leaves the events that have rows as they are. -/
def Statement.Tags (st : Statement) : Prop := ∀ v, st ≠ .insertObserverEvent v

theorem Statement.Tags.sameEvents {st : Statement} (h : st.Tags) (rows : List ObserverEvent) :
    ∃ f : ObserverEvent → ObserverEvent, (∀ r, SameEvent r (f r)) ∧
      st.observerEvents rows = rows.map f := by
  cases st with
  | insertObserverEvent v => exact absurd rfl (h v)
  | tagObserverEvents testRunId start stop =>
    exact ⟨ObserverEvent.tag testRunId start stop,fun _ => ⟨rfl,rfl⟩,rfl⟩
  | _ => exact ⟨id,fun _ => ⟨rfl,rfl⟩,(List.map_id rows).symm⟩

theorem client_tags {p p' : ClientProc} {act : ClientAction} {out : Option Statement}
    (h : p.step act = some (p',out)) : ∀ st ∈ out, st.Tags := by
  intro st hst v heq
  by_cases ha : ∃ o, act = .attempt o
  · obtain ⟨o,rfl⟩ := ha
    obtain ⟨-,-,rfl,rfl⟩ := client_attempt h
    contradiction
  · rcases (client_calls h fun o ho => ha ⟨o,ho⟩).2 st hst with ⟨r,rfl⟩ | ⟨c,-,hstatement⟩
    · contradiction
    · rw [heq] at hstatement
      cases c <;> simp [DbCall.statement] at hstatement

theorem runner_tags {p p' : RunnerProc} {act : RunnerAction} {out : Option Statement}
    (hupdates : ∀ st ∈ p.phase.updates, st.Tags) (h : p.step act = some (p',out)) :
    (∀ st ∈ p'.phase.updates, st.Tags) ∧ ∀ st ∈ out, st.Tags := by
  obtain ⟨-,⟨rfl,-,hsub⟩ | ⟨it,-,hph',rfl⟩ | ⟨it,endTs,-,-,rfl,hph'⟩ |
      ⟨it,st,updates,hph,hph',rfl⟩⟩ :=
    runner_step h
  · exact ⟨fun st hst => hupdates st (hsub hst),by simp⟩
  · rw [hph']
    exact ⟨by simp [RunnerPhase.updates],by simp [Statement.Tags]⟩
  · rw [hph']
    exact ⟨by simp [RunnerPhase.updates,Iteration.updates,Statement.Tags],by simp⟩
  · rw [hph] at hupdates
    rw [hph',afterUpdate_updates]
    refine ⟨fun st' hst' => hupdates st' (List.mem_cons_of_mem st hst'),?_⟩
    intro st' hst'
    obtain rfl := Option.some.inj hst'
    exact hupdates st List.mem_cons_self

omit [DecidableEq κ] in
theorem TableOf.tag {old rows : List ObserverEvent} {emitters : κ → Emitter}
    {log : List (κ × Entry)} (h : TableOf old emitters rows log)
    {f : ObserverEvent → ObserverEvent} (hf : ∀ r, SameEvent r (f r)) :
    TableOf old emitters (rows.map f) log := by
  obtain ⟨earlier,new,rfl,hearlier,hnew⟩ := h.split
  refine ⟨earlier.map f,new.map f,List.map_append,?_,?_⟩
  · refine List.forall₂_map_right_iff.mpr (hearlier.imp fun r₀ r hr => ?_)
    exact ⟨(hf r).combinationId.trans hr.combinationId,(hf r).frameRow.trans hr.frameRow⟩
  · refine List.forall₂_map_left_iff.mpr (hnew.imp fun r w hr => ?_)
    exact ⟨(hf r).combinationId.trans hr.combinationId,(hf r).frameRow.trans hr.frameRow⟩

omit [DecidableEq κ] in
theorem TableOf.insert {old rows : List ObserverEvent} {emitters : κ → Emitter}
    {log : List (κ × Entry)} (h : TableOf old emitters rows log) {k : κ} {entry : Entry}
    {r : ObserverEvent} (hr : RowOfEvent (emitters k) entry.event r) :
    TableOf old emitters (rows ++ [r]) (log ++ [(k,entry)]) := by
  obtain ⟨earlier,new,rfl,hearlier,hnew⟩ := h.split
  exact ⟨earlier,new ++ [r],List.append_assoc ..,hearlier,
    List.rel_append hnew (.cons hr .nil)⟩

theorem emitter_inserts {k : κ} {act : EmitterAction} (h : b.step (.emitter k act) = some b') :
    (b.inserts (.emitter k act) = none ∧ b'.db.observerEvents = b.db.observerEvents) ∨
      ∃ entry row, b.inserts (.emitter k act) = some (k,entry) ∧
        ((b.emitters k).self.values entry.event).row = some row ∧
        b'.db.observerEvents = b.db.observerEvents ++ [row] := by
  obtain ⟨p,out,hp,-,-,-,hsend⟩ := bench_emitter h
  have hinserts : b.inserts (.emitter k act) = out.map fun entry => (k,entry) := by
    rw [Bench.inserts,hp]
    rfl
  rw [hinserts]
  cases out with
  | none =>
    have hrows := (bench_events h).1
    rw [hsend] at hrows
    exact .inl ⟨rfl,hrows⟩
  | some entry =>
    rcases bench_database h with ⟨hs,-⟩ | ⟨c,st,hs,hdb,-⟩
    · rw [hsend] at hs
      contradiction
    · rw [hsend] at hs
      obtain ⟨rfl,rfl⟩ := Prod.mk.inj (Option.some.inj hs)
      obtain ⟨row,hrow,hrows,-⟩ := exec_insertObserverEvent hdb
      rw [values_step hp] at hrow
      exact .inr ⟨entry,row,rfl,hrow,hrows⟩

theorem TableOf.sent {old : List ObserverEvent} {emitters : κ → Emitter} {log : List (κ × Entry)}
    (h : TableOf old emitters b.db.observerEvents log) (hstep : b.step a = some b')
    (htags : ∀ w ∈ b.sends a, w.2.Tags) : TableOf old emitters b'.db.observerEvents log := by
  have hrows := (bench_events hstep).1
  cases hsend : b.sends a with
  | none =>
    rw [hsend] at hrows
    rw [hrows]
    exact h
  | some w =>
    obtain ⟨f,hf,hmap⟩ := (htags w (by rw [hsend]; rfl)).sameEvents b.db.observerEvents
    rw [hsend] at hrows
    have hmapped : b'.db.observerEvents = b.db.observerEvents.map f := hrows.trans hmap
    rw [hmapped]
    exact h.tag hf

/-- What holds of the table along a run of the bench that starts in `bₛ`. -/
structure TableKept (bₛ : Bench ι κ ρ) (s : Bench ι κ ρ × List (κ × Entry)) : Prop where
  table : TableOf bₛ.db.observerEvents (fun k => (bₛ.emitters k).self) s.1.db.observerEvents s.2
  values : ∀ k, (s.1.emitters k).self.values = (bₛ.emitters k).self.values
  runners : ∀ j, ∀ st ∈ (s.1.runners j).phase.updates, st.Tags

theorem rowOfEvent_congr {self self' : Emitter} {event : Event} {r : ObserverEvent}
    (hvalues : self.values = self'.values) (h : (self.values event).row = some r) :
    RowOfEvent self' event r :=
  rowOfEvent_values (hvalues ▸ h)

theorem tableKept_step {s s' : Bench ι κ ρ × List (κ × Entry)} (h : TableKept bₛ s)
    (hstep : logged Bench.step Bench.inserts s a = some s') : TableKept bₛ s' := by
  obtain ⟨hb,hlog⟩ := logged_iff.mp hstep
  have hvalues : ∀ k, (s'.1.emitters k).self.values = (bₛ.emitters k).self.values := by
    intro k
    rcases emitters_step hb k with heq | ⟨act,out,-,hp⟩
    · rw [heq]
      exact h.values k
    · exact (values_step hp).trans (h.values k)
  cases a with
  | emitter k act =>
    obtain ⟨_,_,-,-,-,hr,-⟩ := bench_emitter hb
    refine ⟨?_,hvalues,by rw [hr]; exact h.runners⟩
    rcases emitter_inserts hb with ⟨hnone,hrows⟩ | ⟨entry,row,hsome,hrow,hrows⟩
    · rw [hlog,hnone,hrows,Option.toList_none,List.append_nil]
      exact h.table
    · rw [hlog,hsome,hrows]
      exact h.table.insert (rowOfEvent_congr (h.values k) hrow)
  | client i act =>
    obtain ⟨p,out,hp,-,-,hr,hsend⟩ := bench_client hb
    have hsame : s'.2 = s.2 := by simpa [Bench.inserts] using hlog
    refine ⟨?_,hvalues,by rw [hr]; exact h.runners⟩
    rw [hsame]
    refine h.table.sent hb fun w hw => ?_
    rw [hsend] at hw
    obtain ⟨st,hst,rfl⟩ := Option.map_eq_some_iff.mp hw
    exact client_tags hp st hst
  | runner j act =>
    obtain ⟨p,out,hp,-,-,hr,hsend⟩ := bench_runner hb
    have hsame : s'.2 = s.2 := by simpa [Bench.inserts] using hlog
    obtain ⟨hupdates,htags⟩ := runner_tags (h.runners j) hp
    refine ⟨?_,hvalues,?_⟩
    · rw [hsame]
      refine h.table.sent hb fun w hw => ?_
      rw [hsend] at hw
      obtain ⟨st,hst,rfl⟩ := Option.map_eq_some_iff.mp hw
      exact htags st hst
    · intro j'
      rw [hr]
      by_cases hj : j' = j
      · rw [hj,Function.update_self]
        exact hupdates
      · rw [Function.update_of_ne hj]
        exact h.runners j'

/-- After any run of the bench the table has the rows that were there and those of each observer, as
if it had run alone; only the ids are those of the others. -/
theorem run_table (hidle : ∀ j, (bₛ.runners j).phase.updates = [])
    (hrun : run Bench.step bₛ as = some b) :
    ∃ log, TableOf bₛ.db.observerEvents (fun k => (bₛ.emitters k).self) b.db.observerEvents log ∧
      ∀ k, run EmitterRun.step ⟨bₛ.emitters k,[]⟩ (actionsOf emitterAction k as) =
        some ⟨b.emitters k,outOf k log⟩ := by
  obtain ⟨log,hlogged⟩ := run_logged hrun []
  refine ⟨log,?_,fun k => composed_emitters.run_part hlogged k⟩
  refine (reachable (I := TableKept bₛ) (fun s a s' => tableKept_step) ?_ hlogged).table
  refine ⟨⟨bₛ.db.observerEvents,[],(List.append_nil _).symm,?_,.nil⟩,fun _ => rfl,?_⟩
  · exact List.forall₂_same.mpr fun r _ => ⟨rfl,rfl⟩
  · intro j
    rw [hidle j]
    simp

end Table

section Agent
open WatcherTargets

structure AgentEnv where
  component : String
  timescaleConnstring : String := ""
  combinationId : String
  testRunId : String := ""
  nodeName : String := "unknown"
  watcherTargets : Text := []

def watcherRegistry : List String := ["patroni","consul","haproxy","vip","postgres"]

/-- The argument of the watcher that takes a target; the other components have none. -/
def watcherTargetKwarg : String → Option String
  | "patroni" => some "patroni_url"
  | "postgres" => some "pg_connstring"
  | _ => none

def AgentEnv.emitter (env : AgentEnv) (nodeName : String) : Emitter where
  timescaleConnstring := env.timescaleConnstring
  combinationId := env.combinationId
  testRunId := env.testRunId
  nodeName := nodeName
  component := env.component

/-- The emitters of the agent; `none` is an exit with status 1. -/
def agentMain (env : AgentEnv) : Option (List Emitter) :=
  if env.component = "" then none
  else if env.combinationId = "" then none
  else if env.component ∉ watcherRegistry then none
  else if env.watcherTargets ≠ [] ∧ (watcherTargetKwarg env.component).isSome then
    let targets := parseTargets env.watcherTargets
    if targets = [] then none
    else some (targets.map fun target => env.emitter (String.ofList target.1))
  else some [env.emitter env.nodeName]

/-- With the targets of the playbook the agent has an emitter for each host, and no two of them
share a label. -/
theorem agent_observes_hosts {env : AgentEnv} {hosts : List Host} (hhosts : hosts ≠ [])
    (hnames : (hosts.map Host.name).Nodup) (hformed : ∀ host ∈ hosts, host.WellFormed)
    (hcomponent : env.component = "patroni") (hcomb : env.combinationId ≠ "")
    (htargets : env.watcherTargets = patroniTargets hosts) :
    ∃ emitters, agentMain env = some emitters ∧
      emitters = hosts.map (fun host => env.emitter (String.ofList host.name)) ∧
      (emitters.map Emitter.label).Nodup := by
  have hparse : parseTargets env.watcherTargets = hosts.map Host.restTarget := by
    rw [htargets]
    exact parse_patroniTargets hformed
  have hset : env.watcherTargets ≠ [] := by
    intro hnil
    rw [hnil] at hparse
    exact hhosts (List.map_eq_nil_iff.mp (hparse.symm.trans rfl))
  have hkwarg : (watcherTargetKwarg env.component).isSome = true := by
    rw [hcomponent]
    rfl
  refine ⟨hosts.map fun host => env.emitter (String.ofList host.name),?_,rfl,?_⟩
  · rw [agentMain,if_neg (by rw [hcomponent]; decide),if_neg hcomb,
      if_neg (by rw [hcomponent]; decide),if_pos ⟨hset,hkwarg⟩,hparse]
    simp [hhosts,Host.restTarget,Function.comp_def]
  · rw [List.map_map]
    refine List.Nodup.map_on ?_ (List.Nodup.of_map _ hnames)
    intro host hhost host' hhost' heq
    have hname : String.ofList host.name = String.ofList host'.name :=
      (Prod.mk.inj (Prod.mk.inj heq).2).2
    exact List.inj_on_of_nodup_map hnames hhost hhost' (String.ofList_injective hname)

end Agent

theorem exists_of_forall₂ {α β : Type} {R : α → β → Prop} {l : List α} {l' : List β}
    (h : List.Forall₂ R l l') : ∀ a ∈ l, ∃ b ∈ l', R a b := by
  induction h with
  | nil => simp
  | cons hab _ ih =>
    intro a ha
    rcases List.mem_cons.mp ha with rfl | ha
    · exact ⟨_,List.mem_cons_self,hab⟩
    · obtain ⟨b,hb,hr⟩ := ih a ha
      exact ⟨b,List.mem_cons_of_mem _ hb,hr⟩

/-- Only process `k` of those with its label emits in the window, and when they start the table
has no row of it there. -/
structure Observed {ι κ ρ : Type} [DecidableEq κ] (bₛ : Bench ι κ ρ)
    (as : List (BenchAction ι κ ρ)) (k : κ) (start stop : Timestamp) : Prop where
  idle : ∀ j, (bₛ.runners j).phase.updates = []
  started : ∀ j, (bₛ.emitters j).self.label = (bₛ.emitters k).self.label →
    bₛ.emitters j = .start (bₛ.emitters j).self ∧ (bₛ.emitters j).self.timescaleConnstring ≠ ""
  alone : ∀ j, (bₛ.emitters j).self.label = (bₛ.emitters k).self.label → j ≠ k →
    ∀ event ∈ emits (actionsOf emitterAction j as), ¬(start ≤ event.ts ∧ event.ts ≤ stop)
  fresh : ∀ r ∈ bₛ.db.observerEvents, r.label = (bₛ.emitters k).self.label →
    ¬(start ≤ r.ts ∧ r.ts ≤ stop)

section Window

variable {ι κ ρ : Type} [DecidableEq ι] [DecidableEq κ] [DecidableEq ρ] {bₛ b : Bench ι κ ρ}
  {as : List (BenchAction ι κ ρ)} {k : κ} {event : Event} {r : ObserverEvent}
  {start stop x : Timestamp}

theorem Observed.event_of_row (ho : Observed bₛ as k start stop)
    (hrun : run Bench.step bₛ as = some b) (hr : r ∈ b.db.observerEvents)
    (hlabel : r.label = (bₛ.emitters k).self.label) (hw : start ≤ r.ts ∧ r.ts ≤ stop) :
    ∃ event ∈ emits (actionsOf emitterAction k as),
      RowOfEvent (bₛ.emitters k).self event r := by
  obtain ⟨log,htable,hparts⟩ := run_table ho.idle hrun
  obtain ⟨earlier,new,hrows,hearlier,hnew⟩ := htable.split
  rw [hrows] at hr
  rcases List.mem_append.mp hr with hr | hr
  · obtain ⟨r₀,hr₀,hsame⟩ := exists_of_forall₂ hearlier.flip r hr
    have hts : r.ts = r₀.ts := congrArg ObserverFrameRow.ts hsame.frameRow
    exact absurd (hts ▸ hw) (ho.fresh r₀ hr₀ (hsame.label.symm.trans hlabel))
  · obtain ⟨⟨j,e⟩,hmem,hrow⟩ := exists_of_forall₂ hnew r hr
    have hj : (bₛ.emitters j).self.label = (bₛ.emitters k).self.label :=
      hrow.label.symm.trans hlabel
    obtain ⟨hstart,hconn⟩ := ho.started j hj
    have hpart := hparts j
    rw [hstart] at hpart
    have hemitted : e.event ∈ emits (actionsOf emitterAction j as) :=
      emitted_of_row hconn hpart (mem_outOf_iff.mpr hmem)
    by_cases hk : j = k
    · subst hk
      exact ⟨e.event,hemitted,hrow⟩
    · exact absurd (hrow.ts ▸ hw) (ho.alone j hj hk e.event hemitted)

theorem Observed.row_of_event (ho : Observed bₛ as k start stop)
    (hrun : run Bench.step bₛ as = some b) (hsettled : SettledUpTo ⟨b.emitters k,[]⟩ x)
    (he : event ∈ emits (actionsOf emitterAction k as)) (hx : event.ts ≤ x) :
    ∃ r ∈ b.db.observerEvents, RowOfEvent (bₛ.emitters k).self event r := by
  obtain ⟨log,htable,hparts⟩ := run_table ho.idle hrun
  obtain ⟨hstart,hconn⟩ := ho.started k rfl
  have hpart := hparts k
  rw [hstart] at hpart
  obtain ⟨call,hrow | hbuffer | ⟨t,hbatch⟩⟩ := row_of_emitted hconn hpart he
  · obtain ⟨earlier,new,hrows,-,hnew⟩ := htable.split
    obtain ⟨r,hr,hof⟩ := exists_of_forall₂ hnew.flip _ (mem_outOf_iff.mp hrow)
    exact ⟨r,by rw [hrows]; exact List.mem_append_right _ hr,hof⟩
  · exact absurd hx (not_le.mpr (hsettled.buffer _ hbuffer))
  · exact absurd hx (not_le.mpr (hsettled.batch t _ hbatch))

end Window

/-- The rows of an observer in a window, as the charts of a run read them. -/
def observerFrame (db : Database) (self : Emitter) (testRunId : String) (start x : Timestamp) :
    List ObserverFrameRow :=
  (loadObserverEvents db self.combinationId testRunId).filter fun r =>
    (r.component = self.component ∧ r.node = self.nodeName) ∧ start ≤ r.ts ∧ r.ts ≤ x

def emittedFrame (self : Emitter) (events : List Event) (start x : Timestamp) :
    List ObserverFrameRow :=
  (events.map (Event.frameRow self)).filter fun r => start ≤ r.ts ∧ r.ts ≤ x

theorem mem_observerFrame {db : Database} {self : Emitter} {testRunId : String}
    {start x : Timestamp} {row : ObserverFrameRow} :
    row ∈ observerFrame db self testRunId start x ↔ ∃ r ∈ db.observerEvents,
      r.label = self.label ∧ r.testRunId = testRunId ∧ r.frameRow = row ∧
        start ≤ row.ts ∧ row.ts ≤ x := by
  simp only [observerFrame,loadObserverEvents,List.mem_filter,List.mem_map,List.mem_mergeSort,
    Bool.and_eq_true,decide_eq_true_eq,ObserverEvent.label,Emitter.label,Prod.mk.injEq]
  constructor
  · rintro ⟨⟨r,⟨hr,hcomb,hid⟩,rfl⟩,⟨hcomponent,hnode⟩,hw⟩
    exact ⟨r,hr,⟨hcomb,hcomponent,hnode⟩,hid,rfl,hw⟩
  · rintro ⟨r,hr,⟨hcomb,hcomponent,hnode⟩,hid,rfl,hw⟩
    exact ⟨⟨r,⟨hr,hcomb,hid⟩,rfl⟩,⟨hcomponent,hnode⟩,hw⟩

theorem mem_emittedFrame {self : Emitter} {events : List Event} {start x : Timestamp}
    {row : ObserverFrameRow} : row ∈ emittedFrame self events start x ↔
      ∃ event ∈ events, event.frameRow self = row ∧ start ≤ row.ts ∧ row.ts ≤ x := by
  simp only [emittedFrame,List.mem_filter,List.mem_map,decide_eq_true_eq]
  constructor
  · rintro ⟨⟨event,he,rfl⟩,hw⟩
    exact ⟨event,he,rfl,hw⟩
  · rintro ⟨event,he,rfl,hw⟩
    exact ⟨⟨event,he,rfl⟩,hw⟩

section Iteration

variable {κ : Type} [DecidableEq κ] {bₛ b₀ b₁ b₂ b₃ : Bench Unit κ Unit}
  {earlier pre mid post : List (BenchAction Unit κ Unit)} {conn comb : String} {it : Iteration}
  {endTs x : Timestamp} {k : κ} {η ν : Type} [DecidableEq η]

theorem IterationRun.tagged_row (h : IterationRun conn comb it endTs b₀ b₁ b₂ b₃ pre mid post)
    (htagged : IterationTagged comb it endTs b₁ b₂ b₃) {self : Emitter} {event : Event}
    {r : ObserverEvent} (hr : r ∈ b₂.db.observerEvents) (hrow : RowOfEvent self event r)
    (hw : it.startTs ≤ event.ts ∧ event.ts ≤ endTs) :
    ∃ r ∈ b₃.db.observerEvents, RowOfEvent self event r ∧ r.testRunId = it.testRunId comb := by
  have hmem : r.tag (it.testRunId comb) it.startTs endTs ∈
      b₃.db.observerEvents.take b₂.db.observerEvents.length := by
    rw [h.tagged.2]
    exact List.mem_map_of_mem hr
  refine ⟨_,List.mem_of_mem_take hmem,⟨hrow.combinationId,hrow.frameRow⟩,?_⟩
  exact htagged.observerEvents _ hmem (hrow.ts ▸ hw)

/-- If an iteration is tagged, what an observer has emitted in its window, up to an instant up to
which it has delivered, is what the charts of its run read. -/
theorem iteration_replays (h : IterationRun conn comb it endTs b₀ b₁ b₂ b₃ pre mid post)
    (htagged : IterationTagged comb it endTs b₁ b₂ b₃)
    (hearlier : run Bench.step bₛ earlier = some b₀)
    (ho : Observed bₛ (earlier ++ (pre ++ (.runner () (.stop endTs) :: mid)) ++ post) k
      it.startTs x) (hx : x ≤ endTs)
    (hsettled : SettledUpTo ⟨b₂.emitters k,[]⟩ x)
    (hlater : ∀ event ∈ emits (actionsOf emitterAction k post), x < event.ts)
    (reg : ObserverFrameRow → Option (η × ν))
    (hstamped : Stamped ObserverFrameRow.ts reg (emittedFrame (bₛ.emitters k).self
      (emits (actionsOf emitterAction k (earlier ++ (pre ++ (.runner () (.stop endTs) :: mid)))))
      it.startTs x)) (key : η) :
    lastTo key ((observerFrame b₃.db (bₛ.emitters k).self (it.testRunId comb) it.startTs
        x).filterMap reg) =
      lastTo key ((emittedFrame (bₛ.emitters k).self
        (emits (actionsOf emitterAction k (earlier ++ (pre ++ (.runner () (.stop endTs) :: mid)))))
        it.startTs x).filterMap reg) := by
  have hrun₁ : run Bench.step bₛ (earlier ++ pre) = some b₁ :=
    run_append_some.mpr ⟨b₀,hearlier,h.before⟩
  have hrun₂ : run Bench.step bₛ (earlier ++ (pre ++ (.runner () (.stop endTs) :: mid))) =
      some b₂ := by
    rw [← List.append_assoc]
    exact run_append_some.mpr ⟨b₁,hrun₁,h.ended⟩
  have hrun₃ := run_append_some.mpr ⟨b₂,hrun₂,h.updated⟩
  have hearly : Observed bₛ (earlier ++ (pre ++ (.runner () (.stop endTs) :: mid))) k
      it.startTs x := by
    refine ⟨ho.idle,ho.started,fun j hlabel hj event he => ho.alone j hlabel hj event ?_,ho.fresh⟩
    rw [actionsOf_append,emits_append]
    exact List.mem_append_left _ he
  refine lastTo_of_mem_iff ?_ hstamped (fun row => ?_) key
  · exact pairwise_loadObserverEvents.filter _
  rw [mem_observerFrame,mem_emittedFrame]
  constructor
  · rintro ⟨r,hr,hlabel,-,rfl,hw⟩
    obtain ⟨event,he,hrow⟩ := ho.event_of_row hrun₃ hr hlabel hw
    rw [actionsOf_append,emits_append] at he
    rcases List.mem_append.mp he with he | he
    · exact ⟨event,he,hrow.frameRow.symm,hw⟩
    · exact absurd (hrow.ts ▸ hw.2) (not_le.mpr (hlater event he))
  · rintro ⟨event,he,rfl,hw⟩
    obtain ⟨r,hr,hrow⟩ := hearly.row_of_event hrun₂ hsettled he hw.2
    obtain ⟨r',hr',hrow',hid⟩ := h.tagged_row htagged hr hrow ⟨hw.1,hw.2.trans hx⟩
    exact ⟨r',hr',hrow'.label,hid,hrow'.frameRow,hw⟩

end Iteration

def patroniEnv : AgentEnv where
  component := "patroni"
  timescaleConnstring := haproxyEmitter.timescaleConnstring
  combinationId := haproxyEmitter.combinationId

def twoNodesBench : Bench Unit Bool Unit where
  clients _ := .start heartbeatClient
  emitters first := .start (patroniEnv.emitter (if first then "patroni-node1" else "patroni-node2"))
  runners _ := ⟨haproxyEmitter.combinationId,.idle⟩
  db := .empty
  tagged := []

def becomes (role : String) (ts : Timestamp) : Event where
  ts := ts
  eventType := "role_change"
  newValue := some role

def emitFlushed (event : Event) : List EmitterAction :=
  [.emit event,.checkLength,.loopTest,.waited,.take .flusher,.insert .flusher,.close .flusher]

def takeOver : List (BenchAction Unit Bool Unit) :=
  [.runner () (.start hardStop),.runner () .sent] ++
    (emitFlushed (becomes "demoted" 1777000001000000)).map (.emitter true) ++
    (emitFlushed (becomes "primary" 1777000002000000)).map (.emitter false) ++
    (successes 0 1).map (.client ()) ++
    [.client () .shutdown,.client () .exit,.client () .insertRow,.client () .flushDone]

def rowRole (r : ObserverFrameRow) : Option (String × String) := some (r.eventType,r.newValue)

theorem iteration_replays_takeOver : ∃ b₃ : Bench Unit Bool Unit,
    lastTo "role_change" ((observerFrame b₃.db (patroniEnv.emitter "patroni-node2")
        (hardStop.testRunId "06-haproxy-rest-polling") hardStop.startTs
        1777000010000000).filterMap rowRole) =
      lastTo "role_change" ((emittedFrame (patroniEnv.emitter "patroni-node2")
        [becomes "primary" 1777000002000000] hardStop.startTs 1777000010000000).filterMap
          rowRole) := by
  obtain ⟨b₁,b₂,b₃,h,hno,hdrained⟩ : ∃ b₁ b₂ b₃,
      IterationRun heartbeatClient.timescaleConnstring "06-haproxy-rest-polling" hardStop
        1777000020000000 twoNodesBench b₁ b₂ b₃ takeOver [.runner () .sent]
        [.runner () .sent,.runner () .sent] ∧
      ((∀ r ∈ b₂.db.clientEvents, r.testRunId = "") ∧
        ∀ r ∈ b₂.db.observerEvents, r.testRunId = "") ∧
      EmitterRun.Drained ⟨b₂.emitters false,[]⟩ :=
    ⟨_,_,_,⟨by decide,rfl,fun _ => rfl,rfl,rfl,by simp [takeOver,emitFlushed,successes,NoStop],rfl,
      rfl,rfl,rfl,by simp [OnlySends],rfl,rfl,by simp [OnlySends],rfl⟩,by decide +kernel,
      rfl,fun t => by cases t <;> rfl⟩
  have htagged : IterationTagged "06-haproxy-rest-polling" hardStop 1777000020000000 b₁ b₂ b₃ :=
    h.tagged_iff.mpr ⟨fun r hr _ => .inl (hno.1 r hr),fun r hr _ => .inl (hno.2 r hr)⟩
  have hlabel : ∀ j, (twoNodesBench.emitters j).self.label =
      (twoNodesBench.emitters false).self.label → j = false := by decide
  have hobserved : Observed twoNodesBench ([] ++ (takeOver ++
      (.runner () (.stop 1777000020000000) :: [.runner () .sent])) ++
        [.runner () .sent,.runner () .sent]) false hardStop.startTs 1777000010000000 :=
    ⟨fun _ => rfl,fun j _ => ⟨rfl,by cases j <;> decide⟩,fun j hj hne => absurd (hlabel j hj) hne,
      fun _ hr => absurd hr List.not_mem_nil⟩
  have hlater : ∀ event ∈ emits (actionsOf emitterAction false
      ([.runner () .sent,.runner () .sent] : List (BenchAction Unit Bool Unit))),
      (1777000010000000 : Timestamp) < event.ts := fun _ he => absurd he List.not_mem_nil
  exact ⟨b₃,iteration_replays h htagged rfl hobserved (by decide) (hdrained.settledUpTo _) hlater
    rowRole (.of_strict (by decide)) "role_change"⟩

end RoutingBench
