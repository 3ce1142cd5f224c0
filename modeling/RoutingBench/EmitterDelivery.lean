import RoutingBench.Emitter
import Mathlib.Data.List.Nodup
set_option autoImplicit false

/-!
What the emitter delivers. With a connection string it implements an outbox whose
workers are its three threads, so the outbox laws speak of the rows in
observer_events.
-/

namespace RoutingBench
open Runs

/-- The outbox an emitter implements; the entries given back although they have a row
are not in its state and have to be remembered beside it. -/
def EmitterRun.outbox (r : EmitterRun) (repeated : List Entry) : Outbox Entry Thread where
  buffer := r.proc.self.buffer
  batch := Phase.events ∘ r.proc.phase
  sent := Phase.committed ∘ r.proc.phase
  written := r.rows
  pushed := r.proc.emitted
  repeated := repeated

/-- The entries with a row that an action puts back into the buffer. -/
def EmitterAction.repeats (p : EmitterProc) : EmitterAction → List Entry
  | .requeue t => (p.phase t).events.take (p.phase t).committed
  | _ => []

theorem run_step {r r' : EmitterRun} {a : EmitterAction} (h : r.step a = some r') :
    ∃ p out, r.proc.step a = some (p,out) ∧ r' = ⟨p,r.rows ++ out.toList⟩ := by
  obtain ⟨⟨p,out⟩,hp,rfl⟩ := Option.map_eq_some_iff.mp h
  exact ⟨p,out,hp,rfl⟩

theorem connstring_step {p p' : EmitterProc} {out : Option Entry} {a : EmitterAction}
    (h : p.step a = some (p',out)) :
    p'.self.timescaleConnstring = p.self.timescaleConnstring := by
  cases a with
  | emit event => obtain ⟨-,-,rfl⟩ := step_emit h; rfl
  | checkLength => exact (step_quiet rfl h).2.2.2.1
  | loopTest => exact (step_quiet rfl h).2.2.2.1
  | waited => exact (step_quiet rfl h).2.2.2.1
  | stop => exact (step_quiet rfl h).2.2.2.1
  | joined => exact (step_quiet rfl h).2.2.2.1
  | take t => obtain ⟨-,-,⟨-,rfl⟩ | ⟨-,-,rfl⟩ | ⟨-,-,rfl⟩⟩ := step_take h <;> rfl
  | insert t => obtain ⟨_,_,_,-,-,-,rfl⟩ := step_insert h; rfl
  | close t => obtain ⟨_,-,-,rfl⟩ := step_close h; rfl
  | fail t => obtain ⟨_,_,-,-,rfl⟩ := step_fail h; rfl
  | requeue t => obtain ⟨_,_,-,-,rfl⟩ := step_requeue h; rfl

section Refinement

variable {r r' : EmitterRun} {a : EmitterAction}

theorem update_quiet {phase : Thread → Phase} {t : Thread} {ph : Phase}
    (h : (phase t).holding = false) (h' : ph.holding = false) :
    Phase.events ∘ Function.update phase t ph = Phase.events ∘ phase ∧
      Phase.committed ∘ Function.update phase t ph = Phase.committed ∘ phase := by
  obtain ⟨he,hc⟩ := Phase.empty_of_not_holding h
  obtain ⟨he',hc'⟩ := Phase.empty_of_not_holding h'
  constructor
  · rw [Function.comp_update,he',← he]
    exact Function.update_eq_self t _
  · rw [Function.comp_update,hc',← hc]
    exact Function.update_eq_self t _

/-- Every step of the emitter is a step of its outbox, or none. -/
theorem step_refines (hc : r.proc.self.timescaleConnstring ≠ "") (h : r.step a = some r')
    (repeated : List Entry) :
    r'.outbox (repeated ++ a.repeats r.proc) = r.outbox repeated ∨
      ∃ b, (r.outbox repeated).step b = some (r'.outbox (repeated ++ a.repeats r.proc)) := by
  obtain ⟨p,out,hp,rfl⟩ := run_step h
  have quiet : ∀ t, a.quiet = some t → a.repeats r.proc = [] →
      (EmitterRun.mk p (r.rows ++ out.toList)).outbox (repeated ++ a.repeats r.proc) =
        r.outbox repeated := by
    intro t ht hrep
    obtain ⟨rfl,hbuf,hem,-,ph,hph,hold,hold'⟩ := step_quiet ht hp
    have hu := update_quiet hold hold'
    simp [EmitterRun.outbox,hbuf,hem,hph,hu,hrep]
  cases a with
  | checkLength => exact .inl (quiet _ rfl rfl)
  | loopTest => exact .inl (quiet _ rfl rfl)
  | waited => exact .inl (quiet _ rfl rfl)
  | stop => exact .inl (quiet _ rfl rfl)
  | joined => exact .inl (quiet _ rfl rfl)
  | emit event =>
    obtain ⟨hw,rfl,rfl⟩ := step_emit hp
    have hold : (r.proc.phase .watcher).holding = false := by rw [hw]; rfl
    have hnew : Phase.appended.holding = false := rfl
    have hu := update_quiet hold hnew
    refine .inr ⟨.push ⟨r.proc.emitted.length,event⟩,?_⟩
    simp [Outbox.step,EmitterRun.outbox,EmitterAction.repeats,EmitterProc.withBuffer,
      EmitterProc.goto,hu]
  | take t =>
    obtain ⟨hw,rfl,hcases⟩ := step_take hp
    have hold : (r.proc.phase t).holding = false := by rw [hw]; rfl
    rcases hcases with ⟨-,rfl⟩ | ⟨-,hempty,-⟩ | ⟨-,-,rfl⟩
    · have hu := update_quiet hold t.afterFlush_holding
      exact .inl (by simp [EmitterRun.outbox,EmitterAction.repeats,hu])
    · exact absurd hempty hc
    · have he := (Phase.empty_of_not_holding hold).1
      refine .inr ⟨.take t,?_⟩
      simp [Outbox.step,EmitterRun.outbox,EmitterAction.repeats,EmitterProc.withBuffer,
        EmitterProc.goto,Function.comp_update,he]
  | insert t =>
    obtain ⟨events,committed,entry,hw,he,rfl,rfl⟩ := step_insert hp
    have hev : Phase.events ∘ Function.update r.proc.phase t (.writing events (committed + 1)) =
        Phase.events ∘ r.proc.phase := by
      rw [Function.comp_update]
      conv_rhs => rw [← Function.update_eq_self t (Phase.events ∘ r.proc.phase)]
      simp [hw]
    refine .inr ⟨.write t,?_⟩
    simp [Outbox.step,EmitterRun.outbox,EmitterAction.repeats,hw,he,hev,Function.comp_update]
  | close t =>
    obtain ⟨events,hw,rfl,rfl⟩ := step_close hp
    obtain ⟨he,hz⟩ := Phase.empty_of_not_holding t.afterFlush_holding
    refine .inr ⟨.settle t,?_⟩
    simp [Outbox.step,Outbox.release,EmitterRun.outbox,EmitterAction.repeats,hw,he,hz,
      Function.comp_update]
  | fail t =>
    obtain ⟨events,committed,hw,rfl,rfl⟩ := step_fail hp
    refine .inl ?_
    have hev : Phase.events ∘ Function.update r.proc.phase t (.failed events committed) =
        Phase.events ∘ r.proc.phase := by
      rw [Function.comp_update]
      conv_rhs => rw [← Function.update_eq_self t (Phase.events ∘ r.proc.phase)]
      simp [hw]
    have hco : Phase.committed ∘ Function.update r.proc.phase t (.failed events committed) =
        Phase.committed ∘ r.proc.phase := by
      rw [Function.comp_update]
      conv_rhs => rw [← Function.update_eq_self t (Phase.committed ∘ r.proc.phase)]
      simp [hw]
    simp [EmitterRun.outbox,EmitterAction.repeats,hev,hco]
  | requeue t =>
    obtain ⟨events,committed,hw,rfl,rfl⟩ := step_requeue hp
    obtain ⟨he,hz⟩ := Phase.empty_of_not_holding t.afterFlush_holding
    refine .inr ⟨.giveBack t,?_⟩
    simp [Outbox.step,Outbox.release,EmitterRun.outbox,EmitterAction.repeats,hw,he,hz,
      EmitterProc.withBuffer,Function.comp_update]

end Refinement

section Emitted

variable {p p' : EmitterProc} {out : Option Entry} {a : EmitterAction}

theorem emitted_step (h : p.step a = some (p',out)) :
    p'.emitted = p.emitted ++ (emits [a]).map (Entry.mk p.emitted.length) := by
  cases a with
  | emit event => obtain ⟨-,-,rfl⟩ := step_emit h; rfl
  | checkLength => simpa [emits] using (step_quiet rfl h).2.2.1
  | loopTest => simpa [emits] using (step_quiet rfl h).2.2.1
  | waited => simpa [emits] using (step_quiet rfl h).2.2.1
  | stop => simpa [emits] using (step_quiet rfl h).2.2.1
  | joined => simpa [emits] using (step_quiet rfl h).2.2.1
  | take t =>
    obtain ⟨-,-,⟨-,rfl⟩ | ⟨-,-,rfl⟩ | ⟨-,-,rfl⟩⟩ := step_take h <;> simp [emits]
  | insert t => obtain ⟨_,_,_,-,-,-,rfl⟩ := step_insert h; simp [emits]
  | close t => obtain ⟨_,-,-,rfl⟩ := step_close h; simp [emits]
  | fail t => obtain ⟨_,_,-,-,rfl⟩ := step_fail h; simp [emits]
  | requeue t => obtain ⟨_,_,-,-,rfl⟩ := step_requeue h; simp [emits]

theorem run_emitted {self : Emitter} {as : List EmitterAction} {r : EmitterRun}
    (hrun : run EmitterRun.step (.start self) as = some r) :
    r.proc.emitted = (emits as).mapIdx Entry.mk := by
  refine history (P := fun _ _ => True)
    (I := fun as r => r.proc.emitted = (emits as).mapIdx Entry.mk) rfl ?_
    (along_of_forall (fun _ _ => trivial) _ _) hrun
  intro as r a r' hr _ hstep
  obtain ⟨p,out,hp,rfl⟩ := run_step hstep
  have hone : (emits [a]).length ≤ 1 := by cases a <;> simp [emits]
  rw [emitted_step hp,hr,emits_append,List.mapIdx_append,List.length_mapIdx]
  congr 1
  cases hes : emits [a] with
  | nil => rfl
  | cons event rest =>
    obtain rfl : rest = [] := by simpa [hes] using hone
    simp

theorem nodup_mapIdx_mk (events : List Event) : (events.mapIdx Entry.mk).Nodup := by
  refine List.pairwise_iff_getElem.mpr ?_
  intro i j hi hj hij
  simp only [List.getElem_mapIdx,ne_eq,Entry.mk.injEq,not_and]
  omega

end Emitted

/-- How an action moves a thread to `ph`: out of the except branch only by putting the batch
back, into it only out of the same batch, and to a next row only by taking the buffer or by
an INSERT. -/
structure Moved (p : EmitterProc) (a : EmitterAction) (t : Thread) (ph : Phase) : Prop where
  leaves_batch : (p.phase t).holding = true →
    a = .insert t ∨ a = .fail t ∨ a = .close t ∨ a = .requeue t
  leaves_failed : ∀ es n, p.phase t = .failed es n → a = .requeue t
  enters_failed : ∀ es n, ph = .failed es n → a = .fail t ∧ p.phase t = .writing es n
  enters_writing : ∀ es n, ph = .writing es n → (a = .take t ∧ es = p.self.buffer ∧ n = 0) ∨
    ∃ m, a = .insert t ∧ n = m + 1 ∧ p.phase t = .writing es m

section Moves

variable {p p' : EmitterProc} {out : Option Entry} {a : EmitterAction}

theorem Phase.ne_of_not_holding {ph : Phase} (h : ph.holding = false) (es : List Entry) (n : Nat) :
    ph ≠ .failed es n ∧ ph ≠ .writing es n := by
  cases ph <;> simp_all [holding]

theorem moved_idle {t : Thread} {ph : Phase} (h : (p.phase t).holding = false)
    (h' : ph.holding = false) : Moved p a t ph where
  leaves_batch hb := by simp [h] at hb
  leaves_failed es n he := absurd he (Phase.ne_of_not_holding h es n).1
  enters_failed es n he := absurd he (Phase.ne_of_not_holding h' es n).1
  enters_writing es n he := absurd he (Phase.ne_of_not_holding h' es n).2

theorem step_moves (h : p.step a = some (p',out)) :
    ∃ t ph, p'.phase = Function.update p.phase t ph ∧ Moved p a t ph := by
  have quiet : ∀ t, a.quiet = some t →
      ∃ t ph, p'.phase = Function.update p.phase t ph ∧ Moved p a t ph := by
    intro t ht
    obtain ⟨-,-,-,-,ph,hph,hold,hold'⟩ := step_quiet ht h
    exact ⟨t,ph,hph,moved_idle hold hold'⟩
  cases a with
  | checkLength => exact quiet _ rfl
  | loopTest => exact quiet _ rfl
  | waited => exact quiet _ rfl
  | stop => exact quiet _ rfl
  | joined => exact quiet _ rfl
  | emit event =>
    obtain ⟨hw,-,rfl⟩ := step_emit h
    exact ⟨.watcher,.appended,rfl,moved_idle (by rw [hw]; rfl) rfl⟩
  | take t =>
    obtain ⟨hw,-,⟨-,rfl⟩ | ⟨-,-,rfl⟩ | ⟨-,-,rfl⟩⟩ := step_take h
    · exact ⟨t,t.afterFlush,rfl,moved_idle (by rw [hw]; rfl) t.afterFlush_holding⟩
    · exact ⟨t,t.afterFlush,rfl,moved_idle (by rw [hw]; rfl) t.afterFlush_holding⟩
    · refine ⟨t,.writing p.self.buffer 0,rfl,by simp [hw,Phase.holding],by simp [hw],by simp,?_⟩
      intro es n he
      obtain ⟨rfl,rfl⟩ := Phase.writing.inj he
      exact .inl ⟨rfl,rfl,rfl⟩
  | insert t =>
    obtain ⟨events,m,entry,hw,-,-,rfl⟩ := step_insert h
    refine ⟨t,.writing events (m + 1),rfl,by simp,by simp [hw],by simp,?_⟩
    intro es n he
    obtain ⟨rfl,rfl⟩ := Phase.writing.inj he
    exact .inr ⟨m,rfl,rfl,hw⟩
  | close t =>
    obtain ⟨events,hw,-,rfl⟩ := step_close h
    have hout := Phase.ne_of_not_holding t.afterFlush_holding
    exact ⟨t,t.afterFlush,rfl,by simp,by simp [hw],fun es n he => absurd he (hout es n).1,
      fun es n he => absurd he (hout es n).2⟩
  | fail t =>
    obtain ⟨events,m,hw,-,rfl⟩ := step_fail h
    refine ⟨t,.failed events m,rfl,by simp,by simp [hw],?_,by simp⟩
    intro es n he
    obtain ⟨rfl,rfl⟩ := Phase.failed.inj he
    exact ⟨rfl,hw⟩
  | requeue t =>
    obtain ⟨events,m,hw,-,rfl⟩ := step_requeue h
    have hout := Phase.ne_of_not_holding t.afterFlush_holding
    exact ⟨t,t.afterFlush,rfl,by simp,fun _ _ _ => rfl,fun es n he => absurd he (hout es n).1,
      fun es n he => absurd he (hout es n).2⟩

theorem phase_held (h : p.step a = some (p',out)) {t : Thread}
    (hb : (p.phase t).holding = true) (hi : a ≠ .insert t) (hf : a ≠ .fail t)
    (hc : a ≠ .close t) (hr : a ≠ .requeue t) : p'.phase t = p.phase t := by
  obtain ⟨t',ph,hph,hm⟩ := step_moves h
  rw [hph]
  by_cases ht : t = t'
  · subst ht
    rcases hm.leaves_batch hb with h | h | h | h <;> contradiction
  · rw [Function.update_of_ne ht]

theorem output_none (h : p.step a = some (p',out)) (ha : ∀ t, a ≠ .insert t) : out = none := by
  cases a with
  | insert t => exact absurd rfl (ha t)
  | emit event => exact (step_emit h).2.1
  | take t => exact (step_take h).2.1
  | close t => obtain ⟨_,-,hout,-⟩ := step_close h; exact hout
  | fail t => obtain ⟨_,_,-,hout,-⟩ := step_fail h; exact hout
  | requeue t => obtain ⟨_,_,-,hout,-⟩ := step_requeue h; exact hout
  | _ => exact (step_quiet rfl h).1

theorem failed_of_step (h : p.step a = some (p',out)) {t : Thread} {es : List Entry} {n : Nat}
    (hf : p'.phase t = .failed es n) :
    p.phase t = .failed es n ∨ (a = .fail t ∧ p.phase t = .writing es n) := by
  obtain ⟨t',ph,hph,hm⟩ := step_moves h
  rw [hph] at hf
  by_cases ht : t = t'
  · subst ht
    rw [Function.update_self] at hf
    exact .inr (hm.enters_failed es n hf)
  · rw [Function.update_of_ne ht] at hf
    exact .inl hf

theorem failed_stays (h : p.step a = some (p',out)) {t : Thread} {es : List Entry} {n : Nat}
    (hf : p.phase t = .failed es n) : p'.phase t = .failed es n ∨ a = .requeue t := by
  obtain ⟨t',ph,hph,hm⟩ := step_moves h
  by_cases ht : t = t'
  · subst ht
    exact .inr (hm.leaves_failed es n hf)
  · rw [hph,Function.update_of_ne ht]
    exact .inl hf

end Moves

section Delivery

variable {self : Emitter} {as : List EmitterAction} {r : EmitterRun}

theorem outbox_start (self : Emitter) :
    (EmitterRun.start self).outbox [] = Outbox.empty Entry Thread := rfl

theorem lawful_run_step {r r' : EmitterRun} {a : EmitterAction} {repeated : List Entry}
    (hc : r.proc.self.timescaleConnstring ≠ "") (hl : (r.outbox repeated).Lawful)
    (h : r.step a = some r') : (r'.outbox (repeated ++ a.repeats r.proc)).Lawful := by
  rcases step_refines hc h repeated with heq | ⟨b,hb⟩
  · rw [heq]; exact hl
  · exact Outbox.lawful_step hl hb

/-- Wherever a run leads, the rows, the buffer and the batches are those of an outbox that
keeps its laws. -/
theorem run_outbox (hc : self.timescaleConnstring ≠ "")
    (hrun : run EmitterRun.step (.start self) as = some r) :
    r.proc.self.timescaleConnstring ≠ "" ∧ ∃ repeated, (r.outbox repeated).Lawful := by
  refine reachable (I := fun r : EmitterRun => r.proc.self.timescaleConnstring ≠ "" ∧
      ∃ repeated, (r.outbox repeated).Lawful) ?_ ⟨hc,[],?_⟩ hrun
  · intro r a r' hI hstep
    obtain ⟨hc,repeated,hl⟩ := hI
    obtain ⟨p,out,hp,rfl⟩ := run_step hstep
    exact ⟨by rw [connstring_step hp]; exact hc,_,lawful_run_step hc hl hstep⟩
  · rw [outbox_start]; exact Outbox.lawful_empty

/-- No event is lost: in every state a run reaches, every event passed to `emit` is in the
buffer, in the batch of a flush in progress, or has a row. -/
theorem no_event_lost (hc : self.timescaleConnstring ≠ "")
    (hrun : run EmitterRun.step (.start self) as = some r) {call : Nat} {event : Event}
    (hemit : (emits as)[call]? = some event) :
    ⟨call,event⟩ ∈ r.proc.self.buffer ∨ (∃ t, ⟨call,event⟩ ∈ (r.proc.phase t).events) ∨
      ⟨call,event⟩ ∈ r.rows := by
  obtain ⟨-,repeated,hl⟩ := run_outbox hc hrun
  refine Outbox.no_loss hl (e := ⟨call,event⟩) ?_
  have hin : (r.outbox repeated).pushed = (emits as).mapIdx Entry.mk := run_emitted hrun
  obtain ⟨hlt,hget⟩ := List.getElem?_eq_some_iff.mp hemit
  rw [hin,List.mem_mapIdx]
  exact ⟨call,hlt,by rw [hget]⟩

/-- The watcher fails to flush two of its events after the first INSERT and puts them back. -/
def failedFlush : List EmitterAction :=
  [.emit backendDown,.checkLength,.emit backendUp,.checkLength,.loopTest,.waited,.take .flusher,
    .insert .flusher,.fail .flusher,.requeue .flusher]

theorem no_event_lost_failedFlush : ∃ r,
    run EmitterRun.step (.start haproxyEmitter) failedFlush = some r ∧
      (⟨1,backendUp⟩ ∈ r.proc.self.buffer ∨ (∃ t, ⟨1,backendUp⟩ ∈ (r.proc.phase t).events) ∨
        ⟨1,backendUp⟩ ∈ r.rows) :=
  ⟨_,rfl,@no_event_lost haproxyEmitter failedFlush _ (by decide) rfl _ _ rfl⟩

theorem discarding (hc : self.timescaleConnstring = "")
    (hrun : run EmitterRun.step (.start self) as = some r) :
    r.rows = [] ∧ ∀ t, (r.proc.phase t).holding = false := by
  have h := reachable
    (I := fun r : EmitterRun => r.proc.self.timescaleConnstring = "" ∧ r.rows = [] ∧
      ∀ t, (r.proc.phase t).holding = false) ?_ ⟨hc,rfl,fun _ => rfl⟩ hrun
  · exact h.2
  intro r a r' hI hstep
  obtain ⟨hc,hrows,hidle⟩ := hI
  obtain ⟨p,out,hp,rfl⟩ := run_step hstep
  have hout : out = none := by
    refine output_none hp fun t ht => ?_
    subst ht
    obtain ⟨es,n,_,hw,-,-,-⟩ := step_insert hp
    exact absurd hw (Phase.ne_of_not_holding (hidle t) es n).2
  refine ⟨by rw [connstring_step hp]; exact hc,by rw [hrows,hout]; rfl,?_⟩
  intro t
  obtain ⟨t',ph,hph,hm⟩ := step_moves hp
  rw [hph]
  by_cases ht : t = t'
  · subst ht
    rw [Function.update_self]
    cases ph with
    | writing es n =>
      rcases hm.enters_writing es n rfl with ⟨rfl,-,-⟩ | ⟨m,-,-,hw⟩
      · obtain ⟨-,-,⟨-,rfl⟩ | ⟨-,-,rfl⟩ | ⟨-,hne,-⟩⟩ := step_take hp
        · have hat := congrFun hph t
          simp at hat
          rw [← hat]; exact t.afterFlush_holding
        · have hat := congrFun hph t
          simp at hat
          rw [← hat]; exact t.afterFlush_holding
        · exact absurd hc hne
      · exact absurd hw (Phase.ne_of_not_holding (hidle t) es m).2
    | failed es n =>
      exact absurd (hm.enters_failed es n rfl).2 (Phase.ne_of_not_holding (hidle t) es n).2
    | _ => rfl
  · rw [Function.update_of_ne ht]
    exact hidle t

/-- A flush fails before its first row is committed, or not at all. -/
def FailsBeforeFirstRow (r : EmitterRun) : EmitterAction → Prop
  | .fail t => (r.proc.phase t).committed = 0
  | _ => True

/-- Nothing waits in the buffer and no flush is in progress. -/
def EmitterRun.Drained (r : EmitterRun) : Prop :=
  r.proc.self.buffer = [] ∧ ∀ t, (r.proc.phase t).holding = false

theorem run_unrepeated (hc : self.timescaleConnstring ≠ "")
    (hfail : Along EmitterRun.step FailsBeforeFirstRow (.start self) as)
    (hrun : run EmitterRun.step (.start self) as = some r) : (r.outbox []).Lawful := by
  have h := invariant (P := FailsBeforeFirstRow)
    (I := fun r : EmitterRun => r.proc.self.timescaleConnstring ≠ "" ∧ (r.outbox []).Lawful ∧
      ∀ t es n, r.proc.phase t = .failed es n → n = 0) ?_ ⟨hc,?_,by simp [EmitterRun.start,
        EmitterProc.start]⟩ hfail hrun
  · exact h.2.1
  · intro r a r' hI hp hstep
    obtain ⟨hc,hl,hzero⟩ := hI
    obtain ⟨p,out,hproc,rfl⟩ := run_step hstep
    have hrep : a.repeats r.proc = [] := by
      cases a with
      | requeue t =>
        obtain ⟨es,n,hw,-,-⟩ := step_requeue hproc
        simp [EmitterAction.repeats,hw,hzero t es n hw]
      | _ => rfl
    have hl' := lawful_run_step hc hl hstep
    rw [hrep] at hl'
    refine ⟨by rw [connstring_step hproc]; exact hc,hl',?_⟩
    intro t es n hf
    rcases failed_of_step hproc hf with hold | ⟨rfl,hw⟩
    · exact hzero t es n hold
    · simpa [FailsBeforeFirstRow,hw] using hp
  · rw [outbox_start]; exact Outbox.lawful_empty

theorem run_failures (hc : self.timescaleConnstring ≠ "")
    (hrun : run EmitterRun.step (.start self) as = some r) :
    ∃ repeated, (r.outbox repeated).Lawful ∧
      (repeated = [] → (∀ t es n, r.proc.phase t = .failed es n → n = 0) →
        Along EmitterRun.step FailsBeforeFirstRow (.start self) as) := by
  have h := history (P := fun _ _ => True)
    (I := fun as r => run EmitterRun.step (.start self) as = some r ∧
      r.proc.self.timescaleConnstring ≠ "" ∧ ∃ repeated, (r.outbox repeated).Lawful ∧
        (repeated = [] → (∀ t es n, r.proc.phase t = .failed es n → n = 0) →
          Along EmitterRun.step FailsBeforeFirstRow (.start self) as))
    ⟨rfl,hc,[],?_,fun _ _ => trivial⟩ ?_ (along_of_forall (fun _ _ => trivial) _ _) hrun
  · exact h.2.2
  · rw [outbox_start]; exact Outbox.lawful_empty
  intro as r a r' hI _ hstep
  obtain ⟨hr,hc,repeated,hl,himp⟩ := hI
  obtain ⟨p,out,hp,rfl⟩ := run_step hstep
  refine ⟨run_snoc.mpr ⟨r,hr,hstep⟩,by rw [connstring_step hp]; exact hc,
    repeated ++ a.repeats r.proc,lawful_run_step hc hl hstep,?_⟩
  intro hnil hzero
  obtain ⟨rfl,hrep⟩ := List.append_eq_nil_iff.mp hnil
  have hbefore : ∀ t es n, r.proc.phase t = .failed es n → n = 0 := by
    intro t es n hf
    rcases failed_stays hp hf with hf' | rfl
    · exact hzero t es n hf'
    · have hle := hl.sound.sent_le t
      simp only [EmitterRun.outbox,Function.comp_apply,hf,Phase.committed_failed,
        Phase.events_failed] at hle
      simp only [EmitterAction.repeats,hf,Phase.committed_failed,Phase.events_failed] at hrep
      rcases List.take_eq_nil_iff.mp hrep with h | h
      · exact h
      · rw [h,List.length_nil] at hle; omega
  refine (along_append hr).mpr ⟨himp rfl hbefore,?_,by rw [hstep]; trivial⟩
  cases a with
  | fail t =>
    obtain ⟨es,n,hw,-,rfl⟩ := step_fail hp
    have hz := hzero t es n (by simp)
    simpa [FailsBeforeFirstRow,hw] using hz
  | _ => trivial

/-- At most one row per event, as long as every failing flush fails before its first row.
Once the emitter is drained no other run has at most one row per event. -/
theorem one_row_per_event (hrun : run EmitterRun.step (.start self) as = some r) :
    (Along EmitterRun.step FailsBeforeFirstRow (.start self) as →
      ∀ entry, r.rows.count entry ≤ 1) ∧
    (r.Drained → (∀ entry, r.rows.count entry ≤ 1) →
      Along EmitterRun.step FailsBeforeFirstRow (.start self) as) := by
  by_cases hc : self.timescaleConnstring = ""
  · obtain ⟨hrows,-⟩ := discarding hc hrun
    refine ⟨fun _ entry => by simp [hrows],fun _ _ => ?_⟩
    refine history (P := fun _ _ => True)
      (I := fun as r => run EmitterRun.step (.start self) as = some r ∧
        Along EmitterRun.step FailsBeforeFirstRow (.start self) as) ⟨rfl,trivial⟩ ?_
      (along_of_forall (fun _ _ => trivial) _ _) hrun |>.2
    intro as r a r' hI _ hstep
    obtain ⟨hr,hal⟩ := hI
    refine ⟨run_snoc.mpr ⟨r,hr,hstep⟩,(along_append hr).mpr ⟨hal,?_,by rw [hstep]; trivial⟩⟩
    cases a with
    | fail t => exact (Phase.empty_of_not_holding ((discarding hc hr).2 t)).2
    | _ => trivial
  have hnodup : r.proc.emitted.Nodup := by
    rw [run_emitted hrun]; exact nodup_mapIdx_mk _
  constructor
  · intro hfail entry
    exact Outbox.written_count_le (run_unrepeated hc hfail hrun) rfl hnodup entry
  · intro hdrained hone
    obtain ⟨hbuf,hidle⟩ := hdrained
    obtain ⟨repeated,hl,himp⟩ := run_failures hc hrun
    refine himp ?_ fun t es n hf => absurd hf (Phase.ne_of_not_holding (hidle t) es n).1
    by_contra hne
    obtain ⟨entry,hmem⟩ := List.exists_mem_of_ne_nil _ hne
    have htwo := Outbox.written_twice hl hbuf
      (fun t => (Phase.empty_of_not_holding (hidle t)).1) hmem
    have hle : r.rows.count entry ≤ 1 := hone entry
    have hwr : (r.outbox repeated).written = r.rows := rfl
    rw [hwr] at htwo
    omega

/-- The flush after it inserts the first event again, and then the second. -/
def repeatedFlush : List EmitterAction :=
  failedFlush ++ [.loopTest,.waited,.take .flusher,.insert .flusher,.insert .flusher,
    .close .flusher]

theorem repeatedFlush_two_rows : ∃ r,
    run EmitterRun.step (.start haproxyEmitter) repeatedFlush = some r ∧
      r.rows.count ⟨0,backendDown⟩ = 2 :=
  ⟨_,rfl,by decide⟩

def retriedFlush : List EmitterAction :=
  [.emit backendDown,.checkLength,.loopTest,.waited,.take .flusher,.fail .flusher,
    .requeue .flusher,.loopTest,.waited,.take .flusher,.insert .flusher,.close .flusher]

instance decidableFailsBeforeFirstRow (r : EmitterRun) (a : EmitterAction) :
    Decidable (FailsBeforeFirstRow r a) := by
  cases a <;> unfold FailsBeforeFirstRow <;> infer_instance

theorem one_row_per_event_retriedFlush : ∃ r,
    run EmitterRun.step (.start haproxyEmitter) retriedFlush = some r ∧
      ∀ entry, r.rows.count entry ≤ 1 :=
  ⟨_,rfl,(@one_row_per_event haproxyEmitter retriedFlush _ rfl).1 (by decide)⟩

end Delivery

end RoutingBench
