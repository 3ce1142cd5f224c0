import RoutingBench.EmitterDelivery
set_option autoImplicit false

/-!
What `stop` leaves behind. Its join ends after five seconds at the latest, and its flush sees
only the buffer: a batch the background thread has taken is not in it.
-/

namespace RoutingBench
open Runs

def Phase.failing : Phase → Bool
  | .failed _ _ => true
  | _ => false

/-- Every event of the batch a thread has taken has a row. -/
def EmitterRun.Settled (r : EmitterRun) (t : Thread) : Prop :=
  ∀ entry ∈ (r.proc.phase t).events, entry ∈ r.rows

instance (r : EmitterRun) (t : Thread) : Decidable (r.Settled t) :=
  inferInstanceAs (Decidable (∀ entry ∈ _, entry ∈ _))

/-- `stop` does not overtake the background thread. Where its flush takes the buffer the thread
is not about to put a batch back, where it returns the thread is not in the middle of one, and
in between no flush of the thread fails; unless all events of the batch have rows. -/
def NotOvertaken (r : EmitterRun) : EmitterAction → Prop
  | .take .stopper =>
    (r.proc.phase .flusher).failing = true ∨ r.proc.self.buffer = [] → r.Settled .flusher
  | .close .stopper => r.Settled .flusher
  | .fail .flusher => (r.proc.phase .stopper).holding = true → r.Settled .flusher
  | _ => True

instance (r : EmitterRun) : (a : EmitterAction) → Decidable (NotOvertaken r a)
  | .take .stopper => inferInstanceAs (Decidable (_ → r.Settled .flusher))
  | .close .stopper => inferInstanceAs (Decidable (r.Settled .flusher))
  | .fail .flusher => inferInstanceAs (Decidable (_ → r.Settled .flusher))
  | .take .watcher | .take .flusher | .close .watcher | .close .flusher | .fail .watcher
  | .fail .stopper | .emit _ | .checkLength | .loopTest | .waited | .stop | .joined | .insert _
  | .requeue _ => .isTrue trivial

/-- Once `stop` has taken the buffer nobody takes again what is put back. -/
structure Stopping (r : EmitterRun) : Prop where
  connstring : r.proc.self.timescaleConnstring ≠ ""
  lawful : ∃ repeated, (r.outbox repeated).Lawful
  nodup : r.proc.emitted.Nodup
  stopEvent : r.proc.self.stopEvent = true
  watcher : r.proc.phase .watcher = .outside
  stopper : r.proc.phase .stopper ≠ .outside ∧ (r.proc.phase .stopper).failing = false
  taken : (r.proc.phase .stopper).holding = true →
    r.proc.phase .flusher = .waiting ∨ r.proc.phase .flusher = .entering → r.proc.self.buffer = []

/-- Nothing without a row is where nobody will write it. -/
@[mk_iff]
structure NoneStranded (r : EmitterRun) : Prop where
  buffer : ∀ entry ∈ r.proc.self.buffer, entry ∈ r.rows
  failing : (r.proc.phase .flusher).failing = true → r.Settled .flusher

/-- Everything that has no row yet will get one, and has one where `stop` returns. -/
structure Intact (r : EmitterRun) : Prop where
  taken : (r.proc.phase .stopper).holding = true → NoneStranded r
  returned : r.proc.phase .stopper = .finished → ∀ entry ∈ r.proc.emitted, entry ∈ r.rows

section Step

variable {r r' : EmitterRun} {p' : EmitterProc} {out : Option Entry} {a : EmitterAction}

theorem all_rows_iff (h : Stopping r) : (∀ entry ∈ r.proc.emitted, entry ∈ r.rows) ↔
    (∀ entry ∈ r.proc.self.buffer, entry ∈ r.rows) ∧ ∀ t, r.Settled t := by
  obtain ⟨repeated,hl⟩ := h.lawful
  exact Outbox.all_written_iff hl

theorem row_elsewhere (h : Stopping r) {t : Thread} {events : List Entry} {n : Nat}
    {entry : Entry} (hw : r.proc.phase t = .writing events n) (hget : events[n]? = some entry) :
    entry ∉ r.proc.self.buffer ∧ ∀ t', t' ≠ t → entry ∉ (r.proc.phase t').events := by
  obtain ⟨repeated,hl⟩ := h.lawful
  have hmem : entry ∈ (r.outbox repeated).batch t := by
    show entry ∈ (r.proc.phase t).events
    rw [hw]
    exact List.mem_of_getElem? hget
  exact ⟨Outbox.batch_not_waiting hl h.nodup hmem,(Outbox.batch_only hl h.nodup hmem).2⟩

theorem mem_rows_of_ne {rows : List Entry} {es : List Entry} {entry : Entry} (h : entry ∉ es) :
    (∀ e ∈ es, e ∈ rows ++ [entry]) ↔ ∀ e ∈ es, e ∈ rows := by
  refine forall₂_congr fun e he => ?_
  have hne : e ≠ entry := fun heq => h (heq ▸ he)
  simp [hne]

theorem intact_iff (h : r.proc.phase .stopper ≠ .finished) :
    Intact r ↔ ((r.proc.phase .stopper).holding = true → NoneStranded r) :=
  ⟨Intact.taken,fun ht => ⟨ht,fun hf => absurd hf h⟩⟩

theorem intact_returned (h : Stopping r) (hret : r.proc.phase .stopper = .finished) :
    Intact r ↔ (∀ entry ∈ r.proc.self.buffer, entry ∈ r.rows) ∧ r.Settled .flusher := by
  have hwatcher : r.Settled .watcher := by simp [EmitterRun.Settled,h.watcher,Phase.events]
  have hstopper : r.Settled .stopper := by simp [EmitterRun.Settled,hret,Phase.events]
  have hall : (∀ t, r.Settled t) ↔ r.Settled .flusher := by
    refine ⟨fun ht => ht .flusher,fun hf t => ?_⟩
    cases t with
    | watcher => exact hwatcher
    | flusher => exact hf
    | stopper => exact hstopper
  rw [← hall,← all_rows_iff h]
  exact ⟨fun hi => hi.returned hret,fun hr => ⟨by simp [hret,Phase.holding],fun _ => hr⟩⟩

theorem step_loopTest (h : r.proc.step .loopTest = some (p',out)) :
    r.proc.phase .flusher = .outside ∧ out = none ∧
      p' = r.proc.goto .flusher (if r.proc.self.stopEvent then .finished else .waiting) := by
  cases hw : r.proc.phase .flusher <;> simp [EmitterProc.step,hw] at h
  obtain ⟨rfl,rfl⟩ := h
  exact ⟨rfl,rfl,rfl⟩

theorem step_waited (h : r.proc.step .waited = some (p',out)) :
    r.proc.phase .flusher = .waiting ∧ out = none ∧ p' = r.proc.goto .flusher .entering := by
  cases hw : r.proc.phase .flusher <;> simp [EmitterProc.step,hw] at h
  obtain ⟨rfl,rfl⟩ := h
  exact ⟨rfl,rfl,rfl⟩

theorem step_joined (h : r.proc.step .joined = some (p',out)) :
    r.proc.phase .stopper = .joining ∧ out = none ∧ p' = r.proc.goto .stopper .entering := by
  cases hw : r.proc.phase .stopper <;> simp [EmitterProc.step,hw] at h
  obtain ⟨rfl,rfl⟩ := h
  exact ⟨rfl,rfl,rfl⟩

/-- What the background thread can do while `stop` runs: the action, the thread's next phase,
the buffer after it and the event it inserts. -/
inductive FlusherStep (buffer : List Entry) :
    Phase → EmitterAction → Phase → List Entry → Option Entry → Prop
  | ended : FlusherStep buffer .outside .loopTest .finished buffer none
  | waited : FlusherStep buffer .waiting .waited .entering buffer none
  | nothing : buffer = [] → FlusherStep buffer .entering (.take .flusher) .outside buffer none
  | took : FlusherStep buffer .entering (.take .flusher) (.writing buffer 0) [] none
  | inserted {events : List Entry} {n : Nat} {entry : Entry} : events[n]? = some entry →
      FlusherStep buffer (.writing events n) (.insert .flusher) (.writing events (n + 1)) buffer
        (some entry)
  | closed {events : List Entry} :
      FlusherStep buffer (.writing events events.length) (.close .flusher) .outside buffer none
  | failed {events : List Entry} {n : Nat} :
      FlusherStep buffer (.writing events n) (.fail .flusher) (.failed events n) buffer none
  | requeued {events : List Entry} {n : Nat} :
      FlusherStep buffer (.failed events n) (.requeue .flusher) .outside (events ++ buffer) none

/-- What `stop` can do as long as its own INSERTs succeed. -/
inductive StopperStep (buffer : List Entry) :
    Phase → EmitterAction → Phase → List Entry → Option Entry → Prop
  | joined : StopperStep buffer .joining .joined .entering buffer none
  | nothing : buffer = [] → StopperStep buffer .entering (.take .stopper) .finished buffer none
  | took : buffer ≠ [] →
      StopperStep buffer .entering (.take .stopper) (.writing buffer 0) [] none
  | inserted {events : List Entry} {n : Nat} {entry : Entry} : events[n]? = some entry →
      StopperStep buffer (.writing events n) (.insert .stopper) (.writing events (n + 1)) buffer
        (some entry)
  | closed {events : List Entry} :
      StopperStep buffer (.writing events events.length) (.close .stopper) .finished buffer none

theorem step_stopping (h : Stopping r) (hemit : emits [a] = []) (hfail : a ≠ .fail .stopper)
    (hstep : r.proc.step a = some (p',out)) : ∃ ph buffer,
    FlusherStep r.proc.self.buffer (r.proc.phase .flusher) a ph buffer out ∧
        p' = (r.proc.goto .flusher ph).withBuffer buffer ∨
      StopperStep r.proc.self.buffer (r.proc.phase .stopper) a ph buffer out ∧
        p' = (r.proc.goto .stopper ph).withBuffer buffer := by
  have hwatcher := h.watcher
  cases a with
  | emit event => contradiction
  | checkLength => simp [EmitterProc.step,h.watcher] at hstep
  | stop => simp [EmitterProc.step,h.stopper.1] at hstep
  | loopTest =>
    obtain ⟨hw,rfl,rfl⟩ := step_loopTest hstep
    exact ⟨.finished,r.proc.self.buffer,.inl ⟨by rw [hw]; exact .ended,by rw [h.stopEvent]; rfl⟩⟩
  | waited =>
    obtain ⟨hw,rfl,rfl⟩ := step_waited hstep
    exact ⟨.entering,r.proc.self.buffer,.inl ⟨by rw [hw]; exact .waited,rfl⟩⟩
  | joined =>
    obtain ⟨hw,rfl,rfl⟩ := step_joined hstep
    exact ⟨.entering,r.proc.self.buffer,.inr ⟨by rw [hw]; exact .joined,rfl⟩⟩
  | take t =>
    obtain ⟨hw,rfl,⟨hb,rfl⟩ | ⟨-,hc,-⟩ | ⟨hb,-,rfl⟩⟩ := step_take hstep
    · cases t with
      | watcher => simp [hwatcher] at hw
      | flusher => exact ⟨.outside,r.proc.self.buffer,.inl ⟨by rw [hw]; exact .nothing hb,rfl⟩⟩
      | stopper => exact ⟨.finished,r.proc.self.buffer,.inr ⟨by rw [hw]; exact .nothing hb,rfl⟩⟩
    · exact absurd hc h.connstring
    · cases t with
      | watcher => simp [hwatcher] at hw
      | flusher => exact ⟨.writing r.proc.self.buffer 0,[],.inl ⟨by rw [hw]; exact .took,rfl⟩⟩
      | stopper => exact ⟨.writing r.proc.self.buffer 0,[],.inr ⟨by rw [hw]; exact .took hb,rfl⟩⟩
  | insert t =>
    obtain ⟨es,n,entry,hw,hget,rfl,rfl⟩ := step_insert hstep
    cases t with
    | watcher => simp [hwatcher] at hw
    | flusher =>
      exact ⟨.writing es (n + 1),r.proc.self.buffer,.inl ⟨by rw [hw]; exact .inserted hget,rfl⟩⟩
    | stopper =>
      exact ⟨.writing es (n + 1),r.proc.self.buffer,.inr ⟨by rw [hw]; exact .inserted hget,rfl⟩⟩
  | close t =>
    obtain ⟨es,hw,rfl,rfl⟩ := step_close hstep
    cases t with
    | watcher => simp [hwatcher] at hw
    | flusher => exact ⟨.outside,r.proc.self.buffer,.inl ⟨by rw [hw]; exact .closed,rfl⟩⟩
    | stopper => exact ⟨.finished,r.proc.self.buffer,.inr ⟨by rw [hw]; exact .closed,rfl⟩⟩
  | fail t =>
    obtain ⟨es,n,hw,rfl,rfl⟩ := step_fail hstep
    cases t with
    | watcher => simp [hwatcher] at hw
    | flusher => exact ⟨.failed es n,r.proc.self.buffer,.inl ⟨by rw [hw]; exact .failed,rfl⟩⟩
    | stopper => contradiction
  | requeue t =>
    obtain ⟨es,n,hw,rfl,rfl⟩ := step_requeue hstep
    cases t with
    | watcher => simp [hwatcher] at hw
    | flusher => exact ⟨.outside,es ++ r.proc.self.buffer,.inl ⟨by rw [hw]; exact .requeued,rfl⟩⟩
    | stopper =>
      have hf := h.stopper.2
      simp [hw,Phase.failing] at hf

theorem stopping_step (h : Stopping r) (hemit : emits [a] = []) (hfail : a ≠ .fail .stopper)
    (hstep : r.step a = some r') : Stopping r' := by
  obtain ⟨p',out,hp,rfl⟩ := run_step hstep
  obtain ⟨repeated,hl⟩ := h.lawful
  have hconn := connstring_step hp
  have hlawful := lawful_run_step h.connstring hl hstep
  have hemitted := emitted_step hp
  rw [hemit,List.map_nil,List.append_nil] at hemitted
  have hempty := h.taken
  obtain ⟨ph,buffer,⟨hflusher,rfl⟩ | ⟨hstopper,rfl⟩⟩ := step_stopping h hemit hfail hp
  · refine ⟨hconn ▸ h.connstring,⟨_,hlawful⟩,hemitted ▸ h.nodup,h.stopEvent,?_,?_,?_⟩
    · simpa using h.watcher
    · simpa using h.stopper
    · generalize hold : r.proc.phase .flusher = old at hflusher
      cases hflusher with
      | waited => simpa using fun hs => hempty hs (.inl hold)
      | _ => simp
  · generalize hold : r.proc.phase .stopper = old at hstopper
    refine ⟨hconn ▸ h.connstring,⟨_,hlawful⟩,hemitted ▸ h.nodup,h.stopEvent,?_,?_,?_⟩
    · simpa using h.watcher
    · cases hstopper <;> simp [Phase.failing]
    · cases hstopper with
      | inserted hget => simpa [hold,Phase.holding] using hempty
      | _ => simp [Phase.holding]

/-- Whether everything stays where it will get its row is decided at the steps at which `stop`
can overtake the background thread. -/
theorem intact_step (h : Stopping r) (hopen : r.proc.phase .stopper ≠ .finished)
    (hemit : emits [a] = []) (hfail : a ≠ .fail .stopper) (hstep : r.step a = some r') :
    Intact r' ↔ Intact r ∧ NotOvertaken r a := by
  have h' := stopping_step h hemit hfail hstep
  obtain ⟨p',out,hp,rfl⟩ := run_step hstep
  rw [intact_iff hopen]
  obtain ⟨ph,buffer,⟨hflusher,rfl⟩ | ⟨hstopper,rfl⟩⟩ := step_stopping h hemit hfail hp
  · rw [intact_iff (by simpa using hopen)]
    generalize hold : r.proc.phase .flusher = old at hflusher
    cases hs : (r.proc.phase .stopper).holding with
    | false => cases hflusher <;> simp [hs,NotOvertaken]
    | true =>
      simp only [withBuffer_phase,goto_phase,Function.update_of_ne,ne_eq,reduceCtorEq,
        not_false_eq_true,hs,forall_const,noneStranded_iff,withBuffer_buffer,
        Function.update_self,EmitterRun.Settled,hold]
      cases hflusher with
      | took => simp [Phase.failing,NotOvertaken,h.taken hs (.inr hold)]
      | inserted hget =>
        simpa [Phase.failing,NotOvertaken] using mem_rows_of_ne (row_elsewhere h hold hget).1
      | failed => simp [Phase.failing,NotOvertaken,EmitterRun.Settled,hold,hs]
      | requeued => simp [Phase.failing,NotOvertaken,or_imp,forall_and,and_comm]
      | _ => simp [Phase.failing,NotOvertaken]
  · generalize hold : r.proc.phase .stopper = old at hstopper
    cases hstopper with
    | joined =>
      rw [intact_iff (by simp)]
      simp [Phase.holding,NotOvertaken]
    | nothing hb =>
      rw [intact_returned h' (by simp)]
      simp [Phase.holding,NotOvertaken,hb,EmitterRun.Settled]
    | took hb =>
      rw [intact_iff (by simp)]
      simp [Phase.holding,NotOvertaken,hb,EmitterRun.Settled,noneStranded_iff]
    | inserted hget =>
      obtain ⟨hbuffer,hothers⟩ := row_elsewhere h hold hget
      rw [intact_iff (by simp)]
      simp only [withBuffer_phase,goto_phase,Function.update_self,Function.update_of_ne,ne_eq,
        reduceCtorEq,not_false_eq_true,Phase.holding,forall_const,noneStranded_iff,
        withBuffer_buffer,Option.toList_some,EmitterRun.Settled,mem_rows_of_ne hbuffer,
        mem_rows_of_ne (hothers .flusher (by decide)),NotOvertaken,and_true]
    | closed =>
      rw [intact_returned h' (by simp)]
      simp only [withBuffer_phase,goto_phase,Function.update_of_ne,ne_eq,reduceCtorEq,
        not_false_eq_true,Phase.holding,forall_const,noneStranded_iff,withBuffer_buffer,
        Option.toList_none,List.append_nil,EmitterRun.Settled,NotOvertaken,and_assoc]
      exact and_congr_right fun _ => ⟨fun hf => ⟨fun _ => hf,hf⟩,And.right⟩

theorem notOvertaken_of_settled (h : r.Settled .flusher) (a : EmitterAction) :
    NotOvertaken r a := by
  cases a with
  | take t => cases t <;> first | trivial | exact fun _ => h
  | close t => cases t <;> trivial
  | fail t => cases t <;> first | trivial | exact fun _ => h
  | _ => trivial

/-- An action `stop` allows while it runs: no call of `emit`, and no failure of its own flush. -/
def DuringStop (a : EmitterAction) : Prop := emits [a] = [] ∧ a ≠ .fail .stopper

theorem duringStop_of_mem {as : List EmitterAction} (hemit : emits as = [])
    (hinserts : EmitterAction.fail .stopper ∉ as) : ∀ a ∈ as, DuringStop a := by
  intro a ha
  obtain ⟨front,back,rfl⟩ := List.append_of_mem ha
  refine ⟨?_,fun h => hinserts (h ▸ ha)⟩
  rw [List.append_cons,emits_append,emits_append] at hemit
  simp only [List.append_eq_nil_iff] at hemit
  exact hemit.1.2

theorem finished_step (h : Stopping r) (hd : DuringStop a) (hstep : r.step a = some r')
    (hf : r.proc.phase .stopper = .finished) : r'.proc.phase .stopper = .finished := by
  obtain ⟨p',out,hp,rfl⟩ := run_step hstep
  obtain ⟨ph,buffer,⟨-,rfl⟩ | ⟨hstopper,-⟩⟩ := step_stopping h hd.1 hd.2 hp
  · simpa using hf
  · rw [hf] at hstopper
    cases hstopper

theorem unfinished_along {as : List EmitterAction} (h : Stopping r) (hd : ∀ a ∈ as, DuringStop a)
    (hrun : run EmitterRun.step r as = some r') (hopen : r'.proc.phase .stopper ≠ .finished) :
    Along EmitterRun.step (fun r a => r.proc.phase .stopper ≠ .finished ∧ DuringStop a) r as := by
  have hstopping : ∀ {as r r'}, Stopping r → (∀ a ∈ as, DuringStop a) →
      run EmitterRun.step r as = some r' → Stopping r' := fun h hd hrun =>
    invariant (P := fun _ a => DuringStop a) (I := Stopping)
      (fun s a s' hs hp hstep => stopping_step hs hp.1 hp.2 hstep) h (along_of_mem hd _) hrun
  refine (along_iff hrun).mpr fun front a back t has ht => ?_
  subst has
  obtain ⟨u,hu,hback⟩ := run_append_some.mp hrun
  obtain rfl : t = u := Option.some.inj (ht.symm.trans hu)
  have hts := hstopping h (fun b hb => hd b (by simp [hb])) ht
  refine ⟨fun hf => hopen ?_,hd a (by simp)⟩
  refine (invariant (P := fun _ b => DuringStop b)
    (I := fun s => Stopping s ∧ s.proc.phase .stopper = .finished)
    (fun s b s' hs hp hstep =>
      ⟨stopping_step hs.1 hp.1 hp.2 hstep,finished_step hs.1 hp hstep hs.2⟩)
    ⟨hts,hf⟩ (along_of_mem ?_ _) hback).2
  intro b hb
  exact hd b (by simp_all)

end Step

section Stop

variable {self : Emitter} {pre mid : List EmitterAction} {fin : EmitterAction}
  {before called r ended : EmitterRun}

theorem stopping_called (hc : self.timescaleConnstring ≠ "")
    (hrun : run EmitterRun.step (.start self) pre = some before)
    (houtside : before.proc.phase .watcher = .outside) (hstop : before.step .stop = some called) :
    Stopping called ∧ Intact called := by
  have hrun' := run_snoc.mpr ⟨before,hrun,hstop⟩
  obtain ⟨hconn,hlawful⟩ := run_outbox hc hrun'
  have hnodup : called.proc.emitted.Nodup := by
    rw [run_emitted hrun']
    exact nodup_mapIdx_mk _
  obtain ⟨p',out,hp,rfl⟩ := run_step hstop
  cases hw : before.proc.phase .stopper <;> simp [EmitterProc.step,hw] at hp
  obtain ⟨rfl,rfl⟩ := hp
  exact ⟨⟨hconn,hlawful,hnodup,rfl,by simpa using houtside,by simp [Phase.failing],
    by simp [Phase.holding]⟩,by simp [Phase.holding],by simp⟩

/-- `stop` drains: where it returns every event emitted before it has a row, if and only if the
emitter has a connection string (or no event) and `stop` does not overtake the background
thread. -/
theorem stop_drains_iff (hrun : run EmitterRun.step (.start self) pre = some before)
    (houtside : before.proc.phase .watcher = .outside) (hstop : before.step .stop = some called)
    (hmid : run EmitterRun.step called mid = some r)
    (hemit : emits (mid ++ [fin]) = []) (hinserts : EmitterAction.fail .stopper ∉ mid ++ [fin])
    (hblocked : r.proc.phase .stopper ≠ .finished) (hfin : r.step fin = some ended)
    (hreturn : ended.proc.phase .stopper = .finished) :
    (∀ call event, (emits pre)[call]? = some event → ⟨call,event⟩ ∈ ended.rows) ↔
      (emits pre = [] ∨ self.timescaleConnstring ≠ "") ∧
        Along EmitterRun.step NotOvertaken called (mid ++ [fin]) := by
  have hcalled := run_snoc.mpr ⟨before,hrun,hstop⟩
  have hended : run EmitterRun.step called (mid ++ [fin]) = some ended :=
    run_snoc.mpr ⟨r,hmid,hfin⟩
  have hwhole := run_append_some.mpr ⟨called,hcalled,hended⟩
  have hduring := duringStop_of_mem hemit hinserts
  by_cases hc : self.timescaleConnstring = ""
  · have hrows := (discarding hc hwhole).1
    have halong : Along EmitterRun.step NotOvertaken called (mid ++ [fin]) := by
      refine (along_iff hended).mpr fun front a back t _ ht => notOvertaken_of_settled ?_ a
      have hidle := (discarding hc (run_append_some.mpr ⟨called,hcalled,ht⟩)).2
      simp [EmitterRun.Settled,(Phase.empty_of_not_holding (hidle _)).1]
    simp only [hrows,hc,ne_eq,not_true_eq_false,or_false,halong,and_true]
    constructor
    · intro h
      rw [← List.length_eq_zero_iff]
      by_contra hlength
      have hlt := Nat.pos_of_ne_zero hlength
      exact absurd (h 0 _ (List.getElem?_eq_getElem hlt)) List.not_mem_nil
    · rintro hnil call event hget
      simp [hnil] at hget
  · obtain ⟨hstopping,hintact⟩ := stopping_called hc hrun houtside hstop
    have halong : Along EmitterRun.step (fun r a => r.proc.phase .stopper ≠ .finished ∧
        DuringStop a) called (mid ++ [fin]) := by
      refine (along_append hmid).mpr ⟨unfinished_along hstopping
        (fun a ha => hduring a (by simp [ha])) hmid hblocked,⟨hblocked,hduring fin (by simp)⟩,?_⟩
      rw [hfin]
      trivial
    have hiff := holds_iff_along (P := NotOvertaken) (I := Intact) (J := Stopping)
      (fun s a s' hs hq hstep => stopping_step hs hq.2.1 hq.2.2 hstep)
      (fun s a s' hs hq hstep => intact_step hs hq.1 hq.2.1 hq.2.2 hstep) hstopping halong hended
    have hrows : Intact ended ↔ ∀ entry ∈ ended.proc.emitted, entry ∈ ended.rows :=
      ⟨fun hi => hi.returned hreturn,fun h => ⟨by simp [hreturn,Phase.holding],fun _ => h⟩⟩
    have hemitted : ended.proc.emitted = (emits pre).mapIdx Entry.mk := by
      rw [run_emitted hwhole,emits_append,emits_append,hemit]
      simp [emits]
    rw [hrows,hemitted] at hiff
    have hevents : (∀ call event, (emits pre)[call]? = some event → ⟨call,event⟩ ∈ ended.rows) ↔
        ∀ entry ∈ (emits pre).mapIdx Entry.mk, entry ∈ ended.rows := by
      constructor
      · intro h entry hentry
        obtain ⟨call,hlt,rfl⟩ := List.mem_mapIdx.mp hentry
        exact h call _ (List.getElem?_eq_getElem hlt)
      · intro h call event hget
        obtain ⟨hlt,rfl⟩ := List.getElem?_eq_some_iff.mp hget
        exact h _ (List.mem_mapIdx.mpr ⟨call,hlt,rfl⟩)
    rw [hevents,hiff]
    simp [hintact,hc]

/-- The background thread has taken the only event and its INSERT blocks; the join times out and
the buffer is empty. -/
def blockedInsert : List EmitterAction :=
  [.emit backendDown,.checkLength,.loopTest,.waited,.take .flusher]

theorem blockedInsert_lost : ∃ before called r ended,
    run EmitterRun.step (.start haproxyEmitter) blockedInsert = some before ∧
      before.proc.phase .watcher = .outside ∧ before.step .stop = some called ∧
      run EmitterRun.step called [.joined] = some r ∧
      (∀ t, EmitterAction.fail t ∉ [.joined,.take .stopper]) ∧
      emits [.joined,.take .stopper] = [] ∧ r.proc.phase .stopper ≠ .finished ∧
      r.step (.take .stopper) = some ended ∧ ended.proc.phase .stopper = .finished ∧
      (emits blockedInsert)[0]? = some backendDown ∧ ⟨0,backendDown⟩ ∉ ended.rows :=
  ⟨_,_,_,_,rfl,rfl,rfl,rfl,by decide,rfl,by decide,rfl,rfl,rfl,by decide⟩

/-- Here the INSERT ends before the join does. -/
theorem stop_drains_iff_unblocked : ∃ before called r ended,
    run EmitterRun.step (.start haproxyEmitter) blockedInsert = some before ∧
      before.step .stop = some called ∧
      run EmitterRun.step called [.insert .flusher,.close .flusher,.loopTest,.joined] = some r ∧
      r.step (.take .stopper) = some ended ∧
      ((∀ call event, (emits blockedInsert)[call]? = some event → ⟨call,event⟩ ∈ ended.rows) ↔
        (emits blockedInsert = [] ∨ haproxyEmitter.timescaleConnstring ≠ "") ∧
          Along EmitterRun.step NotOvertaken called
            ([.insert .flusher,.close .flusher,.loopTest,.joined] ++ [.take .stopper])) :=
  ⟨_,_,_,_,rfl,rfl,rfl,rfl,@stop_drains_iff haproxyEmitter blockedInsert
    [.insert .flusher,.close .flusher,.loopTest,.joined] (.take .stopper) _ _ _ _ rfl rfl rfl rfl
    rfl (by decide) (by decide) rfl rfl⟩

end Stop

end RoutingBench
