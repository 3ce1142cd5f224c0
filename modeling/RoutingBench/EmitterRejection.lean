import RoutingBench.EmitterDelivery
import Mathlib.Data.List.TakeWhile
set_option autoImplicit false

/-!
Events whose row the database refuses every time. The batch is retried as a unit, so
such an event holds up the events behind it and repeats the ones before it.
-/

namespace RoutingBench
open Runs

def EmitterProc.next (p : EmitterProc) (t : Thread) : Option Entry :=
  (p.phase t).events[(p.phase t).committed]?

section Rejection

variable (rejects : Event → Bool)

/-- The database is reachable, refuses the rows of rejected events and accepts every other
row: an INSERT goes through only for an acceptable event, and nothing else than a rejected
event makes a flush fail. -/
def Refuses (r : EmitterRun) : EmitterAction → Prop
  | .insert t => ∀ entry ∈ r.proc.next t, rejects entry.event = false
  | .fail t => ∃ entry ∈ r.proc.next t, rejects entry.event = true
  | _ => True

theorem refuses_insert_iff {r : EmitterRun} {t : Thread} :
    ((r.proc.next t).all fun entry => !rejects entry.event) = true ↔
      Refuses rejects r (.insert t) := by
  rw [Option.all_eq_true,Refuses]
  simp only [Bool.not_eq_true',Option.mem_def]

theorem refuses_fail_iff {r : EmitterRun} {t : Thread} :
    ((r.proc.next t).any fun entry => rejects entry.event) = true ↔
      Refuses rejects r (.fail t) := Option.any_eq_true _ _

instance decidableRefuses (r : EmitterRun) : (a : EmitterAction) →
    Decidable (Refuses rejects r a)
  | .insert _ => decidable_of_iff _ (refuses_insert_iff rejects)
  | .fail _ => decidable_of_iff _ (refuses_fail_iff rejects)
  | .emit _ | .checkLength | .loopTest | .waited | .stop | .joined | .take _ | .close _
  | .requeue _ => .isTrue trivial

/-- The entries a flush of the buffer gets through: those in front of the first rejected one. -/
def front (buffer : List Entry) : List Entry :=
  buffer.takeWhile fun entry => !rejects entry.event

def blocked (buffer : List Entry) : List Entry :=
  buffer.dropWhile fun entry => !rejects entry.event

/-- No acceptable event in front of the first rejected one has a row yet, and those behind
it have exactly one. -/
def Separated (r : EmitterRun) : Prop :=
  (∀ entry ∈ front rejects r.proc.self.buffer, r.rows.count entry = 0) ∧
    ∀ entry ∈ blocked rejects r.proc.self.buffer, rejects entry.event = false →
      r.rows.count entry = 1

/-- What a flush has done with the entries it took while it runs: it has got through a
prefix of acceptable ones, and each has the rows it had before and one more if it is in the
prefix. -/
structure Flushing (before : EmitterRun) (t : Thread) (n : Nat) (r : EmitterRun) : Prop where
  phase : r.proc.phase t = .writing before.proc.self.buffer n ∨
    r.proc.phase t = .failed before.proc.self.buffer n ∧
      ∃ entry ∈ before.proc.self.buffer[n]?, rejects entry.event = true
  accepted : ∀ entry ∈ before.proc.self.buffer.take n, rejects entry.event = false
  rows : ∀ entry ∈ before.proc.self.buffer, r.rows.count entry =
    before.rows.count entry + (before.proc.self.buffer.take n).count entry

variable {rejects} {self : Emitter} {before r r' : EmitterRun} {t : Thread} {n : Nat}

theorem Flushing.holding (h : Flushing rejects before t n r) :
    (r.proc.phase t).holding = true := by
  rcases h.phase with hw | ⟨hw,-⟩ <;> simp [hw,Phase.holding]

theorem Flushing.events (h : Flushing rejects before t n r) :
    (r.proc.phase t).events = before.proc.self.buffer := by
  rcases h.phase with hw | ⟨hw,-⟩ <;> simp [hw]

theorem flushing_step {as : List EmitterAction} {a : EmitterAction}
    (hc : self.timescaleConnstring ≠ "") (hrun : run EmitterRun.step (.start self) as = some r)
    (hf : Flushing rejects before t n r) (hdb : Refuses rejects r a) (hclose : a ≠ .close t)
    (hrequeue : a ≠ .requeue t) (hstep : r.step a = some r') :
    ∃ n', Flushing rejects before t n' r' := by
  obtain ⟨p,out,hp,rfl⟩ := run_step hstep
  -- A step of another thread: the phase stays and no row is of an entry of this batch.
  have frame : a ≠ .insert t → a ≠ .fail t → (∀ entry ∈ before.proc.self.buffer,
      out.toList.count entry = 0) → Flushing rejects before t n ⟨p,r.rows ++ out.toList⟩ := by
    intro hi hfail hrows
    have hph := phase_held hp hf.holding hi hfail hclose hrequeue
    refine ⟨?_,hf.accepted,?_⟩
    · show p.phase t = _ ∨ p.phase t = _ ∧ _
      rw [hph]
      exact hf.phase
    · intro entry hentry
      rw [List.count_append,hf.rows entry hentry,hrows entry hentry,Nat.add_zero]
  by_cases hi : ∃ t', a = .insert t'
  case neg =>
    have hout := output_none hp fun t' ht' => hi ⟨t',ht'⟩
    by_cases hfail : a = .fail t
    · subst hfail
      obtain ⟨es,m,hw,-,rfl⟩ := step_fail hp
      obtain ⟨entry,hnext,hrej⟩ := hdb
      rcases hf.phase with hw' | ⟨hw',-⟩
      · obtain ⟨rfl,rfl⟩ := Phase.writing.inj (hw.symm.trans hw')
        refine ⟨m,.inr ⟨by simp,entry,?_,hrej⟩,hf.accepted,?_⟩
        · simpa [EmitterProc.next,hw] using hnext
        · simpa [hout] using hf.rows
      · rw [hw] at hw'
        contradiction
    · exact ⟨n,frame (fun h => hi ⟨t,h⟩) hfail (by simp [hout])⟩
  case pos =>
    obtain ⟨t',rfl⟩ := hi
    obtain ⟨es,m,entry,hw,hget,rfl,rfl⟩ := step_insert hp
    by_cases ht : t' = t
    · subst ht
      rcases hf.phase with hw' | ⟨hw',-⟩
      · obtain ⟨rfl,rfl⟩ := Phase.writing.inj (hw.symm.trans hw')
        have hacc : rejects entry.event = false := hdb entry (by
          simpa [EmitterProc.next,hw] using hget)
        obtain ⟨hlt,hentry⟩ := List.getElem?_eq_some_iff.mp hget
        have htake : before.proc.self.buffer.take (m + 1) =
            before.proc.self.buffer.take m ++ [entry] := by
          rw [List.take_succ_eq_append_getElem hlt,hentry]
        refine ⟨m + 1,.inl (by simp),?_,?_⟩
        · intro e he
          rw [htake] at he
          rcases List.mem_append.mp he with he | he
          · exact hf.accepted e he
          · obtain rfl := List.mem_singleton.mp he
            exact hacc
        · intro e he
          have hrows := hf.rows e he
          rw [htake]
          simp only [List.count_append,Option.toList_some] at *
          omega
      · rw [hw] at hw'
        contradiction
    · refine ⟨n,frame (by simpa using ht) (by simp) ?_⟩
      intro e he
      obtain ⟨-,repeated,hl⟩ := run_outbox hc hrun
      have hnodup : r.proc.emitted.Nodup := by
        rw [run_emitted hrun]; exact nodup_mapIdx_mk _
      have hmem : e ∈ (r.outbox repeated).batch t := by
        show e ∈ (r.proc.phase t).events
        rw [hf.events]; exact he
      have hother := (Outbox.batch_only hl hnodup hmem).2 t' ht
      have hentry : entry ∈ (r.outbox repeated).batch t' := by
        show entry ∈ (r.proc.phase t').events
        rw [hw]; exact List.mem_of_getElem? hget
      have hne : entry ≠ e := fun h => hother (h ▸ hentry)
      simp [hne]

theorem flushing_run {as mid : List EmitterAction} (hc : self.timescaleConnstring ≠ "")
    (hrun : run EmitterRun.step (.start self) as = some r) (hf : Flushing rejects before t n r)
    (hdb : Along EmitterRun.step (Refuses rejects) r mid)
    (hmid : ∀ a ∈ mid, a ≠ .close t ∧ a ≠ .requeue t)
    (hrun' : run EmitterRun.step r mid = some r') : ∃ n', Flushing rejects before t n' r' := by
  induction mid generalizing as r n with
  | nil =>
    obtain rfl : r = r' := by simpa using hrun'
    exact ⟨n,hf⟩
  | cons a mid ih =>
    obtain ⟨s,hs,hrest⟩ := run_cons.mp hrun'
    obtain ⟨hclose,hrequeue⟩ := hmid a (by simp)
    obtain ⟨n',hf'⟩ := flushing_step hc hrun hf hdb.1 hclose hrequeue hs
    have hdb' := hdb.2
    rw [hs] at hdb'
    exact ih (run_snoc.mpr ⟨r,hrun,hs⟩) hf' hdb' (fun b hb => hmid b (by simp [hb])) hrest

theorem Flushing.take_eq_front (h : Flushing rejects before t n r)
    (hend : (∃ entry ∈ before.proc.self.buffer[n]?, rejects entry.event = true) ∨
      n = before.proc.self.buffer.length) :
    before.proc.self.buffer.take n = front rejects before.proc.self.buffer ∧
      before.proc.self.buffer.drop n = blocked rejects before.proc.self.buffer := by
  have happ : ∀ entry ∈ before.proc.self.buffer.take n, (!rejects entry.event) = true := by
    intro entry he
    simp [h.accepted entry he]
  have hstop : (before.proc.self.buffer.drop n).takeWhile (fun entry => !rejects entry.event) = []
      ∧ (before.proc.self.buffer.drop n).dropWhile (fun entry => !rejects entry.event) =
        before.proc.self.buffer.drop n := by
    rcases hend with ⟨entry,hget,hrej⟩ | rfl
    · obtain ⟨hlt,hentry⟩ := List.getElem?_eq_some_iff.mp hget
      rw [List.drop_eq_getElem_cons hlt,hentry]
      simp [hrej]
    · simp
  constructor
  · conv_rhs => rw [front,← List.take_append_drop n before.proc.self.buffer]
    rw [List.takeWhile_append_of_pos happ,hstop.1,List.append_nil]
  · conv_rhs => rw [blocked,← List.take_append_drop n before.proc.self.buffer]
    rw [List.dropWhile_append_of_pos happ,hstop.2]

theorem Flushing.ended (h : Flushing rejects before t n r) {fin : EmitterAction}
    (hfin : fin = .close t ∨ fin = .requeue t) (hend : r.step fin = some r') :
    r'.rows = r.rows ∧ ((∃ entry ∈ before.proc.self.buffer[n]?, rejects entry.event = true) ∨
      n = before.proc.self.buffer.length) := by
  obtain ⟨p,out,hp,rfl⟩ := run_step hend
  rcases hfin with rfl | rfl
  · obtain ⟨es,hw,rfl,-⟩ := step_close hp
    rcases h.phase with hw' | ⟨hw',-⟩
    · obtain ⟨rfl,rfl⟩ := Phase.writing.inj (hw.symm.trans hw')
      exact ⟨by simp,.inr rfl⟩
    · rw [hw] at hw'
      contradiction
  · obtain ⟨es,m,hw,rfl,-⟩ := step_requeue hp
    rcases h.phase with hw' | ⟨hw',hrej⟩
    · rw [hw] at hw'
      contradiction
    · exact ⟨by simp,.inl hrej⟩

/-- Where a flush stores the entries in front, the acceptable ones have one row each if and only
if they were separated. -/
theorem separated_iff
    (hone : ∀ entry ∈ before.proc.self.buffer,
      (front rejects before.proc.self.buffer).count entry +
        (blocked rejects before.proc.self.buffer).count entry = 1)
    (hrows : ∀ entry ∈ before.proc.self.buffer, r.rows.count entry =
      before.rows.count entry + (front rejects before.proc.self.buffer).count entry) :
    (∀ entry ∈ before.proc.self.buffer, rejects entry.event = false →
      r.rows.count entry = 1) ↔ Separated rejects before := by
  constructor
  · intro hall
    constructor
    · intro entry he
      have hmem := (List.takeWhile_prefix _).subset he
      have hacc : rejects entry.event = false := by simpa using List.mem_takeWhile_imp he
      have hpos := List.count_pos_iff.mpr he
      have h1 := hall entry hmem hacc
      have h2 := hrows entry hmem
      omega
    · intro entry he hacc
      have hmem := (List.dropWhile_suffix _).subset he
      have hpos := List.count_pos_iff.mpr he
      have h1 := hall entry hmem hacc
      have h2 := hrows entry hmem
      have h3 := hone entry hmem
      omega
  · intro hsep entry hmem hacc
    have h2 := hrows entry hmem
    have h3 := hone entry hmem
    rcases (List.mem_append.mp (List.takeWhile_append_dropWhile ▸ hmem) :
      entry ∈ front rejects before.proc.self.buffer ∨
        entry ∈ blocked rejects before.proc.self.buffer) with he | he
    · have hpos := List.count_pos_iff.mpr he
      have h1 := hsep.1 entry he
      omega
    · have hpos := List.count_pos_iff.mpr he
      have h1 := hsep.2 entry he hacc
      omega

/-- A rejected event does not block the others: whenever a flush returns, every acceptable
event of the batch it took has exactly one row, if and only if the flush found the acceptable
events of the buffer separated: those in front of the first rejected event without a row,
those behind it with one. -/
theorem rejected_event_alone {as mid : List EmitterAction} {fin : EmitterAction}
    {taken ended : EmitterRun} (hc : self.timescaleConnstring ≠ "")
    (hdb : Along EmitterRun.step (Refuses rejects) (.start self) (as ++ .take t :: mid))
    (hrun : run EmitterRun.step (.start self) as = some before)
    (htake : before.step (.take t) = some taken)
    (hmid : ∀ a ∈ mid, a ≠ .close t ∧ a ≠ .requeue t)
    (hflush : run EmitterRun.step taken mid = some r)
    (hfin : fin = .close t ∨ fin = .requeue t) (hend : r.step fin = some ended) :
    (∀ entry ∈ before.proc.self.buffer, rejects entry.event = false →
      ended.rows.count entry = 1) ↔ Separated rejects before := by
  by_cases hempty : before.proc.self.buffer = []
  · simp [Separated,front,blocked,hempty]
  have hrun' : run EmitterRun.step (.start self) (as ++ [.take t]) = some taken :=
    run_snoc.mpr ⟨before,hrun,htake⟩
  have hstart : Flushing rejects before t 0 taken := by
    obtain ⟨p,out,hp,rfl⟩ := run_step htake
    obtain ⟨-,rfl,⟨hb,-⟩ | ⟨-,hcon,-⟩ | ⟨-,-,rfl⟩⟩ := step_take hp
    · exact absurd hb hempty
    · exact absurd hcon (run_outbox hc hrun).1
    · exact ⟨.inl (by simp),by simp,by simp⟩
  have hdb' : Along EmitterRun.step (Refuses rejects) taken mid := by
    have h := ((along_append hrun).mp hdb).2.2
    rwa [htake] at h
  obtain ⟨n,hf⟩ := flushing_run hc hrun' hstart hdb' hmid hflush
  obtain ⟨hrows,hdone⟩ := hf.ended hfin hend
  obtain ⟨hfront,hblocked⟩ := hf.take_eq_front hdone
  have hsplit : ∀ entry ∈ before.proc.self.buffer,
      (before.proc.self.buffer.take n).count entry +
        (before.proc.self.buffer.drop n).count entry = 1 := by
    intro entry he
    obtain ⟨-,repeated,hl⟩ := run_outbox hc hrun'
    have hnodup : taken.proc.emitted.Nodup := by
      rw [run_emitted hrun']; exact nodup_mapIdx_mk _
    have hone := (Outbox.batch_only (w := t) (e := entry) hl hnodup (by
      show entry ∈ (taken.proc.phase t).events
      rw [hstart.events]; exact he)).1
    have hbatch : (taken.outbox repeated).batch t = before.proc.self.buffer := hstart.events
    rwa [hbatch,← List.take_append_drop n before.proc.self.buffer,List.count_append] at hone
  rw [hfront,hblocked] at hsplit
  have hcount := hf.rows
  rw [hfront] at hcount
  rw [hrows]
  exact separated_iff hsplit hcount

/-- A HAProxy CSV row shorter than its header leaves the new value None. -/
def shortRow : Event := { backendDown with newValue := none }

def notStorable (event : Event) : Bool := (haproxyEmitter.values event).row.isNone

def shortRowFirst : List EmitterAction :=
  [.emit shortRow,.checkLength,.emit backendUp,.checkLength,.loopTest,.waited]

def shortRowLast : List EmitterAction :=
  [.emit backendDown,.checkLength,.emit shortRow,.checkLength,.loopTest,.waited]

/-- With the rejected event in front the flush ends without a row for the other. -/
theorem shortRowFirst_blocks : ∃ before taken r ended,
    run EmitterRun.step (.start haproxyEmitter) shortRowFirst = some before ∧
      before.step (.take .flusher) = some taken ∧
      Along EmitterRun.step (Refuses notStorable) (.start haproxyEmitter)
        (shortRowFirst ++ [.take .flusher,.fail .flusher,.requeue .flusher]) ∧
      run EmitterRun.step taken [.fail .flusher] = some r ∧
      r.step (.requeue .flusher) = some ended ∧
      ⟨1,backendUp⟩ ∈ before.proc.self.buffer ∧ notStorable backendUp = false ∧
      ended.rows.count ⟨1,backendUp⟩ = 0 :=
  ⟨_,_,_,_,rfl,rfl,by decide,rfl,rfl,by decide,by decide,by decide⟩

/-- Behind the other it does no harm to the first flush. -/
theorem rejected_event_alone_shortRowLast : ∃ before taken r ended,
    run EmitterRun.step (.start haproxyEmitter) shortRowLast = some before ∧
      before.step (.take .flusher) = some taken ∧
      run EmitterRun.step taken [.insert .flusher,.fail .flusher] = some r ∧
      r.step (.requeue .flusher) = some ended ∧
      ((∀ entry ∈ before.proc.self.buffer, notStorable entry.event = false →
        ended.rows.count entry = 1) ↔ Separated notStorable before) :=
  ⟨_,_,_,_,rfl,rfl,rfl,rfl,@rejected_event_alone notStorable haproxyEmitter _ _ .flusher
    shortRowLast [.insert .flusher,.fail .flusher] (.requeue .flusher) _ _ (by decide)
    (by decide) rfl rfl (by decide) rfl (.inr rfl) rfl⟩

end Rejection

end RoutingBench
