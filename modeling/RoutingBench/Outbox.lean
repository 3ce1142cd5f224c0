import RoutingBench.Runs
import Mathlib.Algebra.BigOperators.Group.Finset.Piecewise
import Mathlib.Algebra.Order.BigOperators.Group.Finset
import Mathlib.Data.Fintype.Basic
import Mathlib.Data.List.Count
set_option autoImplicit false

/-!
An at-least-once outbox. Entries are pushed into a buffer; a worker takes the
whole buffer as its batch and writes the entries one by one, each write lasting
at once; when it cannot go on it gives the whole batch back to the head of the
buffer, the entries already written included. `pushed` and `repeated` only record:
what was ever pushed, and what was given back although it had been written.
-/

structure Outbox (ε ω : Type*) where
  buffer : List ε
  batch : ω → List ε
  sent : ω → Nat
  written : List ε
  pushed : List ε
  repeated : List ε

namespace Outbox

inductive Act (ε ω : Type*) where
  | push : ε → Act ε ω
  | take : ω → Act ε ω
  | write : ω → Act ε ω
  | settle : ω → Act ε ω
  | giveBack : ω → Act ε ω

variable {ε ω : Type*}

def empty (ε ω : Type*) : Outbox ε ω := ⟨[],fun _ => [],fun _ => 0,[],[],[]⟩

/-- The part of a worker's batch that is not written yet. -/
def rest (o : Outbox ε ω) (w : ω) : List ε := (o.batch w).drop (o.sent w)

section Step

variable [DecidableEq ω]

def release (o : Outbox ε ω) (w : ω) : Outbox ε ω :=
  { o with batch := Function.update o.batch w [], sent := Function.update o.sent w 0 }

def step (o : Outbox ε ω) : Act ε ω → Option (Outbox ε ω)
  | .push e => some { o with buffer := o.buffer ++ [e], pushed := o.pushed ++ [e] }
  | .take w =>
    if (o.batch w).isEmpty then
      some { o with
        buffer := []
        batch := Function.update o.batch w o.buffer
        sent := Function.update o.sent w 0 }
    else none
  | .write w =>
    match (o.batch w)[o.sent w]? with
    | some e => some { o with
        written := o.written ++ [e]
        sent := Function.update o.sent w (o.sent w + 1) }
    | none => none
  | .settle w => if o.sent w = (o.batch w).length then some (o.release w) else none
  | .giveBack w =>
    some { o.release w with
      buffer := o.batch w ++ o.buffer
      repeated := o.repeated ++ (o.batch w).take (o.sent w) }

theorem step_push {o o' : Outbox ε ω} {e : ε} (h : o.step (.push e) = some o') :
    o' = { o with buffer := o.buffer ++ [e], pushed := o.pushed ++ [e] } := by
  simpa [step] using h.symm

theorem step_take {o o' : Outbox ε ω} {w : ω} (h : o.step (.take w) = some o') :
    o.batch w = [] ∧ o' = { o with
      buffer := []
      batch := Function.update o.batch w o.buffer
      sent := Function.update o.sent w 0 } := by
  simp only [step] at h
  split at h
  next hb => exact ⟨List.isEmpty_iff.mp hb,(Option.some.inj h).symm⟩
  next => contradiction

theorem step_write {o o' : Outbox ε ω} {w : ω} (h : o.step (.write w) = some o') :
    ∃ e, (o.batch w)[o.sent w]? = some e ∧ o' = { o with
      written := o.written ++ [e]
      sent := Function.update o.sent w (o.sent w + 1) } := by
  simp only [step] at h
  split at h
  next e he => exact ⟨e,he,(Option.some.inj h).symm⟩
  next => contradiction

theorem step_settle {o o' : Outbox ε ω} {w : ω} (h : o.step (.settle w) = some o') :
    o.sent w = (o.batch w).length ∧ o' = o.release w := by
  simp only [step] at h
  split at h
  next hs => exact ⟨hs,(Option.some.inj h).symm⟩
  next => contradiction

theorem step_giveBack {o o' : Outbox ε ω} {w : ω} (h : o.step (.giveBack w) = some o') :
    o' = { o.release w with
      buffer := o.batch w ++ o.buffer
      repeated := o.repeated ++ (o.batch w).take (o.sent w) } := by
  simpa [step] using h.symm

variable (o : Outbox ε ω) (w : ω)

theorem rest_release : (o.release w).rest = Function.update o.rest w [] := by
  funext v
  by_cases h : v = w
  · subst h; simp [rest,release]
  · simp [rest,release,h]

theorem rest_take (b : List ε) :
    rest { o with
      buffer := []
      batch := Function.update o.batch w b
      sent := Function.update o.sent w 0 } = Function.update o.rest w b := by
  funext v
  by_cases h : v = w
  · subst h; simp [rest]
  · simp [rest,h]

theorem rest_write (l : List ε) :
    rest { o with
      written := l
      sent := Function.update o.sent w (o.sent w + 1) } =
      Function.update o.rest w ((o.batch w).drop (o.sent w + 1)) := by
  funext v
  by_cases h : v = w
  · subst h; simp [rest]
  · simp [rest,h]

omit [DecidableEq ω] in
theorem rest_eq_cons {e : ε} (h : (o.batch w)[o.sent w]? = some e) :
    o.rest w = e :: (o.batch w).drop (o.sent w + 1) := by
  obtain ⟨hlt,he⟩ := List.getElem?_eq_some_iff.mp h
  rw [rest,List.drop_eq_getElem_cons hlt,he]

end Step

/-- Every entry anywhere in the outbox was pushed, and the entries a worker has got
through are written. -/
structure Sound (o : Outbox ε ω) : Prop where
  sent_le : ∀ w, o.sent w ≤ (o.batch w).length
  recorded : ∀ w, ∀ e ∈ (o.batch w).take (o.sent w), e ∈ o.written
  buffer_pushed : ∀ e ∈ o.buffer, e ∈ o.pushed
  batch_pushed : ∀ w, ∀ e ∈ o.batch w, e ∈ o.pushed
  repeated_pushed : ∀ e ∈ o.repeated, e ∈ o.pushed

theorem sound_empty : (empty ε ω).Sound := by
  constructor <;> simp [empty]

section Sound

variable [DecidableEq ω] {o : Outbox ε ω}

theorem sound_release (h : o.Sound) (w : ω) : (o.release w).Sound where
  sent_le v := by
    by_cases hv : v = w
    · subst hv; simp [release]
    · simpa [release,hv] using h.sent_le v
  recorded v := by
    by_cases hv : v = w
    · subst hv; simp [release]
    · simpa [release,hv] using h.recorded v
  buffer_pushed := h.buffer_pushed
  batch_pushed v := by
    by_cases hv : v = w
    · subst hv; simp [release]
    · simpa [release,hv] using h.batch_pushed v
  repeated_pushed := h.repeated_pushed

theorem sound_step {o' : Outbox ε ω} {a : Act ε ω} (hs : o.Sound) (h : o.step a = some o') :
    o'.Sound := by
  cases a with
  | push x =>
    obtain rfl := step_push h
    constructor
    · exact hs.sent_le
    · exact hs.recorded
    · intro e he
      rcases List.mem_append.mp he with he | he
      · exact List.mem_append_left _ (hs.buffer_pushed e he)
      · exact List.mem_append_right _ he
    · exact fun w e he => List.mem_append_left _ (hs.batch_pushed w e he)
    · exact fun e he => List.mem_append_left _ (hs.repeated_pushed e he)
  | take w =>
    obtain ⟨-,rfl⟩ := step_take h
    constructor
    · intro v
      by_cases hv : v = w
      · subst hv; simp
      · simpa [hv] using hs.sent_le v
    · intro v
      by_cases hv : v = w
      · subst hv; simp
      · simpa [hv] using hs.recorded v
    · simp
    · intro v
      by_cases hv : v = w
      · subst hv; simpa using hs.buffer_pushed
      · simpa [hv] using hs.batch_pushed v
    · exact hs.repeated_pushed
  | write w =>
    obtain ⟨x,hx,rfl⟩ := step_write h
    obtain ⟨hlt,hget⟩ := List.getElem?_eq_some_iff.mp hx
    constructor
    · intro v
      by_cases hv : v = w
      · subst hv; simp only [Function.update_self]; omega
      · simpa [hv] using hs.sent_le v
    · intro v e he
      by_cases hv : v = w
      · subst hv
        simp only [Function.update_self] at he
        rw [List.take_succ_eq_append_getElem hlt,List.mem_append] at he
        rcases he with he | he
        · exact List.mem_append_left _ (hs.recorded v e he)
        · rw [hget] at he
          exact List.mem_append_right _ he
      · simp only [Function.update_of_ne hv] at he
        exact List.mem_append_left _ (hs.recorded v e he)
    · exact hs.buffer_pushed
    · exact hs.batch_pushed
    · exact hs.repeated_pushed
  | settle w =>
    obtain ⟨-,rfl⟩ := step_settle h
    exact sound_release hs w
  | giveBack w =>
    obtain rfl := step_giveBack h
    have hr := sound_release hs w
    refine ⟨hr.sent_le,hr.recorded,?_,hr.batch_pushed,?_⟩
    · intro e he
      rcases List.mem_append.mp he with he | he
      · exact hs.batch_pushed w e he
      · exact hs.buffer_pushed e he
    · intro e he
      rcases List.mem_append.mp he with he | he
      · exact hs.repeated_pushed e he
      · exact hs.batch_pushed w e (List.mem_of_mem_take he)

end Sound

section Balance

variable [Fintype ω] [DecidableEq ε]

def inFlight (r : ω → List ε) (e : ε) : Nat := ∑ w, (r w).count e

theorem inFlight_update [DecidableEq ω] (r : ω → List ε) (w : ω) (l : List ε) (e : ε) :
    inFlight (Function.update r w l) e + (r w).count e = inFlight r e + l.count e := by
  have hu : (fun v => (Function.update r w l v).count e) =
      Function.update (fun v => (r v).count e) w (l.count e) := by
    funext v
    by_cases hv : v = w
    · subst hv; simp
    · simp [hv]
  have hs := Finset.add_sum_erase Finset.univ (fun v => (r v).count e) (Finset.mem_univ w)
  simp only [inFlight,hu,Finset.sum_update_of_mem (Finset.mem_univ w),
    Finset.sdiff_singleton_eq_erase]
  omega

/-- The conservation law: what is written, waiting or in flight is what was pushed,
plus one more for every time an entry was given back after it had been written. -/
def Balanced (o : Outbox ε ω) : Prop :=
  ∀ e, o.written.count e + o.buffer.count e + inFlight o.rest e =
    o.pushed.count e + o.repeated.count e

theorem balanced_empty : (empty ε ω).Balanced := by
  intro e
  simp [empty,inFlight,rest]

theorem balanced_step [DecidableEq ω] {o o' : Outbox ε ω} {a : Act ε ω} (hb : o.Balanced)
    (h : o.step a = some o') : o'.Balanced := by
  intro e
  have he := hb e
  cases a with
  | push x =>
    obtain rfl := step_push h
    simp only [List.count_append] at *
    have hr : rest { o with buffer := o.buffer ++ [x], pushed := o.pushed ++ [x] } = o.rest := rfl
    rw [hr]; omega
  | take w =>
    obtain ⟨hw,rfl⟩ := step_take h
    have hu := inFlight_update o.rest w o.buffer e
    have hz : o.rest w = [] := by simp [rest,hw]
    rw [rest_take]
    simp only [hz,List.count_nil] at *
    omega
  | write w =>
    obtain ⟨x,hx,rfl⟩ := step_write h
    have hu := inFlight_update o.rest w ((o.batch w).drop (o.sent w + 1)) e
    have hc : o.rest w = [x] ++ (o.batch w).drop (o.sent w + 1) := rest_eq_cons o w hx
    rw [rest_write]
    rw [hc] at hu
    simp only [List.count_append] at *
    omega
  | settle w =>
    obtain ⟨hw,rfl⟩ := step_settle h
    have hu := inFlight_update o.rest w [] e
    have hz : o.rest w = [] := by simp [rest,hw]
    rw [rest_release]
    simp only [hz,List.count_nil,release] at *
    omega
  | giveBack w =>
    obtain rfl := step_giveBack h
    have hu := inFlight_update o.rest w [] e
    have hr : rest { o.release w with
        buffer := o.batch w ++ o.buffer
        repeated := o.repeated ++ (o.batch w).take (o.sent w) } = Function.update o.rest w [] :=
      rest_release o w
    have hs : ((o.batch w).take (o.sent w)).count e + (o.rest w).count e = (o.batch w).count e := by
      rw [rest,← List.count_append,List.take_append_drop]
    rw [hr]
    simp only [List.count_append,List.count_nil,release] at *
    omega

/-- An entry waits in the buffer or is in one batch, however often it was written. -/
def Placed (o : Outbox ε ω) : Prop :=
  ∀ e, o.buffer.count e + inFlight o.batch e ≤ o.pushed.count e

theorem placed_empty : (empty ε ω).Placed := by
  intro e
  simp [empty,inFlight]

theorem placed_step [DecidableEq ω] {o o' : Outbox ε ω} {a : Act ε ω} (hp : o.Placed)
    (h : o.step a = some o') : o'.Placed := by
  intro e
  have he := hp e
  cases a with
  | push x =>
    obtain rfl := step_push h
    simp only [List.count_append]
    omega
  | take w =>
    obtain ⟨hw,rfl⟩ := step_take h
    have hu := inFlight_update o.batch w o.buffer e
    simp only [hw,List.count_nil] at *
    omega
  | write w =>
    obtain ⟨x,-,rfl⟩ := step_write h
    exact he
  | settle w =>
    obtain ⟨-,rfl⟩ := step_settle h
    have hu := inFlight_update o.batch w [] e
    simp only [List.count_nil,release] at *
    omega
  | giveBack w =>
    obtain rfl := step_giveBack h
    have hu := inFlight_update o.batch w [] e
    simp only [List.count_append,List.count_nil,release] at *
    omega

structure Lawful (o : Outbox ε ω) : Prop where
  sound : o.Sound
  balanced : o.Balanced
  placed : o.Placed

theorem lawful_empty : (empty ε ω).Lawful := ⟨sound_empty,balanced_empty,placed_empty⟩

theorem lawful_step [DecidableEq ω] {o o' : Outbox ε ω} {a : Act ε ω} (hl : o.Lawful)
    (h : o.step a = some o') : o'.Lawful :=
  ⟨sound_step hl.sound h,balanced_step hl.balanced h,placed_step hl.placed h⟩

section Laws

variable {o : Outbox ε ω}

/-- Nothing is lost: an entry waits, or is in somebody's batch, or is written. -/
theorem no_loss (hl : o.Lawful) {e : ε} (he : e ∈ o.pushed) :
    e ∈ o.buffer ∨ (∃ w, e ∈ o.batch w) ∨ e ∈ o.written := by
  have hp := List.count_pos_iff.mpr he
  have h := hl.balanced e
  by_cases hbuf : e ∈ o.buffer
  · exact .inl hbuf
  by_cases hwr : e ∈ o.written
  · exact .inr (.inr hwr)
  rw [List.count_eq_zero_of_not_mem hbuf,List.count_eq_zero_of_not_mem hwr] at h
  have hne : inFlight o.rest e ≠ 0 := by omega
  obtain ⟨w,-,hw⟩ := Finset.exists_ne_zero_of_sum_ne_zero hne
  have hmem : e ∈ o.rest w := List.count_pos_iff.mp (Nat.pos_of_ne_zero hw)
  exact .inr (.inl ⟨w,List.mem_of_mem_drop hmem⟩)

/-- Nothing is written twice as long as nothing written was given back. -/
theorem written_count_le (hl : o.Lawful) (hr : o.repeated = []) (hp : o.pushed.Nodup) (e : ε) :
    o.written.count e ≤ 1 := by
  have h := hl.balanced e
  have hle := List.nodup_iff_count_le_one.mp hp e
  simp only [hr,List.count_nil] at h
  omega

/-- Once nothing waits and nothing is in flight, every entry given back after it had
been written is written at least twice. -/
theorem written_twice (hl : o.Lawful) (hbuf : o.buffer = []) (hidle : ∀ w, o.batch w = [])
    {e : ε} (hr : e ∈ o.repeated) : 2 ≤ o.written.count e := by
  have h := hl.balanced e
  have hz : inFlight o.rest e = 0 := by simp [inFlight,rest,hidle]
  have h1 := List.count_pos_iff.mpr hr
  have h2 := List.count_pos_iff.mpr (hl.sound.repeated_pushed e hr)
  simp only [hbuf,hz,List.count_nil] at h
  omega

theorem batch_only (hl : o.Lawful) (hp : o.pushed.Nodup) {w : ω} {e : ε} (he : e ∈ o.batch w) :
    (o.batch w).count e = 1 ∧ ∀ v, v ≠ w → e ∉ o.batch v := by
  have hle := List.nodup_iff_count_le_one.mp hp e
  have hplaced := hl.placed e
  have hpos := List.count_pos_iff.mpr he
  have hone : (o.batch w).count e ≤ inFlight o.batch e :=
    Finset.single_le_sum (f := fun v => (o.batch v).count e) (fun _ _ => Nat.zero_le _)
      (Finset.mem_univ w)
  refine ⟨by omega,?_⟩
  intro v hvw hv
  have hvpos := List.count_pos_iff.mpr hv
  have htwo : (o.batch v).count e + (o.batch w).count e ≤ inFlight o.batch e := by
    classical
    rw [← Finset.sum_pair (f := fun u => (o.batch u).count e) hvw]
    exact Finset.sum_le_sum_of_subset (Finset.subset_univ _)
  omega

theorem batch_not_waiting (hl : o.Lawful) (hp : o.pushed.Nodup) {w : ω} {e : ε}
    (he : e ∈ o.batch w) : e ∉ o.buffer := by
  intro hbuf
  have hle := List.nodup_iff_count_le_one.mp hp e
  have hplaced := hl.placed e
  have hpos := List.count_pos_iff.mpr he
  have hpos' := List.count_pos_iff.mpr hbuf
  have hone : (o.batch w).count e ≤ inFlight o.batch e :=
    Finset.single_le_sum (f := fun v => (o.batch v).count e) (fun _ _ => Nat.zero_le _)
      (Finset.mem_univ w)
  omega

/-- Everything is written exactly if whatever waits or is in a batch is. -/
theorem all_written_iff (hl : o.Lawful) : (∀ e ∈ o.pushed, e ∈ o.written) ↔
    (∀ e ∈ o.buffer, e ∈ o.written) ∧ ∀ w, ∀ e ∈ o.batch w, e ∈ o.written := by
  constructor
  · intro h
    exact ⟨fun e he => h e (hl.sound.buffer_pushed e he),
      fun w e he => h e (hl.sound.batch_pushed w e he)⟩
  · rintro ⟨hbuf,hbatch⟩ e he
    rcases no_loss hl he with h | ⟨w,h⟩ | h
    · exact hbuf e h
    · exact hbatch w e h
    · exact h

end Laws

end Balance

end Outbox
