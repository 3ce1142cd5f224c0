import Mathlib.Data.List.Basic
set_option autoImplicit false

/-!
Programs of a shell with errexit. Whether a command that fails ends the script depends on where it
stands. It does not in a condition, before `&&` or `||`, under `!`, nor anywhere in a function that
is called there, nor in a command substitution, in which the option is off.
-/

namespace Errexit

/-- What a program prints, and its exit status. -/
structure Answer where
  status : Nat
  output : String
  deriving DecidableEq, Repr

abbrev Call (κ : Type) := κ × Answer

def failed {κ : Type} (c : Call κ) : Bool := c.2.status ≠ 0

/-- The programs outside of the script, which answer by all that was called before, and the clock:
how often a loop goes round before its deadline. -/
structure World (κ : Type) where
  answer : List (Call κ) → κ → Answer
  passes : List (Call κ) → Nat

structure Shell (σ κ : Type) where
  vars : σ
  calls : List (Call κ)

/-- How a command ends: with a status, with `return` or `continue`, or with the script. -/
inductive Flow where
  | done (ok : Bool)
  | returned (ok : Bool)
  | continued
  | exited
  deriving DecidableEq, Repr

inductive Cmd (σ κ : Type) where
  | builtin (f : σ → σ × Bool)
  | external (program : σ → κ) (store : Answer → σ → σ)
  | seq (a b : Cmd σ κ)
  | and (a b : Cmd σ κ)
  | or (a b : Cmd σ κ)
  | not (a : Cmd σ κ)
  | cond (c a b : Cmd σ κ)
  /-- The body works on a copy of the variables; what is stored is read off the copy. -/
  | subst (body : Cmd σ κ) (store : σ → σ → σ)
  | call (body : Cmd σ κ)
  | ret (ok : Bool)
  | next
  | forLoop (times : Nat) (body : Nat → Cmd σ κ)
  | waitLoop (body : Cmd σ κ)

variable {σ κ τ : Type}

def Flow.ok : Flow → Bool
  | done ok => ok
  | returned ok => ok
  | _ => true

def Flow.exits : Flow → Bool
  | exited => true
  | _ => false

/-- A simple command that fails ends the script if errexit is in force. -/
def finish (e ok : Bool) : Flow := if e && !ok then .exited else .done ok

/-- The rounds of a loop, with the status of the last one. -/
@[simp] def iterate (body : Nat → Shell σ κ → Flow × Shell σ κ) :
    Nat → Nat → Bool → Shell σ κ → Flow × Shell σ κ
  | 0, _, ok, s => (.done ok,s)
  | n + 1, i, _, s =>
    match body i s with
    | (.done ok,s') => iterate body n (i + 1) ok s'
    | (.continued,s') => iterate body n (i + 1) true s'
    | stop => stop

section Iterate

variable {b : Nat → Shell σ κ → Flow × Shell σ κ} {n i : Nat} {ok last : Bool} {s t : Shell σ κ}

theorem iterate_done (h : b i s = (.done last,t)) :
    iterate b (n + 1) i ok s = iterate b n (i + 1) last t := by
  rw [iterate,h]

theorem iterate_continued (h : b i s = (.continued,t)) :
    iterate b (n + 1) i ok s = iterate b n (i + 1) true t := by
  rw [iterate,h]

theorem iterate_returned (h : b i s = (.returned last,t)) :
    iterate b (n + 1) i ok s = (.returned last,t) := by
  rw [iterate,h]

theorem iterate_exited (h : (b i s).1 = .exited) : (iterate b (n + 1) i ok s).1 = .exited := by
  have heq : b i s = (.exited,(b i s).2) := Prod.ext h rfl
  rw [iterate,heq]

theorem iterate_runs (h : (iterate b (n + 1) i ok s).1.exits = false) :
    (b i s).1.exits = false := by
  rcases hround : b i s with ⟨flow,t⟩
  cases flow with
  | exited =>
    rw [iterate,hround] at h
    exact h
  | _ => rfl

theorem iterate_goes {flow : Flow} (h : b i s = (flow,t))
    (hflow : flow = .continued ∨ ∃ ok, flow = .done ok) (ok : Bool) :
    ∃ last, iterate b (n + 1) i ok s = iterate b n (i + 1) last t := by
  rcases hflow with rfl | ⟨last,rfl⟩
  · exact ⟨true,iterate_continued h⟩
  · exact ⟨last,iterate_done h⟩

/-- A round that leaves everything as it is. -/
def Passes (r : Flow × Shell σ κ) (s : Shell σ κ) : Prop :=
  (∃ ok, r = (.done ok,s)) ∨ r = (.continued,s)

theorem iterate_of_passes (h : Passes (b i s) s) (ok : Bool) :
    ∃ last, iterate b (n + 1) i ok s = iterate b n (i + 1) last s := by
  rcases h with ⟨last,hround⟩ | hround
  · exact ⟨last,iterate_done hround⟩
  · exact ⟨true,iterate_continued hround⟩

theorem iterate_pass (h : ∀ j, i ≤ j → j < i + n → Passes (b j s) s) (ok : Bool) :
    ∃ last, iterate b n i ok s = (.done last,s) := by
  induction n generalizing i ok with
  | zero => exact ⟨ok,rfl⟩
  | succ n ih =>
    obtain ⟨last,hround⟩ := iterate_of_passes (n := n) (h i (Nat.le_refl i) (by omega)) ok
    rw [hround]
    exact ih (fun j hi hj => h j (by omega) (by omega)) last

theorem iterate_exits {k : Nat} (hi : i ≤ k) (hk : k < i + n) (hexit : (b k s).1 = .exited)
    (h : ∀ j, i ≤ j → j < k → Passes (b j s) s ∨ (b j s).1 = .exited) (ok : Bool) :
    (iterate b n i ok s).1 = .exited := by
  induction n generalizing i ok with
  | zero => omega
  | succ n ih =>
    have hround : Passes (b i s) s ∨ (b i s).1 = .exited := by
      rcases Nat.eq_or_lt_of_le hi with rfl | hlt
      · exact Or.inr hexit
      · exact h i (Nat.le_refl i) hlt
    rcases hround with hpasses | hstop
    · have hne : i ≠ k := by
        rintro rfl
        rcases hpasses with ⟨last,heq⟩ | heq <;> rw [heq] at hexit <;> contradiction
      obtain ⟨last,hrest⟩ := iterate_of_passes (n := n) hpasses ok
      rw [hrest]
      exact ih (by omega) (by omega) (fun j hj => h j (by omega)) last
    · exact iterate_exited hstop

/-- A loop over an array, whose rounds do not fail. -/
theorem iterate_array {α : Type} {f : α → Shell σ κ → Shell σ κ} {array : List α}
    (h : ∀ j a, array[j]? = some a → ∀ t, ∃ ok, b (i + j) t = (.done ok,f a t)) (ok : Bool)
    (s : Shell σ κ) : ∃ last, iterate b array.length i ok s =
      (.done last,array.foldl (fun t a => f a t) s) := by
  induction array generalizing i ok s with
  | nil => exact ⟨ok,rfl⟩
  | cons a array ih =>
    obtain ⟨last,hround⟩ := h 0 a rfl s
    rw [Nat.add_zero] at hround
    rw [List.length_cons,iterate_done hround,List.foldl_cons]
    refine ih (fun j a' hj t => ?_) last (f a s)
    have hnext := h (j + 1) a' hj t
    rwa [Nat.add_comm j 1,← Nat.add_assoc] at hnext

end Iterate

/-- What follows a command that ends with a status. -/
@[simp] def andThen (r : Flow × Shell σ κ) (rest : Bool → Shell σ κ → Flow × Shell σ κ) :
    Flow × Shell σ κ :=
  match r with
  | (.done ok,s) => rest ok s
  | stop => stop

theorem iterate_append (b : Nat → Shell σ κ → Flow × Shell σ κ) (m n i : Nat) (ok : Bool)
    (s : Shell σ κ) : iterate b (m + n) i ok s =
      andThen (iterate b m i ok s) fun ok t => iterate b n (i + m) ok t := by
  induction m generalizing i ok s with
  | zero => rw [Nat.zero_add]; rfl
  | succ m ih =>
    have hindex : i + 1 + m = i + (m + 1) := by omega
    rw [Nat.succ_add,iterate,iterate]
    rcases b i s with ⟨flow,t⟩
    cases flow with
    | done ok => simp only [ih,hindex]
    | continued => simp only [ih,hindex]
    | _ => rfl

/-- A function call ends with the status of the function. -/
@[simp] def leave (e : Bool) : Flow → Flow
  | .done ok => finish e ok
  | .returned ok => finish e ok
  | flow => flow

/-- A command run with errexit in force or not. -/
@[simp] def Cmd.eval (w : World κ) : Cmd σ κ → Bool → Shell σ κ → Flow × Shell σ κ
  | .builtin f, e, s => (finish e (f s.vars).2,{ s with vars := (f s.vars).1 })
  | .external program store, e, s =>
    let a := w.answer s.calls (program s.vars)
    (finish e (a.status = 0),⟨store a s.vars,s.calls ++ [(program s.vars,a)]⟩)
  | .seq a b, e, s => andThen (a.eval w e s) fun _ s' => b.eval w e s'
  | .and a b, e, s =>
    andThen (a.eval w false s) fun ok s' => if ok then b.eval w e s' else (.done false,s')
  | .or a b, e, s =>
    andThen (a.eval w false s) fun ok s' => if ok then (.done true,s') else b.eval w e s'
  | .not a, _, s => andThen (a.eval w false s) fun ok s' => (.done !ok,s')
  | .cond c a b, e, s =>
    andThen (c.eval w false s) fun ok s' => if ok then a.eval w e s' else b.eval w e s'
  | .subst body store, e, s =>
    let r := body.eval w false s
    (finish e r.1.ok,⟨store r.2.vars s.vars,r.2.calls⟩)
  | .call body, e, s =>
    let r := body.eval w e s
    (leave e r.1,r.2)
  | .ret ok, _, s => (.returned ok,s)
  | .next, _, s => (.continued,s)
  | .forLoop times body, e, s => iterate (fun i => (body i).eval w e) times 0 true s
  | .waitLoop body, e, s => iterate (fun _ => body.eval w e) (w.passes s.calls) 0 true s

@[simp] theorem finish_ok (e : Bool) : finish e true = .done true := by
  cases e <;> rfl

@[simp] theorem finish_unchecked (ok : Bool) : finish false ok = .done ok := rfl

@[simp] theorem finish_exits (e ok : Bool) : (finish e ok).exits = (e && !ok) := by
  cases e <;> cases ok <;> rfl

theorem leave_exits (e : Bool) {flow : Flow} (h : flow.exits = false) :
    (leave e flow).exits = (e && !flow.ok) := by
  cases flow with
  | done ok => exact finish_exits e ok
  | returned ok => exact finish_exits e ok
  | continued => exact (Bool.and_false e).symm
  | exited => contradiction

section Sequence

variable {w : World κ} {a b c : Cmd σ κ} {e ok : Bool} {flow : Flow} {s t : Shell σ κ}

theorem seq_done (h : a.eval w e s = (.done ok,t)) :
    (Cmd.seq a b).eval w e s = b.eval w e t := by
  rw [Cmd.eval,h]
  rfl

theorem seq_stop (h : a.eval w e s = (flow,t)) (hstop : ∀ ok, flow ≠ .done ok) :
    (Cmd.seq a b).eval w e s = (flow,t) := by
  rw [Cmd.eval,h]
  cases flow with
  | done ok => exact absurd rfl (hstop ok)
  | _ => rfl

theorem seq_exited (h : (a.eval w e s).1 = .exited) : ((Cmd.seq a b).eval w e s).1 = .exited := by
  have heq : a.eval w e s = (.exited,(a.eval w e s).2) := Prod.ext h rfl
  rw [seq_stop heq (by simp)]

theorem seq_runs (h : ((Cmd.seq a b).eval w e s).1.exits = false) :
    (a.eval w e s).1.exits = false := by
  rcases heval : a.eval w e s with ⟨flow,t⟩
  cases flow with
  | exited =>
    rw [seq_stop heval (by simp)] at h
    exact h
  | _ => rfl

section Loops

variable {n : Nat} {body : Nat → Cmd σ κ}

theorem forLoop_pass (h : ∀ j < n, Passes ((body j).eval w e s) s) :
    ∃ last, (Cmd.forLoop n body).eval w e s = (.done last,s) :=
  iterate_pass (fun j _ hj => h j (by omega)) true

theorem forLoop_exits {k : Nat} (hk : k < n) (hexit : ((body k).eval w e s).1 = .exited)
    (h : ∀ j < k, Passes ((body j).eval w e s) s ∨ ((body j).eval w e s).1 = .exited) :
    ((Cmd.forLoop n body).eval w e s).1 = .exited :=
  iterate_exits (Nat.zero_le k) (by omega) hexit (fun j _ hj => h j hj) true

theorem forLoop_succ {ok : Bool} (h : (Cmd.forLoop n body).eval w e s = (.done ok,t)) :
    (Cmd.forLoop (n + 1) body).eval w e s =
      iterate (fun i => (body i).eval w e) 1 n ok t := by
  rw [Cmd.eval] at h ⊢
  rw [iterate_append,h,Nat.zero_add]
  rfl

theorem forLoop_runs {m : Nat} (hm : m ≤ n)
    (h : ((Cmd.forLoop n body).eval w e s).1.exits = false) :
    ((Cmd.forLoop m body).eval w e s).1.exits = false := by
  obtain ⟨k,rfl⟩ := Nat.le.dest hm
  rw [Cmd.eval,iterate_append] at h
  rw [Cmd.eval]
  rcases hflow : iterate (fun i => (body i).eval w e) m 0 true s with ⟨flow,t⟩
  rw [hflow] at h
  cases flow with
  | exited => exact h
  | _ => rfl

theorem forLoop_array {α : Type} {f : α → Shell σ κ → Shell σ κ} {array : List α}
    (h : ∀ j a, array[j]? = some a → ∀ t, ∃ ok, (body j).eval w e t = (.done ok,f a t)) :
    ∃ last, (Cmd.forLoop array.length body).eval w e s =
      (.done last,array.foldl (fun t a => f a t) s) :=
  iterate_array (fun j a hj t => by rw [Nat.zero_add]; exact h j a hj t) true s

end Loops

theorem not_done (h : a.eval w false s = (.done ok,t)) :
    (Cmd.not a).eval w e s = (.done !ok,t) := by
  rw [Cmd.eval,h]
  rfl

theorem cond_done (h : c.eval w false s = (.done ok,t)) :
    (Cmd.cond c a b).eval w e s = if ok then a.eval w e t else b.eval w e t := by
  rw [Cmd.eval,h]
  rfl

end Sequence

section Rules

variable {w : World κ} {R : Shell σ κ → Bool → Shell σ κ → Prop}

theorem andThen_rule (htrans : ∀ s x t u, R s false t → R t x u → R s x u) {s : Shell σ κ}
    {r : Flow × Shell σ κ} {rest : Bool → Shell σ κ → Flow × Shell σ κ}
    (hfirst : R s r.1.exits r.2) (hrest : ∀ ok t, R t (rest ok t).1.exits (rest ok t).2) :
    R s (andThen r rest).1.exits (andThen r rest).2 := by
  obtain ⟨flow,t⟩ := r
  cases flow with
  | done ok => exact htrans _ _ _ _ hfirst (hrest ok t)
  | _ => exact hfirst

theorem iterate_rule (hrefl : ∀ s, R s false s)
    (htrans : ∀ s x t u, R s false t → R t x u → R s x u)
    {body : Nat → Shell σ κ → Flow × Shell σ κ}
    (hbody : ∀ i s, R s (body i s).1.exits (body i s).2) (n i : Nat) (ok : Bool) (s : Shell σ κ) :
    R s (iterate body n i ok s).1.exits (iterate body n i ok s).2 := by
  induction n generalizing i ok s with
  | zero => exact hrefl s
  | succ n ih =>
    have hround := hbody i s
    rw [iterate]
    rcases hflow : body i s with ⟨flow,s'⟩
    rw [hflow] at hround
    cases flow with
    | done ok => exact htrans _ _ _ _ hround (ih (i + 1) ok s')
    | continued => exact htrans _ _ _ _ hround (ih (i + 1) true s')
    | returned ok => exact hround
    | exited => exact hround

theorem iterate_flow {Q : Flow → Prop} (hdone : ∀ ok, Q (.done ok))
    {b : Nat → Shell σ κ → Flow × Shell σ κ}
    (hbody : ∀ i s, (b i s).1 = .continued ∨ Q (b i s).1) (n i : Nat) (ok : Bool)
    (s : Shell σ κ) : Q (iterate b n i ok s).1 := by
  induction n generalizing i ok s with
  | zero => exact hdone ok
  | succ n ih =>
    have hround := hbody i s
    rw [iterate]
    rcases hflow : b i s with ⟨flow,s'⟩
    rw [hflow] at hround
    cases flow with
    | done ok => exact ih (i + 1) ok s'
    | continued => exact ih (i + 1) true s'
    | _ => exact hround.resolve_left (by simp)

/-- A relation between the states before and after a command, and whether the script has ended, is
respected by the simple commands of a program, each in the mode it is run in. -/
@[simp] def Cmd.Respects (w : World κ) (R : Shell σ κ → Bool → Shell σ κ → Prop) :
    Cmd σ κ → Bool → Prop
  | .builtin f, e => ∀ s, R s (e && !(f s.vars).2) { s with vars := (f s.vars).1 }
  | .external program store, e => ∀ s,
    let a := w.answer s.calls (program s.vars)
    R s (e && a.status ≠ 0) ⟨store a s.vars,s.calls ++ [(program s.vars,a)]⟩
  | .seq a b, e => a.Respects w R e ∧ b.Respects w R e
  | .and a b, e => a.Respects w R false ∧ b.Respects w R e
  | .or a b, e => a.Respects w R false ∧ b.Respects w R e
  | .not a, _ => a.Respects w R false
  | .cond c a b, e => c.Respects w R false ∧ a.Respects w R e ∧ b.Respects w R e
  | .subst body store, e => body.Respects w R false ∧ ∀ s,
    let r := body.eval w false s
    R s r.1.exits r.2 → R s (e && !r.1.ok) ⟨store r.2.vars s.vars,r.2.calls⟩
  | .call body, e => body.Respects w R e ∧ ∀ s,
    let r := body.eval w e s
    R s false r.2 → R s (e && !r.1.ok) r.2
  | .ret _, _ => True
  | .next, _ => True
  | .forLoop _ body, e => ∀ i, (body i).Respects w R e
  | .waitLoop body, e => body.Respects w R e

/-- What the simple commands respect, the program does. -/
theorem respects_eval (hrefl : ∀ s, R s false s)
    (htrans : ∀ s x t u, R s false t → R t x u → R s x u) (p : Cmd σ κ) : ∀ e,
    p.Respects w R e → ∀ s, R s (p.eval w e s).1.exits (p.eval w e s).2 := by
  induction p with
  | builtin f =>
    intro e h s
    rw [Cmd.eval,finish_exits]
    exact h s
  | external program store =>
    intro e h s
    have hs := h s
    simp only [Cmd.eval,finish_exits,← decide_not]
    exact hs
  | seq a b iha ihb =>
    intro e ⟨ha,hb⟩ s
    exact andThen_rule htrans (iha e ha s) fun _ t => ihb e hb t
  | and a b iha ihb =>
    intro e ⟨ha,hb⟩ s
    refine andThen_rule htrans (iha false ha s) fun ok t => ?_
    cases ok with
    | true => exact ihb e hb t
    | false => exact hrefl t
  | or a b iha ihb =>
    intro e ⟨ha,hb⟩ s
    refine andThen_rule htrans (iha false ha s) fun ok t => ?_
    cases ok with
    | true => exact hrefl t
    | false => exact ihb e hb t
  | not a iha =>
    intro e ha s
    exact andThen_rule htrans (iha false ha s) fun _ t => hrefl t
  | cond c a b ihc iha ihb =>
    intro e ⟨hc,ha,hb⟩ s
    refine andThen_rule htrans (ihc false hc s) fun ok t => ?_
    cases ok with
    | true => exact iha e ha t
    | false => exact ihb e hb t
  | subst body store ih =>
    intro e ⟨hbody,hstore⟩ s
    have hs := hstore s (ih false hbody s)
    simp only [Cmd.eval,finish_exits]
    exact hs
  | call body ih =>
    intro e ⟨hbody,hcall⟩ s
    have hs := ih e hbody s
    cases hexits : (body.eval w e s).1.exits with
    | false =>
      rw [hexits] at hs
      simp only [Cmd.eval,leave_exits e hexits]
      exact hcall s hs
    | true =>
      have hflow : (body.eval w e s).1 = .exited := by
        cases hflow : (body.eval w e s).1 <;> rw [hflow] at hexits <;> first | rfl | contradiction
      rw [hflow] at hs
      simp only [Cmd.eval,hflow]
      exact hs
  | ret ok => exact fun _ _ s => hrefl s
  | next => exact fun _ _ s => hrefl s
  | forLoop times body ih =>
    exact fun e h s => iterate_rule hrefl htrans (fun i t => ih i e (h i) t) _ _ _ s
  | waitLoop body ih =>
    exact fun e h s => iterate_rule hrefl htrans (fun _ t => ih e h t) _ _ _ s

theorem respects_unchecked (p : Cmd σ κ) : p.Respects w (fun _ x _ => x = false) false := by
  induction p with
  | builtin f => exact fun _ => rfl
  | external program store => exact fun _ => rfl
  | seq a b iha ihb => exact ⟨iha,ihb⟩
  | and a b iha ihb => exact ⟨iha,ihb⟩
  | or a b iha ihb => exact ⟨iha,ihb⟩
  | not a iha => exact iha
  | cond c a b ihc iha ihb => exact ⟨ihc,iha,ihb⟩
  | subst body store ih => exact ⟨ih,fun _ _ => rfl⟩
  | call body ih => exact ⟨ih,fun _ _ => rfl⟩
  | ret ok => trivial
  | next => trivial
  | forLoop times body ih => exact ih
  | waitLoop body ih => exact ih

theorem eval_unchecked (p : Cmd σ κ) (s : Shell σ κ) : (p.eval w false s).1.exits = false :=
  respects_eval (R := fun _ x _ => x = false) (fun _ => rfl) (fun _ _ _ _ _ h => h) p false
    (respects_unchecked p) s

/-- How a command ends, if it is not with a status or with the script, is in `Q`. -/
@[simp] def Cmd.Ends : Cmd σ κ → (Flow → Prop) → Prop
  | .seq a b, Q => a.Ends Q ∧ b.Ends Q
  | .and a b, Q => a.Ends Q ∧ b.Ends Q
  | .or a b, Q => a.Ends Q ∧ b.Ends Q
  | .not a, Q => a.Ends Q
  | .cond c a b, Q => c.Ends Q ∧ a.Ends Q ∧ b.Ends Q
  | .call body, _ => body.Ends fun flow => flow ≠ .continued
  | .ret ok, Q => Q (.returned ok)
  | .next, Q => Q .continued
  | .forLoop _ body, Q => ∀ i, (body i).Ends fun flow => flow = .continued ∨ Q flow
  | .waitLoop body, Q => body.Ends fun flow => flow = .continued ∨ Q flow
  | _, _ => True

theorem andThen_flow {Q : Flow → Prop} {r : Flow × Shell σ κ}
    {rest : Bool → Shell σ κ → Flow × Shell σ κ} (hfirst : Q r.1)
    (hrest : ∀ ok t, Q (rest ok t).1) : Q (andThen r rest).1 := by
  obtain ⟨flow,t⟩ := r
  cases flow with
  | done ok => exact hrest ok t
  | _ => exact hfirst

theorem finish_flow {Q : Flow → Prop} (hdone : ∀ ok, Q (.done ok)) (hexited : Q .exited)
    (e ok : Bool) : Q (finish e ok) := by
  rw [finish]
  split
  · exact hexited
  · exact hdone ok

theorem ends_eval (p : Cmd σ κ) : ∀ {Q : Flow → Prop}, (∀ ok, Q (.done ok)) → Q .exited →
    p.Ends Q → ∀ e s, Q (p.eval w e s).1 := by
  induction p with
  | builtin f => exact fun hdone hexited _ e s => finish_flow hdone hexited e _
  | external program store => exact fun hdone hexited _ e s => finish_flow hdone hexited e _
  | seq a b iha ihb =>
    exact fun hdone hexited h e s => andThen_flow (iha hdone hexited h.1 e s)
      fun _ t => ihb hdone hexited h.2 e t
  | and a b iha ihb =>
    refine fun hdone hexited h e s => andThen_flow (iha hdone hexited h.1 false s) fun ok t => ?_
    cases ok with
    | true => exact ihb hdone hexited h.2 e t
    | false => exact hdone false
  | or a b iha ihb =>
    refine fun hdone hexited h e s => andThen_flow (iha hdone hexited h.1 false s) fun ok t => ?_
    cases ok with
    | true => exact hdone true
    | false => exact ihb hdone hexited h.2 e t
  | not a iha =>
    exact fun hdone hexited h e s => andThen_flow (iha hdone hexited h false s)
      fun ok _ => hdone !ok
  | cond c a b ihc iha ihb =>
    refine fun hdone hexited h e s => andThen_flow (ihc hdone hexited h.1 false s) fun ok t => ?_
    cases ok with
    | true => exact iha hdone hexited h.2.1 e t
    | false => exact ihb hdone hexited h.2.2 e t
  | subst body store ih => exact fun hdone hexited _ e s => finish_flow hdone hexited e _
  | call body ih =>
    intro Q hdone hexited h e s
    have hbody := ih (by simp) (by simp) h e s
    show Q (leave e (body.eval w e s).1)
    cases hflow : (body.eval w e s).1 with
    | done ok => exact finish_flow hdone hexited e ok
    | returned ok => exact finish_flow hdone hexited e ok
    | continued => exact absurd hflow hbody
    | exited => exact hexited
  | ret ok => exact fun _ _ h _ _ => h
  | next => exact fun _ _ h _ _ => h
  | forLoop times body ih =>
    exact fun hdone hexited h e s => iterate_flow hdone
      (fun i t => ih i (fun ok => .inr (hdone ok)) (.inr hexited) (h i) e t) _ _ _ s
  | waitLoop body ih =>
    exact fun hdone hexited h e s => iterate_flow hdone
      (fun _ t => ih (fun ok => .inr (hdone ok)) (.inr hexited) h e t) _ _ _ s

/-- There is no `continue` but in a loop. -/
def Cmd.Closed (p : Cmd σ κ) : Prop := p.Ends fun flow => flow ≠ .continued

theorem call_unchecked {p : Cmd σ κ} (h : p.Closed) (s : Shell σ κ) :
    (Cmd.call p).eval w false s = (.done (p.eval w false s).1.ok,(p.eval w false s).2) := by
  have hclosed := ends_eval (w := w) p (by simp) (by simp) h false s
  have hexits := eval_unchecked (w := w) p s
  rw [Cmd.eval]
  cases hflow : (p.eval w false s).1 with
  | done ok => rfl
  | returned ok => rfl
  | continued => exact absurd hflow hclosed
  | exited => rw [hflow] at hexits; contradiction

/-- There is no `return` and no `continue` but in a function or a loop. -/
def Cmd.Straight (p : Cmd σ κ) : Prop :=
  p.Ends fun flow => flow.exits = false → ∃ ok, flow = .done ok

theorem straight_eval {p : Cmd σ κ} {e : Bool} {s : Shell σ κ} (h : p.Straight)
    (hruns : (p.eval w e s).1.exits = false) :
    ∃ ok, p.eval w e s = (.done ok,(p.eval w e s).2) := by
  obtain ⟨ok,hok⟩ := ends_eval (w := w) p (fun ok _ => ⟨ok,rfl⟩) (fun h => nomatch h) h e s hruns
  exact ⟨ok,Prod.ext hok rfl⟩

/-- The script ends where a critical call fails, and nowhere else. -/
def ExitsOn (critical : κ → Bool) (s : Shell σ κ) (x : Bool) (t : Shell σ κ) : Prop :=
  ∃ made, t.calls = s.calls ++ made ∧
    (x = true ↔ ∃ c ∈ made, critical c.1 = true ∧ failed c = true)

/-- The critical programs are those that are called where errexit is in force, and where it is
nothing else fails: no builtin, no command substitution and no function call. -/
@[simp] def Cmd.Guarded (w : World κ) (critical : κ → Bool) : Cmd σ κ → Bool → Prop
  | .builtin f, e => e = true → ∀ v, (f v).2 = true
  | .external program _, e => ∀ v, critical (program v) = e
  | .seq a b, e => a.Guarded w critical e ∧ b.Guarded w critical e
  | .and a b, e => a.Guarded w critical false ∧ b.Guarded w critical e
  | .or a b, e => a.Guarded w critical false ∧ b.Guarded w critical e
  | .not a, _ => a.Guarded w critical false
  | .cond c a b, e =>
    c.Guarded w critical false ∧ a.Guarded w critical e ∧ b.Guarded w critical e
  | .subst body _, e => body.Guarded w critical false ∧
    (e = true → ∀ s, (body.eval w false s).1.ok = true)
  | .call body, e => body.Guarded w critical e ∧
    (e = true → ∀ s, (body.eval w true s).1.ok = true)
  | .ret _, _ => True
  | .next, _ => True
  | .forLoop _ body, e => ∀ i, (body i).Guarded w critical e
  | .waitLoop body, e => body.Guarded w critical e

theorem guarded_respects {critical : κ → Bool} (p : Cmd σ κ) :
    ∀ e, p.Guarded w critical e → p.Respects w (ExitsOn critical) e := by
  induction p with
  | builtin f =>
    intro e h s
    refine ⟨[],(List.append_nil _).symm,?_⟩
    cases e with
    | false => simp
    | true => simp [h rfl]
  | external program store =>
    intro e h s
    have hcritical : critical (program s.vars) = e := h s.vars
    exact ⟨_,rfl,by simp [hcritical,failed]⟩
  | seq a b iha ihb => exact fun e h => ⟨iha e h.1,ihb e h.2⟩
  | and a b iha ihb => exact fun e h => ⟨iha false h.1,ihb e h.2⟩
  | or a b iha ihb => exact fun e h => ⟨iha false h.1,ihb e h.2⟩
  | not a iha => exact fun _ h => iha false h
  | cond c a b ihc iha ihb => exact fun e h => ⟨ihc false h.1,iha e h.2.1,ihb e h.2.2⟩
  | subst body store ih =>
    refine fun e h => ⟨ih false h.1,fun s hs => ?_⟩
    obtain ⟨made,hmade,hiff⟩ := hs
    refine ⟨made,hmade,?_⟩
    rw [eval_unchecked] at hiff
    cases e with
    | false => exact hiff
    | true =>
      rw [h.2 rfl s]
      exact hiff
  | call body ih =>
    refine fun e h => ⟨ih e h.1,fun s hs => ?_⟩
    cases e with
    | false => exact hs
    | true =>
      rw [h.2 rfl s]
      exact hs
  | ret ok => exact fun _ _ => trivial
  | next => exact fun _ _ => trivial
  | forLoop times body ih => exact fun e h i => ih i e (h i)
  | waitLoop body ih => exact ih

theorem exits_iff {critical : κ → Bool} {p : Cmd σ κ} {e : Bool} (h : p.Guarded w critical e)
    (s : Shell σ κ) : ExitsOn critical s (p.eval w e s).1.exits (p.eval w e s).2 := by
  refine respects_eval (fun s => ⟨[],(List.append_nil _).symm,by simp⟩) ?_ p e
    (guarded_respects p e h) s
  intro s x t u ⟨before,hbefore,hnone⟩ ⟨made,hmade,hiff⟩
  refine ⟨before ++ made,by rw [hmade,hbefore,List.append_assoc],?_⟩
  have hclean : ¬ ∃ c ∈ before, critical c.1 = true ∧ failed c = true :=
    fun hex => Bool.false_ne_true (hnone.mpr hex)
  rw [hiff]
  simp only [List.mem_append,or_and_right,exists_or]
  exact ⟨.inr,fun hex => hex.resolve_left hclean⟩

/-- A command makes only such calls, and leaves a part of the variables alone. -/
def Frame (P : κ → Prop) (keep : σ → τ) (s : Shell σ κ) (_ : Bool) (t : Shell σ κ) : Prop :=
  keep t.vars = keep s.vars ∧ ∃ made, t.calls = s.calls ++ made ∧ ∀ c ∈ made, P c.1

@[simp] def Cmd.Frames (P : κ → Prop) (keep : σ → τ) : Cmd σ κ → Prop
  | .builtin f => ∀ v, keep (f v).1 = keep v
  | .external program store => ∀ v, P (program v) ∧ ∀ a, keep (store a v) = keep v
  | .seq a b => a.Frames P keep ∧ b.Frames P keep
  | .and a b => a.Frames P keep ∧ b.Frames P keep
  | .or a b => a.Frames P keep ∧ b.Frames P keep
  | .not a => a.Frames P keep
  | .cond c a b => c.Frames P keep ∧ a.Frames P keep ∧ b.Frames P keep
  | .subst body store => body.Frames P keep ∧ ∀ v v', keep (store v' v) = keep v
  | .call body => body.Frames P keep
  | .ret _ => True
  | .next => True
  | .forLoop _ body => ∀ i, (body i).Frames P keep
  | .waitLoop body => body.Frames P keep

theorem frames_respects {P : κ → Prop} {keep : σ → τ} (p : Cmd σ κ) (h : p.Frames P keep) :
    ∀ e, p.Respects w (Frame P keep) e := by
  induction p with
  | builtin f => exact fun _ s => ⟨h s.vars,[],(List.append_nil _).symm,by simp⟩
  | external program store =>
    exact fun _ s => ⟨(h s.vars).2 _,_,rfl,by simpa using (h s.vars).1⟩
  | seq a b iha ihb => exact fun e => ⟨iha h.1 e,ihb h.2 e⟩
  | and a b iha ihb => exact fun e => ⟨iha h.1 false,ihb h.2 e⟩
  | or a b iha ihb => exact fun e => ⟨iha h.1 false,ihb h.2 e⟩
  | not a iha => exact fun _ => iha h false
  | cond c a b ihc iha ihb => exact fun e => ⟨ihc h.1 false,iha h.2.1 e,ihb h.2.2 e⟩
  | subst body store ih => exact fun e => ⟨ih h.1 false,fun s hs => ⟨h.2 _ _,hs.2⟩⟩
  | call body ih => exact fun e => ⟨ih h e,fun _ hs => hs⟩
  | ret ok => exact fun _ => trivial
  | next => exact fun _ => trivial
  | forLoop times body ih => exact fun e i => ih i (h i) e
  | waitLoop body ih => exact ih h

theorem frame_eval {P : κ → Prop} {keep : σ → τ} {p : Cmd σ κ} (h : p.Frames P keep) (e : Bool)
    (s : Shell σ κ) : Frame P keep s (p.eval w e s).1.exits (p.eval w e s).2 := by
  refine respects_eval (fun s => ⟨rfl,[],(List.append_nil _).symm,by simp⟩) ?_ p e
    (frames_respects p h e) s
  intro s x t u ⟨hkeep,before,hbefore,hP⟩ ⟨hkeep',made,hmade,hP'⟩
  refine ⟨hkeep'.trans hkeep,before ++ made,by rw [hmade,hbefore,List.append_assoc],?_⟩
  intro c hc
  rcases List.mem_append.mp hc with hc | hc
  · exact hP c hc
  · exact hP' c hc

end Rules

end Errexit
