import RoutingBench.Errexit
set_option autoImplicit false

/-!
Preconditions and postconditions of shell programs. What is promised of a command depends on how
it ends: with a status, or with `return`. Of a script that has ended nothing is promised.
-/

namespace Errexit

variable {σ κ τ : Type}

/-- `Q` where a command ends with a status, and `R` where it returns. -/
def Post (Q R : Bool → Shell σ κ → Prop) : Flow × Shell σ κ → Prop
  | (.done ok,t) => Q ok t
  | (.returned ok,t) => R ok t
  | (.continued,_) => False
  | (.exited,_) => True

def Triple (w : World κ) (e : Bool) (P : Shell σ κ → Prop) (p : Cmd σ κ)
    (Q R : Bool → Shell σ κ → Prop) : Prop := ∀ s, P s → Post Q R (p.eval w e s)

section Rules

variable {w : World κ} {e : Bool} {P P' A B : Shell σ κ → Prop} {Q Q' R R' : Bool → Shell σ κ → Prop}
  {p a b c : Cmd σ κ}

theorem Post.mono (hQ : ∀ ok t, Q ok t → Q' ok t) (hR : ∀ ok t, R ok t → R' ok t)
    {r : Flow × Shell σ κ} (h : Post Q R r) : Post Q' R' r := by
  obtain ⟨flow,t⟩ := r
  cases flow with
  | done ok => exact hQ ok t h
  | returned ok => exact hR ok t h
  | continued => exact h
  | exited => exact h

theorem Triple.conseq (h : Triple w e P p Q R) (hP : ∀ s, P' s → P s)
    (hQ : ∀ ok t, Q ok t → Q' ok t) (hR : ∀ ok t, R ok t → R' ok t) : Triple w e P' p Q' R' :=
  fun s hs => (h s (hP s hs)).mono hQ hR

theorem post_andThen {r : Flow × Shell σ κ} {rest : Bool → Shell σ κ → Flow × Shell σ κ}
    (hfirst : Post Q' R r) (hrest : ∀ ok t, Q' ok t → Post Q R (rest ok t)) :
    Post Q R (andThen r rest) := by
  obtain ⟨flow,t⟩ := r
  cases flow with
  | done ok => exact hrest ok t hfirst
  | returned ok => exact hfirst
  | continued => exact hfirst
  | exited => exact hfirst

theorem post_finish {ok : Bool} {t : Shell σ κ} (h : (e && !ok) = false → Q ok t) :
    Post Q R (finish e ok,t) := by
  rw [finish]
  split
  next => trivial
  next hruns => exact h (Bool.eq_false_iff.mpr hruns)

theorem triple_builtin {f : σ → σ × Bool}
    (h : ∀ s, P s → Q (f s.vars).2 { s with vars := (f s.vars).1 }) :
    Triple w e P (.builtin f) Q R := fun s hs => post_finish fun _ => h s hs

theorem triple_external {program : σ → κ} {store : Answer → σ → σ}
    (h : ∀ s, P s → ∀ a, a = w.answer s.calls (program s.vars) → (e = true → a.status = 0) →
      Q (a.status = 0) ⟨store a s.vars,s.calls ++ [(program s.vars,a)]⟩) :
    Triple w e P (.external program store) Q R := by
  intro s hs
  refine post_finish fun hruns => h s hs _ rfl fun he => ?_
  subst he
  simpa using hruns

theorem triple_seq (ha : Triple w e P a (fun _ => A) R) (hb : Triple w e A b Q R) :
    Triple w e P (.seq a b) Q R :=
  fun s hs => post_andThen (ha s hs) fun _ t ht => hb t ht

theorem triple_and (ha : Triple w false P a (fun ok t => if ok then A t else Q false t) R)
    (hb : Triple w e A b Q R) : Triple w e P (.and a b) Q R := by
  refine fun s hs => post_andThen (ha s hs) fun ok t ht => ?_
  cases ok with
  | true => exact hb t ht
  | false => exact ht

theorem triple_or (ha : Triple w false P a (fun ok t => if ok then Q true t else A t) R)
    (hb : Triple w e A b Q R) : Triple w e P (.or a b) Q R := by
  refine fun s hs => post_andThen (ha s hs) fun ok t ht => ?_
  cases ok with
  | true => exact ht
  | false => exact hb t ht

theorem triple_not (h : Triple w false P a (fun ok => Q !ok) R) : Triple w e P (.not a) Q R :=
  fun s hs => post_andThen (h s hs) fun _ _ ht => ht

theorem triple_cond (hc : Triple w false P c (fun ok t => if ok then A t else B t) R)
    (ha : Triple w e A a Q R) (hb : Triple w e B b Q R) : Triple w e P (.cond c a b) Q R := by
  refine fun s hs => post_andThen (hc s hs) fun ok t ht => ?_
  cases ok with
  | true => exact ha t ht
  | false => exact hb t ht

theorem triple_ret {ok : Bool} (h : ∀ s, P s → R ok s) : Triple w e P (.ret ok) Q R := h

theorem triple_call (h : Triple w e P p Q Q) : Triple w e P (.call p) Q R := by
  intro s hs
  have hbody := h s hs
  rw [Cmd.eval]
  cases hflow : p.eval w e s with
  | mk flow t =>
    rw [hflow] at hbody
    cases flow with
    | done ok => exact post_finish fun _ => hbody
    | returned ok => exact post_finish fun _ => hbody
    | continued => exact hbody
    | exited => trivial

/-- An invariant that counts the rounds. -/
theorem triple_forLoop {n : Nat} {body : Nat → Cmd σ κ} {I : Nat → Shell σ κ → Prop}
    (h : ∀ i < n, Triple w e (I i) (body i) (fun _ => I (i+1)) R) :
    Triple w e (I 0) (.forLoop n body) (fun _ => I n) R := by
  have hrounds : ∀ m i ok s, i + m = n → I i s →
      Post (fun _ => I n) R (iterate (fun i => (body i).eval w e) m i ok s) := by
    intro m
    induction m with
    | zero =>
      rintro i ok s rfl hs
      exact hs
    | succ m ih =>
      intro i ok s hn hs
      have hround := h i (by omega) s hs
      rw [iterate]
      cases hflow : (body i).eval w e s with
      | mk flow t =>
        rw [hflow] at hround
        cases flow with
        | done last => exact ih (i + 1) last t (by omega) hround
        | returned last => exact hround
        | continued => exact hround.elim
        | exited => trivial
  exact fun s hs => hrounds n 0 true s (Nat.zero_add n) hs

/-- What holds of the part of the state that a command leaves alone still holds after it. -/
theorem triple_frame {K : κ → Prop} {keep : σ → τ} (hframes : p.Frames K keep) (hclosed : p.Closed)
    (hP : ∀ s t x, P s → Frame K keep s x t → P t) : Triple w e P p (fun _ => P) (fun _ => P) := by
  intro s hs
  have hframe := hP s _ _ hs (frame_eval (w := w) hframes e s)
  have hflow := ends_eval (w := w) p (by simp) (by simp) hclosed e s
  cases heval : p.eval w e s with
  | mk flow t =>
    rw [heval] at hframe hflow
    cases flow with
    | done ok => exact hframe
    | returned ok => exact hframe
    | continued => exact absurd rfl hflow
    | exited => trivial

end Rules

end Errexit
