import Mathlib.Data.List.Induction
set_option autoImplicit false

/-!
Runs of a partial step function: `step s a = none` says that action `a` is not
enabled in state `s`. A condition on a run is a condition on each of its steps,
stated of the state the step starts from and of the action it takes.
-/

namespace Runs

variable {σ α : Type*} (step : σ → α → Option σ)

def run : σ → List α → Option σ
  | s, [] => some s
  | s, a :: as => (step s a).bind fun s' => run s' as

/-- `P` holds at every step the run takes. -/
def Along (P : σ → α → Prop) : σ → List α → Prop
  | _, [] => True
  | s, a :: as => P s a ∧
      match step s a with
      | some s' => Along P s' as
      | none => True

instance decidableAlong (P : σ → α → Prop) [∀ s a, Decidable (P s a)] :
    (s : σ) → (as : List α) → Decidable (Along step P s as)
  | _, [] => .isTrue trivial
  | s, a :: as => by
    unfold Along
    cases step s a with
    | none => infer_instance
    | some s' =>
      have := decidableAlong P s' as
      infer_instance

variable {step}

@[simp] theorem run_nil (s : σ) : run step s [] = some s := rfl

theorem run_cons {s s' : σ} {a : α} {as : List α} :
    run step s (a :: as) = some s' ↔ ∃ t, step s a = some t ∧ run step t as = some s' := by
  simp [run,Option.bind_eq_some_iff]

theorem run_append (s : σ) (as bs : List α) :
    run step s (as ++ bs) = (run step s as).bind fun t => run step t bs := by
  induction as generalizing s with
  | nil => rfl
  | cons a as ih =>
    cases h : step s a with
    | none => simp [run,h]
    | some t => simp [run,h,ih]

theorem run_append_some {s s' : σ} {as bs : List α} :
    run step s (as ++ bs) = some s' ↔
      ∃ t, run step s as = some t ∧ run step t bs = some s' := by
  rw [run_append,Option.bind_eq_some_iff]

theorem run_snoc {s s' : σ} {as : List α} {a : α} :
    run step s (as ++ [a]) = some s' ↔
      ∃ t, run step s as = some t ∧ step t a = some s' := by
  rw [run_append_some]
  simp [run_cons]

theorem along_cons {P : σ → α → Prop} {s t : σ} {a : α} {as : List α}
    (h : step s a = some t) :
    Along step P s (a :: as) ↔ P s a ∧ Along step P t as := by
  simp [Along,h]

theorem along_append {P : σ → α → Prop} {s t : σ} {as bs : List α}
    (h : run step s as = some t) :
    Along step P s (as ++ bs) ↔ Along step P s as ∧ Along step P t bs := by
  induction as generalizing s with
  | nil =>
    obtain rfl : s = t := by simpa using h
    simp [Along]
  | cons a as ih =>
    obtain ⟨u,hu,hr⟩ := run_cons.mp h
    rw [List.cons_append,along_cons hu,along_cons hu,ih hr,and_assoc]

theorem along_mono {P Q : σ → α → Prop} (hPQ : ∀ s a, P s a → Q s a) {s : σ}
    {as : List α} (h : Along step P s as) : Along step Q s as := by
  induction as generalizing s with
  | nil => trivial
  | cons a as ih =>
    refine ⟨hPQ s a h.1,?_⟩
    have hrest := h.2
    cases hs : step s a with
    | none => trivial
    | some t =>
      rw [hs] at hrest
      exact ih hrest

theorem along_of_forall {P : σ → α → Prop} (h : ∀ s a, P s a) (s : σ) (as : List α) :
    Along step P s as := by
  induction as generalizing s with
  | nil => trivial
  | cons a as ih =>
    refine ⟨h s a,?_⟩
    cases step s a with
    | none => trivial
    | some t => exact ih t

/-- An invariant that may speak of the actions taken so far. -/
theorem history {P : σ → α → Prop} {I : List α → σ → Prop} {s₀ : σ} (hinit : I [] s₀)
    (hstep : ∀ as s a s', I as s → P s a → step s a = some s' → I (as ++ [a]) s')
    {as : List α} {s : σ} (hP : Along step P s₀ as) (hrun : run step s₀ as = some s) :
    I as s := by
  induction as using List.reverseRecOn generalizing s with
  | nil =>
    obtain rfl : s₀ = s := by simpa using hrun
    exact hinit
  | append_singleton as a ih =>
    obtain ⟨t,ht,hs⟩ := run_snoc.mp hrun
    have hp := (along_append ht).mp hP
    exact hstep as t a s (ih hp.1 ht) hp.2.1 hs

/-- What every step of a conditioned run preserves holds where the run ends. -/
theorem invariant {P : σ → α → Prop} {I : σ → Prop}
    (hstep : ∀ s a s', I s → P s a → step s a = some s' → I s')
    {s₀ s : σ} {as : List α} (hinit : I s₀) (hP : Along step P s₀ as)
    (hrun : run step s₀ as = some s) : I s :=
  history (I := fun _ => I) hinit (fun _ s a s' => hstep s a s') hP hrun

/-- The same for a run without a condition. -/
theorem reachable {I : σ → Prop} (hstep : ∀ s a s', I s → step s a = some s' → I s')
    {s₀ s : σ} {as : List α} (hinit : I s₀) (hrun : run step s₀ as = some s) : I s :=
  invariant (P := fun _ _ => True) (fun s a s' hi _ => hstep s a s' hi) hinit
    (along_of_forall (fun _ _ => trivial) _ _) hrun

/-- A condition along a run is one at every place where the run can be cut. -/
theorem along_iff {P : σ → α → Prop} {s₀ s : σ} {as : List α} (hrun : run step s₀ as = some s) :
    Along step P s₀ as ↔
      ∀ pre a post t, as = pre ++ a :: post → run step s₀ pre = some t → P t a := by
  constructor
  · intro hP pre a post t has ht
    subst has
    exact ((along_append ht).mp hP).2.1
  · intro h
    induction as generalizing s₀ with
    | nil => trivial
    | cons a as ih =>
      obtain ⟨t,ht,hrest⟩ := run_cons.mp hrun
      refine ⟨h [] a as s₀ rfl rfl,?_⟩
      rw [ht]
      refine ih hrest fun pre b post u has hu => ?_
      exact h (a :: pre) b post u (by rw [has]; rfl) (run_cons.mpr ⟨t,ht,hu⟩)

/-- If a step keeps `I` exactly under the condition `P`, then `I` holds in every state of a
run exactly if every step of it meets `P`; `J` is what holds in every run. -/
theorem always_iff_along {P : σ → α → Prop} {I J : σ → Prop}
    (hJ : ∀ s a s', J s → step s a = some s' → J s')
    (hstep : ∀ s a s', J s → I s → step s a = some s' → (I s' ↔ P s a))
    {s₀ s : σ} {as : List α} (hJ₀ : J s₀) (hI₀ : I s₀) (hrun : run step s₀ as = some s) :
    (∀ pre post t, as = pre ++ post → run step s₀ pre = some t → I t) ↔
      Along step P s₀ as := by
  constructor
  · intro h
    refine (along_iff hrun).mpr ?_
    intro pre a post t has ht
    obtain ⟨u,hu,hpost⟩ := run_append_some.mp (has ▸ hrun)
    obtain rfl : t = u := Option.some.inj (ht.symm.trans hu)
    obtain ⟨t',hstep',-⟩ := run_cons.mp hpost
    have hI' := h (pre ++ [a]) post t' (by simp [has]) (run_snoc.mpr ⟨t,ht,hstep'⟩)
    exact (hstep t a t' (reachable hJ hJ₀ ht) (h pre (a :: post) t has ht) hstep').mp hI'
  · intro hP pre post t has ht
    rw [has,along_append ht] at hP
    refine (invariant (I := fun s => J s ∧ I s) ?_ ⟨hJ₀,hI₀⟩ hP.1 ht).2
    intro s a s' hs hp hs'
    exact ⟨hJ s a s' hs.1 hs',(hstep s a s' hs.1 hs.2 hs').mpr hp⟩

theorem along_of_mem {Q : α → Prop} {as : List α} (h : ∀ a ∈ as, Q a) (s : σ) :
    Along step (fun _ a => Q a) s as := by
  induction as generalizing s with
  | nil => trivial
  | cons a as ih =>
    refine ⟨h a List.mem_cons_self,?_⟩
    cases step s a with
    | none => trivial
    | some t => exact ih (fun b hb => h b (List.mem_cons_of_mem a hb)) t

/-- If `I` holds after a step exactly if it held before and the step meets `P`, then it holds
where a run ends exactly if it held where it began and every step meets `P`. -/
theorem holds_iff_along {P Q : σ → α → Prop} {I J : σ → Prop}
    (hJ : ∀ s a s', J s → Q s a → step s a = some s' → J s')
    (hstep : ∀ s a s', J s → Q s a → step s a = some s' → (I s' ↔ I s ∧ P s a))
    {s₀ s : σ} {as : List α} (hJ₀ : J s₀) (hQ : Along step Q s₀ as)
    (hrun : run step s₀ as = some s) : I s ↔ I s₀ ∧ Along step P s₀ as := by
  induction as generalizing s₀ with
  | nil =>
    obtain rfl : s₀ = s := by simpa using hrun
    simp [Along]
  | cons a as ih =>
    obtain ⟨t,ht,hrest⟩ := run_cons.mp hrun
    have hq := (along_cons ht).mp hQ
    rw [along_cons ht,ih (hJ s₀ a t hJ₀ hq.1 ht) hq.2 hrest,hstep s₀ a t hJ₀ hq.1 ht,and_assoc]

section Total

/-! A step that is always enabled. -/

variable {f : σ → α → σ}

theorem run_total (s : σ) (as : List α) :
    run (fun s a => some (f s a)) s as = some (as.foldl f s) := by
  induction as generalizing s with
  | nil => rfl
  | cons a as ih => simp [run,ih]

/-- `always_iff_along` for such a step, with the places of the run written out. -/
theorem always_foldl_iff {P : σ → α → Prop} {I : σ → Prop}
    (hstep : ∀ s a, I s → (I (f s a) ↔ P s a)) {s₀ : σ} (hI₀ : I s₀) (as : List α) :
    (∀ pre post, as = pre ++ post → I (pre.foldl f s₀)) ↔
      ∀ pre a post, as = pre ++ a :: post → P (pre.foldl f s₀) a := by
  have hrun := run_total (f := f) s₀ as
  have hiff := always_iff_along (J := fun _ => True) (P := P) (I := I) (fun _ _ _ _ _ => trivial)
    (fun s a s' _ hI hs => by
      obtain rfl : f s a = s' := Option.some.inj hs
      exact hstep s a hI) trivial hI₀ hrun
  rw [along_iff hrun] at hiff
  simpa [run_total] using hiff

end Total

section Since

/-- `w` has happened, and `c` not since. -/
def Since (w c : α) (as : List α) : Prop := ∃ front back, as = front ++ w :: back ∧ c ∉ back

variable {w c a : α} {as : List α}

theorem not_since_nil : ¬ Since w c [] := by
  rintro ⟨front,back,h,-⟩
  simp at h

theorem since_snoc : Since w c (as ++ [a]) ↔ a = w ∨ Since w c as ∧ a ≠ c := by
  constructor
  · rintro ⟨front,back,h,hc⟩
    rcases List.eq_nil_or_concat back with rfl | ⟨back,b,rfl⟩
    · exact .inl (List.singleton_inj.mp (List.append_inj' h rfl).2)
    · rw [List.concat_eq_append,← List.cons_append,← List.append_assoc] at h
      rw [List.concat_eq_append] at hc
      obtain ⟨rfl,hb⟩ := List.append_inj' h rfl
      obtain rfl : a = b := by simpa using hb
      simp only [List.mem_append,List.mem_singleton,not_or] at hc
      exact .inr ⟨⟨front,back,rfl,hc.1⟩,fun h => hc.2 h.symm⟩
  · rintro (rfl | ⟨⟨front,back,rfl,hc⟩,ha⟩)
    · exact ⟨as,[],rfl,List.not_mem_nil⟩
    · refine ⟨front,back ++ [a],by simp,?_⟩
      simp only [List.mem_append,List.mem_singleton,not_or]
      exact ⟨hc,fun h => ha h.symm⟩

/-- Of two things one of which has happened, one was the last. -/
theorem not_since_iff (hne : w ≠ c) (hmem : c ∈ as) : ¬ Since w c as ↔ Since c w as := by
  induction as using List.reverseRecOn with
  | nil => simp at hmem
  | append_singleton as a ih =>
    rw [since_snoc,since_snoc]
    by_cases hw : a = w
    · simp [hw,hne]
    by_cases hc : a = c
    · simp [hc,Ne.symm hne]
    · have hmem' : c ∈ as := by
        rcases List.mem_append.mp hmem with h | h
        · exact h
        · exact absurd (List.mem_singleton.mp h).symm hc
      simpa [hw,hc] using ih hmem'

end Since

end Runs
