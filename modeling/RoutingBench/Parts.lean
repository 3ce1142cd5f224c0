import RoutingBench.Runs
set_option autoImplicit false

/-!
Systems made of parts. An action of the system is one of at most one part, and leaves the others as
they are; so a run of the system is, for each part, a run of that part alone. What the parts give
out to the rest of the system is logged beside the run.
-/

namespace Parts
open Runs

variable {κ σ τ α β ω : Type*} [DecidableEq κ] {step : σ → α → Option σ}
  {of : α → Option (κ × β)} {view : κ → σ → τ} {move : τ → β → Option τ} {out : σ → α → Option ω}

def actionsOf (of : α → Option (κ × β)) (k : κ) (as : List α) : List β :=
  as.filterMap fun a => (of a).bind fun own => if own.1 = k then some own.2 else none

theorem actionsOf_cons_own {a : α} {k : κ} {b : β} (h : of a = some (k,b)) (as : List α) :
    actionsOf of k (a :: as) = b :: actionsOf of k as := by
  simp [actionsOf,h]

theorem actionsOf_cons_other {a : α} {k : κ} (h : ∀ b, of a ≠ some (k,b)) (as : List α) :
    actionsOf of k (a :: as) = actionsOf of k as := by
  rw [actionsOf,List.filterMap_cons_none]
  · rfl
  · cases hof : of a with
    | none => rfl
    | some own =>
      obtain ⟨j,b⟩ := own
      have hne : j ≠ k := fun heq => h b (by rw [hof,heq])
      simp [hne]

theorem actionsOf_append (k : κ) (as bs : List α) :
    actionsOf of k (as ++ bs) = actionsOf of k as ++ actionsOf of k bs :=
  List.filterMap_append

/-- `view k s` is part `k` of the state `s`, and `move` a step of a part. -/
structure Composed (step : σ → α → Option σ) (of : α → Option (κ × β)) (view : κ → σ → τ)
    (move : τ → β → Option τ) : Prop where
  own : ∀ s s' a k b, step s a = some s' → of a = some (k,b) →
    move (view k s) b = some (view k s')
  other : ∀ s s' a k, step s a = some s' → (∀ b, of a ≠ some (k,b)) → view k s' = view k s

theorem Composed.run_part (h : Composed step of view move) {s s' : σ} {as : List α}
    (hrun : run step s as = some s') (k : κ) :
    run move (view k s) (actionsOf of k as) = some (view k s') := by
  induction as generalizing s with
  | nil =>
    obtain rfl : s = s' := by simpa using hrun
    rfl
  | cons a as ih =>
    obtain ⟨t,ht,hrest⟩ := run_cons.mp hrun
    by_cases hown : ∃ b, of a = some (k,b)
    · obtain ⟨b,hb⟩ := hown
      rw [actionsOf_cons_own hb]
      exact run_cons.mpr ⟨view k t,h.own s t a k b ht hb,ih hrest⟩
    · rw [actionsOf_cons_other (fun b hb => hown ⟨b,hb⟩),
        ← h.other s t a k ht fun b hb => hown ⟨b,hb⟩]
      exact ih hrest

/-- The system with a log of what its steps give out. -/
def logged (step : σ → α → Option σ) (out : σ → α → Option ω) (s : σ × List ω) (a : α) :
    Option (σ × List ω) :=
  (step s.1 a).map fun s' => (s',s.2 ++ (out s.1 a).toList)

theorem logged_iff {s s' : σ × List ω} {a : α} :
    logged step out s a = some s' ↔
      step s.1 a = some s'.1 ∧ s'.2 = s.2 ++ (out s.1 a).toList := by
  rw [logged,Option.map_eq_some_iff]
  constructor
  · rintro ⟨t,ht,rfl⟩
    exact ⟨ht,rfl⟩
  · intro h
    exact ⟨s'.1,h.1,by rw [← h.2]⟩

theorem run_logged {s s' : σ} {as : List α} (hrun : run step s as = some s') (log : List ω) :
    ∃ log', run (logged step out) (s,log) as = some (s',log') := by
  induction as generalizing s log with
  | nil =>
    obtain rfl : s = s' := by simpa using hrun
    exact ⟨log,rfl⟩
  | cons a as ih =>
    obtain ⟨t,ht,hrest⟩ := run_cons.mp hrun
    obtain ⟨log',hlog⟩ := ih hrest (log ++ (out s a).toList)
    exact ⟨log',run_cons.mpr ⟨_,logged_iff.mpr ⟨ht,rfl⟩,hlog⟩⟩

def outOf (k : κ) (log : List (κ × ω)) : List ω :=
  log.filterMap fun w => if w.1 = k then some w.2 else none

theorem mem_outOf_iff {k : κ} {log : List (κ × ω)} {w : ω} :
    w ∈ outOf k log ↔ (k,w) ∈ log := by
  simp only [outOf,List.mem_filterMap,Option.ite_none_right_eq_some,Option.some.injEq,Prod.exists]
  constructor
  · rintro ⟨j,w',hmem,rfl,rfl⟩
    exact hmem
  · exact fun hmem => ⟨k,w,hmem,rfl,rfl⟩

theorem outOf_append (k : κ) (log log' : List (κ × ω)) :
    outOf k (log ++ log') = outOf k log ++ outOf k log' :=
  List.filterMap_append

end Parts
