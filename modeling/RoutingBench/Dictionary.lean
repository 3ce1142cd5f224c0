import Mathlib.Algebra.BigOperators.Group.List.Basic
import Mathlib.Data.List.Induction
set_option autoImplicit false

/-!
A dictionary that keeps its keys in the order in which they came, filled row by row: what it has
under a key is made of the rows with that key, and what it has under all keys of all rows.
-/

namespace Dictionary

variable {α κ β : Type*} [DecidableEq κ]

/-- Changes what there is under a key, which is `init` if there is nothing. -/
def modify (init : β) (f : β → β) (k : κ) : List (κ × β) → List (κ × β)
  | [] => [(k,f init)]
  | e :: d => if e.1 = k then (e.1,f e.2) :: d else e :: modify init f k d

def collect (init : β) (key : α → κ) (step : β → α → β) (rows : List α) : List (κ × β) :=
  rows.foldl (fun d a => modify init (fun v => step v a) (key a) d) []

section Modify

variable {init v : β} {f : β → β} {j k : κ} {d : List (κ × β)}

theorem keys_modify : (modify init f k d).map Prod.fst =
    if k ∈ d.map Prod.fst then d.map Prod.fst else d.map Prod.fst ++ [k] := by
  induction d with
  | nil => simp [modify]
  | cons e d ih =>
    rw [modify]
    by_cases h : e.1 = k
    · simp [h]
    · rw [if_neg h,List.map_cons,ih,List.map_cons]
      by_cases hk : k ∈ d.map Prod.fst
      · rw [if_pos hk,if_pos (List.mem_cons_of_mem _ hk)]
      · have hno : k ∉ e.1 :: d.map Prod.fst := by
          rw [List.mem_cons]
          exact fun hor => hor.elim (fun heq => h heq.symm) hk
        rw [if_neg hk,if_neg hno,List.cons_append]

theorem nodup_modify (h : (d.map Prod.fst).Nodup) :
    ((modify init f k d).map Prod.fst).Nodup := by
  rw [keys_modify]
  split
  case isTrue => exact h
  case isFalse hk => exact List.nodup_append.mpr ⟨h,by simp,fun a ha b hb => by
    obtain rfl := List.mem_singleton.mp hb
    exact fun heq => hk (heq ▸ ha)⟩

theorem mem_modify_of_ne (h : j ≠ k) : (j,v) ∈ modify init f k d ↔ (j,v) ∈ d := by
  induction d with
  | nil => simp [modify,h]
  | cons e d ih =>
    rw [modify]
    by_cases he : e.1 = k
    · have hno : ∀ u : β, (j,v) ≠ (e.1,u) := fun u heq => h ((congrArg Prod.fst heq).trans he)
      have hne : (j,v) ≠ e := hno e.2
      simp [he,h,hne]
    · simp [he,ih]

theorem mem_modify_self (hd : (d.map Prod.fst).Nodup) : (k,v) ∈ modify init f k d ↔
    (∃ u, (k,u) ∈ d ∧ v = f u) ∨ (k ∉ d.map Prod.fst ∧ v = f init) := by
  induction d with
  | nil => simp [modify]
  | cons e d ih =>
    obtain ⟨i,u⟩ := e
    rw [List.map_cons,List.nodup_cons] at hd
    rw [modify]
    by_cases he : i = k
    · subst he
      have hno : ∀ v, (i,v) ∉ d := fun v hv => hd.1 (List.mem_map.mpr ⟨_,hv,rfl⟩)
      simp [hno]
    · have hki : k ≠ i := Ne.symm he
      simp only [if_neg he,List.mem_cons,Prod.mk.injEq,hki,false_and,false_or,ih hd.2,
        List.map_cons]

/-- What the entries weigh together grows by what the change adds to one of them. -/
theorem sum_modify {M : Type*} [AddCommMonoid M] {weight : β → M} {c : M}
    (hinit : weight init = 0) (hf : ∀ v, weight (f v) = weight v + c) :
    ((modify init f k d).map fun e => weight e.2).sum = (d.map fun e => weight e.2).sum + c := by
  induction d with
  | nil => simp [modify,hf,hinit]
  | cons e d ih =>
    rw [modify]
    split
    · simp [hf,add_right_comm]
    · simp [ih,add_assoc]

end Modify

variable {init : β} {key : α → κ} {step : β → α → β}

theorem collect_snoc (rows : List α) (a : α) : collect init key step (rows ++ [a]) =
    modify init (fun v => step v a) (key a) (collect init key step rows) := List.foldl_concat ..

theorem mem_keys_collect {rows : List α} {k : κ} :
    k ∈ (collect init key step rows).map Prod.fst ↔ ∃ a ∈ rows, key a = k := by
  induction rows using List.reverseRecOn with
  | nil => simp [collect]
  | append_singleton rows a ih =>
    rw [collect_snoc,keys_modify]
    have hsnoc : (∃ b ∈ rows ++ [a], key b = k) ↔ (∃ b ∈ rows, key b = k) ∨ key a = k := by
      simp [or_and_right,exists_or]
    split
    case isTrue ha =>
      rw [hsnoc,ih,iff_self_or]
      rintro rfl
      exact ih.mp ha
    case isFalse =>
      rw [List.mem_append,List.mem_singleton,hsnoc,ih,eq_comm (a := k)]

theorem nodup_collect (rows : List α) : ((collect init key step rows).map Prod.fst).Nodup := by
  induction rows using List.reverseRecOn with
  | nil => exact List.nodup_nil
  | append_singleton rows a ih =>
    rw [collect_snoc]
    exact nodup_modify ih

theorem mem_collect {rows : List α} {k : κ} {v : β} : (k,v) ∈ collect init key step rows ↔
    (∃ a ∈ rows, key a = k) ∧ v = (rows.filter fun a => key a = k).foldl step init := by
  induction rows using List.reverseRecOn generalizing v with
  | nil => simp [collect]
  | append_singleton rows a ih =>
    rw [collect_snoc]
    by_cases ha : key a = k
    · subst ha
      rw [mem_modify_self (nodup_collect rows)]
      have hfilter : (rows ++ [a]).filter (fun b => key b = key a) =
          rows.filter (fun b => key b = key a) ++ [a] := by simp
      rw [hfilter,List.foldl_concat]
      simp only [ih,mem_keys_collect]
      constructor
      · rintro (⟨u,⟨-,rfl⟩,rfl⟩ | ⟨hno,rfl⟩)
        · exact ⟨⟨a,by simp,rfl⟩,rfl⟩
        · refine ⟨⟨a,by simp,rfl⟩,?_⟩
          have hnil : rows.filter (fun b => key b = key a) = [] :=
            List.filter_eq_nil_iff.mpr fun b hb heq => hno ⟨b,hb,by simpa using heq⟩
          rw [hnil,List.foldl_nil]
      · rintro ⟨-,rfl⟩
        by_cases hold : ∃ b ∈ rows, key b = key a
        · exact .inl ⟨_,⟨hold,rfl⟩,rfl⟩
        · refine .inr ⟨hold,?_⟩
          have hnil : rows.filter (fun b => key b = key a) = [] :=
            List.filter_eq_nil_iff.mpr fun b hb heq => hold ⟨b,hb,by simpa using heq⟩
          rw [hnil,List.foldl_nil]
    · rw [mem_modify_of_ne (Ne.symm ha),ih]
      simp [ha,or_and_right,exists_or]

/-- What is under all keys weighs what the rows weigh. -/
theorem sum_collect {M : Type*} [AddCommMonoid M] (weight : β → M) (share : α → M)
    (hinit : weight init = 0) (hstep : ∀ v a, weight (step v a) = weight v + share a)
    (rows : List α) :
    ((collect init key step rows).map fun e => weight e.2).sum = (rows.map share).sum := by
  induction rows using List.reverseRecOn with
  | nil => rfl
  | append_singleton rows a ih =>
    rw [collect_snoc,sum_modify hinit (fun v => hstep v a),ih]
    simp

end Dictionary
