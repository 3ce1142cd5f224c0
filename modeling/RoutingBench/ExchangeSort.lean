import Mathlib.Data.List.Nodup
import Mathlib.Data.List.Perm.Subperm
import Mathlib.Logic.Equiv.Basic
import Mathlib.Order.Interval.Set.Basic
set_option autoImplicit false

/-!
The exchange sort of an array whose indices begin with 1: every place is compared with all places
after it, and two values in the wrong order are exchanged at once.
-/

namespace ExchangeSort

variable {α : Type*} [LinearOrder α]

/-- `if (vals[i] > vals[j]) { t = vals[i]; vals[i] = vals[j]; vals[j] = t }` -/
def exchange (i : ℕ) (vals : ℕ → α) (j : ℕ) : ℕ → α :=
  if vals j < vals i then Function.update (Function.update vals i (vals j)) j (vals i) else vals

/-- The inner loop: `i` is compared with the `m` places after it. -/
def pass (i m : ℕ) (vals : ℕ → α) : ℕ → α := (List.range' (i + 1) m).foldl (exchange i) vals

def sort (n : ℕ) (vals : ℕ → α) : ℕ → α :=
  (List.range' 1 n).foldl (fun vals i => pass i (n - i) vals) vals

def values (n : ℕ) (vals : ℕ → α) : List α := (List.range' 1 n).map vals

/-- The values at the places from `lo` to `hi` are the same ones in another order. -/
def Rearranged (lo hi : ℕ) (vals vals' : ℕ → α) : Prop :=
  ∃ σ : Equiv.Perm ℕ, vals' = vals ∘ σ ∧ ∀ k ∉ Set.Icc lo hi, σ k = k

section Rearranged

omit [LinearOrder α]

variable {vals vals' vals'' : ℕ → α} {lo hi lo' hi' : ℕ} {σ : Equiv.Perm ℕ}

theorem Rearranged.refl (lo hi : ℕ) (vals : ℕ → α) : Rearranged lo hi vals vals :=
  ⟨Equiv.refl ℕ,rfl,fun _ _ => rfl⟩

theorem Rearranged.trans (h : Rearranged lo hi vals vals') (h' : Rearranged lo hi vals' vals'') :
    Rearranged lo hi vals vals'' := by
  obtain ⟨σ,rfl,hσ⟩ := h
  obtain ⟨τ,rfl,hτ⟩ := h'
  refine ⟨τ.trans σ,rfl,fun k hk => ?_⟩
  rw [Equiv.trans_apply,hτ k hk,hσ k hk]

theorem Rearranged.mono (h : Rearranged lo hi vals vals') (hlo : lo' ≤ lo) (hhi : hi ≤ hi') :
    Rearranged lo' hi' vals vals' := by
  obtain ⟨σ,rfl,hσ⟩ := h
  exact ⟨σ,rfl,fun k hk => hσ k fun hmem => hk ⟨hlo.trans hmem.1,hmem.2.trans hhi⟩⟩

theorem mem_of_fixes (hσ : ∀ k ∉ Set.Icc lo hi, σ k = k) {k : ℕ} (hk : k ∈ Set.Icc lo hi) :
    σ k ∈ Set.Icc lo hi := by
  by_contra hout
  have hfix : σ k = k := σ.injective (hσ _ hout)
  rw [hfix] at hout
  exact hout hk

theorem Rearranged.le_of_le [LE α] (h : Rearranged lo hi vals vals') {a : ℕ} (ha : a < lo)
    (hle : ∀ j, a < j → j ≤ hi → vals a ≤ vals j) : ∀ j, a < j → j ≤ hi → vals' a ≤ vals' j := by
  obtain ⟨σ,rfl,hσ⟩ := h
  intro j haj hj
  have hfix : σ a = a := hσ a fun hmem => absurd hmem.1 (not_le.mpr ha)
  rw [Function.comp_apply,Function.comp_apply,hfix]
  by_cases hmem : j ∈ Set.Icc lo hi
  · obtain ⟨hlo,hhi⟩ := mem_of_fixes hσ hmem
    exact hle _ (ha.trans_le hlo) hhi
  · rw [hσ j hmem]
    exact hle j haj hj

theorem Rearranged.perm {n : ℕ} (h : Rearranged 1 n vals vals') :
    (values n vals').Perm (values n vals) := by
  obtain ⟨σ,rfl,hσ⟩ := h
  have hnodup : ((List.range' 1 n).map σ).Nodup := (List.nodup_range' 1).map σ.injective
  have hsubset : (List.range' 1 n).map σ ⊆ List.range' 1 n := by
    intro k hk
    obtain ⟨place,hplace,rfl⟩ := List.mem_map.mp hk
    rw [List.mem_range'_1] at hplace ⊢
    obtain ⟨hlo,hhi⟩ := mem_of_fixes hσ (⟨hplace.1,by omega⟩ : place ∈ Set.Icc 1 n)
    exact ⟨hlo,by omega⟩
  have hplaces : ((List.range' 1 n).map σ).Perm (List.range' 1 n) :=
    (List.subperm_of_subset hnodup hsubset).perm_of_length_le (by rw [List.length_map])
  rw [values,values,← List.map_map]
  exact hplaces.map vals

end Rearranged

section Exchange

variable {vals : ℕ → α} {i j k : ℕ}

theorem exchange_eq (i : ℕ) (vals : ℕ → α) (j : ℕ) :
    exchange i vals j = vals ∨ exchange i vals j = vals ∘ Equiv.swap i j := by
  rw [exchange]
  split
  · right
    funext k
    by_cases hj : k = j
    · simp [hj]
    · by_cases hi : k = i
      · subst hi
        simp [hj]
      · simp [hi,hj,Equiv.swap_apply_of_ne_of_ne hi hj]
  · exact Or.inl rfl

theorem exchange_other (hi : k ≠ i) (hj : k ≠ j) : exchange i vals j k = vals k := by
  rcases exchange_eq i vals j with h | h <;> rw [h]
  rw [Function.comp_apply,Equiv.swap_apply_of_ne_of_ne hi hj]

theorem exchange_le (i : ℕ) (vals : ℕ → α) (j : ℕ) :
    exchange i vals j i ≤ vals i ∧ exchange i vals j i ≤ exchange i vals j j := by
  rcases eq_or_ne i j with rfl | hne
  · rcases exchange_eq i vals i with h | h <;> simp [h]
  · rw [exchange]
    split
    next hlt => simp [hne,hlt.le]
    next hle => exact ⟨le_rfl,not_lt.mp hle⟩

theorem exchange_rearranged (hj : i < j) : Rearranged i j vals (exchange i vals j) := by
  rcases exchange_eq i vals j with h | h <;> rw [h]
  · exact Rearranged.refl i j vals
  · refine ⟨Equiv.swap i j,rfl,fun k hk => Equiv.swap_apply_of_ne_of_ne ?_ ?_⟩
    · rintro rfl
      exact hk ⟨le_rfl,hj.le⟩
    · rintro rfl
      exact hk ⟨hj.le,le_rfl⟩

end Exchange

section Pass

variable {vals : ℕ → α} {i m n : ℕ}

theorem pass_succ (i m : ℕ) (vals : ℕ → α) :
    pass i (m + 1) vals = exchange i (pass i m vals) (i + 1 + m) := by
  rw [pass,List.range'_concat,List.foldl_concat,Nat.one_mul]
  rfl

theorem pass_rearranged (i m : ℕ) (vals : ℕ → α) : Rearranged i (i + m) vals (pass i m vals) := by
  induction m with
  | zero => exact Rearranged.refl i (i + 0) vals
  | succ m ih =>
    rw [pass_succ]
    exact (ih.mono le_rfl (by omega)).trans
      ((exchange_rearranged (by omega)).mono le_rfl (by omega))

theorem pass_le (i m : ℕ) (vals : ℕ → α) :
    ∀ j, i < j → j ≤ i + m → pass i m vals i ≤ pass i m vals j := by
  induction m with
  | zero => intro j hij hj; omega
  | succ m ih =>
    intro j hij hj
    rw [pass_succ]
    obtain ⟨hlower,hbelow⟩ := exchange_le i (pass i m vals) (i + 1 + m)
    rcases eq_or_ne j (i + 1 + m) with rfl | hne
    · exact hbelow
    · rw [exchange_other (ne_of_gt hij) hne]
      exact hlower.trans (ih j hij (by omega))

def passes (n k : ℕ) (vals : ℕ → α) : ℕ → α :=
  (List.range' 1 k).foldl (fun vals i => pass i (n - i) vals) vals

theorem passes_succ (n k : ℕ) (vals : ℕ → α) :
    passes n (k + 1) vals = pass (1 + k) (n - (1 + k)) (passes n k vals) := by
  rw [passes,List.range'_concat,List.foldl_concat,Nat.one_mul]
  rfl

theorem passes_rearranged {k : ℕ} (hk : k ≤ n) (vals : ℕ → α) :
    Rearranged 1 n vals (passes n k vals) := by
  induction k with
  | zero => exact Rearranged.refl 1 n vals
  | succ k ih =>
    rw [passes_succ]
    exact (ih (by omega)).trans ((pass_rearranged _ _ _).mono (by omega) (by omega))

/-- Every place that had its pass has a value that is not above those after it, and later passes
leave it so. -/
theorem passes_le {k : ℕ} (hk : k ≤ n) (vals : ℕ → α) : ∀ a, 1 ≤ a → a ≤ k →
    ∀ j, a < j → j ≤ n → passes n k vals a ≤ passes n k vals j := by
  induction k with
  | zero => intro a ha hak; omega
  | succ k ih =>
    intro a ha hak
    rw [passes_succ]
    have hend : 1 + k + (n - (1 + k)) = n := by omega
    have hpass := pass_rearranged (1 + k) (n - (1 + k)) (passes n k vals)
    rw [hend] at hpass
    rcases Nat.lt_or_ge a (1 + k) with hlt | hge
    · exact hpass.le_of_le hlt (ih (by omega) a ha (by omega))
    · obtain rfl : a = 1 + k := by omega
      intro j haj hj
      exact pass_le _ _ _ j haj (by omega)

theorem sort_perm (n : ℕ) (vals : ℕ → α) : (values n (sort n vals)).Perm (values n vals) :=
  (passes_rearranged le_rfl vals).perm

theorem sort_le {vals : ℕ → α} {i j : ℕ} (hi : 1 ≤ i) (hij : i ≤ j) (hj : j ≤ n) :
    sort n vals i ≤ sort n vals j := by
  rcases hij.eq_or_lt with rfl | hlt
  · exact le_rfl
  · exact passes_le le_rfl vals i hi (hij.trans hj) j hlt hj

theorem sort_pairwise (n : ℕ) (vals : ℕ → α) : (values n (sort n vals)).Pairwise (· ≤ ·) := by
  rw [values,List.pairwise_map]
  refine (List.pairwise_lt_range' 1).imp_of_mem fun {a b} ha hb hab => ?_
  rw [List.mem_range'_1] at ha hb
  exact sort_le ha.1 hab.le (by omega)

theorem mem_values_iff {vals : ℕ → α} {v : α} :
    v ∈ values n vals ↔ ∃ k, 1 ≤ k ∧ k ≤ n ∧ sort n vals k = v := by
  rw [← (sort_perm n vals).mem_iff,values,List.mem_map]
  refine exists_congr fun k => ?_
  rw [List.mem_range'_1,and_assoc,Nat.lt_one_add_iff]

end Pass

end ExchangeSort
