import Mathlib.Data.List.Nodup
import Mathlib.Data.List.ReduceOption
import Mathlib.Logic.Function.Basic
set_option autoImplicit false

/-!
Pairing by position. Rows take the items of a pool one after the other, each row from the pool
of its key, and the question is when every row gets the item that is its own.
-/

namespace Pairing

variable {α κ ι ρ : Type*}

/-- Rows with their items: a row takes the first item of its pool that no row before it took. -/
def assign [DecidableEq κ] (key : α → κ) (pools : κ → List ι) :
    (κ → Nat) → List α → List (α × Option ι)
  | _,[] => []
  | counter,row :: rows =>
    (row,(pools (key row))[counter (key row)]?) ::
      assign key pools (Function.update counter (key row) (counter (key row) + 1)) rows

/-- Every position of the first list that is there names the item of the second one. -/
def Matched (own : List (Option ι)) (items : List ι) : Prop :=
  ∀ (k : Nat) (o : Option ι), own[k]? = some o → items[k]? = o

@[simp] theorem matched_nil (items : List ι) : Matched [] items := by
  simp [Matched]

@[simp] theorem matched_cons {o : Option ι} {own : List (Option ι)} {items : List ι} :
    Matched (o :: own) items ↔ items[0]? = o ∧ Matched own items.tail := by
  constructor
  · intro h
    refine ⟨h 0 o rfl,fun k o' hk => ?_⟩
    rw [List.getElem?_tail]
    exact h (k + 1) o' hk
  · intro h k o' hk
    cases k with
    | zero =>
      obtain rfl := Option.some.inj hk
      exact h.1
    | succ k =>
      rw [← List.getElem?_tail]
      exact h.2 k o' hk

theorem exists_assigned [DecidableEq κ] {key : α → κ} {pools : κ → List ι} {counter : κ → Nat}
    {rows : List α} {k : κ} (h : ∃ row ∈ rows, key row = k) :
    ∃ p ∈ assign key pools counter rows, key p.1 = k ∧ p.2 = (pools k)[counter k]? := by
  induction rows generalizing counter with
  | nil => simp at h
  | cons row rows ih =>
    by_cases hkey : key row = k
    · exact ⟨_,List.mem_cons_self,hkey,by rw [hkey]⟩
    · obtain ⟨r,hr,hrk⟩ := h
      have hr' : r ∈ rows := (List.mem_cons.mp hr).resolve_left fun heq => hkey (heq ▸ hrk)
      obtain ⟨p,hp,hpk,hitem⟩ := @ih (Function.update counter (key row) _) ⟨r,hr',hrk⟩
      rw [Function.update_of_ne (Ne.symm hkey)] at hitem
      exact ⟨p,List.mem_cons_of_mem _ hp,hpk,hitem⟩

theorem mem_of_assigned [DecidableEq κ] {key : α → κ} {pools : κ → List ι} {counter : κ → Nat}
    {rows : List α} {p : α × Option ι} (hp : p ∈ assign key pools counter rows) :
    p.1 ∈ rows ∧ ∀ i, p.2 = some i → i ∈ pools (key p.1) := by
  induction rows generalizing counter with
  | nil => simp [assign] at hp
  | cons row rows ih =>
    rcases List.mem_cons.mp hp with rfl | hp
    · exact ⟨List.mem_cons_self,fun i hi => List.mem_of_getElem? hi⟩
    · obtain ⟨hmem,hpool⟩ := ih hp
      exact ⟨List.mem_cons_of_mem _ hmem,hpool⟩

/-- The rows get their own items if and only if those of every key match its pool. -/
theorem assign_own_iff [DecidableEq κ] {key : α → κ} {pools : κ → List ι} {own : α → Option ι}
    {counter : κ → Nat} {rows : List α} :
    (∀ p ∈ assign key pools counter rows, p.2 = own p.1) ↔
      ∀ k, Matched ((rows.filter fun row => key row = k).map own) ((pools k).drop (counter k)) := by
  induction rows generalizing counter with
  | nil => simp [assign]
  | cons row rows ih =>
    simp only [assign,List.forall_mem_cons,ih]
    constructor
    · rintro ⟨hrow,hrows⟩ k
      have hk := hrows k
      by_cases hkey : key row = k
      · subst hkey
        rw [Function.update_self,← List.drop_drop,List.drop_one] at hk
        simpa [hrow] using hk
      · rw [Function.update_of_ne (Ne.symm hkey)] at hk
        simpa [hkey] using hk
    · intro h
      constructor
      · have hk := h (key row)
        simp only [decide_true,List.filter_cons_of_pos,List.map_cons,matched_cons] at hk
        simpa using hk.1
      · intro k
        have hk := h k
        by_cases hkey : key row = k
        · subst hkey
          rw [Function.update_self,← List.drop_drop,List.drop_one]
          simp only [decide_true,List.filter_cons_of_pos,List.map_cons,matched_cons] at hk
          exact hk.2
        · rw [Function.update_of_ne (Ne.symm hkey)]
          simpa [hkey] using hk

theorem reduceOption_eq_nil {own : List (Option ι)} :
    own.reduceOption = [] ↔ ∀ o ∈ own, o = none := by
  simp [List.reduceOption,List.filterMap_eq_nil_iff]

/-- A list matches if and only if the rows with an item come first, the items begin with
theirs, and there is no further item for a row without one. -/
theorem matched_iff {own : List (Option ι)} {items : List ι} :
    Matched own items ↔ own.Pairwise (fun a b => a = none → b = none) ∧
      own.reduceOption <+: items ∧ (none ∈ own → own.reduceOption = items) := by
  induction own generalizing items with
  | nil => simp
  | cons o own ih =>
    rw [matched_cons,List.pairwise_cons,ih]
    cases o with
    | none =>
      rw [List.reduceOption_cons_of_none,List.getElem?_eq_none_iff]
      constructor
      · rintro ⟨hlength,hpair,hbegins,hlast⟩
        obtain rfl := List.length_eq_zero_iff.mp (Nat.le_zero.mp hlength)
        have hempty := List.prefix_nil.mp hbegins
        exact ⟨⟨fun b hb _ => reduceOption_eq_nil.mp hempty b hb,hpair⟩,hbegins,fun _ => hempty⟩
      · rintro ⟨⟨hnone,hpair⟩,-,hall⟩
        have hempty := reduceOption_eq_nil.mpr fun b hb => hnone b hb rfl
        have hitems := hall List.mem_cons_self
        rw [hempty] at hitems ⊢
        subst hitems
        exact ⟨Nat.le_refl 0,hpair,List.prefix_refl [],fun _ => rfl⟩
    | some i =>
      rw [List.reduceOption_cons_of_some]
      cases items with
      | nil => simp
      | cons j items =>
        simp only [List.tail_cons,List.getElem?_cons_zero,Option.some.injEq,
          List.cons_prefix_cons,List.mem_cons,reduceCtorEq,false_or,List.cons.injEq]
        constructor
        · rintro ⟨rfl,hpair,hbegins,hlast⟩
          exact ⟨⟨by simp,hpair⟩,⟨rfl,hbegins⟩,fun h => ⟨rfl,hlast h⟩⟩
        · rintro ⟨⟨-,hpair⟩,⟨rfl,hbegins⟩,hlast⟩
          exact ⟨rfl,hpair,hbegins,fun h => (hlast h).2⟩

def repeated (n : ρ → Nat) (name : ρ → ι) (items : List ρ) : List (Option ι) :=
  items.flatMap fun r => List.replicate (n r) (some (name r))

theorem mem_repeated {n : ρ → Nat} {name : ρ → ι} {items : List ρ} {o : Option ι}
    (h : o ∈ repeated n name items) : ∃ r ∈ items, o = some (name r) := by
  obtain ⟨r,hr,ho⟩ := List.mem_flatMap.mp h
  exact ⟨r,hr,(List.mem_replicate.mp ho).2⟩

theorem repeated_eq_nil_iff {n : ρ → Nat} {name : ρ → ι} {items : List ρ} :
    repeated n name items = [] ↔ ∀ r ∈ items, n r = 0 := by
  simp [repeated]

/-- Where the first item is left out, nothing else matches. -/
theorem matched_repeated_skipped {n : ρ → Nat} {name : ρ → ι} {items : List ρ} {i : ι}
    (hnew : i ∉ items.map name) :
    Matched (repeated n name items) (i :: items.map name) ↔ ∀ r ∈ items, n r = 0 := by
  have hnone : repeated n name items = [] ↔ ∀ r ∈ items, n r = 0 := repeated_eq_nil_iff
  rw [← hnone]
  constructor
  · intro h
    cases hown : repeated n name items with
    | nil => rfl
    | cons o own =>
      rw [hown,matched_cons,List.getElem?_cons_zero] at h
      obtain ⟨r,hr,rfl⟩ := mem_repeated (hown ▸ List.mem_cons_self)
      exact absurd (Option.some.inj h.1 ▸ List.mem_map_of_mem hr) hnew
  · intro h
    rw [h]
    exact matched_nil _

/-- Items that are repeated, each some number of times, match the items themselves if and only
if none is repeated twice and none that is left out comes before one that is not. -/
theorem matched_repeated_iff {items : List ρ} {name : ρ → ι} (hnodup : (items.map name).Nodup)
    (n : ρ → Nat) :
    Matched (items.flatMap fun r => List.replicate (n r) (some (name r))) (items.map name) ↔
      (∀ r ∈ items, n r ≤ 1) ∧ items.Pairwise fun a b => n b ≠ 0 → n a ≠ 0 := by
  induction items with
  | nil => simp
  | cons r items ih =>
    obtain ⟨hnew,hrest⟩ := List.nodup_cons.mp hnodup
    rw [List.flatMap_cons,List.map_cons,List.pairwise_cons,List.forall_mem_cons]
    match hr : n r with
    | 0 =>
      rw [List.replicate_zero,List.nil_append]
      refine (matched_repeated_skipped hnew).trans ?_
      constructor
      · intro hzero
        refine ⟨⟨Nat.zero_le 1,fun b hb => by simp [hzero b hb]⟩,fun b hb => absurd (hzero b hb),?_⟩
        exact List.pairwise_of_forall_mem_list fun a _ b hb h => absurd (hzero b hb) h
      · rintro ⟨-,hzero,-⟩ b hb
        by_contra hne
        exact hzero b hb hne rfl
    | 1 =>
      have hih := ih hrest
      simp only [List.replicate_one,List.singleton_append,matched_cons,List.getElem?_cons_zero,
        List.tail_cons,true_and,hih]
      simp
    | m + 2 =>
      refine iff_of_false (fun h => ?_) fun h => absurd h.1.1 (by omega)
      rw [List.replicate_succ,List.replicate_succ,List.cons_append,List.cons_append,
        matched_cons] at h
      exact hnew (List.mem_of_getElem? (matched_cons.mp h.2).1)

theorem getElem?_filterMap {f : α → Option ι} {rows : List α} {n : Nat} {row : α} {i : ι}
    (hrow : rows[n]? = some row) (hi : f row = some i) :
    (rows.filterMap f)[(rows.take n).countP fun row => (f row).isSome]? = some i := by
  induction rows generalizing n with
  | nil => simp at hrow
  | cons r rows ih =>
    cases n with
    | zero =>
      obtain rfl := Option.some.inj hrow
      simp [hi]
    | succ n =>
      have hrest := ih hrow
      cases hr : f r with
      | none => simpa [List.take_succ_cons,hr] using hrest
      | some j => simpa [List.take_succ_cons,hr] using hrest

end Pairing
