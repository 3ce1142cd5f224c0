import Mathlib.Algebra.Field.Defs
import Mathlib.Data.List.MinMax
import Mathlib.Data.List.Nodup
set_option autoImplicit false

/-!
SQL aggregates over filtered rows. NULL is `none`: the minimum of no rows is NULL, and
a comparison with NULL is not true.
-/

namespace Aggregate

variable {α β : Type*} [LinearOrder β]

/-- MIN(f) FILTER (WHERE p). -/
def minWhere (p : α → Bool) (f : α → β) (rows : List α) : Option β :=
  ((rows.filter p).map f).min?

/-- MAX(f) FILTER (WHERE p). -/
def maxWhere (p : α → Bool) (f : α → β) (rows : List α) : Option β :=
  ((rows.filter p).map f).max?

/-- x > NULL is NULL, and no row passes a filter on it. -/
def exceeds (x : β) : Option β → Bool
  | some m => decide (m < x)
  | none => false

@[simp] theorem exceeds_some {x m : β} : exceeds x (some m) = true ↔ m < x := by
  simp [exceeds]

variable {p q : α → Bool} {f : α → β} {rows : List α} {m : β}

theorem minWhere_eq_some_iff :
    minWhere p f rows = some m ↔
      (∃ r ∈ rows, p r = true ∧ f r = m) ∧ ∀ r ∈ rows, p r = true → m ≤ f r := by
  rw [minWhere,List.min?_eq_some_iff,List.forall_mem_map]
  simp only [List.mem_map,List.mem_filter,and_assoc,and_imp]

theorem maxWhere_eq_some_iff :
    maxWhere p f rows = some m ↔
      (∃ r ∈ rows, p r = true ∧ f r = m) ∧ ∀ r ∈ rows, p r = true → f r ≤ m := by
  rw [maxWhere,List.max?_eq_some_iff,List.forall_mem_map]
  simp only [List.mem_map,List.mem_filter,and_assoc,and_imp]

theorem minWhere_eq_none_iff : minWhere p f rows = none ↔ ∀ r ∈ rows, p r = false := by
  simp [minWhere]

theorem minWhere_congr (h : ∀ r ∈ rows, p r = q r) : minWhere p f rows = minWhere q f rows := by
  rw [minWhere,minWhere,List.filter_congr h]

theorem maxWhere_congr (h : ∀ r ∈ rows, p r = q r) : maxWhere p f rows = maxWhere q f rows := by
  rw [maxWhere,maxWhere,List.filter_congr h]

/-- Aggregates do not depend on the order of the rows. -/
theorem minWhere_of_mem_iff {rows' : List α} (h : ∀ r, r ∈ rows ↔ r ∈ rows') :
    minWhere p f rows = minWhere p f rows' := by
  refine Option.ext fun m => ?_
  rw [minWhere_eq_some_iff,minWhere_eq_some_iff]
  simp only [h]

/-- Nor on what the rows are of: only the values count. -/
theorem minWhere_of_values {γ : Type*} {p' : γ → Bool} {f' : γ → β} {rows' : List γ}
    (h : ∀ m, (∃ r ∈ rows, p r = true ∧ f r = m) ↔ ∃ r ∈ rows', p' r = true ∧ f' r = m) :
    minWhere p f rows = minWhere p' f' rows' := by
  have hbound : ∀ m, (∀ r ∈ rows, p r = true → m ≤ f r) ↔ ∀ r ∈ rows', p' r = true → m ≤ f' r := by
    intro m
    constructor
    · intro hle r hr hp
      obtain ⟨s,hs,hps,heq⟩ := (h (f' r)).mpr ⟨r,hr,hp,rfl⟩
      exact heq ▸ hle s hs hps
    · intro hle r hr hp
      obtain ⟨s,hs,hps,heq⟩ := (h (f r)).mp ⟨r,hr,hp,rfl⟩
      exact heq ▸ hle s hs hps
  refine Option.ext fun m => ?_
  rw [minWhere_eq_some_iff,minWhere_eq_some_iff,h,hbound]

theorem maxWhere_of_mem_iff {rows' : List α} (h : ∀ r, r ∈ rows ↔ r ∈ rows') :
    maxWhere p f rows = maxWhere p f rows' := by
  refine Option.ext fun m => ?_
  rw [maxWhere_eq_some_iff,maxWhere_eq_some_iff]
  simp only [h]

theorem minWhere_filter : minWhere p f (rows.filter q) = minWhere (fun r => q r && p r) f rows := by
  simp only [minWhere,List.filter_filter,Bool.and_comm]

theorem maxWhere_filter : maxWhere p f (rows.filter q) = maxWhere (fun r => q r && p r) f rows := by
  simp only [maxWhere,List.filter_filter,Bool.and_comm]

theorem minWhere_map {γ : Type*} {g : γ → α} {rows : List γ} :
    minWhere p f (rows.map g) = minWhere (p ∘ g) (f ∘ g) rows := by
  simp only [minWhere,List.filter_map,List.map_map]

theorem maxWhere_map {γ : Type*} {g : γ → α} {rows : List γ} :
    maxWhere p f (rows.map g) = maxWhere (p ∘ g) (f ∘ g) rows := by
  simp only [maxWhere,List.filter_map,List.map_map]

theorem exists_minWhere {r : α} (hr : r ∈ rows) (hp : p r = true) :
    ∃ m, minWhere p f rows = some m := by
  refine Option.ne_none_iff_exists'.mp fun hnone => ?_
  have := minWhere_eq_none_iff.mp hnone r hr
  rw [hp] at this
  contradiction

theorem exceeds_minWhere {x : β} :
    exceeds x (minWhere p f rows) = true ↔ ∃ r ∈ rows, p r = true ∧ f r < x := by
  cases hmin : minWhere p f rows with
  | none =>
    have hnone := minWhere_eq_none_iff.mp hmin
    refine iff_of_false (by simp [exceeds]) fun h => ?_
    obtain ⟨r,hr,hp,-⟩ := h
    exact absurd hp (by simp [hnone r hr])
  | some m =>
    obtain ⟨⟨r,hr,hp,rfl⟩,hle⟩ := minWhere_eq_some_iff.mp hmin
    rw [exceeds_some]
    constructor
    · intro hlt
      exact ⟨r,hr,hp,hlt⟩
    · intro h
      obtain ⟨r',hr',hp',hlt⟩ := h
      exact (hle r' hr' hp').trans_lt hlt

theorem exists_maxWhere {r : α} (hr : r ∈ rows) (hp : p r = true) :
    ∃ m, maxWhere p f rows = some m := by
  refine Option.ne_none_iff_exists'.mp fun hnone => ?_
  simp only [maxWhere,List.max?_eq_none_iff,List.map_eq_nil_iff,List.filter_eq_nil_iff] at hnone
  exact hnone r hr hp

theorem maxWhere_eq_none_iff : maxWhere p f rows = none ↔ ∀ r ∈ rows, p r = false := by
  simp [maxWhere]

theorem minWhere_isSome_iff : (minWhere p f rows).isSome ↔ ∃ r ∈ rows, p r = true := by
  rw [← Option.ne_none_iff_isSome,ne_eq,minWhere_eq_none_iff]
  simp

theorem maxWhere_isSome_iff : (maxWhere p f rows).isSome ↔ ∃ r ∈ rows, p r = true := by
  rw [← Option.ne_none_iff_isSome,ne_eq,maxWhere_eq_none_iff]
  simp

section Sorted

theorem orderBy_trans (f : α → β) (a b c : α) (hab : decide (f a ≤ f b) = true)
    (hbc : decide (f b ≤ f c) = true) : decide (f a ≤ f c) = true := by
  simp only [decide_eq_true_eq] at hab hbc ⊢
  exact le_trans hab hbc

theorem orderBy_total (f : α → β) (a b : α) :
    (decide (f a ≤ f b) || decide (f b ≤ f a)) = true := by
  simp only [Bool.or_eq_true,decide_eq_true_eq]
  exact le_total (f a) (f b)

theorem pairwise_orderBy (f : α → β) (rows : List α) :
    (rows.mergeSort fun a b => f a ≤ f b).Pairwise fun a b => f a ≤ f b :=
  (List.pairwise_mergeSort (orderBy_trans f) (orderBy_total f) rows).imp of_decide_eq_true

omit [LinearOrder β] in
/-- There is one way to cut a list into rows without a property and rows with it. -/
theorem append_inj_of_property {l₁ l₂ m₁ m₂ : List α} (heq : l₁ ++ l₂ = m₁ ++ m₂)
    (hl₁ : ∀ b ∈ l₁, q b = false) (hl₂ : ∀ b ∈ l₂, q b = true) (hm₁ : ∀ b ∈ m₁, q b = false)
    (hm₂ : ∀ b ∈ m₂, q b = true) : l₁ = m₁ ∧ l₂ = m₂ := by
  have hback := congrArg (List.filter q) heq
  have hnone : ∀ {l : List α}, (∀ b ∈ l, q b = false) → l.filter q = [] := by
    intro l hl
    refine List.filter_eq_nil_iff.mpr fun b hb => ?_
    simp [hl b hb]
  rw [List.filter_append,List.filter_append,hnone hl₁,hnone hm₁,List.filter_eq_self.mpr hl₂,
    List.filter_eq_self.mpr hm₂,List.nil_append,List.nil_append] at hback
  rw [hback] at heq
  exact ⟨List.append_cancel_right heq,hback⟩

theorem orderBy_cons (f : α → β) (a : α) (rows : List α) :
    ∃ before after, ((a :: rows).mergeSort fun a b => f a ≤ f b) = before ++ a :: after ∧
      (rows.mergeSort fun a b => f a ≤ f b) = before ++ after ∧
      (∀ b ∈ before, decide (f a ≤ f b) = false) ∧ ∀ b ∈ after, decide (f a ≤ f b) = true := by
  obtain ⟨before,after,hcons,hrest,hbefore⟩ :=
    List.mergeSort_cons (orderBy_trans f) (orderBy_total f) a rows
  have hsorted := pairwise_orderBy f (a :: rows)
  rw [hcons] at hsorted
  refine ⟨before,after,hcons,hrest,fun b hb => by simpa using hbefore b hb,fun b hb => ?_⟩
  exact decide_eq_true ((List.pairwise_cons.mp (List.pairwise_append.mp hsorted).2.1).1 b hb)

/-- Sorting is stable: rows of a kind come in their own order, by a column that orders them
as the whole is ordered. -/
theorem filter_orderBy {γ : Type*} [LinearOrder γ] {g : α → γ}
    (h : ∀ a b, p a = true → p b = true → (f a ≤ f b ↔ g a ≤ g b)) (rows : List α) :
    (rows.mergeSort fun a b => f a ≤ f b).filter p =
      (rows.filter p).mergeSort fun a b => g a ≤ g b := by
  induction rows with
  | nil => simp
  | cons a rows ih =>
    obtain ⟨before,after,hcons,hrest,hbefore,hafter⟩ := orderBy_cons f a rows
    rw [hrest,List.filter_append] at ih
    rw [hcons,List.filter_append]
    cases hp : p a with
    | false => simp [hp,ih]
    | true =>
      obtain ⟨before',after',hcons',hrest',hbefore',hafter'⟩ := orderBy_cons g a (rows.filter p)
      have hsame : ∀ b, p b = true → decide (f a ≤ f b) = decide (g a ≤ g b) :=
        fun b hb => decide_eq_decide.mpr (h a b hp hb)
      rw [hrest'] at ih
      obtain ⟨hfront,hback⟩ := append_inj_of_property ih
        (fun b hb => (hsame b (List.mem_filter.mp hb).2) ▸ hbefore b (List.mem_of_mem_filter hb))
        (fun b hb => (hsame b (List.mem_filter.mp hb).2) ▸ hafter b (List.mem_of_mem_filter hb))
        hbefore' hafter'
      rw [List.filter_cons_of_pos hp,List.filter_cons_of_pos hp,hcons',hfront,hback]

theorem head?_eq_minWhere (h : rows.Pairwise fun a b => f a ≤ f b) :
    ((rows.filter p).map f).head? = minWhere p f rows := by
  refine (List.min?_eq_head? (List.pairwise_map.mpr ?_)).symm
  exact (h.filter p).imp fun hab => min_eq_left hab

theorem getLast?_eq_maxWhere (h : rows.Pairwise fun a b => f a ≤ f b) :
    ((rows.filter p).map f).getLast? = maxWhere p f rows := by
  induction rows with
  | nil => rfl
  | cons a rows ih =>
    have hrest := ih h.tail
    cases hp : p a with
    | false => simpa [maxWhere,hp] using hrest
    | true =>
      simp only [maxWhere,List.filter_cons,hp,if_true,List.map_cons] at hrest ⊢
      rw [List.max?_cons,List.getLast?_cons,hrest]
      cases hm : ((rows.filter p).map f).max? with
      | none => rfl
      | some m =>
        obtain ⟨r,hr,rfl⟩ := List.mem_map.mp (List.max?_mem hm)
        have hle := (List.pairwise_cons.mp h).1 r (List.mem_of_mem_filter hr)
        simp [max_eq_right hle]

/-- The only element a filter leaves does not depend on the order. -/
theorem filter_mergeSort_singleton {le : α → α → Bool} {x : α} (h : rows.filter p = [x]) :
    (rows.mergeSort le).filter p = [x] := by
  have hperm := (List.mergeSort_perm rows le).filter p
  rw [h] at hperm
  exact List.perm_singleton.mp hperm

theorem filter_eq_singleton [DecidableEq α] {a : α} (hnodup : rows.Nodup) (ha : a ∈ rows) :
    rows.filter (· = a) = [a] := by
  rw [List.filter_eq,List.count_eq_one_of_mem hnodup ha]
  rfl

theorem flatMap_filter {γ : Type*} (p : α → Bool) (g : α → List γ) (l : List α) :
    (l.filter p).flatMap g = l.flatMap fun a => if p a then g a else [] := by
  induction l with
  | nil => rfl
  | cons a l ih =>
    cases hp : p a with
    | false => simp [hp,ih]
    | true => simp [hp,ih]

end Sorted

section Median

variable {κ : Type*} [Field κ] [LinearOrder κ]

/-- The middle value, or the mean of the two in the middle. -/
def median (values : List κ) : Option κ :=
  let sorted := values.mergeSort fun a b => a ≤ b
  let n := sorted.length
  if n % 2 = 1 then sorted[n / 2]?
  else sorted[n / 2 - 1]?.bind fun a => sorted[n / 2]?.map fun b => (a + b) / 2

theorem median_isSome {values : List κ} (h : values ≠ []) : (median values).isSome := by
  have hpos : 0 < (values.mergeSort fun a b => a ≤ b).length := by
    rw [List.length_mergeSort]
    exact List.length_pos_iff.mpr h
  unfold median
  generalize (values.mergeSort fun a b => a ≤ b) = sorted at hpos
  simp only
  split
  next hodd =>
    rw [List.getElem?_eq_getElem (show sorted.length / 2 < sorted.length by omega)]
    rfl
  next heven =>
    rw [List.getElem?_eq_getElem (show sorted.length / 2 - 1 < sorted.length by omega),
      List.getElem?_eq_getElem (show sorted.length / 2 < sorted.length by omega)]
    rfl

theorem median_nil : median ([] : List κ) = none := by
  simp [median]

/-- The median of a single row's value, or of nothing if it is NULL. -/
@[simp] theorem median_filterMap_singleton (g : α → Option κ) (r : α) :
    median ([r].filterMap g) = g r := by
  cases h : g r with
  | none => simp [median,h]
  | some x => simp [median,h]

end Median

section Agreement

/-- Two results agree unless both are there and they differ. -/
def Agree (x y : Option β) : Prop := ∀ a, x = some a → ∀ b, y = some b → a = b

/-- One row is the last of one kind and the first of another, if there are rows of both. -/
def LastIsFirst (p q : α → Bool) (f : α → β) (rows : List α) : Prop :=
  (∀ r ∈ rows, p r = false) ∨ (∀ r ∈ rows, q r = false) ∨ ∃ x ∈ rows, (p x = true ∧ q x = true) ∧
    (∀ r ∈ rows, p r = true → f r ≤ f x) ∧ ∀ r ∈ rows, q r = true → f x ≤ f r

/-- One row is the first of both kinds, if there are rows of both. -/
def FirstIsFirst (p q : α → Bool) (f : α → β) (rows : List α) : Prop :=
  (∀ r ∈ rows, p r = false) ∨ (∀ r ∈ rows, q r = false) ∨ ∃ x ∈ rows, (p x = true ∧ q x = true) ∧
    (∀ r ∈ rows, p r = true → f x ≤ f r) ∧ ∀ r ∈ rows, q r = true → f x ≤ f r

omit [LinearOrder β] in
/-- Two choices of a row, each the best of its kind, agree if they choose the same row. -/
theorem agree_iff_choice {x y : Option β} {R S : β → β → Prop}
    (hx : ∀ m, x = some m ↔
      (∃ r ∈ rows, p r = true ∧ f r = m) ∧ ∀ r ∈ rows, p r = true → R (f r) m)
    (hy : ∀ m, y = some m ↔
      (∃ r ∈ rows, q r = true ∧ f r = m) ∧ ∀ r ∈ rows, q r = true → S (f r) m)
    (hinj : ∀ a ∈ rows, ∀ b ∈ rows, f a = f b → a = b) :
    Agree x y ↔ x = none ∨ y = none ∨ ∃ r ∈ rows, (p r = true ∧ q r = true) ∧
      (∀ s ∈ rows, p s = true → R (f s) (f r)) ∧ ∀ s ∈ rows, q s = true → S (f s) (f r) := by
  constructor
  · intro h
    cases hxa : x with
    | none => exact .inl rfl
    | some a =>
      cases hyb : y with
      | none => exact .inr (.inl rfl)
      | some b =>
        obtain ⟨⟨r,hr,hpr,hra⟩,hbest⟩ := (hx a).mp hxa
        obtain ⟨⟨s,hs,hqs,hsb⟩,hbest'⟩ := (hy b).mp hyb
        have hsame : f r = f s := by rw [hra,hsb,h a hxa b hyb]
        obtain rfl := hinj r hr s hs hsame
        subst hra hsb
        exact .inr (.inr ⟨r,hr,⟨hpr,hqs⟩,hbest,hbest'⟩)
  · intro h a hxa b hyb
    rcases h with hnone | hnone | ⟨r,hr,⟨hpr,hqr⟩,hbest,hbest'⟩
    · rw [hnone] at hxa
      contradiction
    · rw [hnone] at hyb
      contradiction
    · have hxr := (hx (f r)).mpr ⟨⟨r,hr,hpr,rfl⟩,hbest⟩
      have hyr := (hy (f r)).mpr ⟨⟨r,hr,hqr,rfl⟩,hbest'⟩
      rw [hxa] at hxr
      rw [hyb] at hyr
      exact (Option.some.inj hxr).trans (Option.some.inj hyr).symm

theorem agree_max_min_iff (hinj : ∀ a ∈ rows, ∀ b ∈ rows, f a = f b → a = b) :
    Agree (maxWhere p f rows) (minWhere q f rows) ↔ LastIsFirst p q f rows := by
  rw [agree_iff_choice (fun m => maxWhere_eq_some_iff) (S := fun y m => m ≤ y)
    (fun m => minWhere_eq_some_iff) hinj,maxWhere_eq_none_iff,minWhere_eq_none_iff,LastIsFirst]

theorem agree_min_min_iff (hinj : ∀ a ∈ rows, ∀ b ∈ rows, f a = f b → a = b) :
    Agree (minWhere p f rows) (minWhere q f rows) ↔ FirstIsFirst p q f rows := by
  rw [agree_iff_choice (R := fun y m => m ≤ y) (fun m => minWhere_eq_some_iff)
    (S := fun y m => m ≤ y) (fun m => minWhere_eq_some_iff) hinj,minWhere_eq_none_iff,
    minWhere_eq_none_iff,FirstIsFirst]

omit [LinearOrder β] in
theorem ne_of_disjoint {a b : β} (ha : ∃ r ∈ rows, p r = true ∧ f r = a)
    (hb : ∃ r ∈ rows, q r = true ∧ f r = b) (hinj : ∀ a ∈ rows, ∀ b ∈ rows, f a = f b → a = b)
    (hdisjoint : ∀ r, p r = true → q r = true → False) : a ≠ b := by
  obtain ⟨r,hr,hpr,rfl⟩ := ha
  obtain ⟨s,hs,hqs,rfl⟩ := hb
  intro hsame
  obtain rfl := hinj r hr s hs hsame
  exact hdisjoint r hpr hqs

end Agreement

section Window

/-- x BETWEEN lo AND hi. -/
def within (lo hi x : β) : Bool := lo ≤ x && x ≤ hi

/-- No row of the kind comes before all those of the window. -/
def FirstWithin (p : α → Bool) (f : α → β) (lo hi : β) (rows : List α) : Prop :=
  ∀ r ∈ rows, p r = true → ∃ s ∈ rows, (within lo hi (f s) = true ∧ p s = true) ∧ f s ≤ f r

/-- No row of the kind comes after all those of the window. -/
def LastWithin (p : α → Bool) (f : α → β) (lo hi : β) (rows : List α) : Prop :=
  ∀ r ∈ rows, p r = true → ∃ s ∈ rows, (within lo hi (f s) = true ∧ p s = true) ∧ f r ≤ f s

variable {lo hi : β}

theorem minWhere_within_iff :
    minWhere (fun r => within lo hi (f r) && p r) f rows = minWhere p f rows ↔
      FirstWithin p f lo hi rows := by
  constructor
  · intro heq r hr hpr
    obtain ⟨m,hm⟩ := exists_minWhere (f := f) hr hpr
    have hle := (minWhere_eq_some_iff.mp hm).2 r hr hpr
    rw [← heq,minWhere_eq_some_iff] at hm
    obtain ⟨⟨s,hs,hps,rfl⟩,-⟩ := hm
    exact ⟨s,hs,Bool.and_eq_true_iff.mp hps,hle⟩
  · intro hfirst
    cases hm : minWhere p f rows with
    | none =>
      refine minWhere_eq_none_iff.mpr fun r hr => ?_
      simp [minWhere_eq_none_iff.mp hm r hr]
    | some m =>
      obtain ⟨⟨r,hr,hpr,rfl⟩,hmin⟩ := minWhere_eq_some_iff.mp hm
      obtain ⟨s,hs,⟨hin,hps⟩,hle⟩ := hfirst r hr hpr
      refine minWhere_eq_some_iff.mpr ⟨⟨s,hs,by simp [hin,hps],le_antisymm hle (hmin s hs hps)⟩,?_⟩
      exact fun q hq hpq => hmin q hq (Bool.and_eq_true_iff.mp hpq).2

theorem maxWhere_within_iff :
    maxWhere (fun r => within lo hi (f r) && p r) f rows = maxWhere p f rows ↔
      LastWithin p f lo hi rows := by
  constructor
  · intro heq r hr hpr
    obtain ⟨m,hm⟩ := exists_maxWhere (f := f) hr hpr
    have hle := (maxWhere_eq_some_iff.mp hm).2 r hr hpr
    rw [← heq,maxWhere_eq_some_iff] at hm
    obtain ⟨⟨s,hs,hps,rfl⟩,-⟩ := hm
    exact ⟨s,hs,Bool.and_eq_true_iff.mp hps,hle⟩
  · intro hlast
    cases hm : maxWhere p f rows with
    | none =>
      refine maxWhere_eq_none_iff.mpr fun r hr => ?_
      simp [maxWhere_eq_none_iff.mp hm r hr]
    | some m =>
      obtain ⟨⟨r,hr,hpr,rfl⟩,hmax⟩ := maxWhere_eq_some_iff.mp hm
      obtain ⟨s,hs,⟨hin,hps⟩,hle⟩ := hlast r hr hpr
      refine maxWhere_eq_some_iff.mpr ⟨⟨s,hs,by simp [hin,hps],le_antisymm (hmax s hs hps) hle⟩,?_⟩
      exact fun q hq hpq => hmax q hq (Bool.and_eq_true_iff.mp hpq).2

theorem within_mono {hi' x : β} (hle : hi ≤ hi') (h : within lo hi x = true) :
    within lo hi' x = true := by
  simp only [within,Bool.and_eq_true,decide_eq_true_eq] at h ⊢
  exact ⟨h.1,h.2.trans hle⟩

theorem FirstWithin.mono {hi' : β} (hle : hi ≤ hi') (h : FirstWithin p f lo hi rows) :
    FirstWithin p f lo hi' rows := by
  intro r hr hpr
  obtain ⟨s,hs,⟨hin,hps⟩,hsr⟩ := h r hr hpr
  exact ⟨s,hs,⟨within_mono hle hin,hps⟩,hsr⟩

theorem LastWithin.mono {hi' : β} (hle : hi ≤ hi') (h : LastWithin p f lo hi rows) :
    LastWithin p f lo hi' rows := by
  intro r hr hpr
  obtain ⟨s,hs,⟨hin,hps⟩,hsr⟩ := h r hr hpr
  exact ⟨s,hs,⟨within_mono hle hin,hps⟩,hsr⟩

end Window

section Recovery

variable {bad good : α → Bool}

/-- No good row lies between two bad ones. -/
def Contiguous (bad good : α → Bool) (f : α → β) (rows : List α) : Prop :=
  ∀ b ∈ rows, ∀ g ∈ rows, ∀ b' ∈ rows, bad b = true → good g = true → bad b' = true →
    ¬ (f b < f g ∧ f g < f b')

/-- The first good row after the first bad one. -/
def recoveryFromFirst (bad good : α → Bool) (f : α → β) (rows : List α) : Option β :=
  minWhere (fun r => good r && exceeds (f r) (minWhere bad f rows)) f rows

/-- The first good row after the last bad one. -/
def recoveryFromLast (bad good : α → Bool) (f : α → β) (rows : List α) : Option β :=
  minWhere (fun r => good r && exceeds (f r) (maxWhere bad f rows)) f rows

/-- Looking from the first bad row and from the last one finds the same recovery exactly if
the bad rows are contiguous. -/
theorem recovery_eq_iff (hbad : ∃ b ∈ rows, bad b = true)
    (hgood : (recoveryFromLast bad good f rows).isSome) (hinj : ∀ b ∈ rows, ∀ g ∈ rows,
      bad b = true → good g = true → f b ≠ f g) :
    recoveryFromFirst bad good f rows = recoveryFromLast bad good f rows ↔
      Contiguous bad good f rows := by
  obtain ⟨b₀,hb₀,hbad₀⟩ := hbad
  obtain ⟨first,hfirst⟩ := exists_minWhere (f := f) hb₀ hbad₀
  obtain ⟨last,hlast⟩ := exists_maxWhere (f := f) hb₀ hbad₀
  obtain ⟨rec,hrec⟩ := Option.isSome_iff_exists.mp hgood
  obtain ⟨⟨bf,hbf,hbfbad,rfl⟩,hmin⟩ := minWhere_eq_some_iff.mp hfirst
  obtain ⟨⟨bl,hbl,hblbad,rfl⟩,hmax⟩ := maxWhere_eq_some_iff.mp hlast
  rw [hrec]
  rw [recoveryFromLast,hlast] at hrec
  rw [recoveryFromFirst,hfirst]
  obtain ⟨⟨g,hg,hgr,rfl⟩,hleast⟩ := minWhere_eq_some_iff.mp hrec
  simp only [Bool.and_eq_true,exceeds_some] at hgr hleast
  rw [minWhere_eq_some_iff]
  simp only [Bool.and_eq_true,exceeds_some]
  constructor
  · intro h b hb s hs b' hb' hbbad hsgood hb'bad hbetween
    have hafter : f bf < f s := lt_of_le_of_lt (hmin b hb hbbad) hbetween.1
    have hle := h.2 s hs ⟨hsgood,hafter⟩
    have hlt : f s < f bl := lt_of_lt_of_le hbetween.2 (hmax b' hb' hb'bad)
    exact absurd (lt_of_le_of_lt hle hlt) (not_lt.mpr hgr.2.le)
  · intro hcon
    refine ⟨⟨g,hg,⟨hgr.1,lt_of_le_of_lt (hmin bl hbl hblbad) hgr.2⟩,rfl⟩,?_⟩
    intro s hs hsafter
    have hnot := hcon bf hbf s hs bl hbl hbfbad hsafter.1 hblbad
    have hle : f bl ≤ f s := not_lt.mp fun hlt => hnot ⟨hsafter.2,hlt⟩
    exact hleast s hs ⟨hsafter.1,lt_of_le_of_ne hle (hinj bl hbl s hs hblbad hsafter.1)⟩

end Recovery

end Aggregate
