import Mathlib.Algebra.BigOperators.Group.List.Basic
import Mathlib.Algebra.Order.Group.Defs
import Mathlib.Tactic.Abel
set_option autoImplicit false

/-!
Segments that cover an interval one after another. A segment is anything that has a base and
a duration, in an ordered group.
-/

namespace Tiling

variable {α κ : Type*} [AddCommGroup κ] [LinearOrder κ]

/-- The first segment begins at `lo`, every other one where the one before it ends, the last
one ends at `hi`, and none is of negative duration. -/
def Tiles (base duration : α → κ) : κ → List α → κ → Prop
  | lo,[],hi => lo = hi
  | lo,a :: rest,hi =>
    base a = lo ∧ 0 ≤ duration a ∧ Tiles base duration (lo + duration a) rest hi

variable {base duration : α → κ} {lo hi : κ} {segments : List α}

theorem Tiles.sum_durations (h : Tiles base duration lo segments hi) :
    (segments.map duration).sum = hi - lo := by
  induction segments generalizing lo with
  | nil =>
    obtain rfl : lo = hi := h
    simp
  | cons a rest ih =>
    obtain ⟨-,-,hrest⟩ := h
    rw [List.map_cons,List.sum_cons,ih hrest]
    abel

theorem Tiles.nonneg (h : Tiles base duration lo segments hi) : ∀ a ∈ segments, 0 ≤ duration a := by
  induction segments generalizing lo with
  | nil => simp
  | cons a rest ih =>
    obtain ⟨-,hdur,hrest⟩ := h
    exact List.forall_mem_cons.mpr ⟨hdur,ih hrest⟩

variable [IsOrderedAddMonoid κ]

theorem Tiles.le (h : Tiles base duration lo segments hi) : lo ≤ hi := by
  induction segments generalizing lo with
  | nil => exact le_of_eq h
  | cons a rest ih =>
    obtain ⟨-,hdur,hrest⟩ := h
    exact (le_add_of_nonneg_right hdur).trans (ih hrest)

/-- No segment leaves the interval. -/
theorem Tiles.within (h : Tiles base duration lo segments hi) :
    ∀ a ∈ segments, lo ≤ base a ∧ base a + duration a ≤ hi := by
  induction segments generalizing lo with
  | nil => simp
  | cons a rest ih =>
    obtain ⟨rfl,hdur,hrest⟩ := h
    intro b hb
    rcases List.mem_cons.mp hb with rfl | hmem
    · exact ⟨le_rfl,hrest.le⟩
    · obtain ⟨hlo,hhi⟩ := ih hrest b hmem
      exact ⟨(le_add_of_nonneg_right hdur).trans hlo,hhi⟩

end Tiling
