import Mathlib.Order.Lattice
import Mathlib.Data.List.Basic
set_option autoImplicit false

/-!
A log in the order of its times, and what of it has happened up to an instant. Several entries can
have one time; only the log up to the last of them is what has happened at an instant.
-/

namespace Timeline

variable {α τ : Type*} [LinearOrder τ] (time : α → τ)

def upTo (x : τ) (log : List α) : List α := log.filter fun e => time e ≤ x

def Ordered (log : List α) : Prop := log.Pairwise fun a b => time a ≤ time b

/-- A cut of a log after an entry that is the last one of its instant. -/
structure Cut (log before : List α) (e : α) (after : List α) : Prop where
  split : log = before ++ e :: after
  later : ∀ a ∈ after, time e < time a

variable {time} {log before after : List α} {e : α} {x : τ}

theorem Ordered.upTo_eq (h : Ordered time (before ++ e :: after)) (he : time e ≤ x)
    (hafter : ∀ a ∈ after, x < time a) : upTo time x (before ++ e :: after) = before ++ [e] := by
  obtain ⟨-,-,hcross⟩ := List.pairwise_append.mp h
  have hbefore : before.filter (fun a => time a ≤ x) = before :=
    List.filter_eq_self.mpr fun a ha =>
      decide_eq_true (le_trans (hcross a ha e List.mem_cons_self) he)
  have hlater : after.filter (fun a => time a ≤ x) = [] :=
    List.filter_eq_nil_iff.mpr fun a ha => by simpa using hafter a ha
  rw [upTo,List.filter_append,hbefore,List.filter_cons_of_pos (by simpa using he),hlater]

theorem Cut.upTo_eq (h : Ordered time log) (hcut : Cut time log before e after) :
    upTo time (time e) log = before ++ [e] := by
  obtain ⟨rfl,hlater⟩ := hcut
  exact h.upTo_eq le_rfl hlater

/-- What has happened at an instant ends with a cut. -/
theorem exists_cut (h : Ordered time log) (hne : upTo time x log ≠ []) :
    ∃ before e after, Cut time log before e after ∧ time e ≤ x ∧ ∀ a ∈ after, x < time a := by
  induction log with
  | nil => exact absurd rfl hne
  | cons a log ih =>
    obtain ⟨hfirst,hrest⟩ := List.pairwise_cons.mp h
    by_cases hlog : upTo time x log = []
    · have hlater : ∀ b ∈ log, x < time b := by
        intro b hb
        have hb := List.filter_eq_nil_iff.mp hlog b hb
        simpa using hb
      have ha : time a ≤ x := by
        by_contra hnot
        rw [upTo,List.filter_cons_of_neg (by simpa using hnot)] at hne
        exact hne hlog
      exact ⟨[],a,log,⟨rfl,fun b hb => lt_of_le_of_lt ha (hlater b hb)⟩,ha,hlater⟩
    · obtain ⟨before,e,after,⟨rfl,hlater⟩,he,hafter⟩ := ih hrest hlog
      exact ⟨a :: before,e,after,⟨rfl,hlater⟩,he,hafter⟩

/-- What holds at every instant after the first entry, up to a bound, is what holds at the cuts. -/
theorem forall_upTo_iff {bound : τ} {P : List α → Prop} (h : Ordered time log)
    (hbound : ∀ a ∈ log, time a ≤ bound) :
    (∀ x ≤ bound, upTo time x log ≠ [] → P (upTo time x log)) ↔
      ∀ before e after, Cut time log before e after → P (before ++ [e]) := by
  constructor
  · intro hall before e after hcut
    have hmem : e ∈ log := hcut.split ▸ List.mem_append_right _ List.mem_cons_self
    have hshown := hcut.upTo_eq h
    rw [← hshown]
    exact hall _ (hbound e hmem) (by simp [hshown])
  · intro hcuts x _ hne
    obtain ⟨before,e,after,hcut,he,hafter⟩ := exists_cut h hne
    have hP := hcuts before e after hcut
    obtain ⟨rfl,-⟩ := hcut
    rwa [h.upTo_eq he hafter]

theorem Ordered.eq_append (h : Ordered time log) (x : τ) :
    log = log.filter (fun a => time a < x) ++ log.filter fun a => x ≤ time a := by
  induction log with
  | nil => rfl
  | cons a log ih =>
    obtain ⟨hfirst,hrest⟩ := List.pairwise_cons.mp h
    by_cases ha : time a < x
    · rw [List.filter_cons_of_pos (by simpa using ha),
        List.filter_cons_of_neg (by simpa using ha),List.cons_append,← ih hrest]
    · have hlate : ∀ b ∈ a :: log, x ≤ time b :=
        List.forall_mem_cons.mpr ⟨not_lt.mp ha,fun b hb => le_trans (not_lt.mp ha) (hfirst b hb)⟩
      have hnone : (a :: log).filter (fun b => time b < x) = [] :=
        List.filter_eq_nil_iff.mpr fun b hb => by simpa using hlate b hb
      have hall : (a :: log).filter (fun b => x ≤ time b) = a :: log :=
        List.filter_eq_self.mpr fun b hb => by simpa using hlate b hb
      rw [hnone,hall,List.nil_append]

/-- What has happened at an instant of a window: all from before, and a part of the window. -/
theorem Ordered.upTo_window {lo hi : τ} (h : Ordered time log) (hlo : lo ≤ x) (hhi : x ≤ hi) :
    upTo time x log = log.filter (fun a => time a < lo) ++
      upTo time x (log.filter fun a => lo ≤ time a ∧ time a ≤ hi) := by
  have hbefore : (log.filter fun a => time a < lo).filter (fun a => time a ≤ x) =
      log.filter fun a => time a < lo :=
    List.filter_eq_self.mpr fun a ha => by
      have ha : time a < lo := by simpa using (List.mem_filter.mp ha).2
      exact decide_eq_true (le_trans ha.le hlo)
  have hwindow : (log.filter fun a => lo ≤ time a).filter (fun a => time a ≤ x) =
      (log.filter fun a => lo ≤ time a ∧ time a ≤ hi).filter fun a => time a ≤ x := by
    rw [List.filter_filter,List.filter_filter]
    refine List.filter_congr fun a _ => ?_
    rw [Bool.eq_iff_iff]
    simp only [Bool.and_eq_true,decide_eq_true_eq]
    exact ⟨fun ha => ⟨ha.1,ha.2,le_trans ha.1 hhi⟩,fun ha => ⟨ha.1,ha.2.1⟩⟩
  conv_lhs => rw [h.eq_append lo]
  rw [upTo,List.filter_append,hbefore,hwindow,upTo]

/-- Where every entry has a time of its own, all of them are cuts. -/
theorem cut_iff_of_strict (h : log.Pairwise fun a b => time a < time b) :
    Cut time log before e after ↔ log = before ++ e :: after := by
  constructor
  · exact Cut.split
  · rintro rfl
    obtain ⟨-,hlast,-⟩ := List.pairwise_append.mp h
    exact ⟨rfl,(List.pairwise_cons.mp hlast).1⟩

end Timeline
