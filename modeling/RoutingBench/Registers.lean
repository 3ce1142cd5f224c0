import Mathlib.Data.List.Induction
import Mathlib.Logic.Function.Basic
import Mathlib.Order.Lattice
set_option autoImplicit false

/-!
Registers that are written one at a time: what stays in a register is the last value written to
it, whatever is written to the others meanwhile.
-/

namespace Registers

variable {κ ν : Type*} [DecidableEq κ]

def write (m : κ → ν) (w : κ × ν) : κ → ν := Function.update m w.1 w.2

def replay (m : κ → ν) (ws : List (κ × ν)) : κ → ν := ws.foldl write m

/-- The values written to a register, in the order of the writes. -/
def writesTo (k : κ) (ws : List (κ × ν)) : List ν := (ws.filter fun w => w.1 = k).map Prod.snd

def lastTo (k : κ) (ws : List (κ × ν)) : Option ν := (writesTo k ws).getLast?

variable {m : κ → ν} {ws ws' : List (κ × ν)} {w : κ × ν} {j k : κ} {v : ν}

@[simp] theorem replay_nil : replay m [] = m := rfl

@[simp] theorem replay_cons : replay m (w :: ws) = replay (write m w) ws := rfl

theorem replay_append : replay m (ws ++ ws') = replay (replay m ws) ws' := List.foldl_append

@[simp] theorem replay_snoc : replay m (ws ++ [w]) = write (replay m ws) w := by
  rw [replay_append]
  rfl

@[simp] theorem write_self : write m (k,v) k = v := by simp [write]

theorem write_of_ne (h : w.1 ≠ k) : write m w k = m k := by
  simp [write,Function.update_of_ne (Ne.symm h)]

@[simp] theorem writesTo_nil : writesTo k ([] : List (κ × ν)) = [] := rfl

theorem writesTo_append : writesTo k (ws ++ ws') = writesTo k ws ++ writesTo k ws' := by
  simp [writesTo]

@[simp] theorem writesTo_single_self : writesTo k [(k,v)] = [v] := by simp [writesTo]

theorem writesTo_single_of_ne (h : w.1 ≠ k) : writesTo k [w] = [] := by simp [writesTo,h]

@[simp] theorem lastTo_nil : lastTo k ([] : List (κ × ν)) = none := rfl

@[simp] theorem lastTo_snoc_self : lastTo k (ws ++ [(k,v)]) = some v := by
  simp [lastTo,writesTo_append]

theorem lastTo_snoc_of_ne (h : w.1 ≠ k) : lastTo k (ws ++ [w]) = lastTo k ws := by
  simp [lastTo,writesTo_append,writesTo_single_of_ne h]

theorem lastTo_append : lastTo k (ws ++ ws') = (lastTo k ws').or (lastTo k ws) := by
  simp [lastTo,writesTo_append,List.getLast?_append]

theorem lastTo_eq_some (hex : ∃ w ∈ ws, w.1 = k) (hall : ∀ w ∈ ws, w.1 = k → w.2 = v) :
    lastTo k ws = some v := by
  obtain ⟨w,hw,hk⟩ := hex
  have hne : writesTo k ws ≠ [] :=
    List.ne_nil_of_mem (List.mem_map.mpr ⟨w,List.mem_filter.mpr ⟨hw,by simpa using hk⟩,rfl⟩)
  have hlast := List.getLast_mem hne
  obtain ⟨u,hu,heq⟩ := List.mem_map.mp hlast
  obtain ⟨hmem,huk⟩ := List.mem_filter.mp hu
  rw [lastTo,List.getLast?_eq_some_getLast hne,← heq,hall u hmem (by simpa using huk)]

/-- The last write stays; a register that nothing was written to is as it was. -/
theorem replay_apply (m : κ → ν) (ws : List (κ × ν)) (k : κ) :
    replay m ws k = (lastTo k ws).getD (m k) := by
  induction ws using List.reverseRecOn with
  | nil => rfl
  | append_singleton ws w ih =>
    obtain ⟨j,v⟩ := w
    rw [replay_snoc]
    by_cases h : j = k
    · subst h
      simp
    · rw [write_of_ne h,lastTo_snoc_of_ne h,ih]

/-- No two registers hold `v`. -/
def Exclusive (v : ν) (m : κ → ν) : Prop := ∀ j k, m j = v → m k = v → j = k

/-- A write keeps `v` in at most one register exactly if, when it writes `v`, no other register
holds it. -/
theorem exclusive_write (hm : Exclusive v m) (w : κ × ν) :
    Exclusive v (write m w) ↔ (w.2 = v → ∀ j, j ≠ w.1 → m j ≠ v) := by
  obtain ⟨k,u⟩ := w
  constructor
  · rintro h rfl j hj hv
    exact hj (h j k (by rw [write_of_ne (Ne.symm hj),hv]) (by simp))
  · intro h i j hi hj
    by_cases hik : k = i
    · subst hik
      by_contra hkj
      rw [write_of_ne hkj] at hj
      exact h (by simpa using hi) j (Ne.symm hkj) hj
    · rw [write_of_ne hik] at hi
      by_cases hjk : k = j
      · subst hjk
        exact absurd hi (h (by simpa using hj) i (Ne.symm hik))
      · rw [write_of_ne hjk] at hj
        exact hm i j hi hj

section Stamped

variable {α τ : Type*} [LinearOrder τ] {time : α → τ} {reg : α → Option (κ × ν)} {log shown : List α}
  {e : α}

/-- Entries that write one register have different times, in the order of the log. -/
def Stamped (time : α → τ) (reg : α → Option (κ × ν)) (log : List α) : Prop :=
  log.Pairwise fun a b => ∀ k u v, reg a = some (k,u) → reg b = some (k,v) → time a < time b

omit [DecidableEq κ] in
theorem Stamped.of_strict (h : log.Pairwise fun a b => time a < time b) : Stamped time reg log :=
  h.imp fun hlt _ _ _ _ _ => hlt

/-- The latest of the entries that write a register. -/
structure Latest (time : α → τ) (reg : α → Option (κ × ν)) (log : List α) (k : κ) (e : α)
    (v : ν) : Prop where
  mem : e ∈ log
  writes : reg e = some (k,v)
  latest : ∀ f ∈ log, ∀ u, reg f = some (k,u) → time f < time e ∨ f = e

theorem lastTo_filterMap_snoc (e : α) : lastTo k ((log ++ [e]).filterMap reg) =
    ((reg e).bind fun w => if w.1 = k then some w.2 else none).or (lastTo k (log.filterMap reg)) := by
  rw [List.filterMap_append,lastTo_append]
  cases hreg : reg e with
  | none => simp [hreg]
  | some w =>
    by_cases hk : w.1 = k
    · simp [hreg,lastTo,writesTo,hk]
    · simp [hreg,lastTo,writesTo_single_of_ne hk,hk]

theorem lastTo_filterMap_none : lastTo k (log.filterMap reg) = none ↔
    ∀ e ∈ log, ∀ v, reg e ≠ some (k,v) := by
  induction log using List.reverseRecOn with
  | nil => simp
  | append_singleton log e ih =>
    rw [lastTo_filterMap_snoc,Option.or_eq_none_iff,ih,List.forall_mem_append,
      List.forall_mem_singleton,and_comm]
    refine and_congr_right fun _ => ?_
    cases hreg : reg e with
    | none => simp
    | some w =>
      obtain ⟨j,u⟩ := w
      simp

theorem Stamped.latest (h : Stamped time reg log) (hlast : lastTo k (log.filterMap reg) = some v) :
    ∃ e, Latest time reg log k e v := by
  induction log using List.reverseRecOn with
  | nil => contradiction
  | append_singleton log e ih =>
    obtain ⟨hlog,-,hcross⟩ := List.pairwise_append.mp h
    rw [lastTo_filterMap_snoc] at hlast
    by_cases hwrites : ∃ u, reg e = some (k,u)
    · obtain ⟨u,hu⟩ := hwrites
      obtain rfl : u = v := by simpa [hu] using hlast
      refine ⟨e,by simp,hu,fun f hf u' hu' => ?_⟩
      rcases List.mem_append.mp hf with hf | hf
      · exact .inl (hcross f hf e (List.mem_singleton_self e) k u' u hu' hu)
      · exact .inr (List.mem_singleton.mp hf)
    · have hother : ((reg e).bind fun w => if w.1 = k then some w.2 else none) = none := by
        cases hreg : reg e with
        | none => rfl
        | some w =>
          obtain ⟨j,u⟩ := w
          refine if_neg ?_
          rintro rfl
          exact hwrites ⟨u,hreg⟩
      rw [hother,Option.none_or] at hlast
      obtain ⟨f,hmem,hf,hlatest⟩ := ih hlog hlast
      refine ⟨f,List.mem_append_left _ hmem,hf,fun g hg u hu => ?_⟩
      rcases List.mem_append.mp hg with hg | hg
      · exact hlatest g hg u hu
      · obtain rfl := List.mem_singleton.mp hg
        exact absurd ⟨u,hu⟩ hwrites

/-- Where the entries are in the order of their times, the latest write is the last one, however
often an entry is there. -/
theorem Latest.lastTo (hordered : log.Pairwise fun a b => time a ≤ time b)
    (h : Latest time reg log k e v) : lastTo k (log.filterMap reg) = some v := by
  induction log using List.reverseRecOn with
  | nil => exact absurd h.mem List.not_mem_nil
  | append_singleton log f ih =>
    obtain ⟨hlog,-,hcross⟩ := List.pairwise_append.mp hordered
    rw [lastTo_filterMap_snoc]
    by_cases hwrites : ∃ u, reg f = some (k,u)
    · obtain ⟨u,hu⟩ := hwrites
      have hsame : f = e := by
        rcases h.latest f (by simp) u hu with hlt | heq
        · have hbefore : e ∈ log := by
            rcases List.mem_append.mp h.mem with he | he
            · exact he
            · rw [List.mem_singleton.mp he] at hlt
              exact absurd hlt (lt_irrefl _)
          exact absurd (hcross e hbefore f (List.mem_singleton_self f)) (not_le.mpr hlt)
        · exact heq
      rw [hsame,h.writes]
      simp
    · have hbefore : e ∈ log := by
        rcases List.mem_append.mp h.mem with he | he
        · exact he
        · rw [List.mem_singleton.mp he] at h
          exact absurd ⟨v,h.writes⟩ hwrites
      rw [ih hlog ⟨hbefore,h.writes,fun g hg => h.latest g (List.mem_append_left _ hg)⟩]
      cases hreg : reg f with
      | none => rfl
      | some w =>
        obtain ⟨j,u⟩ := w
        rw [Option.bind_some,if_neg,Option.none_or]
        rintro rfl
        exact hwrites ⟨u,hreg⟩

/-- A log whose entries are read back in the order of their times, each once or more, leaves the
same in every register. -/
theorem lastTo_of_mem_iff (hordered : shown.Pairwise fun a b => time a ≤ time b)
    (hstamped : Stamped time reg log) (hmem : ∀ e, e ∈ shown ↔ e ∈ log) (k : κ) :
    lastTo k (shown.filterMap reg) = lastTo k (log.filterMap reg) := by
  cases hlast : lastTo k (log.filterMap reg) with
  | none =>
    rw [lastTo_filterMap_none] at hlast ⊢
    exact fun e he => hlast e ((hmem e).mp he)
  | some v =>
    obtain ⟨e,he,hwrites,hlatest⟩ := hstamped.latest hlast
    exact Latest.lastTo hordered
      ⟨(hmem e).mpr he,hwrites,fun f hf => hlatest f ((hmem f).mp hf)⟩

end Stamped

end Registers
