import Mathlib.Data.List.Chain
import Mathlib.Data.List.Forall2
import Mathlib.Order.Basic
set_option autoImplicit false

/-!
Runs of entries with the same key, each from the time of its first entry to that of the first one
of the next run. The loop closes a run when it meets another key, and the last one at the end.
-/

namespace RunLength

structure Run (β τ : Type*) where
  start : τ
  stop : τ
  key : β
  deriving DecidableEq

variable {α β τ : Type*} [DecidableEq β] (key : α → β) (time : α → τ)

/-- The runs that are closed, and the key and the start of the one that is not. -/
def step (s : List (Run β τ) × β × τ) (a : α) : List (Run β τ) × β × τ :=
  if key a ≠ s.2.1 then (s.1 ++ [⟨s.2.2,time a,s.2.1⟩],key a,time a) else s

def encode : List α → List (Run β τ)
  | [] => []
  | a :: rest =>
    let s := (a :: rest).foldl (step key time) ([],key a,time a)
    s.1 ++ [⟨s.2.2,time ((a :: rest).getLast (List.cons_ne_nil a rest)),s.2.1⟩]

/-- The entries of a run, which are consecutive ones. -/
def Run.Holds [LE τ] (run : Run β τ) (block : List α) : Prop :=
  block ≠ [] ∧ ∀ a ∈ block, key a = run.key ∧ run.start ≤ time a ∧ time a ≤ run.stop

/-- The runs are those of the entries, without a gap and as few as can be. -/
structure Covers [LE τ] (l : List α) (runs : List (Run β τ)) : Prop where
  first : runs.head?.map Run.start = l.head?.map time
  joined : runs.IsChain fun a b => a.stop = b.start ∧ a.key ≠ b.key
  starts : runs.Pairwise fun a b => a.start ≤ b.start
  covered : ∃ blocks : List (List α), blocks.flatten = l ∧
    List.Forall₂ (Run.Holds key time) runs blocks
  count : runs.length = (l.zip l.tail).countP (fun p => key p.1 ≠ key p.2) + 1

/-- They end with the last entry. -/
structure Exact [LE τ] (l : List α) (runs : List (Run β τ)) : Prop extends
    Covers key time l runs where
  last : runs.getLast?.map Run.stop = l.getLast?.map time

variable {key time} {l : List α} {a : α} {init : List (Run β τ)} {last : Run β τ}

theorem step_key (s : List (Run β τ) × β × τ) (a : α) : (step key time s a).2.1 = key a := by
  by_cases h : key a = s.2.1 <;> simp [step,h]

theorem foldl_key (h : l ≠ []) (s : List (Run β τ) × β × τ) :
    (l.foldl (step key time) s).2.1 = key (l.getLast h) := by
  induction l using List.reverseRecOn with
  | nil => contradiction
  | append_singleton l a ih => rw [List.foldl_concat,step_key,List.getLast_append_singleton]

variable (key time) in
/-- Another entry is the end of the last run, and the beginning of a new one if its key differs. -/
theorem encode_concat (h : l ≠ []) (a : α) : ∃ init last, encode key time l = init ++ [last] ∧
    last.key = key (l.getLast h) ∧ encode key time (l ++ [a]) =
      init ++ { last with stop := time a } ::
        if key a = last.key then [] else [⟨time a,time a,key a⟩] := by
  obtain ⟨b,rest,rfl⟩ := List.exists_cons_of_ne_nil h
  refine ⟨_,_,rfl,foldl_key h _,?_⟩
  have hfold : (b :: (rest ++ [a])).foldl (step key time) ([],key b,time b) =
      step key time ((b :: rest).foldl (step key time) ([],key b,time b)) a := List.foldl_concat ..
  have hlast : (b :: (rest ++ [a])).getLast (List.cons_ne_nil b _) = a :=
    List.getLast_append_singleton (b :: rest)
  simp only [List.cons_append,encode,hfold,hlast,step,ne_eq,ite_not]
  split
  · rfl
  · rw [List.append_assoc]
    rfl

theorem pairs_concat (h : l ≠ []) (p : α × α → Bool) :
    ((l ++ [a]).zip (l ++ [a]).tail).countP p =
      (l.zip l.tail).countP p + if p (l.getLast h,a) then 1 else 0 := by
  obtain ⟨b,rest,rfl⟩ := List.exists_cons_of_ne_nil h
  induction rest generalizing b with
  | nil => by_cases hp : p (b,a) <;> simp [hp]
  | cons c rest ih =>
    have hrest := ih c (List.cons_ne_nil c rest)
    simp only [List.cons_append,List.tail_cons,List.zip_cons_cons,List.countP_cons] at hrest ⊢
    rw [hrest,List.getLast_cons_cons]
    omega

theorem forall₂_concat_left {γ δ : Type*} {R : γ → δ → Prop} {xs : List γ} {x : γ} {ys : List δ} :
    List.Forall₂ R (xs ++ [x]) ys ↔ ∃ zs y, ys = zs ++ [y] ∧ List.Forall₂ R xs zs ∧ R x y := by
  constructor
  · intro h
    have hreverse := List.forall₂_reverse_iff.mpr h
    rw [List.reverse_append,List.reverse_singleton,List.singleton_append,
      List.forall₂_cons_left_iff] at hreverse
    obtain ⟨y,zs,hy,hzs,heq⟩ := hreverse
    refine ⟨zs.reverse,y,?_,?_,hy⟩
    · rw [← List.reverse_reverse ys,heq,List.reverse_cons]
    · rw [← List.forall₂_reverse_iff,List.reverse_reverse]
      exact hzs
  · rintro ⟨zs,y,rfl,hzs,hy⟩
    exact List.rel_append hzs (List.forall₂_cons.mpr ⟨hy,List.Forall₂.nil⟩)

variable [Preorder τ]

theorem Covers.widen (h : Covers key time l (init ++ [last])) {stop : τ}
    (hstop : ∀ b ∈ l, time b ≤ stop) :
    Covers key time l (init ++ [{ last with stop := stop }]) := by
  obtain ⟨blocks,rfl,hholds⟩ := h.covered
  obtain ⟨blocks,block,rfl,hinit,hne,hblock⟩ := forall₂_concat_left.mp hholds
  constructor
  case first =>
    rw [← h.first]
    cases init <;> rfl
  case joined =>
    obtain ⟨hchain,-,hlast⟩ := List.isChain_append.mp h.joined
    exact List.isChain_append.mpr ⟨hchain,List.isChain_singleton _,by simpa using hlast⟩
  case starts =>
    obtain ⟨hpairs,-,hlast⟩ := List.pairwise_append.mp h.starts
    exact List.pairwise_append.mpr ⟨hpairs,List.pairwise_singleton _ _,by simpa using hlast⟩
  case covered =>
    refine ⟨_,rfl,forall₂_concat_left.mpr ⟨blocks,block,rfl,hinit,hne,fun b hb => ?_⟩⟩
    obtain ⟨hkey,hstart,-⟩ := hblock b hb
    exact ⟨hkey,hstart,hstop b (by simp [hb])⟩
  case count => simpa using h.count

theorem Covers.le (h : Covers key time l (init ++ [last])) : last.start ≤ last.stop := by
  obtain ⟨blocks,-,hholds⟩ := h.covered
  obtain ⟨-,block,-,-,hne,hblock⟩ := forall₂_concat_left.mp hholds
  obtain ⟨b,hb⟩ := List.exists_mem_of_ne_nil block hne
  exact (hblock b hb).2.1.trans (hblock b hb).2.2

theorem Covers.extend (h : Covers key time l (init ++ [last])) (hl : l ≠ [])
    (hlast : last.key = key (l.getLast hl)) (hstop : last.stop = time a)
    (hkey : key a = last.key) : Covers key time (l ++ [a]) (init ++ [last]) := by
  obtain ⟨blocks,rfl,hholds⟩ := h.covered
  obtain ⟨blocks,block,rfl,hinit,hne,hblock⟩ := forall₂_concat_left.mp hholds
  constructor
  case first => rw [h.first,List.head?_append_of_ne_nil _ hl]
  case joined => exact h.joined
  case starts => exact h.starts
  case covered =>
    refine ⟨blocks ++ [block ++ [a]],by simp,
      forall₂_concat_left.mpr ⟨blocks,_,rfl,hinit,by simp,?_⟩⟩
    intro b hb
    rcases List.mem_append.mp hb with hb | hb
    · exact hblock b hb
    · obtain rfl := List.mem_singleton.mp hb
      exact ⟨hkey,hstop ▸ h.le,hstop.ge⟩
  case count => rw [h.count,pairs_concat hl,← hlast,hkey]; simp

theorem Covers.beginRun (h : Covers key time l (init ++ [last])) (hl : l ≠ [])
    (hlast : last.key = key (l.getLast hl)) (hstop : last.stop = time a)
    (hkey : key a ≠ last.key) :
    Covers key time (l ++ [a]) (init ++ [last] ++ [⟨time a,time a,key a⟩]) := by
  obtain ⟨blocks,rfl,hholds⟩ := h.covered
  constructor
  case first =>
    rw [List.head?_append_of_ne_nil _ (by simp),h.first,List.head?_append_of_ne_nil _ hl]
  case joined =>
    refine List.isChain_append.mpr ⟨h.joined,List.isChain_singleton _,?_⟩
    simpa using ⟨hstop,hkey.symm⟩
  case starts =>
    refine List.pairwise_append.mpr ⟨h.starts,List.pairwise_singleton _ _,?_⟩
    obtain ⟨-,-,hle⟩ := List.pairwise_append.mp h.starts
    simp only [List.mem_singleton,forall_eq,List.forall_mem_append] at hle ⊢
    have hstart : last.start ≤ time a := hstop ▸ h.le
    exact ⟨fun run hrun => (hle run hrun).trans hstart,hstart⟩
  case covered =>
    refine ⟨blocks ++ [[a]],by simp,forall₂_concat_left.mpr ⟨blocks,[a],rfl,hholds,by simp,?_⟩⟩
    simp
  case count =>
    rw [List.length_append,h.count,pairs_concat hl,← hlast]
    simp [hkey.symm]

theorem encode_exact_singleton (a : α) : Exact key time [a] (encode key time [a]) where
  first := by simp [encode,step]
  joined := by simp [encode,step]
  starts := by simp [encode,step]
  covered := ⟨[[a]],rfl,by simp [encode,step,Run.Holds]⟩
  count := by simp [encode,step]
  last := by simp [encode,step]

/-- Of entries that are in the order of their times. -/
theorem encode_exact (h : l ≠ []) (hsorted : l.Pairwise fun a b => time a ≤ time b) :
    Exact key time l (encode key time l) := by
  induction l using List.reverseRecOn with
  | nil => contradiction
  | append_singleton l a ih =>
    obtain ⟨hrest,-,hle⟩ := List.pairwise_append.mp hsorted
    simp only [List.mem_singleton,forall_eq] at hle
    rcases eq_or_ne l [] with rfl | hl
    · exact encode_exact_singleton a
    · obtain ⟨init,last,hruns,hlast,hnew⟩ := encode_concat key time hl a
      have hcovers := (ih hl hrest).toCovers
      rw [hruns] at hcovers
      have hwide := hcovers.widen hle
      rw [hnew]
      by_cases hkey : key a = last.key
      · rw [if_pos hkey]
        exact ⟨hwide.extend hl hlast rfl hkey,by simp⟩
      · have hbegin := hwide.beginRun hl hlast rfl hkey
        rw [List.append_assoc] at hbegin
        rw [if_neg hkey]
        exact ⟨hbegin,by simp⟩

end RunLength
