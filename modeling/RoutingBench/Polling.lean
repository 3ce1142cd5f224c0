import RoutingBench.ChangeLog
import Mathlib.Algebra.Order.Group.Defs
import Mathlib.Data.List.Chain
set_option autoImplicit false

/-!
An observer that polls a quantity from time to time. Each poll has its time, and what it answers was
so at some instant while it ran; what the log says at an instant was so not longer than a gap
before.
-/

namespace Polling
open ChangeLog

variable {τ σ ρ ε β : Type*} [LinearOrder τ]

/-- A poll: when it began, and when it was answered and what it emits was stamped. -/
structure Timed (τ ρ : Type*) where
  begun : τ
  ts : τ
  answer : ρ

def stamped (poll : σ → Bool → ρ → σ × List ε) (self : σ) (initial : Bool) (p : Timed τ ρ) :
    σ × List (τ × ε) :=
  ((poll self initial p.answer).1,(poll self initial p.answer).2.map fun e => (p.ts,e))

def timedLog (poll : σ → Bool → ρ → σ × List ε) (self : σ) (polls : List (Timed τ ρ)) :
    List (τ × ε) :=
  (observe (stamped poll) self polls).2

section Log

variable {poll : σ → Bool → ρ → σ × List ε} {self : σ} {polls front back : List (Timed τ ρ)} {x : τ}

omit [LinearOrder τ] in
theorem observe_stamped (polls : List (Timed τ ρ)) :
    (observe (stamped poll) self polls).1 = (observe poll self (polls.map Timed.answer)).1 ∧
      (timedLog poll self polls).map Prod.snd =
        (observe poll self (polls.map Timed.answer)).2 := by
  induction polls using List.reverseRecOn with
  | nil => exact ⟨rfl,rfl⟩
  | append_singleton polls p ih =>
    obtain ⟨hstate,hlog⟩ := ih
    have hempty : polls.isEmpty = (polls.map Timed.answer).isEmpty := by cases polls <;> rfl
    rw [timedLog] at hlog ⊢
    rw [List.map_append,List.map_singleton,observe_snoc,observe_snoc,stamped,hstate,hempty]
    refine ⟨rfl,?_⟩
    rw [List.map_append,hlog,emitted,emitted,stamped,hstate,hempty,List.map_map]
    exact congrArg _ (List.map_id' _)

/-- The log up to an instant is that of the polls up to it. -/
theorem timedLog_filter (hfront : ∀ p ∈ front, p.ts ≤ x) (hback : ∀ p ∈ back, x < p.ts) :
    (timedLog poll self (front ++ back)).filter (fun e => e.1 ≤ x) = timedLog poll self front := by
  induction back using List.reverseRecOn with
  | nil =>
    rw [List.append_nil,List.filter_eq_self]
    induction front using List.reverseRecOn with
    | nil => exact fun e he => absurd he List.not_mem_nil
    | append_singleton front p ih =>
      rw [timedLog,observe_snoc]
      intro e he
      rcases List.mem_append.mp he with he | he
      · exact ih (fun q hq => hfront q (List.mem_append_left _ hq)) e he
      · obtain ⟨e',-,rfl⟩ := List.mem_map.mp he
        exact decide_eq_true (hfront p (by simp))
  | append_singleton back p ih =>
    have hlate : (emitted (stamped poll) self (front ++ back) p).filter
        (fun e => decide (e.1 ≤ x)) = [] := by
      refine List.filter_eq_nil_iff.mpr fun e he => ?_
      obtain ⟨e',-,rfl⟩ := List.mem_map.mp he
      simpa using hback p (by simp)
    rw [← List.append_assoc,timedLog,observe_snoc,List.filter_append,hlate,List.append_nil]
    exact ih fun q hq => hback q (List.mem_append_left _ hq)

end Log

def lastValue (value : ρ → Option β) (polls : List (Timed τ ρ)) : Option β :=
  (polls.filterMap fun p => value p.answer).getLast?

variable [AddCommGroup τ] [IsOrderedAddMonoid τ]

/-- The polls of a quantity: what is answered was so while the poll ran, and the next answer comes
within a gap of the begin of the poll. -/
structure Polled (signal : τ → β) (value : ρ → Option β) (gap : τ) (polls : List (Timed τ ρ)) :
    Prop where
  ordered : polls.Pairwise fun p q => p.ts ≤ q.ts
  truth : ∀ p ∈ polls, ∀ v, value p.answer = some v → ∃ y, p.begun ≤ y ∧ y ≤ p.ts ∧ signal y = v
  gaps : (polls.filter fun p => (value p.answer).isSome).IsChain fun p q => q.ts ≤ p.begun + gap

variable {signal : τ → β} {value : ρ → Option β} {gap x : τ} {polls : List (Timed τ ρ)}

omit [AddCommGroup τ] [IsOrderedAddMonoid τ] in
/-- What is in the order of its times is cut in two at every instant. -/
theorem exists_cut (h : polls.Pairwise fun p q => p.ts ≤ q.ts) (x : τ) :
    ∃ front back, polls = front ++ back ∧ (∀ p ∈ front, p.ts ≤ x) ∧ ∀ p ∈ back, x < p.ts := by
  induction polls with
  | nil => exact ⟨[],[],rfl,by simp,by simp⟩
  | cons p rest ih =>
    obtain ⟨hp,hrest⟩ := List.pairwise_cons.mp h
    by_cases hx : p.ts ≤ x
    · obtain ⟨front,back,rfl,hfront,hback⟩ := ih hrest
      exact ⟨p :: front,back,rfl,List.forall_mem_cons.mpr ⟨hx,hfront⟩,hback⟩
    · refine ⟨[],p :: rest,rfl,by simp,List.forall_mem_cons.mpr ⟨not_le.mp hx,fun q hq => ?_⟩⟩
      exact (not_le.mp hx).trans_le (hp q hq)

/-- The value that was answered last was so not longer than a gap before. -/
theorem Polled.fresh (h : Polled signal value gap polls)
    (hfirst : ∃ p ∈ polls, p.ts ≤ x ∧ (value p.answer).isSome)
    (hlast : ∀ p ∈ (polls.filter fun p => (value p.answer).isSome).getLast?, x ≤ p.begun + gap) :
    ∃ front back, polls = front ++ back ∧ (∀ p ∈ front, p.ts ≤ x) ∧ (∀ p ∈ back, x < p.ts) ∧
      ∃ y, x ≤ y + gap ∧ y ≤ x ∧ lastValue value front = some (signal y) := by
  obtain ⟨front,back,rfl,hfront,hback⟩ := exists_cut h.ordered x
  refine ⟨front,back,rfl,hfront,hback,?_⟩
  obtain ⟨p₀,hp₀,hx₀,hsome₀⟩ := hfirst
  have hmem₀ : p₀ ∈ front := by
    rcases List.mem_append.mp hp₀ with hmem | hmem
    · exact hmem
    · exact absurd hx₀ (not_le.mpr (hback p₀ hmem))
  obtain ⟨init,p,hanswered⟩ : ∃ init p, front.filter (fun p => (value p.answer).isSome) =
      init ++ [p] := by
    rcases List.eq_nil_or_concat (front.filter fun p => (value p.answer).isSome) with hnil | hsome
    · rw [List.filter_eq_nil_iff] at hnil
      exact absurd hsome₀ (hnil p₀ hmem₀)
    · obtain ⟨init,p,hsome⟩ := hsome
      exact ⟨init,p,hsome.trans List.concat_eq_append⟩
  have hp : p ∈ front ∧ (value p.answer).isSome := by
    have hmem : p ∈ front.filter fun p => (value p.answer).isSome := by rw [hanswered]; simp
    simpa using hmem
  obtain ⟨v,hv⟩ := Option.isSome_iff_exists.mp hp.2
  obtain ⟨y,hbegun,hts,hsignal⟩ := h.truth p (List.mem_append_left _ hp.1) v hv
  refine ⟨y,?_,hts.trans (hfront p hp.1),?_⟩
  · have hgaps := h.gaps
    rw [List.filter_append,hanswered] at hgaps hlast
    have hend : x ≤ p.begun + gap := by
      cases hrest : back.filter fun p => (value p.answer).isSome with
      | nil =>
        rw [hrest,List.append_nil] at hlast
        exact hlast p (by simp)
      | cons q rest =>
        rw [hrest] at hgaps
        have hstep : q.ts ≤ p.begun + gap := (List.isChain_append.mp hgaps).2.2 p (by simp) q rfl
        have hq : q ∈ back := List.mem_of_mem_filter (p := fun p => (value p.answer).isSome)
          (by rw [hrest]; exact List.mem_cons_self)
        exact (hback q hq).le.trans hstep
    exact hend.trans (add_le_add_left hbegun gap)
  · have hvalues : front.filterMap (fun p => value p.answer) =
        (front.filter fun p => (value p.answer).isSome).filterMap fun p => value p.answer := by
      rw [List.filterMap_filter]
      refine List.filterMap_congr fun q _ => ?_
      cases value q.answer <;> rfl
    rw [lastValue,hvalues,hanswered,List.filterMap_append]
    simp [hv,hsignal]

end Polling
