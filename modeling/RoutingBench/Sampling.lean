import RoutingBench.Aggregate
import Mathlib.Algebra.Order.Group.Abs
import Mathlib.Data.List.Chain
import Mathlib.Data.List.Pairwise
import Mathlib.Tactic.Abel
set_option autoImplicit false

/-!
What probes tell of an outage. Probes follow each other, each takes some time, and what it answers
was true at some instant of that time. Between the start of the first probe that fails and the start
of the first one after it that succeeds lies the outage, but for two gaps between probes.
-/

namespace Sampling
open Aggregate

variable {τ : Type*} [AddCommGroup τ] [LinearOrder τ] [IsOrderedAddMonoid τ]

structure Probe (τ : Type*) where
  start : τ
  stop : τ
  ok : Bool

/-- The service is down from `a` to before `b`. -/
def Outage (a b x : τ) : Prop := a ≤ x ∧ x < b

instance (a b x : τ) : Decidable (Outage a b x) := inferInstanceAs (Decidable (_ ∧ _))

/-- Probes of a service, one after the other and with a start in every `gap`. -/
structure Sampled (down : τ → Prop) (gap : τ) (probes : List (Probe τ)) : Prop where
  sequential : probes.Pairwise fun p q => p.stop ≤ q.start
  short : ∀ p ∈ probes, p.stop ≤ p.start + gap
  gaps : probes.IsChain fun p q => q.start ≤ p.start + gap
  seen : ∀ p ∈ probes, ∃ x, p.start ≤ x ∧ x ≤ p.stop ∧ (p.ok = true ↔ ¬down x)

/-- The probes go over an outage that is not too short for them. -/
structure Covers (a b gap : τ) (probes : List (Probe τ)) : Prop where
  long : a + (gap + gap) < b
  before : ∀ p ∈ probes.head?, p.start ≤ a
  after : ∃ p ∈ probes, b ≤ p.start

def firstFailure (probes : List (Probe τ)) : Option τ :=
  minWhere (fun p => !p.ok) Probe.start probes

def firstRecovery (probes : List (Probe τ)) : Option τ :=
  minWhere (fun p => p.ok && exceeds p.start (firstFailure probes)) Probe.start probes

section Starts

variable {gap y : τ} {probes : List (Probe τ)}

theorem exists_start (hgaps : probes.IsChain fun p q => q.start ≤ p.start + gap)
    (hbefore : ∀ p ∈ probes.head?, p.start ≤ y + gap) (hafter : ∃ p ∈ probes, y ≤ p.start) :
    ∃ p ∈ probes, y ≤ p.start ∧ p.start ≤ y + gap := by
  induction probes with
  | nil =>
    obtain ⟨p,hp,-⟩ := hafter
    contradiction
  | cons p rest ih =>
    by_cases hp : y ≤ p.start
    · exact ⟨p,List.mem_cons_self,hp,hbefore p rfl⟩
    · obtain ⟨q,hq,hyq⟩ := hafter
      have hrest : q ∈ rest := by
        rcases List.mem_cons.mp hq with rfl | hq
        · exact absurd hyq hp
        · exact hq
      obtain ⟨hstep,htail⟩ := List.isChain_cons.mp hgaps
      have hnext : ∀ r ∈ rest.head?, r.start ≤ y + gap := fun r hr =>
        (hstep r hr).trans (add_le_add_left (not_le.mp hp).le gap)
      obtain ⟨r,hr,hw⟩ := ih htail hnext ⟨q,hrest,hyq⟩
      exact ⟨r,List.mem_cons_of_mem p hr,hw⟩

end Starts

section Outage

variable {a b gap : τ} {down : τ → Prop} {probes : List (Probe τ)} {p q : Probe τ}

omit [IsOrderedAddMonoid τ] in
theorem Sampled.start_le_stop (h : Sampled down gap probes) (hp : p ∈ probes) :
    p.start ≤ p.stop := by
  obtain ⟨x,hstart,hstop,-⟩ := h.seen p hp
  exact hstart.trans hstop

omit [IsOrderedAddMonoid τ] in
theorem Sampled.stop_le_start (h : Sampled down gap probes) (hp : p ∈ probes) (hq : q ∈ probes)
    (hlt : p.start < q.start) : p.stop ≤ q.start := by
  have heither : p.stop ≤ q.start ∨ q.stop ≤ p.start := by
    have hsymm : Std.Symm fun p q : Probe τ => p.stop ≤ q.start ∨ q.stop ≤ p.start :=
      ⟨fun _ _ => Or.symm⟩
    have hpair : probes.Pairwise fun p q => p.stop ≤ q.start ∨ q.stop ≤ p.start :=
      h.sequential.imp Or.inl
    refine hpair.forall hp hq fun heq => ?_
    rw [heq] at hlt
    exact lt_irrefl _ hlt
  rcases heither with hle | hle
  · exact hle
  · exact absurd ((h.start_le_stop hq).trans hle) (not_le.mpr hlt)

omit [IsOrderedAddMonoid τ] in
theorem Sampled.failed (h : Sampled (Outage a b) gap probes) (hp : p ∈ probes)
    (hok : p.ok = false) : p.start < b ∧ a ≤ p.stop := by
  obtain ⟨x,hstart,hstop,hseen⟩ := h.seen p hp
  have hdown : Outage a b x := by
    by_contra hup
    rw [hseen.mpr hup] at hok
    contradiction
  exact ⟨hstart.trans_lt hdown.2,hdown.1.trans hstop⟩

omit [IsOrderedAddMonoid τ] in
theorem Sampled.succeeded (h : Sampled (Outage a b) gap probes) (hp : p ∈ probes)
    (hok : p.ok = true) (ha : a ≤ p.start) : b ≤ p.stop := by
  obtain ⟨x,hstart,hstop,hseen⟩ := h.seen p hp
  have hup := hseen.mp hok
  rw [Outage,not_and,not_lt] at hup
  exact (hup (ha.trans hstart)).trans hstop

/-- The first probe that fails starts within a gap of the beginning of the outage. -/
theorem Sampled.firstFailure_near (h : Sampled (Outage a b) gap probes)
    (hc : Covers a b gap probes) :
    ∃ f, firstFailure probes = some f ∧ |f - a| ≤ gap ∧ f < b := by
  have hgap : 0 ≤ gap := by
    obtain ⟨p,hp,-⟩ := hc.after
    exact le_add_iff_nonneg_right p.start |>.mp ((h.start_le_stop hp).trans (h.short p hp))
  have hb : ∃ p ∈ probes, a ≤ p.start := by
    obtain ⟨p,hp,hle⟩ := hc.after
    refine ⟨p,hp,le_trans ?_ hle⟩
    exact ((le_add_of_nonneg_right (add_nonneg hgap hgap)).trans_lt hc.long).le
  obtain ⟨p,hp,hap,hpa⟩ := exists_start h.gaps
    (fun p hp => (hc.before p hp).trans (le_add_of_nonneg_right hgap)) hb
  have hpfail : p.ok = false := by
    cases hok : p.ok with
    | false => rfl
    | true =>
      have hstop : p.stop ≤ a + (gap + gap) := by
        rw [← add_assoc]
        exact (h.short p hp).trans (add_le_add_left hpa gap)
      exact absurd (h.succeeded hp hok hap) (not_le.mpr (hstop.trans_lt hc.long))
  obtain ⟨f,hf⟩ : ∃ f, firstFailure probes = some f :=
    exists_minWhere hp (by simp [hpfail])
  obtain ⟨⟨q,hq,hqfail,rfl⟩,hleast⟩ := minWhere_eq_some_iff.mp hf
  have hqfailed := h.failed hq (by simpa using hqfail)
  have hqa : q.start ≤ a + gap := (hleast p hp (by simp [hpfail])).trans hpa
  have haq : a ≤ q.start + gap := hqfailed.2.trans (h.short q hq)
  exact ⟨q.start,hf,abs_sub_le_iff.mpr ⟨sub_le_iff_le_add'.mpr hqa,sub_le_iff_le_add'.mpr haq⟩,
    hqfailed.1⟩

omit [IsOrderedAddMonoid τ] in
/-- A probe that succeeds after one has failed has seen the end of the outage. -/
theorem Sampled.recovered (h : Sampled (Outage a b) gap probes) (hp : p ∈ probes)
    (hpfail : p.ok = false) (hq : q ∈ probes) (hqok : q.ok = true) (hlt : p.start < q.start) :
    b ≤ q.stop :=
  h.succeeded hq hqok ((h.failed hp hpfail).2.trans (h.stop_le_start hp hq hlt))

/-- The first probe after it that succeeds starts within a gap of the end of the outage. -/
theorem Sampled.firstRecovery_near (h : Sampled (Outage a b) gap probes)
    (hc : Covers a b gap probes) :
    ∃ r, firstRecovery probes = some r ∧ |r - b| ≤ gap := by
  obtain ⟨f,hf,-,hfb⟩ := h.firstFailure_near hc
  obtain ⟨⟨p,hp,hpfail,hpf⟩,-⟩ := minWhere_eq_some_iff.mp hf
  have hgap : 0 ≤ gap :=
    le_add_iff_nonneg_right p.start |>.mp ((h.start_le_stop hp).trans (h.short p hp))
  have hab : a ≤ b := ((le_add_of_nonneg_right (add_nonneg hgap hgap)).trans_lt hc.long).le
  obtain ⟨q,hq,hbq,hqb⟩ := exists_start h.gaps
    (fun p hp => ((hc.before p hp).trans hab).trans (le_add_of_nonneg_right hgap)) hc.after
  have hqok : q.ok = true := by
    cases hok : q.ok with
    | true => rfl
    | false => exact absurd (h.failed hq hok).1 (not_lt.mpr hbq)
  have hafter : (q.ok && exceeds q.start (firstFailure probes)) = true := by
    rw [hf,hqok,Bool.true_and,exceeds_some]
    exact hfb.trans_le hbq
  obtain ⟨r,hr⟩ : ∃ r, firstRecovery probes = some r := exists_minWhere hq hafter
  obtain ⟨⟨s,hs,hsok,rfl⟩,hleast⟩ := minWhere_eq_some_iff.mp hr
  rw [hf,Bool.and_eq_true,exceeds_some,← hpf] at hsok
  have hstop := h.recovered hp (by simpa using hpfail) hs hsok.1 hsok.2
  have hsb : s.start ≤ b + gap := (hleast q hq hafter).trans hqb
  have hbs : b ≤ s.start + gap := hstop.trans (h.short s hs)
  exact ⟨s.start,hr,abs_sub_le_iff.mpr ⟨sub_le_iff_le_add'.mpr hsb,sub_le_iff_le_add'.mpr hbs⟩⟩

/-- What lies between the two is the length of the outage but for two gaps. -/
theorem Sampled.measured (h : Sampled (Outage a b) gap probes) (hc : Covers a b gap probes) :
    ∃ f r, firstFailure probes = some f ∧ firstRecovery probes = some r ∧
      |f - a| ≤ gap ∧ |r - b| ≤ gap ∧ |r - f - (b - a)| ≤ gap + gap := by
  obtain ⟨f,hf,hfa,-⟩ := h.firstFailure_near hc
  obtain ⟨r,hr,hrb⟩ := h.firstRecovery_near hc
  refine ⟨f,r,hf,hr,hfa,hrb,?_⟩
  calc |r - f - (b - a)| = |r - b - (f - a)| := by rw [sub_sub_sub_comm]
    _ ≤ |r - b| + |f - a| := abs_sub _ _
    _ ≤ gap + gap := add_le_add hrb hfa

end Outage

end Sampling
