import RoutingBench.PhaseTiling
set_option autoImplicit false

/-!
The phases that may overlap: each takes its ends from events of its own, and not all of them
are compared. Are they intervals?
-/

namespace RoutingBench
open Aggregate

structure OverlapPhase.WellFormed (p : OverlapPhase) : Prop where
  ordered : p.start ≤ p.stop
  instant_iff : p.instant = true ↔ p.start = p.stop

/-- All phases are intervals, and the recovery is not before the failure. -/
structure OverlapsWellFormed (result : List OverlapPhase × OverlapMarkers) : Prop where
  phases : ∀ p ∈ result.1, p.WellFormed
  markers : ∀ f ∈ result.2.firstFailure, ∀ r ∈ result.2.firstRecovery, f ≤ r

/-- If the leader key is deleted and a query fails, some deletion is not before some failure. -/
def DeletedAfterFailure (obs : List ObserverFrameRow) (cli : List ClientFrameRow) : Prop :=
  (∃ r ∈ obs, r.deletesLeaderKey) → (∃ q ∈ cli, q.success = false) →
    ∃ r ∈ obs, r.deletesLeaderKey ∧ ∃ q ∈ cli, q.success = false ∧ q.ts ≤ r.ts

section Ends

variable {obs : List ObserverFrameRow} {cli : List ClientFrameRow} {name : String}
  {start stop : Option Timestamp} {s e : Timestamp}

theorem addPhase_wellFormed_iff :
    (∀ p ∈ addPhase name start stop, p.WellFormed) ↔ ∀ s ∈ start, ∀ e ∈ stop, s ≤ e := by
  cases start with
  | none => simp [addPhase]
  | some s =>
    cases stop with
    | none => simp [addPhase]
    | some e =>
      simp only [addPhase,List.forall_mem_singleton,Option.mem_some_iff,forall_eq']
      exact ⟨OverlapPhase.WellFormed.ordered,fun h => ⟨h,beq_iff_eq⟩⟩

theorem head?_le_head?_filter (hobs : obs.Pairwise fun a b => a.ts ≤ b.ts)
    (p : ObserverFrameRow → Bool) (hs : (obs.map ObserverFrameRow.ts).head? = some s)
    (he : ((obs.filter p).map ObserverFrameRow.ts).head? = some e) : s ≤ e := by
  cases obs with
  | nil => contradiction
  | cons r rest =>
    obtain rfl : r.ts = s := by simpa using hs
    obtain ⟨r',hr',rfl⟩ := List.mem_map.mp (List.mem_of_mem_head? he)
    rcases List.mem_cons.mp (List.mem_of_mem_filter hr') with rfl | hrest
    · exact le_rfl
    · exact (List.pairwise_cons.mp hobs).1 r' hrest

theorem haproxySpan_ordered (hobs : obs.Pairwise fun a b => a.ts ≤ b.ts)
    (firstFailure : Option Timestamp) :
    ∀ s ∈ (haproxySpan obs firstFailure).1, ∀ e ∈ (haproxySpan obs firstFailure).2, s ≤ e := by
  intro s hs e he
  have hafter := hobs.filter fun r =>
    r.eventType == "backend_state_change" && firstFailure.all (· ≤ r.ts)
  simp only [haproxySpan,Option.mem_def] at hs he
  split at he
  · exact head?_le_head?_filter hafter _ hs he
  · rw [List.filter_filter] at he
    exact head?_le_head?_filter hafter _ hs he

theorem recovery_ordered {m t : Timestamp}
    (hrec : minWhere (fun r => r.success && exceeds r.ts (maxWhere (fun r => !r.success)
      ClientFrameRow.ts cli)) ClientFrameRow.ts cli = some t)
    (hmax : maxWhere (fun r => !r.success) ClientFrameRow.ts cli = some m) : m < t := by
  obtain ⟨⟨q,-,hq,rfl⟩,-⟩ := minWhere_eq_some_iff.mp hrec
  rw [Bool.and_eq_true,hmax,exceeds_some] at hq
  exact hq.2

theorem firstTs_mem {mask : ObserverFrameRow → Bool} (h : firstTs obs mask = some e) :
    ∃ r ∈ obs, mask r = true ∧ r.ts = e := by
  obtain ⟨r,hr,rfl⟩ := List.mem_map.mp (List.mem_of_mem_head? h)
  exact ⟨r,(List.mem_filter.mp hr).1,(List.mem_filter.mp hr).2,rfl⟩

theorem promotion_ordered (mask : ObserverFrameRow → Bool) (start : Option Timestamp) :
    ∀ s ∈ start, ∀ e ∈ firstTs obs (fun r => mask r && start.all (· ≤ r.ts)), s ≤ e := by
  rintro s rfl e he
  obtain ⟨r,-,hr,rfl⟩ := firstTs_mem he
  rw [Bool.and_eq_true] at hr
  simpa using hr.2

theorem firstFailure_le_recovery {f m t : Timestamp}
    (hmin : minWhere (fun r => !r.success) ClientFrameRow.ts cli = some f)
    (hmax : maxWhere (fun r => !r.success) ClientFrameRow.ts cli = some m) (hlt : m < t) :
    f ≤ t := by
  obtain ⟨⟨q,hq,hfail,rfl⟩,-⟩ := minWhere_eq_some_iff.mp hmin
  exact ((maxWhere_eq_some_iff.mp hmax).2 q hq hfail).trans hlt.le

/-- The only span that nothing guards is that from the failure to the deletion of the key. -/
theorem detection_ordered_iff (hobs : obs.Pairwise fun a b => a.ts ≤ b.ts) :
    (∀ s ∈ minWhere (fun r => !r.success) ClientFrameRow.ts cli,
      ∀ e ∈ lastTs obs fun r => r.eventType == "leader_key_deleted", s ≤ e) ↔
        DeletedAfterFailure obs cli := by
  rw [lastTs,getLast?_eq_maxWhere hobs]
  constructor
  · rintro h ⟨r,hr,hdel⟩ ⟨q,hq,hfail⟩
    obtain ⟨s,hs⟩ := exists_minWhere (f := ClientFrameRow.ts) (p := fun q => !q.success) hq
      (by simpa using hfail)
    have hmask : (r.eventType == "leader_key_deleted") = true := beq_iff_eq.mpr hdel
    obtain ⟨e,he⟩ := exists_maxWhere (f := ObserverFrameRow.ts)
      (p := fun r => r.eventType == "leader_key_deleted") hr hmask
    have hle := h s hs e he
    obtain ⟨⟨q',hq',hfail',rfl⟩,-⟩ := minWhere_eq_some_iff.mp hs
    obtain ⟨⟨r',hr',hdel',rfl⟩,-⟩ := maxWhere_eq_some_iff.mp he
    exact ⟨r',hr',beq_iff_eq.mp hdel',q',hq',by simpa using hfail',hle⟩
  · intro h s hs e he
    obtain ⟨⟨q,hq,hfail,rfl⟩,hfirst⟩ := minWhere_eq_some_iff.mp hs
    obtain ⟨⟨r,hr,hdel,rfl⟩,hlast⟩ := maxWhere_eq_some_iff.mp he
    obtain ⟨r',hr',hdel',q',hq',hfail',hle⟩ :=
      h ⟨r,hr,beq_iff_eq.mp hdel⟩ ⟨q,hq,by simpa using hfail⟩
    calc q.ts ≤ q'.ts := hfirst q' hq' (by simpa using hfail')
      _ ≤ r'.ts := hle
      _ ≤ r.ts := hlast r' hr' (beq_iff_eq.mpr hdel')

/-- The phases are intervals, and the markers in order, if and only if the last deletion of the
leader key is not before all failures. -/
theorem overlaps_wellFormed_iff (hobs : obs.Pairwise fun a b => a.ts ≤ b.ts)
    (cli : List ClientFrameRow) :
    OverlapsWellFormed (extractOverlapPhases obs cli) ↔ DeletedAfterFailure obs cli := by
  rw [← detection_ordered_iff hobs,← addPhase_wellFormed_iff]
  constructor
  · intro h p hp
    refine h.phases p ?_
    simp only [extractOverlapPhases,List.mem_append]
    exact .inl (.inl (.inl hp))
  · intro h
    constructor
    · intro p hp
      simp only [extractOverlapPhases,List.mem_append] at hp
      rcases hp with ((hp | hp) | hp) | hp
      · exact h p hp
      · exact addPhase_wellFormed_iff.mpr (promotion_ordered _ _) p hp
      · exact addPhase_wellFormed_iff.mpr (haproxySpan_ordered hobs _) p hp
      · refine addPhase_wellFormed_iff.mpr (fun m hm t ht => ?_) p hp
        exact (recovery_ordered ht hm).le
    · intro f hf t ht
      cases hmax : maxWhere (fun r => !r.success) ClientFrameRow.ts cli with
      | none =>
        obtain ⟨⟨q,hq,hfail,-⟩,-⟩ := minWhere_eq_some_iff.mp hf
        simp [maxWhere_eq_none_iff.mp hmax q hq] at hfail
      | some m => exact firstFailure_le_recovery hf hmax (recovery_ordered ht hmax)

end Ends

theorem overlaps_wellFormed_keyDeleted :
    OverlapsWellFormed (extractOverlapPhases (keyDeletedAt 12000000) outageQueries) :=
  (overlaps_wellFormed_iff (List.pairwise_singleton _ _) _).mpr fun _ _ =>
    ⟨_,List.mem_singleton_self _,rfl,⟨_,List.mem_of_mem_tail List.mem_cons_self,rfl,by decide⟩⟩

/-- If the key is deleted while the connection still holds, the detection ends before it starts. -/
theorem keyDeleted_not_wellFormed :
    ¬ OverlapsWellFormed (extractOverlapPhases (keyDeletedAt 9500000) outageQueries) := by
  intro h
  exact absurd (h.phases _ List.mem_cons_self).ordered (by decide)

end RoutingBench
