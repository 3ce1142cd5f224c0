import RoutingBench.EventReplay
import RoutingBench.Polling
import RoutingBench.VipWatcher
set_option autoImplicit false

/-!
How late is what the rows of an observer tell? The VIP watcher asks from time to time, its events go
through the emitter, and the charts read the rows up to an instant.
-/

namespace RoutingBench
open ChangeLog Polling Registers Runs Timeline

def vipEvents (vip interface : String) (polls : List (Timed Timestamp IpAddrShow)) : List Event :=
  (timedLog VIPWatcher.checkVip ⟨vip,interface,none⟩ polls).map fun e => e.2.event e.1

section Vip

variable {vip interface : String} {polls front back : List (Timed Timestamp IpAddrShow)}
  {x : Timestamp}

theorem carries_vipEvents (polls : List (Timed Timestamp IpAddrShow)) :
    Carries (vipWatch vip interface (polls.map Timed.answer)).2
      (vipEvents vip interface polls) := by
  have hlog : (timedLog VIPWatcher.checkVip ⟨vip,interface,none⟩ polls).map Prod.snd =
      (observe VIPWatcher.checkVip ⟨vip,interface,none⟩ (polls.map Timed.answer)).2 :=
    (observe_stamped polls).2
  refine ⟨(timedLog VIPWatcher.checkVip ⟨vip,interface,none⟩ polls).map Prod.fst,?_,?_⟩
  · rw [vipWatch,← hlog,List.length_map,List.length_map]
  · rw [vipWatch,← hlog,vipEvents,List.zipWith_map,List.zipWith_self]

theorem upTo_vipEvents (hfront : ∀ p ∈ front, p.ts ≤ x) (hback : ∀ p ∈ back, x < p.ts) :
    upTo Event.ts x (vipEvents vip interface (front ++ back)) = vipEvents vip interface front := by
  rw [vipEvents,vipEvents,upTo,List.filter_map]
  exact congrArg _ (timedLog_filter hfront hback)

theorem lastSeen_answers (polls : List (Timed Timestamp IpAddrShow)) :
    lastSeen vip (polls.map Timed.answer) = lastValue (IpAddrShow.seen vip) polls := by
  rw [lastSeen,lastValue,List.filterMap_map]
  rfl

/-- What the rows tell of the address at an instant, once the emitter has delivered up to it, was so
not longer than a gap between answers before. -/
theorem vip_rows_fresh {self : Emitter} {as : List EmitterAction} {r : EmitterRun}
    {shown : List Event} {bound : Timestamp → Bool} {gap : Int} (hc : self.timescaleConnstring ≠ "")
    (hrun : run EmitterRun.step (.start self) as = some r)
    (hemits : emits as = vipEvents vip interface polls)
    (hstamped : Stamped Event.ts typeValue (emits as)) (hsettled : SettledUpTo r x)
    (hshown : Selected r.rows shown) (hpolled : Polled bound (IpAddrShow.seen vip) gap polls)
    (hsetup : ∃ p ∈ polls.head?, p.ts ≤ x ∧ ∃ stdout, p.answer = .completed stdout)
    (hlast : ∀ p ∈ (polls.filter fun p => (p.answer.seen vip).isSome).getLast?,
      x ≤ p.begun + gap) :
    ∃ y, x ≤ y + gap ∧ y ≤ x ∧
      lastTo "vip_state_change" ((upTo Event.ts x shown).filterMap typeValue) =
        some (boundText (bound y)) := by
  obtain ⟨first,hfirst,hfirstTs,stdout,hanswer⟩ := hsetup
  have hmem : first ∈ polls := List.mem_of_mem_head? hfirst
  obtain ⟨front,back,rfl,hfront,hback,y,hgap,hyx,hvalue⟩ := hpolled.fresh
    ⟨first,hmem,hfirstTs,by rw [hanswer]; rfl⟩ hlast
  refine ⟨y,hgap,hyx,?_⟩
  have hhead : (front.map Timed.answer).head? = some (.completed stdout) := by
    cases front with
    | nil =>
      have hback₀ : first ∈ back := List.mem_of_mem_head? hfirst
      exact absurd hfirstTs (not_le.mpr (hback first hback₀))
    | cons p rest =>
      obtain rfl : p = first := Option.some.inj hfirst
      rw [List.map_cons,List.head?_cons,hanswer]
  have hrows : lastTo "vip_state_change" ((upTo Event.ts x shown).filterMap typeValue) =
      lastTo "vip_state_change" ((vipEvents vip interface front).filterMap typeValue) := by
    rw [← upTo_vipEvents hfront hback,← hemits]
    exact lastTo_of_mem_iff (hshown.ordered.filter _) (hstamped.filter _)
      (fun _ => mem_upTo_iff hc hrun hsettled hshown) _
  have hlatest : latest (vipChanges (vipWatch vip interface (front.map Timed.answer)).2) =
      (lastSeen vip (front.map Timed.answer)).map boundText := (latest_of_setup hhead).1
  rw [vipChanges] at hlatest
  rw [hrows,lastTo_typeValue (carries_vipEvents front),hlatest,lastSeen_answers,hvalue]
  rfl

def vipEmitter : Emitter := { haproxyEmitter with nodeName := "patroni-node1", component := "vip" }

/-- The address is there at first; then there is no answer, and then it is gone. -/
def vipPolls : List (Timed Timestamp IpAddrShow) :=
  [⟨1777000000000000,1777000000001000,.completed vipOutput⟩,
    ⟨1777000000200000,1777000000205000,.timeoutExpired⟩,
    ⟨1777000000400000,1777000000401000,.completed ""⟩]

def vipLeaves : List Event :=
  [(⟨"vip_state_change","unbound","bound","VIP 192.168.100.100 on eth0"⟩ : Emission).event
      1777000000001000,
    (⟨"vip_state_change","bound","unbound","VIP 192.168.100.100 on eth0"⟩ : Emission).event
      1777000000401000]

theorem vip_rows_fresh_leaves : ∃ r,
    run EmitterRun.step (.start vipEmitter) (emitRepeated vipLeaves) = some r ∧
      ∃ y, (1777000000500000 : Timestamp) ≤ y + 401000 ∧ y ≤ 1777000000500000 ∧
        lastTo "vip_state_change" ((upTo Event.ts 1777000000500000
          (vipLeaves.take 1 ++ vipLeaves)).filterMap typeValue) =
            some (boundText (decide (y < 1777000000300000))) := by
  obtain ⟨r,hrun,hrows,hbuffer,hphase⟩ : ∃ r, run EmitterRun.step (.start vipEmitter)
      (emitRepeated vipLeaves) = some r ∧
        r.rows.map Entry.event = vipLeaves.take 1 ++ vipLeaves ∧
        r.proc.self.buffer = [] ∧ ∀ t, (r.proc.phase t).holding = false :=
    ⟨_,rfl,rfl,rfl,fun t => by cases t <;> rfl⟩
  have hshown : Selected r.rows (vipLeaves.take 1 ++ vipLeaves) := ⟨by rw [hrows],by decide⟩
  have hemits : emits (emitRepeated vipLeaves) =
      vipEvents "192.168.100.100" "eth0" vipPolls := by decide +kernel
  obtain ⟨hbound,hnone,hunbound⟩ : (vipPolls.get ⟨0,by decide⟩).answer.seen "192.168.100.100" =
      some true ∧ (vipPolls.get ⟨1,by decide⟩).answer.seen "192.168.100.100" = none ∧
        (vipPolls.get ⟨2,by decide⟩).answer.seen "192.168.100.100" = some false := by decide +kernel
  have hpolled : Polled (fun y => decide (y < 1777000000300000))
      (IpAddrShow.seen "192.168.100.100") (401000 : Int) vipPolls := by
    refine ⟨by decide,?_,by decide +kernel⟩
    refine List.forall_mem_cons.mpr ⟨fun v hv => ?_,List.forall_mem_cons.mpr ⟨fun v hv => ?_,
      List.forall_mem_singleton.mpr fun v hv => ?_⟩⟩
    · obtain rfl : true = v := Option.some.inj (hbound.symm.trans hv)
      exact ⟨1777000000000000,by decide,by decide,by decide⟩
    · exact absurd (hnone.symm.trans hv) (by simp)
    · obtain rfl : false = v := Option.some.inj (hunbound.symm.trans hv)
      exact ⟨1777000000400000,by decide,by decide,by decide⟩
  exact ⟨r,hrun,vip_rows_fresh (by decide) hrun hemits (.of_strict (by decide))
    (EmitterRun.Drained.settledUpTo ⟨hbuffer,hphase⟩ _) hshown hpolled
    ⟨_,rfl,by decide,vipOutput,rfl⟩ (by decide +kernel)⟩

end Vip

end RoutingBench
