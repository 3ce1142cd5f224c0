import RoutingBench.Registers
import RoutingBench.Runs
import Mathlib.Data.List.DropRight
set_option autoImplicit false

/-!
Routing that Patroni's callbacks drive: the VIP of combination 04 and HAProxy's primary backend
in combination 09, next to the scripts that consul-template renders for the same backend in
combination 08. Who gets the traffic after any series of role changes, some of whose commands
were lost?
-/

namespace RoutingBench
open Registers

structure HostName where
  text : String
  wellFormed : ∀ c ∈ text.toList, c.isAlphanum = true ∨ c = '-' ∨ c = '.'
  deriving DecidableEq

/-- `$1`, `$2` and `$3` of a callback. -/
structure CallbackArgs where
  action : String
  role : String
  scope : String
  deriving DecidableEq, Repr

def CallbackArgs.isPrimary (args : CallbackArgs) : Bool :=
  args.role == "master" || args.role == "primary"

/-! ### The VIP of combination 04 -/

/-- `sudo ip addr add … || true`: an address that is there stays, and so does the state when the
command fails. -/
def ipAddrAdd (ok bound : Bool) : Bool := bound || ok

/-- `sudo ip addr del … || true`. -/
def ipAddrDel (ok bound : Bool) : Bool := bound && !ok

/-- `vip_callback.sh`; neither the action nor the scope is looked at. -/
def vipCallback (args : CallbackArgs) (ok bound : Bool) : Bool :=
  if args.isPrimary then ipAddrAdd ok bound else ipAddrDel ok bound

/-- `vip_post_init.sh`, on the node that bootstraps the cluster. -/
def vipPostInit (ok bound : Bool) : Bool := ipAddrAdd ok bound

/-- What happens to the nodes; a node that starts anew has no VIP on its interface. -/
inductive VipEvent where
  | callback (node : HostName) (args : CallbackArgs) (ok : Bool)
  | postInit (node : HostName) (ok : Bool)
  | restart (node : HostName)

/-- Which nodes have the VIP. -/
abbrev Vip := HostName → Bool

def Vip.step (vip : Vip) : VipEvent → Vip
  | .callback node args ok => Function.update vip node (vipCallback args ok (vip node))
  | .postInit node ok => Function.update vip node (vipPostInit ok (vip node))
  | .restart node => Function.update vip node false

def Vip.run (vip : Vip) (events : List VipEvent) : Vip := events.foldl Vip.step vip

/-- The node that an event binds the VIP to or takes it from, if its command is not lost. -/
def VipEvent.write? : VipEvent → Option (HostName × Bool)
  | .callback node args ok => if ok then some (node,args.isPrimary) else none
  | .postInit node ok => if ok then some (node,true) else none
  | .restart node => some (node,false)

def vipWrites (events : List VipEvent) : List (HostName × Bool) :=
  events.filterMap VipEvent.write?

theorem Vip.step_eq (vip : Vip) (event : VipEvent) :
    vip.step event = replay vip event.write?.toList := by
  cases event with
  | callback node args ok =>
    cases ok <;> cases h : args.isPrimary <;>
      simp [Vip.step,VipEvent.write?,vipCallback,ipAddrAdd,ipAddrDel,h,write]
  | postInit node ok =>
    cases ok <;> simp [Vip.step,VipEvent.write?,vipPostInit,ipAddrAdd,write]
  | restart node => simp [Vip.step,VipEvent.write?,write]

theorem Vip.run_eq (vip : Vip) (events : List VipEvent) :
    vip.run events = replay vip (vipWrites events) := by
  induction events generalizing vip with
  | nil => rfl
  | cons event events ih =>
    have hw : vipWrites (event :: events) = event.write?.toList ++ vipWrites events := by
      cases h : event.write? <;> simp [vipWrites,h]
    rw [hw,replay_append,← Vip.step_eq,← ih]
    rfl

/-- A step keeps the VIP on one node at most exactly if it does not bind it while another node
has it. -/
theorem Vip.exclusive_step {vip : Vip} (h : Exclusive true vip) (event : VipEvent) :
    Exclusive true (vip.step event) ↔
      ∀ node, event.write? = some (node,true) → ∀ other, other ≠ node → vip other = false := by
  rw [Vip.step_eq]
  cases hw : event.write? with
  | none => simpa using h
  | some w =>
    obtain ⟨node,bound⟩ := w
    rw [Option.toList_some,replay_cons,replay_nil,exclusive_write h]
    cases bound with
    | false => simp
    | true => simp

inductive AdminState where
  | ready
  | maint
  deriving DecidableEq, Repr

def AdminState.word : AdminState → String
  | .ready => "ready"
  | .maint => "maint"

def setServer (node : HostName) (state : AdminState) : String :=
  "set server primary_backend/" ++ node.text ++ " state " ++ state.word ++ "\n"

/-- The administrative states of the servers of `primary_backend`. -/
abbrev PrimaryBackend := HostName → Option AdminState

/-- HAProxy's Runtime API: a command sets the state of a server that there is. -/
structure RuntimeApi where
  exec : PrimaryBackend → String → PrimaryBackend
  exec_setServer : ∀ backend node state, exec backend (setServer node state) =
    if (backend node).isSome then Function.update backend node (some state) else backend

/-- The `server` lines of `primary_backend` in a `haproxy.cfg`: a server that is `disabled`
there starts in maintenance. -/
def haproxyCfg (initial : AdminState) (servers : List HostName) : PrimaryBackend := fun node =>
  if node ∈ servers then some initial else none

/-- `STATE` in `haproxy_callback.sh`. -/
def callbackState (args : CallbackArgs) : AdminState := if args.isPrimary then .ready else .maint

def haproxyCallback (node : HostName) (args : CallbackArgs) : String :=
  setServer node (callbackState args)

/-- A role change, whose command may not get through, or a start of HAProxy. -/
inductive CallbackEvent where
  | roleChange (node : HostName) (args : CallbackArgs) (delivered : Bool)
  | haproxyStart

def callbackStep (api : RuntimeApi) (cfg backend : PrimaryBackend) :
    CallbackEvent → PrimaryBackend
  | .roleChange node args delivered =>
    if delivered then api.exec backend (haproxyCallback node args) else backend
  | .haproxyStart => cfg

def callbackRun (api : RuntimeApi) (cfg : PrimaryBackend) (events : List CallbackEvent) :
    PrimaryBackend :=
  events.foldl (callbackStep api cfg) cfg

def CallbackEvent.isStart : CallbackEvent → Bool
  | .roleChange .. => false
  | .haproxyStart => true

def sinceStart (events : List CallbackEvent) : List CallbackEvent :=
  events.rtakeWhile fun event => !event.isStart

def CallbackEvent.write? : CallbackEvent → Option (HostName × AdminState)
  | .roleChange node args delivered =>
    if delivered then some (node,callbackState args) else none
  | .haproxyStart => none

/-- The states that the delivered callbacks asked for. -/
def deliveredStates (events : List CallbackEvent) : List (HostName × AdminState) :=
  events.filterMap CallbackEvent.write?

section Callbacks

variable (api : RuntimeApi) (cfg : PrimaryBackend)

theorem callbackRun_snoc (events : List CallbackEvent) (event : CallbackEvent) :
    callbackRun api cfg (events ++ [event]) = callbackStep api cfg (callbackRun api cfg events)
      event := by
  simp [callbackRun]

theorem sinceStart_snoc (events : List CallbackEvent) (event : CallbackEvent) :
    sinceStart (events ++ [event]) =
      if event.isStart then [] else sinceStart events ++ [event] := by
  cases h : event.isStart <;> simp [sinceStart,h]

theorem deliveredStates_snoc (events : List CallbackEvent) (event : CallbackEvent) :
    deliveredStates (events ++ [event]) = deliveredStates events ++ event.write?.toList := by
  cases h : event.write? <;> simp [deliveredStates,h]

/-- The state of a server is what the last callback that got through since HAProxy started asked
for; until one did, it is that of the configuration. -/
theorem callbackRun_apply (events : List CallbackEvent) (node : HostName) :
    callbackRun api cfg events node =
      (cfg node).map fun initial =>
        (lastTo node (deliveredStates (sinceStart events))).getD initial := by
  induction events using List.reverseRecOn with
  | nil => cases h : cfg node <;> simp [callbackRun,sinceStart,deliveredStates,h]
  | append_singleton events event ih =>
    rw [callbackRun_snoc,sinceStart_snoc]
    cases event with
    | haproxyStart => cases h : cfg node <;>
        simp [callbackStep,CallbackEvent.isStart,deliveredStates,h]
    | roleChange n args delivered =>
      cases delivered with
      | false => simp [callbackStep,CallbackEvent.isStart,deliveredStates_snoc,
          CallbackEvent.write?,ih]
      | true =>
        simp only [callbackStep,CallbackEvent.isStart,deliveredStates_snoc,CallbackEvent.write?,
          haproxyCallback,if_true,Bool.false_eq_true,if_false,Option.toList_some]
        rw [api.exec_setServer]
        by_cases hn : n = node
        · subst hn
          rw [lastTo_snoc_self,ih]
          cases h : cfg n <;> simp [ih,h]
        · rw [lastTo_snoc_of_ne hn,← ih]
          split
          · exact Function.update_of_ne (Ne.symm hn) ..
          · rfl

/-- Which servers get the traffic: those whose last callback that got through since HAProxy was
started was that of a primary, and, if they start ready, those none of whose callbacks did. -/
theorem callbackRun_ready_iff (initial : AdminState) (servers : List HostName)
    (events : List CallbackEvent) (node : HostName) :
    callbackRun api (haproxyCfg initial servers) events node = some .ready ↔
      node ∈ servers ∧ (lastTo node (deliveredStates (sinceStart events)) = some .ready ∨
        initial = .ready ∧ ∀ args, .roleChange node args true ∉ sinceStart events) := by
  have hnone : lastTo node (deliveredStates (sinceStart events)) = none ↔
      ∀ args, CallbackEvent.roleChange node args true ∉ sinceStart events := by
    rw [lastTo,List.getLast?_eq_none_iff,writesTo,List.map_eq_nil_iff,List.filter_eq_nil_iff]
    constructor
    · intro h args hmem
      refine h (node,callbackState args) ?_ (by simp)
      exact List.mem_filterMap.mpr ⟨_,hmem,by simp [CallbackEvent.write?]⟩
    · rintro h ⟨n,state⟩ hmem hn
      obtain ⟨event,hevent,hw⟩ := List.mem_filterMap.mp hmem
      obtain rfl : n = node := by simpa using hn
      cases event with
      | haproxyStart => simp [CallbackEvent.write?] at hw
      | roleChange n' args delivered =>
        cases delivered with
        | false => simp [CallbackEvent.write?] at hw
        | true =>
          simp only [CallbackEvent.write?,if_true,Option.some.injEq,Prod.mk.injEq] at hw
          exact h args (hw.1 ▸ hevent)
  rw [callbackRun_apply,← hnone]
  by_cases hmem : node ∈ servers
  · cases h : lastTo node (deliveredStates (sinceStart events)) <;> simp [haproxyCfg,hmem]
  · simp [haproxyCfg,hmem]

/-- A step keeps the traffic on one server at most exactly if it does not make a server ready
while another one is. -/
theorem exclusive_callbackStep {servers : List HostName} {backend : PrimaryBackend}
    (h : Exclusive (some .ready) backend) (event : CallbackEvent)
    (hknown : ∀ node, (backend node).isSome ↔ node ∈ servers) :
    Exclusive (some .ready) (callbackStep api (haproxyCfg .maint servers) backend event) ↔
      ∀ node args, event = .roleChange node args true → args.isPrimary = true →
        node ∈ servers → ∀ other, other ≠ node → backend other ≠ some .ready := by
  cases event with
  | haproxyStart =>
    refine iff_of_true (fun j _ hj => ?_) (by simp)
    simp only [callbackStep,haproxyCfg] at hj
    split at hj <;> simp at hj
  | roleChange node args delivered =>
    cases delivered with
    | false => simpa [callbackStep] using h
    | true =>
      simp only [callbackStep,haproxyCallback,if_true,api.exec_setServer,hknown]
      by_cases hmem : node ∈ servers
      · have hiff := exclusive_write h (node,some (callbackState args))
        rw [if_pos hmem]
        refine hiff.trans ?_
        cases hp : args.isPrimary with
        | false => simp [callbackState,hp]
        | true => simp [callbackState,hp,hmem]
      · rw [if_neg hmem]
        simpa [hmem] using h

/-- Where servers start in maintenance, two are never ready together exactly if a server is only
ever made ready when every other's last callback that got through was not that of a primary. -/
theorem callbackRun_always_exclusive_iff (servers : List HostName) (events : List CallbackEvent) :
    (∀ pre post, events = pre ++ post →
        Exclusive (some .ready) (callbackRun api (haproxyCfg .maint servers) pre)) ↔
      ∀ pre node args post, events = pre ++ .roleChange node args true :: post →
        args.isPrimary = true → node ∈ servers → ∀ other ∈ servers, other ≠ node →
          lastTo other (deliveredStates (sinceStart pre)) ≠ some .ready := by
  have hready : ∀ pre other,
      callbackRun api (haproxyCfg .maint servers) pre other = some .ready ↔
        other ∈ servers ∧ lastTo other (deliveredStates (sinceStart pre)) = some .ready := by
    intro pre other
    rw [callbackRun_apply]
    by_cases hmem : other ∈ servers
    · cases h : lastTo other (deliveredStates (sinceStart pre)) <;> simp [haproxyCfg,hmem]
    · simp [haproxyCfg,hmem]
  have hknown : ∀ pre node,
      (callbackRun api (haproxyCfg .maint servers) pre node).isSome ↔ node ∈ servers := by
    intro pre node
    rw [callbackRun_apply]
    by_cases hmem : node ∈ servers <;> simp [haproxyCfg,hmem]
  constructor
  · intro h pre node args post hcut hp hmem other _ hne hlast
    have hpre := h pre _ hcut
    have hnext := h (pre ++ [.roleChange node args true]) post (by simp [hcut])
    rw [callbackRun_snoc] at hnext
    exact (exclusive_callbackStep api hpre _ (hknown pre)).mp hnext node args rfl hp hmem other
      hne ((hready pre other).mpr ⟨by assumption,hlast⟩)
  · intro h pre
    induction pre using List.reverseRecOn with
    | nil =>
      intro _ _ j _ hj
      simp only [callbackRun,List.foldl_nil,haproxyCfg] at hj
      split at hj <;> simp at hj
    | append_singleton pre event ih =>
      intro post hcut
      have hcut' : events = pre ++ event :: post := by simp [hcut]
      rw [callbackRun_snoc]
      refine (exclusive_callbackStep api (ih _ hcut') event (hknown pre)).mpr ?_
      rintro node args rfl hp hmem other hne hother
      obtain ⟨hmem',hlast⟩ := (hready pre other).mp hother
      exact h pre node args post hcut' hp hmem other hmem' hne hlast

end Callbacks

end RoutingBench
