import RoutingBench.RoleCallbacks
set_option autoImplicit false

/-!
Combination 05: a callback binds the VIP on loopback and has ExaBGP announce the route to it over
a FIFO. Commands of one node run between those of others, a callback is killed when the next one
is called, and ExaBGP reads late, stops and starts. Is a route ever announced to a node that does
not have the VIP?
-/

namespace RoutingBench

inductive BgpCommand where
  | addrAdd
  | announce
  | withdraw
  | addrDel
  deriving DecidableEq, Repr

/-- `bgp_callback.sh`; neither the action nor the scope is looked at. -/
def bgpCallback (args : CallbackArgs) : List BgpCommand :=
  if args.isPrimary then [.addrAdd,.announce] else [.withdraw,.addrDel]

/-- The FIFO on the shared volume: not made yet, left behind by an ExaBGP that stopped, or read
by one, with the lines (whether they announce) that it has not read. -/
inductive Fifo where
  | missing
  | unread
  | piped (lines : List Bool)
  deriving DecidableEq, Repr

structure BgpNode where
  bound : Bool := false
  fifo : Fifo := .missing
  announced : Bool := false
  /-- What is left of the callback that is running. -/
  callback : List BgpCommand := []
  deriving DecidableEq, Repr

/-- `[ -p "$FIFO" ] && echo … > "$FIFO" || true`: without a FIFO the line is dropped, and without
a reader the callback hangs in `echo`, so that what is left of it is never run. -/
def BgpNode.echo (node : BgpNode) (line : Bool) (rest : List BgpCommand) : BgpNode :=
  match node.fifo with
  | .missing => { node with callback := rest }
  | .unread => { node with callback := [] }
  | .piped lines => { node with fifo := .piped (lines ++ [line]), callback := rest }

/-- The next command of the callback; `ok` is whether `ip` can do what it is asked to. -/
def BgpNode.exec (node : BgpNode) (ok : Bool) : Option BgpNode :=
  match node.callback with
  | [] => none
  | .addrAdd :: rest =>
    some { node with bound := ipAddrAdd ok node.bound, callback := rest }
  | .announce :: rest => some (node.echo true rest)
  | .withdraw :: rest => some (node.echo false rest)
  | .addrDel :: rest =>
    some { node with bound := ipAddrDel ok node.bound, callback := rest }

/-- `exec cat "$FIFO"` in `exabgp-run.sh` hands the next line to ExaBGP. -/
def BgpNode.forward (node : BgpNode) : Option BgpNode :=
  match node.fifo with
  | .piped (line :: lines) => some { node with fifo := .piped lines, announced := line }
  | _ => none

/-- `exabgp-run.sh` makes the FIFO anew and opens it; a new ExaBGP announces nothing. -/
def BgpNode.startExabgp (node : BgpNode) : Option BgpNode :=
  match node.fifo with
  | .piped _ => none
  | _ => some { node with fifo := .piped [], announced := false }

/-- With ExaBGP go its session, its routes and what it has not read. -/
def BgpNode.stopExabgp (node : BgpNode) : Option BgpNode :=
  match node.fifo with
  | .piped _ => some { node with fifo := .unread, announced := false }
  | _ => none

inductive BgpStep where
  | call (args : CallbackArgs)
  | exec (ok : Bool)
  | forward
  | startExabgp
  | stopExabgp
  deriving DecidableEq, Repr

/-- A new callback takes the place of one that is still running. -/
def BgpNode.step (node : BgpNode) : BgpStep → Option BgpNode
  | .call args => some { node with callback := bgpCallback args }
  | .exec ok => node.exec ok
  | .forward => node.forward
  | .startExabgp => node.startExabgp
  | .stopExabgp => node.stopExabgp

abbrev BgpCluster := HostName → BgpNode

def BgpCluster.step (cluster : BgpCluster) (action : HostName × BgpStep) : Option BgpCluster :=
  ((cluster action.1).step action.2).map (Function.update cluster action.1)

/-- What ExaBGP will announce when it has read all that is in the FIFO. -/
def BgpNode.settled (node : BgpNode) : Bool :=
  match node.fifo with
  | .piped lines => lines.getLast?.getD node.announced
  | _ => node.announced

/-- The next command does not fail to bind the VIP. -/
def BgpNode.Binds (node : BgpNode) : BgpStep → Prop
  | .exec false => node.callback.head? = some .addrAdd → node.bound = true
  | _ => True

/-- What the two halves of a callback leave to each other. -/
structure BgpNode.Sound (node : BgpNode) : Prop where
  settledBound : node.settled = true → node.bound = true
  silent : (∀ lines, node.fifo ≠ .piped lines) → node.announced = false
  announces : node.callback = [.announce] → node.bound = true
  unbinds : node.callback = [.addrDel] → node.settled = false
  shape : node.callback ∈ [[],[.announce],[.addrDel],[.addrAdd,.announce],[.withdraw,.addrDel]]

section Node

variable {node node' : BgpNode}

@[simp] theorem settled_piped (bound announced : Bool) (lines : List Bool)
    (callback : List BgpCommand) :
    BgpNode.settled ⟨bound,.piped lines,announced,callback⟩ = lines.getLast?.getD announced := rfl

@[simp] theorem settled_missing (bound announced : Bool) (callback : List BgpCommand) :
    BgpNode.settled ⟨bound,.missing,announced,callback⟩ = announced := rfl

@[simp] theorem settled_unread (bound announced : Bool) (callback : List BgpCommand) :
    BgpNode.settled ⟨bound,.unread,announced,callback⟩ = announced := rfl

theorem sound_call (h : node.Sound) (args : CallbackArgs) :
    ({ node with callback := bgpCallback args } : BgpNode).Sound where
  settledBound := h.settledBound
  silent := h.silent
  announces heq := by cases hp : args.isPrimary <;> simp [bgpCallback,hp] at heq
  unbinds heq := by cases hp : args.isPrimary <;> simp [bgpCallback,hp] at heq
  shape := by cases hp : args.isPrimary <;> simp [bgpCallback,hp]

theorem sound_exec (h : node.Sound) {ok : Bool} (hbinds : node.Binds (.exec ok))
    (hs : node.exec ok = some node') : node'.Sound := by
  obtain ⟨bound,fifo,announced,callback⟩ := node
  obtain ⟨hsettled,hsilent,hannounces,hunbinds,hshape⟩ := h
  simp only [List.mem_cons,List.not_mem_nil,or_false] at hshape
  rcases hshape with rfl | rfl | rfl | rfl | rfl
  · simp [BgpNode.exec] at hs
  · have hbound : bound = true := hannounces rfl
    cases fifo <;> simp [BgpNode.exec,BgpNode.echo] at hs <;> subst hs <;>
      constructor <;> simp_all
  · have hquiet := hunbinds rfl
    simp only [BgpNode.exec,Option.some.injEq] at hs
    subst hs
    cases fifo <;> constructor <;> simp_all
  · have hbound : ipAddrAdd ok bound = true := by
      cases ok <;> simp_all [BgpNode.Binds,ipAddrAdd]
    simp only [BgpNode.exec,Option.some.injEq] at hs
    subst hs
    exact ⟨fun _ => hbound,hsilent,fun _ => hbound,by simp,by simp⟩
  · cases fifo <;> simp [BgpNode.exec,BgpNode.echo] at hs <;> subst hs <;>
      constructor <;> simp_all

theorem sound_forward (h : node.Sound) (hs : node.forward = some node') : node'.Sound := by
  obtain ⟨bound,fifo,announced,callback⟩ := node
  obtain ⟨hsettled,hsilent,hannounces,hunbinds,hshape⟩ := h
  cases fifo with
  | missing => simp [BgpNode.forward] at hs
  | unread => simp [BgpNode.forward] at hs
  | piped lines =>
    cases lines with
    | nil => simp [BgpNode.forward] at hs
    | cons line lines =>
      simp only [BgpNode.forward,Option.some.injEq] at hs
      subst hs
      have hlast : (line :: lines).getLast?.getD announced = lines.getLast?.getD line := by
        rw [List.getLast?_cons]
        rfl
      rw [settled_piped,hlast] at hsettled hunbinds
      exact ⟨hsettled,fun hno => absurd rfl (hno lines),hannounces,hunbinds,hshape⟩

theorem sound_startExabgp (h : node.Sound) (hs : node.startExabgp = some node') :
    node'.Sound := by
  obtain ⟨bound,fifo,announced,callback⟩ := node
  obtain ⟨hsettled,hsilent,hannounces,hunbinds,hshape⟩ := h
  cases fifo <;> simp [BgpNode.startExabgp] at hs <;> subst hs <;> constructor <;> simp_all

theorem sound_stopExabgp (h : node.Sound) (hs : node.stopExabgp = some node') : node'.Sound := by
  obtain ⟨bound,fifo,announced,callback⟩ := node
  obtain ⟨hsettled,hsilent,hannounces,hunbinds,hshape⟩ := h
  cases fifo with
  | missing => simp [BgpNode.stopExabgp] at hs
  | unread => simp [BgpNode.stopExabgp] at hs
  | piped lines =>
    obtain rfl := Option.some.inj hs
    constructor <;> simp_all

theorem sound_step (h : node.Sound) {s : BgpStep} (hbinds : node.Binds s)
    (hs : node.step s = some node') : node'.Sound := by
  cases s with
  | call args =>
    obtain rfl := Option.some.inj hs
    exact sound_call h args
  | exec ok => exact sound_exec h hbinds hs
  | forward => exact sound_forward h hs
  | startExabgp => exact sound_startExabgp h hs
  | stopExabgp => exact sound_stopExabgp h hs

theorem sound_init : BgpNode.Sound {} := by
  constructor <;> simp [BgpNode.settled]

end Node

section Cluster

variable {cluster cluster' : BgpCluster}

theorem BgpCluster.step_eq_some {action : HostName × BgpStep} :
    cluster.step action = some cluster' ↔
      ∃ node', (cluster action.1).step action.2 = some node' ∧
        Function.update cluster action.1 node' = cluster' := by
  simp [BgpCluster.step]

theorem BgpNode.Sound.announced {node : BgpNode} (h : node.Sound) (hannounced : node.announced = true)
    (hbound : node.bound = false) : ∃ lines, node.fifo = .piped (lines ++ [false]) := by
  obtain ⟨bound,fifo,announced,callback⟩ := node
  obtain rfl : announced = true := hannounced
  obtain rfl : bound = false := hbound
  have hsettled := h.settledBound
  cases fifo with
  | missing => simp at hsettled
  | unread => simp at hsettled
  | piped lines =>
    rcases List.eq_nil_or_concat lines with rfl | ⟨before,line,rfl⟩
    · simp at hsettled
    · refine ⟨before,?_⟩
      cases line with
      | true => simp at hsettled
      | false => rw [List.concat_eq_append]

/-- However the nodes interleave, whichever callbacks are killed half way, and whenever ExaBGP
reads, stops or starts: unless a node could not bind the VIP, a route to it is announced while it
does not have the VIP only as long as the last line of its FIFO, which takes the route back, is not
read; and once all is read, only while it has the VIP. -/
theorem announced_without_vip {actions : List (HostName × BgpStep)} {node : HostName}
    (hrun : Runs.run BgpCluster.step (fun _ => {}) actions = some cluster)
    (hbinds : Runs.Along BgpCluster.step (fun c a => a.1 = node → (c a.1).Binds a.2) (fun _ => {})
      actions) :
    ((cluster node).settled = true → (cluster node).bound = true) ∧
      ((cluster node).announced = true → (cluster node).bound = false →
        ∃ lines, (cluster node).fifo = .piped (lines ++ [false])) := by
  have hsound := Runs.invariant (I := fun c : BgpCluster => (c node).Sound)
    (fun c action c' hc hb hs => by
      obtain ⟨node',hnode,rfl⟩ := BgpCluster.step_eq_some.mp hs
      by_cases hn : action.1 = node
      · subst hn
        rw [Function.update_self]
        exact sound_step hc (hb rfl) hnode
      · rw [Function.update_of_ne (Ne.symm hn)]
        exact hc) sound_init hbinds hrun
  exact ⟨hsound.settledBound,hsound.announced⟩

/-- A node becomes a replica, and ExaBGP has not yet read that it is to withdraw the route. -/
theorem announced_without_vip_demotedNode : ∃ node : HostName, ∃ actions cluster,
    Runs.run BgpCluster.step (fun _ => {}) actions = some cluster ∧
      (cluster node).announced = true ∧ (cluster node).bound = false ∧
      ∃ lines, (cluster node).fifo = .piped (lines ++ [false]) := by
  let node : HostName := ⟨"n1",by simp⟩
  have hrun : Runs.run BgpCluster.step (fun _ => {}) [(node,.startExabgp),
      (node,.call ⟨"on_role_change","primary","bench"⟩),(node,.exec true),(node,.exec true),
      (node,.forward),(node,.call ⟨"on_role_change","replica","bench"⟩),(node,.exec true),
      (node,.exec true)] = some _ := rfl
  refine ⟨node,_,_,hrun,?_,?_,(announced_without_vip hrun ?_).2 ?_ ?_⟩ <;>
    simp [Runs.Along,BgpCluster.step,BgpNode.step,BgpNode.exec,BgpNode.startExabgp,BgpNode.Binds,
      BgpNode.forward,BgpNode.echo,bgpCallback,CallbackArgs.isPrimary,ipAddrAdd,ipAddrDel]

/-- What the VIP and the route will be when the callback has run to its end. -/
def BgpNode.outcome (node : BgpNode) : Bool × Bool :=
  node.callback.foldl (fun (bound,route) command =>
    match command with
    | .addrAdd => (true,route)
    | .announce => (bound,true)
    | .withdraw => (bound,false)
    | .addrDel => (false,route)) (node.bound,node.settled)

theorem outcome_call (node : BgpNode) (args : CallbackArgs) :
    ({ node with callback := bgpCallback args } : BgpNode).outcome =
      (args.isPrimary,args.isPrimary) := by
  cases hp : args.isPrimary <;> simp [BgpNode.outcome,bgpCallback,hp]

/-- ExaBGP reads on, and the commands of the callback succeed. -/
def BgpStep.Smooth (s : BgpStep) : Prop := s = .exec true ∨ s = .forward

theorem outcome_step {node node' : BgpNode} {lines : List Bool} (hpiped : node.fifo = .piped lines)
    {s : BgpStep} (hsmooth : s.Smooth) (hs : node.step s = some node') :
    node'.outcome = node.outcome ∧ ∃ lines', node'.fifo = .piped lines' := by
  obtain ⟨bound,fifo,announced,callback⟩ := node
  obtain rfl : fifo = .piped lines := hpiped
  rcases hsmooth with rfl | rfl
  · cases callback with
    | nil => simp [BgpNode.step,BgpNode.exec] at hs
    | cons command rest =>
      cases command <;> obtain rfl := Option.some.inj hs <;>
        simp [BgpNode.outcome,BgpNode.echo,ipAddrAdd,ipAddrDel]
  · cases lines with
    | nil => simp [BgpNode.step,BgpNode.forward] at hs
    | cons line lines =>
      obtain rfl := Option.some.inj hs
      simp [BgpNode.outcome,List.getLast?_cons]

theorem run_at (cluster : BgpCluster) (n : HostName) (steps : List BgpStep) :
    Runs.run BgpCluster.step cluster (steps.map fun s => (n,s)) =
      (Runs.run BgpNode.step (cluster n) steps).map (Function.update cluster n) := by
  induction steps generalizing cluster with
  | nil => simp
  | cons s steps ih =>
    simp only [List.map_cons,Runs.run,BgpCluster.step]
    cases hs : (cluster n).step s with
    | none => simp
    | some node' =>
      simp only [Option.map_some,Option.bind_some,ih,Function.update_self]
      congr 1
      funext final
      exact Function.update_idem ..

theorem run_exec {node : BgpNode} {lines : List Bool} (hpiped : node.fifo = .piped lines) :
    ∃ node', Runs.run BgpNode.step node
        (List.replicate node.callback.length (.exec true)) = some node' ∧ node'.callback = [] ∧
      ∃ lines', node'.fifo = .piped lines' := by
  obtain ⟨bound,fifo,announced,callback⟩ := node
  obtain rfl : fifo = .piped lines := hpiped
  induction callback generalizing bound lines with
  | nil => exact ⟨_,rfl,rfl,lines,rfl⟩
  | cons command rest ih =>
    cases command with
    | addrAdd => exact @ih lines (ipAddrAdd true bound)
    | announce => exact @ih (lines ++ [true]) bound
    | withdraw => exact @ih (lines ++ [false]) bound
    | addrDel => exact @ih lines (ipAddrDel true bound)

theorem run_forward {node : BgpNode} {lines : List Bool} (hpiped : node.fifo = .piped lines) :
    ∃ node', Runs.run BgpNode.step node (List.replicate lines.length .forward) = some node' ∧
      node'.callback = node.callback ∧ node'.fifo = .piped [] := by
  obtain ⟨bound,fifo,announced,callback⟩ := node
  obtain rfl : fifo = .piped lines := hpiped
  induction lines generalizing announced with
  | nil => exact ⟨_,rfl,rfl,rfl⟩
  | cons line lines ih => exact ih line

/-- Steps of a node, those of other nodes between them, that are smooth. -/
def SmoothAt (n : HostName) (actions : List (HostName × BgpStep)) : Prop :=
  ∀ action ∈ actions, action.1 = n → action.2.Smooth

theorem outcome_run {n : HostName} {actions : List (HostName × BgpStep)} {lines : List Bool}
    (hpiped : (cluster n).fifo = .piped lines) (hsmooth : SmoothAt n actions)
    (hrun : Runs.run BgpCluster.step cluster actions = some cluster') :
    (cluster' n).outcome = (cluster n).outcome ∧ ∃ lines', (cluster' n).fifo = .piped lines' := by
  refine Runs.invariant (P := fun _ (action : HostName × BgpStep) => action.1 = n →
      action.2.Smooth)
    (I := fun c : BgpCluster => (c n).outcome = (cluster n).outcome ∧
      ∃ lines', (c n).fifo = .piped lines')
    (fun c action c' hc hP hs => ?_) ⟨rfl,lines,hpiped⟩
    (Runs.along_of_mem (fun a ha => hsmooth a ha) cluster) hrun
  obtain ⟨node',hnode,rfl⟩ := BgpCluster.step_eq_some.mp hs
  by_cases hn : action.1 = n
  · subst hn
    obtain ⟨lines',hpiped'⟩ := hc.2
    obtain ⟨houtcome,hfifo⟩ := outcome_step hpiped' (hP rfl) hnode
    rw [Function.update_self]
    exact ⟨houtcome.trans hc.1,hfifo⟩
  · rw [Function.update_of_ne (Ne.symm hn)]
    exact hc

/-- After a callback that finds its FIFO read: however its commands and what ExaBGP reads
interleave with all that happens on other nodes, where the callback has ended and the FIFO is
empty the node has the VIP, and the route to it is announced, exactly if it is a primary; and
from everywhere on the way this can be reached. -/
theorem call_settles {n : HostName} {args : CallbackArgs} {lines : List Bool}
    {actions : List (HostName × BgpStep)} (hpiped : (cluster n).fifo = .piped lines)
    (hsmooth : SmoothAt n actions)
    (hrun : Runs.run BgpCluster.step cluster ((n,.call args) :: actions) = some cluster') :
    ((cluster' n).callback = [] → (cluster' n).fifo = .piped [] →
        (cluster' n).bound = args.isPrimary ∧ (cluster' n).announced = args.isPrimary) ∧
      ∃ more final, SmoothAt n more ∧ Runs.run BgpCluster.step cluster' more = some final ∧
        (final n).callback = [] ∧ (final n).fifo = .piped [] := by
  obtain ⟨called,hcall,hrest⟩ := Runs.run_cons.mp hrun
  obtain rfl := Option.some.inj hcall
  have hcalled : (Function.update cluster n
      { cluster n with callback := bgpCallback args } n).fifo = .piped lines := by
    rw [Function.update_self]
    exact hpiped
  obtain ⟨houtcome,lines',hpiped'⟩ := outcome_run hcalled hsmooth hrest
  rw [Function.update_self,outcome_call] at houtcome
  constructor
  · intro hdone hempty
    rw [BgpNode.outcome,hdone,List.foldl_nil,BgpNode.settled,hempty] at houtcome
    exact ⟨congrArg Prod.fst houtcome,congrArg Prod.snd houtcome⟩
  · obtain ⟨ended,hexec,hdone,lines'',hread⟩ := run_exec hpiped'
    obtain ⟨final,hforward,hsame,hempty⟩ := run_forward hread
    refine ⟨_,Function.update cluster' n final,?_,
      (run_at cluster' n (List.replicate (cluster' n).callback.length (.exec true) ++
        List.replicate lines''.length .forward)).trans ?_,?_,?_⟩
    · intro action hmem _
      obtain ⟨s,hs,rfl⟩ := List.mem_map.mp hmem
      rcases List.mem_append.mp hs with hs | hs
      · exact .inl (List.eq_of_mem_replicate hs)
      · exact .inr (List.eq_of_mem_replicate hs)
    · rw [Runs.run_append,hexec,Option.bind_some,hforward]
      rfl
    · rw [Function.update_self,hsame,hdone]
    · rw [Function.update_self,hempty]

theorem call_settles_example : ∃ node : HostName, ∃ cluster actions cluster',
    Runs.run BgpCluster.step cluster actions = some cluster' ∧
      (cluster' node).bound = false ∧ (cluster' node).announced = false := by
  let node : HostName := ⟨"n1",by simp⟩
  have hrun : Runs.run BgpCluster.step (fun _ => ⟨true,.piped [],true,[]⟩)
      [(node,.call ⟨"on_role_change","replica","bench"⟩),(node,.exec true),(node,.exec true),
        (node,.forward)] = some _ := rfl
  have hsmooth : SmoothAt node [(node,.exec true),(node,.exec true),(node,.forward)] := by
    simp [SmoothAt,BgpStep.Smooth]
  refine ⟨node,_,_,_,hrun,?_⟩
  exact (call_settles rfl hsmooth hrun).1 (by simp [bgpCallback,CallbackArgs.isPrimary])
    (by simp [bgpCallback,CallbackArgs.isPrimary,BgpNode.echo])

end Cluster

end RoutingBench
