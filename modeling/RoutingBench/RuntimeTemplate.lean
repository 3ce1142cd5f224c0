import RoutingBench.RoleCallbacks
import Mathlib.Data.List.GetD
set_option autoImplicit false

/-!
The scripts that consul-template renders and runs in combination 08. They set every server of the
catalog anew, but a script that reads as the one before is not run again.
-/

namespace RoutingBench
open Registers

/-- A registration of the service `bench`. -/
structure ServiceInstance where
  address : HostName
  tags : List String
  deriving DecidableEq

/-- `$isPrimary` -/
def ServiceInstance.isPrimary (inst : ServiceInstance) : Bool :=
  inst.tags.contains "primary" || inst.tags.contains "master"

def ServiceInstance.state (inst : ServiceInstance) : AdminState :=
  if inst.isPrimary then .ready else .maint

/-- What the lines of `update-haproxy.sh` send: one command for each instance, healthy or not. -/
def updateHaproxy (catalog : List ServiceInstance) : List String :=
  catalog.map fun inst => setServer inst.address inst.state

/-- Each line ends in `|| true`: one that fails leaves the others to run. -/
def sendLines (api : RuntimeApi) : PrimaryBackend → List String → (Nat → Bool) → PrimaryBackend
  | backend, [], _ => backend
  | backend, line :: lines, sent =>
    sendLines api (if sent 0 then api.exec backend line else backend) lines fun i => sent (i+1)

/-- The script at `destination` and the backend that it acts on. -/
structure ConsulTemplate where
  destination : Option (List String)
  backend : PrimaryBackend

/-- A catalog as consul-template gets it, with the lines that get through if it is rendered to a
script that is run, or a start of HAProxy. -/
inductive TemplateEvent where
  | catalog (instances : List ServiceInstance) (sent : Nat → Bool)
  | haproxyStart

/-- The `command` is run when the rendered text is not the one at the destination already. -/
def ConsulTemplate.step (api : RuntimeApi) (cfg : PrimaryBackend) (self : ConsulTemplate) :
    TemplateEvent → ConsulTemplate
  | .catalog instances sent =>
    if self.destination = some (updateHaproxy instances) then self
    else ⟨some (updateHaproxy instances),sendLines api self.backend (updateHaproxy instances) sent⟩
  | .haproxyStart => { self with backend := cfg }

def templateRun (api : RuntimeApi) (cfg : PrimaryBackend) (events : List TemplateEvent) :
    ConsulTemplate :=
  events.foldl (ConsulTemplate.step api cfg) ⟨none,cfg⟩

def TemplateEvent.catalog? : TemplateEvent → Option (List ServiceInstance)
  | .catalog instances _ => some instances
  | .haproxyStart => none

def currentCatalog (events : List TemplateEvent) : Option (List ServiceInstance) :=
  (events.filterMap TemplateEvent.catalog?).getLast?

def catalogStates (catalog : List ServiceInstance) : List (HostName × AdminState) :=
  catalog.map fun inst => (inst.address,inst.state)

section Lines

theorem AdminState.word_length (state : AdminState) : state.word.length = 5 := by
  cases state <;> rfl

theorem AdminState.word_injective {state state' : AdminState} (h : state.word = state'.word) :
    state = state' := by
  cases state <;> cases state' <;> first | rfl | simp [AdminState.word] at h

theorem toList_framed (front as middle word back : String) :
    (front ++ as ++ middle ++ word ++ back).toList =
      front.toList ++ (as.toList ++ (middle.toList ++ (word.toList ++ back.toList))) := by
  simp only [String.toList_append,List.append_assoc]

theorem eq_of_framed {front middle back as as' word word' : String}
    (hlength : word.length = word'.length)
    (h : front ++ as ++ middle ++ word ++ back = front ++ as' ++ middle ++ word' ++ back) :
    as = as' ∧ word = word' := by
  have hlist := congrArg String.toList h
  rw [toList_framed,toList_framed] at hlist
  obtain ⟨has,hend⟩ := List.append_inj' (List.append_cancel_left hlist) (by
    simpa [String.length_toList] using hlength)
  exact ⟨String.toList_inj.mp has,
    String.toList_inj.mp (List.append_cancel_right (List.append_cancel_left hend))⟩

theorem HostName.eq_of_text {node node' : HostName} (h : node.text = node'.text) :
    node = node' := by
  cases node
  cases node'
  congr

theorem setServer_injective {node node' : HostName} {state state' : AdminState}
    (h : setServer node state = setServer node' state') : node = node' ∧ state = state' := by
  have hlength : state.word.length = state'.word.length := by
    rw [AdminState.word_length,AdminState.word_length]
  have hparts := eq_of_framed hlength h
  exact ⟨HostName.eq_of_text hparts.1,AdminState.word_injective hparts.2⟩

/-- A Runtime API that knows the commands that are sent, and no others. -/
def RuntimeApi.textual : RuntimeApi where
  exec backend line := fun node =>
    if line = setServer node .ready then (backend node).map fun _ => .ready
    else if line = setServer node .maint then (backend node).map fun _ => .maint
    else backend node
  exec_setServer backend node state := by
    funext other
    by_cases hn : node = other
    · subst hn
      have hne : setServer node .maint ≠ setServer node .ready := fun heq =>
        nomatch (setServer_injective heq).2
      cases state <;> cases h : backend node <;> simp [h,hne]
    · have hne : ∀ a, setServer node state ≠ setServer other a := fun a heq =>
        hn (setServer_injective heq).1
      rw [if_neg (hne .ready),if_neg (hne .maint)]
      split
      · rw [Function.update_of_ne (Ne.symm hn)]
      · rfl

theorem updateHaproxy_injective {catalog catalog' : List ServiceInstance}
    (h : updateHaproxy catalog = updateHaproxy catalog') :
    catalogStates catalog = catalogStates catalog' := by
  induction catalog generalizing catalog' with
  | nil =>
    have hnil : catalog' = [] := by simpa [updateHaproxy] using h.symm
    rw [hnil]
  | cons inst catalog ih =>
    cases catalog' with
    | nil => simp [updateHaproxy] at h
    | cons inst' catalog' =>
      simp only [updateHaproxy,List.map_cons,List.cons.injEq] at h
      obtain ⟨haddr,hstate⟩ := setServer_injective h.1
      simp only [catalogStates,List.map_cons,haddr,hstate]
      exact congrArg _ (ih h.2)

variable (api : RuntimeApi)

/-- A script all of whose lines get through sets every server to what the last instance at its
address asks for. -/
theorem sendLines_updateHaproxy (backend : PrimaryBackend) (catalog : List ServiceInstance)
    {sent : Nat → Bool} (hsent : ∀ i < catalog.length, sent i = true) (node : HostName) :
    sendLines api backend (updateHaproxy catalog) sent node =
      (backend node).map fun old => (lastTo node (catalogStates catalog)).getD old := by
  induction catalog generalizing backend sent with
  | nil => simp [updateHaproxy,sendLines,catalogStates]
  | cons inst catalog ih =>
    have hhead : sent 0 = true := hsent 0 (by simp)
    have htail : ∀ i < catalog.length, sent (i+1) = true := fun i hi => hsent (i+1) (by simpa)
    have hcons : lastTo node (catalogStates (inst :: catalog)) =
        (lastTo node (catalogStates catalog)).or (lastTo node [(inst.address,inst.state)]) := by
      rw [← lastTo_append]
      rfl
    have hrun := ih (api.exec backend (setServer inst.address inst.state)) htail
    simp only [updateHaproxy,List.map_cons,sendLines,hhead,if_true] at hrun ⊢
    rw [hrun,api.exec_setServer,hcons]
    by_cases hn : inst.address = node
    · subst hn
      cases hb : backend inst.address <;> cases lastTo inst.address (catalogStates catalog) <;>
        simp [hb,lastTo]
    · have hsingle : lastTo node [(inst.address,inst.state)] = none := by
        rw [lastTo,writesTo_single_of_ne hn]
        rfl
      rw [hsingle,Option.or_none]
      split
      · rw [Function.update_of_ne (Ne.symm hn)]
      · rfl

end Lines

section Template

variable (api : RuntimeApi) (cfg : PrimaryBackend)

/-- Nothing is run and HAProxy is not started: what is read renders to the script at hand. -/
def TemplateEvent.Quiet (script : List String) : TemplateEvent → Prop
  | .catalog instances _ => updateHaproxy instances = script
  | .haproxyStart => False

theorem foldl_step_of_quiet {self : ConsulTemplate} {script : List String}
    (h : self.destination = some script) {post : List TemplateEvent}
    (hpost : ∀ event ∈ post, event.Quiet script) :
    post.foldl (ConsulTemplate.step api cfg) self = self := by
  induction post with
  | nil => rfl
  | cons event post ih =>
    have hevent := hpost event List.mem_cons_self
    have hrest := ih fun e he => hpost e (List.mem_cons_of_mem event he)
    cases event with
    | haproxyStart => exact hevent.elim
    | catalog instances sent =>
      have hsame : self.destination = some (updateHaproxy instances) := by
        rw [h,show updateHaproxy instances = script from hevent]
      rw [List.foldl_cons,ConsulTemplate.step,if_pos hsame,hrest]

theorem templateRun_append (pre : List TemplateEvent) (event : TemplateEvent)
    (post : List TemplateEvent) :
    templateRun api cfg (pre ++ event :: post) =
      post.foldl (ConsulTemplate.step api cfg)
        ((templateRun api cfg pre).step api cfg event) := by
  simp [templateRun]

theorem catalogStates_current {pre post : List TemplateEvent} {catalog current : List ServiceInstance}
    {sent : Nat → Bool}
    (hcurrent : currentCatalog (pre ++ .catalog catalog sent :: post) = some current)
    (hpost : ∀ event ∈ post, event.Quiet (updateHaproxy catalog)) :
    catalogStates current = catalogStates catalog := by
  have hsplit : currentCatalog (pre ++ .catalog catalog sent :: post) =
      (currentCatalog post).or (some catalog) := by
    simp [currentCatalog,List.filterMap_append,TemplateEvent.catalog?,List.getLast?_append,
      List.getLast?_cons]
  rw [hsplit] at hcurrent
  cases hlast : currentCatalog post with
  | none =>
    rw [hlast] at hcurrent
    obtain rfl : catalog = current := by simpa using hcurrent
    rfl
  | some last =>
    rw [hlast] at hcurrent
    obtain rfl : last = current := by simpa using hcurrent
    obtain ⟨event,hmem,hread⟩ := List.mem_filterMap.mp (List.mem_of_getLast? hlast)
    have hquiet := hpost event hmem
    cases event with
    | haproxyStart => exact hquiet.elim
    | catalog instances _ =>
      obtain rfl : instances = last := by simpa [TemplateEvent.catalog?] using hread
      exact updateHaproxy_injective hquiet

/-- Until a script with another text is rendered, the state is what a script that got through
made of what it found. -/
theorem templateRun_catalog {pre post : List TemplateEvent} {catalog : List ServiceInstance}
    {sent : Nat → Bool}
    (hnew : (templateRun api cfg pre).destination ≠ some (updateHaproxy catalog))
    (hsent : ∀ i < catalog.length, sent i = true)
    (hpost : ∀ event ∈ post, event.Quiet (updateHaproxy catalog)) (node : HostName) :
    (templateRun api cfg (pre ++ .catalog catalog sent :: post)).backend node =
      ((templateRun api cfg pre).backend node).map fun old =>
        (lastTo node (catalogStates catalog)).getD old := by
  rw [templateRun_append,ConsulTemplate.step,if_neg hnew,foldl_step_of_quiet api cfg rfl hpost]
  exact sendLines_updateHaproxy api _ _ hsent node

theorem isSome_sendLines (backend : PrimaryBackend) (catalog : List ServiceInstance)
    (sent : Nat → Bool) (node : HostName) :
    (sendLines api backend (updateHaproxy catalog) sent node).isSome = (backend node).isSome := by
  induction catalog generalizing backend sent with
  | nil => rfl
  | cons inst catalog ih =>
    have hexec : (api.exec backend (setServer inst.address inst.state) node).isSome =
        (backend node).isSome := by
      rw [api.exec_setServer]
      split
      · by_cases hn : node = inst.address
        · subst hn
          simpa using ‹_›
        · rw [Function.update_of_ne hn]
      · rfl
    refine (ih _ _).trans ?_
    split
    · exact hexec
    · rfl

theorem isSome_templateRun (events : List TemplateEvent) (node : HostName) :
    ((templateRun api cfg events).backend node).isSome = (cfg node).isSome := by
  induction events using List.reverseRecOn with
  | nil => rfl
  | append_singleton events event ih =>
    rw [templateRun_append,List.foldl_nil]
    cases event with
    | haproxyStart => rfl
    | catalog instances sent =>
      rw [ConsulTemplate.step]
      split
      · exact ih
      · exact (isSome_sendLines api _ _ _ _).trans ih

/-- Whatever was lost before: once a script with a new text has been run and all its lines got
through, every server that the current catalog lists has the state that its last instance there
asks for, and a server that it does not list the one that it had. -/
theorem templateRun_synced {pre post : List TemplateEvent} {catalog current : List ServiceInstance}
    {sent : Nat → Bool}
    (hnew : (templateRun api cfg pre).destination ≠ some (updateHaproxy catalog))
    (hsent : ∀ i < catalog.length, sent i = true)
    (hpost : ∀ event ∈ post, event.Quiet (updateHaproxy catalog))
    (hcurrent : currentCatalog (pre ++ .catalog catalog sent :: post) = some current)
    (node : HostName) :
    (templateRun api cfg (pre ++ .catalog catalog sent :: post)).backend node =
      ((templateRun api cfg pre).backend node).map fun old =>
        (lastTo node (catalogStates current)).getD old := by
  rw [catalogStates_current hcurrent hpost]
  exact templateRun_catalog api cfg hnew hsent hpost node

theorem templateRun_synced_example : ∃ node node' : HostName,
    (templateRun .textual (haproxyCfg .ready [node,node'])
      ([] ++ .catalog [⟨node,["primary"]⟩,⟨node',["replica"]⟩] (fun _ => true) :: [])).backend node' =
        some .maint := by
  refine ⟨⟨"n1",by simp⟩,⟨"n2",by simp⟩,?_⟩
  rw [templateRun_synced .textual _ (by simp [templateRun]) (fun _ _ => rfl) (by simp) rfl]
  rfl

/-- A HAProxy that was started anew keeps the states of its configuration until a script with
another text is rendered. -/
theorem templateRun_stale {pre post : List TemplateEvent} {script : List String}
    (hscript : (templateRun api cfg pre).destination = some script)
    (hpost : ∀ event ∈ post, event.Quiet script) :
    (templateRun api cfg (pre ++ .haproxyStart :: post)).backend = cfg := by
  rw [templateRun_append,ConsulTemplate.step]
  have hsame : (⟨(templateRun api cfg pre).destination,cfg⟩ : ConsulTemplate).destination =
      some script := hscript
  rw [foldl_step_of_quiet api cfg hsame hpost]

end Template

/-- What both combinations are for: the traffic goes to the servers of primaries. -/
def routingTo (servers : List HostName) (primary : HostName → Bool) : PrimaryBackend := fun node =>
  if node ∈ servers then some (if primary node then .ready else .maint) else none

theorem callbackRun_eq_routingTo (api : RuntimeApi) {initial : AdminState}
    {servers : List HostName} {events : List CallbackEvent} {primary : HostName → Bool}
    (hlast : ∀ node ∈ servers, lastTo node (deliveredStates (sinceStart events)) =
      some (if primary node then .ready else .maint)) :
    callbackRun api (haproxyCfg initial servers) events = routingTo servers primary := by
  funext node
  rw [callbackRun_apply]
  by_cases hmem : node ∈ servers
  · simp [haproxyCfg,routingTo,hmem,hlast node hmem]
  · simp [haproxyCfg,routingTo,hmem]

theorem templateRun_eq_routingTo (api : RuntimeApi) {initial : AdminState}
    {servers : List HostName} {pre post : List TemplateEvent} {catalog : List ServiceInstance}
    {sent : Nat → Bool} {primary : HostName → Bool}
    (hnew : (templateRun api (haproxyCfg initial servers) pre).destination ≠
      some (updateHaproxy catalog))
    (hsent : ∀ i < catalog.length, sent i = true)
    (hpost : ∀ event ∈ post, event.Quiet (updateHaproxy catalog))
    (hlisted : ∀ node ∈ servers, ∃ inst ∈ catalog, inst.address = node)
    (htags : ∀ inst ∈ catalog, inst.isPrimary = primary inst.address) :
    (templateRun api (haproxyCfg initial servers)
      (pre ++ .catalog catalog sent :: post)).backend = routingTo servers primary := by
  funext node
  rw [templateRun_catalog api _ hnew hsent hpost]
  have hsome := isSome_templateRun api (haproxyCfg initial servers) pre node
  by_cases hmem : node ∈ servers
  · have hlast : lastTo node (catalogStates catalog) =
        some (if primary node then AdminState.ready else .maint) := by
      refine lastTo_eq_some ?_ ?_
      · obtain ⟨inst,hinst,haddr⟩ := hlisted node hmem
        exact ⟨_,List.mem_map_of_mem hinst,haddr⟩
      · intro w hw hnode
        obtain ⟨inst,hinst,rfl⟩ := List.mem_map.mp hw
        subst hnode
        rw [ServiceInstance.state,htags inst hinst]
    cases hb : (templateRun api (haproxyCfg initial servers) pre).backend node with
    | none => simp [hb,haproxyCfg,hmem] at hsome
    | some old => simp [routingTo,hmem,hlast]
  · cases hb : (templateRun api (haproxyCfg initial servers) pre).backend node with
    | none => simp [routingTo,hmem]
    | some old => simp [hb,haproxyCfg,hmem] at hsome

/-- Both combinations route alike, whatever commands either has lost: the callbacks once the last
one of every node since HAProxy was started got through, the scripts once one with a new text
was run without a loss for a catalog that lists every node under the role it has. -/
theorem callbackRun_eq_templateRun (api : RuntimeApi) {initial initial' : AdminState}
    {servers : List HostName} {primary : HostName → Bool} {events : List CallbackEvent}
    {pre post : List TemplateEvent} {catalog : List ServiceInstance} {sent : Nat → Bool}
    (hlast : ∀ node ∈ servers, lastTo node (deliveredStates (sinceStart events)) =
      some (if primary node then .ready else .maint))
    (hnew : (templateRun api (haproxyCfg initial' servers) pre).destination ≠
      some (updateHaproxy catalog))
    (hsent : ∀ i < catalog.length, sent i = true)
    (hpost : ∀ event ∈ post, event.Quiet (updateHaproxy catalog))
    (hlisted : ∀ node ∈ servers, ∃ inst ∈ catalog, inst.address = node)
    (htags : ∀ inst ∈ catalog, inst.isPrimary = primary inst.address) :
    callbackRun api (haproxyCfg initial servers) events =
        (templateRun api (haproxyCfg initial' servers)
          (pre ++ .catalog catalog sent :: post)).backend ∧
      callbackRun api (haproxyCfg initial servers) events = routingTo servers primary := by
  have hcallback : callbackRun api (haproxyCfg initial servers) events = routingTo servers primary :=
    callbackRun_eq_routingTo api hlast
  have htemplate := templateRun_eq_routingTo api hnew hsent hpost hlisted htags
  exact ⟨hcallback.trans htemplate.symm,hcallback⟩

theorem callbackRun_eq_templateRun_example : ∃ node node' : HostName, ∃ primary,
    callbackRun .textual (haproxyCfg .maint [node,node'])
        [.roleChange node' ⟨"on_role_change","replica","bench"⟩ true,
          .roleChange node ⟨"on_role_change","primary","bench"⟩ true] =
        (templateRun .textual (haproxyCfg .ready [node,node'])
          ([] ++ .catalog [⟨node,["primary"]⟩,⟨node',["replica"]⟩] (fun _ => true) :: [])).backend ∧
      callbackRun .textual (haproxyCfg .maint [node,node'])
        [.roleChange node' ⟨"on_role_change","replica","bench"⟩ true,
          .roleChange node ⟨"on_role_change","primary","bench"⟩ true] =
        routingTo [node,node'] primary := by
  refine ⟨⟨"n1",by simp⟩,⟨"n2",by simp⟩,fun node => node.text == "n1",?_⟩
  refine callbackRun_eq_templateRun .textual ?_ (by simp [templateRun]) (fun _ _ => rfl) (by simp)
    (by simp) ?_
  · intro node hnode
    rcases List.mem_cons.mp hnode with rfl | hnode
    · decide
    · obtain rfl := List.mem_singleton.mp hnode
      decide
  · intro inst hinst
    rcases List.mem_cons.mp hinst with rfl | hinst
    · decide
    · obtain rfl := List.mem_singleton.mp hinst
      decide

end RoutingBench
