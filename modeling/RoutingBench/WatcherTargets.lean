import RoutingBench.PythonText
set_option autoImplicit false

/-!
The targets of the observer agent: the text in WATCHER_TARGETS, by the template that writes it and
by the agent that reads it.
-/

namespace RoutingBench.WatcherTargets
open PythonText TextFields

abbrev Text := List Char

/-- What is between two commas; an item that is empty or has no colon is ignored. -/
def parseItem (item : Text) : Option (Text × Text) :=
  let item := strip item
  if item = [] then none
  else
    let (name,sep,value) := partition ':' item
    if sep = [] then none else some (strip name,strip value)

def parseTargets (targetsStr : Text) : List (Text × Text) :=
  (targetsStr.splitOn ',').filterMap parseItem

section Template

def renderTarget (target : Text × Text) : Text := target.1 ++ ':' :: target.2

/-- `{% if not loop.last %},{% endif %}` -/
def renderTargets : List (Text × Text) → Text
  | [] => []
  | target :: rest =>
    renderTarget target ++ (if rest = [] then [] else [',']) ++ renderTargets rest

structure Host where
  name : Text
  internalIp : Text

def Host.restTarget (host : Host) : Text × Text :=
  (host.name,"http://".toList ++ host.internalIp ++ ":8008".toList)

def Host.pgTarget (host : Host) : Text × Text :=
  (host.name,"host=".toList ++ host.internalIp ++
    " port=5432 dbname=postgres user=postgres password=postgres connect_timeout=5".toList)

def patroniTargets (hosts : List Host) : Text := renderTargets (hosts.map Host.restTarget)

def pgTargets (hosts : List Host) : Text := renderTargets (hosts.map Host.pgTarget)

end Template

/-- A target as the template needs it. -/
structure WellFormed (target : Text × Text) : Prop where
  trimmedName : strip target.1 = target.1
  trimmedValue : strip target.2 = target.2
  colonName : ':' ∉ target.1
  commaName : ',' ∉ target.1
  commaValue : ',' ∉ target.2

section Targets

variable {target : Text × Text} {targets : List (Text × Text)}

theorem parseTargets_append (s t : Text) :
    parseTargets (s ++ ',' :: t) = parseTargets s ++ parseTargets t := by
  rw [parseTargets,List.splitOn_append_cons_self,List.filterMap_append,parseTargets,parseTargets]

theorem parseItem_renderTarget (h : WellFormed target) :
    parseItem (renderTarget target) = some target := by
  obtain ⟨name,value⟩ := target
  have hstrip : strip (name ++ ':' :: value) = name ++ ':' :: value :=
    trim_append_cons h.trimmedName (by decide) h.trimmedValue
  rw [parseItem,renderTarget,hstrip,if_neg (by simp),partition_append_cons h.colonName]
  simp [h.trimmedName,h.trimmedValue]

theorem comma_not_mem (h : WellFormed target) : ',' ∉ renderTarget target := by
  simp [renderTarget,h.commaName,h.commaValue]

theorem parseTargets_renderTarget (h : WellFormed target) :
    parseTargets (renderTarget target) = [target] := by
  rw [parseTargets,List.splitOn_eq_singleton (comma_not_mem h)]
  simp [parseItem_renderTarget h]

theorem parseTargets_renderTargets (h : ∀ target ∈ targets, WellFormed target) :
    parseTargets (renderTargets targets) = targets := by
  induction targets with
  | nil => rfl
  | cons target rest ih =>
    obtain ⟨hfirst,hrest⟩ := List.forall_mem_cons.mp h
    rw [renderTargets]
    split
    next hlast =>
      rw [hlast,renderTargets,List.append_nil,List.append_nil,parseTargets_renderTarget hfirst]
    next =>
      rw [List.append_assoc,List.singleton_append,parseTargets_append,
        parseTargets_renderTarget hfirst,ih hrest]
      rfl

structure Host.WellFormed (host : Host) : Prop where
  trimmed : strip host.name = host.name
  colon : ':' ∉ host.name
  comma : ',' ∉ host.name
  internalIp : ',' ∉ host.internalIp

theorem Host.WellFormed.wellFormed {host : Host} (h : host.WellFormed) {before after : Text}
    {first last : Char} (hfirst : before.head? = some first) (hlast : after.getLast? = some last)
    (hspace : isSpace first = false ∧ isSpace last = false) (hbefore : ',' ∉ before)
    (hafter : ',' ∉ after) :
    WatcherTargets.WellFormed (host.name,before ++ host.internalIp ++ after) where
  trimmedName := h.trimmed
  trimmedValue := trim_between hfirst hspace.1 hlast hspace.2
  colonName := h.colon
  commaName := h.comma
  commaValue := by simp [hbefore,h.internalIp,hafter]

theorem parse_patroniTargets {hosts : List Host} (h : ∀ host ∈ hosts, host.WellFormed) :
    parseTargets (patroniTargets hosts) = hosts.map Host.restTarget :=
  parseTargets_renderTargets (List.forall_mem_map.mpr fun host hhost =>
    (h host hhost).wellFormed rfl rfl (by decide) (by decide) (by decide))

theorem parse_pgTargets {hosts : List Host} (h : ∀ host ∈ hosts, host.WellFormed) :
    parseTargets (pgTargets hosts) = hosts.map Host.pgTarget :=
  parseTargets_renderTargets (List.forall_mem_map.mpr fun host hhost =>
    (h host hhost).wellFormed rfl rfl (by decide) (by decide) (by decide))

/-- A part of the text is read by itself, and what the template has written as it was meant. -/
theorem parse_targets_right :
    (∀ s t, parseTargets (s ++ ',' :: t) = parseTargets s ++ parseTargets t) ∧
      ∀ targets, (∀ target ∈ targets, WellFormed target) →
        parseTargets (renderTargets targets) = targets :=
  ⟨parseTargets_append,fun _ => parseTargets_renderTargets⟩

def twoNodes : List (Text × Text) :=
  [("patroni-node1".toList,"http://patroni-node1:8008".toList),
    ("patroni-node2".toList,"host=patroni-node2 port=5432 dbname=postgres".toList)]

theorem parse_targets_right_twoNodes :
    renderTargets twoNodes = ("patroni-node1:http://patroni-node1:8008," ++
      "patroni-node2:host=patroni-node2 port=5432 dbname=postgres").toList ∧
      parseTargets (renderTargets twoNodes) = twoNodes := by
  refine ⟨by decide,parse_targets_right.2 twoNodes fun target htarget => ?_⟩
  simp only [twoNodes,List.mem_cons,List.not_mem_nil,or_false] at htarget
  rcases htarget with rfl | rfl <;> constructor <;> decide

end Targets

end RoutingBench.WatcherTargets
