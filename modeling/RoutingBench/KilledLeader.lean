import RoutingBench.ComboReport
import RoutingBench.PatroniWatcher
set_option autoImplicit false

/-!
The killed leader of an iteration: what the Patroni watchers of several nodes log, and the node
that the report infers from it.
-/

namespace RoutingBench
open ChangeLog

variable {n : Nat}

structure NodePoll (n : Nat) where
  node : Fin n
  ts : Timestamp
  response : PatroniResponse
  deriving DecidableEq, Repr

def nodeTrace (i : Fin n) (polls : List (NodePoll n)) : List PatroniResponse :=
  (polls.filter fun p => p.node = i).map NodePoll.response

/-- A watcher for each node, and none for one that has not been set up. -/
abbrev NodeWatchers (n : Nat) : Type := Fin n → Option PatroniWatcher

def NodeWatchers.poll (s : NodeWatchers n) (p : NodePoll n) : PatroniWatcher × List Emission :=
  ((s p.node).getD {}).pollState (s p.node).isNone p.response

def nodeRow (names : Fin n → String) (p : NodePoll n) (e : Emission) : ObserverFrameRow where
  ts := p.ts
  component := "patroni"
  node := names p.node
  eventType := e.eventType
  oldValue := some e.oldValue
  newValue := e.newValue
  detail := some e.detail

/-- The polls of the nodes in order, and the rows they lead to. -/
def NodeWatchers.watch (names : Fin n → String) (s : NodeWatchers n) :
    List (NodePoll n) → NodeWatchers n × List ObserverFrameRow
  | [] => (s,[])
  | p :: polls =>
    let rest := watch names (Function.update s p.node (some (s.poll p).1)) polls
    (rest.1,(s.poll p).2.map (nodeRow names p) ++ rest.2)

/-- The rows of a run: those of the polls made while it lasts, after others made before. -/
def patroniRows (names : Fin n → String) (before during : List (NodePoll n)) :
    List ObserverFrameRow :=
  (NodeWatchers.watch names (NodeWatchers.watch names (fun _ => none) before).1 during).2

def isPatroniRoleChange (e : ObserverFrameRow) : Bool :=
  e.component == "patroni" && e.eventType == "role_change"

/-- A node that was last seen as primary (or running) answers with the role replica (or stopped,
or unreachable). -/
def demotes (last : Option String) (response : PatroniResponse) : Bool :=
  last.any (["primary","running"].contains ·) &&
    response.role.any (["stopped","unreachable","replica"].contains ·)

def demotedNodes (before : List (NodePoll n)) : List (NodePoll n) → List (Fin n)
  | [] => []
  | p :: polls =>
    (if demotes (latestRole (nodeTrace p.node before)) p.response then [p.node] else []) ++
      demotedNodes (before ++ [p]) polls

/-- The node alone was last reported primary before the failure, and from then on every request
to it fails. -/
structure HardKill (before after : List (NodePoll n)) (k : Fin n) : Prop where
  primary : latestRole (nodeTrace k before) = some "primary"
  only : ∀ i, i ≠ k → latestRole (nodeTrace i before) ≠ some "primary"
  unreachable : nodeTrace k after ≠ []
  silent : ∀ r ∈ nodeTrace k after, ∃ text, r = .requestException text

theorem nodeTrace_append (i : Fin n) (polls rest : List (NodePoll n)) :
    nodeTrace i (polls ++ rest) = nodeTrace i polls ++ nodeTrace i rest := by
  simp [nodeTrace]

/-- The watchers remember what the traces of their nodes leave. -/
def Follows (s : NodeWatchers n) (done : List (NodePoll n)) : Prop :=
  ∀ i, (s i = none ↔ nodeTrace i done = []) ∧
    ((s i).getD {}).lastRole = latestRole (nodeTrace i done)

section Watch

variable {s : NodeWatchers n} {done : List (NodePoll n)} {names : Fin n → String}

theorem follows_init : Follows (n := n) (fun _ => none) [] := fun _ => ⟨by simp [nodeTrace],rfl⟩

theorem follows_step (h : Follows s done) (p : NodePoll n) :
    Follows (Function.update s p.node (some (s.poll p).1)) (done ++ [p]) := by
  intro i
  by_cases hi : i = p.node
  · subst hi
    rw [Function.update_self,nodeTrace_append]
    refine ⟨by simp [nodeTrace],?_⟩
    have hone : nodeTrace p.node [p] = [p.response] := by simp [nodeTrace]
    rw [hone,latestRole_snoc,Option.getD_some,NodeWatchers.poll,lastRole_step,(h p.node).2]
  · have hnone : nodeTrace i [p] = [] := by simp [nodeTrace,Ne.symm hi]
    rw [Function.update_of_ne hi,nodeTrace_append,hnone,List.append_nil]
    exact h i

theorem follows_watch (h : Follows s done) (polls : List (NodePoll n)) :
    Follows (s.watch names polls).1 (done ++ polls) := by
  induction polls generalizing s done with
  | nil => simpa [NodeWatchers.watch] using h
  | cons p polls ih =>
    have hrest := ih (follows_step h p)
    rwa [List.append_assoc,List.singleton_append] at hrest

def isDemotion (e : ObserverFrameRow) : Bool :=
  e.component == "patroni" && e.eventType == "role_change" &&
    e.oldValue.any (["primary","running"].contains ·) &&
    ["stopped","unreachable","replica"].contains e.newValue

@[simp] theorem nodeRow_node (p : NodePoll n) (e : Emission) :
    (nodeRow names p e).node = names p.node := rfl

theorem isDemotion_nodeRow (p : NodePoll n) (e : Emission) : isDemotion (nodeRow names p e) =
    (e.eventType == "role_change" && ["primary","running"].contains e.oldValue &&
      ["stopped","unreachable","replica"].contains e.newValue) := by
  simp [isDemotion,nodeRow]

theorem demotions_if {c : Prop} [Decidable c] (p : NodePoll n) (e : Emission) :
    ((((if c then [e] else []).map (nodeRow names p)).filter isDemotion).map
      ObserverFrameRow.node) =
      if c ∧ isDemotion (nodeRow names p e) = true then [names p.node] else [] := by
  by_cases hc : c
  · cases he : isDemotion (nodeRow names p e) <;> simp [hc,he]
  · simp [hc]

theorem contains_valueOr (last : Option String) :
    ["primary","running"].contains (valueOr last "none") =
      last.any (["primary","running"].contains ·) := by
  cases last with
  | none => decide
  | some text =>
    by_cases htext : text = ""
    · subst htext
      decide
    · simp [valueOr,htext]

/-- A poll logs a demotion if and only if it sees one. A failed request changes no role. -/
theorem demotions_poll (self : PatroniWatcher) (emitInitial : Bool) (p : NodePoll n) :
    ((((self.pollState emitInitial p.response).2.map (nodeRow names p)).filter isDemotion).map
      ObserverFrameRow.node) =
      if demotes self.lastRole p.response then [names p.node] else [] := by
  cases hp : p.response with
  | requestException text =>
    simp only [PatroniWatcher.pollState,demotes,PatroniResponse.role]
    split <;> simp [isDemotion,nodeRow]
  | invalid => simp [PatroniWatcher.pollState,demotes,PatroniResponse.role]
  | object role state timeline serverVersion =>
    simp only [PatroniWatcher.pollState,List.map_append,List.filter_append,demotions_if,
      isDemotion_nodeRow,contains_valueOr]
    have hrole : ∀ last role : String, ["primary","running"].contains last = true →
        ["stopped","unreachable","replica"].contains role = true → role ≠ last := by
      rintro last role hlast hrole rfl
      simp at hlast hrole
      rcases hlast with rfl | rfl <;> simp at hrole
    cases hlast : self.lastRole with
    | none => simp [demotes]
    | some last =>
      have hstate : ("node_state_change" == "role_change") = false := by decide
      have htimeline : ("timeline_change" == "role_change") = false := by decide
      have hdemotes : demotes (some last) (.object role state timeline serverVersion) =
          (["primary","running"].contains last &&
            ["stopped","unreachable","replica"].contains (role.getD "unknown")) := rfl
      have hiff : (some (role.getD "unknown") ≠ some last ∧
          (some last ≠ none ∨ emitInitial = true)) ∧
          ("role_change" == "role_change" &&
            Option.any (fun x => ["primary","running"].contains x) (some last) &&
            ["stopped","unreachable","replica"].contains (role.getD "unknown")) = true ↔
          demotes (some last) (.object role state timeline serverVersion) = true := by
        rw [hdemotes,BEq.rfl,Bool.true_and,Option.any_some]
        refine ⟨And.right,fun h => ⟨⟨?_,.inl (by simp)⟩,h⟩⟩
        obtain ⟨hold,hnew⟩ := Bool.and_eq_true_iff.mp h
        simpa using hrole _ _ hold hnew
      simp only [hstate,htimeline,Bool.false_and,Bool.false_eq_true,and_false,if_false,
        List.append_nil]
      exact if_congr hiff rfl rfl

theorem demotions_watch (h : Follows s done) (polls : List (NodePoll n)) :
    ((s.watch names polls).2.filter isDemotion).map ObserverFrameRow.node =
      (demotedNodes done polls).map names := by
  induction polls generalizing s done with
  | nil => rfl
  | cons p polls ih =>
    rw [NodeWatchers.watch,List.filter_append,List.map_append,ih (follows_step h p),
      NodeWatchers.poll,demotions_poll,(h p.node).2,demotedNodes,List.map_append]
    split <;> rfl

end Watch

section Inference

variable {names : Fin n → String} {before pre post : List (NodePoll n)} {k : Fin n}
  {obs : List ObserverFrameRow}

/-- Only role changes of Patroni nodes count. -/
theorem inferKilledLeader_eq (h : obs.filter isPatroniRoleChange =
      (patroniRows names before post).filter isPatroniRoleChange) :
    inferKilledLeader obs = (demotedNodes before post).head?.elim "—" fun i =>
      (names i).replace "patroni-" "" := by
  have hfilter : ∀ rows : List ObserverFrameRow,
      rows.filter isDemotion = (rows.filter isPatroniRoleChange).filter isDemotion := by
    intro rows
    rw [List.filter_filter]
    refine List.filter_congr fun e _ => ?_
    simp only [isDemotion,isPatroniRoleChange]
    cases e.component == "patroni" <;> cases e.eventType == "role_change" <;> simp
  have hdem : (obs.filter isDemotion).map ObserverFrameRow.node =
      (demotedNodes before post).map names := by
    rw [hfilter,h,← hfilter]
    exact demotions_watch (follows_watch follows_init before) post
  have hinfer : inferKilledLeader obs = ((obs.filter isDemotion).map
      ObserverFrameRow.node).head?.elim "—" fun node => node.replace "patroni-" "" := by
    rw [inferKilledLeader]
    split
    next hnone => rw [show obs.filter isDemotion = [] from hnone]; rfl
    next e rest hsome => rw [show obs.filter isDemotion = e :: rest from hsome]; rfl
  rw [hinfer,hdem]
  cases demotedNodes before post <;> rfl

theorem demotedNodes_append (before polls rest : List (NodePoll n)) :
    demotedNodes before (polls ++ rest) =
      demotedNodes before polls ++ demotedNodes (before ++ polls) rest := by
  induction polls generalizing before with
  | nil => simp [demotedNodes]
  | cons p polls ih => simp [demotedNodes,ih]

theorem not_demoted_of_silent (hsilent : ∀ r ∈ nodeTrace k post, ∃ text, r = .requestException text) :
    k ∉ demotedNodes before post := by
  induction post generalizing before with
  | nil => simp [demotedNodes]
  | cons p post ih =>
    rw [demotedNodes,List.mem_append,not_or]
    refine ⟨?_,ih fun r hr => hsilent r ?_⟩
    · split
      next hdem =>
        rw [List.mem_singleton]
        rintro rfl
        obtain ⟨text,htext⟩ := hsilent p.response (by simp [nodeTrace])
        simp [demotes,htext,PatroniResponse.role] at hdem
      next => simp
    · simp only [nodeTrace,List.mem_map,List.mem_filter,List.mem_cons] at hr ⊢
      obtain ⟨q,⟨hq,hnode⟩,hr⟩ := hr
      exact ⟨q,⟨.inr hq,hnode⟩,hr⟩

/-- The killed leader is identified if and only if the first demotion that the run sees is of a
node with its name: one before the failure, of the leader or not, or if there is none, one of
another node afterwards; the failure itself is none. Without any demotion the name must be "—". -/
theorem killed_leader_iff (hkill : HardKill (before ++ pre) post k)
    (hobs : obs.filter isPatroniRoleChange =
      (patroniRows names before (pre ++ post)).filter isPatroniRoleChange) :
    inferKilledLeader obs = (names k).replace "patroni-" "" ↔
      (∃ i, (demotedNodes before pre).head? = some i ∧
        (names i).replace "patroni-" "" = (names k).replace "patroni-" "") ∨
      demotedNodes before pre = [] ∧
        ((∃ i, i ≠ k ∧ (demotedNodes (before ++ pre) post).head? = some i ∧
            (names i).replace "patroni-" "" = (names k).replace "patroni-" "") ∨
          demotedNodes (before ++ pre) post = [] ∧ (names k).replace "patroni-" "" = "—") := by
  rw [inferKilledLeader_eq hobs,demotedNodes_append]
  have hsilent : k ∉ demotedNodes (before ++ pre) post := not_demoted_of_silent hkill.silent
  cases hpre : demotedNodes before pre with
  | cons i rest => simp
  | nil =>
    cases hpost : demotedNodes (before ++ pre) post with
    | nil => simp [eq_comm]
    | cons i rest =>
      have hne : i ≠ k := fun h => hsilent (by rw [hpost,h]; simp)
      simp [hne]

end Inference

def hardKillNames : Fin 3 → String
  | 0 => "patroni-node1"
  | 1 => "patroni-node2"
  | 2 => "patroni-node3"

def answer (role : String) (timeline : Int) : PatroniResponse :=
  .object (some role) (some "running") (some timeline) (some 160002)

def hardKillBefore : List (NodePoll 3) :=
  [⟨0,1777000000000000,answer "primary" 1⟩,⟨1,1777000000010000,answer "replica" 1⟩,
    ⟨2,1777000000020000,answer "replica" 1⟩]

def hardKillAfter : List (NodePoll 3) :=
  [⟨0,1777000002200000,.requestException "Read timed out."⟩,⟨1,1777000012210000,answer "primary" 2⟩,
    ⟨2,1777000012220000,answer "replica" 2⟩,⟨0,1777000014400000,.requestException "Read timed out."⟩]

theorem hardKill : HardKill ([] ++ hardKillBefore) hardKillAfter 0 where
  primary := by decide
  only := by decide
  unreachable := by decide
  silent := by simp [nodeTrace,hardKillAfter]

/-- No row tells of the primary of the first node as gone. -/
theorem hardKill_not_identified : HardKill ([] ++ hardKillBefore) hardKillAfter 0 ∧
    hardKillNames 0 = "patroni-node1" ∧
    inferKilledLeader (patroniRows hardKillNames [] (hardKillBefore ++ hardKillAfter)) = "—" ∧
    "—" ≠ "node1" ∧ "—" ≠ "patroni-node1" :=
  ⟨hardKill,rfl,by decide,by decide,by decide⟩

theorem killed_leader_iff_hardKill :
    inferKilledLeader (patroniRows hardKillNames [] (hardKillBefore ++ hardKillAfter)) =
        (hardKillNames 0).replace "patroni-" "" ↔
      (∃ i, (demotedNodes [] hardKillBefore).head? = some i ∧
        (hardKillNames i).replace "patroni-" "" = (hardKillNames 0).replace "patroni-" "") ∨
      demotedNodes [] hardKillBefore = [] ∧
        ((∃ i, i ≠ 0 ∧ (demotedNodes ([] ++ hardKillBefore) hardKillAfter).head? = some i ∧
            (hardKillNames i).replace "patroni-" "" = (hardKillNames 0).replace "patroni-" "") ∨
          demotedNodes ([] ++ hardKillBefore) hardKillAfter = [] ∧
            (hardKillNames 0).replace "patroni-" "" = "—") :=
  killed_leader_iff hardKill rfl

end RoutingBench
