import RoutingBench.NetworkPartition
import RoutingBench.Registers
set_option autoImplicit false

/-!
The batch on GCP: for every combination the cluster is deployed, and then every scenario is injected
and recovered a number of times. A cell that fails is recorded and the next one begins. What is left
on the nodes by the cells that failed?
-/

namespace RoutingBench.Gcp
open Firewall Registers

inductive Scenario where
  | hardStop | hardKill | switchover | networkPartition | postgresCrash
  deriving DecidableEq, Repr

inductive Service where
  | running | stopped | killed
  deriving DecidableEq, Repr

structure Node where
  service : Service := .running
  chains : ChainName → List Rule

abbrev Cluster := String → Node

abbrev NodeTask := Node → Node

section Role

variable (v : PartitionVars)

def firewallTask (c : Command ChainName Rule) : NodeTask :=
  fun node => { node with chains := execute [c] node.chains }

/-- `kill -9 $(pgrep -f patroni) 2>/dev/null || true` -/
def killPatroni : NodeTask := fun node =>
  if node.service = .running then { node with service := .killed } else node

/-- The tasks of `<scenario>.yml`. -/
def Scenario.tasks : Scenario → List NodeTask
  | .hardStop => [fun node => { node with service := .stopped }]
  | .hardKill => [killPatroni,id]
  | .networkPartition => (RoutingBench.networkPartition v).map firewallTask
  | .switchover => [id]
  | .postgresCrash => [id]

/-- The tasks of recover.yml that are not skipped; the last one for a partition only waits. -/
def Scenario.recoverTasks : Scenario → List NodeTask
  | .networkPartition => (recover v).map firewallTask ++ [id]
  | .hardStop | .hardKill => [fun node => { node with service := .running }]
  | .switchover | .postgresCrash => []

end Role

def perform (tasks : List NodeTask) (node : Node) : Node :=
  tasks.foldl (fun node task => task node) node

/-- A play with a role, on the hosts that have this name. -/
structure Play where
  name : String
  tasks : List NodeTask

/-- A play has nothing to do for a name that is not in `hosts`, the group patroni. -/
def Play.run (hosts : List String) (nodes : Cluster) (play : Play) : Cluster :=
  if play.name ∈ hosts then
    Function.update nodes play.name (perform play.tasks (nodes play.name))
  else nodes

section Target

def failoverTarget : List Char := "Failover target: ".toList

/-- `[a-z0-9-]` -/
def isNameChar (c : Char) : Bool := c.isLower || c.isDigit || c = '-'

/-- `regex_findall('Failover target: ([a-z0-9-]+)') | first` -/
def downedNode : List Char → Option (List Char)
  | [] => none
  | c :: cs =>
    let name := ((c :: cs).drop failoverTarget.length).takeWhile isNameChar
    if failoverTarget.isPrefixOf (c :: cs) ∧ name ≠ [] then some name else downedNode cs

/-- What inject.yml prints, from its first play on. -/
def injectStdout (banner : List Char) (target : String) (rest : List Char) : List Char :=
  banner ++ failoverTarget ++ target.toList ++ " (scenario: ".toList ++ rest

end Target

/-- How inject.yml ends: without a target, in the role after some of its tasks (or before it or
after it), or with all that it prints. -/
inductive InjectEnd where
  | undiscovered
  | aborted (target : String) (tasks : Nat)
  | completed (target : String) (banner rest : List Char)

inductive RecoverEnd where
  | aborted (tasks : Nat)
  | completed

structure CellEnd where
  inject : InjectEnd
  recover : RecoverEnd
  stable : Bool

structure Cell where
  combo : String
  scenario : Scenario
  iter : Nat
  deriving DecidableEq, Repr

/-- An entry of batch_results, and the target of its injection, which is not in there. -/
structure Record where
  cell : Cell
  target : Option String
  ok : Bool
  deriving DecidableEq, Repr

section Iteration

variable (v : PartitionVars)

/-- The plays of _batch_iter.yml that come as far as the nodes, and whether the cell is `ok`. -/
def batchIter (cell : Cell) (e : CellEnd) : List Play × Option String × Bool :=
  let tasks := cell.scenario.tasks v
  let recovering := cell.scenario.recoverTasks v
  match e.inject with
  | .undiscovered => ([],none,false)
  | .aborted target n => ([⟨target,tasks.take n⟩],some target,false)
  | .completed target banner rest =>
    if cell.scenario = .switchover then ([⟨target,tasks⟩],some target,e.stable)
    else match downedNode (injectStdout banner target rest) with
      | none => ([⟨target,tasks⟩],some target,false)
      | some downed => match e.recover with
        | .aborted n =>
          ([⟨target,tasks⟩,⟨String.ofList downed,recovering.take n⟩],some target,false)
        | .completed => ([⟨target,tasks⟩,⟨String.ofList downed,recovering⟩],some target,e.stable)

end Iteration

/-- How site.yml ends: as what it leaves the Patroni of a node that it has started or restarted
(stopped, where the handler `restart patroni` fails), and what /cluster says after it. -/
structure DeployEnd where
  patroni : String → Option Service
  ok : Bool
  cluster : Bool

/-- What the playbooks meet, by what has been recorded before, and whose Patroni systemd has started
again by then: the unit has `Restart=on-failure`. -/
structure World where
  deploy : List Record → String → DeployEnd
  cell : List Record → Cell → CellEnd
  respawned : List Record → String → Bool

structure Batch where
  nodes : Cluster
  records : List Record := []
  aborted : Bool := false

section Run

variable (v : PartitionVars) (hosts : List String) (w : World)

def deployPatroni (patroni : String → Option Service) (nodes : Cluster) : Cluster := fun name =>
  if name ∈ hosts then { nodes name with service := (patroni name).getD (nodes name).service }
  else nodes name

/-- stabilize.yml: /health is 200 on every node, and /cluster has one leader and three members. -/
def stabilized (nodes : Cluster) (cluster : Bool) : Bool :=
  hosts.all (fun name => (nodes name).service = .running) && cluster

def Batch.deployed (b : Batch) (combo : String) : Batch :=
  { b with nodes := deployPatroni hosts (w.deploy b.records combo).patroni b.nodes }

def respawn (which : String → Bool) (nodes : Cluster) : Cluster := fun name =>
  if which name = true ∧ (nodes name).service = .killed then
    { nodes name with service := .running }
  else nodes name

def runCell (b : Batch) (cell : Cell) : Batch :=
  let iteration := batchIter v cell (w.cell b.records cell)
  { b with
    nodes := iteration.1.foldl (Play.run hosts) (respawn (w.respawned b.records) b.nodes)
    records := b.records ++ [⟨cell,iteration.2.1,iteration.2.2⟩] }

/-- `batch_scenarios | product(range(1, batch_iterations + 1))` -/
def cellsOf (scenarios : List Scenario) (iterations : Nat) (combo : String) : List Cell :=
  scenarios.flatMap fun scenario =>
    (List.range iterations).map fun i => ⟨combo,scenario,i + 1⟩

/-- _batch_combo.yml; a failure of the first two tasks ends the batch. -/
def batchCombo (scenarios : List Scenario) (iterations : Nat) (b : Batch) (combo : String) :
    Batch :=
  if b.aborted then b
  else
    let deploy := w.deploy b.records combo
    let b := b.deployed hosts w combo
    if deploy.ok && stabilized hosts b.nodes deploy.cluster then
      (cellsOf scenarios iterations combo).foldl (runCell v hosts w) b
    else { b with aborted := true }

def runBatch (combos : List String) (scenarios : List Scenario) (iterations : Nat)
    (nodes : Cluster) : Batch :=
  combos.foldl (batchCombo v hosts w scenarios iterations) { nodes := nodes }

end Run

/-- What run-batch.yml prints and writes to batch-run-summary.yml after the last combination. -/
structure BatchSummary where
  total : Nat
  ok : Nat
  failed : Nat
  results : List (Cell × Bool)
  deriving DecidableEq, Repr

def batchSummary (b : Batch) : Option BatchSummary :=
  if b.aborted then none
  else
    let results := b.records.map fun r => (r.cell,r.ok)
    some ⟨results.length,(results.filter fun r => r.2).length,
      (results.filter fun r => !r.2).length,results⟩

def Scenario.partitions : Scenario → Bool
  | .networkPartition => true
  | _ => false

def Scenario.stops : Scenario → Bool
  | .hardStop | .hardKill => true
  | _ => false

/-- The cells of some scenarios on the nodes they had as their targets, and whether they were ok. -/
def markOf (concerned : Scenario → Bool) (r : Record) : Option (String × Bool) :=
  if concerned r.cell.scenario then r.target.map fun name => (name,r.ok) else none

/-- Of the cells of some scenarios on a node the last one. -/
def lastMark (concerned : Scenario → Bool) (name : String) (records : List Record) : Option Bool :=
  lastTo name (records.filterMap (markOf concerned))

section Text

variable {banner rest : List Char} {target : String}

theorem failoverTarget_eq : failoverTarget = 'F' :: "ailover target: ".toList := by decide

theorem takeWhile_append_stop {p : Char → Bool} {name rest : List Char} {c : Char}
    (hname : ∀ d ∈ name, p d = true) (hc : p c = false) :
    (name ++ c :: rest).takeWhile p = name := by
  rw [List.takeWhile_append_of_pos hname,List.takeWhile_cons_of_neg (by simp [hc]),List.append_nil]

/-- Of two occurrences that overlap one begins inside of the other, where there is no F. -/
theorem not_prefix_of_banner {front : List Char} (hne : front ≠ [])
    (hbanner : ¬failoverTarget <:+: front) (rest : List Char) :
    ¬failoverTarget <+: front ++ failoverTarget ++ rest := by
  rintro ⟨t,ht⟩
  rcases Nat.lt_or_ge front.length failoverTarget.length with hlt | hge
  · have hF : (failoverTarget ++ t)[front.length]? = some 'F' := by
      rw [ht,List.append_assoc,List.getElem?_append_right (Nat.le_refl _),Nat.sub_self]
      rfl
    rw [List.getElem?_append_left hlt] at hF
    have hpos : 0 < front.length := List.length_pos_iff.mpr hne
    have honly : ∀ i < failoverTarget.length, 0 < i → failoverTarget[i]? ≠ some 'F' := by decide
    exact honly _ hlt hpos hF
  · refine hbanner (List.IsPrefix.isInfix ?_)
    rw [List.append_assoc] at ht
    exact List.prefix_of_prefix_length_le ⟨t,ht⟩ (List.prefix_append _ _) hge

/-- The downed node is the target, whatever is printed before and after it. -/
theorem downedNode_injectStdout (hbanner : ¬failoverTarget <:+: banner)
    (htarget : target.toList ≠ []) (hname : ∀ c ∈ target.toList, isNameChar c = true) :
    downedNode (injectStdout banner target rest) = some target.toList := by
  induction banner with
  | nil =>
    have hshape : injectStdout [] target rest =
        failoverTarget ++ (target.toList ++ ' ' :: ("(scenario: ".toList ++ rest)) := by
      simp [injectStdout]
    have htake : ((injectStdout [] target rest).drop failoverTarget.length).takeWhile isNameChar =
        target.toList := by
      rw [hshape,List.drop_left]
      exact takeWhile_append_stop hname (by decide)
    have hfront : failoverTarget.isPrefixOf (injectStdout [] target rest) = true := by
      rw [hshape,List.isPrefixOf_iff_prefix]
      exact List.prefix_append _ _
    have hcons : injectStdout [] target rest = 'F' :: (injectStdout [] target rest).tail := by
      rw [hshape,failoverTarget_eq]
      rfl
    rw [hcons,downedNode,← hcons,htake,if_pos ⟨hfront,htarget⟩]
  | cons c banner ih =>
    have hstdout : injectStdout (c :: banner) target rest =
        c :: injectStdout banner target rest := rfl
    have hno : failoverTarget.isPrefixOf (c :: injectStdout banner target rest) ≠ true := by
      rw [← hstdout,injectStdout,List.append_assoc _ target.toList,List.append_assoc]
      intro h
      exact not_prefix_of_banner (List.cons_ne_nil _ _) hbanner _ (List.isPrefixOf_iff_prefix.mp h)
    rw [hstdout,downedNode,if_neg fun h => hno h.1]
    exact ih fun h => hbanner (h.trans (List.suffix_cons c banner).isInfix)

end Text

section Firewall

variable {v : PartitionVars} {initial : ChainName → List Rule} {node : Node}

/-- Of the chains of a node only the rules of the role have changed, and the recovery has all of
those that are there. -/
structure Traced (v : PartitionVars) (initial : ChainName → List Rule) (node : Node) : Prop where
  keeps : ∀ k, Keeps Rule.bench (initial k) (node.chains k)
  undone : ∀ k, ∀ r ∈ node.chains k, r.bench = true → ∃ d ∈ recover v, d.chain = k ∧ d.rule = r

def Restored (initial : ChainName → List Rule) (node : Node) : Prop := node.chains = initial

theorem bench_networkPartition (v : PartitionVars) :
    ∀ c ∈ networkPartition v, c.rule.bench = true := by
  unfold networkPartition
  split <;> simp [or_imp,forall_and,Command.rule]

theorem bench_recover (v : PartitionVars) : ∀ d ∈ recover v, d.rule.bench = true := by
  simp [recover,or_imp,forall_and,Command.rule]

theorem recovers_own (v : PartitionVars) : ∀ c ∈ networkPartition v,
    ∃ d ∈ recover v, d.chain = c.chain ∧ d.rule = c.rule := by
  intro c hc
  have hrule : ∃ c' ∈ networkPartition v, c'.chain = c.chain ∧ c'.rule = c.rule :=
    ⟨c,hc,rfl,rfl⟩
  rw [recover_rule_iff]
  cases hmode : v.partitionMode with
  | full =>
    rw [full_rule_iff hmode] at hrule
    rcases hrule with hrule | hrule | hrule | hrule
    · exact .inr (.inr (.inl hrule))
    · exact .inr (.inr (.inr (.inl hrule)))
    · exact .inr (.inr (.inr (.inr hrule)))
    · exact .inl hrule
  | asymmetric =>
    rw [asymmetric_rule_iff hmode] at hrule
    exact .inr (.inl hrule)

@[simp] theorem firewallTask_service (c : Command ChainName Rule) (node : Node) :
    (firewallTask c node).service = node.service := rfl

theorem firewallTask_chains (c : Command ChainName Rule) (node : Node) (k : ChainName) :
    (firewallTask c node).chains k =
      if c.chain = k then c.onChain (node.chains k) else node.chains k := by
  have hchains : (firewallTask c node).chains k = execute [c] node.chains k := rfl
  rw [hchains,execute_chain]
  by_cases h : c.chain = k
  · simp [h]
  · simp [h]

theorem Traced.firewallTask {c : Command ChainName Rule} (h : Traced v initial node)
    (hbench : c.rule.bench = true)
    (hc : c.adds = true → ∃ d ∈ recover v, d.chain = c.chain ∧ d.rule = c.rule) :
    Traced v initial (firewallTask c node) := by
  constructor
  · intro k
    rw [firewallTask_chains]
    split
    · exact keeps_onChain hbench (h.keeps k)
    · exact h.keeps k
  · intro k r hr hown
    rw [firewallTask_chains] at hr
    split at hr
    next hk =>
      cases hadds : c.adds with
      | true =>
        rcases (mem_onChain_of_adds hadds).mp hr with rfl | hr
        · exact hk ▸ hc hadds
        · exact h.undone k r hr hown
      | false =>
        cases c with
        | delete k' s => exact h.undone k r (List.mem_of_mem_erase hr) hown
        | insert k' s => contradiction
        | append k' s => contradiction
    next => exact h.undone k r hr hown

theorem perform_append (tasks tasks' : List NodeTask) (node : Node) :
    perform (tasks ++ tasks') node = perform tasks' (perform tasks node) := List.foldl_append

theorem perform_rule {P : Node → Prop} {tasks : List NodeTask}
    (htasks : ∀ task ∈ tasks, ∀ node, P node → P (task node)) (h : P node) :
    P (perform tasks node) := by
  induction tasks generalizing node with
  | nil => exact h
  | cons task tasks ih =>
    exact ih (fun t ht => htasks t (List.mem_cons_of_mem task ht))
      (htasks task List.mem_cons_self node h)

theorem perform_firewall (cs : List (Command ChainName Rule)) (node : Node) :
    perform (cs.map firewallTask) node = { node with chains := execute cs node.chains } := by
  induction cs generalizing node with
  | nil => rfl
  | cons c cs ih =>
    rw [List.map_cons]
    change perform (cs.map Gcp.firewallTask) (Gcp.firewallTask c node) = _
    rw [ih]
    rfl

theorem Traced.recovered (h : Traced v initial node) :
    Restored initial (perform ((recover v).map Gcp.firewallTask) node) := by
  rw [perform_firewall]
  funext k
  have hdel : ∀ d ∈ (recover v).filter fun d => d.chain = k, d.adds = false :=
    fun d hd => recover_deletes v d (List.mem_filter.mp hd).1
  have hown : ∀ d ∈ (recover v).filter fun d => d.chain = k, d.rule.bench = true :=
    fun d hd => bench_recover v d (List.mem_filter.mp hd).1
  have hkept := keeps_foldl hown (h.keeps k)
  have hnone : ∀ r ∈ ((recover v).filter fun d => d.chain = k).foldl Command.onChain
      (node.chains k), (!r.bench) = true := by
    intro r hr
    by_contra hbench
    have hbench : r.bench = true := by simpa using hbench
    obtain ⟨hmem,hleft⟩ := (mem_foldl_of_deletes hdel hown (h.keeps k) hbench).mp hr
    obtain ⟨d,hd,hk,hrule⟩ := h.undone k r hmem hbench
    exact hleft d (List.mem_filter.mpr ⟨hd,by simpa using hk⟩) hrule
  change execute (recover v) node.chains k = initial k
  rw [execute_chain,← List.filter_eq_self.mpr hnone]
  exact hkept.others

theorem Restored.delete {d : Command ChainName Rule} (hforeign : ∀ k, ∀ r ∈ initial k,
    r.bench = false) (hd : d ∈ recover v) (h : Restored initial node) :
    Restored initial (Gcp.firewallTask d node) := by
  funext k
  rw [firewallTask_chains,h]
  split
  · have hdel := recover_deletes v d hd
    have hbench := bench_recover v d hd
    cases d with
    | delete k' s =>
      refine List.erase_of_not_mem fun hs => ?_
      have hs' := hforeign k s hs
      rw [Command.rule] at hbench
      rw [hbench] at hs'
      contradiction
    | insert k' s => contradiction
    | append k' s => contradiction
  · rfl

end Firewall

section Plays

variable {hosts : List String} {nodes : Cluster} {plays : List Play} {name : String}

def tasksOn (name : String) (plays : List Play) : List NodeTask :=
  plays.flatMap fun play => if play.name = name then play.tasks else []

theorem tasksOn_cons (play : Play) : tasksOn name (play :: plays) =
    (if play.name = name then play.tasks else []) ++ tasksOn name plays := rfl

theorem plays_apply : plays.foldl (Play.run hosts) nodes name =
    if name ∈ hosts then perform (tasksOn name plays) (nodes name) else nodes name := by
  induction plays generalizing nodes with
  | nil =>
    split
    · rfl
    · rfl
  | cons play plays ih =>
    rw [List.foldl_cons,ih,tasksOn_cons,perform_append,Play.run]
    by_cases hname : play.name = name
    · subst hname
      by_cases hhost : play.name ∈ hosts
      · simp [hhost]
      · simp [hhost]
    · have hother : ∀ f : Node, Function.update nodes play.name f name = nodes name :=
        fun f => Function.update_of_ne (Ne.symm hname) f nodes
      by_cases hhost : play.name ∈ hosts
      · simp [hhost,hname,hother,perform]
      · simp [hhost,hname,perform,tasksOn]

end Plays

section Cells

variable {v : PartitionVars} {initial : ChainName → List Rule} {cell : Cell} {e : CellEnd}
  {concerned : Scenario → Bool} {P : Node → Prop} {node : Node} {name : String}

theorem killPatroni_chains (node : Node) : (killPatroni node).chains = node.chains := by
  rw [killPatroni]
  split <;> rfl

theorem traced_tasks (v : PartitionVars) (scenario : Scenario) :
    ∀ task ∈ scenario.tasks v ++ scenario.recoverTasks v, ∀ node, Traced v initial node →
      Traced v initial (task node) := by
  have hsame : ∀ node node' : Node, node'.chains = node.chains → Traced v initial node →
      Traced v initial node' :=
    fun node node' heq h => ⟨fun k => by rw [heq]; exact h.keeps k,
      fun k r hr => h.undone k r (by rw [← heq]; exact hr)⟩
  have hadded : ∀ c ∈ networkPartition v, ∀ node, Traced v initial node →
      Traced v initial (firewallTask c node) := fun c hc node h =>
    h.firewallTask (bench_networkPartition v c hc) fun _ => recovers_own v c hc
  have hdeleted : ∀ d ∈ recover v, ∀ node, Traced v initial node →
      Traced v initial (firewallTask d node) := fun d hd node h =>
    h.firewallTask (bench_recover v d hd) fun hadds =>
      absurd hadds (by simp [recover_deletes v d hd])
  cases scenario with
  | networkPartition =>
    intro task htask node h
    simp only [Scenario.tasks,Scenario.recoverTasks,List.mem_append,List.mem_map,
      List.mem_singleton] at htask
    rcases htask with ⟨c,hc,rfl⟩ | ⟨d,hd,rfl⟩ | rfl
    · exact hadded c hc node h
    · exact hdeleted d hd node h
    · exact h
  | hardKill =>
    intro task htask node h
    simp only [Scenario.tasks,Scenario.recoverTasks,List.mem_append,List.mem_cons,
      List.not_mem_nil,or_false] at htask
    rcases htask with (rfl | rfl) | rfl
    · exact hsame node _ (killPatroni_chains node) h
    · exact h
    · exact hsame node _ rfl h
  | hardStop =>
    intro task htask node h
    simp only [Scenario.tasks,Scenario.recoverTasks,List.mem_append,List.mem_singleton] at htask
    rcases htask with rfl | rfl <;> exact hsame node _ rfl h
  | switchover =>
    intro task htask node h
    simp only [Scenario.tasks,Scenario.recoverTasks,List.append_nil,List.mem_singleton] at htask
    exact htask ▸ h
  | postgresCrash =>
    intro task htask node h
    simp only [Scenario.tasks,Scenario.recoverTasks,List.append_nil,List.mem_singleton] at htask
    exact htask ▸ h

/-- A property of a node that only some scenarios can destroy, whose recovery restores it. -/
structure Repairs (v : PartitionVars) (initial : ChainName → List Rule)
    (concerned : Scenario → Bool) (P : Node → Prop) : Prop where
  switchover : concerned .switchover = false
  untouched : ∀ scenario, concerned scenario = false →
    ∀ task ∈ scenario.tasks v, ∀ node, P node → P (task node)
  kept : ∀ scenario, ∀ task ∈ Scenario.recoverTasks v scenario, ∀ node, P node → P (task node)
  repaired : ∀ scenario, concerned scenario = true → ∀ node, Traced v initial node →
    P (perform (scenario.recoverTasks v) node)
  started : ∀ node, P node → P { node with service := .running }

theorem repairs_running : Repairs v initial Scenario.stops fun node => node.service = .running where
  switchover := rfl
  untouched scenario hother task htask node h := by
    cases scenario <;> simp [Scenario.stops] at hother <;>
      simp only [Scenario.tasks,List.mem_map,List.mem_singleton] at htask
    case networkPartition =>
      obtain ⟨c,-,rfl⟩ := htask
      exact h
    all_goals exact htask ▸ h
  kept scenario task htask node h := by
    cases scenario <;> simp only [Scenario.recoverTasks,List.mem_append,List.mem_map,
      List.mem_singleton,List.not_mem_nil] at htask
    case networkPartition =>
      rcases htask with ⟨c,-,rfl⟩ | rfl <;> exact h
    all_goals exact htask ▸ rfl
  repaired scenario hstops node _ := by
    cases scenario <;> first | rfl | contradiction
  started _ _ := rfl

theorem repairs_restored (hforeign : ∀ k, ∀ r ∈ initial k, r.bench = false) :
    Repairs v initial Scenario.partitions (Restored initial) where
  switchover := rfl
  untouched scenario hother task htask node h := by
    cases scenario <;> simp [Scenario.partitions] at hother <;>
      simp only [Scenario.tasks,List.mem_cons,List.not_mem_nil,or_false] at htask
    case hardKill =>
      rcases htask with rfl | rfl
      · exact (killPatroni_chains node).trans h
      · exact h
    all_goals exact htask ▸ h
  kept scenario task htask node h := by
    cases scenario <;> simp only [Scenario.recoverTasks,List.mem_append,List.mem_map,
      List.mem_singleton,List.not_mem_nil] at htask
    case networkPartition =>
      rcases htask with ⟨d,hd,rfl⟩ | rfl
      · exact h.delete hforeign hd
      · exact h
    all_goals exact htask ▸ h
  repaired scenario hpartitions node h := by
    cases scenario <;> simp [Scenario.partitions] at hpartitions
    rw [Scenario.recoverTasks,perform_append]
    exact h.recovered
  started _ h := h

/-- How a cell ends: before any node, in the injection, after a switchover, in the recovery, or after
it. -/
inductive Ends (v : PartitionVars) (cell : Cell) (e : CellEnd) :
    List Play × Option String × Bool → Prop where
  | nothing : Ends v cell e ([],none,false)
  | injecting (target : String) (n : Nat) :
    Ends v cell e ([⟨target,(cell.scenario.tasks v).take n⟩],some target,false)
  | switched (target : String) (ok : Bool) (h : cell.scenario = .switchover) :
    Ends v cell e ([⟨target,cell.scenario.tasks v⟩],some target,ok)
  | recovering (target downed : String) (n : Nat) :
    Ends v cell e ([⟨target,cell.scenario.tasks v⟩,
      ⟨downed,(cell.scenario.recoverTasks v).take n⟩],some target,false)
  | recovered (target : String) (banner rest downed : List Char) (ok : Bool)
    (h : e.inject = .completed target banner rest)
    (hdowned : downedNode (injectStdout banner target rest) = some downed) :
    Ends v cell e ([⟨target,cell.scenario.tasks v⟩,
      ⟨String.ofList downed,cell.scenario.recoverTasks v⟩],some target,ok)

theorem batchIter_ends (v : PartitionVars) (cell : Cell) (e : CellEnd) :
    Ends v cell e (batchIter v cell e) := by
  rw [batchIter]
  cases hinject : e.inject with
  | undiscovered => exact .nothing
  | aborted target n => exact .injecting target n
  | completed target banner rest =>
    dsimp only
    split
    next h => exact .switched target e.stable h
    next =>
      cases hdowned : downedNode (injectStdout banner target rest) with
      | none =>
        have hall : Ends v cell e ([⟨target,(cell.scenario.tasks v).take
            (cell.scenario.tasks v).length⟩],some target,false) := .injecting target _
        rwa [List.take_length] at hall
      | some downed =>
        cases hrecover : e.recover with
        | aborted n => exact .recovering target _ n
        | completed => exact .recovered target banner rest downed e.stable hinject hdowned

/-- To another node than the target of a cell come at most tasks of the recovery. -/
theorem Ends.other {r : List Play × Option String × Bool} (h : Ends v cell e r)
    (hother : r.2.1 ≠ some name) : ∀ task ∈ tasksOn name r.1, task ∈ cell.scenario.recoverTasks v := by
  have hne : ∀ target : String, some target ≠ some name → target ≠ name :=
    fun target h heq => h (congrArg some heq)
  intro task htask
  cases h with
  | nothing => contradiction
  | injecting target n => simp [tasksOn,hne target hother] at htask
  | switched target ok hscenario => simp [tasksOn,hne target hother] at htask
  | recovering target downed n =>
    simp only [tasksOn,List.flatMap_cons,List.flatMap_nil,if_neg (hne target hother),
      List.nil_append,List.append_nil] at htask
    split at htask
    · exact List.mem_of_mem_take htask
    · contradiction
  | recovered target banner rest downed ok hinject hdowned =>
    simp only [tasksOn,List.flatMap_cons,List.flatMap_nil,if_neg (hne target hother),
      List.nil_append,List.append_nil] at htask
    split at htask
    · exact htask
    · contradiction

theorem Ends.tasks {r : List Play × Option String × Bool} (h : Ends v cell e r) (name : String) :
    ∀ task ∈ tasksOn name r.1, task ∈ cell.scenario.tasks v ++ cell.scenario.recoverTasks v := by
  have hpart : ∀ (c : Prop) [Decidable c] (tasks : List NodeTask), ∀ task ∈ (if c then tasks else []),
      task ∈ tasks := by
    intro c _ tasks task htask
    split at htask
    · exact htask
    · contradiction
  intro task htask
  rw [List.mem_append]
  cases h with
  | nothing => contradiction
  | injecting target n =>
    simp only [tasksOn,List.flatMap_cons,List.flatMap_nil,List.append_nil] at htask
    exact .inl (List.mem_of_mem_take (hpart _ _ task htask))
  | switched target ok hscenario =>
    simp only [tasksOn,List.flatMap_cons,List.flatMap_nil,List.append_nil] at htask
    exact .inl (hpart _ _ task htask)
  | recovering target downed n =>
    simp only [tasksOn,List.flatMap_cons,List.flatMap_nil,List.append_nil,List.mem_append] at htask
    rcases htask with htask | htask
    · exact .inl (hpart _ _ task htask)
    · exact .inr (List.mem_of_mem_take (hpart _ _ task htask))
  | recovered target banner rest downed ok hinject hdowned =>
    simp only [tasksOn,List.flatMap_cons,List.flatMap_nil,List.append_nil,List.mem_append] at htask
    rcases htask with htask | htask
    · exact .inl (hpart _ _ task htask)
    · exact .inr (hpart _ _ task htask)

theorem lastMark_snoc (records : List Record) (r : Record) :
    lastMark concerned name (records ++ [r]) =
      (if concerned r.cell.scenario = true ∧ r.target = some name then some r.ok else none).or
        (lastMark concerned name records) := by
  rw [lastMark,lastTo_filterMap_snoc,markOf,lastMark]
  congr 1
  cases hconcerned : concerned r.cell.scenario with
  | false => rfl
  | true =>
    cases htarget : r.target with
    | none => rfl
    | some target => simp

/-- A node that is not as before after a cell was not before it, or is the target of the cell, which
is not ok. -/
theorem Repairs.marked (hrep : Repairs v initial concerned P) {r : List Play × Option String × Bool}
    (h : Ends v cell e r) (htraced : Traced v initial node)
    (hdowned : ∀ banner rest, e.inject = .completed name banner rest →
      downedNode (injectStdout banner name rest) = some name.toList)
    {records : List Record} (hbefore : ¬P node → lastMark concerned name records = some false)
    (hafter : ¬P (perform (tasksOn name r.1) node)) :
    lastMark concerned name (records ++ [⟨cell,r.2.1,r.2.2⟩]) = some false := by
  rw [lastMark_snoc]
  cases hconcerned : concerned cell.scenario with
  | false =>
    refine hbefore fun hP => hafter (perform_rule (fun task htask n hn => ?_) hP)
    rcases List.mem_append.mp (h.tasks name task htask) with htask | htask
    · exact hrep.untouched _ hconcerned task htask n hn
    · exact hrep.kept _ task htask n hn
  | true =>
    by_cases htarget : r.2.1 = some name
    · rw [if_pos ⟨rfl,htarget⟩,Option.some_or,Option.some_inj]
      dsimp only
      cases h with
      | nothing => rfl
      | injecting target n => rfl
      | switched target ok hscenario =>
        rw [hscenario,hrep.switchover] at hconcerned
        contradiction
      | recovering target downed n => rfl
      | recovered target banner rest downed ok hinject hfound =>
        obtain rfl : target = name := Option.some.inj htarget
        obtain rfl := Option.some.inj (hfound.symm.trans (hdowned banner rest hinject))
        refine absurd ?_ hafter
        have htasks : tasksOn target [⟨target,cell.scenario.tasks v⟩,
            ⟨String.ofList target.toList,cell.scenario.recoverTasks v⟩] =
              cell.scenario.tasks v ++ cell.scenario.recoverTasks v := by
          simp [tasksOn]
        dsimp only
        rw [htasks,perform_append]
        refine hrep.repaired _ hconcerned _ (perform_rule (fun task htask n hn => ?_) htraced)
        exact traced_tasks v _ task (List.mem_append_left _ htask) n hn
    · rw [if_neg fun hboth => htarget hboth.2,Option.none_or]
      refine hbefore fun hP => hafter (perform_rule (fun task htask n hn => ?_) hP)
      exact hrep.kept _ task (h.other htarget task htask) n hn

end Cells

section Deployments

variable {v : PartitionVars} {hosts : List String} {w : World} {scenarios : List Scenario}
  {iterations : Nat} {nodes : Cluster} {b : Batch} {combos done : List String} {combo : String}

/-- The deployment of a combination fails, or the health check after it. -/
def DeployFails (hosts : List String) (w : World) (b : Batch) (combo : String) : Prop :=
  (w.deploy b.records combo).ok = false ∨
    stabilized hosts (b.deployed hosts w combo).nodes (w.deploy b.records combo).cluster = false

theorem aborted_cells (cells : List Cell) :
    (cells.foldl (runCell v hosts w) b).aborted = b.aborted := by
  induction cells generalizing b with
  | nil => rfl
  | cons cell cells ih => exact ih

theorem batchCombo_cases (v : PartitionVars) (hosts : List String) (w : World)
    (scenarios : List Scenario) (iterations : Nat) (b : Batch) (combo : String) :
    (b.aborted = true ∧ batchCombo v hosts w scenarios iterations b combo = b) ∨
    (b.aborted = false ∧ DeployFails hosts w b combo ∧
      batchCombo v hosts w scenarios iterations b combo =
        { b.deployed hosts w combo with aborted := true }) ∨
    (b.aborted = false ∧ ¬DeployFails hosts w b combo ∧
      batchCombo v hosts w scenarios iterations b combo =
        (cellsOf scenarios iterations combo).foldl (runCell v hosts w)
          (b.deployed hosts w combo)) := by
  rw [batchCombo]
  cases hb : b.aborted with
  | true => exact .inl ⟨rfl,rfl⟩
  | false =>
    rw [if_neg Bool.false_ne_true]
    dsimp only
    split
    next hpasses =>
      rw [Bool.and_eq_true] at hpasses
      refine .inr (.inr ⟨rfl,fun hfails => ?_,rfl⟩)
      rcases hfails with hno | hno
      · rw [hpasses.1] at hno
        contradiction
      · rw [hpasses.2] at hno
        contradiction
    next hfails =>
      exact .inr (.inl ⟨rfl,Bool.and_eq_false_iff.mp (Bool.eq_false_iff.mpr hfails),rfl⟩)

theorem runBatch_snoc (combos : List String) (combo : String) :
    runBatch v hosts w (combos ++ [combo]) scenarios iterations nodes =
      batchCombo v hosts w scenarios iterations
        (runBatch v hosts w combos scenarios iterations nodes) combo := by
  rw [runBatch,List.foldl_append]
  rfl

theorem going_of_batchCombo
    (h : (batchCombo v hosts w scenarios iterations b combo).aborted = false) :
    b.aborted = false := by
  rcases batchCombo_cases v hosts w scenarios iterations b combo with ⟨-,heq⟩ | ⟨hb,-⟩ | ⟨hb,-⟩
  · rwa [heq] at h
  · exact hb
  · exact hb

/-- The deployment of `combo` after the combinations `done` has ended the batch. -/
structure EndedBy (v : PartitionVars) (hosts : List String) (w : World) (scenarios : List Scenario)
    (iterations : Nat) (nodes : Cluster) (combos done : List String) (combo : String) : Prop where
  order : ∃ rest, combos = done ++ combo :: rest
  going : (runBatch v hosts w done scenarios iterations nodes).aborted = false
  fails : DeployFails hosts w (runBatch v hosts w done scenarios iterations nodes) combo

theorem EndedBy.runBatch (h : EndedBy v hosts w scenarios iterations nodes combos done combo) :
    runBatch v hosts w combos scenarios iterations nodes =
      { (runBatch v hosts w done scenarios iterations nodes).deployed hosts w combo with
        aborted := true } := by
  obtain ⟨⟨rest,rfl⟩,hgoing,hfails⟩ := h
  induction rest using List.reverseRecOn with
  | nil =>
    rw [runBatch_snoc]
    rcases batchCombo_cases v hosts w scenarios iterations
      (Gcp.runBatch v hosts w done scenarios iterations nodes) combo with
        ⟨habort,-⟩ | ⟨-,-,heq⟩ | ⟨-,hpasses,-⟩
    · rw [hgoing] at habort
      contradiction
    · exact heq
    · exact absurd hfails hpasses
  | append_singleton rest last ih =>
    rw [← List.cons_append,← List.append_assoc,runBatch_snoc,ih]
    rfl

theorem EndedBy.records (h : EndedBy v hosts w scenarios iterations nodes combos done combo) :
    (Gcp.runBatch v hosts w combos scenarios iterations nodes).records =
      (Gcp.runBatch v hosts w done scenarios iterations nodes).records := by
  rw [h.runBatch]
  rfl

theorem aborted_iff : (runBatch v hosts w combos scenarios iterations nodes).aborted = true ↔
    ∃ done combo, EndedBy v hosts w scenarios iterations nodes combos done combo := by
  constructor
  · intro habort
    induction combos using List.reverseRecOn with
    | nil => contradiction
    | append_singleton combos last ih =>
      rw [runBatch_snoc] at habort
      rcases batchCombo_cases v hosts w scenarios iterations
        (runBatch v hosts w combos scenarios iterations nodes) last with
          ⟨hb,-⟩ | ⟨hb,hfails,-⟩ | ⟨hb,-,heq⟩
      · obtain ⟨done,combo,⟨⟨rest,rfl⟩,hgoing,hfails⟩⟩ := ih hb
        exact ⟨done,combo,⟨rest ++ [last],by simp⟩,hgoing,hfails⟩
      · exact ⟨combos,last,⟨[],rfl⟩,hb,hfails⟩
      · rw [heq,aborted_cells] at habort
        exact absurd (hb.symm.trans habort) Bool.false_ne_true
  · intro ⟨done,combo,h⟩
    rw [h.runBatch]

end Deployments

section Batch

variable {v : PartitionVars} {hosts : List String} {w : World}
  {initial : String → ChainName → List Rule} {concerned : Scenario → Bool}
  {P : String → Node → Prop} {b : Batch} {scenarios : List Scenario} {iterations : Nat}

/-- The names of the inventory are such that they are found in what inject.yml prints. -/
structure Readable (hosts : List String) (w : World) : Prop where
  names : ∀ name ∈ hosts, name.toList ≠ [] ∧ ∀ c ∈ name.toList, isNameChar c = true
  banner : ∀ records cell target banner rest,
    (w.cell records cell).inject = .completed target banner rest → ¬failoverTarget <:+: banner

/-- The nodes that are not as before are those whose last cell is not ok. -/
structure Marked (v : PartitionVars) (hosts : List String)
    (initial : String → ChainName → List Rule) (concerned : Scenario → Bool)
    (P : String → Node → Prop) (b : Batch) : Prop where
  traced : ∀ name, Traced v (initial name) (b.nodes name)
  others : ∀ name, name ∉ hosts → P name (b.nodes name)
  marked : ∀ name, ¬P name (b.nodes name) → lastMark concerned name b.records = some false

theorem Traced.service {chains : ChainName → List Rule} {node : Node} (h : Traced v chains node)
    (service : Service) : Traced v chains { node with service := service } := ⟨h.keeps,h.undone⟩

theorem Marked.started (hrep : ∀ name, Repairs v (initial name) concerned (P name))
    (h : Marked v hosts initial concerned P b) {nodes : Cluster}
    (hnodes : ∀ name, nodes name = b.nodes name ∨
      nodes name = { b.nodes name with service := .running }) :
    Marked v hosts initial concerned P { b with nodes := nodes } := by
  have hP : ∀ name, P name (b.nodes name) → P name (nodes name) := by
    intro name hP
    rcases hnodes name with heq | heq
    · exact heq ▸ hP
    · exact heq ▸ (hrep name).started _ hP
  refine ⟨fun name => ?_,fun name hname => hP name (h.others name hname),
    fun name hname => h.marked name fun hbefore => hname (hP name hbefore)⟩
  change Traced v (initial name) (nodes name)
  rcases hnodes name with heq | heq
  · exact heq ▸ h.traced name
  · exact heq ▸ (h.traced name).service .running

theorem respawn_cases (which : String → Bool) (nodes : Cluster) (name : String) :
    respawn which nodes name = nodes name ∨
      respawn which nodes name = { nodes name with service := .running } := by
  rw [respawn]
  split
  · exact .inr rfl
  · exact .inl rfl

/-- A deployment that passes the health check has at most started Patroni. -/
theorem deployPatroni_cases {patroni : String → Option Service} {nodes : Cluster}
    {cluster : Bool} (h : stabilized hosts (deployPatroni hosts patroni nodes) cluster = true)
    (name : String) : deployPatroni hosts patroni nodes name = nodes name ∨
      deployPatroni hosts patroni nodes name = { nodes name with service := .running } := by
  by_cases hname : name ∈ hosts
  · rw [stabilized,Bool.and_eq_true,List.all_eq_true] at h
    have hrunning := of_decide_eq_true (h.1 name hname)
    rw [deployPatroni,if_pos hname] at hrunning ⊢
    dsimp only at hrunning
    rw [hrunning]
    exact .inr rfl
  · rw [deployPatroni,if_neg hname]
    exact .inl rfl

theorem deployPatroni_chains (patroni : String → Option Service) (nodes : Cluster) (name : String) :
    (deployPatroni hosts patroni nodes name).chains = (nodes name).chains := by
  rw [deployPatroni]
  split <;> rfl

theorem deployPatroni_service (hosts : List String) (patroni : String → Option Service)
    (nodes : Cluster) (name : String) :
    (deployPatroni hosts patroni nodes name).service = (nodes name).service ∨
      patroni name = some (deployPatroni hosts patroni nodes name).service := by
  rw [deployPatroni]
  split
  · cases h : patroni name with
    | none => exact .inl rfl
    | some service => exact .inr rfl
  · exact .inl rfl

theorem Marked.runCell (hrep : ∀ name, Repairs v (initial name) concerned (P name))
    (hreadable : Readable hosts w) (h : Marked v hosts initial concerned P b) (cell : Cell) :
    Marked v hosts initial concerned P (runCell v hosts w b cell) := by
  have hends := batchIter_ends v cell (w.cell b.records cell)
  have hstarted := h.started hrep (respawn_cases (w.respawned b.records) b.nodes)
  have hnode : ∀ name, (Gcp.runCell v hosts w b cell).nodes name = if name ∈ hosts then
      perform (tasksOn name (batchIter v cell (w.cell b.records cell)).1)
        (respawn (w.respawned b.records) b.nodes name)
      else respawn (w.respawned b.records) b.nodes name := fun name => plays_apply
  constructor
  · intro name
    rw [hnode]
    split
    · exact perform_rule (fun task htask n hn => traced_tasks v _ task
        (hends.tasks name task htask) n hn) (hstarted.traced name)
    · exact hstarted.traced name
  · intro name hname
    rw [hnode,if_neg hname]
    exact hstarted.others name hname
  · intro name hname
    rw [hnode] at hname
    split at hname
    next hhost =>
      refine (hrep name).marked hends (hstarted.traced name) (fun banner rest hinject => ?_)
        (hstarted.marked name) hname
      obtain ⟨hne,hchars⟩ := hreadable.names name hhost
      exact downedNode_injectStdout (hreadable.banner _ _ _ _ _ hinject) hne hchars
    next hhost => exact absurd (hstarted.others name hhost) hname

theorem Marked.batchCombo (hrep : ∀ name, Repairs v (initial name) concerned (P name))
    (hreadable : Readable hosts w) (h : Marked v hosts initial concerned P b) {combo : String}
    (hgoing : (batchCombo v hosts w scenarios iterations b combo).aborted = false) :
    Marked v hosts initial concerned P (batchCombo v hosts w scenarios iterations b combo) := by
  rcases batchCombo_cases v hosts w scenarios iterations b combo with
    ⟨-,heq⟩ | ⟨-,-,heq⟩ | ⟨-,hpasses,heq⟩
  · rw [heq]
    exact h
  · rw [heq] at hgoing
    contradiction
  · rw [heq]
    have hdeployed : Marked v hosts initial concerned P (b.deployed hosts w combo) :=
      h.started hrep (deployPatroni_cases (Bool.eq_true_of_not_eq_false fun hno =>
        hpasses (.inr hno)))
    exact List.foldlRecOn _ _ hdeployed fun _ hb cell _ => hb.runCell hrep hreadable cell

/-- The whole batch, unless a deployment has ended it. -/
theorem marked_runBatch (hrep : ∀ name, Repairs v (initial name) concerned (P name))
    (hreadable : Readable hosts w) (hforeign : ∀ name k, ∀ r ∈ initial name k, r.bench = false)
    (hinitial : ∀ name, P name { chains := initial name }) (scenarios : List Scenario)
    (iterations : Nat) (combos : List String)
    (hgoing : (runBatch v hosts w combos scenarios iterations
      fun name => { chains := initial name }).aborted = false) :
    Marked v hosts initial concerned P (runBatch v hosts w combos scenarios iterations
      fun name => { chains := initial name }) := by
  induction combos using List.reverseRecOn with
  | nil =>
    refine ⟨fun name => ⟨fun k => ⟨?_,?_⟩,fun k r hr hbench => ?_⟩,fun name _ => hinitial name,
      fun name hname => absurd (hinitial name) hname⟩
    · exact List.filter_eq_self.mpr fun r hr => by simp [hforeign name k r hr]
    · have hnone : (initial name k).filter Rule.bench = [] :=
        List.filter_eq_nil_iff.mpr fun r hr => by simp [hforeign name k r hr]
      change ((initial name k).filter Rule.bench).Nodup
      rw [hnone]
      exact List.nodup_nil
    · rw [hforeign name k r hr] at hbench
      contradiction
  | append_singleton combos combo ih =>
    rw [runBatch_snoc] at hgoing ⊢
    exact (ih (going_of_batchCombo hgoing)).batchCombo hrep hreadable hgoing

end Batch

/-- What the batch leaves on a node: if its chains are not as before, the last of the cells that
partitioned it is not ok, and if its Patroni does not run, the last of those that stopped or killed
it is not, or the deployment that has ended the batch has left it so. -/
theorem leftovers_failed {v : PartitionVars} {hosts : List String} {w : World}
    {initial : String → ChainName → List Rule} (hreadable : Readable hosts w)
    (hforeign : ∀ name k, ∀ r ∈ initial name k, r.bench = false) (combos : List String)
    (scenarios : List Scenario) (iterations : Nat) (name : String) {b : Batch}
    (hrun : runBatch v hosts w combos scenarios iterations (fun name => ⟨.running,initial name⟩) =
      b) :
    ((b.nodes name).chains ≠ initial name →
      lastMark Scenario.partitions name b.records = some false) ∧
    ((b.nodes name).service ≠ .running →
      lastMark Scenario.stops name b.records = some false ∨
      ∃ done combo, EndedBy v hosts w scenarios iterations (fun name => ⟨.running,initial name⟩)
        combos done combo ∧
        (w.deploy b.records combo).patroni name = some (b.nodes name).service) := by
  subst hrun
  have hrestored := marked_runBatch (v := v) (fun name => repairs_restored (hforeign name))
    hreadable hforeign (fun _ => rfl) scenarios iterations
  have hrunning := marked_runBatch (v := v) (P := fun _ node => node.service = .running)
    (fun _ => repairs_running) hreadable hforeign (fun _ => rfl) scenarios iterations
  cases habort : (runBatch v hosts w combos scenarios iterations
      fun name => ⟨.running,initial name⟩).aborted with
  | false =>
    exact ⟨(hrestored combos habort).marked name,
      fun hservice => .inl ((hrunning combos habort).marked name hservice)⟩
  | true =>
    obtain ⟨done,combo,hended⟩ := aborted_iff.mp habort
    rw [hended.runBatch]
    constructor
    · intro hchains
      refine (hrestored done hended.going).marked name fun hsame => hchains ?_
      exact (deployPatroni_chains _ _ _).trans hsame
    · intro hservice
      rcases deployPatroni_service hosts (w.deploy (runBatch v hosts w done scenarios
          iterations fun name => ⟨.running,initial name⟩).records combo).patroni
        (runBatch v hosts w done scenarios iterations
          fun name => ⟨.running,initial name⟩).nodes name with hkept | hleft
      · refine .inl ((hrunning done hended.going).marked name fun hrun => hservice ?_)
        exact hkept.trans hrun
      · exact .inr ⟨done,combo,hended,hleft⟩

/-- A partition of the second node that does not come to its end, a stop of the first one that is
recovered, and a combination whose deployment fails when it restarts Patroni on the third. -/
def partitionInterrupted : World where
  deploy _ combo :=
    if combo = "06-haproxy-rest-polling" then ⟨fun _ => some .running,true,true⟩
    else ⟨fun name => if name = "patroni-3" then some .stopped else none,false,true⟩
  cell _ cell := match cell.scenario with
    | .networkPartition => ⟨.aborted "patroni-2" 5,.completed,true⟩
    | _ => ⟨.completed "patroni-1" [] [],.completed,true⟩
  respawned _ _ := false

theorem leftovers_failed_partitionInterrupted :
    let hosts := ["patroni-1","patroni-2","patroni-3"]
    let combos := ["06-haproxy-rest-polling","07-consul-template-reload"]
    let b := runBatch {} hosts partitionInterrupted combos [.networkPartition,.hardStop] 2
      fun _ => ⟨.running,fun _ => [guestAgentRule]⟩
    ((b.nodes "patroni-2").chains ≠ (fun _ => [guestAgentRule]) →
      lastMark Scenario.partitions "patroni-2" b.records = some false) ∧
    ((b.nodes "patroni-3").service ≠ .running →
      lastMark Scenario.stops "patroni-3" b.records = some false ∨
      ∃ done combo, EndedBy {} hosts partitionInterrupted [.networkPartition,.hardStop] 2
        (fun _ => ⟨.running,fun _ => [guestAgentRule]⟩) combos done combo ∧
        (partitionInterrupted.deploy b.records combo).patroni "patroni-3" =
          some (b.nodes "patroni-3").service) := by
  have hreadable : Readable ["patroni-1","patroni-2","patroni-3"] partitionInterrupted := by
    have hnames : ∀ name ∈ ["patroni-1","patroni-2","patroni-3"],
        name.toList ≠ [] ∧ name.toList.all isNameChar = true := by decide
    refine ⟨fun name hname =>
      ⟨(hnames name hname).1,List.all_eq_true.mp (hnames name hname).2⟩,
      fun records cell target banner rest hinject => ?_⟩
    have hempty : banner = [] := by
      rw [partitionInterrupted] at hinject
      dsimp only at hinject
      split at hinject
      · contradiction
      · injection hinject with _ hbanner _
        exact hbanner.symm
    rw [hempty]
    decide
  have hforeign : ∀ (_ : String) (_ : ChainName), ∀ r ∈ [guestAgentRule], r.bench = false :=
    fun _ _ r hr => by
      obtain rfl := List.mem_singleton.mp hr
      decide
  exact ⟨(leftovers_failed hreadable hforeign _ _ _ "patroni-2" rfl).1,
    (leftovers_failed hreadable hforeign _ _ _ "patroni-3" rfl).2⟩

section Plan

variable {v : PartitionVars} {hosts : List String} {w : World} {scenarios : List Scenario}
  {iterations : Nat} {nodes : Cluster} {b : Batch} {combos done : List String} {combo : String}

/-- Every command of a cell succeeds: the injection, unless it is a switchover the recovery of the
node that is found in what the injection prints, and the health check. -/
def CellEnd.Succeeds (e : CellEnd) (scenario : Scenario) : Prop :=
  (∃ target banner rest, e.inject = .completed target banner rest ∧
    (scenario ≠ .switchover →
      downedNode (injectStdout banner target rest) ≠ none ∧ e.recover = .completed)) ∧
  e.stable = true

theorem batchIter_ok (v : PartitionVars) (cell : Cell) (e : CellEnd) :
    (batchIter v cell e).2.2 = true ↔ e.Succeeds cell.scenario := by
  rw [batchIter,CellEnd.Succeeds]
  cases hinject : e.inject with
  | undiscovered => simp
  | aborted target n => simp
  | completed target banner rest =>
    dsimp only
    split
    next hswitch => simp [hswitch]
    next hswitch =>
      cases hdowned : downedNode (injectStdout banner target rest) with
      | none => simp [hswitch,hdowned]
      | some downed => cases hrecover : e.recover <;> simp [hswitch,hdowned]

/-- Every cell was run after those that are recorded before it, and is ok if and only if its
commands succeed then. -/
def Faithful (w : World) (records : List Record) : Prop :=
  ∀ before r after, records = before ++ r :: after →
    (r.ok = true ↔ (w.cell before r.cell).Succeeds r.cell.scenario)

theorem faithful_nil : Faithful w [] := fun _ _ _ h => absurd h (by simp)

theorem faithful_snoc {records : List Record} {r : Record} (h : Faithful w records)
    (hr : r.ok = true ↔ (w.cell records r.cell).Succeeds r.cell.scenario) :
    Faithful w (records ++ [r]) := by
  intro before r' after heq
  rcases List.eq_nil_or_concat after with rfl | ⟨after,last,rfl⟩
  · obtain ⟨rfl,hlast⟩ := List.append_inj' heq rfl
    obtain rfl := List.singleton_inj.mp hlast
    exact hr
  · rw [List.concat_eq_append,← List.cons_append,← List.append_assoc] at heq
    exact h before r' after (List.append_inj' heq rfl).1

theorem runCells_records (hosts : List String) (cells : List Cell) (h : Faithful w b.records) :
    (cells.foldl (runCell v hosts w) b).records.map Record.cell = b.records.map Record.cell ++ cells ∧
      Faithful w (cells.foldl (runCell v hosts w) b).records := by
  induction cells generalizing b with
  | nil => exact ⟨(List.append_nil _).symm,h⟩
  | cons cell cells ih =>
    obtain ⟨hcells,hfaithful⟩ := ih (b := runCell v hosts w b cell)
      (faithful_snoc h (batchIter_ok v cell _))
    refine ⟨?_,hfaithful⟩
    rw [List.foldl_cons,hcells,runCell]
    simp

theorem records_going (hgoing : (runBatch v hosts w combos scenarios iterations nodes).aborted =
    false) :
    (runBatch v hosts w combos scenarios iterations nodes).records.map Record.cell =
        combos.flatMap (cellsOf scenarios iterations) ∧
      Faithful w (runBatch v hosts w combos scenarios iterations nodes).records := by
  induction combos using List.reverseRecOn with
  | nil => exact ⟨rfl,faithful_nil⟩
  | append_singleton combos combo ih =>
    rw [runBatch_snoc] at hgoing ⊢
    obtain ⟨hcells,hfaithful⟩ := ih (going_of_batchCombo hgoing)
    rcases batchCombo_cases v hosts w scenarios iterations
      (runBatch v hosts w combos scenarios iterations nodes) combo with
        ⟨hb,heq⟩ | ⟨-,-,heq⟩ | ⟨-,-,heq⟩
    · rw [heq,hb] at hgoing
      contradiction
    · rw [heq] at hgoing
      contradiction
    · obtain ⟨hrecords,hfaithful'⟩ := runCells_records (v := v)
        (b := (runBatch v hosts w combos scenarios iterations nodes).deployed hosts w combo) hosts
        (cellsOf scenarios iterations combo) hfaithful
      rw [heq]
      refine ⟨?_,hfaithful'⟩
      rw [hrecords,List.flatMap_append,List.flatMap_singleton]
      exact congrArg (· ++ _) hcells

theorem length_cellsOf (scenarios : List Scenario) (iterations : Nat) (combo : String) :
    (cellsOf scenarios iterations combo).length = scenarios.length * iterations := by
  induction scenarios with
  | nil => simp [cellsOf]
  | cons scenario scenarios ih =>
    rw [cellsOf] at ih
    rw [cellsOf,List.flatMap_cons,List.length_append,ih,List.length_map,List.length_range,
      List.length_cons,Nat.succ_mul,Nat.add_comm]

theorem batchSummary_eq_none : batchSummary b = none ↔ b.aborted = true := by
  rw [batchSummary]
  split
  next h => simp [h]
  next h => simp [h]

/-- What the summary of a batch says. -/
structure Summarised (scenarios : List Scenario) (iterations : Nat) (combos : List String)
    (b : Batch) (s : BatchSummary) : Prop where
  results : s.results = b.records.map fun r => (r.cell,r.ok)
  cells : s.results.map Prod.fst = combos.flatMap (cellsOf scenarios iterations)
  total : s.total = combos.length * scenarios.length * iterations
  ok : s.ok = s.results.countP fun r => r.2
  failed : s.failed = s.results.countP fun r => !r.2

theorem summarised_of_going (hgoing : b.aborted = false) {s : BatchSummary}
    (hs : batchSummary b = some s)
    (hcells : b.records.map Record.cell = combos.flatMap (cellsOf scenarios iterations)) :
    Summarised scenarios iterations combos b s := by
  rw [batchSummary,hgoing,if_neg Bool.false_ne_true,Option.some_inj] at hs
  subst hs
  have hresults : ((b.records.map fun r => (r.cell,r.ok)).map Prod.fst) =
      combos.flatMap (cellsOf scenarios iterations) := by
    rw [List.map_map,← hcells]
    rfl
  refine ⟨rfl,hresults,?_,List.countP_eq_length_filter.symm,List.countP_eq_length_filter.symm⟩
  have hlength := congrArg List.length hresults
  rw [List.length_map] at hlength
  rw [hlength,List.length_flatMap]
  simp [length_cellsOf,Nat.mul_assoc]

/-- There is a summary if and only if no deployment nor the health check after it fails; then it has
the cells of the whole plan in their order, as many as were announced. Otherwise only the cells of
the combinations before are recorded. In both cases a cell that fails does not end the batch, and a
cell is ok if and only if its commands succeed. -/
theorem batchSummary_tells (v : PartitionVars) (hosts : List String) (w : World)
    (combos : List String) (scenarios : List Scenario) (iterations : Nat) (nodes : Cluster) :
    let b := runBatch v hosts w combos scenarios iterations nodes
    (batchSummary b = none ↔
      ∃ done combo, EndedBy v hosts w scenarios iterations nodes combos done combo) ∧
    (∀ s, batchSummary b = some s → Summarised scenarios iterations combos b s) ∧
    (∀ done combo, EndedBy v hosts w scenarios iterations nodes combos done combo →
      b.records.map Record.cell = done.flatMap (cellsOf scenarios iterations)) ∧
    Faithful w b.records := by
  intro b
  refine ⟨batchSummary_eq_none.trans aborted_iff,fun s hs => ?_,fun done combo hended => ?_,?_⟩
  · have hgoing : b.aborted = false := by
      by_contra habort
      rw [batchSummary_eq_none.mpr (Bool.eq_true_of_not_eq_false habort)] at hs
      contradiction
    exact summarised_of_going hgoing hs (records_going hgoing).1
  · obtain ⟨hcells,-⟩ := records_going hended.going
    exact (congrArg _ hended.records).trans hcells
  · cases habort : b.aborted with
    | false => exact (records_going habort).2
    | true =>
      obtain ⟨done,combo,hended⟩ := aborted_iff.mp habort
      exact hended.records ▸ (records_going hended.going).2

end Plan

end RoutingBench.Gcp
