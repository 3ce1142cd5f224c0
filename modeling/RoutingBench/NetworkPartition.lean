import RoutingBench.Firewall
import Mathlib.Data.BitVec
set_option autoImplicit false

/-!
The network partition of the failure_injection role: the iptables rules it adds on a node
and the ones its recovery deletes.
-/

namespace RoutingBench
open Firewall

abbrev Address := BitVec 32

/-- The leading bits of an address that a network of this length fixes. -/
def netmask (length : Nat) : Address := BitVec.allOnes 32 <<< (32 - length)

structure Subnet where
  address : Address
  length : Nat := 32
  masked : address &&& netmask length = address := by decide
  deriving DecidableEq, Repr

def Subnet.contains (s : Subnet) (a : Address) : Bool := a &&& netmask s.length == s.address

def Subnet.text (s : Subnet) : String :=
  let octet := fun i => toString ((s.address >>> (8 * i)).toNat % 256)
  octet 3 ++ "." ++ octet 2 ++ "." ++ octet 1 ++ "." ++ octet 0 ++
    (if s.length = 32 then "" else "/" ++ toString s.length)

structure PortRange where
  first : Nat
  last : Nat := first
  deriving DecidableEq, Repr

def PortRange.contains (r : PortRange) (port : Nat) : Bool := r.first ≤ port && port ≤ r.last

inductive Protocol where
  | tcp | udp | icmp
  deriving DecidableEq, Repr

/-- The state conntrack has for the packet's connection. -/
inductive CtState where
  | new | established | related | invalid | untracked
  deriving DecidableEq, Repr

inductive Target where
  | accept | drop | reject
  deriving DecidableEq, Repr

inductive ChainName where
  | input | output
  deriving DecidableEq, Repr

structure Packet where
  source : Address
  destination : Address
  protocol : Protocol
  destinationPort : Option Nat
  ctstate : CtState
  deriving DecidableEq, Repr

/-- A packet of INPUT comes from the peer, one of OUTPUT goes there. -/
def Packet.peer (p : Packet) : ChainName → Address
  | .input => p.source
  | .output => p.destination

/-- What the tasks say of a rule; a match they do not give is `none`, and no state is any. -/
structure Rule where
  source : Option Subnet := none
  destination : Option Subnet := none
  protocol : Option Protocol := none
  destinationPort : Option PortRange := none
  ctstate : List CtState := []
  jump : Target
  comment : String
  deriving DecidableEq, Repr

def Rule.hits (r : Rule) (p : Packet) : Bool :=
  r.source.all (·.contains p.source) && r.destination.all (·.contains p.destination) &&
    r.protocol.all (· == p.protocol) &&
    r.destinationPort.all (fun ports => p.destinationPort.any ports.contains) &&
    (r.ctstate.isEmpty || r.ctstate.contains p.ctstate)

inductive PartitionMode where
  | full | asymmetric
  deriving DecidableEq, Repr

structure PartitionVars where
  clusterSubnet : Subnet := { address := 0x0a000100#32, length := 24 }
  partitionMode : PartitionMode := .full
  partitionBlockIps : List Subnet := []
  partitionJump : Target := .drop
  partitionPreservePorts : List PortRange := [{ first := 22 }]
  partitionPreserveIps : List Subnet := []
  deriving DecidableEq, Repr

def establishedRule : Rule where
  ctstate := [.established,.related]
  jump := .accept
  comment := "patroni-bench: preserve"

def preservePortRule (item : PortRange) : Rule where
  protocol := some .tcp
  destinationPort := some item
  jump := .accept
  comment := "patroni-bench: preserve"

/-- A rule on the peer: the source in INPUT, the destination in OUTPUT. -/
def peerRule (k : ChainName) (item : Subnet) (jump : Target) (comment : String) : Rule where
  source := if k = .input then some item else none
  destination := if k = .output then some item else none
  jump := jump
  comment := comment

def preserveIpRule (k : ChainName) (item : Subnet) : Rule :=
  peerRule k item .accept "patroni-bench: preserve"

def partitionRule (v : PartitionVars) (k : ChainName) : Rule :=
  peerRule k v.clusterSubnet v.partitionJump "patroni-bench: network partition"

def blockRule (v : PartitionVars) (k : ChainName) (item : Subnet) : Rule :=
  peerRule k item v.partitionJump <| match k with
    | .input => "patroni-bench: asymmetric partition from " ++ item.text
    | .output => "patroni-bench: asymmetric partition to " ++ item.text

/-- network_partition.yml. -/
def networkPartition (v : PartitionVars) : List (Command ChainName Rule) :=
  match v.partitionMode with
  | .full =>
    [.insert .input establishedRule,.insert .output establishedRule] ++
    v.partitionPreservePorts.map (fun item => .insert .input (preservePortRule item)) ++
    v.partitionPreserveIps.map (fun item => .insert .input (preserveIpRule .input item)) ++
    v.partitionPreserveIps.map (fun item => .insert .output (preserveIpRule .output item)) ++
    [.append .input (partitionRule v .input),.append .output (partitionRule v .output)]
  | .asymmetric =>
    v.partitionBlockIps.map (fun item => .append .input (blockRule v .input item)) ++
    v.partitionBlockIps.map (fun item => .append .output (blockRule v .output item))

/-- recover.yml for the scenario network_partition. -/
def recover (v : PartitionVars) : List (Command ChainName Rule) :=
  [.delete .input (partitionRule v .input),.delete .output (partitionRule v .output)] ++
  v.partitionBlockIps.map (fun item => .delete .input (blockRule v .input item)) ++
  v.partitionBlockIps.map (fun item => .delete .output (blockRule v .output item)) ++
  [.delete .input establishedRule,.delete .output establishedRule] ++
  v.partitionPreservePorts.map (fun item => .delete .input (preservePortRule item)) ++
  v.partitionPreserveIps.map (fun item => .delete .input (preserveIpRule .input item)) ++
  v.partitionPreserveIps.map (fun item => .delete .output (preserveIpRule .output item))

section Commands

variable {v w : PartitionVars}

theorem networkPartition_adds (v : PartitionVars) : ∀ c ∈ networkPartition v, c.adds = true := by
  unfold networkPartition
  split <;> simp [or_imp,forall_and,Command.adds]

theorem recover_deletes (v : PartitionVars) : ∀ c ∈ recover v, c.adds = false := by
  simp [recover,or_imp,forall_and,Command.adds]

theorem full_rule_iff (hmode : v.partitionMode = .full) {k : ChainName} {r : Rule} :
    (∃ c ∈ networkPartition v, c.chain = k ∧ c.rule = r) ↔
      r = establishedRule ∨ (k = .input ∧ ∃ item ∈ v.partitionPreservePorts,
        r = preservePortRule item) ∨
      (∃ item ∈ v.partitionPreserveIps, r = preserveIpRule k item) ∨ r = partitionRule v k := by
  cases k <;>
    simp [networkPartition,hmode,or_and_right,exists_or,Command.chain,Command.rule,
      @eq_comm _ r]

theorem asymmetric_rule_iff (hmode : v.partitionMode = .asymmetric) {k : ChainName} {r : Rule} :
    (∃ c ∈ networkPartition v, c.chain = k ∧ c.rule = r) ↔
      ∃ item ∈ v.partitionBlockIps, r = blockRule v k item := by
  cases k <;>
    simp [networkPartition,hmode,or_and_right,exists_or,Command.chain,Command.rule,@eq_comm _ r]

theorem recover_rule_iff {k : ChainName} {r : Rule} :
    (∃ c ∈ recover w, c.chain = k ∧ c.rule = r) ↔
      r = partitionRule w k ∨ (∃ item ∈ w.partitionBlockIps, r = blockRule w k item) ∨
      r = establishedRule ∨ (k = .input ∧ ∃ item ∈ w.partitionPreservePorts,
        r = preservePortRule item) ∨
      ∃ item ∈ w.partitionPreserveIps, r = preserveIpRule k item := by
  cases k <;>
    simp [recover,or_and_right,exists_or,Command.chain,Command.rule,@eq_comm _ r]

end Commands

def Rule.bench (r : Rule) : Bool := "patroni-bench: ".toList.isPrefixOf r.comment.toList

theorem bench_of_comment {r : Rule} (t : String) (h : r.comment = "patroni-bench: " ++ t) :
    r.bench = true := by
  unfold Rule.bench
  rw [h,String.toList_append,List.isPrefixOf_iff_prefix]
  exact List.prefix_append _ _

@[simp] theorem bench_establishedRule : establishedRule.bench = true :=
  bench_of_comment "preserve" rfl

@[simp] theorem bench_preservePortRule (item : PortRange) : (preservePortRule item).bench = true :=
  bench_of_comment "preserve" rfl

@[simp] theorem bench_preserveIpRule (k : ChainName) (item : Subnet) :
    (preserveIpRule k item).bench = true :=
  bench_of_comment "preserve" rfl

@[simp] theorem bench_partitionRule (v : PartitionVars) (k : ChainName) :
    (partitionRule v k).bench = true :=
  bench_of_comment "network partition" rfl

theorem blockRule_comment (v : PartitionVars) (k : ChainName) (item : Subnet) :
    ∃ t, (blockRule v k item).comment = "patroni-bench: asymmetric partition " ++ t := by
  cases k with
  | input => exact ⟨"from " ++ item.text,by rw [← String.append_assoc]; rfl⟩
  | output => exact ⟨"to " ++ item.text,by rw [← String.append_assoc]; rfl⟩

@[simp] theorem bench_blockRule (v : PartitionVars) (k : ChainName) (item : Subnet) :
    (blockRule v k item).bench = true := by
  obtain ⟨t,ht⟩ := blockRule_comment v k item
  refine bench_of_comment ("asymmetric partition " ++ t) ?_
  rw [ht,← String.append_assoc]
  rfl

theorem blockRule_ne {v : PartitionVars} {k : ChainName} {item : Subnet} {r : Rule}
    (h : r.comment = "patroni-bench: preserve" ∨ r.comment = "patroni-bench: network partition") :
    blockRule v k item ≠ r := by
  rintro rfl
  obtain ⟨t,ht⟩ := blockRule_comment v k item
  rw [ht] at h
  rcases h with h | h
  · exact absurd (congrArg (fun s => s.toList[15]?) h) (by simp)
  · exact absurd (congrArg (fun s => s.toList[15]?) h) (by simp)

section Isolation

variable {v : PartitionVars}

/-- What full partitions make of the chains of a node that has no rules. -/
def fullPartitions (v : PartitionVars) (runs : Nat) : ChainName → List Rule :=
  execute (List.replicate runs (networkPartition v)).flatten fun _ => []

def verdict (chains : ChainName → List Rule) (k : ChainName) (p : Packet) : Target :=
  disposition Rule.hits Rule.jump .accept (chains k) p

def preserveRules (v : PartitionVars) (k : ChainName) (r : Rule) : Prop :=
  r = establishedRule ∨ (k = .input ∧ ∃ item ∈ v.partitionPreservePorts,
    r = preservePortRule item) ∨ ∃ item ∈ v.partitionPreserveIps, r = preserveIpRule k item

theorem preserveRules_fields {k : ChainName} {r : Rule} (h : preserveRules v k r) :
    r.jump = .accept ∧ r.comment = "patroni-bench: preserve" := by
  obtain rfl | ⟨-,item,-,rfl⟩ | ⟨item,-,rfl⟩ := h <;> exact ⟨rfl,rfl⟩

/-- The preserve rules stand before the rule of the partition, however often it is run. -/
theorem fullPartitions_chain (hmode : v.partitionMode = .full) (n : Nat) (k : ChainName) :
    ∃ before, fullPartitions v (n + 1) k = before ++ [partitionRule v k] ∧
      ∀ r, r ∈ before ↔ preserveRules v k r := by
  rw [fullPartitions,execute_replicate (networkPartition_adds v),execute_chain]
  obtain ⟨cs,hcs,hadds,hrules⟩ : ∃ cs : List (Command ChainName Rule),
      (networkPartition v).filter (fun c => c.chain = k) = cs ++ [.append k (partitionRule v k)] ∧
        (∀ c ∈ cs, c.adds = true) ∧ ∀ r, (∃ c ∈ cs, c.rule = r) ↔ preserveRules v k r := by
    cases k with
    | input =>
      refine ⟨.insert .input establishedRule ::
        (v.partitionPreservePorts.map (fun item => .insert .input (preservePortRule item)) ++
        v.partitionPreserveIps.map fun item => .insert .input (preserveIpRule .input item)),?_,?_,?_⟩
      · simp [networkPartition,hmode,List.filter_map,Function.comp_def,Command.chain]
      · simp [or_imp,forall_and,Command.adds]
      · intro r
        simp [preserveRules,or_and_right,exists_or,Command.rule,@eq_comm _ r]
    | output =>
      refine ⟨.insert .output establishedRule ::
        v.partitionPreserveIps.map fun item => .insert .output (preserveIpRule .output item),?_,?_,?_⟩
      · simp [networkPartition,hmode,List.filter_map,Function.comp_def,Command.chain]
      · simp [or_imp,forall_and,Command.adds]
      · intro r
        simp [preserveRules,or_and_right,exists_or,Command.rule,@eq_comm _ r]
  have hmem : ∀ r, r ∈ cs.foldl Command.onChain [] ↔ preserveRules v k r := by
    intro r
    rw [mem_foldl_of_adds hadds,hrules]
    simp
  refine ⟨cs.foldl Command.onChain [],?_,hmem⟩
  rw [hcs,List.foldl_append]
  have hnew : partitionRule v k ∉ cs.foldl Command.onChain [] := by
    intro hin
    exact absurd (preserveRules_fields ((hmem _).mp hin)).2 (by simp [partitionRule,peerRule])
  exact if_neg hnew

theorem peerRule_hits {k : ChainName} {item : Subnet} {jump : Target} {comment : String}
    {p : Packet} : (peerRule k item jump comment).hits p = item.contains (p.peer k) := by
  cases k <;> simp [Rule.hits,peerRule,Packet.peer]

theorem establishedRule_hits {p : Packet} :
    establishedRule.hits p = true ↔ p.ctstate = .established ∨ p.ctstate = .related := by
  simp [Rule.hits,establishedRule]

/-- A packet to or from the cluster, on no preserved port and with no preserved peer. -/
structure ClusterPacket (v : PartitionVars) (k : ChainName) (p : Packet) : Prop where
  peer : v.clusterSubnet.contains (p.peer k) = true
  port : ∀ item ∈ v.partitionPreservePorts, ∀ port ∈ p.destinationPort,
    item.contains port = false
  address : ∀ item ∈ v.partitionPreserveIps, item.contains (p.peer k) = false

theorem ClusterPacket.preserved_iff {k : ChainName} {p : Packet} (h : ClusterPacket v k p)
    {r : Rule} (hr : preserveRules v k r) :
    r.hits p = true ↔ r = establishedRule ∧ (p.ctstate = .established ∨ p.ctstate = .related) := by
  obtain rfl | ⟨-,item,hitem,rfl⟩ | ⟨item,hitem,rfl⟩ := hr
  · simp [establishedRule_hits]
  · have hmiss : (preservePortRule item).hits p = false := by
      cases hport : p.destinationPort with
      | none => simp [Rule.hits,preservePortRule,hport]
      | some port => simp [Rule.hits,preservePortRule,hport,h.port item hitem port hport]
    have hne : preservePortRule item ≠ establishedRule := by
      simp [preservePortRule,establishedRule]
    simp [hmiss,hne]
  · have hmiss : (preserveIpRule k item).hits p = false := by
      rw [preserveIpRule,peerRule_hits]
      exact h.address item hitem
    have hne : preserveIpRule k item ≠ establishedRule := by
      cases k <;> simp [preserveIpRule,peerRule,establishedRule]
    simp [hmiss,hne]

/-- A full partition stops exactly the packets that do not belong to a connection that is
already open. -/
theorem full_partition_isolates_iff (hmode : v.partitionMode = .full) (n : Nat) {k : ChainName}
    {p : Packet} (h : ClusterPacket v k p) :
    verdict (fullPartitions v (n + 1)) k p = v.partitionJump ↔
      (p.ctstate ≠ .established ∧ p.ctstate ≠ .related) ∨ v.partitionJump = .accept := by
  obtain ⟨before,hchain,hmem⟩ := fullPartitions_chain hmode n k
  unfold verdict
  rw [hchain]
  by_cases hopen : p.ctstate = .established ∨ p.ctstate = .related
  · have hest : preserveRules v k establishedRule := .inl rfl
    have haccept : disposition Rule.hits Rule.jump .accept (before ++ [partitionRule v k]) p =
        .accept := by
      rw [disposition_append_of_hit
        ⟨establishedRule,(hmem _).mpr hest,(h.preserved_iff hest).mpr ⟨rfl,hopen⟩⟩]
      exact disposition_of_agree ⟨establishedRule,(hmem _).mpr hest,
        (h.preserved_iff hest).mpr ⟨rfl,hopen⟩⟩
        fun r hr _ => (preserveRules_fields ((hmem r).mp hr)).1
    rw [haccept,eq_comm]
    tauto
  · have hjump : disposition Rule.hits Rule.jump .accept (before ++ [partitionRule v k]) p =
        v.partitionJump := by
      rw [disposition_append_of_miss fun r hr => ?_]
      · refine disposition_of_agree ⟨_,List.mem_singleton_self _,?_⟩ fun r hr _ => ?_
        · rw [partitionRule,peerRule_hits]
          exact h.peer
        · obtain rfl := List.mem_singleton.mp hr
          rfl
      · by_contra hhit
        exact hopen ((h.preserved_iff ((hmem r).mp hr)).mp (by simpa using hhit)).2
    rw [hjump]
    tauto

/-- A packet of the leader to a replica's PostgreSQL port on a connection that is open. -/
def replicationPacket (ctstate : CtState) : Packet where
  source := 0x0a00010a#32
  destination := 0x0a00010b#32
  protocol := .tcp
  destinationPort := some 5432
  ctstate := ctstate

theorem replicationPacket_cluster (ctstate : CtState) :
    ClusterPacket {} .output (replicationPacket ctstate) :=
  ⟨by cases ctstate <;> decide,by cases ctstate <;> decide,by cases ctstate <;> decide⟩

/-- With the defaults of the role, replication goes on through the partition. -/
theorem openConnection_passes : ClusterPacket {} .output (replicationPacket .established) ∧
    verdict (fullPartitions {} 1) .output (replicationPacket .established) = .accept ∧
      ({} : PartitionVars).partitionJump = .drop :=
  ⟨replicationPacket_cluster .established,by decide,rfl⟩

theorem full_partition_isolates_newConnection :
    verdict (fullPartitions {} 3) .output (replicationPacket .new) = .drop :=
  (full_partition_isolates_iff (v := {}) rfl 2 (replicationPacket_cluster .new)).mpr
    (.inl (by decide))

end Isolation

section Recovery

variable {v w : PartitionVars}

/-- Every rule the injection with the variables `v` adds is one that the recovery with the
variables `w` deletes: the two agree on the cluster and the target and the recovery knows the
preserve lists; of an asymmetric partition it knows nothing. -/
def Undoes (w v : PartitionVars) : Prop :=
  match v.partitionMode with
  | .full => v.clusterSubnet = w.clusterSubnet ∧ v.partitionJump = w.partitionJump ∧
      v.partitionPreservePorts ⊆ w.partitionPreservePorts ∧
      v.partitionPreserveIps ⊆ w.partitionPreserveIps
  | .asymmetric => v.partitionBlockIps = []

theorem partitionRule_inj {k : ChainName} :
    partitionRule v k = partitionRule w k ↔
      v.clusterSubnet = w.clusterSubnet ∧ v.partitionJump = w.partitionJump := by
  cases k <;> simp [partitionRule,peerRule]

theorem preserveIpRule_inj {k : ChainName} {item item' : Subnet} :
    preserveIpRule k item = preserveIpRule k item' ↔ item = item' := by
  cases k <;> simp [preserveIpRule,peerRule]

theorem peerRule_ne_established {k : ChainName} {item : Subnet} {jump : Target} {comment : String} :
    peerRule k item jump comment ≠ establishedRule := by
  cases k <;> simp [peerRule,establishedRule]

theorem peerRule_ne_preservePort {k : ChainName} {item : Subnet} {jump : Target} {comment : String}
    {ports : PortRange} : peerRule k item jump comment ≠ preservePortRule ports := by
  cases k <;> simp [peerRule,preservePortRule]

theorem partitionRule_ne_preserveIp {k : ChainName} {item : Subnet} :
    partitionRule v k ≠ preserveIpRule k item := by
  cases k <;> simp [partitionRule,preserveIpRule,peerRule]

def RulesUndone (w v : PartitionVars) : Prop :=
  ∀ k r, (∃ c ∈ networkPartition v, c.chain = k ∧ c.rule = r) →
    ∃ d ∈ recover w, d.chain = k ∧ d.rule = r

theorem full_rules_undone_iff (hw : w.partitionBlockIps = []) (hmode : v.partitionMode = .full) :
    RulesUndone w v ↔ v.clusterSubnet = w.clusterSubnet ∧ v.partitionJump = w.partitionJump ∧
      v.partitionPreservePorts ⊆ w.partitionPreservePorts ∧
      v.partitionPreserveIps ⊆ w.partitionPreserveIps := by
  simp only [RulesUndone,full_rule_iff hmode,recover_rule_iff,hw,List.not_mem_nil,false_and,
    exists_false,false_or]
  constructor
  · intro h
    have hsame : partitionRule v .input = partitionRule w .input := by
      rcases h .input _ (.inr (.inr (.inr rfl))) with hpart | hpart | ⟨-,item,-,hpart⟩ |
        ⟨item,-,hpart⟩
      · exact hpart
      · exact absurd hpart peerRule_ne_established
      · exact absurd hpart peerRule_ne_preservePort
      · exact absurd hpart partitionRule_ne_preserveIp
    refine ⟨(partitionRule_inj.mp hsame).1,(partitionRule_inj.mp hsame).2,?_,?_⟩
    · intro item hitem
      rcases h .input _ (.inr (.inl ⟨rfl,item,hitem,rfl⟩)) with heq | heq | ⟨-,item',hitem',heq⟩ |
        ⟨item',-,heq⟩
      · exact absurd heq.symm peerRule_ne_preservePort
      · simp [preservePortRule,establishedRule] at heq
      · simp only [preservePortRule,Rule.mk.injEq,Option.some.injEq,true_and,and_true] at heq
        exact heq ▸ hitem'
      · exact absurd heq.symm peerRule_ne_preservePort
    · intro item hitem
      rcases h .input _ (.inr (.inr (.inl ⟨item,hitem,rfl⟩))) with heq | heq | ⟨-,item',-,heq⟩ |
        ⟨item',hitem',heq⟩
      · exact absurd heq.symm partitionRule_ne_preserveIp
      · exact absurd heq peerRule_ne_established
      · exact absurd heq peerRule_ne_preservePort
      · exact preserveIpRule_inj.mp heq ▸ hitem'
  · rintro ⟨hsubnet,hjump,hports,hips⟩ k r (rfl | ⟨rfl,item,hitem,rfl⟩ | ⟨item,hitem,rfl⟩ | rfl)
    · exact .inr (.inl rfl)
    · exact .inr (.inr (.inl ⟨rfl,item,hports hitem,rfl⟩))
    · exact .inr (.inr (.inr ⟨item,hips hitem,rfl⟩))
    · exact .inl (partitionRule_inj.mpr ⟨hsubnet,hjump⟩)

theorem asymmetric_rules_undone_iff (hw : w.partitionBlockIps = [])
    (hmode : v.partitionMode = .asymmetric) : RulesUndone w v ↔ v.partitionBlockIps = [] := by
  simp only [RulesUndone,asymmetric_rule_iff hmode,recover_rule_iff,hw,List.not_mem_nil,false_and,
    exists_false,false_or]
  constructor
  · intro h
    by_contra hne
    obtain ⟨item,hitem⟩ := List.exists_mem_of_ne_nil _ hne
    rcases h .input _ ⟨item,hitem,rfl⟩ with heq | heq | ⟨-,item',-,heq⟩ | ⟨item',-,heq⟩
    · exact blockRule_ne (.inr rfl) heq
    · exact blockRule_ne (.inl rfl) heq
    · exact blockRule_ne (.inl rfl) heq
    · exact blockRule_ne (.inl rfl) heq
  · rintro h k r ⟨item,hitem,-⟩
    simp [h] at hitem

theorem rules_undone_iff (hw : w.partitionBlockIps = []) :
    (∀ c ∈ networkPartition v, ∃ d ∈ recover w, d.chain = c.chain ∧ d.rule = c.rule) ↔
      Undoes w v := by
  have hrules : (∀ c ∈ networkPartition v, ∃ d ∈ recover w, d.chain = c.chain ∧ d.rule = c.rule) ↔
      RulesUndone w v := by
    constructor
    · rintro h k r ⟨c,hc,rfl,rfl⟩
      exact h c hc
    · intro h c hc
      exact h c.chain c.rule ⟨c,hc,rfl,rfl⟩
  rw [hrules]
  unfold Undoes
  split
  next hmode => exact full_rules_undone_iff hw hmode
  next hmode => exact asymmetric_rules_undone_iff hw hmode

/-- Injections, one after the other and each with its own variables, and then the recovery
without a list of blocked peers: the chains are as before exactly if the recovery undoes each
of the injections. -/
theorem recovery_restores_iff {prior : ChainName → List Rule}
    (hprior : ∀ k, ∀ r ∈ prior k, r.bench = false) (injections : List PartitionVars)
    (hw : w.partitionBlockIps = []) :
    execute (injections.flatMap networkPartition ++ recover w) prior = prior ↔
      ∀ v ∈ injections, Undoes w v := by
  have hbench : ∀ v : PartitionVars, ∀ c ∈ networkPartition v, c.rule.bench = true := by
    intro v
    unfold networkPartition
    split <;> simp [or_imp,forall_and,Command.rule]
  have hbench' : ∀ d ∈ recover w, d.rule.bench = true := by
    simp [recover,or_imp,forall_and,Command.rule]
  rw [execute_undone_iff hprior
    (fun c hc => by
      obtain ⟨v,-,hc⟩ := List.mem_flatMap.mp hc
      exact networkPartition_adds v c hc)
    (fun c hc => by
      obtain ⟨v,-,hc⟩ := List.mem_flatMap.mp hc
      exact hbench v c hc)
    (recover_deletes w) hbench']
  simp only [← rules_undone_iff hw,List.mem_flatMap]
  constructor
  · exact fun h v hv c hc => h c ⟨v,hv,hc⟩
  · rintro h c ⟨v,hv,hc⟩
    exact h v hv c hc

/-- A rule of the guest agent, which the role must leave alone. -/
def guestAgentRule : Rule where
  protocol := some .tcp
  destinationPort := some { first := 53 }
  jump := .accept
  comment := "google-guest-agent"

/-- A peer blocked by an asymmetric partition stays blocked. -/
theorem asymmetricPartition_stays : ¬ execute
    ([{ partitionMode := .asymmetric, partitionBlockIps := [{ address := 0x0a00010b#32 }] }].flatMap
      networkPartition ++ recover {}) (fun _ => [guestAgentRule]) = fun _ => [guestAgentRule] := by
  intro h
  exact absurd (congrFun h .input) (by decide)

theorem recovery_restores_twoInjections :
    execute ([{},{}].flatMap networkPartition ++ recover {}) (fun _ => [guestAgentRule]) =
      fun _ => [guestAgentRule] :=
  (recovery_restores_iff (fun _ r hr => by
    obtain rfl := List.mem_singleton.mp hr
    decide) [{},{}] rfl).mpr (by simp [Undoes])

end Recovery

end RoutingBench
