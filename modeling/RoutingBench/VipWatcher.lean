import RoutingBench.TextFields
import RoutingBench.Watcher
set_option autoImplicit false

/-!
The VIP watcher looks for the virtual IP in what `ip addr show` prints of an interface. Is it
bound when its text is somewhere in the output?
-/

namespace RoutingBench
open ChangeLog

inductive IpAddrShow where
  | completed (stdout : String)
  | timeoutExpired
  | fileNotFound
  deriving DecidableEq, Repr

structure VIPWatcher where
  vipAddress : String
  vipInterface : String
  lastBound : Option Bool := none
  deriving DecidableEq, Repr

/-- `self.vip_address in result.stdout if self.vip_address else False`. -/
def VIPWatcher.isBound (self : VIPWatcher) (stdout : String) : Bool :=
  if self.vipAddress ≠ "" then decide (self.vipAddress.toList <:+: stdout.toList) else false

def boundText (bound : Bool) : String := if bound then "bound" else "unbound"

def VIPWatcher.checkVip (self : VIPWatcher) (emitInitial : Bool) :
    IpAddrShow → VIPWatcher × List Emission
  | .completed stdout =>
    if some (self.isBound stdout) ≠ self.lastBound then
      ({ self with lastBound := some (self.isBound stdout) },
        if self.lastBound ≠ none ∨ emitInitial = true then
          [⟨"vip_state_change",boundText (self.lastBound.getD false),
            boundText (self.isBound stdout),
            "VIP " ++ self.vipAddress ++ " on " ++ self.vipInterface⟩]
        else [])
    else (self,[])
  | .timeoutExpired => (self,[])
  | .fileNotFound => (self,[])

def vipWatch (vip interface : String) (polls : List IpAddrShow) : VIPWatcher × List Emission :=
  observe VIPWatcher.checkVip ⟨vip,interface,none⟩ polls

/-- The addresses in the output, each in a line of its own between the family and the length of
its prefix. -/
def ipAddresses (stdout : String) : List String :=
  (stdout.toList.splitOn '\n').filterMap fun line =>
    match (line.splitOn ' ').filter (· ≠ []) with
    | family :: address :: _ =>
      if family = "inet".toList ∨ family = "inet6".toList then
        some (String.ofList (address.takeWhile (· ≠ '/')))
      else none
    | _ => none

/-- The events of the log, as changes of whether the address is bound. -/
def vipChanges (log : List Emission) : List (Change String) := changesOf "vip_state_change" log

/-- Whether the address is bound is what the watcher sees at every answer and what its latest event
says, and every event but the first one changes what the one before it said. -/
structure VipEventsExact (vip interface : String) (polls : List IpAddrShow) : Prop where
  seen : ∀ before stdout after, polls = before ++ .completed stdout :: after →
    (vipWatch vip interface (before ++ [.completed stdout])).1.lastBound =
      some (decide (vip ∈ ipAddresses stdout))
  continued : Continued (vipChanges (vipWatch vip interface polls).2)
  latest : ∀ before stdout after, polls = before ++ .completed stdout :: after →
    latest (vipChanges (vipWatch vip interface (before ++ [.completed stdout])).2) =
      some (boundText (decide (vip ∈ ipAddresses stdout)))

/-- The address is not a part of anything in an answer that does not list it, and the first poll
is answered if any is. -/
structure VipTold (vip : String) (polls : List IpAddrShow) : Prop where
  whole : ∀ stdout, .completed stdout ∈ polls → vip.toList <:+: stdout.toList →
    vip ∈ ipAddresses stdout
  setup : ∀ stdout, .completed stdout ∈ polls → ∃ stdout, polls.head? = some (.completed stdout)

def IpAddrShow.seen (vip : String) : IpAddrShow → Option Bool
  | .completed stdout => some ((⟨vip,"",none⟩ : VIPWatcher).isBound stdout)
  | _ => none

section Step

variable {vip interface stdout : String} {polls : List IpAddrShow}

theorem infix_of_mem_ipAddresses (h : vip ∈ ipAddresses stdout) :
    vip.toList <:+: stdout.toList := by
  simp only [ipAddresses,List.mem_filterMap] at h
  obtain ⟨line,hline,haddress⟩ := h
  split at haddress
  next family address rest hfields =>
    split at haddress
    · obtain rfl := Option.some.inj haddress
      have hfield : address ∈ line.splitOn ' ' := List.mem_of_mem_filter
        (p := fun field => decide (field ≠ [])) (by rw [hfields]; simp)
      rw [String.toList_ofList]
      exact (List.takeWhile_prefix _).isInfix.trans
        ((TextFields.infix_of_mem_splitOn hfield).trans (TextFields.infix_of_mem_splitOn hline))
    · contradiction
  next => contradiction

theorem boundText_inj {a b : Bool} : boundText a = boundText b ↔ a = b := by
  cases a <;> cases b <;> simp [boundText]

theorem seen_completed (self : VIPWatcher) (stdout : String) :
    (IpAddrShow.completed stdout).seen self.vipAddress = some (self.isBound stdout) := rfl

theorem checkVip_state (self : VIPWatcher) (emitInitial : Bool) (r : IpAddrShow) :
    (self.checkVip emitInitial r).1 =
      { self with lastBound := (r.seen self.vipAddress).or self.lastBound } := by
  cases r with
  | completed stdout =>
    simp only [VIPWatcher.checkVip]
    split
    next => rfl
    next h =>
      have hsame : self.lastBound = some (self.isBound stdout) := (not_not.mp h).symm
      rw [seen_completed,Option.some_or,← hsame]
  | timeoutExpired => rfl
  | fileNotFound => rfl

theorem checkVip_changes (self : VIPWatcher) (emitInitial : Bool) (r : IpAddrShow) :
    vipChanges (self.checkVip emitInitial r).2 =
      changed emitInitial "unbound" (self.lastBound.map boundText)
        ((r.seen self.vipAddress).map boundText) := by
  cases r with
  | completed stdout =>
    simp only [VIPWatcher.checkVip,seen_completed,Option.map_some,changed]
    cases self.lastBound with
    | none => cases emitInitial <;> simp [vipChanges,changesOf,boundText]
    | some last =>
      by_cases h : self.isBound stdout = last
      · simp [h,vipChanges]
      · simp [h,vipChanges,changesOf,boundText_inj]
  | timeoutExpired => rfl
  | fileNotFound => rfl

end Step

section Run

variable {vip interface stdout : String} {polls before : List IpAddrShow} {r : IpAddrShow}

def lastSeen (vip : String) (polls : List IpAddrShow) : Option Bool :=
  (polls.filterMap (IpAddrShow.seen vip)).getLast?

theorem lastSeen_snoc : lastSeen vip (before ++ [r]) = (r.seen vip).or (lastSeen vip before) := by
  cases h : r.seen vip <;> simp [lastSeen,h]

theorem vipWatch_state (polls : List IpAddrShow) :
    (vipWatch vip interface polls).1 = ⟨vip,interface,lastSeen vip polls⟩ := by
  induction polls using List.reverseRecOn with
  | nil => rfl
  | append_singleton polls r ih =>
    rw [vipWatch] at ih
    rw [vipWatch,observe_snoc,checkVip_state,ih,lastSeen_snoc]

theorem vipWatch_snoc (before : List IpAddrShow) (r : IpAddrShow) :
    vipChanges (vipWatch vip interface (before ++ [r])).2 =
      vipChanges (vipWatch vip interface before).2 ++
        changed before.isEmpty "unbound" ((lastSeen vip before).map boundText)
          ((r.seen vip).map boundText) := by
  have hstate : (vipWatch vip interface before).1 = ⟨vip,interface,lastSeen vip before⟩ :=
    vipWatch_state before
  rw [vipWatch] at hstate
  rw [vipWatch,observe_snoc,vipChanges,changesOf_append,emitted]
  exact congrArg _ ((checkVip_changes _ _ _).trans (by rw [hstate]))

theorem vipWatch_continued (polls : List IpAddrShow) :
    Continued (vipChanges (vipWatch vip interface polls).2) ∧
      ∀ v, latest (vipChanges (vipWatch vip interface polls).2) = some v →
        (lastSeen vip polls).map boundText = some v := by
  induction polls using List.reverseRecOn with
  | nil =>
    exact ⟨⟨by simp [vipWatch,observe,vipChanges],.nil⟩,by simp [vipWatch,observe,vipChanges]⟩
  | append_singleton polls r ih =>
    obtain ⟨hlog,hlast⟩ := ih
    rw [vipWatch_snoc,lastSeen_snoc,Option.map_or]
    exact ⟨continued_changed hlog hlast,latest_changed_remembered hlast⟩

/-- Once `setup` was answered, the log says what was seen last. -/
theorem latest_of_setup (h : polls.head? = some (.completed stdout)) :
    latest (vipChanges (vipWatch vip interface polls).2) = (lastSeen vip polls).map boundText ∧
      (lastSeen vip polls).isSome := by
  induction polls using List.reverseRecOn with
  | nil => contradiction
  | append_singleton polls r ih =>
    rw [vipWatch_snoc,lastSeen_snoc,Option.map_or]
    cases polls with
    | nil =>
      obtain rfl := Option.some.inj h
      exact ⟨by simp [lastSeen,IpAddrShow.seen,vipWatch,observe,vipChanges,latest],rfl⟩
    | cons first rest =>
      obtain ⟨hlatest,hsome⟩ := ih h
      obtain ⟨w,hw⟩ := Option.isSome_iff_exists.mp hsome
      rw [hw,Option.map_some] at hlatest ⊢
      exact ⟨latest_changed hlatest,by simp⟩

/-- Without an answer at `setup` the log says nothing until something changes. -/
theorem silent_of_unanswered (hne : before ≠ []) (h : ∀ p ∈ before, p.seen vip = none)
    (r : IpAddrShow) : vipChanges (vipWatch vip interface (before ++ [r])).2 = [] := by
  have hnone : lastSeen vip before = none := by
    rw [lastSeen,List.getLast?_eq_none_iff]
    exact List.filterMap_eq_nil_iff.mpr h
  have hbefore : vipChanges (vipWatch vip interface before).2 = [] := by
    rw [← List.getLast?_eq_none_iff]
    by_contra hlast
    obtain ⟨c,hc⟩ := Option.ne_none_iff_exists'.mp hlast
    have hsaid := (vipWatch_continued before).2 c.new (by rw [latest,hc,Option.map_some])
    rw [hnone] at hsaid
    contradiction
  have hempty : before.isEmpty = false := List.isEmpty_eq_false_iff.mpr hne
  rw [vipWatch_snoc,hbefore,hnone,hempty,Option.map_none,changed_silent,List.append_nil]

end Run

section Exact

variable {vip interface : String} {polls : List IpAddrShow}

theorem isBound_iff {stdout : String} (h : vip ≠ "") :
    (IpAddrShow.completed stdout).seen vip = some (decide (vip.toList <:+: stdout.toList)) := by
  simp [IpAddrShow.seen,VIPWatcher.isBound,h]

theorem VipTold.seen {stdout : String} (htold : VipTold vip polls) (h : vip ≠ "")
    (hmem : .completed stdout ∈ polls) :
    (IpAddrShow.completed stdout).seen vip = some (decide (vip ∈ ipAddresses stdout)) := by
  rw [isBound_iff h]
  exact congrArg some (decide_eq_decide.mpr
    ⟨htold.whole stdout hmem,infix_of_mem_ipAddresses⟩)

theorem VipTold.exact (htold : VipTold vip polls) (h : vip ≠ "") :
    VipEventsExact vip interface polls where
  seen before stdout after heq := by
    rw [vipWatch_state,lastSeen_snoc,htold.seen h (by rw [heq]; simp)]
    rfl
  continued := (vipWatch_continued polls).1
  latest before stdout after heq := by
    obtain ⟨first,hfirst⟩ := htold.setup stdout (by rw [heq]; simp)
    have hhead : (before ++ [IpAddrShow.completed stdout]).head? = some (.completed first) := by
      rw [← hfirst,heq]
      cases before <;> rfl
    have hlatest : latest (vipChanges (vipWatch vip interface (before ++ [.completed stdout])).2) =
        (lastSeen vip (before ++ [.completed stdout])).map boundText := (latest_of_setup hhead).1
    rw [hlatest,lastSeen_snoc,htold.seen h (by rw [heq]; simp)]
    rfl

/-- The watcher is right about every run in which no answer shows the address as a part of
something else and `setup` is answered, and about no other one. -/
theorem vip_events_exact_iff (h : vip ≠ "") (polls : List IpAddrShow) :
    VipEventsExact vip interface polls ↔ VipTold vip polls := by
  refine ⟨fun hexact => ⟨fun stdout hmem hpart => ?_,fun stdout hmem => ?_⟩,
    fun htold => htold.exact h⟩
  · obtain ⟨before,after,heq⟩ := List.append_of_mem hmem
    have hseen := hexact.seen before stdout after heq
    rw [vipWatch_state,lastSeen_snoc,isBound_iff h] at hseen
    simpa [hpart] using hseen
  · -- The first answer that is not that of `setup` goes unlogged.
    have hsome : (polls.find? fun p => (p.seen vip).isSome).isSome :=
      List.find?_isSome.mpr ⟨_,hmem,rfl⟩
    obtain ⟨p,hp⟩ := Option.isSome_iff_exists.mp hsome
    obtain ⟨hanswer,before,after,heq,hbefore⟩ := List.find?_eq_some_iff_append.mp hp
    cases p with
    | completed stdout =>
      rcases eq_or_ne before [] with rfl | hne
      · exact ⟨stdout,by rw [heq]; rfl⟩
      · have hlatest := hexact.latest before stdout after heq
        rw [silent_of_unanswered hne (fun q hq => by simpa using hbefore q hq)] at hlatest
        contradiction
    | timeoutExpired => contradiction
    | fileNotFound => contradiction

end Exact

def vipOutput : String :=
  "2: eth0: <UP> mtu 1500\n    inet 192.168.100.100/24 scope global eth0\n"

theorem vipOutput_addresses : ipAddresses vipOutput = ["192.168.100.100"] := by decide +kernel

/-- An address and a longer one that begins with it. -/
theorem vip_events_longer_address :
    ¬ VipEventsExact "192.168.100.10" "eth0" [.completed vipOutput] := by
  intro h
  have hseen := h.seen [] vipOutput [] rfl
  rw [vipWatch_state,lastSeen_snoc,isBound_iff (by decide),vipOutput_addresses] at hseen
  revert hseen
  decide +kernel

theorem vip_events_exact_bound : VipEventsExact "192.168.100.100" "eth0"
    [.completed vipOutput,.timeoutExpired,.completed ""] := by
  refine (vip_events_exact_iff (by decide) _).mpr ⟨fun stdout hmem hpart => ?_,fun _ _ => ⟨_,rfl⟩⟩
  have hanswers : stdout = vipOutput ∨ stdout = "" := by simpa using hmem
  rcases hanswers with rfl | rfl
  · rw [vipOutput_addresses]
    exact List.mem_singleton_self _
  · exact absurd hpart (by decide)

end RoutingBench
