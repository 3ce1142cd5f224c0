import Mathlib.Data.List.Chain
import Mathlib.Data.List.Induction
set_option autoImplicit false

/-!
A quantity that is polled and the log of its changes. An observer remembers the last value it
has seen and logs what differs from it; the log is to say at any time what the value is.
-/

namespace ChangeLog

section Observer

variable {σ ρ ε : Type*} (poll : σ → Bool → ρ → σ × List ε)

/-- A poll whose events are appended to the log. -/
def append (s : σ × List ε) (r : ρ) : σ × List ε :=
  ((poll s.1 false r).1,s.2 ++ (poll s.1 false r).2)

/-- The first poll is marked as the initial one. -/
def observe (self : σ) : List ρ → σ × List ε
  | [] => (self,[])
  | r :: rs => rs.foldl (append poll) (poll self true r)

variable {poll}

theorem observe_poll (self : σ) {rs : List ρ} (r : ρ) (h : rs ≠ []) :
    observe poll self (rs ++ [r]) = append poll (observe poll self rs) r := by
  cases rs with
  | nil => contradiction
  | cons r' rs => simp [observe]

variable (poll) in
/-- What a poll after other polls emits. -/
def emitted (self : σ) (rs : List ρ) (r : ρ) : List ε :=
  (poll (observe poll self rs).1 rs.isEmpty r).2

theorem observe_snoc (self : σ) (rs : List ρ) (r : ρ) :
    observe poll self (rs ++ [r]) = ((poll (observe poll self rs).1 rs.isEmpty r).1,
      (observe poll self rs).2 ++ emitted poll self rs r) := by
  cases rs with
  | nil => rfl
  | cons r' rs => exact observe_poll self r (List.cons_ne_nil r' rs)

/-- What the initial poll establishes and every other one keeps holds after every poll. -/
theorem observe_induction {self : σ} {M : List ρ → σ → List ε → Prop}
    (hinit : ∀ r, M [r] (poll self true r).1 (poll self true r).2)
    (hpoll : ∀ rs s log r, rs ≠ [] → M rs s log →
      M (rs ++ [r]) (poll s false r).1 (log ++ (poll s false r).2))
    {rs : List ρ} (h : rs ≠ []) :
    M rs (observe poll self rs).1 (observe poll self rs).2 := by
  induction rs using List.reverseRecOn with
  | nil => contradiction
  | append_singleton rs r ih =>
    by_cases hrs : rs = []
    · subst hrs
      exact hinit r
    · rw [observe_poll self r hrs]
      exact hpoll rs _ _ r hrs (ih hrs)

end Observer

structure Change (α : Type*) where
  old : α
  new : α
  deriving DecidableEq, Repr

variable {α : Type*}

def latest (log : List (Change α)) : Option α := log.getLast?.map Change.new

/-- Every entry changes the value, and begins where the one before it ended. -/
structure Chained (log : List (Change α)) : Prop where
  changes : ∀ c ∈ log, c.old ≠ c.new
  linked : log.IsChain fun c d => d.old = c.new

/-- The first entry may say that nothing has changed. -/
structure Continued (log : List (Change α)) : Prop where
  changes : ∀ c ∈ log.tail, c.old ≠ c.new
  linked : log.IsChain fun c d => d.old = c.new

@[simp] theorem latest_nil : latest ([] : List (Change α)) = none := rfl

@[simp] theorem latest_snoc (log : List (Change α)) (c : Change α) :
    latest (log ++ [c]) = some c.new := by
  simp [latest]

theorem chained_nil : Chained ([] : List (Change α)) := ⟨by simp,.nil⟩

theorem chained_snoc {log : List (Change α)} {c : Change α} :
    Chained (log ++ [c]) ↔ Chained log ∧ c.old ≠ c.new ∧ ∀ v, latest log = some v → c.old = v := by
  have hlink : (log ++ [c]).IsChain (fun c d => d.old = c.new) ↔
      log.IsChain (fun c d => d.old = c.new) ∧ ∀ v, latest log = some v → c.old = v := by
    rw [List.isChain_append]
    simp [latest,List.IsChain.singleton]
  constructor
  · intro h
    obtain ⟨hlog,hold⟩ := hlink.mp h.linked
    exact ⟨⟨fun d hd => h.changes d (List.mem_append_left _ hd),hlog⟩,
      h.changes c (by simp),hold⟩
  · intro ⟨hlog,hne,hold⟩
    refine ⟨?_,hlink.mpr ⟨hlog.linked,hold⟩⟩
    intro d hd
    rcases List.mem_append.mp hd with hd | hd
    · exact hlog.changes d hd
    · obtain rfl := List.mem_singleton.mp hd
      exact hne

theorem continued_snoc {log : List (Change α)} {c : Change α} (h : Continued log)
    (hne : log ≠ [] → c.old ≠ c.new) (hold : ∀ v, latest log = some v → c.old = v) :
    Continued (log ++ [c]) := by
  refine ⟨fun d hd => ?_,List.isChain_append.mpr ⟨h.linked,.singleton c,?_⟩⟩
  · cases log with
    | nil => contradiction
    | cons first rest =>
      rcases List.mem_append.mp hd with hd | hd
      · exact h.changes d hd
      · obtain rfl := List.mem_singleton.mp hd
        exact hne (List.cons_ne_nil first rest)
  · intro d hd c' hc'
    obtain rfl := Option.mem_some_iff.mp hc'
    exact hold d.new (by rw [latest,hd,Option.map_some])

theorem chained_cons {log : List (Change α)} {c : Change α} : Chained (c :: log) ↔
    c.old ≠ c.new ∧ (∀ d ∈ log.head?, d.old = c.new) ∧ Chained log := by
  constructor
  · intro h
    obtain ⟨hhead,hlinked⟩ := List.isChain_cons.mp h.linked
    exact ⟨h.changes c List.mem_cons_self,hhead,
      fun d hd => h.changes d (List.mem_cons_of_mem c hd),hlinked⟩
  · intro ⟨hne,hhead,hlog⟩
    exact ⟨List.forall_mem_cons.mpr ⟨hne,hlog.changes⟩,List.isChain_cons.mpr ⟨hhead,hlog.linked⟩⟩

section Loss

variable {β : Type*} {last : Option β} {seen : List (Option β)}

/-- A value that is there stays. -/
def Steady (seen : List (Option β)) : Prop := seen.IsChain fun v w => v ≠ none → w = v

/-- After a value was lost, the next one that is there stays. -/
def SteadyAfterLoss (seen : List (Option β)) : Prop :=
  ∀ front a rest, seen = front ++ some a :: none :: rest → Steady rest

theorem steady_none_cons : Steady (none :: seen) ↔ Steady seen := by
  rw [Steady,List.isChain_cons]
  exact and_iff_right fun w _ h => absurd rfl h

theorem SteadyAfterLoss.of_prefix {before : List (Option β)} (h : SteadyAfterLoss seen)
    (hbefore : before <+: seen) : SteadyAfterLoss before := by
  obtain ⟨after,rfl⟩ := hbefore
  intro front a rest hbefore
  have hsteady := h front a (rest ++ after) (by rw [hbefore]; simp)
  exact (List.isChain_append.mp hsteady).1

theorem steadyAfterLoss_cons : SteadyAfterLoss (last :: seen) ↔
    (last ≠ none → ∀ rest, seen = none :: rest → Steady rest) ∧ SteadyAfterLoss seen := by
  constructor
  · intro h
    refine ⟨fun hlast rest hrest => ?_,fun front a rest hseen => ?_⟩
    · obtain ⟨a,rfl⟩ := Option.ne_none_iff_exists'.mp hlast
      exact h [] a rest (by rw [hrest]; rfl)
    · exact h (last :: front) a rest (by rw [hseen]; rfl)
  · intro ⟨hhead,htail⟩ front a rest hseen
    cases front with
    | nil =>
      obtain ⟨rfl,hrest⟩ := List.cons.inj hseen
      exact hhead (Option.some_ne_none a) rest hrest
    | cons first front => exact htail front a rest (List.cons.inj hseen).2

theorem steadyAfterLoss_nil : SteadyAfterLoss ([] : List (Option β)) :=
  fun _ _ _ h => absurd h.symm (by simp)

variable [DecidableEq β] {text : Option β → α}

/-- What an observer logs that can see that there is no value: nothing while it remembers none. -/
def lossy (text : Option β → α) (last v : Option β) : List (Change α) :=
  if v ≠ last ∧ last ≠ none then [⟨text last,text v⟩] else []

def lossyLog (text : Option β → α) : Option β → List (Option β) → List (Change α)
  | _, [] => []
  | last, v :: seen => lossy text last v ++ lossyLog text v seen

theorem lossyLog_snoc (last : Option β) (seen : List (Option β)) (v : Option β) :
    lossyLog text last (seen ++ [v]) =
      lossyLog text last seen ++ lossy text (seen.getLast?.getD last) v := by
  induction seen generalizing last with
  | nil => simp [lossyLog]
  | cons w seen ih =>
    rw [List.cons_append,lossyLog,ih,lossyLog,List.append_assoc,List.getLast?_cons,Option.getD_some]

theorem lossyLog_eq_nil : lossyLog text last seen = [] ↔ Steady (last :: seen) := by
  induction seen generalizing last with
  | nil => exact ⟨fun _ => .singleton last,fun _ => rfl⟩
  | cons v seen ih =>
    rw [lossyLog,List.append_eq_nil_iff,ih,Steady,Steady,List.isChain_cons_cons]
    refine and_congr_left' ?_
    by_cases hv : v = last
    · simp [lossy,hv]
    · by_cases hlast : last = none
      · simp [lossy,hlast]
      · simp [lossy,hv,hlast]

theorem old_head_lossyLog {c : Change α} (h : c ∈ (lossyLog text last seen).head?) :
    ∃ a, c.old = text (some a) ∧ ∀ b, last = some b → a = b := by
  induction seen generalizing last with
  | nil => contradiction
  | cons v seen ih =>
    rw [lossyLog,lossy] at h
    split at h
    next hchange =>
      obtain ⟨a,rfl⟩ := Option.ne_none_iff_exists'.mp hchange.2
      obtain rfl := Option.some.inj h
      exact ⟨a,rfl,fun b hb => Option.some.inj hb⟩
    next hsame =>
      obtain ⟨a,hold,ha⟩ := ih h
      refine ⟨a,hold,fun b hb => ha b ?_⟩
      subst hb
      by_contra hv
      exact hsame ⟨hv,Option.some_ne_none b⟩

theorem linked_lossyLog (htext : Function.Injective text) {v : Option β} :
    (∀ d ∈ (lossyLog text v seen).head?, d.old = text v) ↔ (v = none → Steady seen) := by
  cases v with
  | some b =>
    refine iff_of_true (fun d hd => ?_) fun h => absurd h (Option.some_ne_none b)
    obtain ⟨a,hold,ha⟩ := old_head_lossyLog hd
    rw [hold,ha b rfl]
  | none =>
    have hnil : lossyLog text none seen = [] ↔ Steady (none :: seen) := lossyLog_eq_nil
    rw [← steady_none_cons,← hnil]
    constructor
    · intro h _
      rw [← List.head?_eq_none_iff,Option.eq_none_iff_forall_ne_some]
      intro d hd
      obtain ⟨a,hold,-⟩ := old_head_lossyLog hd
      exact Option.some_ne_none a (htext (hold.symm.trans (h d hd)))
    · intro h
      simp [h rfl]

/-- Every entry of the log begins where the one before it ended, if and only if nothing changes
after a loss: an entry never begins with "no value". -/
theorem chained_lossyLog (htext : Function.Injective text) :
    Chained (lossyLog text last seen) ↔ SteadyAfterLoss (last :: seen) := by
  induction seen generalizing last with
  | nil =>
    refine iff_of_true chained_nil (steadyAfterLoss_cons.mpr ⟨?_,steadyAfterLoss_nil⟩)
    intro _ rest hrest
    contradiction
  | cons v seen ih =>
    rw [lossyLog,lossy,steadyAfterLoss_cons]
    split
    next hchange =>
      have hne : text last ≠ text v := fun heq => hchange.1 (htext heq).symm
      rw [List.singleton_append,chained_cons,ih,linked_lossyLog htext,and_iff_right hne]
      refine and_congr_left' ?_
      constructor
      · intro h _ rest hrest
        obtain ⟨hv,rfl⟩ := List.cons.inj hrest
        exact h hv
      · intro h hv
        exact h hchange.2 seen (by rw [hv])
    next hsame =>
      rw [List.nil_append,ih]
      refine (and_iff_right fun hlast rest hrest => ?_).symm
      exact absurd ⟨fun hv => hlast (hv ▸ (List.cons.inj hrest).1),hlast⟩ hsame

end Loss

variable [DecidableEq α]

/-- What an observer logs that remembers `last`, when it sees a value: the first one only if it
is initial, and then as a change from `missing`. -/
def changed (initial : Bool) (missing : α) (last : Option α) : Option α → List (Change α)
  | none => []
  | some v => if some v ≠ last ∧ (last ≠ none ∨ initial = true) then [⟨last.getD missing,v⟩] else []

section Changed

variable {initial : Bool} {missing v w : α} {last seen : Option α} {log : List (Change α)}

@[simp] theorem changed_none : changed initial missing last none = [] := rfl

@[simp] theorem changed_same : changed initial missing (some v) (some v) = [] := by
  simp [changed]

@[simp] theorem changed_silent : changed false missing none seen = [] := by
  cases seen <;> simp [changed]

@[simp] theorem changed_initial : changed true missing none (some v) = [⟨missing,v⟩] := by
  simp [changed]

theorem changed_of_ne (h : v ≠ w) : changed initial missing (some w) (some v) = [⟨w,v⟩] := by
  simp [changed,h]

theorem latest_changed (h : latest log = some w) :
    latest (log ++ changed initial missing (some w) seen) = seen.or (some w) := by
  cases seen with
  | none => simpa using h
  | some v =>
    by_cases hv : v = w
    · subst hv
      simpa using h
    · rw [changed_of_ne hv,latest_snoc]
      rfl

theorem chained_changed (h : Chained log) (hlast : latest log = some w) :
    Chained (log ++ changed initial missing (some w) seen) := by
  cases seen with
  | none => simpa using h
  | some v =>
    by_cases hv : v = w
    · subst hv
      simpa using h
    · rw [changed_of_ne hv,chained_snoc]
      exact ⟨h,Ne.symm hv,fun u hu => Option.some.inj (hlast.symm.trans hu)⟩

theorem mem_changed {c : Change α} (h : c ∈ changed initial missing last seen) :
    seen = some c.new ∧ some c.new ≠ last ∧ c.old = last.getD missing := by
  cases seen with
  | none => contradiction
  | some v =>
    rw [changed] at h
    split at h
    next hv =>
      obtain rfl := List.mem_singleton.mp h
      exact ⟨rfl,hv.1,rfl⟩
    next => contradiction

theorem changed_eq (initial : Bool) (missing : α) (last seen : Option α) :
    changed initial missing last seen = [] ∨ ∃ c, changed initial missing last seen = [c] := by
  cases seen with
  | none => exact Or.inl rfl
  | some v =>
    rw [changed]
    split
    · exact Or.inr ⟨_,rfl⟩
    · exact Or.inl rfl

theorem latest_changed_remembered (h : ∀ v, latest log = some v → last = some v) :
    ∀ v, latest (log ++ changed initial missing last seen) = some v → seen.or last = some v := by
  intro v hv
  rcases changed_eq initial missing last seen with hnone | ⟨c,hc⟩
  · rw [hnone,List.append_nil] at hv
    cases seen with
    | none => exact h v hv
    | some u =>
      by_contra hne
      rw [h v hv,changed_of_ne (fun heq => hne (by rw [heq]; rfl))] at hnone
      contradiction
  · obtain ⟨hseen,-,-⟩ := mem_changed (hc ▸ List.mem_singleton_self c)
    rw [hc,latest_snoc] at hv
    rw [hseen,← hv]
    rfl

theorem continued_changed (h : Continued log) (hlast : ∀ v, latest log = some v → last = some v) :
    Continued (log ++ changed initial missing last seen) := by
  rcases changed_eq initial missing last seen with hnone | ⟨c,hc⟩
  · rw [hnone,List.append_nil]
    exact h
  · obtain ⟨-,hne,hold⟩ := mem_changed (hc ▸ List.mem_singleton_self c)
    rw [hc]
    refine continued_snoc h (fun hlog => ?_) fun v hv => by rw [hold,hlast v hv,Option.getD_some]
    have hlatest : latest log = some (log.getLast hlog).new := by
      rw [latest,List.getLast?_eq_some_getLast hlog,Option.map_some]
    rw [hold,hlast _ hlatest,Option.getD_some]
    intro heq
    exact hne (by rw [← heq]; exact (hlast _ hlatest).symm)

end Changed

end ChangeLog
