import Mathlib.Data.List.Basic
set_option autoImplicit false

/-!
Chains of rules of which the first that matches decides, and commands that keep a rule in a
chain or out of it: a rule is added only if it is absent, and deleting an absent rule
changes nothing.
-/

namespace Firewall

variable {κ ρ π τ : Type*}

/-- The target of the first rule that matches the packet, else the policy of the chain. -/
def disposition (hits : ρ → π → Bool) (target : ρ → τ) (policy : τ) (chain : List ρ)
    (packet : π) : τ :=
  ((chain.find? fun r => hits r packet).map target).getD policy

section Disposition

variable {hits : ρ → π → Bool} {target : ρ → τ} {policy t : τ} {chain rest : List ρ} {packet : π}

/-- Some rule matches, and all that do agree on the target. -/
theorem disposition_of_agree (hsome : ∃ r ∈ chain, hits r packet = true)
    (hall : ∀ r ∈ chain, hits r packet = true → target r = t) :
    disposition hits target policy chain packet = t := by
  unfold disposition
  cases hfind : chain.find? fun r => hits r packet with
  | none =>
    obtain ⟨r,hr,hhit⟩ := hsome
    exact absurd hhit (List.find?_eq_none.mp hfind r hr)
  | some r =>
    have hhit := @List.find?_some _ (fun r => hits r packet) r chain hfind
    exact hall r (List.mem_of_find?_eq_some hfind) hhit

theorem disposition_append_of_miss (h : ∀ r ∈ chain, hits r packet = false) :
    disposition hits target policy (chain ++ rest) packet =
      disposition hits target policy rest packet := by
  unfold disposition
  rw [List.find?_append,List.find?_eq_none.mpr (by simpa using h),Option.none_or]

theorem disposition_append_of_hit (h : ∃ r ∈ chain, hits r packet = true) :
    disposition hits target policy (chain ++ rest) packet =
      disposition hits target policy chain packet := by
  unfold disposition
  obtain ⟨r,hr,hhit⟩ := h
  cases hfind : chain.find? fun r => hits r packet with
  | none => exact absurd hhit (List.find?_eq_none.mp hfind r hr)
  | some r' => rw [List.find?_append,hfind,Option.some_or]

end Disposition

/-- At the head of a chain, at its end, or not at all. -/
inductive Command (κ ρ : Type*) where
  | insert : κ → ρ → Command κ ρ
  | append : κ → ρ → Command κ ρ
  | delete : κ → ρ → Command κ ρ
  deriving DecidableEq

def Command.chain : Command κ ρ → κ
  | .insert k _ | .append k _ | .delete k _ => k

def Command.rule : Command κ ρ → ρ
  | .insert _ r | .append _ r | .delete _ r => r

def Command.adds : Command κ ρ → Bool
  | .delete _ _ => false
  | _ => true

variable [DecidableEq ρ]

def Command.onChain (rules : List ρ) : Command κ ρ → List ρ
  | .insert _ r => if r ∈ rules then rules else r :: rules
  | .append _ r => if r ∈ rules then rules else rules ++ [r]
  | .delete _ r => rules.erase r

section Adding

variable {rules : List ρ} {c : Command κ ρ} {cs : List (Command κ ρ)}

theorem onChain_of_mem (hadds : c.adds = true) (h : c.rule ∈ rules) : c.onChain rules = rules := by
  cases c with
  | insert k r => exact if_pos h
  | append k r => exact if_pos h
  | delete k r => simp [Command.adds] at hadds

theorem mem_onChain_of_adds (hadds : c.adds = true) {r : ρ} :
    r ∈ c.onChain rules ↔ r = c.rule ∨ r ∈ rules := by
  by_cases h : c.rule ∈ rules
  · rw [onChain_of_mem hadds h]
    exact ⟨.inr,fun hr => hr.elim (fun heq => heq ▸ h) id⟩
  · cases c with
    | insert k s =>
      have hs : s ∉ rules := h
      simp [Command.onChain,Command.rule,hs]
    | append k s =>
      have hs : s ∉ rules := h
      simp [Command.onChain,Command.rule,hs,or_comm]
    | delete k s => simp [Command.adds] at hadds

theorem mem_foldl_of_adds (hadds : ∀ c ∈ cs, c.adds = true) {r : ρ} :
    r ∈ cs.foldl Command.onChain rules ↔ (∃ c ∈ cs, c.rule = r) ∨ r ∈ rules := by
  induction cs generalizing rules with
  | nil => simp
  | cons c cs ih =>
    rw [List.foldl_cons,ih fun d hd => hadds d (List.mem_cons_of_mem c hd),
      mem_onChain_of_adds (hadds c List.mem_cons_self)]
    simp only [List.mem_cons,exists_eq_or_imp,@eq_comm _ r,or_assoc,or_left_comm]

theorem foldl_of_mem (hadds : ∀ c ∈ cs, c.adds = true) (h : ∀ c ∈ cs, c.rule ∈ rules) :
    cs.foldl Command.onChain rules = rules := by
  induction cs with
  | nil => rfl
  | cons c cs ih =>
    rw [List.foldl_cons,onChain_of_mem (hadds c List.mem_cons_self) (h c List.mem_cons_self)]
    exact ih (fun d hd => hadds d (List.mem_cons_of_mem c hd))
      fun d hd => h d (List.mem_cons_of_mem c hd)

end Adding

section Undoing

variable {own : ρ → Bool} {rules : List ρ} {c : Command κ ρ} {cs ds : List (Command κ ρ)}

/-- What stays of a chain while only own rules come and go, none of them twice. -/
structure Keeps (own : ρ → Bool) (others rules : List ρ) : Prop where
  others : (rules.filter fun r => !own r) = others
  nodup : (rules.filter own).Nodup

theorem keeps_onChain {others : List ρ} (hown : own c.rule = true) (h : Keeps own others rules) :
    Keeps own others (c.onChain rules) := by
  cases c with
  | insert k r =>
    have hr : own r = true := hown
    by_cases hmem : r ∈ rules
    · rwa [onChain_of_mem rfl hmem]
    · rw [Command.onChain,if_neg hmem]
      refine ⟨?_,?_⟩
      · rw [List.filter_cons_of_neg (by simp [hr])]
        exact h.others
      · rw [List.filter_cons_of_pos hr]
        exact List.nodup_cons.mpr ⟨fun hf => hmem (List.mem_filter.mp hf).1,h.nodup⟩
  | append k r =>
    have hr : own r = true := hown
    by_cases hmem : r ∈ rules
    · rwa [onChain_of_mem rfl hmem]
    · rw [Command.onChain,if_neg hmem]
      refine ⟨?_,?_⟩
      · rw [List.filter_append,List.filter_cons_of_neg (by simp [hr])]
        simpa using h.others
      · rw [List.filter_append,List.filter_cons_of_pos hr,List.filter_nil]
        refine List.nodup_append.mpr ⟨h.nodup,by simp,?_⟩
        rintro s hs t ht rfl
        obtain rfl := List.mem_singleton.mp ht
        exact hmem (List.mem_filter.mp hs).1
  | delete k r =>
    have hr : own r = true := hown
    refine ⟨?_,?_⟩
    · have herase : ((rules.erase r).filter fun r => !own r) = rules.filter fun r => !own r := by
        rw [← List.erase_filter,List.erase_of_not_mem]
        simp [hr]
      rw [Command.onChain,herase]
      exact h.others
    · rw [Command.onChain,← List.erase_filter]
      exact h.nodup.erase r

theorem keeps_foldl {others : List ρ} (hown : ∀ c ∈ cs, own c.rule = true)
    (h : Keeps own others rules) : Keeps own others (cs.foldl Command.onChain rules) := by
  induction cs generalizing rules with
  | nil => exact h
  | cons c cs ih =>
    exact ih (fun d hd => hown d (List.mem_cons_of_mem c hd))
      (keeps_onChain (hown c List.mem_cons_self) h)

theorem mem_foldl_of_deletes {others : List ρ} (hdel : ∀ d ∈ ds, d.adds = false)
    (hown : ∀ d ∈ ds, own d.rule = true) (h : Keeps own others rules) {r : ρ}
    (hr : own r = true) :
    r ∈ ds.foldl Command.onChain rules ↔ r ∈ rules ∧ ∀ d ∈ ds, d.rule ≠ r := by
  induction ds generalizing rules with
  | nil => simp
  | cons d ds ih =>
    have hrest := keeps_onChain (hown d List.mem_cons_self) h
    rw [List.foldl_cons,ih (fun e he => hdel e (List.mem_cons_of_mem d he))
      (fun e he => hown e (List.mem_cons_of_mem d he)) hrest]
    cases d with
    | delete k s =>
      have hmem : r ∈ rules.erase s ↔ r ∈ rules ∧ s ≠ r := by
        have hin : ∀ l : List ρ, r ∈ l ↔ r ∈ l.filter own := fun l => by simp [hr]
        rw [hin,← List.erase_filter,h.nodup.mem_erase_iff,← hin,and_comm,ne_comm]
      rw [Command.onChain,hmem]
      simp [Command.rule,and_assoc]
    | insert k s => simpa [Command.adds] using hdel (.insert k s) List.mem_cons_self
    | append k s => simpa [Command.adds] using hdel (.append k s) List.mem_cons_self

/-- Added rules of one's own come off again exactly if each of them is deleted. -/
theorem foldl_undone_iff (hforeign : ∀ r ∈ rules, own r = false)
    (hadds : ∀ c ∈ cs, c.adds = true) (hcs : ∀ c ∈ cs, own c.rule = true)
    (hdel : ∀ d ∈ ds, d.adds = false) (hds : ∀ d ∈ ds, own d.rule = true) :
    ds.foldl Command.onChain (cs.foldl Command.onChain rules) = rules ↔
      ∀ c ∈ cs, ∃ d ∈ ds, d.rule = c.rule := by
  have hstart : Keeps own rules rules := by
    refine ⟨List.filter_eq_self.mpr fun r hr => by simp [hforeign r hr],?_⟩
    rw [List.filter_eq_nil_iff.mpr fun r hr => by simp [hforeign r hr]]
    exact List.nodup_nil
  have hadded := keeps_foldl hcs hstart
  have hleft := keeps_foldl hds hadded
  have hgone := fun r => mem_foldl_of_deletes hdel hds hadded (r := r)
  constructor
  · intro hsame c hc
    by_contra hno
    push Not at hno
    have hmem := (hgone _ (hcs c hc)).mpr ⟨(mem_foldl_of_adds hadds).mpr (.inl ⟨c,hc,rfl⟩),hno⟩
    rw [hsame] at hmem
    exact absurd (hcs c hc) (by simp [hforeign _ hmem])
  · intro h
    have hnone : ∀ r ∈ ds.foldl Command.onChain (cs.foldl Command.onChain rules),
        (!own r) = true := by
      intro r hr
      by_contra hown
      have hr' : own r = true := by simpa using hown
      obtain ⟨hmem,hkept⟩ := (hgone r hr').mp hr
      rcases (mem_foldl_of_adds hadds).mp hmem with ⟨c,hc,rfl⟩ | hold
      · obtain ⟨d,hd,heq⟩ := h c hc
        exact hkept d hd heq
      · simp [hforeign r hold] at hr'
    rw [← List.filter_eq_self.mpr hnone]
    exact hleft.others

end Undoing

section Chains

variable [DecidableEq κ]

def execute (commands : List (Command κ ρ)) (chains : κ → List ρ) : κ → List ρ :=
  commands.foldl (fun chains c => Function.update chains c.chain (c.onChain (chains c.chain)))
    chains

theorem execute_append (cs ds : List (Command κ ρ)) (chains : κ → List ρ) :
    execute (cs ++ ds) chains = execute ds (execute cs chains) :=
  List.foldl_append

theorem execute_chain (cs : List (Command κ ρ)) (chains : κ → List ρ) (k : κ) :
    execute cs chains k = (cs.filter fun c => c.chain = k).foldl Command.onChain (chains k) := by
  induction cs generalizing chains with
  | nil => rfl
  | cons c cs ih =>
    rw [show execute (c :: cs) chains = execute cs _ from rfl,ih]
    by_cases hk : c.chain = k
    · subst hk
      simp
    · simp [hk,Function.update_of_ne (Ne.symm hk)]

variable {cs : List (Command κ ρ)}

/-- Commands that add are idempotent. -/
theorem execute_twice (hadds : ∀ c ∈ cs, c.adds = true) (chains : κ → List ρ) :
    execute cs (execute cs chains) = execute cs chains := by
  funext k
  rw [execute_chain cs (execute cs chains),execute_chain cs chains]
  have hfilter : ∀ c ∈ cs.filter fun c => c.chain = k, c.adds = true :=
    fun c hc => hadds c (List.mem_filter.mp hc).1
  exact foldl_of_mem hfilter fun c hc => (mem_foldl_of_adds hfilter).mpr (.inl ⟨c,hc,rfl⟩)

theorem execute_replicate (hadds : ∀ c ∈ cs, c.adds = true) (n : Nat) (chains : κ → List ρ) :
    execute (List.replicate (n + 1) cs).flatten chains = execute cs chains := by
  induction n with
  | zero => simp
  | succ n ih =>
    rw [List.replicate_succ',List.flatten_append,execute_append,ih]
    simpa using execute_twice hadds chains

theorem execute_undone_iff {own : ρ → Bool} {chains : κ → List ρ} {ds : List (Command κ ρ)}
    (hforeign : ∀ k, ∀ r ∈ chains k, own r = false)
    (hadds : ∀ c ∈ cs, c.adds = true) (hcs : ∀ c ∈ cs, own c.rule = true)
    (hdel : ∀ d ∈ ds, d.adds = false) (hds : ∀ d ∈ ds, own d.rule = true) :
    execute (cs ++ ds) chains = chains ↔
      ∀ c ∈ cs, ∃ d ∈ ds, d.chain = c.chain ∧ d.rule = c.rule := by
  have hsub : ∀ (p : Command κ ρ → Prop) (es : List (Command κ ρ)) (k : κ), (∀ e ∈ es, p e) →
      ∀ e ∈ es.filter fun e => e.chain = k, p e :=
    fun p es k h e he => h e (List.mem_filter.mp he).1
  have hchain : ∀ k, execute (cs ++ ds) chains k = chains k ↔
      ∀ c ∈ cs.filter fun c => c.chain = k, ∃ d ∈ ds.filter fun d => d.chain = k,
        d.rule = c.rule := by
    intro k
    rw [execute_chain,List.filter_append,List.foldl_append]
    exact foldl_undone_iff (hforeign k) (hsub _ cs k hadds) (hsub _ cs k hcs) (hsub _ ds k hdel)
      (hsub _ ds k hds)
  rw [funext_iff]
  simp only [hchain]
  constructor
  · intro h c hc
    obtain ⟨d,hd,heq⟩ := h c.chain c (by simp [hc])
    simp only [List.mem_filter,decide_eq_true_eq] at hd
    exact ⟨d,hd.1,hd.2,heq⟩
  · intro h k c hc
    simp only [List.mem_filter,decide_eq_true_eq] at hc
    obtain ⟨d,hd,hk,heq⟩ := h c hc.1
    exact ⟨d,by simp [hd,hk,hc.2],heq⟩

end Chains

end Firewall
