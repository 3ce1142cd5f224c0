import RoutingBench.HaproxyWatcher
import RoutingBench.OverlapPhases
import Mathlib.Data.List.Infix
set_option autoImplicit false

/-!
The end of the routing detection in the logs that the HAProxy watcher emits: is it the time at
which a server of the primary backend comes up?
-/

namespace RoutingBench
open Aggregate

/-- The statuses of a server: one that fails its checks is still up, and one that passes them
again is still down. -/
inductive HaproxyStatus where
  | up
  | upFailing (n m : ℕ)
  | down
  | downPassing (n m : ℕ)
  | maint
  deriving DecidableEq, Repr

def HaproxyStatus.text : HaproxyStatus → String
  | .up => "UP"
  | .upFailing n m => "UP " ++ toString n ++ "/" ++ toString m
  | .down => "DOWN"
  | .downPassing n m => "DOWN " ++ toString n ++ "/" ++ toString m
  | .maint => "MAINT"

def HaproxyStatus.isUp : HaproxyStatus → Bool
  | .up => true
  | .upFailing _ _ => true
  | _ => false

/-- The text is that of a status of a server that is up. -/
def IsUp (text : String) : Prop := ∃ status : HaproxyStatus, status.isUp = true ∧ text = status.text

/-- A server of the primary backend goes from a status that is not up to one that is. -/
def BackendStateChange.ComesUp (c : BackendStateChange) : Prop :=
  c.backend = "primary_backend" ∧ IsUp c.newValue ∧ ¬ IsUp c.oldValue

def changeRow (node : String) (e : Timestamp × BackendStateChange) : ObserverFrameRow where
  ts := e.1
  component := "haproxy"
  node := node
  eventType := e.2.emission.eventType
  oldValue := some e.2.oldValue
  newValue := e.2.newValue
  detail := some e.2.emission.detail

/-- The changes that a run of the watcher emits, with their times, are those of the frame. -/
structure EmittedLog (polls : List HaproxyResponse) (node : String)
    (log : List (Timestamp × BackendStateChange)) (obs : List ObserverFrameRow) : Prop where
  statuses : ∀ r ∈ polls, ∀ table, r.answer = some table → ∀ row ∈ table.servers,
    ∃ status : HaproxyStatus, row.currentStatus = status.text
  emitted : log.map Prod.snd = (haproxyWatch polls).2
  sorted : log.Pairwise fun a b => a.1 ≤ b.1
  rows : obs.filter (fun r => r.eventType == "backend_state_change") = log.map (changeRow node)

section Texts

theorem HaproxyStatus.upperStartsWithUp_text (status : HaproxyStatus) :
    upperStartsWithUp status.text = status.isUp := by
  cases status with
  | up => decide
  | upFailing n m => simp [text,upperStartsWithUp,isUp]
  | down => decide
  | downPassing n m => simp [text,upperStartsWithUp,isUp]
  | maint => decide

theorem backend_infix_detail (c : BackendStateChange) :
    (jsonString c.backend).toList <:+: c.emission.detail.toList := by
  refine ⟨"\x7b\"backend\": ".toList,?_,?_⟩
  rotate_left
  · simp only [BackendStateChange.emission,jsonDumps,String.toList_append,
      String.toList_intercalate,List.map_cons,List.map_nil,List.intercalate_cons_cons,
      List.append_assoc]
    rfl

theorem namesPrimary_of_backend {c : BackendStateChange} (h : c.backend = "primary_backend") :
    strContains c.emission.detail "primary_backend" = true := by
  have hname : "primary_backend".toList <:+: (jsonString c.backend).toList := by
    rw [h]
    exact ⟨['"'],['"'],by decide⟩
  exact strContains_iff.mpr (hname.trans (backend_infix_detail c))

end Texts

/-- Some failed query is not later, if there is one. -/
def NotBeforeFailure (cli : List ClientFrameRow) (t : Timestamp) : Prop :=
  (∃ q ∈ cli, q.success = false) → ∃ q ∈ cli, q.success = false ∧ q.ts ≤ t

/-- The end of the routing detection is the time of a server of the primary backend that comes
up, and that of the milestone, if the milestone is there. -/
structure DetectsRouting (log : List (Timestamp × BackendStateChange))
    (obs : List ObserverFrameRow) (cli : List ClientFrameRow) : Prop where
  comesUp : ∀ p ∈ (extractOverlapPhases obs cli).1, p.name = "Routing Detection" →
    ∃ e ∈ log, e.2.ComesUp ∧ NotBeforeFailure cli e.1 ∧ p.stop = e.1
  agrees : ∀ p ∈ (extractOverlapPhases obs cli).1, p.name = "Routing Detection" →
    ∀ up ∈ (extractMilestones obs cli).haproxyUp, p.stop = up

/-- A change not before the failure to the status of a server that is up. -/
def ReportsUp (cli : List ClientFrameRow) (e : Timestamp × BackendStateChange) : Prop :=
  NotBeforeFailure cli e.1 ∧ IsUp e.2.newValue

/-- The same, with a detail that names the primary backend. -/
def ReportsPrimaryUp (cli : List ClientFrameRow) (e : Timestamp × BackendStateChange) : Prop :=
  ReportsUp cli e ∧ strContains e.2.emission.detail "primary_backend" = true

/-- No report of the primary backend being up is earlier. -/
def FirstPrimaryUp (log : List (Timestamp × BackendStateChange)) (cli : List ClientFrameRow)
    (t : Timestamp) : Prop :=
  ∀ u ∈ log, ReportsPrimaryUp cli u → t ≤ u.1

/-- If a server of any backend is reported up after the failure, then one of the primary backend
comes up, before all other reports that name this backend; and if one of these is UP itself, then
such a one is before all others as well. -/
structure FirstUpComesUp (log : List (Timestamp × BackendStateChange)) (cli : List ClientFrameRow) :
    Prop where
  comesUp : (∃ e ∈ log, ReportsUp cli e) →
    ∃ e ∈ log, (NotBeforeFailure cli e.1 ∧ e.2.ComesUp) ∧ FirstPrimaryUp log cli e.1
  isUp : (∃ e ∈ log, ReportsPrimaryUp cli e ∧ e.2.newValue = "UP") →
    ∃ e ∈ log, (ReportsPrimaryUp cli e ∧ e.2.newValue = "UP") ∧ FirstPrimaryUp log cli e.1

theorem minWhere_iff_of_mask {α β : Type*} [LinearOrder β] {mask : α → Bool} {kind : α → Prop}
    {f : α → β} {rows : List α} {m : β} (h : ∀ r ∈ rows, mask r = true ↔ kind r) :
    minWhere mask f rows = some m ↔
      (∃ r ∈ rows, kind r ∧ f r = m) ∧ ∀ r ∈ rows, kind r → m ≤ f r := by
  rw [minWhere_eq_some_iff]
  refine and_congr ?_ (forall₂_congr fun r hr => by rw [h r hr])
  exact exists_congr fun r => and_congr_right fun hr => by rw [h r hr]

section Log

variable {polls : List HaproxyResponse} {node : String}
  {log : List (Timestamp × BackendStateChange)} {obs : List ObserverFrameRow}
  {cli : List ClientFrameRow} {t : Timestamp}

theorem all_firstFailure_iff :
    (minWhere (fun q => !q.success) ClientFrameRow.ts cli).all (fun f => decide (f ≤ t)) = true ↔
      NotBeforeFailure cli t := by
  cases hmin : minWhere (fun q => !q.success) ClientFrameRow.ts cli with
  | none =>
    refine iff_of_true rfl fun h => ?_
    obtain ⟨q,hq,hfail⟩ := h
    simpa [hfail] using minWhere_eq_none_iff.mp hmin q hq
  | some f =>
    obtain ⟨⟨q,hq,hfail,-⟩,-⟩ := minWhere_eq_some_iff.mp hmin
    rw [Option.all_some,decide_eq_true_eq,notBeforeFailure_iff hmin]
    exact ⟨fun h _ => h,fun h => h ⟨q,hq,by simpa using hfail⟩⟩

theorem EmittedLog.filter_rows (h : EmittedLog polls node log obs)
    (mask : ObserverFrameRow → Bool) :
    obs.filter (fun r => r.eventType == "backend_state_change" && mask r) =
      (log.filter fun e => mask (changeRow node e)).map (changeRow node) := by
  have hrows : (obs.filter fun r => r.eventType == "backend_state_change").filter mask =
      obs.filter fun r => r.eventType == "backend_state_change" && mask r := by
    rw [List.filter_filter]
    exact List.filter_congr fun r _ => Bool.and_comm _ _
  rw [← hrows,h.rows,List.filter_map]
  rfl

/-- The first of the changes that pass a mask is the earliest one. -/
theorem EmittedLog.head?_filter (h : EmittedLog polls node log obs)
    (mask : Timestamp × BackendStateChange → Bool) :
    (((log.filter mask).map (changeRow node)).map ObserverFrameRow.ts).head? =
      minWhere mask Prod.fst log := by
  rw [← head?_eq_minWhere h.sorted,List.map_map]
  rfl

theorem EmittedLog.firstTs_eq (h : EmittedLog polls node log obs)
    (mask : ObserverFrameRow → Bool) :
    firstTs obs (fun r => r.eventType == "backend_state_change" && mask r) =
      minWhere (fun e => mask (changeRow node e)) Prod.fst log := by
  rw [← h.head?_filter,← h.filter_rows,firstTs]

theorem newValue_of_emitted {c : BackendStateChange} (hc : c ∈ (haproxyWatch polls).2) :
    ∃ r ∈ polls, ∃ table, r.answer = some table ∧
      ∃ row ∈ table.servers, c.newValue = row.currentStatus := by
  induction polls using List.reverseRecOn with
  | nil => contradiction
  | append_singleton polls r ih =>
    rw [haproxyWatch_snoc] at hc
    rcases List.mem_append.mp hc with hbefore | hnew
    · obtain ⟨r',hr',htable⟩ := ih hbefore
      exact ⟨r',List.mem_append_left _ hr',htable⟩
    · cases r with
      | requestException text => contradiction
      | stats table =>
        obtain ⟨row,hrow,hchange⟩ := List.mem_flatMap.mp hnew
        refine ⟨_,List.mem_append_right _ (List.mem_singleton_self _),table,rfl,row,hrow,?_⟩
        simp only [HaproxyWatcher.rowChange] at hchange
        split at hchange
        · obtain rfl := List.mem_singleton.mp hchange
          rfl
        · contradiction

theorem EmittedLog.isUp_iff (h : EmittedLog polls node log obs) {e : Timestamp × BackendStateChange}
    (he : e ∈ log) : upperStartsWithUp e.2.newValue = true ↔ IsUp e.2.newValue := by
  have hemitted : e.2 ∈ (haproxyWatch polls).2 := h.emitted ▸ List.mem_map_of_mem he
  obtain ⟨r,hr,table,htable,row,hrow,hnew⟩ := newValue_of_emitted hemitted
  obtain ⟨status,hstatus⟩ := h.statuses r hr table htable row hrow
  rw [hnew,hstatus,status.upperStartsWithUp_text]
  constructor
  · intro hup
    exact ⟨status,hup,rfl⟩
  · rintro ⟨status',hup,htext⟩
    rw [← status.upperStartsWithUp_text,htext,status'.upperStartsWithUp_text,hup]

theorem mem_addPhase {p : OverlapPhase} {name : String} {start stop : Option Timestamp}
    (hp : p ∈ addPhase name start stop) : p.name = name ∧ stop = some p.stop := by
  cases start with
  | none => contradiction
  | some s =>
    cases stop with
    | none => contradiction
    | some e =>
      obtain rfl := List.mem_singleton.mp hp
      exact ⟨rfl,rfl⟩

theorem haproxySpan_start {firstFailure : Option Timestamp}
    (h : (haproxySpan obs firstFailure).2 = some t) : (haproxySpan obs firstFailure).1.isSome := by
  have hmem := List.mem_of_mem_head? h
  rw [← Option.ne_none_iff_isSome]
  intro hnone
  simp only [haproxySpan,List.head?_eq_none_iff,List.map_eq_nil_iff] at hnone
  rw [hnone] at hmem
  simp at hmem

/-- The routing detection is the phase of the HAProxy span, and ends where the span does. -/
theorem forall_routingDetection_iff {Q : Timestamp → Prop} :
    (∀ p ∈ (extractOverlapPhases obs cli).1, p.name = "Routing Detection" → Q p.stop) ↔
      ∀ t, (haproxySpan obs (minWhere (fun q => !q.success) ClientFrameRow.ts cli)).2 = some t →
        Q t := by
  constructor
  · intro h t ht
    obtain ⟨s,hs⟩ := Option.isSome_iff_exists.mp (haproxySpan_start ht)
    have hphase : ∃ p ∈ addPhase "Routing Detection" (some s) (some t),
        p.name = "Routing Detection" ∧ p.stop = t := ⟨_,List.mem_singleton_self _,rfl,rfl⟩
    obtain ⟨p,hp,hname,rfl⟩ := hphase
    refine h p ?_ hname
    simp only [extractOverlapPhases,List.mem_append]
    exact .inl (.inr (by rw [hs,ht]; exact hp))
  · intro h p hp hname
    simp only [extractOverlapPhases,List.mem_append] at hp
    have hother : ∀ {name : String} {start stop : Option Timestamp}, name ≠ "Routing Detection" →
        p ∉ addPhase name start stop := fun hne hmem => hne ((mem_addPhase hmem).1 ▸ hname)
    rcases hp with ((hp | hp) | hp) | hp
    · exact absurd hp (hother (by decide))
    · exact absurd hp (hother (by decide))
    · exact h p.stop (mem_addPhase hp).2
    · exact absurd hp (hother (by decide))

/-- Masks of the reports that a first failure allows. -/
def upMask (first : Option Timestamp) (e : Timestamp × BackendStateChange) : Bool :=
  upperStartsWithUp e.2.newValue && first.all (· ≤ e.1)

def primaryUpMask (first : Option Timestamp) (e : Timestamp × BackendStateChange) : Bool :=
  strContains e.2.emission.detail "primary_backend" && upMask first e

theorem EmittedLog.span_end (h : EmittedLog polls node log obs) (first : Option Timestamp) :
    (haproxySpan obs first).2 = if (log.filter (primaryUpMask first)).isEmpty
      then minWhere (upMask first) Prod.fst log else minWhere (primaryUpMask first) Prod.fst log := by
  simp only [haproxySpan,h.filter_rows,List.filter_map,List.isEmpty_map,List.filter_filter,
    Function.comp_def,changeRow,Option.any_some]
  have hup : upMask first = fun e => upperStartsWithUp e.2.newValue && first.all (· ≤ e.1) := rfl
  have hprimary : primaryUpMask first = fun e =>
      strContains e.2.emission.detail "primary_backend" &&
        (upperStartsWithUp e.2.newValue && first.all (· ≤ e.1)) := rfl
  rw [← h.head?_filter,← h.head?_filter,hprimary,hup,apply_ite (List.map ObserverFrameRow.ts),
    apply_ite List.head?]
  exact if_congr Iff.rfl rfl rfl

theorem EmittedLog.upMask_iff (h : EmittedLog polls node log obs)
    {e : Timestamp × BackendStateChange} (he : e ∈ log) :
    upMask (minWhere (fun q => !q.success) ClientFrameRow.ts cli) e = true ↔ ReportsUp cli e := by
  rw [upMask,Bool.and_eq_true,h.isUp_iff he,all_firstFailure_iff,ReportsUp,and_comm]

theorem EmittedLog.primaryUpMask_iff (h : EmittedLog polls node log obs)
    {e : Timestamp × BackendStateChange} (he : e ∈ log) :
    primaryUpMask (minWhere (fun q => !q.success) ClientFrameRow.ts cli) e = true ↔
      ReportsPrimaryUp cli e := by
  rw [primaryUpMask,Bool.and_eq_true,h.upMask_iff he,ReportsPrimaryUp,and_comm]

/-- The end of the span is the first report of the primary backend, and only without one that
of any other. -/
theorem EmittedLog.span_end_iff (h : EmittedLog polls node log obs) :
    (haproxySpan obs (minWhere (fun q => !q.success) ClientFrameRow.ts cli)).2 = some t ↔
      ((∃ e ∈ log, ReportsPrimaryUp cli e ∧ e.1 = t) ∧ FirstPrimaryUp log cli t) ∨
      ((∀ e ∈ log, ¬ ReportsPrimaryUp cli e) ∧
        (∃ e ∈ log, ReportsUp cli e ∧ e.1 = t) ∧ ∀ e ∈ log, ReportsUp cli e → t ≤ e.1) := by
  have hnone : (log.filter (primaryUpMask (minWhere (fun q => !q.success) ClientFrameRow.ts
      cli))).isEmpty = true ↔ ∀ e ∈ log, ¬ ReportsPrimaryUp cli e := by
    rw [List.isEmpty_iff,List.filter_eq_nil_iff]
    exact forall₂_congr fun e he => not_congr (h.primaryUpMask_iff he)
  rw [h.span_end]
  by_cases hempty : ∀ e ∈ log, ¬ ReportsPrimaryUp cli e
  · rw [if_pos (hnone.mpr hempty),minWhere_iff_of_mask fun e he => h.upMask_iff he]
    constructor
    · intro hleast
      exact .inr ⟨hempty,hleast⟩
    · rintro (⟨⟨e,he,hprimary,-⟩,-⟩ | ⟨-,hleast⟩)
      · exact absurd hprimary (hempty e he)
      · exact hleast
  · rw [if_neg (hnone.not.mpr hempty),minWhere_iff_of_mask fun e he => h.primaryUpMask_iff he]
    constructor
    · intro hleast
      exact .inl hleast
    · rintro (hleast | ⟨hall,-⟩)
      · exact hleast
      · exact absurd hall hempty

def exactUpMask (first : Option Timestamp) (e : Timestamp × BackendStateChange) : Bool :=
  e.2.newValue == "UP" && (strContains e.2.emission.detail "primary_backend" &&
    first.all (· ≤ e.1))

theorem exactUpMask_iff {e : Timestamp × BackendStateChange} :
    exactUpMask (minWhere (fun q => !q.success) ClientFrameRow.ts cli) e = true ↔
      ReportsPrimaryUp cli e ∧ e.2.newValue = "UP" := by
  simp only [exactUpMask,Bool.and_eq_true,all_firstFailure_iff,beq_iff_eq,ReportsPrimaryUp,
    ReportsUp]
  constructor
  · rintro ⟨hup,hnames,hafter⟩
    exact ⟨⟨⟨hafter,.up,rfl,hup⟩,hnames⟩,hup⟩
  · rintro ⟨⟨⟨hafter,-⟩,hnames⟩,hup⟩
    exact ⟨hup,hnames,hafter⟩

/-- The milestone is the first report of UP itself. -/
theorem EmittedLog.haproxyUp_eq (h : EmittedLog polls node log obs) (cli : List ClientFrameRow) :
    (extractMilestones obs cli).haproxyUp =
      minWhere (exactUpMask (minWhere (fun q => !q.success) ClientFrameRow.ts cli)) Prod.fst log := by
  have hfirst := h.firstTs_eq fun r => r.newValue == "UP" &&
    (r.detail.any (strContains · "primary_backend") &&
      (minWhere (fun q => !q.success) ClientFrameRow.ts cli).all (· ≤ r.ts))
  simp only [← Bool.and_assoc] at hfirst
  rw [extractMilestones,hfirst]
  refine minWhere_congr fun e _ => ?_
  simp only [exactUpMask,changeRow,Option.any_some,Bool.and_assoc]
  rfl

theorem EmittedLog.haproxyUp_iff (h : EmittedLog polls node log obs) :
    (extractMilestones obs cli).haproxyUp = some t ↔
      (∃ e ∈ log, (ReportsPrimaryUp cli e ∧ e.2.newValue = "UP") ∧ e.1 = t) ∧
        ∀ e ∈ log, (ReportsPrimaryUp cli e ∧ e.2.newValue = "UP") → t ≤ e.1 := by
  rw [h.haproxyUp_eq,minWhere_iff_of_mask fun e _ => exactUpMask_iff]

theorem EmittedLog.exists_haproxyUp (h : EmittedLog polls node log obs)
    (hup : ∃ e ∈ log, ReportsPrimaryUp cli e ∧ e.2.newValue = "UP") :
    ∃ u, (extractMilestones obs cli).haproxyUp = some u := by
  obtain ⟨e,he,hexact⟩ := hup
  rw [h.haproxyUp_eq]
  exact exists_minWhere he (exactUpMask_iff.mpr hexact)

theorem EmittedLog.exists_span_end (h : EmittedLog polls node log obs)
    (hup : ∃ e ∈ log, ReportsUp cli e) :
    ∃ t, (haproxySpan obs (minWhere (fun q => !q.success) ClientFrameRow.ts cli)).2 = some t := by
  obtain ⟨e,he,hreports⟩ := hup
  rw [h.span_end]
  split
  · exact exists_minWhere he ((h.upMask_iff he).mpr hreports)
  · rename_i hne
    obtain ⟨u,hu⟩ := List.exists_mem_of_ne_nil _ (List.isEmpty_iff.not.mp hne)
    exact exists_minWhere (List.mem_filter.mp hu).1 (List.mem_filter.mp hu).2

theorem BackendStateChange.ComesUp.reports {e : Timestamp × BackendStateChange}
    (hafter : NotBeforeFailure cli e.1) (h : e.2.ComesUp) : ReportsPrimaryUp cli e :=
  ⟨⟨hafter,h.2.1⟩,namesPrimary_of_backend h.1⟩

theorem EmittedLog.comesUp_iff (h : EmittedLog polls node log obs) :
    (∀ t, (haproxySpan obs (minWhere (fun q => !q.success) ClientFrameRow.ts cli)).2 = some t →
      ∃ e ∈ log, e.2.ComesUp ∧ NotBeforeFailure cli e.1 ∧ t = e.1) ↔
    ((∃ e ∈ log, ReportsUp cli e) →
      ∃ e ∈ log, (NotBeforeFailure cli e.1 ∧ e.2.ComesUp) ∧ FirstPrimaryUp log cli e.1) := by
  constructor
  · intro hend hup
    obtain ⟨t,ht⟩ := h.exists_span_end hup
    obtain ⟨e,he,hcomes,hafter,rfl⟩ := hend t ht
    refine ⟨e,he,⟨hafter,hcomes⟩,?_⟩
    rcases h.span_end_iff.mp ht with ⟨-,hfirst⟩ | ⟨hnone,-⟩
    · exact hfirst
    · exact absurd (BackendStateChange.ComesUp.reports hafter hcomes) (hnone e he)
  · intro hcomes t ht
    have hup : ∃ e ∈ log, ReportsUp cli e := by
      rcases h.span_end_iff.mp ht with ⟨⟨e,he,hprimary,-⟩,-⟩ | ⟨-,⟨e,he,hup,-⟩,-⟩
      · exact ⟨e,he,hprimary.1⟩
      · exact ⟨e,he,hup⟩
    obtain ⟨e,he,⟨hafter,hreal⟩,hfirst⟩ := hcomes hup
    have hprimary := BackendStateChange.ComesUp.reports hafter hreal
    rcases h.span_end_iff.mp ht with ⟨⟨u,hu,hreports,rfl⟩,hleast⟩ | ⟨hnone,-⟩
    · exact ⟨e,he,hreal,hafter,le_antisymm (hleast e he hprimary) (hfirst u hu hreports)⟩
    · exact absurd hprimary (hnone e he)

theorem EmittedLog.agrees_iff (h : EmittedLog polls node log obs) :
    (∀ t, (haproxySpan obs (minWhere (fun q => !q.success) ClientFrameRow.ts cli)).2 = some t →
      ∀ up ∈ (extractMilestones obs cli).haproxyUp, t = up) ↔
    ((∃ e ∈ log, ReportsPrimaryUp cli e ∧ e.2.newValue = "UP") →
      ∃ e ∈ log, (ReportsPrimaryUp cli e ∧ e.2.newValue = "UP") ∧ FirstPrimaryUp log cli e.1) := by
  constructor
  · rintro hend ⟨e,he,hprimary,hup⟩
    obtain ⟨t,ht⟩ := h.exists_span_end ⟨e,he,hprimary.1⟩
    obtain ⟨u,hu⟩ : ∃ u, (extractMilestones obs cli).haproxyUp = some u :=
      h.exists_haproxyUp ⟨e,he,hprimary,hup⟩
    obtain rfl := hend t ht u hu
    obtain ⟨⟨e',he',hexact,rfl⟩,-⟩ := h.haproxyUp_iff.mp hu
    rcases h.span_end_iff.mp ht with ⟨-,hfirst⟩ | ⟨hnone,-⟩
    · exact ⟨e',he',hexact,hfirst⟩
    · exact absurd hprimary (hnone e he)
  · intro hup t ht u hu
    obtain ⟨⟨e,he,hexact,rfl⟩,hleast⟩ := h.haproxyUp_iff.mp hu
    obtain ⟨e',he',hexact',hfirst⟩ := hup ⟨e,he,hexact⟩
    rcases h.span_end_iff.mp ht with ⟨⟨x,hx,hprimary,rfl⟩,hfirst'⟩ | ⟨hnone,-⟩
    · exact le_antisymm (hfirst' e he hexact.1) ((hleast e' he' hexact').trans (hfirst x hx hprimary))
    · exact absurd hexact.1 (hnone e he)

/-- The routing detection ends when a server of the primary backend comes up, and with the
milestone, if and only if the first report of the primary backend is one of such a server. -/
theorem detects_routing_iff (h : EmittedLog polls node log obs) (cli : List ClientFrameRow) :
    DetectsRouting log obs cli ↔ FirstUpComesUp log cli := by
  constructor
  · intro hdetects
    exact ⟨h.comesUp_iff.mp (forall_routingDetection_iff.mp hdetects.comesUp),
      h.agrees_iff.mp (forall_routingDetection_iff.mp hdetects.agrees)⟩
  · intro hfirst
    exact ⟨forall_routingDetection_iff.mpr (h.comesUp_iff.mpr hfirst.comesUp),
      forall_routingDetection_iff.mpr (h.agrees_iff.mpr hfirst.isUp)⟩

end Log

def primaryBackendServer (name status : String) : HaproxyRow where
  pxname := some "primary_backend"
  svname := some name
  status := some status
  checkStatus := none
  checkDuration := none
  lastChk := none

def primaryBackendTable (node1 node2 : String) : HaproxyResponse :=
  .stats {
    rows := [primaryBackendServer "patroni-node1" node1,primaryBackendServer "patroni-node2" node2]
    distinct := by simp [primaryBackendServer,HaproxyRow.isServer,HaproxyRow.key] }

/-- The old primary fails its checks, goes down, and the new one comes up. -/
def failingChecks : List HaproxyResponse :=
  [primaryBackendTable "UP" "DOWN",primaryBackendTable "UP 2/3" "DOWN",
    primaryBackendTable "DOWN" "UP"]

def failingChecksLog : List (Timestamp × BackendStateChange) :=
  [(1000000,change "patroni-node1" "none" "UP"),(1000000,change "patroni-node2" "none" "DOWN"),
    (10500000,change "patroni-node1" "UP" "UP 2/3"),
    (18000000,change "patroni-node1" "UP 2/3" "DOWN"),
    (18000000,change "patroni-node2" "DOWN" "UP")]
where
  change (server old new : String) : BackendStateChange :=
    { oldValue := old
      newValue := new
      backend := "primary_backend"
      server := server
      checkStatus := ""
      checkDuration := ""
      lastChk := "" }

theorem primaryBackendTable_statuses (status1 status2 : HaproxyStatus) (table : StatsTable)
    (htable : (primaryBackendTable status1.text status2.text).answer = some table) :
    ∀ row ∈ table.servers, ∃ status : HaproxyStatus, row.currentStatus = status.text := by
  obtain rfl := Option.some.inj htable
  intro row hrow
  rcases List.mem_pair.mp (List.mem_of_mem_filter hrow) with rfl | rfl
  · exact ⟨status1,rfl⟩
  · exact ⟨status2,rfl⟩

theorem failingChecks_emitted : EmittedLog failingChecks "haproxy" failingChecksLog
    (failingChecksLog.map (changeRow "haproxy")) where
  statuses := by
    intro r hr table htable
    rcases List.mem_cons.mp hr with rfl | hr
    · exact primaryBackendTable_statuses .up .down table htable
    rcases List.mem_pair.mp hr with rfl | rfl
    · exact primaryBackendTable_statuses (.upFailing 2 3) .down table htable
    · exact primaryBackendTable_statuses .down .up table htable
  emitted := by decide +kernel
  sorted := by decide
  rows := by decide +kernel

theorem detects_routing_failingChecks :
    DetectsRouting failingChecksLog (failingChecksLog.map (changeRow "haproxy")) outageQueries ↔
      FirstUpComesUp failingChecksLog outageQueries :=
  detects_routing_iff failingChecks_emitted outageQueries

/-- The detection ends with the first failed check of the old primary, which is up all along. -/
theorem failingChecks_not_detected :
    EmittedLog failingChecks "haproxy" failingChecksLog
        (failingChecksLog.map (changeRow "haproxy")) ∧
      ¬ DetectsRouting failingChecksLog (failingChecksLog.map (changeRow "haproxy"))
        outageQueries := by
  refine ⟨failingChecks_emitted,fun h => ?_⟩
  have hcomes := failingChecks_emitted.comesUp_iff.mp (forall_routingDetection_iff.mp h.comesUp)
  have hfailure : ∀ t, 10000000 ≤ t → NotBeforeFailure outageQueries t := fun t ht _ =>
    ⟨_,List.mem_of_mem_tail List.mem_cons_self,rfl,ht⟩
  have hchecks : (10500000,failingChecksLog.change "patroni-node1" "UP" "UP 2/3") ∈
    failingChecksLog := by decide
  have hup : IsUp "UP 2/3" := ⟨.upFailing 2 3,rfl,rfl⟩
  have hreports := hfailure 10500000 (by decide)
  obtain ⟨e,he,⟨hafter,hreal⟩,hfirst⟩ := hcomes ⟨_,hchecks,hreports,hup⟩
  have hle := hfirst _ hchecks ⟨⟨hreports,hup⟩,namesPrimary_of_backend rfl⟩
  obtain ⟨q,hq,hfail,hqe⟩ := hafter ⟨_,List.mem_of_mem_tail List.mem_cons_self,rfl⟩
  have hlate : ∀ q ∈ outageQueries, q.success = false → 10000000 ≤ q.ts := by decide
  have honly : ∀ e ∈ failingChecksLog, 10000000 ≤ e.1 → e.1 ≤ 10500000 → e.2.oldValue = "UP" := by
    decide
  exact hreal.2.2 ⟨.up,rfl,honly e he ((hlate q hq hfail).trans hqe) hle⟩

end RoutingBench
