import RoutingBench.PhaseCharts
import Mathlib.Algebra.Order.Field.Basic
import Mathlib.Algebra.Order.Ring.Rat
set_option autoImplicit false

/-!
The milestones of a run, extracted for its own charts and by the query of the batch report.
Both paths look at the same rows but choose different ones.
-/

namespace RoutingBench
open Aggregate

/-- Both paths report the same milestones, and their charts the same ends, the batch one for
the medians of this run. -/
structure MilestonesAgree (m : Milestones) (w : WaterfallMilestones) : Prop where
  dcs : Agree m.consulLeaderDeleted w.tConsulKey
  pgPromotion : Agree m.pgPromoted w.tPgPromote
  patroniPromotion : Agree m.patroniPromoted w.tPatroniPrimary
  routing : Agree m.haproxyUp w.tHaproxyUp
  ends : ∀ chart, buildPhaseChart m = some chart → ∀ medians,
    computeWaterfall [waterfallRow id w] = some medians →
      ∀ x ∈ chart.bars, ∀ y ∈ renderBatchWaterfall medians, x.name = y.name →
        x.name ∈ ["DCS Detection","PG Promotion","Patroni Promotion","Routing Detection"] →
          x.stop = y.stop

section Ends

theorem epoch_lt_iff {a b : Int} : epoch a < epoch b ↔ a < b := by
  rw [epoch,epoch,div_lt_div_iff_of_pos_right (by norm_num)]
  exact Int.cast_lt

theorem seconds_lt_iff {t a b : Timestamp} : seconds t a < seconds t b ↔ a < b :=
  epoch_lt_iff.trans (sub_lt_sub_iff_right t)

theorem seconds_le_iff {t a b : Timestamp} : seconds t a ≤ seconds t b ↔ a ≤ b := by
  rw [← not_lt,← not_lt,seconds_lt_iff]

theorem seconds_inj {t a b : Timestamp} (h : seconds t a = seconds t b) : a = b :=
  le_antisymm (seconds_le_iff.mp h.le) (seconds_le_iff.mp h.ge)

theorem seconds_nonneg_iff {a b : Timestamp} : 0 ≤ seconds a b ↔ a ≤ b := by
  rw [← not_lt,← not_lt,not_iff_not,seconds,show (0 : ℚ) = epoch 0 by simp [epoch],epoch_lt_iff]
  exact sub_neg

theorem seconds_pos {t a : Timestamp} (h : t < a) : 0 < seconds t a := by
  have hlt := epoch_lt_iff.mpr (sub_pos.mpr h)
  simpa [epoch,seconds] using hlt

/-- The medians of a single run are its own offsets. -/
theorem computeWaterfall_single (w : WaterfallMilestones) :
    computeWaterfall [waterfallRow id w] = some {
      t0 := w.tPgPromote.map (seconds w.tFirstFail)
      t1 := w.tPatroniPrimary.map (seconds w.tFirstFail)
      t2 := w.tConsulKey.map (seconds w.tFirstFail)
      t3 := w.tHaproxyUp.map (seconds w.tFirstFail)
      t4 := w.tPgReady.map (seconds w.tFirstFail)
      tc := w.tClientRecover.map (seconds w.tFirstFail) } := by
  have hoffset : ∀ t, ((between (some w.tFirstFail) t).map fun d => id (epoch d)) =
      t.map (seconds w.tFirstFail) := by
    intro t
    cases t with
    | none => rfl
    | some t => rfl
  simp only [computeWaterfall,List.isEmpty_cons,median_filterMap_singleton,waterfallRow,hoffset]
  rfl

/-- The milestones of the batch path are later than the failure, and no other milestone stands
for the time the server is ready. -/
structure Later (w : WaterfallMilestones) : Prop where
  after : ∀ t ∈ [w.tPgPromote,w.tPatroniPrimary,w.tConsulKey,w.tHaproxyUp,w.tPgReady,
    w.tClientRecover], ∀ a, t = some a → w.tFirstFail < a
  ready : ∀ a, w.tPgReady = some a →
    some a ∉ [w.tPatroniPrimary,w.tConsulKey,w.tHaproxyUp,w.tClientRecover]

variable {m : Milestones} {w : WaterfallMilestones} {medians : Medians} {tc : ℚ}

theorem Later.points_pos (h : Later w) (hm : computeWaterfall [waterfallRow id w] = some medians)
    (htc : medians.tc = some tc) : ∀ e ∈ waterfallPoints medians tc, 0 < e.2 := by
  rw [computeWaterfall_single] at hm
  obtain rfl := Option.some.inj hm
  have hpos : ∀ t ∈ [w.tPgPromote,w.tPatroniPrimary,w.tConsulKey,w.tHaproxyUp,w.tPgReady,
      w.tClientRecover], ∀ y, t.map (seconds w.tFirstFail) = some y → 0 < y := by
    intro t ht y hy
    obtain ⟨a,ha,rfl⟩ := Option.map_eq_some_iff.mp hy
    exact seconds_pos (h.after t ht a ha)
  intro e he
  rcases mem_waterfallPoints.mp he with
    ⟨-,he⟩ | ⟨-,he | ⟨-,he⟩⟩ | ⟨-,-,he⟩ | ⟨-,he⟩ | ⟨-,rfl⟩
  · exact hpos _ (by simp) _ he
  · exact hpos _ (by simp) _ he
  · exact hpos _ (by simp) _ he
  · exact hpos _ (by simp) _ he
  · exact hpos _ (by simp) _ he
  · exact hpos _ (by simp) _ htc

theorem seconds_map_eq {t : Timestamp} {a b : Option Timestamp} {x : Timestamp} {y : ℚ}
    (hagree : Agree a b) (ha : a = some x) (hb : b.map (seconds t) = some y) : seconds t x = y := by
  obtain ⟨z,hz,rfl⟩ := Option.map_eq_some_iff.mp hb
  rw [hagree x ha z hz]

/-- The point of the batch chart at the time the server is ready stands alone. -/
theorem Later.ready_alone (h : Later w) (hm : computeWaterfall [waterfallRow id w] = some medians)
    (htc : medians.tc = some tc) {ready : Timestamp} (hready : w.tPgReady = some ready) :
    ∀ s ∈ waterfallPoints medians tc, s.2 = seconds w.tFirstFail ready →
      s = ("PG Promotion",seconds w.tFirstFail ready) := by
  rw [computeWaterfall_single] at hm
  obtain rfl := Option.some.inj hm
  have hother : ∀ t ∈ [w.tPatroniPrimary,w.tConsulKey,w.tHaproxyUp,w.tClientRecover],
      ∀ y, t.map (seconds w.tFirstFail) = some y → y ≠ seconds w.tFirstFail ready := by
    intro t ht y hy hsame
    obtain ⟨a,rfl,rfl⟩ := Option.map_eq_some_iff.mp hy
    rw [seconds_inj hsame] at ht
    exact h.ready ready hready ht
  intro s hs hsame
  rcases mem_waterfallPoints.mp hs with
    ⟨-,hs⟩ | ⟨hname,-⟩ | ⟨-,-,hs⟩ | ⟨-,hs⟩ | ⟨-,rfl⟩
  · exact absurd hsame (hother _ (by simp) _ hs)
  · exact Prod.ext hname hsame
  · exact absurd hsame (hother _ (by simp) _ hs)
  · exact absurd hsame (hother _ (by simp) _ hs)
  · exact absurd hsame (hother _ (by simp) _ htc)

/-- The charts agree on every end but one: the time the server is ready is drawn as the end of
the promotion if no promotion is known. -/
theorem ends_agree_iff (h : Later w) (hfirst : m.firstClientFailure = some w.tFirstFail)
    (hdcs : Agree m.consulLeaderDeleted w.tConsulKey) (hpg : Agree m.pgPromoted w.tPgPromote)
    (hpatroni : Agree m.patroniPromoted w.tPatroniPrimary) (hrouting : Agree m.haproxyUp w.tHaproxyUp)
    (hready : ∀ a b, m.pgPromoted = some a → w.tPgReady = some b → a ≠ b) :
    (∀ chart, buildPhaseChart m = some chart → ∀ medians,
      computeWaterfall [waterfallRow id w] = some medians →
        ∀ x ∈ chart.bars, ∀ y ∈ renderBatchWaterfall medians, x.name = y.name →
          x.name ∈ ["DCS Detection","PG Promotion","Patroni Promotion","Routing Detection"] →
            x.stop = y.stop) ↔
      (w.tClientRecover.isSome → m.pgPromoted.isSome → w.tPgPromote = none →
        w.tPgReady = none) := by
  have hmedians := computeWaterfall_single w
  constructor
  · intro hends hrecover hpromoted hnone
    by_contra hsome
    obtain ⟨c,hc⟩ := Option.isSome_iff_exists.mp hrecover
    obtain ⟨a,ha⟩ := Option.isSome_iff_exists.mp hpromoted
    obtain ⟨ready,hr⟩ := Option.ne_none_iff_exists'.mp hsome
    have htc := congrArg (Option.map (seconds w.tFirstFail)) hc
    obtain ⟨chart,hchart,x,hx,hxname,hxstop⟩ := exists_phaseChart hfirst
      (e := ("PG Promotion",a)) (mem_availableMilestones.mpr (.inr (.inl ⟨rfl,ha⟩)))
    obtain ⟨y,hy,hyname,hystop⟩ := exists_waterfall htc (h.points_pos hmedians htc)
      (e := ("PG Promotion",seconds w.tFirstFail ready))
      (mem_waterfallPoints.mpr (.inr (.inl ⟨rfl,.inr ⟨by simp [hnone],by simp [hr]⟩⟩)))
      (h.ready_alone hmedians htc hr)
    have hstop := hends chart hchart _ hmedians x hx y hy (hxname.trans hyname.symm)
      (by simp [hxname])
    rw [hxstop,hystop] at hstop
    exact hready a ready ha hr (seconds_inj hstop)
  · intro hcond chart hchart medians hm x hx y hy hname hfour
    obtain ⟨e,he,hename,hstop⟩ := phaseChart_mem hfirst hchart hx
    rw [← hstop]
    cases htc : medians.tc with
    | none => simp [renderBatchWaterfall,htc] at hy
    | some tc =>
      have hpoint := waterfall_mem htc (h.points_pos hm htc) y hy
      rw [← hname,mem_waterfallPoints] at hpoint
      rw [mem_availableMilestones,hename] at he
      rw [hmedians] at hm
      obtain rfl := Option.some.inj hm
      simp only [List.mem_cons,List.not_mem_nil,or_false] at hfour
      rcases hfour with hn | hn | hn | hn <;>
        simp only [hn,String.reduceEq,true_and,false_and,or_false,false_or] at he hpoint
      · exact seconds_map_eq hdcs he hpoint
      · rcases hpoint with hpoint | ⟨hnone,hpoint⟩
        · exact seconds_map_eq hpg he hpoint
        · obtain ⟨c,hc,-⟩ := Option.map_eq_some_iff.mp htc
          have := hcond (by simp [hc]) (by simp [he]) (Option.map_eq_none_iff.mp hnone)
          simp [this] at hpoint
      · exact seconds_map_eq hpatroni he.2 hpoint.2
      · exact seconds_map_eq hrouting he hpoint

end Ends

/-- The rows of one run, with its combination and timestamps of their own; a query failed. -/
structure OneRun (db : Database) (cid trid : String) : Prop where
  registered : ∃ tr ∈ db.testRuns, tr.id = trid ∧ tr.combinationId = cid
  clientTag : ∀ r ∈ db.clientEvents, r.testRunId = trid → r.combinationId = cid
  observerTag : ∀ r ∈ db.observerEvents, r.testRunId = trid → r.combinationId = cid
  distinct : ((db.clientEvents.filter fun r => r.testRunId = trid).map ClientEvent.ts ++
    (db.observerEvents.filter fun r => r.testRunId = trid).map ObserverEvent.ts).Nodup
  failed : ∃ r ∈ db.clientEvents, r.testRunId = trid ∧ r.success = false

def runEvents (db : Database) (trid : String) : List ObserverEvent :=
  db.observerEvents.filter fun r => r.testRunId = trid

def runQueries (db : Database) (trid : String) : List ClientEvent :=
  db.clientEvents.filter fun r => r.testRunId = trid

def leaderKeyCreated (r : ObserverEvent) : Bool :=
  r.component == "consul" && r.eventType == "leader_key_created"

def postgresPromotion (r : ObserverEvent) : Bool := r.component == "postgres" && promotion r

def postgresReady (r : ObserverEvent) : Bool :=
  r.component == "postgres" && r.eventType == "pg_ready_accept_connections"

def patroniPrimary (r : ObserverEvent) : Bool :=
  r.component == "patroni" && r.eventType == "role_change" && r.newValue == "primary"

def haproxyBackendUp (r : ObserverEvent) : Bool :=
  r.component == "haproxy" && r.eventType == "backend_state_change" && r.newValue == "UP" &&
    r.detail.all (fun detail => like detail "%primary_backend%")

/-- An event of a kind after a failed query of the run. -/
def afterFailure (db : Database) (trid : String) (kind : ObserverEvent → Bool) (r : ObserverEvent) :
    Bool :=
  (runQueries db trid).any (fun q => !q.success && q.ts < r.ts) && kind r

def ClientReturned (db : Database) (trid : String) : Prop :=
  ∃ s ∈ runQueries db trid, s.success = true ∧ ∀ q ∈ runQueries db trid, q.success = false →
    q.ts < s.ts

/-- Both paths choose the same event for each milestone they both report, and the time the
server is ready does not stand for a promotion. -/
structure MilestonesMatch (db : Database) (trid : String) : Prop where
  dcs : (∀ r ∈ runEvents db trid, leaderKeyDeleted r = false) ∨
    ∀ r ∈ runEvents db trid, afterFailure db trid leaderKeyCreated r = false
  pgPromotion : LastIsFirst promotion (afterFailure db trid postgresPromotion) ObserverEvent.ts
    (runEvents db trid)
  patroniPromotion : LastIsFirst becomesPrimary (afterFailure db trid patroniPrimary)
    ObserverEvent.ts (runEvents db trid)
  routing : FirstIsFirst (afterFailure db trid primaryBackendUp)
    (afterFailure db trid haproxyBackendUp) ObserverEvent.ts (runEvents db trid)
  ready : ClientReturned db trid → (∃ r ∈ runEvents db trid, promotion r = true) →
    (∀ r ∈ runEvents db trid, afterFailure db trid postgresPromotion r = false) →
      ∀ r ∈ runEvents db trid, afterFailure db trid postgresReady r = false

section Run

variable {db : Database} {cid trid : String}

theorem afterFailure_eq {t0 : Timestamp} {kind : ObserverEvent → Bool}
    (ht0 : minWhere (fun q => !q.success) ClientEvent.ts (runQueries db trid) = some t0)
    (r : ObserverEvent) : afterFailure db trid kind r = (decide (t0 < r.ts) && kind r) := by
  obtain ⟨⟨q,hq,hfail,hqt⟩,hmin⟩ := minWhere_eq_some_iff.mp ht0
  have hany : (runQueries db trid).any (fun q => !q.success && q.ts < r.ts) = decide (t0 < r.ts) := by
    refine Bool.eq_iff_iff.mpr ?_
    simp only [List.any_eq_true,Bool.and_eq_true,decide_eq_true_eq]
    constructor
    · rintro ⟨q',hq',hfail',hlt⟩
      exact lt_of_le_of_lt (hmin q' hq' hfail') hlt
    · intro hlt
      exact ⟨q,hq,hfail,hqt ▸ hlt⟩
  rw [afterFailure,hany]

theorem OneRun.ts_inj (h : OneRun db cid trid) :
    ∀ a ∈ runEvents db trid, ∀ b ∈ runEvents db trid, a.ts = b.ts → a = b := by
  intro a ha b hb hab
  exact List.inj_on_of_nodup_map (List.nodup_append.mp h.distinct).2.1 ha hb hab

theorem OneRun.ts_ne (h : OneRun db cid trid) {q : ClientEvent} {r : ObserverEvent}
    (hq : q ∈ runQueries db trid) (hr : r ∈ runEvents db trid) : q.ts ≠ r.ts :=
  (List.nodup_append.mp h.distinct).2.2 q.ts (List.mem_map_of_mem hq) r.ts (List.mem_map_of_mem hr)

theorem OneRun.taggedQueries_eq (h : OneRun db cid trid) :
    taggedQueries db cid trid = runQueries db trid := by
  refine List.filter_congr fun r hr => ?_
  by_cases hid : r.testRunId = trid
  · simp [hid,h.clientTag r hr hid]
  · simp [hid]

theorem OneRun.taggedEvents_eq (h : OneRun db cid trid) :
    taggedEvents db cid trid = runEvents db trid := by
  refine List.filter_congr fun r hr => ?_
  by_cases hid : r.testRunId = trid
  · simp [hid,h.observerTag r hr hid]
  · simp [hid]

theorem OneRun.milestones (h : OneRun db cid trid) {t0 : Timestamp}
    (ht0 : minWhere (fun q => !q.success) ClientEvent.ts (runQueries db trid) = some t0) :
    extractMilestones (loadObserverEvents db cid trid) (loadClientEvents db cid trid) = {
      firstClientFailure := some t0
      firstRecovery := minWhere (fun q => q.success && exceeds q.ts (some t0)) ClientEvent.ts
        (runQueries db trid)
      consulLeaderDeleted := maxWhere leaderKeyDeleted ObserverEvent.ts (runEvents db trid)
      patroniPromoted := maxWhere becomesPrimary ObserverEvent.ts (runEvents db trid)
      haproxyUp := minWhere (afterFailure db trid primaryBackendUp) ObserverEvent.ts
        (runEvents db trid)
      pgPromoted := maxWhere promotion ObserverEvent.ts (runEvents db trid) } := by
  have hload := extractMilestones_load db cid trid
  simp only [h.taggedQueries_eq,h.taggedEvents_eq,ht0,Option.all_some] at hload
  obtain ⟨⟨q,hq,-,rfl⟩,-⟩ := minWhere_eq_some_iff.mp ht0
  rw [hload]
  refine congrArg (fun up => Milestones.mk _ _ _ _ up _) (minWhere_congr fun r hr => ?_)
  rw [afterFailure_eq ht0,Bool.and_comm]
  refine congrArg (· && _) (decide_eq_decide.mpr ?_)
  exact ⟨fun hle => lt_of_le_of_ne hle (h.ts_ne hq hr),le_of_lt⟩

theorem mem_waterfallBase_iff {b : WaterfallBase} :
    b ∈ waterfallBase db cid ↔ ∃ tr ∈ db.testRuns, tr.combinationId = cid ∧ b.runId = tr.id ∧
      b.combinationId = tr.combinationId ∧
      minWhere (fun q => !q.success) ClientEvent.ts (runQueries db tr.id) = some b.tFirstFail ∧
      minWhere (fun q => q.success && exceeds q.ts (maxWhere (fun q => !q.success) ClientEvent.ts
        (runQueries db tr.id))) ClientEvent.ts (runQueries db tr.id) = b.tClientRecover := by
  have hsub : ∀ id, maxWhere (fun r => r.testRunId = id && !r.success) ClientEvent.ts
      db.clientEvents = maxWhere (fun q => !q.success) ClientEvent.ts (runQueries db id) :=
    fun id => maxWhere_filter.symm
  simp only [waterfallBase,List.mem_filterMap,List.mem_filter,decide_eq_true_eq,hsub,
    Option.map_eq_some_iff]
  constructor
  · rintro ⟨tr,⟨htr,hcid⟩,t0,ht0,rfl⟩
    exact ⟨tr,htr,hcid,rfl,rfl,ht0,rfl⟩
  · rintro ⟨tr,htr,hcid,hid,hcomb,ht0,hrec⟩
    exact ⟨tr,⟨htr,hcid⟩,b.tFirstFail,ht0,by cases b; simp_all [runQueries]⟩

theorem waterfallMilestones_eq {b : WaterfallBase}
    (ht0 : minWhere (fun q => !q.success) ClientEvent.ts (runQueries db b.runId) =
      some b.tFirstFail) : waterfallMilestones db b = {
    runId := b.runId
    tFirstFail := b.tFirstFail
    tClientRecover := b.tClientRecover
    tPgPromote := minWhere (afterFailure db b.runId postgresPromotion) ObserverEvent.ts
      (runEvents db b.runId)
    tPatroniPrimary := minWhere (afterFailure db b.runId patroniPrimary) ObserverEvent.ts
      (runEvents db b.runId)
    tConsulKey := minWhere (afterFailure db b.runId leaderKeyCreated) ObserverEvent.ts
      (runEvents db b.runId)
    tHaproxyUp := minWhere (afterFailure db b.runId haproxyBackendUp) ObserverEvent.ts
      (runEvents db b.runId)
    tPgReady := minWhere (afterFailure db b.runId postgresReady) ObserverEvent.ts
      (runEvents db b.runId) } := by
  have hjoin : ∀ (p kind : ObserverEvent → Bool),
      (∀ r, b.tFirstFail < r.ts → p r = kind r) →
      minWhere p ObserverEvent.ts
        (db.observerEvents.filter fun oe => oe.testRunId = b.runId && b.tFirstFail < oe.ts) =
      minWhere (afterFailure db b.runId kind) ObserverEvent.ts (runEvents db b.runId) := by
    intro p kind hp
    rw [runEvents,minWhere_filter,minWhere_filter]
    refine minWhere_congr fun r _ => ?_
    rw [afterFailure_eq ht0]
    by_cases hlt : b.tFirstFail < r.ts
    · simp [hlt,hp r hlt]
    · simp [hlt]
  simp only [waterfallMilestones]
  rw [hjoin _ postgresPromotion,hjoin _ patroniPrimary,hjoin _ leaderKeyCreated,
    hjoin _ haproxyBackendUp,hjoin _ postgresReady]
  · intro r hlt
    simp [postgresReady,hlt]
  · intro r hlt
    simp [haproxyBackendUp,hlt]
  · intro r hlt
    simp [leaderKeyCreated,hlt]
  · intro r hlt
    simp [patroniPrimary,hlt]
  · intro r _
    simp [postgresPromotion,promotion,or_comm]

theorem exists_observed {kind : ObserverEvent → Bool} {a : Timestamp}
    (ha : minWhere (afterFailure db trid kind) ObserverEvent.ts (runEvents db trid) = some a) :
    ∃ r ∈ runEvents db trid, afterFailure db trid kind r = true ∧ r.ts = a :=
  (minWhere_eq_some_iff.mp ha).1

theorem exists_recovered {b : WaterfallBase} (hb : b ∈ waterfallBase db cid) {a : Timestamp}
    (ha : b.tClientRecover = some a) :
    ∃ q ∈ runQueries db b.runId, b.tFirstFail < q.ts ∧ q.ts = a := by
  obtain ⟨tr,-,-,hid,-,ht0,hrec⟩ := mem_waterfallBase_iff.mp hb
  rw [← hid] at ht0 hrec
  rw [ha] at hrec
  obtain ⟨⟨q,hq,hgood,hqa⟩,-⟩ := minWhere_eq_some_iff.mp hrec
  obtain ⟨⟨f,hf,hfail,hft⟩,-⟩ := minWhere_eq_some_iff.mp ht0
  obtain ⟨last,hlast⟩ := exists_maxWhere (p := fun q => !q.success) (f := ClientEvent.ts) hf hfail
  simp only [hlast,Bool.and_eq_true,exceeds_some] at hgood
  have hle := (maxWhere_eq_some_iff.mp hlast).2 f hf hfail
  exact ⟨q,hq,hft ▸ lt_of_le_of_lt hle hgood.2,hqa⟩

theorem milestones_after {b : WaterfallBase} (hb : b ∈ waterfallBase db cid) :
    ∀ t ∈ [(waterfallMilestones db b).tPgPromote,(waterfallMilestones db b).tPatroniPrimary,
      (waterfallMilestones db b).tConsulKey,(waterfallMilestones db b).tHaproxyUp,
      (waterfallMilestones db b).tPgReady,(waterfallMilestones db b).tClientRecover],
      ∀ a, t = some a → b.tFirstFail < a := by
  obtain ⟨tr,-,-,hid,-,ht0,-⟩ := mem_waterfallBase_iff.mp hb
  rw [← hid] at ht0
  rw [waterfallMilestones_eq ht0]
  intro t ht a ha
  have hafter : ∀ kind, t = minWhere (afterFailure db b.runId kind) ObserverEvent.ts
      (runEvents db b.runId) → b.tFirstFail < a := by
    intro kind hkt
    obtain ⟨r,-,hr,rfl⟩ := exists_observed (hkt ▸ ha)
    rw [afterFailure_eq ht0,Bool.and_eq_true,decide_eq_true_eq] at hr
    exact hr.1
  simp only [List.mem_cons,List.not_mem_nil,or_false] at ht
  rcases ht with ht | ht | ht | ht | ht | ht
  · exact hafter _ ht
  · exact hafter _ ht
  · exact hafter _ ht
  · exact hafter _ ht
  · exact hafter _ ht
  · obtain ⟨q,-,hlt,rfl⟩ := exists_recovered hb (ht ▸ ha)
    exact hlt

theorem OneRun.later {b : WaterfallBase} (h : OneRun db cid b.runId)
    (hb : b ∈ waterfallBase db cid) : Later (waterfallMilestones db b) := by
  obtain ⟨tr,-,-,hid,-,ht0,-⟩ := mem_waterfallBase_iff.mp hb
  rw [← hid] at ht0
  refine ⟨milestones_after hb,?_⟩
  rw [waterfallMilestones_eq ht0]
  intro a ha hmem
  have hother : ∀ kind, (∀ r, kind r = true → postgresReady r = true → False) →
      some a ≠ minWhere (afterFailure db b.runId kind) ObserverEvent.ts
        (runEvents db b.runId) := by
    intro kind hdisjoint hsame
    refine ne_of_disjoint (exists_observed hsame.symm) (exists_observed ha) h.ts_inj ?_ rfl
    intro r hr hready
    rw [afterFailure,Bool.and_eq_true] at hr hready
    exact hdisjoint r hr.2 hready.2
  simp only [List.mem_cons,List.not_mem_nil,or_false] at hmem
  rcases hmem with hmem | hmem | hmem | hmem
  · exact hother patroniPrimary (fun r => by simp_all [patroniPrimary,postgresReady]) hmem
  · exact hother leaderKeyCreated (fun r => by simp_all [leaderKeyCreated,postgresReady]) hmem
  · exact hother haproxyBackendUp (fun r => by simp_all [haproxyBackendUp,postgresReady]) hmem
  · obtain ⟨q,hq,-,hqa⟩ := exists_recovered hb hmem.symm
    obtain ⟨r,hr,-,hra⟩ := exists_observed ha
    exact h.ts_ne hq hr (hqa.trans hra.symm)

theorem clientReturned_iff_isSome {t0 : Timestamp}
    (ht0 : minWhere (fun q => !q.success) ClientEvent.ts (runQueries db trid) = some t0) :
    ClientReturned db trid ↔ (minWhere (fun q => q.success && exceeds q.ts (maxWhere
      (fun q => !q.success) ClientEvent.ts (runQueries db trid))) ClientEvent.ts
        (runQueries db trid)).isSome := by
  obtain ⟨⟨f,hf,hfail,-⟩,-⟩ := minWhere_eq_some_iff.mp ht0
  obtain ⟨last,hlast⟩ := exists_maxWhere (p := fun q => !q.success) (f := ClientEvent.ts) hf hfail
  obtain ⟨⟨l,hl,hlfail,hlts⟩,hmax⟩ := maxWhere_eq_some_iff.mp hlast
  rw [minWhere_isSome_iff,hlast,ClientReturned]
  refine exists_congr fun s => and_congr_right fun _ => ?_
  simp only [Bool.and_eq_true,exceeds_some,Bool.not_eq_true'] at hlfail hmax ⊢
  refine and_congr_right fun _ => ⟨fun hafter => hlts ▸ hafter l hl hlfail,fun hlt q hq hbad => ?_⟩
  exact lt_of_le_of_lt (hmax q hq hbad) hlt

theorem leaderKeys_agree_iff (h : OneRun db cid trid) :
    Agree (maxWhere leaderKeyDeleted ObserverEvent.ts (runEvents db trid))
      (minWhere (afterFailure db trid leaderKeyCreated) ObserverEvent.ts (runEvents db trid)) ↔
        (∀ r ∈ runEvents db trid, leaderKeyDeleted r = false) ∨
          ∀ r ∈ runEvents db trid, afterFailure db trid leaderKeyCreated r = false := by
  rw [agree_max_min_iff h.ts_inj,LastIsFirst]
  refine or_congr_right (or_iff_left ?_)
  rintro ⟨r,-,⟨hdeleted,hcreated⟩,-⟩
  simp_all [leaderKeyDeleted,leaderKeyCreated,afterFailure]

theorem OneRun.agree_iff {b : WaterfallBase} (h : OneRun db cid b.runId)
    (hb : b ∈ waterfallBase db cid) : MilestonesAgree
      (extractMilestones (loadObserverEvents db cid b.runId) (loadClientEvents db cid b.runId))
      (waterfallMilestones db b) ↔ MilestonesMatch db b.runId := by
  have hlater := h.later hb
  obtain ⟨tr,-,-,hid,-,ht0,hrec⟩ := mem_waterfallBase_iff.mp hb
  rw [← hid] at ht0 hrec
  rw [waterfallMilestones_eq ht0] at hlater ⊢
  rw [h.milestones ht0]
  have hready : ∀ a r, maxWhere promotion ObserverEvent.ts (runEvents db b.runId) = some a →
      minWhere (afterFailure db b.runId postgresReady) ObserverEvent.ts (runEvents db b.runId) =
        some r → a ≠ r := by
    intro a r ha hr
    refine ne_of_disjoint (maxWhere_eq_some_iff.mp ha).1 (minWhere_eq_some_iff.mp hr).1 h.ts_inj ?_
    intro r hp hready
    simp_all [promotion,postgresReady,afterFailure]
  have hcond : (b.tClientRecover.isSome →
      (maxWhere promotion ObserverEvent.ts (runEvents db b.runId)).isSome →
        minWhere (afterFailure db b.runId postgresPromotion) ObserverEvent.ts
          (runEvents db b.runId) = none →
        minWhere (afterFailure db b.runId postgresReady) ObserverEvent.ts
          (runEvents db b.runId) = none) ↔
      (ClientReturned db b.runId → (∃ r ∈ runEvents db b.runId, promotion r = true) →
        (∀ r ∈ runEvents db b.runId, afterFailure db b.runId postgresPromotion r = false) →
          ∀ r ∈ runEvents db b.runId, afterFailure db b.runId postgresReady r = false) := by
    rw [clientReturned_iff_isSome ht0,hrec,maxWhere_isSome_iff,minWhere_eq_none_iff,minWhere_eq_none_iff]
  constructor
  · intro hagree
    exact {
      dcs := (leaderKeys_agree_iff h).mp hagree.dcs
      pgPromotion := (agree_max_min_iff h.ts_inj).mp hagree.pgPromotion
      patroniPromotion := (agree_max_min_iff h.ts_inj).mp hagree.patroniPromotion
      routing := (agree_min_min_iff h.ts_inj).mp hagree.routing
      ready := hcond.mp ((ends_agree_iff hlater rfl hagree.dcs hagree.pgPromotion
        hagree.patroniPromotion hagree.routing hready).mp hagree.ends) }
  · intro hmatch
    have hdcs := (leaderKeys_agree_iff h).mpr hmatch.dcs
    have hpg := (agree_max_min_iff h.ts_inj).mpr hmatch.pgPromotion
    have hpatroni := (agree_max_min_iff h.ts_inj).mpr hmatch.patroniPromotion
    have hrouting := (agree_min_min_iff h.ts_inj).mpr hmatch.routing
    exact {
      dcs := hdcs
      pgPromotion := hpg
      patroniPromotion := hpatroni
      routing := hrouting
      ends := (ends_agree_iff hlater rfl hdcs hpg hpatroni hrouting hready).mpr
        (hcond.mpr hmatch.ready) }

/-- The two paths agree about a run if and only if they choose the same events: in particular
never about the leader key, whose deletion one of them reports and whose creation the other. -/
theorem milestones_agree_iff (h : OneRun db cid trid) :
    (∀ b ∈ waterfallBase db cid, b.runId = trid → MilestonesAgree
      (extractMilestones (loadObserverEvents db cid trid) (loadClientEvents db cid trid))
      (waterfallMilestones db b)) ↔ MilestonesMatch db trid := by
  obtain ⟨q,hq,hqid,hfail⟩ := h.failed
  obtain ⟨tr,htr,hid,hcid⟩ := h.registered
  obtain ⟨t0,ht0⟩ := exists_minWhere (p := fun q => !q.success) (f := ClientEvent.ts)
    (List.mem_filter.mpr ⟨hq,decide_eq_true hqid⟩ : q ∈ runQueries db trid) (by simp [hfail])
  constructor
  · intro hagree
    have hb : ∃ b ∈ waterfallBase db cid, b.runId = trid :=
      ⟨⟨trid,cid,t0,_⟩,mem_waterfallBase_iff.mpr ⟨tr,htr,hcid,hid.symm,hcid.symm,hid ▸ ht0,rfl⟩,rfl⟩
    obtain ⟨b,hb,rfl⟩ := hb
    exact (h.agree_iff hb).mp (hagree b hb rfl)
  · rintro hmatch b hb rfl
    exact (h.agree_iff hb).mpr hmatch

/-- A failover: the leader key is created 9 s after the first failed query. Before that it is
deleted, or it changes hands without being missing. -/
def leaderKeyRun (deleted : Bool) : Database where
  testRuns := [hardStopRun "06_20260424_030630" 1776999990000000]
  observerEvents := [
    event 8 "consul" "consul-1"
      (if deleted then "leader_key_deleted" else "leader_key_change") "patroni-1" "",
    event 9 "consul" "consul-1" "leader_key_created" "" "patroni-2",
    event 10 "postgres" "patroni-2" "pg_promote_detected" "in_recovery" "primary",
    event 11 "patroni" "patroni-2" "role_change" "replica" "primary",
    event 12 "haproxy" "haproxy-1" "backend_state_change" "DOWN" "UP"]
  clientEvents := [query 0 1 false,query 13 2 true]
  primaryKey := by simp
where
  event (second : Int) (component node eventType oldValue newValue : String) : ObserverEvent :=
    { ts := 1777000000000000 + 1000000 * second
      combinationId := "06"
      testRunId := "06_20260424_030630"
      component := component
      node := node
      eventType := eventType
      oldValue := some oldValue
      newValue := newValue
      detail := some "primary_backend" }
  query (second : Int) (sequence : Nat) (success : Bool) : ClientEvent :=
    heartbeatRow "06" "06_20260424_030630" (1777000000000000 + 1000000 * second) sequence success

theorem leaderKeyRun_one (deleted : Bool) :
    OneRun (leaderKeyRun deleted) "06" "06_20260424_030630" := by
  cases deleted with
  | true => exact ⟨by decide,by decide,by decide,by decide,by decide⟩
  | false => exact ⟨by decide,by decide,by decide,by decide,by decide⟩

/-- An ordinary failover: the phase chart ends the DCS detection with the deletion of the key,
the batch waterfall a second later with its creation. -/
theorem leaderKeyRun_disagrees :
    OneRun (leaderKeyRun true) "06" "06_20260424_030630" ∧
      ∃ b ∈ waterfallBase (leaderKeyRun true) "06", b.runId = "06_20260424_030630" ∧
        ¬ MilestonesAgree
          (extractMilestones (loadObserverEvents (leaderKeyRun true) "06" "06_20260424_030630")
            (loadClientEvents (leaderKeyRun true) "06" "06_20260424_030630"))
          (waterfallMilestones (leaderKeyRun true) b) := by
  have hrun := leaderKeyRun_one true
  have ht0 : minWhere (fun q => !q.success) ClientEvent.ts
    (runQueries (leaderKeyRun true) "06_20260424_030630") = some 1777000000000000 := by decide
  refine ⟨hrun,⟨"06_20260424_030630","06",1777000000000000,some 1777000013000000⟩,by decide,rfl,?_⟩
  intro h
  have hagree := h.dcs
  rw [hrun.milestones ht0] at hagree
  exact absurd (hagree 1777000008000000 (by decide) 1777000009000000 (by decide)) (by decide)

/-- A failover in which the leader key is never missing. -/
theorem milestones_agree_keptLeaderKey :
    MilestonesAgree
      (extractMilestones (loadObserverEvents (leaderKeyRun false) "06" "06_20260424_030630")
        (loadClientEvents (leaderKeyRun false) "06" "06_20260424_030630"))
      (waterfallMilestones (leaderKeyRun false)
        ⟨"06_20260424_030630","06",1777000000000000,some 1777000013000000⟩) := by
  refine (milestones_agree_iff (leaderKeyRun_one false)).mpr {
    dcs := by decide
    pgPromotion := by unfold LastIsFirst; decide
    patroniPromotion := by unfold LastIsFirst; decide
    routing := by unfold FirstIsFirst; decide
    ready := fun _ _ h => absurd (h _ (by decide : (leaderKeyRun false).observerEvents[2] ∈ _))
      (by decide) } _ ?_ rfl
  decide

end Run

end RoutingBench
