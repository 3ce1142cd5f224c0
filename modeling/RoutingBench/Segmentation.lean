import RoutingBench.Detector
set_option autoImplicit false

/-!
The online detector against the history cut offline: after every third success in a row that
follows a failure.
-/

namespace RoutingBench
open Episodes

/-- A database call of the detector, which can raise; the exception is only logged. -/
def Database.call (db : Database) (c : DbCall) (raises : Bool) : Database :=
  if raises then db else (c.statement.map db.attempt).getD db

/-- A client in auto mode that is fed results, with its database and the calls each result has
made it attempt. -/
structure DetectorRun where
  self : HeartbeatClient
  db : Database
  log : List (QueryResult × List DbCall)

/-- One result, and which of the calls it leads to raise. -/
def DetectorRun.feed (s : DetectorRun) (input : QueryResult × (Nat → Bool)) : DetectorRun :=
  let handled := s.self.handleAutoTestRun input.1
  { self := handled.1
    db := handled.2.zipIdx.foldl (fun db (c,n) => db.call c (input.2 n)) s.db
    log := s.log ++ [(input.1,handled.2)] }

def DetectorRun.start (timescaleConnstring combinationId : String) (db : Database) :
    DetectorRun :=
  ⟨.init timescaleConnstring combinationId "",db,[]⟩

/-- The test runs a log attempts to register, each with the result at which it does. -/
def attemptedRegistrations (log : List (QueryResult × List DbCall)) : List (QueryResult × TestRun) :=
  log.flatMap fun (r,calls) => calls.filterMap fun
    | .register testRun => some (r,testRun)
    | _ => none

/-- The test runs a log closes, each with the result at which it does. -/
def attemptedClosings (log : List (QueryResult × List DbCall)) : List (QueryResult × String) :=
  log.flatMap fun (r,calls) => calls.filterMap fun
    | .summary testRunId => some (r,testRunId)
    | _ => none

/-- The failures of a history, cut offline and in order, each from its first failed query to its
last result. -/
def offlineEpisodes (results : List QueryResult) : List (List QueryResult) :=
  (cutEpisodes QueryResult.success 3 results.reverse).reverse.map List.reverse

/-- The latest result is the third success in a row after a failure. -/
def ThirdSuccess (results : List QueryResult) : Prop :=
  ∃ before f a b c, results = before ++ [f,a,b,c] ∧ f.success = false ∧ a.success = true ∧
    b.success = true ∧ c.success = true

theorem thirdSuccess_iff {results : List QueryResult} :
    endsEpisode QueryResult.success 3 results.reverse = true ↔ ThirdSuccess results := by
  rw [endsEpisode,Bool.and_eq_true,decide_eq_true_eq,decide_eq_true_eq,streak_eq_iff]
  constructor
  · rintro ⟨later,f,earlier,hsplit,hf,hlater,hlength⟩
    obtain ⟨c,b,a,rfl⟩ := List.length_eq_three.mp hlength
    rw [List.reverse_eq_iff] at hsplit
    refine ⟨earlier.reverse,f,a,b,c,by simp [hsplit],hf,?_,?_,?_⟩ <;> exact hlater _ (by simp)
  · rintro ⟨before,f,a,b,c,rfl,hf,ha,hb,hc⟩
    exact ⟨[c,b,a],f,before.reverse,by simp,hf,by simp [ha,hb,hc],rfl⟩

instance : DecidablePred ThirdSuccess := fun _ => decidable_of_iff _ thirdSuccess_iff

/-- The detector agrees with the history cut offline: its flag, its counter, and what it attempts
to register and closes, at which results. -/
structure FollowsCut (combinationId : String) (results : List QueryResult) (s : DetectorRun) :
    Prop where
  inFailover : s.self.inFailover = true ↔ ∃ earlier f later, results = earlier ++ f :: later ∧
    f.success = false ∧ (∀ r ∈ later, r.success = true) ∧ later.length < 3
  failoverCount : s.self.failoverCount = (offlineEpisodes results).length
  registered : attemptedRegistrations s.log = (offlineEpisodes results).filterMap fun e =>
    e.head?.map fun first => (first,registration combinationId first.wallTs)
  closed : attemptedClosings s.log = ((offlineEpisodes results).filter ThirdSuccess).filterMap fun e =>
    e.getLast?.bind fun last => e.head?.map fun first =>
      (last,generateTestRunId combinationId first.wallTs)
  calls : ∀ before r after, results = before ++ r :: after → ∃ calls,
    s.log[before.length]? = some (r,calls) ∧
      ((∃ testRun, .register testRun ∈ calls) ↔
        (offlineEpisodes (before ++ [r])).length = (offlineEpisodes before).length + 1) ∧
      ((∃ testRunId, .summary testRunId ∈ calls) ↔ ThirdSuccess (before ++ [r]))

section Offline

variable {results : List QueryResult} {r : QueryResult}

theorem offlineEpisodes_eq (results : List QueryResult) : offlineEpisodes results =
    (failoverEpisodes results).reverse.map fun e => e.results.reverse := by
  rw [offlineEpisodes,cutEpisodes_eq (by decide),List.reverse_reverse,← List.map_reverse,
    List.map_map]
  rfl

theorem offlineEpisodes_length (results : List QueryResult) :
    (offlineEpisodes results).length = (failoverEpisodes results).length := by
  rw [offlineEpisodes_eq,List.length_map,List.length_reverse]

theorem results_head? (e : FailoverEpisode) : e.results.reverse.head? = some e.onset := by
  simp [Episode.results]

theorem results_getLast? (e : FailoverEpisode) :
    e.results.reverse.getLast? = some (e.results.headD e.onset) := by
  rw [List.getLast?_reverse,List.headD_eq_head?_getD]
  cases h : e.results.head? with
  | none => simp [Episode.results] at h
  | some r => rfl

theorem thirdSuccess_results {e : FailoverEpisode} (he : e ∈ failoverEpisodes results) :
    ThirdSuccess e.results.reverse ↔ e.closed 3 = true := by
  rw [← thirdSuccess_iff,List.reverse_reverse,endsEpisode_results he]

theorem failoverStreak (results : List QueryResult) :
    StreakAgrees 3 results.reverse (failoverEpisodes results) := by
  have h : StreakAgrees 3 results.reverse (failoverEpisodes results.reverse.reverse) :=
    streakAgrees 3 results.reverse
  rwa [List.reverse_reverse] at h

theorem failingLately_iff (results : List QueryResult) :
    inEpisode 3 (failoverEpisodes results) = true ↔
      ∃ earlier f later, results = earlier ++ f :: later ∧ f.success = false ∧
        (∀ r ∈ later, r.success = true) ∧ later.length < 3 := by
  rw [inEpisode_iff (failoverStreak results)]
  constructor
  · intro ⟨hlt,hstreak⟩
    obtain ⟨later,f,earlier,hsplit,hf,hlater,hlength⟩ := streak_eq_iff.mp ⟨rfl,hlt⟩
    rw [List.reverse_eq_iff] at hsplit
    refine ⟨earlier.reverse,f,later.reverse,by simp [hsplit],hf,by simpa using hlater,?_⟩
    rw [List.length_reverse,hlength]
    exact hstreak
  · rintro ⟨earlier,f,later,rfl,hf,hlater,hlength⟩
    have h := streak_eq_iff.mpr ⟨later.reverse,f,earlier.reverse,
      (by simp : (earlier ++ f :: later).reverse = _),hf,by simpa using hlater,rfl⟩
    rw [List.length_reverse] at h
    exact ⟨h.1.symm ▸ h.2,h.1.symm ▸ hlength⟩

end Offline

/-- What a log says of the episodes of the history. -/
structure Recorded (combinationId : String) (es : List FailoverEpisode)
    (log : List (QueryResult × List DbCall)) : Prop where
  registered : attemptedRegistrations log =
    es.reverse.map fun e => (e.onset,registration combinationId e.onset.wallTs)
  closed : attemptedClosings log = (es.reverse.filter (Episode.closed 3)).map fun e =>
    (e.results.headD e.onset,episodeId combinationId e)

section Feed

variable {s : DetectorRun} {es : List FailoverEpisode} {combinationId : String}
  {r : QueryResult} {raises : Nat → Bool}

theorem attemptedRegistrations_snoc (log : List (QueryResult × List DbCall))
    (entry : QueryResult × List DbCall) : attemptedRegistrations (log ++ [entry]) =
      attemptedRegistrations log ++ attemptedRegistrations [entry] := by
  simp [attemptedRegistrations]

theorem attemptedClosings_snoc (log : List (QueryResult × List DbCall))
    (entry : QueryResult × List DbCall) : attemptedClosings (log ++ [entry]) =
      attemptedClosings log ++ attemptedClosings [entry] := by
  simp [attemptedClosings]

theorem recorded_feed (hd : Detects s.self es) (hc : s.self.combinationId = combinationId)
    (h : Recorded combinationId es s.log) :
    Recorded combinationId (add 3 es r) (s.feed (r,raises)).log := by
  subst hc
  constructor
  · rw [DetectorRun.feed,attemptedRegistrations_snoc,h.registered]
    rcases add_cases 3 es r with ⟨hin,hr,hadd⟩ | ⟨hr,hin,hadd⟩ | ⟨e,rest,rfl,hopen,hadd⟩
    · rw [handle_idle hd hin hr,hadd]
      simp [attemptedRegistrations]
    · rw [handle_onset hd hin hr,hadd]
      simp [attemptedRegistrations]
    · rw [hadd]
      cases hclosed : (e.extend r).closed 3 with
      | false =>
        rw [handle_inside hd hopen hclosed]
        simp [attemptedRegistrations]
      | true =>
        rw [handle_recovery hd hopen hclosed]
        simp [attemptedRegistrations]
  · rw [DetectorRun.feed,attemptedClosings_snoc,h.closed]
    rcases add_cases 3 es r with ⟨hin,hr,hadd⟩ | ⟨hr,hin,hadd⟩ | ⟨e,rest,rfl,hopen,hadd⟩
    · rw [handle_idle hd hin hr,hadd]
      simp [attemptedClosings]
    · rw [handle_onset hd hin hr,hadd]
      simp [attemptedClosings,Episode.closed,streak]
    · rw [hadd]
      cases hclosed : (e.extend r).closed 3 with
      | false =>
        rw [handle_inside hd hopen hclosed]
        simp [attemptedClosings,hopen,hclosed]
      | true =>
        rw [handle_recovery hd hopen hclosed]
        simp [attemptedClosings,hopen,hclosed,episodeId]

theorem calls_iff (hd : Detects s.self es) :
    ((∃ testRun, .register testRun ∈ (s.self.handleAutoTestRun r).2) ↔
        (add 3 es r).length = es.length + 1) ∧
      ((∃ testRunId, .summary testRunId ∈ (s.self.handleAutoTestRun r).2) ↔
        ∃ e rest, es = e :: rest ∧ e.closed 3 = false ∧ (e.extend r).closed 3 = true) := by
  have hnone : inEpisode 3 es = false → ¬ ∃ e rest, es = e :: rest ∧ e.closed 3 = false ∧
      (e.extend r).closed 3 = true := by
    rintro hin ⟨e,rest,he,hopen,-⟩
    rw [closed_of_outside hin (by rw [he]; rfl)] at hopen
    contradiction
  rcases add_cases 3 es r with ⟨hin,hr,hadd⟩ | ⟨hr,hin,hadd⟩ | ⟨e,rest,rfl,hopen,hadd⟩
  · rw [handle_idle hd hin hr,hadd]
    exact ⟨by simp,iff_of_false (by simp) (hnone hin)⟩
  · rw [handle_onset hd hin hr,hadd]
    exact ⟨by simp,iff_of_false (by simp) (hnone hin)⟩
  · rw [hadd]
    cases hclosed : (e.extend r).closed 3 with
    | false =>
      rw [handle_inside hd hopen hclosed]
      simp [hclosed]
    | true =>
      rw [handle_recovery hd hopen hclosed]
      simp [hopen,hclosed]

end Feed

section Run

variable (timescaleConnstring combinationId : String) (db : Database)
  (inputs : List (QueryResult × (Nat → Bool)))

def detectorRun : DetectorRun :=
  inputs.foldl DetectorRun.feed (.start timescaleConnstring combinationId db)

theorem detectorRun_snoc (input : QueryResult × (Nat → Bool)) :
    detectorRun timescaleConnstring combinationId db (inputs ++ [input]) =
      (detectorRun timescaleConnstring combinationId db inputs).feed input := by
  rw [detectorRun,List.foldl_append]
  rfl

/-- Whatever calls raise, the detector and its log follow the episodes of the history. -/
theorem detectorRun_follows :
    Detects (detectorRun timescaleConnstring combinationId db inputs).self
        (failoverEpisodes (inputs.map Prod.fst)) ∧
      (detectorRun timescaleConnstring combinationId db inputs).self.combinationId =
        combinationId ∧
      Recorded combinationId (failoverEpisodes (inputs.map Prod.fst))
        (detectorRun timescaleConnstring combinationId db inputs).log ∧
      (detectorRun timescaleConnstring combinationId db inputs).log.map Prod.fst =
        inputs.map Prod.fst := by
  induction inputs using List.reverseRecOn with
  | nil => exact ⟨detects_init _ _,rfl,⟨rfl,rfl⟩,rfl⟩
  | append_singleton inputs input ih =>
    obtain ⟨hd,hc,hr,hlog⟩ := ih
    rw [detectorRun_snoc,List.map_append,List.map_singleton,failoverEpisodes_snoc]
    refine ⟨detects_step hd input.1,?_,recorded_feed hd hc hr,?_⟩
    · exact (handle_frame _ input.1).combinationId.trans hc
    · rw [DetectorRun.feed,List.map_append,hlog]
      rfl

theorem log_prefix (s : DetectorRun) (inputs : List (QueryResult × (Nat → Bool))) :
    s.log <+: (inputs.foldl DetectorRun.feed s).log := by
  induction inputs generalizing s with
  | nil => exact List.prefix_refl _
  | cons input inputs ih => exact (List.prefix_append _ _).trans (ih (s.feed input))

/-- The online detector equals the offline cut of the history. -/
theorem detector_follows_cut :
    FollowsCut combinationId (inputs.map Prod.fst)
      (detectorRun timescaleConnstring combinationId db inputs) := by
  obtain ⟨hd,-,hr,-⟩ := detectorRun_follows timescaleConnstring combinationId db inputs
  constructor
  · rw [hd.inFailover]
    exact failingLately_iff _
  · rw [hd.failoverCount,offlineEpisodes_length]
  · rw [hr.registered,offlineEpisodes_eq,List.filterMap_map]
    simp only [Function.comp_def,results_head?,Option.map_some]
    exact (congrFun (List.filterMap_eq_map ..) _).symm
  · rw [hr.closed,offlineEpisodes_eq,List.filter_map,List.filterMap_map]
    have hfilter : (failoverEpisodes (inputs.map Prod.fst)).reverse.filter
        ((fun e => decide (ThirdSuccess e)) ∘ fun e => e.results.reverse) =
        (failoverEpisodes (inputs.map Prod.fst)).reverse.filter (Episode.closed 3) := by
      refine List.filter_congr fun e he => ?_
      rw [Function.comp_apply,Bool.eq_iff_iff,decide_eq_true_eq]
      exact thirdSuccess_results (List.mem_reverse.mp he)
    rw [hfilter]
    simp only [Function.comp_def,results_getLast?,results_head?,Option.map_some,Option.bind_some]
    exact (congrFun (List.filterMap_eq_map ..) _).symm
  · intro before r after hsplit
    obtain ⟨pre,post,rfl,hpre,hpost⟩ := List.map_eq_append_iff.mp hsplit
    obtain ⟨input,rest,rfl,rfl,-⟩ := List.map_eq_cons_iff.mp hpost
    subst hpre
    obtain ⟨hd,-,-,hlog⟩ := detectorRun_follows timescaleConnstring combinationId db pre
    have hcalls := calls_iff (r := input.1) hd
    refine ⟨((detectorRun timescaleConnstring combinationId db pre).self.handleAutoTestRun
      input.1).2,?_,?_,?_⟩
    · obtain ⟨later,hlater⟩ := log_prefix
        ((detectorRun timescaleConnstring combinationId db pre).feed input) rest
      have hlength : (pre.map Prod.fst).length =
          (detectorRun timescaleConnstring combinationId db pre).log.length := by
        rw [← hlog,List.length_map]
      rw [detectorRun,List.foldl_append,List.foldl_cons,← detectorRun,← hlater,hlength]
      simp [DetectorRun.feed]
    · rw [hcalls.1,offlineEpisodes_length,offlineEpisodes_length,failoverEpisodes_snoc]
    · rw [hcalls.2,← thirdSuccess_iff,List.reverse_append,List.reverse_singleton]
      exact (endsEpisode_iff (by decide) (failoverStreak _) input.1).symm

end Run

end RoutingBench
