import RoutingBench.ComboReport
import RoutingBench.Markup
set_option autoImplicit false

/-!
The tables of a session's report as they are written: the summary of its runs, and of a run the
timeline of its events. What does a reader of the document find in them, whatever texts are in the
database?
-/

namespace RoutingBench
open Aggregate Markup

/-- `<th>...</th>` for each name. -/
def headCells (names : List String) : String :=
  names.foldl (fun text name => text ++ (tag "th" ++ name ++ tag "/th")) ""

section Summary

-- The format `.1f` of a number.
variable (fixed1 : ℚ → String)

def ReportSection.downtime (s : ReportSection) : String := (s.downtimeS.map fixed1).getD "—"

def ReportSection.dtStr (s : ReportSection) : String :=
  if s.downtime fixed1 ∈ ["—",""] then "—" else s.downtime fixed1 ++ "s"

def ReportSection.failedText (s : ReportSection) : String := (s.failedQueries.map toString).getD "—"

def badgeClass (status : String) : String :=
  "badge badge-" ++ String.ofList (status.toList.map Char.toLower)

def badge (status : String) : String :=
  tag ("span class=\"" ++ escape (badgeClass status) ++ "\"") ++ escape status ++ tag "/span"

def summaryRow (s : ReportSection) : String :=
  tag "tr" ++ tag "td" ++ escape (toString s.num) ++ tag "/td" ++
    tag "td" ++ tag "code" ++ escape s.scenario ++ tag "/code" ++ tag "/td" ++
    tag "td" ++ escape s.leader ++ tag "/td" ++ tag "td" ++ escape (s.dtStr fixed1) ++ tag "/td" ++
    tag "td" ++ escape s.failedText ++ tag "/td" ++
    tag "td" ++ badge s.status ++ tag "/td" ++
    tag "td" ++ tag "code style='font-size:11px'" ++ escape s.run.id ++ tag "/code" ++ tag "/td" ++
    tag "/tr" ++ "\n"

def summaryHead : List String :=
  ["#","Scenario","Leader Killed","Downtime","Failed Queries","Status","Run ID"]

def renderSummaryTable (iterations : List ReportSection) : String :=
  let rows := iterations.foldl (fun rows it => rows ++ summaryRow fixed1 it) ""
  tag "h2" ++ "Summary" ++ tag "/h2" ++ tag "table" ++ tag "thead" ++ tag "tr" ++
    headCells summaryHead ++ tag "/tr" ++ tag "/thead" ++ tag "tbody" ++ "\n" ++ rows ++
    tag "/tbody" ++ tag "/table" ++ "\n"

end Summary

def significant : List String :=
  ["role_change","leader_key_deleted","leader_key_created","leader_key_change","timeline_change",
    "backend_state_change","vip_state_change","pg_promote_requested","pg_ready_accept_connections"]

/-- The events of the timeline: the first 120 that are significant, or of all if none is. -/
def timelineEvents (obs : List ObserverFrameRow) : List ObserverFrameRow :=
  let df := ((obs.filter fun r => significant.contains r.eventType).mergeSort
    fun a b => a.ts ≤ b.ts).take 120
  if df.isEmpty then (obs.mergeSort fun a b => a.ts ≤ b.ts).take 120 else df

/-- `t0`; there is an event. -/
def timelineStart (obs : List ObserverFrameRow) (cli : List ClientFrameRow) : Timestamp :=
  ((minWhere (fun r => !r.success) ClientFrameRow.ts cli).or
    (minWhere (fun _ => true) ObserverFrameRow.ts obs)).getD 0

/-- What a row shows of the values of an event. -/
def ObserverFrameRow.change (r : ObserverFrameRow) : String :=
  let oldV := r.oldValue.getD ""
  if oldV = "" then r.newValue else oldV ++ " → " ++ r.newValue

section Timeline

-- The formats `.3f` of a duration and `%H:%M:%S.%f` of a time without its last three digits.
variable (fixed3 : Int → String) (clock : Timestamp → String)

def elapsedText (t0 ts : Timestamp) : String :=
  (if t0 ≤ ts then "+" else "") ++ fixed3 (ts - t0) ++ "s"

def arrow (r : ObserverFrameRow) : String :=
  let oldV := escape (r.oldValue.getD "")
  let newV := escape r.newValue
  if oldV ≠ "" then oldV ++ " → " ++ newV else newV

def timelineRow (t0 : Timestamp) (r : ObserverFrameRow) : String :=
  tag "tr" ++ tag "td" ++ tag "code" ++ escape (elapsedText fixed3 t0 r.ts) ++ tag "/code" ++
    tag "/td" ++
    tag "td" ++ escape (clock r.ts) ++ tag "/td" ++
    tag "td" ++ escape r.component ++ tag "/td" ++ tag "td" ++ escape r.node ++ tag "/td" ++
    tag "td" ++ tag "code" ++ escape r.eventType ++ tag "/code" ++ tag "/td" ++
    tag "td" ++ arrow r ++ tag "/td" ++ tag "/tr" ++ "\n"

def timelineHead : List String := ["Elapsed","Time (UTC)","Component","Node","Event","Value"]

/-- `cap` -/
def timelineCaption (obs : List ObserverFrameRow) : String :=
  let df := timelineEvents obs
  if df.length < obs.length then " " ++ tag "small style='color:#95a5a6'" ++
    ("(showing " ++ toString df.length ++ " of " ++ toString obs.length ++ ")") ++ tag "/small"
  else ""

def renderEventTimeline (obs : List ObserverFrameRow) (cli : List ClientFrameRow) : String :=
  if obs.isEmpty then tag "p" ++ "No observer events for this run." ++ tag "/p"
  else
    let t0 := timelineStart obs cli
    let rows := (timelineEvents obs).foldl (fun rows r => rows ++ timelineRow fixed3 clock t0 r) ""
    tag "h3" ++ "Event Timeline" ++ timelineCaption obs ++ tag "/h3" ++ tag "table" ++ tag "thead" ++
      tag "tr" ++ headCells timelineHead ++ tag "/tr" ++ tag "/thead" ++ tag "tbody" ++ "\n" ++
      rows ++ tag "/tbody" ++ tag "/table" ++ "\n"

end Timeline

section Pieces

variable {fixed1 : ℚ → String} {fixed3 : Int → String} {clock : Timestamp → String}

def headPieces (names : List String) : List (String × String) :=
  ("tr","") :: ((names.map fun name => [("th",name),("/th","")]).flatten ++ [("/tr","")])

theorem write_headPieces (names : List String) :
    write (headPieces names) = tag "tr" ++ headCells names ++ tag "/tr" := by
  have hcell : headCells names = write (names.map fun name => [("th",name),("/th","")]).flatten := by
    have hfold := foldl_write (fun name : String => [("th",name),("/th","")]) names ""
    simp only [write,String.empty_append,String.append_empty] at hfold
    rw [← List.flatMap_def,← hfold]
    simp only [headCells,String.append_assoc]
  rw [headPieces,write,write_append,← hcell]
  simp only [write,String.append_empty,String.append_assoc]

def summaryPieces (fixed1 : ℚ → String) (s : ReportSection) : List (String × String) :=
  ("tr","") :: ([[("td",escape (toString s.num)),("/td","")],
    [("td",""),("code",escape s.scenario),("/code",""),("/td","")],
    [("td",escape s.leader),("/td","")],
    [("td",escape (s.dtStr fixed1)),("/td","")],
    [("td",escape s.failedText),("/td","")],
    [("td",""),("span class=\"" ++ escape (badgeClass s.status) ++ "\"",escape s.status),
      ("/span",""),("/td","")],
    [("td",""),("code style='font-size:11px'",escape s.run.id),("/code",""),("/td","")]].flatten ++
    [("/tr","\n")])

theorem write_summaryPieces (s : ReportSection) :
    write (summaryPieces fixed1 s) = summaryRow fixed1 s := by
  unfold summaryPieces summaryRow badge
  simp only [List.flatten_cons,List.flatten_nil,List.cons_append,List.nil_append,write,
    String.append_empty,String.append_assoc]

def timelinePieces (fixed3 : Int → String) (clock : Timestamp → String) (t0 : Timestamp)
    (r : ObserverFrameRow) : List (String × String) :=
  ("tr","") :: ([[("td",""),("code",escape (elapsedText fixed3 t0 r.ts)),("/code",""),("/td","")],
    [("td",escape (clock r.ts)),("/td","")],
    [("td",escape r.component),("/td","")],
    [("td",escape r.node),("/td","")],
    [("td",""),("code",escape r.eventType),("/code",""),("/td","")],
    [("td",arrow r),("/td","")]].flatten ++ [("/tr","\n")])

theorem write_timelinePieces (t0 : Timestamp) (r : ObserverFrameRow) :
    write (timelinePieces fixed3 clock t0 r) = timelineRow fixed3 clock t0 r := by
  unfold timelinePieces timelineRow
  simp only [List.flatten_cons,List.flatten_nil,List.cons_append,List.nil_append,write,
    String.append_empty,String.append_assoc]

theorem escape_eq_empty {text : String} : escape text = "" ↔ text = "" := by
  constructor
  · intro h
    have hread := congrArg unescape h
    rwa [unescape_escape] at hread
  · rintro rfl
    decide

theorem arrow_eq (r : ObserverFrameRow) : arrow r = escape r.change := by
  have harrow : escape " → " = " → " := by decide +kernel
  rw [arrow,ObserverFrameRow.change]
  by_cases h : r.oldValue.getD "" = ""
  · simp [h,escape_eq_empty]
  · simp [h,escape_eq_empty,escape_append,harrow]

theorem clean_badge (status : String) : Clean ("span class=\"" ++ escape (badgeClass status) ++ "\"",
    escape status) := by
  have hmem : ∀ c ∈ ['<','>'], c ∉ ("span class=\"" ++ escape (badgeClass status) ++ "\"").toList := by
    intro c hc
    have hescape := not_mem_escape (List.mem_append_left ['"','\''] hc) (badgeClass status)
    have hfront : c ∉ "span class=\"".toList := by
      simp only [List.mem_cons,List.not_mem_nil,or_false] at hc
      rcases hc with rfl | rfl <;> decide
    have hback : c ∉ "\"".toList := by
      simp only [List.mem_cons,List.not_mem_nil,or_false] at hc
      rcases hc with rfl | rfl <;> decide
    rw [String.toList_append,String.toList_append,List.mem_append,List.mem_append]
    exact fun h => h.elim (fun h => h.elim hfront hescape) hback
  exact ⟨⟨hmem '<' (by decide),hmem '>' (by decide)⟩,not_mem_escape (by decide) status⟩

theorem clean_summaryPieces (s : ReportSection) : ∀ p ∈ summaryPieces fixed1 s, Clean p := by
  unfold summaryPieces
  simp only [List.flatten_cons,List.flatten_nil,List.cons_append,List.nil_append,
    List.forall_mem_cons]
  and_intros
  all_goals first | decide | exact clean_badge _ | exact clean_escape (by decide) _

theorem clean_timelinePieces (t0 : Timestamp) (r : ObserverFrameRow) :
    ∀ p ∈ timelinePieces fixed3 clock t0 r, Clean p := by
  unfold timelinePieces
  rw [arrow_eq]
  simp only [List.flatten_cons,List.flatten_nil,List.cons_append,List.nil_append,
    List.forall_mem_cons]
  and_intros
  all_goals first | decide | exact clean_escape (by decide) _

theorem isRow_head {names : List String} (h : ∀ name ∈ names, unescape name = name) :
    IsRow (headPieces names) names := by
  refine isRow_cells ?_ ""
  rw [List.forall₂_map_left_iff,List.forall₂_same]
  exact fun name hname => isCell_text (by decide) (by decide) name (h name hname)

theorem clean_head {names : List String} (h : ∀ name ∈ names, Clean ("th",name)) :
    ∀ p ∈ headPieces names, Clean p := by
  have hcells : ∀ p ∈ (names.map fun name => [("th",name),("/th","")]).flatten, Clean p := by
    simp only [List.mem_flatten,List.mem_map]
    rintro p ⟨_,⟨name,hname,rfl⟩,hp⟩
    simp only [List.mem_cons,List.not_mem_nil,or_false] at hp
    rcases hp with rfl | rfl
    · exact h name hname
    · decide
  intro p hp
  rcases List.mem_cons.mp hp with rfl | hp
  · decide
  · rcases List.mem_append.mp hp with hp | hp
    · exact hcells p hp
    · obtain rfl := List.mem_singleton.mp hp
      decide

/-- What a reader finds of a run in the summary. -/
def summaryCells (fixed1 : ℚ → String) (s : ReportSection) : List String :=
  [toString s.num,s.scenario,s.leader,s.dtStr fixed1,s.failedText,s.status,s.run.id]

theorem elementName_badge (status : String) :
    elementName ("span class=\"" ++ escape (badgeClass status) ++ "\"") = "span" := by
  have hchars : ("span class=\"" ++ escape (badgeClass status) ++ "\"").toList =
      "span".toList ++ ' ' :: ("class=\"".toList ++ ((escape (badgeClass status)).toList ++
        "\"".toList)) := by
    rw [String.toList_append,String.toList_append,List.append_assoc]
    rfl
  rw [elementName,hchars]
  rfl

theorem isRow_summary (s : ReportSection) : IsRow (summaryPieces fixed1 s) (summaryCells fixed1 s) :=
  isRow_cells
    (.cons (isCell_text (by decide) (by decide) _ (unescape_escape _)) <|
      .cons (isCell_inner (by decide) (by decide) _ (unescape_escape _)) <|
      .cons (isCell_text (by decide) (by decide) _ (unescape_escape _)) <|
      .cons (isCell_text (by decide) (by decide) _ (unescape_escape _)) <|
      .cons (isCell_text (by decide) (by decide) _ (unescape_escape _)) <|
      .cons (isCell_inner (by rw [elementName_badge]; decide) (by decide) _ (unescape_escape _)) <|
      .cons (isCell_inner (by decide) (by decide) _ (unescape_escape _)) .nil) "\n"

def timelineCells (fixed3 : Int → String) (clock : Timestamp → String) (t0 : Timestamp)
    (r : ObserverFrameRow) : List String :=
  [elapsedText fixed3 t0 r.ts,clock r.ts,r.component,r.node,r.eventType,r.change]

theorem unescape_arrow (r : ObserverFrameRow) : unescape (arrow r) = r.change := by
  rw [arrow_eq,unescape_escape]

theorem isRow_timeline (t0 : Timestamp) (r : ObserverFrameRow) :
    IsRow (timelinePieces fixed3 clock t0 r) (timelineCells fixed3 clock t0 r) :=
  isRow_cells
    (.cons (isCell_inner (by decide) (by decide) _ (unescape_escape _)) <|
      .cons (isCell_text (by decide) (by decide) _ (unescape_escape _)) <|
      .cons (isCell_text (by decide) (by decide) _ (unescape_escape _)) <|
      .cons (isCell_text (by decide) (by decide) _ (unescape_escape _)) <|
      .cons (isCell_inner (by decide) (by decide) _ (unescape_escape _)) <|
      .cons (isCell_text (by decide) (by decide) _ (unescape_arrow r)) .nil) "\n"

end Pieces

section Read

variable {fixed1 : ℚ → String} {fixed3 : Int → String} {clock : Timestamp → String}
  {obs : List ObserverFrameRow} {cli : List ClientFrameRow}

def tableClose : List (String × String) := [("/tbody",""),("/table","\n")]

def bodyOpen : List (String × String) := [("/thead",""),("tbody","\n")]

def summaryFront : List (String × String) := [("h2","Summary"),("/h2",""),("table",""),("thead","")]

theorem renderSummaryTable_eq (iterations : List ReportSection) :
    renderSummaryTable fixed1 iterations = write (summaryFront ++ headPieces summaryHead ++
      bodyOpen ++ iterations.flatMap (summaryPieces fixed1) ++ tableClose) := by
  have hrows := foldl_write (summaryPieces fixed1) iterations ""
  simp only [write_summaryPieces,String.empty_append] at hrows
  unfold renderSummaryTable
  simp only [write_append,write_headPieces,hrows]
  unfold summaryFront bodyOpen tableClose
  simp only [write,String.append_empty,String.append_assoc]

/-- The summary is read as it was: a row for every run. -/
theorem readRows_summaryTable (fixed1 : ℚ → String) (iterations : List ReportSection) :
    readRows (renderSummaryTable fixed1 iterations) =
      summaryHead :: iterations.map (summaryCells fixed1) := by
  have hhead : ∀ p ∈ headPieces summaryHead, Clean p := clean_head (by decide)
  rw [renderSummaryTable_eq]
  refine readRows_table ?_ (isFrame_of_names (by decide)) (isRow_head (by decide))
    (isFrame_of_names (by decide)) (fun s _ => isRow_summary s) (isFrame_of_names (by decide))
  simp only [List.mem_append]
  rintro p ((((hp | hp) | hp) | hp) | hp)
  · exact (by decide : ∀ p ∈ summaryFront, Clean p) p hp
  · exact hhead p hp
  · exact (by decide : ∀ p ∈ bodyOpen, Clean p) p hp
  · obtain ⟨s,-,hp⟩ := List.mem_flatMap.mp hp
    exact clean_summaryPieces s p hp
  · exact (by decide : ∀ p ∈ tableClose, Clean p) p hp

/-- The pieces of the caption with what stands before and after it. -/
def timelineFront (obs : List ObserverFrameRow) : List (String × String) :=
  (if (timelineEvents obs).length < obs.length then
    [("h3","Event Timeline "),("small style='color:#95a5a6'","(showing " ++
      toString (timelineEvents obs).length ++ " of " ++ toString obs.length ++ ")"),("/small","")]
  else [("h3","Event Timeline")]) ++ [("/h3",""),("table",""),("thead","")]

theorem renderEventTimeline_eq (hne : obs ≠ []) :
    renderEventTimeline fixed3 clock obs cli = write (timelineFront obs ++ headPieces timelineHead ++
      bodyOpen ++ (timelineEvents obs).flatMap
        (timelinePieces fixed3 clock (timelineStart obs cli)) ++ tableClose) := by
  have hrows := foldl_write (timelinePieces fixed3 clock (timelineStart obs cli))
    (timelineEvents obs) ""
  simp only [write_timelinePieces,String.empty_append] at hrows
  have hempty : obs.isEmpty = false := by simpa using hne
  have htitle : "Event Timeline " = "Event Timeline" ++ " " := by decide
  unfold renderEventTimeline
  rw [if_neg (by rw [hempty]; exact Bool.false_ne_true)]
  simp only [write_append,write_headPieces,hrows]
  unfold timelineFront timelineCaption bodyOpen tableClose
  by_cases h : (timelineEvents obs).length < obs.length
  · simp only [if_pos h,write_append,write,String.append_empty,String.append_assoc,htitle]
  · simp only [if_neg h,write_append,write,String.append_empty,String.append_assoc]

theorem not_mem_toString {c : Char} (hc : c ∈ ['<','>']) (n : Nat) : c ∉ (toString n).toList := by
  intro h
  have hdigit : c.isDigit = true := Nat.isDigit_of_mem_toDigits (by decide) (by decide) (b := 10)
    (n := n) (by simpa [Nat.toDigits] using h)
  simp only [List.mem_cons,List.not_mem_nil,or_false] at hc
  rcases hc with rfl | rfl <;> contradiction

def showing (obs : List ObserverFrameRow) : String :=
  "(showing " ++ toString (timelineEvents obs).length ++ " of " ++ toString obs.length ++ ")"

theorem clean_showing (obs : List ObserverFrameRow) :
    Clean ("small style='color:#95a5a6'",showing obs) := by
  have hname : '<' ∉ "small style='color:#95a5a6'".toList ∧
      '>' ∉ "small style='color:#95a5a6'".toList := by decide
  refine ⟨hname,?_⟩
  have hfixed : ∀ text ∈ ["(showing "," of ",")"], '<' ∉ text.toList := by decide
  simp only [List.forall_mem_cons] at hfixed
  obtain ⟨hfront,hof,hback,-⟩ := hfixed
  unfold showing
  simp only [String.toList_append,List.mem_append,not_or]
  exact ⟨⟨⟨⟨hfront,not_mem_toString (by decide) _⟩,hof⟩,not_mem_toString (by decide) _⟩,hback⟩

theorem clean_timelineFront (obs : List ObserverFrameRow) : ∀ p ∈ timelineFront obs, Clean p := by
  have hcaption := clean_showing obs
  unfold showing at hcaption
  unfold timelineFront
  intro p hp
  rcases List.mem_append.mp hp with hp | hp
  · split at hp
    · simp only [List.mem_cons,List.not_mem_nil,or_false] at hp
      rcases hp with rfl | rfl | rfl
      · decide
      · exact hcaption
      · decide
    · obtain rfl := List.mem_singleton.mp hp
      decide
  · exact (by decide : ∀ p ∈ [("/h3",""),("table",""),("thead","")], Clean p) p hp

theorem isFrame_timelineFront (obs : List ObserverFrameRow) : IsFrame (timelineFront obs) := by
  have hsmall : elementName "small style='color:#95a5a6'" ∉ ["td","th","/td","/th","tr","/tr"] := by
    decide
  refine isFrame_of_names ?_
  unfold timelineFront
  intro p hp
  rcases List.mem_append.mp hp with hp | hp
  · split at hp
    · simp only [List.mem_cons,List.not_mem_nil,or_false] at hp
      rcases hp with rfl | rfl | rfl
      · decide
      · exact hsmall
      · decide
    · obtain rfl := List.mem_singleton.mp hp
      decide
  · exact (by decide : ∀ p ∈ [("/h3",""),("table",""),("thead","")],
      elementName p.1 ∉ ["td","th","/td","/th","tr","/tr"]) p hp

/-- The events that the timeline is made of: the significant ones, or all if none is. -/
def candidates (obs : List ObserverFrameRow) : List ObserverFrameRow :=
  if obs.any fun r => significant.contains r.eventType then
    obs.filter fun r => significant.contains r.eventType
  else obs

/-- The first 120 of the candidates are shown, or all of them. -/
structure ShowsFirst (obs shown : List ObserverFrameRow) : Prop where
  ordered : shown.Pairwise fun a b => a.ts ≤ b.ts
  cut : ∃ rest, (shown ++ rest).Perm (candidates obs) ∧ (rest ≠ [] → shown.length = 120) ∧
    ∀ r ∈ shown, ∀ r' ∈ rest, r.ts ≤ r'.ts

theorem timelineEvents_eq (obs : List ObserverFrameRow) :
    timelineEvents obs = ((candidates obs).mergeSort fun a b => a.ts ≤ b.ts).take 120 := by
  simp only [timelineEvents,candidates]
  by_cases h : (obs.any fun r => significant.contains r.eventType) = true
  · rw [if_pos h,if_neg]
    obtain ⟨r,hr,hs⟩ := List.any_eq_true.mp h
    have hmem : r ∈ (obs.filter fun r => significant.contains r.eventType).mergeSort
        fun a b => a.ts ≤ b.ts := List.mem_mergeSort.mpr (List.mem_filter.mpr ⟨hr,hs⟩)
    simpa using List.ne_nil_of_mem hmem
  · have hnil : obs.filter (fun r => significant.contains r.eventType) = [] := by
      refine List.filter_eq_nil_iff.mpr fun r hr hs => h (List.any_eq_true.mpr ⟨r,hr,hs⟩)
    rw [if_neg h,hnil,if_pos (by simp)]

theorem showsFirst_timelineEvents (obs : List ObserverFrameRow) :
    ShowsFirst obs (timelineEvents obs) := by
  rw [timelineEvents_eq]
  have hsorted := pairwise_orderBy ObserverFrameRow.ts (candidates obs)
  have hperm := List.mergeSort_perm (candidates obs) fun a b => decide (a.ts ≤ b.ts)
  generalize ((candidates obs).mergeSort fun a b => decide (a.ts ≤ b.ts)) = sorted at hsorted hperm
  refine ⟨hsorted.sublist (List.take_sublist 120 sorted),sorted.drop 120,?_,fun hrest => ?_,?_⟩
  · rwa [List.take_append_drop]
  · have hlong : 120 < sorted.length := by simpa using hrest
    rw [List.length_take]
    omega
  · have hcut : (sorted.take 120 ++ sorted.drop 120).Pairwise fun a b => a.ts ≤ b.ts := by
      rwa [List.take_append_drop]
    exact (List.pairwise_append.mp hcut).2.2

def smallTag : String := "small style='color:#95a5a6'"

theorem not_small_timelinePieces (t0 : Timestamp) (r : ObserverFrameRow) :
    ∀ p ∈ timelinePieces fixed3 clock t0 r, p.1 ≠ smallTag := by
  unfold timelinePieces
  simp only [List.flatten_cons,List.flatten_nil,List.cons_append,List.nil_append,
    List.forall_mem_cons]
  and_intros
  all_goals decide

theorem not_small_headPieces {names : List String} : ∀ p ∈ headPieces names, p.1 ≠ smallTag := by
  have hcells : ∀ p ∈ (names.map fun name => [("th",name),("/th","")]).flatten,
      p.1 ≠ smallTag := by
    simp only [List.mem_flatten,List.mem_map]
    rintro p ⟨_,⟨name,-,rfl⟩,hp⟩
    simp only [List.mem_cons,List.not_mem_nil,or_false] at hp
    rcases hp with rfl | rfl
    · exact (by decide : "th" ≠ smallTag)
    · exact (by decide : "/th" ≠ smallTag)
  intro p hp
  rcases List.mem_cons.mp hp with rfl | hp
  · decide
  · rcases List.mem_append.mp hp with hp | hp
    · exact hcells p hp
    · obtain rfl := List.mem_singleton.mp hp
      decide

theorem small_mem_timelineFront (obs : List ObserverFrameRow) :
    (smallTag,showing obs) ∈ timelineFront obs ↔ (timelineEvents obs).length < obs.length := by
  have hrest : (smallTag,showing obs) ∉ [("/h3",""),("table",""),("thead","")] := by
    intro h
    have hnames : smallTag ∈ ["/h3","table","thead"] := List.mem_map_of_mem (f := Prod.fst) h
    exact absurd hnames (by decide)
  rw [timelineFront,List.mem_append,or_iff_left hrest]
  by_cases h : (timelineEvents obs).length < obs.length
  · rw [if_pos h]
    exact iff_of_true (List.mem_cons_of_mem _ List.mem_cons_self) h
  · rw [if_neg h]
    refine iff_of_false (fun hmem => ?_) h
    have hname : smallTag = "h3" := congrArg Prod.fst (List.mem_singleton.mp hmem)
    exact absurd hname (by decide)

theorem clean_eventTimeline (t0 : Timestamp) : ∀ p ∈ timelineFront obs ++ headPieces timelineHead ++
    bodyOpen ++ (timelineEvents obs).flatMap (timelinePieces fixed3 clock t0) ++ tableClose,
    Clean p := by
  have hhead : ∀ p ∈ headPieces timelineHead, Clean p := clean_head (by decide)
  simp only [List.mem_append]
  rintro p ((((hp | hp) | hp) | hp) | hp)
  · exact clean_timelineFront obs p hp
  · exact hhead p hp
  · exact (by decide : ∀ p ∈ bodyOpen, Clean p) p hp
  · obtain ⟨r,-,hp⟩ := List.mem_flatMap.mp hp
    exact clean_timelinePieces t0 r p hp
  · exact (by decide : ∀ p ∈ tableClose, Clean p) p hp

theorem readRows_eventTimeline (hne : obs ≠ []) :
    readRows (renderEventTimeline fixed3 clock obs cli) =
      timelineHead :: (timelineEvents obs).map
        (timelineCells fixed3 clock (timelineStart obs cli)) := by
  rw [renderEventTimeline_eq hne]
  exact readRows_table (clean_eventTimeline _) (isFrame_timelineFront obs) (isRow_head (by decide))
    (isFrame_of_names (by decide)) (fun r _ => isRow_timeline _ r) (isFrame_of_names (by decide))

theorem small_mem_pieces (hne : obs ≠ []) :
    (smallTag,showing obs) ∈ pieces (renderEventTimeline fixed3 clock obs cli) ↔
      (timelineEvents obs).length < obs.length := by
  rw [renderEventTimeline_eq hne,pieces_write (clean_eventTimeline _),
    ← small_mem_timelineFront]
  simp only [List.mem_append,List.mem_flatMap]
  constructor
  · rintro ((((h | h) | h) | ⟨r,-,h⟩) | h)
    · exact h
    · exact absurd rfl (not_small_headPieces _ h)
    · exact absurd rfl ((by decide : ∀ p ∈ bodyOpen, p.1 ≠ smallTag) _ h)
    · exact absurd rfl (not_small_timelinePieces _ r _ h)
    · exact absurd rfl ((by decide : ∀ p ∈ tableClose, p.1 ≠ smallTag) _ h)
  · exact fun h => .inl (.inl (.inl (.inl h)))

def noEvents : List (String × String) := [("p","No observer events for this run."),("/p","")]

theorem renderEventTimeline_nil : renderEventTimeline fixed3 clock [] cli = write noEvents := by
  unfold renderEventTimeline noEvents
  rw [if_pos (by decide)]
  simp only [write,String.append_empty,String.append_assoc]

/-- The timeline of a run is read as it was written, whatever is in its texts: a row for each of
the first 120 events that are candidates, and no other; a caption says so if any event is missing. -/
theorem eventTimeline_reads (fixed3 : Int → String) (clock : Timestamp → String)
    (obs : List ObserverFrameRow) (cli : List ClientFrameRow) :
    readRows (renderEventTimeline fixed3 clock obs cli) = (if obs = [] then [] else
      timelineHead :: (timelineEvents obs).map
        (timelineCells fixed3 clock (timelineStart obs cli))) ∧
    ShowsFirst obs (timelineEvents obs) ∧
    ((smallTag,showing obs) ∈ pieces (renderEventTimeline fixed3 clock obs cli) ↔
      (timelineEvents obs).length < obs.length) := by
  by_cases hnil : obs = []
  · subst hnil
    have hpieces : pieces (write noEvents) = noEvents := pieces_write (by decide)
    refine ⟨?_,showsFirst_timelineEvents [],?_⟩
    · rw [renderEventTimeline_nil,readRows,hpieces,isFrame_of_names (by decide) [],if_pos rfl]
    · rw [renderEventTimeline_nil,hpieces]
      refine iff_of_false (fun h => ?_) (Nat.not_lt_zero _)
      exact absurd rfl ((by decide : ∀ p ∈ noEvents, p.1 ≠ smallTag) _ h)
  · rw [if_neg hnil]
    exact ⟨readRows_eventTimeline hnil,showsFirst_timelineEvents obs,small_mem_pieces hnil⟩

end Read

end RoutingBench
