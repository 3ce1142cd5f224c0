import RoutingBench.GanttLanes
import RoutingBench.RunLength
set_option autoImplicit false

/-!
The lane of the client. The queries are taken in the order of their times, and those in a row that
have the same outcome are one bar.
-/

namespace RoutingBench
open RunLength

/-- The list `runs` of build_gantt_chart, of the sorted frame. -/
def clientLaneRuns (cliS : List ClientFrameRow) : List (Run Bool Timestamp) :=
  encode ClientFrameRow.success ClientFrameRow.ts cliS

theorem foldl_clientRuns (rows : List ClientFrameRow) (runs : List (Run Bool Timestamp))
    (success : Bool) (start last : Timestamp) :
    runs.map (fun run => (run.start,run.stop)) ++ clientRuns success start last rows =
      (let s := rows.foldl (step ClientFrameRow.success ClientFrameRow.ts) (runs,success,start)
      (s.1.map fun run => (run.start,run.stop)) ++
        [(s.2.2,(rows.getLast?.map ClientFrameRow.ts).getD last)]) := by
  induction rows generalizing runs success start last with
  | nil => rfl
  | cons row rows ih =>
    have hlast : ((row :: rows).getLast?.map ClientFrameRow.ts).getD last =
        (rows.getLast?.map ClientFrameRow.ts).getD row.ts := by
      cases hrows : rows.getLast? <;> simp [List.getLast?_cons,hrows]
    rw [List.foldl_cons,hlast]
    by_cases h : row.success = success
    · rw [clientRuns,if_pos h,ih]
      simp [step,h]
    · have hruns := ih (runs ++ [⟨start,row.ts,success⟩]) row.success row.ts row.ts
      rw [List.map_append,List.append_assoc] at hruns
      rw [clientRuns,if_neg h]
      simpa [step,h] using hruns

theorem clientLaneRuns_cons (first : ClientFrameRow) (rest : List ClientFrameRow) :
    (clientLaneRuns (first :: rest)).map (fun run => (run.start,run.stop)) =
      clientRuns first.success first.ts first.ts rest := by
  have hruns := foldl_clientRuns rest [] first.success first.ts first.ts
  rw [List.map_nil,List.nil_append] at hruns
  have hlast : ((first :: rest).getLast (List.cons_ne_nil _ _)).ts =
      (rest.getLast?.map ClientFrameRow.ts).getD first.ts := by
    rw [List.getLast_eq_getLastD,List.getLastD_eq_getLast?]
    cases rest.getLast? <;> rfl
  rw [hruns,clientLaneRuns,encode,List.map_append,← hlast]
  simp [step]

theorem clientBars_eq (wStart : Timestamp) (cli : List ClientFrameRow) :
    clientBars wStart cli = (clientLaneRuns (cli.mergeSort fun a b => a.ts ≤ b.ts)).map fun run =>
      { lane := "Client", base := seconds wStart run.start, width := barWidth run.start run.stop
        event := none } := by
  unfold clientBars
  cases cli.mergeSort fun a b => a.ts ≤ b.ts with
  | nil => rfl
  | cons first rest =>
    simp only [← clientLaneRuns_cons,List.map_map]
    rfl

/-- Whichever of the queries with the same time comes first. -/
theorem client_lane_exact {cli cliS : List ClientFrameRow} (h : cli ≠ []) (hperm : cliS.Perm cli)
    (hsorted : cliS.Pairwise fun a b => a.ts ≤ b.ts) :
    Exact ClientFrameRow.success ClientFrameRow.ts cliS (clientLaneRuns cliS) :=
  encode_exact (fun hnil => h (hnil ▸ hperm).nil_eq.symm) hsorted

def tiedQueries : List ClientFrameRow :=
  [⟨0,true,900,""⟩,⟨5,false,900,"timeout"⟩,⟨5,true,900,""⟩,⟨9,true,900,""⟩]

/-- A failure at the time of a success has a run of its own, of no length if the success is the
later one. -/
theorem client_lane_exact_tied : clientLaneRuns tiedQueries = [⟨0,5,true⟩,⟨5,5,false⟩,⟨5,9,true⟩] ∧
    Exact ClientFrameRow.success ClientFrameRow.ts tiedQueries (clientLaneRuns tiedQueries) :=
  ⟨by decide,client_lane_exact (show tiedQueries.reverse ≠ [] by decide)
    (List.reverse_perm _).symm (by decide)⟩

end RoutingBench
