import RoutingBench.Watcher
import Mathlib.Data.List.Nodup
set_option autoImplicit false

/-!
The HAProxy watcher: the status of every backend server in a table of statistics. Does its log
say of every server in the latest table what its status is?
-/

namespace RoutingBench
open ChangeLog

/-- The columns of a row that the watcher reads; a column that the header does not have is missing.
Rows with fewer fields than the header, whose last values are None, are left out. -/
structure HaproxyRow where
  pxname : Option String
  svname : Option String
  status : Option String
  checkStatus : Option String
  checkDuration : Option String
  lastChk : Option String
  deriving DecidableEq, Repr

def HaproxyRow.key (row : HaproxyRow) : String × String :=
  (row.pxname.getD "",row.svname.getD "")

def HaproxyRow.currentStatus (row : HaproxyRow) : String := row.status.getD ""

/-- Frontends, totals and rows without a server are skipped. -/
def HaproxyRow.isServer (row : HaproxyRow) : Bool :=
  !(["FRONTEND","BACKEND",""].contains (row.svname.getD ""))

/-- A table of statistics, in which a server is listed once. -/
structure StatsTable where
  rows : List HaproxyRow
  distinct : ((rows.filter HaproxyRow.isServer).map HaproxyRow.key).Nodup

def StatsTable.servers (table : StatsTable) : List HaproxyRow :=
  table.rows.filter HaproxyRow.isServer

inductive HaproxyResponse where
  | requestException (text : String)
  | stats (table : StatsTable)

/-- A change as it is emitted: the backend and the server are in the detail. -/
structure BackendStateChange where
  oldValue : String
  newValue : String
  backend : String
  server : String
  checkStatus : String
  checkDuration : String
  lastChk : String
  deriving DecidableEq, Repr

def BackendStateChange.emission (c : BackendStateChange) : Emission where
  eventType := "backend_state_change"
  oldValue := c.oldValue
  newValue := c.newValue
  detail := jsonDumps [("backend",jsonString c.backend),("server",jsonString c.server),
    ("check_status",jsonString c.checkStatus),("check_duration",jsonString c.checkDuration),
    ("last_chk",jsonString c.lastChk)]

def BackendStateChange.key (c : BackendStateChange) : String × String := (c.backend,c.server)

/-- `_server_states` maps (backend, server) to the status. -/
structure HaproxyWatcher where
  serverStates : String × String → Option String := fun _ => none

/-- What a row of a table makes the watcher emit. -/
def HaproxyWatcher.rowChange (self : HaproxyWatcher) (emitInitial : Bool) (row : HaproxyRow) :
    List BackendStateChange :=
  let prevStatus := self.serverStates row.key
  if some row.currentStatus ≠ prevStatus ∧ (prevStatus ≠ none ∨ emitInitial = true) then
    [{ oldValue := valueOr prevStatus "none"
       newValue := row.currentStatus
       backend := row.pxname.getD ""
       server := row.svname.getD ""
       checkStatus := row.checkStatus.getD ""
       checkDuration := row.checkDuration.getD ""
       lastChk := row.lastChk.getD "" }]
  else []

/-- `_poll_stats`; the states that are remembered are those of the table, and no others. -/
def HaproxyWatcher.pollStats (self : HaproxyWatcher) (emitInitial : Bool) :
    HaproxyResponse → HaproxyWatcher × List BackendStateChange
  | .requestException _ => (self,[])
  | .stats table =>
    (⟨table.servers.foldl
        (fun (states : String × String → Option String) row =>
          Function.update states row.key (some row.currentStatus))
        fun _ => none⟩,
      table.servers.flatMap (self.rowChange emitInitial))

def haproxyWatch (polls : List HaproxyResponse) : HaproxyWatcher × List BackendStateChange :=
  observe HaproxyWatcher.pollStats {} polls

def StatsTable.status (table : StatsTable) (key : String × String) : Option String :=
  (table.servers.find? fun row => row.key = key).map HaproxyRow.currentStatus

def HaproxyResponse.status (key : String × String) : HaproxyResponse → Option String
  | .requestException _ => none
  | .stats table => table.status key

def HaproxyResponse.answer : HaproxyResponse → Option StatsTable
  | .requestException _ => none
  | .stats table => some table

def latestTable (polls : List HaproxyResponse) : Option StatsTable :=
  (polls.filterMap HaproxyResponse.answer).getLast?

def lastListed (polls : List HaproxyResponse) (key : String × String) : Option String :=
  (polls.filterMap (HaproxyResponse.status key)).getLast?

def loggedStatus (log : List BackendStateChange) (key : String × String) : Option String :=
  ((log.filter fun c => c.key = key).getLast?).map BackendStateChange.newValue

def ReplaysTable (polls : List HaproxyResponse) : Prop :=
  ∀ table, latestTable polls = some table → ∀ row ∈ table.servers,
    loggedStatus (haproxyWatch polls).2 row.key = some row.currentStatus

section Table

variable {rows : List HaproxyRow} {row : HaproxyRow}

theorem find?_key_eq_none (h : row.key ∉ rows.map HaproxyRow.key) :
    rows.find? (fun r => r.key = row.key) = none := by
  refine List.find?_eq_none.mpr fun r hr => ?_
  simpa using fun heq => h (List.mem_map.mpr ⟨r,hr,heq⟩)

theorem find?_key_eq_some (hnodup : (rows.map HaproxyRow.key).Nodup) (h : row ∈ rows) :
    rows.find? (fun r => r.key = row.key) = some row := by
  induction rows with
  | nil => contradiction
  | cons r rows ih =>
    obtain ⟨hnew,hrest⟩ := List.nodup_cons.mp hnodup
    rcases List.mem_cons.mp h with rfl | hmem
    · simp
    · have hne : r.key ≠ row.key := fun heq => hnew (heq ▸ List.mem_map_of_mem hmem)
      simp [hne,ih hrest hmem]

theorem foldl_states (hnodup : (rows.map HaproxyRow.key).Nodup)
    (states : String × String → Option String) (key : String × String) :
    rows.foldl (fun (states : String × String → Option String) row =>
        Function.update states row.key (some row.currentStatus)) states key =
      ((rows.find? fun row => row.key = key).map HaproxyRow.currentStatus).or (states key) := by
  induction rows generalizing states with
  | nil => rfl
  | cons row rows ih =>
    obtain ⟨hnew,hrest⟩ := List.nodup_cons.mp hnodup
    rw [List.foldl_cons,ih hrest]
    by_cases hkey : row.key = key
    · subst hkey
      simp [find?_key_eq_none hnew]
    · simp [hkey,Function.update_of_ne (Ne.symm hkey)]

theorem filter_flatMap_key {f : HaproxyRow → List BackendStateChange}
    (hf : ∀ row, ∀ c ∈ f row, c.key = row.key) (hnodup : (rows.map HaproxyRow.key).Nodup)
    (key : String × String) : (rows.flatMap f).filter (fun c => c.key = key) =
      ((rows.find? fun row => row.key = key).map f).getD [] := by
  induction rows with
  | nil => rfl
  | cons row rows ih =>
    obtain ⟨hnew,hrest⟩ := List.nodup_cons.mp hnodup
    rw [List.flatMap_cons,List.filter_append,ih hrest]
    by_cases hkey : row.key = key
    · subst hkey
      have hall : (f row).filter (fun c => c.key = row.key) = f row :=
        List.filter_eq_self.mpr fun c hc => by simpa using hf row c hc
      simp [find?_key_eq_none hnew,hall]
    · have hnil : (f row).filter (fun c => c.key = key) = [] :=
        List.filter_eq_nil_iff.mpr fun c hc => by simpa [hf row c hc] using hkey
      simp [hkey,hnil]

theorem StatsTable.nodup (table : StatsTable) : (table.servers.map HaproxyRow.key).Nodup :=
  table.distinct

theorem StatsTable.status_row {table : StatsTable} (h : row ∈ table.servers) :
    table.status row.key = some row.currentStatus := by
  rw [StatsTable.status,find?_key_eq_some table.nodup h]
  rfl

theorem StatsTable.status_eq_some {table : StatsTable} {key : String × String} {status : String}
    (h : table.status key = some status) :
    ∃ row ∈ table.servers, row.key = key ∧ row.currentStatus = status := by
  obtain ⟨row,hrow,rfl⟩ := Option.map_eq_some_iff.mp h
  exact ⟨row,List.mem_of_find?_eq_some hrow,by simpa using List.find?_some hrow,rfl⟩

end Table

section Step

variable {self : HaproxyWatcher} {emitInitial : Bool} {table : StatsTable}
  {log : List BackendStateChange} {key : String × String}

theorem serverStates_stats (self : HaproxyWatcher) (emitInitial : Bool) (table : StatsTable)
    (key : String × String) :
    (self.pollStats emitInitial (.stats table)).1.serverStates key = table.status key :=
  (foldl_states table.nodup (fun _ => none) key).trans Option.or_none

theorem rowChange_key (self : HaproxyWatcher) (emitInitial : Bool) (row : HaproxyRow) :
    ∀ c ∈ self.rowChange emitInitial row, c.key = row.key := by
  intro c hc
  simp only [HaproxyWatcher.rowChange] at hc
  split at hc
  · obtain rfl := List.mem_singleton.mp hc
    rfl
  · contradiction

theorem loggedStatus_append {rest : List BackendStateChange}
    (h : rest.filter (fun c => c.key = key) = []) :
    loggedStatus (log ++ rest) key = loggedStatus log key := by
  rw [loggedStatus,List.filter_append,h,List.append_nil]
  rfl

theorem loggedStatus_stats : loggedStatus (log ++ (self.pollStats emitInitial (.stats table)).2) key =
    if table.status key ≠ none ∧ table.status key ≠ self.serverStates key ∧
        (self.serverStates key ≠ none ∨ emitInitial = true) then table.status key
      else loggedStatus log key := by
  have hown : (self.pollStats emitInitial (.stats table)).2.filter (fun c => c.key = key) =
      ((table.servers.find? fun row => row.key = key).map (self.rowChange emitInitial)).getD [] :=
    filter_flatMap_key (rowChange_key self emitInitial) table.nodup key
  cases hfind : table.servers.find? fun row => row.key = key with
  | none =>
    rw [hfind] at hown
    rw [loggedStatus_append hown]
    simp [StatsTable.status,hfind]
  | some row =>
    have hkey : row.key = key := by simpa using List.find?_some hfind
    subst hkey
    rw [hfind,Option.map_some,Option.getD_some] at hown
    have hstatus : table.status row.key = some row.currentStatus := by
      rw [StatsTable.status,hfind]
      rfl
    rw [hstatus]
    by_cases hemit : some row.currentStatus ≠ self.serverStates row.key ∧
        (self.serverStates row.key ≠ none ∨ emitInitial = true)
    · rw [if_pos ⟨by simp,hemit⟩,loggedStatus,List.filter_append,hown,HaproxyWatcher.rowChange,
        if_pos hemit,List.getLast?_concat]
      rfl
    · rw [if_neg fun h => hemit h.2]
      rw [HaproxyWatcher.rowChange,if_neg hemit] at hown
      exact loggedStatus_append hown

end Step

section Run

variable {polls before after : List HaproxyResponse} {table : StatsTable} {key : String × String}

theorem haproxyWatch_snoc (polls : List HaproxyResponse) (r : HaproxyResponse) :
    haproxyWatch (polls ++ [r]) =
      (((haproxyWatch polls).1.pollStats polls.isEmpty r).1,
        (haproxyWatch polls).2 ++ ((haproxyWatch polls).1.pollStats polls.isEmpty r).2) :=
  observe_snoc _ polls r

theorem latestTable_snoc (polls : List HaproxyResponse) (r : HaproxyResponse) :
    latestTable (polls ++ [r]) = r.answer.or (latestTable polls) := by
  cases h : r.answer <;> simp [latestTable,h]

theorem lastListed_snoc (polls : List HaproxyResponse) (r : HaproxyResponse)
    (key : String × String) :
    lastListed (polls ++ [r]) key = (r.status key).or (lastListed polls key) := by
  cases h : r.status key <;> simp [lastListed,h]

theorem watch_states (polls : List HaproxyResponse) (key : String × String) :
    (haproxyWatch polls).1.serverStates key =
      (latestTable polls).bind fun table => table.status key := by
  induction polls using List.reverseRecOn with
  | nil => rfl
  | append_singleton polls r ih =>
    rw [haproxyWatch_snoc,latestTable_snoc]
    cases r with
    | requestException text => exact ih
    | stats table =>
      exact serverStates_stats (haproxyWatch polls).1 polls.isEmpty table key

/-- A server that the table before does not list was listed with its status at some time. -/
def AccountedAt (before : List HaproxyResponse) (table : StatsTable) : Prop :=
  before ≠ [] → ∀ row ∈ table.servers,
    (∀ previous, latestTable before = some previous → previous.status row.key = none) →
      lastListed before row.key = some row.currentStatus

/-- The log says of every server that was ever listed what its status was. -/
def LogsListed (polls : List HaproxyResponse) : Prop :=
  ∀ key, loggedStatus (haproxyWatch polls).2 key = lastListed polls key

theorem lastListed_of_latestTable (polls : List HaproxyResponse) {status : String}
    (htable : latestTable polls = some table) (hstatus : table.status key = some status) :
    lastListed polls key = some status := by
  induction polls using List.reverseRecOn with
  | nil => contradiction
  | append_singleton polls r ih =>
    rw [latestTable_snoc] at htable
    rw [lastListed_snoc]
    cases r with
    | requestException text => exact ih htable
    | stats table' =>
      obtain rfl := Option.some.inj htable
      rw [HaproxyResponse.status,hstatus]
      rfl

theorem loggedStatus_snoc (polls : List HaproxyResponse) (table : StatsTable)
    (key : String × String) :
    loggedStatus (haproxyWatch (polls ++ [.stats table])).2 key =
      if table.status key ≠ none ∧
          table.status key ≠ ((latestTable polls).bind fun t => t.status key) ∧
          (((latestTable polls).bind fun t => t.status key) ≠ none ∨ polls = []) then
        table.status key
      else loggedStatus (haproxyWatch polls).2 key := by
  rw [haproxyWatch_snoc,loggedStatus_stats,watch_states]
  simp only [List.isEmpty_iff]

/-- The law holds after a table if and only if the servers new to it are accounted for. -/
theorem replaysTable_snoc_iff (h : LogsListed polls) :
    ReplaysTable (polls ++ [.stats table]) ↔ AccountedAt polls table := by
  have hlatest : latestTable (polls ++ [.stats table]) = some table := latestTable_snoc polls _
  constructor
  · intro hlaw hne row hrow hnew
    have hlogged := hlaw table hlatest row hrow
    have hunknown : ((latestTable polls).bind fun t => t.status row.key) = none := by
      cases hprevious : latestTable polls with
      | none => rfl
      | some previous => exact hnew previous hprevious
    rw [loggedStatus_snoc,hunknown,if_neg (by simp [hne]),h] at hlogged
    exact hlogged
  · intro haccounted table' htable' row hrow
    obtain rfl := Option.some.inj (hlatest.symm.trans htable')
    have hstatus := StatsTable.status_row hrow
    rw [loggedStatus_snoc,hstatus]
    split
    next => rfl
    next hquiet =>
      rw [h]
      by_cases hsame : some row.currentStatus = (latestTable polls).bind fun t => t.status row.key
      · obtain ⟨previous,hprevious,hlisted⟩ := Option.bind_eq_some_iff.mp hsame.symm
        exact lastListed_of_latestTable polls hprevious hlisted
      · have hnone : ((latestTable polls).bind fun t => t.status row.key) = none ∧ polls ≠ [] := by
          simpa [hsame] using hquiet
        refine haccounted hnone.2 row hrow fun previous hprevious => ?_
        rw [hprevious] at hnone
        exact hnone.1

/-- While all servers are accounted for, the log keeps saying what was listed last. -/
theorem logsListed_snoc (h : LogsListed polls) (haccounted : AccountedAt polls table) :
    LogsListed (polls ++ [.stats table]) := by
  intro key
  rw [lastListed_snoc]
  cases hstatus : (HaproxyResponse.stats table).status key with
  | none =>
    rw [loggedStatus_snoc,if_neg fun hne => hne.1 hstatus,h]
    rfl
  | some status =>
    obtain ⟨row,hrow,rfl,rfl⟩ := StatsTable.status_eq_some hstatus
    exact (replaysTable_snoc_iff h).mpr haccounted table (latestTable_snoc polls _) row hrow

end Run

/-- The law after every poll. -/
def AlwaysReplaysTable (polls : List HaproxyResponse) : Prop :=
  ∀ done, done <+: polls → done ≠ [] → ReplaysTable done

/-- Whenever a server is in a table, after the setup poll, and not in the one before, it has been
in a table, and with the same status when it was there last. -/
def Accounted (polls : List HaproxyResponse) : Prop :=
  ∀ before table after, polls = before ++ .stats table :: after → AccountedAt before table

section Law

variable {polls : List HaproxyResponse} {r : HaproxyResponse}

theorem accounted_snoc : Accounted (polls ++ [r]) ↔
    Accounted polls ∧ ∀ table, r = .stats table → AccountedAt polls table := by
  constructor
  · intro h
    refine ⟨fun before table after hpolls => ?_,fun table hr => h polls table [] (by rw [hr])⟩
    exact h before table (after ++ [r]) (by simp [hpolls])
  · intro ⟨hbefore,hlast⟩ before table after hpolls
    rcases List.eq_nil_or_concat after with rfl | ⟨after,r',rfl⟩
    · obtain ⟨rfl,hr⟩ := List.append_inj' hpolls rfl
      exact hlast table (List.singleton_inj.mp hr)
    · rw [List.concat_eq_append,← List.cons_append,← List.append_assoc] at hpolls
      exact hbefore before table after (List.append_inj' hpolls rfl).1

theorem alwaysReplaysTable_snoc : AlwaysReplaysTable (polls ++ [r]) ↔
    AlwaysReplaysTable polls ∧ ReplaysTable (polls ++ [r]) := by
  constructor
  · intro h
    exact ⟨fun done hdone => h done (hdone.trans (List.prefix_append _ _)),
      h _ (List.prefix_refl _) (by simp)⟩
  · intro ⟨hbefore,hlast⟩ done hdone hne
    rcases List.prefix_concat_iff.mp hdone with rfl | hdone
    · exact hlast
    · exact hbefore done hdone hne

theorem logsListed_of_accounted (h : Accounted polls) : LogsListed polls := by
  induction polls using List.reverseRecOn with
  | nil => exact fun _ => rfl
  | append_singleton polls r ih =>
    obtain ⟨hbefore,hlast⟩ := accounted_snoc.mp h
    cases r with
    | requestException text =>
      intro key
      rw [haproxyWatch_snoc,lastListed_snoc]
      simpa [HaproxyWatcher.pollStats,HaproxyResponse.status] using ih hbefore key
    | stats table => exact logsListed_snoc (ih hbefore) (hlast table rfl)

theorem replaysTable_failed (text : String) :
    ReplaysTable (polls ++ [.requestException text]) ↔ ReplaysTable polls := by
  simp [ReplaysTable,latestTable_snoc,haproxyWatch_snoc,HaproxyWatcher.pollStats,
    HaproxyResponse.answer]

/-- After every poll the log says of each server in the latest table what its status is, if and
only if every server is accounted for. -/
theorem log_replays_table_iff (polls : List HaproxyResponse) :
    AlwaysReplaysTable polls ↔ Accounted polls := by
  induction polls using List.reverseRecOn with
  | nil =>
    refine iff_of_true (fun done hdone hne => ?_) fun before table after hpolls => ?_
    · exact absurd (List.prefix_nil.mp hdone) hne
    · simp at hpolls
  | append_singleton polls r ih =>
    rw [alwaysReplaysTable_snoc,accounted_snoc,ih]
    refine and_congr_right fun hbefore => ?_
    cases r with
    | requestException text =>
      rw [replaysTable_failed]
      refine iff_of_true ?_ (by simp)
      by_cases hne : polls = []
      · subst hne
        simp [ReplaysTable,latestTable]
      · exact ih.mpr hbefore polls (List.prefix_refl _) hne
    | stats table =>
      rw [replaysTable_snoc_iff (logsListed_of_accounted hbefore)]
      simp

/-- The table of a backend with these servers, each with a status. -/
def HaproxyRow.ofServer (svname status : String) : HaproxyRow where
  pxname := some "pg_primary"
  svname := some svname
  status := some status
  checkStatus := some "L7OK"
  checkDuration := some "2"
  lastChk := none

def tableUp : StatsTable where
  rows := [.ofServer "patroni-node1" "UP",.ofServer "patroni-node2" "DOWN"]
  distinct := by decide

def tableReloading : StatsTable where
  rows := [.ofServer "patroni-node2" "DOWN"]
  distinct := by decide

def tableDown : StatsTable where
  rows := [.ofServer "patroni-node1" "DOWN",.ofServer "patroni-node2" "DOWN"]
  distinct := by decide

/-- A server that is missing from a table and comes back with another status is not reported. -/
theorem missingServer_not_reported :
    loggedStatus (haproxyWatch [.stats tableUp,.stats tableReloading,.stats tableDown]).2
        ("pg_primary","patroni-node1") = some "UP" ∧
      ¬ AlwaysReplaysTable [.stats tableUp,.stats tableReloading,.stats tableDown] := by
  have hlogged : loggedStatus
      (haproxyWatch [.stats tableUp,.stats tableReloading,.stats tableDown]).2
        ("pg_primary","patroni-node1") = some "UP" := by decide
  refine ⟨hlogged,fun h => ?_⟩
  have hreplays := h _ (List.prefix_refl _) (by simp) tableDown rfl
    (.ofServer "patroni-node1" "DOWN") (by decide)
  rw [show (HaproxyRow.ofServer "patroni-node1" "DOWN").key = ("pg_primary","patroni-node1") from rfl,
    hlogged] at hreplays
  exact absurd hreplays (by decide)

end Law

end RoutingBench
