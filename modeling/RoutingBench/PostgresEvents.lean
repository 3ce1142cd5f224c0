import RoutingBench.RunLength
import RoutingBench.SqlWatcher
set_option autoImplicit false

/-!
The events of the PostgreSQL watcher: a node becomes unreachable and answers again, and it is
promoted and demoted from one answer to the next one.
-/

namespace RoutingBench
open ChangeLog

def sqlWatch (polls : List PollResult) : PostgresSQLWatcher × List Emission :=
  observe PostgresSQLWatcher.pollState {} polls

def PollResult.answered (r : PollResult) : Bool := r.inRecovery.isSome

/-- The successful polls, and on each whether the node is in recovery. -/
def recoveries (polls : List PollResult) : List Bool := polls.filterMap PollResult.inRecovery

def typesAmong (types : List String) (log : List Emission) : List String :=
  (log.map Emission.eventType).filter fun t => types.contains t

def connectionTypes : List String := ["pg_connection_lost","pg_ready_accept_connections"]

def roleTypes : List String := ["pg_promote_detected","pg_demote_detected"]

/-- What a poll after another one is to say of the connection. -/
def connectionChange : Option Bool → Bool → List String
  | some true,false => ["pg_connection_lost"]
  | some false,true => ["pg_ready_accept_connections"]
  | _,_ => []

/-- What a poll is to say of the role after the last successful one. -/
def roleChange : Option Bool → Option Bool → List String
  | some true,some false => ["pg_promote_detected"]
  | some false,some true => ["pg_demote_detected"]
  | _,_ => []

/-- The events say of every change that it is one, when it is seen and once. -/
structure ChangesReported (polls : List PollResult) : Prop where
  connection : ∀ before r after, polls = before ++ r :: after →
    typesAmong connectionTypes (emitted PostgresSQLWatcher.pollState {} before r) =
      connectionChange (before.getLast?.map PollResult.answered) r.answered
  role : ∀ before r after, polls = before ++ r :: after →
    typesAmong roleTypes (emitted PostgresSQLWatcher.pollState {} before r) =
      roleChange (recoveries before).getLast? r.inRecovery
  alternate : (typesAmong connectionTypes (sqlWatch polls).2).IsChain (· ≠ ·)
  promotions : (typesAmong roleTypes (sqlWatch polls).2).count "pg_promote_detected" =
    ((recoveries polls).zip (recoveries polls).tail).count (true,false)
  demotions : (typesAmong roleTypes (sqlWatch polls).2).count "pg_demote_detected" =
    ((recoveries polls).zip (recoveries polls).tail).count (false,true)

section Step

variable {types : List String}

theorem typesAmong_append (log rest : List Emission) :
    typesAmong types (log ++ rest) = typesAmong types log ++ typesAmong types rest := by
  simp [typesAmong]

theorem typesAmong_ite (c : Prop) [Decidable c] (log rest : List Emission) :
    typesAmong types (if c then log else rest) =
      if c then typesAmong types log else typesAmong types rest :=
  apply_ite _ c log rest

theorem typesAmong_cons (e : Emission) (log : List Emission) : typesAmong types (e :: log) =
    if types.contains e.eventType then e.eventType :: typesAmong types log
    else typesAmong types log := by
  simp [typesAmong,List.filter_cons]

theorem typesAmong_nil : typesAmong types [] = [] := rfl

theorem connectionChange_some (a b : Bool) : connectionChange (some a) b =
    if a = b then [] else [if b then "pg_ready_accept_connections" else "pg_connection_lost"] := by
  cases a <;> cases b <;> rfl

theorem pollState_connection (self : PostgresSQLWatcher) (emitInitial : Bool) (r : PollResult) :
    typesAmong connectionTypes (self.pollState emitInitial r).2 =
      connectionChange self.lastReachable r.answered := by
  cases r with
  | row inRecovery timeline connCount =>
    have hready : typesAmong connectionTypes
        (self.pollState emitInitial (.row inRecovery timeline connCount)).2 =
          if self.lastReachable = some false then ["pg_ready_accept_connections"] else [] := by
      cases htimeline : self.lastTimeline <;>
        simp [PostgresSQLWatcher.pollState,typesAmong_append,typesAmong_ite,typesAmong_cons,
          typesAmong_nil,connectionTypes,htimeline]
    rw [hready]
    rcases self.lastReachable with _ | _ | _ <;> rfl
  | exception text =>
    simp only [PostgresSQLWatcher.pollState]
    rcases self.lastReachable with _ | _ | _ <;> rfl

theorem pollState_role (self : PostgresSQLWatcher) (emitInitial : Bool) (r : PollResult) :
    typesAmong roleTypes (self.pollState emitInitial r).2 =
      roleChange self.lastInRecovery r.inRecovery := by
  cases r with
  | row inRecovery timeline connCount =>
    rcases htimeline : self.lastTimeline with _ | last <;>
      rcases hrole : self.lastInRecovery with _ | _ | _ <;> cases inRecovery <;>
        simp [PostgresSQLWatcher.pollState,typesAmong_append,typesAmong_ite,typesAmong_cons,
          typesAmong_nil,roleTypes,roleChange,PollResult.inRecovery,htimeline,hrole]
  | exception text =>
    simp only [PostgresSQLWatcher.pollState]
    rcases self.lastReachable with _ | _ | _ <;> rcases self.lastInRecovery with _ | _ | _ <;> rfl

theorem pollState_lastReachable (self : PostgresSQLWatcher) (emitInitial : Bool) (r : PollResult) :
    (self.pollState emitInitial r).1.lastReachable = some r.answered := by
  cases r with
  | row => rfl
  | exception text =>
    simp only [PostgresSQLWatcher.pollState]
    split
    · rfl
    · exact not_not.mp ‹_›

theorem pollState_lastInRecovery (self : PostgresSQLWatcher) (emitInitial : Bool)
    (r : PollResult) :
    (self.pollState emitInitial r).1.lastInRecovery = r.inRecovery.or self.lastInRecovery := by
  cases hr : r.inRecovery with
  | none => exact lastInRecovery_of_exception hr
  | some b => exact lastInRecovery_of_row hr

theorem roleChange_promote (last r : Option Bool) : (roleChange last r).count
    "pg_promote_detected" = if last = some true ∧ r = some false then 1 else 0 := by
  rcases last with _ | _ | _ <;> rcases r with _ | _ | _ <;> rfl

theorem roleChange_demote (last r : Option Bool) : (roleChange last r).count
    "pg_demote_detected" = if last = some false ∧ r = some true then 1 else 0 := by
  rcases last with _ | _ | _ <;> rcases r with _ | _ | _ <;> rfl

end Step

section Run

variable {polls : List PollResult}

theorem recoveries_snoc (polls : List PollResult) (r : PollResult) :
    recoveries (polls ++ [r]) = recoveries polls ++ r.inRecovery.toList := by
  cases h : r.inRecovery <;> simp [recoveries,h]

theorem sqlWatch_lastReachable (polls : List PollResult) :
    (sqlWatch polls).1.lastReachable = polls.getLast?.map PollResult.answered := by
  induction polls using List.reverseRecOn with
  | nil => rfl
  | append_singleton polls r ih =>
    rw [sqlWatch,observe_snoc,pollState_lastReachable,List.getLast?_concat]
    rfl

theorem sqlWatch_lastInRecovery (polls : List PollResult) :
    (sqlWatch polls).1.lastInRecovery = (recoveries polls).getLast? := by
  induction polls using List.reverseRecOn with
  | nil => rfl
  | append_singleton polls r ih =>
    rw [sqlWatch] at ih
    rw [sqlWatch,observe_snoc,pollState_lastInRecovery,ih,recoveries_snoc]
    cases r.inRecovery <;> simp

theorem emitted_connection (before : List PollResult) (r : PollResult) :
    typesAmong connectionTypes (emitted PostgresSQLWatcher.pollState {} before r) =
      connectionChange (before.getLast?.map PollResult.answered) r.answered := by
  rw [emitted,pollState_connection,← sqlWatch_lastReachable]
  rfl

theorem emitted_role (before : List PollResult) (r : PollResult) :
    typesAmong roleTypes (emitted PostgresSQLWatcher.pollState {} before r) =
      roleChange (recoveries before).getLast? r.inRecovery := by
  rw [emitted,pollState_role,← sqlWatch_lastInRecovery]
  rfl

theorem sqlWatch_snoc (types : List String) (before : List PollResult) (r : PollResult) :
    typesAmong types (sqlWatch (before ++ [r])).2 = typesAmong types (sqlWatch before).2 ++
      typesAmong types (emitted PostgresSQLWatcher.pollState {} before r) := by
  rw [sqlWatch,observe_snoc,typesAmong_append]
  rfl

/-- The events of the connection alternate; the last one says whether the node answers. -/
theorem sqlWatch_alternate (polls : List PollResult) :
    (typesAmong connectionTypes (sqlWatch polls).2).IsChain (· ≠ ·) ∧
      ∀ t ∈ (typesAmong connectionTypes (sqlWatch polls).2).getLast?, ∀ r ∈ polls.getLast?,
        t = if r.answered then "pg_ready_accept_connections" else "pg_connection_lost" := by
  induction polls using List.reverseRecOn with
  | nil => exact ⟨.nil,by simp [sqlWatch,observe,typesAmong]⟩
  | append_singleton polls r ih =>
    obtain ⟨hchain,hlast⟩ := ih
    rw [sqlWatch_snoc,emitted_connection]
    cases hprev : polls.getLast? with
    | none =>
      obtain rfl := List.getLast?_eq_none_iff.mp hprev
      exact ⟨.nil,by simp [sqlWatch,observe,typesAmong,connectionChange]⟩
    | some prev =>
      rw [Option.map_some,connectionChange_some,List.getLast?_concat]
      split
      next hsame =>
        rw [List.append_nil]
        refine ⟨hchain,fun t ht r' hr' => ?_⟩
        obtain rfl := Option.mem_some_iff.mp hr'
        rw [← hsame]
        exact hlast t ht prev hprev
      next hchange =>
        refine ⟨List.isChain_append.mpr ⟨hchain,.singleton _,fun t ht t' ht' => ?_⟩,by simp⟩
        obtain rfl := Option.mem_some_iff.mp ht'
        rw [hlast t ht prev hprev]
        cases hp : prev.answered <;> cases hr : r.answered <;> simp_all

/-- An event that is due from `a` to `b` is there once for each time. -/
theorem count_roles {event : String} {a b : Bool} (h : ∀ last r,
    (roleChange last r).count event = if last = some a ∧ r = some b then 1 else 0)
    (polls : List PollResult) : (typesAmong roleTypes (sqlWatch polls).2).count event =
      ((recoveries polls).zip (recoveries polls).tail).count (a,b) := by
  induction polls using List.reverseRecOn with
  | nil => rfl
  | append_singleton polls r ih =>
    rw [sqlWatch_snoc,List.count_append,ih,emitted_role,h,recoveries_snoc]
    cases r.inRecovery with
    | none => simp
    | some c =>
      rcases eq_or_ne (recoveries polls) [] with hnil | hne
      · simp [hnil]
      · rw [Option.toList_some,List.count_eq_countP,List.count_eq_countP,RunLength.pairs_concat hne,
          List.getLast?_eq_some_getLast hne]
        simp

/-- Of every sequence of polls, the first of which is that of `setup`. -/
theorem changes_reported (polls : List PollResult) : ChangesReported polls where
  connection before r _ _ := emitted_connection before r
  role before r _ _ := emitted_role before r
  alternate := (sqlWatch_alternate polls).1
  promotions := count_roles roleChange_promote polls
  demotions := count_roles roleChange_demote polls

end Run

end RoutingBench
