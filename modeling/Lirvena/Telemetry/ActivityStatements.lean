import Lirvena.Telemetry.ActivityRun
import Mathlib.Algebra.Order.BigOperators.Group.List
import Mathlib.Algebra.Order.Group.Nat

/-!
# The statements of the activity operations

Each activity operation reads the runtime state and then writes, one SQL statement after
the other and without a transaction: for each piece of a closed interval the row of its
day and its time, and at last the runtime state.  A statement that fails ends the
operation, and what the statements before it wrote stays.
-/

namespace Lirvena
namespace Telemetry

open Lib

/-- A statement of an activity operation. -/
inductive Statement where
  | readActivity
  | ensureDay (day : Nat)
  | addActive (day lengthMs : Nat)
  | setRuntime (runtime : RuntimeState)
  deriving DecidableEq

def Statement.execute (database : Database) : Statement → Database
  | .readActivity => database
  | .ensureDay day => { database with daily := Telemetry.ensureDay database.daily day }
  | .addActive day lengthMs =>
      { database with
        daily := database.daily.map fun row =>
          if row.utcDay = day then { row with activeMs := row.activeMs + lengthMs } else row }
  | .setRuntime runtime => { database with runtime := runtime }

def executeAll (database : Database) (statements : List Statement) : Database :=
  statements.foldl Statement.execute database

/-- The statements of an operation, and its result when none of them fails. -/
structure Script where
  statements : List Statement
  result : Except TelemetryStoreError Unit

/-- The tables behind an operation whose statement of this number fails. -/
def Script.stoppedAt (script : Script) (database : Database) (failing : Nat) : Database :=
  executeAll database (script.statements.take failing)

/-! ## The operations -/

/-- One turn of the loop of `add_active_interval`. -/
def pieceStatements (piece : Interval) : List Statement :=
  [.ensureDay (piece.start / millisPerDay),
    .addActive (piece.start / millisPerDay) piece.length]

/-- The statements behind the checks: an interval that is closed, then the state. -/
def closeAndUpdateScript (database : Database) (closes : Bool) (endedAtMs : Nat)
    (update : Except TelemetryStoreError RuntimeState) : Script :=
  let closed :=
    if closes then addActiveInterval database.runtime.activeSinceMs endedAtMs else ([], .ok ())
  let added := .readActivity :: closed.1.flatMap pieceStatements
  match closed.2, update with
  | .ok (), .ok runtime => ⟨added ++ [.setRuntime runtime], .ok ()⟩
  | .error error, _ => ⟨added, .error error⟩
  | .ok (), .error error => ⟨added, .error error⟩

/-- `set_account_active` -/
def updateActivityScript (database : Database) (occurredAtMs : Nat) (active : Bool) : Script :=
  if occurredAtMs = 0 then ⟨[], .error .invalidInput⟩
  else if occurredAtMs < database.runtime.lastActivityMs then
    ⟨[.readActivity], .error .invalidInput⟩
  else
    match nextAccounts database.runtime active with
    | .error error => ⟨[.readActivity], .error error⟩
    | .ok next =>
        closeAndUpdateScript database (!active && next = 0) occurredAtMs
          (activityUpdate next (nextActiveSince database.runtime occurredAtMs active next)
            occurredAtMs)

def checkpointActivityScript (database : Database) (occurredAtMs : Nat) : Script :=
  if occurredAtMs < database.runtime.lastActivityMs then ⟨[.readActivity], .error .invalidInput⟩
  else
    closeAndUpdateScript database (0 < database.runtime.activeAccounts) occurredAtMs
      (checkpointUpdate database.runtime occurredAtMs)

/-- `close_stale_active_interval`, as `open` calls it. -/
def openStoreScript (database : Database) (openedAtMs : Nat) : Script :=
  if openedAtMs = 0 then ⟨[], .error .invalidInput⟩
  else
    closeAndUpdateScript database (0 < database.runtime.activeAccounts) openedAtMs
      (staleUpdate openedAtMs)

def scriptOf (database : Database) : ActivityOp → Script
  | .openStore openedAtMs => openStoreScript database openedAtMs
  | .setAccountActive occurredAtMs active => updateActivityScript database occurredAtMs active
  | .checkpointActivity occurredAtMs => checkpointActivityScript database occurredAtMs

/-- The failing statement is the read or the first write, or the second write where the
first one found the row of the day in which the open interval begins. -/
def FailsHarmlessly (database : Database) (failing : Nat) : Prop :=
  failing ≤ 1 ∨ (failing = 2 ∧ ∃ since, database.runtime.activeSinceMs = some since ∧
    ∃ row ∈ database.daily, row.utcDay = since / millisPerDay)

/-! ## The statements and the operations -/

@[simp]
theorem executeAll_append (database : Database) (first second : List Statement) :
    executeAll database (first ++ second) = executeAll (executeAll database first) second :=
  List.foldl_append

theorem executeAll_pieces (database : Database) (pieces : List Interval) :
    executeAll database (pieces.flatMap pieceStatements) =
      { database with daily := pieces.foldl addPiece database.daily } := by
  induction pieces generalizing database with
  | nil => rfl
  | cons piece rest ih =>
      rw [List.flatMap_cons, executeAll_append, ih]
      rfl

theorem closeAndUpdateScript_execute (database : Database) (closes : Bool) (endedAtMs : Nat)
    (update : Except TelemetryStoreError RuntimeState) :
    let script := closeAndUpdateScript database closes endedAtMs update
    let applied := closeAndUpdate database closes endedAtMs update
    executeAll database script.statements = applied.1 ∧ script.result = applied.2.result := by
  have hread : ∀ statements, executeAll database (.readActivity :: statements) =
      executeAll database statements := fun _ => rfl
  unfold closeAndUpdateScript closeAndUpdate
  dsimp only
  cases hclosed : (if closes then addActiveInterval database.runtime.activeSinceMs endedAtMs
      else ([], .ok ())).2 with
  | error error =>
      dsimp only
      rw [hread, executeAll_pieces]
      exact ⟨rfl, rfl⟩
  | ok _ =>
      cases update with
      | error error =>
          dsimp only
          rw [hread, executeAll_pieces]
          exact ⟨rfl, rfl⟩
      | ok runtime =>
          dsimp only
          rw [executeAll_append, hread, executeAll_pieces]
          exact ⟨rfl, rfl⟩

/-- An operation is its statements, as long as none of them fails. -/
theorem scriptOf_execute (database : Database) (op : ActivityOp) :
    executeAll database (scriptOf database op).statements = (applyOp database op).1 ∧
      (scriptOf database op).result = (applyOp database op).2.result := by
  cases op with
  | openStore openedAtMs =>
      simp only [scriptOf, applyOp, openStoreScript, openStore]
      split
      · exact ⟨rfl, rfl⟩
      · exact closeAndUpdateScript_execute _ _ _ _
  | setAccountActive occurredAtMs active =>
      simp only [scriptOf, applyOp, updateActivityScript, updateActivity]
      split
      · exact ⟨rfl, rfl⟩
      · split
        · exact ⟨rfl, rfl⟩
        · cases nextAccounts database.runtime active with
          | error error => exact ⟨rfl, rfl⟩
          | ok next => exact closeAndUpdateScript_execute _ _ _ _
  | checkpointActivity occurredAtMs =>
      simp only [scriptOf, applyOp, checkpointActivityScript, checkpointActivity]
      split
      · exact ⟨rfl, rfl⟩
      · exact closeAndUpdateScript_execute _ _ _ _

/-! ## The form of a script -/

/-- The pieces that a script adds, and the statement behind them. -/
structure Adds (database : Database) (statements : List Statement) where
  pieces : List Interval
  last : List Statement
  statements_eq : statements = .readActivity :: (pieces.flatMap pieceStatements ++ last)
  last_le : last.length ≤ 1
  forward : ∀ piece ∈ pieces, piece.start < piece.stop
  first_start : ∀ piece ∈ pieces.head?, database.runtime.activeSinceMs = some piece.start

theorem activePieces_forward (cursor endedAtMs : Nat) :
    ∀ piece ∈ (activePieces cursor endedAtMs).1, piece.start < piece.stop := by
  fun_induction activePieces cursor endedAtMs with
  | case1 cursor hcursor error herror => simp
  | case2 cursor hcursor boundary hboundary ih =>
      exact List.forall_mem_cons.mpr ⟨lt_pieceBoundary hcursor hboundary, ih⟩
  | case3 cursor hdone => simp

theorem activePieces_head (cursor endedAtMs : Nat) :
    ∀ piece ∈ (activePieces cursor endedAtMs).1.head?, piece.start = cursor := by
  unfold activePieces
  split
  · split
    · simp
    · simp
  · simp

theorem addActiveInterval_pieces (startedAtMs : Option Nat) (endedAtMs : Nat) :
    (∀ piece ∈ (addActiveInterval startedAtMs endedAtMs).1, piece.start < piece.stop) ∧
      ∀ piece ∈ (addActiveInterval startedAtMs endedAtMs).1.head?,
        startedAtMs = some piece.start := by
  unfold addActiveInterval
  split
  · simp
  · next start =>
      split
      · simp
      · refine ⟨activePieces_forward start endedAtMs, fun piece hpiece => ?_⟩
        rw [activePieces_head start endedAtMs piece hpiece]

theorem closeAndUpdateScript_adds (database : Database) (closes : Bool) (endedAtMs : Nat)
    (update : Except TelemetryStoreError RuntimeState) :
    Nonempty (Adds database
      (closeAndUpdateScript database closes endedAtMs update).statements) := by
  have hpieces : (∀ piece ∈ (if closes then addActiveInterval database.runtime.activeSinceMs
        endedAtMs else ([], .ok ())).1, piece.start < piece.stop) ∧
      ∀ piece ∈ (if closes then addActiveInterval database.runtime.activeSinceMs endedAtMs
        else ([], .ok ())).1.head?, database.runtime.activeSinceMs = some piece.start := by
    cases closes with
    | false => simp
    | true => exact addActiveInterval_pieces _ _
  unfold closeAndUpdateScript
  dsimp only
  cases hclosed : (if closes then addActiveInterval database.runtime.activeSinceMs endedAtMs
      else ([], .ok ())).2 with
  | error error =>
      exact ⟨⟨_, [], by rw [List.append_nil], Nat.zero_le 1, hpieces.1, hpieces.2⟩⟩
  | ok _ =>
      cases update with
      | error error =>
          exact ⟨⟨_, [], by rw [List.append_nil], Nat.zero_le 1, hpieces.1, hpieces.2⟩⟩
      | ok runtime => exact ⟨⟨_, [.setRuntime runtime], rfl, le_rfl, hpieces.1, hpieces.2⟩⟩

/-- A script is a read at most, or a read and the pieces that are added behind it. -/
theorem scriptOf_adds (database : Database) (op : ActivityOp) :
    (scriptOf database op).statements.length ≤ 1 ∨
      Nonempty (Adds database (scriptOf database op).statements) := by
  cases op with
  | openStore openedAtMs =>
      simp only [scriptOf, openStoreScript]
      split
      · exact .inl (Nat.zero_le 1)
      · exact .inr (closeAndUpdateScript_adds _ _ _ _)
  | setAccountActive occurredAtMs active =>
      simp only [scriptOf, updateActivityScript]
      split
      · exact .inl (Nat.zero_le 1)
      · split
        · exact .inl le_rfl
        · cases nextAccounts database.runtime active with
          | error error => exact .inl le_rfl
          | ok next => exact .inr (closeAndUpdateScript_adds _ _ _ _)
  | checkpointActivity occurredAtMs =>
      simp only [scriptOf, checkpointActivityScript]
      split
      · exact .inl le_rfl
      · exact .inr (closeAndUpdateScript_adds _ _ _ _)

/-! ## The time in the days -/

/-- The time in all days together. -/
def totalActive (daily : List DailyRow) : Nat :=
  (daily.map DailyRow.activeMs).sum

theorem totalActive_ensureDay (daily : List DailyRow) (day : Nat) :
    totalActive (ensureDay daily day) = totalActive daily := by
  unfold ensureDay
  split
  · rfl
  · simp [totalActive]

theorem totalActive_add_le (daily : List DailyRow) (day lengthMs : Nat) :
    totalActive daily ≤ totalActive (daily.map fun row =>
      if row.utcDay = day then { row with activeMs := row.activeMs + lengthMs } else row) := by
  unfold totalActive
  rw [List.map_map]
  refine List.sum_le_sum fun row _ => ?_
  simp only [Function.comp_apply]
  split
  · exact Nat.le_add_right _ _
  · exact le_rfl

theorem totalActive_add_lt {daily : List DailyRow} {day lengthMs : Nat}
    (hrow : ∃ row ∈ daily, row.utcDay = day) (hlength : 0 < lengthMs) :
    totalActive daily < totalActive (daily.map fun row =>
      if row.utcDay = day then { row with activeMs := row.activeMs + lengthMs } else row) := by
  obtain ⟨row, hmem, hday⟩ := hrow
  unfold totalActive
  rw [List.map_map]
  refine List.sum_lt_sum _ _ (fun other _ => ?_) ⟨row, hmem, ?_⟩
  · simp only [Function.comp_apply]
    split
    · exact Nat.le_add_right _ _
    · exact le_rfl
  · simp only [Function.comp_apply, if_pos hday]
    omega

/-- No statement takes time away. -/
theorem executeAll_total_le (database : Database) (statements : List Statement) :
    totalActive database.daily ≤ totalActive (executeAll database statements).daily := by
  induction statements generalizing database with
  | nil => exact le_rfl
  | cons statement rest ih =>
      refine le_trans ?_ (ih (statement.execute database))
      cases statement with
      | readActivity => exact le_rfl
      | ensureDay day => exact (totalActive_ensureDay database.daily day).ge
      | addActive day lengthMs => exact totalActive_add_le database.daily day lengthMs
      | setRuntime runtime => exact le_rfl

/-! ## Operations that stop -/

theorem ensureDay_eq_self_iff {daily : List DailyRow} {day : Nat} :
    ensureDay daily day = daily ↔ ∃ row ∈ daily, row.utcDay = day := by
  unfold ensureDay
  split
  · next hthere => simpa using hthere
  · next hmissing => simpa using hmissing

/-- Behind the first two writes of a piece its time is in the days. -/
theorem piece_written {database : Database} {piece : Interval}
    (hforward : piece.start < piece.stop) (rest : List Statement) :
    totalActive database.daily <
      totalActive (executeAll database (pieceStatements piece ++ rest)).daily := by
  rw [executeAll_append]
  refine lt_of_lt_of_le ?_ (executeAll_total_le _ rest)
  rw [← totalActive_ensureDay database.daily (piece.start / millisPerDay)]
  exact totalActive_add_lt (exists_ensureDay _ _) (Nat.sub_pos_of_lt hforward)

/-- The first write makes sure of the day, and changes nothing where the day is there. -/
theorem stopped_at_second_write {database : Database} {piece : Interval}
    (hsince : database.runtime.activeSinceMs = some piece.start) :
    { database with daily := ensureDay database.daily (piece.start / millisPerDay) } = database ↔
      FailsHarmlessly database 2 := by
  constructor
  · intro hunchanged
    have hrow := ensureDay_eq_self_iff.mp (congrArg Database.daily hunchanged)
    exact .inr ⟨rfl, piece.start, hsince, hrow⟩
  · rintro (hsmall | ⟨-, since, hopen, hrow⟩)
    · exact absurd hsmall (by decide)
    · obtain rfl : piece.start = since := Option.some.inj (hsince.symm.trans hopen)
      rw [ensureDay_eq_self_iff.mpr hrow]

/-- Behind the second write the time of the piece is there to stay. -/
theorem stopped_later {database : Database} {piece : Interval}
    (hforward : piece.start < piece.stop) (rest : List Statement) (later : Nat) :
    executeAll database (.readActivity :: (pieceStatements piece ++ rest)) = database ↔
      FailsHarmlessly database (later + 3) := by
  constructor
  · intro hunchanged
    have hlonger : totalActive database.daily < _ := piece_written hforward rest
    have hsame : executeAll database (pieceStatements piece ++ rest) = database := hunchanged
    rw [hsame] at hlonger
    exact absurd hlonger (Nat.lt_irrefl _)
  · rintro (hsmall | ⟨htwo, -⟩)
    · omega
    · omega

/-- An operation whose statement fails leaves the tables as they were exactly when the
statement is the read or the first write, or the second write where the row of the day was
there already. -/
theorem failed_operation_unchanged_iff (database : Database) (op : ActivityOp) {failing : Nat}
    (hfailing : failing < (scriptOf database op).statements.length) :
    (scriptOf database op).stoppedAt database failing = database ↔
      FailsHarmlessly database failing := by
  unfold Script.stoppedAt
  rcases scriptOf_adds database op with hread | ⟨pieces, last, hstatements, hlast, hforward, hfirst⟩
  · have hzero : failing = 0 := by omega
    subst hzero
    simp [executeAll, FailsHarmlessly]
  · rw [hstatements] at hfailing ⊢
    cases pieces with
    | nil =>
        rw [List.flatMap_nil, List.nil_append, List.length_cons] at hfailing
        have hsmall : failing ≤ 1 := by omega
        simp only [FailsHarmlessly, hsmall, true_or, iff_true]
        rcases Nat.le_one_iff_eq_zero_or_eq_one.mp hsmall with rfl | rfl <;> rfl
    | cons piece rest =>
        have hsince := hfirst piece rfl
        match failing with
        | 0 => simp [executeAll, FailsHarmlessly]
        | 1 => simp [executeAll, Statement.execute, FailsHarmlessly]
        | 2 => exact stopped_at_second_write hsince
        | later + 3 => exact stopped_later (hforward piece List.mem_cons_self) _ later

/-- A store with one account that has been active since the first millisecond. -/
def sinceMidnight (daily : List DailyRow) : Database :=
  ⟨daily, ⟨1, some 1, 1⟩⟩

def leave : ActivityOp :=
  .setAccountActive 86400000 false

theorem leave_script (daily : List DailyRow) :
    (scriptOf (sinceMidnight daily) leave).statements =
      [.readActivity, .ensureDay 0, .addActive 0 86399999, .setRuntime ⟨0, none, 86400000⟩] := by
  have hpieces : addActiveInterval (some 1) 86400000 = ([⟨1, 86400000⟩], .ok ()) :=
    activePieces_firstDay (by decide) (by decide) (by decide)
  have hupdate : activityUpdate 0 none 86400000 = .ok ⟨0, none, 86400000⟩ := by decide
  show (closeAndUpdateScript _ true 86400000 (activityUpdate 0 none 86400000)).statements = _
  simp only [closeAndUpdateScript, if_true, sinceMidnight, hpieces, hupdate]
  rfl

theorem failed_operation_unchanged_iff_known_day :
    (scriptOf (sinceMidnight [⟨0, 0⟩]) leave).stoppedAt (sinceMidnight [⟨0, 0⟩]) 2 =
        sinceMidnight [⟨0, 0⟩] ↔
      FailsHarmlessly (sinceMidnight [⟨0, 0⟩]) 2 :=
  failed_operation_unchanged_iff _ leave (by rw [leave_script]; decide)

/-- When the write of the runtime state fails, the day's time stays written, and the same
operation again counts it a second time. -/
theorem failed_leave_counts_twice :
    let stopped := (scriptOf (sinceMidnight []) leave).stoppedAt (sinceMidnight []) 3
    stopped ≠ sinceMidnight [] ∧ stopped.daily = [⟨0, 86399999⟩] ∧
      (applyOp stopped leave).1.daily = [⟨0, 172799998⟩] ∧
      (applyOp stopped leave).2.result = .ok () := by
  have hstopped : (scriptOf (sinceMidnight []) leave).stoppedAt (sinceMidnight []) 3 =
      sinceMidnight [⟨0, 86399999⟩] := by
    rw [Script.stoppedAt, leave_script]
    rfl
  have hagain : applyOp (sinceMidnight [⟨0, 86399999⟩]) leave = _ := leaveAtEndOfDay _
  rw [hstopped]
  dsimp only
  rw [hagain]
  exact ⟨by decide, rfl, rfl, rfl⟩

end Telemetry
end Lirvena
