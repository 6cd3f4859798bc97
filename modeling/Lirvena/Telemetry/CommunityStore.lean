import Lirvena.Lib.Interval
import Lirvena.Lib.Result
import Lirvena.Lib.Run

/-!
# The activity of the community telemetry store

The store keeps the number of active accounts, the time since which one has been
active, and the time of the last activity operation; it adds the length of each
closed interval to the days that the interval touches.  The loop that adds an
interval is given by the pieces it writes and by how it ends, so that what was
counted can be read off the answers of a run.

A day's time never exceeds the day, and no instant is counted twice, as long as
no interval is closed before one that was already counted.  The mark that
guards this is compared by every operation but the opening of a store in which
no account is active.
-/

namespace Lirvena
namespace Telemetry

open Lib

inductive TelemetryStoreError where
  | invalidInput
  | persistence
  deriving DecidableEq

def millisPerDay : Nat := 86400000

/-- The columns of a row of `daily` that activity is added to. -/
structure DailyRow where
  utcDay : Nat
  activeMs : Nat
  deriving DecidableEq

/-- The activity columns of the single row of `runtime_state`. -/
structure RuntimeState where
  activeAccounts : Nat
  activeSinceMs : Option Nat
  lastActivityMs : Nat
  deriving DecidableEq

structure Database where
  daily : List DailyRow
  runtime : RuntimeState
  deriving DecidableEq

/-- The tables that `migrate` creates. -/
def Database.empty : Database where
  daily := []
  runtime := { activeAccounts := 0, activeSinceMs := none, lastActivityMs := 0 }

abbrev toI64 : Nat → Except TelemetryStoreError Nat :=
  tryI64 .invalidInput

def utcDay (timestampMs : Nat) : Except TelemetryStoreError Nat := do
  rejectIf .invalidInput (timestampMs = 0)
  rejectIf .invalidInput (u32Bound ≤ timestampMs / millisPerDay)
  return timestampMs / millisPerDay

/-! ## Adding an interval -/

def ensureDay (daily : List DailyRow) (day : Nat) : List DailyRow :=
  if daily.any (fun row => row.utcDay = day) then daily else daily ++ [⟨day, 0⟩]

/-- One turn of the loop: the day's row is made sure of and its time counted up. -/
def addPiece (daily : List DailyRow) (piece : Interval) : List DailyRow :=
  (ensureDay daily (piece.start / millisPerDay)).map fun row =>
    if row.utcDay = piece.start / millisPerDay then
      { row with activeMs := row.activeMs + piece.length }
    else row

/-- The end of the piece that begins at the cursor: the end of its day, or of the
interval. -/
def pieceBoundary (cursor endedAtMs : Nat) : Except TelemetryStoreError Nat := do
  let day ← utcDay cursor
  let nextDay ← okOr .invalidInput (checkedMulU64 (day + 1) millisPerDay)
  let boundary := min endedAtMs nextDay
  let _ ← toI64 (boundary - cursor)
  return boundary

theorem pieceBoundary_eq_ok {cursor endedAtMs boundary : Nat}
    (hok : pieceBoundary cursor endedAtMs = .ok boundary) :
    cursor ≠ 0 ∧ cursor / millisPerDay < u32Bound ∧
      boundary = min endedAtMs ((cursor / millisPerDay + 1) * millisPerDay) := by
  unfold pieceBoundary at hok
  obtain ⟨day, hday, hnext⟩ := bind_eq_ok_iff.mp hok
  obtain ⟨nextDay, hnextDay, hlength⟩ := bind_eq_ok_iff.mp hnext
  obtain ⟨length, -, hreturn⟩ := bind_eq_ok_iff.mp hlength
  cases hreturn
  unfold utcDay at hday
  obtain ⟨⟨⟩, hnonzero, hfits⟩ := bind_eq_ok_iff.mp hday
  obtain ⟨⟨⟩, hbound, hreturn⟩ := bind_eq_ok_iff.mp hfits
  cases hreturn
  obtain ⟨-, rfl⟩ := checkedMulU64_eq_some_iff.mp (okOr_eq_ok_iff.mp hnextDay)
  exact ⟨rejectIf_eq_ok_iff.mp hnonzero, Nat.not_le.mp (rejectIf_eq_ok_iff.mp hbound), rfl⟩

theorem lt_pieceBoundary {cursor endedAtMs boundary : Nat} (hcursor : cursor < endedAtMs)
    (hok : pieceBoundary cursor endedAtMs = .ok boundary) : cursor < boundary := by
  obtain ⟨-, -, rfl⟩ := pieceBoundary_eq_ok hok
  refine lt_min hcursor ?_
  have hday : 0 < millisPerDay := by decide
  rw [Nat.mul_comm]
  exact Nat.lt_mul_div_succ cursor hday

/-- The loop of `add_active_interval`: the pieces it writes, and how it ends. -/
def activePieces (cursor endedAtMs : Nat) : List Interval × Except TelemetryStoreError Unit :=
  if _ : cursor < endedAtMs then
    match _ : pieceBoundary cursor endedAtMs with
    | .error error => ([], .error error)
    | .ok boundary =>
        (⟨cursor, boundary⟩ :: (activePieces boundary endedAtMs).1,
          (activePieces boundary endedAtMs).2)
  else
    ([], .ok ())
termination_by endedAtMs - cursor
decreasing_by
  all_goals
    have hadvance := lt_pieceBoundary ‹_› ‹_›
    omega

/-- `add_active_interval`: the pieces written are not taken back when it fails. -/
def addActiveInterval (startedAtMs : Option Nat) (endedAtMs : Nat) :
    List Interval × Except TelemetryStoreError Unit :=
  match startedAtMs with
  | none => ([], .error .persistence)
  | some start =>
      if endedAtMs < start then ([], .error .invalidInput) else activePieces start endedAtMs

/-! ## The operations -/

/-- What an operation wrote into the days, and its result. -/
structure ActivityAnswer where
  pieces : List Interval
  result : Except TelemetryStoreError Unit

/-- The statements of an operation that has passed its checks: the interval that is
open is added to the days if the operation closes it, then the runtime state is
written.  They are no transaction, so a failure keeps what was written before it. -/
def closeAndUpdate (database : Database) (closes : Bool) (endedAtMs : Nat)
    (update : Except TelemetryStoreError RuntimeState) : Database × ActivityAnswer :=
  let closed :=
    if closes then addActiveInterval database.runtime.activeSinceMs endedAtMs else ([], .ok ())
  let daily := closed.1.foldl addPiece database.daily
  match closed.2, update with
  | .ok (), .ok runtime => (⟨daily, runtime⟩, ⟨closed.1, .ok ()⟩)
  | .error error, _ => ({ database with daily := daily }, ⟨closed.1, .error error⟩)
  | .ok (), .error error => ({ database with daily := daily }, ⟨closed.1, .error error⟩)

def rejected (database : Database) (error : TelemetryStoreError) : Database × ActivityAnswer :=
  (database, ⟨[], .error error⟩)

/-- The next number of active accounts. -/
def nextAccounts (runtime : RuntimeState) (active : Bool) : Except TelemetryStoreError Nat :=
  if active then okOr .invalidInput (checkedAddU64 runtime.activeAccounts 1)
  else okOr .invalidInput
    (if runtime.activeAccounts = 0 then none else some (runtime.activeAccounts - 1))

/-- `activeSince.map(to_i64).transpose()` -/
def optionalI64 : Option Nat → Except TelemetryStoreError (Option Nat)
  | some value => some <$> toI64 value
  | none => .ok none

/-- The last statement of `update_activity`. -/
def activityUpdate (next : Nat) (activeSince : Option Nat) (occurredAtMs : Nat) :
    Except TelemetryStoreError RuntimeState := do
  let next ← toI64 next
  let activeSince ← optionalI64 activeSince
  let occurredAtMs ← toI64 occurredAtMs
  return { activeAccounts := next, activeSinceMs := activeSince, lastActivityMs := occurredAtMs }

/-- The time since which an account is active, after an account came or left. -/
def nextActiveSince (runtime : RuntimeState) (occurredAtMs : Nat) (active : Bool)
    (next : Nat) : Option Nat :=
  if active && runtime.activeAccounts = 0 then some occurredAtMs
  else if next = 0 then none
  else runtime.activeSinceMs

/-- `set_account_active` -/
def updateActivity (database : Database) (occurredAtMs : Nat) (active : Bool) :
    Database × ActivityAnswer :=
  if occurredAtMs = 0 then rejected database .invalidInput
  else if occurredAtMs < database.runtime.lastActivityMs then rejected database .invalidInput
  else
    match nextAccounts database.runtime active with
    | .error error => rejected database error
    | .ok next =>
        closeAndUpdate database (!active && next = 0) occurredAtMs
          (activityUpdate next (nextActiveSince database.runtime occurredAtMs active next)
            occurredAtMs)

/-- The last statement of `checkpoint_activity`. -/
def checkpointUpdate (runtime : RuntimeState) (occurredAtMs : Nat) :
    Except TelemetryStoreError RuntimeState := do
  let occurredAtMs ← toI64 occurredAtMs
  return { runtime with
    activeSinceMs := if 0 < runtime.activeAccounts then some occurredAtMs else none
    lastActivityMs := occurredAtMs }

def checkpointActivity (database : Database) (occurredAtMs : Nat) :
    Database × ActivityAnswer :=
  if occurredAtMs < database.runtime.lastActivityMs then rejected database .invalidInput
  else
    closeAndUpdate database (0 < database.runtime.activeAccounts) occurredAtMs
      (checkpointUpdate database.runtime occurredAtMs)

/-- The last statement of `close_stale_active_interval`. -/
def staleUpdate (openedAtMs : Nat) : Except TelemetryStoreError RuntimeState := do
  let openedAtMs ← toI64 openedAtMs
  return { activeAccounts := 0, activeSinceMs := none, lastActivityMs := openedAtMs }

def closeStaleActiveInterval (database : Database) (openedAtMs : Nat) :
    Database × ActivityAnswer :=
  closeAndUpdate database (0 < database.runtime.activeAccounts) openedAtMs
    (staleUpdate openedAtMs)

/-- `CommunityTelemetryStore::open` on the tables that are there. -/
def openStore (database : Database) (openedAtMs : Nat) : Database × ActivityAnswer :=
  if openedAtMs = 0 then rejected database .invalidInput
  else closeStaleActiveInterval database openedAtMs

/-- The operations that move activity; each carries its own time. -/
inductive ActivityOp where
  | openStore (openedAtMs : Nat)
  | setAccountActive (occurredAtMs : Nat) (active : Bool)
  | checkpointActivity (occurredAtMs : Nat)

def applyOp (database : Database) : ActivityOp → Database × ActivityAnswer
  | .openStore openedAtMs => openStore database openedAtMs
  | .setAccountActive occurredAtMs active => updateActivity database occurredAtMs active
  | .checkpointActivity occurredAtMs => checkpointActivity database occurredAtMs

def activityStore : Machine Database ActivityOp ActivityAnswer where
  step := applyOp

end Telemetry
end Lirvena
