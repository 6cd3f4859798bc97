import Lirvena.Telemetry.CommunityStore

/-!
# The daily reports of the community telemetry store

A row of `daily` has the counts of one UTC day, and the time at which its report was
accepted.  The activity operations are those of the activity store, written into whole rows;
`runActivity_activity` says that they do the same to the columns that activity is about.

A completed day is reported in fixed buckets.
-/

namespace Lirvena
namespace Telemetry

open Lib

/-- A row of `daily`. -/
structure DayRow where
  utcDay : Nat
  groupCount : Nat
  received : Nat
  sent : Nat
  activeMs : Nat
  churn : Nat
  sentAtMs : Option Nat
  deriving DecidableEq

/-- The row that is inserted for a day. -/
def DayRow.fresh (day : Nat) : DayRow :=
  ⟨day, 0, 0, 0, 0, 0, none⟩

/-- The tables of the store. -/
structure ReportDatabase where
  daily : List DayRow
  runtime : RuntimeState
  accountSetDigest : Option (List UInt8)
  deriving DecidableEq

/-- The tables that `migrate` creates. -/
def ReportDatabase.empty : ReportDatabase where
  daily := []
  runtime := Database.empty.runtime
  accountSetDigest := none

/-! ## Rows -/

/-- `INSERT OR IGNORE INTO daily (utc_day)`. -/
def ensureRow (daily : List DayRow) (day : Nat) : List DayRow :=
  if daily.any (fun row => row.utcDay = day) then daily else daily ++ [.fresh day]

def updateRow (daily : List DayRow) (day : Nat) (update : DayRow → DayRow) : List DayRow :=
  daily.map fun row => if row.utcDay = day then update row else row

/-- The row of a day is made sure of and changed. -/
def writeRow (daily : List DayRow) (day : Nat) (update : DayRow → DayRow) : List DayRow :=
  updateRow (ensureRow daily day) day update

inductive Counter where
  | received
  | sent
  deriving DecidableEq

def DayRow.count (counter : Counter) (row : DayRow) : DayRow :=
  match counter with
  | .received => { row with received := row.received + 1 }
  | .sent => { row with sent := row.sent + 1 }

namespace ReportDatabase

def increment (database : ReportDatabase) (occurredAtMs : Nat) (counter : Counter) :
    Except TelemetryStoreError ReportDatabase := do
  let day ← utcDay occurredAtMs
  return { database with daily := writeRow database.daily day (.count counter) }

def recordReceived (database : ReportDatabase) (occurredAtMs : Nat) :
    Except TelemetryStoreError ReportDatabase :=
  database.increment occurredAtMs .received

def recordSent (database : ReportDatabase) (occurredAtMs : Nat) :
    Except TelemetryStoreError ReportDatabase :=
  database.increment occurredAtMs .sent

def observeGroupCount (database : ReportDatabase) (occurredAtMs count : Nat) :
    Except TelemetryStoreError ReportDatabase := do
  let day ← utcDay occurredAtMs
  let count ← toI64 count
  return { database with
    daily := writeRow database.daily day fun row =>
      { row with groupCount := max row.groupCount count } }

/-- The row of the day is made sure of whether the set has changed or not. -/
def observeAccountSet (database : ReportDatabase) (occurredAtMs : Nat) (digest : List UInt8) :
    Except TelemetryStoreError ReportDatabase := do
  let day ← utcDay occurredAtMs
  let daily := ensureRow database.daily day
  let changed := database.accountSetDigest.any fun previous => previous ≠ digest
  return { database with
    daily := if changed then updateRow daily day fun row => { row with churn := row.churn + 1 }
      else daily
    accountSetDigest := some digest }

/-! ## Activity -/

/-- The columns that activity is about. -/
def activity (database : ReportDatabase) : Database where
  daily := database.daily.map fun row => ⟨row.utcDay, row.activeMs⟩
  runtime := database.runtime

end ReportDatabase

def addActivePiece (daily : List DayRow) (piece : Interval) : List DayRow :=
  writeRow daily (piece.start / millisPerDay) fun row =>
    { row with activeMs := row.activeMs + piece.length }

/-- An activity operation on whole rows: its pieces are added to them. -/
def runActivity (operation : ActivityOp) (database : ReportDatabase) :
    ReportDatabase × Except TelemetryStoreError Unit :=
  let (after, answer) := applyOp database.activity operation
  ({ database with
      daily := answer.pieces.foldl addActivePiece database.daily
      runtime := after.runtime }, answer.result)

theorem any_day_activity (daily : List DayRow) (day : Nat) :
    (daily.map fun row => (⟨row.utcDay, row.activeMs⟩ : DailyRow)).any
        (fun row => row.utcDay = day) = daily.any fun row => row.utcDay = day := by
  rw [List.any_map]
  rfl

theorem activity_addActivePiece (daily : List DayRow) (piece : Interval) :
    (addActivePiece daily piece).map (fun row => (⟨row.utcDay, row.activeMs⟩ : DailyRow)) =
      addPiece (daily.map fun row => ⟨row.utcDay, row.activeMs⟩) piece := by
  unfold addActivePiece writeRow updateRow addPiece
  have hensure : (ensureRow daily (piece.start / millisPerDay)).map
        (fun row => (⟨row.utcDay, row.activeMs⟩ : DailyRow)) =
      ensureDay (daily.map fun row => ⟨row.utcDay, row.activeMs⟩)
        (piece.start / millisPerDay) := by
    unfold ensureRow ensureDay
    rw [any_day_activity]
    split
    · rfl
    · simp [DayRow.fresh]
  rw [← hensure, List.map_map, List.map_map]
  refine List.map_congr_left fun row _ => ?_
  simp only [Function.comp_apply]
  split <;> rfl

theorem activity_foldl (daily : List DayRow) (pieces : List Interval) :
    (pieces.foldl addActivePiece daily).map (fun row => (⟨row.utcDay, row.activeMs⟩ : DailyRow)) =
      pieces.foldl addPiece (daily.map fun row => ⟨row.utcDay, row.activeMs⟩) := by
  induction pieces generalizing daily with
  | nil => rfl
  | cons piece rest ih =>
      rw [List.foldl_cons, List.foldl_cons, ih, activity_addActivePiece]

/-- An operation leaves the days as its pieces make them. -/
theorem closeAndUpdate_daily (database : Database) (closes : Bool) (endedAtMs : Nat)
    (update : Except TelemetryStoreError RuntimeState) :
    (closeAndUpdate database closes endedAtMs update).1.daily =
      (closeAndUpdate database closes endedAtMs update).2.pieces.foldl addPiece
        database.daily := by
  unfold closeAndUpdate
  dsimp only
  split <;> rfl

theorem applyOp_daily (database : Database) (operation : ActivityOp) :
    (applyOp database operation).1.daily =
      (applyOp database operation).2.pieces.foldl addPiece database.daily := by
  cases operation with
  | openStore openedAtMs =>
      simp only [applyOp, openStore, closeStaleActiveInterval]
      split
      · rfl
      · exact closeAndUpdate_daily ..
  | setAccountActive occurredAtMs active =>
      simp only [applyOp, updateActivity]
      split
      · rfl
      · split
        · rfl
        · split
          · rfl
          · exact closeAndUpdate_daily ..
  | checkpointActivity occurredAtMs =>
      simp only [applyOp, checkpointActivity]
      split
      · rfl
      · exact closeAndUpdate_daily ..

/-- On the columns of activity, an operation is the one of the activity store. -/
theorem runActivity_activity (operation : ActivityOp) (database : ReportDatabase) :
    (runActivity operation database).1.activity = (applyOp database.activity operation).1 := by
  have hdaily := applyOp_daily database.activity operation
  have hrows := activity_foldl database.daily (applyOp database.activity operation).2.pieces
  unfold runActivity ReportDatabase.activity at *
  rw [hrows, ← hdaily]

/-! ## Buckets -/

inductive GroupCountBucket where
  | zero
  | oneToFive
  | sixToTwenty
  | twentyOneToFifty
  | fiftyOneToOneHundred
  | oneHundredOneToTwoHundred
  | twoHundredOneToFiveHundred
  | overFiveHundred
  deriving DecidableEq

def GroupCountBucket.fromCount (value : Nat) : GroupCountBucket :=
  if value = 0 then .zero
  else if value ≤ 5 then .oneToFive
  else if value ≤ 20 then .sixToTwenty
  else if value ≤ 50 then .twentyOneToFifty
  else if value ≤ 100 then .fiftyOneToOneHundred
  else if value ≤ 200 then .oneHundredOneToTwoHundred
  else if value ≤ 500 then .twoHundredOneToFiveHundred
  else .overFiveHundred

inductive MessageCountBucket where
  | zero
  | oneToTwenty
  | twentyOneToOneHundred
  | oneHundredOneToFiveHundred
  | fiveHundredOneToTwoThousand
  | twoThousandOneToTenThousand
  | overTenThousand
  deriving DecidableEq

def MessageCountBucket.fromCount (value : Nat) : MessageCountBucket :=
  if value = 0 then .zero
  else if value ≤ 20 then .oneToTwenty
  else if value ≤ 100 then .twentyOneToOneHundred
  else if value ≤ 500 then .oneHundredOneToFiveHundred
  else if value ≤ 2000 then .fiveHundredOneToTwoThousand
  else if value ≤ 10000 then .twoThousandOneToTenThousand
  else .overTenThousand

inductive ActiveDurationBucket where
  | zero
  | underOneHour
  | oneToFourHours
  | fourToEightHours
  | eightToSixteenHours
  | sixteenToTwentyFourHours
  deriving DecidableEq

def ActiveDurationBucket.fromMilliseconds (value : Nat) : ActiveDurationBucket :=
  if value = 0 then .zero
  else if value < 60 * 60 * 1000 then .underOneHour
  else if value ≤ 14400000 then .oneToFourHours
  else if value ≤ 28800000 then .fourToEightHours
  else if value ≤ 57600000 then .eightToSixteenHours
  else .sixteenToTwentyFourHours

inductive AccountChurnBucket where
  | zero
  | one
  | twoToThree
  | fourToSeven
  | eightOrMore
  deriving DecidableEq

def AccountChurnBucket.fromCount (value : Nat) : AccountChurnBucket :=
  if value = 0 then .zero
  else if value = 1 then .one
  else if value ≤ 3 then .twoToThree
  else if value ≤ 7 then .fourToSeven
  else .eightOrMore

/-! ## Reports -/

/-- Approved coarse summary for one completed UTC day. -/
structure CompletedDay where
  utcDay : Nat
  groupCount : GroupCountBucket
  messagesReceived : MessageCountBucket
  messagesSent : MessageCountBucket
  activeDuration : ActiveDurationBucket
  accountChurn : AccountChurnBucket
  deriving DecidableEq

def toCompletedDay (row : DayRow) : CompletedDay where
  utcDay := row.utcDay
  groupCount := .fromCount row.groupCount
  messagesReceived := .fromCount row.received
  messagesSent := .fromCount row.sent
  activeDuration := .fromMilliseconds row.activeMs
  accountChurn := .fromCount row.churn

/-- The first row of the lowest day. -/
def lowestDay (rows : List DayRow) : Option DayRow :=
  rows.foldl (fun best row => match best with
    | none => some row
    | some other => if row.utcDay < other.utcDay then some row else some other) none

namespace ReportDatabase

/-- The row of the oldest completed day whose report was not accepted yet. -/
def oldestPending (database : ReportDatabase) (nowMs : Nat) :
    Except TelemetryStoreError (Option DayRow) := do
  let currentDay ← utcDay nowMs
  return lowestDay
    (database.daily.filter fun row => row.sentAtMs = none ∧ row.utcDay < currentDay)

def markSent (database : ReportDatabase) (day acceptedAtMs : Nat) :
    Except TelemetryStoreError ReportDatabase := do
  let acceptedDay ← utcDay acceptedAtMs
  rejectIf .invalidInput (acceptedDay ≤ day)
  let acceptedAtMs ← toI64 acceptedAtMs
  rejectIf .invalidInput (¬ database.daily.any fun row => row.utcDay = day)
  return { database with
    daily := updateRow database.daily day fun row =>
      { row with sentAtMs := some (row.sentAtMs.getD acceptedAtMs) } }

end ReportDatabase

end Telemetry
end Lirvena
