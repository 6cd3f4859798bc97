import Lirvena.Runtime.AccountEvent
import Lirvena.Telemetry.DailyReport
import Mathlib.Data.Finset.Card
import Mathlib.Data.List.AList

/-!
# The community telemetry worker

The worker takes flush ticks and account events one at a time.  It keeps the accounts that
are active and the last group count of each, and writes what it counts into the store under
the time that an event carries.  A tick brings the activity up to date and then submits the
completed days that are left, one after another, until one is not accepted.

The system around it has the store, the clock, and the reports that were submitted.  The
process may end at any step, and a new one opens the store again.
-/

namespace Lirvena
namespace Telemetry

open Lib Account Lirvena.Runtime

variable {Notice : Type*}

def maxReportsPerFlush : Nat := 8

/-- The state of a running worker. -/
structure Worker where
  activeAccounts : Finset AccountLocalId
  groupCounts : AList fun _ : AccountLocalId => Nat

def Worker.started : Worker where
  activeAccounts := ∅
  groupCounts := ∅

/-- What Ceylith answers to a submission: it may accept the report, refuse it, or accept it
while the process ends before it can mark it. -/
inductive SubmitAnswer where
  | accepted
  | refused
  | lost
  deriving DecidableEq

/-- A report that was submitted, with the row that it was made from. -/
structure Submission where
  reportId : List UInt8
  day : CompletedDay
  row : DayRow
  accepted : Bool
  deriving DecidableEq

structure TelemetrySystem where
  database : ReportDatabase
  worker : Option Worker
  lastMs : Nat
  reports : List Submission

inductive TelemetryAction (Notice : Type*) where
  | start (digest : List UInt8)
  | shutdown
  | tick (answers : List SubmitAnswer)
  | received (answer : Except ReceiveError (AccountEvent Notice))

/-- An action at a time, which the process can read or not. -/
structure TelemetryInput (Notice : Type*) where
  atMs : Nat
  readable : Bool
  action : TelemetryAction Notice

/-- `now_ms`. -/
def TelemetryInput.nowMs (input : TelemetryInput Notice) : Option Nat :=
  if input.readable = true ∧ input.atMs < u64Bound then some input.atMs else none

/-! ## Events -/

/-- A signal that is not persisted is left out. -/
def persist (database : ReportDatabase) (result : Except TelemetryStoreError ReportDatabase) :
    ReportDatabase :=
  match result with
  | .ok next => next
  | .error _ => database

/-- `set_account_active`, whose result is only reported. -/
def setAccountActive (database : ReportDatabase) (occurredAtMs : Nat) (active : Bool) :
    ReportDatabase × Except TelemetryStoreError Unit :=
  runActivity (.setAccountActive occurredAtMs active) database

/-- The set is changed before the store is. -/
def recordLifecycle (database : ReportDatabase) (worker : Worker) (localId : AccountLocalId)
    (phase : AccountPhase) (occurredAtMs : Nat) : ReportDatabase × Worker :=
  if phase = .active then
    if localId ∈ worker.activeAccounts then (database, worker)
    else ((setAccountActive database occurredAtMs true).1,
      { worker with activeAccounts := insert localId worker.activeAccounts })
  else
    if localId ∈ worker.activeAccounts then ((setAccountActive database occurredAtMs false).1,
      { worker with activeAccounts := worker.activeAccounts.erase localId })
    else (database, worker)

/-- The sum of the group counts, if it fits its word. -/
def totalGroups (groupCounts : AList fun _ : AccountLocalId => Nat) : Option Nat :=
  groupCounts.entries.foldlM (fun total entry => checkedAddU64 total entry.2) 0

def recordGroupCount (database : ReportDatabase) (worker : Worker) (localId : AccountLocalId)
    (count occurredAtMs : Nat) : ReportDatabase × Worker :=
  let groupCounts := worker.groupCounts.insert localId count
  (persist database ((okOr .invalidInput (totalGroups groupCounts)).bind
      (database.observeGroupCount occurredAtMs)), { worker with groupCounts := groupCounts })

def recordEvent (database : ReportDatabase) (worker : Worker) (nowMs : Option Nat) :
    AccountEvent Notice → ReportDatabase × Worker
  | .identityReady _ _ | .notice _ => (database, worker)
  | .message _ => (persist database ((okOr .invalidInput nowMs).bind database.recordReceived),
      worker)
  | .outboundMessageAccepted _ occurredAtMs =>
      (persist database (database.recordSent occurredAtMs), worker)
  | .groupCountObserved localId count occurredAtMs =>
      recordGroupCount database worker localId count occurredAtMs
  | .lifecycle localId phase _ occurredAtMs =>
      recordLifecycle database worker localId phase occurredAtMs

/-! ## Reports -/

/-- The identifier of an installation, and the digest that it names its reports by. -/
structure Installation where
  id : Vector UInt8 16
  sha256 : List UInt8 → List UInt8

def reportPreimage (installation : Installation) (day : Nat) : List UInt8 :=
  asciiBytes "lirvena-community-report-v1" ++ installation.id.toList ++ beBytes 4 day

def reportId (installation : Installation) (day : Nat) : List UInt8 :=
  (installation.sha256 (reportPreimage installation day)).take 16

/-- What a flush leaves: the store, what it submitted, and whether the process goes on. -/
structure FlushResult where
  database : ReportDatabase
  submissions : List Submission
  survives : Bool

/-- The attempts of one flush.  One that is not answered is refused. -/
def submitReports (installation : Installation) (generatedAtMs : Nat) :
    Nat → List SubmitAnswer → ReportDatabase → FlushResult
  | 0, _, database => ⟨database, [], true⟩
  | attempts + 1, answers, database =>
      match database.oldestPending generatedAtMs with
      | .error _ | .ok none => ⟨database, [], true⟩
      | .ok (some row) =>
          let submitted (accepted : Bool) : Submission :=
            ⟨reportId installation row.utcDay, toCompletedDay row, row, accepted⟩
          match answers with
          | [] | .refused :: _ => ⟨database, [submitted false], true⟩
          | .lost :: _ => ⟨database, [submitted true], false⟩
          | .accepted :: rest =>
              match database.markSent row.utcDay generatedAtMs with
              | .error _ => ⟨database, [submitted true], true⟩
              | .ok next =>
                  let later := submitReports installation generatedAtMs attempts rest next
                  { later with submissions := submitted true :: later.submissions }

def flush (installation : Installation) (nowMs : Option Nat) (answers : List SubmitAnswer)
    (database : ReportDatabase) : FlushResult :=
  match nowMs with
  | none => ⟨database, [], true⟩
  | some generatedAtMs =>
      match runActivity (.checkpointActivity generatedAtMs) database with
      | (database, .error _) => ⟨database, [], true⟩
      | (database, .ok ()) =>
          submitReports installation generatedAtMs maxReportsPerFlush answers database

/-! ## The start and the end -/

/-- `CommunityTelemetryRuntime::start`: an error leaves what was written before it. -/
def startWorker (nowMs : Option Nat) (digest : List UInt8) (database : ReportDatabase) :
    ReportDatabase × Option Worker :=
  match nowMs with
  | none => (database, none)
  | some openedAtMs =>
      match runActivity (.openStore openedAtMs) database with
      | (database, .error _) => (database, none)
      | (database, .ok ()) =>
          match database.observeAccountSet openedAtMs digest with
          | .error _ => (database, none)
          | .ok next => (next, some .started)

/-- `close_active_accounts`, for the number of accounts that are left. -/
def closeActiveAccounts (timeMs : Nat) : Nat → ReportDatabase → ReportDatabase
  | 0, database => database
  | accounts + 1, database =>
      match setAccountActive database timeMs false with
      | (next, .error _) => next
      | (next, .ok ()) => closeActiveAccounts timeMs accounts next

/-! ## The system -/

namespace TelemetrySystem

def act (installation : Installation) (system : TelemetrySystem) (input : TelemetryInput Notice) :
    TelemetrySystem :=
  match input.action, system.worker with
  | .start digest, _ =>
      -- Whatever ran before has ended.
      let (database, worker) := startWorker input.nowMs digest system.database
      { system with database := database, worker := worker }
  | _, none => system
  | .shutdown, some worker => { system with
      database := closeActiveAccounts (input.nowMs.getD 0) worker.activeAccounts.card
        system.database
      worker := none }
  | .tick answers, some worker =>
      let flushed := flush installation input.nowMs answers system.database
      { system with
        database := flushed.database
        worker := if flushed.survives then some worker else none
        reports := system.reports ++ flushed.submissions }
  | .received (.error .closed), some _ => { system with worker := none }
  | .received (.error .lagged), some _ => system
  | .received (.ok event), some worker =>
      let (database, worker) := recordEvent system.database worker input.nowMs event
      { system with database := database, worker := some worker }

end TelemetrySystem

/-- The system takes one input after another; the reports are part of its state. -/
def telemetry (installation : Installation) :
    Machine TelemetrySystem (TelemetryInput Notice) Unit where
  step system input := ({ system.act installation input with lastMs := input.atMs }, ())

/-- A new installation. -/
def TelemetrySystem.installed : TelemetrySystem where
  database := .empty
  worker := none
  lastMs := 0
  reports := []

end Telemetry
end Lirvena
