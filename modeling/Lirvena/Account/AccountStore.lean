import Lirvena.Lib.Result

/-!
# The store of one account

The lifecycle of an account is one row of a private database, with a log of
every transition behind it.  The row is read again before each transition and
written together with its log entry in one transaction, which the database
carries through or rolls back as a whole.

An operation that runs several transactions returns the database it leaves
behind and its result; a single transaction returns a database only if it is
committed.
-/

namespace Lirvena
namespace Account

open Lib

/-- Installation-local account identifier that never contains a QQ number. -/
@[ext] structure AccountLocalId where
  bytes : List UInt8
  length_eq : bytes.length = 16

instance : DecidableEq AccountLocalId :=
  fun _ _ => decidable_of_iff _ AccountLocalId.ext_iff.symm

theorem ones_length : (List.replicate 16 (1 : UInt8)).length = 16 := List.length_replicate

/-- Redacted account persistence failure. -/
inductive AccountRuntimeError where
  | configuration
  | persistence
  | transitionRejected
  deriving DecidableEq

/-- Durable account-worker lifecycle. -/
inductive AccountPhase where
  | stopped
  | starting
  | active
  | protectiveOffline
  deriving DecidableEq

/-- Stable reason recorded whenever an account enters protective offline state. -/
inductive ProtectiveReason where
  | processRestart
  | ceylithContinuity
  | grantUnavailable
  | profileUnavailable
  | remoteSessionEnded
  | workerFailure
  deriving DecidableEq

def AccountPhase.stored : AccountPhase → UInt8
  | .stopped => 0
  | .starting => 1
  | .active => 2
  | .protectiveOffline => 3

def AccountPhase.fromStored : UInt8 → Option AccountPhase
  | 0 => some .stopped
  | 1 => some .starting
  | 2 => some .active
  | 3 => some .protectiveOffline
  | _ => none

@[simp] theorem AccountPhase.fromStored_stored (phase : AccountPhase) :
    AccountPhase.fromStored phase.stored = some phase := by
  cases phase <;> rfl

theorem AccountPhase.fromStored_eq_some {value : UInt8} {phase : AccountPhase}
    (hread : AccountPhase.fromStored value = some phase) : value = phase.stored := by
  unfold AccountPhase.fromStored at hread
  split at hread <;> cases hread <;> rfl

theorem AccountPhase.stored_inj {first second : AccountPhase} :
    first.stored = second.stored ↔ first = second := by
  constructor
  · intro hstored
    have hread := congrArg AccountPhase.fromStored hstored
    simpa using hread
  · exact congrArg AccountPhase.stored

def ProtectiveReason.stored : ProtectiveReason → UInt8
  | .processRestart => 1
  | .ceylithContinuity => 2
  | .grantUnavailable => 3
  | .profileUnavailable => 4
  | .remoteSessionEnded => 5
  | .workerFailure => 6

def ProtectiveReason.fromStored : UInt8 → Option ProtectiveReason
  | 1 => some .processRestart
  | 2 => some .ceylithContinuity
  | 3 => some .grantUnavailable
  | 4 => some .profileUnavailable
  | 5 => some .remoteSessionEnded
  | 6 => some .workerFailure
  | _ => none

@[simp] theorem ProtectiveReason.fromStored_stored (reason : ProtectiveReason) :
    ProtectiveReason.fromStored reason.stored = some reason := by
  cases reason <;> rfl

/-- Latest durable state for one installation-local account. -/
structure AccountSnapshot where
  localId : AccountLocalId
  phase : AccountPhase
  generation : Nat
  protectiveReason : Option ProtectiveReason
  updatedAtMs : Nat
  deriving DecidableEq

/-- Requested lifecycle transition. -/
structure AccountTransition where
  next : AccountPhase
  protectiveReason : Option ProtectiveReason
  occurredAtMs : Nat
  deriving DecidableEq

/-- Durable transition result. -/
structure TransitionReceipt where
  previous : AccountSnapshot
  current : AccountSnapshot
  deriving DecidableEq

/-! ## The database -/

/-- The row of `account_state`.  Its checks admit no negative integer. -/
structure AccountRow where
  phase : UInt8
  generation : Nat
  protectiveReason : Option UInt8
  updatedAtMs : Nat
  deriving DecidableEq

/-- A row of `account_transitions`. -/
structure TransitionRow where
  generation : Nat
  fromPhase : UInt8
  toPhase : UInt8
  protectiveReason : Option UInt8
  occurredAtMs : Nat
  deriving DecidableEq

/-- The database file of one account; the log is in the order of its row ids. -/
structure Database where
  userVersion : Nat
  accountState : Option AccountRow
  accountTransitions : List TransitionRow
  deriving DecidableEq

def schemaVersion : Nat := 1

/-- The file that opening a new account creates. -/
def Database.empty : Database where
  userVersion := 0
  accountState := none
  accountTransitions := []

abbrev toI64 : Nat → Except AccountRuntimeError Nat :=
  tryI64 .configuration

/-- The row that `create_schema` inserts. -/
def initialRow (createdAtMs : Nat) : AccountRow where
  phase := AccountPhase.stopped.stored
  generation := 0
  protectiveReason := none
  updatedAtMs := createdAtMs

/-- The end of a transaction: the database carries it through or rolls it back. -/
def commit (commits : Bool) (database : Database) : Except AccountRuntimeError Database :=
  if commits then .ok database else .error .persistence

def createSchema (createdAtMs : Nat) (commits : Bool) : Except AccountRuntimeError Database := do
  let createdAtMs ← toI64 createdAtMs
  commit commits {
    userVersion := schemaVersion
    accountState := some (initialRow createdAtMs)
    accountTransitions := [] }

def migrate (database : Database) (createdAtMs : Nat) (commits : Bool) :
    Except AccountRuntimeError Database :=
  if database.userVersion = schemaVersion then .ok database
  else if database.userVersion = 0 then createSchema createdAtMs commits
  else .error .configuration

/-! ## Transitions -/

def validateReason (phase : AccountPhase) (reason : Option ProtectiveReason) :
    Except AccountRuntimeError Unit :=
  if decide (phase = .protectiveOffline) = reason.isSome then .ok ()
  else .error .configuration

def allowed : AccountPhase → AccountPhase → Bool
  | .stopped, .starting | .protectiveOffline, .starting => true
  | .starting, .active | .starting, .stopped | .starting, .protectiveOffline => true
  | .active, .stopped | .active, .protectiveOffline => true
  | _, _ => false

def validateTransition (previous : AccountSnapshot) (requested : AccountTransition) :
    Except AccountRuntimeError Unit := do
  (validateReason requested.next requested.protectiveReason).mapError
    (fun _ => .transitionRejected)
  rejectIf .transitionRejected (requested.occurredAtMs < previous.updatedAtMs)
  if allowed previous.phase requested.next then .ok () else .error .transitionRejected

/-- The optional reason column. -/
def readReason : Option UInt8 → Except AccountRuntimeError (Option ProtectiveReason)
  | some value => some <$> okOr .configuration (ProtectiveReason.fromStored value)
  | none => .ok none

/-- The generation a transition writes: starting counts it up. -/
def nextGeneration (previous : AccountSnapshot) (requested : AccountTransition) :
    Except AccountRuntimeError Nat :=
  if requested.next = .starting then
    okOr .transitionRejected (checkedAddU64 previous.generation 1)
  else
    .ok previous.generation

section Store

variable (localId : AccountLocalId)

def snapshot (database : Database) : Except AccountRuntimeError AccountSnapshot := do
  let stored ← okOr .persistence database.accountState
  let phase ← okOr .configuration (AccountPhase.fromStored stored.phase)
  let reason ← readReason stored.protectiveReason
  validateReason phase reason
  return {
    localId := localId
    phase := phase
    generation := stored.generation
    protectiveReason := reason
    updatedAtMs := stored.updatedAtMs }

/-- The transaction of `commit_transition`. -/
def commitTransition (database : Database) (previous current : AccountSnapshot)
    (commits : Bool) : Except AccountRuntimeError Database := do
  let generation ← toI64 current.generation
  let updatedAtMs ← toI64 current.updatedAtMs
  let previousGeneration ← toI64 previous.generation
  -- the row count of the guarded update
  rejectIf .persistence (¬ database.accountState.any (fun row =>
    row.phase = previous.phase.stored && row.generation = previousGeneration))
  commit commits { database with
    accountState := some {
      phase := current.phase.stored
      generation := generation
      protectiveReason := current.protectiveReason.map ProtectiveReason.stored
      updatedAtMs := updatedAtMs }
    accountTransitions := database.accountTransitions ++ [{
      generation := generation
      fromPhase := previous.phase.stored
      toPhase := current.phase.stored
      protectiveReason := current.protectiveReason.map ProtectiveReason.stored
      occurredAtMs := updatedAtMs }] }

def transition (database : Database) (requested : AccountTransition) (commits : Bool) :
    Except AccountRuntimeError (Database × TransitionReceipt) := do
  let previous ← snapshot localId database
  validateTransition previous requested
  let generation ← nextGeneration previous requested
  let current : AccountSnapshot := {
    localId := localId
    phase := requested.next
    generation := generation
    protectiveReason := requested.protectiveReason
    updatedAtMs := requested.occurredAtMs }
  let next ← commitTransition database previous current commits
  return (next, ⟨previous, current⟩)

def recoverInterrupted (database : Database) (occurredAtMs : Nat) (commits : Bool) :
    Except AccountRuntimeError Database := do
  let current ← snapshot localId database
  if current.phase = .starting ∨ current.phase = .active then
    let (next, _) ← transition localId database {
      next := .protectiveOffline
      protectiveReason := some .processRestart
      occurredAtMs := max occurredAtMs current.updatedAtMs } commits
    return next
  else
    return database

/-- What the storage below does while a store is opened: whether the file can be
opened, and which of the two transactions are carried through. -/
structure OpenStorage where
  connection : Except AccountRuntimeError Unit
  createsSchema : Bool
  recovers : Bool

/-- `AccountStore::open`: the schema is committed before the recovery begins. -/
def openStore (database : Database) (recoveryAtMs : Nat) (storage : OpenStorage) :
    Database × Except AccountRuntimeError Unit :=
  match storage.connection with
  | .error error => (database, .error error)
  | .ok () =>
      match migrate database recoveryAtMs storage.createsSchema with
      | .error error => (database, .error error)
      | .ok migrated =>
          match recoverInterrupted localId migrated recoveryAtMs storage.recovers with
          | .error error => (migrated, .error error)
          | .ok recovered => (recovered, .ok ())

end Store

/-! ## What a committed transition is -/

theorem commit_eq_ok_iff {commits : Bool} {database result : Database} :
    commit commits database = .ok result ↔ commits = true ∧ result = database := by
  cases commits <;> simp [commit, eq_comm]

theorem validateReason_eq_ok_iff {phase : AccountPhase} {reason : Option ProtectiveReason} :
    validateReason phase reason = .ok () ↔
      (phase = .protectiveOffline ↔ reason.isSome = true) := by
  unfold validateReason
  by_cases hphase : phase = .protectiveOffline <;> cases reason <;> simp [hphase]

theorem validateTransition_eq_ok {previous : AccountSnapshot}
    {requested : AccountTransition}
    (hvalid : validateTransition previous requested = .ok ()) :
    (requested.next = .protectiveOffline ↔ requested.protectiveReason.isSome = true) ∧
      previous.updatedAtMs ≤ requested.occurredAtMs ∧
      allowed previous.phase requested.next = true := by
  unfold validateTransition at hvalid
  obtain ⟨⟨⟩, hreason, hvalid⟩ := bind_eq_ok_iff.mp hvalid
  obtain ⟨⟨⟩, htime, hallowed⟩ := bind_eq_ok_iff.mp hvalid
  refine ⟨validateReason_eq_ok_iff.mp ?_, ?_, ?_⟩
  · cases hcheck : validateReason requested.next requested.protectiveReason with
    | error error =>
        rw [hcheck] at hreason
        cases hreason
    | ok value => rfl
  · have hbefore := rejectIf_eq_ok_iff.mp htime
    omega
  · split at hallowed
    · next hpair => exact hpair
    · cases hallowed

/-- The log entry of a transition and the row it leaves. -/
def TransitionRow.target (entry : TransitionRow) : AccountRow where
  phase := entry.toPhase
  generation := entry.generation
  protectiveReason := entry.protectiveReason
  updatedAtMs := entry.occurredAtMs

/-- An entry that leads on from a row: it leaves the row's phase for one that may
follow, not before the row's time, with a reason exactly when it is protective,
and it counts the generation up exactly when it starts one. -/
structure Follows (row : AccountRow) (entry : TransitionRow) : Prop where
  fromPhase_eq : entry.fromPhase = row.phase
  phases : ∃ previous next, row.phase = previous.stored ∧ entry.toPhase = next.stored ∧
    allowed previous next = true
  reason : entry.toPhase = AccountPhase.protectiveOffline.stored ↔
    entry.protectiveReason.isSome = true
  generation_eq : entry.generation =
    row.generation + if entry.toPhase = AccountPhase.starting.stored then 1 else 0
  occurredAtMs_le : row.updatedAtMs ≤ entry.occurredAtMs

section Committed

variable {localId : AccountLocalId} {database next : Database} {commits : Bool}

theorem snapshot_eq_ok {current : AccountSnapshot}
    (hsnapshot : snapshot localId database = .ok current) :
    ∃ row, database.accountState = some row ∧
      AccountPhase.fromStored row.phase = some current.phase ∧
      current.generation = row.generation ∧ current.updatedAtMs = row.updatedAtMs := by
  unfold snapshot at hsnapshot
  obtain ⟨row, hrow, hsnapshot⟩ := bind_eq_ok_iff.mp hsnapshot
  obtain ⟨phase, hphase, hsnapshot⟩ := bind_eq_ok_iff.mp hsnapshot
  obtain ⟨reason, -, hsnapshot⟩ := bind_eq_ok_iff.mp hsnapshot
  obtain ⟨⟨⟩, -, hreturn⟩ := bind_eq_ok_iff.mp hsnapshot
  cases hreturn
  exact ⟨row, okOr_eq_ok_iff.mp hrow, okOr_eq_ok_iff.mp hphase, rfl, rfl⟩

/-- A committed transition appends one entry that follows the row, and the row
becomes its target. -/
theorem transition_eq_ok {requested : AccountTransition} {receipt : TransitionReceipt}
    (hok : transition localId database requested commits = .ok (next, receipt)) :
    ∃ row entry, database.accountState = some row ∧ Follows row entry ∧
      entry.toPhase = requested.next.stored ∧
      next = { database with
        accountState := some entry.target
        accountTransitions := database.accountTransitions ++ [entry] } := by
  unfold transition at hok
  obtain ⟨previous, hprevious, hok⟩ := bind_eq_ok_iff.mp hok
  obtain ⟨⟨⟩, hvalid, hok⟩ := bind_eq_ok_iff.mp hok
  obtain ⟨generation, hgeneration, hok⟩ := bind_eq_ok_iff.mp hok
  obtain ⟨committed, hcommit, hreturn⟩ := bind_eq_ok_iff.mp hok
  cases hreturn
  obtain ⟨row, hrow, -, hrowGeneration, hrowTime⟩ := snapshot_eq_ok hprevious
  obtain ⟨hreason, htime, hallowed⟩ := validateTransition_eq_ok hvalid
  unfold commitTransition at hcommit
  obtain ⟨storedGeneration, hstored, hcommit⟩ := bind_eq_ok_iff.mp hcommit
  obtain ⟨-, rfl⟩ := tryI64_eq_ok_iff.mp hstored
  obtain ⟨storedTime, hstored, hcommit⟩ := bind_eq_ok_iff.mp hcommit
  obtain ⟨-, rfl⟩ := tryI64_eq_ok_iff.mp hstored
  obtain ⟨previousGeneration, hstored, hcommit⟩ := bind_eq_ok_iff.mp hcommit
  obtain ⟨-, rfl⟩ := tryI64_eq_ok_iff.mp hstored
  obtain ⟨⟨⟩, hguard, hcommit⟩ := bind_eq_ok_iff.mp hcommit
  obtain ⟨-, rfl⟩ := commit_eq_ok_iff.mp hcommit
  -- The guard of the update statement compares the stored row with the one that was read.
  have hphase : row.phase = previous.phase.stored := by
    have hmatch := rejectIf_eq_ok_iff.mp hguard
    rw [hrow] at hmatch
    simp only [Option.any_some, Bool.and_eq_true, decide_eq_true_eq, not_not] at hmatch
    exact hmatch.1
  refine ⟨row, ⟨storedGeneration, previous.phase.stored, requested.next.stored,
    requested.protectiveReason.map ProtectiveReason.stored, requested.occurredAtMs⟩,
    hrow, ⟨hphase.symm, ⟨_, _, hphase, rfl, hallowed⟩, ?_, ?_, ?_⟩, rfl, rfl⟩
  · simp only [AccountPhase.stored_inj, Option.isSome_map]
    exact hreason
  · -- Only a start takes a new generation.
    simp only [AccountPhase.stored_inj]
    unfold nextGeneration at hgeneration
    split at hgeneration
    · next hstarting =>
        rw [if_pos hstarting, ← hrowGeneration]
        exact (checkedAddU64_eq_some_iff.mp (okOr_eq_ok_iff.mp hgeneration)).2
    · next hstarting =>
        cases hgeneration
        rw [if_neg hstarting, Nat.add_zero, hrowGeneration]
  · rw [← hrowTime]
    exact htime

/-- A row that was written from a phase and a reason that fit is read back. -/
theorem snapshot_of_row {phase : AccountPhase} {reason : Option ProtectiveReason}
    {generation updatedAtMs : Nat}
    (hrow : database.accountState = some
      ⟨phase.stored, generation, reason.map ProtectiveReason.stored, updatedAtMs⟩)
    (hreason : phase = .protectiveOffline ↔ reason.isSome = true) :
    snapshot localId database = .ok ⟨localId, phase, generation, reason, updatedAtMs⟩ := by
  have hread : readReason (reason.map ProtectiveReason.stored) = .ok reason := by
    cases reason with
    | none => rfl
    | some reason =>
        exact map_eq_ok_iff.mpr ⟨reason, okOr_eq_ok_iff.mpr (by simp), rfl⟩
  refine bind_eq_ok_iff.mpr ⟨_, okOr_eq_ok_iff.mpr hrow, ?_⟩
  refine bind_eq_ok_iff.mpr ⟨phase, okOr_eq_ok_iff.mpr (by simp), ?_⟩
  refine bind_eq_ok_iff.mpr ⟨reason, hread, ?_⟩
  exact bind_eq_ok_iff.mpr ⟨(), validateReason_eq_ok_iff.mpr hreason, rfl⟩

/-- A committed transition is read back as it was requested, with the generation
it was given. -/
theorem transition_snapshot {requested : AccountTransition} {receipt : TransitionReceipt}
    (hok : transition localId database requested commits = .ok (next, receipt)) :
    ∃ current, snapshot localId next = .ok current ∧ current.phase = requested.next ∧
      current.protectiveReason = requested.protectiveReason ∧
      current.updatedAtMs = requested.occurredAtMs ∧ current.generation < i64Bound := by
  unfold transition at hok
  obtain ⟨previous, -, hok⟩ := bind_eq_ok_iff.mp hok
  obtain ⟨⟨⟩, hvalid, hok⟩ := bind_eq_ok_iff.mp hok
  obtain ⟨generation, -, hok⟩ := bind_eq_ok_iff.mp hok
  obtain ⟨committed, hcommit, hreturn⟩ := bind_eq_ok_iff.mp hok
  cases hreturn
  unfold commitTransition at hcommit
  obtain ⟨storedGeneration, hstored, hcommit⟩ := bind_eq_ok_iff.mp hcommit
  obtain ⟨hfits, rfl⟩ := tryI64_eq_ok_iff.mp hstored
  obtain ⟨storedTime, hstored, hcommit⟩ := bind_eq_ok_iff.mp hcommit
  obtain ⟨-, rfl⟩ := tryI64_eq_ok_iff.mp hstored
  obtain ⟨previousGeneration, -, hcommit⟩ := bind_eq_ok_iff.mp hcommit
  obtain ⟨⟨⟩, -, hcommit⟩ := bind_eq_ok_iff.mp hcommit
  obtain ⟨-, rfl⟩ := commit_eq_ok_iff.mp hcommit
  exact ⟨_, snapshot_of_row rfl (validateTransition_eq_ok hvalid).1, rfl, rfl, rfl, hfits⟩

/-- A transition that passes its checks, into another phase than starting, is
carried through where the database commits it. -/
theorem transition_isOk {requested : AccountTransition} {previous : AccountSnapshot}
    (hprevious : snapshot localId database = .ok previous)
    (hreason : requested.next = .protectiveOffline ↔ requested.protectiveReason.isSome = true)
    (htime : previous.updatedAtMs ≤ requested.occurredAtMs)
    (hallowed : allowed previous.phase requested.next = true)
    (hstarting : requested.next ≠ .starting)
    (hgeneration : previous.generation < i64Bound)
    (hfits : requested.occurredAtMs < i64Bound) :
    ∃ next receipt, transition localId database requested true = .ok (next, receipt) := by
  obtain ⟨row, hrow, hphase, hrowGeneration, -⟩ := snapshot_eq_ok hprevious
  have hvalid : validateTransition previous requested = .ok () := by
    simp only [validateTransition, validateReason_eq_ok_iff.mpr hreason, rejectIf,
      Nat.not_lt.mpr htime, hallowed]
    rfl
  -- The row is still the one that was read, so the guarded update finds it.
  have hguard : database.accountState.any (fun row =>
      row.phase = previous.phase.stored && row.generation = previous.generation) = true := by
    rw [hrow, Option.any_some, AccountPhase.fromStored_eq_some hphase, hrowGeneration]
    simp
  have hkeeps : nextGeneration previous requested = .ok previous.generation :=
    if_neg hstarting
  let current : AccountSnapshot := ⟨localId, requested.next, previous.generation,
    requested.protectiveReason, requested.occurredAtMs⟩
  have hcommit : ∃ committed,
      commitTransition database previous current true = .ok committed := by
    refine ⟨{ database with
      accountState := some ⟨requested.next.stored, previous.generation,
        requested.protectiveReason.map ProtectiveReason.stored, requested.occurredAtMs⟩
      accountTransitions := database.accountTransitions ++ [⟨previous.generation,
        previous.phase.stored, requested.next.stored,
        requested.protectiveReason.map ProtectiveReason.stored,
        requested.occurredAtMs⟩] }, ?_⟩
    refine bind_eq_ok_iff.mpr ⟨_, tryI64_eq_ok_iff.mpr ⟨hgeneration, rfl⟩, ?_⟩
    refine bind_eq_ok_iff.mpr ⟨_, tryI64_eq_ok_iff.mpr ⟨hfits, rfl⟩, ?_⟩
    refine bind_eq_ok_iff.mpr ⟨_, tryI64_eq_ok_iff.mpr ⟨hgeneration, rfl⟩, ?_⟩
    exact bind_eq_ok_iff.mpr ⟨(), rejectIf_eq_ok_iff.mpr (not_not.mpr hguard), rfl⟩
  obtain ⟨committed, hcommit⟩ := hcommit
  refine ⟨committed, ⟨previous, current⟩, bind_eq_ok_iff.mpr ⟨previous, hprevious, ?_⟩⟩
  refine bind_eq_ok_iff.mpr ⟨(), hvalid, bind_eq_ok_iff.mpr ⟨_, hkeeps, ?_⟩⟩
  exact bind_eq_ok_iff.mpr ⟨committed, hcommit, rfl⟩

end Committed

end Account
end Lirvena
