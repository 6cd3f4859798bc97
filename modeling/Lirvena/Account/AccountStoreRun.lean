import Lirvena.Account.AccountStore
import Lirvena.Lib.Run

/-!
# Histories of an account store

A store is opened, moved and opened again in any order, and any of its
transactions may fail.  What its row says can be read off the log of
transitions: the log is a chain of admitted steps from the row the schema was
created with to the current row, and so its reason, its generation and its time
follow by induction on the chain.
-/

namespace Lirvena
namespace Account

open Lib

/-- The operations on the store of one account. -/
inductive StoreOp where
  | openStore (recoveryAtMs : Nat) (storage : OpenStorage)
  | transition (requested : AccountTransition) (commits : Bool)

inductive StoreAnswer where
  | opened
  | moved (receipt : TransitionReceipt)
  | failed (error : AccountRuntimeError)

def StoreAnswer.ofOpening : Except AccountRuntimeError Unit → StoreAnswer
  | .ok () => .opened
  | .error error => .failed error

def applyOp (localId : AccountLocalId) (database : Database) :
    StoreOp → Database × StoreAnswer
  | .openStore recoveryAtMs storage =>
      (openStore localId database recoveryAtMs storage).map id .ofOpening
  | .transition requested commits =>
      match transition localId database requested commits with
      | .ok (next, receipt) => (next, .moved receipt)
      | .error error => (database, .failed error)

def store (localId : AccountLocalId) : Machine Database StoreOp StoreAnswer where
  step := applyOp localId

/-- The entry is an accepted transition into `Starting`. -/
def isAcceptedStart : StoreOp × StoreAnswer → Bool
  | (.transition requested _, .moved _) => requested.next = .starting
  | _ => false

/-- The log leads from one row to another, entry by entry. -/
def Chain (row : AccountRow) : List TransitionRow → AccountRow → Prop
  | [], current => current = row
  | entry :: rest, current => Follows row entry ∧ Chain entry.target rest current

namespace Chain

variable {first row : AccountRow} {log : List TransitionRow} {entry : TransitionRow}

theorem append_singleton (hchain : Chain first log row) (hfollows : Follows row entry) :
    Chain first (log ++ [entry]) entry.target := by
  induction log generalizing first with
  | nil =>
      obtain rfl : row = first := hchain
      exact ⟨hfollows, rfl⟩
  | cons head rest ih => exact ⟨hchain.1, ih hchain.2⟩

/-- The last entry of the log is the current row. -/
theorem getLast_target (hchain : Chain first log row) (hsome : log ≠ []) :
    (log.getLast hsome).target = row := by
  induction log generalizing first with
  | nil => exact absurd rfl hsome
  | cons head rest ih =>
      cases rest with
      | nil =>
          obtain rfl : row = head.target := hchain.2
          rfl
      | cons second tail =>
          rw [List.getLast_cons (List.cons_ne_nil second tail)]
          exact ih hchain.2 (List.cons_ne_nil second tail)

/-- The current row carries a reason exactly when it is protective. -/
theorem reason (hchain : Chain first log row)
    (hfirst : first.phase = AccountPhase.protectiveOffline.stored ↔
      first.protectiveReason.isSome = true) :
    row.phase = AccountPhase.protectiveOffline.stored ↔
      row.protectiveReason.isSome = true := by
  induction log generalizing first with
  | nil =>
      obtain rfl : row = first := hchain
      exact hfirst
  | cons head rest ih => exact ih hchain.2 hchain.1.reason

end Chain

/-- What is stored after a number of accepted starts: nothing, or a row with the
chain that led to it. -/
inductive Recorded (starts : Nat) : Database → Prop where
  | absent (hstarts : starts = 0) : Recorded starts Database.empty
  | present (createdAtMs : Nat) (row : AccountRow) (log : List TransitionRow)
      (hchain : Chain (initialRow createdAtMs) log row)
      (hgeneration : row.generation = starts) :
      Recorded starts ⟨schemaVersion, some row, log⟩

section Steps

variable {localId : AccountLocalId} {starts : Nat} {database next : Database}
  {commits : Bool}

theorem Recorded.transition (hrecorded : Recorded starts database)
    {requested : AccountTransition} {receipt : TransitionReceipt}
    (hok : transition localId database requested commits = .ok (next, receipt)) :
    Recorded (starts + if requested.next = .starting then 1 else 0) next := by
  obtain ⟨row, entry, hrow, hfollows, hphase, rfl⟩ := transition_eq_ok hok
  cases hrecorded with
  | absent hstarts => cases hrow
  | present createdAtMs current log hchain hgeneration =>
      obtain rfl : current = row := by simpa using hrow
      refine .present createdAtMs entry.target _ (hchain.append_singleton hfollows) ?_
      change entry.generation = _
      rw [hfollows.generation_eq, hgeneration, hphase]
      simp only [AccountPhase.stored_inj]

theorem Recorded.migrate (hrecorded : Recorded starts database) {createdAtMs : Nat}
    (hok : migrate database createdAtMs commits = .ok next) :
    Recorded starts next ∧ (next = database ∨ database.accountState = none) := by
  cases hrecorded with
  | absent hstarts =>
      have hcreate : createSchema createdAtMs commits = .ok next := hok
      obtain ⟨created, hcreated, hcommit⟩ := bind_eq_ok_iff.mp hcreate
      obtain ⟨-, rfl⟩ := commit_eq_ok_iff.mp hcommit
      exact ⟨.present created _ [] rfl hstarts.symm, Or.inr rfl⟩
  | present createdAt row log hchain hgeneration =>
      obtain rfl : next = ⟨schemaVersion, some row, log⟩ := by
        simpa [Account.migrate, eq_comm] using hok
      exact ⟨.present createdAt row log hchain hgeneration, Or.inl rfl⟩

/-- A successful recovery keeps an uninterrupted row, or moves an interrupted one
into protective offline. -/
theorem recoverInterrupted_cases {occurredAtMs : Nat}
    (hok : recoverInterrupted localId database occurredAtMs commits = .ok next) :
    (next = database ∧ ∃ row, next.accountState = some row ∧
        row.phase ≠ AccountPhase.starting.stored ∧
        row.phase ≠ AccountPhase.active.stored) ∨
      ∃ requested receipt, requested.next = .protectiveOffline ∧
        transition localId database requested commits = .ok (next, receipt) := by
  unfold recoverInterrupted at hok
  obtain ⟨current, hcurrent, hok⟩ := bind_eq_ok_iff.mp hok
  split at hok
  · obtain ⟨⟨moved, receipt⟩, hmoved, hreturn⟩ := bind_eq_ok_iff.mp hok
    cases hreturn
    -- An interrupted phase is left by an ordinary transition.
    exact Or.inr ⟨_, receipt, rfl, hmoved⟩
  · next hphase =>
      cases hok
      obtain ⟨row, hrow, hstored, -, -⟩ := snapshot_eq_ok hcurrent
      obtain ⟨hstarting, hactive⟩ := not_or.mp hphase
      refine Or.inl ⟨rfl, row, hrow, ?_, ?_⟩
      · intro hsame
        rw [hsame, AccountPhase.fromStored_stored] at hstored
        exact hstarting (Option.some.inj hstored).symm
      · intro hsame
        rw [hsame, AccountPhase.fromStored_stored] at hstored
        exact hactive (Option.some.inj hstored).symm

/-- No row is lost, and its time does not decrease. -/
def TimeAdvances (database next : Database) : Prop :=
  ∀ row, database.accountState = some row →
    ∃ later, next.accountState = some later ∧ row.updatedAtMs ≤ later.updatedAtMs

theorem TimeAdvances.refl (database : Database) : TimeAdvances database database :=
  fun row hrow => ⟨row, hrow, Nat.le_refl _⟩

theorem timeAdvances_transition {requested : AccountTransition}
    {receipt : TransitionReceipt}
    (hok : transition localId database requested commits = .ok (next, receipt)) :
    TimeAdvances database next := by
  obtain ⟨row, entry, hrow, hfollows, -, rfl⟩ := transition_eq_ok hok
  intro current hcurrent
  obtain rfl : row = current := Option.some.inj (hrow.symm.trans hcurrent)
  exact ⟨entry.target, rfl, hfollows.occurredAtMs_le⟩

theorem timeAdvances_recover {occurredAtMs : Nat}
    (hok : recoverInterrupted localId database occurredAtMs commits = .ok next) :
    TimeAdvances database next := by
  rcases recoverInterrupted_cases hok with ⟨rfl, -⟩ | ⟨requested, receipt, -, hmoved⟩
  · exact TimeAdvances.refl next
  · exact timeAdvances_transition hmoved

theorem Recorded.recover (hrecorded : Recorded starts database) {occurredAtMs : Nat}
    (hok : recoverInterrupted localId database occurredAtMs commits = .ok next) :
    Recorded starts next := by
  rcases recoverInterrupted_cases hok with ⟨rfl, -⟩ | ⟨requested, receipt, hnext, hmoved⟩
  · exact hrecorded
  · have hmovedTo := hrecorded.transition hmoved
    rw [hnext] at hmovedTo
    exact hmovedTo

/-- A successful recovery leaves a row that is neither starting nor active. -/
theorem recovered_phase {occurredAtMs : Nat}
    (hok : recoverInterrupted localId database occurredAtMs commits = .ok next) :
    ∃ row, next.accountState = some row ∧ row.phase ≠ AccountPhase.starting.stored ∧
      row.phase ≠ AccountPhase.active.stored := by
  rcases recoverInterrupted_cases hok with ⟨-, hrow⟩ | ⟨requested, receipt, hnext, hmoved⟩
  · exact hrow
  · obtain ⟨row, entry, -, -, hphase, rfl⟩ := transition_eq_ok hmoved
    rw [hnext] at hphase
    refine ⟨entry.target, rfl, ?_, ?_⟩
    · change entry.toPhase ≠ _
      rw [hphase]
      decide
    · change entry.toPhase ≠ _
      rw [hphase]
      decide

/-- Opening a store, successful or not: the schema may be created and the row
recovered. -/
theorem openStore_step (localId : AccountLocalId) (hrecorded : Recorded starts database)
    (recoveryAtMs : Nat) (storage : OpenStorage) :
    let result := openStore localId database recoveryAtMs storage
    Recorded starts result.1 ∧ TimeAdvances database result.1 ∧
      (result.2 = .ok () → ∃ row, result.1.accountState = some row ∧
        row.phase ≠ AccountPhase.starting.stored ∧
        row.phase ≠ AccountPhase.active.stored) := by
  unfold openStore
  cases hconnection : storage.connection with
  | error error => exact ⟨hrecorded, TimeAdvances.refl _, fun hok => by cases hok⟩
  | ok connected =>
      cases hmigrate : migrate database recoveryAtMs storage.createsSchema with
      | error error => exact ⟨hrecorded, TimeAdvances.refl _, fun hok => by cases hok⟩
      | ok migrated =>
          obtain ⟨hmigrated, hkept⟩ := hrecorded.migrate hmigrate
          have htime : TimeAdvances database migrated := by
            -- A migration keeps the database, or finds one that has no row yet.
            rcases hkept with rfl | hnone
            · exact TimeAdvances.refl migrated
            · intro row hrow
              rw [hnone] at hrow
              cases hrow
          cases hrecover : recoverInterrupted localId migrated recoveryAtMs
              storage.recovers with
          | error error =>
              simp only [hrecover]
              exact ⟨hmigrated, htime, fun hok => by cases hok⟩
          | ok recovered =>
              simp only [hrecover]
              refine ⟨hmigrated.recover hrecover, ?_, fun _ => recovered_phase hrecover⟩
              intro row hrow
              obtain ⟨kept, hkeptRow, hle⟩ := htime row hrow
              obtain ⟨later, hlater, hlaterLe⟩ := timeAdvances_recover hrecover kept hkeptRow
              exact ⟨later, hlater, hle.trans hlaterLe⟩

/-- What one operation does to a recorded store. -/
theorem applyOp_step (localId : AccountLocalId) (hrecorded : Recorded starts database)
    (op : StoreOp) :
    let result := applyOp localId database op
    Recorded (starts + (isAcceptedStart (op, result.2)).toNat) result.1 ∧
      TimeAdvances database result.1 ∧
      (result.2 = .opened → ∃ row, result.1.accountState = some row ∧
        row.phase ≠ AccountPhase.starting.stored ∧
        row.phase ≠ AccountPhase.active.stored) := by
  cases op with
  | openStore recoveryAtMs storage =>
      have hstep := openStore_step localId hrecorded recoveryAtMs storage
      obtain ⟨hnext, htime, hphase⟩ := hstep
      refine ⟨hnext, htime, fun hopened => hphase ?_⟩
      cases hresult : (openStore localId database recoveryAtMs storage).2 with
      | error error =>
          simp only [applyOp, Prod.map, hresult, StoreAnswer.ofOpening] at hopened
          cases hopened
      | ok opened => rfl
  | transition requested commits =>
      cases hresult : transition localId database requested commits with
      | error error =>
          simp only [applyOp, hresult]
          exact ⟨hrecorded, TimeAdvances.refl _, fun hopened => by cases hopened⟩
      | ok moved =>
          simp only [applyOp, hresult]
          refine ⟨?_, timeAdvances_transition hresult, fun hopened => by cases hopened⟩
          have hnext := hrecorded.transition hresult
          by_cases hstarting : requested.next = .starting
          · simpa [isAcceptedStart, hstarting] using hnext
          · simpa [isAcceptedStart, hstarting] using hnext

end Steps

/-- The number of accepted transitions into `Starting`. -/
def acceptedStarts (trace : List (StoreOp × StoreAnswer)) : Nat :=
  trace.countP isAcceptedStart

theorem store_recorded (localId : AccountLocalId) (ops : List StoreOp) :
    Recorded (acceptedStarts ((store localId).trace Database.empty ops))
      ((store localId).run Database.empty ops) := by
  refine (store localId).history_run
    (fun trace database => Recorded (acceptedStarts trace) database) (.absent rfl) ?_ ops
  intro trace database op hrecorded
  have hstep := (applyOp_step localId hrecorded op).1
  have hcount : acceptedStarts (trace ++ [(op, ((store localId).step database op).2)]) =
      acceptedStarts trace +
        (isAcceptedStart (op, ((store localId).step database op).2)).toNat := by
    unfold acceptedStarts
    rw [List.countP_append, List.countP_singleton]
    cases isAcceptedStart (op, ((store localId).step database op).2) <;> rfl
  rw [hcount]
  exact hstep

theorem Recorded.row {starts : Nat} {database : Database}
    (hrecorded : Recorded starts database) {row : AccountRow}
    (hrow : database.accountState = some row) :
    (row.phase = AccountPhase.protectiveOffline.stored ↔
        row.protectiveReason.isSome = true) ∧
      row.generation = starts ∧
      (∃ createdAtMs, Chain (initialRow createdAtMs) database.accountTransitions row) ∧
      ∀ hsome, (database.accountTransitions.getLast hsome).target = row := by
  cases hrecorded with
  | absent hstarts => cases hrow
  | present createdAtMs current log hchain hgeneration =>
      obtain rfl : current = row := Option.some.inj hrow
      have hinitial : (initialRow createdAtMs).phase =
          AccountPhase.protectiveOffline.stored ↔
          (initialRow createdAtMs).protectiveReason.isSome = true := by
        simp [initialRow, AccountPhase.stored]
      exact ⟨hchain.reason hinitial, hgeneration, ⟨createdAtMs, hchain⟩,
        hchain.getLast_target⟩

theorem Recorded.log_of_no_row {starts : Nat} {database : Database}
    (hrecorded : Recorded starts database) (hnone : database.accountState = none) :
    database.accountTransitions = [] := by
  cases hrecorded with
  | absent hstarts => rfl
  | present createdAtMs current log hchain hgeneration => cases hnone

/-- What the store of an account holds after any operations on it.  The row
carries a reason exactly when it is protective, its generation counts the
accepted starts, and the log is a chain of admitted transitions from a created
row to the current one.  Whatever comes next, no time decreases, a rejected
transition changes neither table, and a store that opens is neither starting
nor active. -/
theorem store_history (localId : AccountLocalId) (ops : List StoreOp) :
    let trace := (store localId).trace Database.empty ops
    let database := (store localId).run Database.empty ops
    (∀ row, database.accountState = some row →
      (row.phase = AccountPhase.protectiveOffline.stored ↔
        row.protectiveReason.isSome = true) ∧
      row.generation = acceptedStarts trace ∧
      (∃ createdAtMs, Chain (initialRow createdAtMs) database.accountTransitions row) ∧
      ∀ hsome, (database.accountTransitions.getLast hsome).target = row) ∧
    (database.accountState = none → database.accountTransitions = []) ∧
    ∀ op, let next := applyOp localId database op
      TimeAdvances database next.1 ∧
      (∀ requested commits error, op = .transition requested commits →
        next.2 = .failed error → next.1 = database) ∧
      (next.2 = .opened → ∃ row, next.1.accountState = some row ∧
        row.phase ≠ AccountPhase.starting.stored ∧
        row.phase ≠ AccountPhase.active.stored) := by
  intro trace database
  have hrecorded : Recorded (acceptedStarts trace) database := store_recorded localId ops
  refine ⟨fun row hrow => hrecorded.row hrow, hrecorded.log_of_no_row, ?_⟩
  · intro op next
    obtain ⟨-, htime, hopened⟩ := applyOp_step localId hrecorded op
    refine ⟨htime, ?_, hopened⟩
    rintro requested commits error rfl hfailed
    -- A refused transition returns the database that it was given.
    cases hresult : transition localId database requested commits with
    | error other => simp only [next, applyOp, hresult]
    | ok moved => simp only [next, applyOp, hresult, reduceCtorEq] at hfailed

end Account
end Lirvena
