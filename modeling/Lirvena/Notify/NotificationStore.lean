import Lirvena.Lib.Result
import Lirvena.Lib.Text
import Mathlib.Data.List.Sort

/-!
# The notification outbox

Events are persisted once and delivered to one or more destinations.  The
outbox is two tables: the events, and one row for each delivery with its
schedule and its end.  An enqueue and a failure are written in one transaction
each, which works on a copy of the tables and is rolled back when it is
dropped; a success is one statement.

Any statement may fail in the database below.  What it does with the statements
of an operation is the operation's `Storage`.
-/

namespace Lirvena
namespace Notify

open Lib

/-! ## Events -/

/-- Opaque bytes of an exact width. -/
@[ext] structure OpaqueId (length : Nat) where
  bytes : List UInt8
  length_eq : bytes.length = length

instance {length : Nat} : DecidableEq (OpaqueId length) :=
  fun _ _ => decidable_of_iff _ OpaqueId.ext_iff.symm

/-- Globally unique notification event identifier. -/
def EventId := OpaqueId 16 deriving DecidableEq

/-- Stable local destination identifier independent of its secret configuration. -/
def DestinationId := OpaqueId 16 deriving DecidableEq

/-- Stable event-equivalence key used for cooldown suppression. -/
def DedupeKey := OpaqueId 32 deriving DecidableEq

/-- Redacted notification failure. -/
inductive NotificationError where
  | configuration
  | persistence
  | identity
  | notFound
  | closed
  | busy
  | worker
  deriving DecidableEq

inductive EventSource where
  | ceylith
  | qq
  | account
  | lirvena
  deriving DecidableEq

inductive EventCategory where
  | authorization
  | continuity
  | riskControl
  | worker
  | recovery
  deriving DecidableEq

inductive Severity where
  | info
  | warning
  | critical
  deriving DecidableEq

inductive EventState where
  | current
  | expiring
  | paused
  | revoked
  | unavailable
  | protectiveOffline
  | recovering
  | active
  | stopped
  | failed
  deriving DecidableEq

def maxTextBytes : Nat := 512

/-- `NotificationText::new` accepts the text. -/
def validNotificationText (text : String) : Bool :=
  text ≠ "" && text.utf8ByteSize ≤ maxTextBytes &&
    !text.toList.any (fun char => char = '\r' || (isControl char && char ≠ '\n'))

/-- Bounded user-facing text. -/
structure NotificationText where
  value : String
  valid : validNotificationText value = true
  deriving DecidableEq

/-- Explicit state change, never to the same state. -/
structure StateTransition where
  previous : EventState
  current : EventState
  valid : previous ≠ current
  deriving DecidableEq

/-- Validated canonical event. -/
structure NotificationEvent where
  eventId : EventId
  occurredAtMs : Nat
  source : EventSource
  category : EventCategory
  severity : Severity
  accountLocalId : Option (OpaqueId 16)
  reasonCode : UInt32
  transition : StateTransition
  humanSummary : NotificationText
  nextAction : NotificationText
  dedupeKey : DedupeKey
  valid : occurredAtMs ≠ 0 ∧ reasonCode ≠ 0
  deriving DecidableEq

/-! ## Policy -/

def defaultCooldownMs : Nat := 15 * 60 * 1000

def maxDestinations : Nat := 32

def retryDelaysMs : List Nat := [60000, 5 * 60000, 30 * 60000, 2 * 60 * 60000]

def validateDestinations (destinations : List DestinationId) :
    Except NotificationError Unit := do
  rejectIf .configuration (destinations = [] ∨ destinations.length > maxDestinations)
  rejectIf .configuration (¬ destinations.Nodup)

/-- The last delay is kept for every further attempt. -/
def retryDelay (attempts : Nat) : Nat :=
  retryDelaysMs.getD (min attempts (retryDelaysMs.length - 1)) 0

def retryLifetime : Severity → Nat
  | .info => 30 * 60 * 1000
  | .warning => 2 * 60 * 60 * 1000
  | .critical => 24 * 60 * 60 * 1000

/-! ## The tables -/

/-- A row of `notification_event`: the fields of the event and its enqueue time. -/
structure EventRow where
  event : NotificationEvent
  enqueuedAtMs : Nat
  deriving DecidableEq

/-- A row of `notification_delivery`; a delivery identifier is a positive integer. -/
structure DeliveryRow where
  id : Nat
  eventId : EventId
  destinationId : DestinationId
  attemptCount : Nat
  nextAttemptAtMs : Nat
  retryUntilMs : Nat
  deliveredAtMs : Option Nat
  abandonedAtMs : Option Nat
  lastErrorCode : Option UInt32
  deriving DecidableEq

/-- `delivered_at_ms IS NULL AND abandoned_at_ms IS NULL` -/
def DeliveryRow.isPending (row : DeliveryRow) : Bool :=
  row.deliveredAtMs.isNone && row.abandonedAtMs.isNone

/-- The `CHECK` constraints of the table that a row of natural numbers can break. -/
def DeliveryRow.admitted (row : DeliveryRow) : Bool :=
  row.nextAttemptAtMs ≤ row.retryUntilMs &&
    !(row.deliveredAtMs.isSome && row.abandonedAtMs.isSome)

/-- Both tables in the order of their insertions, and the last row id given out. -/
structure Outbox where
  events : List EventRow
  deliveries : List DeliveryRow
  sequence : Nat
  deriving DecidableEq

/-- The outbox under a new state directory. -/
def Outbox.empty : Outbox where
  events := []
  deliveries := []
  sequence := 0

/-- The statements of the operations. -/
inductive Statement where
  | beginTransaction
  | selectDuplicate (destination : DestinationId)
  | insertEvent
  | insertDelivery (destination : DestinationId)
  | selectDue
  | selectDelivery
  | updateDelivery
  | commit

/-- Which statements of one operation the database carries out. -/
abbrev Storage := Statement → Bool

def Storage.execute (storage : Storage) (statement : Statement) :
    Except NotificationError Unit :=
  if storage statement then .ok () else .error .persistence

abbrev toI64 : Nat → Except NotificationError Nat :=
  tryI64 .configuration

/-- A transaction works on a copy of the tables, which its commit puts in their
place.  Dropped before that, it is rolled back. -/
def transaction {α : Type} (storage : Storage) (outbox : Outbox)
    (body : Outbox → Except NotificationError (Outbox × α)) :
    Outbox × Except NotificationError α :=
  match (do
    storage.execute .beginTransaction
    let (written, value) ← body outbox
    storage.execute .commit
    return (written, value)) with
  | .ok (written, value) => (written, .ok value)
  | .error error => (outbox, .error error)

/-! ## Enqueue -/

/-- A delivery for the destination, of an event with the key that was enqueued at
the start of the cooldown or later. -/
def suppressed (outbox : Outbox) (destination : DestinationId) (dedupeKey : DedupeKey)
    (cooldownStart : Nat) : Bool :=
  outbox.deliveries.any fun delivery =>
    outbox.events.any fun row =>
      row.event.eventId = delivery.eventId && delivery.destinationId = destination &&
        row.event.dedupeKey = dedupeKey && cooldownStart ≤ row.enqueuedAtMs

/-- The loop of `eligible_destinations`. -/
def unsuppressed (outbox : Outbox) (event : NotificationEvent) (cooldownStart : Nat)
    (storage : Storage) : List DestinationId → Except NotificationError (List DestinationId)
  | [] => .ok []
  | destination :: rest => do
      let cooldownStart ← toI64 cooldownStart
      storage.execute (.selectDuplicate destination)
      let eligible ← unsuppressed outbox event cooldownStart storage rest
      if suppressed outbox destination event.dedupeKey cooldownStart then
        return eligible
      else
        return destination :: eligible

def eligibleDestinations (outbox : Outbox) (event : NotificationEvent)
    (destinations : List DestinationId) (cooldownStart : Nat) (storage : Storage) :
    Except NotificationError (List DestinationId) :=
  if event.category = .recovery then .ok destinations
  else unsuppressed outbox event cooldownStart storage destinations

def insertEvent (outbox : Outbox) (event : NotificationEvent) (enqueuedAtMs : Nat)
    (storage : Storage) : Except NotificationError Outbox := do
  let _ ← toI64 event.occurredAtMs
  let enqueuedAtMs ← toI64 enqueuedAtMs
  storage.execute .insertEvent
  -- the primary key
  rejectIf .persistence (∃ row ∈ outbox.events, row.event.eventId = event.eventId)
  return { outbox with events := outbox.events ++ [⟨event, enqueuedAtMs⟩] }

/-- The row that an enqueue inserts for one destination. -/
def newDelivery (id : Nat) (event : NotificationEvent) (enqueuedAtMs retryUntilMs : Nat)
    (destination : DestinationId) : DeliveryRow where
  id := id
  eventId := event.eventId
  destinationId := destination
  attemptCount := 0
  nextAttemptAtMs := enqueuedAtMs
  retryUntilMs := retryUntilMs
  deliveredAtMs := none
  abandonedAtMs := none
  lastErrorCode := none

def insertDelivery (outbox : Outbox) (event : NotificationEvent)
    (enqueuedAtMs retryUntilMs : Nat) (storage : Storage) (destination : DestinationId) :
    Except NotificationError Outbox := do
  let enqueuedAtMs ← toI64 enqueuedAtMs
  let retryUntilMs ← toI64 retryUntilMs
  storage.execute (.insertDelivery destination)
  -- an exhausted `AUTOINCREMENT`, the checks and the unique pair of columns
  rejectIf .persistence (i64Bound ≤ outbox.sequence + 1)
  let row := newDelivery (outbox.sequence + 1) event enqueuedAtMs retryUntilMs destination
  rejectIf .persistence (row.admitted = false)
  rejectIf .persistence (∃ other ∈ outbox.deliveries,
    other.eventId = row.eventId ∧ other.destinationId = row.destinationId)
  return { outbox with
    deliveries := outbox.deliveries ++ [row]
    sequence := outbox.sequence + 1 }

/-- The loop of `enqueue` over the eligible destinations. -/
def insertDeliveries (event : NotificationEvent) (enqueuedAtMs retryUntilMs : Nat)
    (storage : Storage) : Outbox → List DestinationId → Except NotificationError Outbox
  | outbox, [] => .ok outbox
  | outbox, destination :: rest => do
      let outbox ← insertDelivery outbox event enqueuedAtMs retryUntilMs storage destination
      insertDeliveries event enqueuedAtMs retryUntilMs storage outbox rest

/-- What `enqueue` checks before its transaction: the destinations and the end of
the retries. -/
def retryUntil (event : NotificationEvent) (destinations : List DestinationId)
    (enqueuedAtMs : Nat) : Except NotificationError Nat := do
  validateDestinations destinations
  okOr .configuration (checkedAddU64 enqueuedAtMs (retryLifetime event.severity))

/-- The transaction of `enqueue`. -/
def enqueueWithin (event : NotificationEvent) (destinations : List DestinationId)
    (enqueuedAtMs retryUntilMs : Nat) (storage : Storage) (outbox : Outbox) :
    Except NotificationError (Outbox × Nat) := do
  let cooldownStart := enqueuedAtMs - defaultCooldownMs
  let eligible ← eligibleDestinations outbox event destinations cooldownStart storage
  if eligible = [] then
    return (outbox, 0)
  else
    let outbox ← insertEvent outbox event enqueuedAtMs storage
    let outbox ← insertDeliveries event enqueuedAtMs retryUntilMs storage outbox eligible
    return (outbox, eligible.length)

/-- Persists one event for each unique destination not suppressed by cooldown. -/
def enqueue (outbox : Outbox) (event : NotificationEvent) (destinations : List DestinationId)
    (enqueuedAtMs : Nat) (storage : Storage) : Outbox × Except NotificationError Nat :=
  match retryUntil event destinations enqueuedAtMs with
  | .error error => (outbox, .error error)
  | .ok retryUntilMs =>
      transaction storage outbox
        (enqueueWithin event destinations enqueuedAtMs retryUntilMs storage)

/-! ## Claim -/

/-- One pending delivery and its canonical event. -/
structure Delivery where
  id : Nat
  destinationId : DestinationId
  attemptCount : Nat
  event : NotificationEvent

def deliveryBatchLimit : Nat := 100

/-- `ORDER BY d.next_attempt_at_ms, d.id` -/
def isDueBefore (first second : DeliveryRow) : Prop :=
  first.nextAttemptAtMs < second.nextAttemptAtMs ∨
    (first.nextAttemptAtMs = second.nextAttemptAtMs ∧ first.id ≤ second.id)

instance : DecidableRel isDueBefore :=
  fun _ _ => inferInstanceAs (Decidable (_ ∨ _))

/-- The join of a delivery with its event. -/
def withEvent (outbox : Outbox) (row : DeliveryRow) : Option Delivery :=
  (outbox.events.find? fun stored => stored.event.eventId = row.eventId).map fun stored =>
    { id := row.id
      destinationId := row.destinationId
      attemptCount := row.attemptCount
      event := stored.event }

/-- A bounded oldest-first snapshot of pending due deliveries. -/
def due (outbox : Outbox) (nowMs limit : Nat) (storage : Storage) :
    Except NotificationError (List Delivery) := do
  rejectIf .configuration (limit = 0 ∨ limit > deliveryBatchLimit)
  let nowMs ← toI64 nowMs
  storage.execute .selectDue
  let pending := outbox.deliveries.filter fun row => row.isPending && row.nextAttemptAtMs ≤ nowMs
  return ((pending.insertionSort isDueBefore).filterMap (withEvent outbox)).take limit

/-! ## The end of a delivery -/

/-- `UPDATE notification_delivery SET … WHERE …`: the statement fails as a whole
when a row it changes would break a check. -/
def updateDeliveries (outbox : Outbox) (storage : Storage) (selects : DeliveryRow → Bool)
    (change : DeliveryRow → DeliveryRow) : Except NotificationError Outbox := do
  storage.execute .updateDelivery
  rejectIf .persistence (∃ row ∈ outbox.deliveries, selects row ∧ (change row).admitted = false)
  return { outbox with
    deliveries := outbox.deliveries.map fun row => if selects row then change row else row }

/-- `WHERE id = … AND delivered_at_ms IS NULL AND abandoned_at_ms IS NULL` -/
def DeliveryRow.isOpen (deliveryId : Nat) (row : DeliveryRow) : Bool :=
  row.id = deliveryId && row.isPending

/-- The statement of `mark_delivered`. -/
def markDeliveredUpdate (outbox : Outbox) (deliveryId : Nat) (deliveredAtMs : Nat)
    (storage : Storage) : Except NotificationError Outbox := do
  let deliveredAtMs ← toI64 deliveredAtMs
  updateDeliveries outbox storage (DeliveryRow.isOpen deliveryId) fun row =>
    { row with deliveredAtMs := some deliveredAtMs }

/-- Marks one pending delivery successful.  The statement is its own transaction:
what it wrote stays whatever the row count is. -/
def markDelivered (outbox : Outbox) (deliveryId : Nat) (deliveredAtMs : Nat)
    (storage : Storage) : Outbox × Except NotificationError Unit :=
  match markDeliveredUpdate outbox deliveryId deliveredAtMs storage with
  | .error error => (outbox, .error error)
  | .ok updated =>
      (updated,
        if outbox.deliveries.countP (DeliveryRow.isOpen deliveryId) = 1 then .ok ()
        else .error .notFound)

/-- Result of recording one failed delivery attempt. -/
inductive FailureDisposition where
  | retryAt (unixTimeMs : Nat)
  | abandoned
  deriving DecidableEq

/-- The next attempt of a row whose attempt failed. -/
def nextAttempt (failedAtMs attempts : Nat) : Except NotificationError Nat :=
  okOr .configuration (checkedAddU64 failedAtMs (retryDelay attempts))

/-- The transaction of `record_failure`. -/
def recordFailureWithin (deliveryId : Nat) (failedAtMs : Nat) (errorCode : UInt32)
    (storage : Storage) (outbox : Outbox) :
    Except NotificationError (Outbox × FailureDisposition) := do
  storage.execute .selectDelivery
  let stored ← okOr .notFound
    (outbox.deliveries.find? (DeliveryRow.isOpen deliveryId))
  rejectIf .configuration (u32Bound ≤ stored.attemptCount)
  let nextAttemptMs ← nextAttempt failedAtMs stored.attemptCount
  rejectIf .configuration (u32Bound ≤ stored.attemptCount + 1)
  if nextAttemptMs > stored.retryUntilMs then
    let failedAtMs ← toI64 failedAtMs
    let outbox ← updateDeliveries outbox storage (fun row => row.id = deliveryId) fun row =>
      { row with
        attemptCount := stored.attemptCount + 1
        lastErrorCode := some errorCode
        abandonedAtMs := some failedAtMs }
    return (outbox, .abandoned)
  else
    let nextAttemptMs ← toI64 nextAttemptMs
    let outbox ← updateDeliveries outbox storage (fun row => row.id = deliveryId) fun row =>
      { row with
        attemptCount := stored.attemptCount + 1
        lastErrorCode := some errorCode
        nextAttemptAtMs := nextAttemptMs }
    return (outbox, .retryAt nextAttemptMs)

/-- Records one redacted adapter error code and schedules the next retry or
abandonment. -/
def recordFailure (outbox : Outbox) (deliveryId : Nat) (failedAtMs : Nat)
    (errorCode : UInt32) (storage : Storage) :
    Outbox × Except NotificationError FailureDisposition :=
  if errorCode = 0 then (outbox, .error .configuration)
  else transaction storage outbox (recordFailureWithin deliveryId failedAtMs errorCode storage)

end Notify
end Lirvena
