import Lirvena.Lib.Run
import Lirvena.Notify.NotificationStore
import Mathlib.Logic.ExistsUnique

/-!
# Runs of the notification outbox

Whatever the order of enqueues, claims, successes and failures, and whichever
statements fail, the outbox changes in two ways only: rows of one new event are
appended, or one pending row is replaced by its successor.  `Effect` says so
once; the invariants of the tables, the count of the failures and the
permanence of an ended delivery follow from it.
-/

namespace Lirvena
namespace Notify

open Lib

/-- The operations on the outbox. -/
inductive OutboxOp where
  | enqueue (event : NotificationEvent) (destinations : List DestinationId)
      (enqueuedAtMs : Nat) (storage : Storage)
  | due (nowMs limit : Nat) (storage : Storage)
  | markDelivered (deliveryId : Nat) (deliveredAtMs : Nat) (storage : Storage)
  | recordFailure (deliveryId : Nat) (failedAtMs : Nat) (errorCode : UInt32)
      (storage : Storage)

inductive OutboxAnswer where
  | queued (count : Nat)
  | claimed (deliveries : List Delivery)
  | delivered
  | failed (disposition : FailureDisposition)
  | rejected (error : NotificationError)

def OutboxAnswer.of {α : Type} (answer : α → OutboxAnswer) :
    Except NotificationError α → OutboxAnswer
  | .ok value => answer value
  | .error error => .rejected error

def applyOp (outbox : Outbox) : OutboxOp → Outbox × OutboxAnswer
  | .enqueue event destinations enqueuedAtMs storage =>
      (enqueue outbox event destinations enqueuedAtMs storage).map id (.of .queued)
  | .due nowMs limit storage => (outbox, .of .claimed (due outbox nowMs limit storage))
  | .markDelivered deliveryId deliveredAtMs storage =>
      (markDelivered outbox deliveryId deliveredAtMs storage).map id (.of fun _ => .delivered)
  | .recordFailure deliveryId failedAtMs errorCode storage =>
      (recordFailure outbox deliveryId failedAtMs errorCode storage).map id (.of .failed)

def notificationStore : Machine Outbox OutboxOp OutboxAnswer where
  step := applyOp

/-- The entry is a recorded failure of the delivery. -/
def isFailureOf (deliveryId : Nat) : OutboxOp × OutboxAnswer → Bool
  | (.recordFailure failedId _ _ _, .failed _) => failedId = deliveryId
  | _ => false

/-- The failures recorded for a delivery. -/
def recordedFailures (history : List (OutboxOp × OutboxAnswer)) (deliveryId : Nat) :
    Nat :=
  history.countP (isFailureOf deliveryId)

/-! ## What one operation does -/

/-- The rows that an enqueue inserts, with consecutive ids. -/
def newDeliveries (event : NotificationEvent) (enqueuedAtMs retryUntilMs : Nat) :
    Nat → List DestinationId → List DeliveryRow
  | _, [] => []
  | sequence, destination :: rest =>
      newDelivery (sequence + 1) event enqueuedAtMs retryUntilMs destination ::
        newDeliveries event enqueuedAtMs retryUntilMs (sequence + 1) rest

/-- The outbox with one row in the place of another. -/
def Outbox.replace (outbox : Outbox) (stored next : DeliveryRow) : Outbox :=
  { outbox with
    deliveries := outbox.deliveries.map fun row => if row.id = stored.id then next else row }

/-- The row of a delivery after one more step of its life. -/
structure Succeeds (entry : OutboxOp × OutboxAnswer) (stored next : DeliveryRow) : Prop where
  pending : stored.isPending = true
  id_eq : next.id = stored.id
  eventId_eq : next.eventId = stored.eventId
  destinationId_eq : next.destinationId = stored.destinationId
  attemptCount_eq : next.attemptCount =
    stored.attemptCount + if isFailureOf stored.id entry then 1 else 0
  others : ∀ id, id ≠ stored.id → isFailureOf id entry = false
  ended_once : ¬ (next.deliveredAtMs.isSome = true ∧ next.abandonedAtMs.isSome = true)
  scheduled : next.isPending = true → next.nextAttemptAtMs ≤ next.retryUntilMs

/-- What an operation and its answer say about the outbox before and after. -/
inductive Effect (outbox : Outbox) : OutboxOp × OutboxAnswer → Outbox → Prop where
  | kept (entry : OutboxOp × OutboxAnswer) (hentry : ∀ id, isFailureOf id entry = false) :
      Effect outbox entry outbox
  | enqueued (entry : OutboxOp × OutboxAnswer) (event : NotificationEvent)
      (eligible : List DestinationId) (enqueuedAtMs retryUntilMs : Nat)
      (hentry : ∀ id, isFailureOf id entry = false)
      (hnodup : eligible.Nodup)
      (hfresh : event.category ≠ .recovery → ∀ destination ∈ eligible,
        suppressed outbox destination event.dedupeKey (enqueuedAtMs - defaultCooldownMs) = false)
      (hnew : ∀ stored ∈ outbox.events, stored.event.eventId ≠ event.eventId)
      (hretry : enqueuedAtMs ≤ retryUntilMs) :
      Effect outbox entry
        { events := outbox.events ++ [⟨event, enqueuedAtMs⟩]
          deliveries := outbox.deliveries ++
            newDeliveries event enqueuedAtMs retryUntilMs outbox.sequence eligible
          sequence := outbox.sequence + eligible.length }
  | replaced (entry : OutboxOp × OutboxAnswer) (stored next : DeliveryRow)
      (hstored : stored ∈ outbox.deliveries) (hnext : Succeeds entry stored next) :
      Effect outbox entry (outbox.replace stored next)

section Inversion

variable {outbox next : Outbox} {storage : Storage}

/-- A transaction leaves what its body wrote, or nothing changed. -/
theorem transaction_cases {α : Type}
    (body : Outbox → Except NotificationError (Outbox × α)) :
    (∃ written value, body outbox = .ok (written, value) ∧
        transaction storage outbox body = (written, .ok value)) ∨
      ∃ error, transaction storage outbox body = (outbox, .error error) := by
  unfold transaction
  split
  · next written value hok =>
      obtain ⟨⟨⟩, -, hbegun⟩ := bind_eq_ok_iff.mp hok
      obtain ⟨⟨wrote, result⟩, hbody, hcommit⟩ := bind_eq_ok_iff.mp hbegun
      obtain ⟨⟨⟩, -, hreturn⟩ := bind_eq_ok_iff.mp hcommit
      cases hreturn
      exact Or.inl ⟨written, value, hbody, rfl⟩
  · next error herror => exact Or.inr ⟨error, rfl⟩

theorem updateDeliveries_eq_ok {selects : DeliveryRow → Bool}
    {change : DeliveryRow → DeliveryRow}
    (hok : updateDeliveries outbox storage selects change = .ok next) :
    (∀ row ∈ outbox.deliveries, selects row = true → (change row).admitted = true) ∧
      next = { outbox with
        deliveries :=
          outbox.deliveries.map fun row => if selects row then change row else row } := by
  unfold updateDeliveries at hok
  obtain ⟨⟨⟩, -, hok⟩ := bind_eq_ok_iff.mp hok
  obtain ⟨⟨⟩, hadmitted, hreturn⟩ := bind_eq_ok_iff.mp hok
  cases hreturn
  refine ⟨?_, rfl⟩
  intro row hrow hselects
  by_contra hbroken
  exact rejectIf_eq_ok_iff.mp hadmitted ⟨row, hrow, hselects, by simpa using hbroken⟩

theorem insertDelivery_eq_ok {event : NotificationEvent} {enqueuedAtMs retryUntilMs : Nat}
    {destination : DestinationId}
    (hok : insertDelivery outbox event enqueuedAtMs retryUntilMs storage destination =
      .ok next) :
    next = { outbox with
      deliveries := outbox.deliveries ++
        [newDelivery (outbox.sequence + 1) event enqueuedAtMs retryUntilMs destination]
      sequence := outbox.sequence + 1 } := by
  unfold insertDelivery at hok
  obtain ⟨enqueued, henqueued, hrest⟩ := bind_eq_ok_iff.mp hok
  obtain ⟨retry, hretry, hinsert⟩ := bind_eq_ok_iff.mp hrest
  obtain ⟨⟨⟩, -, hsequence⟩ := bind_eq_ok_iff.mp hinsert
  obtain ⟨⟨⟩, -, hchecks⟩ := bind_eq_ok_iff.mp hsequence
  obtain ⟨⟨⟩, -, hunique⟩ := bind_eq_ok_iff.mp hchecks
  obtain ⟨⟨⟩, -, hreturn⟩ := bind_eq_ok_iff.mp hunique
  cases hreturn
  rw [(tryI64_eq_ok_iff.mp henqueued).2, (tryI64_eq_ok_iff.mp hretry).2]

/-- The loop over the destinations appends one row for each. -/
theorem insertDeliveries_eq_ok {event : NotificationEvent} {enqueuedAtMs retryUntilMs : Nat}
    {eligible : List DestinationId}
    (hok : insertDeliveries event enqueuedAtMs retryUntilMs storage outbox eligible =
      .ok next) :
    next = { outbox with
      deliveries := outbox.deliveries ++
        newDeliveries event enqueuedAtMs retryUntilMs outbox.sequence eligible
      sequence := outbox.sequence + eligible.length } := by
  induction eligible generalizing outbox with
  | nil =>
      cases hok
      simp [newDeliveries]
  | cons destination rest ih =>
      obtain ⟨inserted, hinserted, hrest⟩ := bind_eq_ok_iff.mp hok
      rw [ih hrest, insertDelivery_eq_ok hinserted]
      simp [newDeliveries, Nat.add_comm, Nat.add_left_comm]

/-- The loop over the destinations keeps those that are not suppressed. -/
theorem unsuppressed_eq_ok {event : NotificationEvent} {cooldownStart : Nat}
    {destinations eligible : List DestinationId}
    (hok : unsuppressed outbox event cooldownStart storage destinations = .ok eligible) :
    eligible = destinations.filter fun destination =>
      !suppressed outbox destination event.dedupeKey cooldownStart := by
  induction destinations generalizing eligible with
  | nil =>
      cases hok
      rfl
  | cons destination rest ih =>
      unfold unsuppressed at hok
      obtain ⟨start, hstart, hselect⟩ := bind_eq_ok_iff.mp hok
      rw [(tryI64_eq_ok_iff.mp hstart).2] at hselect
      obtain ⟨⟨⟩, -, hrest⟩ := bind_eq_ok_iff.mp hselect
      obtain ⟨others, hothers, hreturn⟩ := bind_eq_ok_iff.mp hrest
      rw [ih hothers] at hreturn
      split at hreturn
      · next hduplicate =>
          cases hreturn
          simp [hduplicate]
      · next hfresh =>
          cases hreturn
          simp [hfresh]

theorem eligibleDestinations_eq_ok {event : NotificationEvent} {cooldownStart : Nat}
    {destinations eligible : List DestinationId}
    (hok : eligibleDestinations outbox event destinations cooldownStart storage =
      .ok eligible) :
    eligible.Sublist destinations ∧
      (event.category ≠ .recovery → ∀ destination ∈ eligible,
        suppressed outbox destination event.dedupeKey cooldownStart = false) := by
  unfold eligibleDestinations at hok
  split at hok
  · next hrecovery =>
      cases hok
      exact ⟨List.Sublist.refl _, fun hother => absurd hrecovery hother⟩
  · next hother =>
      obtain rfl := unsuppressed_eq_ok hok
      refine ⟨List.filter_sublist, ?_⟩
      intro _ destination hdestination
      simpa using (List.mem_filter.mp hdestination).2

theorem insertEvent_eq_ok {event : NotificationEvent} {enqueuedAtMs : Nat}
    (hok : insertEvent outbox event enqueuedAtMs storage = .ok next) :
    (∀ stored ∈ outbox.events, stored.event.eventId ≠ event.eventId) ∧
      next = { outbox with events := outbox.events ++ [⟨event, enqueuedAtMs⟩] } := by
  unfold insertEvent at hok
  obtain ⟨occurred, -, hrest⟩ := bind_eq_ok_iff.mp hok
  obtain ⟨enqueued, henqueued, hinsert⟩ := bind_eq_ok_iff.mp hrest
  obtain ⟨⟨⟩, -, hcheck⟩ := bind_eq_ok_iff.mp hinsert
  obtain ⟨⟨⟩, hkey, hreturn⟩ := bind_eq_ok_iff.mp hcheck
  cases hreturn
  refine ⟨?_, by rw [(tryI64_eq_ok_iff.mp henqueued).2]⟩
  intro stored hstored heq
  exact rejectIf_eq_ok_iff.mp hkey ⟨stored, hstored, heq⟩

theorem retryUntil_eq_ok {event : NotificationEvent} {destinations : List DestinationId}
    {enqueuedAtMs retryUntilMs : Nat}
    (hok : retryUntil event destinations enqueuedAtMs = .ok retryUntilMs) :
    destinations.Nodup ∧ enqueuedAtMs ≤ retryUntilMs := by
  unfold retryUntil at hok
  obtain ⟨⟨⟩, hvalid, hok⟩ := bind_eq_ok_iff.mp hok
  obtain ⟨⟨⟩, -, hunique⟩ := bind_eq_ok_iff.mp hvalid
  have hnodup := rejectIf_eq_ok_iff.mp hunique
  obtain ⟨-, hsum⟩ := checkedAddU64_eq_some_iff.mp (okOr_eq_ok_iff.mp hok)
  exact ⟨not_not.mp hnodup, by omega⟩

end Inversion

section Effects

variable {outbox next : Outbox}

/-- No two deliveries have one id. -/
def UniqueIds (outbox : Outbox) : Prop :=
  ∀ first ∈ outbox.deliveries, ∀ second ∈ outbox.deliveries,
    first.id = second.id → first = second

/-- A statement that selects one row by its id replaces that row. -/
theorem map_update_eq_replace (hids : UniqueIds outbox) {stored : DeliveryRow}
    (hstored : stored ∈ outbox.deliveries) {selects : DeliveryRow → Bool}
    {change : DeliveryRow → DeliveryRow} (hselects : selects stored = true)
    (honly : ∀ row, selects row = true → row.id = stored.id) :
    { outbox with
      deliveries := outbox.deliveries.map fun row =>
        if selects row then change row else row } =
      outbox.replace stored (change stored) := by
  have hrows : (outbox.deliveries.map fun row => if selects row then change row else row) =
      outbox.deliveries.map fun row => if row.id = stored.id then change stored else row := by
    apply List.map_congr_left
    intro row hrow
    by_cases hid : row.id = stored.id
    · rw [hids row hrow stored hstored hid, if_pos hselects, if_pos rfl]
    · rw [if_neg hid, if_neg (fun hrow => hid (honly row hrow))]
  rw [Outbox.replace, hrows]

theorem enqueueWithin_effect {entry : OutboxOp × OutboxAnswer} {event : NotificationEvent}
    {destinations : List DestinationId} {enqueuedAtMs retryUntilMs count : Nat}
    {storage : Storage} (hentry : ∀ id, isFailureOf id entry = false)
    (hretry : retryUntil event destinations enqueuedAtMs = .ok retryUntilMs)
    (hok : enqueueWithin event destinations enqueuedAtMs retryUntilMs storage outbox =
      .ok (next, count)) :
    Effect outbox entry next := by
  obtain ⟨hnodup, hlater⟩ := retryUntil_eq_ok hretry
  unfold enqueueWithin at hok
  obtain ⟨eligible, heligible, hinsert⟩ := bind_eq_ok_iff.mp hok
  obtain ⟨hsublist, hfresh⟩ := eligibleDestinations_eq_ok heligible
  split at hinsert
  · cases hinsert
    exact .kept entry hentry
  · obtain ⟨withEvent, hevent, hrest⟩ := bind_eq_ok_iff.mp hinsert
    obtain ⟨hnew, rfl⟩ := insertEvent_eq_ok hevent
    obtain ⟨inserted, hinserted, hreturn⟩ := bind_eq_ok_iff.mp hrest
    cases hreturn
    rw [insertDeliveries_eq_ok hinserted]
    exact .enqueued entry event eligible enqueuedAtMs retryUntilMs hentry
      (hnodup.sublist hsublist) hfresh hnew hlater

theorem enqueue_effect (event : NotificationEvent) (destinations : List DestinationId)
    (enqueuedAtMs : Nat) (storage : Storage) :
    Effect outbox
      (.enqueue event destinations enqueuedAtMs storage,
        (applyOp outbox (.enqueue event destinations enqueuedAtMs storage)).2)
      (applyOp outbox (.enqueue event destinations enqueuedAtMs storage)).1 := by
  have hentry : ∀ id, isFailureOf id
      (.enqueue event destinations enqueuedAtMs storage,
        (applyOp outbox (.enqueue event destinations enqueuedAtMs storage)).2) = false :=
    fun _ => rfl
  generalize (applyOp outbox (.enqueue event destinations enqueuedAtMs storage)).2 = answer
    at hentry
  show Effect outbox _ (enqueue outbox event destinations enqueuedAtMs storage).1
  unfold enqueue
  split
  · exact .kept _ hentry
  · next retryUntilMs hretry =>
      rcases transaction_cases
        (enqueueWithin event destinations enqueuedAtMs retryUntilMs storage)
        with ⟨written, count, hbody, hdone⟩ | ⟨error, hdone⟩
      · rw [hdone]
        exact enqueueWithin_effect hentry hretry hbody
      · rw [hdone]
        exact .kept _ hentry

theorem DeliveryRow.isOpen_iff {deliveryId : Nat} {row : DeliveryRow} :
    row.isOpen deliveryId = true ↔ row.id = deliveryId ∧ row.isPending = true := by
  simp [DeliveryRow.isOpen]

theorem DeliveryRow.admitted_iff {row : DeliveryRow} :
    row.admitted = true ↔ row.nextAttemptAtMs ≤ row.retryUntilMs ∧
      ¬ (row.deliveredAtMs.isSome = true ∧ row.abandonedAtMs.isSome = true) := by
  simp only [DeliveryRow.admitted, Bool.and_eq_true, decide_eq_true_eq, Bool.not_eq_true',
    ← Bool.not_eq_true]

theorem markDelivered_effect (hids : UniqueIds outbox) (deliveryId : Nat)
    (deliveredAtMs : Nat) (storage : Storage) (answer : OutboxAnswer) :
    Effect outbox (.markDelivered deliveryId deliveredAtMs storage, answer)
      (markDelivered outbox deliveryId deliveredAtMs storage).1 := by
  have hentry : ∀ id, isFailureOf id
      (.markDelivered deliveryId deliveredAtMs storage, answer) = false := fun _ => rfl
  unfold markDelivered
  split
  · exact .kept _ hentry
  · next updated hok =>
      obtain ⟨stamp, -, hupdate⟩ := bind_eq_ok_iff.mp hok
      obtain ⟨hadmitted, rfl⟩ := updateDeliveries_eq_ok hupdate
      by_cases hselected : ∃ stored ∈ outbox.deliveries, stored.isOpen deliveryId = true
      · obtain ⟨stored, hstored, hselects⟩ := hselected
        obtain ⟨hid, hpending⟩ := DeliveryRow.isOpen_iff.mp hselects
        obtain ⟨hschedule, hended⟩ :=
          DeliveryRow.admitted_iff.mp (hadmitted stored hstored hselects)
        rw [map_update_eq_replace hids hstored hselects (fun row hrow =>
          (DeliveryRow.isOpen_iff.mp hrow).1.trans hid.symm)]
        exact .replaced _ stored _ hstored
          { pending := hpending
            id_eq := rfl
            eventId_eq := rfl
            destinationId_eq := rfl
            attemptCount_eq := rfl
            others := fun _ _ => rfl
            ended_once := hended
            scheduled := fun _ => hschedule }
      · -- No row is selected, so the statement changes nothing.
        have hsame : (outbox.deliveries.map fun row =>
            if row.isOpen deliveryId = true
            then { row with deliveredAtMs := some stamp } else row) =
            outbox.deliveries.map id := by
          apply List.map_congr_left
          intro row hrow
          exact if_neg fun hopen => hselected ⟨row, hrow, hopen⟩
        rw [hsame, List.map_id]
        exact .kept _ hentry

theorem recordFailureWithin_effect (hids : UniqueIds outbox) {deliveryId : Nat}
    {failedAtMs : Nat} {errorCode : UInt32} {storage : Storage}
    {disposition : FailureDisposition}
    (hok : recordFailureWithin deliveryId failedAtMs errorCode storage outbox =
      .ok (next, disposition)) :
    Effect outbox (.recordFailure deliveryId failedAtMs errorCode storage,
      .failed disposition) next := by
  unfold recordFailureWithin at hok
  obtain ⟨⟨⟩, -, hselect⟩ := bind_eq_ok_iff.mp hok
  obtain ⟨stored, hfind, hattempts⟩ := bind_eq_ok_iff.mp hselect
  have hfound := okOr_eq_ok_iff.mp hfind
  have hstored := List.mem_of_find?_eq_some hfound
  obtain ⟨rfl, hpending⟩ := DeliveryRow.isOpen_iff.mp (List.find?_some hfound)
  obtain ⟨⟨⟩, -, hnext⟩ := bind_eq_ok_iff.mp hattempts
  obtain ⟨nextAttemptMs, -, hcount⟩ := bind_eq_ok_iff.mp hnext
  obtain ⟨⟨⟩, -, hupdate⟩ := bind_eq_ok_iff.mp hcount
  -- Both branches replace the row; they differ in the column that ends or delays it.
  have hreplaced : ∀ change : DeliveryRow → DeliveryRow,
      (change stored).id = stored.id → (change stored).eventId = stored.eventId →
      (change stored).destinationId = stored.destinationId →
      (change stored).attemptCount = stored.attemptCount + 1 →
      updateDeliveries outbox storage (fun row => row.id = stored.id) change = .ok next →
      Effect outbox (.recordFailure stored.id failedAtMs errorCode storage,
        .failed disposition) next := by
    intro change hid heventId hdestination hattempt hupdated
    obtain ⟨hadmitted, rfl⟩ := updateDeliveries_eq_ok hupdated
    obtain ⟨hschedule, hended⟩ :=
      DeliveryRow.admitted_iff.mp (hadmitted stored hstored (by simp))
    rw [map_update_eq_replace hids hstored (by simp) (by simp)]
    exact .replaced _ stored _ hstored
      { pending := hpending
        id_eq := hid
        eventId_eq := heventId
        destinationId_eq := hdestination
        attemptCount_eq := by simp [hattempt, isFailureOf]
        others := fun id hother => by simpa [isFailureOf] using Ne.symm hother
        ended_once := hended
        scheduled := fun _ => hschedule }
  split at hupdate
  · obtain ⟨failed, -, hwrite⟩ := bind_eq_ok_iff.mp hupdate
    obtain ⟨written, hwritten, hreturn⟩ := bind_eq_ok_iff.mp hwrite
    cases hreturn
    exact hreplaced _ rfl rfl rfl rfl hwritten
  · obtain ⟨retried, -, hwrite⟩ := bind_eq_ok_iff.mp hupdate
    obtain ⟨written, hwritten, hreturn⟩ := bind_eq_ok_iff.mp hwrite
    cases hreturn
    exact hreplaced _ rfl rfl rfl rfl hwritten

theorem isFailureOf_rejected (operation : OutboxOp) (error : NotificationError)
    (id : Nat) : isFailureOf id (operation, .rejected error) = false := by
  cases operation <;> rfl

theorem recordFailure_effect (hids : UniqueIds outbox) (deliveryId : Nat)
    (failedAtMs : Nat) (errorCode : UInt32) (storage : Storage) :
    Effect outbox
      (.recordFailure deliveryId failedAtMs errorCode storage,
        .of .failed (recordFailure outbox deliveryId failedAtMs errorCode storage).2)
      (recordFailure outbox deliveryId failedAtMs errorCode storage).1 := by
  unfold recordFailure
  split
  · exact .kept _ (isFailureOf_rejected _ _)
  · rcases transaction_cases
      (recordFailureWithin deliveryId failedAtMs errorCode storage)
      with ⟨written, disposition, hbody, hdone⟩ | ⟨error, hdone⟩
    · rw [hdone]
      exact recordFailureWithin_effect hids hbody
    · rw [hdone]
      exact .kept _ (isFailureOf_rejected _ _)

theorem step_effect (hids : UniqueIds outbox) (operation : OutboxOp) :
    Effect outbox (operation, (notificationStore.step outbox operation).2)
      (notificationStore.step outbox operation).1 := by
  cases operation with
  | enqueue event destinations enqueuedAtMs storage =>
      exact enqueue_effect event destinations enqueuedAtMs storage
  | due nowMs limit storage => exact .kept _ fun _ => rfl
  | markDelivered deliveryId deliveredAtMs storage =>
      exact markDelivered_effect hids deliveryId deliveredAtMs storage _
  | recordFailure deliveryId failedAtMs errorCode storage =>
      exact recordFailure_effect hids deliveryId failedAtMs errorCode storage

end Effects

/-! ## The invariants of the tables -/

/-- Two deliveries to one destination, of events that are no recoveries and have one
dedupe key, lie at least the cooldown apart. -/
def Cooled (outbox : Outbox) : Prop :=
  ∀ first ∈ outbox.deliveries, ∀ second ∈ outbox.deliveries,
    ∀ firstEvent ∈ outbox.events, ∀ secondEvent ∈ outbox.events,
      firstEvent.event.eventId = first.eventId →
      secondEvent.event.eventId = second.eventId →
      first.id ≠ second.id →
      first.destinationId = second.destinationId →
      firstEvent.event.dedupeKey = secondEvent.event.dedupeKey →
      firstEvent.event.category ≠ .recovery →
      secondEvent.event.category ≠ .recovery →
      firstEvent.enqueuedAtMs + defaultCooldownMs ≤ secondEvent.enqueuedAtMs ∨
        secondEvent.enqueuedAtMs + defaultCooldownMs ≤ firstEvent.enqueuedAtMs

/-- What holds of the outbox after a history of operations and answers. -/
structure Recorded (history : List (OutboxOp × OutboxAnswer)) (outbox : Outbox) :
    Prop where
  uniqueIds : UniqueIds outbox
  id_le : ∀ row ∈ outbox.deliveries, row.id ≤ outbox.sequence
  referenced : ∀ row ∈ outbox.deliveries, ∃ stored ∈ outbox.events,
    stored.event.eventId = row.eventId
  ended_once : ∀ row ∈ outbox.deliveries,
    ¬ (row.deliveredAtMs.isSome = true ∧ row.abandonedAtMs.isSome = true)
  scheduled : ∀ row ∈ outbox.deliveries,
    row.isPending = true → row.nextAttemptAtMs ≤ row.retryUntilMs
  attempts : ∀ row ∈ outbox.deliveries, row.attemptCount = recordedFailures history row.id
  unused : ∀ id, outbox.sequence < id → recordedFailures history id = 0
  cooled : Cooled outbox

theorem Recorded.empty : Recorded [] Outbox.empty where
  uniqueIds := by simp [UniqueIds, Outbox.empty]
  id_le := by simp [Outbox.empty]
  referenced := by simp [Outbox.empty]
  ended_once := by simp [Outbox.empty]
  scheduled := by simp [Outbox.empty]
  attempts := by simp [Outbox.empty]
  unused := by simp [recordedFailures]
  cooled := by simp [Cooled, Outbox.empty]

theorem recordedFailures_append (history : List (OutboxOp × OutboxAnswer))
    (entry : OutboxOp × OutboxAnswer) (id : Nat) :
    recordedFailures (history ++ [entry]) id =
      recordedFailures history id + if isFailureOf id entry then 1 else 0 := by
  simp [recordedFailures, List.countP_append, List.countP_singleton]

theorem recordedFailures_append_of_not {history : List (OutboxOp × OutboxAnswer)}
    {entry : OutboxOp × OutboxAnswer} {id : Nat} (hentry : isFailureOf id entry = false) :
    recordedFailures (history ++ [entry]) id = recordedFailures history id := by
  rw [recordedFailures_append, hentry]
  rfl

/-- A new row has a fresh id and the fields of its event. -/
theorem mem_newDeliveries {event : NotificationEvent} {enqueuedAtMs retryUntilMs : Nat}
    {destinations : List DestinationId} {sequence : Nat} {row : DeliveryRow}
    (hrow : row ∈ newDeliveries event enqueuedAtMs retryUntilMs sequence destinations) :
    sequence < row.id ∧ row.id ≤ sequence + destinations.length ∧
      row.destinationId ∈ destinations ∧
      row = newDelivery row.id event enqueuedAtMs retryUntilMs row.destinationId := by
  induction destinations generalizing sequence with
  | nil => simp [newDeliveries] at hrow
  | cons destination rest ih =>
      rcases List.mem_cons.mp hrow with rfl | htail
      · simp [newDelivery]
      · obtain ⟨hlower, hupper, hmem, heq⟩ := ih htail
        refine ⟨by omega, ?_, by simp [hmem], heq⟩
        rw [List.length_cons]
        omega

/-- Different new rows have different ids and different destinations. -/
theorem newDeliveries_distinct {event : NotificationEvent} {enqueuedAtMs retryUntilMs : Nat}
    {destinations : List DestinationId} (hnodup : destinations.Nodup) {sequence : Nat}
    {first second : DeliveryRow}
    (hfirst : first ∈ newDeliveries event enqueuedAtMs retryUntilMs sequence destinations)
    (hsecond : second ∈ newDeliveries event enqueuedAtMs retryUntilMs sequence destinations) :
    (first.id = second.id → first = second) ∧
      (first.destinationId = second.destinationId → first = second) := by
  induction destinations generalizing sequence with
  | nil => simp [newDeliveries] at hfirst
  | cons destination rest ih =>
      obtain ⟨hhead, htail⟩ := List.nodup_cons.mp hnodup
      rcases List.mem_cons.mp hfirst with rfl | hfirst <;>
        rcases List.mem_cons.mp hsecond with rfl | hsecond
      · simp
      · obtain ⟨hlower, -, hmem, -⟩ := mem_newDeliveries hsecond
        refine ⟨fun heq => ?_, fun heq => ?_⟩
        · simp only [newDelivery] at heq
          omega
        · have hdestination : second.destinationId = destination := heq.symm
          exact absurd (hdestination ▸ hmem) hhead
      · obtain ⟨hlower, -, hmem, -⟩ := mem_newDeliveries hfirst
        refine ⟨fun heq => ?_, fun heq => ?_⟩
        · simp only [newDelivery] at heq
          omega
        · have hdestination : first.destinationId = destination := heq
          exact absurd (hdestination ▸ hmem) hhead
      · exact ih htail hfirst hsecond

section Steps

variable {history : List (OutboxOp × OutboxAnswer)} {entry : OutboxOp × OutboxAnswer}
  {outbox : Outbox}

theorem not_suppressed {destination : DestinationId} {dedupeKey : DedupeKey}
    {cooldownStart : Nat}
    (hfresh : suppressed outbox destination dedupeKey cooldownStart = false)
    {row : DeliveryRow} (hrow : row ∈ outbox.deliveries) {stored : EventRow}
    (hstored : stored ∈ outbox.events) (hevent : stored.event.eventId = row.eventId)
    (hdestination : row.destinationId = destination)
    (hkey : stored.event.dedupeKey = dedupeKey) :
    stored.enqueuedAtMs < cooldownStart := by
  simp only [suppressed, List.any_eq_false] at hfresh
  have hlate := hfresh row hrow
  rw [Bool.not_eq_true, List.any_eq_false] at hlate
  have hnot := hlate stored hstored
  simp only [hevent, hdestination, hkey, decide_true, Bool.true_and, Bool.and_true,
    decide_eq_true_eq] at hnot
  omega

/-- The rows of a new event are apart from the rows before them. -/
theorem Recorded.cooled_enqueued (hrecorded : Recorded history outbox)
    {event : NotificationEvent} {eligible : List DestinationId}
    {enqueuedAtMs retryUntilMs : Nat} (hnodup : eligible.Nodup)
    (hfresh : event.category ≠ .recovery → ∀ destination ∈ eligible,
      suppressed outbox destination event.dedupeKey (enqueuedAtMs - defaultCooldownMs) = false)
    (hnew : ∀ stored ∈ outbox.events, stored.event.eventId ≠ event.eventId) :
    Cooled
      { events := outbox.events ++ [⟨event, enqueuedAtMs⟩]
        deliveries := outbox.deliveries ++
          newDeliveries event enqueuedAtMs retryUntilMs outbox.sequence eligible
        sequence := outbox.sequence + eligible.length } := by
  -- An event belongs to a row of the same age.
  have hold : ∀ row ∈ outbox.deliveries, ∀ stored ∈ outbox.events ++ [⟨event, enqueuedAtMs⟩],
      stored.event.eventId = row.eventId → stored ∈ outbox.events := by
    intro row hrow stored hstored heq
    rcases List.mem_append.mp hstored with hbefore | hlast
    · exact hbefore
    · obtain rfl := List.mem_singleton.mp hlast
      obtain ⟨known, hknown, hknownId⟩ := hrecorded.referenced row hrow
      exact absurd (hknownId.trans heq.symm) (hnew known hknown)
  have hyoung : ∀ row ∈ newDeliveries event enqueuedAtMs retryUntilMs outbox.sequence eligible,
      ∀ stored ∈ outbox.events ++ [⟨event, enqueuedAtMs⟩],
      stored.event.eventId = row.eventId → stored = ⟨event, enqueuedAtMs⟩ := by
    intro row hrow stored hstored heq
    obtain ⟨-, -, -, hfields⟩ := mem_newDeliveries hrow
    rw [hfields] at heq
    rcases List.mem_append.mp hstored with hbefore | hlast
    · exact absurd heq (hnew stored hbefore)
    · exact List.mem_singleton.mp hlast
  -- A row before and a row of the new event.
  have hacross : ∀ row ∈ outbox.deliveries, ∀ stored ∈ outbox.events,
      ∀ added ∈ newDeliveries event enqueuedAtMs retryUntilMs outbox.sequence eligible,
      stored.event.eventId = row.eventId → row.destinationId = added.destinationId →
      stored.event.dedupeKey = event.dedupeKey → event.category ≠ .recovery →
      stored.enqueuedAtMs + defaultCooldownMs ≤ enqueuedAtMs := by
    intro row hrow stored hstored added hadded hevent hdestination hkey hcategory
    obtain ⟨-, -, hmem, -⟩ := mem_newDeliveries hadded
    have hbefore := not_suppressed (hfresh hcategory _ hmem) hrow hstored hevent
      hdestination hkey
    omega
  intro first hfirst second hsecond firstEvent hfirstEvent secondEvent hsecondEvent
    hfirstId hsecondId hids hdestination hkey hfirstCategory hsecondCategory
  rcases List.mem_append.mp hfirst with hfirst | hfirst <;>
    rcases List.mem_append.mp hsecond with hsecond | hsecond
  · exact hrecorded.cooled first hfirst second hsecond firstEvent
      (hold first hfirst firstEvent hfirstEvent hfirstId) secondEvent
      (hold second hsecond secondEvent hsecondEvent hsecondId) hfirstId hsecondId hids
      hdestination hkey hfirstCategory hsecondCategory
  · obtain rfl := hyoung second hsecond secondEvent hsecondEvent hsecondId
    exact Or.inl (hacross first hfirst firstEvent
      (hold first hfirst firstEvent hfirstEvent hfirstId) second hsecond hfirstId
      hdestination hkey hsecondCategory)
  · obtain rfl := hyoung first hfirst firstEvent hfirstEvent hfirstId
    exact Or.inr (hacross second hsecond secondEvent
      (hold second hsecond secondEvent hsecondEvent hsecondId) first hfirst hsecondId
      hdestination.symm hkey.symm hfirstCategory)
  · have hsame := (newDeliveries_distinct hnodup hfirst hsecond).2 hdestination
    exact absurd (congrArg DeliveryRow.id hsame) hids

theorem Recorded.enqueued (hrecorded : Recorded history outbox)
    (hentry : ∀ id, isFailureOf id entry = false)
    {event : NotificationEvent} {eligible : List DestinationId}
    {enqueuedAtMs retryUntilMs : Nat} (hnodup : eligible.Nodup)
    (hfresh : event.category ≠ .recovery → ∀ destination ∈ eligible,
      suppressed outbox destination event.dedupeKey (enqueuedAtMs - defaultCooldownMs) = false)
    (hnew : ∀ stored ∈ outbox.events, stored.event.eventId ≠ event.eventId)
    (hretry : enqueuedAtMs ≤ retryUntilMs) :
    Recorded (history ++ [entry])
      { events := outbox.events ++ [⟨event, enqueuedAtMs⟩]
        deliveries := outbox.deliveries ++
          newDeliveries event enqueuedAtMs retryUntilMs outbox.sequence eligible
        sequence := outbox.sequence + eligible.length } where
  uniqueIds := by
    intro first hfirst second hsecond hid
    rcases List.mem_append.mp hfirst with hfirst | hfirst <;>
      rcases List.mem_append.mp hsecond with hsecond | hsecond
    · exact hrecorded.uniqueIds first hfirst second hsecond hid
    · have hbefore := hrecorded.id_le first hfirst
      have hafter := (mem_newDeliveries hsecond).1
      omega
    · have hbefore := hrecorded.id_le second hsecond
      have hafter := (mem_newDeliveries hfirst).1
      omega
    · exact (newDeliveries_distinct hnodup hfirst hsecond).1 hid
  id_le := by
    intro row hrow
    show row.id ≤ outbox.sequence + eligible.length
    rcases List.mem_append.mp hrow with hrow | hrow
    · have hbefore := hrecorded.id_le row hrow
      omega
    · exact (mem_newDeliveries hrow).2.1
  referenced := by
    intro row hrow
    rcases List.mem_append.mp hrow with hrow | hrow
    · obtain ⟨stored, hstored, heq⟩ := hrecorded.referenced row hrow
      exact ⟨stored, List.mem_append_left _ hstored, heq⟩
    · obtain ⟨-, -, -, hfields⟩ := mem_newDeliveries hrow
      refine ⟨⟨event, enqueuedAtMs⟩, List.mem_append_right _ (List.mem_singleton.mpr rfl), ?_⟩
      rw [hfields]
      rfl
  ended_once := by
    intro row hrow
    rcases List.mem_append.mp hrow with hrow | hrow
    · exact hrecorded.ended_once row hrow
    · rw [(mem_newDeliveries hrow).2.2.2]
      simp [newDelivery]
  scheduled := by
    intro row hrow hpending
    rcases List.mem_append.mp hrow with hrow | hrow
    · exact hrecorded.scheduled row hrow hpending
    · rw [(mem_newDeliveries hrow).2.2.2]
      exact hretry
  attempts := by
    intro row hrow
    rw [recordedFailures_append_of_not (hentry row.id)]
    rcases List.mem_append.mp hrow with hrow | hrow
    · exact hrecorded.attempts row hrow
    · obtain ⟨hfreshId, -, -, hfields⟩ := mem_newDeliveries hrow
      rw [hrecorded.unused row.id hfreshId, hfields]
      rfl
  unused := by
    intro id hid
    have hbefore : outbox.sequence + eligible.length < id := hid
    rw [recordedFailures_append_of_not (hentry id)]
    exact hrecorded.unused id (by omega)
  cooled := hrecorded.cooled_enqueued hnodup hfresh hnew

theorem mem_replace {stored next row : DeliveryRow}
    (hrow : row ∈ (outbox.replace stored next).deliveries) :
    row = next ∨ (row ∈ outbox.deliveries ∧ row.id ≠ stored.id) := by
  obtain ⟨before, hbefore, heq⟩ := List.mem_map.mp hrow
  by_cases hid : before.id = stored.id
  · rw [if_pos hid] at heq
    exact Or.inl heq.symm
  · rw [if_neg hid] at heq
    exact Or.inr (heq ▸ ⟨hbefore, hid⟩)

theorem Recorded.replaced (hrecorded : Recorded history outbox) {stored next : DeliveryRow}
    (hstored : stored ∈ outbox.deliveries) (hnext : Succeeds entry stored next) :
    Recorded (history ++ [entry]) (outbox.replace stored next) := by
  -- A row keeps its id, its event and its destination.
  have hsource : ∀ row ∈ (outbox.replace stored next).deliveries,
      ∃ before ∈ outbox.deliveries, row.id = before.id ∧ row.eventId = before.eventId ∧
        row.destinationId = before.destinationId := by
    intro row hrow
    rcases mem_replace hrow with rfl | ⟨hold, -⟩
    · exact ⟨stored, hstored, hnext.id_eq, hnext.eventId_eq, hnext.destinationId_eq⟩
    · exact ⟨row, hold, rfl, rfl, rfl⟩
  constructor
  case uniqueIds =>
    intro first hfirst second hsecond hid
    rcases mem_replace hfirst with rfl | ⟨hfirst, hfirstId⟩ <;>
      rcases mem_replace hsecond with rfl | ⟨hsecond, hsecondId⟩
    · rfl
    · exact absurd (hid.symm.trans hnext.id_eq) hsecondId
    · exact absurd (hid.trans hnext.id_eq) hfirstId
    · exact hrecorded.uniqueIds first hfirst second hsecond hid
  case id_le =>
    intro row hrow
    obtain ⟨before, hbefore, hid, -, -⟩ := hsource row hrow
    rw [hid]
    exact hrecorded.id_le before hbefore
  case referenced =>
    intro row hrow
    obtain ⟨before, hbefore, -, hevent, -⟩ := hsource row hrow
    rw [hevent]
    exact hrecorded.referenced before hbefore
  case ended_once =>
    intro row hrow
    rcases mem_replace hrow with rfl | ⟨hold, -⟩
    · exact hnext.ended_once
    · exact hrecorded.ended_once row hold
  case scheduled =>
    intro row hrow
    rcases mem_replace hrow with rfl | ⟨hold, -⟩
    · exact hnext.scheduled
    · exact hrecorded.scheduled row hold
  case attempts =>
    intro row hrow
    rcases mem_replace hrow with rfl | ⟨hold, hid⟩
    · rw [hnext.attemptCount_eq, hnext.id_eq, recordedFailures_append,
        hrecorded.attempts stored hstored]
    · rw [recordedFailures_append_of_not (hnext.others row.id hid)]
      exact hrecorded.attempts row hold
  case unused =>
    intro id hid
    have hother : id ≠ stored.id := by
      rintro rfl
      exact absurd (hrecorded.id_le stored hstored) (Nat.not_le.mpr hid)
    rw [recordedFailures_append_of_not (hnext.others id hother)]
    exact hrecorded.unused id hid
  case cooled =>
    intro first hfirst second hsecond firstEvent hfirstEvent secondEvent hsecondEvent
      hfirstId hsecondId hids hdestination
    obtain ⟨firstBefore, hfirstBefore, hfirstKeeps⟩ := hsource first hfirst
    obtain ⟨secondBefore, hsecondBefore, hsecondKeeps⟩ := hsource second hsecond
    rw [hfirstKeeps.2.1] at hfirstId
    rw [hsecondKeeps.2.1] at hsecondId
    rw [hfirstKeeps.1, hsecondKeeps.1] at hids
    rw [hfirstKeeps.2.2, hsecondKeeps.2.2] at hdestination
    exact hrecorded.cooled firstBefore hfirstBefore secondBefore hsecondBefore firstEvent
      hfirstEvent secondEvent hsecondEvent hfirstId hsecondId hids hdestination

theorem Recorded.step (hrecorded : Recorded history outbox) (operation : OutboxOp) :
    Recorded (history ++ [(operation, (notificationStore.step outbox operation).2)])
      (notificationStore.step outbox operation).1 := by
  have heffect := step_effect hrecorded.uniqueIds operation
  generalize (operation, (notificationStore.step outbox operation).2) = entry at heffect ⊢
  generalize (notificationStore.step outbox operation).1 = next at heffect ⊢
  cases heffect with
  | kept hentry =>
      exact { hrecorded with
        attempts := fun row hrow => by
          rw [recordedFailures_append_of_not (hentry row.id)]
          exact hrecorded.attempts row hrow
        unused := fun id hid => by
          rw [recordedFailures_append_of_not (hentry id)]
          exact hrecorded.unused id hid }
  | enqueued event eligible enqueuedAtMs retryUntilMs hentry hnodup hfresh hnew hretry =>
      exact hrecorded.enqueued hentry hnodup hfresh hnew hretry
  | replaced stored next hstored hnext => exact hrecorded.replaced hstored hnext

end Steps

theorem recorded_run (operations : List OutboxOp) :
    Recorded (notificationStore.trace Outbox.empty operations)
      (notificationStore.run Outbox.empty operations) :=
  notificationStore.history_run Recorded .empty
    (fun _ _ operation hrecorded => hrecorded.step operation) operations

/-! ## The end of a delivery is final -/

/-- An ended row is no longer touched. -/
theorem ended_kept {outbox next : Outbox} {entry : OutboxOp × OutboxAnswer}
    (hids : UniqueIds outbox) (heffect : Effect outbox entry next) {row : DeliveryRow}
    (hrow : row ∈ outbox.deliveries) (hended : row.isPending = false) :
    row ∈ next.deliveries := by
  cases heffect with
  | kept _ => exact hrow
  | enqueued => exact List.mem_append_left _ hrow
  | replaced stored next hstored hnext =>
      refine List.mem_map.mpr ⟨row, hrow, if_neg ?_⟩
      intro hid
      -- Only a pending row has a successor.
      have hpending := hnext.pending
      rw [← hids row hrow stored hstored hid, hended] at hpending
      cases hpending

theorem ended_run {reached operations : List OutboxOp} (hreached : reached <+: operations)
    {row : DeliveryRow}
    (hrow : row ∈ (notificationStore.run Outbox.empty reached).deliveries)
    (hended : row.isPending = false) :
    row ∈ (notificationStore.run Outbox.empty operations).deliveries := by
  obtain ⟨rest, rfl⟩ := hreached
  induction rest using List.reverseRecOn with
  | nil => simpa using hrow
  | append_singleton rest operation ih =>
      rw [← List.append_assoc, Machine.run_append]
      exact ended_kept (recorded_run _).uniqueIds
        (step_effect (recorded_run _).uniqueIds operation) ih hended

/-- The ways a delivery can stand. -/
inductive DeliveryStatus where
  | pending
  | delivered
  | abandoned

def DeliveryRow.Stands (row : DeliveryRow) : DeliveryStatus → Prop
  | .pending => row.deliveredAtMs = none ∧ row.abandonedAtMs = none
  | .delivered => row.deliveredAtMs.isSome = true
  | .abandoned => row.abandonedAtMs.isSome = true

theorem isPending_iff_stands {row : DeliveryRow} :
    row.isPending = true ↔ row.Stands .pending := by
  simp [DeliveryRow.isPending, DeliveryRow.Stands]

theorem existsUnique_stands {row : DeliveryRow}
    (hended : ¬ (row.deliveredAtMs.isSome = true ∧ row.abandonedAtMs.isSome = true)) :
    ∃! status, row.Stands status := by
  cases hdelivered : row.deliveredAtMs with
  | some deliveredAtMs =>
      have habandoned : row.abandonedAtMs.isSome = false := by
        simpa [hdelivered] using hended
      refine ⟨.delivered, by simp [DeliveryRow.Stands, hdelivered], ?_⟩
      intro status hstatus
      cases status <;> simp [DeliveryRow.Stands, hdelivered, habandoned] at hstatus ⊢
  | none =>
      cases habandoned : row.abandonedAtMs with
      | some abandonedAtMs =>
          refine ⟨.abandoned, by simp [DeliveryRow.Stands, habandoned], ?_⟩
          intro status hstatus
          cases status <;> simp [DeliveryRow.Stands, hdelivered, habandoned] at hstatus ⊢
      | none =>
          refine ⟨.pending, by simp [DeliveryRow.Stands, hdelivered, habandoned], ?_⟩
          intro status hstatus
          cases status <;> simp [DeliveryRow.Stands, hdelivered, habandoned] at hstatus ⊢

/-- A rejected enqueue is rolled back. -/
theorem enqueue_rejected {outbox : Outbox} {event : NotificationEvent}
    {destinations : List DestinationId} {enqueuedAtMs : Nat} {storage : Storage}
    {error : NotificationError}
    (hrejected : (enqueue outbox event destinations enqueuedAtMs storage).2 = .error error) :
    (enqueue outbox event destinations enqueuedAtMs storage).1 = outbox := by
  cases hretry : retryUntil event destinations enqueuedAtMs with
  | error before =>
      unfold enqueue
      rw [hretry]
  | ok retryUntilMs =>
      unfold enqueue at hrejected ⊢
      rw [hretry] at hrejected ⊢
      rcases transaction_cases
        (enqueueWithin event destinations enqueuedAtMs retryUntilMs storage)
        with ⟨written, count, -, hdone⟩ | ⟨within, hdone⟩
      · have haccepted := congrArg Prod.snd hdone
        cases haccepted.symm.trans hrejected
      · exact congrArg Prod.fst hdone

/-- Whatever is done with the outbox, at whatever times: each delivery stands in one
way and has an event; its attempts are the failures recorded for it; while it is
pending its next attempt is not after the end of its retries; once it has ended its
row stays; deliveries of one key are apart; a failed enqueue stores nothing. -/
theorem outbox_history (operations : List OutboxOp) :
    let history := notificationStore.trace Outbox.empty operations
    let outbox := notificationStore.run Outbox.empty operations
    (∀ row ∈ outbox.deliveries,
      (∃! status, row.Stands status) ∧
      row.attemptCount = recordedFailures history row.id ∧
      (row.Stands .pending → row.nextAttemptAtMs ≤ row.retryUntilMs) ∧
      ∃ stored ∈ outbox.events, stored.event.eventId = row.eventId) ∧
    UniqueIds outbox ∧
    (∀ reached, reached <+: operations →
      ∀ row ∈ (notificationStore.run Outbox.empty reached).deliveries,
        ¬ row.Stands .pending → row ∈ outbox.deliveries) ∧
    Cooled outbox ∧
    ∀ event destinations enqueuedAtMs storage error,
      (enqueue outbox event destinations enqueuedAtMs storage).2 = .error error →
        (enqueue outbox event destinations enqueuedAtMs storage).1 = outbox := by
  intro history outbox
  have hrecorded : Recorded history outbox := recorded_run operations
  refine ⟨?_, hrecorded.uniqueIds, ?_, hrecorded.cooled, ?_⟩
  · intro row hrow
    refine ⟨existsUnique_stands (hrecorded.ended_once row hrow),
      hrecorded.attempts row hrow, ?_, hrecorded.referenced row hrow⟩
    intro hpending
    exact hrecorded.scheduled row hrow (isPending_iff_stands.mpr hpending)
  · intro reached hreached row hrow hended
    refine ended_run hreached hrow ?_
    rw [← isPending_iff_stands, Bool.not_eq_true] at hended
    exact hended
  · intro event destinations enqueuedAtMs storage error hrejected
    exact enqueue_rejected hrejected

end Notify
end Lirvena
