import Lirvena.Lib.Mailbox
import Lirvena.Notify.NotificationStoreRun

/-!
# The notification worker

One task owns the outbox.  It stores the events that it is handed, and on a request or a
tick of its own it sweeps: it claims a batch of due deliveries, attempts each of them once
and stores how the attempt ended before the next one.  What an attempt meets at its
destination and what the database carries out are the surroundings of the work.

A worker ends when its outbox fails or its handles are gone, and the next one is started on
the rows that it left.
-/

namespace Lirvena
namespace Notify

open Lib

/-- Redacted single-attempt adapter failure. -/
inductive AdapterError where
  | configuration
  | transport
  | rejected
  deriving DecidableEq

/-- Stable nonzero code, safe to persist in the outbox. -/
def AdapterError.code : AdapterError → UInt32
  | .configuration => 1
  | .transport => 2
  | .rejected => 3

theorem AdapterError.code_ne_zero (error : AdapterError) : error.code ≠ 0 := by
  cases error <;> decide

/-- Summary of one bounded outbox delivery sweep. -/
structure DeliverySweep where
  attempted : Nat
  delivered : Nat
  failed : Nat
  deriving DecidableEq

/-- `Command`; `awaited` says whether an enqueue carries a reply channel. -/
inductive Command where
  | enqueue (event : NotificationEvent) (enqueuedAtMs : Nat) (awaited : Bool)
  | flush (nowMs : Nat)
  | shutdown

/-- What the loop selects beside the commands of its handles. -/
inductive OwnWork where
  | tick
  | disconnected

/-- What a work meets: the milliseconds since the epoch, if the clock stands after it, the
answers of the destinations, and what the database carries out of an enqueue or a claim and
of the statements about one delivery. -/
structure Surroundings where
  sinceEpoch : Option Nat
  remote : Delivery → Except AdapterError Unit
  storage : Storage
  recording : Nat → Storage

/-- One delivery attempt, how it ended and whether its end was stored. -/
structure Attempt where
  delivery : Delivery
  atMs : Nat
  outcome : Except AdapterError Unit
  stored : Except NotificationError Unit

/-- What a work of the loop answers and the attempts that it made. -/
inductive WorkAnswer where
  | enqueued (answer : Except NotificationError Nat)
  | swept (attempts : List Attempt) (answer : Except NotificationError DeliverySweep)
  | stopped (attempts : List Attempt)
  | clockless
  | disconnected

def WorkAnswer.attempts : WorkAnswer → List Attempt
  | .swept attempts _ | .stopped attempts => attempts
  | _ => []

def deliveryBatch : Nat := 100

def nowMs (sinceEpoch : Option Nat) : Except NotificationError Nat := do
  let elapsed ← okOr .configuration sinceEpoch
  rejectIf .configuration (u64Bound ≤ elapsed)
  return elapsed

/-! ## A sweep -/

/-- The attempt at the adapter of the destination, if there is one. -/
def attemptOutcome (adapters : List DestinationId) (around : Surroundings)
    (delivery : Delivery) : Except AdapterError Unit :=
  if delivery.destinationId ∈ adapters then around.remote delivery
  else .error .configuration

/-- Stores how an attempt ended. -/
def settle (outbox : Outbox) (deliveryId nowMs : Nat) (outcome : Except AdapterError Unit)
    (storage : Storage) : Outbox × Except NotificationError Unit :=
  match outcome with
  | .ok () => markDelivered outbox deliveryId nowMs storage
  | .error error =>
      let recorded := recordFailure outbox deliveryId nowMs error.code storage
      (recorded.1, recorded.2.map fun _ => ())

def DeliverySweep.count (sweep : DeliverySweep) : Except AdapterError Unit → DeliverySweep
  | .ok () => { sweep with delivered := sweep.delivered + 1 }
  | .error _ => { sweep with failed := sweep.failed + 1 }

/-- What a sweep leaves, the attempts it made and its answer. -/
structure Swept where
  outbox : Outbox
  attempts : List Attempt
  answer : Except NotificationError DeliverySweep

/-- The loop of `deliver_due` over the claimed deliveries. -/
def deliverEach (adapters : List DestinationId) (nowMs : Nat) (around : Surroundings) :
    Outbox → DeliverySweep → List Delivery → Swept
  | outbox, sweep, [] => ⟨outbox, [], .ok sweep⟩
  | outbox, sweep, delivery :: rest =>
      let outcome := attemptOutcome adapters around delivery
      let settled := settle outbox delivery.id nowMs outcome (around.recording delivery.id)
      let attempt := Attempt.mk delivery nowMs outcome settled.2
      match settled.2 with
      | .error error => ⟨settled.1, [attempt], .error error⟩
      | .ok () =>
          let others := deliverEach adapters nowMs around settled.1 (sweep.count outcome) rest
          { others with attempts := attempt :: others.attempts }

def deliverDue (adapters : List DestinationId) (outbox : Outbox) (nowMs : Nat)
    (around : Surroundings) : Swept :=
  match due outbox nowMs deliveryBatch around.storage with
  | .error error => ⟨outbox, [], .error error⟩
  | .ok claimed => deliverEach adapters nowMs around outbox ⟨claimed.length, 0, 0⟩ claimed

/-- The loop of `run`.  The destinations of an event are those of the adapters. -/
def notificationWorker (adapters : List DestinationId) :
    Server Outbox Command OwnWork Surroundings WorkAnswer where
  handle outbox
    | .inl (.enqueue event enqueuedAtMs _), around =>
        let queued := enqueue outbox event adapters enqueuedAtMs around.storage
        (queued.1, .enqueued queued.2)
    | .inl (.flush now), around =>
        let swept := deliverDue adapters outbox now around
        (swept.outbox, .swept swept.attempts swept.answer)
    | .inl .shutdown, around =>
        match nowMs around.sinceEpoch with
        | .error _ => (outbox, .stopped [])
        | .ok now =>
            let swept := deliverDue adapters outbox now around
            (swept.outbox, .stopped swept.attempts)
    | .inr .tick, around =>
        match nowMs around.sinceEpoch with
        | .error _ => (outbox, .clockless)
        | .ok now =>
            let swept := deliverDue adapters outbox now around
            (swept.outbox, .swept swept.attempts swept.answer)
    | .inr .disconnected, _ => (outbox, .disconnected)
  ends
    -- an enqueue that nobody waits for must not be lost in silence
    | .inl (.enqueue _ _ awaited), .enqueued (.error _) => !awaited
    | .inl (.flush _), .swept _ (.error _) => true
    | .inl .shutdown, _ => true
    | .inr .tick, .swept _ (.error _) => true
    | .inr .tick, .clockless => true
    | .inr .disconnected, _ => true
    | _, _ => false

/-! ## The schedule of the attempts -/

/-- After the third failure the last delay is kept. -/
theorem retryDelay_add_three (attempts : Nat) : retryDelay (attempts + 3) = 7200000 := by
  have hlast : min (attempts + 3) (retryDelaysMs.length - 1) = 3 := by
    show min (attempts + 3) 3 = 3
    omega
  rw [retryDelay, hlast]
  rfl

theorem retryDelay_pos (attempts : Nat) : 0 < retryDelay attempts := by
  rcases attempts with _ | _ | _ | attempts
  · decide
  · decide
  · decide
  · rw [retryDelay_add_three]
    decide

theorem retryDelay_le (attempts : Nat) : retryDelay attempts ≤ 7200000 := by
  rcases attempts with _ | _ | _ | attempts
  · decide
  · decide
  · decide
  · rw [retryDelay_add_three]

/-- The delays that lie before an attempt with so many failures behind it. -/
def backoff : Nat → Nat
  | 0 => 0
  | attempts + 1 => backoff attempts + retryDelay attempts

theorem backoff_add_three (attempts : Nat) :
    backoff (attempts + 3) = 2160000 + 7200000 * attempts := by
  induction attempts with
  | zero => rfl
  | succ attempts ih =>
      rw [Nat.add_right_comm, backoff, ih, retryDelay_add_three]
      omega

/-- The attempts that fit into the lifetime of a delivery. -/
def attemptLimit : Severity → Nat
  | .info => 3
  | .warning => 4
  | .critical => 15

theorem backoff_le_lifetime_iff {severity : Severity} {attempts : Nat} :
    backoff attempts ≤ retryLifetime severity ↔ attempts < attemptLimit severity := by
  rcases attempts with _ | _ | _ | attempts
  · cases severity <;> decide
  · cases severity <;> decide
  · cases severity <;> decide
  · rw [backoff_add_three]
    cases severity <;> simp only [retryLifetime, attemptLimit] <;> omega

/-! ## What one statement about a delivery leaves -/

/-- A pending row after an attempt whose end was stored. -/
inductive Settled (row : DeliveryRow) (nowMs : Nat) :
    Except AdapterError Unit → DeliveryRow → Prop where
  | delivered : Settled row nowMs (.ok ()) { row with deliveredAtMs := some nowMs }
  | abandoned (error : AdapterError)
      (hlate : row.retryUntilMs < nowMs + retryDelay row.attemptCount) :
      Settled row nowMs (.error error)
        { row with
          attemptCount := row.attemptCount + 1
          lastErrorCode := some error.code
          abandonedAtMs := some nowMs }
  | retried (error : AdapterError)
      (hinTime : nowMs + retryDelay row.attemptCount ≤ row.retryUntilMs) :
      Settled row nowMs (.error error)
        { row with
          attemptCount := row.attemptCount + 1
          lastErrorCode := some error.code
          nextAttemptAtMs := nowMs + retryDelay row.attemptCount }

/-- The ids of the deliveries are a key. -/
def KeyedRows (outbox : Outbox) : Prop :=
  (outbox.deliveries.map DeliveryRow.id).Nodup

theorem KeyedRows.uniqueIds {outbox : Outbox} (hkeyed : KeyedRows outbox) :
    UniqueIds outbox :=
  fun _ hfirst _ hsecond hid => List.inj_on_of_nodup_map hkeyed hfirst hsecond hid

section Settle

variable {outbox : Outbox} {row : DeliveryRow} {nowMs : Nat} {storage : Storage}

theorem find_open (hkeyed : KeyedRows outbox) (hrow : row ∈ outbox.deliveries)
    (hpending : row.isPending = true) :
    outbox.deliveries.find? (DeliveryRow.isOpen row.id) = some row := by
  cases hfind : outbox.deliveries.find? (DeliveryRow.isOpen row.id) with
  | none =>
      exact absurd (DeliveryRow.isOpen_iff.mpr ⟨rfl, hpending⟩)
        (List.find?_eq_none.mp hfind row hrow)
  | some found =>
      have hid := (DeliveryRow.isOpen_iff.mp (List.find?_some hfind)).1
      rw [hkeyed.uniqueIds found (List.mem_of_find?_eq_some hfind) row hrow hid]

theorem countP_open (hkeyed : KeyedRows outbox) (hrow : row ∈ outbox.deliveries)
    (hpending : row.isPending = true) :
    outbox.deliveries.countP (DeliveryRow.isOpen row.id) = 1 := by
  have hsame : ∀ other ∈ outbox.deliveries,
      DeliveryRow.isOpen row.id other = true ↔ (other == row) = true := by
    intro other hother
    rw [DeliveryRow.isOpen_iff, beq_iff_eq]
    refine ⟨fun hopen => hkeyed.uniqueIds other hother row hrow hopen.1, ?_⟩
    rintro rfl
    exact ⟨rfl, hpending⟩
  rw [List.countP_congr hsame]
  exact List.count_eq_one_of_mem (List.Nodup.of_map _ hkeyed) hrow

/-- A statement about one row replaces it. -/
theorem updateDeliveries_eq_ok_iff (hkeyed : KeyedRows outbox) (hrow : row ∈ outbox.deliveries)
    {selects : DeliveryRow → Bool} {change : DeliveryRow → DeliveryRow}
    (hselects : selects row = true) (honly : ∀ other, selects other = true → other.id = row.id)
    {next : Outbox} :
    updateDeliveries outbox storage selects change = .ok next ↔
      storage .updateDelivery = true ∧ (change row).admitted = true ∧
        next = outbox.replace row (change row) := by
  have hselected : (∃ other ∈ outbox.deliveries, selects other ∧
      (change other).admitted = false) ↔ (change row).admitted = false := by
    constructor
    · rintro ⟨other, hother, hselect, hbroken⟩
      rw [hkeyed.uniqueIds other hother row hrow (honly other hselect)] at hbroken
      exact hbroken
    · exact fun hbroken => ⟨row, hrow, hselects, hbroken⟩
  unfold updateDeliveries Storage.execute
  rw [map_update_eq_replace hkeyed.uniqueIds hrow hselects honly, bind_eq_ok_iff]
  constructor
  · rintro ⟨⟨⟩, hstorage, hrest⟩
    obtain ⟨⟨⟩, hadmitted, hreturn⟩ := bind_eq_ok_iff.mp hrest
    rw [rejectIf_eq_ok_iff, hselected, Bool.not_eq_false] at hadmitted
    cases hreturn
    refine ⟨?_, hadmitted, rfl⟩
    by_contra hbroken
    rw [if_neg hbroken] at hstorage
    cases hstorage
  · rintro ⟨hstorage, hadmitted, rfl⟩
    refine ⟨(), if_pos hstorage, bind_eq_ok_iff.mpr ⟨(), ?_, rfl⟩⟩
    rw [rejectIf_eq_ok_iff, hselected, hadmitted]
    simp

theorem admitted_delivered (hrow : row.isPending = true)
    (hscheduled : row.nextAttemptAtMs ≤ row.retryUntilMs) (stamp : Nat) :
    { row with deliveredAtMs := some stamp }.admitted = true := by
  rw [DeliveryRow.admitted_iff]
  refine ⟨hscheduled, ?_⟩
  rintro ⟨-, habandoned⟩
  simp [DeliveryRow.isPending] at hrow
  simp [hrow.2] at habandoned

theorem nextAttempt_eq_ok_iff {attempts next : Nat} :
    nextAttempt nowMs attempts = .ok next ↔
      nowMs + retryDelay attempts < u64Bound ∧ next = nowMs + retryDelay attempts := by
  rw [nextAttempt, okOr_eq_ok_iff, checkedAddU64_eq_some_iff]

theorem markDelivered_cases (hkeyed : KeyedRows outbox) (hrow : row ∈ outbox.deliveries)
    (hpending : row.isPending = true) :
    markDelivered outbox row.id nowMs storage =
        (outbox.replace row { row with deliveredAtMs := some nowMs }, .ok ()) ∨
      ∃ error, markDelivered outbox row.id nowMs storage = (outbox, .error error) := by
  unfold markDelivered
  cases hupdate : markDeliveredUpdate outbox row.id nowMs storage with
  | error error => exact Or.inr ⟨error, rfl⟩
  | ok updated =>
      obtain ⟨stamp, hstamp, hupdated⟩ := bind_eq_ok_iff.mp hupdate
      rw [(tryI64_eq_ok_iff.mp hstamp).2] at hupdated
      obtain ⟨-, -, rfl⟩ := (updateDeliveries_eq_ok_iff hkeyed hrow
        (DeliveryRow.isOpen_iff.mpr ⟨rfl, hpending⟩)
        (fun other hopen => (DeliveryRow.isOpen_iff.mp hopen).1)).mp hupdated
      dsimp only
      rw [if_pos (countP_open hkeyed hrow hpending)]
      exact Or.inl rfl

/-- A failure that is stored abandons the row or plans its next attempt. -/
theorem recordFailureWithin_eq_ok (hkeyed : KeyedRows outbox) (hrow : row ∈ outbox.deliveries)
    (hpending : row.isPending = true) {error : AdapterError} {next : Outbox}
    {disposition : FailureDisposition}
    (hok : recordFailureWithin row.id nowMs error.code storage outbox =
      .ok (next, disposition)) :
    ∃ settled, Settled row nowMs (.error error) settled ∧ next = outbox.replace row settled := by
  unfold recordFailureWithin at hok
  obtain ⟨⟨⟩, -, hselect⟩ := bind_eq_ok_iff.mp hok
  obtain ⟨stored, hfind, hattempts⟩ := bind_eq_ok_iff.mp hselect
  rw [find_open hkeyed hrow hpending, okOr_eq_ok_iff] at hfind
  cases hfind
  obtain ⟨⟨⟩, -, hnext⟩ := bind_eq_ok_iff.mp hattempts
  obtain ⟨nextAttemptMs, hplanned, hcount⟩ := bind_eq_ok_iff.mp hnext
  obtain ⟨-, rfl⟩ := nextAttempt_eq_ok_iff.mp hplanned
  obtain ⟨⟨⟩, -, hupdate⟩ := bind_eq_ok_iff.mp hcount
  split at hupdate
  · next hlate =>
      obtain ⟨stamp, hstamp, hwrite⟩ := bind_eq_ok_iff.mp hupdate
      rw [(tryI64_eq_ok_iff.mp hstamp).2] at hwrite
      obtain ⟨written, hwritten, hreturn⟩ := bind_eq_ok_iff.mp hwrite
      cases hreturn
      obtain ⟨-, -, rfl⟩ := (updateDeliveries_eq_ok_iff hkeyed hrow (by simp)
        (by simp)).mp hwritten
      exact ⟨_, .abandoned error hlate, rfl⟩
  · next hinTime =>
      obtain ⟨stamp, hstamp, hwrite⟩ := bind_eq_ok_iff.mp hupdate
      rw [(tryI64_eq_ok_iff.mp hstamp).2] at hwrite
      obtain ⟨written, hwritten, hreturn⟩ := bind_eq_ok_iff.mp hwrite
      cases hreturn
      obtain ⟨-, -, rfl⟩ := (updateDeliveries_eq_ok_iff hkeyed hrow (by simp)
        (by simp)).mp hwritten
      exact ⟨_, .retried error (Nat.not_lt.mp hinTime), rfl⟩

theorem settle_failure (deliveryId : Nat) (error : AdapterError) :
    settle outbox deliveryId nowMs (.error error) storage =
      let recorded := transaction storage outbox
        (recordFailureWithin deliveryId nowMs error.code storage)
      (recorded.1, recorded.2.map fun _ => ()) := by
  show ((recordFailure outbox deliveryId nowMs error.code storage).1,
    (recordFailure outbox deliveryId nowMs error.code storage).2.map fun _ => ()) = _
  rw [recordFailure, if_neg error.code_ne_zero]

/-- The end of an attempt is stored in the row, or nothing is. -/
theorem settle_cases (hkeyed : KeyedRows outbox) (hrow : row ∈ outbox.deliveries)
    (hpending : row.isPending = true) (outcome : Except AdapterError Unit) :
    (∃ next, Settled row nowMs outcome next ∧
      settle outbox row.id nowMs outcome storage = (outbox.replace row next, .ok ())) ∨
      ∃ error, settle outbox row.id nowMs outcome storage = (outbox, .error error) := by
  cases outcome with
  | ok done =>
      obtain ⟨⟩ := done
      rcases markDelivered_cases hkeyed hrow hpending with hstored | hfailed
      · exact Or.inl ⟨_, .delivered, hstored⟩
      · exact Or.inr hfailed
  | error error =>
      rw [settle_failure]
      rcases transaction_cases (recordFailureWithin row.id nowMs error.code storage)
        with ⟨written, disposition, hbody, hdone⟩ | ⟨failure, hdone⟩
      · obtain ⟨next, hsettled, rfl⟩ := recordFailureWithin_eq_ok hkeyed hrow hpending hbody
        rw [hdone]
        exact Or.inl ⟨next, hsettled, rfl⟩
      · rw [hdone]
        exact Or.inr ⟨failure, rfl⟩

/-- A database that carries out every statement. -/
def Storage.working : Storage := fun _ => true

theorem transaction_working {α : Type} {body : Outbox → Except NotificationError (Outbox × α)}
    {written : Outbox} {value : α} (hbody : body outbox = .ok (written, value)) :
    transaction .working outbox body = (written, .ok value) := by
  simp [transaction, Storage.execute, Storage.working, hbody, bind, Except.bind, pure,
    Except.pure]

theorem markDelivered_working (hkeyed : KeyedRows outbox) (hrow : row ∈ outbox.deliveries)
    (hpending : row.isPending = true) (hscheduled : row.nextAttemptAtMs ≤ row.retryUntilMs)
    (hnow : nowMs < i64Bound) :
    markDelivered outbox row.id nowMs .working =
      (outbox.replace row { row with deliveredAtMs := some nowMs }, .ok ()) := by
  have hupdate : markDeliveredUpdate outbox row.id nowMs .working =
      .ok (outbox.replace row { row with deliveredAtMs := some nowMs }) :=
    bind_eq_ok_iff.mpr ⟨nowMs, tryI64_eq_ok_iff.mpr ⟨hnow, rfl⟩,
      (updateDeliveries_eq_ok_iff hkeyed hrow (DeliveryRow.isOpen_iff.mpr ⟨rfl, hpending⟩)
        (fun other hopen => (DeliveryRow.isOpen_iff.mp hopen).1)).mpr
        ⟨rfl, admitted_delivered hpending hscheduled nowMs, rfl⟩⟩
  rw [markDelivered, hupdate]
  dsimp only
  rw [if_pos (countP_open hkeyed hrow hpending)]

theorem recordFailureWithin_working (hkeyed : KeyedRows outbox)
    (hrow : row ∈ outbox.deliveries) (hpending : row.isPending = true)
    (hscheduled : row.nextAttemptAtMs ≤ row.retryUntilMs) (hfits : row.retryUntilMs < i64Bound)
    (hcount : row.attemptCount + 1 < u32Bound) (hnow : nowMs < i64Bound) (errorCode : UInt32) :
    Returns (recordFailureWithin row.id nowMs errorCode .working outbox) := by
  obtain ⟨hdelivered, habandoned⟩ : row.deliveredAtMs = none ∧ row.abandonedAtMs = none := by
    simpa [DeliveryRow.isPending] using hpending
  have hdelay := retryDelay_le row.attemptCount
  have hnext : nextAttempt nowMs row.attemptCount = .ok (nowMs + retryDelay row.attemptCount) :=
    nextAttempt_eq_ok_iff.mpr ⟨by unfold u64Bound; unfold i64Bound at hnow; omega, rfl⟩
  have hfound : okOr NotificationError.notFound
      (outbox.deliveries.find? (DeliveryRow.isOpen row.id)) = .ok row :=
    okOr_eq_ok_iff.mpr (find_open hkeyed hrow hpending)
  have hupdate : ∀ change : DeliveryRow → DeliveryRow, (change row).admitted = true →
      updateDeliveries outbox .working (fun other => other.id = row.id) change =
        .ok (outbox.replace row (change row)) :=
    fun change hadmitted => (updateDeliveries_eq_ok_iff hkeyed hrow (by simp)
      (by simp)).mpr ⟨rfl, hadmitted, rfl⟩
  refine returns_bind_iff.mpr ⟨(), rfl, returns_bind_iff.mpr ⟨row, hfound, returns_bind_iff.mpr
    ⟨(), rejectIf_eq_ok_iff.mpr (by omega), returns_bind_iff.mpr ⟨_, hnext, returns_bind_iff.mpr
    ⟨(), rejectIf_eq_ok_iff.mpr (by omega), ?_⟩⟩⟩⟩⟩
  split
  · next hlate =>
      refine returns_bind_iff.mpr ⟨nowMs, tryI64_eq_ok_iff.mpr ⟨hnow, rfl⟩,
        returns_bind_iff.mpr ⟨_, hupdate _ ?_, returns_pure _⟩⟩
      rw [DeliveryRow.admitted_iff]
      exact ⟨hscheduled, by simp [hdelivered]⟩
  · next hinTime =>
      refine returns_bind_iff.mpr ⟨_, tryI64_eq_ok_iff.mpr ⟨by omega, rfl⟩,
        returns_bind_iff.mpr ⟨_, hupdate _ ?_, returns_pure _⟩⟩
      rw [DeliveryRow.admitted_iff]
      exact ⟨Nat.not_lt.mp hinTime, by simp [hdelivered]⟩

/-- Nothing but the database can keep the end of an attempt from being stored. -/
theorem settle_working (hkeyed : KeyedRows outbox) (hrow : row ∈ outbox.deliveries)
    (hpending : row.isPending = true) (outcome : Except AdapterError Unit)
    (hscheduled : row.nextAttemptAtMs ≤ row.retryUntilMs) (hfits : row.retryUntilMs < i64Bound)
    (hcount : row.attemptCount + 1 < u32Bound) (hnow : nowMs < i64Bound) :
    (settle outbox row.id nowMs outcome .working).2 = .ok () := by
  cases outcome with
  | ok done =>
      obtain ⟨⟩ := done
      exact congrArg Prod.snd (markDelivered_working hkeyed hrow hpending hscheduled hnow)
  | error error =>
      obtain ⟨⟨written, disposition⟩, hbody⟩ :=
        recordFailureWithin_working hkeyed hrow hpending hscheduled hfits hcount hnow error.code
      rw [settle_failure, transaction_working hbody]
      rfl

end Settle

end Notify
end Lirvena
