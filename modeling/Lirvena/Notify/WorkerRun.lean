import Lirvena.Notify.Worker

/-!
# Delivery attempts over the lives of the worker

The database under the worker may fail at any statement, and a worker may end at any point:
the next one goes on with the rows that were stored.  The log of all attempts keeps the
policy through all of that.  `Planned` is what the rows say of the schedule, `Attempted` ties
the log to the rows; one stored attempt keeps both, so a sweep does, and so does every run of
every worker that is started on what the one before it left.
-/

namespace Lirvena
namespace Notify

open Lib

/-! ## The schedule in the rows -/

/-- The row of a delivery lies within the plan of its event. -/
structure OnSchedule (stored : EventRow) (row : DeliveryRow) : Prop where
  event : stored.event.eventId = row.eventId
  retryUntil : row.retryUntilMs = stored.enqueuedAtMs + retryLifetime stored.event.severity
  fits : row.retryUntilMs < i64Bound
  next : row.isPending = true →
    stored.enqueuedAtMs + backoff row.attemptCount ≤ row.nextAttemptAtMs ∧
      row.nextAttemptAtMs ≤ row.retryUntilMs

structure Planned (outbox : Outbox) : Prop where
  keyed : KeyedRows outbox
  id_le : ∀ row ∈ outbox.deliveries, row.id ≤ outbox.sequence
  eventIds : (outbox.events.map fun stored => stored.event.eventId).Nodup
  schedule : ∀ row ∈ outbox.deliveries, ∃ stored ∈ outbox.events, OnSchedule stored row

theorem Planned.empty : Planned Outbox.empty where
  keyed := List.nodup_nil
  id_le := by simp [Outbox.empty]
  eventIds := List.nodup_nil
  schedule := by simp [Outbox.empty]

theorem OnSchedule.attemptCount_lt {stored : EventRow} {row : DeliveryRow}
    (hschedule : OnSchedule stored row) (hpending : row.isPending = true) :
    row.attemptCount < attemptLimit stored.event.severity := by
  obtain ⟨hdelayed, hbefore⟩ := hschedule.next hpending
  have hlifetime := hschedule.retryUntil
  exact backoff_le_lifetime_iff.mp (by omega)

/-- A stored attempt at a due row keeps it within its plan. -/
theorem OnSchedule.settled {stored : EventRow} {row next : DeliveryRow} {nowMs : Nat}
    {outcome : Except AdapterError Unit} (hschedule : OnSchedule stored row)
    (hpending : row.isPending = true) (hdue : row.nextAttemptAtMs ≤ nowMs)
    (hsettled : Settled row nowMs outcome next) : OnSchedule stored next := by
  obtain ⟨hdelayed, -⟩ := hschedule.next hpending
  cases hsettled with
  | delivered =>
      exact ⟨hschedule.event, hschedule.retryUntil, hschedule.fits,
        fun hopen => by simp [DeliveryRow.isPending] at hopen⟩
  | abandoned error hlate =>
      exact ⟨hschedule.event, hschedule.retryUntil, hschedule.fits,
        fun hopen => by simp [DeliveryRow.isPending] at hopen⟩
  | retried error hinTime =>
      refine ⟨hschedule.event, hschedule.retryUntil, hschedule.fits, fun _ => ⟨?_, hinTime⟩⟩
      show stored.enqueuedAtMs + (backoff row.attemptCount + retryDelay row.attemptCount) ≤
        nowMs + retryDelay row.attemptCount
      omega

theorem Settled.id_eq {row next : DeliveryRow} {nowMs : Nat}
    {outcome : Except AdapterError Unit} (hsettled : Settled row nowMs outcome next) :
    next.id = row.id := by
  cases hsettled <;> rfl

section Planned

variable {outbox : Outbox}

theorem replace_ids {stored next : DeliveryRow} (hid : next.id = stored.id) :
    (outbox.replace stored next).deliveries.map DeliveryRow.id =
      outbox.deliveries.map DeliveryRow.id := by
  rw [Outbox.replace, List.map_map]
  apply List.map_congr_left
  intro row _
  rw [Function.comp_apply]
  split
  · next hsame => rw [hid, hsame]
  · rfl

theorem mem_replace_next {stored next : DeliveryRow} (hstored : stored ∈ outbox.deliveries) :
    next ∈ (outbox.replace stored next).deliveries :=
  List.mem_map.mpr ⟨stored, hstored, if_pos rfl⟩

theorem mem_replace_other {stored next row : DeliveryRow} (hrow : row ∈ outbox.deliveries)
    (hother : row.id ≠ stored.id) : row ∈ (outbox.replace stored next).deliveries :=
  List.mem_map.mpr ⟨row, hrow, if_neg hother⟩

theorem Planned.settled (hplanned : Planned outbox) {row next : DeliveryRow} {nowMs : Nat}
    {outcome : Except AdapterError Unit} (hrow : row ∈ outbox.deliveries)
    (hpending : row.isPending = true) (hdue : row.nextAttemptAtMs ≤ nowMs)
    (hsettled : Settled row nowMs outcome next) : Planned (outbox.replace row next) where
  keyed := by
    rw [KeyedRows, replace_ids hsettled.id_eq]
    exact hplanned.keyed
  id_le := by
    intro other hother
    rcases mem_replace hother with rfl | ⟨hold, -⟩
    · rw [hsettled.id_eq]
      exact hplanned.id_le row hrow
    · exact hplanned.id_le other hold
  eventIds := hplanned.eventIds
  schedule := by
    intro other hother
    rcases mem_replace hother with rfl | ⟨hold, -⟩
    · obtain ⟨stored, hstored, hschedule⟩ := hplanned.schedule row hrow
      exact ⟨stored, hstored, hschedule.settled hpending hdue hsettled⟩
    · exact hplanned.schedule other hold

theorem newDeliveries_keyed {event : NotificationEvent} {enqueuedAtMs retryUntilMs : Nat}
    (destinations : List DestinationId) (sequence : Nat) :
    ((newDeliveries event enqueuedAtMs retryUntilMs sequence destinations).map
      DeliveryRow.id).Nodup := by
  induction destinations generalizing sequence with
  | nil => exact List.nodup_nil
  | cons destination rest ih =>
      rw [newDeliveries, List.map_cons, List.nodup_cons]
      refine ⟨?_, ih (sequence + 1)⟩
      rintro hmem
      obtain ⟨later, hlater, hid⟩ := List.mem_map.mp hmem
      have hafter := (mem_newDeliveries hlater).1
      simp only [newDelivery] at hid
      omega

/-- An enqueue stores nothing, or an event with a row for some of the destinations. -/
theorem enqueue_cases (event : NotificationEvent) (destinations : List DestinationId)
    (enqueuedAtMs : Nat) (storage : Storage) :
    (enqueue outbox event destinations enqueuedAtMs storage).1 = outbox ∨
      ∃ eligible, (∀ stored ∈ outbox.events, stored.event.eventId ≠ event.eventId) ∧
        enqueuedAtMs + retryLifetime event.severity < i64Bound ∧
        (enqueue outbox event destinations enqueuedAtMs storage).1 =
          { events := outbox.events ++ [⟨event, enqueuedAtMs⟩]
            deliveries := outbox.deliveries ++
              newDeliveries event enqueuedAtMs (enqueuedAtMs + retryLifetime event.severity)
                outbox.sequence eligible
            sequence := outbox.sequence + eligible.length } := by
  unfold enqueue
  cases hretry : retryUntil event destinations enqueuedAtMs with
  | error error => exact Or.inl rfl
  | ok retryUntilMs =>
      obtain ⟨⟨⟩, -, hsum⟩ := bind_eq_ok_iff.mp hretry
      obtain ⟨-, rfl⟩ := checkedAddU64_eq_some_iff.mp (okOr_eq_ok_iff.mp hsum)
      dsimp only
      rcases transaction_cases (enqueueWithin event destinations enqueuedAtMs
          (enqueuedAtMs + retryLifetime event.severity) storage)
        with ⟨written, count, hbody, hdone⟩ | ⟨error, hdone⟩
      · rw [hdone]
        unfold enqueueWithin at hbody
        obtain ⟨eligible, -, hinsert⟩ := bind_eq_ok_iff.mp hbody
        split at hinsert
        · cases hinsert
          exact Or.inl rfl
        · next hsome =>
            obtain ⟨withEvent, hevent, hrest⟩ := bind_eq_ok_iff.mp hinsert
            obtain ⟨hnew, rfl⟩ := insertEvent_eq_ok hevent
            obtain ⟨inserted, hinserted, hreturn⟩ := bind_eq_ok_iff.mp hrest
            cases hreturn
            refine Or.inr ⟨eligible, hnew, ?_, insertDeliveries_eq_ok hinserted⟩
            -- the first insertion converts the end of the retries
            cases eligible with
            | nil => exact absurd rfl hsome
            | cons destination others =>
                obtain ⟨first, hfirst, -⟩ := bind_eq_ok_iff.mp hinserted
                obtain ⟨enqueued, -, hconvert⟩ := bind_eq_ok_iff.mp hfirst
                obtain ⟨retry, hfits, -⟩ := bind_eq_ok_iff.mp hconvert
                exact (tryI64_eq_ok_iff.mp hfits).1
      · rw [hdone]
        exact Or.inl rfl

theorem onSchedule_new {event : NotificationEvent} {enqueuedAtMs sequence : Nat}
    {destinations : List DestinationId} {row : DeliveryRow}
    (hfits : enqueuedAtMs + retryLifetime event.severity < i64Bound)
    (hrow : row ∈ newDeliveries event enqueuedAtMs
      (enqueuedAtMs + retryLifetime event.severity) sequence destinations) :
    OnSchedule ⟨event, enqueuedAtMs⟩ row := by
  rw [(mem_newDeliveries hrow).2.2.2]
  refine ⟨rfl, rfl, hfits, fun _ => ⟨Nat.le_refl _, Nat.le_add_right _ _⟩⟩

theorem Planned.enqueued (hplanned : Planned outbox) {event : NotificationEvent}
    {enqueuedAtMs : Nat} {eligible : List DestinationId}
    (hnew : ∀ stored ∈ outbox.events, stored.event.eventId ≠ event.eventId)
    (hfits : enqueuedAtMs + retryLifetime event.severity < i64Bound) :
    Planned
      { events := outbox.events ++ [⟨event, enqueuedAtMs⟩]
        deliveries := outbox.deliveries ++
          newDeliveries event enqueuedAtMs (enqueuedAtMs + retryLifetime event.severity)
            outbox.sequence eligible
        sequence := outbox.sequence + eligible.length } where
  keyed := by
    rw [KeyedRows, List.map_append]
    refine List.nodup_append.mpr ⟨hplanned.keyed, newDeliveries_keyed _ _, ?_⟩
    intro old hold new hnewId heq
    obtain ⟨row, hrow, rfl⟩ := List.mem_map.mp hold
    obtain ⟨added, hadded, rfl⟩ := List.mem_map.mp hnewId
    have hbefore := hplanned.id_le row hrow
    have hafter := (mem_newDeliveries hadded).1
    omega
  id_le := by
    intro row hrow
    show row.id ≤ outbox.sequence + eligible.length
    rcases List.mem_append.mp hrow with hrow | hrow
    · have hbefore := hplanned.id_le row hrow
      omega
    · exact (mem_newDeliveries hrow).2.1
  eventIds := by
    rw [List.map_append, List.map_singleton]
    refine List.nodup_append.mpr ⟨hplanned.eventIds, List.nodup_singleton _, ?_⟩
    intro old hold new hadded heq
    obtain ⟨stored, hstored, rfl⟩ := List.mem_map.mp hold
    obtain rfl := List.mem_singleton.mp hadded
    exact hnew stored hstored heq
  schedule := by
    intro row hrow
    rcases List.mem_append.mp hrow with hrow | hrow
    · obtain ⟨stored, hstored, hschedule⟩ := hplanned.schedule row hrow
      exact ⟨stored, List.mem_append_left _ hstored, hschedule⟩
    · exact ⟨_, List.mem_append_right _ (List.mem_singleton.mpr rfl), onSchedule_new hfits hrow⟩

end Planned

/-! ## The claimed deliveries -/

def DeliveryRow.isDue (nowMs : Nat) (row : DeliveryRow) : Bool :=
  row.isPending && row.nextAttemptAtMs ≤ nowMs

/-- The rows that a claim selects, in its order. -/
def dueRows (outbox : Outbox) (nowMs : Nat) : List DeliveryRow :=
  (outbox.deliveries.filter (DeliveryRow.isDue nowMs)).insertionSort isDueBefore

/-- The delivery shows a due row and its event. -/
def Claimed (outbox : Outbox) (nowMs : Nat) (delivery : Delivery) : Prop :=
  ∃ row ∈ outbox.deliveries, ∃ stored ∈ outbox.events, row.isDue nowMs = true ∧
    stored.event.eventId = row.eventId ∧
    delivery = ⟨row.id, row.destinationId, row.attemptCount, stored.event⟩

theorem mem_dueRows_iff {outbox : Outbox} {nowMs : Nat} {row : DeliveryRow} :
    row ∈ dueRows outbox nowMs ↔ row ∈ outbox.deliveries ∧ row.isDue nowMs = true := by
  rw [dueRows, List.mem_insertionSort, List.mem_filter]

section Claims

variable {outbox : Outbox} {nowMs limit : Nat} {storage : Storage} {deliveries : List Delivery}

/-- The join finds an event for every row. -/
theorem Planned.withEvent (hplanned : Planned outbox) {row : DeliveryRow}
    (hrow : row ∈ outbox.deliveries) :
    ∃ stored ∈ outbox.events, stored.event.eventId = row.eventId ∧
      withEvent outbox row =
        some ⟨row.id, row.destinationId, row.attemptCount, stored.event⟩ := by
  obtain ⟨known, hknown, hschedule⟩ := hplanned.schedule row hrow
  cases hfind : outbox.events.find? fun stored => stored.event.eventId = row.eventId with
  | none =>
      have hnone := List.find?_eq_none.mp hfind known hknown
      simp [hschedule.event] at hnone
  | some stored =>
      refine ⟨stored, List.mem_of_find?_eq_some hfind, by simpa using List.find?_some hfind, ?_⟩
      rw [Notify.withEvent, hfind]
      rfl

theorem Planned.filterMap_withEvent (hplanned : Planned outbox) {rows : List DeliveryRow}
    (hrows : ∀ row ∈ rows, row ∈ outbox.deliveries) :
    (rows.filterMap (Notify.withEvent outbox)).map Delivery.id = rows.map DeliveryRow.id := by
  induction rows with
  | nil => rfl
  | cons row rest ih =>
      obtain ⟨stored, -, -, hjoined⟩ := hplanned.withEvent (hrows row (by simp))
      rw [List.filterMap_cons_some hjoined, List.map_cons, List.map_cons,
        ih fun other hother => hrows other (by simp [hother])]

theorem due_eq_ok (hok : due outbox nowMs limit storage = .ok deliveries) :
    nowMs < i64Bound ∧
      deliveries = ((dueRows outbox nowMs).filterMap (withEvent outbox)).take limit := by
  unfold due at hok
  obtain ⟨⟨⟩, -, hconvert⟩ := bind_eq_ok_iff.mp hok
  obtain ⟨now, hnow, hselect⟩ := bind_eq_ok_iff.mp hconvert
  obtain ⟨hfits, rfl⟩ := tryI64_eq_ok_iff.mp hnow
  obtain ⟨⟨⟩, -, hreturn⟩ := bind_eq_ok_iff.mp hselect
  cases hreturn
  exact ⟨hfits, rfl⟩

/-- A claim shows the first rows that are due, each of them once. -/
theorem Planned.claimed (hplanned : Planned outbox)
    (hok : due outbox nowMs limit storage = .ok deliveries) :
    deliveries.map Delivery.id = ((dueRows outbox nowMs).take limit).map DeliveryRow.id ∧
      ∀ delivery ∈ deliveries, Claimed outbox nowMs delivery := by
  obtain ⟨-, rfl⟩ := due_eq_ok hok
  have hrows : ∀ row ∈ dueRows outbox nowMs, row ∈ outbox.deliveries :=
    fun row hrow => (mem_dueRows_iff.mp hrow).1
  refine ⟨?_, ?_⟩
  · rw [List.map_take, hplanned.filterMap_withEvent hrows, ← List.map_take]
  · intro delivery hdelivery
    obtain ⟨row, hrow, hjoined⟩ := List.mem_filterMap.mp (List.mem_of_mem_take hdelivery)
    obtain ⟨hstoredRow, hdue⟩ := mem_dueRows_iff.mp hrow
    obtain ⟨stored, hstored, hevent, hshown⟩ := hplanned.withEvent hstoredRow
    rw [hshown] at hjoined
    cases hjoined
    exact ⟨row, hstoredRow, stored, hstored, hdue, hevent, rfl⟩

theorem Planned.dueRows_keyed (hplanned : Planned outbox) :
    ((dueRows outbox nowMs).map DeliveryRow.id).Nodup := by
  have hperm := List.perm_insertionSort isDueBefore
    (outbox.deliveries.filter (DeliveryRow.isDue nowMs))
  exact (hperm.map _).nodup_iff.mpr
    (hplanned.keyed.sublist (List.filter_sublist.map DeliveryRow.id))

end Claims

/-! ## The log of the attempts -/

/-- The next attempt comes only after a failure, and after the delay that it asks for. -/
structure Attempt.Before (earlier later : Attempt) : Prop where
  failed : ∃ error, earlier.outcome = .error error
  delayed : earlier.atMs + retryDelay earlier.delivery.attemptCount ≤ later.atMs
  counted : earlier.delivery.attemptCount < later.delivery.attemptCount

/-- The attempt is one that the policy allows at an event of the outbox, for a destination
that the event was enqueued for. -/
def Attempt.Allowed (outbox : Outbox) (attempt : Attempt) : Prop :=
  ∃ stored ∈ outbox.events, stored.event = attempt.delivery.event ∧
    attempt.delivery.attemptCount < attemptLimit stored.event.severity ∧
    stored.enqueuedAtMs + backoff attempt.delivery.attemptCount ≤ attempt.atMs ∧
    ∃ row ∈ outbox.deliveries, row.id = attempt.delivery.id ∧
      row.eventId = stored.event.eventId ∧
      row.destinationId = attempt.delivery.destinationId

/-- The row says what a stored attempt came to. -/
def Attempt.Recorded (outbox : Outbox) (attempt : Attempt) : Prop :=
  ∃ row ∈ outbox.deliveries, row.id = attempt.delivery.id ∧
    (row.isPending = true → (∃ error, attempt.outcome = .error error) ∧
      attempt.atMs + retryDelay attempt.delivery.attemptCount ≤ row.nextAttemptAtMs ∧
      attempt.delivery.attemptCount < row.attemptCount)

/-- The log of the attempts over an outbox. -/
structure Attempted (log : List Attempt) (outbox : Outbox) : Prop where
  planned : Planned outbox
  allowed : ∀ attempt ∈ log, attempt.Allowed outbox
  recorded : ∀ attempt ∈ log, attempt.stored = .ok () → attempt.Recorded outbox
  ordered : log.Pairwise fun earlier later =>
    earlier.delivery.id = later.delivery.id → earlier.stored = .ok () → earlier.Before later

theorem Attempted.empty : Attempted [] Outbox.empty where
  planned := .empty
  allowed := by simp
  recorded := by simp
  ordered := .nil

section Log

variable {outbox : Outbox} {log : List Attempt}

theorem Attempted.enqueued (hlog : Attempted log outbox) {event : NotificationEvent}
    {enqueuedAtMs : Nat} {eligible : List DestinationId}
    (hnew : ∀ stored ∈ outbox.events, stored.event.eventId ≠ event.eventId)
    (hfits : enqueuedAtMs + retryLifetime event.severity < i64Bound) :
    Attempted log
      { events := outbox.events ++ [⟨event, enqueuedAtMs⟩]
        deliveries := outbox.deliveries ++
          newDeliveries event enqueuedAtMs (enqueuedAtMs + retryLifetime event.severity)
            outbox.sequence eligible
        sequence := outbox.sequence + eligible.length } where
  planned := hlog.planned.enqueued hnew hfits
  allowed := by
    intro attempt hattempt
    obtain ⟨stored, hstored, hevent, hcount, hdelay, row, hrow, hfields⟩ :=
      hlog.allowed attempt hattempt
    exact ⟨stored, List.mem_append_left _ hstored, hevent, hcount, hdelay, row,
      List.mem_append_left _ hrow, hfields⟩
  recorded := by
    intro attempt hattempt hstored
    obtain ⟨row, hrow, hfields⟩ := hlog.recorded attempt hattempt hstored
    exact ⟨row, List.mem_append_left _ hrow, hfields⟩
  ordered := hlog.ordered

theorem DeliveryRow.isDue_iff {nowMs : Nat} {row : DeliveryRow} :
    row.isDue nowMs = true ↔ row.isPending = true ∧ row.nextAttemptAtMs ≤ nowMs := by
  simp [DeliveryRow.isDue]

/-- A due row allows an attempt. -/
theorem Planned.allowed (hplanned : Planned outbox) {nowMs : Nat} {attempt : Attempt}
    (hclaimed : Claimed outbox nowMs attempt.delivery) (hnow : attempt.atMs = nowMs) :
    attempt.Allowed outbox := by
  obtain ⟨row, hrow, stored, hstored, hdue, hevent, hshown⟩ := hclaimed
  obtain ⟨hpending, hreached⟩ := DeliveryRow.isDue_iff.mp hdue
  obtain ⟨known, hknown, hschedule⟩ := hplanned.schedule row hrow
  obtain rfl : known = stored :=
    List.inj_on_of_nodup_map hplanned.eventIds hknown hstored (hschedule.event.trans hevent.symm)
  have hdelay := (hschedule.next hpending).1
  rw [Attempt.Allowed, hshown, hnow]
  exact ⟨known, hknown, rfl, hschedule.attemptCount_lt hpending, hdelay.trans hreached, row,
    hrow, rfl, hevent.symm, rfl⟩

/-- What the rows say of the earlier attempts at a due delivery. -/
theorem Attempted.before (hlog : Attempted log outbox) {nowMs : Nat} {attempt earlier : Attempt}
    (hclaimed : Claimed outbox nowMs attempt.delivery) (hnow : attempt.atMs = nowMs)
    (hearlier : earlier ∈ log) (hsame : earlier.delivery.id = attempt.delivery.id)
    (hstored : earlier.stored = .ok ()) : earlier.Before attempt := by
  obtain ⟨row, hrow, stored, -, hdue, -, hshown⟩ := hclaimed
  obtain ⟨hpending, hreached⟩ := DeliveryRow.isDue_iff.mp hdue
  obtain ⟨other, hother, hid, hrecorded⟩ := hlog.recorded earlier hearlier hstored
  rw [hshown] at hsame
  obtain rfl := hlog.planned.keyed.uniqueIds other hother row hrow (hid.trans hsame)
  obtain ⟨hfailed, hdelayed, hcounted⟩ := hrecorded hpending
  refine ⟨hfailed, by omega, ?_⟩
  rw [hshown]
  exact hcounted

/-- The row of a delivery, when the row of some delivery is replaced. -/
theorem exists_replaced {row next : DeliveryRow} (hrow : row ∈ outbox.deliveries)
    {before : DeliveryRow} (hbefore : before ∈ outbox.deliveries) {nowMs : Nat}
    {outcome : Except AdapterError Unit} (hsettled : Settled row nowMs outcome next)
    (hids : UniqueIds outbox) :
    ∃ after ∈ (outbox.replace row next).deliveries, after.id = before.id ∧
      after.eventId = before.eventId ∧ after.destinationId = before.destinationId ∧
      ((before = row ∧ after = next) ∨ after = before) := by
  by_cases hid : before.id = row.id
  · obtain rfl := hids before hbefore row hrow hid
    refine ⟨next, mem_replace_next hrow, ?_⟩
    cases hsettled <;> exact ⟨rfl, rfl, rfl, Or.inl ⟨rfl, rfl⟩⟩
  · exact ⟨before, mem_replace_other hbefore hid, rfl, rfl, rfl, Or.inr rfl⟩

/-- An attempt that was stored: it failed, is behind the next attempt of the row, and counts. -/
theorem Settled.recorded {row next : DeliveryRow} {nowMs : Nat}
    {outcome : Except AdapterError Unit} (hsettled : Settled row nowMs outcome next)
    (hpending : next.isPending = true) :
    (∃ error, outcome = .error error) ∧
      nowMs + retryDelay row.attemptCount ≤ next.nextAttemptAtMs ∧
      row.attemptCount < next.attemptCount := by
  cases hsettled with
  | delivered => simp [DeliveryRow.isPending] at hpending
  | abandoned error hlate => simp [DeliveryRow.isPending] at hpending
  | retried error hinTime => exact ⟨⟨error, rfl⟩, Nat.le_refl _, Nat.lt_succ_self _⟩

theorem Attempted.settled (hlog : Attempted log outbox) {row next : DeliveryRow} {nowMs : Nat}
    {outcome : Except AdapterError Unit} {delivery : Delivery}
    (hclaimed : Claimed outbox nowMs delivery) (hrow : row ∈ outbox.deliveries)
    (hdue : row.isDue nowMs = true) (hid : delivery.id = row.id)
    (hcount : delivery.attemptCount = row.attemptCount)
    (hsettled : Settled row nowMs outcome next) :
    Attempted (log ++ [⟨delivery, nowMs, outcome, .ok ()⟩]) (outbox.replace row next) := by
  have hids := hlog.planned.keyed.uniqueIds
  obtain ⟨hpending, hreached⟩ := DeliveryRow.isDue_iff.mp hdue
  have hkept : ∀ attempt : Attempt, attempt.Allowed outbox →
      attempt.Allowed (outbox.replace row next) := by
    rintro attempt ⟨stored, hstored, hevent, hlimit, hdelay, before, hbefore, hsame, hof, hto⟩
    obtain ⟨after, hafter, hafterId, hafterEvent, hafterTo, -⟩ :=
      exists_replaced hrow hbefore hsettled hids
    exact ⟨stored, hstored, hevent, hlimit, hdelay, after, hafter, hafterId.trans hsame,
      hafterEvent.trans hof, hafterTo.trans hto⟩
  constructor
  case planned => exact hlog.planned.settled hrow hpending hreached hsettled
  case allowed =>
    intro attempt hattempt
    rcases List.mem_append.mp hattempt with hbefore | hlast
    · exact hkept attempt (hlog.allowed attempt hbefore)
    · obtain rfl := List.mem_singleton.mp hlast
      exact hkept _ (hlog.planned.allowed hclaimed rfl)
  case recorded =>
    intro attempt hattempt hstored
    rcases List.mem_append.mp hattempt with hearlier | hlast
    · obtain ⟨before, hbefore, hsame, hrecorded⟩ := hlog.recorded attempt hearlier hstored
      obtain ⟨after, hafter, hafterId, -, -, hcase⟩ :=
        exists_replaced hrow hbefore hsettled hids
      refine ⟨after, hafter, hafterId.trans hsame, fun hopen => ?_⟩
      rcases hcase with ⟨rfl, rfl⟩ | rfl
      · obtain ⟨hfailed, hdelayed, hcounted⟩ := hrecorded hpending
        obtain ⟨-, hplanned, hmore⟩ := hsettled.recorded hopen
        exact ⟨hfailed, by omega, by omega⟩
      · exact hrecorded hopen
    · obtain rfl := List.mem_singleton.mp hlast
      refine ⟨next, mem_replace_next hrow, hsettled.id_eq.trans hid.symm, fun hopen => ?_⟩
      rw [hcount]
      exact hsettled.recorded hopen
  case ordered =>
    refine List.pairwise_append.mpr ⟨hlog.ordered, List.pairwise_singleton _ _, ?_⟩
    intro earlier hearlier later hlater hsame hstored
    obtain rfl := List.mem_singleton.mp hlater
    exact hlog.before hclaimed rfl hearlier hsame hstored

theorem Attempted.unstored (hlog : Attempted log outbox) {nowMs : Nat}
    {outcome : Except AdapterError Unit} {delivery : Delivery}
    (hclaimed : Claimed outbox nowMs delivery) (error : NotificationError) :
    Attempted (log ++ [⟨delivery, nowMs, outcome, .error error⟩]) outbox where
  planned := hlog.planned
  allowed := by
    intro attempt hattempt
    rcases List.mem_append.mp hattempt with hbefore | hlast
    · exact hlog.allowed attempt hbefore
    · obtain rfl := List.mem_singleton.mp hlast
      exact hlog.planned.allowed hclaimed rfl
  recorded := by
    intro attempt hattempt hstored
    rcases List.mem_append.mp hattempt with hbefore | hlast
    · exact hlog.recorded attempt hbefore hstored
    · obtain rfl := List.mem_singleton.mp hlast
      cases hstored
  ordered := by
    refine List.pairwise_append.mpr ⟨hlog.ordered, List.pairwise_singleton _ _, ?_⟩
    intro earlier hearlier later hlater hsame hstored
    obtain rfl := List.mem_singleton.mp hlater
    exact hlog.before hclaimed rfl hearlier hsame hstored

/-- One attempt keeps the log, and leaves the other claimed deliveries due. -/
theorem Attempted.attempted (hlog : Attempted log outbox) {nowMs : Nat} {delivery : Delivery}
    (hclaimed : Claimed outbox nowMs delivery) (outcome : Except AdapterError Unit)
    (storage : Storage) :
    let settled := settle outbox delivery.id nowMs outcome storage
    Attempted (log ++ [⟨delivery, nowMs, outcome, settled.2⟩]) settled.1 ∧
      ∀ other, Claimed outbox nowMs other → other.id ≠ delivery.id →
        Claimed settled.1 nowMs other := by
  have hdelivery := hclaimed
  obtain ⟨row, hrow, stored, -, hdue, -, rfl⟩ := hdelivery
  obtain ⟨hpending, -⟩ := DeliveryRow.isDue_iff.mp hdue
  intro settled
  have hcases : (∃ next, Settled row nowMs outcome next ∧
      settled = (outbox.replace row next, .ok ())) ∨ ∃ error, settled = (outbox, .error error) :=
    settle_cases hlog.planned.keyed hrow hpending outcome
  rcases hcases with ⟨next, hsettled, hstored⟩ | ⟨error, hfailed⟩
  · rw [hstored]
    refine ⟨hlog.settled hclaimed hrow hdue rfl rfl hsettled, ?_⟩
    rintro other ⟨otherRow, hotherRow, event, hevent, hotherDue, hof, rfl⟩ hne
    exact ⟨otherRow, mem_replace_other hotherRow hne, event, hevent, hotherDue, hof, rfl⟩
  · rw [hfailed]
    exact ⟨hlog.unstored hclaimed error, fun other hother _ => hother⟩

end Log

/-! ## A sweep and a work -/

section Sweep

variable {adapters : List DestinationId} {nowMs : Nat} {around : Surroundings}

theorem Attempted.deliverEach {outbox : Outbox} {log : List Attempt}
    (hlog : Attempted log outbox) {claimed : List Delivery}
    (hclaimed : ∀ delivery ∈ claimed, Claimed outbox nowMs delivery)
    (hkeyed : (claimed.map Delivery.id).Nodup) (sweep : DeliverySweep) :
    Attempted (log ++ (deliverEach adapters nowMs around outbox sweep claimed).attempts)
      (deliverEach adapters nowMs around outbox sweep claimed).outbox := by
  induction claimed generalizing outbox log sweep with
  | nil =>
      rw [Notify.deliverEach, List.append_nil]
      exact hlog
  | cons delivery rest ih =>
      obtain ⟨hfresh, hrest⟩ := List.nodup_cons.mp hkeyed
      obtain ⟨hattempted, hothers⟩ := hlog.attempted (hclaimed delivery (by simp))
        (attemptOutcome adapters around delivery) (around.recording delivery.id)
      unfold Notify.deliverEach
      dsimp only
      split
      · exact hattempted
      · next hstored =>
          rw [List.append_cons]
          refine ih hattempted (fun other hother => ?_) hrest _
          refine hothers other (hclaimed other (by simp [hother])) fun hsame => ?_
          exact hfresh (hsame ▸ List.mem_map_of_mem hother)

theorem Attempted.deliverDue {outbox : Outbox} {log : List Attempt}
    (hlog : Attempted log outbox) :
    Attempted (log ++ (deliverDue adapters outbox nowMs around).attempts)
      (deliverDue adapters outbox nowMs around).outbox := by
  unfold Notify.deliverDue
  split
  · rw [List.append_nil]
    exact hlog
  · next claimed hdue =>
      obtain ⟨hids, hclaimed⟩ := hlog.planned.claimed hdue
      refine hlog.deliverEach hclaimed ?_ _
      rw [hids]
      exact hlog.planned.dueRows_keyed.sublist ((List.take_sublist _ _).map _)

theorem Attempted.handle {outbox : Outbox} {log : List Attempt} (hlog : Attempted log outbox)
    (work : Command ⊕ OwnWork) :
    Attempted (log ++ ((notificationWorker adapters).handle outbox work around).2.attempts)
      ((notificationWorker adapters).handle outbox work around).1 := by
  have hnone : Attempted (log ++ []) outbox := by rwa [List.append_nil]
  rcases work with command | own
  · cases command with
    | enqueue event enqueuedAtMs awaited =>
        show Attempted (log ++ []) (enqueue outbox event adapters enqueuedAtMs around.storage).1
        rw [List.append_nil]
        rcases enqueue_cases event adapters enqueuedAtMs around.storage
          with hkept | ⟨eligible, hnew, hfits, hstored⟩
        · rw [hkept]
          exact hlog
        · rw [hstored]
          exact hlog.enqueued hnew hfits
    | flush now => exact hlog.deliverDue
    | shutdown =>
        unfold notificationWorker
        dsimp only
        split
        · exact hnone
        · exact hlog.deliverDue
  · cases own with
    | tick =>
        unfold notificationWorker
        dsimp only
        split
        · exact hnone
        · exact hlog.deliverDue
    | disconnected => exact hnone

/-! ## What is stored of the attempts -/

/-- A sweep stops at the first attempt that is not stored. -/
theorem deliverEach_stored (outbox : Outbox) (sweep : DeliverySweep)
    (claimed : List Delivery) :
    let swept := deliverEach adapters nowMs around outbox sweep claimed
    (∀ attempt ∈ swept.attempts.dropLast, attempt.stored = .ok ()) ∧
      (Returns swept.answer → ∀ attempt ∈ swept.attempts, attempt.stored = .ok ()) := by
  induction claimed generalizing outbox sweep with
  | nil => simp [deliverEach]
  | cons delivery rest ih =>
      unfold deliverEach
      dsimp only
      split
      · simp
      · next hstored =>
          obtain ⟨hbefore, hall⟩ := ih _ _
          refine ⟨?_, fun hreturns => ?_⟩
          · intro attempt hattempt
            cases hothers : (deliverEach adapters nowMs around _ _ rest).attempts with
            | nil =>
                rw [hothers] at hattempt
                cases hattempt
            | cons first others =>
                rw [hothers, List.dropLast_cons_cons, List.mem_cons] at hattempt
                rcases hattempt with rfl | hattempt
                · exact hstored
                · exact hbefore attempt (hothers ▸ hattempt)
          · rintro attempt hattempt
            rcases List.mem_cons.mp hattempt with rfl | hattempt
            · exact hstored
            · exact hall hreturns attempt hattempt

variable (adapters nowMs around) in
theorem deliverDue_stored (outbox : Outbox) :
    let swept := deliverDue adapters outbox nowMs around
    (∀ attempt ∈ swept.attempts.dropLast, attempt.stored = .ok ()) ∧
      (Returns swept.answer → ∀ attempt ∈ swept.attempts, attempt.stored = .ok ()) := by
  unfold deliverDue
  dsimp only
  split
  · simp
  · exact deliverEach_stored outbox _ _

/-- What a work says of its attempts: all but the last are stored, and so is the last
when the worker goes on. -/
def StoresAttempts (adapters : List DestinationId) (work : Command ⊕ OwnWork)
    (answer : WorkAnswer) : Prop :=
  (∀ attempt ∈ answer.attempts.dropLast, attempt.stored = .ok ()) ∧
    ((notificationWorker adapters).ends work answer = false →
      ∀ attempt ∈ answer.attempts, attempt.stored = .ok ())

theorem storesAttempts_nil {work : Command ⊕ OwnWork} {answer : WorkAnswer}
    (hnone : answer.attempts = []) : StoresAttempts adapters work answer := by
  rw [StoresAttempts, hnone]
  simp

theorem storesAttempts_swept (outbox : Outbox) {work : Command ⊕ OwnWork}
    (hends : ∀ attempts error,
      (notificationWorker adapters).ends work (.swept attempts (.error error)) = true) :
    StoresAttempts adapters work
      (.swept (deliverDue adapters outbox nowMs around).attempts
        (deliverDue adapters outbox nowMs around).answer) := by
  obtain ⟨hbefore, hall⟩ := deliverDue_stored adapters nowMs around outbox
  refine ⟨hbefore, fun hgoes => hall ?_⟩
  cases hanswer : (deliverDue adapters outbox nowMs around).answer with
  | ok sweep => exact returns_ok sweep
  | error error =>
      rw [hanswer, hends] at hgoes
      cases hgoes

theorem handle_stored (outbox : Outbox) (work : Command ⊕ OwnWork) :
    StoresAttempts adapters work ((notificationWorker adapters).handle outbox work around).2 := by
  rcases work with command | own
  · cases command with
    | enqueue event enqueuedAtMs awaited => exact storesAttempts_nil rfl
    | flush now => exact storesAttempts_swept outbox fun _ _ => rfl
    | shutdown =>
        refine ⟨?_, fun hgoes => by cases hgoes⟩
        unfold notificationWorker
        dsimp only
        split
        · simp [WorkAnswer.attempts]
        · exact (deliverDue_stored adapters _ around outbox).1
  · cases own with
    | tick =>
        unfold notificationWorker
        dsimp only
        split
        · exact storesAttempts_nil rfl
        · exact storesAttempts_swept outbox fun _ _ => rfl
    | disconnected => exact storesAttempts_nil rfl

end Sweep

/-! ## The operations of the store under the worker -/

section Operations

variable {adapters : List DestinationId} {nowMs : Nat} {around : Surroundings}

theorem exists_operations_deliverEach (outbox : Outbox) (sweep : DeliverySweep)
    (claimed : List Delivery) :
    ∃ operations, (deliverEach adapters nowMs around outbox sweep claimed).outbox =
      notificationStore.run outbox operations := by
  induction claimed generalizing outbox sweep with
  | nil => exact ⟨[], rfl⟩
  | cons delivery rest ih =>
      have hone : ∃ operation, (settle outbox delivery.id nowMs
          (attemptOutcome adapters around delivery) (around.recording delivery.id)).1 =
          (notificationStore.step outbox operation).1 := by
        cases attemptOutcome adapters around delivery with
        | ok done => exact ⟨.markDelivered delivery.id nowMs (around.recording delivery.id), rfl⟩
        | error error =>
            exact ⟨.recordFailure delivery.id nowMs error.code (around.recording delivery.id),
              rfl⟩
      obtain ⟨operation, hoperation⟩ := hone
      unfold deliverEach
      dsimp only
      split
      · exact ⟨[operation], hoperation⟩
      · obtain ⟨operations, hothers⟩ := ih (settle outbox delivery.id nowMs
          (attemptOutcome adapters around delivery) (around.recording delivery.id)).1
          (sweep.count (attemptOutcome adapters around delivery))
        refine ⟨operation :: operations, ?_⟩
        rw [Machine.run_cons, ← hoperation]
        exact hothers

theorem exists_operations_deliverDue (outbox : Outbox) :
    ∃ operations, (deliverDue adapters outbox nowMs around).outbox =
      notificationStore.run outbox operations := by
  unfold deliverDue
  split
  · exact ⟨[], rfl⟩
  · exact exists_operations_deliverEach outbox _ _

variable (adapters around) in
/-- The worker changes the outbox by the operations of its store. -/
theorem exists_operations_handle (outbox : Outbox) (work : Command ⊕ OwnWork) :
    ∃ operations, ((notificationWorker adapters).handle outbox work around).1 =
      notificationStore.run outbox operations := by
  rcases work with command | own
  · cases command with
    | enqueue event enqueuedAtMs awaited =>
        exact ⟨[.enqueue event adapters enqueuedAtMs around.storage], rfl⟩
    | flush now => exact exists_operations_deliverDue outbox
    | shutdown =>
        unfold notificationWorker
        dsimp only
        split
        · exact ⟨[], rfl⟩
        · exact exists_operations_deliverDue outbox
  · cases own with
    | tick =>
        unfold notificationWorker
        dsimp only
        split
        · exact ⟨[], rfl⟩
        · exact exists_operations_deliverDue outbox
    | disconnected => exact ⟨[], rfl⟩

end Operations

/-! ## The lives of the worker -/

/-- A work of the worker in its surroundings, and the answer to it. -/
abbrev Worked := ((Command ⊕ OwnWork) × Surroundings) × WorkAnswer

/-- The attempts of some works, oldest first. -/
def attemptsOf (works : List Worked) : List Attempt :=
  works.flatMap fun work => work.2.attempts

def Attempt.isStoredOf (deliveryId : Nat) (attempt : Attempt) : Bool :=
  attempt.delivery.id = deliveryId && attempt.stored.isOk

section Lives

variable (adapters : List DestinationId)

theorem attempted_sequential (works : List ((Command ⊕ OwnWork) × Surroundings)) :
    let worker := (notificationWorker adapters).sequential
    Attempted (attemptsOf (worker.trace Outbox.empty works)) (worker.run Outbox.empty works) ∧
      (∃ operations, worker.run Outbox.empty works =
        notificationStore.run Outbox.empty operations) ∧
      ∀ work ∈ worker.trace Outbox.empty works, StoresAttempts adapters work.1.1 work.2 := by
  refine (notificationWorker adapters).sequential.history_run
    (fun history outbox => Attempted (attemptsOf history) outbox ∧
      (∃ operations, outbox = notificationStore.run Outbox.empty operations) ∧
      ∀ work ∈ history, StoresAttempts adapters work.1.1 work.2)
    ⟨.empty, ⟨[], rfl⟩, by simp⟩ ?_ works
  rintro history outbox ⟨work, around⟩ ⟨hlog, ⟨operations, rfl⟩, hstored⟩
  refine ⟨?_, ?_, ?_⟩
  · rw [attemptsOf, List.flatMap_append, List.flatMap_singleton]
    exact hlog.handle work
  · obtain ⟨more, hmore⟩ := exists_operations_handle adapters around
      (notificationStore.run Outbox.empty operations) work
    refine ⟨operations ++ more, ?_⟩
    rw [Machine.run_append]
    exact hmore
  · intro other hother
    rcases List.mem_append.mp hother with hbefore | hlast
    · exact hstored other hbefore
    · obtain rfl := List.mem_singleton.mp hlast
      exact handle_stored _ work

/-- Only the last attempt of a worker can be one that was not stored. -/
theorem dropLast_attemptsOf_stored {life : List Worked}
    (hstored : ∀ work ∈ life, StoresAttempts adapters work.1.1 work.2)
    (hends : ∀ before work after, life = before ++ work :: after → after ≠ [] →
      (notificationWorker adapters).ends work.1.1 work.2 = false) :
    ∀ attempt ∈ (attemptsOf life).dropLast, attempt.stored = .ok () := by
  rcases List.eq_nil_or_concat life with rfl | ⟨before, last, rfl⟩
  · simp [attemptsOf]
  · rw [List.concat_eq_append] at hstored hends ⊢
    -- the works before the last one went on
    have hall : ∀ attempt ∈ attemptsOf before, attempt.stored = .ok () := by
      intro attempt hattempt
      obtain ⟨work, hwork, hmade⟩ := List.mem_flatMap.mp hattempt
      obtain ⟨earlier, later, rfl⟩ := List.mem_iff_append.mp hwork
      refine (hstored work (by simp)).2 (hends earlier work (later ++ [last]) ?_ ?_) attempt hmade
      · rw [List.append_assoc, List.cons_append]
      · simp
    intro attempt hattempt
    rw [attemptsOf, List.flatMap_append, List.flatMap_singleton] at hattempt
    by_cases hnone : last.2.attempts = []
    · rw [hnone, List.append_nil] at hattempt
      exact hall attempt (List.mem_of_mem_dropLast hattempt)
    · rw [List.dropLast_append_of_ne_nil hnone, List.mem_append] at hattempt
      rcases hattempt with hbefore | hlast
      · exact hall attempt hbefore
      · exact (hstored last (by simp)).1 attempt hlast

/-- The attempts at one delivery are about one event. -/
theorem Attempted.same_event {outbox : Outbox} {log : List Attempt}
    (hlog : Attempted log outbox) {first second : Attempt} (hfirst : first ∈ log)
    (hsecond : second ∈ log) (hid : first.delivery.id = second.delivery.id) :
    first.delivery.event = second.delivery.event := by
  obtain ⟨firstEvent, hfirstEvent, hfirstShown, -, -, firstRow, hfirstRow, hfirstId, hfirstOf, -⟩ :=
    hlog.allowed first hfirst
  obtain ⟨secondEvent, hsecondEvent, hsecondShown, -, -, secondRow, hsecondRow, hsecondId,
    hsecondOf, -⟩ := hlog.allowed second hsecond
  have hrow := hlog.planned.keyed.uniqueIds firstRow hfirstRow secondRow hsecondRow
    (hfirstId.trans (hid.trans hsecondId.symm))
  have hevent : firstEvent = secondEvent :=
    List.inj_on_of_nodup_map hlog.planned.eventIds hfirstEvent hsecondEvent
      (hfirstOf.symm.trans (hrow ▸ hsecondOf))
  rw [← hfirstShown, ← hsecondShown, hevent]

theorem Attempt.isStoredOf_iff {deliveryId : Nat} {attempt : Attempt} :
    attempt.isStoredOf deliveryId = true ↔
      attempt.delivery.id = deliveryId ∧ attempt.stored = .ok () := by
  rw [Attempt.isStoredOf, Bool.and_eq_true, decide_eq_true_eq]
  cases attempt.stored <;> simp [Except.isOk, Except.toBool]

/-- No more attempts at a delivery are stored than its severity allows. -/
theorem Attempted.length_le_limit {outbox : Outbox} {log : List Attempt}
    (hlog : Attempted log outbox) {attempt : Attempt} (hattempt : attempt ∈ log) :
    (log.filter (Attempt.isStoredOf attempt.delivery.id)).length ≤
      attemptLimit attempt.delivery.event.severity := by
  let made := (log.filter (Attempt.isStoredOf attempt.delivery.id)).map
    fun other => other.delivery.attemptCount
  have hincreasing : made.Pairwise fun first second => first < second := by
    rw [List.pairwise_map]
    refine ((hlog.ordered.sublist List.filter_sublist).imp_of_mem ?_)
    intro first second hfirst hsecond hbefore
    obtain ⟨hfirstId, hstored⟩ := Attempt.isStoredOf_iff.mp (List.mem_filter.mp hfirst).2
    obtain ⟨hsecondId, -⟩ := Attempt.isStoredOf_iff.mp (List.mem_filter.mp hsecond).2
    exact (hbefore (hfirstId.trans hsecondId.symm) hstored).counted
  have hbounded : made ⊆ List.range (attemptLimit attempt.delivery.event.severity) := by
    intro count hcount
    obtain ⟨other, hother, rfl⟩ := List.mem_map.mp hcount
    obtain ⟨hlogged, hof⟩ := List.mem_filter.mp hother
    have hsame := hlog.same_event hlogged hattempt (Attempt.isStoredOf_iff.mp hof).1
    obtain ⟨stored, -, hshown, hlimit, -⟩ := hlog.allowed other hlogged
    rw [List.mem_range, ← hsame, ← hshown]
    exact hlimit
  have hnodup : made.Nodup := hincreasing.imp fun hlt => Nat.ne_of_lt hlt
  have hlength := (List.subperm_of_subset hnodup hbounded).length_le
  rwa [List.length_range, List.length_map] at hlength

/-- Over any number of workers, one started on what the one before it left, whatever their
handles send, whatever the destinations answer and whichever statements fail: the outbox is
one that the operations of the store lead to; a delivery that was attempted with success is
not attempted again, and after a failure only when its delay has passed, unless the database
failed to store the attempt; every attempt lies within the schedule of its event, and no more
of them are stored than its severity allows; an attempt that was not stored is the last that
its worker made. -/
theorem worker_attempts (capacity : Nat)
    (lives : List (List (MailboxInput Command OwnWork Surroundings))) :
    let worked := (notificationWorker adapters).lives capacity Outbox.empty lives
    let log := attemptsOf worked.1.flatten
    (∃ operations, worked.2 = notificationStore.run Outbox.empty operations) ∧
    (log.Pairwise fun earlier later => earlier.delivery.id = later.delivery.id →
      earlier.stored = .ok () → earlier.Before later) ∧
    (∀ attempt ∈ log, attempt.Allowed worked.2 ∧
      (log.filter (Attempt.isStoredOf attempt.delivery.id)).length ≤
        attemptLimit attempt.delivery.event.severity) ∧
    ∀ life ∈ worked.1, ∀ attempt ∈ (attemptsOf life).dropLast, attempt.stored = .ok () := by
  intro worked log
  obtain ⟨htrace, hrun⟩ :=
    (notificationWorker adapters).lives_sequential capacity Outbox.empty lives
  obtain ⟨hlog, hoperations, hstored⟩ :=
    attempted_sequential adapters (worked.1.flatten.map Prod.fst)
  rw [← htrace, ← hrun] at hlog
  rw [← hrun] at hoperations
  rw [← htrace] at hstored
  refine ⟨hoperations, hlog.ordered, fun attempt hattempt =>
    ⟨hlog.allowed attempt hattempt, hlog.length_le_limit hattempt⟩, ?_⟩
  intro life hlife
  refine dropLast_attemptsOf_stored adapters
    (fun work hwork => hstored work (List.mem_flatten.mpr ⟨life, hlife, hwork⟩)) ?_
  intro before work after hsplit hafter
  exact (notificationWorker adapters).lives_not_ends capacity Outbox.empty lives hlife hsplit hafter

end Lives

end Notify
end Lirvena
