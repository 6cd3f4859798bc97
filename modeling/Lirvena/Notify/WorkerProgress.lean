import Lirvena.Notify.WorkerRun

/-!
# Flushes empty the queue of due deliveries

With a database that carries out its statements, one sweep settles the first hundred of the
rows that are due, oldest first, whatever the destinations answer: a delivered or abandoned
row has ended, and a failed one is planned behind the time of the sweep.  So repeated flushes
of one time attempt every due delivery exactly once, in the order of the claims, and leave
nothing due at that time.
-/

namespace Lirvena
namespace Notify

open Lib

/-- The database carries out every statement of the work. -/
def Surroundings.Working (around : Surroundings) : Prop :=
  around.storage = .working ∧ ∀ deliveryId, around.recording deliveryId = .working

/-! ## The order of the claims -/

theorem isDueBefore_total (first second : DeliveryRow) :
    isDueBefore first second ∨ isDueBefore second first := by
  unfold isDueBefore
  omega

theorem isDueBefore_trans {first second third : DeliveryRow} (hfirst : isDueBefore first second)
    (hsecond : isDueBefore second third) : isDueBefore first third := by
  unfold isDueBefore at *
  omega

instance : Std.Total isDueBefore := ⟨isDueBefore_total⟩

instance : IsTrans DeliveryRow isDueBefore := ⟨fun _ _ _ => isDueBefore_trans⟩

theorem dueRows_sorted (outbox : Outbox) (nowMs : Nat) :
    (dueRows outbox nowMs).Pairwise isDueBefore :=
  List.pairwise_insertionSort isDueBefore _

section Progress

variable {outbox : Outbox} {nowMs : Nat}

/-- Rows of one outbox that are sorted and the same up to their order are the same. -/
theorem KeyedRows.eq_of_perm (hkeyed : KeyedRows outbox) {first second : List DeliveryRow}
    (hrows : ∀ row ∈ second, row ∈ outbox.deliveries) (hfirst : first.Pairwise isDueBefore)
    (hsecond : second.Pairwise isDueBefore) (hperm : first.Perm second) : first = second := by
  refine hperm.eq_of_pairwise ?_ hfirst hsecond
  intro left right hleft hright hbefore hafter
  have hid : left.id = right.id := by
    unfold isDueBefore at hbefore hafter
    omega
  exact hkeyed.uniqueIds left (hrows left (hperm.mem_iff.mp hleft)) right (hrows right hright) hid

/-- A row that is no longer due leaves the claims, and the others keep their order. -/
theorem dueRows_replace (hplanned : Planned outbox) {row next : DeliveryRow}
    {rest : List DeliveryRow} (hdue : dueRows outbox nowMs = row :: rest)
    (hid : next.id = row.id) (hended : next.isDue nowMs = false) :
    dueRows (outbox.replace row next) nowMs = rest := by
  have hrest : ∀ other ∈ rest, other ∈ outbox.deliveries ∧ other.isDue nowMs = true :=
    fun other hother => mem_dueRows_iff.mp (hdue ▸ List.mem_cons_of_mem row hother)
  have hkeys : (row.id :: rest.map DeliveryRow.id).Nodup := by
    have hnodup : ((dueRows outbox nowMs).map DeliveryRow.id).Nodup := hplanned.dueRows_keyed
    rwa [hdue, List.map_cons] at hnodup
  have hsorted := dueRows_sorted outbox nowMs
  rw [hdue] at hsorted
  refine hplanned.keyed.eq_of_perm (fun other hother => (hrest other hother).1)
    (dueRows_sorted _ _) (List.pairwise_cons.mp hsorted).2 ?_
  have hnodup : (outbox.replace row next).deliveries.Nodup := by
    refine List.Nodup.of_map DeliveryRow.id ?_
    rw [replace_ids hid]
    exact hplanned.keyed
  refine (List.perm_insertionSort isDueBefore _).trans
    ((List.perm_ext_iff_of_nodup (hnodup.filter _)
      (List.Nodup.of_map _ (List.nodup_cons.mp hkeys).2)).mpr fun other => ?_)
  rw [List.mem_filter]
  constructor
  · rintro ⟨hother, hopen⟩
    rcases mem_replace hother with rfl | ⟨hold, hne⟩
    · rw [hended] at hopen
      cases hopen
    · have hmem : other ∈ dueRows outbox nowMs := mem_dueRows_iff.mpr ⟨hold, hopen⟩
      rw [hdue, List.mem_cons] at hmem
      exact hmem.resolve_left fun hsame => hne (congrArg DeliveryRow.id hsame)
  · intro hother
    refine ⟨mem_replace_other (hrest other hother).1 fun hsame => ?_, (hrest other hother).2⟩
    exact (List.nodup_cons.mp hkeys).1 (hsame ▸ List.mem_map_of_mem hother)

/-- A settled row is not due at the time of its attempt. -/
theorem Settled.not_due {row next : DeliveryRow} {outcome : Except AdapterError Unit}
    (hsettled : Settled row nowMs outcome next) : next.isDue nowMs = false := by
  cases hsettled with
  | delivered => simp [DeliveryRow.isDue, DeliveryRow.isPending]
  | abandoned error hlate => simp [DeliveryRow.isDue, DeliveryRow.isPending]
  | retried error hinTime =>
      have hpos := retryDelay_pos row.attemptCount
      have hlater : ¬ nowMs + retryDelay row.attemptCount ≤ nowMs := by omega
      simp [DeliveryRow.isDue, hlater]

/-! ## A sweep with a working database -/

/-- What a sweep came to. -/
structure DeliverySweep.Counts (sweep : DeliverySweep) (attempts : List Attempt) : Prop where
  attempted : sweep.attempted = attempts.length
  delivered : sweep.delivered = attempts.countP fun attempt => attempt.outcome.isOk
  failed : sweep.failed = attempts.countP fun attempt => !attempt.outcome.isOk

variable (adapters : List DestinationId) {around : Surroundings}

/-- The attempt at the first due row is stored, whatever it came to. -/
theorem Planned.settle_first (hplanned : Planned outbox) {row : DeliveryRow}
    {rest : List DeliveryRow} (hdue : dueRows outbox nowMs = row :: rest)
    (hnow : nowMs < i64Bound) (outcome : Except AdapterError Unit) :
    let settled := settle outbox row.id nowMs outcome .working
    settled.2 = .ok () ∧ Planned settled.1 ∧ dueRows settled.1 nowMs = rest := by
  intro settled
  obtain ⟨hrow, hopen⟩ := mem_dueRows_iff.mp (hdue ▸ List.mem_cons_self)
  obtain ⟨hpending, hreached⟩ := DeliveryRow.isDue_iff.mp hopen
  obtain ⟨stored, -, hschedule⟩ := hplanned.schedule row hrow
  have hlimit := hschedule.attemptCount_lt hpending
  have hcount : row.attemptCount + 1 < u32Bound := by
    have hall : attemptLimit stored.event.severity ≤ 15 := by
      cases stored.event.severity <;> decide
    unfold u32Bound
    omega
  have hstored : settled.2 = .ok () := settle_working hplanned.keyed hrow hpending outcome
    (hschedule.next hpending).2 hschedule.fits hcount hnow
  have hcases : (∃ next, Settled row nowMs outcome next ∧
      settled = (outbox.replace row next, .ok ())) ∨ ∃ error, settled = (outbox, .error error) :=
    settle_cases hplanned.keyed hrow hpending outcome
  rcases hcases with ⟨next, hsettled, hdone⟩ | ⟨error, hfailed⟩
  · rw [hdone]
    exact ⟨rfl, hplanned.settled hrow hpending hreached hsettled,
      dueRows_replace hplanned hdue hsettled.id_eq hsettled.not_due⟩
  · rw [hfailed] at hstored
    cases hstored

/-- The loop of a sweep settles the claimed rows and leaves the others. -/
theorem Planned.deliverEach_working (hplanned : Planned outbox) (hworking : around.Working)
    (hnow : nowMs < i64Bound) {claimed : List Delivery} {taken others : List DeliveryRow}
    (hdue : dueRows outbox nowMs = taken ++ others)
    (hclaimed : claimed.map Delivery.id = taken.map DeliveryRow.id) (sweep : DeliverySweep) :
    let swept := deliverEach adapters nowMs around outbox sweep claimed
    Planned swept.outbox ∧ dueRows swept.outbox nowMs = others ∧
      swept.attempts.map Attempt.delivery = claimed ∧
      swept.answer = .ok
        { attempted := sweep.attempted
          delivered := sweep.delivered +
            swept.attempts.countP fun attempt => attempt.outcome.isOk
          failed := sweep.failed +
            swept.attempts.countP fun attempt => !attempt.outcome.isOk } := by
  induction claimed generalizing outbox taken sweep with
  | nil =>
      obtain rfl : taken = [] := by simpa using hclaimed.symm
      exact ⟨hplanned, hdue, rfl, rfl⟩
  | cons delivery rest ih =>
      obtain ⟨row, tail, rfl⟩ : ∃ row tail, taken = row :: tail := by
        cases taken with
        | nil => cases hclaimed
        | cons row tail => exact ⟨row, tail, rfl⟩
      obtain ⟨hid, hrest⟩ := List.cons.inj hclaimed
      obtain ⟨hstored, hkept, hleft⟩ := hplanned.settle_first hdue hnow
        (attemptOutcome adapters around delivery)
      rw [← hid, ← hworking.2 delivery.id] at hstored hkept hleft
      unfold deliverEach
      dsimp only
      split
      · next error hfailed =>
          rw [hstored] at hfailed
          cases hfailed
      · obtain ⟨hplan, hothers, hshown, hanswer⟩ := ih hkept hleft hrest
          (sweep.count (attemptOutcome adapters around delivery))
        refine ⟨hplan, hothers, by rw [List.map_cons, hshown], ?_⟩
        rw [hanswer, List.countP_cons, List.countP_cons]
        cases attemptOutcome adapters around delivery with
        | ok done => simp [DeliverySweep.count, Except.isOk, Except.toBool]; omega
        | error error => simp [DeliverySweep.count, Except.isOk, Except.toBool]; omega

theorem due_working (outbox : Outbox) (hnow : nowMs < i64Bound) :
    due outbox nowMs deliveryBatch .working =
      .ok (((dueRows outbox nowMs).filterMap (withEvent outbox)).take deliveryBatch) := by
  have hlimit : ¬ (deliveryBatch = 0 ∨ deliveryBatch > deliveryBatchLimit) := by decide
  exact bind_eq_ok_iff.mpr ⟨(), rejectIf_eq_ok_iff.mpr hlimit, bind_eq_ok_iff.mpr
    ⟨nowMs, tryI64_eq_ok_iff.mpr ⟨hnow, rfl⟩, bind_eq_ok_iff.mpr ⟨(), rfl, rfl⟩⟩⟩

/-- A sweep attempts the first rows that are due, and leaves the others. -/
theorem Planned.deliverDue_working (hplanned : Planned outbox) (hworking : around.Working)
    (hnow : nowMs < i64Bound) :
    let swept := deliverDue adapters outbox nowMs around
    Planned swept.outbox ∧
      dueRows swept.outbox nowMs = (dueRows outbox nowMs).drop deliveryBatch ∧
      swept.attempts.map (fun attempt => attempt.delivery.id) =
        ((dueRows outbox nowMs).take deliveryBatch).map DeliveryRow.id ∧
      ∃ sweep, swept.answer = .ok sweep ∧ sweep.Counts swept.attempts := by
  have hclaim := due_working outbox hnow
  generalize ((dueRows outbox nowMs).filterMap (Notify.withEvent outbox)).take deliveryBatch =
    claimed at hclaim
  obtain ⟨hids, -⟩ := hplanned.claimed hclaim
  obtain ⟨hplan, hleft, hshown, hanswer⟩ := hplanned.deliverEach_working adapters hworking hnow
    (List.take_append_drop deliveryBatch (dueRows outbox nowMs)).symm hids
    ⟨claimed.length, 0, 0⟩
  unfold deliverDue
  rw [hworking.1, hclaim]
  refine ⟨hplan, hleft, ?_, _, hanswer, ?_, Nat.zero_add _, Nat.zero_add _⟩
  · exact List.map_map.symm.trans ((congrArg (List.map Delivery.id) hshown).trans hids)
  · exact (congrArg List.length hshown).symm.trans (List.length_map _)

/-! ## Flushes -/

/-- The works of flushes at one time. -/
def flushes (nowMs : Nat) (arounds : List Surroundings) :
    List ((Command ⊕ OwnWork) × Surroundings) :=
  arounds.map fun around => (.inl (.flush nowMs), around)

/-- What an answered flush says of its sweep. -/
def FlushAnswered (nowMs : Nat) (work : Worked) : Prop :=
  work.1.1 = .inl (.flush nowMs) ∧
    ∃ attempts sweep, work.2 = .swept attempts (.ok sweep) ∧ sweep.Counts attempts

theorem Planned.flushes_working (hplanned : Planned outbox) (hnow : nowMs < i64Bound)
    {arounds : List Surroundings} (hworking : ∀ around ∈ arounds, around.Working) :
    let worker := (notificationWorker adapters).sequential
    let answered := worker.trace outbox (flushes nowMs arounds)
    (attemptsOf answered).map (fun attempt => attempt.delivery.id) =
        ((dueRows outbox nowMs).take (deliveryBatch * arounds.length)).map DeliveryRow.id ∧
      dueRows (worker.run outbox (flushes nowMs arounds)) nowMs =
        (dueRows outbox nowMs).drop (deliveryBatch * arounds.length) ∧
      ∀ work ∈ answered, FlushAnswered nowMs work := by
  induction arounds generalizing outbox with
  | nil => simp [flushes, attemptsOf]
  | cons around rest ih =>
      obtain ⟨hplan, hleft, hids, sweep, hanswer, hcounts⟩ :=
        hplanned.deliverDue_working adapters (hworking around (by simp)) hnow
      obtain ⟨hothers, hlast, hanswers⟩ :=
        ih hplan fun other hother => hworking other (by simp [hother])
      have hbatches : deliveryBatch * (rest.length + 1) =
          deliveryBatch + deliveryBatch * rest.length := by
        rw [Nat.mul_add, Nat.mul_one, Nat.add_comm]
      rw [List.length_cons, hbatches]
      refine ⟨?_, ?_, ?_⟩
      · show (attemptsOf (_ :: _)).map _ = _
        rw [attemptsOf, List.flatMap_cons, List.map_append, List.take_add, List.map_append, ← hleft,
          ← hothers, ← hids]
        rfl
      · rw [← List.drop_drop, ← hleft, ← hlast]
        rfl
      · intro work hwork
        rcases List.mem_cons.mp hwork with rfl | hlater
        · exact ⟨rfl, _, sweep, congrArg _ hanswer, hcounts⟩
        · exact hanswers work hlater

/-- On what any workers left: as long as the database works, flushes of one time answer with
what they came to, whatever the destinations answer; they attempt the deliveries that are due,
oldest first and each of them once, a hundred by each flush; and enough of them leave nothing
that is due at that time. -/
theorem flushes_drain (capacity : Nat)
    (lives : List (List (MailboxInput Command OwnWork Surroundings)))
    (hnow : nowMs < i64Bound) (arounds : List Surroundings)
    (hworking : ∀ around ∈ arounds, around.Working) :
    let worker := notificationWorker adapters
    let left := (worker.lives capacity Outbox.empty lives).2
    let answered := worker.sequential.trace left (flushes nowMs arounds)
    let rows := dueRows left nowMs
    (∀ work ∈ answered, FlushAnswered nowMs work ∧ worker.ends work.1.1 work.2 = false) ∧
    (attemptsOf answered).map (fun attempt => attempt.delivery.id) =
      (rows.take (deliveryBatch * arounds.length)).map DeliveryRow.id ∧
    (rows.length ≤ deliveryBatch * arounds.length →
      dueRows (worker.sequential.run left (flushes nowMs arounds)) nowMs = []) := by
  intro worker left answered rows
  obtain ⟨-, hrun⟩ := worker.lives_sequential capacity Outbox.empty lives
  obtain ⟨hlog, -, -⟩ := attempted_sequential adapters
    ((worker.lives capacity Outbox.empty lives).1.flatten.map Prod.fst)
  rw [← hrun] at hlog
  obtain ⟨hids, hleft, hanswers⟩ :=
    hlog.planned.flushes_working adapters hnow hworking
  refine ⟨fun work hwork => ⟨hanswers work hwork, ?_⟩, hids, fun hall => ?_⟩
  · obtain ⟨hflush, attempts, sweep, hanswer, -⟩ := hanswers work hwork
    rw [hflush, hanswer]
    rfl
  · rw [hleft]
    exact List.drop_eq_nil_of_le hall

theorem stoppedText_valid : validNotificationText "stopped" = true := by decide

theorem identifier_length : (List.replicate 16 (0 : UInt8)).length = 16 := List.length_replicate

theorem digest_length : (List.replicate 32 (0 : UInt8)).length = 32 := List.length_replicate

theorem stoppedNumbers_valid : 1000 ≠ 0 ∧ (7 : UInt32) ≠ 0 := by decide

theorem active_ne_stopped : EventState.active ≠ .stopped := by decide

/-- An account that stopped. -/
def stoppedEvent : NotificationEvent where
  eventId := ⟨List.replicate 16 0, identifier_length⟩
  occurredAtMs := 1000
  source := .account
  category := .worker
  severity := .warning
  accountLocalId := none
  reasonCode := 7
  transition := ⟨.active, .stopped, active_ne_stopped⟩
  humanSummary := ⟨"stopped", stoppedText_valid⟩
  nextAction := ⟨"stopped", stoppedText_valid⟩
  dedupeKey := ⟨List.replicate 32 0, digest_length⟩
  valid := stoppedNumbers_valid

/-- A destination that is never reached, over a database that works. -/
def unreachable : Surroundings where
  sinceEpoch := none
  remote _ := .error .transport
  storage := .working
  recording _ := .working

def onlyAdapter : DestinationId := ⟨List.replicate 16 0, identifier_length⟩

/-- One worker stores the event and ends; the next one flushes. -/
theorem flushes_drain_unreachable :
    let worker := notificationWorker [onlyAdapter]
    let left := (worker.lives 8 Outbox.empty [[.send (.enqueue stoppedEvent 1000 true),
      .take unreachable, .own .disconnected unreachable]]).2
    let answered := worker.sequential.trace left (flushes 2000 [unreachable])
    (attemptsOf answered).map (fun attempt => attempt.delivery.id) = [1] ∧
      dueRows (worker.sequential.run left (flushes 2000 [unreachable])) 2000 = [] := by
  have hworking : ∀ around ∈ [unreachable], around.Working := by
    intro around haround
    obtain rfl := List.mem_singleton.mp haround
    exact ⟨rfl, fun _ => rfl⟩
  obtain ⟨-, hids, hleft⟩ := flushes_drain [onlyAdapter] 8
    [[.send (.enqueue stoppedEvent 1000 true), .take unreachable,
      .own .disconnected unreachable]] (show 2000 < i64Bound by decide) [unreachable] hworking
  exact ⟨hids.trans (by decide), hleft (by decide)⟩

end Progress

end Notify
end Lirvena
