import Lirvena.Domain.OnlineRun
import Mathlib.Data.List.ReduceOption

/-!
# Deadlines and polls

A caller of the controller sleeps until `nextDueMs` and then polls.  Both functions look
at the deadlines that are armed: those of an online generation whose work is not in
flight.  A poll takes the armed deadlines that have come, and `nextDueMs` is the first
of those that are left.
-/

namespace Lirvena
namespace Domain

open Lib

/-- The directives that one poll emits. -/
def emitted (slots : Option OnlineDirective × Option OnlineDirective) : List OnlineDirective :=
  slots.1.toList ++ slots.2.toList

namespace OnlineMachine

/-- A deadline that waits for its time. -/
def Armed (machine : OnlineMachine) (due : Nat) : Prop :=
  machine.state.isOnline = true ∧
    ((machine.heartbeatInFlight = false ∧ machine.nextHeartbeatMs = some due) ∨
      (machine.delayedSyncInFlight = false ∧ machine.nextDelayedSyncMs = some due))

/-- What a caller that sleeps until the next deadline relies on when it polls. -/
structure PollAgrees (machine : OnlineMachine) (nowMs : Nat) : Prop where
  emits_iff : emitted (machine.pollDue nowMs).2 ≠ [] ↔
    ∃ due, machine.nextDueMs = some due ∧ due ≤ nowMs
  /-- Behind a poll the caller does not wake up at the same time again. -/
  next_later : ∀ due, (machine.pollDue nowMs).1.nextDueMs = some due → nowMs < due
  /-- Before the deadline there is nothing to miss. -/
  idle_before : (∀ due, machine.nextDueMs = some due → nowMs < due) →
    machine.pollDue nowMs = (machine, none, none)

theorem mem_deadlines {machine : OnlineMachine} {due : Nat} :
    due ∈ [if machine.heartbeatInFlight then none else machine.nextHeartbeatMs,
        if machine.delayedSyncInFlight then none else machine.nextDelayedSyncMs].reduceOption ↔
      (machine.heartbeatInFlight = false ∧ machine.nextHeartbeatMs = some due) ∨
        (machine.delayedSyncInFlight = false ∧ machine.nextDelayedSyncMs = some due) := by
  rw [List.reduceOption_mem_iff, List.mem_pair]
  cases machine.heartbeatInFlight <;> cases machine.delayedSyncInFlight <;> simp [eq_comm]

/-- The next deadline is the earliest one armed. -/
theorem nextDueMs_eq_some_iff {machine : OnlineMachine} {due : Nat} :
    machine.nextDueMs = some due ↔
      machine.Armed due ∧ ∀ other, machine.Armed other → due ≤ other := by
  unfold nextDueMs
  split
  · next honline =>
      dsimp only
      rw [List.min?_eq_some_iff, mem_deadlines]
      simp only [Armed, honline, true_and, mem_deadlines]
  · next hoffline => simp [Armed, hoffline]

theorem nextDueMs_eq_none_iff {machine : OnlineMachine} :
    machine.nextDueMs = none ↔ ∀ due, ¬ machine.Armed due := by
  unfold nextDueMs
  split
  · next honline =>
      dsimp only
      rw [List.min?_eq_none_iff, List.eq_nil_iff_forall_not_mem]
      simp only [Armed, honline, true_and, mem_deadlines]
  · next hoffline => simp [Armed, hoffline]

/-- Some armed deadline has come exactly when the next one has. -/
theorem exists_armed_iff {machine : OnlineMachine} {nowMs : Nat} :
    (∃ due, machine.Armed due ∧ due ≤ nowMs) ↔
      ∃ due, machine.nextDueMs = some due ∧ due ≤ nowMs := by
  constructor
  · rintro ⟨due, harmed, hcome⟩
    cases hnext : machine.nextDueMs with
    | none => exact absurd harmed (nextDueMs_eq_none_iff.mp hnext due)
    | some first =>
        have hfirst := (nextDueMs_eq_some_iff.mp hnext).2 due harmed
        exact ⟨first, rfl, hfirst.trans hcome⟩
  · rintro ⟨due, hnext, hcome⟩
    exact ⟨due, (nextDueMs_eq_some_iff.mp hnext).1, hcome⟩

theorem heartbeatDue_iff {machine : OnlineMachine} {nowMs : Nat} :
    machine.heartbeatDue nowMs = true ↔ ∃ due, (machine.heartbeatInFlight = false ∧
      machine.nextHeartbeatMs = some due) ∧ due ≤ nowMs := by
  simp [heartbeatDue, Option.any_eq_true, and_assoc]

theorem delayedSyncIsDue_iff {machine : OnlineMachine} {nowMs : Nat} :
    machine.delayedSyncIsDue nowMs = true ↔ ∃ due, (machine.delayedSyncInFlight = false ∧
      machine.nextDelayedSyncMs = some due) ∧ due ≤ nowMs := by
  simp [delayedSyncIsDue, Option.any_eq_true, and_assoc]

/-- One of the two slots is due exactly when an armed deadline has come. -/
theorem due_iff_armed {machine : OnlineMachine} {nowMs : Nat}
    (honline : machine.state.isOnline = true) :
    machine.heartbeatDue nowMs = true ∨ machine.delayedSyncIsDue nowMs = true ↔
      ∃ due, machine.Armed due ∧ due ≤ nowMs := by
  rw [heartbeatDue_iff, delayedSyncIsDue_iff, ← exists_or]
  simp only [Armed, honline, true_and, or_and_right]

theorem not_armed_of_offline {machine : OnlineMachine}
    (hoffline : ∀ generation, machine.state ≠ .online generation) (due : Nat) :
    ¬ machine.Armed due := by
  rintro ⟨honline, -⟩
  cases hstate : machine.state with
  | online generation => exact hoffline generation hstate
  | _ => simp [hstate, OnlineState.isOnline] at honline

/-- A poll emits something exactly when an armed deadline has come. -/
theorem pollDue_emits_iff (machine : OnlineMachine) (nowMs : Nat) :
    emitted (machine.pollDue nowMs).2 ≠ [] ↔ ∃ due, machine.Armed due ∧ due ≤ nowMs := by
  unfold pollDue
  split
  · next generation hstate =>
      have honline : machine.state.isOnline = true := by rw [hstate]; rfl
      rw [← due_iff_armed honline]
      cases machine.heartbeatDue nowMs <;> cases machine.delayedSyncIsDue nowMs <;>
        simp [emitted]
  · next hoffline =>
      simp [emitted, not_armed_of_offline hoffline]

/-- A poll leaves the armed deadlines that lie ahead. -/
theorem armed_pollDue_iff {machine : OnlineMachine} {nowMs due : Nat} :
    (machine.pollDue nowMs).1.Armed due ↔ machine.Armed due ∧ nowMs < due := by
  unfold pollDue
  split
  · next generation hstate =>
      have honline : machine.state.isOnline = true := by rw [hstate]; rfl
      -- a slot in flight stays so, and one whose deadline has come is put in flight
      have hslot : ∀ (inFlight : Bool) (deadline : Option Nat),
          (inFlight || (!inFlight && deadline.any fun time => time ≤ nowMs)) = false ∧
              deadline = some due ↔
            (inFlight = false ∧ deadline = some due) ∧ nowMs < due := by
        intro inFlight deadline
        cases inFlight <;> cases deadline <;> simp
        omega
      simp only [Armed, honline, true_and, heartbeatDue, delayedSyncIsDue, hslot,
        or_and_right]
  · next hoffline =>
      simp [not_armed_of_offline hoffline]

/-- A poll that emits nothing changes nothing. -/
theorem pollDue_idle {machine : OnlineMachine} {nowMs : Nat}
    (hidle : emitted (machine.pollDue nowMs).2 = []) :
    machine.pollDue nowMs = (machine, none, none) := by
  unfold pollDue at hidle ⊢
  split at hidle
  · next generation hstate =>
      cases hheartbeat : machine.heartbeatDue nowMs <;>
        cases hdelayed : machine.delayedSyncIsDue nowMs <;>
        simp [emitted, hheartbeat, hdelayed] at hidle ⊢
  · rfl

theorem pollAgrees (machine : OnlineMachine) (nowMs : Nat) : machine.PollAgrees nowMs where
  emits_iff := (machine.pollDue_emits_iff nowMs).trans exists_armed_iff
  next_later := by
    intro due hnext
    exact (armed_pollDue_iff.mp (nextDueMs_eq_some_iff.mp hnext).1).2
  idle_before := by
    intro hlater
    refine pollDue_idle (not_not.mp fun hemits => ?_)
    obtain ⟨due, hnext, hcome⟩ :=
      ((machine.pollDue_emits_iff nowMs).trans exists_armed_iff).mp hemits
    exact absurd (hlater due hnext) (Nat.not_lt.mpr hcome)

/-- In every state that a run of operations reaches, and at every time, a poll emits
something exactly when the next deadline has come, and leaves a next deadline that lies
ahead. -/
theorem controller_poll_agrees (plan : OnlinePlan) (ops : List OnlineOp) (nowMs : Nat) :
    (controller.run (OnlineMachine.new plan) ops).PollAgrees nowMs :=
  pollAgrees _ nowMs

end OnlineMachine
end Domain
end Lirvena
