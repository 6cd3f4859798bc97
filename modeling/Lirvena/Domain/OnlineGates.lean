import Lirvena.Domain.OnlineRun

/-!
# Operations in the states they are made for

A caller that follows the gates of the controller makes each operation in the state that
waits for it.  There an operation does its work, unless the clock is less than a day before
the last time that a word can hold.
-/

namespace Lirvena
namespace Domain

open Lib

/-- A deadline of a plan may lie behind the last word. -/
def NearsLastWord (nowMs : Nat) : Prop :=
  u64Bound ≤ nowMs + maxCompiledIntervalMs

theorem checkedDue_cases (nowMs : Nat) {delayMs : Nat} (hdelay : delayMs ≤ maxCompiledIntervalMs) :
    (NearsLastWord nowMs ∧ checkedDue nowMs delayMs = .error .rejected) ∨
      checkedDue nowMs delayMs = .ok (nowMs + delayMs) := by
  unfold checkedDue checkedAddU64
  split
  · exact Or.inr rfl
  · next hoverflow =>
      refine Or.inl ⟨?_, rfl⟩
      unfold NearsLastWord
      omega

theorem delayedSyncDue_cases (plan : OnlinePlan) (nowMs : Nat) (delayedAfterMs : Option Nat) :
    (NearsLastWord nowMs ∧ plan.delayedSyncDue nowMs delayedAfterMs = .error .rejected) ∨
      plan.delayedSyncDue nowMs delayedAfterMs =
        .ok (delayedAfterMs.map fun delay => nowMs + plan.clampDelayedSync delay) := by
  cases delayedAfterMs with
  | none => exact Or.inr rfl
  | some delay =>
      have hday := Nat.le_trans (plan.clampDelayedSync_interval delay).2
        plan.compiledIntervals.maximumDelayedSync
      rcases checkedDue_cases nowMs hday with ⟨hnear, hdue⟩ | hdue
      · left
        rw [OnlinePlan.delayedSyncDue, hdue]
        exact ⟨hnear, rfl⟩
      · right
        rw [OnlinePlan.delayedSyncDue, hdue]
        rfl

namespace OnlineMachine

variable {machine : OnlineMachine} {generation : OnlineGeneration}

theorem apply_start (plan : OnlinePlan) (generation : OnlineGeneration) :
    (OnlineMachine.new plan).apply (.start generation) =
      ({ OnlineMachine.new plan with state := .synchronizing generation },
        .directive (.dispatch generation (.initialSync plan.initialSync))) :=
  rfl

theorem apply_initialSyncSucceeded (hstate : machine.state = .synchronizing generation)
    (nowMs : Nat) (delayedAfterMs : Option Nat) :
    (NearsLastWord nowMs ∧
      machine.apply (.initialSyncSucceeded generation nowMs delayedAfterMs) =
        (machine, .rejected)) ∨
      machine.apply (.initialSyncSucceeded generation nowMs delayedAfterMs) =
        ({ machine with
            nextDelayedSyncMs := delayedAfterMs.map fun delay =>
              nowMs + machine.plan.clampDelayedSync delay
            state := .bootstrapping generation },
          .directive (.dispatch generation
            (.securityBootstrap machine.plan.securityBootstrap))) := by
  simp only [apply, initialSyncSucceeded, if_pos hstate]
  rcases delayedSyncDue_cases machine.plan nowMs delayedAfterMs with ⟨hnear, hdue⟩ | hdue
  · rw [hdue]
    exact Or.inl ⟨hnear, rfl⟩
  · rw [hdue]
    exact Or.inr rfl

/-- The last gate: the machine is online, or the first deadline is behind the last word. -/
theorem enterOnline_spec (machine : OnlineMachine) (generation : OnlineGeneration)
    (nowMs : Nat) :
    (NearsLastWord nowMs ∧ machine.enterOnline generation nowMs =
        (machine, .error .rejected)) ∨
      machine.enterOnline generation nowMs =
        (machine.entered generation nowMs, .ok (.enteredOnline generation)) := by
  unfold enterOnline
  rcases checkedDue_cases nowMs machine.plan.compiledIntervals.initialHeartbeat
    with ⟨hnear, hdue⟩ | hdue
  · rw [hdue]
    exact Or.inl ⟨hnear, rfl⟩
  · rw [hdue]
    exact Or.inr rfl

theorem apply_securityBootstrap_confirming
    (hstate : machine.state = .bootstrapping generation) {action : PlanActionId}
    (hplan : machine.plan.statusConfirmation = some action) (nowMs : Nat) :
    machine.apply (.securityBootstrapSucceeded generation nowMs) =
      ({ machine with state := .confirming generation },
        .directive (.dispatch generation (.statusConfirmation action))) := by
  simp only [apply, securityBootstrapSucceeded, if_pos hstate, hplan]
  rfl

theorem apply_securityBootstrap_entering
    (hstate : machine.state = .bootstrapping generation)
    (hplan : machine.plan.statusConfirmation = none) (nowMs : Nat) :
    (NearsLastWord nowMs ∧ machine.apply (.securityBootstrapSucceeded generation nowMs) =
        (machine, .rejected)) ∨
      machine.apply (.securityBootstrapSucceeded generation nowMs) =
        (machine.entered generation nowMs, .directive (.enteredOnline generation)) := by
  simp only [apply, securityBootstrapSucceeded, if_pos hstate, hplan]
  rcases machine.enterOnline_spec generation nowMs with ⟨hnear, henter⟩ | henter
  · rw [henter]
    exact Or.inl ⟨hnear, rfl⟩
  · rw [henter]
    exact Or.inr rfl

theorem apply_statusConfirmation (hstate : machine.state = .confirming generation)
    (nowMs : Nat) :
    (NearsLastWord nowMs ∧ machine.apply (.statusConfirmationCompleted generation nowMs) =
        (machine, .rejected)) ∨
      machine.apply (.statusConfirmationCompleted generation nowMs) =
        (machine.entered generation nowMs, .directive (.enteredOnline generation)) := by
  simp only [apply, statusConfirmationCompleted, if_pos hstate]
  rcases machine.enterOnline_spec generation nowMs with ⟨hnear, henter⟩ | henter
  · rw [henter]
    exact Or.inl ⟨hnear, rfl⟩
  · rw [henter]
    exact Or.inr rfl

/-- The machine with what is due put in flight. -/
def polled (machine : OnlineMachine) (nowMs : Nat) : OnlineMachine :=
  { machine with
    heartbeatInFlight := machine.heartbeatInFlight || machine.heartbeatDue nowMs
    delayedSyncInFlight := machine.delayedSyncInFlight || machine.delayedSyncIsDue nowMs }

theorem apply_pollDue (hstate : machine.state = .online generation) (nowMs : Nat) :
    machine.apply (.pollDue nowMs) = (machine.polled nowMs,
      .due
        (if machine.heartbeatDue nowMs then
          some (.dispatch generation (.businessHeartbeat machine.plan.businessHeartbeat))
        else none)
        (if machine.delayedSyncIsDue nowMs then
          some (.dispatch generation (.delayedSync machine.plan.delayedSync))
        else none)) := by
  simp only [apply, pollDue]
  split
  · next other hother =>
      cases hstate.symm.trans hother
      rfl
  · next hoffline => exact absurd hstate (hoffline generation)

theorem heartbeatInterval_within (machine : OnlineMachine) (requestedIntervalMs : Option Nat)
    (hinterval : machine.plan.HeartbeatInterval machine.heartbeatIntervalMs) :
    machine.plan.HeartbeatInterval (machine.heartbeatInterval requestedIntervalMs) := by
  cases requestedIntervalMs with
  | none => exact hinterval
  | some requested => exact machine.plan.clampHeartbeat_interval requested

theorem apply_heartbeatCompleted (hstate : machine.state = .online generation)
    (hflight : machine.heartbeatInFlight = true)
    (hinterval : machine.plan.HeartbeatInterval machine.heartbeatIntervalMs) (nowMs : Nat)
    (requestedIntervalMs : Option Nat) :
    (NearsLastWord nowMs ∧
      (machine.apply (.heartbeatCompleted generation nowMs requestedIntervalMs)).2 =
        .rejected) ∨
      machine.apply (.heartbeatCompleted generation nowMs requestedIntervalMs) =
        ({ machine with
            heartbeatIntervalMs := machine.heartbeatInterval requestedIntervalMs
            nextHeartbeatMs :=
              some (nowMs + machine.heartbeatInterval requestedIntervalMs)
            heartbeatInFlight := false },
          .completed) := by
  have hday := Nat.le_trans
    (machine.heartbeatInterval_within requestedIntervalMs hinterval).2
    machine.plan.compiledIntervals.maximumHeartbeat
  simp only [apply, heartbeatCompleted, if_pos (And.intro hstate hflight)]
  rcases checkedDue_cases nowMs hday with ⟨hnear, hdue⟩ | hdue
  · simp only [heartbeatInterval] at hdue
    simp only [hdue]
    exact Or.inl ⟨hnear, rfl⟩
  · have hsame := hdue
    simp only [heartbeatInterval] at hsame
    simp only [hsame]
    exact Or.inr rfl

theorem apply_delayedSyncCompleted (hstate : machine.state = .online generation)
    (hflight : machine.delayedSyncInFlight = true) (nowMs : Nat)
    (delayedAfterMs : Option Nat) :
    (NearsLastWord nowMs ∧
      (machine.apply (.delayedSyncCompleted generation nowMs delayedAfterMs)).2 =
        .rejected) ∨
      machine.apply (.delayedSyncCompleted generation nowMs delayedAfterMs) =
        ({ machine with
            nextDelayedSyncMs := delayedAfterMs.map fun delay =>
              nowMs + machine.plan.clampDelayedSync delay
            delayedSyncInFlight := false },
          .completed) := by
  simp only [apply, delayedSyncCompleted, if_pos (And.intro hstate hflight)]
  rcases delayedSyncDue_cases machine.plan nowMs delayedAfterMs with ⟨hnear, hdue⟩ | hdue
  · rw [hdue]
    exact Or.inl ⟨hnear, rfl⟩
  · rw [hdue]
    exact Or.inr rfl

/-- No operation changes the plan, and the interval stays one that the plan allows. -/
theorem apply_plan (machine : OnlineMachine) (op : OnlineOp) :
    (machine.apply op).1.plan = machine.plan ∧
      (machine.plan.HeartbeatInterval machine.heartbeatIntervalMs →
        machine.plan.HeartbeatInterval (machine.apply op).1.heartbeatIntervalMs) := by
  have hinitial := machine.plan.initialHeartbeat_interval
  have hstep := machine.apply_step op
  generalize machine.apply op = result at hstep ⊢
  obtain ⟨next, answer⟩ := result
  cases hstep with
  | started | failed | stopped => exact ⟨rfl, fun _ => hinitial⟩
  | heartbeat _ _ requested | heartbeatOverflow _ _ requested =>
      exact ⟨rfl, machine.heartbeatInterval_within requested⟩
  | _ => exact ⟨rfl, id⟩

end OnlineMachine
end Domain
end Lirvena
