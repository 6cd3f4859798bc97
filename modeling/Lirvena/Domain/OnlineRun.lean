import Lirvena.Domain.OnlineMachine

/-!
# Runs of the online machine

`OnlineMachine.apply` presents the operations of the controller as one input
alphabet, and `OnlineStep` lists everything one operation can do.  Facts about
the controller are proved from `apply_step` by cases on the effect, never by
unfolding an operation.
-/

namespace Lirvena
namespace Domain

open Lib

/-- The operations of the controller. -/
inductive OnlineOp where
  | start (generation : OnlineGeneration)
  | initialSyncSucceeded (generation : OnlineGeneration) (nowMs : Nat)
      (delayedAfterMs : Option Nat)
  | securityBootstrapSucceeded (generation : OnlineGeneration) (nowMs : Nat)
  | statusConfirmationCompleted (generation : OnlineGeneration) (nowMs : Nat)
  | pollDue (nowMs : Nat)
  | heartbeatCompleted (generation : OnlineGeneration) (nowMs : Nat)
      (requestedIntervalMs : Option Nat)
  | delayedSyncCompleted (generation : OnlineGeneration) (nowMs : Nat)
      (delayedAfterMs : Option Nat)
  | requiredActionFailed (generation : OnlineGeneration)
  | stop

/-- What one operation answers. -/
inductive OnlineAnswer where
  | directive (directive : OnlineDirective)
  | completed
  | due (heartbeat delayedSync : Option OnlineDirective)
  | rejected

def OnlineAnswer.ofDirective :
    Except OnlineTransitionError OnlineDirective → OnlineAnswer
  | .ok requested => .directive requested
  | .error _ => .rejected

def OnlineAnswer.ofCompletion : Except OnlineTransitionError Unit → OnlineAnswer
  | .ok () => .completed
  | .error _ => .rejected

namespace OnlineMachine

def apply (machine : OnlineMachine) : OnlineOp → OnlineMachine × OnlineAnswer
  | .start generation => (machine.start generation).map id .ofDirective
  | .initialSyncSucceeded generation nowMs delayedAfterMs =>
      (machine.initialSyncSucceeded generation nowMs delayedAfterMs).map id .ofDirective
  | .securityBootstrapSucceeded generation nowMs =>
      (machine.securityBootstrapSucceeded generation nowMs).map id .ofDirective
  | .statusConfirmationCompleted generation nowMs =>
      (machine.statusConfirmationCompleted generation nowMs).map id .ofDirective
  | .pollDue nowMs =>
      (machine.pollDue nowMs).map id (fun slots => .due slots.1 slots.2)
  | .heartbeatCompleted generation nowMs requestedIntervalMs =>
      (machine.heartbeatCompleted generation nowMs requestedIntervalMs).map id
        .ofCompletion
  | .delayedSyncCompleted generation nowMs delayedAfterMs =>
      (machine.delayedSyncCompleted generation nowMs delayedAfterMs).map id .ofCompletion
  | .requiredActionFailed generation =>
      (machine.requiredActionFailed generation).map id .ofDirective
  | .stop => (machine.stop, .completed)

/-- The controller as a machine over its operations. -/
def controller : Machine OnlineMachine OnlineOp OnlineAnswer where
  step := apply

end OnlineMachine

/-! ## Everything one operation can do -/

/-- The machine after the last startup gate: online, with the first heartbeat
one initial delay away. -/
def OnlineMachine.entered (machine : OnlineMachine) (generation : OnlineGeneration)
    (nowMs : Nat) : OnlineMachine :=
  { machine with
    nextHeartbeatMs := some (nowMs + machine.plan.initialHeartbeatMs)
    state := .online generation }

def OnlineMachine.heartbeatInterval (machine : OnlineMachine)
    (requestedIntervalMs : Option Nat) : Nat :=
  requestedIntervalMs.elim machine.heartbeatIntervalMs machine.plan.clampHeartbeat

/-- Every effect an operation can have, with the guard under which it has it. -/
inductive OnlineStep (machine : OnlineMachine) :
    OnlineOp → OnlineMachine → OnlineAnswer → Prop where
  | rejected (op : OnlineOp) : OnlineStep machine op machine .rejected
  | started (generation : OnlineGeneration)
      (hidle : machine.state = .stopped ∨
        ∃ previous, machine.state = .protectiveOffline previous) :
      OnlineStep machine (.start generation)
        { machine.clearSchedule with state := .synchronizing generation }
        (.directive (.dispatch generation (.initialSync machine.plan.initialSync)))
  | initialSync (generation : OnlineGeneration) (nowMs : Nat)
      (delayedAfterMs : Option Nat)
      (hstate : machine.state = .synchronizing generation) :
      OnlineStep machine (.initialSyncSucceeded generation nowMs delayedAfterMs)
        { machine with
          nextDelayedSyncMs := delayedAfterMs.map
            (fun delay => nowMs + machine.plan.clampDelayedSync delay)
          state := .bootstrapping generation }
        (.directive (.dispatch generation
          (.securityBootstrap machine.plan.securityBootstrap)))
  | bootstrapConfirming (generation : OnlineGeneration) (nowMs : Nat)
      (action : PlanActionId)
      (hstate : machine.state = .bootstrapping generation)
      (hplan : machine.plan.statusConfirmation = some action) :
      OnlineStep machine (.securityBootstrapSucceeded generation nowMs)
        { machine with state := .confirming generation }
        (.directive (.dispatch generation (.statusConfirmation action)))
  | bootstrapOnline (generation : OnlineGeneration) (nowMs : Nat)
      (hstate : machine.state = .bootstrapping generation)
      (hplan : machine.plan.statusConfirmation = none) :
      OnlineStep machine (.securityBootstrapSucceeded generation nowMs)
        (machine.entered generation nowMs)
        (.directive (.enteredOnline generation))
  | confirmed (generation : OnlineGeneration) (nowMs : Nat)
      (hstate : machine.state = .confirming generation) :
      OnlineStep machine (.statusConfirmationCompleted generation nowMs)
        (machine.entered generation nowMs)
        (.directive (.enteredOnline generation))
  | polledIdle (nowMs : Nat) :
      OnlineStep machine (.pollDue nowMs) machine (.due none none)
  | polled (generation : OnlineGeneration) (nowMs : Nat)
      (hstate : machine.state = .online generation) :
      OnlineStep machine (.pollDue nowMs)
        { machine with
          heartbeatInFlight := machine.heartbeatInFlight || machine.heartbeatDue nowMs
          delayedSyncInFlight :=
            machine.delayedSyncInFlight || machine.delayedSyncIsDue nowMs }
        (.due
          (if machine.heartbeatDue nowMs then
            some (.dispatch generation
              (.businessHeartbeat machine.plan.businessHeartbeat))
          else none)
          (if machine.delayedSyncIsDue nowMs then
            some (.dispatch generation (.delayedSync machine.plan.delayedSync))
          else none))
  | heartbeat (generation : OnlineGeneration) (nowMs : Nat)
      (requestedIntervalMs : Option Nat)
      (hstate : machine.state = .online generation)
      (hflight : machine.heartbeatInFlight = true) :
      OnlineStep machine (.heartbeatCompleted generation nowMs requestedIntervalMs)
        { machine with
          heartbeatIntervalMs := machine.heartbeatInterval requestedIntervalMs
          nextHeartbeatMs := some (nowMs + machine.heartbeatInterval requestedIntervalMs)
          heartbeatInFlight := false }
        .completed
  | heartbeatOverflow (generation : OnlineGeneration) (nowMs : Nat)
      (requestedIntervalMs : Option Nat)
      (hstate : machine.state = .online generation)
      (hflight : machine.heartbeatInFlight = true) :
      OnlineStep machine (.heartbeatCompleted generation nowMs requestedIntervalMs)
        { machine with
          heartbeatIntervalMs := machine.heartbeatInterval requestedIntervalMs }
        .rejected
  | delayedSync (generation : OnlineGeneration) (nowMs : Nat)
      (delayedAfterMs : Option Nat)
      (hstate : machine.state = .online generation)
      (hflight : machine.delayedSyncInFlight = true) :
      OnlineStep machine (.delayedSyncCompleted generation nowMs delayedAfterMs)
        { machine with
          nextDelayedSyncMs := delayedAfterMs.map
            (fun delay => nowMs + machine.plan.clampDelayedSync delay)
          delayedSyncInFlight := false }
        .completed
  | failed (generation : OnlineGeneration)
      (hstate : generationOf machine.state = some generation) :
      OnlineStep machine (.requiredActionFailed generation)
        { machine.clearSchedule with state := .protectiveOffline generation }
        (.directive (.protectiveOffline generation))
  | stopped : OnlineStep machine .stop machine.stop .completed

namespace OnlineMachine

theorem enterOnline_cases (machine : OnlineMachine) (generation : OnlineGeneration)
    (nowMs : Nat) :
    (machine.enterOnline generation nowMs).map id OnlineAnswer.ofDirective =
        (machine, .rejected) ∨
      (machine.enterOnline generation nowMs).map id OnlineAnswer.ofDirective =
        (machine.entered generation nowMs, .directive (.enteredOnline generation)) := by
  unfold enterOnline
  cases hdue : checkedDue nowMs machine.plan.initialHeartbeatMs with
  | error error => exact Or.inl rfl
  | ok due =>
      right
      simp [checkedDue_eq_ok hdue, entered, OnlineAnswer.ofDirective]

/-- `OnlineStep` lists every behaviour of every operation. -/
theorem apply_step (machine : OnlineMachine) (op : OnlineOp) :
    OnlineStep machine op (machine.apply op).1 (machine.apply op).2 := by
  cases op with
  | start generation =>
      simp only [apply, start]
      split
      · next hstate => exact .started generation (Or.inl hstate)
      · next previous hstate => exact .started generation (Or.inr ⟨previous, hstate⟩)
      · exact .rejected _
  | initialSyncSucceeded generation nowMs delayedAfterMs =>
      simp only [apply, initialSyncSucceeded]
      split
      · next hstate =>
          cases hdue : machine.plan.delayedSyncDue nowMs delayedAfterMs with
          | error error => exact .rejected _
          | ok due =>
              simp only [OnlinePlan.delayedSyncDue_eq_ok hdue]
              exact .initialSync generation nowMs delayedAfterMs hstate
      · exact .rejected _
  | securityBootstrapSucceeded generation nowMs =>
      simp only [apply, securityBootstrapSucceeded]
      split
      · next hstate =>
          split
          · next action hplan =>
              exact .bootstrapConfirming generation nowMs action hstate hplan
          · next hplan =>
              rcases enterOnline_cases machine generation nowMs with hrejected | hentered
              · rw [hrejected]; exact .rejected _
              · rw [hentered]; exact .bootstrapOnline generation nowMs hstate hplan
      · exact .rejected _
  | statusConfirmationCompleted generation nowMs =>
      simp only [apply, statusConfirmationCompleted]
      split
      · next hstate =>
          rcases enterOnline_cases machine generation nowMs with hrejected | hentered
          · rw [hrejected]; exact .rejected _
          · rw [hentered]; exact .confirmed generation nowMs hstate
      · exact .rejected _
  | pollDue nowMs =>
      simp only [apply, pollDue]
      split
      · next generation hstate => exact .polled generation nowMs hstate
      · exact .polledIdle nowMs
  | heartbeatCompleted generation nowMs requestedIntervalMs =>
      simp only [apply, heartbeatCompleted]
      split
      · next hguard =>
          -- the interval is written before its deadline is checked
          cases hdue : checkedDue nowMs (machine.heartbeatInterval requestedIntervalMs) with
          | error error =>
              simp only [heartbeatInterval] at hdue
              simp only [hdue]
              exact .heartbeatOverflow generation nowMs requestedIntervalMs hguard.1 hguard.2
          | ok due =>
              have hvalue := checkedDue_eq_ok hdue
              simp only [heartbeatInterval] at hdue
              simp only [hdue, hvalue]
              exact .heartbeat generation nowMs requestedIntervalMs hguard.1 hguard.2
      · exact .rejected _
  | delayedSyncCompleted generation nowMs delayedAfterMs =>
      simp only [apply, delayedSyncCompleted]
      split
      · next hguard =>
          cases hdue : machine.plan.delayedSyncDue nowMs delayedAfterMs with
          | error error => exact .rejected _
          | ok due =>
              simp only [OnlinePlan.delayedSyncDue_eq_ok hdue]
              exact .delayedSync generation nowMs delayedAfterMs hguard.1 hguard.2
      · exact .rejected _
  | requiredActionFailed generation =>
      simp only [apply, requiredActionFailed]
      split
      · exact .rejected _
      · exact .rejected _
      · split
        · next hstate => exact .failed generation hstate
        · exact .rejected _
  | stop => exact .stopped

end OnlineMachine
end Domain
end Lirvena
