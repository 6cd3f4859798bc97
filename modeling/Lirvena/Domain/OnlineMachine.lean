import Lirvena.Domain.OnlinePlan
import Lirvena.Lib.Run

/-!
# The online machine

The generation-fenced controller of one account.  Every operation takes the
machine by mutable reference and may be rejected half way, so an operation here
returns the machine it leaves behind *and* the result it answers with.
-/

namespace Lirvena
namespace Domain

open Lib

/-- One closed action class understood by the compiled runtime. -/
inductive OnlineAction where
  | initialSync (id : PlanActionId)
  | delayedSync (id : PlanActionId)
  | securityBootstrap (id : PlanActionId)
  | statusConfirmation (id : PlanActionId)
  | businessHeartbeat (id : PlanActionId)
  deriving DecidableEq

/-- Closed state of one online-generation controller. -/
inductive OnlineState where
  | stopped
  | synchronizing (generation : OnlineGeneration)
  | bootstrapping (generation : OnlineGeneration)
  | confirming (generation : OnlineGeneration)
  | online (generation : OnlineGeneration)
  | protectiveOffline (generation : OnlineGeneration)
  deriving DecidableEq

/-- Side effect requested from the account's single-writer actor. -/
inductive OnlineDirective where
  | dispatch (generation : OnlineGeneration) (action : OnlineAction)
  | enteredOnline (generation : OnlineGeneration)
  | protectiveOffline (generation : OnlineGeneration)
  deriving DecidableEq

/-- Rejected state transition or stale action completion. -/
inductive OnlineTransitionError where
  | rejected
  deriving DecidableEq, Repr

/-- Single-owner, generation-fenced online controller. -/
structure OnlineMachine where
  plan : OnlinePlan
  state : OnlineState
  heartbeatIntervalMs : Nat
  nextHeartbeatMs : Option Nat
  nextDelayedSyncMs : Option Nat
  heartbeatInFlight : Bool
  delayedSyncInFlight : Bool
  deriving DecidableEq

def generationOf : OnlineState → Option OnlineGeneration
  | .stopped => none
  | .synchronizing generation | .bootstrapping generation | .confirming generation
  | .online generation | .protectiveOffline generation => some generation

def OnlineState.isOnline : OnlineState → Bool
  | .online _ => true
  | _ => false

def checkedDue (nowMs delayMs : Nat) : Except OnlineTransitionError Nat :=
  okOr .rejected (checkedAddU64 nowMs delayMs)

/-- `delayed_after_ms.map(|delay| checked_due(..)).transpose()`. -/
def OnlinePlan.delayedSyncDue (plan : OnlinePlan) (nowMs : Nat) :
    Option Nat → Except OnlineTransitionError (Option Nat)
  | none => .ok none
  | some delay => do
      let due ← checkedDue nowMs (plan.clampDelayedSync delay)
      return some due

theorem checkedDue_eq_ok {nowMs delayMs due : Nat}
    (hdue : checkedDue nowMs delayMs = .ok due) : due = nowMs + delayMs := by
  unfold checkedDue at hdue
  exact (checkedAddU64_eq_some_iff.mp (okOr_eq_ok_iff.mp hdue)).2

/-- A scheduled delayed sync lies one plan interval after its completion, and
is absent exactly when the server asked for none. -/
theorem OnlinePlan.delayedSyncDue_eq_ok {plan : OnlinePlan} {nowMs : Nat}
    {delayedAfterMs due : Option Nat}
    (hdue : plan.delayedSyncDue nowMs delayedAfterMs = .ok due) :
    due = delayedAfterMs.map (fun delay => nowMs + plan.clampDelayedSync delay) := by
  cases delayedAfterMs with
  | none =>
      simp only [delayedSyncDue, Except.ok.injEq] at hdue
      simp [← hdue]
  | some delay =>
      obtain ⟨value, hvalue, hreturn⟩ := bind_eq_ok_iff.mp hdue
      simp only [pure, Except.pure, Except.ok.injEq] at hreturn
      simp [← hreturn, checkedDue_eq_ok hvalue]

namespace OnlineMachine

def new (plan : OnlinePlan) : OnlineMachine where
  plan := plan
  state := .stopped
  heartbeatIntervalMs := plan.initialHeartbeatMs
  nextHeartbeatMs := none
  nextDelayedSyncMs := none
  heartbeatInFlight := false
  delayedSyncInFlight := false

/-- The earliest scheduled continuity deadline for an online generation. -/
def nextDueMs (machine : OnlineMachine) : Option Nat :=
  if machine.state.isOnline then
    let heartbeat := if machine.heartbeatInFlight then none else machine.nextHeartbeatMs
    let delayed := if machine.delayedSyncInFlight then none else machine.nextDelayedSyncMs
    [heartbeat, delayed].reduceOption.min?
  else
    none

def clearSchedule (machine : OnlineMachine) : OnlineMachine :=
  { machine with
    nextHeartbeatMs := none
    nextDelayedSyncMs := none
    heartbeatIntervalMs := machine.plan.initialHeartbeatMs
    heartbeatInFlight := false
    delayedSyncInFlight := false }

def start (machine : OnlineMachine) (generation : OnlineGeneration) :
    OnlineMachine × Except OnlineTransitionError OnlineDirective :=
  match machine.state with
  | .stopped | .protectiveOffline _ =>
      ({ machine.clearSchedule with state := .synchronizing generation },
        .ok (.dispatch generation (.initialSync machine.plan.initialSync)))
  | _ => (machine, .error .rejected)

def enterOnline (machine : OnlineMachine) (generation : OnlineGeneration) (nowMs : Nat) :
    OnlineMachine × Except OnlineTransitionError OnlineDirective :=
  match checkedDue nowMs machine.plan.initialHeartbeatMs with
  | .error error => (machine, .error error)
  | .ok due =>
      ({ machine with nextHeartbeatMs := some due, state := .online generation },
        .ok (.enteredOnline generation))

def initialSyncSucceeded (machine : OnlineMachine) (generation : OnlineGeneration)
    (nowMs : Nat) (delayedAfterMs : Option Nat) :
    OnlineMachine × Except OnlineTransitionError OnlineDirective :=
  if machine.state = .synchronizing generation then
    match machine.plan.delayedSyncDue nowMs delayedAfterMs with
    | .error error => (machine, .error error)
    | .ok due =>
        ({ machine with nextDelayedSyncMs := due, state := .bootstrapping generation },
          .ok (.dispatch generation (.securityBootstrap machine.plan.securityBootstrap)))
  else
    (machine, .error .rejected)

def securityBootstrapSucceeded (machine : OnlineMachine) (generation : OnlineGeneration)
    (nowMs : Nat) : OnlineMachine × Except OnlineTransitionError OnlineDirective :=
  if machine.state = .bootstrapping generation then
    match machine.plan.statusConfirmation with
    | some action =>
        ({ machine with state := .confirming generation },
          .ok (.dispatch generation (.statusConfirmation action)))
    | none => machine.enterOnline generation nowMs
  else
    (machine, .error .rejected)

def statusConfirmationCompleted (machine : OnlineMachine) (generation : OnlineGeneration)
    (nowMs : Nat) : OnlineMachine × Except OnlineTransitionError OnlineDirective :=
  if machine.state = .confirming generation then
    machine.enterOnline generation nowMs
  else
    (machine, .error .rejected)

def heartbeatDue (machine : OnlineMachine) (nowMs : Nat) : Bool :=
  !machine.heartbeatInFlight && machine.nextHeartbeatMs.any (fun due => due ≤ nowMs)

def delayedSyncIsDue (machine : OnlineMachine) (nowMs : Nat) : Bool :=
  !machine.delayedSyncInFlight && machine.nextDelayedSyncMs.any (fun due => due ≤ nowMs)

/-- Emits all currently due scheduled work: the heartbeat slot, then the
delayed-sync slot. -/
def pollDue (machine : OnlineMachine) (nowMs : Nat) :
    OnlineMachine × Option OnlineDirective × Option OnlineDirective :=
  match machine.state with
  | .online generation =>
      let heartbeat := machine.heartbeatDue nowMs
      let delayed := machine.delayedSyncIsDue nowMs
      ({ machine with
          heartbeatInFlight := machine.heartbeatInFlight || heartbeat
          delayedSyncInFlight := machine.delayedSyncInFlight || delayed },
        if heartbeat then
          some (.dispatch generation (.businessHeartbeat machine.plan.businessHeartbeat))
        else none,
        if delayed then
          some (.dispatch generation (.delayedSync machine.plan.delayedSync))
        else none)
  | _ => (machine, none, none)

def heartbeatCompleted (machine : OnlineMachine) (generation : OnlineGeneration)
    (nowMs : Nat) (requestedIntervalMs : Option Nat) :
    OnlineMachine × Except OnlineTransitionError Unit :=
  if machine.state = .online generation ∧ machine.heartbeatInFlight = true then
    let interval := requestedIntervalMs.elim machine.heartbeatIntervalMs
      machine.plan.clampHeartbeat
    -- the interval is stored before the deadline is computed
    let machine := { machine with heartbeatIntervalMs := interval }
    match checkedDue nowMs interval with
    | .error error => (machine, .error error)
    | .ok due =>
        ({ machine with nextHeartbeatMs := some due, heartbeatInFlight := false }, .ok ())
  else
    (machine, .error .rejected)

def delayedSyncCompleted (machine : OnlineMachine) (generation : OnlineGeneration)
    (nowMs : Nat) (delayedAfterMs : Option Nat) :
    OnlineMachine × Except OnlineTransitionError Unit :=
  if machine.state = .online generation ∧ machine.delayedSyncInFlight = true then
    match machine.plan.delayedSyncDue nowMs delayedAfterMs with
    | .error error => (machine, .error error)
    | .ok due =>
        ({ machine with nextDelayedSyncMs := due, delayedSyncInFlight := false }, .ok ())
  else
    (machine, .error .rejected)

def requiredActionFailed (machine : OnlineMachine) (generation : OnlineGeneration) :
    OnlineMachine × Except OnlineTransitionError OnlineDirective :=
  match machine.state with
  | .stopped | .protectiveOffline _ => (machine, .error .rejected)
  | state =>
      if generationOf state = some generation then
        ({ machine.clearSchedule with state := .protectiveOffline generation },
          .ok (.protectiveOffline generation))
      else
        (machine, .error .rejected)

def stop (machine : OnlineMachine) : OnlineMachine :=
  { machine.clearSchedule with state := .stopped }

end OnlineMachine
end Domain
end Lirvena
