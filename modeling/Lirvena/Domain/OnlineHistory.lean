import Lirvena.Domain.OnlineRun

/-!
# What a run of the online machine has done

The history of a session is read off the trace alone, from operations and the
answers they received:

* the startup gates completed since the session started, in order;
* the work that was handed out and has not been completed;
* the completion times that scheduled the two continuity deadlines.

`Tracks` relates this reading to the fields of the machine.  It holds after
every run (`controller_tracks`), and the results about reachable controllers
are read from it.
-/

namespace Lirvena
namespace Domain

open Lib

/-- The gates between `start` and `online`. -/
inductive StartupGate where
  | started
  | initialSync
  | securityBootstrap
  | statusConfirmation
  deriving DecidableEq

/-- What a trace says about the session that is running at its end. -/
structure SessionHistory where
  gates : List (StartupGate × OnlineGeneration)
  heartbeatsOutstanding : Nat
  delayedSyncsOutstanding : Nat
  heartbeatArmedAt : Option Nat
  delayedSyncArmedAt : Option Nat
  deriving DecidableEq

namespace SessionHistory

def empty : SessionHistory where
  gates := []
  heartbeatsOutstanding := 0
  delayedSyncsOutstanding := 0
  heartbeatArmedAt := none
  delayedSyncArmedAt := none

def pass (history : SessionHistory) (gate : StartupGate)
    (generation : OnlineGeneration) : SessionHistory :=
  { history with gates := history.gates ++ [(gate, generation)] }

/-- The number of directives in one slot of a `pollDue` answer. -/
def handedOut (slot : Option OnlineDirective) : Nat :=
  slot.elim 0 (fun _ => 1)

/-- One more entry of the trace.  A rejected operation says nothing. -/
def observe (history : SessionHistory) : OnlineOp × OnlineAnswer → SessionHistory
  | (_, .rejected) => history
  | (.start generation, _) => empty.pass .started generation
  | (.initialSyncSucceeded generation nowMs delayedAfterMs, _) =>
      { history.pass .initialSync generation with
        delayedSyncArmedAt := delayedAfterMs.map (fun _ => nowMs) }
  | (.securityBootstrapSucceeded generation nowMs, .directive (.enteredOnline _)) =>
      { history.pass .securityBootstrap generation with heartbeatArmedAt := some nowMs }
  | (.securityBootstrapSucceeded generation _, _) =>
      history.pass .securityBootstrap generation
  | (.statusConfirmationCompleted generation nowMs, _) =>
      { history.pass .statusConfirmation generation with heartbeatArmedAt := some nowMs }
  | (.pollDue _, .due heartbeat delayedSync) =>
      { history with
        heartbeatsOutstanding := history.heartbeatsOutstanding + handedOut heartbeat
        delayedSyncsOutstanding :=
          history.delayedSyncsOutstanding + handedOut delayedSync }
  | (.pollDue _, _) => history
  | (.heartbeatCompleted _ nowMs _, _) =>
      { history with
        heartbeatsOutstanding := history.heartbeatsOutstanding - 1
        heartbeatArmedAt := some nowMs }
  | (.delayedSyncCompleted _ nowMs delayedAfterMs, _) =>
      { history with
        delayedSyncsOutstanding := history.delayedSyncsOutstanding - 1
        delayedSyncArmedAt := delayedAfterMs.map (fun _ => nowMs) }
  | (.requiredActionFailed _, _) => empty
  | (.stop, _) => empty

def ofTrace (trace : List (OnlineOp × OnlineAnswer)) : SessionHistory :=
  trace.foldl observe empty

@[simp] theorem ofTrace_nil : ofTrace [] = empty := rfl

@[simp] theorem ofTrace_append_singleton (trace : List (OnlineOp × OnlineAnswer))
    (entry : OnlineOp × OnlineAnswer) :
    ofTrace (trace ++ [entry]) = (ofTrace trace).observe entry := by
  simp [ofTrace]

@[simp] theorem observe_rejected (history : SessionHistory) (op : OnlineOp) :
    history.observe (op, .rejected) = history := by
  cases op <;> rfl

end SessionHistory

/-- The gates that stand behind each state of the controller. -/
def OnlinePlan.gatesBefore (plan : OnlinePlan) :
    OnlineState → List (StartupGate × OnlineGeneration)
  | .stopped | .protectiveOffline _ => []
  | .synchronizing generation => [(.started, generation)]
  | .bootstrapping generation => [(.started, generation), (.initialSync, generation)]
  | .confirming generation =>
      [(.started, generation), (.initialSync, generation),
        (.securityBootstrap, generation)]
  | .online generation =>
      [(.started, generation), (.initialSync, generation),
          (.securityBootstrap, generation)] ++
        if plan.statusConfirmation.isSome then [(.statusConfirmation, generation)] else []

/-- The states in which the initial synchronization has succeeded. -/
def OnlineState.isSynchronized : OnlineState → Bool
  | .bootstrapping _ | .confirming _ | .online _ => true
  | _ => false

/-- A deadline is the time of the completion that scheduled it plus an allowed
interval; without a deadline nothing is claimed. -/
def Scheduled (allowed : Nat → Prop) (armedAt due : Option Nat) : Prop :=
  ∀ deadline, due = some deadline →
    ∃ completedAt interval, armedAt = some completedAt ∧ allowed interval ∧
      deadline = completedAt + interval

theorem Scheduled.none {allowed : Nat → Prop} {armedAt : Option Nat} :
    Scheduled allowed armedAt none := by
  intro deadline hdue
  cases hdue

theorem Scheduled.armed {allowed : Nat → Prop} {nowMs interval : Nat}
    (hallowed : allowed interval) :
    Scheduled allowed (some nowMs) (some (nowMs + interval)) := by
  intro deadline hdue
  cases hdue
  exact ⟨nowMs, interval, rfl, hallowed, rfl⟩

theorem Scheduled.delayedSync (plan : OnlinePlan) (nowMs : Nat)
    (delayedAfterMs : Option Nat) :
    Scheduled plan.DelayedSyncInterval (delayedAfterMs.map (fun _ => nowMs))
      (delayedAfterMs.map (fun delay => nowMs + plan.clampDelayedSync delay)) := by
  cases delayedAfterMs with
  | none => exact Scheduled.none
  | some delay => exact Scheduled.armed (plan.clampDelayedSync_interval delay)

namespace OnlineMachine

/-- The relation between the history of a run of `plan` and the machine it
leads to. -/
structure Tracks (plan : OnlinePlan) (history : SessionHistory)
    (machine : OnlineMachine) : Prop where
  plan_eq : machine.plan = plan
  gates_eq : history.gates = plan.gatesBefore machine.state
  confirming_plan : ∀ generation, machine.state = .confirming generation →
    plan.statusConfirmation.isSome
  interval_allowed : plan.HeartbeatInterval machine.heartbeatIntervalMs
  heartbeat_offline : machine.state.isOnline = false →
    machine.nextHeartbeatMs = none ∧ machine.heartbeatInFlight = false
  delayedSync_offline : machine.state.isOnline = false →
    machine.delayedSyncInFlight = false
  delayedSync_unsynchronized : machine.state.isSynchronized = false →
    machine.nextDelayedSyncMs = none
  heartbeats_eq : history.heartbeatsOutstanding = machine.heartbeatInFlight.toNat
  delayedSyncs_eq : history.delayedSyncsOutstanding = machine.delayedSyncInFlight.toNat
  heartbeat_scheduled :
    Scheduled plan.HeartbeatInterval history.heartbeatArmedAt machine.nextHeartbeatMs
  delayedSync_scheduled :
    Scheduled plan.DelayedSyncInterval history.delayedSyncArmedAt
      machine.nextDelayedSyncMs

namespace Tracks

variable {plan : OnlinePlan} {history : SessionHistory} {machine : OnlineMachine}

/-- A cleared schedule in an idle state tracks the empty history. -/
theorem cleared (htracks : Tracks plan history machine) {state : OnlineState}
    {gates : List (StartupGate × OnlineGeneration)}
    (hgates : gates = plan.gatesBefore state)
    (hoffline : state.isSynchronized = false) :
    Tracks plan { SessionHistory.empty with gates := gates }
      { machine.clearSchedule with state := state } where
  plan_eq := htracks.plan_eq
  gates_eq := hgates
  confirming_plan generation hstate := by
    change state = _ at hstate
    simp [hstate, OnlineState.isSynchronized] at hoffline
  interval_allowed := by
    change plan.HeartbeatInterval machine.plan.initialHeartbeatMs
    rw [htracks.plan_eq]
    exact plan.initialHeartbeat_interval
  heartbeat_offline _ := ⟨rfl, rfl⟩
  delayedSync_offline _ := rfl
  delayedSync_unsynchronized _ := rfl
  heartbeats_eq := rfl
  delayedSyncs_eq := rfl
  heartbeat_scheduled := Scheduled.none
  delayedSync_scheduled := Scheduled.none

/-- Entering online arms the first heartbeat and leaves the delayed sync as it
was scheduled. -/
theorem entered (htracks : Tracks plan history machine)
    {generation : OnlineGeneration} {gates : List (StartupGate × OnlineGeneration)}
    {nowMs : Nat} (hgates : gates = plan.gatesBefore (.online generation)) :
    Tracks plan { history with gates := gates, heartbeatArmedAt := some nowMs }
      (machine.entered generation nowMs) where
  plan_eq := htracks.plan_eq
  gates_eq := hgates
  confirming_plan other hstate := by cases hstate
  interval_allowed := htracks.interval_allowed
  heartbeat_offline hstate := by cases hstate
  delayedSync_offline hstate := by cases hstate
  delayedSync_unsynchronized hstate := by cases hstate
  heartbeats_eq := htracks.heartbeats_eq
  delayedSyncs_eq := htracks.delayedSyncs_eq
  heartbeat_scheduled := by
    change Scheduled _ _ (some (nowMs + machine.plan.initialHeartbeatMs))
    rw [htracks.plan_eq]
    exact Scheduled.armed plan.initialHeartbeat_interval
  delayedSync_scheduled := htracks.delayedSync_scheduled

theorem heartbeatInterval_allowed (htracks : Tracks plan history machine)
    (requestedIntervalMs : Option Nat) :
    plan.HeartbeatInterval (machine.heartbeatInterval requestedIntervalMs) := by
  cases requestedIntervalMs with
  | none => exact htracks.interval_allowed
  | some requested =>
      change plan.HeartbeatInterval (machine.plan.clampHeartbeat requested)
      rw [htracks.plan_eq]
      exact plan.clampHeartbeat_interval requested

end Tracks

theorem tracks_new (plan : OnlinePlan) :
    Tracks plan SessionHistory.empty (OnlineMachine.new plan) where
  plan_eq := rfl
  gates_eq := rfl
  confirming_plan generation hstate := by cases hstate
  interval_allowed := plan.initialHeartbeat_interval
  heartbeat_offline _ := ⟨rfl, rfl⟩
  delayedSync_offline _ := rfl
  delayedSync_unsynchronized _ := rfl
  heartbeats_eq := rfl
  delayedSyncs_eq := rfl
  heartbeat_scheduled := Scheduled.none
  delayedSync_scheduled := Scheduled.none

/-- A slot hands out one directive exactly when its flag was clear and its work
is due. -/
theorem outstanding_poll (inFlight due : Bool) (request : OnlineDirective)
    (hclear : due = true → inFlight = false) :
    inFlight.toNat + SessionHistory.handedOut (if due then some request else none) =
      (inFlight || due).toNat := by
  cases due with
  | false => simp [SessionHistory.handedOut]
  | true => simp [SessionHistory.handedOut, hclear rfl]

/-- One operation keeps the relation. -/
theorem tracks_step {plan : OnlinePlan} {history : SessionHistory}
    {machine next : OnlineMachine} {op : OnlineOp} {answer : OnlineAnswer}
    (htracks : Tracks plan history machine) (hstep : OnlineStep machine op next answer) :
    Tracks plan (history.observe (op, answer)) next := by
  cases hstep with
  | rejected op =>
      rw [SessionHistory.observe_rejected]
      exact htracks
  | started generation hidle =>
      exact htracks.cleared rfl rfl
  | initialSync generation nowMs delayedAfterMs hstate =>
      have hoffline : machine.state.isOnline = false := by rw [hstate]; rfl
      exact {
        htracks with
        gates_eq := by
          change history.gates ++ _ = _
          rw [htracks.gates_eq, hstate]
          rfl
        confirming_plan := fun other hother => by cases hother
        heartbeat_offline := fun _ => htracks.heartbeat_offline hoffline
        delayedSync_offline := fun _ => htracks.delayedSync_offline hoffline
        delayedSync_unsynchronized := fun hother => by cases hother
        delayedSync_scheduled := by
          rw [htracks.plan_eq]
          exact Scheduled.delayedSync plan nowMs delayedAfterMs }
  | bootstrapConfirming generation nowMs action hstate hplan =>
      have hoffline : machine.state.isOnline = false := by rw [hstate]; rfl
      exact {
        htracks with
        gates_eq := by
          change history.gates ++ _ = _
          rw [htracks.gates_eq, hstate]
          rfl
        confirming_plan := fun _ _ => by
          rw [← htracks.plan_eq, hplan]
          rfl
        heartbeat_offline := fun _ => htracks.heartbeat_offline hoffline
        delayedSync_offline := fun _ => htracks.delayedSync_offline hoffline
        delayedSync_unsynchronized := fun hother => by cases hother }
  | bootstrapOnline generation nowMs hstate hplan =>
      refine htracks.entered ?_
      change history.gates ++ _ = _
      rw [htracks.gates_eq, hstate]
      rw [htracks.plan_eq] at hplan
      simp [OnlinePlan.gatesBefore, hplan]
  | confirmed generation nowMs hstate =>
      refine htracks.entered ?_
      change history.gates ++ _ = _
      rw [htracks.gates_eq, hstate]
      simp [OnlinePlan.gatesBefore, htracks.confirming_plan generation hstate]
  | polledIdle nowMs => exact htracks
  | polled generation nowMs hstate =>
      -- a directive is handed out together with the flag that records it
      have honline : machine.state.isOnline = true := by rw [hstate]; rfl
      exact {
        htracks with
        heartbeat_offline := fun hoffline => by simp [honline] at hoffline
        delayedSync_offline := fun hoffline => by simp [honline] at hoffline
        heartbeats_eq := by
          change history.heartbeatsOutstanding + _ = _
          rw [htracks.heartbeats_eq]
          exact outstanding_poll _ _ _ (fun hdue => by simp_all [heartbeatDue])
        delayedSyncs_eq := by
          change history.delayedSyncsOutstanding + _ = _
          rw [htracks.delayedSyncs_eq]
          exact outstanding_poll _ _ _ (fun hdue => by simp_all [delayedSyncIsDue]) }
  | heartbeat generation nowMs requestedIntervalMs hstate hflight =>
      have honline : machine.state.isOnline = true := by rw [hstate]; rfl
      have hallowed := htracks.heartbeatInterval_allowed requestedIntervalMs
      exact {
        htracks with
        interval_allowed := hallowed
        heartbeat_offline := fun hoffline => by simp [honline] at hoffline
        heartbeats_eq := by
          change history.heartbeatsOutstanding - 1 = 0
          rw [htracks.heartbeats_eq, hflight]
          rfl
        heartbeat_scheduled := Scheduled.armed hallowed }
  | heartbeatOverflow generation nowMs requestedIntervalMs hstate hflight =>
      -- the rejection has stored the interval, and nothing else
      exact {
        htracks with
        interval_allowed := htracks.heartbeatInterval_allowed requestedIntervalMs }
  | delayedSync generation nowMs delayedAfterMs hstate hflight =>
      have hsynchronized : machine.state.isSynchronized = true := by rw [hstate]; rfl
      exact {
        htracks with
        delayedSync_offline := fun _ => rfl
        delayedSync_unsynchronized := fun hother => by simp [hsynchronized] at hother
        delayedSyncs_eq := by
          change history.delayedSyncsOutstanding - 1 = 0
          rw [htracks.delayedSyncs_eq, hflight]
          rfl
        delayedSync_scheduled := by
          rw [htracks.plan_eq]
          exact Scheduled.delayedSync plan nowMs delayedAfterMs }
  | failed generation hstate => exact htracks.cleared rfl rfl
  | stopped => exact htracks.cleared rfl rfl

/-- Every run of a fresh controller is tracked by its own trace. -/
theorem controller_tracks (plan : OnlinePlan) (ops : List OnlineOp) :
    Tracks plan
      (SessionHistory.ofTrace (controller.trace (OnlineMachine.new plan) ops))
      (controller.run (OnlineMachine.new plan) ops) := by
  refine controller.history_run
    (fun trace machine => Tracks plan (SessionHistory.ofTrace trace) machine)
    (tracks_new plan) ?_ ops
  intro trace machine op htracks
  rw [SessionHistory.ofTrace_append_singleton]
  exact tracks_step htracks (apply_step machine op)

section Reachable

variable {plan : OnlinePlan} {history : SessionHistory} {machine : OnlineMachine}

theorem Tracks.online_of_heartbeat (htracks : Tracks plan history machine)
    (hpending : machine.nextHeartbeatMs.isSome = true ∨ machine.heartbeatInFlight = true) :
    machine.state.isOnline = true := by
  by_contra hoffline
  obtain ⟨hdue, hflight⟩ := htracks.heartbeat_offline (by simpa using hoffline)
  simp [hdue, hflight] at hpending

theorem Tracks.online_of_delayedSync (htracks : Tracks plan history machine)
    (hflight : machine.delayedSyncInFlight = true) : machine.state.isOnline = true := by
  by_contra hoffline
  have hclear := htracks.delayedSync_offline (by simpa using hoffline)
  simp [hclear] at hflight

theorem Tracks.synchronized_of_delayedSync (htracks : Tracks plan history machine)
    (hdue : machine.nextDelayedSyncMs.isSome = true) :
    machine.state.isSynchronized = true := by
  by_contra hunsynchronized
  have hclear := htracks.delayedSync_unsynchronized (by simpa using hunsynchronized)
  simp [hclear] at hdue

theorem online_of_nextDueMs (hdue : machine.nextDueMs.isSome = true) :
    machine.state.isOnline = true := by
  by_contra hoffline
  simp [nextDueMs, hoffline] at hdue

end Reachable

/-- What holds of every controller that a run of operations reaches: an online
generation has passed exactly its startup gates in order, continuity work
exists only online (the deadline of the first delayed sync is recorded by the
initial synchronization already, and waits for the startup gates), at most one
task of each kind is outstanding, and every deadline is its completion's time
plus an interval of the plan. -/
theorem controller_continuity (plan : OnlinePlan) (ops : List OnlineOp) :
    let history := SessionHistory.ofTrace (controller.trace (OnlineMachine.new plan) ops)
    let machine := controller.run (OnlineMachine.new plan) ops
    (∀ generation, machine.state = .online generation →
      history.gates =
        [(.started, generation), (.initialSync, generation),
          (.securityBootstrap, generation)] ++
          if plan.statusConfirmation.isSome then [(.statusConfirmation, generation)]
          else []) ∧
    (machine.heartbeatInFlight = true ∨ machine.delayedSyncInFlight = true ∨
        machine.nextHeartbeatMs.isSome = true ∨ machine.nextDueMs.isSome = true →
      machine.state.isOnline = true) ∧
    (machine.nextDelayedSyncMs.isSome = true → machine.state.isSynchronized = true) ∧
    history.heartbeatsOutstanding ≤ 1 ∧ history.delayedSyncsOutstanding ≤ 1 ∧
    (∀ due, machine.nextHeartbeatMs = some due →
      ∃ completedAt interval, history.heartbeatArmedAt = some completedAt ∧
        plan.HeartbeatInterval interval ∧ due = completedAt + interval) ∧
    (∀ due, machine.nextDelayedSyncMs = some due →
      ∃ completedAt interval, history.delayedSyncArmedAt = some completedAt ∧
        plan.DelayedSyncInterval interval ∧ due = completedAt + interval) := by
  intro history machine
  have htracks : Tracks plan history machine := controller_tracks plan ops
  refine ⟨?_, ?_, htracks.synchronized_of_delayedSync, ?_, ?_,
    htracks.heartbeat_scheduled, htracks.delayedSync_scheduled⟩
  · intro generation hstate
    rw [htracks.gates_eq, hstate]
    rfl
  · rintro (hflight | hflight | hdue | hdue)
    · exact htracks.online_of_heartbeat (Or.inr hflight)
    · exact htracks.online_of_delayedSync hflight
    · exact htracks.online_of_heartbeat (Or.inl hdue)
    · exact online_of_nextDueMs hdue
  · rw [htracks.heartbeats_eq]
    exact Bool.toNat_le _
  · rw [htracks.delayedSyncs_eq]
    exact Bool.toNat_le _

theorem length_repeated (value : UInt8) : (List.replicate 16 value).length = 16 :=
  List.length_replicate

/-- Sixteen equal bytes, as the plans of the test suite name their actions. -/
def repeatedId (value : UInt8) (hvalue : value ≠ 0) : PlanActionId where
  bytes := List.replicate 16 value
  length_eq := length_repeated value
  nonzero hzero := hvalue (List.replicate_right_injective (by decide) hzero)

/-- The test suite's plan without a status confirmation. -/
def testPlan : OnlinePlan where
  initialSync := repeatedId 1 (by decide)
  delayedSync := repeatedId 2 (by decide)
  securityBootstrap := repeatedId 3 (by decide)
  statusConfirmation := none
  businessHeartbeat := repeatedId 5 (by decide)
  initialHeartbeatMs := 270000
  minimumHeartbeatMs := 120000
  maximumHeartbeatMs := 500000
  minimumDelayedSyncMs := 60000
  maximumDelayedSyncMs := 3600000
  valid := by decide

/-- After `start` and the initial synchronization a delayed-sync deadline
exists while the machine is still bootstrapping. -/
theorem delayedSync_deadline_before_online :
    let generation : OnlineGeneration := ⟨7, by decide⟩
    let machine := controller.run (OnlineMachine.new testPlan)
      [.start generation, .initialSyncSucceeded generation 10000 (some 30000)]
    machine.nextDelayedSyncMs = some 70000 ∧ machine.state = .bootstrapping generation := by
  decide

end OnlineMachine
end Domain
end Lirvena
