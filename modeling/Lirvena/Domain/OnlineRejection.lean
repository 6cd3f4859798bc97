import Lirvena.Domain.OnlineHistory

/-!
# What a rejected operation leaves behind

Every operation of the controller guards its state, and all but one of them
compute their deadline before they write a field, so a rejection leaves the
machine as it was.  `heartbeatCompleted` stores the interval that the server
asked for first.  The condition under which that write survives a rejection is
`LosesInterval`.
-/

namespace Lirvena
namespace Domain
namespace OnlineMachine

open Lib

/-- A heartbeat completion that passes its guards and asks for a new interval
whose deadline does not fit a `u64`: the interval in force is lost. -/
def LosesInterval (machine : OnlineMachine) : OnlineOp → Prop
  | .heartbeatCompleted generation nowMs (some requestedMs) =>
      machine.state = .online generation ∧ machine.heartbeatInFlight = true ∧
        u64Bound ≤ nowMs + machine.plan.clampHeartbeat requestedMs ∧
        machine.plan.clampHeartbeat requestedMs ≠ machine.heartbeatIntervalMs
  | _ => False

/-- A rejection writes no field but the heartbeat interval. -/
theorem rejected_frame {machine next : OnlineMachine} {op : OnlineOp}
    (hstep : OnlineStep machine op next .rejected) :
    next = { machine with heartbeatIntervalMs := next.heartbeatIntervalMs } := by
  cases hstep with
  | rejected op => rfl
  | heartbeatOverflow generation nowMs requestedIntervalMs hstate hflight => rfl

/-- Only a guarded heartbeat completion can write the interval and be rejected. -/
theorem rejected_step_cases {machine next : OnlineMachine} {op : OnlineOp}
    (hstep : OnlineStep machine op next .rejected) :
    next = machine ∨
      ∃ generation nowMs requestedIntervalMs,
        op = .heartbeatCompleted generation nowMs requestedIntervalMs ∧
          machine.state = .online generation ∧ machine.heartbeatInFlight = true := by
  cases hstep with
  | rejected op => exact Or.inl rfl
  | heartbeatOverflow generation nowMs requestedIntervalMs hstate hflight =>
      exact Or.inr ⟨generation, nowMs, requestedIntervalMs, rfl, hstate, hflight⟩

theorem checkedDue_of_fits {nowMs delayMs : Nat} (hfits : nowMs + delayMs < u64Bound) :
    checkedDue nowMs delayMs = .ok (nowMs + delayMs) := by
  simp [checkedDue, checkedAddU64, hfits, okOr]

theorem checkedDue_of_overflow {nowMs delayMs : Nat}
    (hover : u64Bound ≤ nowMs + delayMs) : checkedDue nowMs delayMs = .error .rejected := by
  have hnot : ¬ nowMs + delayMs < u64Bound := by omega
  simp [checkedDue, checkedAddU64, hnot, okOr]

section HeartbeatCompletion

variable {machine : OnlineMachine} {generation : OnlineGeneration} {nowMs : Nat}
  {requestedIntervalMs : Option Nat}

/-- A guarded heartbeat completion whose deadline fits is accepted. -/
theorem apply_heartbeat_of_fits (hstate : machine.state = .online generation)
    (hflight : machine.heartbeatInFlight = true)
    (hfits : nowMs + machine.heartbeatInterval requestedIntervalMs < u64Bound) :
    (machine.apply (.heartbeatCompleted generation nowMs requestedIntervalMs)).2 =
      .completed := by
  have hdue := checkedDue_of_fits hfits
  simp only [heartbeatInterval] at hdue
  simp [apply, heartbeatCompleted, hstate, hflight, hdue, OnlineAnswer.ofCompletion]

/-- A guarded heartbeat completion whose deadline overflows is rejected behind
the write of the interval. -/
theorem apply_heartbeat_of_overflow (hstate : machine.state = .online generation)
    (hflight : machine.heartbeatInFlight = true)
    (hover : u64Bound ≤ nowMs + machine.heartbeatInterval requestedIntervalMs) :
    machine.apply (.heartbeatCompleted generation nowMs requestedIntervalMs) =
      ({ machine with
        heartbeatIntervalMs := machine.heartbeatInterval requestedIntervalMs },
        .rejected) := by
  have hdue := checkedDue_of_overflow hover
  simp only [heartbeatInterval] at hdue
  simp [apply, heartbeatCompleted, hstate, hflight, hdue, OnlineAnswer.ofCompletion,
    heartbeatInterval]

theorem losesInterval_iff (hstate : machine.state = .online generation)
    (hflight : machine.heartbeatInFlight = true) :
    machine.LosesInterval (.heartbeatCompleted generation nowMs requestedIntervalMs) ↔
      u64Bound ≤ nowMs + machine.heartbeatInterval requestedIntervalMs ∧
        machine.heartbeatInterval requestedIntervalMs ≠ machine.heartbeatIntervalMs := by
  cases requestedIntervalMs with
  | none => simp [LosesInterval, heartbeatInterval]
  | some requested => simp [LosesInterval, heartbeatInterval, hstate, hflight]

end HeartbeatCompletion

/-- A rejected operation leaves the machine as it was, unless it is a heartbeat
completion that loses the interval in force. -/
theorem apply_rejected_unchanged_iff (machine : OnlineMachine) (op : OnlineOp) :
    ((machine.apply op).2 = .rejected → (machine.apply op).1 = machine) ↔
      ¬ machine.LosesInterval op := by
  constructor
  · intro hatomic hloses
    cases op with
    | heartbeatCompleted generation nowMs requestedIntervalMs =>
        have hguards : machine.state = .online generation ∧
            machine.heartbeatInFlight = true := by
          cases requestedIntervalMs with
          | none => exact absurd hloses id
          | some requested => exact ⟨hloses.1, hloses.2.1⟩
        obtain ⟨hstate, hflight⟩ := hguards
        obtain ⟨hover, hchanged⟩ := (losesInterval_iff hstate hflight).mp hloses
        have happly := apply_heartbeat_of_overflow hstate hflight hover
        have hkept := hatomic (by rw [happly])
        rw [happly] at hkept
        exact hchanged (congrArg OnlineMachine.heartbeatIntervalMs hkept)
    | _ => exact absurd hloses id
  · intro hkeeps hrejected
    have hstep := apply_step machine op
    rw [hrejected] at hstep
    rcases rejected_step_cases hstep with hsame |
      ⟨generation, nowMs, requestedIntervalMs, rfl, hstate, hflight⟩
    · exact hsame
    by_cases hover : u64Bound ≤ nowMs + machine.heartbeatInterval requestedIntervalMs
    · -- the write happened; without a new interval it changed nothing
      have hinterval : machine.heartbeatInterval requestedIntervalMs =
          machine.heartbeatIntervalMs := by
        by_contra hchanged
        exact hkeeps ((losesInterval_iff hstate hflight).mpr ⟨hover, hchanged⟩)
      rw [apply_heartbeat_of_overflow hstate hflight hover, hinterval]
    · have hfits : nowMs + machine.heartbeatInterval requestedIntervalMs < u64Bound := by
        omega
      rw [apply_heartbeat_of_fits hstate hflight hfits] at hrejected
      cases hrejected

/-- The last representable instant: no deadline fits behind it. -/
def lastInstantMs : Nat := u64Bound - 1

/-- An online controller with a heartbeat in flight receives the completion at
the last instant, with a request for 300 seconds: the completion is rejected and
the interval of 270 seconds is gone. -/
theorem rejected_completion_stores_interval :
    let generation : OnlineGeneration := ⟨7, by decide⟩
    let machine := controller.run (OnlineMachine.new testPlan)
      [.start generation, .initialSyncSucceeded generation 10000 none,
        .securityBootstrapSucceeded generation 10000, .pollDue lastInstantMs]
    let op : OnlineOp := .heartbeatCompleted generation lastInstantMs (some 300000)
    (machine.apply op).2 = .rejected ∧ (machine.apply op).1 ≠ machine := by
  refine ⟨rfl, ?_⟩
  intro hkept
  have hinterval : 300000 = 270000 := congrArg OnlineMachine.heartbeatIntervalMs hkept
  omega

end OnlineMachine
end Domain
end Lirvena
