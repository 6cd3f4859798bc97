import Lirvena.Lib.Result

/-!
# The online plan

A signed profile supplies the action identifiers and the timing bounds of one
account's online behavior.  `OnlinePlan.new` admits a plan only when its
identifiers are pairwise distinct and every interval lies between one second
and one day, so an `OnlinePlan` carries that fact as a field.
-/

namespace Lirvena
namespace Domain

open Lib

def minCompiledIntervalMs : Nat := 1000

def maxCompiledIntervalMs : Nat := 24 * 60 * 60 * 1000

/-- Opaque identifier for one action: sixteen bytes that are not all zero. -/
structure PlanActionId where
  bytes : List UInt8
  length_eq : bytes.length = 16
  nonzero : bytes ≠ List.replicate 16 0
  deriving DecidableEq

/-- Non-zero identifier for one account online generation. -/
structure OnlineGeneration where
  value : Nat
  nonzero : value ≠ 0
  deriving DecidableEq

/-- Rejected signed profile online plan. -/
inductive OnlinePlanError where
  | rejected
  deriving DecidableEq, Repr

/-- Owned fields used to construct one bounded online plan. -/
structure OnlinePlanSpec where
  initialSync : PlanActionId
  delayedSync : PlanActionId
  securityBootstrap : PlanActionId
  statusConfirmation : Option PlanActionId
  businessHeartbeat : PlanActionId
  initialHeartbeatMs : Nat
  minimumHeartbeatMs : Nat
  maximumHeartbeatMs : Nat
  minimumDelayedSyncMs : Nat
  maximumDelayedSyncMs : Nat
  deriving DecidableEq

def validateRange (minimum value maximum : Nat) : Except OnlinePlanError Unit :=
  if minimum < minCompiledIntervalMs ∨ maxCompiledIntervalMs < maximum ∨
      value < minimum ∨ maximum < value then
    .error .rejected
  else
    .ok ()

theorem validateRange_eq_ok_iff {minimum value maximum : Nat} :
    validateRange minimum value maximum = .ok () ↔
      minCompiledIntervalMs ≤ minimum ∧ maximum ≤ maxCompiledIntervalMs ∧
        minimum ≤ value ∧ value ≤ maximum := by
  unfold validateRange
  split
  · next hbad => simp; omega
  · next hgood => simp; omega

/-- The loop over the plan's identifiers: `seen` is the slice before the
current index. -/
def rejectDuplicateIds (seen : List (Option PlanActionId)) :
    List (Option PlanActionId) → Except OnlinePlanError Unit
  | [] => .ok ()
  | id :: rest =>
      if id.isSome ∧ id ∈ seen then
        .error .rejected
      else
        rejectDuplicateIds (seen ++ [id]) rest

def OnlinePlanSpec.ids (spec : OnlinePlanSpec) : List (Option PlanActionId) :=
  [some spec.initialSync, some spec.delayedSync, some spec.securityBootstrap,
    spec.statusConfirmation, some spec.businessHeartbeat]

def OnlinePlanSpec.validate (spec : OnlinePlanSpec) : Except OnlinePlanError Unit := do
  rejectDuplicateIds [] spec.ids
  validateRange spec.minimumHeartbeatMs spec.initialHeartbeatMs spec.maximumHeartbeatMs
  validateRange spec.minimumDelayedSyncMs spec.minimumDelayedSyncMs
    spec.maximumDelayedSyncMs

/-- Validated, data-only online behavior. -/
structure OnlinePlan extends OnlinePlanSpec where
  valid : toOnlinePlanSpec.validate = .ok ()
  deriving DecidableEq

/-- Creates a bounded plan from opaque identifiers and timing limits. -/
def OnlinePlan.new (spec : OnlinePlanSpec) : Except OnlinePlanError OnlinePlan :=
  match h : spec.validate with
  | .ok () => .ok ⟨spec, h⟩
  | .error error => .error error

namespace OnlinePlan

def clampHeartbeat (plan : OnlinePlan) (requestedMs : Nat) : Nat :=
  max plan.minimumHeartbeatMs (min requestedMs plan.maximumHeartbeatMs)

def clampDelayedSync (plan : OnlinePlan) (requestedMs : Nat) : Nat :=
  max plan.minimumDelayedSyncMs (min requestedMs plan.maximumDelayedSyncMs)

/-- The intervals a plan allows between a completion and the next heartbeat. -/
def HeartbeatInterval (plan : OnlinePlan) (interval : Nat) : Prop :=
  plan.minimumHeartbeatMs ≤ interval ∧ interval ≤ plan.maximumHeartbeatMs

/-- The intervals a plan allows between a completion and the next delayed sync. -/
def DelayedSyncInterval (plan : OnlinePlan) (interval : Nat) : Prop :=
  plan.minimumDelayedSyncMs ≤ interval ∧ interval ≤ plan.maximumDelayedSyncMs

private theorem validate_ranges (plan : OnlinePlan) :
    validateRange plan.minimumHeartbeatMs plan.initialHeartbeatMs
        plan.maximumHeartbeatMs = .ok () ∧
      validateRange plan.minimumDelayedSyncMs plan.minimumDelayedSyncMs
        plan.maximumDelayedSyncMs = .ok () := by
  have hvalid := plan.valid
  unfold OnlinePlanSpec.validate at hvalid
  obtain ⟨_, -, hrest⟩ := bind_eq_ok_iff.mp hvalid
  obtain ⟨_, hheartbeat, hdelayed⟩ := bind_eq_ok_iff.mp hrest
  exact ⟨hheartbeat, hdelayed⟩

/-- The initial heartbeat delay of an admitted plan lies inside its own bounds. -/
theorem initialHeartbeat_interval (plan : OnlinePlan) :
    plan.HeartbeatInterval plan.initialHeartbeatMs := by
  obtain ⟨-, -, hlow, hhigh⟩ := validateRange_eq_ok_iff.mp (validate_ranges plan).1
  exact ⟨hlow, hhigh⟩

/-- The intervals of an admitted plan are of a day at most. -/
structure CompiledIntervals (plan : OnlinePlan) : Prop where
  initialHeartbeat : plan.initialHeartbeatMs ≤ maxCompiledIntervalMs
  minimumHeartbeat : plan.minimumHeartbeatMs ≤ maxCompiledIntervalMs
  maximumHeartbeat : plan.maximumHeartbeatMs ≤ maxCompiledIntervalMs
  minimumDelayedSync : plan.minimumDelayedSyncMs ≤ maxCompiledIntervalMs
  maximumDelayedSync : plan.maximumDelayedSyncMs ≤ maxCompiledIntervalMs

theorem compiledIntervals (plan : OnlinePlan) : plan.CompiledIntervals := by
  obtain ⟨hheartbeat, hdelayed⟩ := validate_ranges plan
  obtain ⟨-, hmaximum, hlow, hhigh⟩ := validateRange_eq_ok_iff.mp hheartbeat
  obtain ⟨-, hlongest, -, hshort⟩ := validateRange_eq_ok_iff.mp hdelayed
  constructor <;> omega

theorem clampHeartbeat_interval (plan : OnlinePlan) (requestedMs : Nat) :
    plan.HeartbeatInterval (plan.clampHeartbeat requestedMs) := by
  obtain ⟨hlow, hhigh⟩ := plan.initialHeartbeat_interval
  unfold HeartbeatInterval clampHeartbeat
  omega

theorem clampDelayedSync_interval (plan : OnlinePlan) (requestedMs : Nat) :
    plan.DelayedSyncInterval (plan.clampDelayedSync requestedMs) := by
  obtain ⟨-, -, -, hhigh⟩ := validateRange_eq_ok_iff.mp (validate_ranges plan).2
  unfold DelayedSyncInterval clampDelayedSync
  omega

end OnlinePlan
end Domain
end Lirvena
