import Lirvena.Ceylith.Requests

/-!
# Action flows

A server directs a flow by updates: each is an action that the client is to execute
or the end of the flow.  An update is taken from an authenticated frame when it
belongs to the flow and has not expired.
-/

namespace Lirvena
namespace Ceylith

open Lib

/-- One numeric envelope mark. -/
structure ActionMark where
  slot : UInt16
  value : List UInt8
  deriving DecidableEq

/-- Authenticated, bounded action for the current account transport. -/
structure ActionDirective where
  actionId : ActionId
  routeShard : List UInt8
  bodyShard : List UInt8
  envelopeContract : UInt32
  marks : List ActionMark
  expectedBodyDigest : Digest32
  transportEpoch : UInt64
  responsePolicy : UInt32
  timeoutMs : UInt32
  actionDigest : Digest32
  delayMs : UInt32

/-- Next authenticated state of one action flow. -/
inductive ActionFlowUpdate where
  | action (directive : ActionDirective)
  | complete

def inputSlotA : UInt32 := 3901

def inputSlotB : UInt32 := 3902

/-- One slot of the inputs; every refusal is a protocol error. -/
def input (slot : UInt32) (value : List UInt8) : Except ClientError OpaqueSlot := do
  let id ← (OpaqueSlotId.new slot).mapError fun _ => .protocol
  (OpaqueSlot.new id value).mapError fun _ => .protocol

/-- Constructs the fixed numeric input set for one action flow. -/
def actionFlowInputs (first second : List UInt8) : Except ClientError OpaqueSlots := do
  let firstSlot ← input inputSlotA first
  let secondSlot ← input inputSlotB second
  (OpaqueSlots.new [firstSlot, secondSlot]).mapError fun _ => .protocol

def decodeMark (mark : Proto.ActionMark) : Except ClientError ActionMark := do
  let slot ← okOr .protocol (tryU16 mark.slot.toNat)
  return ⟨slot, mark.value⟩

def fixedBytes (width : Nat) (value : List UInt8) : Except ClientError (FixedBytes width) :=
  okOr .protocol (FixedBytes.ofBytes width value)

def decodeAction (value : Proto.ActionDirective) : Except ClientError ActionDirective := do
  let marks ← value.marks.mapM decodeMark
  rejectIf .protocol (maxActionMarks < marks.length)
  let actionId ← fixedBytes 16 value.actionId
  let expectedBodyDigest ← fixedBytes 32 value.expectedBodyDigest
  let actionDigest ← fixedBytes 32 value.actionDigest
  return {
    actionId := actionId
    routeShard := value.routeShard
    bodyShard := value.bodyShard
    envelopeContract := value.envelopeContract
    marks := marks
    expectedBodyDigest := expectedBodyDigest
    transportEpoch := value.transportEpoch
    responsePolicy := value.responsePolicy
    timeoutMs := value.timeoutMs
    actionDigest := actionDigest
    delayMs := value.delayMs }

/-- The update that a status and an action stand for. -/
def decodeFlowStatus (status : Int) (action : Option Proto.ActionDirective) :
    Except ClientError ActionFlowUpdate :=
  match status with
  | 1 => do
      let action ← okOr .protocol action
      let directive ← decodeAction action
      return .action directive
  | 2 => if action.isNone then .ok .complete else .error .protocol
  | _ => .error .protocol

/-- Decodes an action-flow response and binds it to the expected flow. -/
def decodeActionFlowUpdate (frame : Proto.InnerFrame) (expectedFlow : ActionFlowId)
    (nowMs : UInt64) : Except ClientError ActionFlowUpdate :=
  match frame.body with
  | some (.actionFlowUpdate update) => do
      let flowId ← fixedBytes 16 update.flowId
      rejectIf .protocol (flowId ≠ expectedFlow ∨ update.expiresAtMs ≤ nowMs)
      decodeFlowStatus update.status update.action
  | _ => .error .protocol

/-- An observation is refused without a time, with a payload that does not go with its
outcome, and above the bound on payloads. -/
theorem actionObservationRequestFor_isOk_iff (sha256 : Sha256) (admission : SessionAdmission)
    (observation : ActionObservation) :
    (∃ frame, actionObservationRequestFor sha256 admission observation = .ok frame) ↔
      observation.observedAtMs ≠ 0 ∧
        (observation.outcome = .response ↔ observation.payload ≠ []) ∧
          observation.payload.length ≤ maxActionPayloadLen := by
  have haccepted : (∃ frame, actionObservationRequestFor sha256 admission observation = .ok frame) ↔
      ¬ (observation.observedAtMs = 0 ∨
        (observation.outcome = .response ↔ observation.payload = []) ∨
        maxActionPayloadLen < observation.payload.length) := by
    unfold actionObservationRequestFor
    constructor
    · rintro ⟨frame, hframe⟩
      obtain ⟨⟨⟩, haccepted, -⟩ := bind_eq_ok_iff.mp hframe
      exact rejectIf_eq_ok_iff.mp haccepted
    · intro haccepted
      exact ⟨_, bind_eq_ok_iff.mpr ⟨(), rejectIf_eq_ok_iff.mpr haccepted, rfl⟩⟩
  rw [haccepted, not_or, not_or, not_lt]
  by_cases hresponse : observation.outcome = .response <;>
    by_cases hpayload : observation.payload = [] <;> simp [hresponse, hpayload]

end Ceylith
end Lirvena
