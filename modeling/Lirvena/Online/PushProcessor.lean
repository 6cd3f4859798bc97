import Lirvena.Online.InfoSync
import Lirvena.Online.PushPlan

/-!
# The push processor

One authenticated push is handed to the behavior that the plan selects for its
route.  A push with messages is accepted only when the caller's queue still has
room: one slot for a single message, and as many slots as embedded messages for
a synchronization push.
-/

namespace Lirvena
namespace Online

open Lib

structure PairEnvelope where
  first : Nat
  second : Nat
  deriving DecidableEq

/-- Bounded public fields of a protective-offline push. -/
structure ProtectiveNotice where
  title : String
  detail : String
  account : Nat
  reasonCode : Int
  controlCode : Int
  sessionCode : Int
  deriving DecidableEq

/-- The codecs behind the behaviors: the protobuf library, and the compiled
acknowledgements of the configuration and legacy video pushes. -/
structure PushCodec where
  packet : List UInt8 → Option Packet
  pair : List UInt8 → Option PairEnvelope
  encodePair : PairEnvelope → List UInt8
  protective : List UInt8 → Option ProtectiveNotice
  configAck : List UInt8 → Option (List UInt8)
  legacyVideoAck : List UInt8 → Except OnlinePacketError (Option (List UInt8))

/-- Result of one compiled push primitive. -/
inductive PushOutcome where
  | ack (route : String) (body : List UInt8)
  | observed
  | protectiveOffline (notice : ProtectiveNotice)
  | message (body : List UInt8)
  | infoSync (outcome : InfoSyncPushOutcome)

def pairAck (codec : PushCodec) (body : List UInt8) (expected : Nat) :
    Except OnlinePacketError (List UInt8) := do
  let input ← okOr .rejected (codec.pair body)
  rejectIf .rejected (input.first ≠ expected)
  return codec.encodePair input

def protectiveNotice (codec : PushCodec) (body : List UInt8) :
    Except OnlinePacketError ProtectiveNotice := do
  let input ← okOr .rejected (codec.protective body)
  rejectIf .rejected (4 * 1024 < input.title.utf8ByteSize ∨
    4 * 1024 < input.detail.utf8ByteSize)
  return input

def responseRoute (entry : PushPlanEntry) : Except OnlinePacketError String :=
  okOr .rejected entry.responseRoute

/-- The behaviors that read only the entry and the body.  `apply` keeps
`infoSyncState` to itself. -/
def applyStateless (codec : PushCodec) (entry : PushPlanEntry) (body : List UInt8)
    (availableMessageSlots availableMessageBytes : Nat) :
    Except OnlinePacketError PushOutcome :=
  match entry.behavior with
  | .echoBody => do return .ack (← responseRoute entry) body
  | .protobufPairAck => do
      return .ack (← responseRoute entry) (← pairAck codec body entry.parameter.toNat)
  | .configAck => do
      return .ack (← responseRoute entry) (← okOr .rejected (codec.configAck body))
  | .observe | .infoSyncState => .ok .observed
  | .protectiveOffline => do return .protectiveOffline (← protectiveNotice codec body)
  | .message =>
      if availableMessageSlots ≠ 0 ∧ body.length ≤ availableMessageBytes then
        .ok (.message body)
      else
        .error .rejected
  | .legacyVideoAck => do
      match ← codec.legacyVideoAck body with
      | some ack => return .ack (← responseRoute entry) ack
      | none => return .observed

/-- Stateful executor for the plan's push primitives. -/
structure PushProcessor where
  infoSync : InfoSyncPushState

def PushProcessor.new : PushProcessor where
  infoSync := .new

/-- Applies one authenticated push in place, without exceeding the caller's queue capacity. -/
def PushProcessor.apply (codec : PushCodec) (processor : PushProcessor)
    (entry : PushPlanEntry) (body : List UInt8) (sync : OnlineSyncState)
    (availableMessageSlots availableMessageBytes : Nat) :
    (PushProcessor × OnlineSyncState) × Except OnlinePacketError PushOutcome :=
  if entry.maximumBodyLen < body.length then
    ((processor, sync), .error .rejected)
  else if entry.behavior = .infoSyncState then
    let ((infoSync, sync), outcome) := applyInfoSync codec.packet body processor.infoSync sync
      availableMessageSlots availableMessageBytes
    ((⟨infoSync⟩, sync), outcome.map .infoSync)
  else
    ((processor, sync),
      applyStateless codec entry body availableMessageSlots availableMessageBytes)

variable {codec : PushCodec} {processor : PushProcessor} {entry : PushPlanEntry}
  {body : List UInt8} {sync : OnlineSyncState} {slots bytes : Nat}

theorem applyStateless_message {message : List UInt8}
    (happly : applyStateless codec entry body slots bytes = .ok (.message message)) :
    message = body ∧ slots ≠ 0 ∧ body.length ≤ bytes := by
  unfold applyStateless at happly
  split at happly
  all_goals try
    · simp only [bind_eq_ok_iff] at happly
      simp [pure, Except.pure] at happly
  · cases happly
  · cases happly
  · split at happly
    · next hroom =>
        cases happly
        exact ⟨rfl, hroom⟩
    · cases happly
  · obtain ⟨ack, -, happly⟩ := bind_eq_ok_iff.mp happly
    cases ack with
    | none => cases happly
    | some ack =>
        obtain ⟨_, -, happly⟩ := bind_eq_ok_iff.mp happly
        cases happly

theorem applyStateless_ne_infoSync {outcome : InfoSyncPushOutcome} :
    applyStateless codec entry body slots bytes ≠ .ok (.infoSync outcome) := by
  intro happly
  unfold applyStateless at happly
  split at happly
  all_goals try
    · simp only [bind_eq_ok_iff] at happly
      simp [pure, Except.pure] at happly
  · cases happly
  · cases happly
  · split at happly
    · cases happly
    · cases happly
  · obtain ⟨ack, -, happly⟩ := bind_eq_ok_iff.mp happly
    cases ack with
    | none => cases happly
    | some ack =>
        obtain ⟨_, -, happly⟩ := bind_eq_ok_iff.mp happly
        cases happly

/-- An outcome is one of the stateless behaviors, or that of a merged packet. -/
theorem PushProcessor.apply_eq_ok {outcome : PushOutcome}
    (happly : (processor.apply codec entry body sync slots bytes).2 = .ok outcome) :
    applyStateless codec entry body slots bytes = .ok outcome ∨
      ∃ merged, outcome = .infoSync merged ∧
        (applyInfoSync codec.packet body processor.infoSync sync slots bytes).2 = .ok merged := by
  unfold PushProcessor.apply at happly
  split at happly
  · cases happly
  split at happly
  · obtain ⟨merged, hmerged, houtcome⟩ := map_eq_ok_iff.mp happly
    exact .inr ⟨merged, houtcome.symm, hmerged⟩
  · exact .inl happly

/-- A single message is accepted only into a free slot and free bytes. -/
theorem PushProcessor.apply_message {message : List UInt8}
    (happly : (processor.apply codec entry body sync slots bytes).2 = .ok (.message message)) :
    slots ≠ 0 ∧ message.length ≤ bytes := by
  rcases apply_eq_ok happly with hstateless | ⟨merged, hmerged, -⟩
  · obtain ⟨rfl, hslots, hbytes⟩ := applyStateless_message hstateless
    exact ⟨hslots, hbytes⟩
  · cases hmerged

/-- The messages of a synchronization push are accepted only into free slots and
free bytes, each counted as one. -/
theorem PushProcessor.apply_infoSync {outcome : InfoSyncPushOutcome}
    (happly : (processor.apply codec entry body sync slots bytes).2 = .ok (.infoSync outcome)) :
    outcome.messages.length ≤ slots ∧ (outcome.messages.map List.length).sum ≤ bytes := by
  rcases apply_eq_ok happly with hstateless | ⟨merged, hmerged, hinfoSync⟩
  · exact absurd hstateless applyStateless_ne_infoSync
  · cases hmerged
    exact applyInfoSync_messages hinfoSync

end Online
end Lirvena
