import Lirvena.Lib.Ledger
import Lirvena.Message.Notices
import Lirvena.Message.RichText
import Lirvena.Online.PushProcessor

/-!
# The push runtime

Authenticated pushes become decoded events in a bounded queue.  The room of the
queue is offered to the push processor, which counts a message as one slot; a
group recall is expanded into one event for each recalled message when it is
admitted.
-/

namespace Lirvena
namespace Runtime

open Lib
open Message
open Online

def maxQueuedMessages : Nat := 256

def maxQueuedMessageBytes : Nat := 16 * 1024 * 1024

/-- One authenticated message admitted by the current generation. -/
structure DecodedMessage where
  envelope : MessageEnvelope
  richText : Option RichTextMessage
  deriving DecidableEq

/-- One authenticated event admitted by the current generation. -/
inductive DecodedPush where
  | message (message : DecodedMessage)
  | groupNotice (notice : GroupNotice) (occurredAt encodedLen : Nat)
  | groupReaction (reaction : GroupReaction) (occurredAt encodedLen : Nat)
  | groupMute (mute : GroupMute) (occurredAt encodedLen : Nat)
  | groupNameChange (change : GroupNameChange) (occurredAt encodedLen : Nat)
  | poke (poke : PokeNotice) (occurredAt encodedLen : Nat)
  | groupEssence (essence : GroupEssence) (occurredAt encodedLen : Nat)
  | privateFile (file : PrivateFileNotice) (occurredAt encodedLen : Nat)
  | groupRecall (notice : GroupRecall) (occurredAt encodedLen : Nat)
  | friendRecall (notice : FriendRecall) (occurredAt encodedLen : Nat)
  | groupRequest (signal : GroupRequestSignal) (occurredAt encodedLen : Nat)
  | friendRequest (signal : FriendRequestSignal) (encodedLen : Nat)
  deriving DecidableEq

def DecodedPush.encodedLen : DecodedPush → Nat
  | .message decoded => decoded.envelope.encodedLen
  | .groupNotice _ _ encodedLen
  | .groupReaction _ _ encodedLen
  | .groupMute _ _ encodedLen
  | .groupNameChange _ _ encodedLen
  | .poke _ _ encodedLen
  | .groupEssence _ _ encodedLen
  | .privateFile _ _ encodedLen
  | .groupRecall _ _ encodedLen
  | .friendRecall _ _ encodedLen
  | .groupRequest _ _ encodedLen
  | .friendRequest _ encodedLen => encodedLen

/-- The library functions behind the decoders of the push runtime. -/
structure PushWire where
  message : MessageWire
  notice : NoticeWire
  richText : RichTextWire
  codec : PushCodec

inductive PushRuntimeError where
  | other (text : String)
  | packet (error : OnlinePacketError)
  | message (error : MessageDecodeError)
  deriving DecidableEq

def byteCountOverflow : PushRuntimeError :=
  .other "message queue byte count overflow"

def limitExceeded : PushRuntimeError :=
  .other "message queue limit exceeded"

/-! ## Decoding an envelope -/

/-- What one new envelope is queued as: one event, or all recalls of a notice. -/
inductive DecodedEnvelope where
  | event (event : DecodedPush)
  | groupRecalls (recalls : List GroupRecall)
  deriving DecidableEq

/-- The first decoder that claims the envelope; an error of an earlier one ends
the search. -/
def firstDecoded {Value : Type} : List (Except MessageDecodeError (Option Value)) →
    Except MessageDecodeError (Option Value)
  | [] => .ok none
  | .error error :: _ => .error error
  | .ok (some value) :: _ => .ok (some value)
  | .ok none :: rest => firstDecoded rest

/-- A decoder whose notice is queued as one event. -/
def asEvent {Notice : Type} (wrap : Notice → DecodedPush)
    (decoded : Except MessageDecodeError (Option Notice)) :
    Except MessageDecodeError (Option DecodedEnvelope) :=
  (Option.map (fun notice => .event (wrap notice))) <$> decoded

/-- `u64::try_from(timestamp).unwrap_or_default()`. -/
def occurredAt (envelope : MessageEnvelope) : Nat :=
  envelope.timestamp.toNat

/-- The notice decoders in the order in which `admit_message` asks them. -/
def noticeDecoders (wire : NoticeWire) (envelope : MessageEnvelope) :
    List (Except MessageDecodeError (Option DecodedEnvelope)) :=
  let at_ := occurredAt envelope
  let len := envelope.encodedLen
  [asEvent (fun file => .privateFile file at_ len) (decodePrivateFileNotice wire envelope),
    asEvent (fun signal => .friendRequest signal len) (decodeFriendRequestSignal wire envelope),
    asEvent (fun signal => .groupRequest signal at_ len)
      (decodeGroupRequestSignal wire envelope),
    asEvent (fun notice => .groupNotice notice at_ len) (decodeGroupNotice wire envelope),
    asEvent (fun reaction => .groupReaction reaction at_ len)
      (decodeGroupReaction wire envelope),
    asEvent (fun change => .groupNameChange change at_ len)
      (decodeGroupNameChange wire envelope),
    asEvent (fun poke => .poke poke at_ len) (decodePokeNotice wire envelope),
    asEvent (fun essence => .groupEssence essence at_ len) (decodeGroupEssence wire envelope),
    asEvent (fun mute => .groupMute mute at_ len) (decodeGroupMute wire envelope),
    Option.map DecodedEnvelope.groupRecalls <$> decodeGroupRecalls wire envelope,
    asEvent (fun notice => .friendRecall notice at_ len) (decodeFriendRecall wire envelope)]

def decodeBody (wire : RichTextWire) :
    Option (List UInt8) → Except MessageDecodeError (Option RichTextMessage)
  | none => .ok none
  | some body => some <$> decodeRichText wire body

def decodeEnvelope (wire : PushWire) (envelope : MessageEnvelope) :
    Except MessageDecodeError DecodedEnvelope := do
  match ← firstDecoded (noticeDecoders wire.notice envelope) with
  | some decoded => return decoded
  | none =>
      let richText ← decodeBody wire.richText envelope.payload.richText
      return .event (.message { envelope := envelope, richText := richText })

/-! ## The queue -/

structure PushRuntime where
  plan : PushPlan
  processor : PushProcessor
  decoder : MessageDecoder
  events : List DecodedPush
  queuedMessageBytes : Nat

namespace PushRuntime

def new (plan : PushPlan) : PushRuntime where
  plan := plan
  processor := .new
  decoder := .new
  events := []
  queuedMessageBytes := 0

/-- The room that the queue has left. -/
def availableMessageSlots (runtime : PushRuntime) : Nat :=
  maxQueuedMessages - runtime.events.length

def availableMessageBytes (runtime : PushRuntime) : Nat :=
  maxQueuedMessageBytes - runtime.queuedMessageBytes

def popEvent (runtime : PushRuntime) : PushRuntime × Option DecodedPush :=
  match runtime.events with
  | [] => (runtime, none)
  | event :: rest =>
      ({ runtime with
          events := rest
          queuedMessageBytes := runtime.queuedMessageBytes - event.encodedLen },
        some event)

/-- Queues one event; only the byte count is checked, against its overflow. -/
def pushEvent (runtime : PushRuntime) (event : DecodedPush) :
    PushRuntime × Except PushRuntimeError Unit :=
  match checkedAddU64 runtime.queuedMessageBytes event.encodedLen with
  | none => (runtime, .error byteCountOverflow)
  | some total =>
      ({ runtime with events := runtime.events ++ [event], queuedMessageBytes := total },
        .ok ())

/-- The events of a recall notice, each with the length of the whole envelope. -/
def recallEvents (envelope : MessageEnvelope) (recalls : List GroupRecall) :
    List DecodedPush :=
  recalls.map (fun notice =>
    .groupRecall notice (occurredAt envelope) envelope.encodedLen)

/-- Queues all recalls of one notice when both limits leave room for them. -/
def pushRecalls (runtime : PushRuntime) (envelope : MessageEnvelope)
    (recalls : List GroupRecall) : PushRuntime × Except PushRuntimeError Unit :=
  match checkedMulU64 envelope.encodedLen recalls.length with
  | none => (runtime, .error byteCountOverflow)
  | some total =>
      if runtime.availableMessageSlots < recalls.length ∨
          runtime.availableMessageBytes < total then
        (runtime, .error limitExceeded)
      else
        ({ runtime with
            events := runtime.events ++ recallEvents envelope recalls
            queuedMessageBytes := runtime.queuedMessageBytes + total },
          .ok ())

def pushEnvelope (wire : PushWire) (runtime : PushRuntime) (envelope : MessageEnvelope) :
    PushRuntime × Except PushRuntimeError Unit :=
  match decodeEnvelope wire envelope with
  | .error error => (runtime, .error (.message error))
  | .ok (.event event) => runtime.pushEvent event
  | .ok (.groupRecalls recalls) => runtime.pushRecalls envelope recalls

/-- The outer decoder on a message of its own or on an embedded one. -/
def decodeMessage (wire : PushWire) (decoder : MessageDecoder) (embedded : Bool)
    (body : List UInt8) : MessageDecoder × Except MessageDecodeError MessageDisposition :=
  if embedded then decoder.decodeEmbedded wire.message body
  else decoder.decode wire.message body

def admitMessage (wire : PushWire) (runtime : PushRuntime) (body : List UInt8)
    (embedded : Bool) : PushRuntime × Except PushRuntimeError Unit :=
  match decodeMessage wire runtime.decoder embedded body with
  | (decoder, .error error) => ({ runtime with decoder := decoder }, .error (.message error))
  | (decoder, .ok .duplicate) => ({ runtime with decoder := decoder }, .ok ())
  | (decoder, .ok (.new envelope)) =>
      { runtime with decoder := decoder }.pushEnvelope wire envelope

/-- Admits the embedded messages in wire order and stops at the first error. -/
def admitEmbedded (wire : PushWire) (runtime : PushRuntime) :
    List (List UInt8) → PushRuntime × Except PushRuntimeError Unit
  | [] => (runtime, .ok ())
  | body :: rest =>
      match runtime.admitMessage wire body true with
      | (next, .error error) => (next, .error error)
      | (next, .ok ()) => next.admitEmbedded wire rest

/-- The answer of one handled push: the acknowledgement to send, if any. -/
abbrev Handled := Except PushRuntimeError (Option (String × List UInt8))

def handleOutcome (wire : PushWire) (runtime : PushRuntime) :
    PushOutcome → PushRuntime × Handled
  | .ack route body => (runtime, .ok (some (route, body)))
  | .observed => (runtime, .ok none)
  | .protectiveOffline _ => (runtime, .error (.other "QQ requested protective offline"))
  | .message body =>
      let (next, result) := runtime.admitMessage wire body false
      (next, result.map (fun _ => none))
  | .infoSync outcome =>
      let (next, result) := runtime.admitEmbedded wire outcome.messages
      (next, result.map (fun _ => none))

/-- The processor on a push, with the room that the queue has left. -/
def process (wire : PushWire) (runtime : PushRuntime) (entry : PushPlanEntry)
    (payload : List UInt8) (sync : OnlineSyncState) :
    (PushProcessor × OnlineSyncState) × Except OnlinePacketError PushOutcome :=
  runtime.processor.apply wire.codec entry payload sync runtime.availableMessageSlots
    runtime.availableMessageBytes

def handle (wire : PushWire) (runtime : PushRuntime) (command : String)
    (payload : List UInt8) (sync : OnlineSyncState) :
    (PushRuntime × OnlineSyncState) × Handled :=
  match runtime.plan.find command with
  | none =>
      ((runtime, sync), .error (.other "authenticated QQ Push route is not admitted"))
  | some entry =>
      let ((processor, sync), outcome) := runtime.process wire entry payload sync
      let runtime := { runtime with processor := processor }
      match outcome with
      | .error error => ((runtime, sync), .error (.packet error))
      | .ok outcome =>
          let (next, result) := runtime.handleOutcome wire outcome
          ((next, sync), result)

end PushRuntime

end Runtime
end Lirvena
