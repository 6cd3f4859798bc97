import Lirvena.Dispatch.Action
import Lirvena.Lib.Broadcast

/-!
# The sessions of the transports

A client of the `OneBot` adapter is served by a forward WebSocket, over a reverse WebSocket or
as a stream of server-sent events.  A session waits for its client and for the event bus at
once.  While a request is dispatched it waits for the response only.

A step is one turn of the loop of a session, with what the waiting came to and whether the
frame that it writes could be sent.
-/

namespace Lirvena
namespace Dispatch

open Lib
open OneBot (numberValue)

/-- What a client sends; a binary message and a pong are told apart nowhere. -/
inductive Incoming where
  | text (text : String)
  | ping (payload : List UInt8)
  | other
  | close
  /-- The stream of messages has ended. -/
  | ended
  | failed

/-- What a client is sent. -/
inductive Frame where
  | text (value : Json)
  /-- A server-sent event with a name. -/
  | named (name : String) (value : Json)
  | response (response : ActionResponse)
  | pong (payload : List UInt8)
  | close

inductive SessionEvent where
  /-- A text that is taken for a request. -/
  | asked (text : String)
  | dispatched (request : ActionRequest)
  | framed (frame : Frame)

inductive SessionPhase where
  | selecting
  /-- The dispatcher is waited for. -/
  | dispatching
  | ended
  deriving DecidableEq

abbrev SessionTurn := SessionPhase × List SessionEvent

/-- `outgoing.send`; a session ends when it fails. -/
def deliver (frame : Frame) (sent : Bool) : SessionTurn :=
  if sent then (.selecting, [.framed frame]) else (.ended, [])

/-- `parse_and_dispatch` up to the dispatcher, on what the text is read as. -/
def parseRequest (parse : String → Option Json) (text : String) :
    Except ActionResponse ActionRequest :=
  match parse text with
  | some value => fromJson value
  | none => .error (.badRequest none "request JSON is invalid")

def ask (parse : String → Option Json) (text : String) (sent : Bool) : SessionTurn :=
  match parseRequest parse text with
  | .ok request => (.dispatching, [.asked text, .dispatched request])
  | .error response =>
      let (phase, events) := deliver (.response response) sent
      (phase, .asked text :: events)

/-! ## Forward WebSockets -/

structure WsCapabilities where
  actions : Bool
  events : Bool

/-- What tells of missed events. -/
def lagNotice (skipped : Nat) : Json :=
  .ofFields [("post_type", .string "meta_event"),
    ("meta_event_type", .string "lirvena_transport"), ("sub_type", .string "lagged"),
    ("skipped", .integer skipped)]

/-- `ws::run` on a message. -/
def wsIncoming (parse : String → Option Json) (capabilities : WsCapabilities)
    (message : Incoming) (sent : Bool) : SessionTurn :=
  match message with
  | .text text => if capabilities.actions then ask parse text sent else (.selecting, [])
  | .ping payload => deliver (.pong payload) sent
  | .other => (.selecting, [])
  | .close | .ended | .failed => (.ended, [])

/-- `ws::run` on what the bus answers. -/
def wsEvent (received : Received Json) (sent : Bool) : SessionTurn :=
  match received with
  | .value event => deliver (.text event) sent
  | .lagged skipped => deliver (.text (lagNotice skipped)) sent
  | .closed => (.ended, [])
  | .waiting => (.selecting, [])

/-! ## Reverse WebSockets -/

def belongsToAccount (event : Json) (selfId : UInt64) : Bool :=
  match event.get "self_id" with
  | some value => numberValue value = some selfId.toNat
  | none => false

/-- `run_connection` on a message. -/
def reverseIncoming (parse : String → Option Json) (message : Incoming) (sent : Bool) :
    SessionTurn :=
  match message with
  | .text text => ask parse text sent
  | .ping payload => deliver (.pong payload) sent
  | .other => (.selecting, [])
  | .close | .ended | .failed => (.ended, [])

/-- `run_connection` on what the bus answers. -/
def reverseEvent (selfId : UInt64) (received : Received Json) (sent : Bool) : SessionTurn :=
  match received with
  | .value event =>
      if belongsToAccount event selfId then deliver (.text event) sent else (.selecting, [])
  | .lagged _ | .closed => (.ended, [])
  | .waiting => (.selecting, [])

/-- `run_connection` on a change of the shutdown channel, or the loss of its sender. -/
def reverseShutdown (changed : Option Bool) (sent : Bool) : SessionTurn :=
  if changed = none ∨ changed = some true then
    (.ended, if sent then [.framed .close] else [])
  else (.selecting, [])

/-! ## Server-sent events -/

/-- `sse_events` on what the bus answers. -/
def sseEvent (received : Received Json) (sent : Bool) : SessionTurn :=
  match received with
  | .value event => deliver (.text event) sent
  | .lagged skipped =>
      deliver (.named "lirvena_transport"
        (.ofFields [("type", .string "lagged"), ("skipped", .integer skipped)])) sent
  | .closed => (.ended, [])
  | .waiting => (.selecting, [])

/-! ## Any session -/

inductive SessionKind where
  | forward (capabilities : WsCapabilities)
  | reverse (selfId : UInt64)
  | sse

/-- The session waits for the event bus. -/
def SessionKind.listens : SessionKind → Bool
  | .forward capabilities => capabilities.events
  | .reverse _ | .sse => true

def SessionKind.incoming (parse : String → Option Json) (kind : SessionKind)
    (message : Incoming) (sent : Bool) : SessionTurn :=
  match kind with
  | .forward capabilities => wsIncoming parse capabilities message sent
  | .reverse _ => reverseIncoming parse message sent
  -- a client of an event stream can only go away
  | .sse => (.ended, [])

def SessionKind.event (kind : SessionKind) (received : Received Json) (sent : Bool) :
    SessionTurn :=
  match kind with
  | .forward _ => wsEvent received sent
  | .reverse selfId => reverseEvent selfId received sent
  | .sse => sseEvent received sent

/-- Only the reverse sessions watch the shutdown channel. -/
def SessionKind.shutdown (kind : SessionKind) (changed : Option Bool) (sent : Bool) :
    SessionTurn :=
  match kind with
  | .reverse _ => reverseShutdown changed sent
  | .forward _ | .sse => (.selecting, [])

/-- The frames that an answer of the bus stands for. -/
def SessionKind.shown : SessionKind → Received Json → List Frame
  | .reverse selfId, .value event => if belongsToAccount event selfId then [.text event] else []
  | .reverse _, .lagged _ => []
  | .forward _, .value event | .sse, .value event => [.text event]
  | .forward _, .lagged skipped => [.text (lagNotice skipped)]
  | .sse, .lagged skipped => [.named "lirvena_transport"
      (.ofFields [("type", .string "lagged"), ("skipped", .integer skipped)])]
  | _, .closed | _, .waiting => []

end Dispatch
end Lirvena
