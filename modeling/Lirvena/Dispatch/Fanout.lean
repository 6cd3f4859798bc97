import Lirvena.Dispatch.Sessions
import Lirvena.Lib.Run

/-!
# The fan-out of events

The accounts publish their events on the hub.  The coordinator of the `OneBot` adapter
hears them there, projects them, and publishes them on its event bus, from which each
session takes what it shows its client.  The hub and the bus are bounded broadcast channels,
so that the accounts never wait for the coordinator, nor the coordinator for a session.

The accounts, the coordinator and the sessions run beside each other.  A step of the system
is what one of them does between two points at which another may come in; the events of a
turn of the coordinator are published one at a time.
-/

namespace Lirvena
namespace Dispatch

open Lib Lirvena.Runtime
open OneBot (Coordinator CoordinatorConfig CoordinatorInput)

variable {Handle Notice : Type}

/-- One session, and the position of its subscription. -/
structure Connection where
  kind : SessionKind
  phase : SessionPhase
  cursor : Nat

structure FanoutConfig (Handle Notice : Type) where
  coordinator : CoordinatorConfig Handle Notice
  /-- How many values the channels of the hub and of the bus hold. -/
  hubCapacity : Nat
  busCapacity : Nat
  parse : String → Option Json

structure Fanout (Handle Notice : Type) where
  hub : Channel (AccountEvent Notice)
  /-- The position of the coordinator's subscription. -/
  cursor : Nat
  coordinator : Coordinator Handle
  /-- What the coordinator has left to publish of its turn. -/
  pending : List Json
  bus : Channel Json
  /-- The sessions, in the order in which they came. -/
  connections : List Connection

/-- What a session waits for, and whether the frame that it writes then is sent. -/
inductive SessionInput where
  | incoming (message : Incoming) (sent : Bool)
  | event (sent : Bool)
  | answered (response : ActionResponse) (sent : Bool)
  | shutdown (changed : Option Bool) (sent : Bool)

inductive FanoutInput (Notice : Type) where
  /-- An account publishes an event. -/
  | account (event : AccountEvent Notice)
  /-- The last publisher is gone. -/
  | accountsEnded
  /-- The coordinator hears the hub. -/
  | hear
  | heartbeat (clock : Account.AccountLocalId → Option Nat)
  | shutdownChanged (changed : Option Bool)
  /-- The coordinator publishes the next event of its turn. -/
  | publish
  | connect (kind : SessionKind)
  | session (connection : Nat) (input : SessionInput)

inductive FanoutEvent (Notice : Type) where
  /-- The coordinator takes a turn. -/
  | coordinated (input : CoordinatorInput Notice)
  | published (event : Json)
  | session (connection : Nat) (event : SessionEvent)

namespace Fanout

/-- The coordinator is subscribed to the hub before the accounts are started. -/
def start : Fanout Handle Notice where
  hub := Channel.opened.subscribe.1
  cursor := 0
  coordinator := Coordinator.start
  pending := []
  bus := .opened
  connections := []

variable (config : FanoutConfig Handle Notice) (system : Fanout Handle Notice)

/-! ## The coordinator -/

/-- The coordinator waits for its next turn. -/
def Listening : Prop :=
  system.coordinator.ended = none ∧ system.pending = []

instance : Decidable system.Listening :=
  inferInstanceAs (Decidable (_ ∧ _))

/-- A turn of the coordinator; the subscription of one that returns is dropped. -/
def coordinated (input : CoordinatorInput Notice) :
    Fanout Handle Notice × List (FanoutEvent Notice) :=
  let (coordinator, projected) := system.coordinator.step config.coordinator input
  ({ system with
      hub := if coordinator.ended.isSome then system.hub.unsubscribe else system.hub
      coordinator := coordinator
      pending := projected }, [.coordinated input])

def hear : Fanout Handle Notice × List (FanoutEvent Notice) :=
  let (cursor, received) := system.hub.receive system.cursor
  let system := { system with cursor := cursor }
  match received with
  | .value event => system.coordinated config (.received (.ok event))
  | .lagged _ => system.coordinated config (.received (.error .lagged))
  | .closed => system.coordinated config (.received (.error .closed))
  | .waiting => (system, [])

/-- `OneBotEventBus::publish` -/
def publish : Fanout Handle Notice × List (FanoutEvent Notice) :=
  match system.pending with
  | [] => (system, [])
  | event :: rest =>
      ({ system with pending := rest, bus := (system.bus.send config.busCapacity event).1 },
        [.published event])

/-! ## The sessions -/

def connect (kind : SessionKind) : Fanout Handle Notice :=
  let (bus, cursor) := system.bus.subscribe
  { system with bus := bus, connections := system.connections ++ [⟨kind, .selecting, cursor⟩] }

/-- A session has taken a turn; the subscription of one that ends is dropped. -/
def settle (index : Nat) (connection : Connection) (turn : SessionTurn) :
    Fanout Handle Notice × List (FanoutEvent Notice) :=
  ({ system with
      bus := if turn.1 = .ended then system.bus.unsubscribe else system.bus
      connections := system.connections.set index { connection with phase := turn.1 } },
    turn.2.map (.session index))

def sessionStep (index : Nat) (connection : Connection) (input : SessionInput) :
    Fanout Handle Notice × List (FanoutEvent Notice) :=
  match connection.phase, input with
  | .selecting, .incoming message sent =>
      system.settle index connection (connection.kind.incoming config.parse message sent)
  | .selecting, .event sent =>
      if connection.kind.listens then
        let (cursor, received) := system.bus.receive connection.cursor
        system.settle index { connection with cursor := cursor }
          (connection.kind.event received sent)
      else (system, [])
  | .selecting, .shutdown changed sent =>
      system.settle index connection (connection.kind.shutdown changed sent)
  | .dispatching, .answered response sent =>
      system.settle index connection (deliver (.response response) sent)
  | _, _ => (system, [])

/-! ## Steps -/

def step : FanoutInput Notice → Fanout Handle Notice × List (FanoutEvent Notice)
  | .account event => ({ system with hub := (system.hub.send config.hubCapacity event).1 }, [])
  | .accountsEnded => ({ system with hub := { system.hub with closed := true } }, [])
  | .hear => if system.Listening then system.hear config else (system, [])
  | .heartbeat clock =>
      if system.Listening then system.coordinated config (.heartbeat clock)
      else (system, [])
  | .shutdownChanged changed =>
      if system.Listening then system.coordinated config (.shutdownChanged changed)
      else (system, [])
  | .publish => system.publish config
  | .connect kind => (system.connect kind, [])
  | .session index input =>
      match system.connections[index]? with
      | some connection => system.sessionStep config index connection input
      | none => (system, [])

def fanout (config : FanoutConfig Handle Notice) :
    Machine (Fanout Handle Notice) (FanoutInput Notice) (List (FanoutEvent Notice)) where
  step system := step config system

end Fanout

end Dispatch
end Lirvena
