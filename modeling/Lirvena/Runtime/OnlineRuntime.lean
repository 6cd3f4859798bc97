import Lirvena.Daemon.Supervise
import Lirvena.Domain.OnlineRun
import Lirvena.Runtime.PacketRuntime

/-!
# The online runtime

One account's runtime on its session: the startup through the gates of the online machine,
then the loop that drains pushes, publishes events and waits for a push, an account action
or the next deadline.  The runtime is cut where it waits.  What the session, the clock, the
operating system, the publication and the actions come to is the input of a step, and the
events of a step are what the runtime asks of its online machine and hands to its session.

The session holds pushes back while an exchange waits, so that they are handled in the
phases that drain them.  Account actions, the publication of events and the security
bootstrap exchange packets of their own, which leave the machine and the packet runtime as
they are; what they ask for is part of the input, and their frames are events.
-/

namespace Lirvena
namespace Runtime

open Lib Daemon Domain Online

/-- The codecs of the runtime.  The times of a decoded synchronization push are words. -/
structure OnlineWire where
  push : PushWire
  packets : OnlineCodec
  times_fit : ∀ body packet, push.codec.packet body = some packet →
    (∀ node ∈ packet.groupNodes, node.latestMessageTime < u64Bound ∧
      node.longestMessageTime < u64Bound) ∧
    (∀ notification ∈ packet.groupItems, notification.lastSpeakTimestamp < u64Bound) ∧
    ∀ notification ∈ packet.systemItems, notification.lastSpeakTimestamp < u64Bound

/-- What follows when the pending events are published. -/
inductive AfterPublish where
  /-- The end of `bootstrap`. -/
  | startup
  /-- The `select!` of the loop. -/
  | select
  /-- The top of the loop. -/
  | loop
  deriving DecidableEq

/-- Where the runtime waits. -/
inductive OnlinePhase where
  | created
  | synchronizing
  | bootstrapping
  | confirming
  | draining (startup : Bool)
  | publishing (next : AfterPublish)
  /-- `bootstrap` has returned. -/
  | ready
  | selecting (delayMs : Nat)
  /-- A heartbeat is exchanged, ahead of the rest of the due directives. -/
  | beating (rest : List OnlineDirective)
  /-- A delayed synchronization is exchanged. -/
  | resyncing (rest : List OnlineDirective)
  | ended (result : Except OnlineError Unit)

structure OnlineRuntime where
  machine : OnlineMachine
  packets : PacketRuntime
  pushes : PushRuntime
  generation : OnlineGeneration
  realm : AssignedRealm
  phase : OnlinePhase

/-- What the clock and the entropy source say in a step. -/
structure Readings where
  clock : Clock
  /-- The clock of the seconds of a heartbeat. -/
  seconds : Clock
  draws : List (Option UInt32)

inductive OnlineInput where
  | bootstrap (readings : Readings)
  /-- The exchange that waits is answered, or fails. -/
  | answered (response : Option (List UInt8)) (readings : Readings)
  /-- The security bootstrap comes to its end, behind frames of these commands; of a public
  account it is not run. -/
  | bootstrapped (commands : List String) (succeeded : Bool) (readings : Readings)
  /-- A push, and whether its acknowledgement can be sent. -/
  | push (command : String) (payload : List UInt8) (sent : Bool)
  /-- The session holds no push back. -/
  | drained
  /-- The next pending event is published with what it takes to resolve it, or there is
  none. -/
  | publish (requests : List ReserveRequest) (succeeded : Bool) (readings : Readings)
  /-- `run` is called, with the keys of the session or without. -/
  | run (authenticated : Bool)
  | interrupted (succeeded : Bool)
  | idle
  | readFailed
  | action (requests : List ReserveRequest)
  | channelEnded
  /-- The delay of the `select!` has passed. -/
  | slept (readings : Readings)

inductive OnlineEvent where
  /-- An operation of the online machine, and its answer. -/
  | operated (op : OnlineOp) (answer : OnlineAnswer)
  | requested (request : PacketRequest)
  | acknowledged (route : String) (includeIdentity : Bool) (body : List UInt8)
  /-- An event is taken from the queue to be published. -/
  | published (event : DecodedPush)
  /-- A frame of an account action or of the publication of an event. -/
  | exchanged (frame : ReserveFrame)
  /-- A frame of the security bootstrap. -/
  | flowed (command : String) (includeIdentity : Bool)

/-- What a step does, in order. -/
abbrev OnlineTurn := OnlineRuntime × List OnlineEvent

inductive ActionClass where
  | initialSync
  | securityBootstrap
  deriving DecidableEq

/-- `require_action`, on the answer of an operation that may be rejected. -/
def requireAction (answer : OnlineAnswer) (expectedGeneration : OnlineGeneration)
    (expected : ActionClass) : Except OnlineError Unit :=
  match answer, expected with
  | .rejected, _ => .error (.transition .rejected)
  | .directive (.dispatch generation (.initialSync _)), .initialSync
  | .directive (.dispatch generation (.securityBootstrap _)), .securityBootstrap =>
      rejectIf (.other "Profile online action sequence is inconsistent")
        (generation ≠ expectedGeneration)
  | _, _ => .error (.other "Profile online action sequence is inconsistent")

/-- `require_entered`, on the answer of an operation that may be rejected. -/
def requireEntered (answer : OnlineAnswer) (expectedGeneration : OnlineGeneration) :
    Except OnlineError Unit :=
  match answer with
  | .rejected => .error (.transition .rejected)
  | .directive (.enteredOnline generation) =>
      rejectIf (.other "online generation did not enter Online")
        (generation ≠ expectedGeneration)
  | _ => .error (.other "online generation did not enter Online")

/-- The directives of a poll, the heartbeat first. -/
def dueDirectives : OnlineAnswer → List OnlineDirective
  | .due heartbeat delayedSync => heartbeat.toList ++ delayedSync.toList
  | _ => []

/-- The frames of a security bootstrap, which keeps the routes of its own. -/
def flowFrames : Finset String → List String → List OnlineEvent
  | _, [] => []
  | identityRoutes, command :: rest =>
      .flowed command (decide (command ∉ identityRoutes)) ::
        flowFrames (insert command identityRoutes) rest

namespace OnlineRuntime

def new (plan : OnlinePlan) (packets : PacketRuntime) (pushes : PushRuntime)
    (generation : OnlineGeneration) (realm : AssignedRealm) : OnlineRuntime where
  machine := .new plan
  packets := packets
  pushes := pushes
  generation := generation
  realm := realm
  phase := .created

/-- The runtime returns an error. -/
def fail (runtime : OnlineRuntime) (error : OnlineError) : OnlineRuntime :=
  { runtime with phase := .ended (.error error) }

/-- A request is handed to the session, and its answer is waited for. -/
def hand (runtime : OnlineRuntime) (handed : PacketRuntime × PacketRequest)
    (phase : OnlinePhase) : OnlineTurn :=
  ({ runtime with packets := handed.1, phase := phase }, [.requested handed.2])

/-- The frames of requests with a reserve. -/
def exchange (runtime : OnlineRuntime) (requests : List ReserveRequest) : List OnlineEvent :=
  requests.map fun request => .exchanged (runtime.packets.sendWithReserve request)

/-- One operation of the machine, ahead of what is made of its answer. -/
def operate (runtime : OnlineRuntime) (op : OnlineOp)
    (next : OnlineRuntime → OnlineAnswer → OnlineTurn) : OnlineTurn :=
  let (machine, answer) := runtime.machine.apply op
  let (after, events) := next { runtime with machine := machine } answer
  (after, .operated op answer :: events)

/-! ### Startup -/

def bootstrap (runtime : OnlineRuntime) (readings : Readings) : OnlineTurn :=
  runtime.operate (.start runtime.generation) fun runtime answer =>
    match requireAction answer runtime.generation .initialSync with
    | .error error => (runtime.fail error, [])
    | .ok () =>
        match runtime.packets.requestSync false readings.draws with
        | .error error => (runtime.fail error, [])
        | .ok handed => runtime.hand handed .synchronizing

def synchronized (codec : OnlineCodec) (runtime : OnlineRuntime) (response : List UInt8)
    (readings : Readings) : OnlineTurn :=
  match runtime.packets.acceptSync codec response with
  | .error error => (runtime.fail error, [])
  | .ok (packets, delayedAfterMs) =>
      match nowMs readings.clock with
      | .error error => ({ runtime with packets := packets }.fail (.clock error), [])
      | .ok now =>
          { runtime with packets := packets }.operate
            (.initialSyncSucceeded runtime.generation now.toNat delayedAfterMs)
            fun runtime answer =>
              match requireAction answer runtime.generation .securityBootstrap with
              | .error error => (runtime.fail error, [])
              | .ok () => ({ runtime with phase := .bootstrapping }, [])

/-- The last check of the startup. -/
def enter (runtime : OnlineRuntime) : OnlineRuntime :=
  if runtime.machine.state = .online runtime.generation then
    { runtime with phase := .draining true }
  else
    runtime.fail (.other "online generation did not enter Online")

/-- The startup behind its security bootstrap. -/
def secured (runtime : OnlineRuntime) (readings : Readings) : OnlineTurn :=
  match nowMs readings.clock with
  | .error error => (runtime.fail (.clock error), [])
  | .ok now =>
      runtime.operate (.securityBootstrapSucceeded runtime.generation now.toNat)
        fun runtime answer =>
          match answer with
          | .rejected => (runtime.fail (.transition .rejected), [])
          | .directive (.dispatch generation (.statusConfirmation _)) =>
              if generation = runtime.generation ∧
                  runtime.packets.hasStatusConfirmation = true then
                match runtime.packets.requestStatus with
                | .error error => (runtime.fail error, [])
                | .ok handed => runtime.hand handed .confirming
              else
                (runtime.fail (.other "Profile online gates are inconsistent"), [])
          | .directive (.enteredOnline generation) =>
              if generation = runtime.generation ∧
                  runtime.packets.hasStatusConfirmation = false then
                (runtime.enter, [])
              else
                (runtime.fail (.other "Profile online gates are inconsistent"), [])
          | _ => (runtime.fail (.other "Profile online gates are inconsistent"), [])

def bootstrapped (runtime : OnlineRuntime) (commands : List String) (succeeded : Bool)
    (readings : Readings) : OnlineTurn :=
  let frames := if runtime.realm = .full then flowFrames ∅ commands else []
  let (after, events) :=
    if runtime.realm = .full ∧ succeeded = false then (runtime.fail .flow, [])
    else runtime.secured readings
  (after, frames ++ events)

def confirmed (codec : OnlineCodec) (runtime : OnlineRuntime) (response : List UInt8)
    (readings : Readings) : OnlineTurn :=
  match runtime.packets.acceptStatus codec response with
  | .error error => (runtime.fail error, [])
  | .ok packets =>
      match nowMs readings.clock with
      | .error error => ({ runtime with packets := packets }.fail (.clock error), [])
      | .ok now =>
          { runtime with packets := packets }.operate
            (.statusConfirmationCompleted runtime.generation now.toNat)
            fun runtime answer =>
              match requireEntered answer runtime.generation with
              | .error error => (runtime.fail error, [])
              | .ok () => (runtime.enter, [])

/-! ### Pushes and events -/

/-- `PushRuntime::handle`, with the acknowledgement that it sends. -/
def handlePush (wire : PushWire) (runtime : OnlineRuntime) (command : String)
    (payload : List UInt8) (sent : Bool) (next : OnlinePhase) : OnlineTurn :=
  let ((pushes, cursors), handled) :=
    runtime.pushes.handle wire command payload runtime.packets.cursors
  let packets := { runtime.packets with cursors := cursors }
  let runtime := { runtime with pushes := pushes, packets := packets }
  match handled with
  | .error error => (runtime.fail (.push error), [])
  | .ok none => ({ runtime with phase := next }, [])
  | .ok (some (route, body)) =>
      let (packets, includeIdentity) := packets.markIdentityRoute route
      let runtime := { runtime with packets := packets }
      (if sent then { runtime with phase := next } else runtime.fail .exchange,
        [.acknowledged route includeIdentity body])

/-- The loop before its `select!`: the time until the next deadline. -/
def select (runtime : OnlineRuntime) (readings : Readings) : OnlineRuntime :=
  match runtime.machine.nextDueMs with
  | none => runtime.fail (.other "online generation has no continuity schedule")
  | some due =>
      match nowMs readings.clock with
      | .error error => runtime.fail (.clock error)
      | .ok now => { runtime with phase := .selecting (max (due - now.toNat) 1) }

/-- One turn of `publish_pending_events`. -/
def publish (runtime : OnlineRuntime) (next : AfterPublish) (requests : List ReserveRequest)
    (succeeded : Bool) (readings : Readings) : OnlineTurn :=
  match runtime.pushes.popEvent with
  | (pushes, some event) =>
      let runtime := { runtime with pushes := pushes }
      (if succeeded then runtime else runtime.fail .publish,
        .published event :: runtime.exchange requests)
  | (_, none) =>
      match next with
      | .startup => ({ runtime with phase := .ready }, [])
      | .loop => ({ runtime with phase := .draining false }, [])
      | .select => (runtime.select readings, [])

/-! ### Due work -/

/-- An error of `execute_due`. -/
def failDue (runtime : OnlineRuntime) (error : OnlineError) : OnlineTurn :=
  runtime.operate (.requiredActionFailed runtime.generation) fun runtime _ =>
    (runtime.fail error, [])

/-- The loop of `execute_due` over what is left of the directives of a poll. -/
def executeDue (runtime : OnlineRuntime) (readings : Readings) :
    List OnlineDirective → OnlineTurn
  | [] => ({ runtime with phase := .draining false }, [])
  | .dispatch generation (.businessHeartbeat _) :: rest =>
      if generation = runtime.generation then
        match runtime.packets.requestHeartbeat readings.seconds with
        | .error error => runtime.failDue error
        | .ok handed => runtime.hand handed (.beating rest)
      else
        runtime.failDue (.other "online schedule dispatched an invalid action")
  | .dispatch generation (.delayedSync _) :: rest =>
      if generation = runtime.generation then
        match runtime.packets.requestSync true readings.draws with
        | .error error => runtime.failDue error
        | .ok handed => runtime.hand handed (.resyncing rest)
      else
        runtime.failDue (.other "online schedule dispatched an invalid action")
  | _ :: _ => runtime.failDue (.other "online schedule dispatched an invalid action")

def wake (runtime : OnlineRuntime) (readings : Readings) : OnlineTurn :=
  match nowMs readings.clock with
  | .error error => runtime.failDue (.clock error)
  | .ok now =>
      runtime.operate (.pollDue now.toNat) fun runtime answer =>
        runtime.executeDue readings (dueDirectives answer)

/-- A completion of the machine, and what is left of the directives. -/
def complete (runtime : OnlineRuntime) (readings : Readings) (op : Nat → OnlineOp)
    (rest : List OnlineDirective) : OnlineTurn :=
  match nowMs readings.clock with
  | .error error => runtime.failDue (.clock error)
  | .ok now =>
      runtime.operate (op now.toNat) fun runtime answer =>
        match answer with
        | .rejected => runtime.failDue (.transition .rejected)
        | _ => runtime.executeDue readings rest

def beaten (codec : OnlineCodec) (runtime : OnlineRuntime) (response : List UInt8)
    (readings : Readings) (rest : List OnlineDirective) : OnlineTurn :=
  match PacketRuntime.acceptHeartbeat codec response with
  | .error error => runtime.failDue error
  | .ok requestedIntervalMs =>
      runtime.complete readings
        (.heartbeatCompleted runtime.generation · requestedIntervalMs) rest

def resynced (codec : OnlineCodec) (runtime : OnlineRuntime) (response : List UInt8)
    (readings : Readings) (rest : List OnlineDirective) : OnlineTurn :=
  match runtime.packets.acceptSync codec response with
  | .error error => runtime.failDue error
  | .ok (packets, delayedAfterMs) =>
      { runtime with packets := packets }.complete readings
        (.delayedSyncCompleted runtime.generation · delayedAfterMs) rest

/-! ### Steps -/

/-- The exchange that waits comes to its end. -/
def answered (codec : OnlineCodec) (runtime : OnlineRuntime) (response : Option (List UInt8))
    (readings : Readings) : OnlineTurn :=
  match runtime.phase, response with
  | .synchronizing, some response => runtime.synchronized codec response readings
  | .confirming, some response => runtime.confirmed codec response readings
  | .synchronizing, none | .confirming, none => (runtime.fail .exchange, [])
  | .beating rest, some response => runtime.beaten codec response readings rest
  | .resyncing rest, some response => runtime.resynced codec response readings rest
  | .beating _, none | .resyncing _, none => runtime.failDue .exchange
  | _, _ => (runtime, [])

/-- One of the branches of the `select!`. -/
def selected (wire : PushWire) (runtime : OnlineRuntime) : OnlineInput → OnlineTurn
  | .push command payload sent =>
      runtime.handlePush wire command payload sent (.publishing .loop)
  | .interrupted true =>
      runtime.operate .stop fun runtime _ => ({ runtime with phase := .ended (.ok ()) }, [])
  | .interrupted false => (runtime.fail .signal, [])
  | .idle => ({ runtime with phase := .draining false }, [])
  | .action requests => ({ runtime with phase := .draining false }, runtime.exchange requests)
  | .readFailed => (runtime.fail .read, [])
  | .channelEnded => (runtime.fail (.other "account action channel ended"), [])
  | .slept readings => runtime.wake readings
  | _ => (runtime, [])

def step (wire : OnlineWire) (runtime : OnlineRuntime) (input : OnlineInput) : OnlineTurn :=
  match runtime.phase, input with
  | .created, .bootstrap readings => runtime.bootstrap readings
  | .bootstrapping, .bootstrapped commands succeeded readings =>
      runtime.bootstrapped commands succeeded readings
  | .draining startup, .push command payload sent =>
      runtime.handlePush wire.push command payload sent (.draining startup)
  | .draining true, .drained => ({ runtime with phase := .publishing .startup }, [])
  | .draining false, .drained => ({ runtime with phase := .publishing .select }, [])
  | .publishing next, .publish requests succeeded readings =>
      runtime.publish next requests succeeded readings
  | .ready, .run true => ({ runtime with phase := .draining false }, [])
  | .ready, .run false => (runtime.fail .exchange, [])
  | .selecting _, input => runtime.selected wire.push input
  | _, .answered response readings => runtime.answered wire.packets response readings
  | _, _ => (runtime, [])

/-- The runtime as a machine. -/
def session (wire : OnlineWire) : Machine OnlineRuntime OnlineInput (List OnlineEvent) where
  step := step wire

end OnlineRuntime

end Runtime
end Lirvena
