import Mathlib.Data.List.AList
import Mathlib.Data.List.Sort
import Lirvena.Lib.Run
import Lirvena.Runtime.AccountEvent

/-!
# The OneBot coordinator

The coordinator hears the events of all accounts.  It keeps the QQ number that each
account has announced, and the dispatcher keeps the backend that each number is
routed to.  A step is one turn of the loop: an event or the failure to receive one,
a heartbeat, or a change of the shutdown channel.

`announced` is what the events heard so far say about an account.  `Sound` asks that the
coordinator runs and that its tables agree with that; the runs in which
it holds throughout are those whose every step keeps `Unambiguous`.
-/

namespace Lirvena
namespace OneBot

open Lib Account Lirvena.Runtime

/-! ## The dispatcher -/

/-- The backends of a dispatcher, by QQ number. -/
abbrev Routes (Handle : Type*) := AList (fun _ : UInt64 => Handle)

/-- The QQ numbers that accounts announced, by account. -/
abbrev Identities := AList (fun _ : AccountLocalId => UInt64)

inductive BackendError where
  | badParameters (message : String)
  deriving DecidableEq

variable {Handle : Type*}

def register (routes : Routes Handle) (selfId : UInt64) (backend : Handle) :
    Except BackendError (Routes Handle) :=
  if selfId = 0 ∨ selfId ∈ routes then
    .error (.badParameters "OneBot account registration is invalid")
  else
    .ok (routes.insert selfId backend)

def unregister (routes : Routes Handle) (selfId : UInt64) : Routes Handle :=
  routes.erase selfId

/-- The backend of a request, at an endpoint that is bound to no account. -/
def select (routes : Routes Handle) (requested : Option UInt64) : Option Handle :=
  match requested with
  | some selfId => routes.lookup selfId
  | none =>
      match routes.entries with
      | [entry] => some entry.2
      | _ => none

/-! ## The loop -/

inductive CoordinatorError where
  | events (error : ReceiveError)
  | actionHandleMissing
  | registration (error : BackendError)
  | clock
  deriving DecidableEq

structure Coordinator (Handle : Type*) where
  identities : Identities
  routes : Routes Handle
  /-- the value that `coordinate` returned -/
  ended : Option (Except CoordinatorError Unit)

def Coordinator.start : Coordinator Handle := ⟨∅, ∅, none⟩

/-- What the loop waits for; a heartbeat carries the clock as it is read for each identity,
and the shutdown channel its value or that its sender is gone. -/
inductive CoordinatorInput (Notice : Type*) where
  | received (answer : Except ReceiveError (AccountEvent Notice))
  | heartbeat (clock : AccountLocalId → Option Nat)
  | shutdownChanged (changed : Option Bool)

variable {Notice : Type*}

/-- The settings of a coordinator, and the projection of notices. -/
structure CoordinatorConfig (Handle Notice : Type*) where
  actions : AccountLocalId → Option Handle
  projectNotice : Notice → Except EventProjectionError Json
  idFormat : IdFormat
  heartbeatMs : Nat

def heartbeatEvent (selfId : UInt64) (idFormat : IdFormat) (intervalMs nowSeconds : Nat) : Json :=
  .ofFields [("time", .integer nowSeconds), ("self_id", idFormat.value selfId.toNat),
    ("post_type", .string "meta_event"), ("meta_event_type", .string "heartbeat"),
    ("status", .ofFields [("online", .bool true), ("good", .bool true)]),
    ("interval", .integer intervalMs)]

/-- The identities in the order of their accounts, in which a `BTreeMap` lists them. -/
def Identities.inOrder (identities : Identities) : List (Σ _ : AccountLocalId, UInt64) :=
  identities.entries.insertionSort fun left right => left.1.bytes ≤ right.1.bytes

/-- The loop of a heartbeat: the events up to the first failure of the clock. -/
def heartbeats (config : CoordinatorConfig Handle Notice) (clock : AccountLocalId → Option Nat) :
    List (Σ _ : AccountLocalId, UInt64) → List Json × Except CoordinatorError Unit
  | [] => ([], .ok ())
  | ⟨localId, selfId⟩ :: rest =>
      match clock localId with
      | none => ([], .error .clock)
      | some nowSeconds =>
          let (events, result) := heartbeats config clock rest
          (heartbeatEvent selfId config.idFormat config.heartbeatMs nowSeconds :: events, result)

def attachLifecycleIdentity (event : AccountEvent Notice) (identities : Identities)
    (idFormat : IdFormat) (projected : Json) : Json :=
  match event with
  | .lifecycle localId _ _ _ =>
      match identities.lookup localId, projected with
      | some selfId, .object fields =>
          .object (Json.insertField "self_id" (idFormat.value selfId.toNat) fields)
      | _, _ => projected
  | _ => projected

/-- The phases that take an account off the dispatcher. -/
def takesOff (phase : AccountPhase) : Bool :=
  phase = .stopped || phase = .protectiveOffline

namespace Coordinator

def fail (coordinator : Coordinator Handle) (error : CoordinatorError) : Coordinator Handle :=
  { coordinator with ended := some (.error error) }

/-- The first part of a turn: an announced identity is registered. -/
def announce (config : CoordinatorConfig Handle Notice) (coordinator : Coordinator Handle)
    (event : AccountEvent Notice) : Except CoordinatorError (Coordinator Handle) :=
  match event with
  | .identityReady localId identity =>
      match config.actions localId with
      | none => .error .actionHandleMissing
      | some handle =>
          match register coordinator.routes identity.qqId handle with
          | .error error => .error (.registration error)
          | .ok routes => .ok { coordinator with
              routes := routes
              identities := coordinator.identities.insert localId identity.qqId }
  | _ => .ok coordinator

/-- The last part of a turn: an account that stopped is taken off. -/
def withdraw (coordinator : Coordinator Handle) (event : AccountEvent Notice) :
    Coordinator Handle :=
  match event with
  | .lifecycle localId phase _ _ =>
      if takesOff phase then
        match coordinator.identities.lookup localId with
        | some selfId => { coordinator with
            identities := coordinator.identities.erase localId
            routes := unregister coordinator.routes selfId }
        | none => coordinator
      else coordinator
  | _ => coordinator

/-- What a turn publishes for an event. -/
def published (config : CoordinatorConfig Handle Notice) (coordinator : Coordinator Handle)
    (event : AccountEvent Notice) : List Json :=
  match projectAccountEvent config.projectNotice config.idFormat event with
  | .ok (some projected) =>
      [attachLifecycleIdentity event coordinator.identities config.idFormat projected]
  | _ => []

def turn (config : CoordinatorConfig Handle Notice) (coordinator : Coordinator Handle) :
    CoordinatorInput Notice → Coordinator Handle × List Json
  | .received (.error error) => (coordinator.fail (.events error), [])
  | .received (.ok event) =>
      match announce config coordinator event with
      | .error error => (coordinator.fail error, [])
      | .ok announced => (announced.withdraw event, published config announced event)
  | .heartbeat clock =>
      match heartbeats config clock coordinator.identities.inOrder with
      | (events, .error error) => (coordinator.fail error, events)
      | (events, .ok ()) => (coordinator, events)
  | .shutdownChanged changed =>
      if changed = none ∨ changed = some true then
        ({ coordinator with ended := some (.ok ()) }, [])
      else (coordinator, [])

/-- A coordinator that has returned does nothing more. -/
def step (config : CoordinatorConfig Handle Notice) (coordinator : Coordinator Handle)
    (input : CoordinatorInput Notice) : Coordinator Handle × List Json :=
  if coordinator.ended.isSome then (coordinator, []) else turn config coordinator input

end Coordinator

def coordinate (config : CoordinatorConfig Handle Notice) :
    Machine (Coordinator Handle) (CoordinatorInput Notice) (List Json) where
  step := Coordinator.step config

end OneBot
end Lirvena
