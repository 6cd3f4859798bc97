import Lirvena.Dispatch.QuickOperation
import Lirvena.Lib.Run

/-!
# The dispatcher

All transports hand their requests to one dispatcher.  It looks up the backend of the
account that a request is for and calls it at once, puts the call into the bounded queue
of the asynchronous lane, or makes it under the lock of the rate-limited lane.  A quick
operation is dispatched as its actions, one after the other, up to the first that fails.

Dispatches run beside each other.  A step of the system is what one of them does between
two points at which another thread may come in: the accounts are read once to select a
backend and once more to explain that there is none, and a dispatch that waits for a
backend or for the lock may be dropped with its connection.
-/

namespace Lirvena
namespace Dispatch

open Lib
open OneBot (IdFormat Routes)

variable {Handle : Type}

structure DispatcherConfig where
  boundSelfId : Option UInt64
  queueCapacity : Nat
  idFormat : IdFormat

structure QueuedAction (Handle : Type) where
  backend : Handle
  request : ActionRequest

/-! ## One dispatch -/

/-- Where `dispatch_regular` stands. -/
inductive Stage (Handle : Type) where
  | selecting
  | unselected
  | selected (backend : Handle)
  /-- The rate-limited lane is waited for. -/
  | locking (backend : Handle)
  | calling (backend : Handle)

inductive Phase (Handle : Type) where
  /-- An action is dispatched; the others are those of a quick operation. -/
  | acting (stage : Stage Handle) (action : ActionRequest) (rest : List ActionRequest)
  | answered (response : ActionResponse)
  | dropped

structure Task (Handle : Type) where
  request : ActionRequest
  phase : Phase Handle

def isQuick (request : ActionRequest) : Bool :=
  request.action = ".handle_quick_operation"

/-- The loop of `dispatch_quick_operation`, before its next action. -/
def proceed (request : ActionRequest) : List ActionRequest → Phase Handle
  | [] => .answered (.success .null request.echo)
  | action :: rest => .acting .selecting action rest

/-- The actions that a request stands for. -/
def plan (request : ActionRequest) : Except BackendError (List ActionRequest) :=
  if isQuick request then expandQuickOperation request else .ok [request]

/-- The first part of `dispatch`. -/
def begin (request : ActionRequest) : Phase Handle :=
  match plan request with
  | .error error => .answered (.backendFailure request.echo error)
  | .ok actions => proceed request actions

/-- An action has been answered. -/
def conclude (request : ActionRequest) (rest : List ActionRequest) (response : ActionResponse) :
    Phase Handle :=
  if isQuick request then
    if response.accepted then proceed request rest
    else .answered (response.fromNestedFailure request.echo)
  else .answered response

/-- What an action is answered with when its backend has answered. -/
def backendResponse (idFormat : IdFormat) (echo : Option Json) :
    Except BackendError Json → ActionResponse
  | .ok data => .success (projectData idFormat data) echo
  | .error error => .backendFailure echo error

/-- What an action is answered with that no backend was selected for. -/
def unselectedResponse (config : DispatcherConfig) (accountCount : Nat) (echo : Option Json) :
    ActionResponse :=
  if 1 < accountCount ∧ config.boundSelfId = none then .accountRequired echo
  else .backendFailure echo .accountUnavailable

/-! ## The system -/

structure Dispatcher (Handle : Type) where
  routes : Routes Handle
  /-- The dispatches, in the order in which they were begun. -/
  tasks : List (Task Handle)
  queue : List (QueuedAction Handle)
  /-- What the asynchronous lane is working on. -/
  lane : Option (QueuedAction Handle)
  /-- The dispatch that has the lock of the rate-limited lane. -/
  limiter : Option Nat

inductive DispatcherInput (Handle : Type) where
  | register (selfId : UInt64) (backend : Handle)
  | unregister (selfId : UInt64)
  | dispatch (request : ActionRequest)
  /-- A dispatch goes on to where another thread may come in. -/
  | advance (task : Nat)
  /-- The backend that a dispatch waits for answers. -/
  | answer (task : Nat) (result : Except BackendError Json)
  /-- A dispatch is dropped with its connection. -/
  | drop (task : Nat)
  | takeQueued
  | answerQueued (result : Except BackendError Json)

inductive DispatcherOutput (Handle : Type) where
  | idle
  | registered (result : Except BackendError Unit)
  | unregistered (removed : Bool)
  | begun (task : Nat)
  | moved
  | called (task : Nat) (backend : Handle) (action : ActionRequest)
  | queued (task : Nat) (item : QueuedAction Handle)
  | returned
  | taken (item : QueuedAction Handle)

namespace Dispatcher

def opened (routes : Routes Handle) : Dispatcher Handle where
  routes := routes
  tasks := []
  queue := []
  lane := none
  limiter := none

def maxQueueCapacity : Nat := 4096

def validateCapacity (config : DispatcherConfig) : Except BackendError Unit :=
  rejectIf (.badParameters "OneBot queue capacity is invalid")
    (config.queueCapacity = 0 ∨ maxQueueCapacity < config.queueCapacity)

/-- The loop of `new`. -/
def indexed (routes : Routes Handle) : List (UInt64 × Handle) →
    Except BackendError (Routes Handle)
  | [] => .ok routes
  | (selfId, backend) :: rest =>
      if selfId = 0 ∨ selfId ∈ routes then
        .error (.badParameters "OneBot account routing is invalid")
      else indexed (routes.insert selfId backend) rest

def new (accounts : List (UInt64 × Handle)) (config : DispatcherConfig) :
    Except BackendError (Dispatcher Handle) := do
  validateCapacity config
  let routes ← indexed ∅ accounts
  rejectIf (.badParameters "OneBot endpoint account binding is invalid")
    (routes.entries = [] ∨ config.boundSelfId.any fun selfId => selfId ∉ routes)
  return opened routes

def empty (config : DispatcherConfig) : Except BackendError (Dispatcher Handle) := do
  validateCapacity config
  return opened ∅

def registrationError : OneBot.BackendError → BackendError
  | .badParameters message => .badParameters message

def setPhase (dispatcher : Dispatcher Handle) (index : Nat) (task : Task Handle)
    (phase : Phase Handle) : Dispatcher Handle :=
  { dispatcher with tasks := dispatcher.tasks.set index { task with phase := phase } }

/-- The lock of the rate-limited lane is given back with the dispatch that has it. -/
def release (dispatcher : Dispatcher Handle) (index : Nat) : Dispatcher Handle :=
  if dispatcher.limiter = some index then { dispatcher with limiter := none } else dispatcher

/-- A dispatch goes on from where it stands. -/
def advance (config : DispatcherConfig) (dispatcher : Dispatcher Handle) (index : Nat)
    (task : Task Handle) (action : ActionRequest) (rest : List ActionRequest) :
    Stage Handle → Dispatcher Handle × DispatcherOutput Handle
  | .selecting =>
      match OneBot.select dispatcher.routes (config.boundSelfId.or action.selfId) with
      | some backend =>
          (dispatcher.setPhase index task (.acting (.selected backend) action rest), .moved)
      | none => (dispatcher.setPhase index task (.acting .unselected action rest), .moved)
  | .unselected =>
      (dispatcher.setPhase index task (conclude task.request rest
        (unselectedResponse config dispatcher.routes.entries.length action.echo)), .moved)
  | .selected backend =>
      match action.mode with
      | .synchronous =>
          (dispatcher.setPhase index task (.acting (.calling backend) action rest),
            .called index backend action.intoBackend)
      | .asynchronous =>
          if dispatcher.queue.length < config.queueCapacity then
            ({ dispatcher.setPhase index task (conclude task.request rest
                (.asynchronous action.echo)) with
                queue := dispatcher.queue ++ [⟨backend, action.intoBackend⟩] },
              .queued index ⟨backend, action.intoBackend⟩)
          else
            (dispatcher.setPhase index task (conclude task.request rest
              (.backendFailure action.echo .overloaded)), .moved)
      | .rateLimited =>
          (dispatcher.setPhase index task (.acting (.locking backend) action rest), .moved)
  | .locking backend =>
      match dispatcher.limiter with
      | none =>
          ({ dispatcher.setPhase index task (.acting (.calling backend) action rest) with
              limiter := some index },
            .called index backend action.intoBackend)
      | some _ => (dispatcher, .idle)
  | .calling _ => (dispatcher, .idle)

def step (config : DispatcherConfig) (dispatcher : Dispatcher Handle) :
    DispatcherInput Handle → Dispatcher Handle × DispatcherOutput Handle
  | .register selfId backend =>
      match OneBot.register dispatcher.routes selfId backend with
      | .ok routes => ({ dispatcher with routes := routes }, .registered (.ok ()))
      | .error error => (dispatcher, .registered (.error (registrationError error)))
  | .unregister selfId =>
      ({ dispatcher with routes := OneBot.unregister dispatcher.routes selfId },
        .unregistered (selfId ∈ dispatcher.routes))
  | .dispatch request =>
      ({ dispatcher with tasks := dispatcher.tasks ++ [⟨request, begin request⟩] },
        .begun dispatcher.tasks.length)
  | .advance index =>
      match dispatcher.tasks[index]? with
      | some ⟨request, .acting stage action rest⟩ =>
          advance config dispatcher index ⟨request, .acting stage action rest⟩ action rest stage
      | _ => (dispatcher, .idle)
  | .answer index result =>
      match dispatcher.tasks[index]? with
      | some ⟨request, .acting (.calling backend) action rest⟩ =>
          ((dispatcher.release index).setPhase index
            ⟨request, .acting (.calling backend) action rest⟩
            (conclude request rest (backendResponse config.idFormat action.echo result)),
            .returned)
      | _ => (dispatcher, .idle)
  | .drop index =>
      match dispatcher.tasks[index]? with
      | some ⟨request, .acting stage action rest⟩ =>
          ((dispatcher.release index).setPhase index ⟨request, .acting stage action rest⟩ .dropped,
            .moved)
      | _ => (dispatcher, .idle)
  | .takeQueued =>
      match dispatcher.lane, dispatcher.queue with
      | none, item :: rest =>
          ({ dispatcher with queue := rest, lane := some item }, .taken item)
      | _, _ => (dispatcher, .idle)
  | .answerQueued _ =>
      match dispatcher.lane with
      | some _ => ({ dispatcher with lane := none }, .returned)
      | none => (dispatcher, .idle)

end Dispatcher

/-- The dispatcher with all its dispatches. -/
def dispatcher (config : DispatcherConfig) :
    Machine (Dispatcher Handle) (DispatcherInput Handle) (DispatcherOutput Handle) where
  step := Dispatcher.step config

/-! ## What a step can do -/

/-- A dispatch goes on, and nothing else happens. -/
inductive Quiet (config : DispatcherConfig) (dispatcher : Dispatcher Handle)
    (request : ActionRequest) (action : ActionRequest) (rest : List ActionRequest) :
    Stage Handle → Phase Handle → Prop where
  | selected {backend : Handle}
      (hselect : OneBot.select dispatcher.routes (config.boundSelfId.or action.selfId) =
        some backend) :
      Quiet config dispatcher request action rest .selecting
        (.acting (.selected backend) action rest)
  | unselected
      (hselect : OneBot.select dispatcher.routes (config.boundSelfId.or action.selfId) = none) :
      Quiet config dispatcher request action rest .selecting (.acting .unselected action rest)
  | explained :
      Quiet config dispatcher request action rest .unselected
        (conclude request rest
          (unselectedResponse config dispatcher.routes.entries.length action.echo))
  | overloaded {backend : Handle} (hmode : action.mode = .asynchronous)
      (hfull : ¬ dispatcher.queue.length < config.queueCapacity) :
      Quiet config dispatcher request action rest (.selected backend)
        (conclude request rest (.backendFailure action.echo .overloaded))
  | limited {backend : Handle} (hmode : action.mode = .rateLimited) :
      Quiet config dispatcher request action rest (.selected backend)
        (.acting (.locking backend) action rest)

/-- The steps of the dispatcher. -/
inductive Turn (config : DispatcherConfig) (dispatcher : Dispatcher Handle) :
    DispatcherInput Handle → Dispatcher Handle × DispatcherOutput Handle → Prop where
  | idle (input : DispatcherInput Handle) : Turn config dispatcher input (dispatcher, .idle)
  | registered {selfId : UInt64} {backend : Handle} {routes : Routes Handle}
      (hregister : OneBot.register dispatcher.routes selfId backend = .ok routes) :
      Turn config dispatcher (.register selfId backend)
        ({ dispatcher with routes := routes }, .registered (.ok ()))
  | refused {selfId : UInt64} {backend : Handle} (error : BackendError) :
      Turn config dispatcher (.register selfId backend) (dispatcher, .registered (.error error))
  | unregistered (selfId : UInt64) :
      Turn config dispatcher (.unregister selfId)
        ({ dispatcher with routes := OneBot.unregister dispatcher.routes selfId },
          .unregistered (selfId ∈ dispatcher.routes))
  | begun (request : ActionRequest) :
      Turn config dispatcher (.dispatch request)
        ({ dispatcher with tasks := dispatcher.tasks ++ [⟨request, begin request⟩] },
          .begun dispatcher.tasks.length)
  | quiet {index : Nat} {request action : ActionRequest} {rest : List ActionRequest}
      {stage : Stage Handle} {phase : Phase Handle}
      (htask : dispatcher.tasks[index]? = some ⟨request, .acting stage action rest⟩)
      (hquiet : Quiet config dispatcher request action rest stage phase) :
      Turn config dispatcher (.advance index)
        (dispatcher.setPhase index ⟨request, .acting stage action rest⟩ phase, .moved)
  | called {index : Nat} {request action : ActionRequest} {rest : List ActionRequest}
      {backend : Handle}
      (htask : dispatcher.tasks[index]? =
        some ⟨request, .acting (.selected backend) action rest⟩)
      (hmode : action.mode = .synchronous) :
      Turn config dispatcher (.advance index)
        (dispatcher.setPhase index ⟨request, .acting (.selected backend) action rest⟩
          (.acting (.calling backend) action rest), .called index backend action.intoBackend)
  | queued {index : Nat} {request action : ActionRequest} {rest : List ActionRequest}
      {backend : Handle}
      (htask : dispatcher.tasks[index]? =
        some ⟨request, .acting (.selected backend) action rest⟩)
      (hmode : action.mode = .asynchronous)
      (hroom : dispatcher.queue.length < config.queueCapacity) :
      Turn config dispatcher (.advance index)
        ({ dispatcher.setPhase index ⟨request, .acting (.selected backend) action rest⟩
            (conclude request rest (.asynchronous action.echo)) with
            queue := dispatcher.queue ++ [⟨backend, action.intoBackend⟩] },
          .queued index ⟨backend, action.intoBackend⟩)
  | locked {index : Nat} {request action : ActionRequest} {rest : List ActionRequest}
      {backend : Handle}
      (htask : dispatcher.tasks[index]? =
        some ⟨request, .acting (.locking backend) action rest⟩)
      (hfree : dispatcher.limiter = none) :
      Turn config dispatcher (.advance index)
        ({ dispatcher.setPhase index ⟨request, .acting (.locking backend) action rest⟩
            (.acting (.calling backend) action rest) with limiter := some index },
          .called index backend action.intoBackend)
  | returned {index : Nat} {request action : ActionRequest} {rest : List ActionRequest}
      {backend : Handle}
      (htask : dispatcher.tasks[index]? =
        some ⟨request, .acting (.calling backend) action rest⟩)
      (result : Except BackendError Json) :
      Turn config dispatcher (.answer index result)
        ((dispatcher.release index).setPhase index
          ⟨request, .acting (.calling backend) action rest⟩
          (conclude request rest (backendResponse config.idFormat action.echo result)), .returned)
  | dropped {index : Nat} {request action : ActionRequest} {rest : List ActionRequest}
      {stage : Stage Handle}
      (htask : dispatcher.tasks[index]? = some ⟨request, .acting stage action rest⟩) :
      Turn config dispatcher (.drop index)
        ((dispatcher.release index).setPhase index ⟨request, .acting stage action rest⟩ .dropped,
          .moved)
  | taken {item : QueuedAction Handle} {rest : List (QueuedAction Handle)}
      (hlane : dispatcher.lane = none) (hqueue : dispatcher.queue = item :: rest) :
      Turn config dispatcher .takeQueued
        ({ dispatcher with queue := rest, lane := some item }, .taken item)
  | finished {item : QueuedAction Handle} (hlane : dispatcher.lane = some item)
      (result : Except BackendError Json) :
      Turn config dispatcher (.answerQueued result) ({ dispatcher with lane := none }, .returned)

namespace Dispatcher

theorem advance_turn (config : DispatcherConfig) {dispatcher : Dispatcher Handle} {index : Nat}
    {request action : ActionRequest} {rest : List ActionRequest} {stage : Stage Handle}
    (htask : dispatcher.tasks[index]? = some ⟨request, .acting stage action rest⟩) :
    Turn config dispatcher (.advance index)
      (advance config dispatcher index ⟨request, .acting stage action rest⟩ action rest stage) := by
  cases stage with
  | selecting =>
      rw [advance]
      cases hselect : OneBot.select dispatcher.routes (config.boundSelfId.or action.selfId) with
      | some backend => exact .quiet htask (.selected hselect)
      | none => exact .quiet htask (.unselected hselect)
  | unselected => exact .quiet htask .explained
  | selected backend =>
      rw [advance]
      cases hmode : action.mode with
      | synchronous => exact .called htask hmode
      | asynchronous =>
          dsimp only
          split
          · next hroom => exact .queued htask hmode hroom
          · next hfull => exact .quiet htask (.overloaded hmode hfull)
      | rateLimited => exact .quiet htask (.limited hmode)
  | locking backend =>
      rw [advance]
      cases hlimiter : dispatcher.limiter with
      | none => exact .locked htask hlimiter
      | some holder => exact .idle _
  | calling backend => exact .idle _

/-- Every step is one of the turns. -/
theorem step_turn (config : DispatcherConfig) (dispatcher : Dispatcher Handle)
    (input : DispatcherInput Handle) :
    Turn config dispatcher input (step config dispatcher input) := by
  cases input with
  | register selfId backend =>
      rw [step]
      cases hregister : OneBot.register dispatcher.routes selfId backend with
      | ok routes => exact .registered hregister
      | error error => exact .refused _
  | unregister selfId => exact .unregistered selfId
  | dispatch request => exact .begun request
  | advance index =>
      rw [step]
      split
      · next request stage action rest htask => exact advance_turn config htask
      · exact .idle _
  | answer index result =>
      rw [step]
      split
      · next request backend action rest htask => exact .returned htask result
      · exact .idle _
  | drop index =>
      rw [step]
      split
      · next request stage action rest htask => exact .dropped htask
      · exact .idle _
  | takeQueued =>
      rw [step]
      split
      · next item rest hlane hqueue => exact .taken hlane hqueue
      · exact .idle _
  | answerQueued result =>
      rw [step]
      split
      · next item hlane => exact .finished hlane result
      · exact .idle _

end Dispatcher

end Dispatch
end Lirvena
