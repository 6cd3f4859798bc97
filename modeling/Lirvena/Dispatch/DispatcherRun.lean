import Lirvena.Dispatch.Dispatcher

/-!
# Runs of the dispatcher

Whatever other dispatches, registrations and lost connections come between its steps, a
dispatch hands over the actions that its request stands for, each once, in their order, and
to the backend of the account that it is for.  It is answered with the echo of its request,
and with a success only after all of its actions were handed over.  The rate-limited lane
has one call at a time, and the asynchronous lane calls what was put into its queue in order.
-/

namespace Lirvena
namespace Dispatch

open Lib
open OneBot (IdFormat Routes)

variable {Handle : Type}

/-! ## What a history says -/

abbrev DispatcherEntry (Handle : Type) := DispatcherInput Handle × DispatcherOutput Handle

/-- The accounts after one more step. -/
def route (routes : Routes Handle) : DispatcherEntry Handle → Routes Handle
  | (input, .registered (.ok ())) =>
      match input with
      | .register selfId backend => routes.insert selfId backend
      | _ => routes
  | (input, .unregistered _) =>
      match input with
      | .unregister selfId => routes.erase selfId
      | _ => routes
  | _ => routes

def routesAfter (initial : Routes Handle) (history : List (DispatcherEntry Handle)) :
    Routes Handle :=
  history.foldl route initial

def dispatched : DispatcherEntry Handle → Option ActionRequest
  | (input, .begun _) =>
      match input with
      | .dispatch request => some request
      | _ => none
  | _ => none

/-- What a dispatch hands over: a call of a backend, or a call that is put into the queue. -/
def handed (index : Nat) : DispatcherEntry Handle → Option (Handle × ActionRequest)
  | (_, .called task backend action) => if task = index then some (backend, action) else none
  | (_, .queued task item) => if task = index then some (item.backend, item.request) else none
  | _ => none

def handedOver (history : List (DispatcherEntry Handle)) (index : Nat) :
    List (Handle × ActionRequest) :=
  history.filterMap (handed index)

/-- What a backend answers to a dispatch. -/
def answerOf (index : Nat) : DispatcherEntry Handle → Option Json
  | (input, .returned) =>
      match input with
      | .answer task (.ok data) => if task = index then some data else none
      | _ => none
  | _ => none

def answers (history : List (DispatcherEntry Handle)) (index : Nat) : List Json :=
  history.filterMap (answerOf index)

/-- The account had the backend at some time after the dispatch was begun. -/
def RoutedSince (initial : Routes Handle) (history : List (DispatcherEntry Handle))
    (index : Nat) (selfId : UInt64) (backend : Handle) : Prop :=
  ∃ earlier, earlier <+: history ∧ index < (earlier.filterMap dispatched).length ∧
    (routesAfter initial earlier).lookup selfId = some backend

def queuedItem : DispatcherEntry Handle → Option (QueuedAction Handle)
  | (_, .queued _ item) => some item
  | _ => none

def takenItem : DispatcherEntry Handle → Option (QueuedAction Handle)
  | (_, .taken item) => some item
  | _ => none

/-- The entry is not about the dispatch. -/
def Silent (index : Nat) (entry : DispatcherEntry Handle) : Prop :=
  handed index entry = none ∧ answerOf index entry = none

section Append

variable {history : List (DispatcherEntry Handle)} {entry : DispatcherEntry Handle}
variable {index : Nat}

theorem handedOver_append (history : List (DispatcherEntry Handle))
    (entry : DispatcherEntry Handle) (index : Nat) :
    handedOver (history ++ [entry]) index =
      handedOver history index ++ (handed index entry).toList := by
  rw [handedOver, List.filterMap_append, handedOver]
  cases hentry : handed index entry <;> simp [hentry]

theorem answers_append (history : List (DispatcherEntry Handle))
    (entry : DispatcherEntry Handle) (index : Nat) :
    answers (history ++ [entry]) index =
      answers history index ++ (answerOf index entry).toList := by
  rw [answers, List.filterMap_append, answers]
  cases hentry : answerOf index entry <;> simp [hentry]

theorem Silent.handedOver (hsilent : Silent index entry) :
    handedOver (history ++ [entry]) index = handedOver history index := by
  rw [handedOver_append, hsilent.1, Option.toList_none, List.append_nil]

theorem Silent.answers (hsilent : Silent index entry) :
    answers (history ++ [entry]) index = answers history index := by
  rw [answers_append, hsilent.2, Option.toList_none, List.append_nil]

theorem RoutedSince.append {initial : Routes Handle} {selfId : UInt64} {backend : Handle}
    (hrouted : RoutedSince initial history index selfId backend)
    (entry : DispatcherEntry Handle) :
    RoutedSince initial (history ++ [entry]) index selfId backend := by
  obtain ⟨earlier, hearlier, hrest⟩ := hrouted
  exact ⟨earlier, hearlier.trans (List.prefix_append _ _), hrest⟩

end Append

/-! ## The account of a dispatch -/

/-- The backend is that of the account that the action is for. -/
def Reaches (config : DispatcherConfig) (routed : UInt64 → Handle → Prop)
    (action : ActionRequest) (backend : Handle) : Prop :=
  ∃ selfId, routed selfId backend ∧
    ∀ target, config.boundSelfId.or action.selfId = some target → target = selfId

theorem Reaches.mono {config : DispatcherConfig} {routed more : UInt64 → Handle → Prop}
    {action : ActionRequest} {backend : Handle} (hreaches : Reaches config routed action backend)
    (hmore : ∀ selfId handle, routed selfId handle → more selfId handle) :
    Reaches config more action backend := by
  obtain ⟨selfId, hrouted, htarget⟩ := hreaches
  exact ⟨selfId, hmore _ _ hrouted, htarget⟩

theorem select_reaches {config : DispatcherConfig} {routes : Routes Handle}
    {routed : UInt64 → Handle → Prop} {action : ActionRequest} {backend : Handle}
    (hroutes : ∀ selfId handle, routes.lookup selfId = some handle → routed selfId handle)
    (hselect : OneBot.select routes (config.boundSelfId.or action.selfId) = some backend) :
    Reaches config routed action backend := by
  cases htarget : config.boundSelfId.or action.selfId with
  | some selfId =>
      rw [htarget] at hselect
      refine ⟨selfId, hroutes selfId backend hselect, fun target hsame => ?_⟩
      rw [htarget] at hsame
      exact (Option.some.inj hsame).symm
  | none =>
      rw [htarget, OneBot.select] at hselect
      split at hselect
      · next entry hentries =>
          cases hselect
          refine ⟨entry.1, hroutes entry.1 entry.2 ?_, fun target hsame => ?_⟩
          · refine AList.mem_lookup_iff.mpr ?_
            rw [hentries]
            exact List.mem_singleton_self _
          · rw [htarget] at hsame
            cases hsame
      · cases hselect

/-- The backend of an action that is dispatched is one of its account, and in its lane. -/
def Stage.Holds (config : DispatcherConfig) (routed : UInt64 → Handle → Prop)
    (action : ActionRequest) : Stage Handle → Prop
  | .selecting => True
  | .unselected => True
  | .selected backend => Reaches config routed action backend
  | .locking backend => Reaches config routed action backend ∧ action.mode = .rateLimited
  | .calling backend => Reaches config routed action backend ∧ action.mode ≠ .asynchronous

/-- What has been handed over of the action that is dispatched. -/
def Stage.handed (action : ActionRequest) : Stage Handle → List ActionRequest
  | .calling _ => [action]
  | _ => []

/-- What a request hands over if nothing fails. -/
def planned (request : ActionRequest) : List ActionRequest :=
  match plan request with
  | .ok actions => actions.map ActionRequest.intoBackend
  | .error _ => []

/-- A response to a request of which `sent` was handed over and that `data` was answered to. -/
structure Answers (config : DispatcherConfig) (request : ActionRequest)
    (sent : List ActionRequest) (data : List Json) (response : ActionResponse) : Prop where
  echo : response.echo = request.echo
  coherent : response.Coherent
  /-- No success is reported before everything has been handed over. -/
  complete : response.status ≠ .failed →
    sent = planned request ∧ ∃ actions, plan request = .ok actions
  /-- What is shown is what the backend answered, in the format of the endpoint. -/
  shown : response.status = .ok → isQuick request = false →
    ∃ found ∈ data, response.data = projectData config.idFormat found
  queued : response.status = .async → isQuick request = false ∧ request.mode = .asynchronous

/-- A dispatch of which `sent` was handed over and that `data` was answered to. -/
def PhaseHolds (config : DispatcherConfig) (routed : UInt64 → Handle → Prop)
    (request : ActionRequest) (sent : List ActionRequest) (data : List Json) :
    Phase Handle → Prop
  | .acting stage action rest => ∃ before,
      plan request = .ok (before ++ action :: rest) ∧
        sent = (before ++ stage.handed action).map ActionRequest.intoBackend ∧
        stage.Holds config routed action
  | .answered response => Answers config request sent data response
  | .dropped => True

/-- The account of a dispatch. -/
structure TaskHolds (config : DispatcherConfig) (initial : Routes Handle)
    (history : List (DispatcherEntry Handle)) (index : Nat) (task : Task Handle) : Prop where
  /-- Each action is handed over once, and in its order. -/
  inOrder : (handedOver history index).map Prod.snd <+: planned task.request
  reaches : ∀ entry ∈ handedOver history index,
    Reaches config (RoutedSince initial history index) entry.2 entry.1
  phase : PhaseHolds config (RoutedSince initial history index) task.request
    ((handedOver history index).map Prod.snd) (answers history index) task.phase

/-- The dispatch is at a call that it makes under the lock. -/
def isLimited (task : Task Handle) : Bool :=
  match task.phase with
  | .acting (.calling _) action _ => action.mode = .rateLimited
  | _ => false

theorem isLimited_proceed (request : ActionRequest) (rest : List ActionRequest) :
    isLimited (⟨request, proceed request rest⟩ : Task Handle) = false := by
  cases rest <;> rfl

theorem isLimited_begin (request : ActionRequest) :
    isLimited (⟨request, begin request⟩ : Task Handle) = false := by
  unfold begin
  cases plan request with
  | error error => rfl
  | ok actions => exact isLimited_proceed request actions

theorem isLimited_conclude (request : ActionRequest) (rest : List ActionRequest)
    (response : ActionResponse) :
    isLimited (⟨request, conclude request rest response⟩ : Task Handle) = false := by
  unfold conclude
  split
  · split
    · exact isLimited_proceed request rest
    · rfl
  · rfl

section Phase

variable {config : DispatcherConfig} {routed : UInt64 → Handle → Prop}
variable {request : ActionRequest} {sent : List ActionRequest} {data : List Json}

theorem plan_regular (hregular : isQuick request = false) : plan request = .ok [request] := by
  rw [plan, hregular]
  rfl

theorem planned_of_ok {actions : List ActionRequest} (hplan : plan request = .ok actions) :
    planned request = actions.map ActionRequest.intoBackend := by
  rw [planned, hplan]

theorem phaseHolds_proceed {before rest : List ActionRequest}
    (hplan : plan request = .ok (before ++ rest))
    (hsent : sent = before.map ActionRequest.intoBackend)
    (hquick : rest = [] → isQuick request = true) :
    PhaseHolds config routed request sent data (proceed request rest : Phase Handle) := by
  cases rest with
  | nil =>
      rw [List.append_nil] at hplan
      exact {
        echo := rfl
        coherent := ActionResponse.coherent_success _ _
        complete := fun _ => ⟨hsent.trans (planned_of_ok hplan).symm, before, hplan⟩
        shown := fun _ hregular => absurd (hquick rfl) (by rw [hregular]; decide)
        queued := fun hasync => by cases hasync }
  | cons action rest =>
      refine ⟨before, hplan, ?_, trivial⟩
      show sent = (before ++ []).map ActionRequest.intoBackend
      rw [hsent, List.append_nil]

theorem phaseHolds_begin (config : DispatcherConfig) (routed : UInt64 → Handle → Prop)
    (request : ActionRequest) :
    PhaseHolds config routed request [] [] (begin request) := by
  unfold begin
  cases hplan : plan request with
  | error error =>
      exact {
        echo := rfl
        coherent := ActionResponse.coherent_backendFailure _ _
        complete := fun hok => absurd rfl hok
        shown := fun hok => by cases hok
        queued := fun hasync => by cases hasync }
  | ok actions =>
      have hfirst : plan request = .ok ([] ++ actions) := hplan
      refine phaseHolds_proceed hfirst rfl fun hnil => ?_
      cases hquick : isQuick request with
      | true => rfl
      | false =>
          rw [plan_regular hquick] at hplan
          rw [hnil] at hplan
          cases hplan

/-- An action has been answered: the request is answered as well, or goes on. -/
theorem phaseHolds_conclude {before rest : List ActionRequest} {action : ActionRequest}
    {response : ActionResponse} (hplan : plan request = .ok (before ++ action :: rest))
    (hecho : response.echo = action.echo) (hcoherent : response.Coherent)
    (hsent : response.status ≠ .failed →
      sent = (before ++ [action]).map ActionRequest.intoBackend)
    (hshown : response.status = .ok →
      ∃ found ∈ data, response.data = projectData config.idFormat found)
    (hqueued : response.status = .async → action.mode = .asynchronous) :
    PhaseHolds config routed request sent data
      (conclude request rest response : Phase Handle) := by
  unfold conclude
  cases hquick : isQuick request with
  | true =>
      rw [if_pos rfl]
      split
      · next haccepted =>
          have hnext : plan request = .ok ((before ++ [action]) ++ rest) := by
            rw [hplan, List.append_assoc]
            rfl
          exact phaseHolds_proceed hnext (hsent (hcoherent.accepted_iff.mp haccepted))
            fun _ => hquick
      · next hfailed =>
          have hstatus : response.status = .failed :=
            not_not.mp fun hok => hfailed (hcoherent.accepted_iff.mpr hok)
          exact {
            echo := rfl
            coherent := ActionResponse.coherent_fromNestedFailure _ hcoherent
            complete := fun hok => absurd hstatus hok
            shown := fun hok => by rw [ActionResponse.fromNestedFailure, hstatus] at hok; cases hok
            queued := fun hok => by
              rw [ActionResponse.fromNestedFailure, hstatus] at hok; cases hok }
  | false =>
      rw [if_neg (by decide)]
      have hsingle := (plan_regular hquick).symm.trans hplan
      obtain ⟨rfl, rfl, rfl⟩ : before = [] ∧ request = action ∧ rest = [] := by
        cases before with
        | nil =>
            obtain ⟨hsame, hrest⟩ := List.cons.inj (Except.ok.inj hsingle)
            exact ⟨rfl, hsame, hrest.symm⟩
        | cons first before =>
            obtain ⟨-, hrest⟩ := List.cons.inj (Except.ok.inj hsingle)
            simp at hrest
      exact {
        echo := hecho
        coherent := hcoherent
        complete := fun hok => ⟨(hsent hok).trans (planned_of_ok (plan_regular hquick)).symm,
          _, plan_regular hquick⟩
        shown := fun hok _ => hshown hok
        queued := fun hasync => ⟨hquick, hqueued hasync⟩ }

/-- An action has failed. -/
theorem phaseHolds_failed {before rest : List ActionRequest} {action : ActionRequest}
    {response : ActionResponse} (hplan : plan request = .ok (before ++ action :: rest))
    (hecho : response.echo = action.echo) (hcoherent : response.Coherent)
    (hfailed : response.status = .failed) :
    PhaseHolds config routed request sent data
      (conclude request rest response : Phase Handle) :=
  phaseHolds_conclude hplan hecho hcoherent (fun hok => absurd hfailed hok)
    (fun hok => by rw [hfailed] at hok; cases hok) (fun hok => by rw [hfailed] at hok; cases hok)

theorem unselectedResponse_failed (config : DispatcherConfig) (accountCount : Nat)
    (echo : Option Json) :
    (unselectedResponse config accountCount echo).echo = echo ∧
      (unselectedResponse config accountCount echo).Coherent ∧
      (unselectedResponse config accountCount echo).status = .failed := by
  unfold unselectedResponse
  split
  · exact ⟨rfl, ActionResponse.coherent_accountRequired _, rfl⟩
  · exact ⟨rfl, ActionResponse.coherent_backendFailure _ _, rfl⟩

/-- What holds of a dispatch still holds when it goes on. -/
theorem Quiet.holds {dispatcher : Dispatcher Handle} {action : ActionRequest}
    {rest : List ActionRequest} {stage : Stage Handle} {phase : Phase Handle}
    (hquiet : Quiet config dispatcher request action rest stage phase)
    (hroutes : ∀ selfId handle, dispatcher.routes.lookup selfId = some handle →
      routed selfId handle)
    (hphase : PhaseHolds config routed request sent data (.acting stage action rest)) :
    PhaseHolds config routed request sent data phase := by
  obtain ⟨before, hplan, hsent, hstage⟩ := hphase
  cases hquiet with
  | selected hselect => exact ⟨before, hplan, hsent, select_reaches hroutes hselect⟩
  | unselected _ => exact ⟨before, hplan, hsent, trivial⟩
  | explained =>
      obtain ⟨hecho, hcoherent, hfailed⟩ := unselectedResponse_failed config
        dispatcher.routes.entries.length action.echo
      exact phaseHolds_failed hplan hecho hcoherent hfailed
  | overloaded _ _ =>
      exact phaseHolds_failed hplan rfl (ActionResponse.coherent_backendFailure _ _) rfl
  | limited hmode => exact ⟨before, hplan, hsent, hstage, hmode⟩

theorem Quiet.not_limited {dispatcher : Dispatcher Handle} {action : ActionRequest}
    {rest : List ActionRequest} {stage : Stage Handle} {phase : Phase Handle}
    (hquiet : Quiet config dispatcher request action rest stage phase) :
    isLimited ⟨request, .acting stage action rest⟩ = false ∧
      isLimited ⟨request, phase⟩ = false := by
  cases hquiet with
  | selected hselect => exact ⟨rfl, rfl⟩
  | unselected _ => exact ⟨rfl, rfl⟩
  | explained => exact ⟨rfl, isLimited_conclude _ _ _⟩
  | overloaded _ _ => exact ⟨rfl, isLimited_conclude _ _ _⟩
  | limited hmode => exact ⟨rfl, rfl⟩

theorem PhaseHolds.mono {more : UInt64 → Handle → Prop} {phase : Phase Handle}
    (hphase : PhaseHolds config routed request sent data phase)
    (hmore : ∀ selfId handle, routed selfId handle → more selfId handle) :
    PhaseHolds config more request sent data phase := by
  cases phase with
  | acting stage action rest =>
      obtain ⟨before, hplan, hsent, hstage⟩ := hphase
      refine ⟨before, hplan, hsent, ?_⟩
      cases stage with
      | selecting => trivial
      | unselected => trivial
      | selected backend => exact Reaches.mono hstage hmore
      | locking backend => exact ⟨hstage.1.mono hmore, hstage.2⟩
      | calling backend => exact ⟨hstage.1.mono hmore, hstage.2⟩
  | answered response => exact hphase
  | dropped => trivial

end Phase

/-! ## One step of a dispatch -/

section Task

variable {config : DispatcherConfig} {initial : Routes Handle}
variable {history : List (DispatcherEntry Handle)} {entry : DispatcherEntry Handle}
variable {index : Nat} {request action : ActionRequest} {rest : List ActionRequest}
variable {stage : Stage Handle} {phase : Phase Handle} {backend : Handle}

theorem TaskHolds.silent {task : Task Handle}
    (htask : TaskHolds config initial history index task) (hsilent : Silent index entry) :
    TaskHolds config initial (history ++ [entry]) index task where
  inOrder := by
    rw [hsilent.handedOver]
    exact htask.inOrder
  reaches := by
    rw [hsilent.handedOver]
    exact fun sent hsent => (htask.reaches sent hsent).mono fun _ _ hrouted =>
      hrouted.append entry
  phase := by
    rw [hsilent.handedOver, hsilent.answers]
    exact htask.phase.mono fun _ _ hrouted => hrouted.append entry

/-- A dispatch moves and hands nothing over. -/
theorem TaskHolds.moved {before : Phase Handle}
    (htask : TaskHolds config initial history index ⟨request, before⟩)
    (hhanded : handed index entry = none)
    (hphase : PhaseHolds config (RoutedSince initial history index) request
      ((handedOver history index).map Prod.snd) (answers (history ++ [entry]) index) phase) :
    TaskHolds config initial (history ++ [entry]) index ⟨request, phase⟩ := by
  have hsame : handedOver (history ++ [entry]) index = handedOver history index := by
    rw [handedOver_append, hhanded, Option.toList_none, List.append_nil]
  exact {
    inOrder := hsame ▸ htask.inOrder
    reaches := hsame ▸ fun sent hsent => (htask.reaches sent hsent).mono fun _ _ hrouted =>
      hrouted.append entry
    phase := hsame ▸ hphase.mono fun _ _ hrouted => hrouted.append entry }

/-- A dispatch hands its action over. -/
theorem TaskHolds.handing
    (htask : TaskHolds config initial history index ⟨request, .acting stage action rest⟩)
    (hstage : stage.handed action = [])
    (hreaches : Reaches config (RoutedSince initial history index) action backend)
    (hhanded : handed index entry = some (backend, action.intoBackend))
    (hphase : ∀ before, plan request = .ok (before ++ action :: rest) →
      PhaseHolds config (RoutedSince initial history index) request
        ((before ++ [action]).map ActionRequest.intoBackend)
        (answers (history ++ [entry]) index) phase) :
    TaskHolds config initial (history ++ [entry]) index ⟨request, phase⟩ := by
  obtain ⟨before, hplan, hsent, -⟩ := htask.phase
  have hmore : handedOver (history ++ [entry]) index =
      handedOver history index ++ [(backend, action.intoBackend)] := by
    rw [handedOver_append, hhanded, Option.toList_some]
  have hactions : (handedOver (history ++ [entry]) index).map Prod.snd =
      (before ++ [action]).map ActionRequest.intoBackend := by
    rw [hmore, List.map_append, hsent, hstage, List.append_nil, List.map_append]
    rfl
  refine ⟨?_, ?_, ?_⟩
  · have hsplit : before ++ action :: rest = (before ++ [action]) ++ rest :=
      List.append_cons before action rest
    rw [hactions, planned_of_ok hplan, hsplit]
    exact (List.prefix_append _ _).map _
  · rw [hmore]
    intro sent hmem
    rcases List.mem_append.mp hmem with hold | hnew
    · exact (htask.reaches sent hold).mono fun _ _ hrouted => hrouted.append entry
    · rw [List.mem_singleton.mp hnew]
      exact hreaches.mono fun _ _ hrouted => hrouted.append entry
  · rw [hactions]
    exact (hphase before hplan).mono fun _ _ hrouted => hrouted.append entry

end Task

/-! ## The rate-limited lane -/

/-- The lock is with the one dispatch that is at a limited call. -/
def Locked (tasks : List (Task Handle)) (limiter : Option Nat) : Prop :=
  ∀ index, limiter = some index ↔ ∃ task, tasks[index]? = some task ∧ isLimited task = true

section Locked

variable {tasks : List (Task Handle)} {limiter : Option Nat} {index : Nat}
variable {old new : Task Handle}

theorem Locked.append (hlocked : Locked tasks limiter) (hnew : isLimited new = false) :
    Locked (tasks ++ [new]) limiter := by
  intro other
  rw [hlocked other]
  constructor
  · rintro ⟨task, htask, hlimited⟩
    refine ⟨task, ?_, hlimited⟩
    rw [List.getElem?_append_left (List.getElem?_eq_some_iff.mp htask).1]
    exact htask
  · rintro ⟨task, htask, hlimited⟩
    rcases Nat.lt_or_ge other tasks.length with hold | hlast
    · rw [List.getElem?_append_left hold] at htask
      exact ⟨task, htask, hlimited⟩
    · rw [List.getElem?_append_right hlast] at htask
      have hmem := List.mem_singleton.mp (List.mem_of_getElem? htask)
      rw [hmem, hnew] at hlimited
      cases hlimited

theorem getElem?_set_task (htask : tasks[index]? = some old) (other : Nat) :
    (tasks.set index new)[other]? = if index = other then some new else tasks[other]? := by
  rw [List.getElem?_set]
  split
  · next hsame =>
      rw [if_pos (hsame ▸ (List.getElem?_eq_some_iff.mp htask).1)]
  · rfl

/-- A dispatch that has no lock moves to where it has none. -/
theorem Locked.set (hlocked : Locked tasks limiter) (htask : tasks[index]? = some old)
    (hold : isLimited old = false) (hnew : isLimited new = false) :
    Locked (tasks.set index new) limiter := by
  intro other
  rw [hlocked other, getElem?_set_task htask]
  split
  · next hsame =>
      subst hsame
      simp [htask, hold, hnew]
  · rfl

/-- A dispatch takes the free lock. -/
theorem Locked.take (hlocked : Locked tasks none) (htask : tasks[index]? = some old)
    (hnew : isLimited new = true) : Locked (tasks.set index new) (some index) := by
  intro other
  rw [getElem?_set_task htask]
  split
  · next hsame => simp [hsame, hnew]
  · next hother =>
      have hfree := hlocked other
      simp only [reduceCtorEq, false_iff] at hfree
      exact iff_of_false (fun hsame => hother (Option.some.inj hsame)) hfree

/-- A dispatch ends, and the lock is given back if it has it. -/
theorem Locked.release (hlocked : Locked tasks limiter) (htask : tasks[index]? = some old)
    (hnew : isLimited new = false) :
    Locked (tasks.set index new) (if limiter = some index then none else limiter) := by
  intro other
  rw [getElem?_set_task htask]
  have hother := hlocked other
  by_cases hsame : index = other
  · subst hsame
    rw [if_pos rfl]
    refine iff_of_false ?_ (by simp [hnew])
    split
    · exact fun hnone => by cases hnone
    · next hfree => exact hfree
  · rw [if_neg hsame, ← hother]
    split
    · next hheld => simp [hheld, hsame]
    · rfl

end Locked

theorem release_tasks (dispatcher : Dispatcher Handle) (index : Nat) :
    (dispatcher.release index).tasks = dispatcher.tasks := by
  unfold Dispatcher.release
  split <;> rfl

theorem release_limiter (dispatcher : Dispatcher Handle) (index : Nat) :
    (dispatcher.release index).limiter =
      if dispatcher.limiter = some index then none else dispatcher.limiter := by
  unfold Dispatcher.release
  split <;> rfl

theorem release_frame (dispatcher : Dispatcher Handle) (index : Nat) :
    (dispatcher.release index).routes = dispatcher.routes ∧
      (dispatcher.release index).queue = dispatcher.queue ∧
      (dispatcher.release index).lane = dispatcher.lane := by
  unfold Dispatcher.release
  split <;> exact ⟨rfl, rfl, rfl⟩

/-! ## Every run -/

/-- What a history says about the dispatches. -/
structure TasksHold (config : DispatcherConfig) (initial : Routes Handle)
    (history : List (DispatcherEntry Handle)) (tasks : List (Task Handle)) : Prop where
  requests : tasks.map Task.request = history.filterMap dispatched
  holds : ∀ index task, tasks[index]? = some task →
    TaskHolds config initial history index task
  /-- Nothing is handed over that no request asked for. -/
  unasked : ∀ index, tasks.length ≤ index →
    handedOver history index = [] ∧ answers history index = []

/-- What a history says about the asynchronous lane. -/
structure LaneHolds (config : DispatcherConfig) (history : List (DispatcherEntry Handle))
    (queue : List (QueuedAction Handle)) (lane : Option (QueuedAction Handle)) : Prop where
  /-- What was queued is taken in order. -/
  inLine : history.filterMap queuedItem = history.filterMap takenItem ++ queue
  bounded : queue.length ≤ config.queueCapacity
  /-- The last that was taken is worked on. -/
  working : ∀ item, lane = some item → (history.filterMap takenItem).getLast? = some item

/-- What a history says about the dispatcher. -/
structure Accounted (config : DispatcherConfig) (initial : Routes Handle)
    (history : List (DispatcherEntry Handle)) (dispatcher : Dispatcher Handle) : Prop where
  tasks : TasksHold config initial history dispatcher.tasks
  routes : dispatcher.routes = routesAfter initial history
  locked : Locked dispatcher.tasks dispatcher.limiter
  lane : LaneHolds config history dispatcher.queue dispatcher.lane

section Run

variable {config : DispatcherConfig} {initial : Routes Handle}
variable {history : List (DispatcherEntry Handle)} {entry : DispatcherEntry Handle}
variable {tasks : List (Task Handle)} {index : Nat} {old new : Task Handle}

theorem filterMap_append_none {α β : Type} {f : α → Option β} {items : List α} {item : α}
    (hnone : f item = none) : (items ++ [item]).filterMap f = items.filterMap f := by
  rw [List.filterMap_append, List.filterMap_cons_none hnone, List.filterMap_nil, List.append_nil]

theorem TasksHold.silent (hholds : TasksHold config initial history tasks)
    (hsilent : ∀ index, Silent index entry) (hdispatched : dispatched entry = none) :
    TasksHold config initial (history ++ [entry]) tasks where
  requests := by
    rw [filterMap_append_none hdispatched]
    exact hholds.requests
  holds := fun index task htask => (hholds.holds index task htask).silent (hsilent index)
  unasked := fun index hindex => by
    rw [(hsilent index).handedOver, (hsilent index).answers]
    exact hholds.unasked index hindex

/-- A step of one dispatch. -/
theorem TasksHold.set (hholds : TasksHold config initial history tasks)
    (htask : tasks[index]? = some old) (hothers : ∀ other ≠ index, Silent other entry)
    (hdispatched : dispatched entry = none) (hrequest : new.request = old.request)
    (hnew : TaskHolds config initial (history ++ [entry]) index new) :
    TasksHold config initial (history ++ [entry]) (tasks.set index new) where
  requests := by
    rw [filterMap_append_none hdispatched, ← hholds.requests, List.map_set, hrequest]
    obtain ⟨hindex, rfl⟩ := List.getElem?_eq_some_iff.mp htask
    rw [← List.getElem_map Task.request, List.set_getElem_self]
    rw [List.length_map]
    exact hindex
  holds := fun other task hother => by
    rw [getElem?_set_task htask] at hother
    split at hother
    · next hsame =>
        subst hsame
        obtain rfl := Option.some.inj hother
        exact hnew
    · next hdifferent =>
        exact (hholds.holds other task hother).silent (hothers other (Ne.symm hdifferent))
  unasked := fun other hother => by
    rw [List.length_set] at hother
    have hindex := (List.getElem?_eq_some_iff.mp htask).1
    have hsilent := hothers other (by omega)
    rw [hsilent.handedOver, hsilent.answers]
    exact hholds.unasked other hother

/-- A dispatch is begun. -/
theorem TasksHold.append (hholds : TasksHold config initial history tasks)
    (request : ActionRequest) :
    TasksHold config initial (history ++ [(.dispatch request, .begun tasks.length)])
      (tasks ++ [⟨request, begin request⟩]) := by
  have hsilent : ∀ index, Silent index
      (((.dispatch request, .begun tasks.length)) : DispatcherEntry Handle) :=
    fun _ => ⟨rfl, rfl⟩
  refine ⟨?_, ?_, ?_⟩
  · rw [List.map_append, hholds.requests, List.filterMap_append]
    rfl
  · intro index task htask
    rcases Nat.lt_or_ge index tasks.length with hold | hlast
    · rw [List.getElem?_append_left hold] at htask
      exact (hholds.holds index task htask).silent (hsilent index)
    · rw [List.getElem?_append_right hlast] at htask
      obtain rfl := List.mem_singleton.mp (List.mem_of_getElem? htask)
      obtain ⟨hhanded, hanswers⟩ := hholds.unasked index hlast
      have hhanded : handedOver (history ++ [(.dispatch request, .begun tasks.length)]) index =
          [] := (hsilent index).handedOver.trans hhanded
      have hanswers : answers (history ++ [(.dispatch request, .begun tasks.length)]) index =
          [] := (hsilent index).answers.trans hanswers
      refine ⟨?_, ?_, ?_⟩
      · rw [hhanded]
        exact List.nil_prefix
      · rw [hhanded]
        exact fun sent hsent => absurd hsent List.not_mem_nil
      · rw [hhanded, hanswers]
        exact phaseHolds_begin config _ request
  · intro index hindex
    rw [(hsilent index).handedOver, (hsilent index).answers]
    rw [List.length_append] at hindex
    exact hholds.unasked index (by omega)

theorem LaneHolds.silent {queue : List (QueuedAction Handle)}
    {lane : Option (QueuedAction Handle)} (hlane : LaneHolds config history queue lane)
    (hqueued : queuedItem entry = none) (htaken : takenItem entry = none) :
    LaneHolds config (history ++ [entry]) queue lane where
  inLine := by
    rw [filterMap_append_none hqueued, filterMap_append_none htaken]
    exact hlane.inLine
  bounded := hlane.bounded
  working := by
    rw [filterMap_append_none htaken]
    exact hlane.working

/-- An action is put at the end of the line. -/
theorem LaneHolds.queued {queue : List (QueuedAction Handle)}
    {lane : Option (QueuedAction Handle)} {item : QueuedAction Handle}
    (hlane : LaneHolds config history queue lane) (hqueued : queuedItem entry = some item)
    (htaken : takenItem entry = none) (hroom : queue.length < config.queueCapacity) :
    LaneHolds config (history ++ [entry]) (queue ++ [item]) lane where
  inLine := by
    rw [List.filterMap_append, hlane.inLine, filterMap_append_none htaken, List.append_assoc,
      List.filterMap_cons_some hqueued, List.filterMap_nil]
  bounded := by
    rw [List.length_append]
    exact hroom
  working := by
    rw [filterMap_append_none htaken]
    exact hlane.working

/-- The first of the line is taken. -/
theorem LaneHolds.taken {queue : List (QueuedAction Handle)}
    {lane : Option (QueuedAction Handle)} {item : QueuedAction Handle}
    (hlane : LaneHolds config history (item :: queue) lane) (hqueued : queuedItem entry = none)
    (htaken : takenItem entry = some item) :
    LaneHolds config (history ++ [entry]) queue (some item) where
  inLine := by
    rw [filterMap_append_none hqueued, hlane.inLine, List.filterMap_append,
      List.filterMap_cons_some htaken, List.filterMap_nil, List.append_assoc,
      List.singleton_append]
  bounded := Nat.le_of_succ_le hlane.bounded
  working := by
    intro other hother
    rw [List.filterMap_append, List.filterMap_cons_some htaken, List.filterMap_nil]
    obtain rfl := Option.some.inj hother
    exact List.getLast?_concat

theorem routesAfter_append (initial : Routes Handle) (history : List (DispatcherEntry Handle))
    (entry : DispatcherEntry Handle) :
    routesAfter initial (history ++ [entry]) = route (routesAfter initial history) entry := by
  rw [routesAfter, List.foldl_append]
  rfl

variable {dispatcher : Dispatcher Handle}

/-- The accounts of now are accounts since any dispatch was begun. -/
theorem Accounted.routedSince (haccounted : Accounted config initial history dispatcher)
    {task : Task Handle} (htask : dispatcher.tasks[index]? = some task) :
    ∀ selfId handle, dispatcher.routes.lookup selfId = some handle →
      RoutedSince initial history index selfId handle := by
  intro selfId handle hlookup
  refine ⟨history, List.prefix_rfl, ?_, haccounted.routes ▸ hlookup⟩
  rw [← haccounted.tasks.requests, List.length_map]
  exact (List.getElem?_eq_some_iff.mp htask).1

theorem silent_moved (input : DispatcherInput Handle) (index : Nat) :
    Silent index ((input, .moved) : DispatcherEntry Handle) :=
  ⟨rfl, rfl⟩

/-- A step of a dispatch that hands its action over. -/
theorem TasksHold.handing (hholds : TasksHold config initial history tasks)
    {request action : ActionRequest} {rest : List ActionRequest} {stage : Stage Handle}
    {phase : Phase Handle} {backend : Handle}
    (htask : tasks[index]? = some ⟨request, .acting stage action rest⟩)
    (hstage : stage.handed action = [])
    (hreaches : Reaches config (RoutedSince initial history index) action backend)
    (hhanded : handed index entry = some (backend, action.intoBackend))
    (hothers : ∀ other ≠ index, Silent other entry) (hdispatched : dispatched entry = none)
    (hphase : ∀ before, plan request = .ok (before ++ action :: rest) →
      PhaseHolds config (RoutedSince initial history index) request
        ((before ++ [action]).map ActionRequest.intoBackend)
        (answers (history ++ [entry]) index) phase) :
    TasksHold config initial (history ++ [entry]) (tasks.set index ⟨request, phase⟩) :=
  hholds.set htask hothers hdispatched rfl
    ((hholds.holds index _ htask).handing hstage hreaches hhanded hphase)

theorem silent_called {other : Nat} (hother : other ≠ index) (input : DispatcherInput Handle)
    (backend : Handle) (action : ActionRequest) :
    Silent other ((input, .called index backend action) : DispatcherEntry Handle) :=
  ⟨if_neg (Ne.symm hother), rfl⟩

/-- A backend answers to a dispatch. -/
theorem TasksHold.returned (hholds : TasksHold config initial history tasks)
    {request action : ActionRequest} {rest : List ActionRequest} {backend : Handle}
    (htask : tasks[index]? = some ⟨request, .acting (.calling backend) action rest⟩)
    (result : Except BackendError Json) :
    TasksHold config initial (history ++ [(.answer index result, .returned)])
      (tasks.set index
        ⟨request, conclude request rest (backendResponse config.idFormat action.echo result)⟩) := by
  have holds := hholds.holds index _ htask
  refine hholds.set htask ?_ rfl rfl ?_
  · intro other hother
    refine ⟨rfl, ?_⟩
    cases result with
    | ok data => exact if_neg (Ne.symm hother)
    | error error => rfl
  · obtain ⟨before, hplan, hsent, hreaches, hmode⟩ := holds.phase
    refine holds.moved rfl ?_
    cases result with
    | error error =>
        exact phaseHolds_failed hplan rfl (ActionResponse.coherent_backendFailure _ _) rfl
    | ok data =>
        refine phaseHolds_conclude hplan rfl (ActionResponse.coherent_success _ _)
          (fun _ => hsent) (fun _ => ⟨data, ?_, rfl⟩) (fun hasync => by cases hasync)
        have hfound : answerOf index ((.answer index (.ok data), .returned) :
            DispatcherEntry Handle) = some data := if_pos rfl
        rw [answers_append, hfound]
        exact List.mem_append_right _ (List.mem_singleton_self _)

/-- A step of a dispatch that gives the lock back, where it has it. -/
theorem Accounted.released (haccounted : Accounted config initial history dispatcher)
    {phase : Phase Handle} (htask : dispatcher.tasks[index]? = some old)
    (hroute : route dispatcher.routes entry = dispatcher.routes)
    (hqueued : queuedItem entry = none) (htaken : takenItem entry = none)
    (hunlimited : isLimited { old with phase := phase } = false)
    (htasks : TasksHold config initial (history ++ [entry])
      (dispatcher.tasks.set index { old with phase := phase })) :
    Accounted config initial (history ++ [entry])
      ((dispatcher.release index).setPhase index old phase) := by
  obtain ⟨hsameRoutes, hsameQueue, hsameLane⟩ := release_frame dispatcher index
  refine ⟨?_, ?_, ?_, ?_⟩
  · show TasksHold config initial _ ((dispatcher.release index).tasks.set index _)
    rw [release_tasks]
    exact htasks
  · show (dispatcher.release index).routes = _
    rw [hsameRoutes, routesAfter_append, ← haccounted.routes, hroute]
  · show Locked ((dispatcher.release index).tasks.set index _)
      (dispatcher.release index).limiter
    rw [release_tasks, release_limiter]
    exact haccounted.locked.release htask hunlimited
  · show LaneHolds config _ (dispatcher.release index).queue (dispatcher.release index).lane
    rw [hsameQueue, hsameLane]
    exact haccounted.lane.silent hqueued htaken

theorem Accounted.turn (haccounted : Accounted config initial history dispatcher)
    {input : DispatcherInput Handle} {result : Dispatcher Handle × DispatcherOutput Handle}
    (hturn : Turn config dispatcher input result) :
    Accounted config initial (history ++ [(input, result.2)]) result.1 := by
  have hrouted : ∀ {index : Nat} {task : Task Handle}, dispatcher.tasks[index]? = some task →
      ∀ selfId handle, dispatcher.routes.lookup selfId = some handle →
        RoutedSince initial history index selfId handle := haccounted.routedSince
  have htasks := haccounted.tasks
  have hroutes := haccounted.routes
  have hlocked := haccounted.locked
  have hlane := haccounted.lane
  cases hturn with
  | idle input =>
      exact ⟨htasks.silent (fun _ => ⟨rfl, rfl⟩) rfl, (routesAfter_append _ _ _).symm ▸ hroutes,
        hlocked, hlane.silent rfl rfl⟩
  | @registered selfId backend routes hregister =>
      refine ⟨htasks.silent (fun _ => ⟨rfl, rfl⟩) rfl, ?_, hlocked, hlane.silent rfl rfl⟩
      rw [routesAfter_append, ← hroutes]
      unfold OneBot.register at hregister
      split at hregister
      · cases hregister
      · exact (Except.ok.inj hregister).symm
  | refused error =>
      exact ⟨htasks.silent (fun _ => ⟨rfl, rfl⟩) rfl, (routesAfter_append _ _ _).symm ▸ hroutes,
        hlocked, hlane.silent rfl rfl⟩
  | unregistered selfId =>
      refine ⟨htasks.silent (fun _ => ⟨rfl, rfl⟩) rfl, ?_, hlocked, hlane.silent rfl rfl⟩
      rw [routesAfter_append, ← hroutes]
      rfl
  | begun request =>
      exact ⟨htasks.append request, (routesAfter_append _ _ _).symm ▸ hroutes,
        hlocked.append (isLimited_begin request), hlane.silent rfl rfl⟩
  | @quiet index request action rest stage phase htask hquiet =>
      have holds := htasks.holds index _ htask
      refine ⟨htasks.set htask (fun other _ => silent_moved _ other) rfl rfl ?_,
        (routesAfter_append _ _ _).symm ▸ hroutes,
        hlocked.set htask hquiet.not_limited.1 hquiet.not_limited.2, hlane.silent rfl rfl⟩
      refine holds.moved rfl ?_
      rw [(silent_moved _ index).answers]
      exact hquiet.holds (hrouted htask) holds.phase
  | @called index request action rest backend htask hmode =>
      obtain ⟨-, -, -, hreaches⟩ := (htasks.holds index _ htask).phase
      have hlane' : action.mode ≠ .asynchronous := by rw [hmode]; decide
      refine ⟨htasks.handing htask rfl hreaches (if_pos rfl) (fun other hother =>
          silent_called hother _ _ _) rfl fun before hplan =>
            ⟨before, hplan, rfl, hreaches, hlane'⟩,
        (routesAfter_append _ _ _).symm ▸ hroutes, hlocked.set htask rfl ?_,
        hlane.silent rfl rfl⟩
      show decide (action.mode = .rateLimited) = false
      rw [hmode]
      rfl
  | @queued index request action rest backend htask hmode hroom =>
      obtain ⟨-, -, -, hreaches⟩ := (htasks.holds index _ htask).phase
      refine ⟨htasks.handing htask rfl hreaches (if_pos rfl) (fun other hother =>
          ⟨if_neg (Ne.symm hother), rfl⟩) rfl fun before hplan =>
            phaseHolds_conclude hplan rfl (ActionResponse.coherent_asynchronous _)
              (fun _ => rfl) (fun hok => by cases hok) (fun _ => hmode),
        (routesAfter_append _ _ _).symm ▸ hroutes,
        hlocked.set htask rfl (isLimited_conclude _ _ _), hlane.queued rfl rfl hroom⟩
  | @locked index request action rest backend htask hfree =>
      obtain ⟨-, -, -, hreaches, hmode⟩ := (htasks.holds index _ htask).phase
      have hlane' : action.mode ≠ .asynchronous := by rw [hmode]; decide
      rw [hfree] at hlocked
      refine ⟨htasks.handing htask rfl hreaches (if_pos rfl) (fun other hother =>
          silent_called hother _ _ _) rfl fun before hplan =>
            ⟨before, hplan, rfl, hreaches, hlane'⟩,
        (routesAfter_append _ _ _).symm ▸ hroutes, hlocked.take htask ?_, hlane.silent rfl rfl⟩
      show decide (action.mode = .rateLimited) = true
      rw [hmode]
      rfl
  | @returned index request action rest backend htask result =>
      exact haccounted.released htask rfl rfl rfl (isLimited_conclude _ _ _)
        (htasks.returned htask result)
  | @dropped index request action rest stage htask =>
      refine haccounted.released htask rfl rfl rfl rfl ?_
      exact htasks.set htask (fun other _ => silent_moved _ other) rfl rfl
        ((htasks.holds index _ htask).moved rfl trivial)
  | @taken item rest hidle hqueue =>
      rw [hqueue] at hlane
      exact ⟨htasks.silent (fun _ => ⟨rfl, rfl⟩) rfl, (routesAfter_append _ _ _).symm ▸ hroutes,
        hlocked, hlane.taken rfl rfl⟩
  | @finished item hworking result =>
      have hsilent : ∀ index, Silent index
          ((.answerQueued result, .returned) : DispatcherEntry Handle) := fun _ => ⟨rfl, rfl⟩
      refine ⟨htasks.silent hsilent rfl, (routesAfter_append _ _ _).symm ▸ hroutes, hlocked, ?_⟩
      have hkept : LaneHolds config (history ++ [(.answerQueued result, .returned)])
          dispatcher.queue dispatcher.lane := hlane.silent rfl rfl
      exact ⟨hkept.inLine, hkept.bounded, fun other hother => by cases hother⟩

end Run

theorem accounted_opened (config : DispatcherConfig) (initial : Routes Handle) :
    Accounted config initial [] (Dispatcher.opened initial) where
  tasks := {
    requests := rfl
    holds := fun _ _ htask => by cases htask
    unasked := fun _ _ => ⟨rfl, rfl⟩ }
  routes := rfl
  locked := fun index => by simp [Dispatcher.opened]
  lane := {
    inLine := rfl
    bounded := Nat.zero_le _
    working := fun _ hitem => by cases hitem }

theorem accounted_run (config : DispatcherConfig) (initial : Routes Handle)
    (inputs : List (DispatcherInput Handle)) :
    Accounted config initial ((dispatcher config).trace (Dispatcher.opened initial) inputs)
      ((dispatcher config).run (Dispatcher.opened initial) inputs) := by
  refine (dispatcher config).history_run (Accounted config initial)
    (accounted_opened config initial) ?_ inputs
  intro history state input haccounted
  exact haccounted.turn (Dispatcher.step_turn config state input)

/-- Whatever comes between its steps, each dispatch has handed over a front of what its
request stands for, to the backends of the accounts that it is for; the one that has the
lock is the only one at a rate-limited call; and the asynchronous lane is in line. -/
theorem dispatches_accounted (config : DispatcherConfig) (initial : Routes Handle)
    (inputs : List (DispatcherInput Handle)) :
    let history := (dispatcher config).trace (Dispatcher.opened initial) inputs
    let reached := (dispatcher config).run (Dispatcher.opened initial) inputs
    (∀ index task, reached.tasks[index]? = some task →
      (history.filterMap dispatched)[index]? = some task.request ∧
        TaskHolds config initial history index task) ∧
      (∀ index, reached.tasks.length ≤ index → handedOver history index = []) ∧
      (∀ (first second : Nat) (left right : Task Handle), reached.tasks[first]? = some left →
        reached.tasks[second]? = some right → isLimited left = true → isLimited right = true →
          first = second) ∧
      LaneHolds config history reached.queue reached.lane := by
  intro history reached
  have haccounted := accounted_run config initial inputs
  refine ⟨?_, ?_, ?_, haccounted.lane⟩
  · intro index task htask
    refine ⟨?_, haccounted.tasks.holds index task htask⟩
    rw [← haccounted.tasks.requests, List.getElem?_map]
    exact congrArg (Option.map Task.request) htask
  · exact fun index hindex => (haccounted.tasks.unasked index hindex).1
  · intro first second left right hleft hright hfirst hsecond
    have hheld := (haccounted.locked first).mpr ⟨left, hleft, hfirst⟩
    have hother := (haccounted.locked second).mpr ⟨right, hright, hsecond⟩
    exact Option.some.inj (hheld.symm.trans hother)

end Dispatch
end Lirvena
