import Lirvena.Account.AccountStore

/-!
# The task of one account

The daemon runs every account in a task of its own and tells it to stop over a
channel that keeps only the latest directive.  The task waits for its flow and
for a directive at once, reads the channel again when one of them has ended, and
records the phase it ends in.

A task takes its steps one at a time; between any two of them another directive
may arrive.
-/

namespace Lirvena
namespace Daemon

open Lib Account

inductive StopDirective where
  | running
  | graceful
  | protective (reason : ProtectiveReason)
  deriving DecidableEq

/-- The error an account completes with. -/
inductive TaskError where
  | flow (message : String)
  | protectiveOffline (reason : ProtectiveReason)
  | stopChannelEnded
  | transition (error : AccountRuntimeError)
  deriving DecidableEq

/-- The outcome of the task where a directive ends its flow. -/
def StopDirective.outcome : StopDirective → Except TaskError Unit
  | .graceful => .ok ()
  | .protective reason => .error (.protectiveOffline reason)
  | .running => .error .stopChannelEnded

/-- The phase that is recorded for an outcome and the directive that is read after it. -/
def finalPhase : Except TaskError Unit → StopDirective →
    AccountPhase × Option ProtectiveReason
  | .ok (), _ | _, .graceful => (.stopped, none)
  | _, .protective reason => (.protectiveOffline, some reason)
  | .error _, .running => (.protectiveOffline, some .workerFailure)

/-- The result of a completion: the outcome comes before a failed transition. -/
def completionResult (outcome : Except TaskError Unit)
    (transition : Except AccountRuntimeError Unit) : Except TaskError Unit :=
  match outcome, transition with
  | .error error, _ => .error error
  | .ok (), .error error => .error (.transition error)
  | .ok (), .ok () => .ok ()

/-- Where a task stands: it waits for the flow and for a directive, has seen a
directive, has an outcome, knows the phase to record, has recorded it, has ended. -/
inductive TaskStage where
  | selecting
  | observed
  | selected (outcome : Except TaskError Unit)
  | decided (outcome : Except TaskError Unit) (phase : AccountPhase)
      (reason : Option ProtectiveReason)
  | recorded (phase : AccountPhase) (result : Except TaskError Unit)
  | ended (result : Except TaskError Unit)
  | joined

/-- The stop channel has no receiver any more. -/
def TaskStage.hasEnded : TaskStage → Bool
  | .ended _ | .joined => true
  | _ => false

structure AccountTask where
  localId : AccountLocalId
  /-- the latest value of the stop channel -/
  directive : StopDirective
  stage : TaskStage
  database : Database

/-- What a task does next.  The flow reports the account online, or ends; the two
reads of `wait_for_stop` are steps of their own. -/
inductive TaskAction where
  | activated (occurredAtMs : Nat) (commits : Bool)
  | flowEnded (result : Except String Unit)
  | stopObserved
  | stopTaken
  | channelEnded
  | directiveRead
  | recorded (occurredAtMs : Nat) (commits : Bool)
  | finished

namespace AccountTask

/-- The account's store carries a requested transition through, or keeps its file. -/
def requestTransition (task : AccountTask) (requested : AccountTransition) (commits : Bool) :
    Database × Except AccountRuntimeError Unit :=
  match transition task.localId task.database requested commits with
  | .ok (next, _) => (next, .ok ())
  | .error error => (task.database, .error error)

/-- The transition of a flow whose account is online.  The store takes it in turn,
also when the flow has been dropped since. -/
def activate (task : AccountTask) (occurredAtMs : Nat) (commits : Bool) : AccountTask :=
  { task with database := (task.requestTransition
      { next := .active, protectiveReason := none, occurredAtMs := occurredAtMs } commits).1 }

/-- The transition to the final phase, and the result that follows from it. -/
def record (task : AccountTask) (outcome : Except TaskError Unit) (phase : AccountPhase)
    (reason : Option ProtectiveReason) (occurredAtMs : Nat) (commits : Bool) : AccountTask :=
  let answer := task.requestTransition
    { next := phase, protectiveReason := reason, occurredAtMs := occurredAtMs } commits
  { task with
    database := answer.1
    stage := .recorded phase (completionResult outcome answer.2) }

/-- `run_account`, one step. -/
def act (task : AccountTask) (action : TaskAction) : AccountTask :=
  match task.stage, action with
  | .selecting, .flowEnded result =>
      { task with stage := .selected (result.mapError .flow) }
  | .selecting, .stopObserved =>
      if task.directive = .running then task else { task with stage := .observed }
  | .selecting, .channelEnded =>
      if task.directive = .running then
        { task with stage := .selected StopDirective.running.outcome }
      else task
  | .observed, .stopTaken => { task with stage := .selected task.directive.outcome }
  | .selected outcome, .directiveRead =>
      let final := finalPhase outcome task.directive
      { task with stage := .decided outcome final.1 final.2 }
  | .decided outcome phase reason, .recorded occurredAtMs commits =>
      task.record outcome phase reason occurredAtMs commits
  | .recorded _ result, .finished => { task with stage := .ended result }
  | .selecting, .activated occurredAtMs commits
  | .observed, .activated occurredAtMs commits
  | .selected _, .activated occurredAtMs commits
  | .decided _ _ _, .activated occurredAtMs commits => task.activate occurredAtMs commits
  | _, _ => task

/-- A directive sent to the task; it is refused when the receiver is gone. -/
def receive (task : AccountTask) (directive : StopDirective) : AccountTask :=
  if task.stage.hasEnded then task else { task with directive := directive }

/-- The result of an ended task is taken away. -/
def join (task : AccountTask) : AccountTask :=
  match task.stage with
  | .ended _ => { task with stage := .joined }
  | _ => task

@[simp] theorem join_localId (task : AccountTask) : task.join.localId = task.localId := by
  unfold join
  split <;> rfl

@[simp] theorem receive_localId (task : AccountTask) (directive : StopDirective) :
    (task.receive directive).localId = task.localId := by
  unfold receive
  split <;> rfl

@[simp] theorem act_localId (task : AccountTask) (action : TaskAction) :
    (task.act action).localId = task.localId := by
  unfold act
  split <;> (try split) <;> rfl

/-! ## What a stop directive leads to -/

/-- The account is on its way or online, as it was recorded before the task began
or by its flow. -/
def Open (task : AccountTask) : Prop :=
  ∃ current, snapshot task.localId task.database = .ok current ∧
    (current.phase = .starting ∨ current.phase = .active) ∧ current.generation < i64Bound

/-- The account is recorded as protectively offline, with a reason. -/
def ProtectivelyOffline (task : AccountTask) : Prop :=
  ∃ current, snapshot task.localId task.database = .ok current ∧
    current.phase = .protectiveOffline ∧ current.protectiveReason.isSome = true

/-- A directive that takes nothing away from a protective one: a graceful stop
does not replace a protective one that the task has still to read, and a
protective stop does not come after the last read of a task that is stopping
gracefully. -/
def Admits (task : AccountTask) (directive : StopDirective) : Prop :=
  match task.stage, directive with
  | .selecting, .graceful | .observed, .graceful | .selected (.error _), .graceful =>
      ∀ reason, task.directive ≠ .protective reason
  | .selected (.ok ()), .protective _ => False
  | .decided _ .stopped _, .protective _ => False
  | .recorded .stopped _, .protective _ => False
  | _, _ => True

/-- A step that takes nothing away from a protective directive: the flow does not
end well while one waits to be read, and a protective phase is recorded. -/
def Allows (task : AccountTask) (action : TaskAction) : Prop :=
  match task.stage, action with
  | .selecting, .flowEnded (.ok ()) => ∀ reason, task.directive ≠ .protective reason
  | .decided _ .protectiveOffline _, .recorded occurredAtMs commits =>
      commits = true ∧ occurredAtMs < i64Bound ∧
        ∀ current, snapshot task.localId task.database = .ok current →
          current.updatedAtMs ≤ occurredAtMs
  | _, _ => True

/-- What holds of a task, given whether a protective directive was issued to it. -/
def Heeds (issued : Prop) (task : AccountTask) : Prop :=
  match task.stage with
  | .selecting | .observed | .selected (.error _) =>
      task.Open ∧ (issued → ∃ reason, task.directive = .protective reason)
  | .selected (.ok ()) => task.Open ∧ ¬ issued
  | .decided _ .protectiveOffline reason => task.Open ∧ reason.isSome = true
  | .decided _ phase reason => task.Open ∧ phase = .stopped ∧ reason = none ∧ ¬ issued
  | .recorded .protectiveOffline _ => task.ProtectivelyOffline
  | .recorded phase _ => phase = .stopped ∧ ¬ issued
  | .ended _ | .joined => issued → task.ProtectivelyOffline

/-! ## One step of a task -/

section Step

variable {task : AccountTask} {issued : Prop}

theorem requestTransition_cases (requested : AccountTransition) (commits : Bool) :
    (∃ next receipt, transition task.localId task.database requested commits =
        .ok (next, receipt) ∧ task.requestTransition requested commits = (next, .ok ())) ∨
      ∃ error, task.requestTransition requested commits = (task.database, .error error) := by
  unfold requestTransition
  cases htransition : transition task.localId task.database requested commits with
  | error error => exact .inr ⟨error, rfl⟩
  | ok carried => exact .inl ⟨carried.1, carried.2, rfl, rfl⟩

/-- The account stays on its way or online when its flow reports it online. -/
theorem Open.activate (hopen : task.Open) (occurredAtMs : Nat) (commits : Bool) :
    (task.activate occurredAtMs commits).Open := by
  rcases task.requestTransition_cases
    { next := .active, protectiveReason := none, occurredAtMs := occurredAtMs } commits with
    ⟨next, receipt, hcarried, hanswer⟩ | ⟨error, hanswer⟩
  · obtain ⟨current, hcurrent, hphase, -, -, hgeneration⟩ := transition_snapshot hcarried
    refine ⟨current, ?_, .inr hphase, hgeneration⟩
    simpa [AccountTask.activate, hanswer] using hcurrent
  · simpa [AccountTask.activate, hanswer] using hopen

/-- A protective phase that the store carries through is read back. -/
theorem Open.record (hopen : task.Open) {reason : Option ProtectiveReason}
    (hreason : reason.isSome = true) {occurredAtMs : Nat} {commits : Bool}
    (hcommits : commits = true) (hfits : occurredAtMs < i64Bound)
    (hlater : ∀ current, snapshot task.localId task.database = .ok current →
      current.updatedAtMs ≤ occurredAtMs) (outcome : Except TaskError Unit) :
    (task.record outcome .protectiveOffline reason occurredAtMs commits).ProtectivelyOffline := by
  obtain ⟨previous, hprevious, hphase, hgeneration⟩ := hopen
  have hallowed : allowed previous.phase .protectiveOffline = true := by
    rcases hphase with hphase | hphase <;> rw [hphase] <;> rfl
  let requested : AccountTransition :=
    { next := .protectiveOffline, protectiveReason := reason, occurredAtMs := occurredAtMs }
  obtain ⟨next, receipt, hcarried⟩ : ∃ next receipt,
      transition task.localId task.database requested true = .ok (next, receipt) :=
    transition_isOk hprevious (iff_of_true rfl hreason) (hlater previous hprevious) hallowed
      nofun hgeneration hfits
  obtain ⟨current, hcurrent, hcurrentPhase, hcurrentReason, -, -⟩ :=
    transition_snapshot hcarried
  refine ⟨current, ?_, hcurrentPhase, by rw [hcurrentReason]; exact hreason⟩
  simpa [AccountTask.record, requestTransition, hcommits, requested, hcarried] using hcurrent

/-- A directive that takes nothing away keeps what holds of the task. -/
theorem Heeds.receive (hheeds : task.Heeds issued) {directive : StopDirective}
    (hsent : directive ≠ .running) (hadmits : task.Admits directive)
    (hrunning : task.stage.hasEnded = false) :
    (task.receive directive).Heeds (issued ∨ ∃ reason, directive = .protective reason) := by
  obtain ⟨localId, waiting, stage, database⟩ := task
  have hreceive : (AccountTask.mk localId waiting stage database).receive directive =
      ⟨localId, directive, stage, database⟩ := if_neg (by simp [hrunning])
  rw [hreceive]
  cases directive with
  | running => exact absurd rfl hsent
  | protective reason =>
      have hwaits : issued ∨ (∃ sent, StopDirective.protective reason = .protective sent) →
          ∃ sent, StopDirective.protective reason = .protective sent := fun _ => ⟨reason, rfl⟩
      cases stage with
      | selecting => exact ⟨hheeds.1, hwaits⟩
      | observed => exact ⟨hheeds.1, hwaits⟩
      | selected outcome =>
          cases outcome with
          | ok value => exact hadmits.elim
          | error error => exact ⟨hheeds.1, hwaits⟩
      | decided outcome phase reason =>
          cases phase with
          | stopped => exact hadmits.elim
          | protectiveOffline => exact hheeds
          | starting => cases hheeds.2.1
          | active => cases hheeds.2.1
      | recorded phase result =>
          cases phase with
          | stopped => exact hadmits.elim
          | protectiveOffline => exact hheeds
          | starting => cases hheeds.1
          | active => cases hheeds.1
      | ended result => cases hrunning
      | joined => cases hrunning
  | graceful =>
      -- A graceful stop is no protective one, so none has been issued that was not before.
      have hsame : (issued ∨ ∃ reason, StopDirective.graceful = .protective reason) → issued := by
        rintro (hissued | ⟨reason, hreason⟩)
        · exact hissued
        · cases hreason
      have hnone (hkept : issued → ∃ reason, waiting = .protective reason)
          (hnot : ∀ reason, waiting ≠ .protective reason) : ¬ issued := fun hissued =>
        (hkept hissued).elim hnot
      cases stage with
      | selecting =>
          exact ⟨hheeds.1, fun h => absurd (hsame h) (hnone hheeds.2 hadmits)⟩
      | observed =>
          exact ⟨hheeds.1, fun h => absurd (hsame h) (hnone hheeds.2 hadmits)⟩
      | selected outcome =>
          cases outcome with
          | ok value => exact ⟨hheeds.1, fun h => hheeds.2 (hsame h)⟩
          | error error =>
              exact ⟨hheeds.1, fun h => absurd (hsame h) (hnone hheeds.2 hadmits)⟩
      | decided outcome phase reason =>
          cases phase with
          | protectiveOffline => exact hheeds
          | _ => exact ⟨hheeds.1, hheeds.2.1, hheeds.2.2.1, fun h => hheeds.2.2.2 (hsame h)⟩
      | recorded phase result =>
          cases phase with
          | protectiveOffline => exact hheeds
          | _ => exact ⟨hheeds.1, fun h => hheeds.2 (hsame h)⟩
      | ended result => cases hrunning
      | joined => cases hrunning

/-- A step that takes nothing away keeps what holds of the task. -/
theorem Heeds.act (hheeds : task.Heeds issued) {action : TaskAction}
    (hallows : task.Allows action) : (task.act action).Heeds issued := by
  obtain ⟨localId, directive, stage, database⟩ := task
  cases stage with
  | selecting =>
      obtain ⟨hopen, hissued⟩ := hheeds
      cases action with
      | activated occurredAtMs commits => exact ⟨hopen.activate occurredAtMs commits, hissued⟩
      | flowEnded result =>
          cases result with
          | error message => exact ⟨hopen, hissued⟩
          | ok value =>
              refine ⟨hopen, fun hprotected => ?_⟩
              obtain ⟨reason, hreason⟩ := hissued hprotected
              exact hallows reason hreason
      | stopObserved =>
          simp only [AccountTask.act]
          split
          · exact ⟨hopen, hissued⟩
          · exact ⟨hopen, hissued⟩
      | channelEnded =>
          simp only [AccountTask.act]
          split
          · exact ⟨hopen, hissued⟩
          · exact ⟨hopen, hissued⟩
      | _ => exact ⟨hopen, hissued⟩
  | observed =>
      obtain ⟨hopen, hissued⟩ := hheeds
      cases action with
      | activated occurredAtMs commits => exact ⟨hopen.activate occurredAtMs commits, hissued⟩
      | stopTaken =>
          cases directive with
          | graceful =>
              refine ⟨hopen, fun hprotected => ?_⟩
              obtain ⟨reason, hreason⟩ := hissued hprotected
              cases hreason
          | _ => exact ⟨hopen, hissued⟩
      | _ => exact ⟨hopen, hissued⟩
  | selected outcome =>
      cases outcome with
      | ok value =>
          obtain ⟨hopen, hnone⟩ := hheeds
          cases action with
          | activated occurredAtMs commits => exact ⟨hopen.activate occurredAtMs commits, hnone⟩
          | directiveRead => exact ⟨hopen, rfl, rfl, hnone⟩
          | _ => exact ⟨hopen, hnone⟩
      | error error =>
          obtain ⟨hopen, hissued⟩ := hheeds
          cases action with
          | activated occurredAtMs commits => exact ⟨hopen.activate occurredAtMs commits, hissued⟩
          | directiveRead =>
              cases directive with
              | graceful =>
                  refine ⟨hopen, rfl, rfl, fun hprotected => ?_⟩
                  obtain ⟨reason, hreason⟩ := hissued hprotected
                  cases hreason
              | _ => exact ⟨hopen, rfl⟩
          | _ => exact ⟨hopen, hissued⟩
  | decided outcome phase reason =>
      cases action with
      | activated occurredAtMs commits =>
          cases phase with
          | protectiveOffline => exact ⟨hheeds.1.activate occurredAtMs commits, hheeds.2⟩
          | _ => exact ⟨hheeds.1.activate occurredAtMs commits, hheeds.2⟩
      | recorded occurredAtMs commits =>
          cases phase with
          | protectiveOffline =>
              exact hheeds.1.record hheeds.2 hallows.1 hallows.2.1 hallows.2.2 outcome
          | _ => exact ⟨hheeds.2.1, hheeds.2.2.2⟩
      | _ => exact hheeds
  | recorded phase result =>
      cases action with
      | finished =>
          cases phase with
          | protectiveOffline => exact fun _ => hheeds
          | _ => exact fun hprotected => absurd hprotected hheeds.2
      | _ => exact hheeds
  | ended result => cases action <;> exact hheeds
  | joined => cases action <;> exact hheeds

theorem Heeds.join (hheeds : task.Heeds issued) : task.join.Heeds issued := by
  obtain ⟨localId, directive, stage, database⟩ := task
  cases stage <;> exact hheeds

end Step

end AccountTask

end Daemon
end Lirvena
