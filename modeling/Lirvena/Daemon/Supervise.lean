import Lirvena.Ceylith.Watch
import Lirvena.Daemon.AccountTask

/-!
# The supervisor of the daemon

The supervisor waits for completions, for the continuity watch, for the interrupt
signal and for a restart request, and turns what it hears into stop directives.
The inputs of a run are these events and the steps of the account tasks, in any
order; the output of a step is the directives it delivers.

A protective directive is heeded unless a graceful one takes its place, or comes
before it, while the task is on its way to its end.  `Guard` is that
condition, and `protective_stop_recorded` is what holds of the runs that keep it.
-/

namespace Lirvena
namespace Daemon

open Lib Account Ceylith Watch

/-! ## Grants and continuity -/

/-- Capability selected for one account generation. -/
inductive AssignedRealm where
  | «public»
  | full
  deriving DecidableEq

/-- The startup plan of an installation, by account. -/
structure GrantPlan where
  assignments : List (AccountLocalId × AssignedRealm)
  keys_nodup : (assignments.map Prod.fst).Nodup

def GrantPlan.assignedRealm (plan : GrantPlan) (localId : AccountLocalId) :
    Option AssignedRealm :=
  plan.assignments.lookup localId

/-- Accounts that must enter `ProtectiveOffline` when the Full grant is revoked. -/
def GrantPlan.protectiveOfflineOnRevocation (plan : GrantPlan) : List AccountLocalId :=
  plan.assignments.filterMap fun assignment =>
    if assignment.2 = .full then some assignment.1 else none

inductive ContinuityAction where
  | «continue»
  | protect (reason : ProtectiveReason)
  deriving DecidableEq

def quotaExceeded (event : WatchEvent) (plan : GrantPlan) : Bool :=
  match event.grant with
  | none => true
  | some grant =>
      let required := plan.protectiveOfflineOnRevocation.length
      match grant.grantClass with
      | .«public» => required ≠ 0
      | .full => grant.maxFullAccounts ≠ 0 && required > grant.maxFullAccounts.toNat
      | .community => required > grant.maxFullAccounts.toNat

def classify (event : WatchEvent) (account : AccountLocalId) (plan : GrantPlan) :
    ContinuityAction :=
  if event.accountSlotId.any (fun scope => scope.bytes ≠ account.bytes) then .«continue»
  else
    match event.kind with
    | .grantRevoked => .protect .grantUnavailable
    | .profileChanged | .maintenance => .protect .profileUnavailable
    | .quotaChanged =>
        if quotaExceeded event plan then .protect .grantUnavailable else .«continue»
    | .grantExpiring | .renewalPaused | .policyChanged | .grantRestored => .«continue»

/-! ## The supervisor -/

/-- The error that the daemon ends with. -/
inductive DaemonError where
  | account (error : TaskError)
  | watch (error : ClientError)
  | watchEnded
  | signal
  deriving DecidableEq

structure Supervision where
  tasks : List AccountTask
  watching : Bool
  /-- the latest value of the restart channel -/
  restart : Bool
  /-- whether the supervisor waits for that channel to change -/
  restartArmed : Bool
  firstError : Option DaemonError

/-- What the supervisor waits for, and what happens in the tasks meanwhile. -/
inductive DaemonInput where
  | joined (localId : AccountLocalId)
  | watched (answer : Option (Except ClientError WatchEvent))
  | interrupted (failed : Bool)
  | restartRequested
  | restartSeen
  | account (localId : AccountLocalId) (action : TaskAction)

/-- A directive with the account it is delivered to. -/
abbrev Delivery := AccountLocalId × StopDirective

namespace Supervision

/-- `get_or_insert`. -/
def note (daemon : Supervision) (error : DaemonError) : Supervision :=
  { daemon with firstError := daemon.firstError.or (some error) }

/-- The loop goes round: it waits for the restart channel only while that is false. -/
def rearm (daemon : Supervision) : Supervision :=
  { daemon with restartArmed := !daemon.restart }

/-- Every addressed account is sent its directive. -/
def send (addressed : AccountLocalId → Option StopDirective) (daemon : Supervision) :
    Supervision × List Delivery :=
  ({ daemon with tasks := daemon.tasks.map fun task =>
      match addressed task.localId with
      | some directive => task.receive directive
      | none => task },
   daemon.tasks.filterMap fun task =>
      if task.stage.hasEnded then none
      else (addressed task.localId).map (task.localId, ·))

/-- `handle_watch`: the directive an event has for an account. -/
def handleWatch (plan : GrantPlan) (event : WatchEvent) (localId : AccountLocalId) :
    Option StopDirective :=
  if plan.assignedRealm localId = some .full then
    match classify event localId plan with
    | .«continue» => none
    | .protect reason => some (.protective reason)
  else none

def protectFull (plan : GrantPlan) (reason : ProtectiveReason) (localId : AccountLocalId) :
    Option StopDirective :=
  if localId ∈ plan.protectiveOfflineOnRevocation then some (.protective reason) else none

/-- The result that an ended task has not been joined for. -/
def completion (daemon : Supervision) (localId : AccountLocalId) : Option (Except TaskError Unit) :=
  daemon.tasks.findSome? fun task =>
    if task.localId = localId then
      match task.stage with
      | .ended result => some result
      | _ => none
    else none

/-- The task of an account takes its result away. -/
def join (daemon : Supervision) (localId : AccountLocalId) : Supervision :=
  { daemon with tasks := daemon.tasks.map fun task =>
      if task.localId = localId then task.join else task }

/-- The task of an account takes a step. -/
def advance (daemon : Supervision) (localId : AccountLocalId) (action : TaskAction) : Supervision :=
  { daemon with tasks := daemon.tasks.map fun task =>
      if task.localId = localId then task.act action else task }

/-- The supervisor runs until every task has been joined. -/
def supervising (daemon : Supervision) : Bool :=
  daemon.tasks.any fun task => match task.stage with
    | .joined => false
    | _ => true

/-- The directives an input sends, by account. -/
def addressed (plan : GrantPlan) (daemon : Supervision) : DaemonInput → AccountLocalId →
    Option StopDirective
  | .watched answer, localId =>
      if daemon.watching then
        match answer with
        | some (.ok event) => handleWatch plan event localId
        | some (.error _) | none => protectFull plan .ceylithContinuity localId
      else none
  | .interrupted _, _ => some .graceful
  | .restartSeen, _ => if daemon.restartArmed ∧ daemon.restart then some .graceful else none
  | .joined _, _ | .restartRequested, _ | .account _ _, _ => none

/-- What else an input changes. -/
def handle (daemon : Supervision) : DaemonInput → Supervision
  | .joined localId =>
      match daemon.completion localId with
      | some (.ok ()) => (daemon.join localId).rearm
      | some (.error error) => ((daemon.join localId).note (.account error)).rearm
      | none => daemon
  | .watched answer =>
      if daemon.watching then
        match answer with
        | some (.ok _) => daemon.rearm
        | some (.error error) => { (daemon.note (.watch error)).rearm with watching := false }
        | none => { (daemon.note .watchEnded).rearm with watching := false }
      else daemon
  | .interrupted failed => if failed then (daemon.note .signal).rearm else daemon.rearm
  | .restartRequested => { daemon with restart := true }
  | .restartSeen => if daemon.restartArmed ∧ daemon.restart then daemon.rearm else daemon
  | .account localId action => daemon.advance localId action

/-- `supervise`, with the tasks it supervises: one event or one step of a task. -/
def supervise (plan : GrantPlan) : Machine Supervision DaemonInput (List Delivery) where
  step daemon input :=
    if daemon.supervising then (daemon.handle input).send (daemon.addressed plan input)
    else (daemon, [])

end Supervision

/-- An account whose worker has been spawned and recorded as starting. -/
structure StartedAccount where
  localId : AccountLocalId
  database : Database
  started : ∃ before occurredAtMs receipt, transition localId before
    { next := .starting, protectiveReason := none, occurredAtMs := occurredAtMs } true =
      .ok (database, receipt)

/-- What the daemon starts from.  The planner refuses an account that is
configured twice. -/
structure Installation where
  plan : GrantPlan
  accounts : List StartedAccount
  accounts_nodup : (accounts.map StartedAccount.localId).Nodup

/-- The watch is started only if an account depends on the Full grant. -/
def Installation.start (installation : Installation) : Supervision where
  tasks := installation.accounts.map fun account =>
    ⟨account.localId, .running, .selecting, account.database⟩
  watching := !installation.plan.protectiveOfflineOnRevocation.isEmpty
  restart := false
  restartArmed := true
  firstError := none

/-! ## Protective stops over a run -/

/-- A protective directive has been delivered to an account. -/
def ProtectiveIssued (history : List (DaemonInput × List Delivery)) (localId : AccountLocalId) :
    Prop :=
  ∃ entry ∈ history, ∃ reason, (localId, StopDirective.protective reason) ∈ entry.2

/-- An input under which no directive takes the place of a protective one, and
every protective phase is recorded. -/
structure Guard (plan : GrantPlan) (daemon : Supervision) (input : DaemonInput) : Prop where
  directives : ∀ task ∈ daemon.tasks, ∀ directive, task.stage.hasEnded = false →
    daemon.addressed plan input task.localId = some directive → task.Admits directive
  steps : ∀ localId action, input = .account localId action →
    ∀ task ∈ daemon.tasks, task.localId = localId → task.Allows action

/-- Every task heeds the protective directives of the history. -/
structure HeedsAll (history : List (DaemonInput × List Delivery)) (daemon : Supervision) :
    Prop where
  nodup : (daemon.tasks.map AccountTask.localId).Nodup
  heeds : ∀ task ∈ daemon.tasks, task.Heeds (ProtectiveIssued history task.localId)

section Run

variable {history : List (DaemonInput × List Delivery)} {daemon : Supervision}

theorem protectiveIssued_append {entry : DaemonInput × List Delivery}
    {localId : AccountLocalId} :
    ProtectiveIssued (history ++ [entry]) localId ↔ ProtectiveIssued history localId ∨
      ∃ reason, (localId, StopDirective.protective reason) ∈ entry.2 := by
  simp only [ProtectiveIssued, List.mem_append, List.mem_singleton, or_and_right, exists_or,
    exists_eq_left]

/-- The tasks are changed one by one, and each keeps its account. -/
theorem HeedsAll.map (hall : HeedsAll history daemon) {next : Supervision}
    {entry : DaemonInput × List Delivery} (change : AccountTask → AccountTask)
    (htasks : next.tasks = daemon.tasks.map change)
    (hsame : ∀ task, (change task).localId = task.localId)
    (hstep : ∀ task ∈ daemon.tasks, task.Heeds (ProtectiveIssued history task.localId) →
      (change task).Heeds (ProtectiveIssued (history ++ [entry]) task.localId)) :
    HeedsAll (history ++ [entry]) next := by
  refine ⟨?_, ?_⟩
  · have hids : next.tasks.map AccountTask.localId = daemon.tasks.map AccountTask.localId := by
      rw [htasks, List.map_map]
      exact List.map_congr_left fun task _ => hsame task
    rw [hids]
    exact hall.nodup
  · intro changed hchanged
    rw [htasks] at hchanged
    obtain ⟨task, htask, rfl⟩ := List.mem_map.mp hchanged
    rw [hsame]
    exact hstep task htask (hall.heeds task htask)

/-- The directives delivered to the account of a task are those it is addressed
with, as long as it has not ended. -/
theorem mem_deliveries (hnodup : (daemon.tasks.map AccountTask.localId).Nodup)
    {addressed : AccountLocalId → Option StopDirective} {task : AccountTask}
    (htask : task ∈ daemon.tasks) {directive : StopDirective} :
    (task.localId, directive) ∈ (daemon.send addressed).2 ↔
      task.stage.hasEnded = false ∧ addressed task.localId = some directive := by
  constructor
  · intro hdelivered
    obtain ⟨other, hother, hsome⟩ := List.mem_filterMap.mp hdelivered
    split at hsome
    · cases hsome
    · next hrunning =>
        obtain ⟨sent, hsent, hpair⟩ := Option.map_eq_some_iff.mp hsome
        obtain ⟨hid, rfl⟩ := Prod.mk.inj hpair
        -- No other task has this account.
        have hsame : other = task := List.inj_on_of_nodup_map hnodup hother htask hid
        subst hsame
        exact ⟨by simpa using hrunning, hsent⟩
  · rintro ⟨hrunning, haddressed⟩
    refine List.mem_filterMap.mpr ⟨task, htask, ?_⟩
    rw [if_neg (by simp [hrunning]), haddressed]
    rfl

theorem send_none (daemon : Supervision) : daemon.send (fun _ => none) = (daemon, []) := by
  simp [Supervision.send]

theorem addressed_ne_running {plan : GrantPlan} {input : DaemonInput}
    {localId : AccountLocalId} {directive : StopDirective}
    (haddressed : daemon.addressed plan input localId = some directive) :
    directive ≠ .running := by
  rintro rfl
  cases input with
  | watched answer =>
      simp only [Supervision.addressed] at haddressed
      split at haddressed
      · split at haddressed
        · simp only [Supervision.handleWatch] at haddressed
          split at haddressed
          · split at haddressed <;> cases haddressed
          · cases haddressed
        · simp [Supervision.protectFull] at haddressed
        · simp [Supervision.protectFull] at haddressed
      · cases haddressed
  | restartSeen => simp [Supervision.addressed] at haddressed
  | _ => cases haddressed

/-- The directives of an input leave every task heeding. -/
theorem HeedsAll.send (hall : HeedsAll history daemon) {plan : GrantPlan} {input : DaemonInput}
    {next : Supervision} (htasks : next.tasks = daemon.tasks)
    (hguard : Guard plan daemon input) :
    HeedsAll (history ++ [(input, (next.send (daemon.addressed plan input)).2)])
      (next.send (daemon.addressed plan input)).1 := by
  refine hall.map (fun task => match daemon.addressed plan input task.localId with
    | some directive => task.receive directive
    | none => task) ?_ ?_ ?_
  · simp [Supervision.send, htasks]
  · intro task
    split <;> simp
  · intro task htask hheeds
    have hdelivered (reason : ProtectiveReason) :
        (task.localId, StopDirective.protective reason) ∈
            (next.send (daemon.addressed plan input)).2 ↔ task.stage.hasEnded = false ∧
          daemon.addressed plan input task.localId = some (.protective reason) :=
      mem_deliveries (htasks ▸ hall.nodup) (htasks ▸ htask)
    simp only [protectiveIssued_append, hdelivered]
    cases haddressed : daemon.addressed plan input task.localId with
    | none => simpa [haddressed] using hheeds
    | some directive =>
        cases hended : task.stage.hasEnded with
        | true => simpa [AccountTask.receive, hended] using hheeds
        | false =>
            have hadmits := hguard.directives task htask directive hended haddressed
            simpa using hheeds.receive (addressed_ne_running haddressed) hadmits hended

/-- One input that keeps the guard. -/
theorem HeedsAll.step (hall : HeedsAll history daemon) {plan : GrantPlan} {input : DaemonInput}
    (hguard : Guard plan daemon input) :
    HeedsAll (history ++ [(input, ((Supervision.supervise plan).step daemon input).2)])
      ((Supervision.supervise plan).step daemon input).1 := by
  have hquiet (task : AccountTask) (hheeds : task.Heeds (ProtectiveIssued history task.localId)) :
      task.Heeds (ProtectiveIssued (history ++ [(input, [])]) task.localId) := by
    simpa [protectiveIssued_append] using hheeds
  simp only [Supervision.supervise]
  split
  · cases input with
    | watched answer =>
        refine hall.send ?_ hguard
        simp only [Supervision.handle]
        split
        · split <;> rfl
        · rfl
    | interrupted failed => exact hall.send (by cases failed <;> rfl) hguard
    | restartRequested => exact hall.send rfl hguard
    | restartSeen =>
        refine hall.send ?_ hguard
        simp only [Supervision.handle]
        split <;> rfl
    | joined localId =>
        rw [show daemon.addressed plan (.joined localId) = fun _ => none from rfl, send_none]
        have hjoined (next : Supervision) (htasks : next.tasks = (daemon.join localId).tasks) :
            HeedsAll (history ++ [(.joined localId, [])]) next := by
          refine hall.map (fun task => if task.localId = localId then task.join else task)
            htasks ?_ ?_
          · intro task
            split <;> simp
          · intro task _ hheeds
            split
            · exact (hquiet task hheeds).join
            · exact hquiet task hheeds
        simp only [Supervision.handle]
        split
        · exact hjoined _ rfl
        · exact hjoined _ rfl
        · exact hall.map id (List.map_id _).symm (fun _ => rfl) fun task _ => hquiet task
    | account localId action =>
        rw [show daemon.addressed plan (.account localId action) = fun _ => none from rfl,
          send_none]
        refine hall.map (fun task => if task.localId = localId then task.act action else task)
          rfl ?_ ?_
        · intro task
          split <;> simp
        · intro task htask hheeds
          split
          · next hid =>
              exact (hquiet task hheeds).act (hguard.steps localId action rfl task htask hid)
          · exact hquiet task hheeds
  · exact hall.map id (List.map_id _).symm (fun _ => rfl) fun task _ => hquiet task

/-- The step of a task sends nothing. -/
theorem guard_account {plan : GrantPlan} {localId : AccountLocalId} {action : TaskAction}
    (hallows : ∀ task ∈ daemon.tasks, task.Allows action) :
    Guard plan daemon (.account localId action) := by
  refine ⟨fun _ _ _ _ => nofun, ?_⟩
  rintro _ _ ⟨rfl, rfl⟩ task htask -
  exact hallows task htask

theorem Installation.start_heeds (installation : Installation) :
    HeedsAll [] installation.start := by
  refine ⟨?_, ?_⟩
  · simp only [Installation.start, List.map_map]
    exact installation.accounts_nodup
  · intro task htask
    obtain ⟨account, -, rfl⟩ := List.mem_map.mp htask
    obtain ⟨before, occurredAtMs, receipt, hstarted⟩ := account.started
    obtain ⟨current, hcurrent, hphase, -, -, hgeneration⟩ := transition_snapshot hstarted
    refine ⟨⟨current, hcurrent, .inl hphase, hgeneration⟩, ?_⟩
    rintro ⟨entry, hentry, -⟩
    cases hentry

end Run

/-- In every run that keeps the guard, an account to which a protective directive
was delivered before its task ended is recorded as protectively offline, with a
reason, when the task has ended. -/
theorem protective_stop_recorded (installation : Installation) (inputs : List DaemonInput)
    (hguarded : (Supervision.supervise installation.plan).Guarded (Guard installation.plan)
      installation.start inputs)
    (reached : List DaemonInput) (hreached : reached <+: inputs) :
    let supervise := Supervision.supervise installation.plan
    ∀ task ∈ (supervise.run installation.start reached).tasks,
      task.stage.hasEnded = true →
      ProtectiveIssued (supervise.trace installation.start reached) task.localId →
      ∃ current, snapshot task.localId task.database = .ok current ∧
        current.phase = .protectiveOffline ∧ current.protectiveReason.isSome = true := by
  intro supervise task htask hended hissued
  obtain ⟨rest, rfl⟩ := hreached
  have hall : HeedsAll (supervise.trace installation.start reached)
      (supervise.run installation.start reached) :=
    supervise.history_guarded_run HeedsAll installation.start_heeds
      (fun history daemon input hall hguard => hall.step hguard)
      (Machine.Guarded.of_append supervise hguarded)
  have hheeds := hall.heeds task htask
  cases hstage : task.stage with
  | ended result =>
      simp only [AccountTask.Heeds, hstage] at hheeds
      exact hheeds hissued
  | joined =>
      simp only [AccountTask.Heeds, hstage] at hheeds
      exact hheeds hissued
  | _ =>
      rw [hstage] at hended
      cases hended

/-! ## One account on the Full grant -/

def fullAccountId : AccountLocalId := ⟨List.replicate 16 1, ones_length⟩

/-- A new account that has been recorded as starting. -/
def fullAccount : StartedAccount where
  localId := fullAccountId
  database := {
    userVersion := schemaVersion
    accountState := some ⟨AccountPhase.starting.stored, 1, none, 1⟩
    accountTransitions :=
      [⟨1, AccountPhase.stopped.stored, AccountPhase.starting.stored, none, 1⟩] }
  started := ⟨⟨schemaVersion, some (initialRow 0), []⟩, 1, _, rfl⟩

def fullInstallation : Installation where
  plan := ⟨[(fullAccountId, .full)], by simp⟩
  accounts := [fullAccount]
  accounts_nodup := by simp

/-- The task reads the directive that waits for it and ends. -/
def stopSteps : List DaemonInput :=
  [.account fullAccountId .stopObserved, .account fullAccountId .stopTaken,
    .account fullAccountId .directiveRead, .account fullAccountId (.recorded 2 true),
    .account fullAccountId .finished]

theorem watch_end_guarded :
    (Supervision.supervise fullInstallation.plan).Guarded (Guard fullInstallation.plan)
      fullInstallation.start (.watched none :: stopSteps) := by
  refine ⟨⟨?_, nofun⟩, guard_account ?_, guard_account ?_, guard_account ?_,
    guard_account ?_, guard_account ?_, trivial⟩
  · rintro task htask directive - hsent
    cases List.mem_singleton.mp htask
    cases hsent
    trivial
  · exact List.forall_mem_singleton.mpr trivial
  · exact List.forall_mem_singleton.mpr trivial
  · exact List.forall_mem_singleton.mpr trivial
  · refine List.forall_mem_singleton.mpr ⟨rfl, by decide, ?_⟩
    rintro current hcurrent
    cases hcurrent
    decide
  · exact List.forall_mem_singleton.mpr trivial

/-- The end of the watch, heeded: the account is recorded as protectively offline. -/
theorem watch_end_recorded :
    ∃ task, ((Supervision.supervise fullInstallation.plan).run fullInstallation.start
        (.watched none :: stopSteps)).tasks = [task] ∧
      ∃ current, snapshot task.localId task.database = .ok current ∧
        current.phase = .protectiveOffline ∧ current.protectiveReason.isSome = true := by
  refine ⟨_, rfl, ?_⟩
  exact protective_stop_recorded fullInstallation (.watched none :: stopSteps)
    watch_end_guarded _ List.prefix_rfl _ (List.mem_singleton_self _) rfl
    ⟨_, List.mem_cons_self, .ceylithContinuity, List.mem_singleton_self _⟩

/-- The watch ends and the interrupt signal follows before the task has read its
directive: the account is recorded as stopped. -/
theorem interrupt_after_watch_end_stops :
    let supervise := Supervision.supervise fullInstallation.plan
    let inputs := .watched none :: .interrupted false :: stopSteps
    ProtectiveIssued (supervise.trace fullInstallation.start inputs) fullAccountId ∧
      (supervise.run fullInstallation.start inputs).tasks.map (fun task =>
        (task.stage.hasEnded, (snapshot task.localId task.database).toOption.map
          fun current => (current.phase, current.protectiveReason))) =
        [(true, some (.stopped, none))] := by
  refine ⟨⟨_, List.mem_cons_self, .ceylithContinuity, List.mem_singleton_self _⟩, ?_⟩
  rfl

end Daemon
end Lirvena
