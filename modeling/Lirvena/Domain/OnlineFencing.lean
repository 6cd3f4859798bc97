import Lirvena.Domain.OnlineHistory
import Mathlib.Data.List.Nodup

/-!
# Fencing of sessions by their generation

A controller outlives its sessions: `stop` or a failed action ends one and
`start` begins the next under a generation that the caller names.  A completion
names its generation too, and that is all a controller can tell it by.

An action is *stale* when a session started after it was issued.  The
controller fences its stale actions (no completion of one is accepted or
changes a field) in exactly the runs that never start two sessions under one
generation.  Its sessions rise as well, each under a generation above all that were
used before, in exactly the runs whose callers see to it: `start` itself compares the
generation with nothing.
-/

namespace Lirvena
namespace Domain

open Lib

/-- The states in which no generation owns the machine. -/
def OnlineState.isIdle : OnlineState → Bool
  | .stopped | .protectiveOffline _ => true
  | _ => false

/-- A report about an action: its completion, or its failure. -/
def OnlineOp.Completes (op : OnlineOp) (generation : OnlineGeneration)
    (action : OnlineAction) : Prop :=
  match op, action with
  | .initialSyncSucceeded reported _ _, .initialSync _
  | .securityBootstrapSucceeded reported _, .securityBootstrap _
  | .statusConfirmationCompleted reported _, .statusConfirmation _
  | .heartbeatCompleted reported _ _, .businessHeartbeat _
  | .delayedSyncCompleted reported _ _, .delayedSync _
  | .requiredActionFailed reported, _ => reported = generation
  | _, _ => False

/-- The generation that a report names. -/
def OnlineOp.reported : OnlineOp → Option OnlineGeneration
  | .initialSyncSucceeded generation _ _ | .securityBootstrapSucceeded generation _
  | .statusConfirmationCompleted generation _ | .heartbeatCompleted generation _ _
  | .delayedSyncCompleted generation _ _ | .requiredActionFailed generation =>
      some generation
  | .start _ | .pollDue _ | .stop => none

theorem OnlineOp.Completes.reported_eq {op : OnlineOp} {generation : OnlineGeneration}
    {action : OnlineAction} (hcompletes : op.Completes generation action) :
    op.reported = some generation := by
  cases op <;> cases action <;>
    first | exact hcompletes.elim | exact congrArg some hcompletes

def OnlineDirective.dispatched :
    OnlineDirective → Option (OnlineGeneration × OnlineAction)
  | .dispatch generation action => some (generation, action)
  | _ => none

/-- The actions that an answer asks the caller to dispatch. -/
def OnlineAnswer.issued : OnlineAnswer → List (OnlineGeneration × OnlineAction)
  | .directive requested => requested.dispatched.toList
  | .due heartbeat delayedSync =>
      (heartbeat.toList ++ delayedSync.toList).filterMap OnlineDirective.dispatched
  | _ => []

/-- The generation of the session that an entry of the trace starts. -/
def acceptedStart : OnlineOp × OnlineAnswer → Option OnlineGeneration
  | (.start _, .rejected) => none
  | (.start generation, _) => some generation
  | _ => none

def issuedActions (trace : List (OnlineOp × OnlineAnswer)) :
    List (OnlineGeneration × OnlineAction) :=
  trace.flatMap (fun entry => entry.2.issued)

/-- The action was issued, and a session was started after it. -/
def StaleAction (trace : List (OnlineOp × OnlineAnswer)) (generation : OnlineGeneration)
    (action : OnlineAction) : Prop :=
  ∃ before start after, trace = before ++ start :: after ∧
    (generation, action) ∈ issuedActions before ∧ (acceptedStart start).isSome

namespace OnlineMachine

/-- The generation of the session that the operation would start here. -/
def startsSession (machine : OnlineMachine) : OnlineOp → Option OnlineGeneration
  | .start generation => if machine.state.isIdle then some generation else none
  | _ => none

/-- The generations of the sessions of a run, oldest first. -/
def startedGenerations (machine : OnlineMachine) :
    List OnlineOp → List OnlineGeneration
  | [] => []
  | op :: rest =>
      (machine.startsSession op).toList ++ startedGenerations (machine.apply op).1 rest

/-- No completion of a stale action is accepted or changes a field. -/
def Fenced (trace : List (OnlineOp × OnlineAnswer)) (machine : OnlineMachine) : Prop :=
  ∀ generation action, StaleAction trace generation action →
    ∀ op : OnlineOp, op.Completes generation action →
      machine.apply op = (machine, .rejected)

/-- Every start that was accepted names a generation above every one used before it. -/
def Rising (trace : List (OnlineOp × OnlineAnswer)) : Prop :=
  EachStep (fun before start => ∀ generation, acceptedStart start = some generation →
    ∀ earlier ∈ before.filterMap acceptedStart, earlier.value < generation.value) trace

/-- The sessions of a run so far: each start was required to name a greater generation, and
no action of an earlier session reaches the current one. -/
structure SessionsFenced (trace : List (OnlineOp × OnlineAnswer)) (machine : OnlineMachine) :
    Prop where
  rising : Rising trace
  fenced : Fenced trace machine

theorem startedGenerations_append (machine : OnlineMachine) (first second : List OnlineOp) :
    machine.startedGenerations (first ++ second) =
      machine.startedGenerations first ++
        (controller.run machine first).startedGenerations second := by
  induction first generalizing machine with
  | nil => rfl
  | cons op rest ih =>
      have hrest := ih (machine.apply op).1
      simp only [List.cons_append, startedGenerations, hrest, List.append_assoc]
      rfl

/-- A start is accepted exactly in an idle machine. -/
theorem acceptedStart_apply (machine : OnlineMachine) (op : OnlineOp) :
    acceptedStart (op, (machine.apply op).2) = machine.startsSession op := by
  cases op with
  | start generation =>
      cases hstate : machine.state <;>
        simp [apply, start, startsSession, hstate, OnlineState.isIdle, acceptedStart,
          OnlineAnswer.ofDirective]
  | _ => rfl

theorem startedGenerations_eq_trace (machine : OnlineMachine) (ops : List OnlineOp) :
    machine.startedGenerations ops =
      (controller.trace machine ops).filterMap acceptedStart := by
  induction ops generalizing machine with
  | nil => rfl
  | cons op rest ih =>
      have hhead : acceptedStart (op, (controller.step machine op).2) =
        machine.startsSession op := acceptedStart_apply machine op
      rw [Machine.trace_cons, List.filterMap_cons, startedGenerations, ih, hhead]
      cases machine.startsSession op <;> rfl

/-- A report about any generation but the current one is rejected. -/
theorem apply_foreign_report {machine : OnlineMachine} {op : OnlineOp}
    {generation : OnlineGeneration} (hreported : op.reported = some generation)
    (hforeign : generationOf machine.state ≠ some generation) :
    machine.apply op = (machine, .rejected) := by
  have hstate : ∀ state, generationOf state = some generation →
      machine.state ≠ state := by
    intro state hgeneration hequal
    exact hforeign (hequal ▸ hgeneration)
  -- Each report is matched against a state that names its own generation.
  cases op with
  | start other => cases hreported
  | pollDue nowMs => cases hreported
  | stop => cases hreported
  | initialSyncSucceeded other nowMs delayedAfterMs =>
      cases hreported
      simp [apply, initialSyncSucceeded, hstate (.synchronizing generation) rfl,
        OnlineAnswer.ofDirective]
  | securityBootstrapSucceeded other nowMs =>
      cases hreported
      simp [apply, securityBootstrapSucceeded, hstate (.bootstrapping generation) rfl,
        OnlineAnswer.ofDirective]
  | statusConfirmationCompleted other nowMs =>
      cases hreported
      simp [apply, statusConfirmationCompleted, hstate (.confirming generation) rfl,
        OnlineAnswer.ofDirective]
  | heartbeatCompleted other nowMs requestedIntervalMs =>
      cases hreported
      simp [apply, heartbeatCompleted, hstate (.online generation) rfl,
        OnlineAnswer.ofCompletion]
  | delayedSyncCompleted other nowMs delayedAfterMs =>
      cases hreported
      simp [apply, delayedSyncCompleted, hstate (.online generation) rfl,
        OnlineAnswer.ofCompletion]
  | requiredActionFailed other =>
      cases hreported
      simp only [apply, requiredActionFailed]
      split
      · rfl
      · rfl
      · simp [hforeign, OnlineAnswer.ofDirective]

/-! ## Sessions of a run -/

/-- What the trace of a run says about the sessions: the machine belongs to the
last one, every issued action belongs to one, and a stale action belongs to an
earlier one. -/
structure Sessions (trace : List (OnlineOp × OnlineAnswer)) (machine : OnlineMachine) :
    Prop where
  current : ∀ generation, generationOf machine.state = some generation →
    (trace.filterMap acceptedStart).getLast? = some generation
  issued : ∀ generation action, (generation, action) ∈ issuedActions trace →
    generation ∈ trace.filterMap acceptedStart
  stale : ∀ generation action, StaleAction trace generation action →
    generation ∈ (trace.filterMap acceptedStart).dropLast
  synchronized : ∀ generation, generation ∈ trace.filterMap acceptedStart →
    ∃ id, (generation, .initialSync id) ∈ issuedActions trace

/-- An action is stale behind one more entry if it was stale before, or if it
was issued and the entry starts a session. -/
theorem staleAction_append_singleton {trace : List (OnlineOp × OnlineAnswer)}
    {entry : OnlineOp × OnlineAnswer} {generation : OnlineGeneration}
    {action : OnlineAction} :
    StaleAction (trace ++ [entry]) generation action ↔
      StaleAction trace generation action ∨
        (generation, action) ∈ issuedActions trace ∧ (acceptedStart entry).isSome := by
  constructor
  · rintro ⟨before, start, after, hsplit, hissued, hstart⟩
    rcases List.eq_nil_or_concat after with rfl | ⟨rest, last, rfl⟩
    · obtain ⟨rfl, hentry⟩ := List.append_inj' hsplit rfl
      cases hentry
      exact Or.inr ⟨hissued, hstart⟩
    · have hcut : trace ++ [entry] = (before ++ start :: rest) ++ [last] := by
        simpa using hsplit
      obtain ⟨rfl, -⟩ := List.append_inj' hcut rfl
      exact Or.inl ⟨before, start, rest, rfl, hissued, hstart⟩
  · rintro (⟨before, start, after, rfl, hissued, hstart⟩ | ⟨hissued, hstart⟩)
    · exact ⟨before, start, after ++ [entry], by simp, hissued, hstart⟩
    · exact ⟨trace, entry, [], by simp, hissued, hstart⟩

theorem sessions_new (plan : OnlinePlan) : Sessions [] (OnlineMachine.new plan) where
  current generation hstate := by cases hstate
  issued generation action hissued := by cases hissued
  stale generation action hstale := by
    obtain ⟨before, start, after, hsplit, -⟩ := hstale
    simp at hsplit
  synchronized generation hstarted := by cases hstarted

/-- One operation either starts a session and issues its initial
synchronization, or works for the session that is already current. -/
theorem step_session {machine next : OnlineMachine} {op : OnlineOp}
    {answer : OnlineAnswer} (hstep : OnlineStep machine op next answer) :
    (∃ generation id, acceptedStart (op, answer) = some generation ∧
        generationOf next.state = some generation ∧
        answer.issued = [(generation, .initialSync id)]) ∨
      (acceptedStart (op, answer) = none ∧
        (∀ generation, generationOf next.state = some generation →
          generationOf machine.state = some generation) ∧
        ∀ generation action, (generation, action) ∈ answer.issued →
          generationOf machine.state = some generation) := by
  cases hstep with
  | rejected op =>
      right
      refine ⟨?_, fun _ hsame => hsame, ?_⟩
      · cases op <;> rfl
      · intro generation action hissued
        cases hissued
  | started generation hidle => exact Or.inl ⟨generation, _, rfl, rfl, rfl⟩
  | initialSync generation nowMs delayedAfterMs hstate =>
      right
      simp [acceptedStart, hstate, generationOf, OnlineAnswer.issued,
        OnlineDirective.dispatched]
  | bootstrapConfirming generation nowMs action hstate hplan =>
      right
      simp [acceptedStart, hstate, generationOf, OnlineAnswer.issued,
        OnlineDirective.dispatched]
  | bootstrapOnline generation nowMs hstate hplan =>
      right
      simp [acceptedStart, hstate, generationOf, entered, OnlineAnswer.issued,
        OnlineDirective.dispatched]
  | confirmed generation nowMs hstate =>
      right
      simp [acceptedStart, hstate, generationOf, entered, OnlineAnswer.issued,
        OnlineDirective.dispatched]
  | polledIdle nowMs =>
      right
      simp [acceptedStart, OnlineAnswer.issued]
  | polled generation nowMs hstate =>
      right
      refine ⟨rfl, fun _ hsame => hsame, ?_⟩
      intro named action hissued
      obtain ⟨directive, hslots, hdispatched⟩ := List.mem_filterMap.mp hissued
      -- each slot is empty or names the session that is online
      have hnamed {due : Bool} {request : OnlineAction}
          (hslot : directive ∈
            (if due then some (OnlineDirective.dispatch generation request) else none).toList) :
          named = generation := by
        cases due with
        | false => cases hslot
        | true =>
            obtain rfl := List.mem_singleton.mp hslot
            cases hdispatched
            rfl
      rw [(List.mem_append.mp hslots).elim hnamed hnamed, hstate]
      rfl
  | heartbeat generation nowMs requestedIntervalMs hstate hflight =>
      right
      simp [acceptedStart, OnlineAnswer.issued]
  | heartbeatOverflow generation nowMs requestedIntervalMs hstate hflight =>
      right
      simp [acceptedStart, OnlineAnswer.issued]
  | delayedSync generation nowMs delayedAfterMs hstate hflight =>
      right
      simp [acceptedStart, OnlineAnswer.issued]
  | failed generation hstate =>
      right
      refine ⟨rfl, ?_, ?_⟩
      · intro named hnamed
        cases hnamed
        exact hstate
      · intro named action hissued
        cases hissued
  | stopped =>
      right
      simp [acceptedStart, generationOf, stop, OnlineAnswer.issued]

theorem Sessions.mem_of_current {trace : List (OnlineOp × OnlineAnswer)}
    {machine : OnlineMachine} (hsessions : Sessions trace machine)
    {generation : OnlineGeneration} (hcurrent : generationOf machine.state = some generation) :
    generation ∈ trace.filterMap acceptedStart :=
  List.mem_of_getLast? (hsessions.current generation hcurrent)

section SessionsStep

variable {trace : List (OnlineOp × OnlineAnswer)} {entry : OnlineOp × OnlineAnswer}
  {machine next : OnlineMachine}

theorem issuedActions_append_singleton :
    issuedActions (trace ++ [entry]) = issuedActions trace ++ entry.2.issued := by
  simp [issuedActions]

/-- An entry that starts a session makes every action issued before it stale. -/
theorem Sessions.started (hsessions : Sessions trace machine)
    {generation : OnlineGeneration} {id : PlanActionId}
    (hstart : acceptedStart entry = some generation)
    (hnext : generationOf next.state = some generation)
    (hanswer : entry.2.issued = [(generation, .initialSync id)]) :
    Sessions (trace ++ [entry]) next := by
  have hstarted : (trace ++ [entry]).filterMap acceptedStart =
      trace.filterMap acceptedStart ++ [generation] := by
    simp [hstart]
  constructor
  · intro named hnamed
    rw [hstarted, List.getLast?_concat]
    exact hnext.symm.trans hnamed
  · intro named action hissued
    rw [issuedActions_append_singleton, hanswer, List.mem_append,
      List.mem_singleton] at hissued
    rw [hstarted, List.mem_append, List.mem_singleton]
    rcases hissued with hearlier | hnow
    · exact Or.inl (hsessions.issued named action hearlier)
    · exact Or.inr (congrArg Prod.fst hnow)
  · intro named action hstale
    rw [hstarted, List.dropLast_concat]
    -- Whatever was issued before the start is stale from now on.
    rcases staleAction_append_singleton.mp hstale with hearlier | ⟨hissued, -⟩
    · exact List.mem_of_mem_dropLast (hsessions.stale named action hearlier)
    · exact hsessions.issued named action hissued
  · intro named hnamed
    rw [hstarted, List.mem_append, List.mem_singleton] at hnamed
    rw [issuedActions_append_singleton, hanswer]
    rcases hnamed with hearlier | rfl
    · obtain ⟨first, hfirst⟩ := hsessions.synchronized named hearlier
      exact ⟨first, List.mem_append_left _ hfirst⟩
    · exact ⟨id, List.mem_append_right _ (List.mem_singleton_self _)⟩

/-- Any other entry works for the session that is current. -/
theorem Sessions.worked (hsessions : Sessions trace machine)
    (hstart : acceptedStart entry = none)
    (hnext : ∀ generation, generationOf next.state = some generation →
      generationOf machine.state = some generation)
    (hanswer : ∀ generation action, (generation, action) ∈ entry.2.issued →
      generationOf machine.state = some generation) :
    Sessions (trace ++ [entry]) next := by
  have hstarted : (trace ++ [entry]).filterMap acceptedStart =
      trace.filterMap acceptedStart := by
    simp [hstart]
  constructor
  · intro named hnamed
    rw [hstarted]
    exact hsessions.current named (hnext named hnamed)
  · intro named action hissued
    rw [issuedActions_append_singleton, List.mem_append] at hissued
    rw [hstarted]
    rcases hissued with hearlier | hnow
    · exact hsessions.issued named action hearlier
    · exact hsessions.mem_of_current (hanswer named action hnow)
  · intro named action hstale
    rw [hstarted]
    -- Nothing becomes stale without a start.
    rcases staleAction_append_singleton.mp hstale with hearlier | ⟨-, hsome⟩
    · exact hsessions.stale named action hearlier
    · simp [hstart] at hsome
  · intro named hnamed
    rw [hstarted] at hnamed
    rw [issuedActions_append_singleton]
    obtain ⟨first, hfirst⟩ := hsessions.synchronized named hnamed
    exact ⟨first, List.mem_append_left _ hfirst⟩

end SessionsStep

/-- One operation keeps the reading of the trace. -/
theorem sessions_step {trace : List (OnlineOp × OnlineAnswer)}
    {machine next : OnlineMachine} {op : OnlineOp} {answer : OnlineAnswer}
    (hsessions : Sessions trace machine) (hstep : OnlineStep machine op next answer) :
    Sessions (trace ++ [(op, answer)]) next := by
  rcases step_session hstep with ⟨generation, id, hstart, hnext, hanswer⟩ |
    ⟨hstart, hnext, hanswer⟩
  · exact hsessions.started hstart hnext hanswer
  · exact hsessions.worked hstart hnext hanswer

theorem controller_sessions (plan : OnlinePlan) (ops : List OnlineOp) :
    Sessions (controller.trace (OnlineMachine.new plan) ops)
      (controller.run (OnlineMachine.new plan) ops) := by
  refine controller.history_run Sessions (sessions_new plan) ?_ ops
  intro trace machine op hsessions
  exact sessions_step hsessions (apply_step machine op)

/-- A run that repeats a generation has a first start that repeats one. -/
theorem exists_repeated_start {machine : OnlineMachine} {ops : List OnlineOp}
    (hrepeated : ¬ (machine.startedGenerations ops).Nodup) :
    ∃ before op after generation, ops = before ++ op :: after ∧
      (controller.run machine before).startsSession op = some generation ∧
      generation ∈ machine.startedGenerations before := by
  induction ops using List.reverseRecOn with
  | nil => exact absurd List.nodup_nil hrepeated
  | append_singleton ops op ih =>
      by_cases hbefore : (machine.startedGenerations ops).Nodup
      · rw [startedGenerations_append] at hrepeated
        cases hstart : (controller.run machine ops).startsSession op with
        | none => simp [startedGenerations, hstart, hbefore] at hrepeated
        | some generation =>
            refine ⟨ops, op, [], generation, rfl, hstart, ?_⟩
            by_contra hfresh
            refine hrepeated (List.nodup_append'.mpr ⟨hbefore, ?_, ?_⟩)
            · simp [startedGenerations, hstart]
            · simpa [startedGenerations, hstart] using hfresh
      · obtain ⟨before, first, after, generation, rfl, hstart, hmem⟩ := ih hbefore
        exact ⟨before, first, after ++ [op], generation, by simp, hstart, hmem⟩

/-- In the session just started, the initial synchronization of its generation
is accepted. -/
theorem apply_initialSync_after_start {machine : OnlineMachine} {op : OnlineOp}
    {generation : OnlineGeneration} (hstart : machine.startsSession op = some generation) :
    ((machine.apply op).1.apply (.initialSyncSucceeded generation 0 none)).2 =
      .directive (.dispatch generation
        (.securityBootstrap machine.plan.securityBootstrap)) := by
  cases op with
  | start other =>
      cases hstate : machine.state <;>
        simp [startsSession, hstate, OnlineState.isIdle] at hstart
      all_goals
        subst hstart
        simp [apply, start, hstate, initialSyncSucceeded, OnlinePlan.delayedSyncDue,
          clearSchedule, OnlineAnswer.ofDirective]
  | _ => cases hstart

/-- A run of the controller fences its stale actions in every state it reaches
exactly when no two of its sessions start under one generation. -/
theorem fenced_iff_nodup (plan : OnlinePlan) (ops : List OnlineOp) :
    (∀ reached, reached <+: ops →
        Fenced (controller.trace (OnlineMachine.new plan) reached)
          (controller.run (OnlineMachine.new plan) reached)) ↔
      ((OnlineMachine.new plan).startedGenerations ops).Nodup := by
  constructor
  · intro hfenced
    by_contra hrepeated
    obtain ⟨before, op, after, generation, rfl, hstart, hmem⟩ :=
      exists_repeated_start hrepeated
    have hsessions := controller_sessions plan before
    rw [startedGenerations_eq_trace] at hmem
    obtain ⟨id, hissued⟩ := hsessions.synchronized generation hmem
    have hstale : StaleAction
        (controller.trace (OnlineMachine.new plan) (before ++ [op])) generation
        (.initialSync id) := by
      rw [Machine.trace_append]
      refine staleAction_append_singleton.mpr (Or.inr ⟨hissued, ?_⟩)
      rw [show (controller.step (controller.run (OnlineMachine.new plan) before) op).2 =
        ((controller.run (OnlineMachine.new plan) before).apply op).2 from rfl,
        acceptedStart_apply, hstart]
      rfl
    have hrejected := hfenced (before ++ [op]) ⟨after, by simp⟩ generation
      (.initialSync id) hstale (.initialSyncSucceeded generation 0 none) rfl
    have haccepted := apply_initialSync_after_start hstart
    rw [Machine.run_append] at hrejected
    rw [show ((controller.run (OnlineMachine.new plan) before).apply op).1 =
      controller.run (controller.run (OnlineMachine.new plan) before) [op] from rfl,
      hrejected] at haccepted
    cases haccepted
  · intro hdistinct reached hreached generation action hstale op hcompletes
    have hsessions := controller_sessions plan reached
    have hfront : ((controller.trace (OnlineMachine.new plan) reached).filterMap
        acceptedStart).Nodup := by
      obtain ⟨rest, rfl⟩ := hreached
      rw [startedGenerations_append] at hdistinct
      rw [← startedGenerations_eq_trace]
      exact (List.nodup_append'.mp hdistinct).1
    refine apply_foreign_report hcompletes.reported_eq ?_
    intro hcurrent
    -- the current generation is the last of the list, a stale one stands before it
    have hlast := hsessions.current generation hcurrent
    have hearlier := hsessions.stale generation action hstale
    obtain ⟨earlier, hsplit⟩ := List.getLast?_eq_some_iff.mp hlast
    rw [hsplit, List.dropLast_concat] at hearlier
    rw [hsplit] at hfront
    exact (List.nodup_append'.mp hfront).2.2 hearlier (List.mem_singleton_self _)

/-- The starts of a trace rise exactly if the list of their generations does. -/
theorem rising_iff_pairwise {trace : List (OnlineOp × OnlineAnswer)} :
    Rising trace ↔ (trace.filterMap acceptedStart).Pairwise
      fun earlier later => earlier.value < later.value := by
  induction trace using List.reverseRecOn with
  | nil => exact iff_of_true eachStep_nil List.Pairwise.nil
  | append_singleton trace entry ih =>
      rw [Rising] at ih ⊢
      rw [eachStep_concat_iff, ih, List.filterMap_append, List.pairwise_append]
      refine and_congr_right fun _ => ?_
      cases hentry : acceptedStart entry with
      | none => simp [hentry]
      | some generation => simp [hentry]

/-- In every state that a run of the controller reaches each of its sessions was started under
a generation above all earlier ones and no action of an earlier session is accepted, exactly
when the run starts its sessions under rising generations. -/
theorem controller_fenced_iff (plan : OnlinePlan) (ops : List OnlineOp) :
    (∀ reached, reached <+: ops →
        SessionsFenced (controller.trace (OnlineMachine.new plan) reached)
          (controller.run (OnlineMachine.new plan) reached)) ↔
      ((OnlineMachine.new plan).startedGenerations ops).Pairwise
        fun earlier later => earlier.value < later.value := by
  rw [startedGenerations_eq_trace, ← rising_iff_pairwise]
  constructor
  · intro hfenced
    exact (hfenced ops List.prefix_rfl).rising
  · intro hrising reached hreached
    have hdistinct : ((OnlineMachine.new plan).startedGenerations ops).Nodup := by
      rw [startedGenerations_eq_trace]
      refine (rising_iff_pairwise.mp hrising).imp ?_
      intro earlier later hless hsame
      exact Nat.ne_of_lt hless (congrArg OnlineGeneration.value hsame)
    refine ⟨hrising.of_prefix ?_, (fenced_iff_nodup plan ops).mpr hdistinct reached hreached⟩
    obtain ⟨rest, rfl⟩ := hreached
    exact ⟨_, (Machine.trace_append ..).symm⟩

/-- Generation 1 is started, stopped and started again: the answer to the first
session's initial synchronization advances the second session. -/
theorem reused_generation_not_fenced :
    let generation : OnlineGeneration := ⟨1, by decide⟩
    let ops : List OnlineOp := [.start generation, .stop, .start generation]
    ¬ Rising (controller.trace (OnlineMachine.new testPlan) ops) ∧
      ¬ Fenced (controller.trace (OnlineMachine.new testPlan) ops)
        (controller.run (OnlineMachine.new testPlan) ops) := by
  intro generation ops
  refine ⟨fun hrising => ?_, fun hfenced => ?_⟩
  · have hless := hrising ((controller.trace (OnlineMachine.new testPlan) ops).take 2) _ []
      rfl generation rfl generation (List.mem_singleton_self _)
    exact Nat.lt_irrefl _ hless
  · have hstale : StaleAction (controller.trace (OnlineMachine.new testPlan) ops) generation
        (.initialSync testPlan.initialSync) := by
      refine ⟨(controller.trace (OnlineMachine.new testPlan) ops).take 2, _, [], rfl, ?_, rfl⟩
      exact List.mem_singleton_self _
    have hrejected := hfenced generation _ hstale
      (.initialSyncSucceeded generation 10000 none) rfl
    have hstate := congrArg (fun result => result.1.state) hrejected
    cases hstate

end OnlineMachine
end Domain
end Lirvena
