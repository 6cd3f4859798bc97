import Lirvena.Ceylith.Action
import Lirvena.Domain.DeviceSnapshot

/-!
# The bootstrap flow

After a login the server directs a flow of actions: the client executes each one on
the account's transport, sends one observation of it and takes the next update from
the answer.  The loop executes up to a compiled number of actions; it tests an update
for completion only where it would execute another one, so that the update behind the
last action is never tested.
-/

namespace Lirvena
namespace Runtime

open Lib
open Ceylith

def flowLifetimeMs : Nat := 30000

def loginEpoch : UInt64 := 1

def onlineEpoch : UInt64 := 1

def transportEpoch : UInt64 := 1

def requiredResponsePolicy : UInt32 := 2

def maxFlowActions : Nat := 8

/-! ## One action -/

structure ObservedAction where
  kind : ActionObservationKind
  payload : List UInt8

/-- What the exchange with the account's server comes to, within its timeout. -/
inductive Exchanged where
  | answered (payload : List UInt8)
  | failed
  | elapsed

/-- The checks of `prepare_action` on the directive, and whether its frame is built. -/
def prepareAction (sha256 : Sha256) (framed : Bool) (action : ActionDirective) : Bool :=
  action.transportEpoch = transportEpoch && action.responsePolicy = requiredResponsePolicy &&
    sha256 action.bodyShard = action.expectedBodyDigest &&
      (fromUtf8 action.routeShard).isSome && framed

def executeAction (prepared : Bool) (exchanged : Exchanged) : ObservedAction :=
  if prepared then
    match exchanged with
    | .answered payload => ⟨.response, payload⟩
    | .failed => ⟨.transportFailure, []⟩
    | .elapsed => ⟨.timeout, []⟩
  else
    ⟨.localEncodeFailure, []⟩

/-! ## The flow -/

inductive FlowError where
  | setup
  | clock
  | client (error : ClientError)
  | actionFailed
  | exceeded

/-- What a flow is run with. -/
structure FlowClient where
  sha256 : Sha256
  admission : SessionAdmission
  accountSlotId : AccountSlotId
  flowId : ActionFlowId

/-- What the client meets when it begins the flow. -/
structure FlowBegin where
  authenticated : Bool
  startedAt : Option UInt64
  snapshot : List UInt8
  processInstance : List UInt8
  answer : Except ClientError Proto.InnerFrame
  answeredAt : Option UInt64

/-- What the client meets in one turn of the loop. -/
structure FlowStep where
  framed : Bool
  exchanged : Exchanged
  observedAt : Option UInt64
  answer : Except ClientError Proto.InnerFrame
  answeredAt : Option UInt64

/-- What a run does, in order. -/
inductive FlowEvent where
  | received (update : ActionFlowUpdate)
  | executed (action : ActionDirective)
  | sent (observation : ActionObservation)

namespace FlowClient

variable (client : FlowClient)

/-- `decode_action_flow_update` on an answer, at the time it is read. -/
def readUpdate (answer : Except ClientError Proto.InnerFrame) (answeredAt : Option UInt64) :
    Except FlowError ActionFlowUpdate := do
  let frame ← answer.mapError .client
  let nowMs ← okOr .clock answeredAt
  (decodeActionFlowUpdate frame client.flowId nowMs).mapError .client

/-- From the keys of the session to the first update. -/
def beginFlow (start : FlowBegin) : Except FlowError ActionFlowUpdate := do
  rejectIf .setup (start.authenticated = false)
  let startedAtMs ← okOr .clock start.startedAt
  let expiresAtMs ← okOr .setup (checkedAddU64 startedAtMs.toNat flowLifetimeMs)
  let inputs ← (actionFlowInputs start.snapshot start.processInstance).mapError .client
  let flow : ActionFlowContext := {
    flowId := client.flowId
    accountSlotId := client.accountSlotId
    loginEpoch := loginEpoch
    onlineEpoch := onlineEpoch
    transportEpoch := transportEpoch
    expiresAtMs := UInt64.ofNat expiresAtMs }
  let _ ← (actionFlowBeginRequestFor client.sha256 client.admission flow inputs
    startedAtMs).mapError .client
  client.readUpdate start.answer start.answeredAt

def execute (action : ActionDirective) (step : FlowStep) : ObservedAction :=
  executeAction (prepareAction client.sha256 step.framed action) step.exchanged

/-- The observation of an executed action, when a request can be built for it. -/
def observe (action : ActionDirective) (step : FlowStep) : Except FlowError ActionObservation := do
  let observedAtMs ← okOr .clock step.observedAt
  let observation : ActionObservation := {
    flowId := client.flowId
    actionId := action.actionId
    actionDigest := action.actionDigest
    outcome := (client.execute action step).kind
    payload := (client.execute action step).payload
    observedAtMs := observedAtMs }
  let _ ← (actionObservationRequestFor client.sha256 client.admission
    observation).mapError .client
  return observation

/-- The loop of `run`, from a turn on and with so many turns left. -/
def flowLoop (steps : Nat → FlowStep) :
    Nat → Nat → ActionFlowUpdate → List FlowEvent × Except FlowError Unit
  | 0, _, _ => ([], .error .exceeded)
  | _ + 1, _, .complete => ([], .ok ())
  | turns + 1, turn, .action action =>
      match client.observe action (steps turn) with
      | .error error => ([.executed action], .error error)
      | .ok observation =>
          match client.readUpdate (steps turn).answer (steps turn).answeredAt with
          | .error error => ([.executed action, .sent observation], .error error)
          | .ok next =>
              if observation.outcome ≠ .response then
                ([.executed action, .sent observation, .received next], .error .actionFailed)
              else
                let (events, result) := flowLoop steps turns (turn + 1) next
                (.executed action :: .sent observation :: .received next :: events, result)

/-- A whole bootstrap flow: what it does and what it returns. -/
def run (start : FlowBegin) (steps : Nat → FlowStep) :
    List FlowEvent × Except FlowError Unit :=
  match client.beginFlow start with
  | .error error => ([], .error error)
  | .ok update =>
      let (events, result) := client.flowLoop steps maxFlowActions 0 update
      (.received update :: events, result)

end FlowClient

/-! ## What a run does -/

/-- The actions that the server sent. -/
def receivedActions (events : List FlowEvent) : List ActionDirective :=
  events.filterMap fun
    | .received (.action action) => some action
    | _ => none

def executedActions (events : List FlowEvent) : List ActionDirective :=
  events.filterMap fun
    | .executed action => some action
    | _ => none

def sentObservations (events : List FlowEvent) : List ActionObservation :=
  events.filterMap fun
    | .sent observation => some observation
    | _ => none

/-- The server reports completion. -/
def Completes (events : List FlowEvent) : Prop :=
  .received .complete ∈ events

/-- Every observation that was sent is of a response. -/
def AllResponded (events : List FlowEvent) : Prop :=
  ∀ observation ∈ sentObservations events, observation.outcome = .response

/-- An observation is of an action. -/
def Observes (observation : ActionObservation) (action : ActionDirective) : Prop :=
  observation.actionId = action.actionId ∧ observation.actionDigest = action.actionDigest

/-- What a flow is to do: each action is executed once and in order, up to a failure or
the bound, each one is observed once, and the flow succeeds exactly on a completion
behind actions that all produced a response. -/
structure FlowLaw (run : List FlowEvent × Except FlowError Unit) : Prop where
  inOrder : executedActions run.1 <+: receivedActions run.1
  all : (executedActions run.1).length = (receivedActions run.1).length ∨
    (executedActions run.1).length = maxFlowActions ∨ ¬ AllResponded run.1
  bounded : (executedActions run.1).length ≤ maxFlowActions
  observed : List.Forall₂ Observes (sentObservations run.1) (executedActions run.1)
  succeeds : run.2 = .ok () ↔ Completes run.1 ∧ AllResponded run.1

/-! ## The inputs that decide a run -/

namespace FlowClient

variable (client : FlowClient) (start : FlowBegin) (steps : Nat → FlowStep)

/-- The update that a turn of the loop begins with. -/
def updateAt : Nat → Except FlowError ActionFlowUpdate
  | 0 => client.beginFlow start
  | turn + 1 => client.readUpdate (steps turn).answer (steps turn).answeredAt

/-- The exchange of a prepared action is answered. -/
def Answered (action : ActionDirective) (step : FlowStep) (payload : List UInt8) : Prop :=
  prepareAction client.sha256 step.framed action = true ∧ step.exchanged = .answered payload

/-- The clock is read, and an answer is neither empty nor above the bound on payloads. -/
def Observable (action : ActionDirective) (step : FlowStep) : Prop :=
  (∃ nowMs, step.observedAt = some nowMs ∧ nowMs ≠ 0) ∧
    ∀ payload, client.Answered action step payload →
      payload ≠ [] ∧ payload.length ≤ maxActionPayloadLen

/-- The turn has an action that is answered and can be observed. -/
def RespondsAt (turn : Nat) : Prop :=
  ∃ action, client.updateAt start steps turn = .ok (.action action) ∧
    client.Observable action (steps turn) ∧ ∃ payload, client.Answered action (steps turn) payload

/-- The turn has an action that cannot be observed. -/
def UnobservedAt (turn : Nat) : Prop :=
  ∃ action, client.updateAt start steps turn = .ok (.action action) ∧
    ¬ client.Observable action (steps turn)

/-- From a turn on, as many actions as are left respond, and then the server completes. -/
def UsesAllTurns (turns turn : Nat) : Prop :=
  (∀ index < turns, client.RespondsAt start steps (turn + index)) ∧
    client.updateAt start steps (turn + turns) = .ok .complete

/-- From a turn on, an action behind responses only cannot be observed. -/
def LeavesUnobserved (turns turn : Nat) : Prop :=
  ∃ index < turns, (∀ earlier < index, client.RespondsAt start steps (turn + earlier)) ∧
    client.UnobservedAt start steps (turn + index)

variable {client start steps}

theorem usesAllTurns_succ {turns turn : Nat} :
    client.UsesAllTurns start steps (turns + 1) turn ↔
      client.RespondsAt start steps turn ∧ client.UsesAllTurns start steps turns (turn + 1) := by
  unfold UsesAllTurns
  rw [Nat.forall_lt_succ_left, Nat.add_zero, Nat.add_right_comm turn 1 turns, Nat.add_assoc turn]
  simp only [Nat.add_right_comm turn 1, Nat.add_assoc, and_assoc]

theorem leavesUnobserved_succ {turns turn : Nat} :
    client.LeavesUnobserved start steps (turns + 1) turn ↔
      client.UnobservedAt start steps turn ∨
        client.RespondsAt start steps turn ∧
          client.LeavesUnobserved start steps turns (turn + 1) := by
  constructor
  · rintro ⟨index, hindex, hearlier, hunobserved⟩
    cases index with
    | zero => exact .inl hunobserved
    | succ index =>
        refine .inr ⟨hearlier 0 (Nat.succ_pos index), index, by omega, fun earlier hless => ?_, ?_⟩
        · have hresponds := hearlier (earlier + 1) (by omega)
          rwa [Nat.add_comm earlier 1, ← Nat.add_assoc] at hresponds
        · rwa [Nat.add_comm index 1, ← Nat.add_assoc] at hunobserved
  · rintro (hunobserved | ⟨hresponds, index, hindex, hearlier, hunobserved⟩)
    · exact ⟨0, Nat.succ_pos turns, fun _ hless => absurd hless (Nat.not_lt_zero _), hunobserved⟩
    · refine ⟨index + 1, by omega, fun earlier hless => ?_, ?_⟩
      · cases earlier with
        | zero => exact hresponds
        | succ earlier =>
            rw [Nat.add_comm earlier 1, ← Nat.add_assoc]
            exact hearlier earlier (by omega)
      · rwa [Nat.add_comm index 1, ← Nat.add_assoc]

theorem execute_answered {action : ActionDirective} {step : FlowStep} {payload : List UInt8}
    (hanswered : client.Answered action step payload) :
    client.execute action step = ⟨.response, payload⟩ := by
  simp only [execute, executeAction, hanswered.1, hanswered.2, if_true]

theorem execute_unanswered {action : ActionDirective} {step : FlowStep}
    (hnone : ¬ ∃ payload, client.Answered action step payload) :
    (client.execute action step).kind ≠ .response ∧
      (client.execute action step).payload = [] := by
  unfold execute executeAction
  by_cases hprepared : prepareAction client.sha256 step.framed action = true
  · rw [if_pos hprepared]
    cases hexchanged : step.exchanged with
    | answered payload => exact absurd ⟨payload, hprepared, hexchanged⟩ hnone
    | failed => exact ⟨by decide, rfl⟩
    | elapsed => exact ⟨by decide, rfl⟩
  · rw [if_neg hprepared]
    exact ⟨by decide, rfl⟩

/-- The payload goes with the outcome, and within the bound, exactly where an answer is
neither empty nor above the bound. -/
theorem execute_fits_iff {action : ActionDirective} {step : FlowStep} :
    (((client.execute action step).kind = .response ↔
        (client.execute action step).payload ≠ []) ∧
      (client.execute action step).payload.length ≤ maxActionPayloadLen) ↔
      ∀ payload, client.Answered action step payload →
        payload ≠ [] ∧ payload.length ≤ maxActionPayloadLen := by
  by_cases hanswered : ∃ payload, client.Answered action step payload
  · obtain ⟨payload, hpayload⟩ := hanswered
    simp only [execute_answered hpayload, true_iff]
    constructor
    · intro hfits other hother
      have hsame : payload = other := Exchanged.answered.inj (hpayload.2.symm.trans hother.2)
      exact hsame ▸ hfits
    · intro hall
      exact hall payload hpayload
  · obtain ⟨hkind, hempty⟩ := execute_unanswered hanswered
    rw [hempty]
    refine iff_of_true ⟨iff_of_false hkind (not_not.mpr rfl), Nat.zero_le _⟩ ?_
    intro payload hpayload
    exact absurd ⟨payload, hpayload⟩ hanswered

theorem observe_eq_ok_iff {action : ActionDirective} {step : FlowStep}
    {observation : ActionObservation} :
    client.observe action step = .ok observation ↔
      ∃ nowMs, step.observedAt = some nowMs ∧ nowMs ≠ 0 ∧
        observation = ⟨client.flowId, action.actionId, action.actionDigest,
          (client.execute action step).kind, (client.execute action step).payload, nowMs⟩ ∧
        ∀ payload, client.Answered action step payload →
          payload ≠ [] ∧ payload.length ≤ maxActionPayloadLen := by
  rw [← execute_fits_iff]
  unfold observe
  constructor
  · intro hobserve
    obtain ⟨nowMs, hnow, hobserve⟩ := bind_eq_ok_iff.mp hobserve
    obtain ⟨frame, hframe, hobserve⟩ := bind_eq_ok_iff.mp hobserve
    obtain ⟨htime, hfits⟩ := (actionObservationRequestFor_isOk_iff _ _ _).mp
      ⟨frame, mapError_eq_ok_iff.mp hframe⟩
    exact ⟨nowMs, okOr_eq_ok_iff.mp hnow, htime, (Except.ok.inj hobserve).symm, hfits⟩
  · rintro ⟨nowMs, hnow, htime, rfl, hfits⟩
    obtain ⟨frame, hframe⟩ := (actionObservationRequestFor_isOk_iff client.sha256
      client.admission ⟨client.flowId, action.actionId, action.actionDigest,
        (client.execute action step).kind, (client.execute action step).payload, nowMs⟩).mpr
      ⟨htime, hfits⟩
    refine bind_eq_ok_iff.mpr ⟨nowMs, okOr_eq_ok_iff.mpr hnow, ?_⟩
    exact bind_eq_ok_iff.mpr ⟨frame, mapError_eq_ok_iff.mpr hframe, rfl⟩

/-- An observation is of its action, and of a response exactly where it is answered. -/
theorem observe_eq_ok {action : ActionDirective} {step : FlowStep}
    {observation : ActionObservation} (hobserve : client.observe action step = .ok observation) :
    client.Observable action step ∧ Observes observation action ∧
      (observation.outcome = .response ↔ ∃ payload, client.Answered action step payload) := by
  obtain ⟨nowMs, hnow, htime, rfl, hanswers⟩ := observe_eq_ok_iff.mp hobserve
  refine ⟨⟨⟨nowMs, hnow, htime⟩, hanswers⟩, ⟨rfl, rfl⟩, ?_⟩
  show (client.execute action step).kind = .response ↔ _
  by_cases hanswered : ∃ payload, client.Answered action step payload
  · obtain ⟨payload, hpayload⟩ := hanswered
    rw [execute_answered hpayload]
    exact iff_of_true rfl ⟨payload, hpayload⟩
  · exact iff_of_false (execute_unanswered hanswered).1 hanswered

theorem observe_eq_error {action : ActionDirective} {step : FlowStep} {error : FlowError}
    (hobserve : client.observe action step = .error error) :
    ¬ client.Observable action step := by
  rintro ⟨⟨nowMs, hnow, htime⟩, hanswers⟩
  have hok := observe_eq_ok_iff.mpr ⟨nowMs, hnow, htime, rfl, hanswers⟩
  rw [hobserve] at hok
  cases hok

theorem respondsAt_iff {turn : Nat} {action : ActionDirective}
    (hupdate : client.updateAt start steps turn = .ok (.action action)) :
    client.RespondsAt start steps turn ↔
      client.Observable action (steps turn) ∧
        ∃ payload, client.Answered action (steps turn) payload := by
  constructor
  · rintro ⟨other, hother, hresponds⟩
    have hsame : other = action :=
      ActionFlowUpdate.action.inj (Except.ok.inj (hother.symm.trans hupdate))
    exact hsame ▸ hresponds
  · intro hresponds
    exact ⟨action, hupdate, hresponds⟩

theorem unobservedAt_iff {turn : Nat} {action : ActionDirective}
    (hupdate : client.updateAt start steps turn = .ok (.action action)) :
    client.UnobservedAt start steps turn ↔ ¬ client.Observable action (steps turn) := by
  constructor
  · rintro ⟨other, hother, hunobserved⟩
    have hsame : other = action :=
      ActionFlowUpdate.action.inj (Except.ok.inj (hother.symm.trans hupdate))
    exact hsame ▸ hunobserved
  · intro hunobserved
    exact ⟨action, hupdate, hunobserved⟩

/-- A turn that begins with no action has nothing to execute. -/
theorem no_action_at {turn : Nat}
    (hnone : ∀ action, client.updateAt start steps turn ≠ .ok (.action action)) :
    ¬ client.RespondsAt start steps turn ∧ ¬ client.UnobservedAt start steps turn :=
  ⟨fun ⟨action, haction, _⟩ => hnone action haction,
    fun ⟨action, haction, _⟩ => hnone action haction⟩

theorem not_leavesUnobserved {turn : Nat} (hresponds : ¬ client.RespondsAt start steps turn)
    (hobserved : ¬ client.UnobservedAt start steps turn) (turns : Nat) :
    ¬ client.LeavesUnobserved start steps turns turn := by
  cases turns with
  | zero => exact fun ⟨_, hindex, _⟩ => absurd hindex (Nat.not_lt_zero _)
  | succ turns =>
      rw [leavesUnobserved_succ]
      exact not_or.mpr ⟨hobserved, fun hboth => hresponds hboth.1⟩

theorem not_usesAllTurns {turn : Nat} (hresponds : ¬ client.RespondsAt start steps turn)
    (hcomplete : client.updateAt start steps turn ≠ .ok .complete) (turns : Nat) :
    ¬ client.UsesAllTurns start steps turns turn := by
  cases turns with
  | zero => exact fun hall => hcomplete hall.2
  | succ turns =>
      rw [usesAllTurns_succ]
      exact fun hboth => hresponds hboth.1

/-! ## The loop -/

/-- What the turns that are left do, behind the update that they begin with. -/
structure LoopLaw (client : FlowClient) (start : FlowBegin) (steps : Nat → FlowStep)
    (turns turn : Nat) (update : ActionFlowUpdate)
    (done : List FlowEvent × Except FlowError Unit) : Prop where
  inOrder : executedActions done.1 <+: receivedActions (.received update :: done.1)
  all : (executedActions done.1).length =
      (receivedActions (.received update :: done.1)).length ∨
    (executedActions done.1).length = turns ∨ ¬ AllResponded done.1
  bounded : (executedActions done.1).length ≤ turns
  observed : List.Forall₂ Observes (sentObservations done.1) (executedActions done.1) ↔
    ¬ client.LeavesUnobserved start steps turns turn
  succeeds : done.2 = .ok () ↔
    (Completes (.received update :: done.1) ∧ AllResponded done.1) ∧
      ¬ client.UsesAllTurns start steps turns turn
  whole : client.UsesAllTurns start steps turns turn →
    Completes (.received update :: done.1) ∧ AllResponded done.1

/-- No turn is left: the update is not tested. -/
theorem flowLoop_law_zero (turn : Nat) (update : ActionFlowUpdate)
    (hupdate : client.updateAt start steps turn = .ok update) :
    LoopLaw client start steps 0 turn update ([], .error .exceeded) := by
  have hnone : ¬ client.LeavesUnobserved start steps 0 turn :=
    fun ⟨_, hindex, _⟩ => absurd hindex (Nat.not_lt_zero _)
  have hwhole : client.UsesAllTurns start steps 0 turn ↔
      Completes [.received update] ∧ AllResponded [] := by
    have hresponded : AllResponded [] := fun _ hmem => absurd hmem List.not_mem_nil
    have hturns : ∀ index < 0, client.RespondsAt start steps (turn + index) :=
      fun _ hindex => absurd hindex (Nat.not_lt_zero _)
    rw [UsesAllTurns, Nat.add_zero, hupdate, Except.ok.injEq, and_iff_right hturns,
      and_iff_left hresponded, Completes, List.mem_singleton, FlowEvent.received.injEq, eq_comm]
  exact {
    inOrder := List.nil_prefix
    all := .inr (.inl rfl)
    bounded := Nat.le_refl 0
    observed := iff_of_true List.Forall₂.nil hnone
    succeeds := iff_of_false (fun hok => by cases hok) fun hboth =>
      hboth.2 (hwhole.mpr hboth.1)
    whole := hwhole.mp }

/-- A completion that is tested ends the flow. -/
theorem flowLoop_law_complete (turns turn : Nat)
    (hupdate : client.updateAt start steps turn = .ok .complete) :
    LoopLaw client start steps (turns + 1) turn .complete ([], .ok ()) := by
  have hnone (action : ActionDirective) :
      client.updateAt start steps turn ≠ .ok (.action action) := by
    intro haction
    rw [hupdate] at haction
    cases haction
  obtain ⟨hresponds, hobserved⟩ := no_action_at hnone
  have hwhole : ¬ client.UsesAllTurns start steps (turns + 1) turn := by
    rw [usesAllTurns_succ]
    exact fun hboth => hresponds hboth.1
  have hcompletes : Completes [.received .complete] ∧ AllResponded [] :=
    ⟨List.mem_singleton.mpr rfl, fun _ hmem => absurd hmem List.not_mem_nil⟩
  exact {
    inOrder := List.nil_prefix
    all := .inl rfl
    bounded := Nat.zero_le _
    observed := iff_of_true List.Forall₂.nil (not_leavesUnobserved hresponds hobserved _)
    succeeds := iff_of_true rfl ⟨hcompletes, hwhole⟩
    whole := fun hall => absurd hall hwhole }

/-- A turn whose action is answered and observed goes before what the later turns do. -/
theorem LoopLaw.behind {turns turn : Nat} {action : ActionDirective}
    {observation : ActionObservation} {next : ActionFlowUpdate}
    {done : List FlowEvent × Except FlowError Unit}
    (hlater : LoopLaw client start steps turns (turn + 1) next done)
    (hresponds : client.RespondsAt start steps turn)
    (hobserved : ¬ client.UnobservedAt start steps turn)
    (hobserves : Observes observation action) (hkind : observation.outcome = .response) :
    LoopLaw client start steps (turns + 1) turn (.action action)
      (.executed action :: .sent observation :: .received next :: done.1, done.2) := by
  obtain ⟨events, result⟩ := done
  have hcompletes : Completes (.received (.action action) :: .executed action ::
      .sent observation :: .received next :: events) ↔
        Completes (.received next :: events) := by
    simp [Completes]
  have hall : AllResponded (.executed action :: .sent observation :: .received next :: events) ↔
      AllResponded events :=
    List.forall_mem_cons.trans (and_iff_right hkind)
  have hwhole : client.UsesAllTurns start steps (turns + 1) turn ↔
      client.UsesAllTurns start steps turns (turn + 1) := by
    rw [usesAllTurns_succ, and_iff_right hresponds]
  have hleaves : client.LeavesUnobserved start steps (turns + 1) turn ↔
      client.LeavesUnobserved start steps turns (turn + 1) := by
    rw [leavesUnobserved_succ, or_iff_right hobserved, and_iff_right hresponds]
  exact {
    inOrder := List.cons_prefix_cons.mpr ⟨rfl, hlater.inOrder⟩
    all := by
      rw [hall]
      exact hlater.all.imp (congrArg Nat.succ) (Or.imp (congrArg Nat.succ) id)
    bounded := Nat.succ_le_succ hlater.bounded
    observed := by
      rw [hleaves, ← hlater.observed]
      exact List.forall₂_cons.trans (and_iff_right hobserves)
    succeeds := by
      rw [hcompletes, hall, hwhole]
      exact hlater.succeeds
    whole := by
      rw [hcompletes, hall, hwhole]
      exact hlater.whole }

/-- The loop, for every number of turns that are left. -/
theorem flowLoop_law (turns turn : Nat) (update : ActionFlowUpdate)
    (hupdate : client.updateAt start steps turn = .ok update) :
    LoopLaw client start steps turns turn update (client.flowLoop steps turns turn update) := by
  induction turns generalizing turn update with
  | zero => exact flowLoop_law_zero turn update hupdate
  | succ turns ih =>
      cases update with
      | complete => exact flowLoop_law_complete turns turn hupdate
      | action action =>
          have hresponds := respondsAt_iff hupdate
          have hunobserved := unobservedAt_iff hupdate
          unfold flowLoop
          cases hobserve : client.observe action (steps turn) with
          | error error =>
              have hlost := observe_eq_error hobserve
              have hnoResponse : ¬ client.RespondsAt start steps turn :=
                fun hall => hlost (hresponds.mp hall).1
              have hwhole : ¬ client.UsesAllTurns start steps (turns + 1) turn := by
                rw [usesAllTurns_succ]
                exact fun hboth => hnoResponse hboth.1
              have hleft : client.LeavesUnobserved start steps (turns + 1) turn :=
                leavesUnobserved_succ.mpr (.inl (hunobserved.mpr hlost))
              exact {
                inOrder := List.prefix_refl _
                all := .inl rfl
                bounded := Nat.succ_le_succ (Nat.zero_le turns)
                observed := iff_of_false (fun hall => by cases hall) (not_not.mpr hleft)
                succeeds := iff_of_false (fun hok => by cases hok)
                  fun hboth => by simp [Completes] at hboth
                whole := fun hall => absurd hall hwhole }
          | ok observation =>
              obtain ⟨hobservable, hobserves, hresponse⟩ := observe_eq_ok hobserve
              have hobserved : ¬ client.UnobservedAt start steps turn :=
                fun hlost => hunobserved.mp hlost hobservable
              have hpair : List.Forall₂ Observes [observation] [action] :=
                List.Forall₂.cons hobserves List.Forall₂.nil
              have hnextUpdate : client.updateAt start steps (turn + 1) =
                  client.readUpdate (steps turn).answer (steps turn).answeredAt := rfl
              cases hread : client.readUpdate (steps turn).answer (steps turn).answeredAt with
              | error error =>
                  rw [hread] at hnextUpdate
                  have hnone (other : ActionDirective) :
                      client.updateAt start steps (turn + 1) ≠ .ok (.action other) := by
                    intro haction
                    rw [hnextUpdate] at haction
                    cases haction
                  have hend : client.updateAt start steps (turn + 1) ≠ .ok .complete := by
                    intro hcomplete
                    rw [hnextUpdate] at hcomplete
                    cases hcomplete
                  obtain ⟨hnoResponse, hnoAction⟩ := no_action_at hnone
                  have hleft : ¬ client.LeavesUnobserved start steps (turns + 1) turn := by
                    rw [leavesUnobserved_succ]
                    exact not_or.mpr ⟨hobserved, fun hboth =>
                      not_leavesUnobserved hnoResponse hnoAction turns hboth.2⟩
                  have hwhole : ¬ client.UsesAllTurns start steps (turns + 1) turn := by
                    rw [usesAllTurns_succ]
                    exact fun hboth => not_usesAllTurns hnoResponse hend turns hboth.2
                  exact {
                    inOrder := List.prefix_refl _
                    all := .inl rfl
                    bounded := Nat.succ_le_succ (Nat.zero_le turns)
                    observed := iff_of_true hpair hleft
                    succeeds := iff_of_false (fun hok => by cases hok)
                      fun hboth => by simp [Completes] at hboth
                    whole := fun hall => absurd hall hwhole }
              | ok next =>
                  by_cases hkind : observation.outcome = .response
                  · have hanswers : client.RespondsAt start steps turn :=
                      hresponds.mpr ⟨hobservable, hresponse.mp hkind⟩
                    have hlater := ih (turn + 1) next hread
                    simp only [hkind, ne_eq, not_true, if_false]
                    exact hlater.behind hanswers hobserved hobserves hkind
                  · have hnoResponse : ¬ client.RespondsAt start steps turn :=
                      fun hall => hkind (hresponse.mpr (hresponds.mp hall).2)
                    have hwhole : ¬ client.UsesAllTurns start steps (turns + 1) turn := by
                      rw [usesAllTurns_succ]
                      exact fun hboth => hnoResponse hboth.1
                    have hfailed : ¬ AllResponded
                        [.executed action, .sent observation, .received next] :=
                      fun hall => hkind (hall observation List.mem_cons_self)
                    simp only [ne_eq, hkind, not_false_eq_true, if_true]
                    exact {
                      inOrder := List.prefix_append [action] _
                      all := .inr (.inr hfailed)
                      bounded := Nat.succ_le_succ (Nat.zero_le turns)
                      observed := iff_of_true hpair
                        (not_leavesUnobserved hnoResponse hobserved _)
                      succeeds := iff_of_false (fun hok => by cases hok)
                        fun hboth => hfailed hboth.1.2
                      whole := fun hall => absurd hall hwhole }

/-- A flow does what it is to do exactly when it does not end with a completion behind as
many responses as the loop has turns, and no executed action is beyond observation. -/
theorem flowLaw_iff (client : FlowClient) (start : FlowBegin) (steps : Nat → FlowStep) :
    FlowLaw (client.run start steps) ↔
      ¬ client.UsesAllTurns start steps maxFlowActions 0 ∧
        ¬ client.LeavesUnobserved start steps maxFlowActions 0 := by
  unfold run
  cases hbegin : client.beginFlow start with
  | error error =>
      have hfirst : client.updateAt start steps 0 = .error error := hbegin
      have hnone (action : ActionDirective) :
          client.updateAt start steps 0 ≠ .ok (.action action) := by
        rw [hfirst]
        exact fun heq => by cases heq
      have hend : client.updateAt start steps 0 ≠ .ok .complete := by
        rw [hfirst]
        exact fun heq => by cases heq
      obtain ⟨hresponds, hobserved⟩ := no_action_at hnone
      refine iff_of_true ?_ ⟨not_usesAllTurns hresponds hend _,
        not_leavesUnobserved hresponds hobserved _⟩
      exact {
        inOrder := List.prefix_refl _
        all := .inl rfl
        bounded := Nat.zero_le _
        observed := List.Forall₂.nil
        succeeds := iff_of_false (fun hok => by cases hok)
          fun hboth => by simp [Completes] at hboth }
  | ok update =>
      have hupdate : client.updateAt start steps 0 = .ok update := hbegin
      have hlaw := flowLoop_law maxFlowActions 0 update hupdate
      constructor
      · intro hflow
        refine ⟨fun hwhole => ?_, hlaw.observed.mp hflow.observed⟩
        exact (hlaw.succeeds.mp (hflow.succeeds.mpr (hlaw.whole hwhole))).2 hwhole
      · rintro ⟨hwhole, hobserved⟩
        exact {
          inOrder := hlaw.inOrder
          all := hlaw.all
          bounded := hlaw.bounded
          observed := hlaw.observed.mpr hobserved
          succeeds := hlaw.succeeds.trans (and_iff_left hwhole) }

/-! ## A flow of as many actions as the loop has turns -/

/-- Sixteen and thirty-two bytes of zero. -/
def zeroBytes (width : Nat) : FixedBytes width :=
  ⟨List.replicate width 0, List.length_replicate⟩

def sampleClient : FlowClient where
  sha256 := fun _ => zeroBytes 32
  admission := {
    sessionId := zeroBytes 16
    runtimeLease := ⟨[1], by decide, by decide⟩
    leaseExpiresAtMs := 2, grantClass := .full, maxFullAccounts := 0
    maxActiveInstallations := 0, maxRegisteredInstallations := 0, serverTimeMs := 1
    policyEpoch := 1, acceptedContracts := [] }
  accountSlotId := zeroBytes 16
  flowId := zeroBytes 16

/-- An action with the route of one letter. -/
def sampleAction : ActionDirective where
  actionId := zeroBytes 16
  routeShard := utf8Bytes "r"
  bodyShard := [1]
  envelopeContract := 1
  marks := []
  expectedBodyDigest := zeroBytes 32
  transportEpoch := 1
  responsePolicy := 2
  timeoutMs := 1000
  actionDigest := zeroBytes 32
  delayMs := 0

/-- The frame of an update of the flow. -/
def sampleFrame (status : Int) (action : Option Proto.ActionDirective) : Proto.InnerFrame :=
  currentFrame (.actionFlowUpdate {
    flowId := (zeroBytes 16).bytes, status := status, action := action, expiresAtMs := 10 })

def actionFrame : Proto.InnerFrame :=
  sampleFrame 1 (some {
    actionId := (zeroBytes 16).bytes, routeShard := utf8Bytes "r", bodyShard := [1]
    envelopeContract := 1, marks := [], expectedBodyDigest := (zeroBytes 32).bytes
    transportEpoch := 1, responsePolicy := 2, timeoutMs := 1000
    actionDigest := (zeroBytes 32).bytes, delayMs := 0 })

def sampleBegin : FlowBegin where
  authenticated := true
  startedAt := some 1
  snapshot := [1]
  processInstance := [1]
  answer := .ok actionFrame
  answeredAt := some 2

/-- Every action is answered; the last answer completes the flow. -/
def sampleSteps (turn : Nat) : FlowStep where
  framed := true
  exchanged := .answered [1]
  observedAt := some 2
  answer := .ok (if turn < 7 then actionFrame else sampleFrame 2 none)
  answeredAt := some 2

theorem sample_inputs : ∃ inputs, actionFlowInputs [1] [1] = .ok inputs ∧ inputs.slots ≠ [] :=
  ⟨_, rfl, by decide⟩

theorem sample_begins : sampleClient.beginFlow sampleBegin = .ok (.action sampleAction) := by
  have hexpires : checkedAddU64 (1 : UInt64).toNat flowLifetimeMs = some 30001 := by
    decide
  obtain ⟨inputs, hinputs, hne⟩ := sample_inputs
  unfold beginFlow
  refine bind_eq_ok_iff.mpr ⟨(), rfl, ?_⟩
  refine bind_eq_ok_iff.mpr ⟨1, rfl, ?_⟩
  refine bind_eq_ok_iff.mpr ⟨30001, okOr_eq_ok_iff.mpr hexpires, ?_⟩
  refine bind_eq_ok_iff.mpr ⟨inputs, mapError_eq_ok_iff.mpr hinputs, ?_⟩
  refine bind_eq_ok_iff.mpr ⟨_, mapError_eq_ok_iff.mpr (bind_eq_ok_iff.mpr ⟨(),
    rejectIf_eq_ok_iff.mpr ?_, rfl⟩), rfl⟩
  simp [hne, loginEpoch, transportEpoch]

theorem sample_updates {turn : Nat} (hturn : turn < 8) :
    sampleClient.updateAt sampleBegin sampleSteps turn = .ok (.action sampleAction) := by
  cases turn with
  | zero => exact sample_begins
  | succ turn =>
      have hearly : turn < 7 := by omega
      rw [updateAt, sampleSteps, if_pos hearly]
      rfl

theorem sample_completes :
    sampleClient.updateAt sampleBegin sampleSteps 8 = .ok .complete := by
  rfl

theorem sample_answered (turn : Nat) :
    sampleClient.Answered sampleAction (sampleSteps turn) [1] := by
  have hroute : fromUtf8 (utf8Bytes "r") = some "r" := fromUtf8_eq_some_iff.mpr rfl
  refine ⟨?_, rfl⟩
  simp only [prepareAction, sampleAction, hroute, sampleSteps]
  decide

theorem sample_observable (turn : Nat) :
    sampleClient.Observable sampleAction (sampleSteps turn) := by
  refine ⟨⟨2, rfl, by decide⟩, fun payload hanswered => ?_⟩
  have hpayload : [1] = payload := Exchanged.answered.inj hanswered.2
  rw [← hpayload]
  decide

theorem sample_usesAllTurns :
    sampleClient.UsesAllTurns sampleBegin sampleSteps maxFlowActions 0 := by
  refine ⟨fun index hindex => ?_, sample_completes⟩
  rw [Nat.zero_add]
  exact ⟨sampleAction, sample_updates hindex, sample_observable index, [1],
    sample_answered index⟩

/-- Eight actions that all respond and then a completion: the flow fails. -/
theorem completion_behind_last_turn_fails :
    (sampleClient.run sampleBegin sampleSteps).2 ≠ .ok () ∧
      Completes (sampleClient.run sampleBegin sampleSteps).1 ∧
      AllResponded (sampleClient.run sampleBegin sampleSteps).1 := by
  have hlaw := flowLoop_law maxFlowActions 0 (.action sampleAction)
    (show sampleClient.updateAt sampleBegin sampleSteps 0 = _ from sample_begins)
  have hrun : sampleClient.run sampleBegin sampleSteps =
      (.received (.action sampleAction) ::
        (sampleClient.flowLoop sampleSteps maxFlowActions 0 (.action sampleAction)).1,
      (sampleClient.flowLoop sampleSteps maxFlowActions 0 (.action sampleAction)).2) := by
    rw [run, sample_begins]
  obtain ⟨hcompletes, hresponded⟩ := hlaw.whole sample_usesAllTurns
  rw [hrun]
  exact ⟨fun hok => (hlaw.succeeds.mp hok).2 sample_usesAllTurns, hcompletes, hresponded⟩

end FlowClient

end Runtime
end Lirvena
