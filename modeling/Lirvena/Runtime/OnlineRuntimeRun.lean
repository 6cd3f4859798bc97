import Lirvena.Domain.OnlineHistory
import Lirvena.Domain.OnlineSchedule
import Lirvena.Runtime.OnlineRuntimeLog
import Lirvena.Runtime.PushQueue

/-!
# Runs of the online runtime

Every step of the online runtime keeps the relation of its log to its state, and so every
run does.  A run ends with an error only where its inputs or its setup are to blame, and
never because the runtime and its machine disagree.
-/

namespace Lirvena
namespace Runtime

open Lib Daemon Domain Online Profile

/-- The delay until the first armed deadline, on the clock that the input reads. -/
def Delays (input : OnlineInput) (machine : OnlineMachine) (delayMs : Nat) : Prop :=
  ∃ readings now due, input.readings = some readings ∧ nowMs readings.clock = .ok now ∧
    IsLeast {due | machine.Armed due} due ∧ delayMs = max (due - now.toNat) 1

/-- A turn keeps the relation. -/
def TurnHolds (setup : SessionSetup) (allowed : Allowed) (log : List OnlineEvent)
    (turn : OnlineTurn) : Prop :=
  SessionHolds setup allowed (log ++ turn.2) turn.1

section Turns

variable {setup : SessionSetup} {allowed : Allowed} {delay : OnlineMachine → Nat → Prop}
  {log : List OnlineEvent} {runtime : OnlineRuntime} {phase : OnlinePhase} {input : OnlineInput}
  {readings : Readings} {codec : OnlineCodec} {response : List UInt8}
  {rest : List OnlineDirective}

theorem Core.withPhase (hcore : Core setup log runtime) (phase : OnlinePhase) :
    Core setup log { runtime with phase := phase } :=
  { hcore with }

/-- A turn without events. -/
theorem turnHolds_quiet (hcore : Core setup log runtime)
    (hphase : PhaseHolds setup allowed log runtime.machine phase) :
    TurnHolds setup allowed log ({ runtime with phase := phase }, []) := by
  unfold TurnHolds
  rw [List.append_nil]
  exact ⟨hcore.withPhase phase, hphase⟩

theorem turnHolds_fail (hcore : Core setup log runtime) {error : OnlineError}
    (hblame : allowed.blame error) : TurnHolds setup allowed log (runtime.fail error, []) := by
  refine turnHolds_quiet hcore ?_
  intro found hfound
  cases hfound
  exact hblame

/-- An event that is no request. -/
theorem proper_unrequested {event : OnlineEvent} (hkind : kindOf event = none)
    (hidentified : ∀ route includeIdentity, identityOf event = some (route, includeIdentity) →
      (includeIdentity = true ↔ route ∉ routesIn log))
    (hflowed : ∀ command includeIdentity, event = .flowed command includeIdentity →
      setup.realm = .full ∧ kinds log = [.initialSync] ∧
        (includeIdentity = true ↔ command ∉ flowRoutes log))
    (hreserved : ∀ frame, event = .exchanged frame →
      setup.startupKinds <+: kinds log ∧ frame.includeIdentity = false)
    (halone : event.isExchange = true → awaited log = none) : Proper setup log event where
  identified := hidentified
  flowed := hflowed
  reserved := hreserved
  alone := halone
  ordered := fun kind hfound => by cases hkind.symm.trans hfound
  routed := by
    rintro request rfl
    cases hkind
  heartbeat := fun hfound => by cases hkind.symm.trans hfound
  delayedSync := fun hfound => by cases hkind.symm.trans hfound

/-- An event that is no exchange. -/
theorem proper_unanswered {event : OnlineEvent} (hexchange : event.isExchange = false)
    (hidentified : ∀ route includeIdentity, identityOf event = some (route, includeIdentity) →
      (includeIdentity = true ↔ route ∉ routesIn log)) : Proper setup log event := by
  refine proper_unrequested ?_ hidentified ?_ ?_ ?_
  · cases event with
    | requested request => cases hexchange
    | _ => rfl
  · rintro command includeIdentity rfl
    cases hexchange
  · rintro frame rfl
    cases hexchange
  · intro hfound
    cases hexchange.symm.trans hfound

/-- An event that is no frame. -/
theorem proper_unnamed {event : OnlineEvent} (hexchange : event.isExchange = false)
    (hidentity : identityOf event = none) : Proper setup log event :=
  proper_unanswered hexchange fun _ _ hfound => by cases hidentity.symm.trans hfound

/-- An event that names no route leaves the routes as they are. -/
theorem Core.routes_concat (hcore : Core setup log runtime) {event : OnlineEvent}
    (hidentity : identityOf event = none) (route : String) :
    route ∈ runtime.packets.identityRoutes ↔ route ∈ routesIn (log ++ [event]) := by
  have hnone : routesIn [event] = [] := by
    simp [routesIn, hidentity]
  rw [routesIn_append, hnone, List.append_nil]
  exact hcore.routes route

/-- An operation is one more step of the machine. -/
theorem Core.operate (hcore : Core setup log runtime) (op : OnlineOp) :
    Core setup (log ++ [.operated op (runtime.machine.apply op).2])
      { runtime with machine := (runtime.machine.apply op).1 } := by
  obtain ⟨hplan, hinterval⟩ := runtime.machine.apply_plan op
  obtain ⟨ops, hops, hmachine⟩ := hcore.driven
  exact { hcore with
    plan := hplan.trans hcore.plan
    interval := by
      have hbefore := hcore.interval
      rw [← hcore.plan] at hbefore ⊢
      exact hinterval hbefore
    routes := hcore.routes_concat rfl
    proper := hcore.proper.concat (proper_unnamed rfl rfl)
    driven := by
      refine ⟨ops ++ [op], ?_, ?_⟩
      · rw [operations_append, hops, Machine.trace_append, ← hmachine]
        rfl
      · rw [Machine.run_append, ← hmachine]
        rfl }

theorem turnHolds_operate {op : OnlineOp} {next : OnlineRuntime → OnlineAnswer → OnlineTurn}
    (hnext : TurnHolds setup allowed (log ++ [.operated op (runtime.machine.apply op).2])
      (next { runtime with machine := (runtime.machine.apply op).1 }
        (runtime.machine.apply op).2)) :
    TurnHolds setup allowed log (runtime.operate op next) := by
  unfold TurnHolds at hnext ⊢
  rw [List.append_assoc] at hnext
  exact hnext

theorem turnHolds_failDue (hcore : Core setup log runtime) {error : OnlineError}
    (hblame : allowed.blame error) : TurnHolds setup allowed log (runtime.failDue error) :=
  turnHolds_operate (turnHolds_fail (hcore.operate _) hblame)

/-- An event that is no operation of the machine. -/
theorem Core.concat (hcore : Core setup log runtime) {event : OnlineEvent}
    {packets : PacketRuntime} (hoperation : operationOf event = none)
    (hproper : Proper setup log event) (hplan : packets.plan = runtime.packets.plan)
    (hsound : packets.Sound)
    (hroutes : ∀ route, route ∈ packets.identityRoutes ↔ route ∈ routesIn (log ++ [event])) :
    Core setup (log ++ [event]) { runtime with packets := packets } := by
  obtain ⟨ops, hops, hmachine⟩ := hcore.driven
  exact { hcore with
    packetPlan := hplan.trans hcore.packetPlan
    sound := hsound
    routes := hroutes
    proper := hcore.proper.concat hproper
    driven := by
      refine ⟨ops, ?_, hmachine⟩
      rw [operations_append, hops, operations, List.filterMap_cons_none hoperation]
      exact List.append_nil _ }

/-- The routes that are marked stay the routes of the frames. -/
theorem Core.marks (hcore : Core setup log runtime) {route : String} {event : OnlineEvent}
    {includeIdentity : Bool} (hidentity : identityOf event = some (route, includeIdentity))
    (other : String) :
    other ∈ insert route runtime.packets.identityRoutes ↔ other ∈ routesIn (log ++ [event]) := by
  have hone : routesIn [event] = [route] := by
    rw [routesIn, List.filterMap_cons_some hidentity]
    rfl
  rw [Finset.mem_insert, hcore.routes, routesIn_append, List.mem_append, hone,
    List.mem_singleton, or_comm]

/-- The route is marked exactly where the account identifies itself. -/
theorem Core.identifies (hcore : Core setup log runtime) (route : String) :
    (runtime.packets.markIdentityRoute route).2 = true ↔ route ∉ routesIn log := by
  show decide (route ∉ runtime.packets.identityRoutes) = true ↔ route ∉ routesIn log
  rw [decide_eq_true_eq, hcore.routes]

/-- A request on the route of its kind, in its place. -/
theorem turnHolds_hand (hcore : Core setup log runtime) {kind : PacketKind} {route : String}
    {payload : List UInt8} (hroute : setup.routeOf kind = some route)
    (halone : awaited log = none) (hplace : setup.InPlace (kinds log) kind)
    (hheartbeat : kind = .heartbeat → HandedOut (ArmsHeartbeat setup.plan) .heartbeat log)
    (hsync : kind = .delayedSync → HandedOut (ArmsSync setup.plan) .delayedSync log)
    (hphase : ∀ request : PacketRequest, request.kind = kind →
      PhaseHolds setup allowed (log ++ [.requested request]) runtime.machine phase) :
    TurnHolds setup allowed log
      (runtime.hand (runtime.packets.send kind route payload) phase) := by
  have hproper : Proper setup log (.requested (runtime.packets.send kind route payload).2) := {
    identified := by
      intro other includeIdentity hidentity
      cases hidentity
      exact hcore.identifies route
    flowed := by
      intro command flag hevent
      cases hevent
    reserved := by
      intro frame hevent
      cases hevent
    alone := fun _ => halone
    ordered := by
      intro other hother
      cases hother
      exact hplace
    routed := by
      intro request hrequest
      cases hrequest
      exact hroute
    heartbeat := by
      intro hkind
      cases hkind
      exact hheartbeat rfl
    delayedSync := by
      intro hkind
      cases hkind
      exact hsync rfl }
  have hconcat : Core setup (log ++ [.requested (runtime.packets.send kind route payload).2])
      { runtime with packets := (runtime.packets.send kind route payload).1 } :=
    hcore.concat rfl hproper rfl ⟨hcore.sound.sendable, hcore.sound.fits⟩ (hcore.marks rfl)
  exact ⟨hconcat.withPhase phase, hphase _ rfl⟩

@[simp] theorem kinds_operated (log : List OnlineEvent) (op : OnlineOp) (answer : OnlineAnswer) :
    kinds (log ++ [.operated op answer]) = kinds log := by
  rw [kinds_append]
  exact List.append_nil _

@[simp] theorem kinds_requested (log : List OnlineEvent) (request : PacketRequest) :
    kinds (log ++ [.requested request]) = kinds log ++ [request.kind] := by
  rw [kinds_append]
  rfl

theorem awaited_operated {op : OnlineOp} {answer : OnlineAnswer} {waits : Option PacketKind}
    (hawaits : awaits (awaited log) (.operated op answer) = waits) :
    awaited (log ++ [.operated op answer]) = waits :=
  (awaited_concat log _).trans hawaits

/-- An accepted answer changes nothing that the relation speaks of. -/
theorem Core.accept (hcore : Core setup log runtime) {packets : PacketRuntime}
    (haccepts : runtime.packets.Accepts packets) :
    Core setup log { runtime with packets := packets } :=
  { hcore with
    packetPlan := haccepts.plan.trans hcore.packetPlan
    sound := haccepts.sound hcore.sound
    routes := by
      intro route
      show route ∈ packets.identityRoutes ↔ _
      rw [haccepts.identityRoutes]
      exact hcore.routes route }

theorem not_mem_kinds {kind : PacketKind} {event : OnlineEvent} (hkind : kindOf event = none) :
    kind ∉ kinds [event] := by
  rw [kinds, List.filterMap_cons_none hkind]
  exact List.not_mem_nil

theorem Entered.append {machine : OnlineMachine} {rest : List OnlineEvent}
    (hentered : Entered setup log machine) : Entered setup (log ++ rest) machine where
  state := hentered.state
  started := by
    rw [kinds_append]
    exact hentered.started.trans (List.prefix_append _ _)

theorem HeartbeatArmed.append {machine : OnlineMachine} {rest : List OnlineEvent}
    (harmed : HeartbeatArmed setup log machine) (hrest : .heartbeat ∉ kinds rest) :
    HeartbeatArmed setup (log ++ rest) machine := by
  obtain ⟨hflight, due, hdue, harmed⟩ := harmed
  exact ⟨hflight, due, hdue, harmed.append hrest⟩

theorem SyncArmed.append {machine : OnlineMachine} {rest : List OnlineEvent}
    (harmed : SyncArmed setup log machine) (hrest : .delayedSync ∉ kinds rest) :
    SyncArmed setup (log ++ rest) machine :=
  ⟨harmed.1, fun due hdue => (harmed.2 due hdue).append hrest⟩

/-! ### Startup -/

theorem bootstrap_holds (hcore : Core setup log runtime)
    (hmachine : runtime.machine = .new setup.plan) (hlog : log = []) :
    TurnHolds setup ⟨Cause setup (.bootstrap readings), delay⟩ log
      (runtime.bootstrap readings) := by
  subst hlog
  refine turnHolds_operate ?_
  have hnext := hcore.operate (.start runtime.generation)
  rw [hmachine, OnlineMachine.apply_start] at hnext ⊢
  have hrequire : requireAction (.directive (.dispatch runtime.generation
      (.initialSync setup.plan.initialSync))) runtime.generation .initialSync = .ok () :=
    rejectIf_eq_ok_iff.mpr (not_not.mpr rfl)
  dsimp only
  rw [hrequire]
  rcases PacketRuntime.requestSync_cases hcore.sound false readings.draws with
    ⟨hdraws, hrequest⟩ | ⟨payload, hrequest⟩
  · rw [hrequest]
    exact turnHolds_fail hnext (.random rfl hdraws)
  · rw [hrequest]
    refine turnHolds_hand hnext ?_ rfl rfl ?_ ?_ ?_
    · show some setup.packetPlan.initialSyncRoute = some runtime.packets.plan.initialSyncRoute
      rw [hcore.packetPlan]
    · intro hkind
      cases hkind
    · intro hkind
      cases hkind
    · intro request hkind
      refine ⟨congrArg OnlineState.synchronizing hcore.generation, rfl, rfl, ⟨rfl, ?_⟩, ?_, ?_⟩
      · intro due hdue
        cases hdue
      · rw [kinds_requested, hkind]
        rfl
      · rw [awaited_concat]
        exact congrArg some hkind

theorem synchronized_holds
    (hcore : Core setup log runtime)
    (hstate : runtime.machine.state = .synchronizing setup.generation)
    (hflow : flowRoutes log = [])
    (hstarting : Starting setup log runtime.machine [.initialSync] (some .initialSync)) :
    TurnHolds setup ⟨Cause setup (.answered (some response) readings), delay⟩ log
      (runtime.synchronized codec response readings) := by
  rw [← hcore.generation] at hstate
  unfold OnlineRuntime.synchronized
  split
  · next error haccept =>
      exact turnHolds_fail hcore
        (.refused (PacketRuntime.acceptSync_refused haccept) ⟨response, readings, rfl⟩)
  · next packets delayedAfterMs haccept =>
      have haccepted := hcore.accept (PacketRuntime.acceptSync_eq_ok haccept)
      split
      · next error hclock => exact turnHolds_fail haccepted (.clock rfl (Or.inl hclock))
      · next now hclock =>
          refine turnHolds_operate ?_
          have hnext := haccepted.operate
            (.initialSyncSucceeded runtime.generation now.toNat delayedAfterMs)
          rcases OnlineMachine.apply_initialSyncSucceeded hstate now.toNat delayedAfterMs
            with ⟨hnear, happly⟩ | happly
          · dsimp only at hnext ⊢
            rw [happly] at hnext ⊢
            exact turnHolds_fail hnext (.lastWord rfl hclock hnear)
          · dsimp only at hnext ⊢
            rw [happly] at hnext ⊢
            have hrequire : requireAction (.directive (.dispatch runtime.generation
                (.securityBootstrap runtime.machine.plan.securityBootstrap)))
                runtime.generation .securityBootstrap = .ok () :=
              rejectIf_eq_ok_iff.mpr (not_not.mpr rfl)
            dsimp only
            rw [hrequire]
            refine turnHolds_quiet hnext ⟨congrArg OnlineState.bootstrapping hcore.generation,
              ?_, hstarting.heartbeat, ⟨hstarting.sync.1, ?_⟩, ?_, awaited_operated rfl⟩
            · rw [flowRoutes_append, hflow]
              rfl
            · intro due hdue
              obtain ⟨delay, rfl, rfl⟩ := Option.map_eq_some_iff.mp hdue
              rw [hcore.plan]
              exact armedAt_concat (.initial _ _ _ _)
            · rw [kinds_operated]
              exact hstarting.sent

theorem enter_holds (hcore : Core setup log runtime)
    (hidle : Idle setup log runtime.machine) :
    TurnHolds setup allowed log (runtime.enter, []) := by
  unfold OnlineRuntime.enter
  rw [if_pos (hidle.entered.state.trans (congrArg _ hcore.generation.symm))]
  exact turnHolds_quiet hcore hidle

/-- The machine enters the online state behind the requests of the startup. -/
theorem Starting.entered {machine : OnlineMachine} {waits : Option PacketKind} {op : OnlineOp}
    {answer : OnlineAnswer} {nowMs : Nat}
    (hstarting : Starting setup log machine setup.startupKinds waits)
    (harms : ArmsHeartbeat setup.plan (.operated op answer)
      (nowMs + machine.plan.initialHeartbeatMs))
    (hawaits : awaits waits (.operated op answer) = none) :
    Idle setup (log ++ [.operated op answer]) (machine.entered setup.generation nowMs) where
  entered := {
    state := rfl
    started := by
      rw [kinds_operated, hstarting.sent] }
  heartbeat := ⟨hstarting.heartbeat, _, rfl, armedAt_concat harms⟩
  sync := ⟨hstarting.sync.1, fun due hdue =>
    (hstarting.sync.2 due hdue).append List.not_mem_nil⟩
  alone := by
    rw [← hstarting.waits] at hawaits
    exact awaited_operated hawaits

theorem SessionSetup.startupKinds_of_confirms (hconfirms : setup.confirms = true) :
    setup.startupKinds = [.initialSync, .statusConfirmation] := by
  rw [SessionSetup.startupKinds, hconfirms]
  rfl

theorem SessionSetup.startupKinds_of_not_confirms (hconfirms : setup.confirms = false) :
    setup.startupKinds = [.initialSync] := by
  rw [SessionSetup.startupKinds, hconfirms]
  rfl

/-- An operation that moves the machine to another gate. -/
theorem Starting.moved {machine : OnlineMachine} {state : OnlineState} {sent : List PacketKind}
    {waits : Option PacketKind} {op : OnlineOp} {answer : OnlineAnswer}
    (hstarting : Starting setup log machine sent waits)
    (hawaits : awaits waits (.operated op answer) = waits) :
    Starting setup (log ++ [.operated op answer]) { machine with state := state } sent waits where
  heartbeat := hstarting.heartbeat
  sync := ⟨hstarting.sync.1, fun due hdue =>
    (hstarting.sync.2 due hdue).append List.not_mem_nil⟩
  sent := by
    rw [kinds_operated]
    exact hstarting.sent
  waits := by
    refine awaited_operated ?_
    rw [hstarting.waits]
    exact hawaits

/-- The request to confirm the status is handed over. -/
theorem requestStatus_holds (hcore : Core setup log runtime)
    (hstate : runtime.machine.state = .confirming setup.generation)
    (hconfirms : setup.confirms = true)
    (hstarting : Starting setup log runtime.machine [.initialSync] none) :
    ∃ handed, runtime.packets.requestStatus = .ok handed ∧
      TurnHolds setup allowed log (runtime.hand handed .confirming) := by
  obtain ⟨route, hroute⟩ := Option.isSome_iff_exists.mp hconfirms
  have hsame := hroute
  rw [← hcore.packetPlan] at hsame
  obtain ⟨payload, hrequest⟩ := PacketRuntime.requestStatus_eq hcore.sound hsame
  refine ⟨_, hrequest, turnHolds_hand hcore hroute hstarting.waits hstarting.sent ?_ ?_ ?_⟩
  · intro hkind
    cases hkind
  · intro hkind
    cases hkind
  · intro request hkind
    refine ⟨hstate, hconfirms, hstarting.heartbeat, ⟨hstarting.sync.1, ?_⟩, ?_, ?_⟩
    · intro due hdue
      refine (hstarting.sync.2 due hdue).append ?_
      show PacketKind.delayedSync ∉ [request.kind]
      rw [hkind, List.mem_singleton]
      exact PacketKind.noConfusion
    · rw [kinds_requested, hstarting.sent, hkind,
        SessionSetup.startupKinds_of_confirms hconfirms]
      rfl
    · rw [awaited_concat]
      exact congrArg some hkind

theorem secured_holds (hreadings : input.readings = some readings)
    (hcore : Core setup log runtime)
    (hstate : runtime.machine.state = .bootstrapping setup.generation)
    (hstarting : Starting setup log runtime.machine [.initialSync] none) :
    TurnHolds setup ⟨Cause setup input, delay⟩ log (runtime.secured readings) := by
  have hgeneration := hcore.generation
  have hplan := hcore.plan
  have hhas : runtime.packets.hasStatusConfirmation = setup.confirms :=
    congrArg (fun plan => plan.statusRegisterRoute.isSome) hcore.packetPlan
  unfold OnlineRuntime.secured
  split
  · next error hclock => exact turnHolds_fail hcore (.clock hreadings (Or.inl hclock))
  · next now hclock =>
      refine turnHolds_operate ?_
      have hnext := hcore.operate
        (.securityBootstrapSucceeded runtime.generation now.toNat)
      rw [← hgeneration] at hstate
      cases hconfirmation : runtime.machine.plan.statusConfirmation with
      | some action =>
          rw [OnlineMachine.apply_securityBootstrap_confirming hstate hconfirmation]
            at hnext ⊢
          dsimp only at hnext ⊢
          rw [hhas]
          cases hconfirms : setup.confirms with
          | false =>
              rw [if_neg (fun hboth => absurd hboth.2 Bool.false_ne_true)]
              refine turnHolds_fail hnext (.gates ?_)
              rw [← hplan, hconfirmation, hconfirms]
              exact Bool.true_eq_false_eq_False
          | true =>
              rw [if_pos ⟨rfl, rfl⟩]
              obtain ⟨handed, hrequest, hholds⟩ := requestStatus_holds hnext
                (congrArg OnlineState.confirming hgeneration) hconfirms (hstarting.moved rfl)
              rw [hrequest]
              exact hholds
      | none =>
          rcases OnlineMachine.apply_securityBootstrap_entering hstate hconfirmation
            now.toNat with ⟨hnear, happly⟩ | happly
          · rw [happly] at hnext ⊢
            exact turnHolds_fail hnext (.lastWord hreadings hclock hnear)
          · rw [happly] at hnext ⊢
            dsimp only at hnext ⊢
            rw [hhas]
            cases hconfirms : setup.confirms with
            | true =>
                rw [if_neg (fun hboth => absurd hboth.2 Bool.true_eq_false_eq_False)]
                refine turnHolds_fail hnext (.gates ?_)
                rw [← hplan, hconfirmation, hconfirms]
                exact Bool.false_ne_true
            | false =>
                rw [if_pos ⟨rfl, rfl⟩]
                rw [← SessionSetup.startupKinds_of_not_confirms hconfirms] at hstarting
                refine enter_holds hnext ?_
                rw [hgeneration]
                refine hstarting.entered ?_ rfl
                refine .bootstrapped _ _ _ ?_
                rw [hplan]
                exact setup.plan.initialHeartbeat_interval

/-- A frame of the security bootstrap, which nothing else depends on. -/
theorem Core.flow (hcore : Core setup log runtime) {command : String} {includeIdentity : Bool}
    (hproper : Proper setup log (.flowed command includeIdentity)) :
    Core setup (log ++ [.flowed command includeIdentity]) runtime :=
  hcore.concat rfl hproper rfl hcore.sound (hcore.routes_concat rfl)

theorem Starting.flow {machine : OnlineMachine} {command : String} {includeIdentity : Bool}
    (hstarting : Starting setup log machine [.initialSync] none) :
    Starting setup (log ++ [.flowed command includeIdentity]) machine [.initialSync] none where
  heartbeat := hstarting.heartbeat
  sync := hstarting.sync.append List.not_mem_nil
  sent := by
    rw [kinds_append, hstarting.sent]
    rfl
  waits := (awaited_concat log _).trans hstarting.waits

/-- The frames of a security bootstrap, one after another. -/
theorem flowFrames_holds (hrealm : setup.realm = .full) (hcore : Core setup log runtime)
    (hstarting : Starting setup log runtime.machine [.initialSync] none)
    {identityRoutes : Finset String}
    (hroutes : ∀ route, route ∈ identityRoutes ↔ route ∈ flowRoutes log)
    (commands : List String) :
    Core setup (log ++ flowFrames identityRoutes commands) runtime ∧
      Starting setup (log ++ flowFrames identityRoutes commands) runtime.machine
        [.initialSync] none := by
  induction commands generalizing log identityRoutes with
  | nil =>
      rw [flowFrames, List.append_nil]
      exact ⟨hcore, hstarting⟩
  | cons command rest ih =>
      have hproper : Proper setup log
          (.flowed command (decide (command ∉ identityRoutes))) := by
        refine proper_unrequested rfl ?_ ?_ ?_ (fun _ => hstarting.waits)
        · intro route flag hidentity
          cases hidentity
        · intro other flag hevent
          cases hevent
          exact ⟨hrealm, hstarting.sent, by rw [decide_eq_true_eq, hroutes]⟩
        · intro frame hevent
          cases hevent
      rw [flowFrames, ← List.singleton_append, ← List.append_assoc]
      refine ih (hcore.flow hproper) hstarting.flow ?_
      intro route
      rw [Finset.mem_insert, hroutes, flowRoutes_append, List.mem_append, or_comm]
      exact or_congr_right List.mem_singleton.symm

theorem bootstrapped_holds {commands : List String} {succeeded : Bool}
    (hcore : Core setup log runtime)
    (hstate : runtime.machine.state = .bootstrapping setup.generation)
    (hflow : flowRoutes log = [])
    (hstarting : Starting setup log runtime.machine [.initialSync] none) :
    TurnHolds setup ⟨Cause setup (.bootstrapped commands succeeded readings), delay⟩ log
      (runtime.bootstrapped commands succeeded readings) := by
  have hframes : Core setup
        (log ++ if runtime.realm = .full then flowFrames ∅ commands else []) runtime ∧
      Starting setup (log ++ if runtime.realm = .full then flowFrames ∅ commands else [])
        runtime.machine [.initialSync] none := by
    split
    · next hrealm =>
        refine flowFrames_holds (hcore.realm.symm.trans hrealm) hcore hstarting ?_ commands
        intro route
        rw [hflow]
        exact iff_of_false (Finset.notMem_empty route) List.not_mem_nil
    · rw [List.append_nil]
      exact ⟨hcore, hstarting⟩
  obtain ⟨hafter, hstill⟩ := hframes
  unfold TurnHolds OnlineRuntime.bootstrapped
  dsimp only
  rw [← List.append_assoc]
  generalize (log ++ if runtime.realm = .full then flowFrames ∅ commands else []) = framed
    at hafter hstill ⊢
  split
  · next hfailed =>
      rw [hfailed.2]
      exact turnHolds_fail hafter (.flow rfl (hcore.realm.symm.trans hfailed.1))
  · exact secured_holds rfl hafter hstate hstill

theorem confirmed_holds
    (hcore : Core setup log runtime)
    (hstate : runtime.machine.state = .confirming setup.generation)
    (hstarting : Starting setup log runtime.machine setup.startupKinds
      (some .statusConfirmation)) :
    TurnHolds setup ⟨Cause setup (.answered (some response) readings), delay⟩ log
      (runtime.confirmed codec response readings) := by
  have hgeneration := hcore.generation
  unfold OnlineRuntime.confirmed
  split
  · next error haccept =>
      exact turnHolds_fail hcore
        (.refused (PacketRuntime.acceptStatus_refused haccept) ⟨response, readings, rfl⟩)
  · next packets haccept =>
      have haccepted := hcore.accept (PacketRuntime.acceptStatus_eq_ok haccept)
      split
      · next error hclock => exact turnHolds_fail haccepted (.clock rfl (Or.inl hclock))
      · next now hclock =>
          refine turnHolds_operate ?_
          have hnext := haccepted.operate
            (.statusConfirmationCompleted runtime.generation now.toNat)
          rw [← hgeneration] at hstate
          rcases OnlineMachine.apply_statusConfirmation hstate now.toNat
            with ⟨hnear, happly⟩ | happly
          · dsimp only at hnext ⊢
            rw [happly] at hnext ⊢
            exact turnHolds_fail hnext (.lastWord rfl hclock hnear)
          · dsimp only at hnext ⊢
            rw [happly] at hnext ⊢
            have hrequire : requireEntered (.directive (.enteredOnline runtime.generation))
                runtime.generation = .ok () :=
              rejectIf_eq_ok_iff.mpr (not_not.mpr rfl)
            dsimp only
            rw [hrequire]
            refine enter_holds hnext ?_
            rw [hgeneration]
            refine hstarting.entered ?_ rfl
            refine .confirmed _ _ _ ?_
            rw [hcore.plan]
            exact setup.plan.initialHeartbeat_interval

/-! ### Pushes and events -/

/-- An event that the session does not wait on. -/
theorem Idle.append {machine : OnlineMachine} {event : OnlineEvent}
    (hidle : Idle setup log machine) (hkind : kindOf event = none)
    (hawaits : awaits none event = none) : Idle setup (log ++ [event]) machine where
  entered := hidle.entered.append
  heartbeat := hidle.heartbeat.append (not_mem_kinds hkind)
  sync := hidle.sync.append (not_mem_kinds hkind)
  alone := by
    rw [awaited_concat, hidle.alone]
    exact hawaits

/-- An acknowledgement goes with the identity where its route is new. -/
theorem Core.acknowledge (hcore : Core setup log runtime) (route : String)
    (body : List UInt8) :
    Core setup
      (log ++ [.acknowledged route (runtime.packets.markIdentityRoute route).2 body])
      { runtime with packets := (runtime.packets.markIdentityRoute route).1 } := by
  refine hcore.concat rfl (proper_unanswered rfl ?_) rfl
    ⟨hcore.sound.sendable, hcore.sound.fits⟩ (hcore.marks rfl)
  intro other includeIdentity hidentity
  cases hidentity
  exact hcore.identifies route

theorem handlePush_holds {wire : OnlineWire} {command : String} {payload : List UInt8}
    {sent : Bool} (hcore : Core setup log runtime) (hidle : Idle setup log runtime.machine)
    (hphase : ∀ {log : List OnlineEvent} {machine : OnlineMachine}, Idle setup log machine →
      PhaseHolds setup ⟨Cause setup (.push command payload sent), delay⟩ log machine phase) :
    TurnHolds setup ⟨Cause setup (.push command payload sent), delay⟩ log
      (runtime.handlePush wire.push command payload sent phase) := by
  have hfits := handle_fits wire runtime.pushes command payload hcore.sound.fits
  unfold OnlineRuntime.handlePush
  generalize runtime.pushes.handle wire.push command payload runtime.packets.cursors =
    result at hfits ⊢
  obtain ⟨⟨pushes, cursors⟩, handled⟩ := result
  have hhandled : Core setup log
      { runtime with
        pushes := pushes, packets := { runtime.packets with cursors := cursors } } :=
    { hcore with sound := ⟨hcore.sound.sendable, hfits⟩ }
  match handled with
  | .error error => exact turnHolds_fail hhandled (.push rfl error)
  | .ok none => exact turnHolds_quiet hhandled (hphase hidle)
  | .ok (some (route, body)) =>
      have hconcat := hhandled.acknowledge route body
      cases sent with
      | true => exact ⟨hconcat.withPhase phase, hphase (hidle.append rfl rfl)⟩
      | false =>
          refine ⟨hconcat.withPhase _, ?_⟩
          intro error herror
          cases herror
          exact .unsent rfl

theorem select_holds (hcore : Core setup log runtime)
    (hidle : Idle setup log runtime.machine)
    (hblame : ∀ error, nowMs readings.clock = .error error → allowed.blame (.clock error))
    (hdelay : ∀ now due, nowMs readings.clock = .ok now → runtime.machine.nextDueMs = some due →
      allowed.delay runtime.machine (max (due - now.toNat) 1)) :
    TurnHolds setup allowed log (runtime.select readings, []) := by
  obtain ⟨hflight, due, hdue, -⟩ := hidle.heartbeat
  unfold OnlineRuntime.select
  split
  · next hnone =>
      -- the heartbeat is armed, so that there is a deadline
      refine absurd ?_ (OnlineMachine.nextDueMs_eq_none_iff.mp hnone due)
      refine ⟨?_, Or.inl ⟨hflight, hdue⟩⟩
      rw [hidle.entered.state]
      rfl
  · next first hfirst =>
      split
      · next error hclock => exact turnHolds_fail hcore (hblame error hclock)
      · next now hclock => exact turnHolds_quiet hcore ⟨hidle, hdelay now first hclock hfirst⟩

theorem Core.publish (hcore : Core setup log runtime) (event : DecodedPush) :
    Core setup (log ++ [.published event]) runtime :=
  hcore.concat rfl (proper_unnamed rfl rfl) rfl hcore.sound (hcore.routes_concat rfl)

/-- A frame with a reserve, which leaves the session as it is. -/
theorem Core.exchange (hcore : Core setup log runtime) (hidle : Idle setup log runtime.machine)
    (request : ReserveRequest) :
    Core setup (log ++ [.exchanged (runtime.packets.sendWithReserve request)]) runtime := by
  refine hcore.concat rfl ?_ rfl hcore.sound (hcore.routes_concat rfl)
  refine proper_unrequested rfl ?_ ?_ ?_ (fun _ => hidle.alone)
  · intro route flag hidentity
    cases hidentity
  · intro command flag hevent
    cases hevent
  · intro frame hevent
    cases hevent
    exact ⟨hidle.entered.started, rfl⟩

theorem exchange_holds (hcore : Core setup log runtime) (hidle : Idle setup log runtime.machine)
    (requests : List ReserveRequest) :
    Core setup (log ++ runtime.exchange requests) runtime ∧
      Idle setup (log ++ runtime.exchange requests) runtime.machine := by
  induction requests generalizing log with
  | nil =>
      rw [OnlineRuntime.exchange, List.map_nil, List.append_nil]
      exact ⟨hcore, hidle⟩
  | cons request rest ih =>
      have hrest := ih (hcore.exchange hidle request) (hidle.append rfl rfl)
      rw [List.append_assoc] at hrest
      exact hrest

theorem publish_holds {next : AfterPublish} {requests : List ReserveRequest} {succeeded : Bool}
    (hcore : Core setup log runtime) (hidle : Idle setup log runtime.machine)
    (hphase : runtime.phase = .publishing next)
    (hdelay : next = .select → ∀ delayMs,
      Delays (.publish requests succeeded readings) runtime.machine delayMs →
        delay runtime.machine delayMs) :
    TurnHolds setup ⟨Cause setup (.publish requests succeeded readings), delay⟩ log
      (runtime.publish next requests succeeded readings) := by
  unfold OnlineRuntime.publish
  split
  · next pushes event _ =>
      have hconcat : Core setup (log ++ [.published event]) { runtime with pushes := pushes } :=
        { hcore.publish event with }
      obtain ⟨hafter, hstill⟩ := exchange_holds hconcat (hidle.append rfl rfl) requests
      rw [List.append_assoc] at hafter hstill
      cases succeeded with
      | true =>
          refine ⟨hafter, ?_⟩
          show PhaseHolds _ _ _ _ runtime.phase
          rw [hphase]
          exact hstill
      | false =>
          refine ⟨hafter.withPhase _, ?_⟩
          intro error herror
          cases herror
          exact .publish rfl
  · cases next with
    | startup => exact turnHolds_quiet hcore hidle
    | loop => exact turnHolds_quiet hcore hidle
    | select =>
        exact select_holds hcore hidle (fun error hclock => .clock rfl (Or.inl hclock))
          fun now due hclock hdue => hdelay rfl _ ⟨readings, now, due, rfl, hclock,
            OnlineMachine.nextDueMs_eq_some_iff.mp hdue, rfl⟩

/-! ### Due work -/

theorem RestHolds.append {machine : OnlineMachine} {added : List OnlineEvent}
    (hrest : RestHolds setup log machine rest) (hadded : .delayedSync ∉ kinds added) :
    RestHolds setup (log ++ added) machine rest := by
  rcases hrest with ⟨rfl, hsync⟩ | ⟨rfl, hflight, hhanded⟩
  · exact Or.inl ⟨rfl, hsync.append hadded⟩
  · exact Or.inr ⟨rfl, hflight, hhanded.append hadded⟩

/-- The loop of `execute_due` behind the heartbeat. -/
theorem executeRest_holds (hreadings : input.readings = some readings)
    (hcore : Core setup log runtime) (hentered : Entered setup log runtime.machine)
    (harmed : HeartbeatArmed setup log runtime.machine) (halone : awaited log = none)
    (hrest : RestHolds setup log runtime.machine rest) :
    TurnHolds setup ⟨Cause setup input, delay⟩ log (runtime.executeDue readings rest) := by
  rcases hrest with ⟨rfl, hsync⟩ | ⟨rfl, hflight, hhanded⟩
  · exact turnHolds_quiet hcore ⟨hentered, harmed, hsync, halone⟩
  · rw [OnlineRuntime.executeDue, if_pos hcore.generation.symm]
    rcases PacketRuntime.requestSync_cases hcore.sound true readings.draws with
      ⟨hdraws, hrequest⟩ | ⟨payload, hrequest⟩
    · rw [hrequest]
      exact turnHolds_failDue hcore (.random hreadings hdraws)
    · rw [hrequest]
      refine turnHolds_hand hcore ?_ halone hentered.started ?_ (fun _ => hhanded) ?_
      · show some setup.packetPlan.delayedSyncRoute = some runtime.packets.plan.delayedSyncRoute
        rw [hcore.packetPlan]
      · intro hkind
        cases hkind
      · intro request hkind
        refine ⟨hentered.append, harmed.append ?_, hflight, rfl, ?_⟩
        · show PacketKind.heartbeat ∉ [request.kind]
          rw [hkind, List.mem_singleton]
          exact PacketKind.noConfusion
        · rw [awaited_concat]
          exact congrArg some hkind

/-- The loop of `execute_due` from the heartbeat on. -/
theorem executeDue_holds (hreadings : input.readings = some readings)
    (hcore : Core setup log runtime) (hentered : Entered setup log runtime.machine)
    (hflight : runtime.machine.heartbeatInFlight = true) (halone : awaited log = none)
    (hhanded : HandedOut (ArmsHeartbeat setup.plan) .heartbeat log)
    (hrest : RestHolds setup log runtime.machine rest) (action : PlanActionId) :
    TurnHolds setup ⟨Cause setup input, delay⟩ log (runtime.executeDue readings
      (.dispatch setup.generation (.businessHeartbeat action) :: rest)) := by
  rw [OnlineRuntime.executeDue, if_pos hcore.generation.symm]
  rcases runtime.packets.requestHeartbeat_cases readings.seconds with
    ⟨error, hclock, hrequest⟩ | ⟨hseconds, error, hrequest⟩ | ⟨payload, hrequest⟩
  · rw [hrequest]
    exact turnHolds_failDue hcore (.clock hreadings (Or.inr hclock))
  · rw [hrequest]
    exact turnHolds_failDue hcore (.firstSecond hreadings hseconds error)
  · rw [hrequest]
    refine turnHolds_hand hcore ?_ halone hentered.started (fun _ => hhanded) ?_ ?_
    · show some setup.packetPlan.heartbeatRoute = some runtime.packets.plan.heartbeatRoute
      rw [hcore.packetPlan]
    · intro hkind
      cases hkind
    · intro request hkind
      refine ⟨hentered.append, hflight, hrest.append ?_, ?_⟩
      · show PacketKind.delayedSync ∉ [request.kind]
        rw [hkind, List.mem_singleton]
        exact PacketKind.noConfusion
      · rw [awaited_concat]
        exact congrArg some hkind

theorem wake_holds (hcore : Core setup log runtime) (hidle : Idle setup log runtime.machine) :
    TurnHolds setup ⟨Cause setup (.slept readings), delay⟩ log (runtime.wake readings) := by
  unfold OnlineRuntime.wake
  split
  · next error hclock => exact turnHolds_failDue hcore (.clock rfl (Or.inl hclock))
  · next now hclock =>
      refine turnHolds_operate ?_
      have hnext := hcore.operate (.pollDue now.toNat)
      have hstate := hidle.entered.state
      rw [OnlineMachine.apply_pollDue hstate, hcore.plan] at hnext ⊢
      obtain ⟨hflight, due, hdue, harmed⟩ := hidle.heartbeat
      have halone := hidle.alone
      -- what is left behind the heartbeat
      have hrest : ∀ answer, RestHolds setup (log ++ [.operated (.pollDue now.toNat) answer])
          (runtime.machine.polled now.toNat)
          (if runtime.machine.delayedSyncIsDue now.toNat then
            some (.dispatch setup.generation (.delayedSync setup.plan.delayedSync))
          else none).toList := by
        intro answer
        cases hsync : runtime.machine.delayedSyncIsDue now.toNat with
        | false =>
            refine Or.inl ⟨rfl, ?_, ?_⟩
            · show (runtime.machine.delayedSyncInFlight ||
                runtime.machine.delayedSyncIsDue now.toNat) = false
              rw [hsync, hidle.sync.1]
              rfl
            · intro other hother
              exact (hidle.sync.2 other hother).append List.not_mem_nil
        | true =>
            obtain ⟨other, ⟨-, hother⟩, hcome⟩ := OnlineMachine.delayedSyncIsDue_iff.mp hsync
            refine Or.inr ⟨rfl, ?_, (hidle.sync.2 other hother).handOut hcome⟩
            show (runtime.machine.delayedSyncInFlight ||
              runtime.machine.delayedSyncIsDue now.toNat) = true
            rw [hsync, Bool.or_true]
      have hentered : ∀ answer, Entered setup
          (log ++ [.operated (.pollDue now.toNat) answer])
          (runtime.machine.polled now.toNat) :=
        fun answer => ⟨hstate, hidle.entered.append.started⟩
      cases hbeat : runtime.machine.heartbeatDue now.toNat with
      | false =>
          rw [hbeat] at hnext
          refine executeRest_holds rfl hnext (hentered _) ⟨?_, due, hdue, ?_⟩
            (awaited_operated halone) (hrest _)
          · show (runtime.machine.heartbeatInFlight ||
              runtime.machine.heartbeatDue now.toNat) = false
            rw [hbeat, hflight]
            rfl
          · exact harmed.append List.not_mem_nil
      | true =>
          rw [hbeat] at hnext
          obtain ⟨other, ⟨-, hother⟩, hcome⟩ := OnlineMachine.heartbeatDue_iff.mp hbeat
          cases hdue.symm.trans hother
          refine executeDue_holds rfl hnext (hentered _) ?_ (awaited_operated halone)
            (harmed.handOut hcome) (hrest _) _
          show (runtime.machine.heartbeatInFlight ||
            runtime.machine.heartbeatDue now.toNat) = true
          rw [hbeat, Bool.or_true]

/-- A completion fails with the clock or the last word, or the loop goes on behind it. -/
theorem complete_holds {op : Nat → OnlineOp} (hreadings : input.readings = some readings)
    (hcore : Core setup log runtime)
    (hcases : ∀ now, (NearsLastWord now ∧ (runtime.machine.apply (op now)).2 = .rejected) ∨
      ∃ machine, runtime.machine.apply (op now) = (machine, .completed) ∧
        (Core setup (log ++ [.operated (op now) .completed]) { runtime with machine := machine } →
          TurnHolds setup ⟨Cause setup input, delay⟩ (log ++ [.operated (op now) .completed])
            ({ runtime with machine := machine }.executeDue readings rest))) :
    TurnHolds setup ⟨Cause setup input, delay⟩ log (runtime.complete readings op rest) := by
  unfold OnlineRuntime.complete
  split
  · next error hclock => exact turnHolds_failDue hcore (.clock hreadings (Or.inl hclock))
  · next now hclock =>
      refine turnHolds_operate ?_
      have hnext := hcore.operate (op now.toNat)
      rcases hcases now.toNat with ⟨hnear, hrejected⟩ | ⟨machine, happly, hloop⟩
      · rw [hrejected] at hnext ⊢
        exact turnHolds_failDue hnext (.lastWord hreadings hclock hnear)
      · rw [happly] at hnext ⊢
        exact hloop hnext

theorem beaten_holds (hcore : Core setup log runtime)
    (hentered : Entered setup log runtime.machine)
    (hflight : runtime.machine.heartbeatInFlight = true)
    (hrest : RestHolds setup log runtime.machine rest) :
    TurnHolds setup ⟨Cause setup (.answered (some response) readings), delay⟩ log
      (runtime.beaten codec response readings rest) := by
  have hstate := hentered.state
  have hinterval := hcore.interval
  rw [← hcore.generation] at hstate
  rw [← hcore.plan] at hinterval
  unfold OnlineRuntime.beaten
  split
  · next error haccept =>
      exact turnHolds_failDue hcore
        (.refused (PacketRuntime.acceptHeartbeat_refused haccept) ⟨response, readings, rfl⟩)
  · next requestedIntervalMs haccept =>
      refine complete_holds rfl hcore fun now => ?_
      rcases OnlineMachine.apply_heartbeatCompleted hstate hflight hinterval now
        requestedIntervalMs with hnear | happly
      · exact Or.inl hnear
      · refine Or.inr ⟨_, happly, fun hnext => ?_⟩
        refine executeRest_holds rfl hnext ⟨hentered.state, hentered.append.started⟩
          ⟨rfl, _, rfl, armedAt_concat (.completed _ _ _ _ ?_)⟩ (awaited_operated rfl) ?_
        · rw [← hcore.plan]
          exact runtime.machine.heartbeatInterval_within requestedIntervalMs hinterval
        · exact hrest.append List.not_mem_nil

theorem resynced_holds (hcore : Core setup log runtime)
    (hentered : Entered setup log runtime.machine)
    (harmed : HeartbeatArmed setup log runtime.machine)
    (hflight : runtime.machine.delayedSyncInFlight = true) :
    TurnHolds setup ⟨Cause setup (.answered (some response) readings), delay⟩ log
      (runtime.resynced codec response readings []) := by
  have hstate := hentered.state
  rw [← hcore.generation] at hstate
  unfold OnlineRuntime.resynced
  split
  · next error haccept =>
      exact turnHolds_failDue hcore
        (.refused (PacketRuntime.acceptSync_refused haccept) ⟨response, readings, rfl⟩)
  · next packets delayedAfterMs haccept =>
      refine complete_holds rfl (hcore.accept (PacketRuntime.acceptSync_eq_ok haccept))
        fun now => ?_
      rcases OnlineMachine.apply_delayedSyncCompleted hstate hflight now delayedAfterMs
        with hnear | happly
      · exact Or.inl hnear
      · refine Or.inr ⟨_, happly, fun hnext => ?_⟩
        refine executeRest_holds rfl hnext ⟨hentered.state, hentered.append.started⟩
          (harmed.append List.not_mem_nil) (awaited_operated rfl) (Or.inl ⟨rfl, rfl, ?_⟩)
        intro due hdue
        obtain ⟨delay, rfl, rfl⟩ := Option.map_eq_some_iff.mp hdue
        rw [hcore.plan]
        exact armedAt_concat (.delayed _ _ _)

/-! ### Steps -/

theorem SessionHolds.mono {weaker : Allowed} (hholds : SessionHolds setup allowed log runtime)
    (hblame : ∀ error, allowed.blame error → weaker.blame error)
    (hdelay : ∀ delayMs, runtime.phase = .selecting delayMs →
      allowed.delay runtime.machine delayMs → weaker.delay runtime.machine delayMs) :
    SessionHolds setup weaker log runtime := by
  refine ⟨hholds.core, ?_⟩
  have hphase := hholds.phase
  cases hwaits : runtime.phase with
  | ended result =>
      rw [hwaits] at hphase
      exact fun error herror => hblame error (hphase error herror)
  | selecting delayMs =>
      rw [hwaits] at hphase
      exact ⟨hphase.1, hdelay delayMs hwaits hphase.2⟩
  | _ =>
      rw [hwaits] at hphase
      exact hphase

theorem TurnHolds.mono {blame weaker : OnlineError → Prop} {turn : OnlineTurn}
    (hturn : TurnHolds setup ⟨blame, delay⟩ log turn)
    (hweaker : ∀ error, blame error → weaker error) :
    TurnHolds setup ⟨weaker, delay⟩ log turn :=
  SessionHolds.mono hturn hweaker fun _ _ => id

/-- What is allowed behind a step: an error of before, or one that the input has caused, and the
delay of before, or one that begins with the input. -/
def Allowed.after (allowed : Allowed) (setup : SessionSetup) (runtime : OnlineRuntime)
    (input : OnlineInput) : Allowed where
  blame error := allowed.blame error ∨ Cause setup input error
  delay machine delayMs :=
    (runtime.phase = .selecting delayMs ∧ allowed.delay machine delayMs) ∨
      (runtime.phase = .publishing .select ∧ Delays input machine delayMs)

/-- A step that does nothing. -/
theorem SessionHolds.stay (hholds : SessionHolds setup allowed log runtime)
    (input : OnlineInput) :
    TurnHolds setup (allowed.after setup runtime input) log (runtime, []) := by
  unfold TurnHolds
  rw [List.append_nil]
  exact hholds.mono (fun error => Or.inl) fun delayMs hwaits hdelay => Or.inl ⟨hwaits, hdelay⟩

theorem answered_holds {response : Option (List UInt8)}
    (hholds : SessionHolds setup allowed log runtime) :
    TurnHolds setup (allowed.after setup runtime (.answered response readings)) log
      (runtime.answered codec response readings) := by
  have hcore := hholds.core
  have hphase := hholds.phase
  unfold OnlineRuntime.answered
  split
  · next hwaits =>
      rw [hwaits] at hphase
      obtain ⟨hstate, hflow, hstarting⟩ := hphase
      exact (synchronized_holds hcore hstate hflow hstarting).mono fun error => Or.inr
  · next hwaits =>
      rw [hwaits] at hphase
      exact (confirmed_holds hcore hphase.1 hphase.2.2).mono fun error => Or.inr
  · exact turnHolds_fail hcore (Or.inr (.exchange rfl))
  · exact turnHolds_fail hcore (Or.inr (.exchange rfl))
  · next rest _ _ hwaits =>
      rw [hwaits] at hphase
      obtain ⟨hentered, hflight, hrest, -⟩ := hphase
      exact (beaten_holds hcore hentered hflight hrest).mono fun error => Or.inr
  · next rest _ _ hwaits =>
      rw [hwaits] at hphase
      obtain ⟨hentered, harmed, hflight, rfl, -⟩ := hphase
      exact (resynced_holds hcore hentered harmed hflight).mono fun error => Or.inr
  · exact turnHolds_failDue hcore (Or.inr (.exchange rfl))
  · exact turnHolds_failDue hcore (Or.inr (.exchange rfl))
  · exact hholds.stay _

theorem selected_holds {wire : OnlineWire} (hholds : SessionHolds setup allowed log runtime)
    (hidle : Idle setup log runtime.machine) (input : OnlineInput) :
    TurnHolds setup (allowed.after setup runtime input) log
      (runtime.selected wire.push input) := by
  have hcore := hholds.core
  cases input with
  | push command payload sent =>
      exact (handlePush_holds hcore hidle id).mono fun error => Or.inr
  | interrupted succeeded =>
      cases succeeded with
      | true =>
          refine turnHolds_operate (turnHolds_quiet (hcore.operate _) ?_)
          intro error herror
          cases herror
      | false => exact turnHolds_fail hcore (Or.inr (.signal rfl))
  | idle => exact turnHolds_quiet hcore hidle
  | action requests =>
      obtain ⟨hafter, hstill⟩ := exchange_holds hcore hidle requests
      exact ⟨hafter.withPhase _, hstill⟩
  | readFailed => exact turnHolds_fail hcore (Or.inr (.read rfl))
  | channelEnded => exact turnHolds_fail hcore (Or.inr (.channel rfl))
  | slept readings => exact (wake_holds hcore hidle).mono fun error => Or.inr
  | bootstrap readings => exact hholds.stay _
  | answered response readings => exact hholds.stay _
  | bootstrapped commands succeeded readings => exact hholds.stay _
  | drained => exact hholds.stay _
  | publish requests succeeded readings => exact hholds.stay _
  | run authenticated => exact hholds.stay _

theorem step_holds (wire : OnlineWire) (hholds : SessionHolds setup allowed log runtime)
    (input : OnlineInput) :
    TurnHolds setup (allowed.after setup runtime input) log (runtime.step wire input) := by
  have hcore := hholds.core
  have hphase := hholds.phase
  unfold OnlineRuntime.step
  split
  · next readings hwaits =>
      rw [hwaits] at hphase
      exact (bootstrap_holds hcore hphase.1 hphase.2).mono fun error => Or.inr
  · next commands succeeded readings hwaits =>
      rw [hwaits] at hphase
      obtain ⟨hstate, hflow, hstarting⟩ := hphase
      exact (bootstrapped_holds hcore hstate hflow hstarting).mono fun error => Or.inr
  · next startup command payload sent hwaits =>
      rw [hwaits] at hphase
      exact (handlePush_holds hcore hphase id).mono fun error => Or.inr
  · next hwaits =>
      rw [hwaits] at hphase
      exact turnHolds_quiet hcore hphase
  · next hwaits =>
      rw [hwaits] at hphase
      exact turnHolds_quiet hcore hphase
  · next next requests succeeded readings hwaits =>
      rw [hwaits] at hphase
      refine (publish_holds hcore hphase hwaits ?_).mono fun error => Or.inr
      rintro rfl delayMs hdelays
      exact Or.inr ⟨hwaits, hdelays⟩
  · next hwaits =>
      rw [hwaits] at hphase
      exact turnHolds_quiet hcore hphase
  · exact turnHolds_fail hcore (Or.inr (.keys rfl))
  · next delayMs hwaits =>
      rw [hwaits] at hphase
      exact selected_holds hholds hphase.1 _
  · exact answered_holds hholds
  · exact hholds.stay _

end Turns

/-! ## Whole runs -/

theorem SessionSetup.start_holds (setup : SessionSetup) (allowed : Allowed) :
    SessionHolds setup allowed [] setup.start where
  core := {
    plan := rfl
    packetPlan := rfl
    generation := rfl
    realm := rfl
    interval := setup.plan.initialHeartbeat_interval
    sound := PacketRuntime.fresh_sound _ _ _ _
    routes := fun route => iff_of_false (Finset.notMem_empty route) List.not_mem_nil
    proper := eachStep_nil
    driven := ⟨[], rfl, rfl⟩ }
  phase := ⟨rfl, rfl⟩

/-- The turn with which the runtime began to wait as it does: it found the event queue empty,
and read its clock for the delay. -/
def SelectedSince (setup : SessionSetup) (wire : OnlineWire) (inputs : List OnlineInput)
    (machine : OnlineMachine) (delayMs : Nat) : Prop :=
  ∃ earlier input later, inputs = earlier ++ input :: later ∧
    ((OnlineRuntime.session wire).run setup.start earlier).phase = .publishing .select ∧
      Delays input machine delayMs ∧ ∀ reached, reached <+: later →
        ((OnlineRuntime.session wire).run setup.start (earlier ++ input :: reached)).phase =
          .selecting delayMs

/-- What the inputs of a run allow. -/
def allowedBy (setup : SessionSetup) (wire : OnlineWire) (inputs : List OnlineInput) :
    Allowed where
  blame error := ∃ input ∈ inputs, Cause setup input error
  delay := SelectedSince setup wire inputs

section Delay

variable {setup : SessionSetup} {wire : OnlineWire} {inputs : List OnlineInput}
  {machine : OnlineMachine} {delayMs : Nat} {input : OnlineInput}

theorem SelectedSince.concat (hsince : SelectedSince setup wire inputs machine delayMs)
    (hwaits : ((OnlineRuntime.session wire).run setup.start (inputs ++ [input])).phase =
      .selecting delayMs) : SelectedSince setup wire (inputs ++ [input]) machine delayMs := by
  obtain ⟨earlier, first, later, rfl, hphase, hdelays, hstill⟩ := hsince
  rw [List.append_assoc, List.cons_append] at hwaits ⊢
  refine ⟨earlier, first, later ++ [input], rfl, hphase, hdelays, ?_⟩
  intro reached hreached
  rcases List.prefix_concat_iff.mp hreached with rfl | hbefore
  · exact hwaits
  · exact hstill reached hbefore

theorem selectedSince_concat
    (hphase : ((OnlineRuntime.session wire).run setup.start inputs).phase = .publishing .select)
    (hdelays : Delays input machine delayMs)
    (hwaits : ((OnlineRuntime.session wire).run setup.start (inputs ++ [input])).phase =
      .selecting delayMs) : SelectedSince setup wire (inputs ++ [input]) machine delayMs := by
  refine ⟨inputs, input, [], rfl, hphase, hdelays, ?_⟩
  intro reached hreached
  rw [List.prefix_nil.mp hreached]
  exact hwaits

end Delay

/-- The relation holds after every run; its errors come from the inputs of the run, and so does
the delay that it waits with. -/
theorem session_holds (setup : SessionSetup) (wire : OnlineWire) (inputs : List OnlineInput) :
    SessionHolds setup (allowedBy setup wire inputs)
      ((OnlineRuntime.session wire).log setup.start inputs)
      ((OnlineRuntime.session wire).run setup.start inputs) := by
  induction inputs using List.reverseRecOn with
  | nil => exact setup.start_holds _
  | append_singleton inputs input ih =>
      have hstep : SessionHolds setup ((allowedBy setup wire inputs).after setup
          ((OnlineRuntime.session wire).run setup.start inputs) input)
          ((OnlineRuntime.session wire).log setup.start (inputs ++ [input]))
          ((OnlineRuntime.session wire).run setup.start (inputs ++ [input])) := by
        rw [Machine.log_concat, Machine.run_append]
        exact step_holds wire ih input
      refine hstep.mono ?_ ?_
      · rintro error (⟨earlier, hearlier, hcause⟩ | hcause)
        · exact ⟨earlier, List.mem_append_left _ hearlier, hcause⟩
        · exact ⟨input, List.mem_append_right _ (List.mem_singleton_self input), hcause⟩
      · rintro delayMs hwaits (⟨-, hsince⟩ | ⟨hphase, hdelays⟩)
        · exact hsince.concat hwaits
        · exact selectedSince_concat hphase hdelays hwaits

/-! ## A run of a full account -/

/-- The codecs of the run: every answer is a success, and a heartbeat is asked for every 300
seconds. -/
def sampleOnlineWire : OnlineWire where
  push := PushRuntime.overflowWire
  packets := {
    infoSync := fun _ => some {
      result := 0
      message := "register success"
      responseRandom := 7
      register := some ⟨0, none, none⟩
      delayedSync := none }
    register := fun _ => none
    heartbeat := fun _ => some 300 }
  times_fit := by
    intro body packet hpacket
    have hknown : (if body = PushRuntime.overflowPacketBytes then
        some PushRuntime.overflowPacket else none) =
        some packet := hpacket
    split at hknown
    · cases hknown
      decide
    · cases hknown

def samplePacketPlan : OnlinePacketPlan where
  initialSyncRoute := "sync"
  delayedSyncRoute := "sync"
  statusRegisterRoute := none
  heartbeatRoute := "heartbeat"
  tuning := {
    spec := {
      syncFlag := 1
      localeId := 2052
      initialVendorType := 6
      initialRegisterType := 1
      statusVendorType := 16
      statusRegisterType := 2
      auxiliaryFlag := 2
      heartbeatType := 1 }
    valid := by decide }
  valid := by decide

def sampleDevice : OnlineDevice where
  guidHex := "00112233445566778899aabbccddeeff"
  name := "device"
  operatingSystem := "Linux"
  operatingSystemVersion := "5.15"
  vendorOperatingSystem := "linux"
  clientVersion := "3.2"
  batteryState := 0
  valid := by decide

/-- A full account whose plan has no status confirmation. -/
def sampleSetup : SessionSetup where
  plan := OnlineMachine.testPlan
  packetPlan := samplePacketPlan
  device := sampleDevice
  deviceGuidHex := "00112233445566778899aabbccddeeff"
  localeId := 2052
  pushes := .new PushRuntime.infoSyncPlan
  generation := ⟨7, by decide⟩
  realm := .full

def readingsAt (time : Nat) : Readings where
  clock := some time
  seconds := some time
  draws := [some 7]

/-- The startup, an account action, and a heartbeat at its deadline. -/
def sampleInputs : List OnlineInput :=
  [.bootstrap (readingsAt 1000), .answered (some []) (readingsAt 2000),
    .bootstrapped ["flow", "flow"] true (readingsAt 3000), .drained,
    .publish [] true (readingsAt 3000), .run true, .drained, .publish [] true (readingsAt 4000),
    .action [⟨"sync", [], [1]⟩], .drained, .publish [] true (readingsAt 5000),
    .slept (readingsAt 273000)]

/-- The log of the run, with a heartbeat behind its deadline. -/
def sampleLog : List OnlineEvent :=
  (OnlineRuntime.session sampleOnlineWire).log sampleSetup.start sampleInputs

/-- The delay of a phase that waits for a deadline. -/
def OnlinePhase.delayMs : OnlinePhase → Option Nat
  | .selecting delayMs => some delayMs
  | _ => none

theorem OnlinePhase.eq_selecting {phase : OnlinePhase} {delayMs : Nat}
    (hdelay : phase.delayMs = some delayMs) : phase = .selecting delayMs := by
  cases phase with
  | selecting other => rw [Option.some.inj hdelay]
  | _ => cases hdelay

/-! ## The laws of a session -/

/-- Every event of a session is proper behind the ones before it, and its machine has answered
as the controller does. -/
theorem online_session_proper (setup : SessionSetup) (wire : OnlineWire)
    (inputs : List OnlineInput) :
    EachStep (Proper setup) ((OnlineRuntime.session wire).log setup.start inputs) ∧
      ∃ ops, operations ((OnlineRuntime.session wire).log setup.start inputs) =
        OnlineMachine.controller.trace (.new setup.plan) ops := by
  have hcore := (session_holds setup wire inputs).core
  obtain ⟨ops, hops, -⟩ := hcore.driven
  exact ⟨hcore.proper, ops, hops⟩

theorem sample_session_proper :
    kinds sampleLog = [.initialSync, .heartbeat] ∧ flowRoutes sampleLog = ["flow", "flow"] ∧
      EachStep (Proper sampleSetup) sampleLog := by
  refine ⟨by decide +kernel, by decide +kernel, ?_⟩
  exact (online_session_proper sampleSetup sampleOnlineWire sampleInputs).1

/-- The texts of the checks that the runtime makes of its own machine. -/
def selfChecks : List String :=
  ["Profile online action sequence is inconsistent", "online generation did not enter Online",
    "Profile omitted required status route", "online generation has no continuity schedule",
    "online schedule dispatched an invalid action"]

theorem Cause.not_selfCheck {setup : SessionSetup} {input : OnlineInput} {text : String}
    (hcause : Cause setup input (.other text)) : text ∉ selfChecks := by
  cases hcause with
  | refused hrefused =>
      cases hrefused with
      | sync => decide
      | status => decide
  | gates => decide
  | channel => decide

/-- What is known of a runtime by where it waits. -/
structure Waits (setup : SessionSetup) (wire : OnlineWire) (inputs : List OnlineInput)
    (log : List OnlineEvent) (runtime : OnlineRuntime) : Prop where
  /-- An error comes from an input of the run, or from the setup. -/
  caused : ∀ error, runtime.phase = .ended (.error error) →
    ∃ input ∈ inputs, Cause setup input error
  /-- No check that the runtime makes of its own machine fails. -/
  consistent : ∀ text ∈ selfChecks, runtime.phase ≠ .ended (.error (.other text))
  /-- The `select!` waits online with no request under way, and for as long as it was, on the
  clock of the turn in which it began to wait, until the first of its armed deadlines. -/
  select : ∀ delayMs, runtime.phase = .selecting delayMs →
    Idle setup log runtime.machine ∧ SelectedSince setup wire inputs runtime.machine delayMs

theorem online_session_waits (setup : SessionSetup) (wire : OnlineWire)
    (inputs : List OnlineInput) :
    Waits setup wire inputs ((OnlineRuntime.session wire).log setup.start inputs)
      ((OnlineRuntime.session wire).run setup.start inputs) := by
  have hphase := (session_holds setup wire inputs).phase
  have hcaused : ∀ error,
      ((OnlineRuntime.session wire).run setup.start inputs).phase = .ended (.error error) →
        ∃ input ∈ inputs, Cause setup input error := by
    intro error hended
    rw [hended] at hphase
    exact hphase error rfl
  exact {
    caused := hcaused
    consistent := by
      intro text hcheck hended
      obtain ⟨input, -, hcause⟩ := hcaused _ hended
      exact hcause.not_selfCheck hcheck
    select := by
      intro delayMs hselecting
      rw [hselecting] at hphase
      exact hphase }

/-- The session waits for the rest of the 270 seconds of its plan. -/
theorem sample_session_waits :
    SelectedSince sampleSetup sampleOnlineWire (sampleInputs.take 11)
      ((OnlineRuntime.session sampleOnlineWire).run sampleSetup.start
        (sampleInputs.take 11)).machine 268000 := by
  have hwaits : ((OnlineRuntime.session sampleOnlineWire).run sampleSetup.start
      (sampleInputs.take 11)).phase = .selecting 268000 :=
    OnlinePhase.eq_selecting (by decide +kernel)
  exact ((online_session_waits sampleSetup sampleOnlineWire (sampleInputs.take 11)).select
    268000 hwaits).2

end Runtime
end Lirvena
