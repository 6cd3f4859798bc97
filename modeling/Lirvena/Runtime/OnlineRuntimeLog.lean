import Lirvena.Domain.OnlineGates
import Lirvena.Runtime.OnlineRuntime

/-!
# The log of the online runtime

What a run of the online runtime does is read from its log alone: the requests it hands to
the session, the operations of its machine and the routes on which it identifies itself.
`Proper` is what is expected of every event behind the ones before it.
`SessionHolds` relates the log to the runtime, by the phase it waits in.
-/

namespace Lirvena
namespace Runtime

open Lib Daemon Domain Online Profile

/-! ## Cursors -/

theorem foldl_fits {α : Type}
    {apply : InfoSyncPushState × OnlineSyncState → α → InfoSyncPushState × OnlineSyncState}
    {items : List α} {start : InfoSyncPushState × OnlineSyncState}
    (happly : ∀ item ∈ items, ∀ result, result.2.Fits → (apply result item).2.Fits)
    (hstart : start.2.Fits) : (items.foldl apply start).2.Fits :=
  List.foldlRecOn (motive := fun result : InfoSyncPushState × OnlineSyncState => result.2.Fits)
    items apply hstart fun result hresult item hitem => happly item hitem result hresult

theorem applyGroupNodes_fits {state : InfoSyncPushState} {sync : OnlineSyncState}
    {nodes : List GroupNode} (hfits : sync.Fits)
    (htimes : ∀ node ∈ nodes, node.latestMessageTime < u64Bound ∧
      node.longestMessageTime < u64Bound) :
    (applyGroupNodes state sync nodes).2.Fits := by
  refine foldl_fits ?_ ?_
  · intro node hnode result hresult
    obtain ⟨hlatest, hlongest⟩ := htimes node hnode
    exact { hresult with
      groupLastMessageTime := Nat.max_lt.mpr
        ⟨hresult.groupLastMessageTime, Nat.max_lt.mpr ⟨hlatest, hlongest⟩⟩ }
  · dsimp only
    split
    · split
      · next hcode => exact { hfits with lastGroupCode := hcode }
      · exact hfits
    · exact hfits

theorem applyValid_fits {packet : Packet} {state : InfoSyncPushState} {sync : OnlineSyncState}
    {counts : MessageCounts} {payloadLen : Nat} (hfits : sync.Fits)
    (hnodes : ∀ node ∈ packet.groupNodes, node.latestMessageTime < u64Bound ∧
      node.longestMessageTime < u64Bound)
    (hgroups : ∀ notification ∈ packet.groupItems, notification.lastSpeakTimestamp < u64Bound)
    (hdirects : ∀ notification ∈ packet.systemItems,
      notification.lastSpeakTimestamp < u64Bound) :
    (applyValid packet state sync counts payloadLen).2.Fits := by
  refine foldl_fits ?_ (foldl_fits ?_ (applyGroupNodes_fits hfits hnodes))
  · intro notification hmem result hresult
    have htime := hdirects notification hmem
    exact { hresult with
      directLastMessageTime := Nat.max_lt.mpr ⟨hresult.directLastMessageTime, htime⟩
      previousDirectMessageTime :=
        Nat.max_lt.mpr ⟨hresult.previousDirectMessageTime, htime⟩ }
  · intro notification hmem result hresult
    exact { hresult with
      groupLastMessageTime :=
        Nat.max_lt.mpr ⟨hresult.groupLastMessageTime, hgroups notification hmem⟩ }

/-- A push leaves cursors that are words, whether it is applied or refused. -/
theorem process_fits (wire : OnlineWire) (pushes : PushRuntime) (entry : PushPlanEntry)
    (payload : List UInt8) {sync : OnlineSyncState} (hfits : sync.Fits) :
    (pushes.process wire.push entry payload sync).1.2.Fits := by
  unfold PushRuntime.process PushProcessor.apply
  split
  · exact hfits
  split
  · rcases applyInfoSync_cases wire.push.codec.packet payload pushes.processor.infoSync sync
        pushes.availableMessageSlots pushes.availableMessageBytes with
      ⟨error, happly⟩ | ⟨packet, counts, hdecode, -, happly⟩
    · rw [happly]
      exact hfits
    · obtain ⟨hnodes, hgroups, hdirects⟩ := wire.times_fit _ packet hdecode
      have hmerged : (applyValid packet pushes.processor.infoSync sync counts
          payload.length).2.Fits :=
        applyValid_fits hfits hnodes hgroups hdirects
      rw [happly]
      exact hmerged
  · exact hfits

/-- A handled push leaves cursors that are words. -/
theorem handle_fits (wire : OnlineWire) (pushes : PushRuntime) (command : String)
    (payload : List UInt8) {sync : OnlineSyncState} (hfits : sync.Fits) :
    (pushes.handle wire.push command payload sync).1.2.Fits := by
  unfold PushRuntime.handle
  split
  · exact hfits
  · next entry hentry =>
      have hprocess := process_fits wire pushes entry payload hfits
      generalize pushes.process wire.push entry payload sync = processed at hprocess
      obtain ⟨⟨processor, after⟩, outcome⟩ := processed
      cases outcome with
      | error error => exact hprocess
      | ok outcome => exact hprocess

/-! ## Reading a log -/

/-- What the session of an account is set up with. -/
structure SessionSetup where
  plan : OnlinePlan
  packetPlan : OnlinePacketPlan
  device : OnlineDevice
  deviceGuidHex : String
  localeId : UInt32
  pushes : PushRuntime
  generation : OnlineGeneration
  realm : AssignedRealm

namespace SessionSetup

variable (setup : SessionSetup)

def start : OnlineRuntime :=
  .new setup.plan (.fresh setup.packetPlan setup.device setup.deviceGuidHex setup.localeId)
    setup.pushes setup.generation setup.realm

/-- The status is confirmed on a route of its own. -/
def confirms : Bool :=
  setup.packetPlan.statusRegisterRoute.isSome

/-- The requests of the startup. -/
def startupKinds : List PacketKind :=
  .initialSync :: if setup.confirms then [.statusConfirmation] else []

def routeOf : PacketKind → Option String
  | .initialSync => some setup.packetPlan.initialSyncRoute
  | .delayedSync => some setup.packetPlan.delayedSyncRoute
  | .statusConfirmation => setup.packetPlan.statusRegisterRoute
  | .heartbeat => some setup.packetPlan.heartbeatRoute

/-- The place of a request among the ones before it. -/
def InPlace (before : List PacketKind) : PacketKind → Prop
  | .initialSync => before = []
  | .statusConfirmation => before = [.initialSync]
  | .delayedSync | .heartbeat => setup.startupKinds <+: before

end SessionSetup

def operationOf : OnlineEvent → Option (OnlineOp × OnlineAnswer)
  | .operated op answer => some (op, answer)
  | _ => none

/-- The operations of the machine, with their answers. -/
def operations (log : List OnlineEvent) : List (OnlineOp × OnlineAnswer) :=
  log.filterMap operationOf

def kindOf : OnlineEvent → Option PacketKind
  | .requested request => some request.kind
  | _ => none

/-- The requests, by their kinds. -/
def kinds (log : List OnlineEvent) : List PacketKind :=
  log.filterMap kindOf

/-- The route of a frame, and whether the account identifies itself with it. -/
def identityOf : OnlineEvent → Option (String × Bool)
  | .requested request => some (request.route, request.includeIdentity)
  | .acknowledged route includeIdentity _ => some (route, includeIdentity)
  | _ => none

/-- The routes of the frames. -/
def routesIn (log : List OnlineEvent) : List String :=
  (log.filterMap identityOf).map Prod.fst

/-- The frame is exchanged for an answer. -/
def OnlineEvent.isExchange : OnlineEvent → Bool
  | .requested _ | .exchanged _ | .flowed _ _ => true
  | _ => false

def flowRouteOf : OnlineEvent → Option String
  | .flowed command _ => some command
  | _ => none

/-- The routes of the security bootstrap. -/
def flowRoutes (log : List OnlineEvent) : List String :=
  log.filterMap flowRouteOf

/-- A request waits until the machine accepts the completion of its action. -/
def awaits (awaited : Option PacketKind) : OnlineEvent → Option PacketKind
  | .requested request => some request.kind
  | .operated (.initialSyncSucceeded _ _ _) (.directive _) => none
  | .operated (.statusConfirmationCompleted _ _) (.directive _) => none
  | .operated (.heartbeatCompleted _ _ _) .completed => none
  | .operated (.delayedSyncCompleted _ _ _) .completed => none
  | _ => awaited

/-- The request that waits behind a log. -/
def awaited (log : List OnlineEvent) : Option PacketKind :=
  log.foldl awaits none

/-! ### Deadlines -/

/-- The session is entered, or a heartbeat is completed, and the next one is due one allowed
interval later. -/
inductive ArmsHeartbeat (plan : OnlinePlan) : OnlineEvent → Nat → Prop where
  | bootstrapped (generation : OnlineGeneration) (now interval : Nat)
      (hinterval : plan.HeartbeatInterval interval) :
      ArmsHeartbeat plan (.operated (.securityBootstrapSucceeded generation now)
        (.directive (.enteredOnline generation))) (now + interval)
  | confirmed (generation : OnlineGeneration) (now interval : Nat)
      (hinterval : plan.HeartbeatInterval interval) :
      ArmsHeartbeat plan (.operated (.statusConfirmationCompleted generation now)
        (.directive (.enteredOnline generation))) (now + interval)
  | completed (generation : OnlineGeneration) (now interval : Nat) (requested : Option Nat)
      (hinterval : plan.HeartbeatInterval interval) :
      ArmsHeartbeat plan (.operated (.heartbeatCompleted generation now requested) .completed)
        (now + interval)

/-- A synchronization is completed whose answer asks for another one, which is due after the
delay that it asks for, within the bounds of the plan. -/
inductive ArmsSync (plan : OnlinePlan) : OnlineEvent → Nat → Prop where
  | initial (generation : OnlineGeneration) (now delay : Nat) (directive : OnlineDirective) :
      ArmsSync plan (.operated (.initialSyncSucceeded generation now (some delay))
        (.directive directive)) (now + plan.clampDelayedSync delay)
  | delayed (generation : OnlineGeneration) (now delay : Nat) :
      ArmsSync plan (.operated (.delayedSyncCompleted generation now (some delay)) .completed)
        (now + plan.clampDelayedSync delay)

/-- A deadline is armed that no request of the kind has used. -/
def ArmedAt (arms : OnlineEvent → Nat → Prop) (kind : PacketKind) (log : List OnlineEvent)
    (due : Nat) : Prop :=
  ∃ early event late, log = early ++ event :: late ∧ arms event due ∧ kind ∉ kinds late

/-- A poll has found an armed deadline that had come, and no request of the kind followed. -/
def HandedOut (arms : OnlineEvent → Nat → Prop) (kind : PacketKind) (log : List OnlineEvent) :
    Prop :=
  ∃ early now answer late due, log = early ++ .operated (.pollDue now) answer :: late ∧
    ArmedAt arms kind early due ∧ due ≤ now ∧ kind ∉ kinds late

/-- What holds of every event behind the ones before it. -/
structure Proper (setup : SessionSetup) (before : List OnlineEvent) (event : OnlineEvent) :
    Prop where
  /-- Among its requests and acknowledgements, the session identifies the account with the
  first one on a route, and with no other. -/
  identified : ∀ route includeIdentity, identityOf event = some (route, includeIdentity) →
    (includeIdentity = true ↔ route ∉ routesIn before)
  /-- The security bootstrap of a full account does so among its own frames, behind the first
  synchronization. -/
  flowed : ∀ command includeIdentity, event = .flowed command includeIdentity →
    setup.realm = .full ∧ kinds before = [.initialSync] ∧
      (includeIdentity = true ↔ command ∉ flowRoutes before)
  /-- Frames with a reserve never do, and come behind the startup. -/
  reserved : ∀ frame, event = .exchanged frame →
    setup.startupKinds <+: kinds before ∧ frame.includeIdentity = false
  /-- No frame is exchanged while a request waits. -/
  alone : event.isExchange = true → awaited before = none
  ordered : ∀ kind, kindOf event = some kind → setup.InPlace (kinds before) kind
  routed : ∀ request, event = .requested request → setup.routeOf request.kind = some request.route
  heartbeat : kindOf event = some .heartbeat →
    HandedOut (ArmsHeartbeat setup.plan) .heartbeat before
  delayedSync : kindOf event = some .delayedSync →
    HandedOut (ArmsSync setup.plan) .delayedSync before

section Logs

variable {arms : OnlineEvent → Nat → Prop} {kind : PacketKind} {log rest : List OnlineEvent}
  {event : OnlineEvent} {due now : Nat} {answer : OnlineAnswer}

@[simp] theorem kinds_append (first second : List OnlineEvent) :
    kinds (first ++ second) = kinds first ++ kinds second :=
  List.filterMap_append

@[simp] theorem operations_append (first second : List OnlineEvent) :
    operations (first ++ second) = operations first ++ operations second :=
  List.filterMap_append

@[simp] theorem routesIn_append (first second : List OnlineEvent) :
    routesIn (first ++ second) = routesIn first ++ routesIn second := by
  rw [routesIn, List.filterMap_append, List.map_append]
  rfl

@[simp] theorem flowRoutes_append (first second : List OnlineEvent) :
    flowRoutes (first ++ second) = flowRoutes first ++ flowRoutes second :=
  List.filterMap_append

@[simp] theorem awaited_concat (log : List OnlineEvent) (event : OnlineEvent) :
    awaited (log ++ [event]) = awaits (awaited log) event := by
  rw [awaited, List.foldl_append]
  rfl

theorem ArmedAt.append (harmed : ArmedAt arms kind log due) (hrest : kind ∉ kinds rest) :
    ArmedAt arms kind (log ++ rest) due := by
  obtain ⟨early, event, late, rfl, harms, hlate⟩ := harmed
  refine ⟨early, event, late ++ rest, by simp, harms, ?_⟩
  rw [kinds_append, List.mem_append]
  exact not_or.mpr ⟨hlate, hrest⟩

theorem armedAt_concat (harms : arms event due) : ArmedAt arms kind (log ++ [event]) due :=
  ⟨log, event, [], rfl, harms, List.not_mem_nil⟩

theorem HandedOut.append (hhanded : HandedOut arms kind log) (hrest : kind ∉ kinds rest) :
    HandedOut arms kind (log ++ rest) := by
  obtain ⟨early, now, answer, late, due, rfl, harmed, hcome, hlate⟩ := hhanded
  refine ⟨early, now, answer, late ++ rest, due, by simp, harmed, hcome, ?_⟩
  rw [kinds_append, List.mem_append]
  exact not_or.mpr ⟨hlate, hrest⟩

/-- A poll hands out a deadline that has come. -/
theorem ArmedAt.handOut (harmed : ArmedAt arms kind log due) (hcome : due ≤ now) :
    HandedOut arms kind (log ++ [.operated (.pollDue now) answer]) :=
  ⟨log, now, answer, [], due, rfl, harmed, hcome, List.not_mem_nil⟩

end Logs

/-! ## What ends a run -/

def OnlineInput.readings : OnlineInput → Option Readings
  | .bootstrap readings => some readings
  | .answered _ readings => some readings
  | .bootstrapped _ _ readings => some readings
  | .publish _ _ readings => some readings
  | .slept readings => some readings
  | _ => none

/-- What in an input, or in the setup, an error of the runtime comes from.  The checks that
the runtime makes of its own machine are not among the causes. -/
inductive Cause (setup : SessionSetup) (input : OnlineInput) : OnlineError → Prop where
  | refused {error : OnlineError} (hrefused : PacketRuntime.RefusedAnswer error)
      (hanswered : ∃ response readings, input = .answered (some response) readings) :
      Cause setup input error
  | gates (hplans : setup.plan.statusConfirmation.isSome ≠ setup.confirms) :
      Cause setup input (.other "Profile online gates are inconsistent")
  | channel (hinput : input = .channelEnded) :
      Cause setup input (.other "account action channel ended")
  | clock {readings : Readings} {error : ClockError} (hreadings : input.readings = some readings)
      (hclock : nowMs readings.clock = .error error ∨
        nowSeconds readings.seconds = .error error) :
      Cause setup input (.clock error)
  | firstSecond {readings : Readings} (hreadings : input.readings = some readings)
      (hseconds : nowSeconds readings.seconds = .ok 0) (error : OnlinePacketError) :
      Cause setup input (.encode error)
  | random {readings : Readings} (hreadings : input.readings = some readings)
      (hdraws : drawNonzero 16 readings.draws = none) : Cause setup input .random
  | lastWord {readings : Readings} {now : UInt64} (hreadings : input.readings = some readings)
      (hclock : nowMs readings.clock = .ok now) (hnear : NearsLastWord now.toNat) :
      Cause setup input (.transition .rejected)
  | push {command : String} {payload : List UInt8} {sent : Bool}
      (hinput : input = .push command payload sent) (error : PushRuntimeError) :
      Cause setup input (.push error)
  | exchange {readings : Readings} (hinput : input = .answered none readings) :
      Cause setup input .exchange
  | unsent {command : String} {payload : List UInt8}
      (hinput : input = .push command payload false) : Cause setup input .exchange
  | keys (hinput : input = .run false) : Cause setup input .exchange
  | read (hinput : input = .readFailed) : Cause setup input .read
  | flow {commands : List String} {readings : Readings}
      (hinput : input = .bootstrapped commands false readings)
      (hrealm : setup.realm = .full) : Cause setup input .flow
  | publish {requests : List ReserveRequest} {readings : Readings}
      (hinput : input = .publish requests false readings) : Cause setup input .publish
  | signal (hinput : input = .interrupted false) : Cause setup input .signal

/-! ## The relation of a run -/

/-- What holds whatever the runtime waits for. -/
structure Core (setup : SessionSetup) (log : List OnlineEvent) (runtime : OnlineRuntime) :
    Prop where
  plan : runtime.machine.plan = setup.plan
  packetPlan : runtime.packets.plan = setup.packetPlan
  generation : runtime.generation = setup.generation
  realm : runtime.realm = setup.realm
  interval : setup.plan.HeartbeatInterval runtime.machine.heartbeatIntervalMs
  sound : runtime.packets.Sound
  routes : ∀ route, route ∈ runtime.packets.identityRoutes ↔ route ∈ routesIn log
  proper : EachStep (Proper setup) log
  /-- The machine is where its operations have led it. -/
  driven : ∃ ops, operations log = OnlineMachine.controller.trace (.new setup.plan) ops ∧
    runtime.machine = OnlineMachine.controller.run (.new setup.plan) ops

/-- The next heartbeat is armed, and not in flight. -/
def HeartbeatArmed (setup : SessionSetup) (log : List OnlineEvent) (machine : OnlineMachine) :
    Prop :=
  machine.heartbeatInFlight = false ∧ ∃ due, machine.nextHeartbeatMs = some due ∧
    ArmedAt (ArmsHeartbeat setup.plan) .heartbeat log due

/-- A delayed synchronization is armed where there is one, and not in flight. -/
def SyncArmed (setup : SessionSetup) (log : List OnlineEvent) (machine : OnlineMachine) :
    Prop :=
  machine.delayedSyncInFlight = false ∧ ∀ due, machine.nextDelayedSyncMs = some due →
    ArmedAt (ArmsSync setup.plan) .delayedSync log due

/-- The session has passed its gates. -/
structure Entered (setup : SessionSetup) (log : List OnlineEvent) (machine : OnlineMachine) :
    Prop where
  state : machine.state = .online setup.generation
  started : setup.startupKinds <+: kinds log

/-- The session waits for nothing but its deadlines. -/
structure Idle (setup : SessionSetup) (log : List OnlineEvent) (machine : OnlineMachine) :
    Prop where
  entered : Entered setup log machine
  heartbeat : HeartbeatArmed setup log machine
  sync : SyncArmed setup log machine
  alone : awaited log = none

/-- What is left of the directives of a poll behind its heartbeat. -/
def RestHolds (setup : SessionSetup) (log : List OnlineEvent) (machine : OnlineMachine)
    (rest : List OnlineDirective) : Prop :=
  (rest = [] ∧ SyncArmed setup log machine) ∨
    (rest = [.dispatch setup.generation (.delayedSync setup.plan.delayedSync)] ∧
      machine.delayedSyncInFlight = true ∧ HandedOut (ArmsSync setup.plan) .delayedSync log)

/-- The session before its last gate. -/
structure Starting (setup : SessionSetup) (log : List OnlineEvent) (machine : OnlineMachine)
    (sent : List PacketKind) (waits : Option PacketKind) : Prop where
  heartbeat : machine.heartbeatInFlight = false
  sync : SyncArmed setup log machine
  sent : kinds log = sent
  waits : awaited log = waits

/-- What an ended run may have failed with, and how long a waiting one may wait. -/
structure Allowed where
  blame : OnlineError → Prop
  delay : OnlineMachine → Nat → Prop

/-- What holds in a phase. -/
def PhaseHolds (setup : SessionSetup) (allowed : Allowed) (log : List OnlineEvent)
    (machine : OnlineMachine) : OnlinePhase → Prop
  | .created => machine = .new setup.plan ∧ log = []
  | .synchronizing => machine.state = .synchronizing setup.generation ∧ flowRoutes log = [] ∧
      Starting setup log machine [.initialSync] (some .initialSync)
  | .bootstrapping => machine.state = .bootstrapping setup.generation ∧ flowRoutes log = [] ∧
      Starting setup log machine [.initialSync] none
  | .confirming => machine.state = .confirming setup.generation ∧ setup.confirms = true ∧
      Starting setup log machine setup.startupKinds (some .statusConfirmation)
  | .draining _ | .publishing _ | .ready => Idle setup log machine
  | .selecting delayMs => Idle setup log machine ∧ allowed.delay machine delayMs
  | .beating rest => Entered setup log machine ∧ machine.heartbeatInFlight = true ∧
      RestHolds setup log machine rest ∧ awaited log = some .heartbeat
  | .resyncing rest => Entered setup log machine ∧ HeartbeatArmed setup log machine ∧
      machine.delayedSyncInFlight = true ∧ rest = [] ∧ awaited log = some .delayedSync
  | .ended result => ∀ error, result = .error error → allowed.blame error

/-- The relation of a log to the runtime. -/
structure SessionHolds (setup : SessionSetup) (allowed : Allowed)
    (log : List OnlineEvent) (runtime : OnlineRuntime) : Prop where
  core : Core setup log runtime
  phase : PhaseHolds setup allowed log runtime.machine runtime.phase

end Runtime
end Lirvena
