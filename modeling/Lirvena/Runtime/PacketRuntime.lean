import Lirvena.Domain.DeviceSnapshot
import Lirvena.Domain.OnlineMachine
import Lirvena.Online.OnlinePackets
import Lirvena.Profile.LinuxManifest
import Lirvena.Runtime.Clock
import Lirvena.Runtime.PushRuntime

/-!
# The packet runtime

The packet runtime keeps what the packets of an online generation are made of: the device,
the presence, the cursors and the routes on which the account has identified itself.  Its
exchanges are cut where they wait for the session, into what is requested and what is made
of the answer.
-/

namespace Lirvena
namespace Runtime

open Lib Domain Online Profile

/-- The errors of the online runtime.  Those of the packets are told apart by what was
rejected, the packet or its answer. -/
inductive OnlineError where
  | other (text : String)
  | clock (error : ClockError)
  | random
  | encode (error : OnlinePacketError)
  | answer (error : OnlinePacketError)
  | push (error : PushRuntimeError)
  | transition (error : OnlineTransitionError)
  /-- The session could not make an exchange, or send an acknowledgement. -/
  | exchange
  | read
  | flow
  | publish
  | signal
  deriving DecidableEq

/-! ## Entropy -/

/-- `random_nonzero_u32`, on what the operating system fills the words with; none of a word
is a failure. -/
def drawNonzero : Nat → List (Option UInt32) → Option UInt32
  | 0, _ => none
  | _ + 1, [] => none
  | _ + 1, none :: _ => none
  | attempts + 1, some value :: rest =>
      if value ≠ 0 then some value else drawNonzero attempts rest

def randomNonzeroU32 (draws : List (Option UInt32)) : Except OnlineError UInt32 :=
  okOr .random (drawNonzero 16 draws)

theorem drawNonzero_ne_zero {attempts : Nat} {draws : List (Option UInt32)} {value : UInt32}
    (hdraw : drawNonzero attempts draws = some value) : value ≠ 0 := by
  induction attempts generalizing draws with
  | zero => cases hdraw
  | succ attempts ih =>
      cases draws with
      | nil => cases hdraw
      | cons first rest =>
          cases first with
          | none => cases hdraw
          | some found =>
              unfold drawNonzero at hdraw
              split at hdraw
              · next hfound =>
                  cases hdraw
                  exact hfound
              · exact ih hdraw

/-! ## Requests -/

inductive PacketKind where
  | initialSync
  | delayedSync
  | statusConfirmation
  | heartbeat
  deriving DecidableEq

/-- One request that is handed to the session. -/
structure PacketRequest where
  kind : PacketKind
  localeId : UInt32
  route : String
  deviceGuidHex : String
  includeIdentity : Bool
  payload : List UInt8
  deriving DecidableEq

/-- A request of an account action, with a reserve that comes from outside or an empty one. -/
structure ReserveRequest where
  command : String
  reserve : List UInt8
  payload : List UInt8
  deriving DecidableEq

/-- The frame of such a request. -/
structure ReserveFrame extends ReserveRequest where
  localeId : UInt32
  deviceGuidHex : String
  includeIdentity : Bool
  deriving DecidableEq

structure PacketRuntime where
  plan : OnlinePacketPlan
  device : OnlineDevice
  deviceGuidHex : String
  localeId : UInt32
  presence : OnlinePresence
  cursors : OnlineSyncState
  identityRoutes : Finset String

/-- The battery byte: the percentage, and a bit for charging. -/
def batteryByte : DevicePower → UInt32
  | .desktop => 0
  | .portable percent charging => percent.toUInt32 ||| (if charging then 0x80 else 0)

/-- `to_ascii_lowercase`. -/
def lowerAscii (text : String) : String :=
  String.ofList (text.toList.map Char.toLower)

namespace PacketRuntime

/-- What a profile and a device say of the device. -/
def deviceFacts (profile : LinuxNtProfile) (device : DeviceProfile) : OnlineDeviceFacts where
  guidHex := hexText lowerHexDigit device.guid.toList
  name := device.deviceName
  operatingSystem := profile.spec.operatingSystem
  operatingSystemVersion := device.systemKernel
  vendorOperatingSystem := lowerAscii profile.spec.operatingSystem
  clientVersion := profile.spec.clientVersion
  batteryState := batteryByte device.power

inductive NewError where
  | plan (error : OnlinePacketPlanError)
  | locale
  | device (error : OnlinePacketError)

/-- A packet runtime that has sent nothing. -/
def fresh (plan : OnlinePacketPlan) (device : OnlineDevice) (deviceGuidHex : String)
    (localeId : UInt32) : PacketRuntime where
  plan := plan
  device := device
  deviceGuidHex := deviceGuidHex
  localeId := localeId
  presence := .initial
  cursors := .initial
  identityRoutes := ∅

def new (profile : LinuxNtProfile) (device : DeviceProfile) :
    Except NewError PacketRuntime := do
  let plan ← (decodeOnlinePacketPlan profile).mapError .plan
  let localeId ← (tryFromI32 plan.tuning.spec.localeId).mapError fun _ => .locale
  let onlineDevice ← (OnlineDevice.new (deviceFacts profile device)).mapError .device
  return fresh plan onlineDevice (hexText lowerHexDigit device.guid.toList) localeId

def hasStatusConfirmation (packets : PacketRuntime) : Bool :=
  packets.plan.statusRegisterRoute.isSome

/-- Whether the route is met for the first time. -/
def markIdentityRoute (packets : PacketRuntime) (route : String) : PacketRuntime × Bool :=
  ({ packets with identityRoutes := insert route packets.identityRoutes },
    decide (route ∉ packets.identityRoutes))

def send (packets : PacketRuntime) (kind : PacketKind) (route : String)
    (payload : List UInt8) : PacketRuntime × PacketRequest :=
  let (packets, includeIdentity) := packets.markIdentityRoute route
  (packets, ⟨kind, packets.localeId, route, packets.deviceGuidHex, includeIdentity, payload⟩)

/-- Requests with a reserve neither mark their route nor depend on it. -/
def sendWithReserve (packets : PacketRuntime) (request : ReserveRequest) : ReserveFrame where
  toReserveRequest := request
  localeId := packets.localeId
  deviceGuidHex := packets.deviceGuidHex
  includeIdentity := false

def applySilence (packets : PacketRuntime) (localSilence silenceVersion : Option UInt32) :
    PacketRuntime :=
  { packets with presence :=
    { packets.presence with
      localSilence := localSilence.getD packets.presence.localSilence
      silenceVersion := silenceVersion.getD packets.presence.silenceVersion } }

/-! ### Synchronization -/

/-- `synchronize` up to its exchange. -/
def requestSync (packets : PacketRuntime) (delayed : Bool) (draws : List (Option UInt32)) :
    Except OnlineError (PacketRuntime × PacketRequest) := do
  let requestRandom ← randomNonzeroU32 draws
  let payload ← (encodeInfoSync packets.device packets.presence packets.cursors
    packets.plan.tuning requestRandom delayed).mapError .encode
  return if delayed then packets.send .delayedSync packets.plan.delayedSyncRoute payload
    else packets.send .initialSync packets.plan.initialSyncRoute payload

/-- `synchronize` on the answer: the delay that the server asks for. -/
def acceptSync (codec : OnlineCodec) (packets : PacketRuntime) (response : List UInt8) :
    Except OnlineError (PacketRuntime × Option Nat) := do
  let outcome ← (parseInfoSyncResponse codec response).mapError .answer
  rejectIf (.other "QQ rejected online synchronization") (outcome.success = false)
  let packets := packets.applySilence outcome.localSilence outcome.silenceVersion
  return ({ packets with presence := { packets.presence with firstRegister := false } },
    outcome.delayedAfterMs)

/-! ### Status -/

def requestStatus (packets : PacketRuntime) :
    Except OnlineError (PacketRuntime × PacketRequest) := do
  let route ← okOr (.other "Profile omitted required status route")
    packets.plan.statusRegisterRoute
  let payload ← (encodeRegister packets.device packets.presence
    packets.plan.tuning).mapError .encode
  return packets.send .statusConfirmation route payload

def acceptStatus (codec : OnlineCodec) (packets : PacketRuntime) (response : List UInt8) :
    Except OnlineError PacketRuntime := do
  let outcome ← (parseRegisterResponse codec response).mapError .answer
  rejectIf (.other "QQ rejected online status confirmation") (outcome.result ≠ 0)
  return packets.applySilence outcome.localSilence outcome.silenceVersion

/-! ### Heartbeats -/

def requestHeartbeat (packets : PacketRuntime) (clock : Clock) :
    Except OnlineError (PacketRuntime × PacketRequest) := do
  let unixSeconds ← (nowSeconds clock).mapError .clock
  let payload ← (encodeHeartbeat packets.presence packets.plan.tuning unixSeconds
    packets.device.batteryState).mapError .encode
  return packets.send .heartbeat packets.plan.heartbeatRoute payload

def acceptHeartbeat (codec : OnlineCodec) (response : List UInt8) :
    Except OnlineError (Option Nat) :=
  (parseHeartbeatResponse codec response).mapError .answer

/-! ## What is kept -/

/-- What the packet runtime keeps can be sent. -/
structure Sound (packets : PacketRuntime) : Prop where
  sendable : packets.presence.Sendable
  fits : packets.cursors.Fits

theorem fresh_sound (plan : OnlinePacketPlan) (device : OnlineDevice) (deviceGuidHex : String)
    (localeId : UInt32) : (fresh plan device deviceGuidHex localeId).Sound where
  sendable := initial_sendable
  fits := initial_fits

variable {packets next : PacketRuntime} {codec : OnlineCodec} {response : List UInt8}

theorem applySilence_sendable {localSilence silenceVersion : Option UInt32}
    (hsendable : packets.presence.Sendable) (hfits : SilenceFits localSilence silenceVersion) :
    (packets.applySilence localSilence silenceVersion).presence.Sendable := by
  constructor
  · cases localSilence with
    | none => exact hsendable.1
    | some value => exact hfits.1 value rfl
  · cases silenceVersion with
    | none => exact hsendable.2
    | some value => exact hfits.2 value rfl

/-- A synchronization goes on its route with the identity where the route is new, or there
was no entropy for it. -/
theorem requestSync_cases (hsound : packets.Sound) (delayed : Bool)
    (draws : List (Option UInt32)) :
    (drawNonzero 16 draws = none ∧ packets.requestSync delayed draws = .error .random) ∨
      ∃ payload, packets.requestSync delayed draws = .ok
        (if delayed then packets.send .delayedSync packets.plan.delayedSyncRoute payload
          else packets.send .initialSync packets.plan.initialSyncRoute payload) := by
  unfold requestSync randomNonzeroU32
  cases hdraw : drawNonzero 16 draws with
  | none => exact Or.inl ⟨rfl, rfl⟩
  | some requestRandom =>
      obtain ⟨payload, hpayload⟩ := encodeInfoSync_returns packets.device hsound.sendable
        hsound.fits packets.plan.tuning (drawNonzero_ne_zero hdraw) delayed
      right
      refine ⟨payload, ?_⟩
      show ((encodeInfoSync packets.device packets.presence packets.cursors
        packets.plan.tuning requestRandom delayed).mapError OnlineError.encode >>= _) = _
      rw [hpayload]
      rfl

theorem requestStatus_eq (hsound : packets.Sound) {route : String}
    (hroute : packets.plan.statusRegisterRoute = some route) :
    ∃ payload, packets.requestStatus =
      .ok (packets.send .statusConfirmation route payload) := by
  obtain ⟨payload, hpayload⟩ :=
    encodeRegister_returns packets.device hsound.sendable packets.plan.tuning
  refine ⟨payload, ?_⟩
  rw [requestStatus, hroute, hpayload]
  rfl

/-- A heartbeat fails to be encoded only in the first second of 1970. -/
theorem requestHeartbeat_cases (packets : PacketRuntime) (clock : Clock) :
    (∃ error, nowSeconds clock = .error error ∧
        packets.requestHeartbeat clock = .error (.clock error)) ∨
      (nowSeconds clock = .ok 0 ∧ ∃ error,
        packets.requestHeartbeat clock = .error (.encode error)) ∨
      ∃ payload, packets.requestHeartbeat clock =
        .ok (packets.send .heartbeat packets.plan.heartbeatRoute payload) := by
  unfold requestHeartbeat
  cases hnow : nowSeconds clock with
  | error error => exact Or.inl ⟨error, rfl, rfl⟩
  | ok unixSeconds =>
      right
      by_cases hzero : unixSeconds = 0
      · left
        subst hzero
        exact ⟨rfl, .rejected, rfl⟩
      · right
        obtain ⟨payload, hpayload⟩ := encodeHeartbeat_returns packets.presence
          packets.plan.tuning hzero packets.device.valid.batteryState
        refine ⟨payload, ?_⟩
        show ((encodeHeartbeat packets.presence packets.plan.tuning unixSeconds
          packets.device.batteryState).mapError OnlineError.encode >>= _) = _
        rw [hpayload]
        rfl

/-- What an accepted answer leaves behind. -/
structure Accepts (packets next : PacketRuntime) : Prop where
  plan : next.plan = packets.plan
  identityRoutes : next.identityRoutes = packets.identityRoutes
  sound : packets.Sound → next.Sound

theorem acceptSync_eq_ok {delayedAfterMs : Option Nat}
    (haccept : packets.acceptSync codec response = .ok (next, delayedAfterMs)) :
    packets.Accepts next := by
  obtain ⟨outcome, hparse, haccept⟩ := bind_eq_ok_iff.mp haccept
  obtain ⟨_, -, haccept⟩ := bind_eq_ok_iff.mp haccept
  cases haccept
  exact {
    plan := rfl
    identityRoutes := rfl
    sound := fun hsound => {
      sendable := applySilence_sendable hsound.sendable
        (parseInfoSyncResponse_fits (mapError_eq_ok_iff.mp hparse))
      fits := hsound.fits } }

theorem acceptStatus_eq_ok (haccept : packets.acceptStatus codec response = .ok next) :
    packets.Accepts next := by
  obtain ⟨outcome, hparse, haccept⟩ := bind_eq_ok_iff.mp haccept
  obtain ⟨_, -, haccept⟩ := bind_eq_ok_iff.mp haccept
  cases haccept
  exact {
    plan := rfl
    identityRoutes := rfl
    sound := fun hsound => {
      sendable := applySilence_sendable hsound.sendable
        (parseRegisterResponse_fits (mapError_eq_ok_iff.mp hparse))
      fits := hsound.fits } }

/-- The errors for which an answer is refused. -/
inductive RefusedAnswer : OnlineError → Prop where
  | malformed (error : OnlinePacketError) : RefusedAnswer (.answer error)
  | sync : RefusedAnswer (.other "QQ rejected online synchronization")
  | status : RefusedAnswer (.other "QQ rejected online status confirmation")

theorem acceptSync_refused {error : OnlineError}
    (haccept : packets.acceptSync codec response = .error error) : RefusedAnswer error := by
  rcases bind_eq_error_iff.mp haccept with hparse | ⟨outcome, -, haccept⟩
  · obtain ⟨cause, -, rfl⟩ := mapError_eq_error_iff.mp hparse
    exact .malformed cause
  · rcases bind_eq_error_iff.mp haccept with hfailed | ⟨_, -, haccept⟩
    · obtain ⟨-, rfl⟩ := rejectIf_eq_error_iff.mp hfailed
      exact .sync
    · cases haccept

theorem acceptStatus_refused {error : OnlineError}
    (haccept : packets.acceptStatus codec response = .error error) : RefusedAnswer error := by
  rcases bind_eq_error_iff.mp haccept with hparse | ⟨outcome, -, haccept⟩
  · obtain ⟨cause, -, rfl⟩ := mapError_eq_error_iff.mp hparse
    exact .malformed cause
  · rcases bind_eq_error_iff.mp haccept with hfailed | ⟨_, -, haccept⟩
    · obtain ⟨-, rfl⟩ := rejectIf_eq_error_iff.mp hfailed
      exact .status
    · cases haccept

theorem acceptHeartbeat_refused {error : OnlineError}
    (haccept : acceptHeartbeat codec response = .error error) : RefusedAnswer error := by
  obtain ⟨cause, -, rfl⟩ := mapError_eq_error_iff.mp haccept
  exact .malformed cause

end PacketRuntime

end Runtime
end Lirvena
