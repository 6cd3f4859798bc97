import Lirvena.Ceylith.Connection
import Lirvena.Ceylith.Slots

/-!
# The requests of a client

An admission is decoded once from the welcome of the handshake, and five builders
make the requests of the client from it.  The validator of inner frames is written
separately from them; `BuiltRequest.validateInner_eq_ok` says that it accepts every
frame that they build.
-/

namespace Lirvena
namespace Ceylith

open Lib

/-! ## The admission -/

namespace Proto

structure SessionWelcome where
  sessionId : List UInt8
  runtimeLease : List UInt8
  leaseExpiresAtMs : UInt64
  grantClass : Int
  maxFullAccounts : UInt32
  maxActiveInstallations : UInt32
  maxRegisteredInstallations : UInt32
  serverTimeMs : UInt64
  policyEpoch : UInt64
  acceptedContracts : List UInt32
  deriving DecidableEq

end Proto

/-- An opaque runtime lease. -/
structure RuntimeLease where
  bytes : List UInt8
  bytes_ne_nil : bytes ≠ []
  length_le : bytes.length ≤ maxRuntimeLeaseLen

def RuntimeLease.ofBytes (bytes : List UInt8) : Except CodecError RuntimeLease :=
  if hnil : bytes = [] then .error .invalidField
  else if hlength : maxRuntimeLeaseLen < bytes.length then .error .invalidField
  else .ok ⟨bytes, hnil, Nat.le_of_not_lt hlength⟩

/-- Structurally validated session admission. -/
structure SessionAdmission where
  sessionId : SessionId
  runtimeLease : RuntimeLease
  leaseExpiresAtMs : UInt64
  grantClass : GrantClass
  maxFullAccounts : UInt32
  maxActiveInstallations : UInt32
  maxRegisteredInstallations : UInt32
  serverTimeMs : UInt64
  policyEpoch : UInt64
  acceptedContracts : List UInt32

def validateQuotas (welcome : Proto.SessionWelcome) (grantClass : GrantClass) :
    Except CodecError Unit :=
  match grantClass with
  | .«public» => rejectIf .invalidField (welcome.maxFullAccounts ≠ 0)
  | .community =>
      rejectIf .invalidField (welcome.maxFullAccounts = 0 ∨
        welcome.maxActiveInstallations = 0 ∨ welcome.maxRegisteredInstallations = 0)
  | .full => .ok ()

/-- Decodes and validates a successful secure-session admission. -/
def decodeSessionWelcome (welcome : Proto.SessionWelcome) :
    Except CodecError SessionAdmission := do
  let sessionId ← fixedField 16 welcome.sessionId
  let runtimeLease ← RuntimeLease.ofBytes welcome.runtimeLease
  rejectIf .invalidField (welcome.leaseExpiresAtMs ≤ welcome.serverTimeMs ∨
    welcome.serverTimeMs = 0 ∨ welcome.policyEpoch = 0)
  let grantClass ← okOr .invalidField (GrantClass.ofWire welcome.grantClass)
  validateQuotas welcome grantClass
  validateContracts welcome.acceptedContracts
  return {
    sessionId := sessionId
    runtimeLease := runtimeLease
    leaseExpiresAtMs := welcome.leaseExpiresAtMs
    grantClass := grantClass
    maxFullAccounts := welcome.maxFullAccounts
    maxActiveInstallations := welcome.maxActiveInstallations
    maxRegisteredInstallations := welcome.maxRegisteredInstallations
    serverTimeMs := welcome.serverTimeMs
    policyEpoch := welcome.policyEpoch
    acceptedContracts := welcome.acceptedContracts }

/-! ## What the builders take -/

/-- Requested account capability for profile negotiation. -/
inductive RequestedAccess where
  | «public»
  | full
  deriving DecidableEq

def RequestedAccess.discriminant : RequestedAccess → UInt32
  | .«public» => 1
  | .full => 2

/-- Closed platform identifier. -/
inductive Platform where
  | linux
  deriving DecidableEq

def Platform.discriminant : Platform → UInt32
  | .linux => 1

/-- Closed architecture identifier. -/
inductive Architecture where
  | x86_64
  | aarch64
  deriving DecidableEq

def Architecture.discriminant : Architecture → UInt32
  | .x86_64 => 1
  | .aarch64 => 2

/-- Validated public runtime advertisement. -/
structure RuntimeDescriptor where
  wire : Proto.ClientRuntime
  valid : validateClientRuntime wire = .ok ()

def RuntimeDescriptor.new (runtimeAbi envelopeContract : UInt32)
    (actionContracts sourceContracts : List UInt32) (platform : Platform)
    (architecture : Architecture) (buildDigest : Digest32) :
    Except ClientError RuntimeDescriptor :=
  let wire : Proto.ClientRuntime := {
    runtimeAbi := runtimeAbi
    envelopeContract := envelopeContract
    actionContracts := actionContracts
    sourceContracts := sourceContracts
    platform := platform.discriminant
    architecture := architecture.discriminant
    buildDigest := buildDigest.bytes }
  if hvalid : validateClientRuntime wire = .ok () then .ok ⟨wire, hvalid⟩
  else .error .protocol

/-- Binding values for one short-lived opaque exchange. -/
structure OpaqueExchangeContext where
  exchangeId : ExchangeId
  accountSlotId : AccountSlotId
  generation : UInt64
  expiresAtMs : UInt64
  bindingDigest : Digest32

/-! ## The builders -/

/-- A frame of the current contract. -/
def currentFrame (body : Proto.Body) : Proto.InnerFrame :=
  ⟨UInt32.ofNat currentInnerContract, some body⟩

def actionFlowBeginRequestFor (sha256 : Sha256) (admission : SessionAdmission)
    (context : ActionFlowContext) (inputs : OpaqueSlots) (nowMs : UInt64) :
    Except ClientError Proto.InnerFrame := do
  rejectIf .protocol (inputs.slots = [] ∨ context.loginEpoch = 0 ∨
    context.transportEpoch = 0 ∨ context.expiresAtMs = 0 ∨ context.expiresAtMs ≤ nowMs)
  return currentFrame (.actionFlowBegin {
    runtimeLease := admission.runtimeLease.bytes
    flowId := context.flowId.bytes
    accountSlotId := context.accountSlotId.bytes
    loginEpoch := context.loginEpoch
    onlineEpoch := context.onlineEpoch
    transportEpoch := context.transportEpoch
    inputs := inputs.toWire
    expiresAtMs := context.expiresAtMs
    bindingDigest := (actionFlowBindingDigest sha256 context inputs).bytes })

def actionObservationRequestFor (sha256 : Sha256) (admission : SessionAdmission)
    (observation : ActionObservation) : Except ClientError Proto.InnerFrame := do
  rejectIf .protocol (observation.observedAtMs = 0 ∨
    (observation.outcome = .response ↔ observation.payload = []) ∨
    maxActionPayloadLen < observation.payload.length)
  return currentFrame (.actionObservation {
    runtimeLease := admission.runtimeLease.bytes
    flowId := observation.flowId.bytes
    actionId := observation.actionId.bytes
    actionDigest := observation.actionDigest.bytes
    outcome := observation.outcome.discriminant
    payload := observation.payload
    observedAtMs := observation.observedAtMs
    bindingDigest := (actionObservationBindingDigest sha256 observation).bytes })

def profileRequestFor (admission : SessionAdmission) (profileId : ProfileId)
    (cachedManifestDigest : Option Digest32) (requestedAccess : RequestedAccess)
    (runtime : RuntimeDescriptor) : Proto.InnerFrame :=
  currentFrame (.profileRequest {
    runtimeLease := admission.runtimeLease.bytes
    profileId := profileId.bytes
    cachedManifestDigest := (cachedManifestDigest.map FixedBytes.bytes).getD []
    requestedAccess := requestedAccess.discriminant
    runtime := some runtime.wire })

def opaqueExchangeRequestFor (sha256 : Sha256) (admission : SessionAdmission)
    (context : OpaqueExchangeContext) (slots : OpaqueSlots) (nowMs : UInt64) :
    Except ClientError Proto.InnerFrame := do
  rejectIf .protocol (slots.slots = [] ∨ context.generation = 0 ∨ context.expiresAtMs = 0 ∨
    context.expiresAtMs ≤ nowMs ∨
    context.bindingDigest ≠ opaqueBindingDigest sha256 context.exchangeId
      context.accountSlotId context.generation context.expiresAtMs slots)
  return currentFrame (.opaqueExchangeRequest {
    runtimeLease := admission.runtimeLease.bytes
    exchangeId := context.exchangeId.bytes
    accountSlotId := context.accountSlotId.bytes
    generation := context.generation
    slots := slots.toWire
    expiresAtMs := context.expiresAtMs
    bindingDigest := context.bindingDigest.bytes })

def watchRequestFor (admission : SessionAdmission) (cursor : UInt64) (maxWaitMs : UInt32) :
    Except ClientError Proto.InnerFrame := do
  rejectIf .protocol (maxWaitMs = 0 ∨ maxWatchWaitMs < maxWaitMs.toNat)
  return currentFrame (.watchRequest {
    runtimeLease := admission.runtimeLease.bytes
    cursor := cursor
    maxWaitMs := maxWaitMs })

/-- The frames that a client builds under an admission. -/
inductive BuiltRequest (sha256 : Sha256) (admission : SessionAdmission) :
    Proto.InnerFrame → Prop
  | actionFlowBegin {context : ActionFlowContext} {inputs : OpaqueSlots} {nowMs : UInt64}
      {frame : Proto.InnerFrame}
      (hbuilt : actionFlowBeginRequestFor sha256 admission context inputs nowMs = .ok frame) :
      BuiltRequest sha256 admission frame
  | actionObservation {observation : ActionObservation} {frame : Proto.InnerFrame}
      (hbuilt : actionObservationRequestFor sha256 admission observation = .ok frame) :
      BuiltRequest sha256 admission frame
  | profile (profileId : ProfileId) (cachedManifestDigest : Option Digest32)
      (requestedAccess : RequestedAccess) (runtime : RuntimeDescriptor) :
      BuiltRequest sha256 admission
        (profileRequestFor admission profileId cachedManifestDigest requestedAccess runtime)
  | opaqueExchange {context : OpaqueExchangeContext} {slots : OpaqueSlots} {nowMs : UInt64}
      {frame : Proto.InnerFrame}
      (hbuilt : opaqueExchangeRequestFor sha256 admission context slots nowMs = .ok frame) :
      BuiltRequest sha256 admission frame
  | watch {cursor : UInt64} {maxWaitMs : UInt32} {frame : Proto.InnerFrame}
      (hbuilt : watchRequestFor admission cursor maxWaitMs = .ok frame) :
      BuiltRequest sha256 admission frame

/-! ## The validator accepts them -/

theorem fixedField_bytes {width : Nat} (value : FixedBytes width) :
    fixedField width value.bytes = .ok value :=
  okOr_eq_ok_iff.mpr (FixedBytes.ofBytes_eq_some_iff.mpr rfl)

theorem validateRuntimeLease_bytes (lease : RuntimeLease) :
    validateRuntimeLease lease.bytes = .ok () :=
  bind_eq_ok_iff.mpr ⟨(), rejectIf_eq_ok_iff.mpr lease.bytes_ne_nil,
    enforceLimit_eq_ok_iff.mpr lease.length_le⟩

theorem validateSlots_toWire {slots : OpaqueSlots} (hnonempty : slots.slots ≠ []) :
    validateSlots slots.toWire = .ok () := by
  have hwire : slots.toWire ≠ [] := fun hnil => hnonempty (List.map_eq_nil_iff.mp hnil)
  have hbuilt := (fromWire_isOk_iff hwire).mp ⟨slots, slots.fromWire_toWire⟩
  exact validateSlots_eq_ok_iff.mpr hbuilt.1

theorem ActionObservationKind.ofWire_discriminant (kind : ActionObservationKind) :
    ofWire kind.discriminant = some kind := by
  cases kind <;> rfl

theorem validateInner_currentFrame {sha256 : Sha256} {body : Proto.Body} :
    validateInner sha256 (currentFrame body) = validateBody sha256 body :=
  rfl

section Builders

variable {sha256 : Sha256} {admission : SessionAdmission}

theorem validateInner_actionFlowBegin {context : ActionFlowContext} {inputs : OpaqueSlots}
    {nowMs : UInt64} {frame : Proto.InnerFrame}
    (hbuilt : actionFlowBeginRequestFor sha256 admission context inputs nowMs = .ok frame) :
    validateInner sha256 frame = .ok () := by
  obtain ⟨⟨⟩, hchecks, hbuilt⟩ := bind_eq_ok_iff.mp hbuilt
  cases hbuilt
  have hchecks := rejectIf_eq_ok_iff.mp hchecks
  simp only [not_or] at hchecks
  obtain ⟨hinputs, hlogin, htransport, hexpires, -⟩ := hchecks
  have hwire : inputs.toWire ≠ [] := fun hnil => hinputs (List.map_eq_nil_iff.mp hnil)
  rw [validateInner_currentFrame]
  refine bind_eq_ok_iff.mpr ⟨(), validateRuntimeLease_bytes _, ?_⟩
  refine bind_eq_ok_iff.mpr ⟨_, fixedField_bytes context.flowId, ?_⟩
  refine bind_eq_ok_iff.mpr ⟨_, fixedField_bytes context.accountSlotId, ?_⟩
  refine bind_eq_ok_iff.mpr ⟨(), rejectIf_eq_ok_iff.mpr ?_, ?_⟩
  · simp only [not_or]
    exact ⟨hlogin, htransport, hexpires, hwire⟩
  refine bind_eq_ok_iff.mpr
    ⟨_, fixedField_bytes (actionFlowBindingDigest sha256 context inputs), ?_⟩
  refine bind_eq_ok_iff.mpr ⟨(), validateSlots_toWire hinputs, ?_⟩
  -- the validator rebuilds the slots and the context, and hashes the same preimage
  refine bind_eq_ok_iff.mpr ⟨inputs, ?_, ?_⟩
  · rw [inputs.fromWire_toWire]
    rfl
  · exact rejectIf_eq_ok_iff.mpr fun hne => hne rfl

theorem validateInner_actionObservation {observation : ActionObservation}
    {frame : Proto.InnerFrame}
    (hbuilt : actionObservationRequestFor sha256 admission observation = .ok frame) :
    validateInner sha256 frame = .ok () := by
  obtain ⟨⟨⟩, hchecks, hbuilt⟩ := bind_eq_ok_iff.mp hbuilt
  cases hbuilt
  have hchecks := rejectIf_eq_ok_iff.mp hchecks
  simp only [not_or] at hchecks
  obtain ⟨hobserved, hpayload, hlength⟩ := hchecks
  rw [validateInner_currentFrame]
  refine bind_eq_ok_iff.mpr ⟨(), validateRuntimeLease_bytes _, ?_⟩
  refine bind_eq_ok_iff.mpr ⟨_, fixedField_bytes observation.flowId, ?_⟩
  refine bind_eq_ok_iff.mpr ⟨_, fixedField_bytes observation.actionId, ?_⟩
  refine bind_eq_ok_iff.mpr ⟨_, fixedField_bytes observation.actionDigest, ?_⟩
  refine bind_eq_ok_iff.mpr
    ⟨_, fixedField_bytes (actionObservationBindingDigest sha256 observation), ?_⟩
  refine bind_eq_ok_iff.mpr
    ⟨observation.outcome, okOr_eq_ok_iff.mpr (ActionObservationKind.ofWire_discriminant _), ?_⟩
  refine bind_eq_ok_iff.mpr ⟨(), rejectIf_eq_ok_iff.mpr hobserved, ?_⟩
  refine bind_eq_ok_iff.mpr ⟨(), rejectIf_eq_ok_iff.mpr hpayload, ?_⟩
  refine bind_eq_ok_iff.mpr
    ⟨(), enforceLimit_eq_ok_iff.mpr (Nat.le_of_not_lt hlength), ?_⟩
  exact rejectIf_eq_ok_iff.mpr fun hne => hne rfl

theorem validateInner_profile (profileId : ProfileId) (cachedManifestDigest : Option Digest32)
    (requestedAccess : RequestedAccess) (runtime : RuntimeDescriptor) :
    validateInner sha256
      (profileRequestFor admission profileId cachedManifestDigest requestedAccess runtime) =
      .ok () := by
  rw [profileRequestFor, validateInner_currentFrame]
  refine bind_eq_ok_iff.mpr ⟨(), validateRuntimeLease_bytes _, ?_⟩
  refine bind_eq_ok_iff.mpr ⟨_, fixedField_bytes profileId, ?_⟩
  refine bind_eq_ok_iff.mpr ⟨(), rejectIf_eq_ok_iff.mpr ?_, ?_⟩
  · rintro ⟨hsome, hlength⟩
    cases cachedManifestDigest with
    | none => exact hsome rfl
    | some digest => exact hlength digest.length_eq
  refine bind_eq_ok_iff.mpr ⟨(), rejectIf_eq_ok_iff.mpr ?_, ?_⟩
  · cases requestedAccess <;> simp [RequestedAccess.discriminant]
  exact bind_eq_ok_iff.mpr ⟨runtime.wire, rfl, runtime.valid⟩

theorem validateInner_opaqueExchange {context : OpaqueExchangeContext} {slots : OpaqueSlots}
    {nowMs : UInt64} {frame : Proto.InnerFrame}
    (hbuilt : opaqueExchangeRequestFor sha256 admission context slots nowMs = .ok frame) :
    validateInner sha256 frame = .ok () := by
  obtain ⟨⟨⟩, hchecks, hbuilt⟩ := bind_eq_ok_iff.mp hbuilt
  cases hbuilt
  have hchecks := rejectIf_eq_ok_iff.mp hchecks
  simp only [not_or] at hchecks
  obtain ⟨hslots, hgeneration, hexpires, -, -⟩ := hchecks
  rw [validateInner_currentFrame]
  refine bind_eq_ok_iff.mpr ⟨(), validateRuntimeLease_bytes _, ?_⟩
  refine bind_eq_ok_iff.mpr ⟨_, fixedField_bytes context.exchangeId, ?_⟩
  refine bind_eq_ok_iff.mpr ⟨_, fixedField_bytes context.accountSlotId, ?_⟩
  refine bind_eq_ok_iff.mpr
    ⟨(), rejectIf_eq_ok_iff.mpr (not_or.mpr ⟨hgeneration, hexpires⟩), ?_⟩
  refine bind_eq_ok_iff.mpr ⟨_, fixedField_bytes context.bindingDigest, ?_⟩
  exact validateSlots_toWire hslots

theorem validateInner_watch {cursor : UInt64} {maxWaitMs : UInt32} {frame : Proto.InnerFrame}
    (hbuilt : watchRequestFor admission cursor maxWaitMs = .ok frame) :
    validateInner sha256 frame = .ok () := by
  obtain ⟨⟨⟩, hchecks, hbuilt⟩ := bind_eq_ok_iff.mp hbuilt
  cases hbuilt
  have hwait := rejectIf_eq_ok_iff.mp hchecks
  rw [validateInner_currentFrame]
  exact bind_eq_ok_iff.mpr ⟨(), validateRuntimeLease_bytes _, rejectIf_eq_ok_iff.mpr hwait⟩

/-- The builders and the validator agree. -/
theorem BuiltRequest.validateInner_eq_ok {frame : Proto.InnerFrame}
    (hbuilt : BuiltRequest sha256 admission frame) : validateInner sha256 frame = .ok () := by
  cases hbuilt with
  | actionFlowBegin hbuilt => exact validateInner_actionFlowBegin hbuilt
  | actionObservation hbuilt => exact validateInner_actionObservation hbuilt
  | profile profileId cachedManifestDigest requestedAccess runtime =>
      exact validateInner_profile profileId cachedManifestDigest requestedAccess runtime
  | opaqueExchange hbuilt => exact validateInner_opaqueExchange hbuilt
  | watch hbuilt => exact validateInner_watch hbuilt

end Builders

end Ceylith
end Lirvena
