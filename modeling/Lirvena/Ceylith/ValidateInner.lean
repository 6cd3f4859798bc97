import Lirvena.Ceylith.Opaque
import Lirvena.Ceylith.WireScan

/-!
# Validation of inner frames

Every body is checked field by field before it is encoded and after it is
decoded.  The checks look at the decoded values only; which bytes they came from
is the concern of the scanner.
-/

namespace Lirvena
namespace Ceylith

open Lib

/-- The longest runtime lease. -/
def maxRuntimeLeaseLen : Nat := 512

/-- The longest manifest of a profile. -/
def maxManifestLen : Nat := 32 * 1024

/-- The longest payload of a watch event or a generic result. -/
def maxWatchPayloadLen : Nat := 16 * 1024

/-- The most contracts that a client names. -/
def maxContracts : Nat := 128

/-- The longest time that a watch request waits. -/
def maxWatchWaitMs : Nat := 30000

/-- The longest payload of an observation. -/
def maxActionPayloadLen : Nat := 48 * 1024

/-- The longest body shard of an action. -/
def maxActionBodyLen : Nat := 48 * 1024

/-- The longest route shard of an action. -/
def maxActionRouteLen : Nat := 512

/-- The most marks of an action. -/
def maxActionMarks : Nat := 16

/-- The longest value of a mark. -/
def maxActionMarkLen : Nat := 4 * 1024

/-- The most bytes of all marks of an action. -/
def maxActionMarkAggregateLen : Nat := 8 * 1024

/-- The longest time that an action may take. -/
def maxActionTimeoutMs : Nat := 30000

/-- The longest time that an action may be put off. -/
def maxActionDelayMs : Nat := 300000

/-! ## Shared checks -/

/-- A length within its limit. -/
def validateBoundedLen (actual limit : Nat) : Except CodecError Unit :=
  enforceLimit .field actual limit

/-- A byte string within its limit. -/
def validateBounded (value : List UInt8) (limit : Nat) : Except CodecError Unit :=
  validateBoundedLen value.length limit

/-- `TryFrom<&[u8]>` of an identifier, with every failure as an invalid field. -/
def fixedField (width : Nat) (value : List UInt8) : Except CodecError (FixedBytes width) :=
  okOr .invalidField (FixedBytes.ofBytes width value)

/-- A lease is there and within its limit. -/
def validateRuntimeLease (value : List UInt8) : Except CodecError Unit := do
  rejectIf .invalidField (value = [])
  validateBounded value maxRuntimeLeaseLen

/-- The loop over the slots of an exchange or the marks of an action: the key of
each entry is new, its value within the bound, and the total is counted. -/
def validateEntries {Entry Key : Type} [DecidableEq Key]
    (key : Entry → Except CodecError Key) (value : Entry → List UInt8) (limit : Nat) :
    List Key → Nat → List Entry → Except CodecError Nat
  | _, aggregate, [] => .ok aggregate
  | unique, aggregate, entry :: rest => do
      let inserted ← key entry
      rejectIf .invalidField (inserted ∈ unique)
      validateBounded (value entry) limit
      let total ← okOr .lengthOverflow (checkedAddU64 aggregate (value entry).length)
      validateEntries key value limit (inserted :: unique) total rest

/-- A slot has a nonzero number. -/
def slotKey (slot : Proto.OpaqueSlot) : Except CodecError UInt32 := do
  rejectIf .invalidField (slot.slot = 0)
  return slot.slot

/-- At least one slot, each number once, within the limits of each and of all together. -/
def validateSlots (slots : List Proto.OpaqueSlot) : Except CodecError Unit := do
  rejectIf .invalidField (slots = [] ∨ maxOpaqueSlots < slots.length)
  let aggregate ← validateEntries slotKey (·.value) maxOpaqueSlotLen [] 0 slots
  validateBoundedLen aggregate maxOpaqueAggregateLen

/-! ## Profiles -/

/-- At least one contract, none of them zero and none twice. -/
def validateContracts (contracts : List UInt32) : Except CodecError Unit :=
  rejectIf .invalidField (contracts = [] ∨ maxContracts < contracts.length ∨
    0 ∈ contracts ∨ ¬ contracts.Nodup)

/-- What a client says about itself is complete. -/
def validateClientRuntime (runtime : Proto.ClientRuntime) : Except CodecError Unit := do
  rejectIf .invalidField (runtime.runtimeAbi = 0 ∨ runtime.envelopeContract = 0 ∨
    runtime.platform = 0 ∨ runtime.architecture = 0)
  let _ ← fixedField 32 runtime.buildDigest
  validateContracts runtime.actionContracts
  validateContracts runtime.sourceContracts

/-- A profile request names its lease, its profile and the access it asks for. -/
def validateProfileRequest (value : Proto.ProfileRequest) : Except CodecError Unit := do
  validateRuntimeLease value.runtimeLease
  let _ ← fixedField 16 value.profileId
  rejectIf .invalidField
    (value.cachedManifestDigest ≠ [] ∧ value.cachedManifestDigest.length ≠ 32)
  rejectIf .invalidField (value.requestedAccess ≠ 1 ∧ value.requestedAccess ≠ 2)
  let runtime ← okOr .invalidField value.runtime
  validateClientRuntime runtime

/-- Structural profile-decision failure. -/
inductive ProfileError where
  | invalidStatus
  | invalidProfileId
  | incompleteReady
  | unexpectedManifest
  deriving DecidableEq

/-- Structurally validated ready profile material. -/
structure ReadyProfile where
  profileId : ProfileId
  manifest : List UInt8
  manifestDigest : Digest32
  manifestSignature : FixedBytes 64
  expiresAtMs : UInt64
  policyEpoch : UInt64

/-- Structurally validated profile negotiation outcome. -/
inductive ProfileOutcome where
  | ready (profile : ReadyProfile)
  | clientUpgradeRequired (profileId : ProfileId) (requiredRuntimeAbi : UInt32)
      (policyEpoch : UInt64)
  | unavailable (profileId : ProfileId) (policyEpoch : UInt64)

/-- A decision that is ready carries a manifest, its digest and its signature. -/
def decodeReady (decision : Proto.ProfileDecision) (profileId : ProfileId) :
    Except ProfileError ReadyProfile := do
  rejectIf .incompleteReady (decision.manifest = [] ∨
    maxManifestLen < decision.manifest.length ∨ decision.expiresAtMs = 0)
  let manifestDigest ←
    okOr .incompleteReady (FixedBytes.ofBytes 32 decision.manifestDigest)
  let manifestSignature ←
    okOr .incompleteReady (FixedBytes.ofBytes 64 decision.manifestSignature)
  return {
    profileId := profileId
    manifest := decision.manifest
    manifestDigest := manifestDigest
    manifestSignature := manifestSignature
    expiresAtMs := decision.expiresAtMs
    policyEpoch := decision.policyEpoch }

/-- A decision that is not ready carries no part of a manifest. -/
def requireEmptyManifest (decision : Proto.ProfileDecision) : Except ProfileError Unit :=
  rejectIf .unexpectedManifest (¬ (decision.manifest = [] ∧ decision.manifestDigest = [] ∧
    decision.manifestSignature = [] ∧ decision.expiresAtMs = 0))

/-- A decision that asks for an upgrade says which interface it needs. -/
def decodeUpgradeRequired (decision : Proto.ProfileDecision) (profileId : ProfileId) :
    Except ProfileError ProfileOutcome := do
  requireEmptyManifest decision
  rejectIf .invalidStatus (decision.requiredRuntimeAbi = 0)
  return .clientUpgradeRequired profileId decision.requiredRuntimeAbi decision.policyEpoch

/-- A decision that the profile is not to be had. -/
def decodeUnavailable (decision : Proto.ProfileDecision) (profileId : ProfileId) :
    Except ProfileError ProfileOutcome := do
  requireEmptyManifest decision
  return .unavailable profileId decision.policyEpoch

/-- The status selects what else a decision has to carry. -/
def decodeStatus (decision : Proto.ProfileDecision) (profileId : ProfileId) :
    Except ProfileError ProfileOutcome :=
  match decision.status with
  | 1 => ProfileOutcome.ready <$> decodeReady decision profileId
  | 2 => decodeUpgradeRequired decision profileId
  | 3 => decodeUnavailable decision profileId
  | _ => .error .invalidStatus

/-- Decodes a protobuf decision into a closed structural outcome. -/
def decodeProfileOutcome (decision : Proto.ProfileDecision) :
    Except ProfileError ProfileOutcome := do
  let profileId ← okOr .invalidProfileId (FixedBytes.ofBytes 16 decision.profileId)
  decodeStatus decision profileId

/-- Any failure of another kind is an invalid field. -/
def invalidFieldOf {ε α : Type} : Except ε α → Except CodecError α
  | .error _ => .error .invalidField
  | .ok value => .ok value

/-- A decision is valid if it decodes. -/
def validateProfileDecision (value : Proto.ProfileDecision) : Except CodecError Unit := do
  let _ ← invalidFieldOf (decodeProfileOutcome value)
  return ()

/-! ## Opaque exchanges -/

/-- An exchange names its account, its generation and its deadline. -/
def validateOpaqueRequest (value : Proto.OpaqueExchangeRequest) : Except CodecError Unit := do
  validateRuntimeLease value.runtimeLease
  let _ ← fixedField 16 value.exchangeId
  let _ ← fixedField 16 value.accountSlotId
  rejectIf .invalidField (value.generation = 0 ∨ value.expiresAtMs = 0)
  let _ ← fixedField 32 value.bindingDigest
  validateSlots value.slots

/-- The answer to an exchange is bounded like the request. -/
def validateOpaqueResponse (value : Proto.OpaqueExchangeResponse) : Except CodecError Unit := do
  let _ ← fixedField 16 value.exchangeId
  rejectIf .invalidField (value.generation = 0 ∨ value.expiresAtMs = 0)
  let _ ← fixedField 32 value.bindingDigest
  validateSlots value.slots

/-! ## Actions -/

/-- A flow names its epochs, and its digest binds all of it. -/
def validateActionFlowBegin (sha256 : Sha256) (value : Proto.ActionFlowBegin) :
    Except CodecError Unit := do
  validateRuntimeLease value.runtimeLease
  let flowId ← fixedField 16 value.flowId
  let accountSlotId ← fixedField 16 value.accountSlotId
  rejectIf .invalidField (value.loginEpoch = 0 ∨ value.transportEpoch = 0 ∨
    value.expiresAtMs = 0 ∨ value.inputs = [])
  let binding ← fixedField 32 value.bindingDigest
  validateSlots value.inputs
  let inputs ← invalidFieldOf (OpaqueSlots.fromWire value.inputs)
  let context : ActionFlowContext := {
    flowId := flowId
    accountSlotId := accountSlotId
    loginEpoch := value.loginEpoch
    onlineEpoch := value.onlineEpoch
    transportEpoch := value.transportEpoch
    expiresAtMs := value.expiresAtMs }
  rejectIf .invalidField (binding ≠ actionFlowBindingDigest sha256 context inputs)

/-- The outcomes of an action, as numbers on the wire. -/
def ActionObservationKind.ofWire : Int → Option ActionObservationKind
  | 1 => some .response
  | 2 => some .transportFailure
  | 3 => some .timeout
  | 4 => some .cancelled
  | 5 => some .staleTransport
  | 6 => some .localEncodeFailure
  | _ => none

/-- An observation carries a payload exactly if it is a response, and its digest binds it to
its action. -/
def validateActionObservation (sha256 : Sha256) (value : Proto.ActionObservation) :
    Except CodecError Unit := do
  validateRuntimeLease value.runtimeLease
  let flowId ← fixedField 16 value.flowId
  let actionId ← fixedField 16 value.actionId
  let actionDigest ← fixedField 32 value.actionDigest
  let binding ← fixedField 32 value.bindingDigest
  let outcome ← okOr .invalidField (ActionObservationKind.ofWire value.outcome)
  rejectIf .invalidField (value.observedAtMs = 0)
  rejectIf .invalidField (outcome = .response ↔ value.payload = [])
  validateBounded value.payload maxActionPayloadLen
  let observation : ActionObservation := {
    flowId := flowId
    actionId := actionId
    actionDigest := actionDigest
    outcome := outcome
    payload := value.payload
    observedAtMs := value.observedAtMs }
  rejectIf .invalidField (binding ≠ actionObservationBindingDigest sha256 observation)

/-- `u16::try_from` of the slot of a mark that is not zero and has a value. -/
def markKey (mark : Proto.ActionMark) : Except CodecError UInt32 := do
  rejectIf .invalidField (2 ^ 16 ≤ mark.slot.toNat)
  rejectIf .invalidField (mark.slot = 0 ∨ mark.value = [])
  return mark.slot

/-- Few marks, each number once, within the limits of each and of all together. -/
def validateActionMarks (marks : List Proto.ActionMark) : Except CodecError Unit := do
  rejectIf .invalidField (maxActionMarks < marks.length)
  let aggregate ← validateEntries markKey (·.value) maxActionMarkLen [] 0 marks
  validateBoundedLen aggregate maxActionMarkAggregateLen

/-- An action has a route, a body and a deadline, each within its limit. -/
def validateAction (value : Proto.ActionDirective) : Except CodecError Unit := do
  let _ ← fixedField 16 value.actionId
  let _ ← fixedField 32 value.expectedBodyDigest
  let _ ← fixedField 32 value.actionDigest
  rejectIf .invalidField (value.routeShard = [] ∨ value.bodyShard = [] ∨
    value.envelopeContract = 0 ∨ value.transportEpoch = 0 ∨
    (value.responsePolicy ≠ 1 ∧ value.responsePolicy ≠ 2) ∨ value.timeoutMs = 0 ∨
    maxActionTimeoutMs < value.timeoutMs.toNat ∨ maxActionDelayMs < value.delayMs.toNat)
  validateBounded value.routeShard maxActionRouteLen
  validateBounded value.bodyShard maxActionBodyLen
  validateActionMarks value.marks

/-- A flow that goes on names an action, one that has ended names none. -/
def validateFlowStatus (status : Int) (action : Option Proto.ActionDirective) :
    Except CodecError Unit :=
  match status with
  | 1 => okOr .invalidField action >>= validateAction
  | 2 => rejectIf .invalidField (action.isSome = true)
  | _ => .error .invalidField

/-- An update names its flow and its deadline. -/
def validateActionFlowUpdate (value : Proto.ActionFlowUpdate) : Except CodecError Unit := do
  let _ ← fixedField 16 value.flowId
  -- an unknown status is an invalid field as well
  rejectIf .invalidField (value.expiresAtMs = 0)
  validateFlowStatus value.status value.action

/-! ## Telemetry -/

/-- A closed enumeration whose largest discriminant is given. -/
def closedBucket (largest value : Int) : Except CodecError Unit :=
  rejectIf .invalidField (value = 0 ∨ ¬ (0 ≤ value ∧ value ≤ largest))

/-- The fields of a report, before it is signed or with the signature. -/
def validateReportFields (report : Proto.CommunityTelemetryReport)
    (requireSignature : Bool) : Except CodecError Unit := do
  rejectIf .invalidField (report.runtimeLease = [] ∨ report.utcDay = 0 ∨
    report.generatedAtMs = 0 ∨ report.profileId.length ≠ 16 ∨
    report.profileManifestDigest.length ≠ 32 ∨ report.buildDigest.length ≠ 32 ∨
    report.platform = 0 ∨ report.architecture = 0 ∨
    (requireSignature = true ∧ report.installationSignature.length ≠ 64) ∨
    (requireSignature = false ∧ report.installationSignature ≠ [] ∧
      report.installationSignature.length ≠ 64))
  let _ ← fixedField 16 report.reportId
  closedBucket 8 report.groupCount
  closedBucket 7 report.messagesReceived
  closedBucket 7 report.messagesSent
  closedBucket 6 report.activeDuration
  closedBucket 5 report.accountChurn

/-- A report that is sent is signed. -/
def validateReport (report : Proto.CommunityTelemetryReport) : Except CodecError Unit :=
  validateReportFields report true

/-- A receipt accepts its report and gives a code. -/
def validateReceipt (receipt : Proto.TelemetryReceipt) : Except CodecError Unit := do
  let _ ← fixedField 16 receipt.reportId
  rejectIf .invalidField (receipt.accepted = false ∨ receipt.code = 0)

/-! ## Watches -/

/-- A watch request waits for some time. -/
def validateWatchRequest (value : Proto.WatchRequest) : Except CodecError Unit := do
  validateRuntimeLease value.runtimeLease
  rejectIf .invalidField (value.maxWaitMs = 0 ∨ maxWatchWaitMs < value.maxWaitMs.toNat)

/-- What a watch event is about. -/
inductive WatchEventKind where
  | grantExpiring
  | renewalPaused
  | grantRevoked
  | quotaChanged
  | policyChanged
  | profileChanged
  | maintenance
  | grantRestored
  deriving DecidableEq

/-- The kinds of watch events, as numbers on the wire. -/
def WatchEventKind.ofWire : Int → Option WatchEventKind
  | 1 => some .grantExpiring
  | 2 => some .renewalPaused
  | 3 => some .grantRevoked
  | 4 => some .quotaChanged
  | 5 => some .policyChanged
  | 6 => some .profileChanged
  | 7 => some .maintenance
  | 8 => some .grantRestored
  | _ => none

/-- The class of a grant. -/
inductive GrantClass where
  | «public»
  | community
  | full
  deriving DecidableEq

/-- The classes of grants, as numbers on the wire. -/
def GrantClass.ofWire : Int → Option GrantClass
  | 1 => some .«public»
  | 2 => some .community
  | 3 => some .full
  | _ => none

/-- `RenewalState`, with the discriminant that stands for no state. -/
inductive RenewalState where
  | unspecified
  | current
  | paused
  | revoked
  deriving DecidableEq

/-- The states of a renewal, as numbers on the wire. -/
def RenewalState.ofWire : Int → Option RenewalState
  | 0 => some .unspecified
  | 1 => some .current
  | 2 => some .paused
  | 3 => some .revoked
  | _ => none

/-- A public grant has no full accounts, a community grant has some. -/
def validateGrantBounds (value : Proto.WatchGrantSnapshot) (grant : GrantClass) :
    Except CodecError Unit :=
  match grant with
  | .«public» => rejectIf .invalidField (value.maxFullAccounts ≠ 0)
  | .community =>
      rejectIf .invalidField (value.maxFullAccounts = 0 ∨ value.maxActiveInstallations = 0)
  | .full => .ok ()

/-- The grant of an event is complete. -/
def validateWatchGrant (value : Proto.WatchGrantSnapshot) : Except CodecError Unit := do
  let grant ← okOr .invalidField (GrantClass.ofWire value.grantClass)
  let renewal ← okOr .invalidField (RenewalState.ofWire value.renewalState)
  rejectIf .invalidField
    (renewal = .unspecified ∨ value.expiresAtMs = 0 ∨ value.policyEpoch = 0)
  validateGrantBounds value grant

/-- The kind of an event says what state its grant is in. -/
def validateKindRenewal (kind : WatchEventKind) (renewal : RenewalState) :
    Except CodecError Unit :=
  match kind with
  | .renewalPaused => rejectIf .invalidField (renewal ≠ .paused)
  | .grantRevoked => rejectIf .invalidField (renewal ≠ .revoked)
  | .grantRestored => rejectIf .invalidField (renewal ≠ .current)
  | .grantExpiring | .quotaChanged | .policyChanged =>
      rejectIf .invalidField (renewal = .revoked)
  | .profileChanged | .maintenance => .ok ()

/-- The same, on the grant as it stands on the wire. -/
def validateWatchKindGrant (kind : WatchEventKind) (grant : Proto.WatchGrantSnapshot) :
    Except CodecError Unit := do
  let renewal ← okOr .invalidField (RenewalState.ofWire grant.renewalState)
  validateKindRenewal kind renewal

/-- Events about grants carry one, the others do not. -/
def validateEventGrant (kind : WatchEventKind) (snapshot : Option Proto.WatchGrantSnapshot) :
    Except CodecError Unit :=
  match kind with
  | .profileChanged | .maintenance => rejectIf .invalidField (snapshot.isSome = true)
  | .grantExpiring | .renewalPaused | .grantRevoked | .quotaChanged | .policyChanged
  | .grantRestored => do
      let grant ← okOr .invalidField snapshot
      validateWatchGrant grant
      validateWatchKindGrant kind grant

/-- An event has a position, a time and a reason. -/
def validateWatchEvent (value : Proto.WatchEvent) : Except CodecError Unit := do
  let kind ← okOr .invalidField (WatchEventKind.ofWire value.kind)
  rejectIf .invalidField (value.cursor = 0 ∨ value.occurredAtMs = 0 ∨ value.reasonCode = 0)
  rejectIf .invalidField (value.accountSlotId ≠ [] ∧ value.accountSlotId.length ≠ 16)
  validateBounded value.payload maxWatchPayloadLen
  validateEventGrant kind value.grant

/-! ## Frames -/

/-- A refusal has a code. -/
def validateError (value : Proto.ErrorFrame) : Except CodecError Unit := do
  rejectIf .invalidField (value.code = 0)
  rejectIf .invalidField (value.incidentId ≠ [] ∧ value.incidentId.length ≠ 16)

/-- Each body by the check of its own kind. -/
def validateBody (sha256 : Sha256) : Proto.Body → Except CodecError Unit
  | .profileRequest value => validateProfileRequest value
  | .profileDecision value => validateProfileDecision value
  | .opaqueExchangeRequest value => validateOpaqueRequest value
  | .opaqueExchangeResponse value => validateOpaqueResponse value
  | .watchRequest value => validateWatchRequest value
  | .watchEvent value => validateWatchEvent value
  | .genericResult value => validateBounded value.payload maxWatchPayloadLen
  | .actionFlowBegin value => validateActionFlowBegin sha256 value
  | .actionObservation value => validateActionObservation sha256 value
  | .actionFlowUpdate value => validateActionFlowUpdate value
  | .communityTelemetryReport value => validateReport value
  | .telemetryReceipt value => validateReceipt value
  | .error value => validateError value

/-- The checks that a frame passes before it is sealed and after it is opened. -/
def validateInner (sha256 : Sha256) (frame : Proto.InnerFrame) : Except CodecError Unit := do
  rejectIf .invalidContract (frame.contract.toNat ≠ currentInnerContract)
  let body ← okOr .unsupportedBody frame.body
  validateBody sha256 body

/-- A valid frame has the current contract and a body. -/
theorem validateInner_eq_ok {sha256 : Sha256} {frame : Proto.InnerFrame}
    (hvalid : validateInner sha256 frame = .ok ()) :
    ∃ body, frame = ⟨UInt32.ofNat currentInnerContract, some body⟩ := by
  obtain ⟨⟨⟩, hcontract, hvalid⟩ := bind_eq_ok_iff.mp hvalid
  obtain ⟨body, hbody, -⟩ := bind_eq_ok_iff.mp hvalid
  have hcontract := not_not.mp (rejectIf_eq_ok_iff.mp hcontract)
  refine ⟨body, ?_⟩
  obtain ⟨contract, held⟩ := frame
  obtain rfl : held = some body := okOr_eq_ok_iff.mp hbody
  have hword : contract = UInt32.ofNat currentInnerContract := by
    rw [← hcontract, UInt32.ofNat_toNat]
  rw [hword]

end Ceylith
end Lirvena
