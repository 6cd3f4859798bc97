import Mathlib.Data.List.Infix

/-!
# The messages of the public schema

The types that are generated from the schema, as far as an inner frame carries
them.  An open enumeration is the signed number that stands on the wire.
-/

namespace Lirvena
namespace Ceylith
namespace Proto

/-- What the client says about itself: its contracts, platform and build. -/
structure ClientRuntime where
  runtimeAbi : UInt32
  envelopeContract : UInt32
  actionContracts : List UInt32
  sourceContracts : List UInt32
  platform : UInt32
  architecture : UInt32
  buildDigest : List UInt8
  deriving DecidableEq

/-- The client asks for a profile, with the manifest it has kept, if any. -/
structure ProfileRequest where
  runtimeLease : List UInt8
  profileId : List UInt8
  cachedManifestDigest : List UInt8
  requestedAccess : UInt32
  runtime : Option ClientRuntime
  deriving DecidableEq

/-- The answer to a profile request: a signed manifest or why there is none. -/
structure ProfileDecision where
  status : Int
  profileId : List UInt8
  requiredRuntimeAbi : UInt32
  manifest : List UInt8
  manifestDigest : List UInt8
  manifestSignature : List UInt8
  expiresAtMs : UInt64
  policyEpoch : UInt64
  deriving DecidableEq

/-- A numbered value that only the two ends of an exchange interpret. -/
structure OpaqueSlot where
  slot : UInt32
  value : List UInt8
  deriving DecidableEq

/-- One exchange of opaque values for an account, bound to a generation and a deadline. -/
structure OpaqueExchangeRequest where
  runtimeLease : List UInt8
  exchangeId : List UInt8
  accountSlotId : List UInt8
  generation : UInt64
  slots : List OpaqueSlot
  expiresAtMs : UInt64
  bindingDigest : List UInt8
  deriving DecidableEq

/-- The answer to an exchange, under the exchange's own id and generation. -/
structure OpaqueExchangeResponse where
  exchangeId : List UInt8
  generation : UInt64
  slots : List OpaqueSlot
  expiresAtMs : UInt64
  bindingDigest : List UInt8
  deriving DecidableEq

/-- A flow of actions is begun for the three epochs of an account. -/
structure ActionFlowBegin where
  runtimeLease : List UInt8
  flowId : List UInt8
  accountSlotId : List UInt8
  loginEpoch : UInt64
  onlineEpoch : UInt64
  transportEpoch : UInt64
  inputs : List OpaqueSlot
  expiresAtMs : UInt64
  bindingDigest : List UInt8
  deriving DecidableEq

/-- The client reports what came of an action. -/
structure ActionObservation where
  runtimeLease : List UInt8
  flowId : List UInt8
  actionId : List UInt8
  actionDigest : List UInt8
  outcome : Int
  payload : List UInt8
  observedAtMs : UInt64
  bindingDigest : List UInt8
  deriving DecidableEq

/-- A numbered value that is put into the packet of an action. -/
structure ActionMark where
  slot : UInt32
  value : List UInt8
  deriving DecidableEq

/-- An action that the client is told to take, in shards it does not interpret. -/
structure ActionDirective where
  actionId : List UInt8
  routeShard : List UInt8
  bodyShard : List UInt8
  envelopeContract : UInt32
  marks : List ActionMark
  expectedBodyDigest : List UInt8
  transportEpoch : UInt64
  responsePolicy : UInt32
  timeoutMs : UInt32
  actionDigest : List UInt8
  delayMs : UInt32
  deriving DecidableEq

/-- The server's next word in a flow: its status, and an action while it goes on. -/
structure ActionFlowUpdate where
  flowId : List UInt8
  status : Int
  action : Option ActionDirective
  expiresAtMs : UInt64
  deriving DecidableEq

/-- The report of one day; what it counts stands in classes, not in numbers. -/
structure CommunityTelemetryReport where
  runtimeLease : List UInt8
  reportId : List UInt8
  utcDay : UInt32
  groupCount : Int
  messagesReceived : Int
  messagesSent : Int
  activeDuration : Int
  profileId : List UInt8
  profileManifestDigest : List UInt8
  buildDigest : List UInt8
  platform : UInt32
  architecture : UInt32
  accountChurn : Int
  generatedAtMs : UInt64
  installationSignature : List UInt8
  deriving DecidableEq

/-- The answer to a report. -/
structure TelemetryReceipt where
  reportId : List UInt8
  accepted : Bool
  code : UInt32
  deriving DecidableEq

/-- The client waits for events behind a cursor, at most so long. -/
structure WatchRequest where
  runtimeLease : List UInt8
  cursor : UInt64
  maxWaitMs : UInt32
  deriving DecidableEq

/-- The grant of the installation as an event found it. -/
structure WatchGrantSnapshot where
  grantClass : Int
  maxFullAccounts : UInt32
  maxActiveInstallations : UInt32
  expiresAtMs : UInt64
  renewalState : Int
  policyEpoch : UInt64
  deriving DecidableEq

/-- One event of the watch; without an account it is about the installation. -/
structure WatchEvent where
  cursor : UInt64
  kind : Int
  occurredAtMs : UInt64
  accountSlotId : List UInt8
  reasonCode : UInt32
  payload : List UInt8
  grant : Option WatchGrantSnapshot
  deriving DecidableEq

/-- The answer to a request that has no answer of its own. -/
structure GenericResult where
  accepted : Bool
  code : UInt32
  payload : List UInt8
  deriving DecidableEq

/-- A refusal, with what the client may do about it. -/
structure ErrorFrame where
  code : UInt32
  retryable : Bool
  retryAfterMs : UInt64
  incidentId : List UInt8
  requiredRuntimeAbi : UInt32
  deriving DecidableEq

/-- The bodies that an inner frame may hold. -/
inductive Body where
  | profileRequest (value : ProfileRequest)
  | profileDecision (value : ProfileDecision)
  | opaqueExchangeRequest (value : OpaqueExchangeRequest)
  | opaqueExchangeResponse (value : OpaqueExchangeResponse)
  | watchRequest (value : WatchRequest)
  | watchEvent (value : WatchEvent)
  | genericResult (value : GenericResult)
  | actionFlowBegin (value : ActionFlowBegin)
  | actionObservation (value : ActionObservation)
  | actionFlowUpdate (value : ActionFlowUpdate)
  | communityTelemetryReport (value : CommunityTelemetryReport)
  | telemetryReceipt (value : TelemetryReceipt)
  | error (value : ErrorFrame)
  deriving DecidableEq

/-- The number of the field that holds a body. -/
def Body.tag : Body → Nat
  | .profileRequest _ => 10
  | .profileDecision _ => 11
  | .opaqueExchangeRequest _ => 12
  | .opaqueExchangeResponse _ => 13
  | .watchRequest _ => 14
  | .watchEvent _ => 15
  | .genericResult _ => 16
  | .actionFlowBegin _ => 17
  | .actionObservation _ => 18
  | .actionFlowUpdate _ => 19
  | .communityTelemetryReport _ => 20
  | .telemetryReceipt _ => 21
  | .error _ => 63

/-- What a sealed record carries: the number of its contract and one body. -/
structure InnerFrame where
  contract : UInt32
  body : Option Body
  deriving DecidableEq

/-- `Default`, the frame that a decoder starts from. -/
def InnerFrame.default : InnerFrame :=
  ⟨0, none⟩

end Proto
end Ceylith
end Lirvena
