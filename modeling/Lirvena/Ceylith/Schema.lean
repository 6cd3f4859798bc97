import Lirvena.Ceylith.Inner
import Lirvena.Lib.Proto3

/-!
# The encoding of inner frames

The fields of every message under the numbers of the public schema, in their order.
`Prost.FollowsSchema` states what is documented of the protobuf library as an
encoder: it writes these fields in their shortest form into a buffer that grows.
-/

namespace Lirvena
namespace Ceylith

open Lib Lib.Protobuf

namespace Proto

/-- The fields of a client's runtime; its contracts are packed. -/
def ClientRuntime.fields (runtime : ClientRuntime) : List Field :=
  varintField 1 runtime.runtimeAbi.toNat ++ (varintField 2 runtime.envelopeContract.toNat ++
    (packedField 3 (runtime.actionContracts.map UInt32.toNat) ++
      (packedField 4 (runtime.sourceContracts.map UInt32.toNat) ++
        (varintField 5 runtime.platform.toNat ++ (varintField 6 runtime.architecture.toNat ++
          bytesField 7 runtime.buildDigest)))))

/-- The fields of a profile request. -/
def ProfileRequest.fields (request : ProfileRequest) : List Field :=
  bytesField 1 request.runtimeLease ++ (bytesField 2 request.profileId ++
    (bytesField 3 request.cachedManifestDigest ++
      (varintField 4 request.requestedAccess.toNat ++
        request.runtime.toList.map fun runtime => messageField 5 runtime.fields)))

/-- The fields of a profile decision. -/
def ProfileDecision.fields (decision : ProfileDecision) : List Field :=
  enumField 1 decision.status ++ (bytesField 2 decision.profileId ++
    (varintField 3 decision.requiredRuntimeAbi.toNat ++ (bytesField 4 decision.manifest ++
      (bytesField 5 decision.manifestDigest ++ (bytesField 6 decision.manifestSignature ++
        (varintField 7 decision.expiresAtMs.toNat ++
          varintField 8 decision.policyEpoch.toNat))))))

/-- The fields of a slot. -/
def OpaqueSlot.fields (slot : OpaqueSlot) : List Field :=
  varintField 1 slot.slot.toNat ++ bytesField 2 slot.value

/-- The slots of an exchange or an action flow, one message each. -/
def slotFields (number : Nat) (slots : List OpaqueSlot) : List Field :=
  slots.map fun slot => messageField number slot.fields

/-- The fields of an exchange; each slot is a message of its own. -/
def OpaqueExchangeRequest.fields (request : OpaqueExchangeRequest) : List Field :=
  bytesField 1 request.runtimeLease ++ (bytesField 2 request.exchangeId ++
    (bytesField 3 request.accountSlotId ++ (varintField 4 request.generation.toNat ++
      (slotFields 5 request.slots ++ (varintField 6 request.expiresAtMs.toNat ++
        bytesField 7 request.bindingDigest)))))

/-- The fields of the answer to an exchange. -/
def OpaqueExchangeResponse.fields (response : OpaqueExchangeResponse) : List Field :=
  bytesField 1 response.exchangeId ++ (varintField 2 response.generation.toNat ++
    (slotFields 3 response.slots ++ (varintField 4 response.expiresAtMs.toNat ++
      bytesField 5 response.bindingDigest)))

/-- The fields that begin a flow. -/
def ActionFlowBegin.fields (request : ActionFlowBegin) : List Field :=
  bytesField 1 request.runtimeLease ++ (bytesField 2 request.flowId ++
    (bytesField 3 request.accountSlotId ++ (varintField 4 request.loginEpoch.toNat ++
      (varintField 5 request.onlineEpoch.toNat ++ (varintField 6 request.transportEpoch.toNat ++
        (slotFields 7 request.inputs ++ (varintField 8 request.expiresAtMs.toNat ++
          bytesField 9 request.bindingDigest)))))))

/-- The fields of an observation. -/
def ActionObservation.fields (observation : ActionObservation) : List Field :=
  bytesField 1 observation.runtimeLease ++ (bytesField 2 observation.flowId ++
    (bytesField 3 observation.actionId ++ (bytesField 4 observation.actionDigest ++
      (enumField 5 observation.outcome ++ (bytesField 6 observation.payload ++
        (varintField 7 observation.observedAtMs.toNat ++
          bytesField 8 observation.bindingDigest))))))

/-- The fields of a mark. -/
def ActionMark.fields (mark : ActionMark) : List Field :=
  varintField 1 mark.slot.toNat ++ bytesField 2 mark.value

/-- The fields of an action; its marks stand in the middle. -/
def ActionDirective.fields (action : ActionDirective) : List Field :=
  bytesField 1 action.actionId ++ (bytesField 2 action.routeShard ++
    (bytesField 3 action.bodyShard ++ (varintField 4 action.envelopeContract.toNat ++
      (action.marks.map (fun mark => messageField 5 mark.fields) ++
        (bytesField 6 action.expectedBodyDigest ++ (varintField 7 action.transportEpoch.toNat ++
          (varintField 8 action.responsePolicy.toNat ++ (varintField 9 action.timeoutMs.toNat ++
            (bytesField 10 action.actionDigest ++ varintField 11 action.delayMs.toNat)))))))))

/-- The fields of an update of a flow. -/
def ActionFlowUpdate.fields (update : ActionFlowUpdate) : List Field :=
  bytesField 1 update.flowId ++ (enumField 2 update.status ++
    (update.action.toList.map (fun action => messageField 3 action.fields) ++
      varintField 4 update.expiresAtMs.toNat))

/-- The fields of a report. -/
def CommunityTelemetryReport.fields (report : CommunityTelemetryReport) : List Field :=
  bytesField 1 report.runtimeLease ++ (bytesField 2 report.reportId ++
    (varintField 3 report.utcDay.toNat ++ (enumField 4 report.groupCount ++
      (enumField 5 report.messagesReceived ++ (enumField 6 report.messagesSent ++
        (enumField 7 report.activeDuration ++ (bytesField 8 report.profileId ++
          (bytesField 9 report.profileManifestDigest ++ (bytesField 10 report.buildDigest ++
            (varintField 11 report.platform.toNat ++ (varintField 12 report.architecture.toNat ++
              (enumField 13 report.accountChurn ++ (varintField 14 report.generatedAtMs.toNat ++
                bytesField 15 report.installationSignature)))))))))))))

/-- The fields of a receipt. -/
def TelemetryReceipt.fields (receipt : TelemetryReceipt) : List Field :=
  bytesField 1 receipt.reportId ++ (boolField 2 receipt.accepted ++
    varintField 3 receipt.code.toNat)

/-- The fields of a watch request. -/
def WatchRequest.fields (request : WatchRequest) : List Field :=
  bytesField 1 request.runtimeLease ++ (varintField 2 request.cursor.toNat ++
    varintField 3 request.maxWaitMs.toNat)

/-- The fields of a grant. -/
def WatchGrantSnapshot.fields (grant : WatchGrantSnapshot) : List Field :=
  enumField 1 grant.grantClass ++ (varintField 2 grant.maxFullAccounts.toNat ++
    (varintField 3 grant.maxActiveInstallations.toNat ++
      (varintField 4 grant.expiresAtMs.toNat ++ (enumField 5 grant.renewalState ++
        varintField 6 grant.policyEpoch.toNat))))

/-- The fields of a watch event. -/
def WatchEvent.fields (event : WatchEvent) : List Field :=
  varintField 1 event.cursor.toNat ++ (enumField 2 event.kind ++
    (varintField 3 event.occurredAtMs.toNat ++ (bytesField 4 event.accountSlotId ++
      (varintField 5 event.reasonCode.toNat ++ (bytesField 6 event.payload ++
        event.grant.toList.map fun grant => messageField 7 grant.fields)))))

/-- The fields of a generic result. -/
def GenericResult.fields (result : GenericResult) : List Field :=
  boolField 1 result.accepted ++ (varintField 2 result.code.toNat ++
    bytesField 3 result.payload)

/-- The fields of a refusal. -/
def ErrorFrame.fields (error : ErrorFrame) : List Field :=
  varintField 1 error.code.toNat ++ (boolField 2 error.retryable ++
    (varintField 3 error.retryAfterMs.toNat ++ (bytesField 4 error.incidentId ++
      varintField 5 error.requiredRuntimeAbi.toNat)))

/-- The fields of the message in a body. -/
def Body.fields : Body → List Field
  | .profileRequest value => value.fields
  | .profileDecision value => value.fields
  | .opaqueExchangeRequest value => value.fields
  | .opaqueExchangeResponse value => value.fields
  | .watchRequest value => value.fields
  | .watchEvent value => value.fields
  | .genericResult value => value.fields
  | .actionFlowBegin value => value.fields
  | .actionObservation value => value.fields
  | .actionFlowUpdate value => value.fields
  | .communityTelemetryReport value => value.fields
  | .telemetryReceipt value => value.fields
  | .error value => value.fields

/-- The fields of a frame; a body is written even when it has no fields. -/
def InnerFrame.fields (frame : InnerFrame) : List Field :=
  varintField 1 frame.contract.toNat ++
    frame.body.toList.map fun body => messageField body.tag body.fields

end Proto

/-- What the library is documented to write. -/
structure Prost.FollowsSchema (prost : Prost) : Prop where
  encodedLen_eq : ∀ frame, prost.encodedLen frame = messageLen frame.fields
  encode_eq : ∀ frame, messageLen frame.fields ≤ hardMaxOuterFrameLen →
    prost.encode frame = some (encodeMessage frame.fields)

end Ceylith
end Lirvena
