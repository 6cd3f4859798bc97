import Lirvena.Ceylith.Installation
import Lirvena.Ceylith.Requests
import Lirvena.Ceylith.Schema

/-!
# The size of the requests

The largest request of a client starts an action flow: its slots take up to twelve
bytes each besides their values.  `built_requests_fit_iff` says that the requests of
all clients fit a session exactly when its inner limit is at least `maxRequestLen`,
which is less than the default.
-/

namespace Lirvena
namespace Ceylith

open Lib Lib.Protobuf

/-- The length of the largest request. -/
def maxRequestLen : Nat := 50556

/-! ## The parts of a request -/

section Parts

variable {number : Nat}

theorem messageLen_lease_le (lease : RuntimeLease) (hnumber : number < 16) :
    messageLen (bytesField number lease.bytes) ≤ 1 + 2 + maxRuntimeLeaseLen :=
  messageLen_bytesField_le hnumber lease.length_le (by decide)

theorem messageLen_fixed_le {width : Nat} (value : FixedBytes width) (hnumber : number < 16)
    (hwidth : width < 128) : messageLen (bytesField number value.bytes) ≤ 0 + 2 + width :=
  messageLen_bytesField_le hnumber (Nat.le_of_eq value.length_eq) hwidth

theorem messageLen_word64_le (value : UInt64) (hnumber : number < 16) :
    messageLen (varintField number value.toNat) ≤ 9 + 2 :=
  messageLen_varintField_le hnumber (Nat.lt_of_lt_of_le value.toNat_lt (by decide))

theorem messageLen_word32_le (value : UInt32) (hnumber : number < 16) :
    messageLen (varintField number value.toNat) ≤ 4 + 2 :=
  messageLen_varintField_le hnumber (Nat.lt_of_lt_of_le value.toNat_lt (by decide))

/-- One slot of an exchange. -/
theorem messageLen_slot_le {slot : Proto.OpaqueSlot} (hnumber : number < 16)
    (hvalue : slot.value.length ≤ maxOpaqueSlotLen) :
    messageLen [messageField number slot.fields] ≤ 12 + slot.value.length := by
  simp only [maxOpaqueSlotLen] at hvalue
  have hid := messageLen_word32_le slot.slot (by decide : 1 < 16)
  have hbytes : messageLen (bytesField 2 slot.value) ≤ 1 + 2 + slot.value.length :=
    messageLen_bytesField_le (by decide) (Nat.le_refl _) (by omega)
  have hfields : messageLen slot.fields ≤ 9 + slot.value.length := by
    rw [Proto.OpaqueSlot.fields, messageLen_append]
    omega
  have hmessage : messageLen [messageField number slot.fields] ≤
      1 + 2 + (9 + slot.value.length) :=
    messageLen_messageField_le hnumber hfields (by omega)
  omega

theorem messageLen_slotFields_cons (slot : Proto.OpaqueSlot) (rest : List Proto.OpaqueSlot) :
    messageLen (Proto.slotFields number (slot :: rest)) =
      messageLen [messageField number slot.fields] +
        messageLen (Proto.slotFields number rest) :=
  messageLen_append [_] _

theorem messageLen_slotFields_le {slots : List Proto.OpaqueSlot} (hnumber : number < 16)
    (hvalues : ∀ slot ∈ slots, slot.value.length ≤ maxOpaqueSlotLen) :
    messageLen (Proto.slotFields number slots) ≤
      12 * slots.length + (slots.map fun slot => slot.value.length).sum := by
  induction slots with
  | nil => exact Nat.zero_le _
  | cons slot rest ih =>
      obtain ⟨hvalue, hrest⟩ := List.forall_mem_cons.mp hvalues
      have hslot := messageLen_slot_le hnumber hvalue
      have hothers := ih hrest
      rw [messageLen_slotFields_cons, List.length_cons, List.map_cons, List.sum_cons]
      omega

theorem messageLen_slots_le (slots : OpaqueSlots) (hnumber : number < 16) :
    messageLen (Proto.slotFields number slots.toWire) ≤
      12 * maxOpaqueSlots + maxOpaqueAggregateLen := by
  have hvalues : ∀ slot ∈ slots.toWire, slot.value.length ≤ maxOpaqueSlotLen := by
    intro slot hslot
    obtain ⟨original, -, rfl⟩ := List.mem_map.mp hslot
    exact original.length_le
  have hfields := messageLen_slotFields_le hnumber hvalues
  have hcount : slots.toWire.length ≤ maxOpaqueSlots := by
    rw [OpaqueSlots.toWire, List.length_map]
    exact slots.length_le
  have haggregate : (slots.toWire.map fun slot => slot.value.length).sum ≤
      maxOpaqueAggregateLen := by
    rw [OpaqueSlots.toWire, aggregateLen_map_toWire]
    exact slots.aggregate_le
  omega

/-- A contract list has at most 128 numbers of five bytes. -/
theorem messageLen_contracts_le {contracts : List UInt32} (hnumber : number < 16)
    (hlength : contracts.length ≤ maxContracts) :
    messageLen (packedField number (contracts.map UInt32.toNat)) ≤ 1 + 2 + 5 * maxContracts := by
  have hvalues : ∀ value ∈ contracts.map UInt32.toNat, value < 128 ^ (4 + 1) := by
    intro value hvalue
    obtain ⟨contract, -, rfl⟩ := List.mem_map.mp hvalue
    exact Nat.lt_of_lt_of_le contract.toNat_lt (by decide)
  refine messageLen_packedField_le hnumber hvalues ?_ (by decide)
  rw [List.length_map]
  exact Nat.mul_le_mul_left 5 hlength

end Parts

/-- The contract, the key of the body and its length come before the body. -/
theorem messageLen_currentFrame (body : Proto.Body) :
    messageLen (currentFrame body).fields =
      2 + ((encodeVarint (body.tag * 8 + 2)).length +
        ((encodeVarint (messageLen body.fields)).length + messageLen body.fields)) := by
  have hcontract : messageLen (varintField 1 4) = 0 + 2 :=
    messageLen_varintField_eq (by decide) (by decide) (by decide)
  have hfields : (currentFrame body).fields =
      varintField 1 4 ++ [messageField body.tag body.fields] := rfl
  rw [hfields, messageLen_append, hcontract, messageLen_cons, messageLen_nil, messageField,
    Field.encode, List.length_append]
  simp only [WireValue.wireType, WireValue.encode, List.length_append, messageLen]
  omega

theorem messageLen_currentFrame_le {body : Proto.Body}
    (hbody : messageLen body.fields + 7 ≤ maxRequestLen) :
    messageLen (currentFrame body).fields ≤ maxRequestLen := by
  simp only [maxRequestLen] at *
  have htag : body.tag ≤ maxBodyTag :=
    (inBodyRange_of_known (Body.knownBodyTag_tag body)).2
  have hkey : (encodeVarint (body.tag * 8 + 2)).length ≤ 1 + 1 := by
    refine encodeVarint_length_le ?_
    simp only [maxBodyTag] at htag
    omega
  have hlength : (encodeVarint (messageLen body.fields)).length ≤ 2 + 1 :=
    encodeVarint_length_le (by omega)
  rw [messageLen_currentFrame]
  omega

/-! ## The five builders -/

section Builders

variable {sha256 : Sha256} {admission : SessionAdmission}

theorem messageLen_actionFlowBegin_le {context : ActionFlowContext} {inputs : OpaqueSlots}
    {nowMs : UInt64} {frame : Proto.InnerFrame}
    (hbuilt : actionFlowBeginRequestFor sha256 admission context inputs nowMs = .ok frame) :
    messageLen frame.fields ≤ maxRequestLen := by
  obtain ⟨⟨⟩, -, hbuilt⟩ := bind_eq_ok_iff.mp hbuilt
  cases hbuilt
  have hlease := messageLen_lease_le admission.runtimeLease (by decide : 1 < 16)
  have hflow := messageLen_fixed_le context.flowId (by decide : 2 < 16) (by decide)
  have haccount := messageLen_fixed_le context.accountSlotId (by decide : 3 < 16) (by decide)
  have hlogin := messageLen_word64_le context.loginEpoch (by decide : 4 < 16)
  have honline := messageLen_word64_le context.onlineEpoch (by decide : 5 < 16)
  have htransport := messageLen_word64_le context.transportEpoch (by decide : 6 < 16)
  have hslots := messageLen_slots_le inputs (by decide : 7 < 16)
  have hexpires := messageLen_word64_le context.expiresAtMs (by decide : 8 < 16)
  have hdigest := messageLen_fixed_le (actionFlowBindingDigest sha256 context inputs)
    (by decide : 9 < 16) (by decide)
  refine messageLen_currentFrame_le ?_
  simp only [Proto.Body.fields, Proto.ActionFlowBegin.fields, messageLen_append, maxRequestLen]
  simp only [maxRuntimeLeaseLen, maxOpaqueSlots, maxOpaqueAggregateLen] at hlease hslots
  omega

theorem messageLen_actionObservation_le {observation : ActionObservation}
    {frame : Proto.InnerFrame}
    (hbuilt : actionObservationRequestFor sha256 admission observation = .ok frame) :
    messageLen frame.fields ≤ maxRequestLen := by
  obtain ⟨⟨⟩, hchecks, hbuilt⟩ := bind_eq_ok_iff.mp hbuilt
  cases hbuilt
  have hchecks := rejectIf_eq_ok_iff.mp hchecks
  simp only [not_or] at hchecks
  -- One bound for each field; the payload is the only large one.
  have hlease := messageLen_lease_le admission.runtimeLease (by decide : 1 < 16)
  have hflow := messageLen_fixed_le observation.flowId (by decide : 2 < 16) (by decide)
  have haction := messageLen_fixed_le observation.actionId (by decide : 3 < 16) (by decide)
  have hactionDigest := messageLen_fixed_le observation.actionDigest (by decide : 4 < 16)
    (by decide)
  have houtcome : messageLen (enumField 5 observation.outcome.discriminant) ≤ 0 + 2 :=
    messageLen_varintField_le (by decide) (by cases observation.outcome <;> decide)
  have hpayload : messageLen (bytesField 6 observation.payload) ≤
      2 + 2 + maxActionPayloadLen :=
    messageLen_bytesField_le (by decide) (Nat.le_of_not_lt hchecks.2.2) (by decide)
  have hobserved := messageLen_word64_le observation.observedAtMs (by decide : 7 < 16)
  have hdigest := messageLen_fixed_le (actionObservationBindingDigest sha256 observation)
    (by decide : 8 < 16) (by decide)
  refine messageLen_currentFrame_le ?_
  simp only [Proto.Body.fields, Proto.ActionObservation.fields, messageLen_append, maxRequestLen]
  simp only [maxRuntimeLeaseLen, maxActionPayloadLen] at hlease hpayload
  omega

theorem validateContracts_length_le {contracts : List UInt32}
    (hvalid : validateContracts contracts = .ok ()) : contracts.length ≤ maxContracts := by
  have hchecks := rejectIf_eq_ok_iff.mp hvalid
  simp only [not_or] at hchecks
  exact Nat.le_of_not_lt hchecks.2.1

theorem messageLen_runtime_le (runtime : RuntimeDescriptor) :
    messageLen runtime.wire.fields ≤ 1344 := by
  obtain ⟨⟨⟩, -, hvalid⟩ := bind_eq_ok_iff.mp runtime.valid
  obtain ⟨digest, hdigest, hvalid⟩ := bind_eq_ok_iff.mp hvalid
  obtain ⟨⟨⟩, hactions, hsources⟩ := bind_eq_ok_iff.mp hvalid
  have hwire := FixedBytes.ofBytes_eq_some_iff.mp (okOr_eq_ok_iff.mp hdigest)
  have habi := messageLen_word32_le runtime.wire.runtimeAbi (by decide : 1 < 16)
  have henvelope := messageLen_word32_le runtime.wire.envelopeContract (by decide : 2 < 16)
  have hactions := messageLen_contracts_le (by decide : 3 < 16)
    (validateContracts_length_le hactions)
  have hsources := messageLen_contracts_le (by decide : 4 < 16)
    (validateContracts_length_le hsources)
  have hplatform := messageLen_word32_le runtime.wire.platform (by decide : 5 < 16)
  have harchitecture := messageLen_word32_le runtime.wire.architecture (by decide : 6 < 16)
  have hbuild := messageLen_fixed_le digest (by decide : 7 < 16) (by decide)
  simp only [Proto.ClientRuntime.fields, messageLen_append, hwire]
  simp only [maxContracts] at hactions hsources
  omega

theorem messageLen_profile_le (profileId : ProfileId) (cachedManifestDigest : Option Digest32)
    (requestedAccess : RequestedAccess) (runtime : RuntimeDescriptor) :
    messageLen (profileRequestFor admission profileId cachedManifestDigest requestedAccess
      runtime).fields ≤ maxRequestLen := by
  have hlease := messageLen_lease_le admission.runtimeLease (by decide : 1 < 16)
  have hprofile := messageLen_fixed_le profileId (by decide : 2 < 16) (by decide)
  have hcached : messageLen
      (bytesField 3 ((cachedManifestDigest.map FixedBytes.bytes).getD [])) ≤ 0 + 2 + 32 := by
    cases cachedManifestDigest with
    | none => exact Nat.zero_le _
    | some digest => exact messageLen_fixed_le digest (by decide) (by decide)
  have haccess := messageLen_word32_le requestedAccess.discriminant (by decide : 4 < 16)
  have hruntime : messageLen [messageField 5 runtime.wire.fields] ≤ 1 + 2 + 1344 :=
    messageLen_messageField_le (by decide) (messageLen_runtime_le runtime) (by decide)
  refine messageLen_currentFrame_le ?_
  simp only [Proto.Body.fields, Proto.ProfileRequest.fields, messageLen_append, maxRequestLen,
    Option.toList_some, List.map_cons, List.map_nil]
  simp only [maxRuntimeLeaseLen] at hlease
  omega

theorem messageLen_opaqueExchange_le {context : OpaqueExchangeContext} {slots : OpaqueSlots}
    {nowMs : UInt64} {frame : Proto.InnerFrame}
    (hbuilt : opaqueExchangeRequestFor sha256 admission context slots nowMs = .ok frame) :
    messageLen frame.fields ≤ maxRequestLen := by
  obtain ⟨⟨⟩, -, hbuilt⟩ := bind_eq_ok_iff.mp hbuilt
  cases hbuilt
  have hlease := messageLen_lease_le admission.runtimeLease (by decide : 1 < 16)
  have hexchange := messageLen_fixed_le context.exchangeId (by decide : 2 < 16) (by decide)
  have haccount := messageLen_fixed_le context.accountSlotId (by decide : 3 < 16) (by decide)
  have hgeneration := messageLen_word64_le context.generation (by decide : 4 < 16)
  have hslots := messageLen_slots_le slots (by decide : 5 < 16)
  have hexpires := messageLen_word64_le context.expiresAtMs (by decide : 6 < 16)
  have hdigest := messageLen_fixed_le context.bindingDigest (by decide : 7 < 16) (by decide)
  refine messageLen_currentFrame_le ?_
  simp only [Proto.Body.fields, Proto.OpaqueExchangeRequest.fields, messageLen_append,
    maxRequestLen]
  simp only [maxRuntimeLeaseLen, maxOpaqueSlots, maxOpaqueAggregateLen] at hlease hslots
  omega

theorem messageLen_watch_le {cursor : UInt64} {maxWaitMs : UInt32} {frame : Proto.InnerFrame}
    (hbuilt : watchRequestFor admission cursor maxWaitMs = .ok frame) :
    messageLen frame.fields ≤ maxRequestLen := by
  obtain ⟨⟨⟩, -, hbuilt⟩ := bind_eq_ok_iff.mp hbuilt
  cases hbuilt
  have hlease := messageLen_lease_le admission.runtimeLease (by decide : 1 < 16)
  have hcursor := messageLen_word64_le cursor (by decide : 2 < 16)
  have hwait := messageLen_word32_le maxWaitMs (by decide : 3 < 16)
  refine messageLen_currentFrame_le ?_
  simp only [Proto.Body.fields, Proto.WatchRequest.fields, messageLen_append, maxRequestLen]
  simp only [maxRuntimeLeaseLen] at hlease
  omega

/-- No request is larger than the largest start of an action flow. -/
theorem BuiltRequest.messageLen_le {frame : Proto.InnerFrame}
    (hbuilt : BuiltRequest sha256 admission frame) : messageLen frame.fields ≤ maxRequestLen := by
  cases hbuilt with
  | actionFlowBegin hbuilt => exact messageLen_actionFlowBegin_le hbuilt
  | actionObservation hbuilt => exact messageLen_actionObservation_le hbuilt
  | profile profileId cachedManifestDigest requestedAccess runtime =>
      exact messageLen_profile_le profileId cachedManifestDigest requestedAccess runtime
  | opaqueExchange hbuilt => exact messageLen_opaqueExchange_le hbuilt
  | watch hbuilt => exact messageLen_watch_le hbuilt

end Builders

/-! ## The largest request -/

/-- Sixty-four slots with long identifiers share the aggregate evenly. -/
def largestSlot (index : Fin 64) : OpaqueSlot where
  id := {
    value := UInt32.ofNat (2 ^ 28 + index.val)
    value_ne_zero := by
      intro hzero
      have hnat := congrArg UInt32.toNat hzero
      have hindex := index.isLt
      rw [UInt32.toNat_ofNat', UInt32.toNat_zero] at hnat
      omega }
  value := List.replicate 768 0
  value_ne_nil := by
    rw [ne_eq, List.replicate_eq_nil_iff]
    decide
  length_le := by
    rw [List.length_replicate]
    decide

theorem largestSlot_id (index : Fin 64) :
    (largestSlot index).id.value.toNat = 2 ^ 28 + index.val := by
  have hindex := index.isLt
  show (UInt32.ofNat (2 ^ 28 + index.val)).toNat = _
  rw [UInt32.toNat_ofNat']
  omega

def largestSlots : OpaqueSlots where
  slots := List.ofFn largestSlot
  sorted := by
    rw [List.pairwise_ofFn]
    intro left right hlt
    rw [largestSlot_id, largestSlot_id]
    exact Nat.add_lt_add_left hlt _
  length_le := by
    rw [List.length_ofFn]
    decide
  aggregate_le := by
    have hvalues : (List.ofFn largestSlot).map (·.value.length) = List.replicate 64 768 := by
      rw [List.map_ofFn, ← List.ofFn_const]
      refine congrArg List.ofFn (funext fun index => ?_)
      exact List.length_replicate
    rw [aggregateLen, hvalues, List.sum_replicate]
    decide

/-- A slot of the largest request takes twelve bytes besides its value. -/
theorem messageLen_largestSlot (index : Fin 64) :
    messageLen [messageField 7 (largestSlot index).toWire.fields] = 780 := by
  have hvalue : (largestSlot index).value.length = 768 := List.length_replicate
  -- The identifier needs all five groups of a varint of its width.
  have hid : messageLen (varintField 1 (largestSlot index).id.value.toNat) = 4 + 2 := by
    have hindex := index.isLt
    rw [largestSlot_id]
    exact messageLen_varintField_eq (by decide) (by omega) (by omega)
  have hbytes : messageLen (bytesField 2 (largestSlot index).value) =
      1 + 2 + (largestSlot index).value.length :=
    messageLen_bytesField_eq (by decide) (by rw [hvalue]; decide) (by rw [hvalue]; decide)
  have hfields : messageLen (largestSlot index).toWire.fields = 777 := by
    rw [Proto.OpaqueSlot.fields, messageLen_append]
    show messageLen (varintField 1 (largestSlot index).id.value.toNat) +
      messageLen (bytesField 2 (largestSlot index).value) = 777
    omega
  have hmessage : messageLen [messageField 7 (largestSlot index).toWire.fields] =
      1 + 2 + messageLen (largestSlot index).toWire.fields := by
    refine messageLen_lengthDelimited_eq (by decide) ?_ ?_
    · show 128 ^ 1 ≤ messageLen (largestSlot index).toWire.fields
      rw [hfields]
      decide
    · show messageLen (largestSlot index).toWire.fields < 128 ^ 2
      rw [hfields]
      decide
  omega

theorem messageLen_slotFields_eq {number length : Nat} {slots : List Proto.OpaqueSlot}
    (hslots : ∀ slot ∈ slots, messageLen [messageField number slot.fields] = length) :
    messageLen (Proto.slotFields number slots) = length * slots.length := by
  induction slots with
  | nil => rfl
  | cons slot rest ih =>
      obtain ⟨hslot, hrest⟩ := List.forall_mem_cons.mp hslots
      rw [messageLen_slotFields_cons, hslot, ih hrest, List.length_cons, Nat.mul_succ,
        Nat.add_comm]

theorem messageLen_largestSlots :
    messageLen (Proto.slotFields 7 largestSlots.toWire) = 49920 := by
  have hslots : ∀ slot ∈ largestSlots.toWire,
      messageLen [messageField 7 slot.fields] = 780 := by
    intro slot hslot
    obtain ⟨original, horiginal, rfl⟩ := List.mem_map.mp hslot
    obtain ⟨index, rfl⟩ := List.mem_ofFn.mp horiginal
    exact messageLen_largestSlot index
  rw [messageLen_slotFields_eq hslots]
  show 780 * (List.map OpaqueSlot.toWire (List.ofFn largestSlot)).length = 49920
  rw [List.length_map, List.length_ofFn]

def longestLease : RuntimeLease where
  bytes := List.replicate maxRuntimeLeaseLen 2
  bytes_ne_nil := by
    rw [ne_eq, List.replicate_eq_nil_iff]
    decide
  length_le := by rw [List.length_replicate]

/-- A welcome with a lease of full length. -/
def longestWelcome : Proto.SessionWelcome where
  sessionId := List.replicate 16 1
  runtimeLease := longestLease.bytes
  leaseExpiresAtMs := 2000
  grantClass := 2
  maxFullAccounts := 3
  maxActiveInstallations := 2
  maxRegisteredInstallations := 4
  serverTimeMs := 1000
  policyEpoch := 1
  acceptedContracts := [1]

def longestAdmission : SessionAdmission where
  sessionId := ⟨List.replicate 16 1, rfl⟩
  runtimeLease := longestLease
  leaseExpiresAtMs := 2000
  grantClass := .community
  maxFullAccounts := 3
  maxActiveInstallations := 2
  maxRegisteredInstallations := 4
  serverTimeMs := 1000
  policyEpoch := 1
  acceptedContracts := [1]

theorem decodeSessionWelcome_longest :
    decodeSessionWelcome longestWelcome = .ok longestAdmission := by
  have hlease : RuntimeLease.ofBytes longestWelcome.runtimeLease = .ok longestLease := by
    show RuntimeLease.ofBytes longestLease.bytes = .ok longestLease
    rw [RuntimeLease.ofBytes, dif_neg longestLease.bytes_ne_nil,
      dif_neg (Nat.not_lt.mpr longestLease.length_le)]
  have hsession : fixedField 16 longestWelcome.sessionId = .ok longestAdmission.sessionId :=
    fixedField_bytes longestAdmission.sessionId
  exact bind_eq_ok_iff.mpr ⟨_, hsession, bind_eq_ok_iff.mpr ⟨_, hlease, rfl⟩⟩

/-- The largest word takes ten bytes. -/
def largestWord : UInt64 := 18446744073709551615

def largestContext : ActionFlowContext where
  flowId := ⟨List.replicate 16 1, rfl⟩
  accountSlotId := ⟨List.replicate 16 2, rfl⟩
  loginEpoch := largestWord
  onlineEpoch := largestWord
  transportEpoch := largestWord
  expiresAtMs := largestWord

def largestBegin (sha256 : Sha256) : Proto.ActionFlowBegin where
  runtimeLease := longestLease.bytes
  flowId := largestContext.flowId.bytes
  accountSlotId := largestContext.accountSlotId.bytes
  loginEpoch := largestWord
  onlineEpoch := largestWord
  transportEpoch := largestWord
  inputs := largestSlots.toWire
  expiresAtMs := largestWord
  bindingDigest := (actionFlowBindingDigest sha256 largestContext largestSlots).bytes

theorem messageLen_longestLease : messageLen (bytesField 1 longestLease.bytes) = 515 := by
  have hlength : longestLease.bytes.length = 512 := List.length_replicate
  have hfield : messageLen (bytesField 1 longestLease.bytes) =
      1 + 2 + longestLease.bytes.length :=
    messageLen_bytesField_eq (by decide) (by rw [hlength]; decide) (by rw [hlength]; decide)
  rw [hfield, hlength]

theorem messageLen_largestWord {number : Nat} (hnumber : number < 16) :
    messageLen (varintField number largestWord.toNat) = 9 + 2 :=
  messageLen_varintField_eq hnumber (by decide) (by decide)

theorem messageLen_fixed_eq {number width : Nat} (value : FixedBytes width)
    (hnumber : number < 16) (hpos : 0 < width) (hwidth : width < 128) :
    messageLen (bytesField number value.bytes) = 2 + width := by
  have hlength := value.length_eq
  have hfield : messageLen (bytesField number value.bytes) = 0 + 2 + value.bytes.length :=
    messageLen_bytesField_eq hnumber (by omega) (by omega)
  omega

theorem messageLen_largestBegin (sha256 : Sha256) :
    messageLen (largestBegin sha256).fields = 50549 := by
  have hflow := messageLen_fixed_eq largestContext.flowId (by decide : 2 < 16) (by decide)
    (by decide)
  have haccount := messageLen_fixed_eq largestContext.accountSlotId (by decide : 3 < 16)
    (by decide) (by decide)
  have hdigest := messageLen_fixed_eq (actionFlowBindingDigest sha256 largestContext largestSlots)
    (by decide : 9 < 16) (by decide) (by decide)
  have hlogin := messageLen_largestWord (by decide : 4 < 16)
  have honline := messageLen_largestWord (by decide : 5 < 16)
  have htransport := messageLen_largestWord (by decide : 6 < 16)
  have hexpires := messageLen_largestWord (by decide : 8 < 16)
  simp only [Proto.ActionFlowBegin.fields, largestBegin, messageLen_append, hflow, haccount,
    hdigest, hlogin, honline, htransport, hexpires, messageLen_longestLease,
    messageLen_largestSlots]

/-- The bound is attained, whatever the hash answers. -/
theorem exists_largest_request (sha256 : Sha256) :
    ∃ frame, BuiltRequest sha256 longestAdmission frame ∧
      messageLen frame.fields = maxRequestLen := by
  have hbuilt : actionFlowBeginRequestFor sha256 longestAdmission largestContext largestSlots 0 =
      .ok (currentFrame (.actionFlowBegin (largestBegin sha256))) := by
    refine bind_eq_ok_iff.mpr ⟨(), rejectIf_eq_ok_iff.mpr ?_, rfl⟩
    simp only [not_or]
    refine ⟨?_, by decide, by decide, by decide, by decide⟩
    exact List.ne_nil_of_length_pos (by rw [largestSlots, List.length_ofFn]; decide)
  refine ⟨_, .actionFlowBegin hbuilt, ?_⟩
  have hkey : (encodeVarint (17 * 8 + 2)).length = 1 + 1 :=
    encodeVarint_length_eq (by decide) (by decide)
  have hlength : (encodeVarint 50549).length = 2 + 1 :=
    encodeVarint_length_eq (by decide) (by decide)
  rw [messageLen_currentFrame]
  simp only [Proto.Body.fields, Proto.Body.tag, messageLen_largestBegin, hkey, hlength]
  rfl

/-! ## Sealing a request -/

section Sealing

variable {prost : Prost} {sha256 : Sha256} {admission : SessionAdmission}
  {limits : WireLimits} {frame : Proto.InnerFrame}

theorem BuiltRequest.sealable (hprost : prost.FollowsSchema)
    (hbuilt : BuiltRequest sha256 admission frame) (hinner : maxRequestLen ≤ limits.innerFrame)
    (hciphertext : maxRequestLen + noiseTagLen ≤ limits.ciphertext) :
    Sealable (innerCodec prost sha256) limits frame := by
  have hlength := hbuilt.messageLen_le
  have hlimit : prost.encodedLen frame ≤ limits.innerFrame := by
    rw [hprost.encodedLen_eq]
    omega
  have hencode : prost.encode frame = some (encodeMessage frame.fields) :=
    hprost.encode_eq frame (Nat.le_trans hlength (by decide))
  refine ⟨encodeMessage frame.fields, ?_, ?_, ?_⟩
  · refine bind_eq_ok_iff.mpr ⟨(), hbuilt.validateInner_eq_ok, ?_⟩
    exact bind_eq_ok_iff.mpr
      ⟨(), enforceLimit_eq_ok_iff.mpr hlimit, okOr_eq_ok_iff.mpr hencode⟩
  · show messageLen frame.fields + noiseTagLen ≤ limits.ciphertext
    omega
  · show messageLen frame.fields + noiseTagLen ≤ maxNoiseMessageLen
    simp only [maxRequestLen, noiseTagLen, maxNoiseMessageLen] at *
    omega

/-- A request that can be sealed is sealed by every session that is still alive. -/
theorem Sealable.sealRequest {cipher : TransportCipher} {InnerFrame : Type}
    {codec : InnerCodec InnerFrame} {connection : ClientConnection cipher}
    {request : InnerFrame} (hsealable : Sealable codec connection.limits request)
    (hopen : connection.isClosed = false) (hexpired : ¬ connection.Expired)
    (requestId : RequestId) :
    ∃ next encoded, connection.sealRequest codec requestId request = (next, .ok encoded) := by
  have houtcome := connection.sealRequest_outcome codec requestId request
  cases hseal : connection.sealRequest codec requestId request with
  | mk next answer =>
      rw [hseal] at houtcome
      cases houtcome with
      | closed hclosed =>
          rw [hopen] at hclosed
          cases hclosed
      | rejected error hlocal =>
          rcases hlocal.2 with hencodes | ⟨-, hseals⟩
          · exact absurd hsealable.encodes hencodes
          · exact absurd hsealable hseals
      | expired _ hlimit hclosed => exact absurd hlimit hexpired
      | sealed _ encoded _ _ _ _ _ _ => exact ⟨next, encoded.bytes, rfl⟩

end Sealing

/-- The validator accepts every request that is built under a decoded admission.
The requests fit a session exactly when its inner limit admits the largest of them;
where the ciphertext limit leaves room for the tag as well, every open session that
is not expired seals them. -/
theorem built_requests_fit_iff (prost : Prost) (hprost : prost.FollowsSchema)
    (sha256 : Sha256) (limits : WireLimits) :
    (∀ welcome admission frame, decodeSessionWelcome welcome = .ok admission →
      BuiltRequest sha256 admission frame → validateInner sha256 frame = .ok ()) ∧
    ((∀ welcome admission frame, decodeSessionWelcome welcome = .ok admission →
      BuiltRequest sha256 admission frame → prost.encodedLen frame ≤ limits.innerFrame) ↔
        maxRequestLen ≤ limits.innerFrame) ∧
    (maxRequestLen ≤ limits.innerFrame → maxRequestLen + noiseTagLen ≤ limits.ciphertext →
      ∀ welcome admission frame (cipher : TransportCipher)
        (connection : ClientConnection cipher) (requestId : RequestId),
        decodeSessionWelcome welcome = .ok admission → BuiltRequest sha256 admission frame →
        connection.limits = limits → connection.isClosed = false → ¬ connection.Expired →
        ∃ next encoded, connection.sealRequest (innerCodec prost sha256) requestId frame =
          (next, .ok encoded)) := by
  refine ⟨?_, ?_, ?_⟩
  · intro welcome admission frame _ hbuilt
    exact hbuilt.validateInner_eq_ok
  · constructor
    · -- the largest request is one of them
      intro hfits
      obtain ⟨frame, hbuilt, hlength⟩ := exists_largest_request sha256
      have hframe := hfits longestWelcome longestAdmission frame decodeSessionWelcome_longest
        hbuilt
      rwa [hprost.encodedLen_eq, hlength] at hframe
    · intro hinner welcome admission frame _ hbuilt
      rw [hprost.encodedLen_eq]
      exact Nat.le_trans hbuilt.messageLen_le hinner
  · rintro hinner hciphertext welcome admission frame cipher connection requestId - hbuilt rfl
      hopen hexpired
    exact (hbuilt.sealable hprost hinner hciphertext).sealRequest hopen hexpired requestId

/-- The library as an encoder; it is not asked to decode. -/
def schemaProst : Prost where
  encode frame := some (encodeMessage frame.fields)
  encodedLen frame := messageLen frame.fields
  decode _ := none
  mergeBody _ _ _ := none

/-- A fresh session under the default limits seals a watch. -/
theorem default_session_seals_watch :
    ∃ frame next encoded, watchRequestFor longestAdmission 0 1000 = .ok frame ∧
      ClientConnection.freshConnection.sealRequest (innerCodec schemaProst sampleSha256)
        ⟨List.replicate 16 9, rfl⟩ frame = (next, .ok encoded) := by
  obtain ⟨-, -, hseals⟩ := built_requests_fit_iff schemaProst ⟨fun _ => rfl, fun _ _ => rfl⟩
    sampleSha256 .default
  have hwatch : ∃ frame, watchRequestFor longestAdmission 0 1000 = .ok frame :=
    ⟨_, bind_eq_ok_iff.mpr ⟨(), rejectIf_eq_ok_iff.mpr (by decide), rfl⟩⟩
  obtain ⟨frame, hframe⟩ := hwatch
  obtain ⟨next, encoded, hsealed⟩ := hseals (by decide) (by decide) longestWelcome
    longestAdmission frame _ ClientConnection.freshConnection ⟨List.replicate 16 9, rfl⟩
    decodeSessionWelcome_longest (.watch hframe) rfl rfl
    (show ¬ UInt64.ofNat defaultSessionMessageLimit ≤ 0 by decide)
  exact ⟨frame, next, encoded, hframe, hsealed⟩

/-- The limits of a session may be tighter than a request: here every handshake is admitted
and no inner frame is longer than 32 bytes. -/
theorem tight_session_refuses_watch :
    ∃ limits frame, WireLimits.new hardMaxHandshakePayloadLen 48 32 = .ok limits ∧
      decodeSessionWelcome longestWelcome = .ok longestAdmission ∧
      watchRequestFor longestAdmission 0 1000 = .ok frame ∧
      ¬ schemaProst.encodedLen frame ≤ limits.innerFrame ∧
      ∀ encoded, encodeInnerFrame schemaProst sampleSha256 frame limits ≠ .ok encoded := by
  have hbuilt : watchRequestFor longestAdmission 0 1000 =
      .ok (currentFrame (.watchRequest ⟨longestLease.bytes, 0, 1000⟩)) :=
    bind_eq_ok_iff.mpr ⟨(), rejectIf_eq_ok_iff.mpr (by decide), rfl⟩
  have hlong : ¬ schemaProst.encodedLen
      (currentFrame (.watchRequest ⟨longestLease.bytes, 0, 1000⟩)) ≤ 32 := by
    have hlease := messageLen_longestLease
    show ¬ messageLen (currentFrame (.watchRequest ⟨longestLease.bytes, 0, 1000⟩)).fields ≤ 32
    rw [messageLen_currentFrame]
    simp only [Proto.Body.fields, Proto.WatchRequest.fields, messageLen_append]
    omega
  refine ⟨_, _, rfl, decodeSessionWelcome_longest, hbuilt, hlong, ?_⟩
  intro encoded hencode
  exact hlong (encodeInnerFrame_eq_ok hencode).2.1

end Ceylith
end Lirvena
