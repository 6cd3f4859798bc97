import Lirvena.Ceylith.Frame
import Lirvena.Ceylith.Proto
import Mathlib.Data.List.Sort

/-!
# Opaque slots and binding digests

The slots of an exchange are sorted by their identifiers, without duplicates and
within public bounds.  A binding digest is the hash of a domain, the context of
the exchange and its slots or payload; the hash itself is a parameter.
-/

namespace Lirvena
namespace Ceylith

open Lib

/-- Invalid bounded opaque-slot collection. -/
inductive OpaqueError where
  | invalidSlotId
  | invalidSlotValue
  | duplicateSlot
  | bounds
  deriving DecidableEq

def maxOpaqueSlotLen : Nat := 4 * 1024

def maxOpaqueSlots : Nat := 64

def maxOpaqueAggregateLen : Nat := 48 * 1024

/-- Numeric identifier for material whose private semantics stay elsewhere. -/
@[ext] structure OpaqueSlotId where
  value : UInt32
  value_ne_zero : value ≠ 0

instance : DecidableEq OpaqueSlotId :=
  fun _ _ => decidable_of_iff _ OpaqueSlotId.ext_iff.symm

def OpaqueSlotId.new (value : UInt32) : Except OpaqueError OpaqueSlotId :=
  if hzero : value = 0 then .error .invalidSlotId else .ok ⟨value, hzero⟩

/-- One bounded opaque public-contract value. -/
structure OpaqueSlot where
  id : OpaqueSlotId
  value : List UInt8
  value_ne_nil : value ≠ []
  length_le : value.length ≤ maxOpaqueSlotLen

def OpaqueSlot.new (id : OpaqueSlotId) (value : List UInt8) : Except OpaqueError OpaqueSlot :=
  if hnil : value = [] then .error .invalidSlotValue
  else if hlength : maxOpaqueSlotLen < value.length then .error .invalidSlotValue
  else .ok ⟨id, value, hnil, Nat.le_of_not_lt hlength⟩

/-- The order of the identifiers. -/
def OpaqueSlot.NotAfter (left right : OpaqueSlot) : Prop :=
  left.id.value.toNat ≤ right.id.value.toNat

instance : DecidableRel OpaqueSlot.NotAfter :=
  fun left right => inferInstanceAs (Decidable (left.id.value.toNat ≤ right.id.value.toNat))

instance : Std.Total OpaqueSlot.NotAfter :=
  ⟨fun _ _ => Nat.le_total _ _⟩

instance : IsTrans OpaqueSlot OpaqueSlot.NotAfter :=
  ⟨fun _ _ _ => Nat.le_trans⟩

/-- Two slots beside each other have one identifier. -/
def equalNeighbours (slots : List OpaqueSlot) : Bool :=
  (slots.zip slots.tail).any fun pair => pair.1.id == pair.2.id

theorem pairwise_of_no_equalNeighbours {slots : List OpaqueSlot}
    (hsorted : slots.Pairwise OpaqueSlot.NotAfter) (hequal : equalNeighbours slots = false) :
    slots.Pairwise fun left right => left.id.value.toNat < right.id.value.toNat := by
  induction slots with
  | nil => exact List.Pairwise.nil
  | cons first rest ih =>
      cases rest with
      | nil => exact List.pairwise_singleton _ _
      | cons second tail =>
          have hsplit : equalNeighbours (first :: second :: tail) =
              (first.id == second.id || equalNeighbours (second :: tail)) := rfl
          rw [hsplit, Bool.or_eq_false_iff] at hequal
          obtain ⟨hne, hequal⟩ := hequal
          obtain ⟨hfirst, hrest⟩ := List.pairwise_cons.mp hsorted
          have hstrict := ih hrest hequal
          -- Neighbours are in order and not equal, so the first is below the second.
          have hlt : first.id.value.toNat < second.id.value.toNat := by
            refine Nat.lt_of_le_of_ne (hfirst second List.mem_cons_self) fun hsame => ?_
            have hid : first.id = second.id := OpaqueSlotId.ext (UInt32.toNat_inj.mp hsame)
            rw [hid, beq_self_eq_true] at hne
            cases hne
          refine List.pairwise_cons.mpr ⟨fun other hother => ?_, hstrict⟩
          rcases List.mem_cons.mp hother with rfl | htail
          · exact hlt
          · exact hlt.trans ((List.pairwise_cons.mp hstrict).1 other htail)

def aggregateLen (slots : List OpaqueSlot) : Nat :=
  (slots.map (·.value.length)).sum

/-- Sorted, unique and bounded opaque public-contract slots. -/
structure OpaqueSlots where
  slots : List OpaqueSlot
  sorted : slots.Pairwise fun left right => left.id.value.toNat < right.id.value.toNat
  length_le : slots.length ≤ maxOpaqueSlots
  aggregate_le : aggregateLen slots ≤ maxOpaqueAggregateLen

/-- Validates, sorts and stores opaque slots. -/
def OpaqueSlots.new (slots : List OpaqueSlot) : Except OpaqueError OpaqueSlots :=
  let sorted := slots.insertionSort OpaqueSlot.NotAfter
  if hlength : maxOpaqueSlots < slots.length then .error .bounds
  else if hequal : equalNeighbours sorted = true then .error .duplicateSlot
  else if haggregate : maxOpaqueAggregateLen < aggregateLen sorted then .error .bounds
  else .ok {
    slots := sorted
    sorted := pairwise_of_no_equalNeighbours (List.pairwise_insertionSort _ _)
      (Bool.eq_false_of_not_eq_true hequal)
    length_le := by
      rw [List.length_insertionSort]
      exact Nat.le_of_not_lt hlength
    aggregate_le := Nat.le_of_not_lt haggregate }

/-- Decodes generated wire slots through the same collection validation. -/
def OpaqueSlots.fromWire (slots : List Proto.OpaqueSlot) : Except OpaqueError OpaqueSlots := do
  let decoded ← slots.mapM fun slot => do
    let id ← OpaqueSlotId.new slot.slot
    OpaqueSlot.new id slot.value
  OpaqueSlots.new decoded

/-! ## Binding digests -/

abbrev AccountSlotId := FixedBytes 16

abbrev ExchangeId := FixedBytes 16

abbrev ActionFlowId := FixedBytes 16

abbrev ActionId := FixedBytes 16

abbrev IncidentId := FixedBytes 16

abbrev ProfileId := FixedBytes 16

abbrev TelemetryReportId := FixedBytes 16

/-- Thirty-two-byte digest value. -/
abbrev Digest32 := FixedBytes 32

/-- The SHA-256 hash. -/
abbrev Sha256 := List UInt8 → Digest32

def opaqueBindingDomain : List UInt8 :=
  asciiBytes "ceylith/v2/opaque-binding/v1"

def flowBindingDomain : List UInt8 :=
  asciiBytes "ceylith/v3/action-flow/v1"

def observationBindingDomain : List UInt8 :=
  asciiBytes "ceylith/v3/action-observation/v1"

/-- `u32::try_from(length).unwrap_or(u32::MAX)`, big-endian. -/
def lengthWord (length : Nat) : List UInt8 :=
  beBytes 4 (min length (u32Bound - 1))

/-- The slots as they stand in a preimage: their number, and each identifier with
its value and the length of the value. -/
def OpaqueSlots.preimage (slots : OpaqueSlots) : List UInt8 :=
  lengthWord slots.slots.length ++ slots.slots.flatMap fun slot =>
    beBytes 4 slot.id.value.toNat ++ (lengthWord slot.value.length ++ slot.value)

def opaqueBindingPreimage (exchangeId : ExchangeId) (accountSlotId : AccountSlotId)
    (generation expiresAtMs : UInt64) (slots : OpaqueSlots) : List UInt8 :=
  opaqueBindingDomain ++ (exchangeId.bytes ++ (accountSlotId.bytes ++
    (beBytes 8 generation.toNat ++ (beBytes 8 expiresAtMs.toNat ++ slots.preimage))))

/-- Computes the canonical digest for one bounded opaque exchange request. -/
def opaqueBindingDigest (sha256 : Sha256) (exchangeId : ExchangeId)
    (accountSlotId : AccountSlotId) (generation expiresAtMs : UInt64) (slots : OpaqueSlots) :
    Digest32 :=
  sha256 (opaqueBindingPreimage exchangeId accountSlotId generation expiresAtMs slots)

/-- Generation-bound context for starting one closed action flow. -/
structure ActionFlowContext where
  flowId : ActionFlowId
  accountSlotId : AccountSlotId
  loginEpoch : UInt64
  onlineEpoch : UInt64
  transportEpoch : UInt64
  expiresAtMs : UInt64

def actionFlowBindingPreimage (context : ActionFlowContext) (inputs : OpaqueSlots) :
    List UInt8 :=
  flowBindingDomain ++ (context.flowId.bytes ++ (context.accountSlotId.bytes ++
    (beBytes 8 context.loginEpoch.toNat ++ (beBytes 8 context.onlineEpoch.toNat ++
      (beBytes 8 context.transportEpoch.toNat ++ (beBytes 8 context.expiresAtMs.toNat ++
        inputs.preimage))))))

/-- Computes the canonical digest for one action-flow begin request. -/
def actionFlowBindingDigest (sha256 : Sha256) (context : ActionFlowContext)
    (inputs : OpaqueSlots) : Digest32 :=
  sha256 (actionFlowBindingPreimage context inputs)

/-- Closed neutral outcome set for one action observation. -/
inductive ActionObservationKind where
  | response
  | transportFailure
  | timeout
  | cancelled
  | staleTransport
  | localEncodeFailure
  deriving DecidableEq

def ActionObservationKind.discriminant : ActionObservationKind → Nat
  | .response => 1
  | .transportFailure => 2
  | .timeout => 3
  | .cancelled => 4
  | .staleTransport => 5
  | .localEncodeFailure => 6

/-- Bound observation of one server-issued action. -/
structure ActionObservation where
  flowId : ActionFlowId
  actionId : ActionId
  actionDigest : Digest32
  outcome : ActionObservationKind
  payload : List UInt8
  observedAtMs : UInt64

def actionObservationBindingPreimage (observation : ActionObservation) : List UInt8 :=
  observationBindingDomain ++ (observation.flowId.bytes ++ (observation.actionId.bytes ++
    (observation.actionDigest.bytes ++ (beBytes 4 observation.outcome.discriminant ++
      (beBytes 8 observation.observedAtMs.toNat ++
        (lengthWord observation.payload.length ++ observation.payload))))))

/-- Computes the canonical digest for one action observation. -/
def actionObservationBindingDigest (sha256 : Sha256) (observation : ActionObservation) :
    Digest32 :=
  sha256 (actionObservationBindingPreimage observation)

end Ceylith
end Lirvena
