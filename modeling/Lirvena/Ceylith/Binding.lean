import Lirvena.Ceylith.Opaque
import Lirvena.Lib.Encoding
import Mathlib.Data.Set.Function

/-!
# What a binding digest binds

The three digests hash concatenations of identifiers, counters, slots and a
payload behind a domain.  Everything before the last part of a concatenation is
delimited, by its width or by its length, and no domain begins with another, so
that the hashed string determines which digest it belongs to and every value that
went into it.
-/

namespace Lirvena
namespace Ceylith

open Lib

/-! ## The parts of a preimage -/

theorem fixedBytes_delimited (width : Nat) :
    Delimited (FixedBytes.bytes : FixedBytes width → List UInt8) := by
  refine delimited_of_width (fun value => value.length_eq) ?_
  rintro ⟨left, hleft⟩ ⟨right, hright⟩ heq
  obtain rfl : left = right := heq
  rfl

theorem counter_delimited : Delimited fun value : UInt64 => beBytes 8 value.toNat := by
  refine delimited_of_width (fun value => beBytes_length 8 value.toNat) ?_
  intro left right heq
  have hnat := congrArg beNat heq
  rw [beNat_beBytes_of_lt left.toNat_lt, beNat_beBytes_of_lt right.toNat_lt] at hnat
  exact UInt64.toNat_inj.mp hnat

theorem slotId_delimited : Delimited fun id : OpaqueSlotId => beBytes 4 id.value.toNat := by
  refine delimited_of_width (fun id => beBytes_length 4 id.value.toNat) ?_
  intro left right heq
  have hnat := congrArg beNat heq
  rw [beNat_beBytes_of_lt left.value.toNat_lt, beNat_beBytes_of_lt right.value.toNat_lt] at hnat
  exact OpaqueSlotId.ext (UInt32.toNat_inj.mp hnat)

/-- A length within the bounds is written as it is. -/
theorem lengthWord_inj {left right : Nat} {rest tail : List UInt8} (hleft : left < u32Bound)
    (hright : right < u32Bound) (heq : lengthWord left ++ rest = lengthWord right ++ tail) :
    left = right ∧ rest = tail := by
  have hmin : ∀ length < u32Bound, min length (u32Bound - 1) = length := by
    intro length hlength
    omega
  rw [lengthWord, lengthWord, hmin left hleft, hmin right hright] at heq
  obtain ⟨hword, hrest⟩ := List.append_inj heq (by simp)
  have hnat := congrArg beNat hword
  rw [beNat_beBytes_of_lt hleft, beNat_beBytes_of_lt hright] at hnat
  exact ⟨hnat, hrest⟩

theorem OpaqueSlot.length_lt (slot : OpaqueSlot) : slot.value.length < u32Bound :=
  slot.length_le.trans_lt (by decide)

theorem OpaqueSlot.eq_of_fields {left right : OpaqueSlot} (hid : left.id = right.id)
    (hvalue : left.value = right.value) : left = right := by
  cases left
  cases right
  cases hid
  cases hvalue
  rfl

theorem OpaqueSlots.eq_of_slots {left right : OpaqueSlots} (hslots : left.slots = right.slots) :
    left = right := by
  cases left
  cases right
  cases hslots
  rfl

/-- A slot is its identifier, the length of its value and the value. -/
theorem slot_delimited : Delimited fun slot : OpaqueSlot =>
    beBytes 4 slot.id.value.toNat ++ (lengthWord slot.value.length ++ slot.value) := by
  intro left right rest tail heq
  simp only [List.append_assoc] at heq
  obtain ⟨hid, heq⟩ := slotId_delimited heq
  obtain ⟨hlength, heq⟩ := lengthWord_inj left.length_lt right.length_lt heq
  obtain ⟨hvalue, hrest⟩ := List.append_inj heq hlength
  exact ⟨OpaqueSlot.eq_of_fields hid hvalue, hrest⟩

/-- The slots are told from their preimage: it begins with their number. -/
theorem OpaqueSlots.preimage_delimited : Delimited OpaqueSlots.preimage := by
  intro left right rest tail heq
  simp only [preimage, List.append_assoc] at heq
  have hcount : ∀ slots : OpaqueSlots, slots.slots.length < u32Bound := fun slots =>
    slots.length_le.trans_lt (by decide)
  obtain ⟨hlength, heq⟩ := lengthWord_inj (hcount left) (hcount right) heq
  obtain ⟨hslots, hrest⟩ := slot_delimited.flatMap hlength heq
  exact ⟨OpaqueSlots.eq_of_slots hslots, hrest⟩

theorem ActionObservationKind.discriminant_injective :
    Function.Injective ActionObservationKind.discriminant := by
  intro left right heq
  cases left <;> cases right <;> first | rfl | cases heq

theorem outcome_delimited :
    Delimited fun outcome : ActionObservationKind => beBytes 4 outcome.discriminant := by
  refine delimited_of_width (fun outcome => beBytes_length 4 outcome.discriminant) ?_
  intro left right heq
  have hsmall : ∀ outcome : ActionObservationKind, outcome.discriminant < 256 ^ 4 := by
    intro outcome
    cases outcome <;> decide
  have hnat := congrArg beNat heq
  rw [beNat_beBytes_of_lt (hsmall left), beNat_beBytes_of_lt (hsmall right)] at hnat
  exact ActionObservationKind.discriminant_injective hnat

/-! ## Bound data -/

/-- The digest that binds some data. -/
inductive Binding where
  | exchange
  | flow
  | observation
  deriving DecidableEq

namespace Binding

/-- What a digest is computed from. -/
def Data : Binding → Type
  | .exchange => ExchangeId × AccountSlotId × UInt64 × UInt64 × OpaqueSlots
  | .flow => ActionFlowContext × OpaqueSlots
  | .observation => ActionObservation

def domain : Binding → List UInt8
  | .exchange => opaqueBindingDomain
  | .flow => flowBindingDomain
  | .observation => observationBindingDomain

/-- The bytes behind the domain. -/
def behindDomain : (binding : Binding) → binding.Data → List UInt8
  | .exchange, (exchangeId, accountSlotId, generation, expiresAtMs, slots) =>
      exchangeId.bytes ++ (accountSlotId.bytes ++ (beBytes 8 generation.toNat ++
        (beBytes 8 expiresAtMs.toNat ++ slots.preimage)))
  | .flow, (context, inputs) =>
      context.flowId.bytes ++ (context.accountSlotId.bytes ++
        (beBytes 8 context.loginEpoch.toNat ++ (beBytes 8 context.onlineEpoch.toNat ++
          (beBytes 8 context.transportEpoch.toNat ++ (beBytes 8 context.expiresAtMs.toNat ++
            inputs.preimage)))))
  | .observation, observed =>
      observed.flowId.bytes ++ (observed.actionId.bytes ++ (observed.actionDigest.bytes ++
        (beBytes 4 observed.outcome.discriminant ++ (beBytes 8 observed.observedAtMs.toNat ++
          (lengthWord observed.payload.length ++ observed.payload)))))

/-- The string that is hashed. -/
def preimage : (binding : Binding) → binding.Data → List UInt8
  | .exchange, (exchangeId, accountSlotId, generation, expiresAtMs, slots) =>
      opaqueBindingPreimage exchangeId accountSlotId generation expiresAtMs slots
  | .flow, (context, inputs) => actionFlowBindingPreimage context inputs
  | .observation, observed => actionObservationBindingPreimage observed

def digest (sha256 : Sha256) : (binding : Binding) → binding.Data → Digest32
  | .exchange, (exchangeId, accountSlotId, generation, expiresAtMs, slots) =>
      opaqueBindingDigest sha256 exchangeId accountSlotId generation expiresAtMs slots
  | .flow, (context, inputs) => actionFlowBindingDigest sha256 context inputs
  | .observation, observed => actionObservationBindingDigest sha256 observed

theorem preimage_eq (binding : Binding) (data : binding.Data) :
    binding.preimage data = binding.domain ++ binding.behindDomain data := by
  cases binding <;> rfl

theorem digest_eq (sha256 : Sha256) (binding : Binding) (data : binding.Data) :
    binding.digest sha256 data = sha256 (binding.preimage data) := by
  cases binding <;> rfl

/-- No domain begins with another. -/
theorem domain_prefix : ∀ left right : Binding, left.domain <+: right.domain → left = right := by
  intro left right hfront
  cases left <;> cases right <;> first | rfl | exact absurd hfront (by decide)

theorem exchange_injective : Function.Injective (behindDomain .exchange) := by
  rintro ⟨exchangeId, accountSlotId, generation, expiresAtMs, slots⟩
    ⟨exchangeId', accountSlotId', generation', expiresAtMs', slots'⟩ heq
  obtain ⟨hexchange, heq⟩ := fixedBytes_delimited 16 heq
  obtain ⟨haccount, heq⟩ := fixedBytes_delimited 16 heq
  obtain ⟨hgeneration, heq⟩ := counter_delimited heq
  obtain ⟨hexpires, heq⟩ := counter_delimited heq
  rw [hexchange, haccount, hgeneration, hexpires, OpaqueSlots.preimage_delimited.injective heq]

theorem flow_injective : Function.Injective (behindDomain .flow) := by
  rintro ⟨⟨flowId, accountSlotId, login, online, transport, expiresAtMs⟩, inputs⟩
    ⟨⟨flowId', accountSlotId', login', online', transport', expiresAtMs'⟩, inputs'⟩ heq
  obtain ⟨hflow, heq⟩ := fixedBytes_delimited 16 heq
  obtain ⟨haccount, heq⟩ := fixedBytes_delimited 16 heq
  obtain ⟨hlogin, heq⟩ := counter_delimited heq
  obtain ⟨honline, heq⟩ := counter_delimited heq
  obtain ⟨htransport, heq⟩ := counter_delimited heq
  obtain ⟨hexpires, heq⟩ := counter_delimited heq
  have hinputs := OpaqueSlots.preimage_delimited.injective heq
  dsimp only at hflow haccount hlogin honline htransport hexpires
  rw [hflow, haccount, hlogin, honline, htransport, hexpires, hinputs]

/-- The payload is the last part, so that its length need not be read. -/
theorem observation_injective : Function.Injective (behindDomain .observation) := by
  rintro ⟨flowId, actionId, actionDigest, outcome, payload, observedAtMs⟩
    ⟨flowId', actionId', actionDigest', outcome', payload', observedAtMs'⟩ heq
  obtain ⟨hflow, heq⟩ := fixedBytes_delimited 16 heq
  obtain ⟨haction, heq⟩ := fixedBytes_delimited 16 heq
  obtain ⟨hdigest, heq⟩ := fixedBytes_delimited 32 heq
  obtain ⟨houtcome, heq⟩ := outcome_delimited heq
  obtain ⟨hobserved, heq⟩ := counter_delimited heq
  have hwidth : (lengthWord payload.length).length = (lengthWord payload'.length).length := by
    simp [lengthWord]
  obtain ⟨-, hpayload⟩ := List.append_inj heq hwidth
  dsimp only at hflow haction hdigest houtcome hobserved hpayload
  rw [hflow, haction, hdigest, houtcome, hobserved, hpayload]

theorem behindDomain_injective : ∀ binding : Binding, Function.Injective binding.behindDomain
  | .exchange => exchange_injective
  | .flow => flow_injective
  | .observation => observation_injective

/-- The strings that the three digests hash are different for different data, be
it of one digest or of two.  Of data on whose strings the hash has no collision,
equal digests are therefore digests of the same data under the same domain. -/
theorem preimages_injective :
    (Function.Injective fun bound : (binding : Binding) × binding.Data =>
      bound.1.preimage bound.2) ∧
    ∀ (sha256 : Sha256) (data : Set ((binding : Binding) × binding.Data)),
      Set.InjOn sha256 ((fun bound => bound.1.preimage bound.2) '' data) →
        Set.InjOn (fun bound => bound.1.digest sha256 bound.2) data := by
  have hinjective : Function.Injective fun bound : (binding : Binding) × binding.Data =>
      bound.1.preimage bound.2 := by
    simp only [preimage_eq]
    exact tagged_injective domain_prefix behindDomain_injective
  refine ⟨hinjective, ?_⟩
  rintro sha256 data hfree left hleft right hright heq
  simp only [digest_eq] at heq
  exact hinjective (hfree (Set.mem_image_of_mem _ hleft) (Set.mem_image_of_mem _ hright) heq)

end Binding
end Ceylith
end Lirvena
