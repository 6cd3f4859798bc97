import Lirvena.Ceylith.ValidateInner
import Mathlib.Algebra.BigOperators.Group.List.Basic

/-!
# Slots on the wire

The rule for the slots of a frame is written twice: the validator of inner frames
checks the wire form, and `OpaqueSlots` is built from it.  The two agree on the
identifiers and on every bound, and differ on one thing: the validator lets a slot
without a value pass, which no `OpaqueSlot` can hold.
-/

namespace Lirvena
namespace Ceylith

open Lib

/-! ## The validator -/

/-- What the loop of the validator leaves: the keys are new and pairwise
different, every value is within the limit, and the total is the sum. -/
structure Distinct {Entry Key : Type} (key : Entry → Except CodecError Key)
    (value : Entry → List UInt8) (limit : Nat) (unique : List Key) (entries : List Entry)
    (keys : List Key) : Prop where
  keys_eq : entries.mapM key = .ok keys
  new : ∀ inserted ∈ keys, inserted ∉ unique
  nodup : keys.Nodup
  bounded : ∀ entry ∈ entries, (value entry).length ≤ limit

/-- The first entry's key joins those seen, and the rest is judged against all of them. -/
theorem distinct_cons_iff {Entry Key : Type} {key : Entry → Except CodecError Key}
    {value : Entry → List UInt8} {limit : Nat} {unique : List Key} {entry : Entry}
    {rest : List Entry} :
    (∃ keys, Distinct key value limit unique (entry :: rest) keys) ↔
      ∃ inserted, key entry = .ok inserted ∧ inserted ∉ unique ∧
        (value entry).length ≤ limit ∧
        ∃ others, Distinct key value limit (inserted :: unique) rest others := by
  constructor
  · rintro ⟨keys, hkeys, hnew, hnodup, hbounded⟩
    rw [List.mapM_cons] at hkeys
    obtain ⟨inserted, hkey, hkeys⟩ := bind_eq_ok_iff.mp hkeys
    obtain ⟨others, hothers, hkeys⟩ := bind_eq_ok_iff.mp hkeys
    cases hkeys
    obtain ⟨hfresh, hnodup⟩ := List.nodup_cons.mp hnodup
    obtain ⟨hbound, hbounded⟩ := List.forall_mem_cons.mp hbounded
    refine ⟨inserted, hkey, hnew inserted List.mem_cons_self, hbound,
      others, hothers, ?_, hnodup, hbounded⟩
    intro other hother hmem
    rcases List.mem_cons.mp hmem with rfl | hbefore
    · exact hfresh hother
    · exact hnew other (List.mem_cons_of_mem _ hother) hbefore
  · rintro ⟨inserted, hkey, hnew, hbound, others, hothers⟩
    refine ⟨inserted :: others, ?_, ?_, ?_, ?_⟩
    · rw [List.mapM_cons]
      exact bind_eq_ok_iff.mpr ⟨_, hkey, bind_eq_ok_iff.mpr ⟨_, hothers.keys_eq, rfl⟩⟩
    · intro other hother
      rcases List.mem_cons.mp hother with rfl | hlater
      · exact hnew
      · exact fun hmem => hothers.new other hlater (List.mem_cons_of_mem _ hmem)
    · exact List.nodup_cons.mpr
        ⟨fun hmem => hothers.new inserted hmem List.mem_cons_self, hothers.nodup⟩
    · exact List.forall_mem_cons.mpr ⟨hbound, hothers.bounded⟩

theorem validateEntries_eq_ok_iff {Entry Key : Type} [DecidableEq Key]
    {key : Entry → Except CodecError Key} {value : Entry → List UInt8} {limit : Nat}
    {unique : List Key} {aggregate total : Nat} {entries : List Entry}
    (haggregate : aggregate < u64Bound) :
    validateEntries key value limit unique aggregate entries = .ok total ↔
      (∃ keys, Distinct key value limit unique entries keys) ∧ total < u64Bound ∧
        total = aggregate + (entries.map fun entry => (value entry).length).sum := by
  induction entries generalizing unique aggregate with
  | nil =>
      constructor
      · intro hvalid
        cases hvalid
        exact ⟨⟨[], rfl, by simp, List.nodup_nil, by simp⟩, haggregate, rfl⟩
      · rintro ⟨-, -, rfl⟩
        rfl
  | cons entry rest ih =>
      have hsum : ((entry :: rest).map fun entry => (value entry).length).sum =
          (value entry).length + (rest.map fun entry => (value entry).length).sum := by
        rw [List.map_cons, List.sum_cons]
      rw [distinct_cons_iff, hsum]
      unfold validateEntries
      constructor
      · intro hvalid
        obtain ⟨inserted, hkey, hvalid⟩ := bind_eq_ok_iff.mp hvalid
        obtain ⟨⟨⟩, hnew, hvalid⟩ := bind_eq_ok_iff.mp hvalid
        obtain ⟨⟨⟩, hbound, hvalid⟩ := bind_eq_ok_iff.mp hvalid
        obtain ⟨sum, hsum, hvalid⟩ := bind_eq_ok_iff.mp hvalid
        obtain ⟨hfits, rfl⟩ := checkedAddU64_eq_some_iff.mp (okOr_eq_ok_iff.mp hsum)
        obtain ⟨hothers, htotal, rfl⟩ := (ih hfits).mp hvalid
        exact ⟨⟨inserted, hkey, rejectIf_eq_ok_iff.mp hnew, enforceLimit_eq_ok_iff.mp hbound,
          hothers⟩, htotal, Nat.add_assoc _ _ _⟩
      · rintro ⟨⟨inserted, hkey, hnew, hbound, hothers⟩, htotal, rfl⟩
        -- The running sum is at most the total, which fits.
        have hfits : aggregate + (value entry).length < u64Bound := by omega
        refine bind_eq_ok_iff.mpr ⟨inserted, hkey, ?_⟩
        refine bind_eq_ok_iff.mpr ⟨(), rejectIf_eq_ok_iff.mpr hnew, ?_⟩
        refine bind_eq_ok_iff.mpr ⟨(), enforceLimit_eq_ok_iff.mpr hbound, ?_⟩
        refine bind_eq_ok_iff.mpr ⟨_, okOr_eq_ok_iff.mpr
          (checkedAddU64_eq_some_iff.mpr ⟨hfits, rfl⟩), ?_⟩
        exact (ih hfits).mpr ⟨hothers, htotal, (Nat.add_assoc _ _ _).symm⟩

/-- The rules that the validator and the collection share, and that there is a
slot. -/
structure WithinBounds (slots : List Proto.OpaqueSlot) : Prop where
  nonempty : slots ≠ []
  length_le : slots.length ≤ maxOpaqueSlots
  ids : ∀ slot ∈ slots, slot.slot ≠ 0
  nodup : (slots.map Proto.OpaqueSlot.slot).Nodup
  values : ∀ slot ∈ slots, slot.value.length ≤ maxOpaqueSlotLen
  aggregate : (slots.map fun slot => slot.value.length).sum ≤ maxOpaqueAggregateLen

theorem slotKey_eq_ok_iff (slot : Proto.OpaqueSlot) (key : UInt32) :
    slotKey slot = .ok key ↔ slot.slot ≠ 0 ∧ key = slot.slot := by
  unfold slotKey
  rw [bind_eq_ok_iff]
  constructor
  · rintro ⟨⟨⟩, hzero, hkey⟩
    cases hkey
    exact ⟨rejectIf_eq_ok_iff.mp hzero, rfl⟩
  · rintro ⟨hzero, rfl⟩
    exact ⟨(), rejectIf_eq_ok_iff.mpr hzero, rfl⟩

theorem validateSlots_eq_ok_iff {slots : List Proto.OpaqueSlot} :
    validateSlots slots = .ok () ↔ WithinBounds slots := by
  unfold validateSlots
  constructor
  · intro hvalid
    obtain ⟨⟨⟩, hcount, hvalid⟩ := bind_eq_ok_iff.mp hvalid
    obtain ⟨total, hentries, hvalid⟩ := bind_eq_ok_iff.mp hvalid
    obtain ⟨hnonempty, hlength⟩ := not_or.mp (rejectIf_eq_ok_iff.mp hcount)
    obtain ⟨⟨keys, hkeys⟩, -, rfl⟩ := (validateEntries_eq_ok_iff (by decide)).mp hentries
    obtain ⟨hids, rfl⟩ := (mapM_eq_ok_iff slotKey_eq_ok_iff).mp hkeys.keys_eq
    have haggregate := enforceLimit_eq_ok_iff.mp hvalid
    rw [Nat.zero_add] at haggregate
    exact ⟨hnonempty, Nat.le_of_not_lt hlength, hids, hkeys.nodup, hkeys.bounded, haggregate⟩
  · rintro ⟨hnonempty, hlength, hids, hnodup, hvalues, haggregate⟩
    refine bind_eq_ok_iff.mpr ⟨(), rejectIf_eq_ok_iff.mpr ?_, ?_⟩
    · exact not_or.mpr ⟨hnonempty, Nat.not_lt.mpr hlength⟩
    refine bind_eq_ok_iff.mpr ⟨(slots.map fun slot => slot.value.length).sum, ?_,
      enforceLimit_eq_ok_iff.mpr haggregate⟩
    refine (validateEntries_eq_ok_iff (by decide)).mpr
      ⟨⟨_, (mapM_eq_ok_iff slotKey_eq_ok_iff).mpr ⟨hids, rfl⟩, by simp, hnodup, hvalues⟩, ?_, ?_⟩
    · exact haggregate.trans_lt (by decide)
    · rw [Nat.zero_add]

/-! ## The collection -/

def OpaqueSlot.toWire (slot : OpaqueSlot) : Proto.OpaqueSlot :=
  ⟨slot.id.value, slot.value⟩

/-- Copies the validated slots into their generated wire representation. -/
def OpaqueSlots.toWire (slots : OpaqueSlots) : List Proto.OpaqueSlot :=
  slots.slots.map OpaqueSlot.toWire

theorem OpaqueSlotId.new_eq_ok_iff {value : UInt32} {id : OpaqueSlotId} :
    OpaqueSlotId.new value = .ok id ↔ id.value = value := by
  unfold OpaqueSlotId.new
  split
  · next hzero =>
      constructor
      · intro hnew
        cases hnew
      · rintro rfl
        exact absurd hzero id.value_ne_zero
  · constructor
    · intro hnew
      cases hnew
      rfl
    · rintro rfl
      rfl

theorem OpaqueSlot.new_eq_ok_iff {id : OpaqueSlotId} {value : List UInt8} {slot : OpaqueSlot} :
    OpaqueSlot.new id value = .ok slot ↔ slot.id = id ∧ slot.value = value := by
  unfold OpaqueSlot.new
  split
  · next hnil =>
      constructor
      · intro hnew
        cases hnew
      · rintro ⟨-, rfl⟩
        exact absurd hnil slot.value_ne_nil
  · split
    · next hlong =>
        constructor
        · intro hnew
          cases hnew
        · rintro ⟨-, rfl⟩
          exact absurd slot.length_le (Nat.not_le_of_lt hlong)
    · constructor
      · intro hnew
        cases hnew
        exact ⟨rfl, rfl⟩
      · rintro ⟨rfl, rfl⟩
        rfl

/-- One slot of the wire form, as `from_wire` reads it. -/
def OpaqueSlot.fromWire (slot : Proto.OpaqueSlot) : Except OpaqueError OpaqueSlot := do
  let id ← OpaqueSlotId.new slot.slot
  OpaqueSlot.new id slot.value

theorem OpaqueSlot.fromWire_eq_ok_iff (wire : Proto.OpaqueSlot) (slot : OpaqueSlot) :
    OpaqueSlot.fromWire wire = .ok slot ↔ slot.toWire = wire := by
  unfold OpaqueSlot.fromWire
  rw [bind_eq_ok_iff]
  constructor
  · rintro ⟨id, hid, hslot⟩
    obtain ⟨rfl, hvalue⟩ := OpaqueSlot.new_eq_ok_iff.mp hslot
    rw [toWire, OpaqueSlotId.new_eq_ok_iff.mp hid, hvalue]
  · rintro rfl
    exact ⟨slot.id, OpaqueSlotId.new_eq_ok_iff.mpr rfl,
      OpaqueSlot.new_eq_ok_iff.mpr ⟨rfl, rfl⟩⟩

theorem OpaqueSlots.fromWire_eq_ok_iff {wire : List Proto.OpaqueSlot} {built : OpaqueSlots} :
    OpaqueSlots.fromWire wire = .ok built ↔
      ∃ decoded : List OpaqueSlot, decoded.map OpaqueSlot.toWire = wire ∧
        OpaqueSlots.new decoded = .ok built := by
  show (wire.mapM OpaqueSlot.fromWire >>= OpaqueSlots.new) = .ok built ↔ _
  rw [bind_eq_ok_iff]
  constructor
  · rintro ⟨decoded, hdecoded, hnew⟩
    exact ⟨decoded, (mapM_eq_ok_iff_map OpaqueSlot.fromWire_eq_ok_iff).mp hdecoded, hnew⟩
  · rintro ⟨decoded, hdecoded, hnew⟩
    exact ⟨decoded, (mapM_eq_ok_iff_map OpaqueSlot.fromWire_eq_ok_iff).mpr hdecoded, hnew⟩

/-- Slots in strict order have no equal neighbours. -/
theorem equalNeighbours_of_sorted {slots : List OpaqueSlot}
    (hsorted : slots.Pairwise fun left right => left.id.value.toNat < right.id.value.toNat) :
    equalNeighbours slots = false := by
  induction slots with
  | nil => rfl
  | cons first rest ih =>
      cases rest with
      | nil => rfl
      | cons second tail =>
          obtain ⟨hfirst, hrest⟩ := List.pairwise_cons.mp hsorted
          have hne : (first.id == second.id) = false := by
            rw [beq_eq_false_iff_ne]
            intro hid
            have hlt := hfirst second List.mem_cons_self
            rw [hid] at hlt
            exact Nat.lt_irrefl _ hlt
          show (first.id == second.id || equalNeighbours (second :: tail)) = false
          rw [hne, ih hrest]
          rfl

/-- The identifiers of sorted slots are strictly ordered exactly when they are
different. -/
theorem equalNeighbours_sorted_iff {slots : List OpaqueSlot} :
    equalNeighbours (slots.insertionSort OpaqueSlot.NotAfter) = false ↔
      (slots.map OpaqueSlot.id).Nodup := by
  have hperm := (List.perm_insertionSort OpaqueSlot.NotAfter slots).map OpaqueSlot.id
  have hsorted := List.pairwise_insertionSort OpaqueSlot.NotAfter slots
  rw [← hperm.nodup_iff]
  constructor
  · intro hequal
    have hstrict := pairwise_of_no_equalNeighbours hsorted hequal
    refine List.pairwise_map.mpr (hstrict.imp ?_)
    intro left right hlt hid
    rw [hid] at hlt
    exact Nat.lt_irrefl _ hlt
  · intro hnodup
    refine equalNeighbours_of_sorted ?_
    have hne := List.pairwise_map.mp hnodup
    refine (hsorted.and hne).imp ?_
    rintro left right ⟨hle, hid⟩
    exact Nat.lt_of_le_of_ne hle fun heq => hid (OpaqueSlotId.ext (UInt32.toNat_inj.mp heq))

theorem aggregateLen_sorted (slots : List OpaqueSlot) :
    aggregateLen (slots.insertionSort OpaqueSlot.NotAfter) = aggregateLen slots :=
  ((List.perm_insertionSort OpaqueSlot.NotAfter slots).map _).sum_eq

/-- The collection is built exactly from few, different and bounded slots. -/
theorem OpaqueSlots.new_isOk_iff {slots : List OpaqueSlot} :
    (∃ built, OpaqueSlots.new slots = .ok built) ↔
      slots.length ≤ maxOpaqueSlots ∧ (slots.map OpaqueSlot.id).Nodup ∧
        aggregateLen slots ≤ maxOpaqueAggregateLen := by
  -- The source looks for equal neighbours after the sort, and sums what it sorted.
  rw [← equalNeighbours_sorted_iff, ← aggregateLen_sorted]
  unfold OpaqueSlots.new
  dsimp only
  split
  · next hlength =>
      constructor
      · rintro ⟨built, hnew⟩
        cases hnew
      · rintro ⟨hle, -, -⟩
        omega
  · next hlength =>
      split
      · next hequal =>
          constructor
          · rintro ⟨built, hnew⟩
            cases hnew
          · rintro ⟨-, hnone, -⟩
            rw [hequal] at hnone
            cases hnone
      · next hequal =>
          split
          · next haggregate =>
              constructor
              · rintro ⟨built, hnew⟩
                cases hnew
              · rintro ⟨-, -, hle⟩
                omega
          · next haggregate =>
              constructor
              · intro _
                exact ⟨Nat.le_of_not_lt hlength, Bool.eq_false_of_not_eq_true hequal,
                  Nat.le_of_not_lt haggregate⟩
              · intro _
                exact ⟨_, rfl⟩

/-! ## Agreement -/

/-- A list of the wire form is that of slots exactly when every identifier and
every value can be one. -/
theorem exists_map_toWire {wire : List Proto.OpaqueSlot} :
    (∃ decoded : List OpaqueSlot, decoded.map OpaqueSlot.toWire = wire) ↔
      ∀ slot ∈ wire, slot.slot ≠ 0 ∧ slot.value ≠ [] ∧ slot.value.length ≤ maxOpaqueSlotLen := by
  constructor
  · rintro ⟨decoded, rfl⟩ slot hslot
    obtain ⟨original, -, rfl⟩ := List.mem_map.mp hslot
    exact ⟨original.id.value_ne_zero, original.value_ne_nil, original.length_le⟩
  · intro hslots
    induction wire with
    | nil => exact ⟨[], rfl⟩
    | cons slot rest ih =>
        obtain ⟨⟨hid, hnil, hlength⟩, hrest⟩ := List.forall_mem_cons.mp hslots
        obtain ⟨decoded, hdecoded⟩ := ih hrest
        refine ⟨⟨⟨slot.slot, hid⟩, slot.value, hnil, hlength⟩ :: decoded, ?_⟩
        rw [List.map_cons, hdecoded]
        rfl

theorem nodup_map_toWire (decoded : List OpaqueSlot) :
    ((decoded.map OpaqueSlot.toWire).map Proto.OpaqueSlot.slot).Nodup ↔
      (decoded.map OpaqueSlot.id).Nodup := by
  have hmap : (decoded.map OpaqueSlot.toWire).map Proto.OpaqueSlot.slot =
      (decoded.map OpaqueSlot.id).map OpaqueSlotId.value := by
    rw [List.map_map, List.map_map]
    rfl
  rw [hmap]
  exact List.nodup_map_iff fun left right heq => OpaqueSlotId.ext heq

theorem aggregateLen_map_toWire (decoded : List OpaqueSlot) :
    ((decoded.map OpaqueSlot.toWire).map fun slot => slot.value.length).sum =
      aggregateLen decoded := by
  rw [List.map_map]
  rfl

/-- Conversion asks for what the validator asks for, and for a value in every
slot. -/
theorem fromWire_isOk_iff {wire : List Proto.OpaqueSlot} (hnonempty : wire ≠ []) :
    (∃ built, OpaqueSlots.fromWire wire = .ok built) ↔
      WithinBounds wire ∧ ∀ slot ∈ wire, slot.value ≠ [] := by
  constructor
  · rintro ⟨built, hbuilt⟩
    obtain ⟨decoded, rfl, hnew⟩ := OpaqueSlots.fromWire_eq_ok_iff.mp hbuilt
    obtain ⟨hlength, hnodup, haggregate⟩ := OpaqueSlots.new_isOk_iff.mp ⟨built, hnew⟩
    have hslots := exists_map_toWire.mp ⟨decoded, rfl⟩
    refine ⟨⟨hnonempty, ?_, fun slot hslot => (hslots slot hslot).1,
      (nodup_map_toWire decoded).mpr hnodup, fun slot hslot => (hslots slot hslot).2.2, ?_⟩,
      fun slot hslot => (hslots slot hslot).2.1⟩
    · rw [List.length_map]
      exact hlength
    · rw [aggregateLen_map_toWire]
      exact haggregate
  · rintro ⟨⟨-, hlength, hids, hnodup, hvalues, haggregate⟩, hfilled⟩
    obtain ⟨decoded, rfl⟩ := exists_map_toWire.mpr fun slot hslot =>
      ⟨hids slot hslot, hfilled slot hslot, hvalues slot hslot⟩
    rw [List.length_map] at hlength
    rw [aggregateLen_map_toWire] at haggregate
    obtain ⟨built, hnew⟩ := OpaqueSlots.new_isOk_iff.mpr
      ⟨hlength, (nodup_map_toWire decoded).mp hnodup, haggregate⟩
    exact ⟨built, OpaqueSlots.fromWire_eq_ok_iff.mpr ⟨decoded, rfl, hnew⟩⟩

/-- The validator accepts what can be converted, and nothing else, unless the list
is within all bounds and a slot of it has no value. -/
theorem validateSlots_agrees_iff (slots : List Proto.OpaqueSlot) :
    (validateSlots slots = .ok () ↔
        slots ≠ [] ∧ ∃ built, OpaqueSlots.fromWire slots = .ok built) ↔
      ¬ (WithinBounds slots ∧ ∃ slot ∈ slots, slot.value = []) := by
  rw [validateSlots_eq_ok_iff]
  constructor
  · rintro hagrees ⟨hbounds, slot, hslot, hnil⟩
    obtain ⟨hnonempty, hbuilt⟩ := hagrees.mp hbounds
    exact ((fromWire_isOk_iff hnonempty).mp hbuilt).2 slot hslot hnil
  · intro hfilled
    constructor
    · intro hbounds
      refine ⟨hbounds.nonempty, (fromWire_isOk_iff hbounds.nonempty).mpr ⟨hbounds, ?_⟩⟩
      intro slot hslot hnil
      exact hfilled ⟨hbounds, slot, hslot, hnil⟩
    · rintro ⟨hnonempty, hbuilt⟩
      exact ((fromWire_isOk_iff hnonempty).mp hbuilt).1

/-- A slot without a value is accepted in a response, which then cannot be
converted. -/
theorem empty_value_not_converted :
    validateInner (fun _ => ⟨List.replicate 32 0, rfl⟩)
        ⟨4, some (.opaqueExchangeResponse
          ⟨List.replicate 16 1, 1, [⟨1, []⟩], 1, List.replicate 32 2⟩)⟩ = .ok () ∧
      validateSlots [⟨1, []⟩] = .ok () ∧
      (OpaqueSlots.fromWire [⟨1, []⟩]).toOption.isNone = true := by
  decide

/-- The slots of a collection build it again. -/
theorem OpaqueSlots.new_slots (slots : OpaqueSlots) :
    OpaqueSlots.new slots.slots = .ok slots := by
  have hsort : slots.slots.insertionSort OpaqueSlot.NotAfter = slots.slots :=
    (slots.sorted.imp fun hlt => Nat.le_of_lt hlt).insertionSort_eq
  have hlength := Nat.not_lt.mpr slots.length_le
  have haggregate := Nat.not_lt.mpr slots.aggregate_le
  have hequal : ¬ equalNeighbours slots.slots = true := by
    rw [equalNeighbours_of_sorted slots.sorted]
    decide
  unfold OpaqueSlots.new
  simp only [hsort, dif_neg hlength, dif_neg hequal, dif_neg haggregate]

/-- The slots of a collection are converted back to it. -/
theorem OpaqueSlots.fromWire_toWire (slots : OpaqueSlots) :
    OpaqueSlots.fromWire slots.toWire = .ok slots :=
  OpaqueSlots.fromWire_eq_ok_iff.mpr ⟨slots.slots, rfl, slots.new_slots⟩

end Ceylith
end Lirvena
