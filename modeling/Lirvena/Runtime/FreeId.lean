import Lirvena.Runtime.MessageRegistry

/-!
# The search for a free identifier

The loop of `next_id` has no bound in the source.  It ends because the identifiers that
it probes are a cycle of `2 ^ 31 - 1` and the store has far fewer rows.  Only a start
within the cycle keeps the result there: the mask that keeps it is that of the callers.
-/

namespace Lirvena
namespace Runtime

open Lib
open Store

namespace MessageRegistry

/-- Where the loop of `next_id` begins. -/
def firstProbed (preferred : UInt32) : UInt32 :=
  if preferred = 0 then 1 else preferred

/-- The loop of `next_id`, cut off after so many rounds. -/
def nextIdLoop (registry : MessageRegistry) (rounds : Nat) (preferred : UInt32) :
    Option UInt32 :=
  probe registry.store.contains followingId rounds (firstProbed preferred)

/-- What the loop does from a preferred identifier. -/
structure FindsFree (registry : MessageRegistry) (preferred found : UInt32) : Prop where
  ends : ∀ rounds, registry.store.rows.length < rounds →
    registry.nextIdLoop rounds preferred = some found
  unused : ∀ row ∈ registry.store.rows, row.messageId ≠ intColumn found
  valid_iff : ValidId found ↔ preferred.toNat < 2 ^ 31
  /-- The first free identifier of the cycle. -/
  cyclic : preferred.toNat < 2 ^ 31 → ∃ moves ≤ registry.store.rows.length,
    found.toNat = ((firstProbed preferred).toNat - 1 + moves) % (2 ^ 31 - 1) + 1 ∧
      ∀ earlier < moves,
        registry.store.contains (followingId^[earlier] (firstProbed preferred)) = true
  beyond : 2 ^ 31 ≤ preferred.toNat → found = preferred

theorem contains_eq_false_iff {store : MessageStore} {messageId : UInt32} :
    store.contains messageId = false ↔
      ∀ row ∈ store.rows, row.messageId ≠ intColumn messageId := by
  unfold MessageStore.contains
  simp

/-- The identifiers of stored rows are valid. -/
theorem validId_of_contains {store : MessageStore} {messageId : UInt32}
    (hcontains : store.contains messageId = true) : ValidId messageId := by
  obtain ⟨row, hrow, hid⟩ := List.any_eq_true.mp hcontains
  obtain ⟨record, hrecord⟩ := store.stored row hrow
  obtain ⟨quoteElements, -, hrecord⟩ := bind_eq_ok_iff.mp hrecord
  obtain ⟨insertedAtMs, -, hrecord⟩ := bind_eq_ok_iff.mp hrecord
  cases hrecord
  obtain rfl : record.messageId = messageId := intColumn_injective (of_decide_eq_true hid)
  obtain ⟨hne, hle, -⟩ := validRecord_iff.mp record.valid
  exact ⟨hne, hle⟩

theorem firstProbed_valid_iff {preferred : UInt32} :
    ValidId (firstProbed preferred) ↔ preferred.toNat < 2 ^ 31 := by
  unfold firstProbed
  by_cases hzero : preferred = 0
  · rw [if_pos hzero, hzero]
    exact iff_of_true ⟨by decide, by decide⟩ (by decide)
  · have hpos : preferred.toNat ≠ 0 := fun hnat => hzero (UInt32.toNat_inj.mp hnat)
    rw [if_neg hzero, validId_iff]
    omega

/-- A start behind the identifiers is free, and stays as it is. -/
theorem nextId_of_not_valid {registry : MessageRegistry} {preferred : UInt32}
    (hinvalid : ¬ ValidId (firstProbed preferred)) :
    registry.nextId preferred = firstProbed preferred ∧
      registry.store.contains (firstProbed preferred) = false := by
  have hfree : registry.store.contains (firstProbed preferred) = false :=
    Bool.eq_false_iff.mpr fun hcontains => hinvalid (validId_of_contains hcontains)
  refine ⟨?_, hfree⟩
  show firstFree registry.store.contains followingId _ (firstProbed preferred) = _
  cases registry.store.rows.length with
  | zero => rfl
  | succ fuel => rw [firstFree, if_neg (Bool.eq_false_iff.mp hfree)]

/-- Every start ends the search at a free identifier. -/
theorem nextId_not_contained (registry : MessageRegistry) (preferred : UInt32) :
    registry.store.contains (registry.nextId preferred) = false := by
  by_cases hvalid : ValidId (firstProbed preferred)
  · exact registry.nextId_free_of_valid hvalid
  · obtain ⟨hkept, hfree⟩ := nextId_of_not_valid hvalid
    rw [hkept]
    exact hfree

theorem nextIdLoop_ends (registry : MessageRegistry) (preferred : UInt32) {rounds : Nat}
    (hrounds : registry.store.rows.length < rounds) :
    registry.nextIdLoop rounds preferred = some (registry.nextId preferred) :=
  probe_of_firstFree (registry.nextId_not_contained preferred) hrounds

/-- The identifier is so many moves behind the start, in the cycle of the identifiers. -/
theorem nextId_cyclic {registry : MessageRegistry} {preferred : UInt32}
    (hvalid : ValidId (firstProbed preferred)) :
    ∃ moves ≤ registry.store.rows.length,
      (registry.nextId preferred).toNat =
          ((firstProbed preferred).toNat - 1 + moves) % (2 ^ 31 - 1) + 1 ∧
        ∀ earlier < moves,
          registry.store.contains (followingId^[earlier] (firstProbed preferred)) = true := by
  obtain ⟨moves, hmoves, htaken, -, hfound⟩ :=
    probe_eq_some_iff.mp (registry.nextIdLoop_ends preferred (Nat.lt_succ_self _))
  refine ⟨moves, Nat.le_of_lt_succ hmoves, ?_, htaken⟩
  rw [← hfound]
  exact (iterate_followingId hvalid moves).2

theorem nextId_valid_iff (registry : MessageRegistry) (preferred : UInt32) :
    ValidId (registry.nextId preferred) ↔ preferred.toNat < 2 ^ 31 := by
  rw [← firstProbed_valid_iff]
  by_cases hvalid : ValidId (firstProbed preferred)
  · exact iff_of_true (firstFree_mem (fun _ hid => followingId_valid hid) hvalid _) hvalid
  · rw [(nextId_of_not_valid hvalid).1]

theorem nextId_findsFree (registry : MessageRegistry) (preferred : UInt32) :
    FindsFree registry preferred (registry.nextId preferred) where
  ends := fun _ hrounds => registry.nextIdLoop_ends preferred hrounds
  unused := contains_eq_false_iff.mp (registry.nextId_not_contained preferred)
  valid_iff := registry.nextId_valid_iff preferred
  cyclic := fun hsmall => nextId_cyclic (firstProbed_valid_iff.mpr hsmall)
  beyond := by
    intro hlarge
    have hinvalid : ¬ ValidId (firstProbed preferred) := by
      rw [firstProbed_valid_iff]
      omega
    have hne : preferred ≠ 0 := by
      rintro rfl
      exact absurd hlarge (by decide)
    rw [(nextId_of_not_valid hinvalid).1]
    exact if_neg hne

/-- Every start ends the loop at an identifier that no row has.  It is one that a record
may carry exactly when the start is below `2 ^ 31`, as that of every caller is. -/
theorem next_id_finds_free (registry : MessageRegistry) :
    (∀ preferred, FindsFree registry preferred (registry.nextId preferred)) ∧
      ∀ sequence, ValidId (registry.nextId (preferredId sequence)) :=
  ⟨registry.nextId_findsFree, registry.nextId_valid⟩

/-- A start behind the identifiers is returned. -/
theorem large_start_returned :
    (MessageRegistry.mk MessageStore.empty).nextIdLoop 1 0x80000000 = some 0x80000000 ∧
      ¬ ValidId 0x80000000 :=
  ⟨by decide, fun hvalid => absurd hvalid.2 (by decide)⟩

end MessageRegistry
end Runtime
end Lirvena
