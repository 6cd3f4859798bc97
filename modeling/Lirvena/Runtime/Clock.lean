import Lirvena.Lib.Result

/-!
# The clock

A reading of the system clock: the milliseconds since 1970, or none for a time
before it.
-/

namespace Lirvena
namespace Runtime

open Lib

abbrev Clock := Option Nat

inductive ClockError where
  | precedesEpoch
  | overflow
  deriving DecidableEq

def nowMs : Clock → Except ClockError UInt64
  | none => .error .precedesEpoch
  | some elapsed =>
      if elapsed < u64Bound then .ok (UInt64.ofNat elapsed) else .error .overflow

def nowSeconds (clock : Clock) : Except ClockError UInt32 := do
  let now ← nowMs clock
  rejectIf .overflow (u32Bound ≤ now.toNat / 1000)
  return UInt32.ofNat (now.toNat / 1000)

/-- The reading is a time that the message store can keep. -/
def ClockFits (clock : Clock) : Prop :=
  ∃ elapsed, clock = some elapsed ∧ elapsed ≠ 0 ∧ elapsed < i64Bound

theorem nowMs_eq_ok_iff {clock : Clock} {now : UInt64} :
    nowMs clock = .ok now ↔ clock = some now.toNat := by
  have hlt : now.toNat < u64Bound := now.toNat_lt
  cases clock with
  | none => simp [nowMs]
  | some elapsed =>
      rw [nowMs, Option.some.injEq]
      constructor
      · intro hnow
        split at hnow
        · next hfits =>
            cases hnow
            rw [UInt64.toNat_ofNat']
            exact (Nat.mod_eq_of_lt hfits).symm
        · cases hnow
      · rintro rfl
        rw [if_pos hlt, UInt64.ofNat_toNat]

theorem clockFits_iff {clock : Clock} :
    ClockFits clock ↔ ∃ now, nowMs clock = .ok now ∧ now ≠ 0 ∧ now.toNat < i64Bound := by
  constructor
  · rintro ⟨elapsed, rfl, hne, hsmall⟩
    have hnat : (UInt64.ofNat elapsed).toNat = elapsed := by
      rw [UInt64.toNat_ofNat']
      unfold i64Bound at hsmall
      omega
    refine ⟨UInt64.ofNat elapsed, nowMs_eq_ok_iff.mpr (by rw [hnat]), ?_, by rwa [hnat]⟩
    intro hzero
    apply hne
    rw [← hnat, hzero]
    rfl
  · rintro ⟨now, hnow, hne, hsmall⟩
    refine ⟨now.toNat, nowMs_eq_ok_iff.mp hnow, ?_, hsmall⟩
    intro hzero
    exact hne (UInt64.toNat_inj.mp hzero)

end Runtime
end Lirvena
