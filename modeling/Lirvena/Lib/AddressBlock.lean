import Mathlib.Data.Nat.Bitwise
import Mathlib.Tactic.Ring

/-!
# Blocks of addresses that share their leading bits

An address of `width` bits is its number, and a block holds the addresses whose
leading `length` bits are the block's network.  A block of short addresses placed
under a fixed front is a block of long ones.
-/

namespace Lirvena
namespace Lib

structure AddressBlock (width : Nat) where
  network : Nat
  length : Nat
  network_lt : network < 2 ^ length
  length_le : length ≤ width

namespace AddressBlock

variable {width : Nat}

def contains (block : AddressBlock width) (address : Nat) : Bool :=
  address / 2 ^ (width - block.length) == block.network

theorem contains_iff {block : AddressBlock width} {address : Nat} :
    block.contains address = true ↔
      address / 2 ^ (width - block.length) = block.network := by
  simp [contains]

/-- The block under a front of `extra` bits. -/
def embed (block : AddressBlock width) (front extra : Nat) (hfront : front < 2 ^ extra) :
    AddressBlock (extra + width) where
  network := front * 2 ^ block.length + block.network
  length := extra + block.length
  network_lt := by
    have hnetwork := block.network_lt
    have hstep : (front + 1) * 2 ^ block.length ≤ 2 ^ extra * 2 ^ block.length :=
      Nat.mul_le_mul_right _ hfront
    rw [pow_add]
    calc front * 2 ^ block.length + block.network
        < front * 2 ^ block.length + 2 ^ block.length := by omega
      _ = (front + 1) * 2 ^ block.length := by ring
      _ ≤ 2 ^ extra * 2 ^ block.length := hstep
  length_le := Nat.add_le_add_left block.length_le extra

/-- A long address is in the embedded block exactly when it has the front and its
end is in the block. -/
theorem contains_embed {block : AddressBlock width} {front extra : Nat}
    {hfront : front < 2 ^ extra} {address : Nat} :
    (block.embed front extra hfront).contains address = true ↔
      address / 2 ^ width = front ∧ block.contains (address % 2 ^ width) = true := by
  have hwidth : 2 ^ (width - block.length) * 2 ^ block.length = 2 ^ width := by
    rw [← pow_add, Nat.sub_add_cancel block.length_le]
  have hhost : 0 < 2 ^ (width - block.length) := Nat.two_pow_pos _
  have hsplit : address / 2 ^ (width - block.length) =
      address / 2 ^ width * 2 ^ block.length +
        address % 2 ^ width / 2 ^ (width - block.length) := by
    -- The bits below the network are cut off from the front and the end alike.
    conv_lhs => rw [← Nat.div_add_mod address (2 ^ width), ← hwidth]
    rw [Nat.mul_assoc, Nat.mul_add_div hhost, Nat.mul_comm (2 ^ block.length), hwidth]
  have hend : address % 2 ^ width / 2 ^ (width - block.length) < 2 ^ block.length := by
    apply Nat.div_lt_of_lt_mul
    rw [hwidth]
    exact Nat.mod_lt _ (Nat.two_pow_pos _)
  have hlength : extra + width - (extra + block.length) = width - block.length := by omega
  simp only [contains_iff, embed, hlength, hsplit]
  constructor
  · intro heq
    have hfronts := congrArg (· / 2 ^ block.length) heq
    simp only [Nat.mul_comm _ (2 ^ block.length), Nat.mul_add_div (Nat.two_pow_pos _),
      Nat.div_eq_of_lt hend, Nat.div_eq_of_lt block.network_lt, Nat.add_zero] at hfronts
    refine ⟨hfronts, ?_⟩
    rw [hfronts] at heq
    exact Nat.add_left_cancel heq
  · rintro ⟨hfronts, hnetwork⟩
    rw [hfronts, hnetwork]

end AddressBlock

/-- Masking the low bits of a number clears them. -/
theorem and_highMask {value high low : Nat} (hvalue : value < 2 ^ (high + low)) :
    value &&& ((2 ^ high - 1) <<< low) = value / 2 ^ low * 2 ^ low := by
  rw [← Nat.shiftRight_eq_div_pow, ← Nat.shiftLeft_eq]
  apply Nat.eq_of_testBit_eq
  intro index
  simp only [Nat.testBit_and, Nat.testBit_shiftLeft, Nat.testBit_shiftRight,
    Nat.testBit_two_pow_sub_one]
  by_cases hlow : low ≤ index
  · have hindex : low + (index - low) = index := by omega
    by_cases hhigh : index - low < high
    · simp [hlow, hhigh, hindex]
    · -- A bit above the width of the value is clear.
      have hclear : value.testBit index = false := by
        apply Nat.testBit_lt_two_pow
        refine lt_of_lt_of_le hvalue (Nat.pow_le_pow_right (by decide) ?_)
        omega
      simp [hlow, hhigh, hindex, hclear]
  · simp [hlow]

end Lib
end Lirvena
