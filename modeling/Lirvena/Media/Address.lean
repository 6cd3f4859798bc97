import Lirvena.Lib.AddressBlock

/-!
# Public network addresses

`publicV4` and `publicV6` are the two deny lists for remote media.  Each is the
complement of a list of address blocks, and `Ipv6Addr.embeds` is the reading of an IPv6
address as a form of an IPv4 address.  No IPv6 block covers these forms, so all but
two of the addresses in `disguised` pass the second list.
-/

namespace Lirvena
namespace Media

open Lib

@[ext] structure Ipv4Addr where
  first : UInt8
  second : UInt8
  third : UInt8
  fourth : UInt8
  deriving DecidableEq

namespace Ipv4Addr

def toNat (value : Ipv4Addr) : Nat :=
  value.first.toNat * 2 ^ 24 + value.second.toNat * 2 ^ 16 + value.third.toNat * 2 ^ 8 +
    value.fourth.toNat

def isUnspecified (value : Ipv4Addr) : Bool :=
  value == ⟨0, 0, 0, 0⟩

def isLoopback (value : Ipv4Addr) : Bool :=
  value.first == 127

def isPrivate (value : Ipv4Addr) : Bool :=
  value.first == 10 || (value.first == 172 && (16 ≤ value.second && value.second ≤ 31)) ||
    (value.first == 192 && value.second == 168)

def isLinkLocal (value : Ipv4Addr) : Bool :=
  value.first == 169 && value.second == 254

def isMulticast (value : Ipv4Addr) : Bool :=
  224 ≤ value.first && value.first ≤ 239

def isBroadcast (value : Ipv4Addr) : Bool :=
  value == ⟨255, 255, 255, 255⟩

theorem toNat_lt (value : Ipv4Addr) : value.toNat < 2 ^ 32 := by
  have hfirst := value.first.toNat_lt
  have hsecond := value.second.toNat_lt
  have hthird := value.third.toNat_lt
  have hfourth := value.fourth.toNat_lt
  unfold toNat
  omega

/-- The address with a given number. -/
def ofNat (number : Nat) : Ipv4Addr :=
  ⟨UInt8.ofNat (number / 2 ^ 24), UInt8.ofNat (number / 2 ^ 16), UInt8.ofNat (number / 2 ^ 8),
    UInt8.ofNat number⟩

theorem toNat_ofNat {number : Nat} (hnumber : number < 2 ^ 32) :
    (ofNat number).toNat = number := by
  simp only [ofNat, toNat, UInt8.toNat_ofNat']
  omega

theorem toNat_inj {left right : Ipv4Addr} : left.toNat = right.toNat ↔ left = right := by
  constructor
  · intro heq
    have hbounds := And.intro left.first.toNat_lt right.first.toNat_lt
    have hbounds2 := And.intro left.second.toNat_lt right.second.toNat_lt
    have hbounds3 := And.intro left.third.toNat_lt right.third.toNat_lt
    have hbounds4 := And.intro left.fourth.toNat_lt right.fourth.toNat_lt
    unfold toNat at heq
    apply Ipv4Addr.ext <;> apply UInt8.toNat_inj.mp <;> omega
  · rintro rfl
    rfl

end Ipv4Addr

def publicV4 (value : Ipv4Addr) : Bool :=
  !(value.isUnspecified
    || value.isLoopback
    || value.isPrivate
    || value.isLinkLocal
    || value.isMulticast
    || value.isBroadcast
    || value.first == 0
    || 240 ≤ value.first
    || (value.first == 100 && (64 ≤ value.second && value.second ≤ 127))
    || (value.first == 192 && value.second == 0 && value.third == 2)
    || (value.first == 198 && (value.second == 18 || value.second == 19))
    || (value.first == 198 && value.second == 51 && value.third == 100)
    || (value.first == 203 && value.second == 0 && value.third == 113))

@[ext] structure Ipv6Addr where
  segment0 : UInt16
  segment1 : UInt16
  segment2 : UInt16
  segment3 : UInt16
  segment4 : UInt16
  segment5 : UInt16
  segment6 : UInt16
  segment7 : UInt16
  deriving DecidableEq

namespace Ipv6Addr

def toNat (value : Ipv6Addr) : Nat :=
  value.segment0.toNat * 2 ^ 112 + value.segment1.toNat * 2 ^ 96 +
    value.segment2.toNat * 2 ^ 80 + value.segment3.toNat * 2 ^ 64 +
    value.segment4.toNat * 2 ^ 48 + value.segment5.toNat * 2 ^ 32 +
    value.segment6.toNat * 2 ^ 16 + value.segment7.toNat

def unspecified : Ipv6Addr := ⟨0, 0, 0, 0, 0, 0, 0, 0⟩

def localhost : Ipv6Addr := ⟨0, 0, 0, 0, 0, 0, 0, 1⟩

def isUnspecified (value : Ipv6Addr) : Bool :=
  value == unspecified

def isLoopback (value : Ipv6Addr) : Bool :=
  value == localhost

def isMulticast (value : Ipv6Addr) : Bool :=
  value.segment0 &&& 0xff00 == 0xff00

end Ipv6Addr

def publicV6 (value : Ipv6Addr) : Bool :=
  !(value.isUnspecified
    || value.isLoopback
    || value.isMulticast
    || value.segment0 &&& 0xfe00 == 0xfc00
    || value.segment0 &&& 0xffc0 == 0xfe80
    || (value.segment0 == 0x2001 && value.segment1 == 0x0db8))

inductive IpAddr where
  | v4 (value : Ipv4Addr)
  | v6 (value : Ipv6Addr)
  deriving DecidableEq

def isPublic : IpAddr → Bool
  | .v4 value => publicV4 value
  | .v6 value => publicV6 value

/-! ## The deny lists as blocks -/

/-- The blocks that `publicV4` refuses: this network, private, shared, loopback,
link-local, documentation, benchmarking, multicast and reserved addresses. -/
def nonPublicV4 : List (AddressBlock 32) :=
  [⟨0, 8, by decide, by decide⟩, ⟨10, 8, by decide, by decide⟩,
    ⟨100 * 4 + 1, 10, by decide, by decide⟩, ⟨127, 8, by decide, by decide⟩,
    ⟨169 * 256 + 254, 16, by decide, by decide⟩, ⟨172 * 16 + 1, 12, by decide, by decide⟩,
    ⟨(192 * 256 + 0) * 256 + 2, 24, by decide, by decide⟩,
    ⟨192 * 256 + 168, 16, by decide, by decide⟩, ⟨198 * 128 + 9, 15, by decide, by decide⟩,
    ⟨(198 * 256 + 51) * 256 + 100, 24, by decide, by decide⟩,
    ⟨(203 * 256 + 0) * 256 + 113, 24, by decide, by decide⟩, ⟨14, 4, by decide, by decide⟩,
    ⟨15, 4, by decide, by decide⟩]

/-- The leading bits of an address, at the lengths of the blocks. -/
theorem Ipv4Addr.leading (value : Ipv4Addr) :
    value.toNat / 2 ^ 28 = value.first.toNat / 16 ∧ value.toNat / 2 ^ 24 = value.first.toNat ∧
    value.toNat / 2 ^ 22 = value.first.toNat * 4 + value.second.toNat / 64 ∧
    value.toNat / 2 ^ 20 = value.first.toNat * 16 + value.second.toNat / 16 ∧
    value.toNat / 2 ^ 17 = value.first.toNat * 128 + value.second.toNat / 2 ∧
    value.toNat / 2 ^ 16 = value.first.toNat * 256 + value.second.toNat ∧
    value.toNat / 2 ^ 8 =
      (value.first.toNat * 256 + value.second.toNat) * 256 + value.third.toNat := by
  have hsecond := value.second.toNat_lt
  have hthird := value.third.toNat_lt
  have hfourth := value.fourth.toNat_lt
  unfold Ipv4Addr.toNat
  refine ⟨?_, ?_, ?_, ?_, ?_, ?_, ?_⟩ <;> omega

private theorem digits_eq_iff {high low other last : Nat} (hlow : low < 256)
    (hlast : last < 256) : high * 256 + low = other * 256 + last ↔ high = other ∧ low = last := by
  omega

theorem publicV4_eq_false_iff {value : Ipv4Addr} :
    publicV4 value = false ↔
      ∃ block ∈ nonPublicV4, block.contains value.toNat = true := by
  have hfirst := value.first.toNat_lt
  have hsecond := value.second.toNat_lt
  have hthird := value.third.toNat_lt
  obtain ⟨h28, h24, h22, h20, h17, h16, h8⟩ := value.leading
  simp only [nonPublicV4, List.mem_cons, List.not_mem_nil, or_false, exists_eq_or_imp,
    exists_eq_left, AddressBlock.contains_iff, Nat.reduceSub, h28, h24, h22, h20, h17, h16, h8]
  simp only [publicV4, Ipv4Addr.isUnspecified, Ipv4Addr.isLoopback, Ipv4Addr.isPrivate,
    Ipv4Addr.isLinkLocal, Ipv4Addr.isMulticast, Ipv4Addr.isBroadcast, Ipv4Addr.ext_iff,
    Bool.not_eq_false', Bool.or_eq_true, Bool.and_eq_true, beq_iff_eq, decide_eq_true_eq,
    UInt8.le_iff_toNat_le, ← UInt8.toNat_inj, UInt8.reduceToNat]
  generalize value.first.toNat = first at *
  generalize value.second.toNat = second at *
  generalize value.third.toNat = third at *
  generalize value.fourth.toNat = fourth at *
  -- Each block is a condition on the octets.
  have hshared : first * 4 + second / 64 = 100 * 4 + 1 ↔
      first = 100 ∧ 64 ≤ second ∧ second ≤ 127 := by omega
  have hprivate : first * 16 + second / 16 = 172 * 16 + 1 ↔
      first = 172 ∧ 16 ≤ second ∧ second ≤ 31 := by omega
  have hbenchmark : first * 128 + second / 2 = 198 * 128 + 9 ↔
      first = 198 ∧ (second = 18 ∨ second = 19) := by omega
  have hmulticast : first / 16 = 14 ↔ 224 ≤ first ∧ first ≤ 239 := by omega
  have hreserved : first / 16 = 15 ↔ 240 ≤ first := by omega
  simp only [hshared, hprivate, hbenchmark, hmulticast, hreserved,
    digits_eq_iff hsecond (by decide : 254 < 256), digits_eq_iff hsecond (by decide : 168 < 256),
    digits_eq_iff hsecond (by decide : 0 < 256), digits_eq_iff hsecond (by decide : 51 < 256),
    digits_eq_iff hthird (by decide : 2 < 256), digits_eq_iff hthird (by decide : 100 < 256),
    digits_eq_iff hthird (by decide : 113 < 256)]
  -- The unspecified and the broadcast address lie in larger blocks of the list.
  have hunspecified : first = 0 ∧ second = 0 ∧ third = 0 ∧ fourth = 0 → first = 0 := And.left
  have hbroadcast : first = 255 ∧ second = 255 ∧ third = 255 ∧ fourth = 255 → 240 ≤ first := by
    omega
  constructor
  · rintro ((((((((((((h | h) | ((h | h) | h)) | h) | h) | h) | h) | h) | h) | h) | h) | h) | h)
    · exact .inl (hunspecified h)
    all_goals first | (have h := hbroadcast h; simp [h]) | simp [h]
  · rintro (h | h | h | h | h | h | h | h | h | h | h | h | h) <;> simp [h]

namespace Ipv6Addr

theorem toNat_lt (value : Ipv6Addr) : value.toNat < 2 ^ 128 := by
  have h0 := value.segment0.toNat_lt
  have h1 := value.segment1.toNat_lt
  have h2 := value.segment2.toNat_lt
  have h3 := value.segment3.toNat_lt
  have h4 := value.segment4.toNat_lt
  have h5 := value.segment5.toNat_lt
  have h6 := value.segment6.toNat_lt
  have h7 := value.segment7.toNat_lt
  unfold toNat
  omega

theorem toNat_inj {left right : Ipv6Addr} : left.toNat = right.toNat ↔ left = right := by
  constructor
  · intro heq
    have hbound := fun segment : UInt16 => segment.toNat_lt
    have h0 := hbound left.segment0
    have h1 := hbound left.segment1
    have h2 := hbound left.segment2
    have h3 := hbound left.segment3
    have h4 := hbound left.segment4
    have h5 := hbound left.segment5
    have h6 := hbound left.segment6
    have h7 := hbound left.segment7
    have k0 := hbound right.segment0
    have k1 := hbound right.segment1
    have k2 := hbound right.segment2
    have k3 := hbound right.segment3
    have k4 := hbound right.segment4
    have k5 := hbound right.segment5
    have k6 := hbound right.segment6
    have k7 := hbound right.segment7
    unfold toNat at heq
    apply Ipv6Addr.ext <;> apply UInt16.toNat_inj.mp <;> omega
  · rintro rfl
    rfl

/-- The leading bits of an address, at the lengths of the blocks. -/
theorem leading (value : Ipv6Addr) :
    value.toNat / 2 ^ 121 = value.segment0.toNat / 2 ^ 9 ∧
    value.toNat / 2 ^ 120 = value.segment0.toNat / 2 ^ 8 ∧
    value.toNat / 2 ^ 118 = value.segment0.toNat / 2 ^ 6 ∧
    value.toNat / 2 ^ 96 = value.segment0.toNat * 2 ^ 16 + value.segment1.toNat := by
  have h1 := value.segment1.toNat_lt
  have h2 := value.segment2.toNat_lt
  have h3 := value.segment3.toNat_lt
  have h4 := value.segment4.toNat_lt
  have h5 := value.segment5.toNat_lt
  have h6 := value.segment6.toNat_lt
  have h7 := value.segment7.toNat_lt
  unfold toNat
  refine ⟨?_, ?_, ?_, ?_⟩ <;> omega

end Ipv6Addr

/-- The blocks that `publicV6` refuses: the unspecified and the loopback address,
multicast, unique local, link-local and documentation addresses. -/
def nonPublicV6 : List (AddressBlock 128) :=
  [⟨0, 128, by decide, by decide⟩, ⟨1, 128, by decide, by decide⟩,
    ⟨0xff, 8, by decide, by decide⟩, ⟨0x7e, 7, by decide, by decide⟩,
    ⟨0x3fa, 10, by decide, by decide⟩, ⟨0x2001 * 2 ^ 16 + 0x0db8, 32, by decide, by decide⟩]

/-- A test of the leading bits of a segment by its mask. -/
theorem segment_mask_iff {segment mask value : UInt16} (high low : Nat) {leading : Nat}
    (hwidth : high + low = 16) (hmask : mask.toNat = (2 ^ high - 1) <<< low)
    (hvalue : value.toNat = leading * 2 ^ low) :
    segment &&& mask = value ↔ segment.toNat / 2 ^ low = leading := by
  rw [← UInt16.toNat_inj, UInt16.toNat_and, hmask, hvalue,
    and_highMask (hwidth ▸ segment.toNat_lt)]
  exact Nat.mul_left_inj (Nat.two_pow_pos low).ne'

theorem publicV6_eq_false_iff {value : Ipv6Addr} :
    publicV6 value = false ↔
      ∃ block ∈ nonPublicV6, block.contains value.toNat = true := by
  have h1 := value.segment1.toNat_lt
  obtain ⟨h121, h120, h118, h96⟩ := value.leading
  have hunspecified : value.toNat = Ipv6Addr.unspecified.toNat ↔ value = Ipv6Addr.unspecified :=
    Ipv6Addr.toNat_inj
  have hlocalhost : value.toNat = Ipv6Addr.localhost.toNat ↔ value = Ipv6Addr.localhost :=
    Ipv6Addr.toNat_inj
  have hdoc : value.segment0.toNat * 2 ^ 16 + value.segment1.toNat = 0x2001 * 2 ^ 16 + 0x0db8 ↔
      value.segment0 = 0x2001 ∧ value.segment1 = 0x0db8 := by
    rw [← UInt16.toNat_inj, ← UInt16.toNat_inj]
    simp only [UInt16.reduceToNat]
    omega
  have hmulticast : value.segment0 &&& 0xff00 = 0xff00 ↔ value.segment0.toNat / 2 ^ 8 = 0xff :=
    segment_mask_iff 8 8 rfl rfl rfl
  have hlocal : value.segment0 &&& 0xfe00 = 0xfc00 ↔ value.segment0.toNat / 2 ^ 9 = 0x7e :=
    segment_mask_iff 7 9 rfl rfl rfl
  have hlink : value.segment0 &&& 0xffc0 = 0xfe80 ↔ value.segment0.toNat / 2 ^ 6 = 0x3fa :=
    segment_mask_iff 10 6 rfl rfl rfl
  change (value.toNat = 0 ↔ _) at hunspecified
  change (value.toNat = 1 ↔ _) at hlocalhost
  simp only [nonPublicV6, List.mem_cons, List.not_mem_nil, or_false, exists_eq_or_imp,
    exists_eq_left, AddressBlock.contains_iff, Nat.sub_self, pow_zero, Nat.div_one,
    Nat.reduceSub, h121, h120, h118, h96, hunspecified, hlocalhost, hdoc]
  simp only [publicV6, Ipv6Addr.isUnspecified, Ipv6Addr.isLoopback, Ipv6Addr.isMulticast,
    Bool.not_eq_false', Bool.or_eq_true, Bool.and_eq_true, beq_iff_eq, hmulticast, hlocal, hlink,
    or_assoc]

/-! ## Forms of IPv4 addresses -/

/-- The fronts of 96 bits under which an IPv6 address stands for its last 32 bits:
IPv4-compatible, IPv4-mapped and NAT64 addresses. -/
inductive EmbeddingForm where
  | compatible
  | mapped
  | nat64
  deriving DecidableEq

def EmbeddingForm.front : EmbeddingForm → Nat
  | .compatible => 0
  | .mapped => 0xffff
  | .nat64 => 0x0064ff9b * 2 ^ 64

theorem EmbeddingForm.front_lt (form : EmbeddingForm) : form.front < 2 ^ 96 := by
  cases form <;> decide

/-- An IPv6 address is one form of an IPv4 address. -/
def EmbeddingForm.Embeds (form : EmbeddingForm) (address : Ipv6Addr) (value : Ipv4Addr) : Prop :=
  address.toNat = form.front * 2 ^ 32 + value.toNat

/-- The IPv4 addresses that a destination stands for. -/
inductive Reaches : IpAddr → Ipv4Addr → Prop where
  | itself (value : Ipv4Addr) : Reaches (.v4 value) value
  | embedded {form : EmbeddingForm} {address : Ipv6Addr} {value : Ipv4Addr}
      (hembeds : form.Embeds address value) : Reaches (.v6 address) value

/-- The blocks of `nonPublicV4` under each front. -/
def disguised : List (AddressBlock 128) :=
  [EmbeddingForm.compatible, .mapped, .nat64].flatMap fun form =>
    nonPublicV4.map fun block => block.embed form.front 96 form.front_lt

/-- The addresses in the disguised blocks that neither deny list names. -/
def Disguised : IpAddr → Prop
  | .v4 _ => False
  | .v6 address => address ≠ Ipv6Addr.unspecified ∧ address ≠ Ipv6Addr.localhost ∧
      ∃ block ∈ disguised, block.contains address.toNat = true

instance : DecidablePred Disguised
  | .v4 _ => inferInstanceAs (Decidable False)
  | .v6 address => inferInstanceAs (Decidable (address ≠ Ipv6Addr.unspecified ∧
      address ≠ Ipv6Addr.localhost ∧
      ∃ block ∈ disguised, block.contains address.toNat = true))

theorem EmbeddingForm.embeds_iff {form : EmbeddingForm} {address : Ipv6Addr} {value : Ipv4Addr} :
    form.Embeds address value ↔
      address.toNat / 2 ^ 32 = form.front ∧ address.toNat % 2 ^ 32 = value.toNat := by
  have hvalue := value.toNat_lt
  unfold Embeds
  omega

theorem exists_disguised_iff {address : Ipv6Addr} :
    (∃ block ∈ disguised, block.contains address.toNat = true) ↔
      ∃ (form : EmbeddingForm) (value : Ipv4Addr),
        form.Embeds address value ∧ publicV4 value = false := by
  have hend : address.toNat % 2 ^ 32 < 2 ^ 32 := Nat.mod_lt _ (by decide)
  constructor
  · rintro ⟨block, hblock, hcontains⟩
    obtain ⟨form, -, hform⟩ := List.mem_flatMap.mp hblock
    obtain ⟨short, hshort, rfl⟩ := List.mem_map.mp hform
    obtain ⟨hfront, hinside⟩ := AddressBlock.contains_embed.mp hcontains
    have hvalue := Ipv4Addr.toNat_ofNat hend
    refine ⟨form, Ipv4Addr.ofNat (address.toNat % 2 ^ 32), ?_, ?_⟩
    · exact EmbeddingForm.embeds_iff.mpr ⟨hfront, hvalue.symm⟩
    · exact publicV4_eq_false_iff.mpr ⟨short, hshort, hvalue.symm ▸ hinside⟩
  · rintro ⟨form, value, hembeds, hvalue⟩
    obtain ⟨hfront, hlast⟩ := EmbeddingForm.embeds_iff.mp hembeds
    obtain ⟨short, hshort, hinside⟩ := publicV4_eq_false_iff.mp hvalue
    refine ⟨short.embed form.front 96 form.front_lt, ?_, ?_⟩
    · refine List.mem_flatMap.mpr ⟨form, ?_, List.mem_map.mpr ⟨short, hshort, rfl⟩⟩
      cases form <;> simp
    · exact AddressBlock.contains_embed.mpr ⟨hfront, hlast ▸ hinside⟩

/-- The IPv6 deny list does not see that an address embeds another: of all forms it
refuses `::` and `::1` only. -/
theorem publicV6_of_embeds {form : EmbeddingForm} {address : Ipv6Addr} {value : Ipv4Addr}
    (hembeds : form.Embeds address value) :
    publicV6 address = true ↔ address ≠ Ipv6Addr.unspecified ∧ address ≠ Ipv6Addr.localhost := by
  have hvalue := value.toNat_lt
  have hsmall : address.toNat < 2 ^ 119 := by
    unfold EmbeddingForm.Embeds at hembeds
    cases form <;> simp only [EmbeddingForm.front] at hembeds <;> omega
  have hunspecified : address.toNat = Ipv6Addr.unspecified.toNat ↔ address = .unspecified :=
    Ipv6Addr.toNat_inj
  have hlocalhost : address.toNat = Ipv6Addr.localhost.toNat ↔ address = .localhost :=
    Ipv6Addr.toNat_inj
  change (address.toNat = 0 ↔ _) at hunspecified
  change (address.toNat = 1 ↔ _) at hlocalhost
  -- The wide blocks begin at higher addresses than any form.
  have hmulticast : address.toNat / 2 ^ 120 ≠ 0xff := by omega
  have hlocal : address.toNat / 2 ^ 121 ≠ 0x7e := by omega
  have hlink : address.toNat / 2 ^ 118 ≠ 0x3fa := by omega
  have hdoc : address.toNat / 2 ^ 96 ≠ 0x2001 * 2 ^ 16 + 0x0db8 := by omega
  rw [← not_iff_not, Bool.not_eq_true, publicV6_eq_false_iff]
  simp only [nonPublicV6, List.mem_cons, List.not_mem_nil, or_false, exists_eq_or_imp,
    exists_eq_left, AddressBlock.contains_iff, Nat.sub_self, pow_zero, Nat.div_one,
    Nat.reduceSub, hunspecified, hlocalhost, hmulticast, hlocal, hlink, hdoc, not_and_or, not_not]

/-- What slips through: a destination on neither list stands for a non-public IPv4
address exactly when it is disguised. -/
theorem disguised_iff_reaches {address : IpAddr} (hpublic : isPublic address = true) :
    Disguised address ↔ ∃ value, Reaches address value ∧ publicV4 value = false := by
  cases address with
  | v4 own =>
      constructor
      · exact False.elim
      · rintro ⟨value, hreaches, hvalue⟩
        cases hreaches
        rw [isPublic, hvalue] at hpublic
        exact nomatch hpublic
  | v6 address =>
      constructor
      · rintro ⟨-, -, hblock⟩
        obtain ⟨form, value, hembeds, hvalue⟩ := exists_disguised_iff.mp hblock
        exact ⟨value, .embedded hembeds, hvalue⟩
      · rintro ⟨value, hreaches, hvalue⟩
        cases hreaches with
        | embedded hembeds =>
            obtain ⟨hunspecified, hlocalhost⟩ := (publicV6_of_embeds hembeds).mp hpublic
            exact ⟨hunspecified, hlocalhost, exists_disguised_iff.mpr ⟨_, value, hembeds, hvalue⟩⟩

end Media
end Lirvena
