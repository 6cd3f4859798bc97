import Lirvena.Domain.Device
import Lirvena.Lib.Bytes

/-!
# Device snapshots

The reader takes exactly what the encoder writes: each of its parts is read in one
way, so what a snapshot decodes to is encoded to that snapshot.  What the encoder
leaves out is derived from the portrait, and a profile is restored exactly when its
own fields were derived so.
-/

namespace Lirvena
namespace Domain

open Lib

/-! ## Encoding -/

/-- `u8::try_from`, or the greatest byte. -/
def lengthByte (length : Nat) : UInt8 :=
  if length < 256 then UInt8.ofNat length else 0xff

def encodeText (text : String) : List UInt8 :=
  lengthByte text.utf8ByteSize :: utf8Bytes text

def encodePower : DevicePower → List UInt8
  | .desktop => [0, 0, 0]
  | .portable percent charging => [1, percent, if charging then 1 else 0]

/-- Encodes the complete external portrait into a canonical bounded snapshot. -/
def DeviceProfile.encodeSnapshot (profile : DeviceProfile) : List UInt8 :=
  [snapshotVersion] ++ profile.guid.toList ++ profile.macAddress.toList ++
    profile.portrait.text.texts.flatMap encodeText ++ encodePower profile.power

/-! ## Decoding -/

def readByte : List UInt8 → Except DeviceProfileError (UInt8 × List UInt8)
  | [] => .error .rejected
  | byte :: remaining => .ok (byte, remaining)

def readArray (width : Nat) (bytes : List UInt8) :
    Except DeviceProfileError (Vector UInt8 width × List UInt8) :=
  if hwidth : (bytes.take width).length = width then
    .ok (⟨(bytes.take width).toArray, hwidth⟩, bytes.drop width)
  else
    .error .rejected

def readText (bytes : List UInt8) : Except DeviceProfileError (String × List UInt8) := do
  let (length, rest) ← readByte bytes
  let (value, remaining) ← okOr .rejected (splitFront length.toNat rest)
  let text ← okOr .rejected (fromUtf8 value)
  return (text, remaining)

/-- So many texts one behind the other. -/
def readTexts : Nat → List UInt8 → Except DeviceProfileError (List String × List UInt8)
  | 0, bytes => .ok ([], bytes)
  | count + 1, bytes => do
      let (text, rest) ← readText bytes
      let (texts, remaining) ← readTexts count rest
      return (text :: texts, remaining)

/-- The power that three bytes denote. -/
def powerOf (kind percent charging : UInt8) : Option DevicePower :=
  if kind = 0 ∧ percent = 0 ∧ charging = 0 then
    some .desktop
  else if kind = 1 ∧ charging.toNat ≤ 1 then
    some (.portable percent (charging == 1))
  else
    none

def readPower (bytes : List UInt8) : Except DeviceProfileError (DevicePower × List UInt8) := do
  let (kind, rest) ← readByte bytes
  let (percent, rest) ← readByte rest
  let (charging, remaining) ← readByte rest
  let power ← okOr .rejected (powerOf kind percent charging)
  return (power, remaining)

/-- Decodes a canonical external portrait snapshot. -/
def DeviceProfile.decodeSnapshot (bytes : List UInt8) :
    Except DeviceProfileError DeviceProfile := do
  let (version, rest) ← readByte bytes
  rejectIf .rejected (version ≠ snapshotVersion)
  let (guid, rest) ← readArray 16 rest
  let (macAddress, rest) ← readArray 6 rest
  let (texts, rest) ← readTexts 14 rest
  let text ← okOr .rejected (PortraitText.ofTexts texts)
  let portrait ← DevicePortrait.new text
  let (power, rest) ← readPower rest
  rejectIf .rejected (rest ≠ [])
  fromPortrait guid macAddress portrait power

/-! ## The parts -/

theorem readByte_eq_ok_iff {bytes remaining : List UInt8} {byte : UInt8} :
    readByte bytes = .ok (byte, remaining) ↔ bytes = byte :: remaining := by
  cases bytes with
  | nil => simp [readByte]
  | cons first rest => simp [readByte]

theorem readArray_eq_ok_iff {width : Nat} {bytes remaining : List UInt8}
    {array : Vector UInt8 width} :
    readArray width bytes = .ok (array, remaining) ↔ bytes = array.toList ++ remaining := by
  unfold readArray
  constructor
  · intro hread
    split at hread
    · cases hread
      exact (List.take_append_drop width bytes).symm
    · cases hread
  · rintro rfl
    have htake : (array.toList ++ remaining).take width = array.toList :=
      List.take_left' array.length_toList
    have hdrop : (array.toList ++ remaining).drop width = remaining :=
      List.drop_left' array.length_toList
    rw [dif_pos (by rw [htake, array.length_toList])]
    congr 2
    apply Vector.toArray_inj.mp
    show ((array.toList ++ remaining).take width).toArray = array.toArray
    rw [htake]
    rfl

theorem lengthByte_toNat {length : Nat} (hlength : length < 256) :
    (lengthByte length).toNat = length := by
  rw [lengthByte, if_pos hlength, UInt8.toNat_ofNat']
  omega

theorem lengthByte_of_toNat (byte : UInt8) : lengthByte byte.toNat = byte := by
  rw [lengthByte, if_pos byte.toNat_lt]
  exact UInt8.ofNat_toNat

/-- A text is read from its own encoding, if its length fits the byte before it. -/
theorem readText_eq_ok_iff {bytes remaining : List UInt8} {text : String} :
    readText bytes = .ok (text, remaining) ↔
      text.utf8ByteSize < 256 ∧ bytes = encodeText text ++ remaining := by
  unfold readText
  constructor
  · intro hread
    obtain ⟨⟨length, rest⟩, hbyte, hread⟩ := bind_eq_ok_iff.mp hread
    obtain ⟨⟨value, behind⟩, hsplit, hread⟩ := bind_eq_ok_iff.mp hread
    obtain ⟨decoded, hdecoded, hread⟩ := bind_eq_ok_iff.mp hread
    cases hread
    obtain rfl := readByte_eq_ok_iff.mp hbyte
    obtain ⟨rfl, hlength⟩ := splitFront_eq_some_iff.mp (okOr_eq_ok_iff.mp hsplit)
    obtain rfl := fromUtf8_eq_some_iff.mp (okOr_eq_ok_iff.mp hdecoded)
    rw [utf8Bytes_length] at hlength
    refine ⟨hlength ▸ length.toNat_lt, ?_⟩
    -- The byte that was read is the one that the encoder writes for this length.
    rw [encodeText, hlength, lengthByte_of_toNat]
    rfl
  · rintro ⟨hsize, rfl⟩
    refine bind_eq_ok_iff.mpr ⟨_, readByte_eq_ok_iff.mpr rfl, ?_⟩
    refine bind_eq_ok_iff.mpr ⟨(utf8Bytes text, remaining),
      okOr_eq_ok_iff.mpr (splitFront_eq_some_iff.mpr ⟨rfl, ?_⟩), ?_⟩
    · rw [utf8Bytes_length, lengthByte_toNat hsize]
    · exact bind_eq_ok_iff.mpr
        ⟨text, okOr_eq_ok_iff.mpr (fromUtf8_eq_some_iff.mpr rfl), rfl⟩

theorem readTexts_eq_ok_iff {count : Nat} {bytes remaining : List UInt8}
    {texts : List String} :
    readTexts count bytes = .ok (texts, remaining) ↔
      texts.length = count ∧ (∀ text ∈ texts, text.utf8ByteSize < 256) ∧
        bytes = texts.flatMap encodeText ++ remaining := by
  induction count generalizing bytes texts with
  | zero =>
      constructor
      · intro hread
        cases hread
        simp
      · rintro ⟨hlength, -, rfl⟩
        obtain rfl := List.length_eq_zero_iff.mp hlength
        rfl
  | succ count ih =>
      unfold readTexts
      constructor
      · intro hread
        obtain ⟨⟨text, rest⟩, htext, hread⟩ := bind_eq_ok_iff.mp hread
        obtain ⟨⟨others, behind⟩, hothers, hread⟩ := bind_eq_ok_iff.mp hread
        cases hread
        obtain ⟨hsize, rfl⟩ := readText_eq_ok_iff.mp htext
        obtain ⟨rfl, hsizes, rfl⟩ := ih.mp hothers
        refine ⟨rfl, List.forall_mem_cons.mpr ⟨hsize, hsizes⟩, ?_⟩
        rw [List.flatMap_cons, List.append_assoc]
      · rintro ⟨hlength, hsizes, rfl⟩
        cases texts with
        | nil => cases hlength
        | cons text others =>
            obtain ⟨hsize, hsizes⟩ := List.forall_mem_cons.mp hsizes
            rw [List.flatMap_cons, List.append_assoc]
            refine bind_eq_ok_iff.mpr ⟨_, readText_eq_ok_iff.mpr ⟨hsize, rfl⟩, ?_⟩
            exact bind_eq_ok_iff.mpr ⟨_, ih.mpr ⟨Nat.succ.inj hlength, hsizes, rfl⟩, rfl⟩

theorem powerOf_eq_some_iff {kind percent charging : UInt8} {power : DevicePower} :
    powerOf kind percent charging = some power ↔
      [kind, percent, charging] = encodePower power := by
  unfold powerOf
  constructor
  · intro hpower
    split at hpower
    · next hdesktop =>
        obtain ⟨rfl, rfl, rfl⟩ := hdesktop
        cases hpower
        rfl
    · split at hpower
      · next hportable =>
          obtain ⟨rfl, hbound⟩ := hportable
          cases hpower
          -- the last byte is the flag that it is read as
          have hflag : charging = 0 ∨ charging = 1 := by
            rw [← UInt8.toNat_inj, ← UInt8.toNat_inj]
            show charging.toNat = 0 ∨ charging.toNat = 1
            omega
          rcases hflag with rfl | rfl
          · rfl
          · rfl
      · cases hpower
  · intro hencoded
    cases power with
    | desktop =>
        cases hencoded
        rfl
    | portable level flag =>
        cases hencoded
        cases flag <;> rfl

theorem readPower_eq_ok_iff {bytes remaining : List UInt8} {power : DevicePower} :
    readPower bytes = .ok (power, remaining) ↔ bytes = encodePower power ++ remaining := by
  unfold readPower
  constructor
  · intro hread
    obtain ⟨⟨kind, rest⟩, hkind, hread⟩ := bind_eq_ok_iff.mp hread
    obtain ⟨⟨percent, rest⟩, hpercent, hread⟩ := bind_eq_ok_iff.mp hread
    obtain ⟨⟨charging, behind⟩, hcharging, hread⟩ := bind_eq_ok_iff.mp hread
    obtain ⟨read, hpower, hread⟩ := bind_eq_ok_iff.mp hread
    cases hread
    obtain rfl := readByte_eq_ok_iff.mp hkind
    obtain rfl := readByte_eq_ok_iff.mp hpercent
    obtain rfl := readByte_eq_ok_iff.mp hcharging
    rw [← powerOf_eq_some_iff.mp (okOr_eq_ok_iff.mp hpower)]
    rfl
  · rintro rfl
    cases power with
    | desktop => rfl
    | portable percent charging => cases charging <;> rfl

/-! ## Snapshots -/

/-- A valid portrait has texts that fit the byte before them. -/
theorem PortraitText.Valid.size_lt {text : PortraitText} (hvalid : text.Valid) :
    ∀ value ∈ text.texts, value.utf8ByteSize < 256 := by
  intro value hvalue
  have htext := hvalid.texts value hvalue
  simp only [validText, Bool.and_eq_true, decide_eq_true_eq] at htext
  have hsize : value.utf8ByteSize ≤ 96 := htext.1.1.2
  omega

namespace DeviceProfile

/-- A snapshot decodes to a profile exactly when it is the encoding of it and the
profile has the fields that its portrait gives. -/
theorem decodeSnapshot_eq_ok_iff {bytes : List UInt8} {profile : DeviceProfile} :
    decodeSnapshot bytes = .ok profile ↔
      profile.Derived ∧ bytes = profile.encodeSnapshot := by
  unfold decodeSnapshot
  constructor
  · intro hdecode
    obtain ⟨⟨version, rest⟩, hversion, hdecode⟩ := bind_eq_ok_iff.mp hdecode
    obtain ⟨⟨⟩, hsupported, hdecode⟩ := bind_eq_ok_iff.mp hdecode
    obtain ⟨⟨guid, rest⟩, hguid, hdecode⟩ := bind_eq_ok_iff.mp hdecode
    obtain ⟨⟨macAddress, rest⟩, hmac, hdecode⟩ := bind_eq_ok_iff.mp hdecode
    obtain ⟨⟨texts, rest⟩, htexts, hdecode⟩ := bind_eq_ok_iff.mp hdecode
    obtain ⟨text, htext, hdecode⟩ := bind_eq_ok_iff.mp hdecode
    obtain ⟨portrait, hportrait, hdecode⟩ := bind_eq_ok_iff.mp hdecode
    obtain ⟨⟨power, rest⟩, hpower, hdecode⟩ := bind_eq_ok_iff.mp hdecode
    obtain ⟨⟨⟩, hend, hdecode⟩ := bind_eq_ok_iff.mp hdecode
    obtain ⟨hderived, rfl, rfl, rfl, rfl⟩ := fromPortrait_eq_ok_iff.mp hdecode
    refine ⟨hderived, ?_⟩
    -- Each read gives back what was in front of it, so the input is put together again.
    obtain rfl := readByte_eq_ok_iff.mp hversion
    obtain rfl := not_not.mp (rejectIf_eq_ok_iff.mp hsupported)
    obtain rfl := readArray_eq_ok_iff.mp hguid
    obtain rfl := readArray_eq_ok_iff.mp hmac
    obtain ⟨-, -, rfl⟩ := readTexts_eq_ok_iff.mp htexts
    obtain rfl := PortraitText.ofTexts_eq_some (okOr_eq_ok_iff.mp htext)
    obtain rfl := DevicePortrait.new_eq_ok_iff.mp hportrait
    obtain rfl := readPower_eq_ok_iff.mp hpower
    obtain rfl := not_not.mp (rejectIf_eq_ok_iff.mp hend)
    simp [encodeSnapshot]
  · rintro ⟨hderived, rfl⟩
    -- A valid portrait has no text that the byte before it could not count.
    have hsizes := profile.portrait.valid.size_lt
    simp only [encodeSnapshot, List.append_assoc]
    refine bind_eq_ok_iff.mpr ⟨_, readByte_eq_ok_iff.mpr rfl, ?_⟩
    refine bind_eq_ok_iff.mpr ⟨(), rejectIf_eq_ok_iff.mpr (by simp), ?_⟩
    refine bind_eq_ok_iff.mpr ⟨_, readArray_eq_ok_iff.mpr rfl, ?_⟩
    refine bind_eq_ok_iff.mpr ⟨_, readArray_eq_ok_iff.mpr rfl, ?_⟩
    refine bind_eq_ok_iff.mpr ⟨_, readTexts_eq_ok_iff.mpr ⟨rfl, hsizes, rfl⟩, ?_⟩
    refine bind_eq_ok_iff.mpr
      ⟨_, okOr_eq_ok_iff.mpr (PortraitText.ofTexts_texts profile.portrait.text), ?_⟩
    refine bind_eq_ok_iff.mpr
      ⟨profile.portrait, DevicePortrait.new_eq_ok_iff.mpr rfl, ?_⟩
    refine bind_eq_ok_iff.mpr
      ⟨(profile.power, []), readPower_eq_ok_iff.mpr (List.append_nil _).symm, ?_⟩
    refine bind_eq_ok_iff.mpr ⟨(), rejectIf_eq_ok_iff.mpr (by simp), ?_⟩
    exact fromPortrait_eq_ok_iff.mpr ⟨hderived, rfl, rfl, rfl, rfl⟩

/-- One accepted construction of a profile: by single values, or from a portrait. -/
inductive Construction where
  | new (guid : Vector UInt8 16) (macAddress : Vector UInt8 6)
      (deviceName model systemKernel kernelVersion : String) (power : DevicePower)
  | fromPortrait (guid : Vector UInt8 16) (macAddress : Vector UInt8 6)
      (portrait : DevicePortrait) (power : DevicePower)

def Construction.build : Construction → Except DeviceProfileError DeviceProfile
  | .new guid macAddress deviceName model systemKernel kernelVersion power =>
      DeviceProfile.new guid macAddress deviceName model systemKernel kernelVersion power
  | .fromPortrait guid macAddress portrait power =>
      DeviceProfile.fromPortrait guid macAddress portrait power

/-- The kernel version that is given is the release of the kernel that is given. -/
def Construction.GivesRelease : Construction → Prop
  | .new _ _ _ _ systemKernel kernelVersion _ => kernelVersion = kernelRelease systemKernel
  | .fromPortrait _ _ _ _ => True

instance (construction : Construction) : Decidable construction.GivesRelease := by
  cases construction <;> unfold Construction.GivesRelease <;> infer_instance

theorem Construction.derived_iff {construction : Construction} {profile : DeviceProfile}
    (hbuilt : construction.build = .ok profile) :
    profile.Derived ↔ construction.GivesRelease := by
  cases construction with
  | new guid macAddress deviceName model systemKernel kernelVersion power =>
      obtain ⟨hname, hmodel, hkernel, hversion, htext⟩ := new_eq_ok hbuilt
      have hhostname : profile.portrait.text.hostname = deviceName := by rw [htext]; rfl
      have hhardware : profile.portrait.text.hardwareModel = model := by rw [htext]; rfl
      have hrelease : portraitKernel profile.portrait = systemKernel := by
        rw [portraitKernel, htext]
        exact withoutEnd_append systemKernel " x86_64"
      show profile.Derived ↔ kernelVersion = kernelRelease systemKernel
      rw [← hversion, ← hkernel]
      constructor
      · exact fun hderived => hderived.kernelVersion
      · intro hderived
        exact ⟨hname.trans hhostname.symm, hmodel.trans hhardware.symm,
          hkernel.trans hrelease.symm, hderived⟩
  | fromPortrait guid macAddress portrait power =>
      exact ⟨fun _ => trivial, fun _ => (fromPortrait_eq_ok_iff.mp hbuilt).1⟩

/-- The snapshot of a constructed profile restores it exactly when its kernel version
was the one that its kernel gives. -/
theorem snapshot_round_trip_iff {construction : Construction} {profile : DeviceProfile}
    (hbuilt : construction.build = .ok profile) :
    decodeSnapshot profile.encodeSnapshot = .ok profile ↔ construction.GivesRelease := by
  rw [← Construction.derived_iff hbuilt, decodeSnapshot_eq_ok_iff]
  exact ⟨And.left, fun hderived => ⟨hderived, rfl⟩⟩

/-- A desktop whose kernel is `Linux 5.10.0-amd64-desktop`. -/
def officeDevice (kernelVersion : String) : Construction :=
  .new (Vector.replicate 16 1) #v[2, 0, 0, 0, 0, 1] "uos-office-42"
    "Lenovo ThinkCentre M720q" "Linux 5.10.0-amd64-desktop" kernelVersion .desktop

theorem officeDevice_builds :
    ∃ profile, (officeDevice "5.10.0-amd64-desktop").build = .ok profile := by
  have hok : (officeDevice "5.10.0-amd64-desktop").build.toOption.isSome = true := by decide
  cases hbuilt : (officeDevice "5.10.0-amd64-desktop").build with
  | error error =>
      rw [hbuilt] at hok
      cases hok
  | ok profile => exact ⟨profile, rfl⟩

theorem office_device_restored :
    ∃ profile, (officeDevice "5.10.0-amd64-desktop").build = .ok profile ∧
      decodeSnapshot profile.encodeSnapshot = .ok profile := by
  obtain ⟨profile, hbuilt⟩ := officeDevice_builds
  exact ⟨profile, hbuilt, (snapshot_round_trip_iff hbuilt).mpr (by decide)⟩

/-- A profile whose kernel version is another one than its kernel gives is accepted,
and its snapshot does not restore it. -/
theorem given_kernel_version_lost :
    ∃ profile, (officeDevice "6.1.0").build = .ok profile ∧
      decodeSnapshot profile.encodeSnapshot ≠ .ok profile := by
  have hok : (officeDevice "6.1.0").build.toOption.isSome = true := by decide
  cases hbuilt : (officeDevice "6.1.0").build with
  | error error =>
      rw [hbuilt] at hok
      cases hok
  | ok profile =>
      refine ⟨profile, rfl, ?_⟩
      intro hrestored
      obtain ⟨hderived, -⟩ := decodeSnapshot_eq_ok_iff.mp hrestored
      have hrelease := (Construction.derived_iff hbuilt).mp hderived
      revert hrelease
      decide

/-- An accepted snapshot is the encoding of what it decodes to, and the only one. -/
theorem accepted_snapshot_canonical {bytes : List UInt8} {profile : DeviceProfile}
    (hdecode : decodeSnapshot bytes = .ok profile) :
    profile.encodeSnapshot = bytes ∧
      ∀ other, decodeSnapshot other = .ok profile → other = bytes := by
  obtain ⟨-, rfl⟩ := decodeSnapshot_eq_ok_iff.mp hdecode
  exact ⟨rfl, fun other hother => (decodeSnapshot_eq_ok_iff.mp hother).2⟩

/-- The snapshot of a portable device. -/
def officeSnapshot : List UInt8 :=
  [1] ++ List.replicate 16 1 ++ [2, 0, 0, 0, 0, 1] ++
    (customPortrait "uos-office-42" "ThinkCentre" "Linux 5.10").texts.flatMap encodeText ++
      [1, 100, 1]

theorem office_snapshot_canonical :
    ∃ profile, decodeSnapshot officeSnapshot = .ok profile ∧
      profile.encodeSnapshot = officeSnapshot := by
  have hok : (decodeSnapshot officeSnapshot).toOption.isSome = true := by
    decide +kernel
  cases hdecode : decodeSnapshot officeSnapshot with
  | error error =>
      rw [hdecode] at hok
      cases hok
  | ok profile => exact ⟨profile, rfl, (accepted_snapshot_canonical hdecode).1⟩

end DeviceProfile

end Domain
end Lirvena
