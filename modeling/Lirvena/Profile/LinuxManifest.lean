import Lirvena.Ceylith.Slots
import Lirvena.Profile.OnlinePacketManifest

/-!
# The manifest of a Linux profile

A profile has ordinary fields within compiled limits and the opaque slots that carry its
plans.  The limits of the constructor are those of the reader, and every field fits its
prefix, so that only the bound of the whole manifest decides whether a profile is encoded.
-/

namespace Lirvena
namespace Profile

open Lib Online Wire Ceylith

/-- Invalid QQ profile value. -/
inductive ProfileValueError where
  | zeroNumber
  | invalidText
  deriving DecidableEq

/-- Rejected canonical Linux profile manifest. -/
inductive ProfileManifestError where
  | rejected
  deriving DecidableEq

/-- The longest version. -/
def maxVersionLen : Nat := 32

/-- The longest package name. -/
def maxPackageLen : Nat := 96

/-- The longest name of the operating system. -/
def maxOsLen : Nat := 32

/-- The longest name of the login library. -/
def maxLoginSdkLen : Nat := 64

/-- Ordinary fields of a Linux profile. -/
structure LinuxNtProfileSpec where
  profileId : ProfileId
  clientVersion : String
  appId : UInt32
  subAppId : UInt32
  qrAppId : UInt32
  appClientVersion : UInt16
  packageName : String
  operatingSystem : String
  ptVersion : String
  ssoVersion : UInt32
  miscBitmap : UInt32
  loginSdk : String
  mainSigMap : UInt32
  subSigMap : UInt32
  loginMiscBitmap : UInt32
  runtimeAbi : UInt32
  deriving DecidableEq

/-- `u8::is_ascii_digit` -/
def isAsciiDigit (byte : UInt8) : Bool :=
  0x30 ≤ byte.toNat && byte.toNat ≤ 0x39

/-- `u8::is_ascii_alphabetic` -/
def isAsciiLetter (byte : UInt8) : Bool :=
  (0x41 ≤ byte.toNat && byte.toNat ≤ 0x5a) || (0x61 ≤ byte.toNat && byte.toNat ≤ 0x7a)

/-- The bytes of a version. -/
def versionCharacter (value : UInt8) : Bool :=
  isAsciiDigit value || value.toNat = '.'.toNat || value.toNat = '-'.toNat

/-- The bytes of a package name or of the operating system. -/
def packageCharacter (value : UInt8) : Bool :=
  isAsciiDigit value || isAsciiLetter value || value.toNat = '.'.toNat ||
    value.toNat = '_'.toNat

/-- A text of a profile: not empty, bounded, and of the allowed bytes. -/
def validateText (value : String) (maximum : Nat) (allowed : UInt8 → Bool) :
    Except ProfileValueError Unit :=
  rejectIf .invalidText
    (value = "" ∨ maximum < value.utf8ByteSize ∨ ¬ (utf8Bytes value).all allowed = true)

/-- No number is zero, and each text is of its own bytes. -/
def LinuxNtProfileSpec.validate (spec : LinuxNtProfileSpec) : Except ProfileValueError Unit := do
  rejectIf .zeroNumber ([spec.appId, spec.subAppId, spec.qrAppId, spec.appClientVersion.toUInt32,
    spec.ssoVersion, spec.mainSigMap, spec.loginMiscBitmap, spec.runtimeAbi].contains 0 = true)
  validateText spec.clientVersion maxVersionLen versionCharacter
  validateText spec.packageName maxPackageLen packageCharacter
  validateText spec.operatingSystem maxOsLen packageCharacter
  validateText spec.ptVersion maxVersionLen versionCharacter
  validateText spec.loginSdk maxLoginSdkLen packageCharacter

/-- Validated Linux profile consumed by login and transport layers. -/
structure LinuxNtProfile where
  spec : LinuxNtProfileSpec
  slots : OpaqueSlots
  valid : spec.validate = .ok ()

/-- A profile is a specification that passes its checks, with its slots. -/
def LinuxNtProfile.new (spec : LinuxNtProfileSpec) (slots : OpaqueSlots) :
    Except ProfileValueError LinuxNtProfile :=
  match hvalid : spec.validate with
  | .ok () => .ok ⟨spec, slots, hvalid⟩
  | .error error => .error error

/-- `OpaqueSlots::get`: the binary search finds the slot of an identifier. -/
def getSlot (slots : OpaqueSlots) (id : OpaqueSlotId) : Option OpaqueSlot :=
  slots.slots.find? fun slot => slot.id = id

/-! ## Fields -/

/-- Writes a text behind its length. -/
def putText (value : String) (writer : WireWriter) : Except WireError WireWriter :=
  writer.putPrefixedBytes .u16Payload (utf8Bytes value)

/-- Reads a text of at most the given length. -/
def readField (maximum : Nat) (unread : List UInt8) :
    Except ProfileManifestError (String × List UInt8) :=
  readText .rejected .u16Payload maximum unread

/-- A text as it stands in a manifest. -/
def fieldLayout (text : String) : List UInt8 :=
  textLayout .u16Payload text

/-- The limits of the text fields. -/
structure WithinLimits (spec : LinuxNtProfileSpec) : Prop where
  clientVersion : spec.clientVersion.utf8ByteSize ≤ maxVersionLen
  packageName : spec.packageName.utf8ByteSize ≤ maxPackageLen
  operatingSystem : spec.operatingSystem.utf8ByteSize ≤ maxOsLen
  ptVersion : spec.ptVersion.utf8ByteSize ≤ maxVersionLen
  loginSdk : spec.loginSdk.utf8ByteSize ≤ maxLoginSdkLen

theorem length_le_of_validateText {value : String} {maximum : Nat} {allowed : UInt8 → Bool}
    (hvalid : validateText value maximum allowed = .ok ()) : value.utf8ByteSize ≤ maximum := by
  have hrules := rejectIf_eq_ok_iff.mp hvalid
  push Not at hrules
  exact hrules.2.1

theorem LinuxNtProfile.withinLimits (profile : LinuxNtProfile) : WithinLimits profile.spec := by
  have hvalid := profile.valid
  simp only [LinuxNtProfileSpec.validate, bind_eq_ok_iff] at hvalid
  obtain ⟨_, -, _, hversion, _, hpackage, _, hos, _, hpt, hsdk⟩ := hvalid
  exact ⟨length_le_of_validateText hversion, length_le_of_validateText hpackage,
    length_le_of_validateText hos, length_le_of_validateText hpt, length_le_of_validateText hsdk⟩

theorem puts_text {maximum : Nat} {text : String} (hlength : text.utf8ByteSize ≤ 96) :
    WireWriter.Puts maximum (putText text) (fieldLayout text) := by
  refine WireWriter.puts_prefixed _ ?_
  intro _
  show text.utf8ByteSize < 256 ^ 2
  omega

theorem readField_layout {maximum : Nat} {text : String}
    (hlength : text.utf8ByteSize ≤ maximum) (hmaximum : maximum ≤ 96) (rest : List UInt8) :
    readField maximum (fieldLayout text ++ rest) = .ok (text, rest) := by
  refine readText_layout rest hlength ?_
  show text.utf8ByteSize < 256 ^ 2
  omega

/-- Writes the fields of a specification in their order. -/
def putSpec (spec : LinuxNtProfileSpec) (writer : WireWriter) : Except WireError WireWriter := do
  let writer ← writer.putBytes spec.profileId.bytes
  let writer ← putText spec.clientVersion writer
  let writer ← writer.putU32 spec.appId
  let writer ← writer.putU32 spec.subAppId
  let writer ← writer.putU32 spec.qrAppId
  let writer ← writer.putU16 spec.appClientVersion
  let writer ← putText spec.packageName writer
  let writer ← putText spec.operatingSystem writer
  let writer ← putText spec.ptVersion writer
  let writer ← writer.putU32 spec.ssoVersion
  let writer ← writer.putU32 spec.miscBitmap
  let writer ← putText spec.loginSdk writer
  let writer ← writer.putU32 spec.mainSigMap
  let writer ← writer.putU32 spec.subSigMap
  let writer ← writer.putU32 spec.loginMiscBitmap
  writer.putU32 spec.runtimeAbi

/-- Reads the id of a profile. -/
def readProfileId (unread : List UInt8) :
    Except ProfileManifestError (ProfileId × List UInt8) := do
  let (bytes, unread) ← orReject .rejected (WireReader.readBytes 16 unread)
  let profileId ← okOr .rejected (FixedBytes.ofBytes 16 bytes)
  return (profileId, unread)

/-- Reads a number of four bytes. -/
def readWord32 (unread : List UInt8) : Except ProfileManifestError (UInt32 × List UInt8) :=
  orReject .rejected (WireReader.readU32 unread)

/-- Reads the fields in the order in which they are written. -/
def readSpec (unread : List UInt8) :
    Except ProfileManifestError (LinuxNtProfileSpec × List UInt8) := do
  let (profileId, unread) ← readProfileId unread
  let (clientVersion, unread) ← readField maxVersionLen unread
  let (appId, unread) ← readWord32 unread
  let (subAppId, unread) ← readWord32 unread
  let (qrAppId, unread) ← readWord32 unread
  let (appClientVersion, unread) ← orReject .rejected (WireReader.readU16 unread)
  let (packageName, unread) ← readField maxPackageLen unread
  let (operatingSystem, unread) ← readField maxOsLen unread
  let (ptVersion, unread) ← readField maxVersionLen unread
  let (ssoVersion, unread) ← readWord32 unread
  let (miscBitmap, unread) ← readWord32 unread
  let (loginSdk, unread) ← readField maxLoginSdkLen unread
  let (mainSigMap, unread) ← readWord32 unread
  let (subSigMap, unread) ← readWord32 unread
  let (loginMiscBitmap, unread) ← readWord32 unread
  let (runtimeAbi, unread) ← readWord32 unread
  return (⟨profileId, clientVersion, appId, subAppId, qrAppId, appClientVersion, packageName,
    operatingSystem, ptVersion, ssoVersion, miscBitmap, loginSdk, mainSigMap, subSigMap,
    loginMiscBitmap, runtimeAbi⟩, unread)

/-- The fields as they stand in a manifest. -/
def specLayout (spec : LinuxNtProfileSpec) : List UInt8 :=
  spec.profileId.bytes ++ (fieldLayout spec.clientVersion ++ (beBytes 4 spec.appId.toNat ++
    (beBytes 4 spec.subAppId.toNat ++ (beBytes 4 spec.qrAppId.toNat ++
      (beBytes 2 spec.appClientVersion.toNat ++ (fieldLayout spec.packageName ++
        (fieldLayout spec.operatingSystem ++ (fieldLayout spec.ptVersion ++
          (beBytes 4 spec.ssoVersion.toNat ++ (beBytes 4 spec.miscBitmap.toNat ++
            (fieldLayout spec.loginSdk ++ (beBytes 4 spec.mainSigMap.toNat ++
              (beBytes 4 spec.subSigMap.toNat ++ (beBytes 4 spec.loginMiscBitmap.toNat ++
                beBytes 4 spec.runtimeAbi.toNat))))))))))))))

theorem puts_spec {maximum : Nat} {spec : LinuxNtProfileSpec} (hlimits : WithinLimits spec) :
    WireWriter.Puts maximum (putSpec spec) (specLayout spec) := by
  have hversion := hlimits.clientVersion.trans (by decide : maxVersionLen ≤ 96)
  have hos := hlimits.operatingSystem.trans (by decide : maxOsLen ≤ 96)
  have hpt := hlimits.ptVersion.trans (by decide : maxVersionLen ≤ 96)
  have hsdk := hlimits.loginSdk.trans (by decide : maxLoginSdkLen ≤ 96)
  exact (WireWriter.puts_bytes _).andThen ((puts_text hversion).andThen
    ((WireWriter.puts_u32 _).andThen ((WireWriter.puts_u32 _).andThen
      ((WireWriter.puts_u32 _).andThen ((WireWriter.puts_u16 _).andThen
        ((puts_text hlimits.packageName).andThen ((puts_text hos).andThen
          ((puts_text hpt).andThen ((WireWriter.puts_u32 _).andThen
            ((WireWriter.puts_u32 _).andThen ((puts_text hsdk).andThen
              ((WireWriter.puts_u32 _).andThen ((WireWriter.puts_u32 _).andThen
                ((WireWriter.puts_u32 _).andThen (WireWriter.puts_u32 _)))))))))))))))

theorem readProfileId_layout (profileId : ProfileId) (rest : List UInt8) :
    readProfileId (profileId.bytes ++ rest) = .ok (profileId, rest) := by
  have hbytes : WireReader.readBytes 16 (profileId.bytes ++ rest) =
      .ok (profileId.bytes, rest) :=
    WireReader.readBytes_eq_ok_iff.mpr ⟨rfl, profileId.length_eq⟩
  have hid : FixedBytes.ofBytes 16 profileId.bytes = some profileId :=
    FixedBytes.ofBytes_eq_some_iff.mpr rfl
  simp only [readProfileId, hbytes, orReject_ok, ok_bind, hid, okOr]
  rfl

theorem readWord32_layout (value : UInt32) (rest : List UInt8) :
    readWord32 (beBytes 4 value.toNat ++ rest) = .ok (value, rest) := by
  rw [readWord32, readU32_layout, orReject_ok]

theorem readSpec_layout {spec : LinuxNtProfileSpec} (hlimits : WithinLimits spec)
    (rest : List UInt8) : readSpec (specLayout spec ++ rest) = .ok (spec, rest) := by
  have hversion := readField_layout hlimits.clientVersion (by decide)
  have hpackage := readField_layout hlimits.packageName (by decide)
  have hos := readField_layout hlimits.operatingSystem (by decide)
  have hpt := readField_layout hlimits.ptVersion (by decide)
  have hsdk := readField_layout hlimits.loginSdk (by decide)
  simp only [readSpec, specLayout, List.append_assoc, readProfileId_layout, ok_bind, hversion,
    readWord32_layout, readU16_layout, orReject_ok, hpackage, hos, hpt, hsdk]
  rfl

/-! ## Slots -/

/-- Writes a slot: its number and its value. -/
def putSlot (slot : OpaqueSlot) (writer : WireWriter) : Except WireError WireWriter := do
  let writer ← writer.putU32 slot.id.value
  writer.putPrefixedBytes .u16Payload slot.value

/-- Reads a slot, with the checks of `OpaqueSlot::new`. -/
def readSlot (unread : List UInt8) : Except ProfileManifestError (OpaqueSlot × List UInt8) := do
  let (id, unread) ← orReject .rejected (WireReader.readU32 unread)
  let id ← orReject .rejected (OpaqueSlotId.new id)
  let (value, unread) ←
    orReject .rejected (WireReader.readPrefixedBytes .u16Payload maxOpaqueSlotLen unread)
  let slot ← orReject .rejected (OpaqueSlot.new id value)
  return (slot, unread)

/-- A slot as it stands in a manifest. -/
def slotLayout (slot : OpaqueSlot) : List UInt8 :=
  beBytes 4 slot.id.value.toNat ++ LengthPrefix.u16Payload.encode slot.value

theorem slot_fits (slot : OpaqueSlot) :
    LengthPrefix.u16Payload.declared slot.value.length < 256 ^ LengthPrefix.u16Payload.width :=
  lt_of_le_of_lt slot.length_le (by decide)

theorem puts_slot {maximum : Nat} (slot : OpaqueSlot) :
    WireWriter.Puts maximum (putSlot slot) (slotLayout slot) :=
  (WireWriter.puts_u32 _).andThen (WireWriter.puts_prefixed _ fun _ => slot_fits slot)

theorem readSlot_layout (slot : OpaqueSlot) (rest : List UInt8) :
    readSlot (slotLayout slot ++ rest) = .ok (slot, rest) := by
  have hvalue := readPrefixed_layout rest slot.length_le (slot_fits slot)
  have hid : OpaqueSlotId.new slot.id.value = .ok slot.id := OpaqueSlotId.new_eq_ok_iff.mpr rfl
  have hslot : OpaqueSlot.new slot.id slot.value = .ok slot :=
    OpaqueSlot.new_eq_ok_iff.mpr ⟨rfl, rfl⟩
  simp only [readSlot, slotLayout, List.append_assoc, readU32_layout, orReject_ok, ok_bind, hid,
    hvalue, hslot]
  rfl

/-! ## Profiles -/

/-- The bytes that a manifest begins with. -/
def linuxMagic : List UInt8 := asciiBytes "LQPF"

/-- The version of the format. -/
def linuxVersion : UInt16 := 3

/-- The longest manifest. -/
def maxManifestLen : Nat := 32 * 1024

/-- Writes all in front of the slots. -/
def putOrdinary (spec : LinuxNtProfileSpec) (writer : WireWriter) :
    Except WireError WireWriter := do
  let writer ← putHead linuxMagic linuxVersion writer
  putSpec spec writer

/-- Encodes one validated Linux profile into its unique manifest. -/
def encodeLinuxManifest (profile : LinuxNtProfile) :
    Except ProfileManifestError (List UInt8) := do
  let writer ← orReject .rejected (putOrdinary profile.spec (.new maxManifestLen (by decide)))
  let count ← okOr .rejected (tryU16 profile.slots.slots.length)
  let writer ← orReject .rejected (writer.putU16 count >>= putMany putSlot profile.slots.slots)
  return writer.output

/-- Reads a manifest whole: nothing is left, and the profile passes its own checks. -/
def readLinuxManifest (bytes : List UInt8) : Except ProfileManifestError LinuxNtProfile := do
  rejectIf .rejected (maxManifestLen < bytes.length)
  let unread ← readHead .rejected linuxMagic linuxVersion bytes
  let (spec, unread) ← readSpec unread
  let (count, unread) ← orReject .rejected (WireReader.readU16 unread)
  let (slots, unread) ← readMany readSlot count.toNat unread
  orReject .rejected (WireReader.finish unread)
  let slots ← orReject .rejected (OpaqueSlots.new slots)
  orReject .rejected (LinuxNtProfile.new spec slots)

/-- Decodes and revalidates one canonical Linux profile manifest. -/
def decodeLinuxManifest : List UInt8 → Except ProfileManifestError LinuxNtProfile :=
  readCanonical .rejected encodeLinuxManifest readLinuxManifest

/-- The bytes of a profile's manifest. -/
def linuxLayout (profile : LinuxNtProfile) : List UInt8 :=
  (headLayout linuxMagic linuxVersion ++ specLayout profile.spec) ++
    (beBytes 2 (UInt16.ofNat profile.slots.slots.length).toNat ++
      profile.slots.slots.flatMap slotLayout)

theorem slots_count (slots : OpaqueSlots) : slots.slots.length < 65536 :=
  lt_of_le_of_lt slots.length_le (by decide)

theorem encodeLinuxManifest_eq_ok_iff {profile : LinuxNtProfile} {bytes : List UInt8} :
    encodeLinuxManifest profile = .ok bytes ↔
      bytes = linuxLayout profile ∧ bytes.length ≤ maxManifestLen := by
  have hcount := tryU16_of_lt (slots_count profile.slots)
  have hordinary : WireWriter.Puts maxManifestLen (putOrdinary profile.spec) _ :=
    (puts_head linuxMagic linuxVersion).andThen (puts_spec profile.withinLimits)
  have hslots : WireWriter.Puts maxManifestLen _ _ :=
    puts_thenMany (WireWriter.puts_u16 (UInt16.ofNat profile.slots.slots.length))
      fun slot (_ : slot ∈ profile.slots.slots) => puts_slot slot
  unfold linuxLayout
  rw [← puts_twice (by decide) hordinary hslots]
  simp only [encodeLinuxManifest, bind_eq_ok_iff, orReject_eq_ok_iff, hcount, okOr]
  constructor
  · rintro ⟨between, hbetween, count, hcounted, writer, hwriter, hreturn⟩
    cases hcounted
    exact ⟨between, hbetween, writer, hwriter, Except.ok.inj hreturn⟩
  · rintro ⟨between, hbetween, writer, hwriter, rfl⟩
    exact ⟨between, hbetween, _, rfl, writer, hwriter, rfl⟩

theorem LinuxNtProfile.new_self (profile : LinuxNtProfile) :
    LinuxNtProfile.new profile.spec profile.slots = .ok profile := by
  unfold LinuxNtProfile.new
  split
  · rfl
  · next error herror => cases herror.symm.trans profile.valid

theorem linuxManifest_lossless : Lossless encodeLinuxManifest decodeLinuxManifest := by
  refine lossless_readCanonical fun profile bytes hencode => ?_
  obtain ⟨rfl, hroom⟩ := encodeLinuxManifest_eq_ok_iff.mp hencode
  have hslots : readMany readSlot (UInt16.ofNat profile.slots.slots.length).toNat
      (profile.slots.slots.flatMap slotLayout) = .ok (profile.slots.slots, []) := by
    have hread := readMany_layout
      (fun slot (_ : slot ∈ profile.slots.slots) => readSlot_layout slot) []
    rwa [List.append_nil, ← UInt16.toNat_ofNat_of_lt' (slots_count profile.slots)] at hread
  have hbound : rejectIf ProfileManifestError.rejected
      (maxManifestLen < (linuxLayout profile).length) = .ok () :=
    rejectIf_eq_ok_iff.mpr (Nat.not_lt.mpr hroom)
  have hfinish : WireReader.finish [] = .ok () := rfl
  rw [readLinuxManifest, hbound, ok_bind]
  unfold linuxLayout
  simp only [List.append_assoc, readHead_layout, ok_bind, readSpec_layout profile.withinLimits,
    readU16_layout, orReject_ok, hslots, hfinish, profile.slots.new_slots, profile.new_self]

/-! ## Plans of a profile -/

/-- Decodes the push plan that a profile carries. -/
def decodePushPlan (profile : LinuxNtProfile) : Except PushPlanError PushPlan := do
  let id ← orReject .rejected (OpaqueSlotId.new pushPlanSlotId)
  let slot ← okOr .rejected (getSlot profile.slots id)
  decodePushPlanSlot slot.value

/-- Decodes the packet plan that a profile carries. -/
def decodeOnlinePacketPlan (profile : LinuxNtProfile) :
    Except OnlinePacketPlanError OnlinePacketPlan := do
  let id ← orReject .rejected (OpaqueSlotId.new onlinePacketPlanSlotId)
  let slot ← okOr .rejected (getSlot profile.slots id)
  decodePacketPlanSlot slot.value

/-- The plan of a profile is the one whose encoding its slot holds. -/
theorem decodePushPlan_eq_ok_iff {profile : LinuxNtProfile} {plan : PushPlan} :
    decodePushPlan profile = .ok plan ↔ ∃ slot,
      getSlot profile.slots ⟨pushPlanSlotId, by decide⟩ = some slot ∧
        encodePushPlan plan = .ok slot.value := by
  have hid : OpaqueSlotId.new pushPlanSlotId = .ok ⟨pushPlanSlotId, by decide⟩ := rfl
  simp only [decodePushPlan, hid, orReject_ok, ok_bind, bind_eq_ok_iff, okOr_eq_ok_iff,
    pushPlan_lossless plan _]

theorem decodeOnlinePacketPlan_eq_ok_iff {profile : LinuxNtProfile} {plan : OnlinePacketPlan} :
    decodeOnlinePacketPlan profile = .ok plan ↔ ∃ slot,
      getSlot profile.slots ⟨onlinePacketPlanSlotId, by decide⟩ = some slot ∧
        encodeOnlinePacketPlan plan = .ok slot.value := by
  have hid : OpaqueSlotId.new onlinePacketPlanSlotId = .ok ⟨onlinePacketPlanSlotId, by decide⟩ :=
    rfl
  simp only [decodeOnlinePacketPlan, hid, orReject_ok, ok_bind, bind_eq_ok_iff, okOr_eq_ok_iff,
    packetPlan_lossless plan _]

/-- What is within the bound of a slot and not empty can be one. -/
theorem slot_of_layout {front rest : List UInt8} {id : OpaqueSlotId} (hfront : front ≠ [])
    (hroom : (front ++ rest).length ≤ maxOpaqueSlotLen) :
    ∃ slot, OpaqueSlot.new id (front ++ rest) = .ok slot := by
  have hfilled : front ++ rest ≠ [] := by simp [hfront]
  exact ⟨⟨id, front ++ rest, hfilled, hroom⟩, OpaqueSlot.new_eq_ok_iff.mpr ⟨rfl, rfl⟩⟩

/-- Profiles and plans are read back from their manifests, and from nothing else.  Only the
bound of a manifest keeps a profile or a plan from having one, and the manifest of a plan fits
a slot. -/
theorem manifests_lossless :
    (Lossless encodeLinuxManifest decodeLinuxManifest ∧
      (∀ profile, (∃ manifest, encodeLinuxManifest profile = .ok manifest) ↔
        (linuxLayout profile).length ≤ maxManifestLen) ∧
      ∀ manifest profile other, encodeLinuxManifest profile = .ok manifest →
        encodeLinuxManifest other = .ok manifest → profile = other) ∧
    (Lossless encodePushPlan decodePushPlanSlot ∧
      (∀ plan, (∃ manifest, encodePushPlan plan = .ok manifest) ↔
        (pushPlanLayout plan).length ≤ maxPushPlanLen) ∧
      ∀ plan manifest, encodePushPlan plan = .ok manifest →
        ∃ slot, OpaqueSlot.new ⟨pushPlanSlotId, by decide⟩ manifest = .ok slot) ∧
    (Lossless encodeOnlinePacketPlan decodePacketPlanSlot ∧
      (∀ plan, (∃ manifest, encodeOnlinePacketPlan plan = .ok manifest) ↔
        (packetPlanLayout plan).length ≤ maxPacketPlanLen) ∧
      ∀ plan manifest, encodeOnlinePacketPlan plan = .ok manifest →
        ∃ slot, OpaqueSlot.new ⟨onlinePacketPlanSlotId, by decide⟩ manifest = .ok slot) := by
  refine ⟨⟨linuxManifest_lossless, ?_, ?_⟩, ⟨pushPlan_lossless, ?_, ?_⟩, packetPlan_lossless,
    ?_, ?_⟩
  · intro profile
    simp only [encodeLinuxManifest_eq_ok_iff, exists_eq_left]
  · intro manifest profile other hprofile hother
    exact linuxManifest_lossless.unique hprofile hother
  · intro plan
    simp only [encodePushPlan_eq_ok_iff, exists_eq_left]
  · intro plan manifest hencode
    obtain ⟨rfl, hroom⟩ := encodePushPlan_eq_ok_iff.mp hencode
    exact slot_of_layout (by decide) hroom
  · intro plan
    simp only [encodeOnlinePacketPlan_eq_ok_iff, exists_eq_left]
  · intro plan manifest hencode
    obtain ⟨rfl, hroom⟩ := encodeOnlinePacketPlan_eq_ok_iff.mp hencode
    exact slot_of_layout (by decide) (hroom.trans (by decide))

end Profile
end Lirvena
