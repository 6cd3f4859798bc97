import Lirvena.Lib.Result
import Lirvena.Lib.Text

/-!
# The synthetic device

A device profile is what a user chooses to present, and a snapshot is the form in
which it outlives a restart.  The snapshot holds the stable identifiers, the texts
of the portrait and the power; the remaining fields of a profile are derived from
the portrait when it is decoded.
-/

namespace Lirvena
namespace Domain

open Lib

def maxTextBytes : Nat := 96

def snapshotVersion : UInt8 := 1

/-- Rejected user-managed device profile. -/
inductive DeviceProfileError where
  | rejected
  deriving DecidableEq

def validText (value : String) : Bool :=
  value ≠ "" && value.utf8ByteSize ≤ maxTextBytes && trim value = value && !hasControl value

def isHostnameChar (char : Char) : Bool :=
  (0x61 ≤ char.toNat && char.toNat ≤ 0x7a) || isDigit char || char = '-'

def validHostname (value : String) : Bool :=
  value.utf8ByteSize ≤ 63 && value.toList.all isHostnameChar &&
    value.toList.head? ≠ some '-' && value.toList.getLast? ≠ some '-'

def validPositiveDecimal (value : String) : Bool :=
  value.toList.all isDigit && (parseDigitsU64 value).any fun number => 0 < number

/-! ## Portraits -/

/-- The texts that a portrait is constructed from. -/
structure PortraitText where
  archetype : String
  profileCategory : String
  hostname : String
  deviceName : String
  hardwareModel : String
  osRelease : String
  distro : String
  desktopEnvironment : String
  sessionType : String
  loginName : String
  networkInterface : String
  rootFilesystemBytes : String
  memoryTotalKib : String
  timezone : String
  deriving DecidableEq

namespace PortraitText

/-- The texts in the order in which they are checked and encoded. -/
def texts (text : PortraitText) : List String :=
  [text.archetype, text.profileCategory, text.hostname, text.deviceName, text.hardwareModel,
    text.osRelease, text.distro, text.desktopEnvironment, text.sessionType, text.loginName,
    text.networkInterface, text.rootFilesystemBytes, text.memoryTotalKib, text.timezone]

def ofTexts : List String → Option PortraitText
  | [archetype, profileCategory, hostname, deviceName, hardwareModel, osRelease, distro,
      desktopEnvironment, sessionType, loginName, networkInterface, rootFilesystemBytes,
      memoryTotalKib, timezone] =>
      some ⟨archetype, profileCategory, hostname, deviceName, hardwareModel, osRelease, distro,
        desktopEnvironment, sessionType, loginName, networkInterface, rootFilesystemBytes,
        memoryTotalKib, timezone⟩
  | _ => none

theorem ofTexts_texts (text : PortraitText) : ofTexts text.texts = some text :=
  rfl

theorem ofTexts_eq_some {texts : List String} {text : PortraitText}
    (htext : ofTexts texts = some text) : text.texts = texts := by
  unfold ofTexts at htext
  split at htext
  · cases htext
    rfl
  · cases htext

structure Valid (text : PortraitText) : Prop where
  texts : ∀ value ∈ text.texts, validText value = true
  hostname : validHostname text.hostname = true
  rootFilesystemBytes : validPositiveDecimal text.rootFilesystemBytes = true
  memoryTotalKib : validPositiveDecimal text.memoryTotalKib = true

instance (text : PortraitText) : Decidable text.Valid :=
  decidable_of_iff
    ((∀ value ∈ text.texts, validText value = true) ∧ validHostname text.hostname = true ∧
      validPositiveDecimal text.rootFilesystemBytes = true ∧
        validPositiveDecimal text.memoryTotalKib = true)
    ⟨fun ⟨htexts, hhostname, hroot, hmemory⟩ => ⟨htexts, hhostname, hroot, hmemory⟩,
      fun hvalid => ⟨hvalid.texts, hvalid.hostname, hvalid.rootFilesystemBytes,
        hvalid.memoryTotalKib⟩⟩

end PortraitText

/-- User-visible synthetic Linux portrait shared by every consumer. -/
@[ext] structure DevicePortrait where
  text : PortraitText
  valid : text.Valid

def DevicePortrait.new (text : PortraitText) : Except DeviceProfileError DevicePortrait :=
  if hvalid : text.Valid then .ok ⟨text, hvalid⟩ else .error .rejected

theorem DevicePortrait.new_eq_ok_iff {text : PortraitText} {portrait : DevicePortrait} :
    DevicePortrait.new text = .ok portrait ↔ portrait.text = text := by
  unfold DevicePortrait.new
  split
  · next hvalid =>
      constructor
      · intro hnew
        cases hnew
        rfl
      · rintro rfl
        rfl
  · next hinvalid =>
      constructor
      · intro hnew
        cases hnew
      · rintro rfl
        exact absurd portrait.valid hinvalid

/-! ## Profiles -/

/-- Synthetic power description without protocol bit encodings. -/
inductive DevicePower where
  | desktop
  | portable (percent : UInt8) (charging : Bool)
  deriving DecidableEq

/-- A battery state within its range. -/
def DevicePower.Possible : DevicePower → Prop
  | .desktop => True
  | .portable percent _ => percent.toNat ≤ 100

instance (power : DevicePower) : Decidable power.Possible := by
  cases power <;> unfold DevicePower.Possible <;> infer_instance

/-- The checks on stable identifiers and power that both constructors make. -/
structure ValidIdentity (guid : Vector UInt8 16) (macAddress : Vector UInt8 6)
    (power : DevicePower) : Prop where
  guid_ne_zero : guid ≠ Vector.replicate 16 0
  mac_ne_zero : macAddress ≠ Vector.replicate 6 0
  mac_ne_broadcast : macAddress ≠ Vector.replicate 6 0xff
  unicast : macAddress[0] &&& 1 = 0
  possible : power.Possible

instance (guid : Vector UInt8 16) (macAddress : Vector UInt8 6) (power : DevicePower) :
    Decidable (ValidIdentity guid macAddress power) :=
  decidable_of_iff
    (guid ≠ Vector.replicate 16 0 ∧ macAddress ≠ Vector.replicate 6 0 ∧
      macAddress ≠ Vector.replicate 6 0xff ∧ macAddress[0] &&& 1 = 0 ∧ power.Possible)
    ⟨fun ⟨hguid, hzero, hbroadcast, hunicast, hpower⟩ =>
        ⟨hguid, hzero, hbroadcast, hunicast, hpower⟩,
      fun hvalid => ⟨hvalid.guid_ne_zero, hvalid.mac_ne_zero, hvalid.mac_ne_broadcast,
        hvalid.unicast, hvalid.possible⟩⟩

/-- User-managed synthetic device profile. -/
@[ext] structure DeviceProfile where
  guid : Vector UInt8 16
  macAddress : Vector UInt8 6
  deviceName : String
  model : String
  systemKernel : String
  kernelVersion : String
  power : DevicePower
  portrait : DevicePortrait
  identity : ValidIdentity guid macAddress power

/-- The texts of the portrait of a profile that is given by single values. -/
def customPortrait (deviceName model systemKernel : String) : PortraitText where
  archetype := "custom"
  profileCategory := "custom"
  hostname := deviceName
  deviceName := model
  hardwareModel := model
  osRelease := systemKernel ++ " x86_64"
  distro := "Linux"
  desktopEnvironment := "unknown"
  sessionType := "x11"
  loginName := "user"
  networkInterface := "eth0"
  rootFilesystemBytes := "499963174912"
  memoryTotalKib := "16325684"
  timezone := "Asia/Shanghai"

/-- The kernel family that a portrait names. -/
def portraitKernel (portrait : DevicePortrait) : String :=
  withoutEnd " x86_64" portrait.text.osRelease

/-- The release of a kernel family. -/
def kernelRelease (systemKernel : String) : String :=
  withoutFront "Linux " systemKernel

namespace DeviceProfile

/-- Validates a user-managed synthetic device profile. -/
def new (guid : Vector UInt8 16) (macAddress : Vector UInt8 6)
    (deviceName model systemKernel kernelVersion : String) (power : DevicePower) :
    Except DeviceProfileError DeviceProfile :=
  if hidentity : ValidIdentity guid macAddress power then do
    rejectIf .rejected
      ([deviceName, model, systemKernel, kernelVersion].any (fun value => !validText value))
    let portrait ← DevicePortrait.new (customPortrait deviceName model systemKernel)
    return ⟨guid, macAddress, deviceName, model, systemKernel, kernelVersion, power, portrait,
      hidentity⟩
  else
    .error .rejected

/-- Constructs a profile from a complete external portrait. -/
def fromPortrait (guid : Vector UInt8 16) (macAddress : Vector UInt8 6)
    (portrait : DevicePortrait) (power : DevicePower) :
    Except DeviceProfileError DeviceProfile :=
  if hidentity : ValidIdentity guid macAddress power then
    .ok ⟨guid, macAddress, portrait.text.hostname, portrait.text.hardwareModel,
      portraitKernel portrait, kernelRelease (portraitKernel portrait), power, portrait,
      hidentity⟩
  else
    .error .rejected

/-- The fields of the profile that are not stored are the ones its portrait gives. -/
structure Derived (profile : DeviceProfile) : Prop where
  deviceName : profile.deviceName = profile.portrait.text.hostname
  model : profile.model = profile.portrait.text.hardwareModel
  systemKernel : profile.systemKernel = portraitKernel profile.portrait
  kernelVersion : profile.kernelVersion = kernelRelease profile.systemKernel

theorem fromPortrait_eq_ok_iff {guid : Vector UInt8 16} {macAddress : Vector UInt8 6}
    {portrait : DevicePortrait} {power : DevicePower} {profile : DeviceProfile} :
    fromPortrait guid macAddress portrait power = .ok profile ↔
      profile.Derived ∧ profile.guid = guid ∧ profile.macAddress = macAddress ∧
        profile.portrait = portrait ∧ profile.power = power := by
  unfold fromPortrait
  split
  · next hidentity =>
      constructor
      · intro hbuilt
        cases hbuilt
        exact ⟨⟨rfl, rfl, rfl, rfl⟩, rfl, rfl, rfl, rfl⟩
      · rintro ⟨hderived, rfl, rfl, rfl, rfl⟩
        -- A profile that has the derived fields is the one that is built from its portrait.
        congr 1
        have hversion := hderived.kernelVersion
        rw [hderived.systemKernel] at hversion
        exact DeviceProfile.ext rfl rfl hderived.deviceName.symm hderived.model.symm
          hderived.systemKernel.symm hversion.symm rfl rfl
  · next hidentity =>
      constructor
      · intro hbuilt
        cases hbuilt
      · rintro ⟨-, rfl, rfl, -, rfl⟩
        exact absurd profile.identity hidentity

theorem new_eq_ok {guid : Vector UInt8 16} {macAddress : Vector UInt8 6}
    {deviceName model systemKernel kernelVersion : String} {power : DevicePower}
    {profile : DeviceProfile}
    (hnew : new guid macAddress deviceName model systemKernel kernelVersion power =
      .ok profile) :
    profile.deviceName = deviceName ∧ profile.model = model ∧
      profile.systemKernel = systemKernel ∧ profile.kernelVersion = kernelVersion ∧
        profile.portrait.text = customPortrait deviceName model systemKernel := by
  unfold new at hnew
  split at hnew
  · obtain ⟨⟨⟩, -, hnew⟩ := bind_eq_ok_iff.mp hnew
    obtain ⟨portrait, hportrait, hnew⟩ := bind_eq_ok_iff.mp hnew
    cases hnew
    exact ⟨rfl, rfl, rfl, rfl, DevicePortrait.new_eq_ok_iff.mp hportrait⟩
  · cases hnew

end DeviceProfile

end Domain
end Lirvena
