import Lirvena.Lib.HexPairs
import Lirvena.Lib.ProtoRead
import Lirvena.Online.InfoSync
import Lirvena.Profile.OnlinePacketManifest

/-!
# The packets of an online generation

Three packets are encoded from the device, the presence of the account and the numbers
that the profile selects: the synchronization, the registration that confirms the status
and the heartbeat.  An encoding has a bound on its length that no device comes near.  The
silence of an answer is sent again in the packets that follow; the answer has it as signed
numbers, which is why it always can be.
-/

namespace Lirvena
namespace Online

open Lib Lib.Protobuf Profile

def guidHexLen : Nat := 32

def maxDeviceTextLen : Nat := 128

def maxDeviceVersionLen : Nat := 64

def maxPacketLen : Nat := 1024 * 1024

def maxMessageLen : Nat := 4 * 1024

/-! ## The device -/

/-- `valid_text` of the device. -/
def validDeviceText (value : String) (maximum : Nat) (allowEmpty : Bool) : Bool :=
  (allowEmpty || value ≠ "") && value.utf8ByteSize ≤ maximum && !hasControl value

def validBatteryState (value : UInt32) : Bool :=
  value &&& ~~~0xff = 0 && value &&& 0x7f ≤ 100

/-- The facts of a device that registration packets have. -/
structure OnlineDeviceFacts where
  guidHex : String
  name : String
  operatingSystem : String
  operatingSystemVersion : String
  vendorOperatingSystem : String
  clientVersion : String
  batteryState : UInt32
  deriving DecidableEq

/-- The checks that a device has passed. -/
structure OnlineDeviceFacts.Valid (facts : OnlineDeviceFacts) : Prop where
  guid_length : facts.guidHex.utf8ByteSize = guidHexLen
  guid_digits : facts.guidHex.toList.all isHexDigit = true
  name : validDeviceText facts.name maxDeviceTextLen false = true
  operatingSystem : validDeviceText facts.operatingSystem maxDeviceTextLen false = true
  operatingSystemVersion :
    validDeviceText facts.operatingSystemVersion maxDeviceTextLen true = true
  vendorOperatingSystem :
    validDeviceText facts.vendorOperatingSystem maxDeviceTextLen false = true
  clientVersion : validDeviceText facts.clientVersion maxDeviceVersionLen false = true
  batteryState : validBatteryState facts.batteryState = true

instance (facts : OnlineDeviceFacts) : Decidable facts.Valid :=
  decidable_of_iff
    (facts.guidHex.utf8ByteSize = guidHexLen ∧ facts.guidHex.toList.all isHexDigit = true ∧
      validDeviceText facts.name maxDeviceTextLen false = true ∧
        validDeviceText facts.operatingSystem maxDeviceTextLen false = true ∧
          validDeviceText facts.operatingSystemVersion maxDeviceTextLen true = true ∧
            validDeviceText facts.vendorOperatingSystem maxDeviceTextLen false = true ∧
              validDeviceText facts.clientVersion maxDeviceVersionLen false = true ∧
                validBatteryState facts.batteryState = true)
    ⟨fun ⟨hlength, hdigits, hname, hos, hversion, hvendor, hclient, hbattery⟩ =>
        ⟨hlength, hdigits, hname, hos, hversion, hvendor, hclient, hbattery⟩,
      fun hvalid => ⟨hvalid.guid_length, hvalid.guid_digits, hvalid.name,
        hvalid.operatingSystem, hvalid.operatingSystemVersion, hvalid.vendorOperatingSystem,
        hvalid.clientVersion, hvalid.batteryState⟩⟩

/-- `to_ascii_lowercase` of the digits of a GUID. -/
def lowerGuid (guidHex : String) : String :=
  String.ofList (guidHex.toList.map Char.toLower)

theorem hexDigit_toLower {char : Char} (hdigit : isHexDigit char = true) :
    isHexDigit char.toLower = true ∧ char.toLower.utf8Size = char.utf8Size := by
  have hcode : char.toNat < 128 := by
    simp only [isHexDigit, Bool.or_eq_true, Bool.and_eq_true, decide_eq_true_eq] at hdigit
    omega
  exact forall_ascii (fun char => isHexDigit char = true →
    isHexDigit char.toLower = true ∧ char.toLower.utf8Size = char.utf8Size)
      (by decide) hcode hdigit

theorem lowerGuid_digits {chars : List Char} (hdigits : chars.all isHexDigit = true) :
    (chars.map Char.toLower).all isHexDigit = true ∧
      Json.utf8Len (chars.map Char.toLower) = Json.utf8Len chars := by
  induction chars with
  | nil => exact ⟨rfl, rfl⟩
  | cons char rest ih =>
      obtain ⟨hchar, hrest⟩ := Bool.and_eq_true_iff.mp hdigits
      obtain ⟨hlower, hsize⟩ := hexDigit_toLower hchar
      obtain ⟨hothers, hlength⟩ := ih hrest
      rw [List.map_cons, List.all_cons, hlower, hothers, Json.utf8Len_cons, Json.utf8Len_cons,
        hsize, hlength]
      exact ⟨rfl, rfl⟩

theorem OnlineDeviceFacts.Valid.lower {facts : OnlineDeviceFacts} (hvalid : facts.Valid) :
    OnlineDeviceFacts.Valid { facts with guidHex := lowerGuid facts.guidHex } := by
  obtain ⟨hdigits, hlength⟩ := lowerGuid_digits hvalid.guid_digits
  refine { hvalid with
    guid_length := ?_
    guid_digits := ?_ }
  · show (lowerGuid facts.guidHex).utf8ByteSize = guidHexLen
    rw [lowerGuid, Json.utf8ByteSize_ofList, hlength, Json.utf8Len_toList, hvalid.guid_length]
  · show (lowerGuid facts.guidHex).toList.all isHexDigit = true
    rw [lowerGuid, String.toList_ofList, hdigits]

/-- Validated ordinary device facts. -/
structure OnlineDevice extends OnlineDeviceFacts where
  valid : toOnlineDeviceFacts.Valid

/-- Creates a bounded online device snapshot. -/
def OnlineDevice.new (facts : OnlineDeviceFacts) : Except OnlinePacketError OnlineDevice :=
  if hvalid : facts.Valid then
    .ok { facts with guidHex := lowerGuid facts.guidHex, valid := hvalid.lower }
  else
    .error .rejected

/-! ## What is sent -/

/-- The presence of the account: the part of its synchronization state that pushes leave
alone. -/
structure OnlinePresence where
  firstRegister : Bool
  activeStatus : UInt32
  applicationStatus : UInt32
  localSilence : UInt32
  silenceVersion : UInt32
  scene : UInt32
  backgroundSeconds : UInt32
  chatOnFocus : Bool
  deriving DecidableEq

def OnlinePresence.initial : OnlinePresence where
  firstRegister := true
  activeStatus := 2
  applicationStatus := 0
  localSilence := 0
  silenceVersion := 0
  scene := 8
  backgroundSeconds := 0
  chatOnFocus := false

def OnlineSyncState.initial : OnlineSyncState where
  groupLastMessageTime := 0
  directLastMessageTime := 0
  previousDirectMessageTime := 0
  lastGroupCode := 0

/-- `i32::try_from` of a word. -/
def tryI32 (value : UInt32) : Except OnlinePacketError Int :=
  if value.toNat < 2147483648 then .ok value.toNat else .error .rejected

def deviceInfo (device : OnlineDevice) : List Field :=
  bytesField 1 (utf8Bytes device.name) ++ (bytesField 2 (utf8Bytes device.operatingSystem) ++
    (bytesField 3 (utf8Bytes device.operatingSystemVersion) ++
      (⟨4, stringValue ""⟩ :: bytesField 5 (utf8Bytes device.vendorOperatingSystem))))

def businessInfo : List Field :=
  varintField 1 1 ++ varintField 2 1

def silentControl (localSilence silenceVersion : Int) : List Field :=
  enumField 1 localSilence ++ enumField 2 silenceVersion

/-- The registration of the first synchronization, or the one that confirms the status. -/
def registerInfo (device : OnlineDevice) (presence : OnlinePresence)
    (tuning : OnlinePacketTuning) (initial : Bool) : Except OnlinePacketError (List Field) := do
  let batteryState ← tryI32 device.batteryState
  let localSilence ← tryI32 presence.localSilence
  let silenceVersion ← tryI32 presence.silenceVersion
  let (vendorType, registerType, firstRegister) :=
    if initial then
      (tuning.spec.initialVendorType, tuning.spec.initialRegisterType,
        presence.firstRegister.toNat)
    else
      (tuning.spec.statusVendorType, tuning.spec.statusRegisterType, 0)
  return [⟨1, stringValue device.guidHex⟩, ⟨2, int32Value 0⟩,
    ⟨3, stringValue device.clientVersion⟩, ⟨4, int32Value firstRegister⟩,
    ⟨5, int32Value tuning.spec.localeId.toInt⟩, messageField 6 (deviceInfo device),
    ⟨7, int32Value 0⟩, ⟨8, int32Value vendorType.toInt⟩, ⟨9, int32Value registerType.toInt⟩,
    messageField 10 businessInfo, ⟨11, int32Value batteryState⟩, ⟨12, .varint 1⟩,
    messageField 14 (silentControl localSilence silenceVersion),
    ⟨16, .varint presence.scene.toNat⟩, ⟨17, .varint presence.backgroundSeconds.toNat⟩,
    ⟨18, .varint presence.chatOnFocus.toNat⟩]

/-- `encode`: a message within the bound. -/
def encodePacket (fields : List Field) : Except OnlinePacketError (List UInt8) := do
  rejectIf .rejected (maxPacketLen < messageLen fields)
  return encodeMessage fields

def encodeRegister (device : OnlineDevice) (presence : OnlinePresence)
    (tuning : OnlinePacketTuning) : Except OnlinePacketError (List UInt8) := do
  encodePacket (← registerInfo device presence tuning false)

def directCookie (lastMessageTime : Nat) : List Field :=
  varintField 1 lastMessageTime

def directSync (cursors : OnlineSyncState) : List Field :=
  messageField 1 (directCookie cursors.directLastMessageTime) ::
    (varintField 2 cursors.directLastMessageTime ++
      [messageField 3 (directCookie cursors.previousDirectMessageTime)])

def auxiliaryState (cursors : OnlineSyncState) (tuning : OnlinePacketTuning) : List Field :=
  ⟨1, .varint cursors.lastGroupCode⟩ :: varintField 2 tuning.spec.auxiliaryFlag.toNat

def applicationState (presence : OnlinePresence) (delayed : Bool) : List Field :=
  [⟨1, .varint delayed.toNat⟩, ⟨2, .varint presence.applicationStatus.toNat⟩,
    ⟨3, .varint presence.localSilence.toNat⟩]

/-- Encodes an initial or a delayed synchronization. -/
def encodeInfoSync (device : OnlineDevice) (presence : OnlinePresence)
    (cursors : OnlineSyncState) (tuning : OnlinePacketTuning) (requestRandom : UInt32)
    (delayed : Bool) : Except OnlinePacketError (List UInt8) := do
  rejectIf .rejected (requestRandom = 0)
  let register ← registerInfo device presence tuning true
  encodePacket (varintField 1 tuning.spec.syncFlag.toNat ++
    [⟨2, .varint requestRandom.toNat⟩, ⟨4, .varint presence.activeStatus.toNat⟩,
      ⟨5, .varint cursors.groupLastMessageTime⟩, messageField 6 (directSync cursors),
      messageField 8 [], messageField 9 register,
      messageField 10 (auxiliaryState cursors tuning),
      messageField 11 (applicationState presence delayed)])

def heartbeatSilence (presence : OnlinePresence) : List Field :=
  varintField 1 presence.localSilence.toNat ++ varintField 2 presence.silenceVersion.toNat

/-- Encodes one heartbeat. -/
def encodeHeartbeat (presence : OnlinePresence) (tuning : OnlinePacketTuning)
    (unixSeconds : UInt32) (batteryState : UInt32) :
    Except OnlinePacketError (List UInt8) := do
  rejectIf .rejected (unixSeconds = 0 ∨ validBatteryState batteryState = false)
  encodePacket (enumField 1 tuning.spec.heartbeatType.toInt ++
    (messageField 2 (heartbeatSilence presence) ::
      (varintField 3 batteryState.toNat ++ varintField 4 unixSeconds.toNat)))

/-! ## What is answered -/

structure SilentControl where
  localSilence : Int32
  silenceVersion : Int32

structure RegisterResponse where
  result : Int32
  message : Option String
  silence : Option SilentControl

structure DelayedSync where
  enabled : Bool
  delaySeconds : UInt32

structure InfoSyncResponse where
  result : Int32
  message : String
  responseRandom : UInt32
  register : Option RegisterResponse
  delayedSync : Option DelayedSync

/-- The protobuf library on the answers; a heartbeat's is the interval in seconds. -/
structure OnlineCodec where
  infoSync : List UInt8 → Option InfoSyncResponse
  register : List UInt8 → Option RegisterResponse
  heartbeat : List UInt8 → Option Int32

structure RegisterOutcome where
  result : Int32
  localSilence : Option UInt32
  silenceVersion : Option UInt32

structure InfoSyncOutcome where
  success : Bool
  result : Int32
  responseRandom : UInt32
  delayedAfterMs : Option Nat
  localSilence : Option UInt32
  silenceVersion : Option UInt32

def validDiagnostic (value : String) : Bool :=
  value.utf8ByteSize ≤ maxMessageLen && !hasControl value

/-- `u32::try_from` of a signed number. -/
def tryFromI32 (value : Int32) : Except OnlinePacketError UInt32 :=
  if 0 ≤ value.toInt then .ok (UInt32.ofNat value.toInt.toNat) else .error .rejected

def parseSilence (value : SilentControl) : Except OnlinePacketError (UInt32 × UInt32) := do
  let localSilence ← tryFromI32 value.localSilence
  let silenceVersion ← tryFromI32 value.silenceVersion
  return (localSilence, silenceVersion)

/-- `map(parse_silence).transpose()`. -/
def parseOptionalSilence : Option SilentControl →
    Except OnlinePacketError (Option (UInt32 × UInt32))
  | none => .ok none
  | some value => some <$> parseSilence value

def parseRegisterResponse (codec : OnlineCodec) (bytes : List UInt8) :
    Except OnlinePacketError RegisterOutcome := do
  rejectIf .rejected (maxPacketLen < bytes.length)
  let response ← okOr .rejected (codec.register bytes)
  rejectIf .rejected (response.message.any (fun message => !validDiagnostic message) = true)
  let silence ← parseOptionalSilence response.silence
  return {
    result := response.result
    localSilence := silence.map Prod.fst
    silenceVersion := silence.map Prod.snd }

/-- The continuation that the server asks for, in milliseconds. -/
def requestedDelayMs (delayedSync : Option DelayedSync) : Option Nat :=
  (delayedSync.filter fun delayed => delayed.enabled && 0 < delayed.delaySeconds).map
    fun delayed => delayed.delaySeconds.toNat * 1000

def parseInfoSyncResponse (codec : OnlineCodec) (bytes : List UInt8) :
    Except OnlinePacketError InfoSyncOutcome := do
  rejectIf .rejected (maxPacketLen < bytes.length)
  let response ← okOr .rejected (codec.infoSync bytes)
  rejectIf .rejected (validDiagnostic response.message = false)
  let silence ← parseOptionalSilence (response.register.bind RegisterResponse.silence)
  return {
    success := response.result = 0 && response.register.any (fun register => register.result == 0)
    result := response.result
    responseRandom := response.responseRandom
    delayedAfterMs := requestedDelayMs response.delayedSync
    localSilence := silence.map Prod.fst
    silenceVersion := silence.map Prod.snd }

/-- The next interval in milliseconds, or none when it is left out. -/
def parseHeartbeatResponse (codec : OnlineCodec) (bytes : List UInt8) :
    Except OnlinePacketError (Option Nat) := do
  rejectIf .rejected (maxPacketLen < bytes.length)
  if bytes = [] then
    return none
  else
    let seconds ← okOr .rejected (codec.heartbeat bytes)
    rejectIf .rejected (seconds.toInt < 0)
    if seconds = 0 then
      return none
    else
      let milliseconds ← okOr .rejected (checkedMulU64 seconds.toInt.toNat 1000)
      return some milliseconds

/-! ## What an answer leaves behind can be sent -/

/-- The silence can be sent as signed numbers. -/
def OnlinePresence.Sendable (presence : OnlinePresence) : Prop :=
  presence.localSilence.toNat < 2147483648 ∧ presence.silenceVersion.toNat < 2147483648

/-- The cursors are words. -/
structure OnlineSyncState.Fits (cursors : OnlineSyncState) : Prop where
  groupLastMessageTime : cursors.groupLastMessageTime < u64Bound
  directLastMessageTime : cursors.directLastMessageTime < u64Bound
  previousDirectMessageTime : cursors.previousDirectMessageTime < u64Bound
  lastGroupCode : cursors.lastGroupCode < u32Bound

theorem initial_sendable : OnlinePresence.initial.Sendable := by
  constructor <;> decide

theorem initial_fits : OnlineSyncState.initial.Fits := by
  constructor <;> decide

theorem tryI32_returns {value : UInt32} (hvalue : value.toNat < 2147483648) :
    tryI32 value = .ok (value.toNat : Int) :=
  if_pos hvalue

theorem tryFromI32_eq_ok {value : Int32} {word : UInt32} (hword : tryFromI32 value = .ok word) :
    word.toNat < 2147483648 := by
  unfold tryFromI32 at hword
  split at hword
  · cases hword
    have hlow : value.toInt < 2 ^ 31 := value.toInt_lt
    rw [UInt32.toNat_ofNat_of_lt']
    · omega
    · show value.toInt.toNat < 2 ^ 32
      omega
  · cases hword

theorem parseOptionalSilence_eq_ok {value : Option SilentControl}
    {silence : Option (UInt32 × UInt32)} (hparse : parseOptionalSilence value = .ok silence) :
    ∀ pair, silence = some pair → pair.1.toNat < 2147483648 ∧ pair.2.toNat < 2147483648 := by
  cases value with
  | none =>
      cases hparse
      intro pair hpair
      cases hpair
  | some value =>
      rintro pair rfl
      obtain ⟨found, hfound, hsame⟩ := map_eq_ok_iff.mp hparse
      cases hsame
      obtain ⟨localSilence, hlocal, hfound⟩ := bind_eq_ok_iff.mp hfound
      obtain ⟨silenceVersion, hversion, hfound⟩ := bind_eq_ok_iff.mp hfound
      cases hfound
      exact ⟨tryFromI32_eq_ok hlocal, tryFromI32_eq_ok hversion⟩

/-- A silence that is sent as signed numbers, where there is one. -/
def SilenceFits (localSilence silenceVersion : Option UInt32) : Prop :=
  (∀ value, localSilence = some value → value.toNat < 2147483648) ∧
    ∀ value, silenceVersion = some value → value.toNat < 2147483648

theorem silenceFits_of_parse {value : Option SilentControl}
    {silence : Option (UInt32 × UInt32)} (hparse : parseOptionalSilence value = .ok silence) :
    SilenceFits (silence.map Prod.fst) (silence.map Prod.snd) := by
  have hpairs := parseOptionalSilence_eq_ok hparse
  constructor
  · intro word hword
    obtain ⟨pair, hpair, rfl⟩ := Option.map_eq_some_iff.mp hword
    exact (hpairs pair hpair).1
  · intro word hword
    obtain ⟨pair, hpair, rfl⟩ := Option.map_eq_some_iff.mp hword
    exact (hpairs pair hpair).2

theorem parseRegisterResponse_fits {codec : OnlineCodec} {bytes : List UInt8}
    {outcome : RegisterOutcome} (hparse : parseRegisterResponse codec bytes = .ok outcome) :
    SilenceFits outcome.localSilence outcome.silenceVersion := by
  obtain ⟨_, -, hparse⟩ := bind_eq_ok_iff.mp hparse
  obtain ⟨response, -, hparse⟩ := bind_eq_ok_iff.mp hparse
  obtain ⟨_, -, hparse⟩ := bind_eq_ok_iff.mp hparse
  obtain ⟨silence, hsilence, hparse⟩ := bind_eq_ok_iff.mp hparse
  cases hparse
  exact silenceFits_of_parse hsilence

theorem parseInfoSyncResponse_fits {codec : OnlineCodec} {bytes : List UInt8}
    {outcome : InfoSyncOutcome} (hparse : parseInfoSyncResponse codec bytes = .ok outcome) :
    SilenceFits outcome.localSilence outcome.silenceVersion := by
  obtain ⟨_, -, hparse⟩ := bind_eq_ok_iff.mp hparse
  obtain ⟨response, -, hparse⟩ := bind_eq_ok_iff.mp hparse
  obtain ⟨_, -, hparse⟩ := bind_eq_ok_iff.mp hparse
  obtain ⟨silence, hsilence, hparse⟩ := bind_eq_ok_iff.mp hparse
  cases hparse
  exact silenceFits_of_parse hsilence

/-! ## Room -/

theorem room_messageField_le {number limit : Nat} {inner : List Field}
    (hwritable : Writable inner) (hroom : roomFor inner ≤ limit) (hlimit : limit < u64Bound) :
    (messageField number inner).room ≤ 20 + limit := by
  have hlength := encodeMessage_length_le hwritable (Nat.lt_of_le_of_lt hroom hlimit)
  show 20 + (encodeMessage inner).length ≤ 20 + limit
  omega

theorem room_varint (number value : Nat) : Field.room ⟨number, .varint value⟩ = 20 :=
  rfl

theorem room_int32 (number : Nat) (value : Int) : Field.room ⟨number, int32Value value⟩ = 20 :=
  rfl

theorem room_string (number : Nat) (text : String) :
    Field.room ⟨number, stringValue text⟩ = 20 + text.utf8ByteSize :=
  rfl

theorem writable_messageField {number : Nat} (hnumber : number < 2 ^ 61) (inner : List Field) :
    Field.Writable (messageField number inner) :=
  writable_bytes hnumber _

theorem writable_word {number : Nat} (hnumber : number < 2 ^ 61) (value : UInt32) :
    Field.Writable ⟨number, .varint value.toNat⟩ :=
  writable_varint hnumber (Nat.lt_trans value.toNat_lt (by decide))

theorem writable_bool {number : Nat} (hnumber : number < 2 ^ 61) (value : Bool) :
    Field.Writable ⟨number, .varint value.toNat⟩ :=
  writable_varint hnumber (Nat.lt_of_le_of_lt value.toNat_le (by decide))

theorem writable_wordField {number : Nat} (hnumber : number < 2 ^ 61) (value : UInt32) :
    Writable (varintField number value.toNat) :=
  writable_varintField hnumber (Nat.lt_trans value.toNat_lt (by decide))

/-- A message with room for its fields within the bound is encoded. -/
theorem encodePacket_returns {fields : List Field} (hwritable : Writable fields)
    (hroom : roomFor fields ≤ maxPacketLen) :
    encodePacket fields = .ok (encodeMessage fields) := by
  have hbound : maxPacketLen < u64Bound := by decide
  have hlength := encodeMessage_length_le hwritable (Nat.lt_of_le_of_lt hroom hbound)
  have hfits : rejectIf OnlinePacketError.rejected (maxPacketLen < messageLen fields) = .ok () :=
    rejectIf_eq_ok_iff.mpr (Nat.not_lt.mpr (Nat.le_trans hlength hroom))
  rw [encodePacket, hfits]
  rfl

theorem deviceText_length {value : String} {maximum : Nat} {allowEmpty : Bool}
    (hvalid : validDeviceText value maximum allowEmpty = true) :
    value.utf8ByteSize ≤ maximum := by
  simp only [validDeviceText, Bool.and_eq_true, decide_eq_true_eq] at hvalid
  exact hvalid.1.2

theorem batteryState_lt {value : UInt32} (hvalid : validBatteryState value = true) :
    value.toNat < 256 := by
  simp only [validBatteryState, Bool.and_eq_true, decide_eq_true_eq] at hvalid
  have hhigh : value.toNat &&& (~~~(0xff : UInt32)).toNat = 0 := by
    rw [← UInt32.toNat_and, hvalid.1]
    rfl
  have hbits : ∀ index ≥ 8, value.toNat.testBit index = false := by
    intro index hindex
    by_cases hword : index < 32
    · have hlisted : ∀ index < 32, 8 ≤ index →
          (~~~(0xff : UInt32)).toNat.testBit index = true := by
        decide
      have hbit : (value.toNat &&& (~~~(0xff : UInt32)).toNat).testBit index =
          Nat.testBit 0 index := by
        rw [hhigh]
      rwa [Nat.testBit_and, hlisted index hword hindex, Bool.and_true, Nat.zero_testBit] at hbit
    · have hlow : value.toNat < 2 ^ index := Nat.lt_of_lt_of_le value.toNat_lt
        (Nat.pow_le_pow_right (by decide) (Nat.not_lt.mp hword))
      exact Nat.testBit_lt_two_pow hlow
  have hbyte : value.toNat < 2 ^ 8 := Nat.lt_pow_two_of_testBit _ hbits
  exact hbyte

theorem roomFor_deviceInfo_le (device : OnlineDevice) : roomFor (deviceInfo device) ≤ 612 := by
  have hname := deviceText_length device.valid.name
  have hos := deviceText_length device.valid.operatingSystem
  have hversion := deviceText_length device.valid.operatingSystemVersion
  have hvendor := deviceText_length device.valid.vendorOperatingSystem
  have hfirst := roomFor_bytesField_le 1 (utf8Bytes device.name)
  have hsecond := roomFor_bytesField_le 2 (utf8Bytes device.operatingSystem)
  have hthird := roomFor_bytesField_le 3 (utf8Bytes device.operatingSystemVersion)
  have hfifth := roomFor_bytesField_le 5 (utf8Bytes device.vendorOperatingSystem)
  have hempty : Field.room ⟨4, stringValue ""⟩ = 20 := rfl
  simp only [utf8Bytes_length] at hfirst hsecond hthird hfifth
  simp only [deviceInfo, roomFor_append, roomFor_cons, hempty]
  unfold maxDeviceTextLen at *
  omega

theorem writable_deviceInfo (device : OnlineDevice) : Writable (deviceInfo device) :=
  (writable_bytesField (by decide) _).append ((writable_bytesField (by decide) _).append
    ((writable_bytesField (by decide) _).append
      (Writable.cons (writable_bytes (by decide) _) (writable_bytesField (by decide) _))))

theorem roomFor_silentControl_le (localSilence silenceVersion : Int) :
    roomFor (silentControl localSilence silenceVersion) ≤ 40 := by
  have hlocal := roomFor_enumField_le 1 localSilence
  have hversion := roomFor_enumField_le 2 silenceVersion
  rw [silentControl, roomFor_append]
  omega

theorem writable_silentControl (localSilence silenceVersion : Int) :
    Writable (silentControl localSilence silenceVersion) :=
  (writable_enumField (by decide) _).append (writable_enumField (by decide) _)

theorem writable_businessInfo : Writable businessInfo :=
  (writable_varintField (by decide) (by decide)).append
    (writable_varintField (by decide) (by decide))

/-- The registration of a device takes two thousand bytes at most. -/
theorem registerInfo_returns (device : OnlineDevice) {presence : OnlinePresence}
    (hsendable : presence.Sendable) (tuning : OnlinePacketTuning) (initial : Bool) :
    ∃ fields, registerInfo device presence tuning initial = .ok fields ∧ Writable fields ∧
      roomFor fields ≤ 2048 := by
  have hbattery := batteryState_lt device.valid.batteryState
  have hguid := device.valid.guid_length
  have hclient := deviceText_length device.valid.clientVersion
  have hdevice : (messageField 6 (deviceInfo device)).room ≤ 632 :=
    room_messageField_le (writable_deviceInfo device) (roomFor_deviceInfo_le device) (by decide)
  rw [registerInfo, tryI32_returns (by omega), tryI32_returns hsendable.1,
    tryI32_returns hsendable.2]
  refine ⟨_, rfl, ?_, ?_⟩
  · exact .cons (writable_bytes (by decide) _) (.cons (writable_int32 (by decide) _)
      (.cons (writable_bytes (by decide) _) (.cons (writable_int32 (by decide) _)
        (.cons (writable_int32 (by decide) _) (.cons (writable_messageField (by decide) _)
          (.cons (writable_int32 (by decide) _) (.cons (writable_int32 (by decide) _)
            (.cons (writable_int32 (by decide) _) (.cons (writable_messageField (by decide) _)
              (.cons (writable_int32 (by decide) _) (.cons (writable_varint (by decide) (by decide))
                (.cons (writable_messageField (by decide) _) (.cons (writable_word (by decide) _)
                  (.cons (writable_word (by decide) _)
                    (.cons (writable_bool (by decide) _) writable_nil)))))))))))))))
  · have hbusiness : (messageField 10 businessInfo).room ≤ 60 :=
      room_messageField_le writable_businessInfo (by decide : _ ≤ 40) (by decide)
    have hsilence := fun localSilence silenceVersion : Int =>
      (room_messageField_le (writable_silentControl localSilence silenceVersion)
        (roomFor_silentControl_le _ _) (by decide) :
          (messageField 14 (silentControl localSilence silenceVersion)).room ≤ 60)
    have hcontrol := hsilence presence.localSilence.toNat presence.silenceVersion.toNat
    simp only [roomFor_cons, roomFor_nil, room_varint, room_int32, room_string]
    unfold guidHexLen maxDeviceVersionLen at *
    omega

/-! ## Every packet is encoded -/

theorem encodeRegister_returns (device : OnlineDevice) {presence : OnlinePresence}
    (hsendable : presence.Sendable) (tuning : OnlinePacketTuning) :
    Returns (encodeRegister device presence tuning) := by
  obtain ⟨fields, hregister, hwritable, hroom⟩ :=
    registerInfo_returns device hsendable tuning false
  have hbound : 2048 ≤ maxPacketLen := by decide
  refine ⟨encodeMessage fields, bind_eq_ok_iff.mpr ⟨fields, hregister, ?_⟩⟩
  exact encodePacket_returns hwritable (Nat.le_trans hroom hbound)

theorem directSync_message {cursors : OnlineSyncState} (hfits : cursors.Fits) :
    (messageField 6 (directSync cursors)).room ≤ 120 := by
  have hcookie : ∀ (number time : Nat), time < u64Bound →
      (messageField number (directCookie time)).room ≤ 40 := fun number time htime =>
    room_messageField_le (writable_varintField (by decide) htime)
      (roomFor_varintField_le 1 time) (by decide)
  have hcurrent := hcookie 1 _ hfits.directLastMessageTime
  have hprevious := hcookie 3 _ hfits.previousDirectMessageTime
  have htime := roomFor_varintField_le 2 cursors.directLastMessageTime
  have hwritable : Writable (directSync cursors) :=
    .cons (writable_messageField (by decide) _)
      ((writable_varintField (by decide) hfits.directLastMessageTime).append
        (.cons (writable_messageField (by decide) _) writable_nil))
  refine room_messageField_le hwritable (?_ : _ ≤ 100) (by decide)
  simp only [directSync, roomFor_cons, roomFor_append, roomFor_nil]
  omega

theorem auxiliaryState_message {cursors : OnlineSyncState} (hfits : cursors.Fits)
    (tuning : OnlinePacketTuning) :
    (messageField 10 (auxiliaryState cursors tuning)).room ≤ 60 := by
  have hcode : cursors.lastGroupCode < 2 ^ 64 :=
    Nat.lt_trans hfits.lastGroupCode (by decide)
  have hflag := roomFor_varintField_le 2 tuning.spec.auxiliaryFlag.toNat
  have hwritable : Writable (auxiliaryState cursors tuning) :=
    .cons (writable_varint (by decide) hcode) (writable_wordField (by decide) _)
  refine room_messageField_le hwritable (?_ : _ ≤ 40) (by decide)
  simp only [auxiliaryState, roomFor_cons, room_varint]
  omega

theorem applicationState_message (presence : OnlinePresence) (delayed : Bool) :
    (messageField 11 (applicationState presence delayed)).room ≤ 80 := by
  have hwritable : Writable (applicationState presence delayed) :=
    .cons (writable_bool (by decide) _) (.cons (writable_word (by decide) _)
      (.cons (writable_word (by decide) _) writable_nil))
  refine room_messageField_le hwritable (?_ : _ ≤ 60) (by decide)
  simp only [applicationState, roomFor_cons, room_varint, roomFor_nil]
  omega

theorem encodeInfoSync_returns (device : OnlineDevice) {presence : OnlinePresence}
    (hsendable : presence.Sendable) {cursors : OnlineSyncState} (hfits : cursors.Fits)
    (tuning : OnlinePacketTuning) {requestRandom : UInt32} (hrandom : requestRandom ≠ 0)
    (delayed : Bool) :
    Returns (encodeInfoSync device presence cursors tuning requestRandom delayed) := by
  obtain ⟨register, hregister, hinner, hroom⟩ :=
    registerInfo_returns device hsendable tuning true
  have hflag := roomFor_varintField_le 1 tuning.spec.syncFlag.toNat
  have hsync := directSync_message hfits
  have hconfig : (messageField 8 []).room ≤ 20 := by decide
  have hmessage : (messageField 9 register).room ≤ 2068 :=
    room_messageField_le hinner hroom (by decide)
  have hauxiliary := auxiliaryState_message hfits tuning
  have happlication := applicationState_message presence delayed
  have haccepted : rejectIf OnlinePacketError.rejected (requestRandom = 0) = .ok () :=
    rejectIf_eq_ok_iff.mpr hrandom
  rw [encodeInfoSync, haccepted]
  refine ⟨_, bind_eq_ok_iff.mpr ⟨(), rfl, bind_eq_ok_iff.mpr
    ⟨register, hregister, encodePacket_returns ?_ ?_⟩⟩⟩
  · exact (writable_wordField (by decide) _).append
      (.cons (writable_word (by decide) _) (.cons (writable_word (by decide) _)
        (.cons (writable_varint (by decide) hfits.groupLastMessageTime)
          (.cons (writable_messageField (by decide) _)
            (.cons (writable_messageField (by decide) _)
              (.cons (writable_messageField (by decide) _)
                (.cons (writable_messageField (by decide) _)
                  (.cons (writable_messageField (by decide) _) writable_nil))))))))
  · simp only [roomFor_append, roomFor_cons, roomFor_nil, room_varint]
    unfold maxPacketLen
    omega

theorem encodeHeartbeat_returns (presence : OnlinePresence) (tuning : OnlinePacketTuning)
    {unixSeconds batteryState : UInt32} (hseconds : unixSeconds ≠ 0)
    (hbattery : validBatteryState batteryState = true) :
    Returns (encodeHeartbeat presence tuning unixSeconds batteryState) := by
  have hsilence : (messageField 2 (heartbeatSilence presence)).room ≤ 60 := by
    have hlocal := roomFor_varintField_le 1 presence.localSilence.toNat
    have hversion := roomFor_varintField_le 2 presence.silenceVersion.toNat
    refine room_messageField_le ((writable_wordField (by decide) _).append
      (writable_wordField (by decide) _)) (?_ : _ ≤ 40) (by decide)
    rw [roomFor_append]
    omega
  have hkind := roomFor_enumField_le 1 tuning.spec.heartbeatType.toInt
  have hstate := roomFor_varintField_le 3 batteryState.toNat
  have htime := roomFor_varintField_le 4 unixSeconds.toNat
  have haccepted : rejectIf OnlinePacketError.rejected
      (unixSeconds = 0 ∨ validBatteryState batteryState = false) = .ok () := by
    rw [rejectIf_eq_ok_iff, hbattery]
    simp [hseconds]
  rw [encodeHeartbeat, haccepted]
  refine ⟨_, bind_eq_ok_iff.mpr ⟨(), rfl, encodePacket_returns ?_ ?_⟩⟩
  · exact (writable_enumField (by decide) _).append
      (.cons (writable_messageField (by decide) _)
        ((writable_wordField (by decide) _).append (writable_wordField (by decide) _)))
  · simp only [roomFor_append, roomFor_cons]
    unfold maxPacketLen
    omega

end Online
end Lirvena
