import Lirvena.Online.JceEnvelope
import Lirvena.Online.PushProcessor

/-!
# Acknowledgements of multi-video and configuration pushes

Both pushes are envelopes whose body lies under the names of a parameter and of a
type, and both are acknowledged by an envelope that is built anew from what was
parsed.  A multi-video acknowledgement is a message of the same names; that of a
configuration push is a response, and has the names of one.
-/

namespace Lirvena
namespace Online

open Lib Jce

/-! ## Multi-video pushes -/

namespace MultiVideo

def maxEnvelopeLen : Nat := 1024 * 1024

def maxAckLen : Nat := maxEnvelopeLen + 4 * 1024

def maxRecipients : Nat := 64

def maxVideoBufferLen : Nat := 512 * 1024

structure Message where
  version : UInt8 := 0
  typeCode : UInt8 := 0
  command : Int16 := 0
  sender : Int64 := 0
  recipients : List Int64 := []
  videoBuffer : List UInt8 := []
  subcommand : Int16 := 0
  uid : Int64 := 0
  sequence : Int64 := 0
  contentType : Int64 := 0
  timestamp : Int64 := 0
  dataFlag : Int64 := 0
  deriving DecidableEq

/-- The fields of an envelope around its body. -/
structure Header where
  version : Int32 := 0
  packetType : Int32 := 0
  messageType : Int32 := 0
  requestId : Int32 := 0
  servant : String := ""
  function : String := ""
  deriving DecidableEq

structure Envelope extends Header where
  message : Message
  deriving DecidableEq

def checkedU8 (value : Int64) : Except OnlinePacketError UInt8 :=
  if 0 ≤ value.toInt ∧ value.toInt < 256 then .ok (UInt8.ofNat value.toInt.toNat)
  else .error .rejected

def checkedI16 (value : Int64) : Except OnlinePacketError Int16 :=
  if FitsSigned 2 value.toInt then .ok value.toInt16 else .error .rejected

def checkedI32 (value : Int64) : Except OnlinePacketError Int32 :=
  if FitsSigned 4 value.toInt then .ok value.toInt32 else .error .rejected

/-- The fields of a message. -/
def messageField : UInt8 → Option (Reader.Field Message)
  | 0 => some (.integer fun message value => do
      return { message with version := ← checkedU8 value })
  | 1 => some (.integer fun message value => do
      return { message with typeCode := ← checkedU8 value })
  | 2 => some (.integer fun message value => do
      return { message with command := ← checkedI16 value })
  | 3 => some (.integer fun message value => .ok { message with sender := value })
  | 4 => some (.integerList maxRecipients fun message values =>
      .ok { message with recipients := values })
  | 5 => some (.bytes fun message value => do
      rejectIf .rejected (maxVideoBufferLen < value.length)
      return { message with videoBuffer := value })
  | 6 => some (.integer fun message value => do
      return { message with subcommand := ← checkedI16 value })
  | 7 => some (.integer fun message value => .ok { message with uid := value })
  | 8 => some (.integer fun message value => .ok { message with sequence := value })
  | 9 => some (.integer fun message value => .ok { message with contentType := value })
  | 10 => some (.integer fun message value => .ok { message with timestamp := value })
  | 11 => some (.integer fun message value => .ok { message with dataFlag := value })
  | _ => none

def parseMessage (input : List UInt8) : Except OnlinePacketError Message :=
  Reader.struct messageField {} input

/-- The fields of an envelope: those of its header, and the byte string around its
body. -/
def envelopeField : UInt8 → Option (Reader.Field (Header × Option (List UInt8)))
  | 1 => some (.integer fun (header, wup) value => do
      return ({ header with version := ← checkedI32 value }, wup))
  | 2 => some (.integer fun (header, wup) value => do
      return ({ header with packetType := ← checkedI32 value }, wup))
  | 3 => some (.integer fun (header, wup) value => do
      return ({ header with messageType := ← checkedI32 value }, wup))
  | 4 => some (.integer fun (header, wup) value => do
      return ({ header with requestId := ← checkedI32 value }, wup))
  | 5 => some (.string fun (header, wup) value => .ok ({ header with servant := value }, wup))
  | 6 => some (.string fun (header, wup) value => .ok ({ header with function := value }, wup))
  | 7 => some (.bytes fun (header, _) value => .ok (header, some value))
  | _ => none

def parseEnvelope (input : List UInt8) : Except OnlinePacketError Envelope := do
  let (header, wup) ← Reader.envelope envelopeField ({}, none) input
  let body ← Reader.namedPayload (← okOr .rejected wup) "MultiVideoMsg"
    "SharpSvrPack.MultiVideoMsg"
  let message ← parseMessage body
  return { header with message }

/-- The fields of the message of an acknowledgement. -/
def messageFields (message : Message) : List (UInt8 × Value) :=
  [(0, .integer (Int64.ofNat message.version.toNat)),
    (1, .integer (Int64.ofNat message.typeCode.toNat)),
    (2, .integer message.command.toInt64),
    (3, .integer message.sender),
    (4, .integerList (message.recipients.take 1)),
    (5, .bytes message.videoBuffer),
    (6, .integer message.subcommand.toInt64),
    (7, .integer message.uid),
    (8, .integer message.sequence),
    (9, .integer message.contentType),
    (10, .integer message.timestamp),
    (11, .integer message.dataFlag)]

/-- The fields of an acknowledgement before its empty maps. -/
def envelopeFields (header : Header) (wup : List UInt8) : List (UInt8 × Value) :=
  [(1, .integer (if header.version = 0 then 2 else header.version.toInt64)),
    (2, .integer header.packetType.toInt64),
    (3, .integer header.messageType.toInt64),
    (4, .integer header.requestId.toInt64),
    (5, .string (if header.servant = "" then "MultiVideo" else header.servant)),
    (6, .string (if header.function = "" then "MultiVideoMsg" else header.function)),
    (7, .bytes wup),
    (8, .integer 0)]

def encodeAck (envelope : Envelope) : Except OnlinePacketError (List UInt8) := do
  let fields ← Writer.fields (messageFields envelope.message)
  let body := Writer.head 0 Kind.structBegin ++ (fields ++ Writer.head 0 Kind.structEnd)
  let wup ← Writer.namedPayload "MultiVideoMsg" "SharpSvrPack.MultiVideoMsg" body
  let output ← Writer.fields (envelopeFields envelope.toHeader wup)
  return output ++ (Writer.emptyMap 9 ++ Writer.emptyMap 10)

/-- Messages of other types are consumed without an acknowledgement. -/
def buildAck (input : List UInt8) : Except OnlinePacketError (Option (List UInt8)) := do
  rejectIf .rejected (input = [] ∨ maxEnvelopeLen < input.length)
  let envelope ← parseEnvelope input
  if 32 ≤ envelope.message.typeCode ∨ envelope.message.typeCode = 10 then return none
  else
    let output ← encodeAck envelope
    rejectIf .rejected (maxAckLen < output.length)
    return some output

/-- The video buffer is within its bound. -/
def Message.Fits (message : Message) : Prop :=
  message.videoBuffer.length ≤ maxVideoBufferLen

theorem messageField_fits {tag : UInt8} {field : Reader.Field Message}
    (hfield : messageField tag = some field) : field.Keeps Message.Fits := by
  unfold messageField at hfield
  split at hfield
  case h_6 =>
    cases hfield
    intro message value next _ hset
    obtain ⟨⟨⟩, hreject, hreturn⟩ := bind_eq_ok_iff.mp hset
    cases hreturn
    exact Nat.not_lt.mp (rejectIf_eq_ok_iff.mp hreject)
  -- Every other field leaves the buffer as it was.
  case h_1 | h_2 | h_3 | h_7 =>
    cases hfield
    intro message value next hfits hset
    obtain ⟨checked, -, hreturn⟩ := bind_eq_ok_iff.mp hset
    cases hreturn
    exact hfits
  case h_13 => cases hfield
  all_goals
    cases hfield
    intro message value next hfits hset
    cases hset
    exact hfits

theorem parseMessage_fits {input : List UInt8} {message : Message}
    (hparse : parseMessage input = .ok message) : message.Fits := by
  obtain ⟨begin, -, hparse⟩ := bind_eq_ok_iff.mp hparse
  obtain ⟨⟨⟩, -, hfold⟩ := bind_eq_ok_iff.mp hparse
  have hempty : ({} : Message).Fits := Nat.zero_le _
  exact Reader.foldFields_preserves (fun _ _ => messageField_fits) hempty hfold

/-- The texts of a header can be read again. -/
def Header.Fits (header : Header) : Prop :=
  header.servant.utf8ByteSize ≤ maxValueLen ∧ header.function.utf8ByteSize ≤ maxValueLen

/-- So can those of the header that a loop has read so far. -/
def FieldsFit (state : Header × Option (List UInt8)) : Prop :=
  state.1.Fits

theorem envelopeField_fits {tag : UInt8} {field : Reader.Field (Header × Option (List UInt8))}
    (hfield : envelopeField tag = some field) : field.Keeps FieldsFit := by
  unfold envelopeField at hfield
  split at hfield
  case h_5 =>
    cases hfield
    intro state value next hfits hvalue hset
    cases hset
    exact ⟨hvalue, hfits.2⟩
  case h_6 =>
    cases hfield
    intro state value next hfits hvalue hset
    cases hset
    exact ⟨hfits.1, hvalue⟩
  case h_7 =>
    cases hfield
    intro state value next hfits hset
    cases hset
    exact hfits
  case h_8 => cases hfield
  all_goals
    cases hfield
    intro state value next hfits hset
    obtain ⟨checked, -, hreturn⟩ := bind_eq_ok_iff.mp hset
    cases hreturn
    exact hfits

theorem parseEnvelope_fits {input : List UInt8} {envelope : Envelope}
    (hparse : parseEnvelope input = .ok envelope) :
    envelope.toHeader.Fits ∧ envelope.message.Fits := by
  obtain ⟨⟨header, wup⟩, hheader, hparse⟩ := bind_eq_ok_iff.mp hparse
  obtain ⟨input, -, hparse⟩ := bind_eq_ok_iff.mp hparse
  obtain ⟨body, -, hparse⟩ := bind_eq_ok_iff.mp hparse
  obtain ⟨message, hmessage, hreturn⟩ := bind_eq_ok_iff.mp hparse
  cases hreturn
  have hempty : FieldsFit ({}, none) := ⟨Nat.zero_le _, Nat.zero_le _⟩
  have hfits : FieldsFit (header, wup) :=
    Reader.foldFields_preserves (fun _ _ => envelopeField_fits) hempty hheader
  exact ⟨hfits, parseMessage_fits hmessage⟩

/-! ### What is acknowledged -/

theorem checkedU8_ofNat (value : UInt8) : checkedU8 (Int64.ofNat value.toNat) = .ok value := by
  have hlt := value.toNat_lt
  have hint : (Int64.ofNat value.toNat).toInt = value.toNat :=
    Int64.toInt_ofNat_of_lt (by omega)
  have hsmall : (value.toNat : Int) < 256 := by omega
  simp [checkedU8, hint, hsmall]

theorem checkedI16_toInt64 (value : Int16) : checkedI16 value.toInt64 = .ok value := by
  have hlow := value.le_toInt
  have hhigh := value.toInt_lt
  have hfits : FitsSigned 2 value.toInt64.toInt := by
    rw [Int16.toInt_toInt64]
    constructor <;> omega
  simp only [checkedI16, if_pos hfits, Int16.toInt16_toInt64]

theorem checkedI32_toInt64 (value : Int32) : checkedI32 value.toInt64 = .ok value := by
  have hlow := value.le_toInt
  have hhigh := value.toInt_lt
  have hfits : FitsSigned 4 value.toInt64.toInt := by
    rw [Int32.toInt_toInt64]
    constructor <;> omega
  simp only [checkedI32, if_pos hfits, Int32.toInt32_toInt64]

/-- The fields of a message are read back, with its first recipient only. -/
theorem messageFields_taken {message : Message} (hfits : message.Fits) :
    Reader.Takes messageField {} (messageFields message)
      { message with recipients := message.recipients.take 1 } := by
  have hrecipients : (message.recipients.take 1).length ≤ maxRecipients :=
    (List.length_take_le _ _).trans (by decide)
  have hbuffer : message.videoBuffer.length ≤ maxValueLen := hfits.trans (by decide)
  have hreject : rejectIf .rejected (maxVideoBufferLen < message.videoBuffer.length) =
      (.ok () : Except OnlinePacketError Unit) := rejectIf_eq_ok_iff.mpr (Nat.not_lt.mpr hfits)
  refine .known rfl trivial (bind_eq_ok_iff.mpr ⟨_, checkedU8_ofNat _, rfl⟩) ?_
  refine .known rfl trivial (bind_eq_ok_iff.mpr ⟨_, checkedU8_ofNat _, rfl⟩) ?_
  refine .known rfl trivial (bind_eq_ok_iff.mpr ⟨_, checkedI16_toInt64 _, rfl⟩) ?_
  refine .known rfl trivial rfl ?_
  refine .known rfl hrecipients rfl ?_
  refine .known rfl hbuffer (bind_eq_ok_iff.mpr ⟨_, hreject, rfl⟩) ?_
  refine .known rfl trivial (bind_eq_ok_iff.mpr ⟨_, checkedI16_toInt64 _, rfl⟩) ?_
  refine .known rfl trivial rfl ?_
  refine .known rfl trivial rfl ?_
  refine .known rfl trivial rfl ?_
  refine .known rfl trivial rfl ?_
  refine .known rfl trivial rfl ?_
  exact .nil

/-- A header with its defaults. -/
def Header.answered (header : Header) : Header :=
  { header with
    version := if header.version = 0 then 2 else header.version
    servant := if header.servant = "" then "MultiVideo" else header.servant
    function := if header.function = "" then "MultiVideoMsg" else header.function }

theorem Header.Fits.answered {header : Header} (hfits : header.Fits) : header.answered.Fits := by
  unfold Header.answered
  constructor
  · dsimp only
    split
    · decide
    · exact hfits.1
  · dsimp only
    split
    · decide
    · exact hfits.2

/-- The fields of an envelope are read back with the defaults that they were written with. -/
theorem envelopeFields_taken {header : Header} {wup : List UInt8} (hfits : header.Fits)
    (hwup : wup.length ≤ maxValueLen) :
    Reader.Takes envelopeField ({}, none) (envelopeFields header wup)
      (header.answered, some wup) := by
  have hversion : checkedI32 (if header.version = 0 then 2 else header.version.toInt64) =
      .ok header.answered.version := by
    rw [← checkedI32_toInt64 header.answered.version]
    unfold Header.answered
    dsimp only
    split <;> rfl
  refine .known rfl trivial (bind_eq_ok_iff.mpr ⟨_, hversion, rfl⟩) ?_
  refine .known rfl trivial (bind_eq_ok_iff.mpr ⟨_, checkedI32_toInt64 _, rfl⟩) ?_
  refine .known rfl trivial (bind_eq_ok_iff.mpr ⟨_, checkedI32_toInt64 _, rfl⟩) ?_
  refine .known rfl trivial (bind_eq_ok_iff.mpr ⟨_, checkedI32_toInt64 _, rfl⟩) ?_
  refine .known rfl hfits.answered.1 rfl ?_
  refine .known rfl hfits.answered.2 rfl ?_
  refine .known rfl hwup rfl ?_
  exact .unknown .integer rfl nofun trivial .nil

/-- What an acknowledgement holds of an envelope: all of it, with the defaults, but for the
recipients after the first. -/
def Envelope.answered (envelope : Envelope) : Envelope where
  toHeader := envelope.toHeader.answered
  message := { envelope.message with recipients := envelope.message.recipients.take 1 }

theorem encodeAck_parse {envelope : Envelope} {ack : List UInt8}
    (hheader : envelope.toHeader.Fits) (hmessage : envelope.message.Fits)
    (hack : encodeAck envelope = .ok ack) : parseEnvelope ack = .ok envelope.answered := by
  obtain ⟨fields, hfields, hack⟩ := bind_eq_ok_iff.mp hack
  obtain ⟨wup, hwup, hack⟩ := bind_eq_ok_iff.mp hack
  obtain ⟨output, houtput, hreturn⟩ := bind_eq_ok_iff.mp hack
  cases hreturn
  have hbody : (Writer.head 0 Kind.structBegin ++ (fields ++ Writer.head 0 Kind.structEnd)).length
      ≤ maxVideoBufferLen + 200 := by
    have hfieldsLe := Writer.fields_length_le hfields
    have hbegin := Writer.head_length_le 0 Kind.structBegin
    have hend := Writer.head_length_le 0 Kind.structEnd
    have hone := List.length_take_le 1 envelope.message.recipients
    have hbuffer : envelope.message.videoBuffer.length ≤ maxVideoBufferLen := hmessage
    simp only [messageFields, List.map_cons, List.map_nil, List.sum_cons, List.sum_nil,
      Writer.room] at hfieldsLe
    simp only [List.length_append]
    omega
  have hwupLe : wup.length ≤ maxValueLen := by
    have hnames := Writer.namedPayload_length_le hwup
    have hsizes : "MultiVideoMsg".utf8ByteSize + "SharpSvrPack.MultiVideoMsg".utf8ByteSize = 39 :=
      by decide
    unfold maxVideoBufferLen at hbody
    unfold maxValueLen
    omega
  have hheaderRead : Reader.envelope envelopeField ({}, none)
      (output ++ [9, 10].flatMap Writer.emptyMap) =
        .ok (envelope.toHeader.answered, some wup) :=
    Reader.envelope_write (envelopeFields_taken hheader hwupLe) houtput (by decide)
  have hpayload := Reader.namedPayload_write "MultiVideoMsg" "SharpSvrPack.MultiVideoMsg" hwup
    (by decide) (by decide) (hbody.trans (by decide))
  have hmessageRead := Reader.struct_write 0 (messageFields_taken hmessage) hfields
  refine bind_eq_ok_iff.mpr ⟨_, hheaderRead, ?_⟩
  refine bind_eq_ok_iff.mpr ⟨wup, rfl, ?_⟩
  refine bind_eq_ok_iff.mpr ⟨_, hpayload, ?_⟩
  exact bind_eq_ok_iff.mpr ⟨_, hmessageRead, rfl⟩

/-- An acknowledgement is parsed like the push, and holds what it held. -/
theorem buildAck_parse {input ack : List UInt8} (hbuild : buildAck input = .ok (some ack)) :
    ∃ envelope, parseEnvelope input = .ok envelope ∧
      parseEnvelope ack = .ok envelope.answered := by
  obtain ⟨⟨⟩, -, hbuild⟩ := bind_eq_ok_iff.mp hbuild
  obtain ⟨envelope, hparse, hbuild⟩ := bind_eq_ok_iff.mp hbuild
  split at hbuild
  · cases hbuild
  obtain ⟨output, hencode, hbuild⟩ := bind_eq_ok_iff.mp hbuild
  obtain ⟨⟨⟩, -, hreturn⟩ := bind_eq_ok_iff.mp hbuild
  cases hreturn
  obtain ⟨hheader, hmessage⟩ := parseEnvelope_fits hparse
  exact ⟨envelope, hparse, encodeAck_parse hheader hmessage hencode⟩

end MultiVideo

/-! ## Configuration pushes -/

namespace ConfigPush

def maxEnvelopeLen : Nat := 1024 * 1024

structure ConfigEnvelope where
  version : Int64 := 0
  packetType : Int64 := 0
  messageType : Int64 := 0
  requestId : Int64 := 0
  servant : String := ""
  pushType : Int64 := 0
  sequence : Int64 := 0
  deriving DecidableEq

/-- The fields of an envelope; the function is not one of them. -/
def outerField : UInt8 → Option (Reader.Field (ConfigEnvelope × Option (List UInt8)))
  | 1 => some (.integer fun (request, wup) value => .ok ({ request with version := value }, wup))
  | 2 => some (.integer fun (request, wup) value =>
      .ok ({ request with packetType := value }, wup))
  | 3 => some (.integer fun (request, wup) value =>
      .ok ({ request with messageType := value }, wup))
  | 4 => some (.integer fun (request, wup) value =>
      .ok ({ request with requestId := value }, wup))
  | 5 => some (.string fun (request, wup) value => .ok ({ request with servant := value }, wup))
  | 7 => some (.bytes fun (request, _) value => .ok (request, some value))
  | _ => none

/-- The fields of the body: its push type and its sequence. -/
def pushField : UInt8 → Option (Reader.Field (Int64 × Int64))
  | 1 => some (.integer fun (_, sequence) value => .ok (value, sequence))
  | 3 => some (.integer fun (pushType, _) value => .ok (pushType, value))
  | _ => none

def parsePush (input : List UInt8) : Except OnlinePacketError (Int64 × Int64) :=
  Reader.struct pushField (0, 0) input

/-- The fields around the body, and the byte string around it. -/
def outerFields (input : List UInt8) :
    Except OnlinePacketError (ConfigEnvelope × Option (List UInt8)) :=
  Reader.envelope outerField ({}, none) input

def parseOuter (input : List UInt8) : Except OnlinePacketError ConfigEnvelope := do
  let (request, wup) ← outerFields input
  let payload ← Reader.namedPayload (← okOr .rejected wup) "PushReq" "ConfigPush.PushReq"
  let (pushType, sequence) ← parsePush payload
  return { request with pushType, sequence }

/-- The fields of an acknowledgement before its empty maps. -/
def ackFields (request : ConfigEnvelope) (wup : List UInt8) : List (UInt8 × Value) :=
  [(1, .integer (if request.version = 0 then 2 else request.version)),
    (2, .integer request.packetType),
    (3, .integer request.messageType),
    (4, .integer request.requestId),
    (5, .string request.servant),
    (6, .string "PushResp"),
    (7, .bytes wup),
    (8, .integer 0)]

def encodeAck (request : ConfigEnvelope) : Except OnlinePacketError (List UInt8) := do
  let fields ← Writer.fields [(1, .integer request.pushType), (2, .integer request.sequence)]
  let push := Writer.head 0 Kind.structBegin ++ (fields ++ Writer.head 0 Kind.structEnd)
  let wup ← Writer.namedPayload "PushResp" "ConfigPush.PushResp" push
  let output ← Writer.fields (ackFields request wup)
  return output ++ (Writer.emptyMap 9 ++ Writer.emptyMap 10)

def buildAck (input : List UInt8) : Except OnlinePacketError (List UInt8) := do
  rejectIf .rejected (input = [] ∨ maxEnvelopeLen < input.length)
  let request ← parseOuter input
  encodeAck request

/-- The servant that a loop has read so far can be read again. -/
def ServantFits (state : ConfigEnvelope × Option (List UInt8)) : Prop :=
  state.1.servant.utf8ByteSize ≤ maxValueLen

theorem outerField_fits {tag : UInt8} {field : Reader.Field (ConfigEnvelope × Option (List UInt8))}
    (hfield : outerField tag = some field) : field.Keeps ServantFits := by
  unfold outerField at hfield
  split at hfield
  case h_5 =>
    cases hfield
    intro state value next _ hvalue hset
    cases hset
    exact hvalue
  case h_7 => cases hfield
  all_goals
    cases hfield
    intro state value next hfits hset
    cases hset
    exact hfits

theorem parseOuter_fits {input : List UInt8} {request : ConfigEnvelope}
    (hparse : parseOuter input = .ok request) : request.servant.utf8ByteSize ≤ maxValueLen := by
  obtain ⟨⟨outer, wup⟩, houter, hparse⟩ := bind_eq_ok_iff.mp hparse
  obtain ⟨input, -, hparse⟩ := bind_eq_ok_iff.mp hparse
  obtain ⟨payload, -, hparse⟩ := bind_eq_ok_iff.mp hparse
  obtain ⟨push, -, hreturn⟩ := bind_eq_ok_iff.mp hparse
  cases hreturn
  have hempty : ServantFits ({}, none) := Nat.zero_le _
  have hfits : ServantFits (outer, wup) :=
    Reader.foldFields_preserves (fun _ _ => outerField_fits) hempty houter
  exact hfits

/-! ### What is acknowledged -/

/-- The fields around the body of an acknowledgement: those of the request, with the
default of its version. -/
def ConfigEnvelope.answered (request : ConfigEnvelope) : ConfigEnvelope where
  version := if request.version = 0 then 2 else request.version
  packetType := request.packetType
  messageType := request.messageType
  requestId := request.requestId
  servant := request.servant

theorem ackFields_taken {request : ConfigEnvelope} {wup : List UInt8}
    (hservant : request.servant.utf8ByteSize ≤ maxValueLen) (hwup : wup.length ≤ maxValueLen) :
    Reader.Takes outerField ({}, none) (ackFields request wup) (request.answered, some wup) := by
  refine .known rfl trivial rfl ?_
  refine .known rfl trivial rfl ?_
  refine .known rfl trivial rfl ?_
  refine .known rfl trivial rfl ?_
  refine .known rfl hservant rfl ?_
  -- The function is a text, and is skipped.
  have hfunction : "PushResp".utf8ByteSize ≤ maxValueLen := by decide
  refine .unknown .string rfl nofun hfunction ?_
  refine .known rfl hwup rfl ?_
  exact .unknown .integer rfl nofun trivial .nil

/-- What an acknowledgement holds of a configuration request: the fields of its envelope in
their order and as the envelope is read, with the function of a response, and under the
names of a response its push type and its sequence. -/
structure Answers (request : ConfigEnvelope) (ack : List UInt8) : Prop where
  envelope : ∃ wup push fields,
    outerFields ack = .ok (request.answered, some wup) ∧
    Reader.fields [.integer, .integer, .integer, .integer, .string, .string, .bytes, .integer] ack =
      .ok (ackFields request wup, Writer.emptyMap 9 ++ Writer.emptyMap 10) ∧
    Reader.namedPayload wup "PushResp" "ConfigPush.PushResp" = .ok push ∧
    push = Writer.head 0 Kind.structBegin ++ (fields ++ Writer.head 0 Kind.structEnd) ∧
    ∀ rest, Reader.fields [.integer, .integer] (fields ++ rest) =
      .ok ([(1, .integer request.pushType), (2, .integer request.sequence)], rest)
  /-- It has no body under the names of a request. -/
  refused : parseOuter ack = .error .rejected

theorem encodeAck_answers {request : ConfigEnvelope} {ack : List UInt8}
    (hservant : request.servant.utf8ByteSize ≤ maxValueLen)
    (hack : encodeAck request = .ok ack) : Answers request ack := by
  obtain ⟨fields, hfields, hack⟩ := bind_eq_ok_iff.mp hack
  obtain ⟨wup, hwup, hack⟩ := bind_eq_ok_iff.mp hack
  obtain ⟨output, houtput, hreturn⟩ := bind_eq_ok_iff.mp hack
  cases hreturn
  have hbody : (Writer.head 0 Kind.structBegin ++
      (fields ++ Writer.head 0 Kind.structEnd)).length ≤ 24 := by
    have hfieldsLe := Writer.fields_length_le hfields
    have hbegin := Writer.head_length_le 0 Kind.structBegin
    have hend := Writer.head_length_le 0 Kind.structEnd
    simp only [List.map_cons, List.map_nil, List.sum_cons, List.sum_nil, Writer.room]
      at hfieldsLe
    simp only [List.length_append]
    omega
  have hwupLe : wup.length ≤ maxValueLen := by
    have hnames := Writer.namedPayload_length_le hwup
    have hsizes : "PushResp".utf8ByteSize + "ConfigPush.PushResp".utf8ByteSize = 27 := by decide
    unfold maxValueLen
    omega
  have hnamed (parameterName typeName : String) :=
    Reader.namedPayload_write parameterName typeName hwup (by decide) (by decide)
      (hbody.trans (by decide))
  have houter : outerFields (output ++ [9, 10].flatMap Writer.emptyMap) =
      .ok (request.answered, some wup) :=
    Reader.envelope_write (ackFields_taken hservant hwupLe) houtput (by decide)
  have hfunction : "PushResp".utf8ByteSize ≤ maxValueLen := by decide
  refine ⟨⟨wup, _, fields, houter, ?_, hnamed _ _, rfl, ?_⟩, ?_⟩
  · refine Reader.fields_write ?_ houtput
    exact .cons trivial (.cons trivial (.cons trivial (.cons trivial (.cons hservant
      (.cons hfunction (.cons hwupLe (.cons trivial .nil)))))))
  · intro rest
    refine Reader.fields_write ?_ hfields
    exact .cons trivial (.cons trivial .nil)
  · have hnone : Reader.namedPayload wup "PushReq" "ConfigPush.PushReq" = .error .rejected :=
      hnamed _ _
    refine bind_eq_error_iff.mpr (.inr ⟨_, houter, ?_⟩)
    refine bind_eq_error_iff.mpr (.inr ⟨wup, rfl, ?_⟩)
    exact bind_eq_error_iff.mpr (.inl hnone)

/-- An acknowledgement answers the request that was parsed. -/
theorem buildAck_answers {input ack : List UInt8} (hbuild : buildAck input = .ok ack) :
    ∃ request, parseOuter input = .ok request ∧ Answers request ack := by
  obtain ⟨⟨⟩, -, hbuild⟩ := bind_eq_ok_iff.mp hbuild
  obtain ⟨request, hparse, hencode⟩ := bind_eq_ok_iff.mp hbuild
  exact ⟨request, hparse, encodeAck_answers (parseOuter_fits hparse) hencode⟩

end ConfigPush

/-! ## The processor -/

/-- A codec with the compiled acknowledgements. -/
def PushCodec.compiled (codec : PushCodec) : PushCodec :=
  { codec with
    configAck := fun body => (ConfigPush.buildAck body).toOption
    legacyVideoAck := MultiVideo.buildAck }

section Processor

variable {codec : PushCodec} {entry : PushPlanEntry} {body ack : List UInt8}
  {slots bytes : Nat} {route : String}

theorem applyStateless_configAck (hbehavior : entry.behavior = .configAck)
    (happly : applyStateless codec.compiled entry body slots bytes = .ok (.ack route ack)) :
    ConfigPush.buildAck body = .ok ack := by
  unfold applyStateless at happly
  rw [hbehavior] at happly
  obtain ⟨found, -, happly⟩ := bind_eq_ok_iff.mp happly
  obtain ⟨output, hbuild, hreturn⟩ := bind_eq_ok_iff.mp happly
  cases hreturn
  have hsome : (ConfigPush.buildAck body).toOption = some ack := okOr_eq_ok_iff.mp hbuild
  cases hresult : ConfigPush.buildAck body with
  | error error =>
      rw [hresult] at hsome
      cases hsome
  | ok output =>
      rw [hresult] at hsome
      cases hsome
      rfl

theorem applyStateless_legacyVideoAck (hbehavior : entry.behavior = .legacyVideoAck)
    (happly : applyStateless codec.compiled entry body slots bytes = .ok (.ack route ack)) :
    MultiVideo.buildAck body = .ok (some ack) := by
  unfold applyStateless at happly
  rw [hbehavior] at happly
  obtain ⟨output, hbuild, happly⟩ := bind_eq_ok_iff.mp happly
  cases output with
  | none => cases happly
  | some output =>
      obtain ⟨found, -, hreturn⟩ := bind_eq_ok_iff.mp happly
      cases hreturn
      exact hbuild

end Processor

/-- An acknowledged multi-video push: the acknowledgement parses like the push, to the same
envelope with its defaults and the first recipient.  An acknowledged configuration push: the
acknowledgement answers the request. -/
theorem acknowledgement_answers (codec : PushCodec) (processor : PushProcessor)
    (entry : PushPlanEntry) (body : List UInt8) (sync : OnlineSyncState) (slots bytes : Nat)
    (state : PushProcessor × OnlineSyncState) (route : String) (ack : List UInt8)
    (happly : processor.apply codec.compiled entry body sync slots bytes =
      (state, .ok (.ack route ack))) :
    (entry.behavior = .legacyVideoAck → ∃ envelope, MultiVideo.parseEnvelope body = .ok envelope ∧
      MultiVideo.parseEnvelope ack = .ok envelope.answered) ∧
    (entry.behavior = .configAck → ∃ request, ConfigPush.parseOuter body = .ok request ∧
      ConfigPush.Answers request ack) := by
  rcases PushProcessor.apply_eq_ok (congrArg Prod.snd happly) with
    hstateless | ⟨merged, hmerged, -⟩
  swap
  · cases hmerged
  constructor
  · intro hbehavior
    exact MultiVideo.buildAck_parse (applyStateless_legacyVideoAck hbehavior hstateless)
  · intro hbehavior
    exact ConfigPush.buildAck_answers (applyStateless_configAck hbehavior hstateless)

/-- A multi-video push of the type 11. -/
def videoPush : List UInt8 :=
  [64, 9, 125, 0, 0, 57, 8, 0, 1, 6, 13, 77, 117, 108, 116, 105, 86, 105, 100, 101, 111, 77, 115,
    103, 24, 0, 1, 6, 26, 83, 104, 97, 114, 112, 83, 118, 114, 80, 97, 99, 107, 46, 77, 117, 108,
    116, 105, 86, 105, 100, 101, 111, 77, 115, 103, 29, 0, 0, 4, 10, 16, 11, 11]

/-- A plan entry that acknowledges multi-video pushes. -/
def videoEntry : PushPlanEntry where
  route := "MultiVideo.s2c"
  behavior := .legacyVideoAck
  responseRoute := some "MultiVideo.c2s"
  parameter := 0
  maximumBodyLen := 1024
  valid := by decide

theorem videoPush_acknowledged : ∃ ack, MultiVideo.buildAck videoPush = .ok (some ack) := by
  have hsome : ((MultiVideo.buildAck videoPush).toOption.bind id).isSome := by decide +kernel
  cases hbuild : MultiVideo.buildAck videoPush with
  | error error =>
      rw [hbuild] at hsome
      cases hsome
  | ok output =>
      rw [hbuild] at hsome
      obtain ⟨ack, hack⟩ := Option.isSome_iff_exists.mp hsome
      exact ⟨ack, congrArg Except.ok hack⟩

theorem acknowledgement_answers_videoPush :
    ∃ ack envelope, MultiVideo.parseEnvelope videoPush = .ok envelope ∧
      MultiVideo.parseEnvelope ack = .ok envelope.answered := by
  obtain ⟨ack, hack⟩ := videoPush_acknowledged
  let codec : PushCodec :=
    ⟨fun _ => none, fun _ => none, fun _ => [], fun _ => none, fun _ => none, fun _ => .ok none⟩
  have hstateless : applyStateless codec.compiled videoEntry videoPush 0 0 =
      .ok (.ack "MultiVideo.c2s" ack) :=
    bind_eq_ok_iff.mpr ⟨_, hack, rfl⟩
  have happly : PushProcessor.new.apply codec.compiled videoEntry videoPush ⟨0, 0, 0, 0⟩ 0 0 =
      ((PushProcessor.new, ⟨0, 0, 0, 0⟩), .ok (.ack "MultiVideo.c2s" ack)) := by
    unfold PushProcessor.apply
    rw [if_neg (by decide), if_neg (by decide), hstateless]
  exact ⟨ack, (acknowledgement_answers codec _ _ _ _ _ _ _ _ _ happly).1 rfl⟩

/-- A configuration push with the push type 1 and the sequence 42. -/
def configPush : List UInt8 :=
  [64, 9, 125, 0, 0, 45, 8, 0, 1, 6, 7, 80, 117, 115, 104, 82, 101, 113, 24, 0, 1, 6, 18, 67,
    111, 110, 102, 105, 103, 80, 117, 115, 104, 46, 80, 117, 115, 104, 82, 101, 113, 29, 0, 0, 6,
    10, 16, 1, 48, 42, 11]

/-- The acknowledgement of a configuration push is not parsed like a push. -/
theorem config_acknowledgement_refused :
    ∃ ack, ConfigPush.buildAck configPush = .ok ack ∧
      ∀ request, ConfigPush.parseOuter ack ≠ .ok request := by
  have hsome : (ConfigPush.buildAck configPush).toOption.isSome := by decide +kernel
  cases hbuild : ConfigPush.buildAck configPush with
  | error error =>
      rw [hbuild] at hsome
      cases hsome
  | ok ack =>
      obtain ⟨request, -, hanswers⟩ := ConfigPush.buildAck_answers hbuild
      refine ⟨ack, rfl, fun other hparse => ?_⟩
      rw [hanswers.refused] at hparse
      cases hparse

end Online
end Lirvena
