import Lirvena.Message.ForwardEntry
import Lirvena.Message.LongMessage

/-!
# A library that reads merged forwards

Decoders that read the fields of an entry, of a batch and of a response under the
numbers that are declared for them.  They give back what the encoders write, so the
hypotheses on the protobuf library are those of a library that follows the schema.
-/

namespace Lirvena
namespace Message

open Lib Lib.Protobuf

/-! ## Values -/

section Schema

open WireValue

/-- A `uint32` as a word. -/
def asWord32 (value : WireValue) : Option UInt32 :=
  value.asUInt32.map UInt32.ofNat

def asWord64 (value : WireValue) : Option UInt64 :=
  value.asVarint.map UInt64.ofNat

/-- A varint in two's complement of 64 bits. -/
def asInt64 (value : WireValue) : Option Int :=
  value.asVarint.map fun number : Nat =>
    if number < 2 ^ 63 then (number : Int) else (number : Int) - 2 ^ 64

/-- A message inside a message. -/
noncomputable def messageOf {α : Type} (read : List Field → Option α) (value : WireValue) :
    Option α :=
  value.asBytes.bind (decodeBy read)

theorem asWord32_varint (value : UInt32) : asWord32 (.varint value.toNat) = some value := by
  rw [asWord32, asUInt32_varint value.toNat_lt, Option.map_some, UInt32.ofNat_toNat]

theorem asWord64_varint (value : UInt32) :
    asWord64 (.varint value.toNat) = some value.toUInt64 :=
  congrArg some (UInt64.ofNat_uInt32ToNat value)

theorem asInt64_varint (value : UInt32) :
    asInt64 (.varint value.toNat) = some (value.toNat : Int) := by
  have hsmall : value.toNat < 2 ^ 63 := Nat.lt_trans value.toNat_lt (by decide)
  rw [asInt64, asVarint, Option.map_some, if_pos hsmall]

theorem singularField_word32 {number : Nat} {fields : List Field} {value : UInt32}
    (hvalues : valuesOf number fields = valuesOf number (varintField number value.toNat)) :
    singularField asWord32 0 number fields = some value := by
  unfold varintField at hvalues
  split at hvalues
  · next hzero =>
      have hvalue : value = 0 := UInt32.toNat_inj.mp hzero
      rw [hvalue]
      exact singularField_none hvalues
  · have hwritten : valuesOf number fields = [.varint value.toNat] := by
      rw [hvalues, valuesOf_cons, if_pos rfl]
      rfl
    exact singularField_some hwritten (asWord32_varint value)

theorem messageOf_encodeMessage {α : Type} {read : List Field → Option α} {inner : List Field}
    {value : α} (hwritable : Writable inner)
    (hlength : (Protobuf.encodeMessage inner).length < u64Bound) (hread : read inner = some value) :
    messageOf read (.lengthDelimited (Protobuf.encodeMessage inner)) = some value :=
  ((decodesBy_decodeBy read).encodeMessage hwritable hlength).trans hread

def readForwardHead (fields : List Field) : Option ForwardHead := do
  let _ ← optionalField asWord32 1 fields
  let _ ← optionalField asWord32 2 fields
  let _ ← optionalField asWord32 3 fields
  let encodedValue ← optionalField asString 4 fields
  let avatar ← optionalField asString 5 fields
  return { encodedValue := encodedValue, avatar := avatar }

noncomputable def readContentHead (fields : List Field) : Option ContentHead := do
  let messageType ← singularField asWord32 0 1 fields
  let subType ← optionalField asWord32 2 fields
  let _ ← optionalField asWord32 3 fields
  let random ← optionalField asInt64 4 fields
  let sequence ← optionalField asWord64 5 fields
  let timestamp ← optionalField asInt64 6 fields
  let packageCount ← optionalField asInt64 7 fields
  let packageIndex ← optionalField asWord32 8 fields
  let divisionSequence ← optionalField asWord32 9 fields
  let _ ← singularField asWord32 0 10 fields
  let directMessageSequence ← optionalField asWord32 11 fields
  let messageUid ← optionalField asWord64 12 fields
  let forward ← optionalField (messageOf readForwardHead) 15 fields
  return {
    messageType := messageType, subType := subType, random := random, sequence := sequence
    timestamp := timestamp, packageCount := packageCount, packageIndex := packageIndex
    divisionSequence := divisionSequence, directMessageSequence := directMessageSequence
    messageUid := messageUid, forward := forward }

def readResponseForward (fields : List Field) : Option ResponseForward := do
  let friendName ← optionalField asString 6 fields
  return { friendName := friendName }

def readResponseGroup (fields : List Field) : Option ResponseGroup := do
  let groupUin ← singularField asWord32 0 1 fields
  let memberName ← singularField asString "" 4 fields
  let _ ← singularField asWord32 0 5 fields
  let groupName ← singularField asString "" 7 fields
  return { groupUin := groupUin, memberName := memberName, groupName := groupName }

noncomputable def readResponseHead (fields : List Field) : Option ResponseHead := do
  let fromUin ← singularField asWord32 0 1 fields
  let fromUid ← optionalField asString 2 fields
  let _ ← singularField asWord32 0 3 fields
  let _ ← singularField asWord32 0 4 fields
  let toUin ← singularField asWord32 0 5 fields
  let toUid ← optionalField asString 6 fields
  let forward ← optionalField (messageOf readResponseForward) 7 fields
  let group ← optionalField (messageOf readResponseGroup) 8 fields
  return {
    fromUin := fromUin, fromUid := fromUid, toUin := toUin, toUid := toUid, forward := forward
    group := group }

def readMessageBody (fields : List Field) : Option MessageBody := do
  let richText ← optionalField asBytes 1 fields
  let content ← optionalField asBytes 2 fields
  let encryptedContent ← optionalField asBytes 3 fields
  return { richText := richText, content := content, encryptedContent := encryptedContent }

noncomputable def readPushBody (fields : List Field) : Option PushBody := do
  let response ← optionalField (messageOf readResponseHead) 1 fields
  let content ← optionalField (messageOf readContentHead) 2 fields
  let body ← optionalField (messageOf readMessageBody) 3 fields
  return { response := response, content := content, body := body }

variable (input : ForwardEntryInput)

theorem readForwardHead_fields : readForwardHead (entryForwardFields input) = some {
    encodedValue := some (avatarUrl input.senderUin)
    avatar := some (avatarUrl input.senderUin) } := by
  have hone : optionalField asWord32 1 (entryForwardFields input) = some (some 0) :=
    optionalField_some (by simp [entryForwardFields]) (asWord32_varint 0)
  have htwo : optionalField asWord32 2 (entryForwardFields input) = some (some 0) :=
    optionalField_some (by simp [entryForwardFields]) (asWord32_varint 0)
  have hthree : optionalField asWord32 3 (entryForwardFields input) = some (some 2) :=
    optionalField_some (by simp [entryForwardFields]) (asWord32_varint 2)
  have hencoded : optionalField asString 4 (entryForwardFields input) =
      some (some (avatarUrl input.senderUin)) :=
    optionalField_some (by simp [entryForwardFields]) (asString_stringValue _)
  have havatar : optionalField asString 5 (entryForwardFields input) =
      some (some (avatarUrl input.senderUin)) :=
    optionalField_some (by simp [entryForwardFields]) (asString_stringValue _)
  simp only [readForwardHead, hone, htwo, hthree, hencoded, havatar]
  rfl

theorem writable_entryForward : Writable (entryForwardFields input) := by
  have hnumber {number value : Nat} (hnumber : number < 2 ^ 61) (hvalue : value < 2 ^ 64)
      {rest : List Field} (hrest : Writable rest) : Writable (⟨number, .varint value⟩ :: rest) :=
    hrest.cons (writable_varint hnumber hvalue)
  exact hnumber (by decide) (by decide) (hnumber (by decide) (by decide) (hnumber (by decide)
    (by decide) ((writable_nil.cons (writable_bytes (by decide) _)).cons
      (writable_bytes (by decide) _))))

theorem readContentHead_fields
    (hlength : (Protobuf.encodeMessage (entryContentFields input)).length < u64Bound) :
    readContentHead (entryContentFields input) = some (entryContent input) := by
  have hnested : (Protobuf.encodeMessage (entryForwardFields input)).length < u64Bound :=
    messageField_length_lt 15 (by simp [entryContentFields]) hlength
  have hmessageType : singularField asWord32 0 1 (entryContentFields input) = some 9 :=
    singularField_word32 (by simp [entryContentFields, messageField])
  have hsubType : optionalField asWord32 2 (entryContentFields input) = some (some 4) :=
    optionalField_some (by simp [entryContentFields, messageField]) (asWord32_varint 4)
  have hdirect : optionalField asWord32 3 (entryContentFields input) = some (some 4) :=
    optionalField_some (by simp [entryContentFields, messageField]) (asWord32_varint 4)
  have hrandom : optionalField asInt64 4 (entryContentFields input) =
      some (some (input.random.toNat : Int)) :=
    optionalField_some (by simp [entryContentFields, messageField]) (asInt64_varint input.random)
  have hsequence : optionalField asWord64 5 (entryContentFields input) =
      some (some input.sequence.toUInt64) :=
    optionalField_some (by simp [entryContentFields, messageField]) (asWord64_varint input.sequence)
  have htimestamp : optionalField asInt64 6 (entryContentFields input) =
      some (some (input.unixSeconds.toNat : Int)) :=
    optionalField_some (by simp [entryContentFields, messageField])
      (asInt64_varint input.unixSeconds)
  have hcount : optionalField asInt64 7 (entryContentFields input) = some (some 1) :=
    optionalField_some (by simp [entryContentFields, messageField]) (asInt64_varint 1)
  have hindex : optionalField asWord32 8 (entryContentFields input) = some (some 0) :=
    optionalField_some (by simp [entryContentFields, messageField]) (asWord32_varint 0)
  have hdivision : optionalField asWord32 9 (entryContentFields input) = some (some 0) :=
    optionalField_some (by simp [entryContentFields, messageField]) (asWord32_varint 0)
  have hreply : singularField asWord32 0 10 (entryContentFields input) = some 0 :=
    singularField_none (by simp [entryContentFields, messageField])
  have hdirectSequence : optionalField asWord32 11 (entryContentFields input) = some none :=
    optionalField_none (by simp [entryContentFields, messageField])
  have huid : optionalField asWord64 12 (entryContentFields input) = some none :=
    optionalField_none (by simp [entryContentFields, messageField])
  have hforward : optionalField (messageOf readForwardHead) 15 (entryContentFields input) =
      some (some { encodedValue := some (avatarUrl input.senderUin)
                   avatar := some (avatarUrl input.senderUin) }) :=
    optionalField_some (by simp [entryContentFields, messageField])
      (messageOf_encodeMessage (writable_entryForward input) hnested (readForwardHead_fields input))
  simp only [readContentHead, hmessageType, hsubType, hdirect, hrandom, hsequence, htimestamp,
    hcount, hindex, hdivision, hreply, hdirectSequence, huid, hforward]
  rfl

theorem readResponseHead_fields
    (hlength : (Protobuf.encodeMessage (entryResponseFields input)).length < u64Bound) :
    readResponseHead (entryResponseFields input) = some (entryResponse input) := by
  have hnested : (Protobuf.encodeMessage [⟨6, stringValue input.senderName⟩]).length < u64Bound :=
    messageField_length_lt 7 (by simp [entryResponseFields]) hlength
  have hwritable : Writable [⟨6, stringValue input.senderName⟩] :=
    writable_nil.cons (writable_bytes (by decide) _)
  have hname : readResponseForward [⟨6, stringValue input.senderName⟩] =
      some { friendName := some input.senderName } := by
    have hfriend : optionalField asString 6 [⟨6, stringValue input.senderName⟩] =
        some (some input.senderName) :=
      optionalField_some (by simp) (asString_stringValue _)
    simp only [readResponseForward, hfriend]
    rfl
  have hfromUin : singularField asWord32 0 1 (entryResponseFields input) = some input.senderUin :=
    singularField_word32 (by simp [entryResponseFields, messageField])
  have hfromUid : optionalField asString 2 (entryResponseFields input) = some none :=
    optionalField_none (by simp [entryResponseFields, messageField])
  have hmessageType : singularField asWord32 0 3 (entryResponseFields input) = some 0 :=
    singularField_none (by simp [entryResponseFields, messageField])
  have hsignature : singularField asWord32 0 4 (entryResponseFields input) = some 0 :=
    singularField_none (by simp [entryResponseFields, messageField])
  have htoUin : singularField asWord32 0 5 (entryResponseFields input) = some 0 :=
    singularField_none (by simp [entryResponseFields, messageField])
  have htoUid : optionalField asString 6 (entryResponseFields input) =
      some (some input.selfUid) :=
    optionalField_some (by simp [entryResponseFields, messageField]) (asString_stringValue _)
  have hforward : optionalField (messageOf readResponseForward) 7 (entryResponseFields input) =
      some (some { friendName := some input.senderName }) :=
    optionalField_some (by simp [entryResponseFields, messageField])
      (messageOf_encodeMessage hwritable hnested hname)
  have hgroup : optionalField (messageOf readResponseGroup) 8 (entryResponseFields input) =
      some none :=
    optionalField_none (by simp [entryResponseFields, messageField])
  simp only [readResponseHead, hfromUin, hfromUid, hmessageType, hsignature, htoUin, htoUid,
    hforward, hgroup]
  rfl

theorem readMessageBody_fields (elements : List ElementOut) :
    readMessageBody (entryBodyFields elements) = some (entryPayload elements) := by
  have hrich : optionalField asBytes 1 (entryBodyFields elements) =
      some (some (richTextBytes elements)) :=
    optionalField_some (by simp [entryBodyFields]) (asBytes_lengthDelimited _)
  have hcontent : optionalField asBytes 2 (entryBodyFields elements) = some none :=
    optionalField_none (by simp [entryBodyFields])
  have hencrypted : optionalField asBytes 3 (entryBodyFields elements) = some none :=
    optionalField_none (by simp [entryBodyFields])
  simp only [readMessageBody, hrich, hcontent, hencrypted]
  rfl

theorem writable_entryResponse : Writable (entryResponseFields input) := by
  have huin : input.senderUin.toNat < 2 ^ 64 := Nat.lt_trans input.senderUin.toNat_lt (by decide)
  exact (writable_varintField (by decide) huin).append ((writable_nil.cons
    (writable_bytes (by decide) _)).cons (writable_bytes (by decide) _))

theorem writable_entryContent : Writable (entryContentFields input) := by
  have hrandom : input.random.toNat < 2 ^ 64 := Nat.lt_trans input.random.toNat_lt (by decide)
  have hsequence : input.sequence.toNat < 2 ^ 64 := Nat.lt_trans input.sequence.toNat_lt (by decide)
  have hseconds : input.unixSeconds.toNat < 2 ^ 64 :=
    Nat.lt_trans input.unixSeconds.toNat_lt (by decide)
  have hnumber {number value : Nat} (hnumber : number < 2 ^ 61) (hvalue : value < 2 ^ 64)
      {rest : List Field} (hrest : Writable rest) : Writable (⟨number, .varint value⟩ :: rest) :=
    hrest.cons (writable_varint hnumber hvalue)
  have hforward : Writable [messageField 15 (entryForwardFields input)] :=
    writable_nil.cons (writable_bytes (by decide) _)
  exact (writable_varintField (by decide) (by decide)).append (hnumber (by decide) (by decide)
    (hnumber (by decide) (by decide) (hnumber (by decide) hrandom (hnumber (by decide) hsequence
      (hnumber (by decide) hseconds (hnumber (by decide) (by decide) (hnumber (by decide)
        (by decide) (hnumber (by decide) (by decide) hforward))))))))

theorem decodesBy_readsEntries {wire : MessageWire}
    (hdecodes : DecodesBy wire.pushBody readPushBody) :
    ReadsEntries wire := by
  intro input elements hlength
  have hwritable : Writable (entryFields input elements) :=
    ((writable_nil.cons (writable_bytes (by decide) _)).cons (writable_bytes (by decide) _)).cons
      (writable_bytes (by decide) _)
  have hresponseLength : (Protobuf.encodeMessage (entryResponseFields input)).length < u64Bound :=
    messageField_length_lt 1 (by simp [entryFields]) hlength
  have hcontentLength : (Protobuf.encodeMessage (entryContentFields input)).length < u64Bound :=
    messageField_length_lt 2 (by simp [entryFields]) hlength
  have hbodyLength : (Protobuf.encodeMessage (entryBodyFields elements)).length < u64Bound :=
    messageField_length_lt 3 (by simp [entryFields]) hlength
  have hbodyWritable : Writable (entryBodyFields elements) :=
    writable_nil.cons (writable_bytes (by decide) _)
  have hresponse : optionalField (messageOf readResponseHead) 1 (entryFields input elements) =
      some (some (entryResponse input)) :=
    optionalField_some (by simp [entryFields, messageField]) (messageOf_encodeMessage
      (writable_entryResponse input) hresponseLength
      (readResponseHead_fields input hresponseLength))
  have hcontent : optionalField (messageOf readContentHead) 2 (entryFields input elements) =
      some (some (entryContent input)) :=
    optionalField_some (by simp [entryFields, messageField]) (messageOf_encodeMessage
      (writable_entryContent input) hcontentLength (readContentHead_fields input hcontentLength))
  have hbody : optionalField (messageOf readMessageBody) 3 (entryFields input elements) =
      some (some (entryPayload elements)) :=
    optionalField_some (by simp [entryFields, messageField]) (messageOf_encodeMessage
      hbodyWritable hbodyLength (readMessageBody_fields elements))
  refine (hdecodes.encodeMessage hwritable hlength).trans ?_
  simp only [readPushBody, hresponse, hcontent, hbody]
  rfl

/-! ## Batches -/

def readBuffer (fields : List Field) : Option (List (List UInt8)) :=
  repeatedField asBytes 1 fields

noncomputable def readMultiMessageItem (fields : List Field) : Option MultiMessageItem := do
  let fileName ← singularField asString "" 1 fields
  let buffer ← optionalField (messageOf readBuffer) 2 fields
  return { fileName := fileName, buffer := buffer }

/-- The `messages` of a batch outside its files are checked and dropped. -/
noncomputable def readTransmit (fields : List Field) : Option (List MultiMessageItem) := do
  let _ ← repeatedField asBytes 1 fields
  repeatedField (messageOf readMultiMessageItem) 2 fields

def readReceiveResponse (fields : List Field) : Option (List UInt8) :=
  singularField asBytes [] 4 fields

def readSendResponse (fields : List Field) : Option String :=
  singularField asString "" 3 fields

noncomputable def readLongMessageResponse (fields : List Field) : Option LongMessageResponse := do
  let receive ← optionalField (messageOf readReceiveResponse) 1 fields
  let send ← optionalField (messageOf readSendResponse) 2 fields
  return { receive := receive, send := send }

def itemFields (messages : List (List UInt8)) : List Field :=
  bytesField 1 (utf8Bytes "MultiMsg") ++ [messageField 2 (bufferFields messages)]

theorem readMultiMessageItem_fields {messages : List (List UInt8)}
    (hlength : (Protobuf.encodeMessage (itemFields messages)).length < u64Bound) :
    readMultiMessageItem (itemFields messages) =
      some { fileName := "MultiMsg", buffer := some messages } := by
  have hnested : (Protobuf.encodeMessage (bufferFields messages)).length < u64Bound :=
    messageField_length_lt 2 (by simp [itemFields]) hlength
  have hwritable : Writable (bufferFields messages) :=
    List.forall_mem_map.mpr fun message _ => writable_bytes (by decide) message
  have hbuffer : readBuffer (bufferFields messages) = some messages :=
    repeatedField_bytes (by
      simp [valuesOf, bufferFields, List.filterMap_map])
  have hname : singularField asString "" 1 (itemFields messages) = some "MultiMsg" :=
    singularField_string (by simp [itemFields, messageField])
  have hmessages : optionalField (messageOf readBuffer) 2 (itemFields messages) =
      some (some messages) :=
    optionalField_some (by simp [itemFields, messageField])
      (messageOf_encodeMessage hwritable hnested hbuffer)
  simp only [readMultiMessageItem, hname, hmessages]
  rfl

theorem readTransmit_fields {messages : List (List UInt8)}
    (hlength : (transmitBytes messages).length < u64Bound) :
    readTransmit (transmitFields messages) =
      some [{ fileName := "MultiMsg", buffer := some messages }] := by
  have hnested : (Protobuf.encodeMessage (itemFields messages)).length < u64Bound :=
    messageField_length_lt 2 (by simp [itemFields, transmitFields]) hlength
  have hwritable : Writable (itemFields messages) :=
    (writable_bytesField (by decide) _).append (writable_nil.cons (writable_bytes (by decide) _))
  have hother : repeatedField asBytes 1 (transmitFields messages) = some [] := by
    simp [repeatedField, transmitFields, messageField]
  have hvalues : valuesOf 2 (transmitFields messages) =
      [.lengthDelimited (Protobuf.encodeMessage (itemFields messages))] := by
    simp [transmitFields, itemFields, messageField]
  have hitem := messageOf_encodeMessage hwritable hnested (readMultiMessageItem_fields hnested)
  have hitems : repeatedField (messageOf readMultiMessageItem) 2 (transmitFields messages) =
      some [{ fileName := "MultiMsg", buffer := some messages }] := by
    simp [repeatedField, hvalues, hitem]
  simp only [readTransmit, hother, hitems]
  rfl

/-- The response of a download. -/
def receiveResponse (payload : List UInt8) : List UInt8 :=
  Protobuf.encodeMessage [messageField 1 (bytesField 4 payload)]

theorem readLongMessageResponse_fields {payload : List UInt8}
    (hlength : (receiveResponse payload).length < u64Bound) :
    readLongMessageResponse [messageField 1 (bytesField 4 payload)] =
      some { receive := some payload, send := none } := by
  have hnested : (Protobuf.encodeMessage (bytesField 4 payload)).length < u64Bound :=
    messageField_length_lt 1 List.mem_cons_self hlength
  have hread : readReceiveResponse (bytesField 4 payload) = some payload := singularField_bytes rfl
  have hreceive : optionalField (messageOf readReceiveResponse) 1
      [messageField 1 (bytesField 4 payload)] = some (some payload) :=
    optionalField_some (by simp [messageField])
      (messageOf_encodeMessage (writable_bytesField (by decide) _) hnested hread)
  have hsend : optionalField (messageOf readSendResponse) 2
      [messageField 1 (bytesField 4 payload)] = some none :=
    optionalField_none (by simp [messageField])
  simp only [readLongMessageResponse, hreceive, hsend]
  rfl

/-- The schema's decoders, beside a gzip that has one stream for one content. -/
noncomputable def schemaLong (content stream : List UInt8) : LongMessageWire where
  transmit := decodeBy readTransmit
  response := decodeBy readLongMessageResponse
  gzip := fun input => if input = content then some stream else none
  gunzip := fun _ input => if input = stream then some content else none

theorem schemaLong_lossless (content stream : List UInt8) :
    (schemaLong content stream).Lossless where
  transmit := fun messages hlength =>
    ((decodesBy_decodeBy readTransmit).encodeMessage
      (writable_nil.cons (writable_bytes (by decide) _)) hlength).trans
      (readTransmit_fields hlength)
  response_nil := decodesBy_decodeBy readLongMessageResponse [] [] .nil
  gunzip := fun input output limit hgzip _ => by
    have hstream : input = content ∧ stream = output := by simpa [schemaLong] using hgzip
    obtain ⟨rfl, rfl⟩ := hstream
    exact if_pos rfl

theorem schemaLong_carries {content stream payload : List UInt8}
    (hlength : (receiveResponse payload).length < u64Bound) :
    (schemaLong content stream).Carries (receiveResponse payload) payload :=
  ⟨none, ((decodesBy_decodeBy readLongMessageResponse).encodeMessage
    (writable_nil.cons (writable_bytes (by decide) _)) hlength).trans
      (readLongMessageResponse_fields hlength)⟩

end Schema

end Message
end Lirvena
