import Lirvena.Message.Envelope
import Lirvena.Message.OutboundDecode
import Mathlib.Algebra.Order.BigOperators.Group.List

/-!
# Entries of a merged forward

An entry is a synthetic message: the number and the name of its sender, and the rich
text of its segments.  It is read as a message embedded in a push is.  An entry of
the size that a batch admits is within every bound of the decoders: the segments are
bounded when they are compiled, and `compileElements_short` adds up what each element
can take.
-/

namespace Lirvena
namespace Message

open Lib Lib.Protobuf

/-- Input for one entry of a merged forward. -/
structure ForwardEntryInput where
  senderUin : UInt32
  senderName : String
  selfUid : String
  segments : List OutboundSegment
  random : UInt32
  sequence : UInt32
  unixSeconds : UInt32
  deriving DecidableEq

/-! ## The entry -/

def avatarUrl (senderUin : UInt32) : String :=
  "https://q.qlogo.cn/headimg_dl?dst_uin=" ++ Json.decimalText senderUin.toNat ++
    "&spec=640&img_type=jpg"

def entryResponseFields (input : ForwardEntryInput) : List Field :=
  varintField 1 input.senderUin.toNat ++
    [⟨6, stringValue input.selfUid⟩, messageField 7 [⟨6, stringValue input.senderName⟩]]

def entryForwardFields (input : ForwardEntryInput) : List Field :=
  [⟨1, .varint 0⟩, ⟨2, .varint 0⟩, ⟨3, .varint 2⟩, ⟨4, stringValue (avatarUrl input.senderUin)⟩,
    ⟨5, stringValue (avatarUrl input.senderUin)⟩]

def entryContentFields (input : ForwardEntryInput) : List Field :=
  varintField 1 9 ++
    [⟨2, .varint 4⟩, ⟨3, .varint 4⟩, ⟨4, .varint input.random.toNat⟩,
      ⟨5, .varint input.sequence.toNat⟩, ⟨6, .varint input.unixSeconds.toNat⟩, ⟨7, .varint 1⟩,
      ⟨8, .varint 0⟩, ⟨9, .varint 0⟩, messageField 15 (entryForwardFields input)]

def entryBodyFields (elements : List ElementOut) : List Field :=
  [⟨1, .lengthDelimited (richTextBytes elements)⟩]

def entryFields (input : ForwardEntryInput) (elements : List ElementOut) : List Field :=
  [messageField 1 (entryResponseFields input), messageField 2 (entryContentFields input),
    messageField 3 (entryBodyFields elements)]

def entryBytes (input : ForwardEntryInput) (elements : List ElementOut) : List UInt8 :=
  Protobuf.encodeMessage (entryFields input elements)

def encodeForwardEntry (out : OutboundWire) (input : ForwardEntryInput) :
    Except MessageDecodeError (List UInt8) := do
  rejectIf .rejected (input.senderUin = 0 ∨ boundedUid 128 input.selfUid = false ∨
    validDisplay input.senderName = false ∨ input.random = 0 ∨ input.sequence = 0 ∨
      input.unixSeconds = 0)
  let elements ← compileElements out false input.segments
  return entryBytes input elements

/-! ## What is read -/

def entryResponse (input : ForwardEntryInput) : ResponseHead where
  fromUin := input.senderUin
  fromUid := none
  toUin := 0
  toUid := some input.selfUid
  forward := some { friendName := some input.senderName }
  group := none

def entryContent (input : ForwardEntryInput) : ContentHead where
  messageType := 9
  subType := some 4
  random := some input.random.toNat
  sequence := some input.sequence.toUInt64
  timestamp := some input.unixSeconds.toNat
  packageCount := some 1
  packageIndex := some 0
  divisionSequence := some 0
  directMessageSequence := none
  messageUid := none
  forward := some {
    encodedValue := some (avatarUrl input.senderUin)
    avatar := some (avatarUrl input.senderUin) }

def entryPayload (elements : List ElementOut) : MessageBody where
  richText := some (richTextBytes elements)
  content := none
  encryptedContent := none

/-- An entry as the decoder of messages sees it. -/
def entryBody (input : ForwardEntryInput) (elements : List ElementOut) : PushBody where
  response := some (entryResponse input)
  content := some (entryContent input)
  body := some (entryPayload elements)

/-- An entry is read with the values it was written with. -/
def ReadsEntries (wire : MessageWire) : Prop :=
  ∀ input elements, (entryBytes input elements).length < u64Bound →
    wire.pushBody (entryBytes input elements) = some (entryBody input elements)

section Entries

variable {out : OutboundWire} {wire : MessageWire} {input : ForwardEntryInput}
  {elements : List ElementOut} {entry : List UInt8}

theorem entryBytes_ne_nil (input : ForwardEntryInput) (elements : List ElementOut) :
    entryBytes input elements ≠ [] :=
  encodeMessage_ne_nil (List.cons_ne_nil _ _)

theorem richTextBytes_length_le (input : ForwardEntryInput) (elements : List ElementOut) :
    (richTextBytes elements).length ≤ (entryBytes input elements).length := by
  have hbody : (richTextBytes elements).length ≤
      (Protobuf.encodeMessage (entryBodyFields elements)).length :=
    length_le_encodeMessage List.mem_cons_self
  have hmem : messageField 3 (entryBodyFields elements) ∈ entryFields input elements := by
    simp [entryFields]
  have hentry : (Protobuf.encodeMessage (entryBodyFields elements)).length ≤
      (entryBytes input elements).length :=
    length_le_encodeMessage hmem
  exact Nat.le_trans hbody hentry

theorem containsNul_append (first second : String) :
    containsNul (first ++ second) = (containsNul first || containsNul second) := by
  rw [containsNul, String.toList_append, List.any_append]
  rfl

theorem decimalText_u32 (number : UInt32) :
    (Json.decimalText number.toNat).utf8ByteSize ≤ 10 ∧
      containsNul (Json.decimalText number.toNat) = false := by
  have hbound : number.toNat < 10 ^ 10 := Nat.lt_trans number.toNat_lt (by decide)
  have hcount : Json.integerLen number.toNat ≤ 10 :=
    (Nat.length_toDigits_le_iff (by decide) (by decide)).mpr hbound
  constructor
  · rwa [← Json.utf8Len_toList, Json.decimalText, String.toList_ofList, Json.utf8Len_integerChars]
  · rw [containsNul, Json.decimalText, String.toList_ofList, List.any_eq_false]
    intro char hchar
    obtain ⟨hlow, -⟩ := digit_bounds (Nat.isDigit_of_mem_toDigits (by decide) (by decide) hchar)
    rw [beq_iff_eq]
    omega

theorem validText_url {number : String} (hsize : number.utf8ByteSize ≤ 10)
    (hnul : containsNul number = false) :
    validText ("https://q.qlogo.cn/headimg_dl?dst_uin=" ++ number ++ "&spec=640&img_type=jpg")
      maxDisplayTextLen = true := by
  have hfront : "https://q.qlogo.cn/headimg_dl?dst_uin=".utf8ByteSize = 38 ∧
      containsNul "https://q.qlogo.cn/headimg_dl?dst_uin=" = false := by decide +kernel
  have hback : "&spec=640&img_type=jpg".utf8ByteSize = 22 ∧
      containsNul "&spec=640&img_type=jpg" = false := by decide +kernel
  have hlimit : 38 + 10 + 22 ≤ maxDisplayTextLen := by decide
  rw [validText, String.utf8ByteSize_append, String.utf8ByteSize_append, containsNul_append,
    containsNul_append, hfront.1, hfront.2, hback.1, hback.2, hnul]
  simp only [Bool.or_self, Bool.not_false, Bool.and_true, decide_eq_true_eq]
  omega

theorem avatarUrl_valid (senderUin : UInt32) :
    validText (avatarUrl senderUin) maxDisplayTextLen = true := by
  obtain ⟨hsize, hnul⟩ := decimalText_u32 senderUin
  exact validText_url hsize hnul

/-- An entry whose sender has a name that the decoder takes is a new message with the
sender, the name and the rich text that it was made of. -/
theorem decodeEmbedded_entry (hreads : ReadsEntries wire)
    (hencode : encodeForwardEntry out input = .ok entry) (hshort : entry.length ≤ maxPushLen)
    (hname : input.senderName.utf8ByteSize ≤ maxDisplayTextLen) :
    ∃ elements, compileElements out false input.segments = .ok elements ∧
      entry = entryBytes input elements ∧ (MessageDecoder.new.decodeEmbedded wire entry).2 =
        .ok (.new (messageEnvelope (entryResponse input) (entryContent input)
          (entryPayload elements))) := by
  obtain ⟨⟨⟩, hchecks, hencode⟩ := bind_eq_ok_iff.mp hencode
  obtain ⟨elements, helements, hreturn⟩ := bind_eq_ok_iff.mp hencode
  cases hreturn
  have hchecks := rejectIf_eq_ok_iff.mp hchecks
  simp only [not_or, Bool.not_eq_false] at hchecks
  obtain ⟨-, huid, hdisplay, -⟩ := hchecks
  have hsmall : (entryBytes input elements).length < u64Bound :=
    Nat.lt_of_le_of_lt hshort (by decide)
  have hbody : MessageDecoder.embeddedMessage wire (entryBytes input elements) =
      .ok (entryBody input elements) := by
    refine bind_eq_ok_iff.mpr ⟨(), rejectIf_eq_ok_iff.mpr ?_, ?_⟩
    · rw [not_or, Nat.not_lt]
      exact ⟨entryBytes_ne_nil input elements, hshort⟩
    · exact okOr_eq_ok_iff.mpr (hreads input elements hsmall)
  have hresponse : validResponse (entryResponse input) = true := by
    have htoUid : validText input.selfUid maxUidLen = true := boundedUid_text huid
    have hnameValid : validText input.senderName maxDisplayTextLen = true := by
      simp only [validDisplay, Bool.and_eq_true, Bool.not_eq_true'] at hdisplay
      simp [validText, hname, hdisplay.2]
    simp [validResponse, entryResponse, htoUid, hnameValid]
  have hcontent : validContent (entryContent input) = true := by
    simp [validContent, entryContent, avatarUrl_valid]
  have hread : readEnvelope wire (entryBody input elements) =
      .ok (DedupKey.new wire (entryResponse input) (entryContent input) [],
        messageEnvelope (entryResponse input) (entryContent input) (entryPayload elements)) :=
    MessageDecoder.readEnvelope_of_valid rfl rfl hresponse hcontent
  have hadmit : (MessageDecoder.new.admitBody wire (entryBody input elements)).2 =
      .ok (.new (messageEnvelope (entryResponse input) (entryContent input)
        (entryPayload elements))) := by
    simp only [MessageDecoder.admitBody, hread]
    rfl
  refine ⟨elements, helements, rfl, ?_⟩
  rw [MessageDecoder.decodeEmbedded, hbody]
  exact hadmit

end Entries

/-! ## The length of elements -/

/-- The fields that are declared for market faces, markdown and pokes are written. -/
structure OutboundWire.WritesFields (out : OutboundWire) : Prop where
  standardFace : ∀ faceId,
    out.standardFace faceId = Protobuf.encodeMessage (standardFaceFields faceId)
  marketFace : ∀ face, out.marketFace face = Protobuf.encodeMessage face.fields
  markdown : ∀ content,
    out.markdown content = Protobuf.encodeMessage (bytesField 1 (utf8Bytes content))
  poke : ∀ kind strength, out.poke kind strength =
    Protobuf.encodeMessage (varintField 1 kind.toNat ++ varintField 7 strength.toNat)

/-- The kinds of segments that are covered in a forward. -/
def OutboundSegment.InForward : OutboundSegment → Prop
  | .text _ | .face _ | .markdown _ | .marketFace _ _ _ _ | .poke _ _ => True
  | _ => False

section Lengths

variable {out : OutboundWire} {targetIsGroup : Bool} {limit : Nat}

theorem encodeMessage_length_le_of_room {fields : List Field} (hwritable : Writable fields)
    (hroom : roomFor fields ≤ limit) (hlimit : limit < u64Bound) :
    (Protobuf.encodeMessage fields).length ≤ limit :=
  Nat.le_trans (encodeMessage_length_le hwritable (by omega)) hroom

/-- An element of one part. -/
theorem part_element_length_le (number : Nat) {bytes : List UInt8} (hnumber : number < 2 ^ 61)
    (hbytes : bytes.length ≤ limit) (hlimit : 20 + limit < u64Bound) :
    (Protobuf.encodeMessage [⟨number, .lengthDelimited bytes⟩]).length ≤ 20 + limit := by
  refine encodeMessage_length_le_of_room
    (writable_nil.cons (writable_bytes hnumber bytes)) ?_ hlimit
  simp only [roomFor_cons, roomFor_nil, Field.room]
  omega

theorem commonElement_length_le {serviceType : Int} {businessType : Nat} {body : List UInt8}
    (hbusiness : businessType < 2 ^ 64) (hbody : body.length ≤ limit)
    (hlimit : 80 + limit < u64Bound) :
    (elementBytes (commonElement serviceType businessType body)).length ≤ 80 + limit := by
  have hcommon : (Protobuf.encodeMessage
      (CommonOut.fields ⟨serviceType, body, businessType⟩)).length ≤ 60 + limit := by
    refine encodeMessage_length_le_of_room ?_ ?_ (by omega)
    · exact (writable_enumField (by decide) _).append ((writable_bytesField (by decide) _).append
        (writable_varintField (by decide) hbusiness))
    · have hservice := roomFor_enumField_le 1 serviceType
      have hroom := roomFor_bytesField_le 2 body
      have hnumber := roomFor_varintField_le 3 businessType
      simp only [CommonOut.fields, roomFor_append]
      omega
  have helement := part_element_length_le 53 (by decide) hcommon (by omega)
  exact Nat.le_trans helement (by omega)

theorem marketFace_length_le {face : MarketFaceOut} (hsummary : face.summary.utf8ByteSize ≤ 1024)
    (hkey : face.key.utf8ByteSize ≤ 4096) (hfaceId : face.faceId.length ≤ 64) :
    (Protobuf.encodeMessage face.fields).length ≤ 6000 := by
  have hreserve : (Protobuf.encodeMessage (enumField 8 face.reserveField8)).length ≤ 20 :=
    encodeMessage_length_le_of_room (writable_enumField (by decide) _) (roomFor_enumField_le 8 _)
      (by decide)
  have hsummaryRoom := roomFor_bytesField_le 1 (utf8Bytes face.summary)
  have hfaceIdRoom := roomFor_bytesField_le 4 face.faceId
  have hkeyRoom := roomFor_bytesField_le 7 (utf8Bytes face.key)
  rw [utf8Bytes_length] at hsummaryRoom hkeyRoom
  have hitemType := roomFor_enumField_le 2 face.itemType
  have hinfo := roomFor_enumField_le 3 face.info
  have hpackageId := roomFor_enumField_le 5 face.packageId
  have hsubtype := roomFor_enumField_le 6 face.subtype
  have hwidth := roomFor_enumField_le 10 face.width
  have hheight := roomFor_enumField_le 11 face.height
  refine encodeMessage_length_le_of_room (writable_marketFace face) ?_ (by decide)
  simp only [MarketFaceOut.fields, messageField, roomFor_append, roomFor_cons, roomFor_nil,
    Field.room]
  omega

theorem compileElement_short (hwrites : out.WritesFields) {segment : OutboundSegment}
    {result : Nat × List ElementOut}
    (hcompile : compileElement out targetIsGroup segment = .ok result)
    (hkind : segment.InForward) (htext : result.1 ≤ maxTextBytes) :
    ∀ element ∈ result.2, (elementBytes element).length ≤ maxElementLen := by
  have hlimit : maxElementLen = 262144 := rfl
  have hbound : u64Bound = 18446744073709551616 := by decide
  cases segment with
  | text value =>
      obtain ⟨⟨⟩, -, hresult⟩ := bind_eq_ok_iff.mp hcompile
      cases hresult
      have hvalue : (Protobuf.encodeMessage (TextOut.fields ⟨value, none⟩)).length ≤ 4520 := by
        have hsize : value.utf8ByteSize ≤ 4500 := htext
        have hbytes : (utf8Bytes value).length ≤ 4500 := by rwa [utf8Bytes_length]
        exact part_element_length_le 1 (by decide) hbytes (by omega)
      have helement := part_element_length_le 1 (by decide) hvalue (by omega)
      exact List.forall_mem_singleton.mpr (Nat.le_trans helement (by omega))
  | face id =>
      cases hcompile
      have hid : id.toNat < 65536 := id.toNat_lt
      refine List.forall_mem_singleton.mpr ?_
      unfold faceElement
      split
      · have hface : (Protobuf.encodeMessage (faceFields id.toNat)).length ≤ 20 :=
          encodeMessage_length_le_of_room (writable_nil.cons (writable_int32 (by decide) _))
            (Nat.le_refl _) (by omega)
        have helement := part_element_length_le 2 (by decide) hface (by omega)
        exact Nat.le_trans helement (by omega)
      · have hbody : (out.standardFace id.toNat).length ≤ 20 := by
          rw [hwrites.standardFace]
          exact encodeMessage_length_le_of_room (writable_varintField (by decide) (by omega))
            (roomFor_varintField_le 1 _) (by omega)
        exact Nat.le_trans (commonElement_length_le (by decide) hbody (by omega)) (by omega)
  | markdown content =>
      obtain ⟨body, hbody, hresult⟩ := bind_eq_ok_iff.mp hcompile
      cases hresult
      obtain ⟨⟨⟩, hcontent, hreturn⟩ := bind_eq_ok_iff.mp hbody
      cases hreturn
      have hcontent := require_eq_ok_iff.mp hcontent
      simp only [Bool.and_eq_true, decide_eq_true_eq] at hcontent
      have hsize : content.utf8ByteSize ≤ 16384 := hcontent.1.2
      have hmarkdown : (out.markdown content).length ≤ 16404 := by
        rw [hwrites.markdown]
        refine encodeMessage_length_le_of_room (writable_bytesField (by decide) _) ?_ (by omega)
        refine Nat.le_trans (roomFor_bytesField_le 1 _) ?_
        rw [utf8Bytes_length]
        omega
      refine List.forall_mem_singleton.mpr ?_
      exact Nat.le_trans (commonElement_length_le (by decide) hmarkdown (by omega)) (by omega)
  | marketFace emojiId packageId key summary =>
      obtain ⟨bytes, hbytes, hresult⟩ := bind_eq_ok_iff.mp hcompile
      cases hresult
      obtain ⟨faceId, hfaceId, hchecked⟩ := bind_eq_ok_iff.mp hbytes
      obtain ⟨⟨⟩, hchecks, hreturn⟩ := bind_eq_ok_iff.mp hchecked
      cases hreturn
      have hchecks := require_eq_ok_iff.mp hchecks
      simp only [Bool.and_eq_true, decide_eq_true_eq, validText] at hchecks
      obtain ⟨⟨⟨-, hkey, -⟩, -⟩, hsummary, -⟩ := hchecks
      obtain ⟨-, -, hcount⟩ := decodeHex_lowercase hfaceId
      have hcount : faceId.length ≤ 64 := by omega
      refine List.forall_mem_singleton.mpr ?_
      rw [hwrites.marketFace]
      have hface : (Protobuf.encodeMessage (MarketFaceOut.fields {
          summary := summary, itemType := 6, info := 1, faceId := faceId, packageId := packageId
          subtype := 3, key := key, width := 300, height := 300, reserveField8 := 1 })).length ≤
            6000 :=
        marketFace_length_le hsummary hkey hcount
      have helement := part_element_length_le 6 (by decide) hface (by omega)
      exact Nat.le_trans helement (by omega)
  | poke kind strength =>
      obtain ⟨⟨⟩, -, hresult⟩ := bind_eq_ok_iff.mp hcompile
      cases hresult
      have hkind := kind.toNat_lt
      have hstrength := strength.toNat_lt
      have hpoke : (out.poke kind strength).length ≤ 40 := by
        rw [hwrites.poke]
        refine encodeMessage_length_le_of_room ?_ ?_ (by omega)
        · exact (writable_varintField (by decide) (by omega)).append
            (writable_varintField (by decide) (by omega))
        · have hfirst := roomFor_varintField_le 1 kind.toNat
          have hsecond := roomFor_varintField_le 7 strength.toNat
          rw [roomFor_append]
          omega
      refine List.forall_mem_singleton.mpr ?_
      exact Nat.le_trans (commonElement_length_le (by omega) hpoke (by omega)) (by omega)
  | _ => exact absurd hkind id

/-- The elements of a forward are within the decoder's bound on an element. -/
theorem compileElements_short (hwrites : out.WritesFields) {segments : List OutboundSegment}
    {elements : List ElementOut}
    (hcompile : compileElements out targetIsGroup segments = .ok elements)
    (hkinds : ∀ segment ∈ segments, segment.InForward) :
    ∀ element ∈ elements, (elementBytes element).length ≤ maxElementLen := by
  obtain ⟨⟨⟩, -, hcompile⟩ := bind_eq_ok_iff.mp hcompile
  obtain ⟨produced, hmap, hsum⟩ := bind_eq_ok_iff.mp hcompile
  obtain ⟨⟨⟩, htext, helements⟩ := bind_eq_ok_iff.mp hsum
  cases helements
  have htext : (produced.map Prod.fst).sum ≤ maxTextBytes :=
    of_decide_eq_true (require_eq_ok_iff.mp htext)
  intro element helement
  obtain ⟨result, hresult, helement⟩ := List.mem_flatMap.mp helement
  obtain ⟨segment, hsegment, hstep⟩ := exists_of_mem_mapM hmap hresult
  have hone : result.1 ≤ (produced.map Prod.fst).sum :=
    List.le_sum_of_mem (List.mem_map_of_mem hresult)
  exact compileElement_short hwrites hstep (hkinds segment hsegment) (Nat.le_trans hone htext)
    element helement

end Lengths

end Message
end Lirvena
