import Lirvena.Lib.ProtoRead
import Lirvena.Message.Outbound

/-!
# The protobuf messages of rich text

The encoder and the decoder of rich text declare their messages apart.  `fields` are
the fields that the encoder's messages are written as, under the numbers declared
there, and the readers take the fields under the numbers declared by the decoder.
`Lossless` states what is documented of the protobuf library, which writes the one
and reads the other, and of zlib.
-/

namespace Lirvena
namespace Message

open Lib Lib.Protobuf

/-! ## What is written -/

def optionalBytesField (number : Nat) (bytes : Option (List UInt8)) : List Field :=
  bytes.toList.map fun bytes => ⟨number, .lengthDelimited bytes⟩

def TextOut.fields (text : TextOut) : List Field :=
  ⟨1, stringValue text.value⟩ :: optionalBytesField 12 text.reserve

def faceFields (index : Nat) : List Field :=
  [⟨1, int32Value index⟩]

def RichMessageOut.fields (rich : RichMessageOut) : List Field :=
  bytesField 1 rich.template ++ [⟨2, int32Value rich.serviceId⟩]

def lightAppFields (data : List UInt8) : List Field :=
  bytesField 1 data

def CommonOut.fields (common : CommonOut) : List Field :=
  enumField 1 common.serviceType ++ (bytesField 2 common.protobuf ++
    varintField 3 common.businessType)

def SourceOut.fields (source : SourceOut) : List Field :=
  packedField 1 (source.sequences.map UInt32.toNat) ++ (varintField 2 source.senderUin.toNat ++
    (⟨3, int32Value source.timestamp.toNat⟩ ::
      (source.elements.map (fun element => ⟨5, .lengthDelimited element⟩) ++
        [⟨8, .lengthDelimited source.reserve⟩, ⟨10, .varint source.toUin.toNat⟩])))

/-- A message inside an element, as its bytes. -/
def partBytes {α : Type} (fields : α → List Field) (part : Option α) : Option (List UInt8) :=
  part.map fun part => Protobuf.encodeMessage (fields part)

def ElementOut.fields (element : ElementOut) : List Field :=
  optionalBytesField 1 (partBytes TextOut.fields element.text) ++
    (optionalBytesField 2 (partBytes faceFields element.face) ++
      (optionalBytesField 4 element.notOnlineImage ++ (optionalBytesField 6 element.marketFace ++
        (optionalBytesField 8 element.customFace ++
          (optionalBytesField 12 (partBytes RichMessageOut.fields element.richMessage) ++
            (optionalBytesField 19 element.video ++
              (optionalBytesField 45 (partBytes SourceOut.fields element.source) ++
                (optionalBytesField 51 (partBytes lightAppFields element.lightApp) ++
                  optionalBytesField 53 (partBytes CommonOut.fields element.common)))))))))

def elementBytes (element : ElementOut) : List UInt8 :=
  Protobuf.encodeMessage element.fields

def richTextFields (elements : List ElementOut) : List Field :=
  elements.map fun element => ⟨2, .lengthDelimited (elementBytes element)⟩

/-- The rich text of a request. -/
def richTextBytes (elements : List ElementOut) : List UInt8 :=
  Protobuf.encodeMessage (richTextFields elements)

def MentionExtra.fields (extra : MentionExtra) : List Field :=
  [⟨3, int32Value extra.kind⟩, ⟨4, .varint extra.uin.toNat⟩, ⟨5, int32Value extra.field5⟩,
    ⟨9, stringValue extra.uid⟩]

def standardFaceFields (faceId : Nat) : List Field :=
  varintField 1 faceId

def AnimatedFaceOut.fields (face : AnimatedFaceOut) : List Field :=
  bytesField 1 (utf8Bytes face.stickerPackId) ++ (bytesField 2 (utf8Bytes face.stickerId) ++
    (enumField 3 face.faceId ++ (enumField 4 face.fieldFour ++ (enumField 5 face.stickerType ++
      (bytesField 6 (utf8Bytes face.fieldSix) ++ (bytesField 7 (utf8Bytes face.preview) ++
        enumField 9 face.fieldNine))))))

/-! ## What is read -/

open WireValue

def readRichText (fields : List Field) : Option RichTextBodyWire := do
  let attributes ← optionalField asBytes 1 fields
  let elements ← repeatedField asBytes 2 fields
  let file ← optionalField asBytes 3 fields
  let voice ← optionalField asBytes 4 fields
  return { attributes := attributes, elements := elements, file := file, voice := voice }

def readElement (fields : List Field) : Option ElementWire := do
  let text ← optionalField asBytes 1 fields
  let face ← optionalField asBytes 2 fields
  let directImage ← optionalField asBytes 4 fields
  let transfer ← optionalField asBytes 5 fields
  let marketFace ← optionalField asBytes 6 fields
  let groupImage ← optionalField asBytes 8 fields
  let richMessage ← optionalField asBytes 12 fields
  let video ← optionalField asBytes 19 fields
  let lightApp ← optionalField asBytes 51 fields
  let common ← optionalField asBytes 53 fields
  let source ← optionalField asBytes 45 fields
  return {
    text := text, face := face, directImage := directImage, transfer := transfer
    marketFace := marketFace, groupImage := groupImage, richMessage := richMessage
    video := video, lightApp := lightApp, common := common, source := source }

def readText (fields : List Field) : Option TextWire := do
  let text ← optionalField asString 1 fields
  let legacyAttributes ← optionalField asBytes 3 fields
  let reserve ← optionalField asBytes 12 fields
  return { text := text, legacyAttributes := legacyAttributes, reserve := reserve }

def readFace (fields : List Field) : Option FaceWire := do
  let index ← optionalField asInt32 1 fields
  return { index := index }

def readCommon (fields : List Field) : Option CommonWire := do
  let serviceType ← singularField asInt32 0 1 fields
  let body ← optionalField asBytes 2 fields
  let businessType ← singularField asUInt32 0 3 fields
  return { serviceType := serviceType, body := body, businessType := businessType }

/-- The `resource_id` of a light application is checked and dropped. -/
def readLightApp (fields : List Field) : Option LightAppWire := do
  let data ← singularField asBytes [] 1 fields
  let _ ← optionalField asBytes 2 fields
  return { data := data }

def readMention (fields : List Field) : Option MentionWire := do
  let mentionType ← singularField asInt32 0 3 fields
  let account ← singularField asUInt32 0 4 fields
  let user ← singularField asString "" 9 fields
  return { mentionType := mentionType, account := account, user := user }

def readStandardFace (fields : List Field) : Option StandardFaceWire := do
  let faceId ← singularField asUInt32 0 1 fields
  return { faceId := faceId }

def readAnimatedFace (fields : List Field) : Option AnimatedFaceWire := do
  let faceId ← optionalField asInt32 3 fields
  return { faceId := faceId }

/-! ## The libraries -/

/-- The encoders and decoders of the protobuf library and of zlib lose nothing. -/
structure Lossless (out : OutboundWire) (wire : RichTextWire) : Prop where
  mentionExtra : ∀ extra, out.mentionExtra extra = Protobuf.encodeMessage extra.fields
  standardFace : ∀ faceId,
    out.standardFace faceId = Protobuf.encodeMessage (standardFaceFields faceId)
  animatedFace : ∀ face, out.animatedFace face = Protobuf.encodeMessage face.fields
  readsRichText : DecodesBy wire.richText readRichText
  readsElement : DecodesBy wire.element readElement
  readsText : DecodesBy wire.text readText
  readsFace : DecodesBy wire.face readFace
  readsCommon : DecodesBy wire.common readCommon
  readsLightApp : DecodesBy wire.lightApp readLightApp
  readsMention : DecodesBy wire.mention readMention
  readsStandardFace : DecodesBy wire.standardFace readStandardFace
  readsAnimatedFace : DecodesBy wire.animatedFace readAnimatedFace
  /-- Market faces, markdown and pokes are declared once for both sides. -/
  marketFace : ∀ face : MarketFaceOut, FitsInt32 face.packageId →
    (out.marketFace face).length < u64Bound → wire.marketFace (out.marketFace face) =
      some ⟨face.summary, face.faceId, face.packageId, face.key⟩
  markdown : ∀ content, (out.markdown content).length < u64Bound →
    wire.markdown (out.markdown content) = some ⟨content⟩
  poke : ∀ kind strength, wire.poke (out.poke kind strength) =
    some ⟨kind.toNat, strength.toNat⟩
  /-- An empty string is a message of defaults. -/
  markdown_nil : wire.markdown [] = some ⟨""⟩
  poke_nil : wire.poke [] = some ⟨0, 0⟩
  /-- A zlib stream is not empty, and inflates to what was deflated. -/
  inflate : ∀ text stream limit, out.deflate text = some stream →
    (utf8Bytes text).length ≤ limit → stream ≠ [] ∧
      wire.inflate limit stream = some (utf8Bytes text)

section RoundTrips

variable {out : OutboundWire} {wire : RichTextWire}

@[simp] theorem valuesOf_optionalBytesField (number other : Nat) (bytes : Option (List UInt8)) :
    valuesOf number (optionalBytesField other bytes) =
      if other = number then bytes.toList.map WireValue.lengthDelimited else [] := by
  unfold optionalBytesField
  cases bytes with
  | none => simp
  | some bytes => simp

theorem writable_optionalBytesField {number : Nat} (hnumber : number < 2 ^ 61)
    (bytes : Option (List UInt8)) : Writable (optionalBytesField number bytes) := by
  intro field hfield
  obtain ⟨bytes, -, rfl⟩ := List.mem_map.mp hfield
  exact writable_bytes hnumber bytes

/-- A field that was written at most once is read as it was. -/
theorem optionalField_bytes {number : Nat} {fields : List Field} {bytes : Option (List UInt8)}
    (hvalues : valuesOf number fields = bytes.toList.map WireValue.lengthDelimited) :
    optionalField asBytes number fields = some bytes := by
  cases bytes with
  | none => exact optionalField_none hvalues
  | some bytes => exact optionalField_some hvalues rfl

/-- The decoder's view of an element. -/
def elementWire (element : ElementOut) : ElementWire where
  text := partBytes TextOut.fields element.text
  face := partBytes faceFields element.face
  directImage := element.notOnlineImage
  transfer := none
  marketFace := element.marketFace
  groupImage := element.customFace
  richMessage := partBytes RichMessageOut.fields element.richMessage
  video := element.video
  lightApp := partBytes lightAppFields element.lightApp
  common := partBytes CommonOut.fields element.common
  source := partBytes SourceOut.fields element.source

theorem readElement_fields (element : ElementOut) :
    readElement element.fields = some (elementWire element) := by
  have htext : optionalField asBytes 1 element.fields =
      some (partBytes TextOut.fields element.text) :=
    optionalField_bytes (by simp [ElementOut.fields])
  have hface : optionalField asBytes 2 element.fields =
      some (partBytes faceFields element.face) := optionalField_bytes (by simp [ElementOut.fields])
  have hdirectImage : optionalField asBytes 4 element.fields =
      some element.notOnlineImage := optionalField_bytes (by simp [ElementOut.fields])
  have htransfer : optionalField asBytes 5 element.fields =
      some none := optionalField_bytes (by simp [ElementOut.fields])
  have hmarketFace : optionalField asBytes 6 element.fields =
      some element.marketFace := optionalField_bytes (by simp [ElementOut.fields])
  have hgroupImage : optionalField asBytes 8 element.fields =
      some element.customFace := optionalField_bytes (by simp [ElementOut.fields])
  have hrichMessage : optionalField asBytes 12 element.fields =
      some (partBytes RichMessageOut.fields element.richMessage) :=
    optionalField_bytes (by simp [ElementOut.fields])
  have hvideo : optionalField asBytes 19 element.fields =
      some element.video := optionalField_bytes (by simp [ElementOut.fields])
  have hlightApp : optionalField asBytes 51 element.fields =
      some (partBytes lightAppFields element.lightApp) :=
    optionalField_bytes (by simp [ElementOut.fields])
  have hcommon : optionalField asBytes 53 element.fields =
      some (partBytes CommonOut.fields element.common) :=
    optionalField_bytes (by simp [ElementOut.fields])
  have hsource : optionalField asBytes 45 element.fields =
      some (partBytes SourceOut.fields element.source) :=
    optionalField_bytes (by simp [ElementOut.fields])
  simp only [readElement, htext, hface, hdirectImage, htransfer, hmarketFace, hgroupImage,
    hrichMessage, hvideo, hlightApp, hcommon, hsource]
  rfl

theorem writable_element (element : ElementOut) : Writable element.fields := by
  have hpart {number : Nat} (hnumber : number < 2 ^ 61) (bytes : Option (List UInt8)) :
      Writable (optionalBytesField number bytes) := writable_optionalBytesField hnumber bytes
  exact (hpart (by decide) _).append ((hpart (by decide) _).append ((hpart (by decide) _).append
    ((hpart (by decide) _).append ((hpart (by decide) _).append ((hpart (by decide) _).append
      ((hpart (by decide) _).append ((hpart (by decide) _).append ((hpart (by decide) _).append
        (hpart (by decide) _)))))))))

theorem element_reads (hlossless : Lossless out wire) {element : ElementOut}
    (hlength : (elementBytes element).length < u64Bound) :
    wire.element (elementBytes element) = some (elementWire element) := by
  rw [elementBytes, hlossless.readsElement.encodeMessage (writable_element element) hlength]
  exact readElement_fields element

theorem richText_reads (hlossless : Lossless out wire) {elements : List ElementOut}
    (hlength : (richTextBytes elements).length < u64Bound) :
    wire.richText (richTextBytes elements) = some {
      attributes := none, elements := elements.map elementBytes, file := none, voice := none } := by
  have hwritable : Writable (richTextFields elements) := by
    intro field hfield
    obtain ⟨element, -, rfl⟩ := List.mem_map.mp hfield
    exact writable_bytes (by decide) _
  have hvalues : valuesOf 2 (richTextFields elements) =
      (elements.map elementBytes).map WireValue.lengthDelimited := by
    simp [valuesOf, richTextFields, List.filterMap_map, Function.comp_def]
  have hother {number : Nat} (hnumber : 2 ≠ number) :
      valuesOf number (richTextFields elements) = [] := by
    simp [valuesOf, richTextFields, List.filterMap_map, hnumber]
  have helements := repeatedField_bytes hvalues
  rw [richTextBytes, hlossless.readsRichText.encodeMessage hwritable hlength]
  simp only [readRichText, helements, optionalField_none (hother (by decide : 2 ≠ 1)),
    optionalField_none (hother (by decide : 2 ≠ 3)),
    optionalField_none (hother (by decide : 2 ≠ 4))]
  rfl

theorem text_reads (hlossless : Lossless out wire) {text : TextOut}
    (hlength : (Protobuf.encodeMessage text.fields).length < u64Bound) :
    wire.text (Protobuf.encodeMessage text.fields) = some {
      text := some text.value, legacyAttributes := none, reserve := text.reserve } := by
  have hwritable : Writable text.fields :=
    (writable_optionalBytesField (by decide) _).cons (writable_bytes (by decide) _)
  have hvalue : optionalField asString 1 text.fields = some (some text.value) :=
    optionalField_some (by simp [TextOut.fields]) (asString_stringValue text.value)
  have hlegacy : optionalField asBytes 3 text.fields = some none :=
    optionalField_none (by simp [TextOut.fields])
  have hreserve : optionalField asBytes 12 text.fields = some text.reserve :=
    optionalField_bytes (by simp [TextOut.fields])
  rw [hlossless.readsText.encodeMessage hwritable hlength]
  simp only [readText, hvalue, hlegacy, hreserve]
  rfl

theorem face_reads (hlossless : Lossless out wire) {index : Nat} (hindex : index < 2147483648)
    (hlength : (Protobuf.encodeMessage (faceFields index)).length < u64Bound) :
    wire.face (Protobuf.encodeMessage (faceFields index)) = some { index := some index } := by
  have hwritable : Writable (faceFields index) :=
    writable_nil.cons (writable_int32 (by decide) _)
  have hfits : FitsInt32 index := ⟨by omega, by omega⟩
  have hvalue : optionalField asInt32 1 (faceFields index) = some (some (index : Int)) :=
    optionalField_some (by simp [faceFields]) (asInt32_int32Value hfits)
  rw [hlossless.readsFace.encodeMessage hwritable hlength]
  simp only [readFace, hvalue]
  rfl

theorem common_reads (hlossless : Lossless out wire) {common : CommonOut}
    (hservice : FitsInt32 common.serviceType) (hbusiness : common.businessType < 4294967296)
    (hbody : common.protobuf ≠ [])
    (hlength : (Protobuf.encodeMessage common.fields).length < u64Bound) :
    wire.common (Protobuf.encodeMessage common.fields) = some {
      serviceType := common.serviceType, body := some common.protobuf
      businessType := common.businessType } := by
  have hwritable : Writable common.fields :=
    (writable_enumField (by decide) _).append ((writable_bytesField (by decide) _).append
      (writable_varintField (by decide) (by omega)))
  have hserviceType : singularField asInt32 0 1 common.fields = some common.serviceType :=
    singularField_int32 hservice (by simp [CommonOut.fields])
  have hwritten : valuesOf 2 common.fields = [.lengthDelimited common.protobuf] := by
    simp [CommonOut.fields, bytesField, hbody]
  have hprotobuf : optionalField asBytes 2 common.fields = some (some common.protobuf) :=
    optionalField_some hwritten rfl
  have hbusinessType : singularField asUInt32 0 3 common.fields = some common.businessType :=
    singularField_uint32 hbusiness (by simp [CommonOut.fields])
  rw [hlossless.readsCommon.encodeMessage hwritable hlength]
  simp only [readCommon, hserviceType, hprotobuf, hbusinessType]
  rfl

theorem lightApp_reads (hlossless : Lossless out wire) {data : List UInt8}
    (hlength : (Protobuf.encodeMessage (lightAppFields data)).length < u64Bound) :
    wire.lightApp (Protobuf.encodeMessage (lightAppFields data)) = some { data := data } := by
  have hdata : singularField asBytes [] 1 (lightAppFields data) = some data :=
    singularField_bytes rfl
  have hresource : optionalField asBytes 2 (lightAppFields data) = some none :=
    optionalField_none (by simp [lightAppFields])
  have hwritable : Writable (lightAppFields data) := writable_bytesField (by decide) data
  rw [hlossless.readsLightApp.encodeMessage hwritable hlength]
  simp only [readLightApp, hdata, hresource]
  rfl

theorem mention_reads (hlossless : Lossless out wire) {extra : MentionExtra}
    (hkind : FitsInt32 extra.kind)
    (hlength : (out.mentionExtra extra).length < u64Bound) :
    wire.mention (out.mentionExtra extra) = some {
      mentionType := extra.kind, account := extra.uin.toNat, user := extra.uid } := by
  have huin := extra.uin.toNat_lt
  have hwritable : Writable extra.fields :=
    (((writable_nil.cons (writable_bytes (by decide) _)).cons
      (writable_int32 (by decide) _)).cons (writable_varint (by decide) (by omega))).cons
        (writable_int32 (by decide) _)
  have htype : singularField asInt32 0 3 extra.fields = some extra.kind :=
    singularField_some (by simp [MentionExtra.fields]) (asInt32_int32Value hkind)
  have haccount : singularField asUInt32 0 4 extra.fields = some extra.uin.toNat :=
    singularField_some (by simp [MentionExtra.fields]) (asUInt32_varint huin)
  have huser : singularField asString "" 9 extra.fields = some extra.uid :=
    singularField_some (by simp [MentionExtra.fields]) (asString_stringValue extra.uid)
  rw [hlossless.mentionExtra] at hlength ⊢
  rw [hlossless.readsMention.encodeMessage hwritable hlength]
  simp only [readMention, htype, haccount, huser]
  rfl

theorem standardFace_reads (hlossless : Lossless out wire) {faceId : Nat}
    (hface : faceId < 4294967296) (hlength : (out.standardFace faceId).length < u64Bound) :
    wire.standardFace (out.standardFace faceId) = some { faceId := faceId } := by
  have hvalue : singularField asUInt32 0 1 (standardFaceFields faceId) = some faceId :=
    singularField_uint32 hface rfl
  have hwritable : Writable (standardFaceFields faceId) :=
    writable_varintField (by decide) (by omega)
  rw [hlossless.standardFace] at hlength ⊢
  rw [hlossless.readsStandardFace.encodeMessage hwritable hlength]
  simp only [readStandardFace, hvalue]
  rfl

theorem animatedFace_reads (hlossless : Lossless out wire) {face : AnimatedFaceOut}
    (hface : face.faceId < 2147483648) (hnonzero : face.faceId ≠ 0)
    (hlength : (out.animatedFace face).length < u64Bound) :
    wire.animatedFace (out.animatedFace face) = some { faceId := some face.faceId } := by
  have hwritable : Writable face.fields :=
    (writable_bytesField (by decide) _).append ((writable_bytesField (by decide) _).append
      ((writable_enumField (by decide) _).append ((writable_enumField (by decide) _).append
        ((writable_enumField (by decide) _).append ((writable_bytesField (by decide) _).append
          ((writable_bytesField (by decide) _).append (writable_enumField (by decide) _)))))))
  have hfits : FitsInt32 face.faceId := ⟨by omega, by omega⟩
  have hvalue : optionalField asInt32 3 face.fields = some (some (face.faceId : Int)) :=
    optionalField_int32 hfits (by omega) (by simp [AnimatedFaceOut.fields])
  rw [hlossless.animatedFace] at hlength ⊢
  rw [hlossless.readsAnimatedFace.encodeMessage hwritable hlength]
  simp only [readAnimatedFace, hvalue]
  rfl

end RoundTrips

end Message
end Lirvena
