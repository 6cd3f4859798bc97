import Lirvena.Message.RichText

/-!
# Readable rich text

The rich-text bodies that the decoder accepts, described by what the library
functions read from their parts.  A body is readable when it keeps the size limits
and every field of every element is readable, also of an element that is
unsupported in the end: one unreadable field rejects the body as a whole.
-/

namespace Lirvena
namespace Message

open Lib

/-- A digest in hexadecimal digits, or none. -/
def ReadableDigest (value : String) : Prop :=
  value = "" ∨ (value.utf8ByteSize ≤ 128 ∧ value.utf8ByteSize % 2 = 0 ∧
    value.toList.all isHexDigit = true)

def ReadableMediaFile (body : MediaBodyWire) : Prop :=
  ∃ index info, body.index = some index ∧ index.info = some info ∧
    validText index.uuid 256 = true ∧ validText info.name 1024 = true ∧
    ReadableDigest info.digest ∧ ReadableDigest info.sha1 ∧
    validText (body.picture.elim "" PictureWire.remoteReference) 8192 = true

section Decoders

variable (wire : RichTextWire)

/-! ## The fields of an element -/

/-- Byte 1, and a zlib stream of a text that is neither empty nor too long. -/
def ReadablePayload (input : List UInt8) : Prop :=
  ∃ stream decoded text, input = 1 :: stream ∧ stream ≠ [] ∧ input.length ≤ maxRichBytes ∧
    wire.inflate (maxRichBytes + 1) stream = some decoded ∧ decoded.length ≤ maxRichBytes ∧
    String.fromUTF8? ⟨decoded.toArray⟩ = some text ∧ text ≠ "" ∧
    validText text maxRichBytes = true

def ReadableText (input : List UInt8) : Prop :=
  ∃ body, wire.text input = some body ∧ ∀ text, body.text = some text →
    validText text maxTextLen = true ∧
      ∀ mention, body.reserve.bind wire.mention = some mention →
        mention.mentionType = 1 ∨ mention.mentionType = 2 →
          validText mention.user maxUserLen = true

def ReadableFace (input : List UInt8) : Prop :=
  ∃ face, wire.face input = some face

def ReadableMarketFace (input : List UInt8) : Prop :=
  ∃ face, wire.marketFace input = some face ∧ face.faceId ≠ [] ∧ face.faceId.length * 2 ≤ 128 ∧
    0 < face.packageId ∧ face.key ≠ "" ∧ validText face.key (4 * 1024) = true ∧
    face.summary ≠ "" ∧ validText face.summary 1024 = true

/-- The media of a business type: only images have a summary, and a body of
another type is not read at all. -/
def ReadableMedia (businessType : Nat) (input : List UInt8) : Prop :=
  businessType ∈ [10, 20, 11, 21, 12, 22] →
    ∃ media body, wire.mediaInfo input = some media ∧ media.bodies.length ≤ 8 ∧
      media.bodies.head? = some body ∧ ReadableMediaFile body ∧
      (businessType = 10 ∨ businessType = 20 →
        validText ((media.extension.bind MediaExtensionWire.image).elim ""
          ImageExtensionWire.summary) 512 = true)

def ReadableMarkdown (input : List UInt8) : Prop :=
  ∃ body, wire.markdown input = some body ∧ body.content ≠ "" ∧
    validText body.content (16 * 1024) = true

def ReadablePoke (input : List UInt8) : Prop :=
  input ≠ [] ∧ input.length ≤ maxRichBytes ∧
    ∃ poke, wire.poke input = some poke ∧ poke.kind ≠ 0

/-- A malformed face is none, so only the other three services have conditions. -/
def ReadableCommon (input : List UInt8) : Prop :=
  ∃ common, wire.common input = some common ∧ ∀ body, common.body = some body →
    (common.serviceType = 48 → ReadableMedia wire common.businessType body) ∧
    (common.serviceType = 45 ∧ common.businessType = 1 → ReadableMarkdown wire body) ∧
    (common.serviceType = 2 → ReadablePoke wire body)

def ReadableDirectImage (input : List UInt8) : Prop :=
  ∃ image, wire.directImage input = some image ∧ validText image.name 1024 = true ∧
    validText image.remoteReference 8192 = true ∧ image.digest.length ≤ 64 ∧
    validText (image.reserve.elim "" ImageReserveWire.summary) 512 = true

def ReadableGroupImage (input : List UInt8) : Prop :=
  ∃ image, wire.groupImage input = some image ∧ 0 ≤ image.width ∧ 0 ≤ image.height ∧
    validText image.name 1024 = true ∧ validText image.remoteReference 8192 = true ∧
    image.digest.length ≤ 64 ∧
    validText (image.reserve.elim "" ImageReserveWire.summary) 512 = true

def ReadableVideo (input : List UInt8) : Prop :=
  ∃ video, wire.video input = some video ∧
    0 ≤ (if video.width = 0 then video.thumbnailWidth else video.width) ∧
    0 ≤ (if video.height = 0 then video.thumbnailHeight else video.height) ∧
    0 ≤ video.size ∧ 0 ≤ video.durationSeconds ∧ validText video.name 1024 = true ∧
    validText video.uuid 256 = true ∧ video.digest.length ≤ 64

/-- A transfer of another kind is no group file and not read further. -/
def ReadableGroupFile (input : List UInt8) : Prop :=
  ∃ transfer, wire.transfer input = some transfer ∧ (transfer.kind = groupFileType →
    3 ≤ transfer.value.length ∧
    3 + beNat (slice transfer.value 1 3) = transfer.value.length ∧
    ∃ extra info, wire.groupFileExtra (transfer.value.drop 3) = some extra ∧
      extra.inner.bind FileInnerWire.info = some info ∧
      info.busId ≠ 0 ∧ info.fileId ≠ "" ∧ info.name ≠ "" ∧ 0 < info.size ∧
      validText info.fileId 4096 = true ∧ validText info.name 4096 = true)

def ReadableRichMessage (input : List UInt8) : Prop :=
  ∃ rich, wire.richMessage input = some rich ∧
    (rich.serviceId = some 1 ∨ rich.serviceId = some 35 → ReadablePayload wire rich.template)

def ReadableLightApp (input : List UInt8) : Prop :=
  ∃ app, wire.lightApp input = some app ∧ ReadablePayload wire app.data

/-- A reply names exactly one sequence and the message behind it. -/
def ReadableSource (input : List UInt8) : Prop :=
  ∃ source sequence bytes reserve, wire.source input = some source ∧
    source.sequences = [sequence] ∧ sequence ≠ 0 ∧ source.reserve = some bytes ∧
    wire.sourceReserve bytes = some reserve ∧ reserve.messageUid ≠ 0

/-! ## Elements and bodies -/

/-- Every field that the element carries is readable. -/
structure ReadableFields (element : ElementWire) : Prop where
  text : ∀ bytes, element.text = some bytes → ReadableText wire bytes
  face : ∀ bytes, element.face = some bytes → ReadableFace wire bytes
  marketFace : ∀ bytes, element.marketFace = some bytes → ReadableMarketFace wire bytes
  common : ∀ bytes, element.common = some bytes → ReadableCommon wire bytes
  directImage : ∀ bytes, element.directImage = some bytes → ReadableDirectImage wire bytes
  transfer : ∀ bytes, element.transfer = some bytes → ReadableGroupFile wire bytes
  groupImage : ∀ bytes, element.groupImage = some bytes → ReadableGroupImage wire bytes
  video : ∀ bytes, element.video = some bytes → ReadableVideo wire bytes
  richMessage : ∀ bytes, element.richMessage = some bytes → ReadableRichMessage wire bytes
  lightApp : ∀ bytes, element.lightApp = some bytes → ReadableLightApp wire bytes
  source : ∀ bytes, element.source = some bytes → ReadableSource wire bytes

/-- An empty element is unsupported; any other is read field by field. -/
def ReadableElement (encoded : List UInt8) : Prop :=
  encoded = [] ∨ ∃ element, wire.element encoded = some element ∧ ReadableFields wire element

structure ReadableRichText (input : List UInt8) : Prop where
  nonempty : input ≠ []
  length_le : input.length ≤ maxRichTextLen
  elements : ∃ rich, wire.richText input = some rich ∧ rich.elements.length ≤ maxElements ∧
    ∀ encoded ∈ rich.elements, encoded.length ≤ maxElementLen ∧ ReadableElement wire encoded

end Decoders

/-! ## Each decoder on its field -/

section Fields

variable {wire : RichTextWire} {input : List UInt8}

@[simp] theorem returns_require_iff {good : Bool} : Returns (require good) ↔ good = true := by
  rw [require, returns_rejectIf_iff, Bool.not_eq_false]

@[simp] theorem returns_require_bind {β : Type} {good : Bool}
    {next : Unit → Except MessageDecodeError β} :
    Returns (require good >>= next) ↔ good = true ∧ Returns (next ()) := by
  rw [returns_bind_iff]
  constructor
  · rintro ⟨⟨⟩, hgood, hnext⟩
    exact ⟨require_eq_ok_iff.mp hgood, hnext⟩
  · rintro ⟨hgood, hnext⟩
    exact ⟨(), require_eq_ok_iff.mpr hgood, hnext⟩

theorem returns_nonnegative_iff {value : Int} : Returns (nonnegative value) ↔ 0 ≤ value := by
  unfold nonnegative
  split
  · next hvalue => simp [hvalue]
  · next hvalue => simp [hvalue]

@[simp] theorem returns_nonnegative_bind {β : Type} {value : Int}
    {next : Nat → Except MessageDecodeError β} :
    Returns (nonnegative value >>= next) ↔ 0 ≤ value ∧ Returns (next value.toNat) := by
  unfold nonnegative
  split
  · next hvalue => simp [hvalue, returns_bind_iff]
  · next hvalue => simp [hvalue, returns_bind_iff]

theorem validText_empty (maximum : Nat) : validText "" maximum = true := by
  simp [validText, containsNul]

theorem returns_optionalText_iff {maximum : Nat} {value : String} :
    Returns (optionalText maximum value) ↔ validText value maximum = true := by
  unfold optionalText
  split
  · next hempty => simp [hempty, validText_empty]
  · simp

theorem returns_normalizedDigest_iff {value : String} :
    Returns (normalizedDigest value) ↔ ReadableDigest value := by
  unfold normalizedDigest ReadableDigest
  split
  · next hempty => simp [hempty]
  · next hvalue => simp [hvalue, and_assoc]

theorem returns_mediaFile_iff {body : MediaBodyWire} :
    Returns (mediaFile body) ↔ ReadableMediaFile body := by
  -- what is checked of one part does not depend on the values of the others
  simp only [mediaFile, ReadableMediaFile, returns_bind_iff, exists_and_left, exists_and_right,
    exists_ok_iff, okOr_eq_ok_iff, returns_require_iff, returns_normalizedDigest_iff,
    returns_optionalText_iff, returns_pure, and_true]

theorem decompress_returns_iff :
    Returns (decompress wire input) ↔ ReadablePayload wire input := by
  cases input with
  | nil => simp [decompress, ReadablePayload]
  | cons first stream =>
      simp only [decompress, ReadablePayload, returns_require_bind, returns_okOr_bind, returns_pure,
        List.length_cons, Bool.and_eq_true, decide_eq_true_eq, beq_iff_eq, Bool.not_eq_true',
        List.cons.injEq, validText, and_true]
      constructor
      · rintro ⟨⟨⟨hlong, hshort⟩, rfl⟩, decoded, hinflate, hdecoded, text, htext,
          ⟨hne, hsize⟩, hnul⟩
        have hstream : stream ≠ [] := by
          rintro rfl
          exact absurd hlong (by decide)
        exact ⟨stream, decoded, text, ⟨rfl, rfl⟩, hstream, hshort, hinflate, hdecoded, htext, hne,
          hsize, hnul⟩
      · rintro ⟨stream, decoded, text, ⟨rfl, rfl⟩, hstream, hshort, hinflate, hdecoded, htext, hne,
          hsize, hnul⟩
        have hlong : 2 ≤ stream.length + 1 := by
          have hpositive := List.length_pos_iff.mpr hstream
          omega
        exact ⟨⟨⟨hlong, hshort⟩, rfl⟩, decoded, hinflate, hdecoded, text, htext, ⟨hne, hsize⟩, hnul⟩

theorem decodePoke_returns_iff : Returns (decodePoke wire input) ↔ ReadablePoke wire input := by
  simp [decodePoke, ReadablePoke, and_assoc]

theorem decodeMarkdown_returns_iff :
    Returns (decodeMarkdown wire input) ↔ ReadableMarkdown wire input := by
  simp [decodeMarkdown, ReadableMarkdown, validText, and_assoc]

theorem decodeFace_returns_iff : Returns (decodeFace wire input) ↔ ReadableFace wire input := by
  simp [decodeFace, ReadableFace]

theorem decodeMarketFace_returns_iff :
    Returns (decodeMarketFace wire input) ↔ ReadableMarketFace wire input := by
  simp [decodeMarketFace, ReadableMarketFace, and_assoc]

theorem decodeText_returns_iff : Returns (decodeText wire input) ↔ ReadableText wire input := by
  simp only [decodeText, ReadableText, returns_okOr_bind]
  refine exists_congr fun body => and_congr_right fun _ => ?_
  cases body.text with
  | none => simp
  | some text =>
      simp only [returns_require_bind, Option.some.injEq, forall_eq']
      refine and_congr_right fun _ => ?_
      cases body.reserve.bind wire.mention with
      | none => simp
      | some mention =>
          by_cases hmention : mention.mentionType = 1 ∨ mention.mentionType = 2
          · simp [Option.filter, hmention]
          · simp [Option.filter, hmention]

/-- The media description alone; what follows does not fail. -/
theorem decodeMediaInfo_returns_iff :
    Returns (decodeMediaInfo wire input) ↔
      ∃ media body, wire.mediaInfo input = some media ∧ media.bodies.length ≤ 8 ∧
        media.bodies.head? = some body ∧ ReadableMediaFile body := by
  simp only [decodeMediaInfo, returns_bind_iff, okOr_eq_ok_iff, returns_require_iff,
    exists_and_left, exists_and_right, exists_ok_iff, returns_mediaFile_iff, returns_pure, and_true,
    decide_eq_true_eq]

theorem decodeMediaImage_returns_iff {scope : MediaScope} :
    Returns (decodeMediaImage wire scope input) ↔
      ∃ media body, wire.mediaInfo input = some media ∧ media.bodies.length ≤ 8 ∧
        media.bodies.head? = some body ∧ ReadableMediaFile body ∧
        validText ((media.extension.bind MediaExtensionWire.image).elim ""
          ImageExtensionWire.summary) 512 = true := by
  simp only [decodeMediaImage, returns_bind_iff, returns_pure, and_true, exists_ok_iff,
    returns_optionalText_iff]
  constructor
  · rintro ⟨⟨media, file⟩, hinfo, hsummary⟩
    simp only [decodeMediaInfo, bind_eq_ok_iff, okOr_eq_ok_iff] at hinfo
    obtain ⟨read, hread, checked, hfew, body, hbody, checkedFile, hfile, hpair⟩ := hinfo
    cases hpair
    exact ⟨media, body, hread, by simpa using require_eq_ok_iff.mp hfew, hbody,
      returns_mediaFile_iff.mp ⟨file, hfile⟩, hsummary⟩
  · rintro ⟨media, body, hread, hfew, hbody, hreadable, hsummary⟩
    obtain ⟨file, hfile⟩ := returns_mediaFile_iff.mpr hreadable
    refine ⟨(media, file), ?_, hsummary⟩
    simp only [decodeMediaInfo, bind_eq_ok_iff, okOr_eq_ok_iff]
    exact ⟨media, hread, (), require_eq_ok_iff.mpr (by simpa using hfew), body, hbody, file, hfile,
      rfl⟩

theorem decodeMedia_returns_iff {businessType : Nat} :
    Returns (decodeMedia wire businessType input) ↔ ReadableMedia wire businessType input := by
  unfold decodeMedia ReadableMedia
  split
  · simp [decodeMediaImage_returns_iff]
  · simp [decodeMediaImage_returns_iff]
  · simp [decodeMediaInfo_returns_iff]
  · simp [decodeMediaInfo_returns_iff]
  · simp [decodeMediaInfo_returns_iff]
  · simp [decodeMediaInfo_returns_iff]
  · next hdirect hgroup hdirectVideo hgroupVideo hdirectVoice hgroupVoice =>
      have hother : businessType ∉ [10, 20, 11, 21, 12, 22] := by
        simp only [List.mem_cons, List.not_mem_nil, or_false]
        rintro (h | h | h | h | h | h)
        exacts [hdirect h, hgroup h, hdirectVideo h, hgroupVideo h, hdirectVoice h, hgroupVoice h]
      exact iff_of_true (returns_ok none) (fun hmember => absurd hmember hother)

theorem decodeCommon_returns_iff :
    Returns (decodeCommon wire input) ↔ ReadableCommon wire input := by
  simp only [decodeCommon, ReadableCommon, returns_okOr_bind]
  refine exists_congr fun common => and_congr_right fun _ => ?_
  cases common.body with
  | none => simp
  | some body =>
      simp only [Option.some.injEq, forall_eq', ← decodeMedia_returns_iff,
        ← decodeMarkdown_returns_iff, ← decodePoke_returns_iff]
      -- a face is only looked for under a service type of its own
      by_cases hface : common.serviceType = 33 ∨ common.serviceType = 37
      · have hmedia : common.serviceType ≠ 48 := by omega
        have hmarkdown : common.serviceType ≠ 45 := by omega
        have hpoke : common.serviceType ≠ 2 := by omega
        simp only [hmedia, hmarkdown, hpoke, false_and, if_false, false_imp_iff, and_true, iff_true]
        cases commonFace wire common.serviceType body with
        | none => exact returns_pure _
        | some face => exact returns_pure _
      · have hnone : commonFace wire common.serviceType body = none := by
          simp only [not_or] at hface
          simp [commonFace, hface]
        simp only [hnone]
        split
        · next hmedia => simp [hmedia]
        · next hmedia =>
            split
            · next hmarkdown => simp [hmarkdown]
            · next hmarkdown =>
                split
                · next hpoke => simp [hpoke]
                · next hpoke => simp [hmedia, hmarkdown, hpoke]

theorem returns_legacyMediaFile_iff {spec : LegacyMediaSpec} :
    Returns (legacyMediaFile spec) ↔
      validText spec.name 1024 = true ∧ spec.uuid.all (validText · 256) = true ∧
        validText spec.remoteReference 8192 = true ∧ spec.digest.length ≤ 64 := by
  simp only [legacyMediaFile, returns_bind_iff, exists_and_right, exists_ok_iff,
    returns_require_iff, returns_optionalText_iff, returns_pure, and_true, decide_eq_true_eq]

theorem decodeDirectImage_returns_iff :
    Returns (decodeDirectImage wire input) ↔ ReadableDirectImage wire input := by
  simp only [decodeDirectImage, ReadableDirectImage, legacySummary, returns_bind_iff,
    okOr_eq_ok_iff, exists_and_right, exists_ok_iff, returns_legacyMediaFile_iff, Option.all_none,
    returns_optionalText_iff, returns_pure, true_and, and_true, and_assoc]

theorem decodeGroupImage_returns_iff :
    Returns (decodeGroupImage wire input) ↔ ReadableGroupImage wire input := by
  simp only [decodeGroupImage, ReadableGroupImage, legacySummary, returns_bind_iff,
    okOr_eq_ok_iff, exists_and_right, exists_ok_iff, returns_legacyMediaFile_iff, Option.all_none,
    returns_optionalText_iff, returns_nonnegative_iff, returns_pure, true_and, and_true, and_assoc]

theorem decodeVideo_returns_iff :
    Returns (decodeVideo wire input) ↔ ReadableVideo wire input := by
  simp only [decodeVideo, ReadableVideo, returns_bind_iff, okOr_eq_ok_iff, exists_and_right,
    exists_ok_iff, returns_legacyMediaFile_iff, Option.all_some, validText_empty,
    returns_nonnegative_iff, returns_pure, true_and, and_true]

theorem decodeGroupFile_returns_iff :
    Returns (decodeGroupFile wire input) ↔ ReadableGroupFile wire input := by
  simp only [decodeGroupFile, ReadableGroupFile, returns_okOr_bind]
  refine exists_congr fun transfer => and_congr_right fun _ => ?_
  by_cases hkind : transfer.kind = groupFileType
  · simp only [hkind, ne_eq, not_true_eq_false, if_false, true_imp_iff, returns_require_bind,
      returns_okOr_bind, returns_nonnegative_bind, returns_pure, and_true, Bool.and_eq_true,
      decide_eq_true_eq, beq_iff_eq, and_assoc, exists_and_left]
    -- a size that is neither negative nor zero is positive
    have hsize (size : Int) : 0 < size ↔ 0 ≤ size ∧ ¬ size.toNat = 0 := by omega
    simp only [hsize, and_left_comm, and_assoc]
  · simp [hkind]

theorem decodeRichMessage_returns_iff :
    Returns (decodeRichMessage wire input) ↔ ReadableRichMessage wire input := by
  simp only [decodeRichMessage, ReadableRichMessage, returns_okOr_bind]
  refine exists_congr fun rich => and_congr_right fun _ => ?_
  rw [← decompress_returns_iff]
  split
  · next hservice => simp [hservice]
  · next hservice =>
      simp only [hservice, returns_bind_iff, or_true, true_imp_iff]
      constructor
      · rintro ⟨body, hbody, -⟩
        exact ⟨body, hbody⟩
      · rintro ⟨body, hbody⟩
        refine ⟨body, hbody, ?_⟩
        -- the forward in the text decides only the segment
        split
        · exact returns_pure _
        · exact returns_pure _
  · next hone hmany =>
      have hother : ¬ (rich.serviceId = some 1 ∨ rich.serviceId = some 35) := by
        rintro (h | h)
        · exact hone h
        · exact hmany h
      simp [hother]

theorem decodeLightApp_returns_iff :
    Returns (decodeLightApp wire input) ↔ ReadableLightApp wire input := by
  simp [decodeLightApp, ReadableLightApp, decompress_returns_iff]

theorem decodeSource_returns_iff :
    Returns (decodeSource wire input) ↔ ReadableSource wire input := by
  simp only [decodeSource, ReadableSource, returns_okOr_bind]
  constructor
  · rintro ⟨source, hsource, hreturns⟩
    split at hreturns
    · next sequence hsequences =>
        simp only [returns_okOr_bind] at hreturns
        obtain ⟨bytes, hbytes, reserve, hreserve, hreturns⟩ := hreturns
        split at hreturns
        · simp at hreturns
        · next hsequence =>
            split at hreturns
            · simp at hreturns
            · next huid =>
                exact ⟨source, sequence, bytes, reserve, hsource, hsequences, hsequence, hbytes,
                  hreserve, huid⟩
    · simp at hreturns
  · rintro ⟨source, sequence, bytes, reserve, hsource, hsequences, hsequence, hbytes, hreserve,
      huid⟩
    refine ⟨source, hsource, ?_⟩
    simp [hsequences, hbytes, hreserve, hsequence, huid]

/-! ## Elements and bodies -/

theorem projectField_returns_iff {decode : List UInt8 → Except MessageDecodeError (Option Segment)}
    {readable : List UInt8 → Prop} (hdecode : ∀ bytes, Returns (decode bytes) ↔ readable bytes)
    (field : Option (List UInt8)) :
    Returns (projectField decode field) ↔ ∀ bytes, field = some bytes → readable bytes := by
  cases field with
  | none => simp [projectField]
  | some bytes => simp [projectField, hdecode]

/-- All eleven projections return exactly when every field is readable. -/
theorem projections_return_iff {element : ElementWire} :
    (∀ projection ∈ projections wire element, Returns projection) ↔
      ReadableFields wire element := by
  simp only [projections, List.forall_mem_cons, List.not_mem_nil, false_imp_iff, implies_true,
    and_true, projectField_returns_iff fun _ => decodeText_returns_iff,
    projectField_returns_iff fun _ => decodeFace_returns_iff,
    projectField_returns_iff fun _ => decodeMarketFace_returns_iff,
    projectField_returns_iff fun _ => decodeCommon_returns_iff,
    projectField_returns_iff fun _ => decodeDirectImage_returns_iff,
    projectField_returns_iff fun _ => decodeGroupFile_returns_iff,
    projectField_returns_iff fun _ => decodeGroupImage_returns_iff,
    projectField_returns_iff fun _ => decodeVideo_returns_iff,
    projectField_returns_iff fun _ => decodeRichMessage_returns_iff,
    projectField_returns_iff fun _ => decodeLightApp_returns_iff,
    projectField_returns_iff fun _ => decodeSource_returns_iff]
  constructor
  · rintro ⟨htext, hface, hmarketFace, hcommon, hdirectImage, htransfer, hgroupImage, hvideo,
      hrichMessage, hlightApp, hsource⟩
    exact ⟨htext, hface, hmarketFace, hcommon, hdirectImage, htransfer, hgroupImage, hvideo,
      hrichMessage, hlightApp, hsource⟩
  · intro hfields
    exact ⟨hfields.text, hfields.face, hfields.marketFace, hfields.common, hfields.directImage,
      hfields.transfer, hfields.groupImage, hfields.video, hfields.richMessage, hfields.lightApp,
      hfields.source⟩

theorem decodeElement_returns_iff :
    Returns (decodeElement wire input) ↔ ReadableElement wire input := by
  unfold decodeElement ReadableElement
  split
  · next hempty => simp [hempty]
  · next hnonempty =>
      simp only [hnonempty, false_or, okOr_eq_ok_iff, returns_bind_iff, returns_pure, and_true,
        exists_ok_iff, returns_mapM_iff, id_eq, projections_return_iff]

/-- The decoder accepts exactly the readable bodies. -/
theorem decodeRichText_returns_iff :
    Returns (decodeRichText wire input) ↔ ReadableRichText wire input := by
  have hbody : Returns (decodeRichText wire input) ↔
      (input ≠ [] ∧ input.length ≤ maxRichTextLen) ∧
        ∃ rich, wire.richText input = some rich ∧ (rich.elements.length ≤ maxElements ∧
          ∀ encoded ∈ rich.elements, encoded.length ≤ maxElementLen) ∧
          ∀ encoded ∈ rich.elements, ReadableElement wire encoded := by
    simp only [decodeRichText, returns_bind_iff, okOr_eq_ok_iff, returns_pure, and_true,
      exists_and_right, exists_ok_iff, returns_require_iff, returns_mapM_iff,
      decodeElement_returns_iff, Bool.and_eq_true, decide_eq_true_eq, List.all_eq_true]
  rw [hbody]
  constructor
  · rintro ⟨⟨hne, hlength⟩, rich, hrich, ⟨hfew, hshort⟩, hreadable⟩
    exact ⟨hne, hlength, rich, hrich, hfew,
      fun encoded hmem => ⟨hshort encoded hmem, hreadable encoded hmem⟩⟩
  · rintro ⟨hne, hlength, rich, hrich, hfew, helements⟩
    exact ⟨⟨hne, hlength⟩, rich, hrich, ⟨hfew, fun encoded hmem => (helements encoded hmem).1⟩,
      fun encoded hmem => (helements encoded hmem).2⟩

end Fields

end Message
end Lirvena
