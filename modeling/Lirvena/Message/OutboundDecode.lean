import Lirvena.Message.RichTextSchema

/-!
# Reading back what was compiled

The decoder of rich text given the elements of a request.  An element of one part
has one projection, so that each segment is read back as one segment; what the
decoder normalizes is in `decodedSegment`.  `compiled_decodes` is about whole
requests: the decoder reads them exactly when they are within its bounds.
-/

namespace Lirvena
namespace Message

open Lib Lib.Protobuf

/-! ## Expected segments -/

/-- The lower-case spelling of an identifier. -/
def lowercase (text : String) : String :=
  String.ofList (text.toList.map Char.toLower)

/-- A segment as the decoder reads it: the user `all` is everyone, the identifier of
a market face is spelled in lower case, and a JSON card may stand for a location or
a forward. -/
def decodedSegment (wire : RichTextWire) : OutboundSegment → Segment
  | .text value => .text value
  | .mentionEveryone display => .mention ⟨display, .everyone⟩
  | .mention uin uid display =>
      .mention ⟨display, if uid = "all" then .everyone else .account uin.toNat⟩
  | .face id => .face ⟨id.toNat, .standard⟩
  | .animatedFace id => .face ⟨id.toNat, .animated⟩
  | .markdown content => .markdown content
  | .marketFace emojiId packageId key summary =>
      .marketFace ⟨lowercase emojiId, packageId, key, summary⟩
  | .poke kind strength => .poke ⟨kind.toNat, strength.toNat⟩
  | .json body => projectLightApp wire body
  | _ => .unsupported

/-- The segments that are covered, with the range of their numbers. -/
def Covered : OutboundSegment → Prop
  | .text _ | .mentionEveryone _ | .mention _ _ _ | .face _ | .animatedFace _ | .markdown _
  | .poke _ _ | .json _ => True
  | .marketFace _ packageId _ _ => FitsInt32 packageId
  | _ => False

/-! ## Elements of one part -/

section Parts

variable {out : OutboundWire} {wire : RichTextWire}

theorem encodeMessage_ne_nil {fields : List Field} (hfields : fields ≠ []) :
    Protobuf.encodeMessage fields ≠ [] := by
  obtain ⟨field, rest, rfl⟩ := List.exists_cons_of_ne_nil hfields
  intro hempty
  rw [Protobuf.encodeMessage, List.flatMap_cons] at hempty
  have hkey := (List.append_eq_nil_iff.mp (List.append_eq_nil_iff.mp hempty).1).1
  exact (isVarint_encodeVarint _).ne_nil hkey

theorem decodeElement_single {encoded : List UInt8} {element : ElementWire} {segment : Segment}
    (hencoded : encoded ≠ []) (hread : wire.element encoded = some element) (before after : Nat)
    (hprojections : projections wire element =
      List.replicate before (.ok none) ++ .ok (some segment) :: List.replicate after (.ok none)) :
    decodeElement wire encoded = .ok { segment := segment, encoded := encoded } := by
  have hnone (count : Nat) : (List.replicate count (Except.ok none :
      Except MessageDecodeError (Option Segment))).mapM id = .ok (List.replicate count none) := by
    induction count with
    | zero => rfl
    | succ count ih =>
        rw [List.replicate_succ, List.mapM_cons, ih]
        rfl
  have hall : (projections wire element).mapM id =
      .ok (List.replicate before none ++ some segment :: List.replicate after none) := by
    rw [hprojections, List.mapM_append, hnone, List.mapM_cons, hnone]
    rfl
  have honly : (List.replicate before none ++ some segment :: List.replicate after none).filterMap
      id = [segment] := by
    simp [List.filterMap_append]
  rw [decodeElement, if_neg hencoded, hread]
  refine bind_eq_ok_iff.mpr ⟨element, rfl, bind_eq_ok_iff.mpr ⟨_, hall, ?_⟩⟩
  rw [honly]
  rfl

theorem lt_u64Bound {length : Nat} (hshort : length ≤ maxRichTextLen) : length < u64Bound :=
  Nat.lt_of_le_of_lt hshort (by decide)

/-- A part is read where its element is. -/
theorem part_length {number : Nat} {bytes : List UInt8} {element : ElementOut}
    (hmem : ⟨number, .lengthDelimited bytes⟩ ∈ element.fields)
    (hlength : (elementBytes element).length < u64Bound) : bytes.length < u64Bound :=
  Nat.lt_of_le_of_lt (length_le_encodeMessage hmem) hlength

/-- An element whose only projection is a segment. -/
theorem decodeElement_part (hlossless : Lossless out wire) {element : ElementOut}
    {segment : Segment} (before after : Nat) (hfields : element.fields ≠ [])
    (hlength : (elementBytes element).length < u64Bound)
    (hprojections : projections wire (elementWire element) =
      List.replicate before (.ok none) ++ .ok (some segment) :: List.replicate after (.ok none)) :
    decodeElement wire (elementBytes element) =
      .ok { segment := segment, encoded := elementBytes element } :=
  decodeElement_single (encodeMessage_ne_nil hfields) (element_reads hlossless hlength) before
    after hprojections

theorem decodeElement_text (hlossless : Lossless out wire) {text : TextOut} {segment : Segment}
    (hlength : (elementBytes { text := some text }).length < u64Bound)
    (hdecode : (Protobuf.encodeMessage text.fields).length < u64Bound →
      decodeText wire (Protobuf.encodeMessage text.fields) = .ok (some segment)) :
    decodeElement wire (elementBytes { text := some text }) =
      .ok { segment := segment, encoded := elementBytes { text := some text } } := by
  have hpart := hdecode (part_length List.mem_cons_self hlength)
  refine decodeElement_part hlossless 0 10 (List.cons_ne_nil _ _) hlength ?_
  simp only [projections, elementWire, partBytes, Option.map_some, Option.map_none, projectField,
    hpart]
  rfl

theorem decodeElement_common (hlossless : Lossless out wire) {common : CommonOut}
    {segment : Segment} (hlength : (elementBytes { common := some common }).length < u64Bound)
    (hdecode : (Protobuf.encodeMessage common.fields).length < u64Bound →
      decodeCommon wire (Protobuf.encodeMessage common.fields) = .ok (some segment)) :
    decodeElement wire (elementBytes { common := some common }) =
      .ok { segment := segment, encoded := elementBytes { common := some common } } := by
  have hpart := hdecode (part_length List.mem_cons_self hlength)
  refine decodeElement_part hlossless 3 7 (List.cons_ne_nil _ _) hlength ?_
  simp only [projections, elementWire, partBytes, Option.map_some, Option.map_none, projectField,
    hpart]
  rfl

/-! ## Segments -/

theorem validDisplay_text {display : String} (hvalid : validDisplay display = true) :
    validText display maxTextLen = true := by
  simp only [validDisplay, Bool.and_eq_true, decide_eq_true_eq] at hvalid
  have hsize : display.utf8ByteSize ≤ maxTextLen := Nat.le_trans hvalid.1.2 (by decide)
  simp [validText, hsize, hvalid.2]

/-- A uid without control characters has no NUL. -/
theorem boundedUid_text {uid : String} (hvalid : boundedUid 128 uid = true) :
    validText uid maxUserLen = true := by
  simp only [boundedUid, Bool.and_eq_true, decide_eq_true_eq, hasControl, Bool.not_eq_true',
    List.any_eq_false] at hvalid
  have hnul : containsNul uid = false := by
    rw [containsNul, List.any_eq_false]
    intro char hchar hzero
    refine hvalid.2 char hchar ?_
    simp [isControl, beq_iff_eq.mp hzero]
  have hsize : uid.utf8ByteSize ≤ maxUserLen := hvalid.1.2
  simp [validText, hsize, hnul]

theorem mentionTarget_account {uin : UInt32} {uid : String} (huin : uin ≠ 0) :
    mentionTarget ⟨2, uin.toNat, uid⟩ none =
      if uid = "all" then .everyone else .account uin.toNat := by
  have hnonzero : uin.toNat ≠ 0 := fun hzero => huin (UInt32.toNat_inj.mp hzero)
  simp [mentionTarget, hnonzero]

theorem decodeText_plain (hlossless : Lossless out wire) {value : String}
    (hvalid : validText value maxTextLen = true)
    (hlength : (Protobuf.encodeMessage (TextOut.fields ⟨value, none⟩)).length < u64Bound) :
    decodeText wire (Protobuf.encodeMessage (TextOut.fields ⟨value, none⟩)) =
      .ok (some (.text value)) := by
  rw [decodeText, text_reads hlossless hlength]
  refine bind_eq_ok_iff.mpr ⟨_, rfl, bind_eq_ok_iff.mpr ⟨(), require_eq_ok_iff.mpr hvalid, rfl⟩⟩

theorem decodeText_mention (hlossless : Lossless out wire) {display uid : String} {uin : UInt32}
    {kind : Int} (hkind : kind = 1 ∨ kind = 2) (hdisplay : validText display maxTextLen = true)
    (huid : validText uid maxUserLen = true)
    (hlength : (Protobuf.encodeMessage (TextOut.fields
      ⟨display, some (out.mentionExtra ⟨kind, uin, 0, uid⟩)⟩)).length < u64Bound) :
    decodeText wire (Protobuf.encodeMessage (TextOut.fields
        ⟨display, some (out.mentionExtra ⟨kind, uin, 0, uid⟩)⟩)) =
      .ok (some (.mention ⟨display, mentionTarget ⟨kind, uin.toNat, uid⟩ none⟩)) := by
  have hfits : FitsInt32 kind := by
    rcases hkind with rfl | rfl <;> exact ⟨by decide, by decide⟩
  have hextra : wire.mention (out.mentionExtra ⟨kind, uin, 0, uid⟩) =
      some ⟨kind, uin.toNat, uid⟩ := by
    have hreserve := Nat.lt_of_le_of_lt
      (length_le_encodeMessage (List.mem_cons_of_mem _ List.mem_cons_self)) hlength
    exact mention_reads hlossless hfits hreserve
  rw [decodeText, text_reads hlossless hlength]
  refine bind_eq_ok_iff.mpr ⟨_, rfl,
    bind_eq_ok_iff.mpr ⟨(), require_eq_ok_iff.mpr hdisplay, ?_⟩⟩
  have hmention : ((some (out.mentionExtra ⟨kind, uin, 0, uid⟩)).bind wire.mention).filter
      (fun mention => mention.mentionType = 1 ∨ mention.mentionType = 2) =
        some ⟨kind, uin.toNat, uid⟩ := by
    rw [Option.bind_some, hextra]
    simp [hkind]
  simp only [hmention]
  exact bind_eq_ok_iff.mpr ⟨(), require_eq_ok_iff.mpr huid, rfl⟩

theorem decodeFace_index (hlossless : Lossless out wire) {index : Nat} (hindex : index < 65536)
    (hlength : (Protobuf.encodeMessage (faceFields index)).length < u64Bound) :
    decodeFace wire (Protobuf.encodeMessage (faceFields index)) =
      .ok (some (.face ⟨index, .standard⟩)) := by
  rw [decodeFace, face_reads hlossless (by omega) hlength]
  simp [okOr, Option.filter]

/-- The dispatch of a common element on its service type. -/
theorem decodeCommon_body (hlossless : Lossless out wire) {serviceType : Int}
    {businessType : Nat} {body : List UInt8} (hservice : FitsInt32 serviceType)
    (hbusiness : businessType < 4294967296) (hbody : body ≠ [])
    (hlength : (Protobuf.encodeMessage
      (CommonOut.fields ⟨serviceType, body, businessType⟩)).length < u64Bound) :
    decodeCommon wire (Protobuf.encodeMessage
        (CommonOut.fields ⟨serviceType, body, businessType⟩)) =
      match commonFace wire serviceType body with
      | some face => .ok (some (.face face))
      | none =>
          if serviceType = 48 then decodeMedia wire businessType body
          else if serviceType = 45 ∧ businessType = 1 then
            (fun content => some (.markdown content)) <$> decodeMarkdown wire body
          else if serviceType = 2 then (fun poke => some (.poke poke)) <$> decodePoke wire body
          else .ok none := by
  rw [decodeCommon, common_reads hlossless hservice hbusiness hbody hlength]
  rfl

/-- The body of a common element is read where the element is. -/
theorem body_length_le {serviceType : Int} {businessType : Nat} {body : List UInt8}
    (hbody : body ≠ []) : body.length ≤ (Protobuf.encodeMessage
      (CommonOut.fields ⟨serviceType, body, businessType⟩)).length := by
  have hmem : ⟨2, .lengthDelimited body⟩ ∈ CommonOut.fields ⟨serviceType, body, businessType⟩ := by
    simp [CommonOut.fields, bytesField, hbody]
  exact length_le_encodeMessage hmem

theorem body_length {serviceType : Int} {businessType : Nat} {body : List UInt8} (hbody : body ≠ [])
    (hlength : (Protobuf.encodeMessage
      (CommonOut.fields ⟨serviceType, body, businessType⟩)).length < u64Bound) :
    body.length < u64Bound :=
  Nat.lt_of_le_of_lt (body_length_le hbody) hlength

theorem decompress_compress (hlossless : Lossless out wire) {body : String} {data : List UInt8}
    (hcompress : compress out body = .ok data) : decompress wire data = .ok body := by
  obtain ⟨_, hbody, hdeflate⟩ := bind_eq_ok_iff.mp hcompress
  obtain ⟨stream, hstream, hbound⟩ := bind_eq_ok_iff.mp hdeflate
  obtain ⟨_, hshort, hdata⟩ := bind_eq_ok_iff.mp hbound
  have hdata := Except.ok.inj hdata
  subst hdata
  have hbody := require_eq_ok_iff.mp hbody
  have hshort := require_eq_ok_iff.mp hshort
  have hsize : body.utf8ByteSize ≤ maxRichBytes := by
    simp only [Bool.and_eq_true, decide_eq_true_eq] at hbody
    exact hbody.1.2
  have hfits : (utf8Bytes body).length ≤ maxRichBytes + 1 := by
    rw [utf8Bytes_length]
    omega
  obtain ⟨hstreamEmpty, hinflate⟩ :=
    hlossless.inflate body stream _ (okOr_eq_ok_iff.mp hstream) hfits
  have hlength := List.length_pos_iff.mpr hstreamEmpty
  refine bind_eq_ok_iff.mpr ⟨(), require_eq_ok_iff.mpr ?_, ?_⟩
  · simp only [decide_eq_true_eq] at hshort
    simp only [List.length_cons, Bool.and_eq_true, decide_eq_true_eq, beq_self_eq_true, and_true]
    omega
  refine bind_eq_ok_iff.mpr ⟨utf8Bytes body, okOr_eq_ok_iff.mpr hinflate, ?_⟩
  refine bind_eq_ok_iff.mpr ⟨(), require_eq_ok_iff.mpr ?_, ?_⟩
  · rw [utf8Bytes_length]
    exact decide_eq_true hsize
  have htext : fromUtf8 (utf8Bytes body) = some body := fromUtf8_eq_some_iff.mpr rfl
  refine bind_eq_ok_iff.mpr ⟨body, okOr_eq_ok_iff.mpr htext, ?_⟩
  exact bind_eq_ok_iff.mpr ⟨(), require_eq_ok_iff.mpr hbody, rfl⟩

/-! ### Market faces -/

theorem lowerHexDigit_hexValue {char : Char} (hhex : isHexDigit char = true) :
    hexValue char < 16 ∧ lowerHexDigit (hexValue char) = char.toLower ∧ char.utf8Size = 1 := by
  have hlisted : ∀ code : Nat, code < 128 → isHexDigit (Char.ofNat code) = true →
      hexValue (Char.ofNat code) < 16 ∧
        lowerHexDigit (hexValue (Char.ofNat code)) = (Char.ofNat code).toLower ∧
          (Char.ofNat code).utf8Size = 1 := by
    decide
  have hcode : char.toNat < 128 := by
    simp only [isHexDigit, Bool.or_eq_true, Bool.and_eq_true, decide_eq_true_eq] at hhex
    omega
  have hchar : Char.ofNat char.toNat = char := Char.ofNat_toNat char
  have hall := hlisted char.toNat hcode
  rw [hchar] at hall
  exact hall hhex

theorem hexPair_toLower {high low : Char} (hhigh : isHexDigit high = true)
    (hlow : isHexDigit low = true) :
    lowerHexDigit ((UInt8.ofNat (hexValue high * 16 + hexValue low)).toNat / 16) = high.toLower ∧
      lowerHexDigit ((UInt8.ofNat (hexValue high * 16 + hexValue low)).toNat % 16) =
        low.toLower := by
  obtain ⟨hhighValue, hhighDigit, -⟩ := lowerHexDigit_hexValue hhigh
  obtain ⟨hlowValue, hlowDigit, -⟩ := lowerHexDigit_hexValue hlow
  have hbyte : (UInt8.ofNat (hexValue high * 16 + hexValue low)).toNat =
      hexValue high * 16 + hexValue low := by
    rw [UInt8.toNat_ofNat']
    omega
  have hdiv : (hexValue high * 16 + hexValue low) / 16 = hexValue high := by omega
  have hmod : (hexValue high * 16 + hexValue low) % 16 = hexValue low := by omega
  rw [hbyte, hdiv, hmod]
  exact ⟨hhighDigit, hlowDigit⟩

/-- The bytes of an identifier are spelled as its lower-case digits. -/
theorem hexBytes_digits {chars : List Char} (hhex : ∀ char ∈ chars, isHexDigit char = true)
    (heven : chars.length % 2 = 0) :
    (hexBytes chars).flatMap (fun byte =>
        [lowerHexDigit (byte.toNat / 16), lowerHexDigit (byte.toNat % 16)]) =
      chars.map Char.toLower ∧ (hexBytes chars).length * 2 = chars.length := by
  induction chars using hexBytes.induct with
  | case1 high low rest ih =>
      obtain ⟨hhigh, hothers⟩ := List.forall_mem_cons.mp hhex
      obtain ⟨hlow, hrest⟩ := List.forall_mem_cons.mp hothers
      have hrestEven : rest.length % 2 = 0 := by
        rw [List.length_cons, List.length_cons] at heven
        omega
      obtain ⟨hdigits, hlength⟩ := ih hrest hrestEven
      obtain ⟨hfirst, hsecond⟩ := hexPair_toLower hhigh hlow
      rw [hexBytes]
      refine ⟨?_, ?_⟩
      · rw [List.flatMap_cons, hdigits, hfirst, hsecond]
        rfl
      · rw [List.length_cons, List.length_cons, List.length_cons]
        omega
  | case2 chars hshort =>
      cases chars with
      | nil => exact ⟨rfl, rfl⟩
      | cons first rest =>
          cases rest with
          | nil => cases heven
          | cons second others => exact absurd rfl (hshort first second others)

theorem utf8Len_hex {chars : List Char} (hhex : ∀ char ∈ chars, isHexDigit char = true) :
    Json.utf8Len chars = chars.length := by
  induction chars with
  | nil => rfl
  | cons char rest ih =>
      obtain ⟨hchar, hrest⟩ := List.forall_mem_cons.mp hhex
      rw [Json.utf8Len_cons, ih hrest, (lowerHexDigit_hexValue hchar).2.2, List.length_cons,
        Nat.add_comm]

/-- An accepted identifier has its bytes, which are spelled in lower case. -/
theorem decodeHex_lowercase {emojiId : String} {faceId : List UInt8}
    (hdecode : decodeHex emojiId = .ok faceId) :
    hexText lowerHexDigit faceId = lowercase emojiId ∧ faceId ≠ [] ∧ faceId.length * 2 ≤ 128 := by
  obtain ⟨_, hchecks, hbytes⟩ := bind_eq_ok_iff.mp hdecode
  have hbytes := Except.ok.inj hbytes
  subst hbytes
  have hchecks := require_eq_ok_iff.mp hchecks
  simp only [Bool.and_eq_true, decide_eq_true_eq, beq_iff_eq, List.all_eq_true] at hchecks
  obtain ⟨⟨⟨hne, hsize⟩, heven⟩, hhex⟩ := hchecks
  have hlength : emojiId.utf8ByteSize = emojiId.toList.length := by
    rw [← Json.utf8Len_toList, utf8Len_hex hhex]
  obtain ⟨hdigits, hcount⟩ := hexBytes_digits hhex (hlength ▸ heven)
  refine ⟨congrArg String.ofList hdigits, ?_, by omega⟩
  intro hempty
  rw [hempty, List.length_nil, Nat.zero_mul] at hcount
  exact hne (String.toList_eq_nil_iff.mp (List.length_eq_zero_iff.mp hcount.symm))

theorem decodeMarketFace_encode (hlossless : Lossless out wire) {emojiId key summary : String}
    {packageId : Int} {bytes : List UInt8} (hpackage : FitsInt32 packageId)
    (hencode : encodeMarketFace out emojiId packageId key summary = .ok bytes)
    (hlength : bytes.length < u64Bound) :
    decodeMarketFace wire bytes =
      .ok (some (.marketFace ⟨lowercase emojiId, packageId, key, summary⟩)) := by
  obtain ⟨faceId, hfaceId, hchecked⟩ := bind_eq_ok_iff.mp hencode
  obtain ⟨_, hchecks, hbytes⟩ := bind_eq_ok_iff.mp hchecked
  have hbytes := Except.ok.inj hbytes
  subst hbytes
  obtain ⟨hspelling, hne, hshort⟩ := decodeHex_lowercase hfaceId
  have hread := hlossless.marketFace _ hpackage hlength
  have hchecks := require_eq_ok_iff.mp hchecks
  refine bind_eq_ok_iff.mpr ⟨_, okOr_eq_ok_iff.mpr hread, ?_⟩
  refine bind_eq_ok_iff.mpr ⟨(), require_eq_ok_iff.mpr ?_, ?_⟩
  · simp only [Bool.and_eq_true, decide_eq_true_eq] at hchecks ⊢
    tauto
  · rw [← hspelling]
    rfl

/-! ### Common elements -/

theorem decodeCommon_standardFace (hlossless : Lossless out wire) {faceId : Nat}
    (hface : faceId < 65536) (hnonzero : faceId ≠ 0)
    (hlength : (Protobuf.encodeMessage
      (CommonOut.fields ⟨33, out.standardFace faceId, 1⟩)).length < u64Bound) :
    decodeCommon wire (Protobuf.encodeMessage
        (CommonOut.fields ⟨33, out.standardFace faceId, 1⟩)) =
      .ok (some (.face ⟨faceId, .standard⟩)) := by
  have hbody : out.standardFace faceId ≠ [] := by
    rw [hlossless.standardFace, standardFaceFields, varintField, if_neg hnonzero]
    exact encodeMessage_ne_nil (List.cons_ne_nil _ _)
  rw [decodeCommon_body hlossless ⟨by decide, by decide⟩ (by decide) hbody hlength, commonFace,
    if_pos rfl, standardFace_reads hlossless (by omega) (body_length hbody hlength)]
  rfl

theorem decodeElement_faceElement (hlossless : Lossless out wire) (id : UInt16)
    (hlength : (elementBytes (faceElement out id)).length < u64Bound) :
    decodeElement wire (elementBytes (faceElement out id)) = .ok {
      segment := .face ⟨id.toNat, .standard⟩, encoded := elementBytes (faceElement out id) } := by
  have hid : id.toNat < 65536 := id.toNat_lt
  unfold faceElement at hlength ⊢
  split at hlength
  · next hsmall =>
      rw [if_pos hsmall]
      have hpart := decodeFace_index hlossless hid (part_length List.mem_cons_self hlength)
      refine decodeElement_part hlossless 1 9 (List.cons_ne_nil _ _) hlength ?_
      simp only [projections, elementWire, partBytes, Option.map_some, Option.map_none,
        projectField, hpart]
      rfl
  · next hlarge =>
      have hnonzero : id.toNat ≠ 0 := by
        have hlow : 260 ≤ id.toNat := Nat.le_of_not_lt fun hless =>
          hlarge (UInt16.lt_iff_toNat_lt.mpr hless)
        exact Nat.ne_of_gt (Nat.lt_of_lt_of_le (by decide) hlow)
      rw [if_neg hlarge]
      exact decodeElement_common hlossless hlength
        (decodeCommon_standardFace hlossless hid hnonzero)

theorem decodeCommon_animatedFace (hlossless : Lossless out wire) (id : UInt16)
    (hnonzero : id.toNat ≠ 0)
    (hlength : (Protobuf.encodeMessage (CommonOut.fields ⟨37, out.animatedFace {
      stickerPackId := "1", stickerId := "8", faceId := id.toNat, fieldFour := 1
      stickerType := 1, fieldSix := "", preview := "", fieldNine := 1 }, 1⟩)).length < u64Bound) :
    decodeCommon wire (Protobuf.encodeMessage (CommonOut.fields ⟨37, out.animatedFace {
      stickerPackId := "1", stickerId := "8", faceId := id.toNat, fieldFour := 1
      stickerType := 1, fieldSix := "", preview := "", fieldNine := 1 }, 1⟩)) =
      .ok (some (.face ⟨id.toNat, .animated⟩)) := by
  have hid : id.toNat < 65536 := id.toNat_lt
  have hbody : out.animatedFace {
      stickerPackId := "1", stickerId := "8", faceId := id.toNat, fieldFour := 1
      stickerType := 1, fieldSix := "", preview := "", fieldNine := 1 } ≠ [] := by
    rw [hlossless.animatedFace]
    exact encodeMessage_ne_nil (List.cons_ne_nil _ _)
  have hsmall : id.toNat < 2147483648 := by omega
  have hface := animatedFace_reads hlossless hsmall hnonzero (body_length hbody hlength)
  rw [decodeCommon_body hlossless ⟨by decide, by decide⟩ (by decide) hbody hlength, commonFace,
    if_neg (by decide), if_pos rfl, hface]
  simp [Option.filter]

theorem decodeCommon_markdown (hlossless : Lossless out wire) {content : String}
    {body : List UInt8} (hencode : encodeMarkdown out content = .ok body)
    (hlength : (Protobuf.encodeMessage (CommonOut.fields ⟨45, body, 1⟩)).length < u64Bound) :
    decodeCommon wire (Protobuf.encodeMessage (CommonOut.fields ⟨45, body, 1⟩)) =
      .ok (some (.markdown content)) := by
  obtain ⟨_, hcontent, hbytes⟩ := bind_eq_ok_iff.mp hencode
  have hbytes := Except.ok.inj hbytes
  subst hbytes
  have hcontent := require_eq_ok_iff.mp hcontent
  have hne : content ≠ "" := by
    simp only [Bool.and_eq_true, decide_eq_true_eq] at hcontent
    exact hcontent.1.1
  -- An empty body would be read as the empty content.
  have hbody : out.markdown content ≠ [] := by
    intro hempty
    have hread := hlossless.markdown content (by rw [hempty]; decide)
    rw [hempty, hlossless.markdown_nil] at hread
    exact hne (congrArg MarkdownBodyWire.content (Option.some.inj hread)).symm
  have hread := hlossless.markdown content (body_length hbody hlength)
  have hmarkdown : decodeMarkdown wire (out.markdown content) = .ok content :=
    bind_eq_ok_iff.mpr ⟨_, okOr_eq_ok_iff.mpr hread,
      bind_eq_ok_iff.mpr ⟨(), require_eq_ok_iff.mpr hcontent, rfl⟩⟩
  rw [decodeCommon_body hlossless ⟨by decide, by decide⟩ (by decide) hbody hlength, commonFace,
    if_neg (by decide), if_neg (by decide)]
  simp only [hmarkdown]
  rfl

theorem decodeCommon_poke (hlossless : Lossless out wire) {kind strength : UInt32}
    (hkind : kind ≠ 0)
    (hshort : (Protobuf.encodeMessage
      (CommonOut.fields ⟨2, out.poke kind strength, kind.toNat⟩)).length ≤ maxRichTextLen) :
    decodeCommon wire (Protobuf.encodeMessage
        (CommonOut.fields ⟨2, out.poke kind strength, kind.toNat⟩)) =
      .ok (some (.poke ⟨kind.toNat, strength.toNat⟩)) := by
  have hnonzero : kind.toNat ≠ 0 := fun hzero => hkind (UInt32.toNat_inj.mp hzero)
  have hread := hlossless.poke kind strength
  have hbody : out.poke kind strength ≠ [] := by
    intro hempty
    rw [hempty, hlossless.poke_nil] at hread
    exact hnonzero (congrArg PokeWire.kind (Option.some.inj hread)).symm
  have hbodyShort : (out.poke kind strength).length ≤ maxRichBytes :=
    Nat.le_trans (body_length_le hbody) hshort
  have hpoke : decodePoke wire (out.poke kind strength) =
      .ok { kind := kind.toNat, strength := strength.toNat } := by
    refine bind_eq_ok_iff.mpr ⟨(), require_eq_ok_iff.mpr ?_, ?_⟩
    · simp [hbody, hbodyShort]
    · exact bind_eq_ok_iff.mpr ⟨_, okOr_eq_ok_iff.mpr hread,
        bind_eq_ok_iff.mpr ⟨(), require_eq_ok_iff.mpr (decide_eq_true hnonzero), rfl⟩⟩
  rw [decodeCommon_body hlossless ⟨by decide, by decide⟩ kind.toNat_lt hbody (lt_u64Bound hshort),
    commonFace, if_neg (by decide), if_neg (by decide)]
  simp only [hpoke]
  rfl

/-! ## One segment -/

/-- A segment is compiled to one element, which is read back as the segment. -/
theorem compileElement_reads (hlossless : Lossless out wire) {targetIsGroup : Bool}
    {segment : OutboundSegment} {result : Nat × List ElementOut}
    (hcompile : compileElement out targetIsGroup segment = .ok result)
    (hcovered : Covered segment) (htext : result.1 ≤ maxTextBytes)
    (hnul : ∀ value, segment = .text value → containsNul value = false) :
    ∃ element, result.2 = [element] ∧ ((elementBytes element).length ≤ maxRichTextLen →
      decodeElement wire (elementBytes element) =
        .ok { segment := decodedSegment wire segment, encoded := elementBytes element }) := by
  cases segment with
  | text value =>
      obtain ⟨_, -, hresult⟩ := bind_eq_ok_iff.mp hcompile
      have hresult := Except.ok.inj hresult
      subst hresult
      refine ⟨_, rfl, fun hshort => decodeElement_text hlossless (lt_u64Bound hshort)
        fun hpart => ?_⟩
      refine decodeText_plain hlossless ?_ hpart
      have hsize : value.utf8ByteSize ≤ maxTextLen := Nat.le_trans htext (by decide)
      simp [validText, hsize, hnul value rfl]
  | mentionEveryone display =>
      obtain ⟨_, hdisplay, hresult⟩ := bind_eq_ok_iff.mp hcompile
      have hresult := Except.ok.inj hresult
      subst hresult
      refine ⟨_, rfl, fun hshort => decodeElement_text hlossless (lt_u64Bound hshort)
        fun hpart => ?_⟩
      have hvalid := validDisplay_text (require_eq_ok_iff.mp hdisplay)
      exact decodeText_mention hlossless (.inl rfl) hvalid (by decide) hpart
  | mention uin uid display =>
      obtain ⟨_, hchecks, hresult⟩ := bind_eq_ok_iff.mp hcompile
      have hresult := Except.ok.inj hresult
      subst hresult
      have hchecks := require_eq_ok_iff.mp hchecks
      simp only [Bool.and_eq_true, decide_eq_true_eq] at hchecks
      obtain ⟨⟨huin, huid⟩, hdisplay⟩ := hchecks
      refine ⟨_, rfl, fun hshort => decodeElement_text hlossless (lt_u64Bound hshort)
        fun hpart => ?_⟩
      rw [decodeText_mention hlossless (.inr rfl) (validDisplay_text hdisplay)
        (boundedUid_text huid) hpart, mentionTarget_account huin]
      rfl
  | face id =>
      have hresult := Except.ok.inj hcompile
      subst hresult
      exact ⟨_, rfl, fun hshort => decodeElement_faceElement hlossless id (lt_u64Bound hshort)⟩
  | animatedFace id =>
      obtain ⟨_, hid, hresult⟩ := bind_eq_ok_iff.mp hcompile
      have hresult := Except.ok.inj hresult
      subst hresult
      have hnonzero : id.toNat ≠ 0 := by
        have hlow := UInt16.le_iff_toNat_le.mp (of_decide_eq_true (require_eq_ok_iff.mp hid))
        exact Nat.ne_of_gt (Nat.lt_of_lt_of_le (by decide) hlow)
      refine ⟨_, rfl, fun hshort => decodeElement_common hlossless (lt_u64Bound hshort)
        fun hpart => ?_⟩
      exact decodeCommon_animatedFace hlossless id hnonzero hpart
  | markdown content =>
      obtain ⟨body, hbody, hresult⟩ := bind_eq_ok_iff.mp hcompile
      have hresult := Except.ok.inj hresult
      subst hresult
      refine ⟨_, rfl, fun hshort => decodeElement_common hlossless (lt_u64Bound hshort)
        fun hpart => ?_⟩
      exact decodeCommon_markdown hlossless hbody hpart
  | marketFace emojiId packageId key summary =>
      obtain ⟨bytes, hbytes, hresult⟩ := bind_eq_ok_iff.mp hcompile
      have hresult := Except.ok.inj hresult
      subst hresult
      refine ⟨_, rfl, fun hshort => ?_⟩
      have hlength := lt_u64Bound hshort
      have hpart := decodeMarketFace_encode hlossless hcovered hbytes
        (part_length List.mem_cons_self hlength)
      refine decodeElement_part hlossless 2 8 (List.cons_ne_nil _ _) hlength ?_
      simp only [projections, elementWire, partBytes, Option.map_none, projectField, hpart]
      rfl
  | poke kind strength =>
      obtain ⟨_, hkind, hresult⟩ := bind_eq_ok_iff.mp hcompile
      have hresult := Except.ok.inj hresult
      subst hresult
      have hnonzero : kind ≠ 0 := of_decide_eq_true (require_eq_ok_iff.mp hkind)
      refine ⟨_, rfl, fun hshort => decodeElement_common hlossless (lt_u64Bound hshort)
        fun hpart => ?_⟩
      exact decodeCommon_poke hlossless hnonzero
        (Nat.le_trans (length_le_encodeMessage List.mem_cons_self) hshort)
  | json body =>
      obtain ⟨data, hdata, hresult⟩ := bind_eq_ok_iff.mp hcompile
      have hresult := Except.ok.inj hresult
      subst hresult
      refine ⟨_, rfl, fun hshort => ?_⟩
      have hlength := lt_u64Bound hshort
      have hpart : decodeLightApp wire (Protobuf.encodeMessage (lightAppFields data)) =
          .ok (some (projectLightApp wire body)) := by
        rw [decodeLightApp, lightApp_reads hlossless (part_length List.mem_cons_self hlength)]
        exact bind_eq_ok_iff.mpr ⟨_, rfl,
          bind_eq_ok_iff.mpr ⟨body, decompress_compress hlossless hdata, rfl⟩⟩
      refine decodeElement_part hlossless 9 1 (List.cons_ne_nil _ _) hlength ?_
      simp only [projections, elementWire, partBytes, Option.map_some, Option.map_none,
        projectField, hpart]
      rfl
  | _ => exact absurd hcovered id

/-! ## Whole requests -/

/-- An element that is read back as a segment, where it is short enough. -/
def ReadsAs (wire : RichTextWire) (segment : OutboundSegment) (element : ElementOut) : Prop :=
  (elementBytes element).length ≤ maxRichTextLen → decodeElement wire (elementBytes element) =
    .ok { segment := decodedSegment wire segment, encoded := elementBytes element }

theorem compileSegments_reads (hlossless : Lossless out wire) {targetIsGroup : Bool}
    {segments : List OutboundSegment} {produced : List (Nat × List ElementOut)}
    (hcompile : segments.mapM (compileElement out targetIsGroup) = .ok produced)
    (hcovered : ∀ segment ∈ segments, Covered segment)
    (htext : (produced.map Prod.fst).sum ≤ maxTextBytes)
    (hnul : ∀ value, .text value ∈ segments → containsNul value = false) :
    List.Forall₂ (ReadsAs wire) segments (produced.flatMap Prod.snd) := by
  induction segments generalizing produced with
  | nil =>
      have hproduced := Except.ok.inj hcompile
      subst hproduced
      exact .nil
  | cons segment rest ih =>
      rw [List.mapM_cons] at hcompile
      obtain ⟨result, hresult, hothers⟩ := bind_eq_ok_iff.mp hcompile
      obtain ⟨results, hresults, hproduced⟩ := bind_eq_ok_iff.mp hothers
      have hproduced := Except.ok.inj hproduced
      subst hproduced
      rw [List.map_cons, List.sum_cons] at htext
      obtain ⟨element, helement, hreads⟩ := compileElement_reads hlossless hresult
        (hcovered segment List.mem_cons_self) (by omega)
        (fun value hvalue => hnul value (hvalue ▸ List.mem_cons_self))
      have hrest := ih hresults
        (fun other hother => hcovered other (List.mem_cons_of_mem segment hother)) (by omega)
        (fun value hvalue => hnul value (List.mem_cons_of_mem segment hvalue))
      rw [List.flatMap_cons, helement]
      exact .cons hreads hrest

theorem decodeElements_segments {segments : List OutboundSegment} {elements : List ElementOut}
    (hreads : List.Forall₂ (ReadsAs wire) segments elements)
    (hshort : ∀ element ∈ elements, (elementBytes element).length ≤ maxRichTextLen) :
    ∃ decoded, (elements.map elementBytes).mapM (decodeElement wire) = .ok decoded ∧
      decoded.map RichTextElement.segment = segments.map (decodedSegment wire) := by
  induction hreads with
  | nil => exact ⟨[], rfl, rfl⟩
  | @cons segment element _ _ hreads hrest ih =>
      obtain ⟨hfirst, hothers⟩ := List.forall_mem_cons.mp hshort
      obtain ⟨decoded, hdecoded, hsegments⟩ := ih hothers
      refine ⟨⟨decodedSegment wire segment, elementBytes element⟩ :: decoded, ?_, ?_⟩
      · rw [List.map_cons, List.mapM_cons, hreads hfirst, hdecoded]
        rfl
      · rw [List.map_cons, List.map_cons, hsegments]

/-- The bounds of the decoder on a body and on each of its elements. -/
def WithinBounds (elements : List ElementOut) : Prop :=
  (richTextBytes elements).length ≤ maxRichTextLen ∧
    ∀ element ∈ elements, (elementBytes element).length ≤ maxElementLen

/-- The decoder accepts what was compiled exactly within its bounds. -/
theorem decodeRichText_iff (hlossless : Lossless out wire) {elements : List ElementOut}
    {decoded : List RichTextElement} (hcount : 1 ≤ elements.length ∧ elements.length ≤ maxElements)
    (hdecoded : WithinBounds elements →
      (elements.map elementBytes).mapM (decodeElement wire) = .ok decoded)
    (message : RichTextMessage) :
    decodeRichText wire (richTextBytes elements) = .ok message ↔
      WithinBounds elements ∧
        message = { elements := decoded, attributes := none, file := none, voice := none } := by
  have hread := fun hbody : (richTextBytes elements).length ≤ maxRichTextLen =>
    richText_reads hlossless (lt_u64Bound hbody)
  have hnonempty : richTextBytes elements ≠ [] := by
    refine encodeMessage_ne_nil fun hempty => ?_
    rw [List.map_eq_nil_iff.mp hempty] at hcount
    exact absurd hcount.1 (by decide)
  constructor
  · intro hmessage
    obtain ⟨_, hbody, hrich⟩ := bind_eq_ok_iff.mp hmessage
    obtain ⟨rich, hparsed, hbounds⟩ := bind_eq_ok_iff.mp hrich
    obtain ⟨_, helements, hdecode⟩ := bind_eq_ok_iff.mp hbounds
    obtain ⟨found, hfound, hresult⟩ := bind_eq_ok_iff.mp hdecode
    have hbody := require_eq_ok_iff.mp hbody
    simp only [Bool.and_eq_true, decide_eq_true_eq] at hbody
    have hrich := Option.some.inj ((hread hbody.2).symm.trans (okOr_eq_ok_iff.mp hparsed))
    subst hrich
    have helements := require_eq_ok_iff.mp helements
    simp only [Bool.and_eq_true, decide_eq_true_eq, List.all_eq_true, List.forall_mem_map]
      at helements
    have hwithin : WithinBounds elements := ⟨hbody.2, helements.2⟩
    have hsame : found = decoded := Except.ok.inj (hfound.symm.trans (hdecoded hwithin))
    exact ⟨hwithin, hsame ▸ (Except.ok.inj hresult).symm⟩
  · rintro ⟨hwithin, rfl⟩
    refine bind_eq_ok_iff.mpr ⟨(), require_eq_ok_iff.mpr ?_, ?_⟩
    · simp [hnonempty, hwithin.1]
    refine bind_eq_ok_iff.mpr ⟨_, okOr_eq_ok_iff.mpr (hread hwithin.1), ?_⟩
    refine bind_eq_ok_iff.mpr ⟨(), require_eq_ok_iff.mpr ?_, ?_⟩
    · simp only [Bool.and_eq_true, decide_eq_true_eq, List.all_eq_true, List.forall_mem_map,
        List.length_map]
      exact ⟨hcount.2, hwithin.2⟩
    · exact bind_eq_ok_iff.mpr ⟨decoded, hdecoded hwithin, rfl⟩

section Requests

variable {targetIsGroup : Bool} {segments : List OutboundSegment} {elements : List ElementOut}

theorem compiled_reads (hlossless : Lossless out wire)
    (hcompile : compileElements out targetIsGroup segments = .ok elements)
    (hcovered : ∀ segment ∈ segments, Covered segment)
    (hnul : ∀ value, .text value ∈ segments → containsNul value = false) :
    List.Forall₂ (ReadsAs wire) segments elements ∧
      1 ≤ elements.length ∧ elements.length ≤ maxElements := by
  obtain ⟨_, hcount, hproduced⟩ := bind_eq_ok_iff.mp hcompile
  obtain ⟨produced, hmap, hsum⟩ := bind_eq_ok_iff.mp hproduced
  obtain ⟨_, htext, helements⟩ := bind_eq_ok_iff.mp hsum
  have helements := Except.ok.inj helements
  subst helements
  have htext := of_decide_eq_true (require_eq_ok_iff.mp htext)
  have hcount := require_eq_ok_iff.mp hcount
  simp only [Bool.and_eq_true, decide_eq_true_eq] at hcount
  have hreads := compileSegments_reads hlossless hmap hcovered htext hnul
  have hlength := hreads.length_eq
  have hlimit : maxOutboundElements ≤ maxElements := by decide
  exact ⟨hreads, by omega, by omega⟩

/-- What the decoder makes of a request. -/
theorem compiled_message_iff (hlossless : Lossless out wire)
    (hcompile : compileElements out targetIsGroup segments = .ok elements)
    (hcovered : ∀ segment ∈ segments, Covered segment)
    (hnul : ∀ value, .text value ∈ segments → containsNul value = false) :
    ∃ decoded, (WithinBounds elements →
        decoded.map RichTextElement.segment = segments.map (decodedSegment wire)) ∧
      ∀ message, decodeRichText wire (richTextBytes elements) = .ok message ↔
        WithinBounds elements ∧
          message = { elements := decoded, attributes := none, file := none, voice := none } := by
  obtain ⟨hreads, hcount⟩ := compiled_reads hlossless hcompile hcovered hnul
  by_cases hwithin : WithinBounds elements
  · obtain ⟨decoded, hdecoded, hsegments⟩ := decodeElements_segments hreads
      fun element helement => Nat.le_trans (hwithin.2 element helement) (by decide)
    exact ⟨decoded, fun _ => hsegments, decodeRichText_iff hlossless hcount fun _ => hdecoded⟩
  · exact ⟨[], fun hbounds => absurd hbounds hwithin,
      decodeRichText_iff hlossless hcount fun hbounds => absurd hbounds hwithin⟩

/-- A request of covered segments, without NUL in its texts, is read exactly when it
is within the decoder's bounds, and then each segment is read back. -/
theorem compiled_decodes (hlossless : Lossless out wire)
    (hcompile : compileElements out targetIsGroup segments = .ok elements)
    (hcovered : ∀ segment ∈ segments, Covered segment)
    (hnul : ∀ value, .text value ∈ segments → containsNul value = false) :
    ((∃ message, decodeRichText wire (richTextBytes elements) = .ok message) ↔
        WithinBounds elements) ∧
      ∀ message, decodeRichText wire (richTextBytes elements) = .ok message →
        message.elements.map RichTextElement.segment = segments.map (decodedSegment wire) := by
  obtain ⟨decoded, hsegments, hiff⟩ := compiled_message_iff hlossless hcompile hcovered hnul
  refine ⟨⟨?_, fun hwithin => ⟨_, (hiff _).mpr ⟨hwithin, rfl⟩⟩⟩, fun message hmessage => ?_⟩
  · rintro ⟨message, hmessage⟩
    exact ((hiff message).mp hmessage).1
  · obtain ⟨hwithin, rfl⟩ := (hiff message).mp hmessage
    exact hsegments hwithin

end Requests

end Parts

/-! ## A library that follows the schema -/

open Classical in
/-- The decoder that reads the fields of a message, and nothing else. -/
noncomputable def decodeBy {α : Type} (read : List Field → Option α) (bytes : List UInt8) :
    Option α :=
  if hreads : ∃ fields, MessageReads bytes fields then read hreads.choose else none

theorem decodesBy_decodeBy {α : Type} (read : List Field → Option α) :
    DecodesBy (decodeBy read) read := by
  intro bytes fields hfields
  have hreads : ∃ fields, MessageReads bytes fields := ⟨fields, hfields⟩
  rw [decodeBy, dif_pos hreads, messageReads_unique hreads.choose_spec hfields]

def MarketFaceOut.fields (face : MarketFaceOut) : List Field :=
  bytesField 1 (utf8Bytes face.summary) ++ (enumField 2 face.itemType ++ (enumField 3 face.info ++
    (bytesField 4 face.faceId ++ (enumField 5 face.packageId ++ (enumField 6 face.subtype ++
      (bytesField 7 (utf8Bytes face.key) ++ (enumField 10 face.width ++
        (enumField 11 face.height ++ [messageField 13 (enumField 8 face.reserveField8)]))))))))

def readMarketFace (fields : List Field) : Option MarketFaceWire := do
  let summary ← singularField WireValue.asString "" 1 fields
  let faceId ← singularField WireValue.asBytes [] 4 fields
  let packageId ← singularField WireValue.asInt32 0 5 fields
  let key ← singularField WireValue.asString "" 7 fields
  return { summary := summary, faceId := faceId, packageId := packageId, key := key }

def readMarkdown (fields : List Field) : Option MarkdownBodyWire := do
  let content ← singularField WireValue.asString "" 1 fields
  return { content := content }

def readPoke (fields : List Field) : Option PokeWire := do
  let kind ← singularField WireValue.asUInt32 0 1 fields
  let strength ← singularField WireValue.asUInt32 0 7 fields
  return { kind := kind, strength := strength }

/-- The card of a forward. -/
def forwardCard : String :=
  "\x7b\"app\":\"com.tencent.multimsg\",\"meta\":\x7b\"detail\":\x7b\"resid\":\"r\"\x7d\x7d\x7d"

/-- The zlib stream of the card. -/
def forwardStream : List UInt8 :=
  [120, 218, 171, 86, 74, 44, 40, 80, 178, 82, 74, 206, 207, 213, 43, 73, 205, 75, 78, 205, 43,
    209, 203, 45, 205, 41, 201, 204, 45, 78, 87, 210, 81, 202, 77, 45, 73, 84, 178, 170, 86, 74,
    1, 210, 153, 57, 32, 86, 81, 106, 113, 102, 10, 80, 67, 145, 82, 109, 109, 45, 0, 166, 207,
    21, 119]

def schemaOut : OutboundWire where
  message := fun request => richTextBytes request.elements
  mentionExtra := fun extra => Protobuf.encodeMessage extra.fields
  standardFace := fun faceId => Protobuf.encodeMessage (standardFaceFields faceId)
  animatedFace := fun face => Protobuf.encodeMessage face.fields
  marketFace := fun face => Protobuf.encodeMessage face.fields
  markdown := fun content => Protobuf.encodeMessage (bytesField 1 (utf8Bytes content))
  poke := fun kind strength =>
    Protobuf.encodeMessage (varintField 1 kind.toNat ++ varintField 7 strength.toNat)
  keyboard := fun _ => []
  sourceReserve := fun _ _ => []
  parseKeyboard := fun _ => none
  deflate := fun text => if text = forwardCard then some forwardStream else none
  coordinate := fun _ => none
  sendResponse := fun _ => none

noncomputable def schemaWire : RichTextWire where
  richText := decodeBy readRichText
  element := decodeBy readElement
  source := fun _ => none
  sourceReserve := fun _ => none
  richMessage := fun _ => none
  lightApp := decodeBy readLightApp
  directImage := fun _ => none
  groupImage := fun _ => none
  video := fun _ => none
  text := decodeBy readText
  face := decodeBy readFace
  common := decodeBy readCommon
  mention := decodeBy readMention
  standardFace := decodeBy readStandardFace
  animatedFace := decodeBy readAnimatedFace
  marketFace := decodeBy readMarketFace
  mediaInfo := fun _ => none
  transfer := fun _ => none
  groupFileExtra := fun _ => none
  markdown := decodeBy readMarkdown
  poke := decodeBy readPoke
  inflate := fun _ stream =>
    if stream = forwardStream then some (utf8Bytes forwardCard) else none
  json := fun text =>
    if text = forwardCard then
      some (.object [("app", .string "com.tencent.multimsg"),
        ("meta", .object [("detail", .object [("resid", .string "r")])])])
    else none
  messageResource := fun _ => none

theorem readMarketFace_fields {face : MarketFaceOut} (hpackage : FitsInt32 face.packageId) :
    readMarketFace face.fields =
      some ⟨face.summary, face.faceId, face.packageId, face.key⟩ := by
  have hsummary : singularField WireValue.asString "" 1 face.fields = some face.summary :=
    singularField_string (by simp [MarketFaceOut.fields, messageField])
  have hfaceId : singularField WireValue.asBytes [] 4 face.fields = some face.faceId :=
    singularField_bytes (by simp [MarketFaceOut.fields, messageField])
  have hpackageId : singularField WireValue.asInt32 0 5 face.fields = some face.packageId :=
    singularField_int32 hpackage (by simp [MarketFaceOut.fields, messageField])
  have hkey : singularField WireValue.asString "" 7 face.fields = some face.key :=
    singularField_string (by simp [MarketFaceOut.fields, messageField])
  simp only [readMarketFace, hsummary, hfaceId, hpackageId, hkey]
  rfl

theorem writable_marketFace (face : MarketFaceOut) : Writable face.fields := by
  have hint {number : Nat} (hnumber : number < 2 ^ 61) (value : Int) :
      Writable (enumField number value) := writable_enumField hnumber value
  have hbytes {number : Nat} (hnumber : number < 2 ^ 61) (bytes : List UInt8) :
      Writable (bytesField number bytes) := writable_bytesField hnumber bytes
  exact (hbytes (by decide) _).append ((hint (by decide) _).append ((hint (by decide) _).append
    ((hbytes (by decide) _).append ((hint (by decide) _).append ((hint (by decide) _).append
      ((hbytes (by decide) _).append ((hint (by decide) _).append ((hint (by decide) _).append
        (writable_nil.cons (writable_bytes (by decide) _))))))))))

theorem readPoke_fields (kind strength : UInt32) :
    readPoke (varintField 1 kind.toNat ++ varintField 7 strength.toNat) =
      some ⟨kind.toNat, strength.toNat⟩ := by
  have hkind : singularField WireValue.asUInt32 0 1
      (varintField 1 kind.toNat ++ varintField 7 strength.toNat) = some kind.toNat :=
    singularField_uint32 kind.toNat_lt (by simp)
  have hstrength : singularField WireValue.asUInt32 0 7
      (varintField 1 kind.toNat ++ varintField 7 strength.toNat) = some strength.toNat :=
    singularField_uint32 strength.toNat_lt (by simp)
  simp only [readPoke, hkind, hstrength]
  rfl

theorem poke_length_lt (kind strength : UInt32) :
    (Protobuf.encodeMessage (varintField 1 kind.toNat ++ varintField 7 strength.toNat)).length <
      u64Bound := by
  have hkind : messageLen (varintField 1 kind.toNat) ≤ 4 + 2 :=
    messageLen_varintField_le (by decide) (Nat.lt_trans kind.toNat_lt (by decide))
  have hstrength : messageLen (varintField 7 strength.toNat) ≤ 4 + 2 :=
    messageLen_varintField_le (by decide) (Nat.lt_trans strength.toNat_lt (by decide))
  have hsum := messageLen_append (varintField 1 kind.toNat) (varintField 7 strength.toNat)
  have hbound : 12 < u64Bound := by decide
  unfold messageLen at *
  omega

theorem schema_lossless : Lossless schemaOut schemaWire where
  mentionExtra := fun _ => rfl
  standardFace := fun _ => rfl
  animatedFace := fun _ => rfl
  readsRichText := decodesBy_decodeBy _
  readsElement := decodesBy_decodeBy _
  readsText := decodesBy_decodeBy _
  readsFace := decodesBy_decodeBy _
  readsCommon := decodesBy_decodeBy _
  readsLightApp := decodesBy_decodeBy _
  readsMention := decodesBy_decodeBy _
  readsStandardFace := decodesBy_decodeBy _
  readsAnimatedFace := decodesBy_decodeBy _
  marketFace := fun face hpackage hlength =>
    ((decodesBy_decodeBy readMarketFace).encodeMessage (writable_marketFace face) hlength).trans
      (readMarketFace_fields hpackage)
  markdown := fun content hlength => by
    have hread : readMarkdown (bytesField 1 (utf8Bytes content)) = some ⟨content⟩ := by
      simp only [readMarkdown, singularField_string rfl]
      rfl
    exact ((decodesBy_decodeBy readMarkdown).encodeMessage
      (writable_bytesField (by decide) _) hlength).trans hread
  poke := fun kind strength => by
    have hwritable : Writable (varintField 1 kind.toNat ++ varintField 7 strength.toNat) :=
      (writable_varintField (by decide) (Nat.lt_trans kind.toNat_lt (by decide))).append
        (writable_varintField (by decide) (Nat.lt_trans strength.toNat_lt (by decide)))
    exact ((decodesBy_decodeBy readPoke).encodeMessage hwritable
      (poke_length_lt kind strength)).trans (readPoke_fields kind strength)
  markdown_nil := decodesBy_decodeBy readMarkdown [] [] .nil
  poke_nil := decodesBy_decodeBy readPoke [] [] .nil
  inflate := fun text stream limit hdeflate _ => by
    have hcard : text = forwardCard ∧ forwardStream = stream := by
      simpa [schemaOut] using hdeflate
    obtain ⟨rfl, rfl⟩ := hcard
    have hinflate : schemaWire.inflate limit forwardStream = some (utf8Bytes forwardCard) := by
      simp [schemaWire]
    exact ⟨List.cons_ne_nil _ _, hinflate⟩

/-! ## Segments that are not read back with their values -/

/-- The segment of the same values. -/
def sameSegment : OutboundSegment → Segment
  | .text value => .text value
  | .mentionEveryone display => .mention ⟨display, .everyone⟩
  | .mention uin _ display => .mention ⟨display, .account uin.toNat⟩
  | .face id => .face ⟨id.toNat, .standard⟩
  | .animatedFace id => .face ⟨id.toNat, .animated⟩
  | .markdown content => .markdown content
  | .marketFace emojiId packageId key summary => .marketFace ⟨emojiId, packageId, key, summary⟩
  | .poke kind strength => .poke ⟨kind.toNat, strength.toNat⟩
  | .json body => .json body
  | _ => .unsupported

/-- A mention of the user `all`, a market face in upper case and a forward's card. -/
def normalizedSegments : List OutboundSegment :=
  [.mention 7 "all" "@member", .marketFace "0A" 1 "key" "face", .json forwardCard]

theorem normalizedSegments_compile : ∃ elements,
    compileElements schemaOut true normalizedSegments = .ok elements ∧ WithinBounds elements := by
  have hchecked : (match compileElements schemaOut true normalizedSegments with
      | .ok elements => decide ((richTextBytes elements).length ≤ maxRichTextLen) &&
          elements.all (fun element => decide ((elementBytes element).length ≤ maxElementLen))
      | .error _ => false) = true := by
    decide +kernel
  cases hcompile : compileElements schemaOut true normalizedSegments with
  | error error =>
      rw [hcompile] at hchecked
      cases hchecked
  | ok elements =>
      rw [hcompile] at hchecked
      exact ⟨elements, rfl, by simpa [WithinBounds] using hchecked⟩

theorem normalizedSegments_covered : ∀ segment ∈ normalizedSegments, Covered segment := by
  simp [normalizedSegments, Covered, FitsInt32]

theorem normalizedSegments_nul :
    ∀ value, .text value ∈ normalizedSegments → containsNul value = false := by
  simp [normalizedSegments]

theorem normalizedSegments_decoded : normalizedSegments.map (decodedSegment schemaWire) =
    [.mention ⟨"@member", .everyone⟩, .marketFace ⟨"0a", 1, "key", "face"⟩, .forward ⟨"r"⟩] := by
  have hface : lowercase "0A" = "0a" := by decide
  have hjson : schemaWire.json forwardCard = some (.object [
      ("app", .string "com.tencent.multimsg"),
      ("meta", .object [("detail", .object [("resid", .string "r")])])]) := by
    simp [schemaWire]
  have hcard : projectLightApp schemaWire forwardCard = .forward ⟨"r"⟩ := by
    rw [projectLightApp, hjson]
    rfl
  simp [normalizedSegments, decodedSegment, hface, hcard]

/-- None of the three is read back with its values. -/
theorem normalized_segments_differ : ∃ elements message,
    compileElements schemaOut true normalizedSegments = .ok elements ∧
      decodeRichText schemaWire (richTextBytes elements) = .ok message ∧
      message.elements.map RichTextElement.segment =
        [.mention ⟨"@member", .everyone⟩, .marketFace ⟨"0a", 1, "key", "face"⟩,
          .forward ⟨"r"⟩] ∧
      message.elements.map RichTextElement.segment ≠ normalizedSegments.map sameSegment := by
  obtain ⟨elements, hcompile, hwithin⟩ := normalizedSegments_compile
  obtain ⟨decoded, hsegments, hiff⟩ := compiled_message_iff schema_lossless hcompile
    normalizedSegments_covered normalizedSegments_nul
  have hdecoded := (hsegments hwithin).trans normalizedSegments_decoded
  refine ⟨elements, _, hcompile, (hiff _).mpr ⟨hwithin, rfl⟩, hdecoded, fun hsame => ?_⟩
  have hfirst : Segment.mention ⟨"@member", .everyone⟩ = .mention ⟨"@member", .account 7⟩ :=
    (List.cons.inj (hdecoded.symm.trans hsame)).1
  exact absurd hfirst (by decide)

/-- The three segments are decoded, each to what it stands for. -/
theorem compiled_decodes_normalized : ∃ elements,
    compileElements schemaOut true normalizedSegments = .ok elements ∧
      (∃ message, decodeRichText schemaWire (richTextBytes elements) = .ok message) ∧
      ∀ message, decodeRichText schemaWire (richTextBytes elements) = .ok message →
        message.elements.map RichTextElement.segment =
          normalizedSegments.map (decodedSegment schemaWire) := by
  obtain ⟨elements, hcompile, hwithin⟩ := normalizedSegments_compile
  obtain ⟨haccepts, hsegments⟩ := compiled_decodes schema_lossless hcompile
    normalizedSegments_covered normalizedSegments_nul
  exact ⟨elements, hcompile, haccepts.mpr hwithin, hsegments⟩

end Message
end Lirvena
