import Lirvena.Ceylith.TopLevel
import Lirvena.Ceylith.ValidateInner

/-!
# Inner frames

A frame is validated before it is encoded.  A string is bounded, scanned, decoded
by the protobuf library and validated again.  The library merges the fields of a
message one after another into a default frame, so a string could denote a frame
that no single field of it shows; after the scan only one contract field and one
body field are left to merge.

The protobuf library is a parameter, and `Prost.Lawful` states what is documented
of it.
-/

namespace Lirvena
namespace Ceylith

open Lib Lib.Protobuf

/-- The protobuf library at the type of inner frames.  `mergeBody` merges the
bytes of a body field into the body that a frame holds. -/
structure Prost where
  encode : Proto.InnerFrame → Option (List UInt8)
  encodedLen : Proto.InnerFrame → Nat
  decode : List UInt8 → Option Proto.InnerFrame
  mergeBody : Nat → Option Proto.Body → List UInt8 → Option Proto.Body

/-- Encodes one structurally validated inner frame. -/
def encodeInnerFrame (prost : Prost) (sha256 : Sha256) (frame : Proto.InnerFrame)
    (limits : WireLimits) : Except CodecError (List UInt8) := do
  validateInner sha256 frame
  enforceLimit .innerFrame (prost.encodedLen frame) limits.innerFrame
  okOr .protobuf (prost.encode frame)

/-- Decodes exactly one structurally validated inner frame. -/
def decodeInnerFrame (prost : Prost) (sha256 : Sha256) (input : List UInt8)
    (limits : WireLimits) : Except CodecError Proto.InnerFrame := do
  enforceLimit .innerFrame input.length limits.innerFrame
  validateTopLevel input
  let frame ← okOr .protobuf (prost.decode input)
  validateInner sha256 frame
  return frame

/-! ## The library -/

/-- One field merged into a frame: the last contract stays, a body is merged by
its own type, and a field of an unknown number is skipped. -/
def Prost.mergeField (prost : Prost) (frame : Proto.InnerFrame) (field : Field) :
    Option Proto.InnerFrame :=
  if field.number = 1 then
    match field.value with
    | .varint value => some { frame with contract := UInt32.ofNat value }
    | _ => none
  else if knownBodyTag field.number = true then
    match field.value with
    | .lengthDelimited payload =>
        (prost.mergeBody field.number frame.body payload).map fun body =>
          { frame with body := some body }
    | _ => none
  else some frame

/-- The fields of a frame whose body is encoded as the given bytes; a contract of
zero is not written. -/
def fieldsOf (frame : Proto.InnerFrame) (payload : List UInt8) : List Field :=
  (if frame.contract = 0 then [] else [⟨1, .varint frame.contract.toNat⟩]) ++
    frame.body.toList.map fun body => ⟨body.tag, .lengthDelimited payload⟩

/-- What the library is documented to do: a message is decoded by merging its
fields, and a frame is encoded by its fields in their order. -/
structure Prost.Lawful (prost : Prost) : Prop where
  decode_merges : ∀ {input fields frame}, MessageReads input fields →
    prost.decode input = some frame →
    fields.foldlM prost.mergeField Proto.InnerFrame.default = some frame
  mergeBody_tag : ∀ {tag payload body}, prost.mergeBody tag none payload = some body →
    body.tag = tag
  encode_canonical : ∀ {frame bytes}, prost.encode frame = some bytes →
    bytes.length = prost.encodedLen frame ∧
      ∃ payload, bytes = encodeMessage (fieldsOf frame payload)
  decode_encode : ∀ {frame bytes}, prost.encode frame = some bytes →
    prost.decode bytes = some frame

/-! ## Merging the scanned fields -/

theorem inBodyRange_of_known {tag : Nat} (hknown : knownBodyTag tag = true) :
    InBodyRange tag := by
  have hall : ∀ known ∈ knownBodyTags, InBodyRange known := by decide
  exact hall tag (List.contains_iff_mem.mp hknown)

theorem Prost.mergeField_contract (prost : Prost) (frame : Proto.InnerFrame) :
    prost.mergeField frame contractField =
      some { frame with contract := UInt32.ofNat currentInnerContract } :=
  rfl

theorem Prost.mergeField_body (prost : Prost) (frame : Proto.InnerFrame) {field : Field}
    {payload : List UInt8} (hknown : knownBodyTag field.number = true)
    (hvalue : field.value = .lengthDelimited payload) :
    prost.mergeField frame field =
      (prost.mergeBody field.number frame.body payload).map fun body =>
        { frame with body := some body } := by
  simp only [mergeField, if_neg (inBodyRange_of_known hknown).ne_one, if_pos hknown, hvalue]

theorem Prost.mergeField_other (prost : Prost) (frame : Proto.InnerFrame) {field : Field}
    (hone : field.number ≠ 1) (hrange : ¬ InBodyRange field.number) :
    prost.mergeField frame field = some frame := by
  have hknown : ¬ knownBodyTag field.number = true :=
    fun hknown => hrange (inBodyRange_of_known hknown)
  simp only [mergeField, if_neg hone, if_neg hknown]

/-- What merging the expected fields makes of a frame. -/
structure Merged (prost : Prost) (scan : Scan) (fields : List Field)
    (frame final : Proto.InnerFrame) : Prop where
  contract : final.contract =
    if scan.contractSeen then frame.contract else UInt32.ofNat currentInnerContract
  kept : scan.bodySeen = true → final.body = frame.body
  body : scan.bodySeen = false → ∀ tag payload,
    fields.filter (InBodyRange ·.number) = [⟨tag, .lengthDelimited payload⟩] →
    ∃ body, prost.mergeBody tag frame.body payload = some body ∧ final.body = some body

theorem Expected.merged {prost : Prost} {scan : Scan} {fields : List Field}
    (hexpected : Expected scan fields) {frame final : Proto.InnerFrame}
    (hmerge : fields.foldlM prost.mergeField frame = some final) :
    Merged prost scan fields frame final := by
  induction fields generalizing scan frame with
  | nil =>
      obtain ⟨hcontract, hbody⟩ := expected_nil_iff.mp hexpected
      obtain rfl : frame = final := Option.some.inj hmerge
      exact {
        contract := by rw [if_pos hcontract]
        kept := fun _ => rfl
        body := fun _ tag payload hfields => by cases hfields }
  | cons field rest ih =>
      obtain ⟨after, hadmits, hbehind⟩ := hexpected.admits
      rw [List.foldlM_cons] at hmerge
      obtain ⟨next, hnext, hmerge⟩ := Option.bind_eq_some_iff.mp hmerge
      obtain ⟨hcontract, hkept, hbody⟩ := ih hbehind hmerge
      -- only the contract and the body field write the frame
      cases hadmits with
      | contract hseen hfield =>
          subst hfield
          rw [prost.mergeField_contract] at hnext
          cases hnext
          refine ⟨?_, hkept, ?_⟩
          · rw [hseen]
            exact hcontract
          · intro hnone tag payload hfields
            rw [List.filter_cons_of_neg (by decide)] at hfields
            exact hbody hnone tag payload hfields
      | @body _ held hrange hknown hseen hvalue =>
          rw [prost.mergeField_body frame hknown hvalue] at hnext
          obtain ⟨body, hmerged, rfl⟩ := Option.map_eq_some_iff.mp hnext
          refine ⟨hcontract, ?_, ?_⟩
          · intro hagain
            rw [hseen] at hagain
            cases hagain
          · intro _ tag payload hfields
            rw [List.filter_cons_of_pos (by simpa using hrange)] at hfields
            obtain ⟨rfl, -⟩ := List.cons.inj hfields
            obtain rfl : payload = held := WireValue.lengthDelimited.inj hvalue
            exact ⟨body, hmerged, hkept rfl⟩
      | other hzero hone hrange =>
          rw [prost.mergeField_other frame hone hrange] at hnext
          cases hnext
          refine ⟨hcontract, hkept, ?_⟩
          intro hnone tag payload hfields
          rw [List.filter_cons_of_neg (by simpa using hrange)] at hfields
          exact hbody hnone tag payload hfields

/-! ## Decoding -/

theorem WireLimits.innerFrame_lt (limits : WireLimits) : limits.innerFrame < u64Bound :=
  limits.innerFrame_le.trans_lt (by decide)

theorem decodeInnerFrame_eq_ok {prost : Prost} {sha256 : Sha256} {input : List UInt8}
    {limits : WireLimits} {frame : Proto.InnerFrame}
    (hdecode : decodeInnerFrame prost sha256 input limits = .ok frame) :
    input.length ≤ limits.innerFrame ∧ validateTopLevel input = .ok () ∧
      prost.decode input = some frame ∧ validateInner sha256 frame = .ok () := by
  obtain ⟨⟨⟩, hlimit, hdecode⟩ := bind_eq_ok_iff.mp hdecode
  obtain ⟨⟨⟩, hscan, hdecode⟩ := bind_eq_ok_iff.mp hdecode
  obtain ⟨decoded, hprost, hdecode⟩ := bind_eq_ok_iff.mp hdecode
  obtain ⟨⟨⟩, hvalid, hdecode⟩ := bind_eq_ok_iff.mp hdecode
  cases hdecode
  exact ⟨enforceLimit_eq_ok_iff.mp hlimit, hscan, okOr_eq_ok_iff.mp hprost, hvalid⟩

/-- The decoded frame is the one that the scanned fields show. -/
theorem decodeInnerFrame_scanned {prost : Prost} (hprost : prost.Lawful) {sha256 : Sha256}
    {input : List UInt8} {limits : WireLimits} {frame : Proto.InnerFrame}
    (hdecode : decodeInnerFrame prost sha256 input limits = .ok frame) :
    ∃ fields tag payload body, MessageReads input fields ∧
      (∀ field ∈ fields, field.number ≠ 0) ∧
      fields.filter (·.number = 1) = [⟨1, .varint currentInnerContract⟩] ∧
      fields.filter (InBodyRange ·.number) = [⟨tag, .lengthDelimited payload⟩] ∧
      knownBodyTag tag = true ∧ prost.mergeBody tag none payload = some body ∧
      body.tag = tag ∧ frame = ⟨UInt32.ofNat currentInnerContract, some body⟩ := by
  obtain ⟨hlimit, hscan, hdecoded, -⟩ := decodeInnerFrame_eq_ok hdecode
  have hinput : input.length < u64Bound := hlimit.trans_lt limits.innerFrame_lt
  obtain ⟨fields, hreads, hexpected⟩ := (validateTopLevel_eq_ok_iff hinput).mp hscan
  have hmerged := hexpected.merged (hprost.decode_merges hreads hdecoded)
  obtain ⟨tag, payload, hknown, hfields⟩ := hexpected.body
  obtain ⟨body, hbody, hframe⟩ := hmerged.body rfl tag payload hfields
  refine ⟨fields, tag, payload, body, hreads, hexpected.numbered, hexpected.contract, hfields,
    hknown, hbody, hprost.mergeBody_tag hbody, ?_⟩
  obtain ⟨contract, held⟩ := frame
  obtain rfl : held = some body := hframe
  have hcontract : contract = UInt32.ofNat currentInnerContract := hmerged.contract
  rw [hcontract]

/-! ## Encoding -/

theorem Body.knownBodyTag_tag (body : Proto.Body) : knownBodyTag body.tag = true := by
  cases body <;> rfl

theorem encodeInnerFrame_eq_ok {prost : Prost} {sha256 : Sha256} {frame : Proto.InnerFrame}
    {limits : WireLimits} {encoded : List UInt8}
    (hencode : encodeInnerFrame prost sha256 frame limits = .ok encoded) :
    validateInner sha256 frame = .ok () ∧ prost.encodedLen frame ≤ limits.innerFrame ∧
      prost.encode frame = some encoded := by
  obtain ⟨⟨⟩, hvalid, hencode⟩ := bind_eq_ok_iff.mp hencode
  obtain ⟨⟨⟩, hlimit, hencode⟩ := bind_eq_ok_iff.mp hencode
  exact ⟨hvalid, enforceLimit_eq_ok_iff.mp hlimit, okOr_eq_ok_iff.mp hencode⟩

theorem fieldsOf_current (body : Proto.Body) (payload : List UInt8) :
    fieldsOf ⟨UInt32.ofNat currentInnerContract, some body⟩ payload =
      [contractField, ⟨body.tag, .lengthDelimited payload⟩] :=
  rfl

/-- The two fields of a valid frame are expected. -/
theorem expected_fieldsOf (body : Proto.Body) (payload : List UInt8) :
    Expected ⟨0, false, false⟩
      (fieldsOf ⟨UInt32.ofNat currentInnerContract, some body⟩ payload) := by
  have hbody : Admits ⟨0, true, false⟩ ⟨body.tag, .lengthDelimited payload⟩ ⟨0, true, true⟩ :=
    .body (inBodyRange_of_known (Body.knownBodyTag_tag body)) (Body.knownBodyTag_tag body) rfl
      rfl
  have hcontract : Admits ⟨0, false, false⟩ contractField ⟨0, true, false⟩ :=
    .contract rfl rfl
  exact hcontract.expected (hbody.expected (expected_nil_iff.mpr ⟨rfl, rfl⟩))

/-- The canonical encoding of a valid frame is a message. -/
theorem messageReads_fieldsOf {body : Proto.Body} {payload bytes : List UInt8}
    (hbytes : bytes = encodeMessage
      (fieldsOf ⟨UInt32.ofNat currentInnerContract, some body⟩ payload))
    (hlength : bytes.length < u64Bound) :
    MessageReads bytes (fieldsOf ⟨UInt32.ofNat currentInnerContract, some body⟩ payload) := by
  have htag : body.tag ≤ maxBodyTag :=
    (inBodyRange_of_known (Body.knownBodyTag_tag body)).2
  have hpayload : payload.length ≤ bytes.length := by
    rw [hbytes]
    simp only [fieldsOf_current, encodeMessage, Field.encode, WireValue.encode,
      List.flatMap_cons, List.flatMap_nil, List.length_append]
    omega
  rw [hbytes]
  refine messageReads_encodeMessage fun field hfield => ?_
  rw [fieldsOf_current, List.mem_pair] at hfield
  rcases hfield with rfl | rfl
  · exact ⟨by decide, show currentInnerContract < 2 ^ 64 by decide⟩
  · exact ⟨htag.trans_lt (by decide), hpayload.trans_lt hlength⟩

/-- Every frame that is encoded is decoded again. -/
theorem decodeInnerFrame_encodeInnerFrame {prost : Prost} (hprost : prost.Lawful)
    {sha256 : Sha256} {frame : Proto.InnerFrame} {limits : WireLimits} {encoded : List UInt8}
    (hencode : encodeInnerFrame prost sha256 frame limits = .ok encoded) :
    decodeInnerFrame prost sha256 encoded limits = .ok frame := by
  obtain ⟨hvalid, hlimit, hencoded⟩ := encodeInnerFrame_eq_ok hencode
  obtain ⟨hlen, payload, hbytes⟩ := hprost.encode_canonical hencoded
  have hlength : encoded.length ≤ limits.innerFrame := hlen.trans_le hlimit
  have hinput : encoded.length < u64Bound := hlength.trans_lt limits.innerFrame_lt
  -- the canonical encoding consists of the two expected fields
  have hscan : validateTopLevel encoded = .ok () := by
    obtain ⟨body, rfl⟩ := validateInner_eq_ok hvalid
    exact (validateTopLevel_eq_ok_iff hinput).mpr
      ⟨_, messageReads_fieldsOf hbytes hinput, expected_fieldsOf body payload⟩
  have hdecoded := hprost.decode_encode hencoded
  refine bind_eq_ok_iff.mpr ⟨(), enforceLimit_eq_ok_iff.mpr hlength, ?_⟩
  refine bind_eq_ok_iff.mpr ⟨(), hscan, ?_⟩
  refine bind_eq_ok_iff.mpr ⟨frame, okOr_eq_ok_iff.mpr hdecoded, ?_⟩
  exact bind_eq_ok_iff.mpr ⟨(), hvalid, rfl⟩

/-- An accepted string has one contract field with the current version and one
length-delimited body field of a known number; any other field of it has a number
that an inner frame does not use.  The decoded frame is the one that these two
fields show, and every frame that is encoded is decoded again. -/
theorem innerFrames_unambiguous (prost : Prost) (hprost : prost.Lawful) (sha256 : Sha256)
    (limits : WireLimits) :
    (∀ input frame, decodeInnerFrame prost sha256 input limits = .ok frame →
      ∃ fields tag payload body, MessageReads input fields ∧
        (∀ others, MessageReads input others → others = fields) ∧
        fields.filter (·.number = 1) = [⟨1, .varint currentInnerContract⟩] ∧
        fields.filter (InBodyRange ·.number) = [⟨tag, .lengthDelimited payload⟩] ∧
        (∀ field ∈ fields, field.number ≠ 0) ∧ knownBodyTag tag = true ∧
        prost.mergeBody tag none payload = some body ∧ body.tag = tag ∧
        frame = ⟨UInt32.ofNat currentInnerContract, some body⟩) ∧
    ∀ frame encoded, encodeInnerFrame prost sha256 frame limits = .ok encoded →
      decodeInnerFrame prost sha256 encoded limits = .ok frame := by
  refine ⟨?_, fun frame encoded => decodeInnerFrame_encodeInnerFrame hprost⟩
  intro input frame hdecode
  obtain ⟨fields, tag, payload, body, hreads, hnumbered, hcontract, hbodies, hknown, hbody,
    htag, hframe⟩ := decodeInnerFrame_scanned hprost hdecode
  exact ⟨fields, tag, payload, body, hreads,
    fun others hothers => messageReads_unique hothers hreads, hcontract, hbodies, hnumbered,
    hknown, hbody, htag, hframe⟩

/-! ## A frame with metadata -/

def sampleFrame : Proto.InnerFrame :=
  ⟨4, some (.genericResult ⟨true, 0, []⟩)⟩

/-- The canonical encoding of `sampleFrame`. -/
def sampleBytes : List UInt8 :=
  [0x08, 0x04, 0x82, 0x01, 0x02, 0x08, 0x01]

/-- The same with a field of number 2 in front. -/
def metadataBytes : List UInt8 :=
  [0x10, 0x07] ++ sampleBytes

/-- The library on these strings. -/
def sampleProst : Prost where
  encode frame := if frame = sampleFrame then some sampleBytes else none
  encodedLen _ := 7
  decode input :=
    if input = sampleBytes ∨ input = metadataBytes then some sampleFrame else none
  mergeBody tag _ payload :=
    if tag = 16 ∧ payload = [0x08, 0x01] then some (.genericResult ⟨true, 0, []⟩) else none

/-- A hash that no body of `sampleFrame` asks for. -/
def sampleSha256 : Sha256 :=
  fun _ => ⟨List.replicate 32 0, rfl⟩

def sampleFields : List Field :=
  [contractField, ⟨16, .lengthDelimited [0x08, 0x01]⟩]

def metadataFields : List Field :=
  ⟨2, .varint 7⟩ :: sampleFields

theorem encodeMessage_metadataFields :
    encodeMessage sampleFields = sampleBytes ∧
      encodeMessage metadataFields = metadataBytes := by
  constructor <;> simp [encodeMessage, sampleFields, metadataFields, sampleBytes, metadataBytes,
    contractField, currentInnerContract, Field.encode, WireValue.encode, WireValue.wireType,
    encodeVarint]

theorem messageReads_metadataBytes :
    MessageReads sampleBytes sampleFields ∧ MessageReads metadataBytes metadataFields := by
  obtain ⟨hsample, hmetadata⟩ := encodeMessage_metadataFields
  have hnumber : Field.Fits ⟨2, .varint 7⟩ := ⟨by decide, show 7 < 2 ^ 64 by decide⟩
  have hcontract : contractField.Fits :=
    ⟨by decide, show currentInnerContract < 2 ^ 64 by decide⟩
  have hbody : Field.Fits ⟨16, .lengthDelimited [0x08, 0x01]⟩ :=
    ⟨by decide, show 2 < 2 ^ 64 by decide⟩
  rw [← hsample, ← hmetadata]
  refine ⟨messageReads_encodeMessage ?_, messageReads_encodeMessage ?_⟩
  · simp [sampleFields, hcontract, hbody]
  · simp [metadataFields, sampleFields, hnumber, hcontract, hbody]

theorem sampleProst_lawful : sampleProst.Lawful where
  decode_merges := by
    intro input fields frame hreads hdecode
    obtain ⟨hsample, hmetadata⟩ := messageReads_metadataBytes
    obtain ⟨hinput, hframe⟩ := Option.ite_none_right_eq_some.mp hdecode
    cases hframe
    rcases hinput with rfl | rfl
    · rw [messageReads_unique hreads hsample]
      rfl
    · rw [messageReads_unique hreads hmetadata]
      rfl
  mergeBody_tag := by
    intro tag payload body hmerge
    obtain ⟨⟨rfl, -⟩, hbody⟩ := Option.ite_none_right_eq_some.mp hmerge
    cases hbody
    rfl
  encode_canonical := by
    intro frame bytes hencode
    obtain ⟨rfl, hbytes⟩ := Option.ite_none_right_eq_some.mp hencode
    cases hbytes
    exact ⟨rfl, [0x08, 0x01], encodeMessage_metadataFields.1.symm⟩
  decode_encode := by
    intro frame bytes hencode
    obtain ⟨rfl, hbytes⟩ := Option.ite_none_right_eq_some.mp hencode
    cases hbytes
    rfl

theorem validateTopLevel_metadataBytes : validateTopLevel metadataBytes = .ok () := by
  have hother : Admits ⟨0, false, false⟩ ⟨2, .varint 7⟩ ⟨0, false, false⟩ :=
    .other (by decide) (by decide) (by decide)
  exact (validateTopLevel_eq_ok_iff (by decide)).mpr ⟨_, messageReads_metadataBytes.2,
    hother.expected (expected_fieldsOf (.genericResult ⟨true, 0, []⟩) [0x08, 0x01])⟩

/-- A third field may stand beside the contract and the body. -/
theorem metadata_accepted :
    sampleProst.Lawful ∧
      decodeInnerFrame sampleProst sampleSha256 metadataBytes .default = .ok sampleFrame ∧
      ¬ ∃ tag payload,
        MessageReads metadataBytes [contractField, ⟨tag, .lengthDelimited payload⟩] ∨
          MessageReads metadataBytes [⟨tag, .lengthDelimited payload⟩, contractField] := by
  refine ⟨sampleProst_lawful, ?_, ?_⟩
  · refine bind_eq_ok_iff.mpr ⟨(), rfl, ?_⟩
    exact bind_eq_ok_iff.mpr ⟨(), validateTopLevel_metadataBytes, rfl⟩
  · rintro ⟨tag, payload, hreads⟩
    have hmetadata := messageReads_metadataBytes.2
    rcases hreads with hreads | hreads
    · have hlength := congrArg List.length (messageReads_unique hreads hmetadata)
      cases hlength
    · have hlength := congrArg List.length (messageReads_unique hreads hmetadata)
      cases hlength

/-- The canonical encoding of a frame is decoded again, and shows it. -/
theorem innerFrames_unambiguous_sample :
    decodeInnerFrame sampleProst sampleSha256 sampleBytes .default = .ok sampleFrame ∧
      ∃ fields tag payload body, MessageReads sampleBytes fields ∧
        fields.filter (InBodyRange ·.number) = [⟨tag, .lengthDelimited payload⟩] ∧
        body.tag = tag ∧ sampleFrame = ⟨UInt32.ofNat currentInnerContract, some body⟩ := by
  obtain ⟨hdecode, hencode⟩ :=
    innerFrames_unambiguous sampleProst sampleProst_lawful sampleSha256 .default
  have hdecoded := hencode sampleFrame sampleBytes rfl
  obtain ⟨fields, tag, payload, body, hreads, -, -, hbodies, -, -, -, htag, hframe⟩ :=
    hdecode sampleBytes sampleFrame hdecoded
  exact ⟨hdecoded, fields, tag, payload, body, hreads, hbodies, htag, hframe⟩

end Ceylith
end Lirvena
