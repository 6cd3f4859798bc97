import Lirvena.Message.ForwardSchema
import Lirvena.Runtime.CompileSegments

/-!
# Merged forwards

A merged forward is uploaded as a batch with one entry for each node, and is read
back from a download of the batch.  Segments, entries, the batch and the response
are bounded each on its own, by the encoder and by the decoder.
`uploaded_forward_reads_back` says that the bounds fit: what was uploaded is read
back, node by node, if the response as a whole is within its limit.
-/

namespace Lirvena
namespace Runtime

open Lib
open Message
open OneBot
open Store

/-- The libraries behind the encoders and decoders. -/
structure ForwardCodec where
  out : OutboundWire
  richText : RichTextWire
  message : MessageWire
  long : LongMessageWire

/-! ## Upload -/

/-- The account, the recipient and the clock of an upload. -/
structure ForwardContext where
  uin : UInt64
  uid : String
  target : LongMessageTarget
  unixSeconds : Option UInt32
  /-- Two random numbers for each node, drawn as long as they are zero. -/
  draws : Nat → Option (UInt32 × UInt32)

def syntheticSequence (value : UInt32) : UInt32 :=
  value % 9000000 + 1000000

/-- One node, its segments and its entry. -/
structure UploadedEntry where
  node : ForwardNode
  compiled : List CompiledSegment
  bytes : List UInt8

/-- What an upload was made of, and the request that carries it. -/
structure ForwardUpload where
  entries : List UploadedEntry
  request : LongMessageSendRequest

def ForwardUpload.messages (upload : ForwardUpload) : List (List UInt8) :=
  upload.entries.map UploadedEntry.bytes

def entryInput (context : ForwardContext) (node : ForwardNode) (compiled : List CompiledSegment)
    (draws : UInt32 × UInt32) (unixSeconds : UInt32) : ForwardEntryInput where
  senderUin := node.userId
  senderName := node.nickname
  selfUid := context.uid
  segments := compiled.map CompiledSegment.borrowed
  random := draws.1
  sequence := syntheticSequence draws.2
  unixSeconds := unixSeconds

def uploadEntry (codec : ForwardCodec) (services : SegmentServices) (context : ForwardContext)
    (account unixSeconds : UInt32) (indexed : ForwardNode × Nat) :
    Except SegmentError UploadedEntry := do
  let compiled ← compileSegments services (.private account context.uid) [] indexed.1.content
  let draws ← okOr .qqFailure (context.draws indexed.2)
  let entry ← (encodeForwardEntry codec.out
    (entryInput context indexed.1 compiled draws unixSeconds)).mapError fun _ => .badParameters
  return { node := indexed.1, compiled := compiled, bytes := entry }

/-- `upload_forward` up to the request that is sent. -/
def uploadForward (codec : ForwardCodec) (services : SegmentServices) (context : ForwardContext)
    (messages : Option Json) : Except SegmentError ForwardUpload := do
  let messages ← okOr .badParameters messages
  let nodes ← (parseForwardNodes messages).mapError fun _ => .badParameters
  let account ← okOr .qqFailure (tryU32 context.uin.toNat)
  let unixSeconds ← okOr .qqFailure context.unixSeconds
  let entries ← nodes.zipIdx.mapM (uploadEntry codec services context account unixSeconds)
  let request ← (codec.long.longMessageSend context.target
    (entries.map UploadedEntry.bytes)).mapError fun _ => .badParameters
  return { entries := entries, request := request }

/-! ## Download -/

def nodeRichText (codec : ForwardCodec) (body : Option (List UInt8)) :
    Except SegmentError RichTextMessage := do
  let body ← okOr .qqFailure body
  let richText ← (decodeRichText codec.richText body).mapError fun _ => .qqFailure
  rejectIf .qqFailure (richText.elements = [])
  return richText

def projectNode (codec : ForwardCodec) (input : List UInt8) : Except SegmentError Json :=
  match (MessageDecoder.new.decodeEmbedded codec.message input).2 with
  | .ok (.new envelope) => do
      let richText ← nodeRichText codec envelope.payload.richText
      (projectForwardNode envelope (some richText)).mapError fun _ => .qqFailure
  | _ => .error .qqFailure

/-- `get_forward_msg` on the response of a download. -/
def forwardMessage (codec : ForwardCodec) (response : List UInt8) : Except SegmentError Json := do
  let messages ← (codec.long.parseLongMessageReceive response).mapError fun _ => .qqFailure
  let nodes ← messages.mapM (projectNode codec)
  return .ofFields [("message", .array nodes)]

/-! ## Segments that are read back -/

/-- The kinds that are covered, with texts that have no NUL. -/
def CompiledSegment.InForward : CompiledSegment → Prop
  | .text value => containsNul value = false
  | .face _ | .markdown _ | .marketFace _ _ _ _ | .poke _ _ => True
  | _ => False

/-- A segment as a download repeats it.  A market face has the address of its picture,
and its identifier is spelled in lower case. -/
def CompiledSegment.returnedValue : CompiledSegment → Json
  | .marketFace emojiId packageId key summary =>
      segmentValue "mface" [
        ("url", .string (MarketFaceSegment.assetUrl
          ⟨lowercase emojiId, packageId, key, summary⟩)),
        ("emoji_package_id", .integer packageId), ("emoji_id", .string (lowercase emojiId)),
        ("key", .string key), ("summary", .string summary)]
  | segment => segment.onebotValue

/-- Protobuf and gzip lose nothing. -/
structure ForwardCodec.Lossless (codec : ForwardCodec) : Prop where
  richText : Message.Lossless codec.out codec.richText
  fields : codec.out.WritesFields
  entries : ReadsEntries codec.message
  long : codec.long.Lossless

section ReadBack

variable {codec : ForwardCodec} {services : SegmentServices} {context : ForwardContext}

theorem segmentJson_decoded {segment : CompiledSegment} (hforward : segment.InForward)
    {element : RichTextElement}
    (helement : element.segment = decodedSegment codec.richText segment.borrowed) :
    segmentJson element none = segment.returnedValue := by
  unfold segmentJson
  rw [helement]
  cases segment with
  | text | face | markdown | marketFace | poke => rfl
  | _ => exact absurd hforward id

theorem returned_values {segments : List CompiledSegment}
    (hforward : ∀ segment ∈ segments, segment.InForward) {decoded : List RichTextElement}
    (hdecoded : decoded.map RichTextElement.segment =
      (segments.map CompiledSegment.borrowed).map (decodedSegment codec.richText)) :
    decoded.map (fun element => segmentJson element none) =
      segments.map CompiledSegment.returnedValue := by
  induction segments generalizing decoded with
  | nil =>
      rw [List.map_eq_nil_iff.mp hdecoded]
      rfl
  | cons segment rest ih =>
      obtain ⟨hfirst, hothers⟩ := List.forall_mem_cons.mp hforward
      rw [List.map_cons, List.map_cons] at hdecoded
      obtain ⟨element, elements, rfl, helement, helements⟩ := List.map_eq_cons_iff.mp hdecoded
      rw [List.map_cons, List.map_cons, ih hothers helements, segmentJson_decoded hfirst helement]

/-- A segment whose package number, if it is a market face, fits its field. -/
def CompiledSegment.PackageFits (segment : CompiledSegment) : Prop :=
  ∀ emojiId packageId key summary, segment = .marketFace emojiId packageId key summary →
    Protobuf.FitsInt32 packageId

theorem borrowed_covered {segment : CompiledSegment} (hforward : segment.InForward)
    (hpackage : segment.PackageFits) :
    segment.borrowed.InForward ∧ Covered segment.borrowed := by
  cases segment with
  | marketFace emojiId packageId key summary => exact ⟨trivial, hpackage _ _ _ _ rfl⟩
  | text | face | markdown | poke => exact ⟨trivial, trivial⟩
  | _ => exact absurd hforward id

theorem borrowed_text {segment : CompiledSegment} (hforward : segment.InForward) {value : String}
    (hvalue : segment.borrowed = .text value) : containsNul value = false := by
  cases segment with
  | text text =>
      cases hvalue
      exact hforward
  | _ => cases hvalue

/-- What the decoder of rich text makes of the segments of a node. -/
theorem nodeRichText_compiled (hlossless : codec.Lossless) {segments : List CompiledSegment}
    {elements : List ElementOut}
    (hcompile : compileElements codec.out false (segments.map CompiledSegment.borrowed) =
      .ok elements)
    (hforward : ∀ segment ∈ segments, segment.InForward)
    (hpackages : ∀ segment ∈ segments, segment.PackageFits)
    (hshort : (richTextBytes elements).length ≤ maxRichTextLen) :
    ∃ richText, nodeRichText codec (some (richTextBytes elements)) = .ok richText ∧
      richText.elements.map (fun element => segmentJson element none) =
        segments.map CompiledSegment.returnedValue := by
  have hborrowed : ∀ segment ∈ segments.map CompiledSegment.borrowed,
      segment.InForward ∧ Covered segment :=
    List.forall_mem_map.mpr fun segment hsegment =>
      borrowed_covered (hforward segment hsegment) (hpackages segment hsegment)
  have hcovered := fun segment hsegment => (hborrowed segment hsegment).2
  have hnul : ∀ value, .text value ∈ segments.map CompiledSegment.borrowed →
      containsNul value = false := by
    intro value hvalue
    obtain ⟨segment, hsegment, htext⟩ := List.mem_map.mp hvalue
    exact borrowed_text (hforward segment hsegment) htext
  have hwithin : WithinBounds elements :=
    ⟨hshort, compileElements_short hlossless.fields hcompile
      fun segment hsegment => (hborrowed segment hsegment).1⟩
  obtain ⟨decoded, hsegments, hdecodes⟩ :=
    compiled_message_iff hlossless.richText hcompile hcovered hnul
  have hvalues := returned_values hforward (hsegments hwithin)
  have hmessage := (hdecodes _).mpr ⟨hwithin, rfl⟩
  have hnonempty : decoded ≠ [] := by
    rintro rfl
    have hnone : segments = [] := List.map_eq_nil_iff.mp hvalues.symm
    subst hnone
    obtain ⟨⟨⟩, hlength, -⟩ := bind_eq_ok_iff.mp hcompile
    exact absurd (require_eq_ok_iff.mp hlength) (by decide)
  refine ⟨{ elements := decoded, attributes := none, file := none, voice := none }, ?_, hvalues⟩
  refine bind_eq_ok_iff.mpr ⟨richTextBytes elements, rfl, ?_⟩
  refine bind_eq_ok_iff.mpr ⟨_, mapError_eq_ok_iff.mpr hmessage, ?_⟩
  exact bind_eq_ok_iff.mpr ⟨(), rejectIf_eq_ok_iff.mpr hnonempty, rfl⟩

/-- An entry is shown with the number, the name and the segments of its node. -/
theorem projectNode_entry (hlossless : codec.Lossless) {account unixSeconds : UInt32}
    {indexed : ForwardNode × Nat} {entry : UploadedEntry}
    (hentry : uploadEntry codec services context account unixSeconds indexed = .ok entry)
    (haccepted : indexed.1.Accepted) (hshort : entry.bytes.length ≤ maxLongMessageBytes)
    (hforward : ∀ segment ∈ entry.compiled, segment.InForward) :
    projectNode codec entry.bytes = .ok (nodeValue entry.node.userId entry.node.nickname
      (entry.compiled.map CompiledSegment.returnedValue)) := by
  obtain ⟨compiled, hcompiled, hentry⟩ := bind_eq_ok_iff.mp hentry
  obtain ⟨draws, -, hentry⟩ := bind_eq_ok_iff.mp hentry
  obtain ⟨bytes, hbytes, hreturn⟩ := bind_eq_ok_iff.mp hentry
  cases hreturn
  obtain ⟨members, -, hcompiled⟩ := bind_eq_ok_iff.mp hcompiled
  have hpackages : ∀ segment ∈ compiled, segment.PackageFits := by
    rintro segment hsegment emojiId packageId key summary rfl
    obtain ⟨source, -, hstep⟩ := exists_of_mem_mapM hcompiled hsegment
    exact (compileSegment_packageId hstep).1
  obtain ⟨elements, helements, rfl, hdecode⟩ := decodeEmbedded_entry hlossless.entries
    (mapError_eq_ok_iff.mp hbytes) hshort haccepted.nickname_length
  have hbody := Nat.le_trans (richTextBytes_length_le _ elements) hshort
  obtain ⟨richText, hrich, hvalues⟩ := nodeRichText_compiled hlossless helements hforward hpackages
    hbody
  rw [projectNode, hdecode]
  refine bind_eq_ok_iff.mpr ⟨richText, hrich, mapError_eq_ok_iff.mpr ?_⟩
  refine bind_eq_ok_iff.mpr ⟨(), rejectIf_eq_ok_iff.mpr haccepted.userId, ?_⟩
  have hcontent : (elementsOf (some richText)).map (fun element => segmentJson element none) =
      compiled.map CompiledSegment.returnedValue := hvalues
  rw [hcontent]
  rfl

/-- The parts of an upload. -/
theorem uploadForward_parts {messages : Json} {upload : ForwardUpload}
    (hupload : uploadForward codec services context (some messages) = .ok upload) :
    ∃ nodes account unixSeconds, parseForwardNodes messages = .ok nodes ∧
      List.Forall₂ (fun indexed entry =>
        uploadEntry codec services context account unixSeconds indexed = .ok entry)
          nodes.zipIdx upload.entries ∧
        codec.long.longMessageSend context.target upload.messages = .ok upload.request := by
  obtain ⟨value, hvalue, hupload⟩ := bind_eq_ok_iff.mp hupload
  cases hvalue
  obtain ⟨nodes, hnodes, hupload⟩ := bind_eq_ok_iff.mp hupload
  obtain ⟨account, -, hupload⟩ := bind_eq_ok_iff.mp hupload
  obtain ⟨unixSeconds, -, hupload⟩ := bind_eq_ok_iff.mp hupload
  obtain ⟨entries, hentries, hupload⟩ := bind_eq_ok_iff.mp hupload
  obtain ⟨request, hrequest, hreturn⟩ := bind_eq_ok_iff.mp hupload
  cases hreturn
  exact ⟨nodes, account, unixSeconds, mapError_eq_ok_iff.mp hnodes,
    mapM_eq_ok_iff_forall₂.mp hentries, mapError_eq_ok_iff.mp hrequest⟩

theorem uploadEntry_parts {account unixSeconds : UInt32} {indexed : ForwardNode × Nat}
    {entry : UploadedEntry}
    (hentry : uploadEntry codec services context account unixSeconds indexed = .ok entry) :
    entry.node = indexed.1 ∧ compileSegments services (.private account context.uid) []
      entry.node.content = .ok entry.compiled := by
  obtain ⟨compiled, hcompiled, hentry⟩ := bind_eq_ok_iff.mp hentry
  obtain ⟨draws, -, hentry⟩ := bind_eq_ok_iff.mp hentry
  obtain ⟨bytes, -, hreturn⟩ := bind_eq_ok_iff.mp hentry
  cases hreturn
  exact ⟨rfl, hcompiled⟩

theorem entries_nodes {account unixSeconds : UInt32} {indexed : List (ForwardNode × Nat)}
    {entries : List UploadedEntry} (hentries : List.Forall₂ (fun indexed entry =>
      uploadEntry codec services context account unixSeconds indexed = .ok entry)
        indexed entries) : entries.map UploadedEntry.node = indexed.map Prod.fst := by
  induction hentries with
  | nil => rfl
  | cons hfirst _ ih => rw [List.map_cons, List.map_cons, (uploadEntry_parts hfirst).1, ih]

/-- Each entry belongs to a node that was parsed, and its segments to the node. -/
theorem uploaded_entries {messages : Json} {upload : ForwardUpload}
    (hupload : uploadForward codec services context (some messages) = .ok upload) :
    parseForwardNodes messages = .ok (upload.entries.map UploadedEntry.node) ∧
      ∃ account : UInt32, ∀ entry ∈ upload.entries,
        compileSegments services (.private account context.uid) [] entry.node.content =
          .ok entry.compiled := by
  obtain ⟨nodes, account, unixSeconds, hnodes, hentries, -⟩ := uploadForward_parts hupload
  have hsame := entries_nodes hentries
  rw [List.zipIdx_map_fst] at hsame
  refine ⟨hsame ▸ hnodes, account, fun entry hentry => ?_⟩
  obtain ⟨indexed, -, hstep⟩ :=
    exists_of_mem_mapM (mapM_eq_ok_iff_forall₂.mpr hentries) hentry
  exact (uploadEntry_parts hstep).2

theorem projectNode_uploaded (hlossless : codec.Lossless) {messages : Json}
    {upload : ForwardUpload}
    (hupload : uploadForward codec services context (some messages) = .ok upload)
    (hforward : ∀ entry ∈ upload.entries, ∀ segment ∈ entry.compiled, segment.InForward) :
    ∀ entry ∈ upload.entries, projectNode codec entry.bytes =
      .ok (nodeValue entry.node.userId entry.node.nickname
        (entry.compiled.map CompiledSegment.returnedValue)) := by
  obtain ⟨nodes, account, unixSeconds, hnodes, hentries, hsend⟩ := uploadForward_parts hupload
  have haccepted := parseForwardNodes_accepted hnodes
  have hshort := validateMessages_length (checked_of_send hsend).valid
  intro entry hentry
  obtain ⟨indexed, hindexed, hstep⟩ :=
    exists_of_mem_mapM (mapM_eq_ok_iff_forall₂.mpr hentries) hentry
  exact projectNode_entry hlossless hstep (haccepted _ (List.fst_mem_of_mem_zipIdx hindexed))
    (hshort _ (List.mem_map_of_mem hentry)) (hforward entry hentry)

theorem received_uploaded_iff (hlossless : codec.Lossless) {messages : Json}
    {upload : ForwardUpload}
    (hupload : uploadForward codec services context (some messages) = .ok upload)
    {response : List UInt8} (hcarries : codec.long.Carries response upload.request.payload) :
    codec.long.parseLongMessageReceive response = .ok upload.messages ↔
      response.length ≤ maxCompressedBytes := by
  obtain ⟨_, _, _, _, _, hsend⟩ := uploadForward_parts hupload
  exact parseLongMessageReceive_iff hlossless.long hsend hcarries

/-- The nodes of an upload, read back from a response that carries it.  The response
is accepted exactly within its limit, and each entry is shown as its node. -/
theorem uploaded_forward_reads_back (hlossless : codec.Lossless) {messages : Json}
    {upload : ForwardUpload}
    (hupload : uploadForward codec services context (some messages) = .ok upload)
    (hforward : ∀ entry ∈ upload.entries, ∀ segment ∈ entry.compiled, segment.InForward)
    {response : List UInt8} (hcarries : codec.long.Carries response upload.request.payload) :
    parseForwardNodes messages = .ok (upload.entries.map UploadedEntry.node) ∧
      (∃ account : UInt32, ∀ entry ∈ upload.entries,
        compileSegments services (.private account context.uid) [] entry.node.content =
          .ok entry.compiled) ∧
      (codec.long.parseLongMessageReceive response = .ok upload.messages ↔
        response.length ≤ maxCompressedBytes) ∧
      ∀ entry ∈ upload.entries, projectNode codec entry.bytes =
        .ok (nodeValue entry.node.userId entry.node.nickname
          (entry.compiled.map CompiledSegment.returnedValue)) := by
  obtain ⟨hnodes, hcompiled⟩ := uploaded_entries hupload
  exact ⟨hnodes, hcompiled, received_uploaded_iff hlossless hupload hcarries,
    projectNode_uploaded hlossless hupload hforward⟩

end ReadBack

/-! ## One node -/

/-- A node with a market face in upper case and a text. -/
def sampleNodes : Json :=
  .array [.object [
    ("data", .object [
      ("content", .array [
        .object [
          ("data", .object [("emoji_id", .string "0A"), ("emoji_package_id", .integer 1),
            ("key", .string "k"), ("summary", .string "face")]),
          ("type", .string "mface")],
        .object [("data", .object [("text", .string "hi")]), ("type", .string "text")]]),
      ("nickname", .string "Ann"), ("user_id", .string "42")]),
    ("type", .string "node")]]

def sampleSegments : List OutboundSegment :=
  [.marketFace "0A" 1 "k" "face", .text "hi"]

/-- The batch of the node. -/
def batchContent : List UInt8 :=
  [18, 238, 1, 10, 8, 77, 117, 108, 116, 105, 77, 115, 103, 18, 225, 1, 10, 222, 1, 10, 14, 8, 42,
    50, 3, 117, 95, 55, 58, 5, 50, 3, 65, 110, 110, 18, 157, 1, 8, 9, 16, 4, 24, 4, 32, 1, 40,
    193, 132, 61, 48, 10, 56, 1, 64, 0, 72, 0, 122, 134, 1, 8, 0, 16, 0, 24, 2, 34, 62, 104, 116,
    116, 112, 115, 58, 47, 47, 113, 46, 113, 108, 111, 103, 111, 46, 99, 110, 47, 104, 101, 97,
    100, 105, 109, 103, 95, 100, 108, 63, 100, 115, 116, 95, 117, 105, 110, 61, 52, 50, 38, 115,
    112, 101, 99, 61, 54, 52, 48, 38, 105, 109, 103, 95, 116, 121, 112, 101, 61, 106, 112, 103,
    42, 62, 104, 116, 116, 112, 115, 58, 47, 47, 113, 46, 113, 108, 111, 103, 111, 46, 99, 110,
    47, 104, 101, 97, 100, 105, 109, 103, 95, 100, 108, 63, 100, 115, 116, 95, 117, 105, 110, 61,
    52, 50, 38, 115, 112, 101, 99, 61, 54, 52, 48, 38, 105, 109, 103, 95, 116, 121, 112, 101, 61,
    106, 112, 103, 26, 44, 10, 42, 18, 32, 50, 30, 10, 4, 102, 97, 99, 101, 16, 6, 24, 1, 34, 1,
    10, 40, 1, 48, 3, 58, 1, 107, 80, 172, 2, 88, 172, 2, 106, 2, 64, 1, 18, 6, 10, 4, 10, 2, 104,
    105]

/-- The gzip stream of the batch. -/
def batchStream : List UInt8 :=
  [31, 139, 8, 0, 0, 0, 0, 0, 0, 255, 19, 122, 199, 200, 197, 225, 91, 154, 83, 146, 233, 91, 156,
    46, 244, 144, 145, 235, 30, 35, 23, 31, 135, 150, 17, 115, 105, 188, 185, 21, 171, 17, 179,
    99, 94, 158, 208, 92, 70, 14, 78, 1, 22, 9, 22, 5, 70, 141, 131, 45, 182, 6, 92, 22, 140, 14,
    12, 30, 12, 85, 109, 140, 28, 12, 2, 12, 18, 76, 74, 118, 25, 37, 37, 5, 197, 86, 250, 250,
    133, 122, 133, 57, 249, 233, 249, 122, 201, 121, 250, 25, 169, 137, 41, 153, 185, 233, 241,
    41, 57, 246, 41, 197, 37, 241, 165, 153, 121, 182, 38, 70, 106, 197, 5, 169, 201, 182, 102,
    38, 6, 106, 32, 169, 146, 202, 130, 84, 219, 172, 130, 116, 45, 10, 245, 75, 233, 112, 105, 9,
    41, 24, 201, 113, 177, 164, 37, 38, 167, 10, 176, 73, 48, 42, 49, 114, 105, 48, 26, 48, 91,
    49, 102, 7, 172, 97, 138, 88, 195, 148, 197, 228, 192, 40, 196, 198, 197, 194, 197, 148, 145,
    9, 0, 122, 17, 25, 235, 241, 0, 0, 0]

noncomputable def sampleCodec : ForwardCodec where
  out := schemaOut
  richText := schemaWire
  message := { push := fun _ => none, pushBody := decodeBy readPushBody, sha256 := fun _ => [] }
  long := schemaLong batchContent batchStream

/-- Services that refuse every question. -/
def noServices : SegmentServices where
  groupMembers := fun _ => .error .qqFailure
  uploadImage := fun _ _ => .error .qqFailure
  uploadRecord := fun _ _ => .error .qqFailure
  uploadVideo := fun _ _ => .error .qqFailure
  coordinate := fun _ _ _ => none

def sampleContext : ForwardContext where
  uin := 7
  uid := "u_7"
  target := .group 9
  unixSeconds := some 10
  draws := fun _ => some (1, 1)

theorem sampleCodec_lossless : sampleCodec.Lossless where
  richText := schema_lossless
  fields := {
    standardFace := fun _ => rfl
    marketFace := fun _ => rfl
    markdown := fun _ => rfl
    poke := fun _ _ => rfl }
  entries := decodesBy_readsEntries (decodesBy_decodeBy readPushBody)
  long := schemaLong_lossless batchContent batchStream

theorem sampleNodes_upload : ∃ upload,
    uploadForward sampleCodec noServices sampleContext (some sampleNodes) = .ok upload ∧
      upload.request.payload = batchStream ∧
      upload.entries.map (fun entry => entry.compiled.map CompiledSegment.borrowed) =
        [sampleSegments] := by
  have hchecked : (match uploadForward sampleCodec noServices sampleContext (some sampleNodes) with
      | .ok upload => decide (upload.request.payload = batchStream) &&
          decide (upload.entries.map (fun entry => entry.compiled.map CompiledSegment.borrowed) =
            [sampleSegments])
      | .error _ => false) = true := by
    decide +kernel
  cases hupload : uploadForward sampleCodec noServices sampleContext (some sampleNodes) with
  | error error =>
      rw [hupload] at hchecked
      cases hchecked
  | ok upload =>
      rw [hupload] at hchecked
      exact ⟨upload, rfl, by simpa using hchecked⟩

theorem borrowed_eq_marketFace {segment : CompiledSegment} {emojiId key summary : String}
    {packageId : Int} (hborrowed : segment.borrowed = .marketFace emojiId packageId key summary) :
    segment = .marketFace emojiId packageId key summary := by
  cases segment with
  | marketFace =>
      cases hborrowed
      rfl
  | _ => cases hborrowed

theorem borrowed_eq_text {segment : CompiledSegment} {value : String}
    (hborrowed : segment.borrowed = .text value) : segment = .text value := by
  cases segment with
  | text =>
      cases hborrowed
      rfl
  | _ => cases hborrowed

/-- The upload of the node has one entry, with the segments of the node. -/
theorem sampleNodes_entry {upload : ForwardUpload}
    (hsegments : upload.entries.map (fun entry => entry.compiled.map CompiledSegment.borrowed) =
      [sampleSegments]) :
    ∃ entry, upload.entries = [entry] ∧
      entry.compiled = [.marketFace "0A" 1 "k" "face", .text "hi"] := by
  obtain ⟨entry, rest, hentries, hentry, hrest⟩ := List.map_eq_cons_iff.mp hsegments
  obtain rfl := List.map_eq_nil_iff.mp hrest
  obtain ⟨face, others, hcompiled, hface, hothers⟩ := List.map_eq_cons_iff.mp hentry
  obtain ⟨text, none, rfl, htext, hnone⟩ := List.map_eq_cons_iff.mp hothers
  obtain rfl := List.map_eq_nil_iff.mp hnone
  rw [borrowed_eq_marketFace hface, borrowed_eq_text htext] at hcompiled
  exact ⟨entry, hentries, hcompiled⟩

theorem sampleNodes_forward {upload : ForwardUpload}
    (hsegments : upload.entries.map (fun entry => entry.compiled.map CompiledSegment.borrowed) =
      [sampleSegments]) :
    ∀ entry ∈ upload.entries, ∀ segment ∈ entry.compiled, segment.InForward := by
  obtain ⟨entry, hentries, hcompiled⟩ := sampleNodes_entry hsegments
  have hnul : containsNul "hi" = false := by decide
  rw [hentries, List.forall_mem_singleton, hcompiled]
  simpa [CompiledSegment.InForward] using hnul

/-- A response with the payload and with a field that no reader knows. -/
def paddedFields (padding : List UInt8) : List Protobuf.Field :=
  [Protobuf.messageField 1 (Protobuf.bytesField 4 batchStream), ⟨9, .lengthDelimited padding⟩]

def paddedResponse (padding : List UInt8) : List UInt8 :=
  Protobuf.encodeMessage (paddedFields padding)

theorem writable_padded (padding : List UInt8) : Protobuf.Writable (paddedFields padding) :=
  (Protobuf.writable_nil.cons (Protobuf.writable_bytes (by decide) _)).cons
    (Protobuf.writable_bytes (by decide) _)

theorem paddedResponse_length {padding : List UInt8}
    (hpadding : padding.length = maxCompressedBytes) :
    maxCompressedBytes < (paddedResponse padding).length ∧
      (paddedResponse padding).length < u64Bound := by
  have hpayload : (Protobuf.encodeMessage (Protobuf.bytesField 4 batchStream)).length = 202 := by
    decide +kernel
  have hroom : Protobuf.roomFor (paddedFields padding) = 20 + 202 + (20 + maxCompressedBytes) := by
    simp [paddedFields, Protobuf.messageField, Protobuf.Field.room, hpayload, hpadding]
  have hbound : 20 + 202 + (20 + maxCompressedBytes) < u64Bound := by decide
  constructor
  · have hfirst : 0 < (Protobuf.encodeMessage
        [Protobuf.messageField 1 (Protobuf.bytesField 4 batchStream)]).length :=
      List.length_pos_iff.mpr (encodeMessage_ne_nil (List.cons_ne_nil _ _))
    have hsecond : padding.length ≤
        (Protobuf.encodeMessage [⟨9, .lengthDelimited padding⟩]).length :=
      Protobuf.length_le_encodeMessage List.mem_cons_self
    have hsum := Protobuf.messageLen_append
      [Protobuf.messageField 1 (Protobuf.bytesField 4 batchStream)] [⟨9, .lengthDelimited padding⟩]
    have hlength : (paddedResponse padding).length = _ := hsum
    rw [hlength]
    unfold Protobuf.messageLen
    omega
  · exact Nat.lt_of_le_of_lt (Protobuf.encodeMessage_length_le (writable_padded padding)
      (hroom ▸ hbound)) (hroom ▸ hbound)

theorem paddedResponse_carries {padding : List UInt8}
    (hpadding : padding.length = maxCompressedBytes) :
    sampleCodec.long.Carries (paddedResponse padding) batchStream := by
  obtain ⟨-, hlength⟩ := paddedResponse_length hpadding
  have hnested := Protobuf.messageField_length_lt 1 List.mem_cons_self hlength
  have hread : readReceiveResponse (Protobuf.bytesField 4 batchStream) = some batchStream :=
    Protobuf.singularField_bytes rfl
  have hvalues : Protobuf.valuesOf 1 (paddedFields padding) =
      [.lengthDelimited (Protobuf.encodeMessage (Protobuf.bytesField 4 batchStream))] := by
    simp [paddedFields, Protobuf.messageField]
  have hreceive : Protobuf.optionalField (messageOf readReceiveResponse) 1 (paddedFields padding) =
      some (some batchStream) :=
    Protobuf.optionalField_some hvalues
      (messageOf_encodeMessage (Protobuf.writable_bytesField (by decide) _) hnested hread)
  have hsend : Protobuf.optionalField (messageOf readSendResponse) 2 (paddedFields padding) =
      some none :=
    Protobuf.optionalField_none (by simp [paddedFields, Protobuf.messageField])
  have hresponse : readLongMessageResponse (paddedFields padding) =
      some { receive := some batchStream, send := none } := by
    simp only [readLongMessageResponse, hreceive, hsend]
    rfl
  exact ⟨none, ((decodesBy_decodeBy readLongMessageResponse).encodeMessage
    (writable_padded padding) hlength).trans hresponse⟩

/-- The identifier of a market face comes back in lower case, and a response that is
too long is refused although it carries the payload. -/
theorem forward_reads_back_differently : ∃ upload entry content response,
    uploadForward sampleCodec noServices sampleContext (some sampleNodes) = .ok upload ∧
      upload.entries = [entry] ∧
      entry.compiled = [.marketFace "0A" 1 "k" "face", .text "hi"] ∧
      projectNode sampleCodec entry.bytes =
        .ok (nodeValue entry.node.userId entry.node.nickname content) ∧
      (content.head?.bind fun value => value.pointer ["data", "emoji_id"]) =
        some (.string "0a") ∧
      sampleCodec.long.Carries response upload.request.payload ∧
      sampleCodec.long.parseLongMessageReceive response ≠ .ok upload.messages := by
  obtain ⟨upload, hupload, hpayload, hsegments⟩ := sampleNodes_upload
  obtain ⟨entry, hentries, hcompiled⟩ := sampleNodes_entry hsegments
  have hprojected := projectNode_uploaded sampleCodec_lossless hupload
    (sampleNodes_forward hsegments) entry (by simp [hentries])
  have hpadding : (List.replicate maxCompressedBytes (0 : UInt8)).length = maxCompressedBytes :=
    List.length_replicate
  generalize List.replicate maxCompressedBytes (0 : UInt8) = padding at hpadding
  have hcarries : sampleCodec.long.Carries (paddedResponse padding) upload.request.payload := by
    rw [hpayload]
    exact paddedResponse_carries hpadding
  refine ⟨upload, entry, _, paddedResponse padding, hupload, hentries, hcompiled, hprojected, ?_,
    hcarries, fun hparse => ?_⟩
  · have hlower : lowercase "0A" = "0a" := by decide
    rw [hcompiled]
    simp [CompiledSegment.returnedValue, segmentValue, Json.ofFields, Json.pointer, Json.get,
      Json.lookup_insertField, hlower]
  · obtain ⟨hlong, -⟩ := paddedResponse_length hpadding
    exact absurd ((received_uploaded_iff sampleCodec_lossless hupload hcarries).mp hparse)
      (Nat.not_le_of_lt hlong)

/-- The node is read back with the identifier in lower case. -/
theorem sample_forward_reads_back : ∃ upload response,
    uploadForward sampleCodec noServices sampleContext (some sampleNodes) = .ok upload ∧
      sampleCodec.long.parseLongMessageReceive response = .ok upload.messages ∧
      ∀ entry ∈ upload.entries, projectNode sampleCodec entry.bytes =
        .ok (nodeValue entry.node.userId entry.node.nickname
          (entry.compiled.map CompiledSegment.returnedValue)) := by
  obtain ⟨upload, hupload, hpayload, hsegments⟩ := sampleNodes_upload
  have hlength : (receiveResponse batchStream).length ≤ maxCompressedBytes := by decide +kernel
  have hsmall : (receiveResponse batchStream).length < u64Bound :=
    Nat.lt_of_le_of_lt hlength (by decide)
  have hcarries : sampleCodec.long.Carries (receiveResponse batchStream)
      upload.request.payload := by
    rw [hpayload]
    exact schemaLong_carries hsmall
  obtain ⟨-, -, hreceived, hnodes⟩ := uploaded_forward_reads_back sampleCodec_lossless hupload
    (sampleNodes_forward hsegments) hcarries
  exact ⟨upload, _, hupload, hreceived.mpr hlength, hnodes⟩

end Runtime
end Lirvena
