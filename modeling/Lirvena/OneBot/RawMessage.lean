import Lirvena.OneBot.Fragment

/-!
# The raw message

The raw message of an event is written element by element: text and mentions as
they are, every other element as a CQ code.  Only two parameters of a location are
escaped; `raw_message_reads_back` says for which messages a CQ parser reads the raw
message back.
-/

namespace Lirvena
namespace OneBot

open Lib
open Message

/-! ## Elements -/

def faceFragment (face : FaceSegment) : Fragment :=
  if face.kind = .animated ∧ face.id = 358 then .code "dice" []
  else if face.kind = .animated ∧ face.id = 359 then .code "rps" []
  else .code "face" [verbatim "id" (Json.decimalText face.id)]

def fragmentOf (element : RichTextElement) (replyId : Option UInt32) : Fragment :=
  match element.segment with
  | .text text => .text text
  | .mention mention => .text ("@" ++ mention.display)
  | .face face => faceFragment face
  | .marketFace _ => .code "mface" []
  | .image _ => .code "image" []
  | .video _ => .code "video" []
  | .voice _ => .code "record" []
  | .file _ => .code "file" []
  | .markdown _ => .code "markdown" []
  | .json _ => .code "json" []
  | .location location =>
      .code "location" [verbatim "lat" location.latitude, verbatim "lon" location.longitude,
        escaped "title" location.title, escaped "content" location.content]
  | .xml _ => .code "xml" []
  | .poke poke =>
      .code "poke" [verbatim "type" (Json.decimalText poke.kind),
        verbatim "strength" (Json.decimalText poke.strength)]
  | .reply _ =>
      match replyId with
      | none => .code "lirvena_unsupported" []
      | some id => .code "reply" [verbatim "id" (Json.decimalText id.toNat)]
  | .forward forward => .code "forward" [verbatim "id" forward.resourceId]
  | .unsupported => .code "lirvena_unsupported" []

theorem faceFragment_chars (face : FaceSegment) (element : RichTextElement)
    (replyId : Option UInt32) (hface : element.segment = .face face) :
    (rawSegment element replyId).toList = (faceFragment face).chars := by
  simp only [rawSegment, faceFragment, hface]
  by_cases hdice : face.kind = .animated ∧ face.id = 358
  · simp [if_pos hdice, Fragment.chars, codeChars, codeStart]
  by_cases hrps : face.kind = .animated ∧ face.id = 359
  · simp [if_neg hdice, if_pos hrps, Fragment.chars, codeChars, codeStart]
  · simp [if_neg hdice, if_neg hrps, Fragment.chars, codeChars, codeStart, CqParameter.chars,
      CqParameter.written, verbatim]

/-- An element is written as its fragment. -/
theorem rawSegment_toList (element : RichTextElement) (replyId : Option UInt32) :
    (rawSegment element replyId).toList = (fragmentOf element replyId).chars := by
  cases hsegment : element.segment with
  | text text => simp [rawSegment, fragmentOf, hsegment, Fragment.chars]
  | mention mention => simp [rawSegment, fragmentOf, hsegment, Fragment.chars]
  | face face =>
      rw [faceFragment_chars face element replyId hsegment]
      simp [fragmentOf, hsegment]
  | reply reply =>
      cases replyId <;> simp [rawSegment, fragmentOf, hsegment, Fragment.chars, codeChars,
        codeStart, CqParameter.chars, CqParameter.written, verbatim]
  | location location =>
      simp [rawSegment, fragmentOf, hsegment, Fragment.chars, codeChars, codeStart,
        CqParameter.chars, CqParameter.written, verbatim, escaped, escapeParameter]
  | _ =>
      simp [rawSegment, fragmentOf, hsegment, Fragment.chars, codeChars, codeStart,
        CqParameter.chars, CqParameter.written, verbatim]

/-- The strings of an element that a code holds as they are. -/
def SafeElement (element : RichTextElement) : Prop :=
  match element.segment with
  | .location location =>
      SafeValue location.latitude.toList ∧ SafeValue location.longitude.toList
  | .forward forward => SafeValue forward.resourceId.toList
  | _ => True

theorem decimalText_safe (value : Nat) : SafeValue (Json.decimalText value).toList := by
  have hdigit : ∀ char ∈ (Json.decimalText value).toList, char.isDigit = true := by
    intro char hchar
    rw [Json.decimalText, String.toList_ofList] at hchar
    exact Nat.isDigit_of_mem_toDigits (by decide) (by decide) hchar
  refine ⟨fun mark hmark hmem => ?_, fun rule hrule hoccurs => ?_⟩
  · have hmarks : ∀ mark ∈ marks, ¬ mark.isDigit = true := by decide
    exact hmarks mark hmark (hdigit mark hmem)
  · -- An entity begins with an ampersand.
    have hrules : ∀ rule ∈ unescapeRules true, '&' ∈ rule.1 := by decide
    exact absurd (hdigit '&' (hoccurs.subset (hrules rule hrule))) (by decide)

theorem faceFragment_plain (face : FaceSegment) : (faceFragment face).Plain := by
  have hdice : PlainCode "dice" [] := by decide
  have hrps : PlainCode "rps" [] := by decide
  have hface : PlainCode "face" ["id"] := by decide
  unfold faceFragment
  split
  · exact hdice
  split
  · exact hrps
  · exact hface

theorem fragmentOf_plain (element : RichTextElement) (replyId : Option UInt32) :
    (fragmentOf element replyId).Plain := by
  unfold fragmentOf
  cases element.segment with
  | text text => trivial
  | mention mention => trivial
  | face face => exact faceFragment_plain face
  | reply reply =>
      have hreply : PlainCode "reply" ["id"] := by decide
      have hunsupported : PlainCode "lirvena_unsupported" [] := by decide
      cases replyId with
      | none => exact hunsupported
      | some id => exact hreply
  | location location =>
      have hlocation : PlainCode "location" ["lat", "lon", "title", "content"] := by decide
      exact hlocation
  | poke poke =>
      have hpoke : PlainCode "poke" ["type", "strength"] := by decide
      exact hpoke
  | forward forward =>
      have hforward : PlainCode "forward" ["id"] := by decide
      exact hforward
  | _ =>
      refine (?_ : PlainCode _ [])
      decide

theorem fragmentOf_safe_iff (element : RichTextElement) (replyId : Option UInt32) :
    (fragmentOf element replyId).Safe ↔ SafeElement element := by
  have hnone (kind : String) : (Fragment.code kind []).Safe :=
    fun _ hmem => absurd hmem List.not_mem_nil
  have hnumber (key : String) (value : Nat) : (verbatim key (Json.decimalText value)).Safe :=
    .inr (decimalText_safe value)
  have hescaped (key value : String) : (escaped key value).Safe := .inl rfl
  have hverbatim (key value : String) : (verbatim key value).Safe ↔ SafeValue value.toList :=
    or_iff_right Bool.false_ne_true
  unfold fragmentOf SafeElement
  cases element.segment with
  | text text => exact iff_of_true trivial trivial
  | mention mention => exact iff_of_true trivial trivial
  | face face =>
      refine iff_of_true ?_ trivial
      show (faceFragment face).Safe
      unfold faceFragment
      split
      · exact hnone _
      split
      · exact hnone _
      · exact List.forall_mem_singleton.mpr (hnumber "id" face.id)
  | reply reply =>
      cases replyId with
      | none => exact iff_of_true (hnone _) trivial
      | some id =>
          exact iff_of_true (List.forall_mem_singleton.mpr (hnumber "id" id.toNat)) trivial
  | location location =>
      show (∀ parameter ∈ _, CqParameter.Safe parameter) ↔ _
      rw [List.forall_mem_cons, List.forall_mem_cons, List.forall_mem_cons,
        List.forall_mem_singleton, hverbatim, hverbatim,
        and_iff_left (⟨hescaped _ _, hescaped _ _⟩ : _ ∧ _)]
  | poke poke =>
      exact iff_of_true (List.forall_mem_cons.mpr ⟨hnumber "type" poke.kind,
        List.forall_mem_singleton.mpr (hnumber "strength" poke.strength)⟩) trivial
  | forward forward => exact List.forall_mem_singleton.trans (hverbatim "id" forward.resourceId)
  | _ => exact iff_of_true (hnone _) trivial

/-! ## Messages -/

def fragments (message : InboundMessage) : List Fragment :=
  message.repliedElements.map (fun replied => fragmentOf replied.1 replied.2)

def rawMessage (message : InboundMessage) : String :=
  String.join (message.repliedElements.map (fun replied => rawSegment replied.1 replied.2))

theorem rawMessage_toList (message : InboundMessage) :
    (rawMessage message).toList = (fragments message).flatMap Fragment.chars := by
  unfold rawMessage fragments
  induction message.repliedElements with
  | nil => rfl
  | cons replied rest ih =>
      rw [List.map_cons, List.map_cons, List.flatMap_cons, ← ih, ← rawSegment_toList]
      simp [String.join_cons]

/-- The event carries the raw message. -/
theorem projectMessage_raw {message : InboundMessage} {idFormat : IdFormat} {event : Json}
    (hproject : projectMessage message idFormat = .ok event) :
    event.get "raw_message" = some (.string (rawMessage message)) := by
  obtain ⟨⟨messageType, subType⟩, -, hsender⟩ := bind_eq_ok_iff.mp hproject
  obtain ⟨_, -, hevent⟩ := bind_eq_ok_iff.mp hsender
  have hevent := Except.ok.inj hevent
  subst hevent
  cases message.envelope.route.groupUin with
  | none => simp [Json.ofFields, Json.get, Json.lookup_insertField, rawMessage]
  | some code => simp [Json.ofFields, Json.get, Json.lookup_insertField, rawMessage]

/-- The raw message of an event is read back as it was meant: a code for each element
that is written as one, with its values, and the text between them. -/
def ReadsBack (message : InboundMessage) (event : Json) : Prop :=
  ∃ raw, event.get "raw_message" = some (.string raw) ∧
    cqPieces raw = .ok (meantPieces [] (fragments message)) ∧
    parseCq raw = .ok ((meantPieces [] (fragments message)).map CqPiece.segment)

theorem fragments_plain (message : InboundMessage) :
    ∀ fragment ∈ fragments message, fragment.Plain := by
  intro fragment hfragment
  obtain ⟨⟨element, replyId⟩, -, rfl⟩ := List.mem_map.mp hfragment
  exact fragmentOf_plain element replyId

theorem repliedElements_fst (message : InboundMessage) :
    message.repliedElements.map Prod.fst = elementsOf message.richText := by
  rw [InboundMessage.repliedElements, List.map_map]
  exact List.zipIdx_map_fst 0 (elementsOf message.richText)

theorem fragments_safe_iff (message : InboundMessage) :
    (∀ fragment ∈ fragments message, fragment.Safe) ↔
      ∀ element ∈ elementsOf message.richText, SafeElement element := by
  rw [fragments, List.forall_mem_map, ← repliedElements_fst, List.forall_mem_map]
  exact forall₂_congr fun replied _ => fragmentOf_safe_iff replied.1 replied.2

theorem raw_message_reads_back {message : InboundMessage} {idFormat : IdFormat} {event : Json}
    (hproject : projectMessage message idFormat = .ok event) :
    ReadsBack message event ↔
      (∀ run ∈ textRuns [] (fragments message), SafeRun run) ∧
        (∀ element ∈ elementsOf message.richText, SafeElement element) ∧
        WithinSegments 0 (meantPieces [] (fragments message)) := by
  have hchars := rawMessage_toList message
  have hplain := fragments_plain message
  have hrounds : ([] ++ (fragments message).flatMap Fragment.chars).length <
      (rawMessage message).toList.length + 1 := by
    rw [hchars]
    exact Nat.lt_succ_self _
  have hpieces := parsePieces_iff hplain hrounds 0
  rw [List.nil_append, ← hchars] at hpieces
  rw [← fragments_safe_iff, ← hpieces]
  constructor
  · rintro ⟨raw, hraw, hfound, -⟩
    have hsame : rawMessage message = raw :=
      Json.string.inj (Option.some.inj ((projectMessage_raw hproject).symm.trans hraw))
    rw [hsame]
    exact hfound
  · intro hfound
    exact ⟨rawMessage message, projectMessage_raw hproject, hfound,
      parseCq_of_cqPieces hplain hfound⟩

/-! ## A text that is written like a code -/

def groupEnvelope : MessageEnvelope where
  «class» := .group
  route := {
    fromUin := 42, fromUid := some "u_member", toUin := 10001, toUid := some "u_own"
    groupUin := some 100, memberName := "member", groupName := some "group", friendName := none }
  payload := { richText := none, content := none, encryptedContent := none }
  subType := 0
  sequence := 5
  random := 9
  timestamp := 1700000000
  packageCount := 1
  packageIndex := 0
  divisionSequence := 0
  directMessageSequence := 0
  messageUid := 0

/-- A member's message in a group. -/
def groupMessage (segments : List Segment) : InboundMessage where
  account := { qqId := 10001, nickname := "own", valid := by decide }
  messageId := 5
  envelope := groupEnvelope
  richText := some {
    elements := segments.map fun segment => { segment := segment, encoded := [] }
    attributes := none, file := none, voice := none }
  replyIds := []

theorem groupMessage_projects (segments : List Segment) :
    ∃ event, projectMessage (groupMessage segments) .number = .ok event :=
  ⟨_, rfl⟩

/-- A text and a forward without a mark are read back. -/
theorem raw_message_reads_back_forward : ∃ event,
    projectMessage (groupMessage [.text "[hello]", .forward ⟨"resource"⟩]) .number = .ok event ∧
      ReadsBack (groupMessage [.text "[hello]", .forward ⟨"resource"⟩]) event := by
  obtain ⟨event, hproject⟩ := groupMessage_projects [.text "[hello]", .forward ⟨"resource"⟩]
  refine ⟨event, hproject, (raw_message_reads_back hproject).mpr ⟨by decide, ?_, ?_⟩⟩
  · have hresource : SafeValue "resource".toList := by decide
    exact List.forall_mem_cons.mpr ⟨trivial, List.forall_mem_singleton.mpr hresource⟩
  · exact ⟨by decide, trivial⟩

/-- A text that is written like a code is read as the code. -/
theorem text_read_as_code : ∃ event,
    projectMessage (groupMessage [.text "[CQ:image]"]) .number = .ok event ∧
      event.get "raw_message" = some (.string "[CQ:image]") ∧
      parseCq "[CQ:image]" = .ok [⟨"image", []⟩] ∧
      ¬ ReadsBack (groupMessage [.text "[CQ:image]"]) event := by
  obtain ⟨event, hproject⟩ := groupMessage_projects [.text "[CQ:image]"]
  have hraw : event.get "raw_message" = some (.string "[CQ:image]") := projectMessage_raw hproject
  have hparse : parseCq "[CQ:image]" = .ok [⟨"image", []⟩] := rfl
  refine ⟨event, hproject, hraw, hparse, ?_⟩
  rintro ⟨raw, hevent, -, hmeant⟩
  have hsame : "[CQ:image]" = raw := Json.string.inj (Option.some.inj (hraw.symm.trans hevent))
  rw [← hsame, hparse] at hmeant
  -- What was meant is a text segment.
  have hkinds : ["image"] = ["text"] :=
    congrArg (List.map MessageSegment.kind) (Except.ok.inj hmeant)
  exact absurd hkinds (by decide)

end OneBot
end Lirvena
