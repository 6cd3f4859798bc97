import Lirvena.OneBot.CqCode

/-!
# Forward nodes

The custom nodes of a merged forward, as a bot writes them and as a bot is shown
them.  A node has the number and the name of a sender and a message, which is
parsed as any other message: a CQ string, or an array of segments.
-/

namespace Lirvena
namespace OneBot

open Lib
open Message

/-! ## Messages -/

def maxMessageBytes : Nat := 1024 * 1024

def parseJsonSegment (value : Json) : Except MessageParseError MessageSegment := do
  let object ← okOr .rejected value.asObject
  let kind ← okOr .rejected ((object.lookup "type").bind Json.asStr)
  validateKind kind
  let data ← okOr .rejected ((object.lookup "data").bind Json.asObject)
  return ⟨kind, data⟩

/-- The segments before they are counted. -/
def messageSegments (autoEscape : Bool) : Json → Except MessageParseError (List MessageSegment)
  | .string text => if autoEscape then .ok [textSegment text] else parseCq text
  | .array segments => segments.mapM parseJsonSegment
  | _ => .error .rejected

def parseMessage (value : Json) (autoEscape : Bool) :
    Except MessageParseError (List MessageSegment) := do
  rejectIf .rejected (maxMessageBytes < value.renderedLen)
  let segments ← messageSegments autoEscape value
  rejectIf .rejected (segments = [] ∨ maxSegments < segments.length)
  return segments

/-! ## Nodes -/

def maxNodes : Nat := 100

def maxNameBytes : Nat := 512

def maxForwardBytes : Nat := 16 * 1024 * 1024

/-- One custom node. -/
structure ForwardNode where
  userId : UInt32
  nickname : String
  content : List MessageSegment

def asArray : Json → Option (List Json)
  | .array items => some items
  | _ => none

/-- `Value::as_u64`. -/
def asU64 : Json → Option Nat
  | .integer value => if 0 ≤ value ∧ value < 2 ^ 64 then some value.toNat else none
  | _ => none

/-- `str::parse::<u64>`: decimal digits, behind a plus sign or not. -/
def parseU64 (text : String) : Option Nat :=
  match text.toList with
  | '+' :: digits => parseDigitsU64 (String.ofList digits)
  | _ => parseDigitsU64 text

/-- A number, or a string of one. -/
def numberValue : Json → Option Nat
  | .integer value => asU64 (.integer value)
  | .string text => parseU64 text
  | _ => none

def parseU32 (value : Json) : Option UInt32 :=
  ((numberValue value).bind fun number => tryU32 number).filter (· ≠ 0)

/-- A name that is not blank, within its bound and without control characters. -/
def parseName (value : Json) : Option String :=
  value.asStr.filter fun name =>
    trim name ≠ "" && name.utf8ByteSize ≤ maxNameBytes && !hasControl name

/-- Either of two fields; two that differ are refused. -/
def «alias» {α : Type} [DecidableEq α] (primary compatibility : Option Json)
    (parse : Json → Option α) : Except MessageParseError α :=
  match primary.bind parse, compatibility.bind parse with
  | some primary, some compatibility =>
      if primary ≠ compatibility then .error .rejected else .ok primary
  | some value, none | none, some value => .ok value
  | none, none => .error .rejected

/-- One segment object stands for an array of it. -/
def normalizedContent (content : Json) : Json :=
  if content.asObject.isSome then .array [content] else content

def parseNode (value : Json) : Except MessageParseError ForwardNode := do
  let outer ← okOr .rejected value.asObject
  rejectIf .rejected ((outer.lookup "type").bind Json.asStr ≠ some "node")
  let data ← okOr .rejected ((outer.lookup "data").bind Json.asObject)
  let userId ← «alias» (data.lookup "user_id") (data.lookup "uin") parseU32
  let nickname ← «alias» (data.lookup "nickname") (data.lookup "name") parseName
  let content ← okOr .rejected (data.lookup "content")
  let content ← parseMessage (normalizedContent content) false
  return { userId := userId, nickname := nickname, content := content }

def parseForwardNodes (value : Json) : Except MessageParseError (List ForwardNode) := do
  rejectIf .rejected (maxForwardBytes < value.renderedLen)
  let nodes ← okOr .rejected (asArray value)
  rejectIf .rejected (nodes = [] ∨ maxNodes < nodes.length)
  nodes.mapM parseNode

/-! ## What a bot is shown -/

/-- The object of a node. -/
def nodeValue (userId : UInt32) (nickname : String) (content : List Json) : Json :=
  segmentValue "node" [("user_id", .string (Json.decimalText userId.toNat)),
    ("nickname", .string nickname), ("content", .array content)]

def projectForwardNode (envelope : MessageEnvelope) (richText : Option RichTextMessage) :
    Except EventProjectionError Json := do
  let sender := envelope.route.fromUin
  rejectIf .rejected (sender = 0)
  let nickname := (envelope.route.friendName.or envelope.route.memberName).getD ""
  let content := (elementsOf richText).map (fun element => segmentJson element none)
  return nodeValue sender nickname content

/-! ## Accepted nodes -/

theorem parseU32_ne_zero {value : Json} {number : UInt32} (hparse : parseU32 value = some number) :
    number ≠ 0 := by
  obtain ⟨-, hnumber⟩ := Option.filter_eq_some_iff.mp hparse
  exact of_decide_eq_true hnumber

theorem alias_cases {α : Type} [DecidableEq α] {primary compatibility : Option Json}
    {parse : Json → Option α} {value : α}
    (halias : «alias» primary compatibility parse = .ok value) :
    ∃ json, parse json = some value := by
  unfold «alias» at halias
  split at halias
  · next found _ hprimary _ =>
      split at halias
      · cases halias
      · cases halias
        obtain ⟨json, -, hjson⟩ := Option.bind_eq_some_iff.mp hprimary
        exact ⟨json, hjson⟩
  · next found hprimary _ =>
      cases halias
      obtain ⟨json, -, hjson⟩ := Option.bind_eq_some_iff.mp hprimary
      exact ⟨json, hjson⟩
  · next found _ hcompatibility =>
      cases halias
      obtain ⟨json, -, hjson⟩ := Option.bind_eq_some_iff.mp hcompatibility
      exact ⟨json, hjson⟩
  · cases halias

/-- The sender of an accepted node has a number and a name that a decoder takes. -/
structure ForwardNode.Accepted (node : ForwardNode) : Prop where
  userId : node.userId ≠ 0
  nickname_length : node.nickname.utf8ByteSize ≤ maxNameBytes
  nickname_control : hasControl node.nickname = false

theorem parseNode_accepted {value : Json} {node : ForwardNode}
    (hparse : parseNode value = .ok node) : node.Accepted := by
  obtain ⟨outer, -, hparse⟩ := bind_eq_ok_iff.mp hparse
  obtain ⟨⟨⟩, -, hparse⟩ := bind_eq_ok_iff.mp hparse
  obtain ⟨data, -, hparse⟩ := bind_eq_ok_iff.mp hparse
  obtain ⟨userId, huserId, hparse⟩ := bind_eq_ok_iff.mp hparse
  obtain ⟨nickname, hnickname, hparse⟩ := bind_eq_ok_iff.mp hparse
  obtain ⟨content, -, hparse⟩ := bind_eq_ok_iff.mp hparse
  obtain ⟨segments, -, hreturn⟩ := bind_eq_ok_iff.mp hparse
  cases hreturn
  obtain ⟨number, hnumber⟩ := alias_cases huserId
  obtain ⟨name, hname⟩ := alias_cases hnickname
  obtain ⟨-, hchecks⟩ := Option.filter_eq_some_iff.mp hname
  simp only [Bool.and_eq_true, decide_eq_true_eq, Bool.not_eq_true'] at hchecks
  exact ⟨parseU32_ne_zero hnumber, hchecks.1.2, hchecks.2⟩

theorem parseForwardNodes_accepted {value : Json} {nodes : List ForwardNode}
    (hparse : parseForwardNodes value = .ok nodes) : ∀ node ∈ nodes, node.Accepted := by
  obtain ⟨⟨⟩, -, hparse⟩ := bind_eq_ok_iff.mp hparse
  obtain ⟨values, -, hparse⟩ := bind_eq_ok_iff.mp hparse
  obtain ⟨⟨⟩, -, hparse⟩ := bind_eq_ok_iff.mp hparse
  intro node hnode
  obtain ⟨value, -, hvalue⟩ := exists_of_mem_mapM hparse hnode
  exact parseNode_accepted hvalue

end OneBot
end Lirvena
