import Lirvena.Lib.ProtoRead
import Lirvena.OneBot.Forward
import Lirvena.Runtime.SendSegments

/-!
# Compiling segments

A segment that a bot wrote becomes a segment that the encoder is given: its data are
checked and converted, media are uploaded, and a mention is looked up among the
members of the group.  The members, the uploads and the text of a coordinate are
asked of `SegmentServices`.
-/

namespace Lirvena
namespace Runtime

open Lib
open Message
open OneBot
open Store

/-- The errors of an action that compiles segments. -/
inductive SegmentError where
  | unsupported
  | badParameters
  | qqFailure
  deriving DecidableEq

structure GroupMember where
  uin : UInt32
  uid : String
  nickname : String
  card : String

structure UploadedMedia where
  group : Bool
  messageInfo : List UInt8
  compatibility : List UInt8

structure UploadedRecord where
  group : Bool
  messageInfo : List UInt8

/-- What is asked while segments are compiled. -/
structure SegmentServices where
  groupMembers : UInt32 → Except SegmentError (List GroupMember)
  uploadImage : String → SendTextTarget → Except SegmentError UploadedMedia
  uploadRecord : String → SendTextTarget → Except SegmentError UploadedRecord
  uploadVideo : String → SendTextTarget → Except SegmentError UploadedMedia
  /-- `segment_coordinate`: five decimals of a number between two bounds. -/
  coordinate : Option Json → Int → Int → Option String

/-- The message that each identifier of a reply stands for. -/
abbrev Replies : Type := List (UInt32 × (Bool × QuoteTarget))

/-! ## Data of a segment -/

namespace SegmentData

def str (data : List (String × Json)) (key : String) : Except SegmentError String :=
  okOr .badParameters ((data.lookup key).bind Json.asStr)

/-- `segment_u32`. -/
def u32 (value : Option Json) : Option UInt32 :=
  (value.bind numberValue).bind fun number => tryU32 number

/-- A number that may be missing. -/
def u32OrElse (data : List (String × Json)) (key : String) (missing : UInt32) :
    Except SegmentError UInt32 :=
  match data.lookup key with
  | some value => okOr .badParameters (u32 (some value))
  | none => .ok missing

/-- `i32::try_from`. -/
def tryI32 (value : UInt32) : Option Int :=
  if value.toNat < 2 ^ 31 then some value.toNat else none

end SegmentData

open SegmentData

/-! ## Kinds of segments -/

def marketFaceSummary : Option Json → Except SegmentError String
  | some (.string value) => .ok (if value ≠ "" then value else "[商城表情]")
  | none => .ok "[商城表情]"
  | some _ => .error .badParameters

def compileMarketFace (data : List (String × Json)) : Except SegmentError CompiledSegment := do
  let emojiId ← str data "emoji_id"
  let packageId ← okOr .badParameters
    (((u32 (data.lookup "emoji_package_id")).bind tryI32).filter (0 < ·))
  let key ← str data "key"
  let summary ← marketFaceSummary (data.lookup "summary")
  return .marketFace emojiId packageId key summary

def compileLocation (services : SegmentServices) (data : List (String × Json)) :
    Except SegmentError CompiledSegment := do
  let latitude ← okOr .badParameters (services.coordinate (data.lookup "lat") (-90) 90)
  let longitude ← okOr .badParameters (services.coordinate (data.lookup "lon") (-180) 180)
  return .location latitude longitude (((data.lookup "title").bind Json.asStr).getD "")
    (((data.lookup "content").bind Json.asStr).getD "")

/-- The name on a mention: the card of the member, or else the nickname. -/
def memberDisplay (member : GroupMember) : String :=
  "@" ++ if member.card = "" then member.nickname else member.card

def compileMention (members : Option (List GroupMember)) (data : List (String × Json)) :
    Except SegmentError CompiledSegment := do
  let target ← okOr .badParameters (data.lookup "qq")
  if target.asStr = some "all" then
    return .mentionEveryone "@全体成员"
  else
    let uin ← okOr .badParameters (u32 (some target))
    let member ← okOr .qqFailure (members.bind (List.find? (fun member => member.uin = uin)))
    return .mention uin member.uid (memberDisplay member)

def compileImage (services : SegmentServices) (target : SendTextTarget)
    (data : List (String × Json)) : Except SegmentError CompiledSegment := do
  let source ← str data "file"
  let uploaded ← services.uploadImage source target
  return .image source uploaded.group uploaded.messageInfo uploaded.compatibility

def compileRecord (services : SegmentServices) (target : SendTextTarget)
    (data : List (String × Json)) : Except SegmentError CompiledSegment := do
  let source ← str data "file"
  let uploaded ← services.uploadRecord source target
  return .record source uploaded.group uploaded.messageInfo

def compileVideo (services : SegmentServices) (target : SendTextTarget)
    (data : List (String × Json)) : Except SegmentError CompiledSegment := do
  let source ← str data "file"
  let uploaded ← services.uploadVideo source target
  return .video source uploaded.group uploaded.messageInfo uploaded.compatibility

def compileXml (data : List (String × Json)) : Except SegmentError CompiledSegment := do
  let body ← str data "data"
  let serviceId ← u32OrElse data "service_id" 35
  let serviceId ← okOr .badParameters (tryI32 serviceId)
  return .xml body serviceId

def compilePoke (data : List (String × Json)) : Except SegmentError CompiledSegment := do
  let kind ← okOr .badParameters (u32 (data.lookup "type"))
  let strength ← u32OrElse data "strength" 0
  return .poke kind strength

def compileReply (replies : Replies) (data : List (String × Json)) :
    Except SegmentError CompiledSegment := do
  let messageId ← okOr .badParameters (u32 (data.lookup "id"))
  let reply ← okOr .qqFailure (replies.lookup messageId)
  return .reply messageId reply.1 reply.2

def compileSegment (services : SegmentServices) (target : SendTextTarget)
    (members : Option (List GroupMember)) (replies : Replies) (segment : MessageSegment) :
    Except SegmentError CompiledSegment :=
  let data := segment.data
  match segment.kind with
  | "text" => .text <$> str data "text"
  | "face" =>
      .face <$> okOr .badParameters ((u32 (data.lookup "id")).bind fun id => tryU16 id.toNat)
  | "dice" => .ok (.animatedFace 358)
  | "rps" => .ok (.animatedFace 359)
  | "markdown" => .markdown <$> str data "content"
  | "keyboard" =>
      (fun content => .keyboard content.render content) <$>
        okOr .badParameters (data.lookup "content")
  | "location" => compileLocation services data
  | "mface" => compileMarketFace data
  | "at" => if target.isGroup then compileMention members data else .error .unsupported
  | "image" => compileImage services target data
  | "record" => compileRecord services target data
  | "video" => compileVideo services target data
  | "json" => .json <$> str data "data"
  | "xml" => compileXml data
  | "poke" => compilePoke data
  | "reply" => compileReply replies data
  | _ => .error .unsupported

/-! ## Messages -/

/-- A mention of one member needs the members of the group. -/
def needsMembers (segments : List MessageSegment) : Bool :=
  segments.any fun segment =>
    segment.kind == "at" && (segment.data.lookup "qq").bind Json.asStr != some "all"

def segmentMembers (services : SegmentServices) (target : SendTextTarget)
    (segments : List MessageSegment) : Except SegmentError (Option (List GroupMember)) :=
  if needsMembers segments then
    match target with
    | .group groupCode => some <$> services.groupMembers groupCode
    | .private _ _ => .error .unsupported
  else .ok none

def compileSegments (services : SegmentServices) (target : SendTextTarget) (replies : Replies)
    (segments : List MessageSegment) : Except SegmentError (List CompiledSegment) := do
  let members ← segmentMembers services target segments
  segments.mapM (compileSegment services target members replies)

/-! ## Package numbers -/

section PackageNumbers

open Protobuf

variable {data : List (String × Json)} {emojiId key summary : String} {packageId : Int}

theorem tryI32_fits {value : UInt32} (hvalue : tryI32 value = some packageId) :
    FitsInt32 packageId := by
  unfold tryI32 at hvalue
  split at hvalue
  · next hsmall =>
      cases hvalue
      exact ⟨by omega, by omega⟩
  · cases hvalue

theorem compileMarketFace_packageId
    (hcompile : compileMarketFace data = .ok (.marketFace emojiId packageId key summary)) :
    FitsInt32 packageId ∧ 0 < packageId := by
  obtain ⟨emoji, -, hcompile⟩ := bind_eq_ok_iff.mp hcompile
  obtain ⟨package, hpackage, hcompile⟩ := bind_eq_ok_iff.mp hcompile
  obtain ⟨faceKey, -, hcompile⟩ := bind_eq_ok_iff.mp hcompile
  obtain ⟨text, -, hreturn⟩ := bind_eq_ok_iff.mp hcompile
  cases hreturn
  obtain ⟨hpackage, hpositive⟩ := Option.filter_eq_some_iff.mp (okOr_eq_ok_iff.mp hpackage)
  obtain ⟨number, -, hnumber⟩ := Option.bind_eq_some_iff.mp hpackage
  exact ⟨tryI32_fits hnumber, of_decide_eq_true hpositive⟩

/-- No other kind compiles to a market face. -/
theorem compileSegment_packageId {services : SegmentServices} {target : SendTextTarget}
    {members : Option (List GroupMember)} {replies : Replies} {segment : MessageSegment}
    (hcompile : compileSegment services target members replies segment =
      .ok (.marketFace emojiId packageId key summary)) : FitsInt32 packageId ∧ 0 < packageId := by
  have hmap {α : Type} {build : α → CompiledSegment} {first : Except SegmentError α}
      (hbuild : ∀ value, build value ≠ .marketFace emojiId packageId key summary) :
      build <$> first ≠ .ok (.marketFace emojiId packageId key summary) := by
    intro hok
    obtain ⟨value, -, hvalue⟩ := map_eq_ok_iff.mp hok
    exact hbuild value hvalue
  unfold compileSegment at hcompile
  dsimp only at hcompile
  split at hcompile
  case h_1 | h_2 | h_5 | h_6 | h_13 => exact absurd hcompile (hmap fun _ => nofun)
  case h_3 | h_4 | h_17 => cases hcompile
  case h_8 => exact compileMarketFace_packageId hcompile
  case h_9 =>
      split at hcompile
      · obtain ⟨mentioned, -, hcompile⟩ := bind_eq_ok_iff.mp hcompile
        split at hcompile
        · cases hcompile
        · simp [bind_eq_ok_iff, pure, Except.pure] at hcompile
      · cases hcompile
  all_goals
    simp [compileLocation, compileImage, compileRecord, compileVideo, compileXml, compilePoke,
      compileReply, bind_eq_ok_iff, pure, Except.pure] at hcompile

end PackageNumbers

end Runtime
end Lirvena
