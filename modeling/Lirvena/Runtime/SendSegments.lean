import Lirvena.Runtime.Clock
import Lirvena.Runtime.InboundPreparation

/-!
# Sending a message

`send_segments` encodes the compiled segments, sends them, and only then builds
the record that `get_msg` answers with.  The record repeats the sources of the
caller; `sendSegments_ok_iff` says that a message QQ has accepted is reported as
sent exactly when that record is within the store's limit.
-/

namespace Lirvena
namespace Runtime

open Lib
open Message
open OneBot
open Store

/-- The errors that a bot is told of. -/
inductive AccountActionError where
  | badParameters
  | qqFailure
  deriving DecidableEq

/-! ## Compiled segments -/

/-- One segment of a request: what is sent, and what the bot asked for. -/
inductive CompiledSegment where
  | text (value : String)
  | mentionEveryone (display : String)
  | mention (uin : UInt32) (uid display : String)
  | face (id : UInt16)
  | animatedFace (id : UInt16)
  | markdown (content : String)
  | keyboard (wire : String) (content : Json)
  | location (latitude longitude title content : String)
  | marketFace (emojiId : String) (packageId : Int) (key summary : String)
  | image (source : String) (group : Bool) (messageInfo compatibility : List UInt8)
  | record (source : String) (group : Bool) (messageInfo : List UInt8)
  | video (source : String) (group : Bool) (messageInfo compatibility : List UInt8)
  | json (body : String)
  | forward (resourceId card : String)
  | xml (body : String) (serviceId : Int)
  | poke (kind strength : UInt32)
  | reply (messageId : UInt32) (group : Bool) (quote : QuoteTarget)

namespace CompiledSegment

/-- What the encoder is given: neither the source of a medium nor the identifier
of a forward card. -/
def borrowed : CompiledSegment → OutboundSegment
  | .text value => .text value
  | .mentionEveryone display => .mentionEveryone display
  | .mention uin uid display => .mention uin uid display
  | .face id => .face id
  | .animatedFace id => .animatedFace id
  | .markdown content => .markdown content
  | .keyboard wire _ => .keyboard wire
  | .location latitude longitude title content => .location latitude longitude title content
  | .marketFace emojiId packageId key summary => .marketFace emojiId packageId key summary
  | .image _ group messageInfo compatibility => .image group messageInfo compatibility
  | .record _ group messageInfo => .record group messageInfo
  | .video _ group messageInfo compatibility => .video group messageInfo compatibility
  | .json body => .json body
  | .forward _ card => .json card
  | .xml body serviceId => .xml body serviceId
  | .poke kind strength => .poke kind strength
  | .reply _ group quote =>
      .reply group quote.sequence quote.messageUid quote.senderUin quote.senderUid
        quote.timestamp quote.elements

def faceValue (id : UInt16) : Json :=
  segmentValue "face" [("id", .integer id.toNat)]

def animatedFaceValue (id : UInt16) : Json :=
  if id = 358 then segmentValue "dice" []
  else if id = 359 then segmentValue "rps" []
  else faceValue id

/-- The segment as the record repeats it. -/
def onebotValue : CompiledSegment → Json
  | .text value => segmentValue "text" [("text", .string value)]
  | .mentionEveryone _ => segmentValue "at" [("qq", .string "all")]
  | .mention uin _ _ => segmentValue "at" [("qq", .integer uin.toNat)]
  | .face id => faceValue id
  | .animatedFace id => animatedFaceValue id
  | .markdown content => segmentValue "markdown" [("content", .string content)]
  | .keyboard _ content => segmentValue "keyboard" [("content", content)]
  | .location latitude longitude title content =>
      segmentValue "location" [("lat", .string latitude), ("lon", .string longitude),
        ("title", .string title), ("content", .string content)]
  | .marketFace emojiId packageId key summary =>
      segmentValue "mface" [("emoji_id", .string emojiId),
        ("emoji_package_id", .integer packageId), ("key", .string key),
        ("summary", .string summary)]
  | .image source _ _ _ => segmentValue "image" [("file", .string source)]
  | .record source _ _ => segmentValue "record" [("file", .string source)]
  | .video source _ _ _ => segmentValue "video" [("file", .string source)]
  | .json body => segmentValue "json" [("data", .string body)]
  | .forward resourceId _ => segmentValue "forward" [("id", .string resourceId)]
  | .xml body serviceId =>
      segmentValue "xml" [("data", .string body), ("service_id", .integer serviceId)]
  | .poke kind strength =>
      segmentValue "poke" [("type", .integer kind.toNat), ("strength", .integer strength.toNat),
        ("id", .integer (-1))]
  | .reply messageId _ _ => segmentValue "reply" [("id", .integer messageId.toNat)]

def faceLen (id : UInt16) : Nat :=
  segmentFrame "face" ["id"] + Json.integerLen id.toNat

def animatedFaceLen (id : UInt16) : Nat :=
  if id = 358 then segmentFrame "dice" []
  else if id = 359 then segmentFrame "rps" []
  else faceLen id

/-- The bytes that one segment takes in the record. -/
def onebotLen : CompiledSegment → Nat
  | .text value => segmentFrame "text" ["text"] + Json.textLen value
  | .mentionEveryone _ => segmentFrame "at" ["qq"] + Json.textLen "all"
  | .mention uin _ _ => segmentFrame "at" ["qq"] + Json.integerLen uin.toNat
  | .face id => faceLen id
  | .animatedFace id => animatedFaceLen id
  | .markdown content => segmentFrame "markdown" ["content"] + Json.textLen content
  | .keyboard _ content => segmentFrame "keyboard" ["content"] + content.renderedLen
  | .location latitude longitude title content =>
      segmentFrame "location" ["lat", "lon", "title", "content"] + Json.textLen latitude +
        Json.textLen longitude + Json.textLen title + Json.textLen content
  | .marketFace emojiId packageId key summary =>
      segmentFrame "mface" ["emoji_id", "emoji_package_id", "key", "summary"] +
        Json.textLen emojiId + Json.integerLen packageId + Json.textLen key +
          Json.textLen summary
  | .image source _ _ _ => segmentFrame "image" ["file"] + Json.textLen source
  | .record source _ _ => segmentFrame "record" ["file"] + Json.textLen source
  | .video source _ _ _ => segmentFrame "video" ["file"] + Json.textLen source
  | .json body => segmentFrame "json" ["data"] + Json.textLen body
  | .forward resourceId _ => segmentFrame "forward" ["id"] + Json.textLen resourceId
  | .xml body serviceId =>
      segmentFrame "xml" ["data", "service_id"] + Json.textLen body + Json.integerLen serviceId
  | .poke kind strength =>
      segmentFrame "poke" ["type", "strength", "id"] + Json.integerLen kind.toNat +
        Json.integerLen strength.toNat + Json.integerLen (-1)
  | .reply messageId _ _ => segmentFrame "reply" ["id"] + Json.integerLen messageId.toNat

theorem faceValue_renderedLen (id : UInt16) : (faceValue id).renderedLen = faceLen id := by
  rw [faceValue, segmentValue_renderedLen (by simp)]
  simp [faceLen]

theorem animatedFaceValue_renderedLen (id : UInt16) :
    (animatedFaceValue id).renderedLen = animatedFaceLen id := by
  unfold animatedFaceValue animatedFaceLen
  split
  · rw [segmentValue_renderedLen (by simp)]
    rfl
  · split
    · rw [segmentValue_renderedLen (by simp)]
      rfl
    · exact faceValue_renderedLen id

/-- `onebotLen` is the length of the repeated segment. -/
theorem onebotValue_renderedLen (segment : CompiledSegment) :
    segment.onebotValue.renderedLen = segment.onebotLen := by
  unfold onebotValue onebotLen
  cases segment with
  | face id => exact faceValue_renderedLen id
  | animatedFace id => exact animatedFaceValue_renderedLen id
  | _ =>
      show (segmentValue _ _).renderedLen = _
      rw [segmentValue_renderedLen (by simp)]
      simp [Nat.add_assoc]

end CompiledSegment

/-! ## The record of an outbound message -/

def messageType (target : SendTextTarget) : String :=
  if target.isGroup then "group" else "private"

def outboundFields (identity : AccountIdentity) (target : SendTextTarget)
    (segments : List CompiledSegment) (timestamp : UInt32) : List (String × Json) :=
  [("time", .integer timestamp.toNat), ("message_type", .string (messageType target)),
    ("sender", .ofFields [("user_id", .integer identity.qqId.toNat),
      ("nickname", .string identity.nickname)]),
    ("message", .array (segments.map CompiledSegment.onebotValue))]

def outboundMessageRecord (identity : AccountIdentity) (target : SendTextTarget)
    (segments : List CompiledSegment) (timestamp : UInt32) : Json :=
  .ofFields (outboundFields identity target segments timestamp)

/-- The bytes of the record that a message is stored with. -/
def outboundLen (identity : AccountIdentity) (target : SendTextTarget)
    (segments : List CompiledSegment) (timestamp messageId : UInt32) : Nat :=
  Json.objectFrame ["time", "message_type", "sender", "message", "message_id", "real_id"] +
    Json.integerLen timestamp.toNat + Json.textLen (messageType target) +
      (Json.objectFrame ["user_id", "nickname"] + Json.integerLen identity.qqId.toNat +
        Json.textLen identity.nickname) +
      (2 + (segments.map (fun segment => segment.onebotLen)).sum + (segments.length - 1)) +
      Json.integerLen messageId.toNat + Json.integerLen messageId.toNat

/-- The two fields that carry the identifier. -/
def numberFields (messageId : UInt32) : List (String × Json) :=
  [("message_id", .integer messageId.toNat), ("real_id", .integer messageId.toNat)]

/-- The numbered response of an object is one object of all fields. -/
theorem numberedResponse_ofFields {fields sorted : List (String × Json)}
    (hsorted : (Json.ofFields fields).asObject = some sorted) (messageId : UInt32) :
    numberedResponse sorted messageId = .ofFields (fields ++ numberFields messageId) := by
  cases hsorted
  simp [Json.ofFields, numberedResponse, numberFields, List.foldl_append]

/-- `outboundLen` is the length of the stored record's text. -/
theorem outboundFields_renderedLen (identity : AccountIdentity) (target : SendTextTarget)
    (segments : List CompiledSegment) (timestamp messageId : UInt32) :
    (Json.ofFields (outboundFields identity target segments timestamp ++
        numberFields messageId)).renderedLen =
      outboundLen identity target segments timestamp messageId := by
  have hsender : (Json.ofFields [("user_id", .integer identity.qqId.toNat),
        ("nickname", .string identity.nickname)]).renderedLen =
      Json.objectFrame ["user_id", "nickname"] + Json.integerLen identity.qqId.toNat +
        Json.textLen identity.nickname := by
    rw [Json.renderedLen_ofFields (by simp)]
    simp [Nat.add_assoc]
  rw [Json.renderedLen_ofFields (by simp [outboundFields, numberFields])]
  simp only [outboundFields, numberFields, outboundLen, List.cons_append, List.nil_append,
    List.map_cons,
    List.map_nil, List.sum_cons, List.sum_nil, hsender, Json.renderedLen_array, List.map_map,
    Function.comp_def, CompiledSegment.onebotValue_renderedLen, List.length_map,
    Json.renderedLen_string, Json.renderedLen_integer]
  omega

/-! ## Sending -/

/-- What a call meets outside its arguments: random words, the clock before the
request and after the response, and the two services of the packet exchange. -/
structure SendContext where
  clientSequence : Option UInt32
  random : Option UInt32
  sentAt : Clock
  registeredAt : Clock
  requestReserve : List UInt8 → Option (List UInt8)
  sendWithReserve : List UInt8 → List UInt8 → Option (List UInt8)

/-- `map_err` to an action error. -/
def failing {ε α : Type} (error : AccountActionError) :
    Except ε α → Except AccountActionError α
  | .error _ => .error error
  | .ok value => .ok value

theorem failing_eq_ok_iff {ε α : Type} {error : AccountActionError} {first : Except ε α}
    {value : α} : failing error first = .ok value ↔ first = .ok value := by
  cases first <;> simp [failing]

theorem failing_eq_error {ε α : Type} {error other : AccountActionError} {first : Except ε α}
    (hfailing : failing error first = .error other) : other = error := by
  cases first with
  | error _ =>
      cases hfailing
      rfl
  | ok value => cases hfailing

/-- The time of an accepted message: that of the response, or of the request. -/
def acceptedAt (outcome : SendTextOutcome) (unixSeconds : UInt32) : UInt32 :=
  if outcome.timestamp = 0 then unixSeconds else outcome.timestamp

/-- The end of `send_segments`: the record of an accepted message is stored, and
its identifier is the answer. -/
def registerAccepted (registry : MessageRegistry) (identity : AccountIdentity)
    (segments : List CompiledSegment) (input : SendMessageInput) (outcome : SendTextOutcome)
    (clock : Clock) : Except AccountActionError (MessageRegistry × Json) := do
  let timestamp := acceptedAt outcome input.unixSeconds
  let record := outboundMessageRecord identity input.target segments timestamp
  let now ← failing .qqFailure (nowMs clock)
  let (next, messageId) ← failing .qqFailure (registry.registerOutbound input.target {
    sequence := outcome.sequence, clientSequence := input.clientSequence
    random := input.random, timestamp := timestamp } now record)
  return (next, .ofFields [("message_id", .integer messageId.toNat)])

def sendSegments (wire : OutboundWire) (context : SendContext) (registry : MessageRegistry)
    (identity : AccountIdentity) (target : SendTextTarget) (segments : List CompiledSegment) :
    Except AccountActionError (MessageRegistry × Json) := do
  let clientSequence ← okOr .qqFailure context.clientSequence
  let random ← okOr .qqFailure context.random
  let unixSeconds ← failing .qqFailure (nowSeconds context.sentAt)
  let input : SendMessageInput := {
    target := target, segments := segments.map CompiledSegment.borrowed
    clientSequence := clientSequence, random := random, unixSeconds := unixSeconds }
  let body ← failing .badParameters (encodeMessage wire input)
  let reserve ← okOr .qqFailure (context.requestReserve body)
  let response ← okOr .qqFailure (context.sendWithReserve reserve body)
  let outcome ← failing .qqFailure (parseSendMessageResponse wire response)
  rejectIf .qqFailure (outcome.result ≠ 0)
  registerAccepted registry identity segments input outcome context.registeredAt

/-! ## The registration of an accepted message -/

theorem toUInt64_ne_zero {word : UInt32} (hword : word ≠ 0) : word.toUInt64 ≠ 0 := by
  intro hzero
  apply hword
  apply UInt32.toNat_inj.mp
  rw [← UInt32.toNat_toUInt64, hzero]
  rfl

/-- The correlation of a message to an accepted recipient is within the limits. -/
theorem outboundTarget_valid {target : SendTextTarget} (htarget : ValidTarget target)
    (correlations : OutboundCorrelations) :
    validRecall (outboundTarget target correlations) = true := by
  cases target with
  | group groupCode =>
      have hcode : groupCode ≠ 0 := htarget
      by_cases hsequence : correlations.sequence ≠ 0
      · have hwide := toUInt64_ne_zero hsequence
        by_cases hrandom : correlations.random ≠ 0
        · simp [outboundTarget, validRecall, hsequence, hwide, hrandom, hcode]
        · simp [outboundTarget, validRecall, hsequence, hwide, hrandom, hcode]
      · simp [outboundTarget, validRecall, hsequence]
  | «private» uin uid =>
      obtain ⟨huin, huid⟩ := htarget
      unfold outboundTarget
      dsimp only
      split
      · next hkeys =>
          obtain ⟨hsequence, hclient, hrandom, htimestamp⟩ := hkeys
          have hbounded : boundedUid Store.maxUidBytes uid = true := huid
          simp [validRecall, hbounded, huin, toUInt64_ne_zero hsequence,
            toUInt64_ne_zero hclient, hrandom, htimestamp]
      · rfl

/-- A message is registered, under the next free identifier, exactly when its
numbered record and the time of its insertion fit the store. -/
theorem registerOutbound_ok_iff {registry : MessageRegistry} {target : SendTextTarget}
    (htarget : ValidTarget target) {correlations : OutboundCorrelations}
    {insertedAtMs : UInt64} {fields : List (String × Json)} {id : UInt32} :
    (∃ next, registry.registerOutbound target correlations insertedAtMs (.ofFields fields) =
        .ok (next, id)) ↔
      id = registry.nextId (preferredId correlations.sequence.toUInt64) ∧
        (Json.ofFields (fields ++ numberFields id)).renderedLen ≤ maxJsonBytes ∧
        insertedAtMs ≠ 0 ∧ insertedAtMs.toNat < i64Bound := by
  have hid := registry.nextId_valid correlations.sequence.toUInt64
  have hrecall := outboundTarget_valid htarget correlations
  -- Only the length of the numbered response and the time are left to be checked.
  have hvalid : ∀ sorted, (Json.ofFields fields).asObject = some sorted →
      (validRecord (registry.nextId (preferredId correlations.sequence.toUInt64)) insertedAtMs
          (numberedResponse sorted
            (registry.nextId (preferredId correlations.sequence.toUInt64)))
          (outboundTarget target correlations) = true ↔
        (Json.ofFields (fields ++ numberFields
          (registry.nextId (preferredId correlations.sequence.toUInt64)))).renderedLen ≤
            maxJsonBytes ∧ insertedAtMs ≠ 0) := by
    intro sorted hsorted
    rw [validRecord_iff, numberedResponse_ofFields hsorted]
    simp [hid.1, hid.2, hrecall, Json.isSome_asObject_ofFields, and_comm]
  constructor
  · rintro ⟨next, hregister⟩
    obtain ⟨sorted, hsorted, hregister⟩ := bind_eq_ok_iff.mp hregister
    obtain ⟨record, hnew, hregister⟩ := bind_eq_ok_iff.mp hregister
    obtain ⟨store, hput, hpair⟩ := bind_eq_ok_iff.mp hregister
    cases hpair
    obtain ⟨hgood, rfl⟩ := MessageRecord.new_eq_ok_iff.mp hnew
    obtain ⟨hlength, hne⟩ := (hvalid sorted (okOr_eq_ok_iff.mp hsorted)).mp hgood
    exact ⟨rfl, hlength, hne, MessageStore.put_ok_iff.mp ⟨store, hput⟩⟩
  · rintro ⟨rfl, hlength, hne, htime⟩
    have hgood := (hvalid _ rfl).mpr ⟨hlength, hne⟩
    obtain ⟨record, hnew, hinserted⟩ := MessageRecord.new_ok hgood
    obtain ⟨store, hput⟩ := MessageStore.put_ok_iff.mpr (hinserted ▸ htime)
    refine ⟨{ store := store }, bind_eq_ok_iff.mpr ⟨_, rfl, ?_⟩⟩
    exact bind_eq_ok_iff.mpr ⟨_, hnew, bind_eq_ok_iff.mpr ⟨store, hput, rfl⟩⟩

/-- An accepted message is registered exactly when its record is within the limit
and the clock fits the store. -/
theorem registerAccepted_ok_iff {registry : MessageRegistry} {identity : AccountIdentity}
    {segments : List CompiledSegment} {input : SendMessageInput} {outcome : SendTextOutcome}
    {clock : Clock} (htarget : ValidTarget input.target) :
    (∃ accepted, registerAccepted registry identity segments input outcome clock =
        .ok accepted) ↔
      outboundLen identity input.target segments (acceptedAt outcome input.unixSeconds)
          (registry.nextId (preferredId outcome.sequence.toUInt64)) ≤ maxJsonBytes ∧
        ClockFits clock := by
  -- The numbered response is as long as its fields are.
  have hlength : ∀ id, (Json.ofFields (outboundFields identity input.target segments
        (acceptedAt outcome input.unixSeconds) ++ numberFields id)).renderedLen =
      outboundLen identity input.target segments (acceptedAt outcome input.unixSeconds) id :=
    outboundFields_renderedLen identity input.target segments _
  constructor
  · rintro ⟨accepted, haccepted⟩
    obtain ⟨now, hnow, haccepted⟩ := bind_eq_ok_iff.mp haccepted
    obtain ⟨⟨store, id⟩, hregister, -⟩ := bind_eq_ok_iff.mp haccepted
    obtain ⟨hid, hfits, hne, hsmall⟩ :=
      (registerOutbound_ok_iff htarget).mp ⟨store, failing_eq_ok_iff.mp hregister⟩
    rw [hlength, hid] at hfits
    exact ⟨hfits, clockFits_iff.mpr ⟨now, failing_eq_ok_iff.mp hnow, hne, hsmall⟩⟩
  · rintro ⟨hfits, hclock⟩
    obtain ⟨now, hnow, hne, hsmall⟩ := clockFits_iff.mp hclock
    rw [← hlength] at hfits
    obtain ⟨next, hregister⟩ : ∃ next, registry.registerOutbound input.target {
        sequence := outcome.sequence, clientSequence := input.clientSequence
        random := input.random, timestamp := acceptedAt outcome input.unixSeconds } now
        (outboundMessageRecord identity input.target segments
          (acceptedAt outcome input.unixSeconds)) =
            .ok (next, registry.nextId (preferredId outcome.sequence.toUInt64)) :=
      (registerOutbound_ok_iff htarget).mpr ⟨rfl, hfits, hne, hsmall⟩
    exact ⟨_, bind_eq_ok_iff.mpr ⟨now, failing_eq_ok_iff.mpr hnow,
      bind_eq_ok_iff.mpr ⟨_, failing_eq_ok_iff.mpr hregister, rfl⟩⟩⟩

/-- The answer is a message identifier. -/
theorem registerAccepted_answer {registry next : MessageRegistry} {identity : AccountIdentity}
    {segments : List CompiledSegment} {input : SendMessageInput} {outcome : SendTextOutcome}
    {clock : Clock} {answer : Json}
    (haccepted : registerAccepted registry identity segments input outcome clock =
      .ok (next, answer)) :
    ∃ id : UInt32, answer = .ofFields [("message_id", .integer id.toNat)] := by
  obtain ⟨_, -, haccepted⟩ := bind_eq_ok_iff.mp haccepted
  obtain ⟨⟨_, id⟩, -, hanswer⟩ := bind_eq_ok_iff.mp haccepted
  cases hanswer
  exact ⟨id, rfl⟩

theorem registerAccepted_error {registry : MessageRegistry} {identity : AccountIdentity}
    {segments : List CompiledSegment} {input : SendMessageInput} {outcome : SendTextOutcome}
    {clock : Clock} {error : AccountActionError}
    (herror : registerAccepted registry identity segments input outcome clock = .error error) :
    error = .qqFailure := by
  rcases bind_eq_error_iff.mp herror with hclock | ⟨now, -, hregister⟩
  · exact failing_eq_error hclock
  · rcases bind_eq_error_iff.mp hregister with hregister | ⟨_, -, hanswer⟩
    · exact failing_eq_error hregister
    · cases hanswer

/-! ## Accepted messages -/

/-- The request of a call was encoded and sent, and QQ accepted it. -/
structure Delivered (wire : OutboundWire) (context : SendContext)
    (segments : List CompiledSegment) (input : SendMessageInput) (outcome : SendTextOutcome) :
    Prop where
  segments : input.segments = segments.map CompiledSegment.borrowed
  clientSequence : context.clientSequence = some input.clientSequence
  random : context.random = some input.random
  sentAt : nowSeconds context.sentAt = .ok input.unixSeconds
  accepted : ∃ body reserve response, encodeMessage wire input = .ok body ∧
    context.requestReserve body = some reserve ∧
      context.sendWithReserve reserve body = some response ∧
        parseSendMessageResponse wire response = .ok outcome
  result : outcome.result = 0

section Accepted

variable {wire : OutboundWire} {context : SendContext} {segments : List CompiledSegment}
  {input : SendMessageInput} {outcome : SendTextOutcome}

theorem Delivered.target (hdelivered : Delivered wire context segments input outcome) :
    ValidTarget input.target := by
  obtain ⟨body, _, _, hencode, -⟩ := hdelivered.accepted
  exact encodeMessage_target hencode

theorem sendSegments_of_delivered
    (hdelivered : Delivered wire context segments input outcome) (registry : MessageRegistry)
    (identity : AccountIdentity) :
    sendSegments wire context registry identity input.target segments =
      registerAccepted registry identity segments input outcome context.registeredAt := by
  obtain ⟨body, reserve, response, hencode, hreserve, hsend, hparse⟩ := hdelivered.accepted
  have hresult : rejectIf AccountActionError.qqFailure (outcome.result ≠ 0) = .ok () := by
    simp [hdelivered.result]
  obtain ⟨target, borrowed, clientSequence, random, unixSeconds⟩ := input
  have hsegments : borrowed = segments.map CompiledSegment.borrowed := hdelivered.segments
  have hclient : context.clientSequence = some clientSequence := hdelivered.clientSequence
  have hrandom : context.random = some random := hdelivered.random
  have hsent : nowSeconds context.sentAt = .ok unixSeconds := hdelivered.sentAt
  subst hsegments
  simp only [sendSegments, hclient, hrandom, hsent, hencode, hreserve, hsend, hparse, hresult,
    okOr, failing, bind, Except.bind]

/-- A message that QQ has accepted is reported as sent, with its identifier,
exactly when its record is within the limit and the clock fits the store. -/
theorem sendSegments_ok_iff (hdelivered : Delivered wire context segments input outcome)
    (registry : MessageRegistry) (identity : AccountIdentity) :
    (∃ next id, sendSegments wire context registry identity input.target segments =
        .ok (next, .ofFields [("message_id", .integer (UInt32.toNat id))])) ↔
      outboundLen identity input.target segments (acceptedAt outcome input.unixSeconds)
          (registry.nextId (preferredId outcome.sequence.toUInt64)) ≤ maxJsonBytes ∧
        ClockFits context.registeredAt := by
  rw [sendSegments_of_delivered hdelivered, ← registerAccepted_ok_iff hdelivered.target]
  constructor
  · rintro ⟨next, id, hsent⟩
    exact ⟨_, hsent⟩
  · rintro ⟨⟨next, answer⟩, haccepted⟩
    obtain ⟨id, rfl⟩ := registerAccepted_answer haccepted
    exact ⟨next, id, haccepted⟩

end Accepted

/-! ## An image to a group -/

def gifHeader : String := "base64://R0lGODlhAQAB"

/-- The inline source of a GIF: its header, and zero bytes. -/
def imageSource (length : Nat) : String :=
  gifHeader ++ String.ofList (List.replicate length 'A')

def imageSegment (length : Nat) : CompiledSegment :=
  .image (imageSource length) true [1] []

def imageInput : SendMessageInput where
  target := .group 100
  segments := [.image true [1] []]
  clientSequence := 7
  random := 9
  unixSeconds := 1

def imageRequest : List UInt8 :=
  [0x0a, 4, 0x12, 2, 8, 100, 0x12, 6, 8, 1, 0x10, 0, 0x18, 0,
    0x1a, 14, 0x0a, 12, 0x12, 10, 0xaa, 3, 7, 8, 48, 0x12, 1, 1, 0x18, 20,
    0x20, 7, 0x28, 9]

/-- A response with the group sequence 5. -/
def imageResponse : List UInt8 := [0x58, 5]

/-- The library functions on the request and the response above. -/
def imageWire : OutboundWire where
  message := fun _ => imageRequest
  mentionExtra := fun _ => []
  standardFace := fun _ => []
  animatedFace := fun _ => []
  marketFace := fun _ => []
  markdown := fun _ => []
  poke := fun _ _ => []
  keyboard := fun _ => []
  sourceReserve := fun _ _ => []
  parseKeyboard := fun _ => none
  deflate := fun _ => none
  coordinate := fun _ => none
  sendResponse := fun input =>
    if input = imageResponse then
      some { result := 0, timestamp := 0, groupSequence := some 5, privateSequence := 0 }
    else none

def imageContext : SendContext where
  clientSequence := some 7
  random := some 9
  sentAt := some 1000
  registeredAt := some 2000
  requestReserve := fun _ => some []
  sendWithReserve := fun _ _ => some imageResponse

def imageOutcome : SendTextOutcome where
  result := 0
  sequence := 5
  timestamp := 0

/-- The source is no part of the request. -/
theorem image_delivered (length : Nat) :
    Delivered imageWire imageContext [imageSegment length] imageInput imageOutcome where
  segments := rfl
  clientSequence := rfl
  random := rfl
  sentAt := by decide
  accepted := ⟨imageRequest, [], imageResponse, by decide +kernel, rfl, rfl, by decide +kernel⟩
  result := rfl

theorem imageSource_textLen (length : Nat) : Json.textLen (imageSource length) = 23 + length := by
  have hletter : Json.escapedLen 'A' = 1 := by decide
  have hheader : Json.textLen gifHeader = 23 := by decide +kernel
  have happend : Json.textLen (imageSource length) =
      Json.textLen gifHeader + ((List.replicate length 'A').map Json.escapedLen).sum := by
    rw [imageSource, Json.textLen, Json.textLen, String.toList_append, String.toList_ofList,
      List.map_append, List.sum_append, Nat.add_assoc]
  rw [happend, hheader, List.map_replicate, hletter, List.sum_replicate_nat, Nat.mul_one]

/-- The record is longer than the source of its image. -/
theorem image_outboundLen (length : Nat) (timestamp id : UInt32) :
    length ≤ outboundLen MessageRegistry.ownIdentity imageInput.target [imageSegment length]
      timestamp id := by
  have hsource := imageSource_textLen length
  simp only [outboundLen, imageSegment, CompiledSegment.onebotLen, List.map_cons, List.map_nil,
    List.sum_cons, List.sum_nil]
  omega

theorem sendSegments_ok_iff_image :
    ∃ next id, sendSegments imageWire imageContext MessageRegistry.emptyRegistry
      MessageRegistry.ownIdentity (.group 100) [imageSegment 8] =
        .ok (next, .ofFields [("message_id", .integer (UInt32.toNat id))]) := by
  have hlength : outboundLen MessageRegistry.ownIdentity imageInput.target [imageSegment 8]
      (acceptedAt imageOutcome imageInput.unixSeconds)
      (MessageRegistry.emptyRegistry.nextId (preferredId imageOutcome.sequence.toUInt64)) ≤
        maxJsonBytes := by
    decide +kernel
  have hclock : ClockFits imageContext.registeredAt := ⟨2000, rfl, by decide, by decide⟩
  exact (sendSegments_ok_iff (image_delivered 8) _ _).mpr ⟨hlength, hclock⟩

/-- QQ has accepted the image, and the bot is told that the request failed. -/
theorem longImage_accepted_but_fails :
    Delivered imageWire imageContext [imageSegment 70000] imageInput imageOutcome ∧
      sendSegments imageWire imageContext MessageRegistry.emptyRegistry
        MessageRegistry.ownIdentity (.group 100) [imageSegment 70000] =
          .error .qqFailure := by
  have hdelivered := image_delivered 70000
  refine ⟨hdelivered, (sendSegments_of_delivered hdelivered _ _).trans ?_⟩
  cases hregister : registerAccepted MessageRegistry.emptyRegistry MessageRegistry.ownIdentity
      [imageSegment 70000] imageInput imageOutcome imageContext.registeredAt with
  | error error => rw [registerAccepted_error hregister]
  | ok accepted =>
      have hlength := ((registerAccepted_ok_iff hdelivered.target).mp ⟨_, hregister⟩).1
      have hlong := (image_outboundLen 70000 _ _).trans hlength
      exact absurd hlong (by decide)

end Runtime
end Lirvena
