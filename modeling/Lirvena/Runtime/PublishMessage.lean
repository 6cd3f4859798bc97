import Lirvena.Runtime.AccountEvent
import Lirvena.Runtime.Clock
import Lirvena.Runtime.PushQueue
import Lirvena.Runtime.ReplyResolution

/-!
# Publishing a queued message

The online runtime takes each message from the push queue, retains it and tells
the adapters; an error ends the runtime.  `publishMessage_ok_iff` says which of
the queued messages are published: the ones that have a `OneBot` projection, a
record within the limit, a correlation that can be stored and unambiguous
replies.
-/

namespace Lirvena
namespace Runtime

open Lib
open Message
open OneBot
open Online
open Store

/-- The errors that end the online runtime while it publishes. -/
inductive PublishError where
  | clock (error : ClockError)
  | store (error : MessageStoreError)
  deriving DecidableEq

def fileOf (element : RichTextElement) : Option GroupFileSegment :=
  match element.segment with
  | .file file => some file
  | _ => none

/-- `?` on an error of another type. -/
def raise {ε α : Type} (wrap : ε → PublishError) : Except ε α → Except PublishError α
  | .error error => .error (wrap error)
  | .ok value => .ok value

theorem raise_eq_ok_iff {ε α : Type} {wrap : ε → PublishError} {first : Except ε α} {value : α} :
    raise wrap first = .ok value ↔ first = .ok value := by
  cases first <;> simp [raise]

section Publish

variable {File : Type} (resolveNotice : UInt32 → UInt32 → Nat → GroupFileSegment → Option File)

/-- The notice of the first file in a group message, `File` being the resolved one; a
download that QQ does not offer is only logged. -/
def groupFileEvents (message : DecodedMessage) : List (AccountEvent File) :=
  match (elementsOf message.richText).findSome? fileOf, message.envelope.route.groupUin with
  | some file, some groupId =>
      ((resolveNotice groupId message.envelope.route.fromUin (occurredAt message.envelope)
        file).map AccountEvent.notice).toList
  | _, _ => []

def publishMessage (registry : MessageRegistry) (identity : AccountIdentity)
    (message : DecodedMessage) (clock : Clock) :
    Except PublishError (MessageRegistry × List (AccountEvent File)) := do
  let now ← raise .clock (nowMs clock)
  let (next, inbound) ← raise .store
    (registry.retainDecoded identity message.envelope message.richText now)
  return (next, .message inbound :: groupFileEvents resolveNotice message)

end Publish

/-! ## The messages that are published -/

/-- The correlation of a message can be stored: that of a group message when at
most one row carries it, that of a private one under `PrivatePrepares`. -/
def Correlatable (store : MessageStore) (envelope : MessageEnvelope) (selfUin : UInt64) : Prop :=
  match envelope.class with
  | .group =>
      ∀ groupCode, envelope.route.groupUin = some groupCode → groupCode ≠ 0 →
        envelope.sequence ≠ 0 →
          (store.carrying (StoredRow.CarriesGroup groupCode envelope.sequence)).length ≤ 1
  | .private => MessageRegistry.PrivatePrepares store envelope selfUin
  | _ => True

/-- The identifier under which a message is stored: the one of the message with
its correlation, or else a free one. -/
def storedId (registry : MessageRegistry) (identity : AccountIdentity)
    (envelope : MessageEnvelope) : UInt32 :=
  let free := registry.nextId (preferredId envelope.sequence)
  match (inboundTarget identity envelope).correlation with
  | none => free
  | some correlation =>
      match registry.store.carrying correlation.Carries with
      | [row] => (tryU32 row.messageId).getD free
      | _ => free

/-- The bytes of the record that a message is retained with. -/
def retainedLen (registry : MessageRegistry) (identity : AccountIdentity)
    (message : DecodedMessage) : Nat :=
  recordLen message.envelope (storedId registry identity message.envelope)
    ((elementsOf message.richText).map (fun element =>
      (element, expectedReply registry.store identity message.envelope element)))

/-- The message has a projection and a correlation that can be stored, its
replies are unambiguous, and its record is within the limit. -/
structure Publishable (registry : MessageRegistry) (identity : AccountIdentity)
    (message : DecodedMessage) (clock : Clock) : Prop where
  projectable : Projectable message.envelope
  correlatable : Correlatable registry.store message.envelope identity.qqId
  replies : UnambiguousReplies registry.store message.richText
  length : retainedLen registry identity message ≤ maxJsonBytes
  clock : ClockFits clock

namespace MessageRegistry

variable {registry : MessageRegistry} {identity : AccountIdentity}
  {envelope : MessageEnvelope} {richText : Option RichTextMessage}

theorem groupInbound_correlation_iff {envelope : MessageEnvelope} {correlation : Correlation} :
    (groupInbound envelope).correlation = some correlation ↔
      ∃ groupCode, envelope.route.groupUin = some groupCode ∧ groupCode ≠ 0 ∧
        envelope.sequence ≠ 0 ∧ correlation = .group groupCode envelope.sequence := by
  unfold groupInbound
  cases hgroup : envelope.route.groupUin with
  | none => simp [RecallTarget.correlation]
  | some groupCode =>
      -- The source drops the group unless both keys are set.
      by_cases hkeys : groupCode ≠ 0 ∧ envelope.sequence ≠ 0
      · have hsome : Option.filter (fun code => decide (code ≠ 0 ∧ envelope.sequence ≠ 0))
            (some groupCode) = some groupCode := by
          simp [Option.filter, hkeys]
        rw [hsome]
        constructor
        · intro hcorrelation
          cases hcorrelation
          exact ⟨groupCode, rfl, hkeys.1, hkeys.2, rfl⟩
        · rintro ⟨_, hcode, -, -, rfl⟩
          cases hcode
          rfl
      · have hnone : Option.filter (fun code => decide (code ≠ 0 ∧ envelope.sequence ≠ 0))
            (some groupCode) = none := by
          simp [Option.filter, hkeys]
        rw [hnone]
        constructor
        · intro hcorrelation
          cases hcorrelation
        · rintro ⟨_, hcode, hne, hsequence, -⟩
          cases hcode
          exact absurd ⟨hne, hsequence⟩ hkeys

/-- A message can be prepared exactly when its correlation can be stored. -/
theorem prepareInbound_ok_iff_correlatable {wire : PushWire}
    (hread : PushRuntime.Read wire envelope) :
    (∃ prepared, registry.prepareInbound identity envelope = .ok prepared) ↔
      Correlatable registry.store envelope identity.qqId := by
  obtain ⟨body, key, hread⟩ := hread
  -- group targets are always valid, and other classes have no correlation
  cases hclass : envelope.class with
  | group =>
      have htarget : inboundTarget identity envelope = groupInbound envelope := by
        simp [inboundTarget, hclass]
      rw [prepareInbound_ok_iff, htarget]
      simp only [groupInbound_valid, true_and, groupInbound_correlation_iff, Correlatable, hclass]
      constructor
      · intro hall groupCode hcode hne hsequence
        exact hall (.group groupCode envelope.sequence) ⟨groupCode, hcode, hne, hsequence, rfl⟩
      · rintro hall _ ⟨groupCode, hcode, hne, hsequence, rfl⟩
        exact hall groupCode hcode hne hsequence
  | «private» =>
      rw [prepareInbound_private_ok_iff hread hclass]
      simp [Correlatable, hclass]
  | _ =>
      rw [prepareInbound_ok_iff]
      simp [inboundTarget, Correlatable, hclass, validRecall, RecallTarget.correlation]

/-- A prepared message has the stored identifier. -/
theorem prepareInbound_storedId {messageId : UInt32} {target : RecallTarget}
    (hprepare : registry.prepareInbound identity envelope = .ok (messageId, target)) :
    messageId = storedId registry identity envelope := by
  unfold storedId
  obtain ⟨rfl, ⟨rfl, hfree⟩ | ⟨correlation, row, hcorrelation, hrows, hid, -⟩⟩ :=
    prepareInbound_cases hprepare
  · cases hcorrelation : (inboundTarget identity envelope).correlation with
    | none => rfl
    | some correlation => simp [hfree correlation hcorrelation]
  · simp [hcorrelation, hrows, hid, tryU32_intColumn]

/-! ## The retention of a prepared message -/

theorem repliedElements_expected (messageId : UInt32) (store : MessageStore) :
    InboundMessage.repliedElements {
        account := identity, messageId := messageId, envelope := envelope
        richText := richText
        replyIds := expectedReplies store identity envelope richText } =
      (elementsOf richText).map (fun element =>
        (element, expectedReply store identity envelope element)) := by
  apply List.ext_getElem
  · simp [InboundMessage.repliedElements]
  · intro index hleft hright
    have hindex : index < (elementsOf richText).length := by simpa using hright
    simp [InboundMessage.repliedElements, InboundMessage.replyId, expectedReplies, hindex]

theorem retainInbound_ok_iff {message : InboundMessage} {target : RecallTarget}
    {insertedAtMs : UInt64} (hid : ValidId message.messageId)
    (hrecall : validRecall target = true) :
    (∃ next, registry.retainInbound message target insertedAtMs = .ok next) ↔
      Projectable message.envelope ∧
        recordLen message.envelope message.messageId message.repliedElements ≤ maxJsonBytes ∧
          insertedAtMs ≠ 0 ∧ insertedAtMs.toNat < i64Bound := by
  -- Of the checks on a record, the length and the time are left.
  have hvalid : validRecord message.messageId insertedAtMs
        (.ofFields (recordFields message .number)) target = true ↔
      recordLen message.envelope message.messageId message.repliedElements ≤ maxJsonBytes ∧
        insertedAtMs ≠ 0 := by
    rw [validRecord_iff, recordFields_renderedLen, Json.isSome_asObject_ofFields]
    simp [hid.1, hid.2, hrecall, and_comm]
  constructor
  · rintro ⟨next, hretain⟩
    obtain ⟨response, record, hresponse, hnew, hput⟩ := retainInbound_eq_ok_iff.mp hretain
    have hprojectable := projectMessageRecord_ok_iff.mp ⟨response, hresponse⟩
    rw [projectMessageRecord_eq hprojectable] at hresponse
    cases hresponse
    obtain ⟨hgood, rfl⟩ := MessageRecord.new_eq_ok_iff.mp hnew
    have htime := MessageStore.put_ok_iff.mp ⟨next.store, hput⟩
    rw [quoted_insertedAtMs] at htime
    exact ⟨hprojectable, (hvalid.mp hgood).1, (hvalid.mp hgood).2, htime⟩
  · rintro ⟨hprojectable, hlength, hne, htime⟩
    obtain ⟨record, hnew, hinserted⟩ := MessageRecord.new_ok (hvalid.mpr ⟨hlength, hne⟩)
    have hquoted : (quoted record message).insertedAtMs = insertedAtMs := by
      rw [quoted_insertedAtMs, hinserted]
    obtain ⟨store, hput⟩ := MessageStore.put_ok_iff.mpr (hquoted ▸ htime)
    exact ⟨{ store := store }, retainInbound_eq_ok_iff.mpr
      ⟨_, record, projectMessageRecord_eq hprojectable, hnew, hput⟩⟩

/-- A prepared message is retained under its stored identifier. -/
theorem retainInbound_ok_iff_of_prepared {messageId : UInt32} {target : RecallTarget}
    {insertedAtMs : UInt64}
    (hprepare : registry.prepareInbound identity envelope = .ok (messageId, target)) :
    (∃ next, registry.retainInbound {
        account := identity, messageId := messageId, envelope := envelope
        richText := richText
        replyIds := expectedReplies registry.store identity envelope richText }
        target insertedAtMs = .ok next) ↔
      Projectable envelope ∧
        retainedLen registry identity { envelope := envelope, richText := richText } ≤
          maxJsonBytes ∧ insertedAtMs ≠ 0 ∧ insertedAtMs.toNat < i64Bound := by
  obtain ⟨htarget, hid, -⟩ := prepareInbound_eq_ok hprepare
  have hvalid := (prepareInbound_ok_iff.mp ⟨_, hprepare⟩).1
  rw [← htarget] at hvalid
  rw [retainInbound_ok_iff hid hvalid, repliedElements_expected,
    prepareInbound_storedId hprepare]
  rfl

/-- What a message is retained under. -/
theorem retainDecoded_ok_iff {wire : PushWire} {insertedAtMs : UInt64}
    (hread : PushRuntime.Read wire envelope) :
    (∃ retained, registry.retainDecoded identity envelope richText insertedAtMs =
        .ok retained) ↔
      Projectable envelope ∧ Correlatable registry.store envelope identity.qqId ∧
        UnambiguousReplies registry.store richText ∧
          retainedLen registry identity { envelope := envelope, richText := richText } ≤
            maxJsonBytes ∧
            insertedAtMs ≠ 0 ∧ insertedAtMs.toNat < i64Bound := by
  by_cases hreplies : UnambiguousReplies registry.store richText
  · rw [retainDecoded_of_unambiguous hreplies, ← prepareInbound_ok_iff_correlatable hread]
    constructor
    · rintro ⟨retained, hretain⟩
      obtain ⟨prepared, hprepare, hretain⟩ := bind_eq_ok_iff.mp hretain
      obtain ⟨next, hnext, -⟩ := bind_eq_ok_iff.mp hretain
      obtain ⟨hprojectable, hrest⟩ :=
        (retainInbound_ok_iff_of_prepared hprepare).mp ⟨next, hnext⟩
      exact ⟨hprojectable, ⟨prepared, hprepare⟩, hreplies, hrest⟩
    · rintro ⟨hprojectable, ⟨prepared, hprepare⟩, -, hrest⟩
      obtain ⟨next, hnext⟩ :=
        (retainInbound_ok_iff_of_prepared hprepare).mpr ⟨hprojectable, hrest⟩
      exact ⟨_, bind_eq_ok_iff.mpr ⟨_, hprepare, bind_eq_ok_iff.mpr ⟨next, hnext, rfl⟩⟩⟩
  · -- an ambiguous reply fails the message before anything is stored
    obtain ⟨error, herror⟩ : ∃ error, registry.retainDecoded identity envelope richText
        insertedAtMs = .error error := retainDecoded_of_ambiguous hreplies
    constructor
    · rintro ⟨retained, hretain⟩
      rw [herror] at hretain
      cases hretain
    · rintro ⟨-, -, hgood, -⟩
      exact absurd hgood hreplies

end MessageRegistry

/-! ## Queued messages -/

/-- A queued message is published exactly when it is publishable; any other one
ends the online runtime. -/
theorem publishMessage_ok_iff {wire : PushWire} {plan : PushPlan}
    {inputs : List PushRuntime.PushInput} {message : DecodedMessage}
    (hqueued : .message message ∈ ((PushRuntime.machine wire).run (.new plan) inputs).events)
    {File : Type} (resolveNotice : UInt32 → UInt32 → Nat → GroupFileSegment → Option File)
    (registry : MessageRegistry) (identity : AccountIdentity) (clock : Clock) :
    (∃ published, publishMessage resolveNotice registry identity message clock =
        .ok published) ↔
      Publishable registry identity message clock := by
  have hread : PushRuntime.Read wire message.envelope :=
    PushRuntime.run_accepted plan inputs _ hqueued
  have hsteps : (∃ published, publishMessage resolveNotice registry identity message clock =
        .ok published) ↔
      ∃ now, nowMs clock = .ok now ∧ ∃ retained, registry.retainDecoded identity
        message.envelope message.richText now = .ok retained := by
    constructor
    · rintro ⟨published, hpublish⟩
      obtain ⟨now, hnow, hpublish⟩ := bind_eq_ok_iff.mp hpublish
      obtain ⟨retained, hretained, -⟩ := bind_eq_ok_iff.mp hpublish
      exact ⟨now, raise_eq_ok_iff.mp hnow, retained, raise_eq_ok_iff.mp hretained⟩
    · rintro ⟨now, hnow, retained, hretained⟩
      exact ⟨_, bind_eq_ok_iff.mpr ⟨now, raise_eq_ok_iff.mpr hnow,
        bind_eq_ok_iff.mpr ⟨retained, raise_eq_ok_iff.mpr hretained, rfl⟩⟩⟩
  rw [hsteps]
  constructor
  · rintro ⟨now, hnow, hretained⟩
    obtain ⟨hprojectable, hcorrelatable, hreplies, hlength, hne, hsmall⟩ :=
      (MessageRegistry.retainDecoded_ok_iff hread).mp hretained
    exact ⟨hprojectable, hcorrelatable, hreplies, hlength,
      clockFits_iff.mpr ⟨now, hnow, hne, hsmall⟩⟩
  · rintro ⟨hprojectable, hcorrelatable, hreplies, hlength, hclock⟩
    obtain ⟨now, hnow, hne, hsmall⟩ := clockFits_iff.mp hclock
    exact ⟨now, hnow, (MessageRegistry.retainDecoded_ok_iff hread).mpr
      ⟨hprojectable, hcorrelatable, hreplies, hlength, hne, hsmall⟩⟩

/-! ## A message of an unknown type -/

/-- A message of type 9 from account 42. -/
def unknownMessageBytes : List UInt8 :=
  [0x0a, 8, 0x0a, 2, 8, 42, 0x12, 2, 8, 9]

def unknownMessageBody : PushBody where
  response := some { PushRuntime.emptyResponse with fromUin := 42 }
  content := some (PushRuntime.plainContent 9)
  body := none

/-- The library functions on the bytes above. -/
def unknownMessageWire : PushWire :=
  { PushRuntime.overflowWire with
    message := { PushRuntime.overflowWire.message with
      push := fun input =>
        if input = unknownMessageBytes then some { message := some unknownMessageBody }
        else none } }

/-- A plan with one route, for ordinary messages. -/
def messagePlan : PushPlan where
  entries := [{
    route := "MsgPush"
    behavior := .message
    responseRoute := none
    parameter := 0
    maximumBodyLen := maxPushBodyLen
    valid := by decide }]
  valid := by decide

def unknownMessage : DecodedMessage where
  envelope := messageEnvelope { PushRuntime.emptyResponse with fromUin := 42 }
    (PushRuntime.plainContent 9) emptyBody
  richText := none

def unknownInput : PushRuntime.PushInput :=
  .handle "MsgPush" unknownMessageBytes PushRuntime.emptySync

theorem unknownMessage_queued :
    .message unknownMessage ∈
      ((PushRuntime.machine unknownMessageWire).run (.new messagePlan) [unknownInput]).events := by
  decide +kernel

theorem publishMessage_ok_iff_unknown :
    (∃ published, publishMessage (fun _ _ _ _ => (none : Option Unit))
        MessageRegistry.emptyRegistry MessageRegistry.ownIdentity unknownMessage (some 1) =
          .ok published) ↔
      Publishable MessageRegistry.emptyRegistry MessageRegistry.ownIdentity unknownMessage
        (some 1) :=
  publishMessage_ok_iff unknownMessage_queued (fun _ _ _ _ => none)
    MessageRegistry.emptyRegistry MessageRegistry.ownIdentity (some 1)

/-- The message is queued, and the online runtime ends when it is published. -/
theorem unknownMessage_ends_runtime :
    .message unknownMessage ∈
        ((PushRuntime.machine unknownMessageWire).run (.new messagePlan)
          [unknownInput]).events ∧
      (publishMessage (fun _ _ _ _ => (none : Option Unit)) MessageRegistry.emptyRegistry
        MessageRegistry.ownIdentity unknownMessage (some 1)).map (fun _ => ()) =
          .error (.store .configuration) :=
  ⟨by decide +kernel, by decide +kernel⟩

end Runtime
end Lirvena
