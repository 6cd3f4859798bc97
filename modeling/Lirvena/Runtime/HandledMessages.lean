import Lirvena.Message.ReadableRichText
import Lirvena.Runtime.PushQueue

/-!
# Which message pushes are handled without an error

An error of `handle` ends the online runtime.  A push with messages that the outer
decoder accepts is handled to its end exactly when each new envelope is decodable
and each recall notice finds room for all of its recalls: one rich text that is not
readable is an error of the whole push, and the messages behind it are not queued.
-/

namespace Lirvena
namespace Runtime

open Lib
open Message
open Online

/-! ## What a push asks of the queue -/

/-- A notice decoder claims the envelope before one rejects it, or none claims it and
its rich text is readable. -/
def Decodable (wire : PushWire) (envelope : MessageEnvelope) : Prop :=
  ∃ claimed, firstDecoded (noticeDecoders wire.notice envelope) = .ok claimed ∧
    (claimed = none → ∀ body, envelope.payload.richText = some body →
      ReadableRichText wire.richText body)

/-- The recalls of an envelope that the recall decoder claims. -/
def recallsOf (wire : PushWire) (envelope : MessageEnvelope) : Option (List GroupRecall) :=
  match firstDecoded (noticeDecoders wire.notice envelope) with
  | .ok (some (.groupRecalls recalls)) => some recalls
  | _ => none

/-- The slots of the queue that an envelope takes. -/
def slotsOf (wire : PushWire) (envelope : MessageEnvelope) : Nat :=
  (recallsOf wire envelope).elim 1 List.length

/-- The recalls of the envelope, if it has any, fit into the room. -/
def RoomFor (wire : PushWire) (slots bytes : Nat) (envelope : MessageEnvelope) : Prop :=
  ∀ recalls, recallsOf wire envelope = some recalls →
    recalls.length ≤ slots ∧ envelope.encodedLen * recalls.length ≤ bytes

/-- Each recall notice finds room for its recalls behind the envelopes before it. -/
def RecallsFit (wire : PushWire) : Nat → Nat → List MessageEnvelope → Prop
  | _, _, [] => True
  | slots, bytes, envelope :: rest =>
      RoomFor wire slots bytes envelope ∧ RecallsFit wire (slots - slotsOf wire envelope)
        (bytes - envelope.encodedLen * slotsOf wire envelope) rest

/-- The events that an envelope is queued as. -/
def eventsOf (wire : PushWire) (envelope : MessageEnvelope) : List DecodedPush :=
  match decodeEnvelope wire envelope with
  | .error _ => []
  | .ok (.event event) => [event]
  | .ok (.groupRecalls recalls) => PushRuntime.recallEvents envelope recalls

namespace PushRuntime

/-- The messages of a push for the outer decoder, and whether they are embedded ones. -/
def pushedMessages (wire : PushWire) (runtime : PushRuntime) (command : String)
    (payload : List UInt8) (sync : OnlineSyncState) : Option (Bool × List (List UInt8)) :=
  match runtime.plan.find command with
  | none => none
  | some entry =>
      match (runtime.process wire entry payload sync).2 with
      | .ok (.message body) => some (false, [body])
      | .ok (.infoSync outcome) => some (true, outcome.messages)
      | _ => none

/-- The envelopes of the messages that are no duplicates, when the outer decoder
accepts all messages. -/
def newEnvelopes (wire : PushWire) (embedded : Bool) :
    MessageDecoder → List (List UInt8) → Option (List MessageEnvelope)
  | _, [] => some []
  | decoder, body :: rest =>
      match decodeMessage wire decoder embedded body with
      | (_, .error _) => none
      | (next, .ok .duplicate) => newEnvelopes wire embedded next rest
      | (next, .ok (.new envelope)) =>
          (newEnvelopes wire embedded next rest).map (envelope :: ·)

/-- Admits the messages in order and stops at the first error. -/
def admitAll (wire : PushWire) (embedded : Bool) (runtime : PushRuntime) :
    List (List UInt8) → PushRuntime × Except PushRuntimeError Unit
  | [] => (runtime, .ok ())
  | body :: rest =>
      match runtime.admitMessage wire body embedded with
      | (next, .error error) => (next, .error error)
      | (next, .ok ()) => next.admitAll wire embedded rest

/-- The runtime goes on after the push: no error, the queue is kept, and what can be
decoded of the push is queued. -/
structure Survives (wire : PushWire) (runtime : PushRuntime) (envelopes : List MessageEnvelope)
    (result : (PushRuntime × OnlineSyncState) × Handled) : Prop where
  returns : Returns result.2
  queue_kept : runtime.events <+: result.1.1.events
  decodable_queued : ∀ envelope ∈ envelopes, Decodable wire envelope →
    ∀ event ∈ eventsOf wire envelope, event ∈ result.1.1.events

variable {wire : PushWire} {runtime next : PushRuntime} {envelope : MessageEnvelope}

/-! ## One envelope -/

theorem decodeBody_returns_iff {richText : Option (List UInt8)} :
    Returns (decodeBody wire.richText richText) ↔
      ∀ body, richText = some body → ReadableRichText wire.richText body := by
  cases richText with
  | none => simp [decodeBody]
  | some body => simp [decodeBody, decodeRichText_returns_iff]

theorem decodeEnvelope_returns_iff :
    Returns (decodeEnvelope wire envelope) ↔ Decodable wire envelope := by
  unfold decodeEnvelope Decodable
  rw [returns_bind_iff]
  refine exists_congr fun claimed => and_congr_right fun _ => ?_
  cases claimed with
  | some decoded => simp
  | none =>
      simp only [returns_bind_iff, returns_pure, and_true, exists_ok_iff, decodeBody_returns_iff,
        true_imp_iff]

/-- Only the recall decoder gives recalls. -/
theorem decodeEnvelope_recalls_iff {recalls : List GroupRecall} :
    decodeEnvelope wire envelope = .ok (.groupRecalls recalls) ↔
      recallsOf wire envelope = some recalls := by
  unfold decodeEnvelope recallsOf
  rw [bind_eq_ok_iff]
  cases hfirst : firstDecoded (noticeDecoders wire.notice envelope) with
  | error error => simp
  | ok claimed =>
      rcases claimed with _ | event | found
      · simp [bind_eq_ok_iff, pure, Except.pure]
      · simp [pure, Except.pure]
      · simp [pure, Except.pure]

theorem recallsOf_event {event : DecodedPush}
    (hdecode : decodeEnvelope wire envelope = .ok (.event event)) :
    recallsOf wire envelope = none := by
  cases hrecalls : recallsOf wire envelope with
  | none => rfl
  | some recalls =>
      have hother := decodeEnvelope_recalls_iff.mpr hrecalls
      rw [hdecode] at hother
      cases hother

/-- An envelope is queued as its events when it is decodable and fits; otherwise it is
an error that leaves the runtime as it was. -/
theorem pushEnvelope_cases (wire : PushWire) (runtime : PushRuntime) {envelope : MessageEnvelope}
    (hroom : runtime.queuedMessageBytes + envelope.encodedLen < u64Bound) :
    (Decodable wire envelope ∧
        RoomFor wire runtime.availableMessageSlots runtime.availableMessageBytes envelope ∧
        runtime.pushEnvelope wire envelope =
          ({ runtime with
              events := runtime.events ++ eventsOf wire envelope
              queuedMessageBytes :=
                runtime.queuedMessageBytes + envelope.encodedLen * slotsOf wire envelope },
            .ok ())) ∨
      (¬ (Decodable wire envelope ∧
          RoomFor wire runtime.availableMessageSlots runtime.availableMessageBytes envelope) ∧
        ∃ error, runtime.pushEnvelope wire envelope = (runtime, .error error)) := by
  cases hdecode : decodeEnvelope wire envelope with
  | error error =>
      right
      refine ⟨?_, .message error, by simp [pushEnvelope, hdecode]⟩
      rintro ⟨hdecodable, -⟩
      obtain ⟨decoded, hok⟩ := decodeEnvelope_returns_iff.mpr hdecodable
      rw [hdecode] at hok
      cases hok
  | ok decoded =>
      have hdecodable : Decodable wire envelope := decodeEnvelope_returns_iff.mp ⟨decoded, hdecode⟩
      cases decoded with
      | event event =>
          left
          have hnone := recallsOf_event hdecode
          have hfits : RoomFor wire runtime.availableMessageSlots runtime.availableMessageBytes
              envelope := by
            intro recalls hrecalls
            rw [hnone] at hrecalls
            cases hrecalls
          refine ⟨hdecodable, hfits, ?_⟩
          simp [pushEnvelope, hdecode, pushEvent, decodeEnvelope_event hdecode, checkedAddU64,
            hroom,
            eventsOf, slotsOf, hnone]
      | groupRecalls recalls =>
          have hrecalls := decodeEnvelope_recalls_iff.mp hdecode
          have hpush :
              runtime.pushEnvelope wire envelope = runtime.pushRecalls envelope recalls := by
            simp [pushEnvelope, hdecode]
          rcases pushRecalls_cases runtime envelope recalls with
            ⟨hslots, hbytes, hqueued⟩ | ⟨hfull, error, hrefused⟩
          · left
            refine ⟨hdecodable, ?_, ?_⟩
            · intro others hothers
              obtain rfl : recalls = others := Option.some.inj (hrecalls.symm.trans hothers)
              exact ⟨hslots, hbytes⟩
            · rw [hpush, hqueued]
              simp [eventsOf, hdecode, slotsOf, hrecalls]
          · right
            exact ⟨fun hgood => hfull (hgood.2 recalls hrecalls), error, hpush.trans hrefused⟩

theorem eventsOf_length (hdecodable : Decodable wire envelope) :
    (eventsOf wire envelope).length = slotsOf wire envelope := by
  obtain ⟨decoded, hdecode⟩ := decodeEnvelope_returns_iff.mpr hdecodable
  cases decoded with
  | event event =>
      simp [eventsOf, hdecode, slotsOf, recallsOf_event hdecode]
  | groupRecalls recalls =>
      simp [eventsOf, hdecode, slotsOf, decodeEnvelope_recalls_iff.mp hdecode, recallEvents]

/-- The bytes that an envelope is counted with leave room for the bytes behind it. -/
theorem queued_lt_of_roomFor {slots queued length rest : Nat}
    (hfits : RoomFor wire slots (maxQueuedMessageBytes - queued) envelope)
    (hlen : envelope.encodedLen ≤ length) (hcount : queued + (length + rest) < u64Bound)
    (hoffered : length + rest ≤ maxQueuedMessageBytes) :
    queued + envelope.encodedLen * slotsOf wire envelope + rest < u64Bound := by
  unfold slotsOf
  cases hrecalls : recallsOf wire envelope with
  | none =>
      simp only [Option.elim_none, Nat.mul_one]
      omega
  | some recalls =>
      have hbytes := (hfits recalls hrecalls).2
      simp only [Option.elim_some]
      -- the expansion either adds nothing or ends below the limit
      unfold maxQueuedMessageBytes at hbytes hoffered
      unfold u64Bound at hcount ⊢
      omega

/-! ## The messages of a push -/

theorem decodeMessage_encodedLen {decoder decoded : MessageDecoder} {embedded : Bool}
    {body : List UInt8} (hwire : wire.message.Bounded)
    (hdecode : decodeMessage wire decoder embedded body = (decoded, .ok (.new envelope))) :
    envelope.encodedLen ≤ body.length := by
  cases embedded with
  | false => exact (MessageDecoder.decode_encodedLen hwire hdecode).1
  | true => exact (MessageDecoder.decodeEmbedded_encodedLen hwire hdecode).1

/-- The messages are admitted to the end exactly when their envelopes are decodable and
their recalls fit.  What the processor offers of the queue keeps the byte count from
overflowing, and the induction carries that bound. -/
theorem admitAll_returns_iff (hwire : wire.message.Bounded) {embedded : Bool}
    (runtime : PushRuntime) {bodies : List (List UInt8)} {envelopes : List MessageEnvelope}
    (haccepted : newEnvelopes wire embedded runtime.decoder bodies = some envelopes)
    (hcount : runtime.queuedMessageBytes + (bodies.map List.length).sum < u64Bound)
    (hoffered : (bodies.map List.length).sum ≤ maxQueuedMessageBytes) :
    (Returns (runtime.admitAll wire embedded bodies).2 ↔
        (∀ envelope ∈ envelopes, Decodable wire envelope) ∧
          RecallsFit wire runtime.availableMessageSlots runtime.availableMessageBytes envelopes) ∧
      (Returns (runtime.admitAll wire embedded bodies).2 →
        (runtime.admitAll wire embedded bodies).1.events =
          runtime.events ++ envelopes.flatMap (eventsOf wire)) := by
  induction bodies generalizing runtime envelopes with
  | nil =>
      cases haccepted
      simp [admitAll, RecallsFit]
  | cons body rest ih =>
      simp only [List.map_cons, List.sum_cons] at hcount hoffered
      match hdecode : decodeMessage wire runtime.decoder embedded body with
      | (decoder, .error error) =>
          simp only [newEnvelopes, hdecode] at haccepted
          cases haccepted
      | (decoder, .ok .duplicate) =>
          simp only [newEnvelopes, hdecode] at haccepted
          have hadmitted : runtime.admitAll wire embedded (body :: rest) =
              { runtime with decoder := decoder }.admitAll wire embedded rest := by
            simp [admitAll, admitMessage, hdecode]
          rw [hadmitted]
          have hless : runtime.queuedMessageBytes + (rest.map List.length).sum < u64Bound := by
            omega
          exact ih { runtime with decoder := decoder } haccepted hless (by omega)
      | (decoder, .ok (.new envelope)) =>
          simp only [newEnvelopes, hdecode] at haccepted
          obtain ⟨others, hothers, rfl⟩ := Option.map_eq_some_iff.mp haccepted
          have hlen := decodeMessage_encodedLen hwire hdecode
          have hadmitted : runtime.admitMessage wire body embedded =
              { runtime with decoder := decoder }.pushEnvelope wire envelope := by
            simp [admitMessage, hdecode]
          have hsmall : runtime.queuedMessageBytes + envelope.encodedLen < u64Bound := by omega
          rcases pushEnvelope_cases wire { runtime with decoder := decoder } hsmall with
            ⟨hdecodable, hfits, hpush⟩ | ⟨hbad, error, hpush⟩
          · have hqueued : runtime.admitAll wire embedded (body :: rest) =
                admitAll wire embedded { runtime with
                  decoder := decoder
                  events := runtime.events ++ eventsOf wire envelope
                  queuedMessageBytes := runtime.queuedMessageBytes +
                    envelope.encodedLen * slotsOf wire envelope } rest := by
              simp [admitAll, hadmitted, hpush]
            have hfits : RoomFor wire runtime.availableMessageSlots runtime.availableMessageBytes
                envelope := hfits
            have hnext := queued_lt_of_roomFor hfits hlen hcount hoffered
            have hrest := ih { runtime with
              decoder := decoder
              events := runtime.events ++ eventsOf wire envelope
              queuedMessageBytes := runtime.queuedMessageBytes +
                envelope.encodedLen * slotsOf wire envelope } hothers hnext (by omega)
            simp only [availableMessageSlots, availableMessageBytes, List.length_append,
              eventsOf_length hdecodable, Nat.sub_add_eq] at hrest
            rw [hqueued]
            constructor
            · rw [hrest.1, List.forall_mem_cons]
              simp only [RecallsFit, hdecodable, hfits, true_and]
              rfl
            · intro hreturns
              rw [hrest.2 hreturns, List.flatMap_cons, List.append_assoc]
          · have hrefused : runtime.admitAll wire embedded (body :: rest) =
                ({ runtime with decoder := decoder }, .error error) := by
              simp [admitAll, hadmitted, hpush]
            rw [hrefused]
            refine ⟨iff_of_false (not_returns_error error) ?_,
              fun hreturns => absurd hreturns (not_returns_error error)⟩
            rintro ⟨hall, hfit, -⟩
            exact hbad ⟨hall envelope (List.mem_cons_self ..), hfit⟩

theorem admitAll_single (runtime : PushRuntime) (body : List UInt8) :
    runtime.admitAll wire false [body] = runtime.admitMessage wire body false := by
  unfold admitAll
  split
  · next hadmitted => exact hadmitted.symm
  · next hadmitted => exact hadmitted.symm

theorem admitAll_embedded (runtime : PushRuntime) (bodies : List (List UInt8)) :
    runtime.admitAll wire true bodies = runtime.admitEmbedded wire bodies := by
  induction bodies generalizing runtime with
  | nil => rfl
  | cons body rest ih =>
      match hadmitted : runtime.admitMessage wire body true with
      | (next, .error error) => simp [admitAll, admitEmbedded, hadmitted]
      | (next, .ok ()) => simp [admitAll, admitEmbedded, hadmitted, ih]

/-- A push with messages is handled by admitting them, within what the queue offers. -/
theorem handle_pushedMessages {command : String} {payload : List UInt8} {sync : OnlineSyncState}
    {embedded : Bool} {bodies : List (List UInt8)}
    (hpush : runtime.pushedMessages wire command payload sync = some (embedded, bodies)) :
    (bodies.map List.length).sum ≤ runtime.availableMessageBytes ∧
      ∃ processor sync', runtime.handle wire command payload sync =
        (((admitAll wire embedded { runtime with processor := processor } bodies).1, sync'),
          (fun _ => none) <$>
            (admitAll wire embedded { runtime with processor := processor } bodies).2) := by
  unfold pushedMessages at hpush
  cases hfind : runtime.plan.find command with
  | none => simp [hfind] at hpush
  | some entry =>
      rcases hprocess : runtime.process wire entry payload sync with
        ⟨⟨processor, sync'⟩, outcome⟩
      have houtcome := congrArg Prod.snd hprocess
      cases outcome with
      | error error => simp [hfind, hprocess] at hpush
      | ok outcome =>
          simp only [hfind, hprocess] at hpush
          cases outcome with
          | ack route body => cases hpush
          | observed => cases hpush
          | protectiveOffline notice => cases hpush
          | message body =>
              cases hpush
              have hroom := PushProcessor.apply_message houtcome
              refine ⟨by simpa using hroom.2, processor, sync', ?_⟩
              rw [admitAll_single]
              simp only [handle, hfind, hprocess, handleOutcome]
              rfl
          | infoSync outcome =>
              cases hpush
              have hroom := PushProcessor.apply_infoSync houtcome
              refine ⟨hroom.2, processor, sync', ?_⟩
              rw [admitAll_embedded]
              simp only [handle, hfind, hprocess, handleOutcome]
              rfl

/-- A push whose messages the outer decoder accepts lets the runtime go on exactly when
every new envelope of it is decodable and its recalls fit into the queue. -/
theorem handle_survives_iff (wire : PushWire) (hwire : wire.message.Bounded)
    (runtime : PushRuntime) (hcount : runtime.queuedMessageBytes < u64Bound) (command : String)
    (payload : List UInt8) (sync : OnlineSyncState) {embedded : Bool}
    {bodies : List (List UInt8)} {envelopes : List MessageEnvelope}
    (hpush : runtime.pushedMessages wire command payload sync = some (embedded, bodies))
    (haccepted : newEnvelopes wire embedded runtime.decoder bodies = some envelopes) :
    Survives wire runtime envelopes (runtime.handle wire command payload sync) ↔
      (∀ envelope ∈ envelopes, Decodable wire envelope) ∧
        RecallsFit wire runtime.availableMessageSlots runtime.availableMessageBytes
          envelopes := by
  obtain ⟨hoffered, processor, sync', hhandle⟩ := handle_pushedMessages hpush
  have hbound : runtime.queuedMessageBytes + (bodies.map List.length).sum < u64Bound := by
    unfold availableMessageBytes maxQueuedMessageBytes at hoffered
    unfold u64Bound at hcount ⊢
    omega
  have hlimit : (bodies.map List.length).sum ≤ maxQueuedMessageBytes :=
    hoffered.trans (Nat.sub_le _ _)
  obtain ⟨hreturns, hevents⟩ := admitAll_returns_iff hwire { runtime with processor := processor }
    haccepted hbound hlimit
  rw [hhandle]
  constructor
  · intro hsurvives
    exact hreturns.mp (returns_map_iff.mp hsurvives.returns)
  · intro hgood
    have hadmitted := hreturns.mpr hgood
    have hqueue := hevents hadmitted
    refine ⟨returns_map_iff.mpr hadmitted, ?_, ?_⟩
    · exact ⟨_, hqueue.symm⟩
    · intro envelope hmem _ event hevent
      show event ∈ (admitAll wire embedded { runtime with processor := processor } bodies).1.events
      rw [hqueue]
      exact List.mem_append_right _ (List.mem_flatMap.mpr ⟨envelope, hmem, hevent⟩)

/-! ## A text with a NUL before an ordinary message -/

section NulText

/-- An element with the one-byte text NUL. -/
def nulElementBytes : List UInt8 :=
  [0x0a, 3, 0x0a, 1, 0]

def nulRichTextBytes : List UInt8 :=
  [0x12, 5] ++ nulElementBytes

/-- A group message of sequence 1 with that rich text. -/
def nulMessageBytes : List UInt8 :=
  [0x0a, 0, 0x12, 4, 8, 0x52, 0x28, 1, 0x1a, 9, 0x0a, 7] ++ nulRichTextBytes

/-- A synchronization push that embeds the message and behind it one without a body. -/
def nulPacketBytes : List UInt8 :=
  [0x3a, 0x1f, 0x1a, 0x1d, 0x32, 19] ++ nulMessageBytes ++ [0x32, 6] ++ groupMessageBytes

def nulMessageBody : PushBody where
  response := some emptyResponse
  content := some { plainContent 82 with sequence := some 1 }
  body := some { richText := some nulRichTextBytes, content := none, encryptedContent := none }

def emptyElement : ElementWire where
  text := none
  face := none
  directImage := none
  transfer := none
  marketFace := none
  groupImage := none
  richMessage := none
  video := none
  lightApp := none
  common := none
  source := none

/-- The library functions on the bytes above. -/
def nulWire : PushWire :=
  { overflowWire with
    message := { overflowWire.message with
      pushBody := fun input =>
        if input = groupMessageBytes then some groupMessageBody
        else if input = nulMessageBytes then some nulMessageBody
        else none }
    richText := { overflowWire.richText with
      richText := fun input =>
        if input = nulRichTextBytes then
          some { attributes := none, elements := [nulElementBytes], file := none, voice := none }
        else none
      element := fun input =>
        if input = nulElementBytes then some { emptyElement with text := some [0x0a, 1, 0] }
        else none
      text := fun input =>
        if input = [0x0a, 1, 0] then
          some { text := some "\x00", legacyAttributes := none, reserve := none }
        else none }
    codec := { overflowWire.codec with
      packet := fun input =>
        if input = nulPacketBytes then
          some { overflowPacket with
            groupNotifications := some [{
              groupCode := 0
              startSequence := 0
              endSequence := 0
              messages := [nulMessageBytes, groupMessageBytes]
              lastSpeakTimestamp := 0 }] }
        else none } }

/-- The two envelopes of the push. -/
def nulEnvelopes : List MessageEnvelope :=
  [messageEnvelope emptyResponse { plainContent 82 with sequence := some 1 }
      { richText := some nulRichTextBytes, content := none, encryptedContent := none },
    messageEnvelope emptyResponse (plainContent 82) emptyBody]

theorem nulWire_bounded : nulWire.message.Bounded where
  push_payload := by
    intro input push body payload hpush
    cases hpush
  pushBody_payload := by
    intro input body payload hbody hpayload
    have hbody : (if input = groupMessageBytes then some groupMessageBody
        else if input = nulMessageBytes then some nulMessageBody else none) = some body := hbody
    split at hbody
    · cases hbody
      cases hpayload
    · split at hbody
      · next hinput =>
          cases hbody
          cases hpayload
          subst hinput
          decide
      · cases hbody

theorem handle_survives_iff_nul :
    Survives nulWire (.new infoSyncPlan) nulEnvelopes
        ((PushRuntime.new infoSyncPlan).handle nulWire "InfoSyncPush" nulPacketBytes emptySync) ↔
      (∀ envelope ∈ nulEnvelopes, Decodable nulWire envelope) ∧
        RecallsFit nulWire 256 (16 * 1024 * 1024) nulEnvelopes := by
  have hpush : (PushRuntime.new infoSyncPlan).pushedMessages nulWire "InfoSyncPush" nulPacketBytes
      emptySync = some (true, [nulMessageBytes, groupMessageBytes]) := by
    decide +kernel
  have haccepted : newEnvelopes nulWire true (PushRuntime.new infoSyncPlan).decoder
      [nulMessageBytes, groupMessageBytes] = some nulEnvelopes := by
    decide +kernel
  exact handle_survives_iff nulWire nulWire_bounded (.new infoSyncPlan) (by decide) "InfoSyncPush"
    nulPacketBytes emptySync hpush haccepted

/-- Both messages are accepted by the outer decoder, the push is an error, and the second
message is not queued. -/
theorem nul_text_ends_runtime :
    newEnvelopes nulWire true .new [nulMessageBytes, groupMessageBytes] = some nulEnvelopes ∧
      ((PushRuntime.new infoSyncPlan).handle nulWire "InfoSyncPush" nulPacketBytes
        emptySync).2 = .error (.message .rejected) ∧
      ((PushRuntime.new infoSyncPlan).handle nulWire "InfoSyncPush" nulPacketBytes
        emptySync).1.1.events = [] ∧
      ¬ Survives nulWire (.new infoSyncPlan) nulEnvelopes
        ((PushRuntime.new infoSyncPlan).handle nulWire "InfoSyncPush" nulPacketBytes
          emptySync) := by
  have hresult : ((PushRuntime.new infoSyncPlan).handle nulWire "InfoSyncPush" nulPacketBytes
      emptySync).2 = .error (.message .rejected) := by
    decide +kernel
  refine ⟨by decide +kernel, hresult, by decide +kernel, ?_⟩
  intro hsurvives
  have hreturns := hsurvives.returns
  rw [hresult] at hreturns
  exact not_returns_error _ hreturns

end NulText

end PushRuntime
end Runtime
end Lirvena
