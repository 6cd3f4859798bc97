import Lirvena.Lib.Run
import Lirvena.Runtime.PushRuntime

/-!
# The bounds of the push queue

The byte count of the queue is exact after every run.  The two limits are
enforced where a push is offered to the processor and where a recall notice is
expanded, but a synchronization push is offered with one slot for each embedded
message: an ordinary message behind an expanded recall notice is queued without
a look at the room that the expansion left.  `BatchFits` says when that room is
enough, and `queueBounded_iff` that the limits hold exactly on the runs whose
synchronization pushes all fit.
-/

namespace Lirvena
namespace Runtime

open Lib
open Message
open Online

/-- What one embedded message adds to the queue, by the decoders alone. -/
inductive Yield where
  | nothing
  | rejected
  | event (encodedLen : Nat)
  | recalls (count encodedLen : Nat)
  deriving DecidableEq

/-- The bytes of one queued event. -/
def Yield.len : Yield → Nat
  | .nothing | .rejected => 0
  | .event encodedLen | .recalls _ encodedLen => encodedLen

def yieldOfEnvelope (wire : PushWire) (envelope : MessageEnvelope) : Yield :=
  match decodeEnvelope wire envelope with
  | .error _ => .rejected
  | .ok (.event _) => .event envelope.encodedLen
  | .ok (.groupRecalls recalls) => .recalls recalls.length envelope.encodedLen

/-- The decoder after one embedded message, and what the message adds. -/
def yieldOf (wire : PushWire) (decoder : MessageDecoder) (body : List UInt8) :
    MessageDecoder × Yield :=
  match decoder.decodeEmbedded wire.message body with
  | (next, .error _) => (next, .rejected)
  | (next, .ok .duplicate) => (next, .nothing)
  | (next, .ok (.new envelope)) => (next, yieldOfEnvelope wire envelope)

/-- Every ordinary message of the batch finds a free slot and free bytes after
the messages and expanded recalls before it.  A recall notice that does not fit
is refused, and with it the rest of the batch. -/
def BatchFits (wire : PushWire) (decoder : MessageDecoder) (slots bytes : Nat) :
    List (List UInt8) → Prop
  | [] => True
  | body :: rest =>
      match yieldOf wire decoder body with
      | (_, .rejected) => True
      | (next, .nothing) => BatchFits wire next slots bytes rest
      | (next, .event len) =>
          1 ≤ slots ∧ len ≤ bytes ∧ BatchFits wire next (slots - 1) (bytes - len) rest
      | (next, .recalls count len) =>
          count ≤ slots → len * count ≤ bytes →
            BatchFits wire next (slots - count) (bytes - len * count) rest

namespace PushRuntime

/-- The queue with its byte count. -/
def ledger (runtime : PushRuntime) : Ledger DecodedPush where
  items := runtime.events
  total := runtime.queuedMessageBytes

/-- The queue respects both limits and its byte count is exact. -/
structure QueueBounded (runtime : PushRuntime) : Prop where
  events_le : runtime.events.length ≤ maxQueuedMessages
  bytes_le : runtime.queuedMessageBytes ≤ maxQueuedMessageBytes
  bytes_eq : runtime.queuedMessageBytes =
    (runtime.events.map DecodedPush.encodedLen).sum

/-- One call on the push runtime. -/
inductive PushInput where
  | handle (command : String) (payload : List UInt8) (sync : OnlineSyncState)
  | popEvent

inductive PushOutput where
  | handled (sync : OnlineSyncState) (result : Handled)
  | popped (event : Option DecodedPush)

def machine (wire : PushWire) : Machine PushRuntime PushInput PushOutput where
  step runtime
    | .handle command payload sync =>
        (((runtime.handle wire command payload sync).1.1),
          .handled (runtime.handle wire command payload sync).1.2
            (runtime.handle wire command payload sync).2)
    | .popEvent => (runtime.popEvent.1, .popped runtime.popEvent.2)

/-- The embedded messages that the processor accepts of a push. -/
def embeddedMessages (wire : PushWire) (runtime : PushRuntime) (command : String)
    (payload : List UInt8) (sync : OnlineSyncState) : List (List UInt8) :=
  match runtime.plan.find command with
  | none => []
  | some entry =>
      match (runtime.process wire entry payload sync).2 with
      | .ok (.infoSync outcome) => outcome.messages
      | _ => []

/-- The condition on one call: the embedded messages of a synchronization push
fit into the room that the queue has left. -/
def Fits (wire : PushWire) (runtime : PushRuntime) : PushInput → Prop
  | .handle command payload sync =>
      BatchFits wire runtime.decoder runtime.availableMessageSlots
        runtime.availableMessageBytes
        (runtime.embeddedMessages wire command payload sync)
  | .popEvent => True

variable {wire : PushWire} {runtime next : PushRuntime}

theorem queueBounded_iff_ledger :
    runtime.QueueBounded ↔
      runtime.ledger.Within maxQueuedMessages maxQueuedMessageBytes ∧
        runtime.ledger.Exact DecodedPush.encodedLen := by
  constructor
  · intro hbounded
    exact ⟨⟨hbounded.events_le, hbounded.bytes_le⟩, hbounded.bytes_eq⟩
  · rintro ⟨⟨hevents, hbytes⟩, hexact⟩
    exact ⟨hevents, hbytes, hexact⟩

/-! ## What a call adds to the queue -/

/-- The outer decoder read the envelope from a body. -/
def Read (wire : PushWire) (envelope : MessageEnvelope) : Prop :=
  ∃ body key, readEnvelope wire.message body = .ok (key, envelope)

/-- The envelope of a message event is one that the outer decoder read. -/
def Accepted (wire : PushWire) : DecodedPush → Prop
  | .message decoded => Read wire decoded.envelope
  | _ => True

/-- The queue after a call is the queue before it with some accepted events
appended. -/
def Appends (wire : PushWire) (runtime next : PushRuntime) : Prop :=
  ∃ events, (∀ event ∈ events, Accepted wire event) ∧
    next.ledger = runtime.ledger.append DecodedPush.encodedLen events

theorem Appends.refl (runtime : PushRuntime) : Appends wire runtime runtime :=
  ⟨[], by simp, by simp [ledger, Ledger.append]⟩

theorem Appends.trans {later : PushRuntime} (hfirst : Appends wire runtime next)
    (hsecond : Appends wire next later) : Appends wire runtime later := by
  obtain ⟨first, hfirstAccepted, hfirst⟩ := hfirst
  obtain ⟨second, hsecondAccepted, hsecond⟩ := hsecond
  refine ⟨first ++ second, ?_, ?_⟩
  · intro event hevent
    rcases List.mem_append.mp hevent with hmem | hmem
    · exact hfirstAccepted event hmem
    · exact hsecondAccepted event hmem
  · rw [hsecond, hfirst]
    simp [Ledger.append, Nat.add_assoc]

theorem Appends.exact (happends : Appends wire runtime next)
    (hexact : runtime.ledger.Exact DecodedPush.encodedLen) :
    next.ledger.Exact DecodedPush.encodedLen := by
  obtain ⟨events, -, hledger⟩ := happends
  rw [hledger]
  exact hexact.append events

theorem Appends.within {maxItems maxTotal : Nat} (happends : Appends wire runtime next)
    (hwithin : next.ledger.Within maxItems maxTotal) :
    runtime.ledger.Within maxItems maxTotal := by
  obtain ⟨events, -, hledger⟩ := happends
  rw [hledger] at hwithin
  exact hwithin.of_append

theorem Appends.accepted (happends : Appends wire runtime next)
    (haccepted : ∀ event ∈ runtime.events, Accepted wire event) :
    ∀ event ∈ next.events, Accepted wire event := by
  obtain ⟨events, hevents, hledger⟩ := happends
  have hitems : next.events = runtime.events ++ events := congrArg Ledger.items hledger
  rw [hitems]
  intro event hevent
  rcases List.mem_append.mp hevent with hmem | hmem
  · exact haccepted event hmem
  · exact hevents event hmem

theorem pushEvent_appends (runtime : PushRuntime) {event : DecodedPush}
    (haccepted : Accepted wire event) : Appends wire runtime (runtime.pushEvent event).1 := by
  unfold pushEvent
  split
  · exact Appends.refl runtime
  · next total hadd =>
      obtain ⟨-, rfl⟩ := checkedAddU64_eq_some_iff.mp hadd
      exact ⟨[event], by simpa using haccepted, by simp [ledger, Ledger.append]⟩

theorem recallEvents_weigh (envelope : MessageEnvelope) (recalls : List GroupRecall) :
    Ledger.weigh DecodedPush.encodedLen (recallEvents envelope recalls) =
      envelope.encodedLen * recalls.length := by
  have heach : ∀ event ∈ recallEvents envelope recalls,
      event.encodedLen = envelope.encodedLen := by
    intro event hevent
    obtain ⟨notice, -, rfl⟩ := List.mem_map.mp hevent
    rfl
  rw [Ledger.weigh_eq_mul heach, recallEvents, List.length_map]

theorem pushRecalls_appends (runtime : PushRuntime) (envelope : MessageEnvelope)
    (recalls : List GroupRecall) :
    Appends wire runtime (runtime.pushRecalls envelope recalls).1 := by
  unfold pushRecalls
  split
  · exact Appends.refl runtime
  · next total hmul =>
      obtain ⟨-, rfl⟩ := checkedMulU64_eq_some_iff.mp hmul
      split
      · exact Appends.refl runtime
      · refine ⟨recallEvents envelope recalls, ?_, ?_⟩
        · intro event hevent
          obtain ⟨notice, -, rfl⟩ := List.mem_map.mp hevent
          trivial
        · show Ledger.mk _ _ = Ledger.mk _ _
          rw [recallEvents_weigh]
          rfl

theorem firstDecoded_eq_some {Value : Type}
    {decoders : List (Except MessageDecodeError (Option Value))} {value : Value}
    (hfirst : firstDecoded decoders = .ok (some value)) : .ok (some value) ∈ decoders := by
  induction decoders with
  | nil => cases hfirst
  | cons decoder rest ih =>
      rcases decoder with error | _ | found
      · cases hfirst
      · exact List.mem_cons_of_mem _ (ih hfirst)
      · cases hfirst
        exact List.mem_cons_self

theorem asEvent_eq_some {Notice : Type} {wrap : Notice → DecodedPush}
    {decoded : Except MessageDecodeError (Option Notice)} {event : DecodedEnvelope}
    (hevent : .ok (some event) = asEvent wrap decoded) :
    ∃ notice, event = .event (wrap notice) := by
  obtain ⟨option, -, hoption⟩ := map_eq_ok_iff.mp hevent.symm
  obtain ⟨notice, -, rfl⟩ := Option.map_eq_some_iff.mp hoption
  exact ⟨notice, rfl⟩

/-- No notice is queued as a message: a message event carries the envelope that
was decoded. -/
theorem decodeEnvelope_message {envelope : MessageEnvelope} {decoded : DecodedMessage}
    (hdecode : decodeEnvelope wire envelope = .ok (.event (.message decoded))) :
    decoded.envelope = envelope := by
  obtain ⟨found, hfound, hdecode⟩ := bind_eq_ok_iff.mp hdecode
  cases found with
  | none =>
      obtain ⟨richText, -, hdecode⟩ := bind_eq_ok_iff.mp hdecode
      cases hdecode
      rfl
  | some notice =>
      cases hdecode
      have hmem := firstDecoded_eq_some hfound
      simp only [noticeDecoders, List.mem_cons, List.not_mem_nil, or_false] at hmem
      rcases hmem with h | h | h | h | h | h | h | h | h | h | h
      case inr.inr.inr.inr.inr.inr.inr.inr.inr.inl =>
        obtain ⟨option, -, hoption⟩ := map_eq_ok_iff.mp h.symm
        obtain ⟨_, -, hrecalls⟩ := Option.map_eq_some_iff.mp hoption
        cases hrecalls
      all_goals
        obtain ⟨_, hevent⟩ := asEvent_eq_some h
        cases hevent

theorem pushEnvelope_appends (runtime : PushRuntime) {envelope : MessageEnvelope}
    (hread : Read wire envelope) :
    Appends wire runtime (runtime.pushEnvelope wire envelope).1 := by
  unfold pushEnvelope
  split
  · exact Appends.refl runtime
  · next event hdecode =>
      apply pushEvent_appends
      cases event with
      | message decoded =>
          show Read wire decoded.envelope
          rw [decodeEnvelope_message hdecode]
          exact hread
      | _ => trivial
  · exact pushRecalls_appends runtime envelope _

theorem decodeMessage_read {decoder decoded : MessageDecoder} {embedded : Bool}
    {body : List UInt8} {envelope : MessageEnvelope}
    (hdecode : decodeMessage wire decoder embedded body = (decoded, .ok (.new envelope))) :
    Read wire envelope := by
  unfold decodeMessage MessageDecoder.decodeEmbedded MessageDecoder.decode at hdecode
  split at hdecode
  · split at hdecode
    · cases hdecode
    · next read hread =>
        obtain ⟨key, hkey⟩ := MessageDecoder.admit_new hdecode
        exact ⟨read, key, hkey⟩
  · split at hdecode
    · cases hdecode
    · next read hread =>
        obtain ⟨key, hkey⟩ := MessageDecoder.admit_new hdecode
        exact ⟨read, key, hkey⟩

theorem admitMessage_appends (runtime : PushRuntime) (body : List UInt8) (embedded : Bool) :
    Appends wire runtime (runtime.admitMessage wire body embedded).1 := by
  unfold admitMessage
  split
  · exact Appends.refl runtime
  · exact Appends.refl runtime
  · next decoder envelope hdecode =>
      exact pushEnvelope_appends { runtime with decoder := decoder } (decodeMessage_read hdecode)

theorem admitEmbedded_appends (runtime : PushRuntime) (bodies : List (List UInt8)) :
    Appends wire runtime (runtime.admitEmbedded wire bodies).1 := by
  induction bodies generalizing runtime with
  | nil => exact Appends.refl runtime
  | cons body rest ih =>
      have hhead : Appends wire runtime (runtime.admitMessage wire body true).1 :=
        admitMessage_appends runtime body true
      unfold admitEmbedded
      split
      · next next error hadmitted =>
          rw [hadmitted] at hhead
          exact hhead
      · next next hadmitted =>
          rw [hadmitted] at hhead
          exact hhead.trans (ih next)

theorem handleOutcome_appends (runtime : PushRuntime) (outcome : PushOutcome) :
    Appends wire runtime (runtime.handleOutcome wire outcome).1 := by
  cases outcome with
  | ack route body => exact Appends.refl runtime
  | observed => exact Appends.refl runtime
  | protectiveOffline notice => exact Appends.refl runtime
  | message body => exact admitMessage_appends runtime body false
  | infoSync outcome => exact admitEmbedded_appends runtime outcome.messages

theorem handle_appends (runtime : PushRuntime) (command : String) (payload : List UInt8)
    (sync : OnlineSyncState) :
    Appends wire runtime (runtime.handle wire command payload sync).1.1 := by
  unfold handle
  split
  · exact Appends.refl runtime
  · next entry hfind =>
      obtain ⟨⟨processor, next⟩, outcome⟩ := runtime.process wire entry payload sync
      cases outcome with
      | error error => exact Appends.refl runtime
      | ok outcome =>
          exact handleOutcome_appends { runtime with processor := processor } outcome

theorem popEvent_ledger (runtime : PushRuntime) :
    runtime.popEvent.1.ledger = runtime.ledger.pop DecodedPush.encodedLen := by
  obtain ⟨plan, processor, decoder, events, bytes⟩ := runtime
  cases events with
  | nil => rfl
  | cons event rest => rfl

/-- Every call keeps the byte count exact. -/
theorem step_exact (input : PushInput)
    (hexact : runtime.ledger.Exact DecodedPush.encodedLen) :
    ((machine wire).step runtime input).1.ledger.Exact DecodedPush.encodedLen := by
  cases input with
  | handle command payload sync =>
      exact (handle_appends runtime command payload sync).exact hexact
  | popEvent =>
      show runtime.popEvent.1.ledger.Exact DecodedPush.encodedLen
      rw [popEvent_ledger]
      exact hexact.pop

theorem run_exact (plan : PushPlan) (inputs : List PushInput) :
    ((machine wire).run (.new plan) inputs).ledger.Exact DecodedPush.encodedLen := by
  have hstart : (PushRuntime.new plan).ledger.Exact DecodedPush.encodedLen := rfl
  have hstep : ∀ state input,
      (fun runtime : PushRuntime => runtime.ledger.Exact DecodedPush.encodedLen) state →
      (fun runtime : PushRuntime => runtime.ledger.Exact DecodedPush.encodedLen)
        ((machine wire).step state input).1 :=
    fun _ input hexact => step_exact input hexact
  exact (machine wire).invariant_run hstart hstep inputs

theorem step_accepted (runtime : PushRuntime) (input : PushInput)
    (haccepted : ∀ event ∈ runtime.events, Accepted wire event) :
    ∀ event ∈ ((machine wire).step runtime input).1.events, Accepted wire event := by
  cases input with
  | handle command payload sync =>
      exact (handle_appends runtime command payload sync).accepted haccepted
  | popEvent =>
      intro event hevent
      obtain ⟨plan, processor, decoder, events, bytes⟩ := runtime
      cases events with
      | nil => exact haccepted event hevent
      | cons first rest => exact haccepted event (List.mem_cons_of_mem _ hevent)

/-- Every queued message has an envelope that the outer decoder read. -/
theorem run_accepted (plan : PushPlan) (inputs : List PushInput) :
    ∀ event ∈ ((machine wire).run (.new plan) inputs).events, Accepted wire event := by
  have hstart : (fun runtime : PushRuntime => ∀ event ∈ runtime.events, Accepted wire event)
      (.new plan) := by
    intro event hevent
    cases hevent
  exact (machine wire).invariant_run hstart step_accepted inputs

/-! ## When the limits hold -/

/-- The limits as an invariant of the ledger. -/
abbrev Within (runtime : PushRuntime) : Prop :=
  runtime.ledger.Within maxQueuedMessages maxQueuedMessageBytes

theorem firstDecoded_mem {Value : Type} {value : Value}
    {decoders : List (Except MessageDecodeError (Option Value))}
    (hfound : firstDecoded decoders = .ok (some value)) : .ok (some value) ∈ decoders := by
  induction decoders with
  | nil => cases hfound
  | cons decoded rest ih =>
      match decoded with
      | .error error => cases hfound
      | .ok none => exact List.mem_cons_of_mem _ (ih hfound)
      | .ok (some other) =>
          obtain rfl : other = value := by simpa [firstDecoded] using hfound
          exact List.mem_cons_self ..

theorem asEvent_event {Notice : Type} {wrap : Notice → DecodedPush} {event : DecodedPush}
    {decoded : Except MessageDecodeError (Option Notice)}
    (hevent : .ok (some (.event event)) = asEvent wrap decoded) :
    ∃ notice, event = wrap notice := by
  match decoded with
  | .error error => cases hevent
  | .ok none => cases hevent
  | .ok (some notice) =>
      cases hevent
      exact ⟨notice, rfl⟩

/-- Every event of an envelope is as long as the envelope. -/
theorem decodeEnvelope_event {envelope : MessageEnvelope} {event : DecodedPush}
    (hdecode : decodeEnvelope wire envelope = .ok (.event event)) :
    event.encodedLen = envelope.encodedLen := by
  unfold decodeEnvelope at hdecode
  obtain ⟨found, hfound, hdecode⟩ := bind_eq_ok_iff.mp hdecode
  cases found with
  | none =>
      obtain ⟨richText, -, hdecode⟩ := bind_eq_ok_iff.mp hdecode
      cases hdecode
      rfl
  | some decoded =>
      cases hdecode
      -- the group recalls are the only notice that is no event
      have hmem := firstDecoded_mem hfound
      simp only [noticeDecoders, List.mem_cons, List.not_mem_nil, or_false] at hmem
      rcases hmem with h | h | h | h | h | h | h | h | h | h | h
      case inr.inr.inr.inr.inr.inr.inr.inr.inr.inl =>
        match hrecalls : decodeGroupRecalls wire.notice envelope with
        | .error error => rw [hrecalls] at h; cases h
        | .ok none => rw [hrecalls] at h; cases h
        | .ok (some recalls) => rw [hrecalls] at h; cases h
      all_goals
        obtain ⟨notice, rfl⟩ := asEvent_event h
        rfl

theorem pushEvent_eq (runtime : PushRuntime) {event : DecodedPush} (hwithin : runtime.Within)
    (hlen : event.encodedLen ≤ maxPushLen) :
    runtime.pushEvent event =
      ({ runtime with
          events := runtime.events ++ [event]
          queuedMessageBytes := runtime.queuedMessageBytes + event.encodedLen },
        .ok ()) := by
  have hbytes : runtime.queuedMessageBytes ≤ maxQueuedMessageBytes := hwithin.2
  have hfits : runtime.queuedMessageBytes + event.encodedLen < u64Bound := by
    unfold maxQueuedMessageBytes at hbytes
    unfold maxPushLen at hlen
    unfold u64Bound
    omega
  simp [pushEvent, checkedAddU64, hfits]

/-- One event keeps the limits exactly when it fits. -/
theorem pushEvent_within_iff (runtime : PushRuntime) {event : DecodedPush}
    (hwithin : runtime.Within)
    (hlen : event.encodedLen ≤ maxPushLen) :
    (runtime.pushEvent event).1.Within ↔
      1 ≤ runtime.availableMessageSlots ∧ event.encodedLen ≤ runtime.availableMessageBytes := by
  have happend : (runtime.pushEvent event).1.ledger =
      runtime.ledger.append DecodedPush.encodedLen [event] := by
    rw [pushEvent_eq _ hwithin hlen]
    simp [ledger, Ledger.append]
  unfold Within
  rw [happend, Ledger.within_append_iff hwithin]
  simp [availableMessageSlots, availableMessageBytes, ledger]

/-- The expansion of a recall notice looks at both limits itself. -/
theorem pushRecalls_cases (runtime : PushRuntime) (envelope : MessageEnvelope)
    (recalls : List GroupRecall) :
    (recalls.length ≤ runtime.availableMessageSlots ∧
        envelope.encodedLen * recalls.length ≤ runtime.availableMessageBytes ∧
        runtime.pushRecalls envelope recalls =
          ({ runtime with
              events := runtime.events ++ recallEvents envelope recalls
              queuedMessageBytes :=
                runtime.queuedMessageBytes + envelope.encodedLen * recalls.length },
            .ok ())) ∨
      (¬ (recalls.length ≤ runtime.availableMessageSlots ∧
          envelope.encodedLen * recalls.length ≤ runtime.availableMessageBytes) ∧
        ∃ error, runtime.pushRecalls envelope recalls = (runtime, .error error)) := by
  by_cases hroom : recalls.length ≤ runtime.availableMessageSlots ∧
      envelope.encodedLen * recalls.length ≤ runtime.availableMessageBytes
  · left
    -- Within the room that is left the product cannot overflow.
    have hfits : envelope.encodedLen * recalls.length < u64Bound := by
      have hbytes := hroom.2
      unfold availableMessageBytes maxQueuedMessageBytes at hbytes
      unfold u64Bound
      omega
    have hgood : ¬ (runtime.availableMessageSlots < recalls.length ∨
        runtime.availableMessageBytes < envelope.encodedLen * recalls.length) := by
      omega
    refine ⟨hroom.1, hroom.2, ?_⟩
    simp [pushRecalls, checkedMulU64, hfits, hgood]
  · right
    refine ⟨hroom, ?_⟩
    unfold pushRecalls
    split
    · exact ⟨_, rfl⟩
    · next total hmul =>
        obtain ⟨-, rfl⟩ := checkedMulU64_eq_some_iff.mp hmul
        rw [if_pos (by omega)]
        exact ⟨_, rfl⟩

theorem pushRecalls_within (runtime : PushRuntime) (hwithin : runtime.Within)
    (envelope : MessageEnvelope) (recalls : List GroupRecall) :
    (runtime.pushRecalls envelope recalls).1.Within := by
  rcases pushRecalls_cases runtime envelope recalls with
    ⟨hslots, hbytes, hpush⟩ | ⟨-, error, hpush⟩
  · rw [hpush]
    have hevents : runtime.events.length ≤ maxQueuedMessages := hwithin.1
    have htotal : runtime.queuedMessageBytes ≤ maxQueuedMessageBytes := hwithin.2
    unfold availableMessageSlots at hslots
    unfold availableMessageBytes at hbytes
    refine ⟨?_, ?_⟩
    · show (runtime.events ++ recallEvents envelope recalls).length ≤ maxQueuedMessages
      rw [List.length_append, recallEvents, List.length_map]
      omega
    · show runtime.queuedMessageBytes + envelope.encodedLen * recalls.length ≤
        maxQueuedMessageBytes
      omega
  · rw [hpush]
    exact hwithin

/-- `admitMessage` on an embedded message does what its yield says. -/
theorem admitMessage_yield (hwire : wire.message.Bounded) {body : List UInt8}
    {decoder : MessageDecoder} {yield : Yield}
    (hyield : yieldOf wire runtime.decoder body = (decoder, yield)) :
    match yield with
    | .nothing =>
        runtime.admitMessage wire body true = ({ runtime with decoder := decoder }, .ok ())
    | .rejected =>
        ∃ error, runtime.admitMessage wire body true =
          ({ runtime with decoder := decoder }, .error error)
    | .event len =>
        ∃ event, event.encodedLen = len ∧ len ≤ maxPushLen ∧
          runtime.admitMessage wire body true =
            { runtime with decoder := decoder }.pushEvent event
    | .recalls count len =>
        ∃ envelope recalls, recalls.length = count ∧ envelope.encodedLen = len ∧
          runtime.admitMessage wire body true =
            { runtime with decoder := decoder }.pushRecalls envelope recalls := by
  unfold yieldOf at hyield
  match hdecode : runtime.decoder.decodeEmbedded wire.message body with
  | (next, .error error) =>
      rw [hdecode] at hyield
      cases hyield
      exact ⟨.message error, by simp [admitMessage, decodeMessage, hdecode]⟩
  | (next, .ok .duplicate) =>
      rw [hdecode] at hyield
      cases hyield
      show runtime.admitMessage wire body true = _
      simp [admitMessage, decodeMessage, hdecode]
  | (next, .ok (.new envelope)) =>
      rw [hdecode] at hyield
      have hmessage : runtime.admitMessage wire body true =
          { runtime with decoder := next }.pushEnvelope wire envelope := by
        simp [admitMessage, decodeMessage, hdecode]
      -- the length of an envelope is that of the embedded body
      have hlen := MessageDecoder.decodeEmbedded_encodedLen hwire hdecode
      cases henvelope : decodeEnvelope wire envelope with
      | error error =>
          simp only [yieldOfEnvelope, henvelope] at hyield
          cases hyield
          exact ⟨.message error, by simp [hmessage, pushEnvelope, henvelope]⟩
      | ok decoded =>
          cases decoded with
          | event event =>
              simp only [yieldOfEnvelope, henvelope] at hyield
              cases hyield
              have hevent := decodeEnvelope_event henvelope
              refine ⟨event, hevent, by omega, ?_⟩
              simp [hmessage, pushEnvelope, henvelope]
          | groupRecalls recalls =>
              simp only [yieldOfEnvelope, henvelope] at hyield
              cases hyield
              refine ⟨envelope, recalls, rfl, rfl, ?_⟩
              simp [hmessage, pushEnvelope, henvelope]

/-- A batch keeps the limits exactly when it fits into the room left. -/
theorem admitEmbedded_within_iff (runtime : PushRuntime) (hwire : wire.message.Bounded)
    (hwithin : runtime.Within) (bodies : List (List UInt8)) :
    (runtime.admitEmbedded wire bodies).1.Within ↔
      BatchFits wire runtime.decoder runtime.availableMessageSlots
        runtime.availableMessageBytes bodies := by
  induction bodies generalizing runtime with
  | nil => simp [admitEmbedded, BatchFits, hwithin]
  | cons body rest ih =>
      match hyield : yieldOf wire runtime.decoder body with
      | (decoder, .nothing) =>
          have hadmitted := admitMessage_yield hwire hyield
          simp only [admitEmbedded, hadmitted, BatchFits, hyield]
          exact ih { runtime with decoder := decoder } hwithin
      | (decoder, .rejected) =>
          obtain ⟨error, hadmitted⟩ := admitMessage_yield hwire hyield
          simp only [admitEmbedded, hadmitted, BatchFits, hyield, iff_true]
          exact hwithin
      | (decoder, .event len) =>
          obtain ⟨event, rfl, hlen, hadmitted⟩ := admitMessage_yield hwire hyield
          have hfits := pushEvent_within_iff { runtime with decoder := decoder }
            hwithin hlen
          rw [pushEvent_eq { runtime with decoder := decoder } hwithin hlen]
            at hadmitted hfits
          simp only [admitEmbedded, hadmitted, BatchFits, hyield]
          constructor
          · intro hrest
            -- a later event never makes room again
            have hnext := (admitEmbedded_appends _ rest).within hrest
            obtain ⟨hslots, hbytes⟩ := hfits.mp hnext
            have htail := (ih _ hnext).mp hrest
            refine ⟨hslots, hbytes, ?_⟩
            simpa [availableMessageSlots, availableMessageBytes, Nat.sub_add_eq] using htail
          · rintro ⟨hslots, hbytes, htail⟩
            have hnext := hfits.mpr ⟨hslots, hbytes⟩
            refine (ih _ hnext).mpr ?_
            simpa [availableMessageSlots, availableMessageBytes, Nat.sub_add_eq] using htail
      | (decoder, .recalls count len) =>
          -- an expansion that does not fit is refused and ends the batch
          obtain ⟨envelope, recalls, rfl, rfl, hadmitted⟩ := admitMessage_yield hwire hyield
          have hnext := pushRecalls_within { runtime with decoder := decoder }
            hwithin envelope recalls
          rcases pushRecalls_cases { runtime with decoder := decoder }
            envelope recalls with ⟨hslots, hbytes, hpush⟩ | ⟨hfull, error, hpush⟩
          · rw [hpush] at hadmitted hnext
            have htail := ih _ hnext
            simp only [admitEmbedded, hadmitted, BatchFits, hyield]
            rw [htail]
            simp only [availableMessageSlots, availableMessageBytes] at hslots hbytes ⊢
            simp [hslots, hbytes, Nat.sub_add_eq, recallEvents]
          · rw [hpush] at hadmitted
            simp only [admitEmbedded, hadmitted, BatchFits, hyield]
            constructor
            · intro _ hslots hbytes
              exact absurd ⟨hslots, hbytes⟩ hfull
            · intro _
              exact hwithin

/-- A message of its own is offered only with a free slot and free bytes. -/
theorem admitMessage_within (runtime : PushRuntime) (hwire : wire.message.Bounded)
    (hwithin : runtime.Within) {body : List UInt8} (hslots : runtime.availableMessageSlots ≠ 0)
    (hbytes : body.length ≤ runtime.availableMessageBytes) :
    (runtime.admitMessage wire body false).1.Within := by
  unfold admitMessage
  split
  · exact hwithin
  · exact hwithin
  · next decoder envelope hdecode =>
      have hlen := MessageDecoder.decode_encodedLen hwire hdecode
      unfold pushEnvelope
      split
      · exact hwithin
      · next event henvelope =>
          have hevent := decodeEnvelope_event henvelope
          have hfree : 1 ≤ runtime.availableMessageSlots ∧
              event.encodedLen ≤ runtime.availableMessageBytes := by
            omega
          exact (pushEvent_within_iff { runtime with decoder := decoder }
            hwithin (by omega)).mpr hfree
      · next recalls henvelope =>
          exact pushRecalls_within { runtime with decoder := decoder }
            hwithin envelope recalls

theorem handle_within_iff (hwire : wire.message.Bounded) (hwithin : runtime.Within)
    (command : String) (payload : List UInt8) (sync : OnlineSyncState) :
    (runtime.handle wire command payload sync).1.1.Within ↔
      runtime.Fits wire (.handle command payload sync) := by
  cases hfind : runtime.plan.find command with
  | none =>
      simp only [handle, Fits, embeddedMessages, hfind, BatchFits, iff_true]
      exact hwithin
  | some entry =>
      rcases hprocess : runtime.process wire entry payload sync with
        ⟨⟨processor, next⟩, outcome⟩
      have houtcome := congrArg Prod.snd hprocess
      cases outcome with
      | error error =>
          simp only [handle, Fits, embeddedMessages, hfind, hprocess, BatchFits, iff_true]
          exact hwithin
      | ok outcome =>
          simp only [handle, Fits, embeddedMessages, hfind, hprocess]
          cases outcome with
          | ack route body => exact iff_of_true hwithin trivial
          | observed => exact iff_of_true hwithin trivial
          | protectiveOffline notice => exact iff_of_true hwithin trivial
          | message body =>
              -- The processor gives out a single message only when there is room for it.
              obtain ⟨hslots, hbytes⟩ := PushProcessor.apply_message houtcome
              have hadmitted := admitMessage_within
                { runtime with processor := processor } hwire hwithin hslots hbytes
              exact iff_of_true hadmitted trivial
          | infoSync outcome =>
              exact admitEmbedded_within_iff
                { runtime with processor := processor } hwire hwithin
                outcome.messages

/-- One call keeps the limits exactly when its embedded messages fit. -/
theorem step_within_iff (hwire : wire.message.Bounded) (hwithin : runtime.Within)
    (input : PushInput) :
    ((machine wire).step runtime input).1.Within ↔ runtime.Fits wire input := by
  cases input with
  | handle command payload sync => exact handle_within_iff hwire hwithin command payload sync
  | popEvent =>
      have hpop : runtime.popEvent.1.Within := by
        unfold Within
        rw [popEvent_ledger]
        exact hwithin.pop
      exact ⟨fun _ => trivial, fun _ => hpop⟩

/-- The embedded message is no recall notice of several messages. -/
def NoExpansion (wire : PushWire) (body : List UInt8) : Prop :=
  ∀ decoder next count len, yieldOf wire decoder body = (next, .recalls count len) → count ≤ 1

theorem yieldOf_len (hwire : wire.message.Bounded) (decoder : MessageDecoder)
    (body : List UInt8) : (yieldOf wire decoder body).2.len ≤ body.length := by
  unfold yieldOf
  split
  · exact Nat.zero_le _
  · exact Nat.zero_le _
  · next next envelope hdecode =>
      have hlen := (MessageDecoder.decodeEmbedded_encodedLen hwire hdecode).1
      show (yieldOfEnvelope wire envelope).len ≤ body.length
      unfold yieldOfEnvelope
      split
      · exact Nat.zero_le _
      · exact hlen
      · exact hlen

/-- Without an expansion a batch fits into as many slots and bytes as it has
messages and bytes: what the processor checks is then enough. -/
theorem batchFits_of_noExpansion (hwire : wire.message.Bounded) {decoder : MessageDecoder}
    {slots bytes : Nat} {bodies : List (List UInt8)}
    (hsingle : ∀ body ∈ bodies, NoExpansion wire body) (hslots : bodies.length ≤ slots)
    (hbytes : (bodies.map List.length).sum ≤ bytes) :
    BatchFits wire decoder slots bytes bodies := by
  induction bodies generalizing decoder slots bytes with
  | nil => trivial
  | cons body rest ih =>
      have hrest := fun other hother => hsingle other (List.mem_cons_of_mem body hother)
      simp only [List.length_cons, List.map_cons, List.sum_cons] at hslots hbytes
      have hlen := yieldOf_len hwire decoder body
      match hyield : yieldOf wire decoder body with
      | (next, .nothing) =>
          simp only [BatchFits, hyield]
          exact ih hrest (by omega) (by omega)
      | (next, .rejected) => simp only [BatchFits, hyield]
      | (next, .event len) =>
          rw [hyield] at hlen
          have hbody : len ≤ body.length := hlen
          simp only [BatchFits, hyield]
          exact ⟨by omega, by omega, ih hrest (by omega) (by omega)⟩
      | (next, .recalls count len) =>
          rw [hyield] at hlen
          have hbody : len ≤ body.length := hlen
          have hcount := hsingle body (List.mem_cons_self ..) decoder next count len hyield
          -- A body gives at most one event, which is counted with at most its own length.
          have hcost : len * count ≤ len := by
            calc
              len * count ≤ len * 1 := Nat.mul_le_mul_left len hcount
              _ = len := Nat.mul_one len
          simp only [BatchFits, hyield]
          intro _ _
          exact ih hrest (by omega) (by omega)

/-- A call whose embedded messages need no expansion fits. -/
theorem fits_of_noExpansion (hwire : wire.message.Bounded) {command : String}
    {payload : List UInt8} {sync : OnlineSyncState}
    (hsingle : ∀ body ∈ runtime.embeddedMessages wire command payload sync,
      NoExpansion wire body) :
    runtime.Fits wire (.handle command payload sync) := by
  unfold Fits
  apply batchFits_of_noExpansion hwire hsingle
  all_goals
    unfold embeddedMessages
    split
    · exact Nat.zero_le _
    · split
      · next happly =>
          have hroom := PushProcessor.apply_infoSync happly
          first
            | exact hroom.1
            | exact hroom.2
      · exact Nat.zero_le _

/-- In every run of the push runtime the queue respects its limits, with an
exact byte count, in all states reached if and only if the embedded messages of
each synchronization push fit into the room left by the queue. -/
theorem queueBounded_iff (wire : PushWire) (hwire : wire.message.Bounded) (plan : PushPlan)
    (inputs : List PushInput) :
    (∀ reached, reached <+: inputs →
        ((machine wire).run (.new plan) reached).QueueBounded) ↔
      (machine wire).Guarded (fun runtime input => runtime.Fits wire input) (.new plan)
        inputs := by
  have hstart : (PushRuntime.new plan).Within := by
    refine ⟨?_, ?_⟩ <;> exact Nat.zero_le _
  have hrun : ∀ {inputs}, (machine wire).Guarded (fun runtime input => runtime.Fits wire input)
      (.new plan) inputs → ∀ reached, reached <+: inputs →
        ((machine wire).run (.new plan) reached).Within := by
    intro inputs hguarded reached hreached
    have hstep : ∀ state input, Within state → state.Fits wire input →
        Within ((machine wire).step state input).1 :=
      fun state input hwithin hfits => (step_within_iff hwire hwithin input).mpr hfits
    exact (machine wire).invariant_guarded_run hstart hstep hguarded hreached
  constructor
  · intro hbounded
    by_contra hbroken
    -- The first input that does not fit is reached within the bound and breaks it.
    obtain ⟨before, input, after, rfl, hguarded, hviolation⟩ :=
      (machine wire).exists_first_violation hbroken
    have hbefore := hrun hguarded before (List.prefix_refl before)
    have hnext := hbounded (before ++ [input]) (by simp)
    rw [Machine.run_append, Machine.run_cons, Machine.run_nil] at hnext
    exact hviolation ((step_within_iff hwire hbefore input).mp
      (queueBounded_iff_ledger.mp hnext).1)
  · intro hguarded reached hreached
    exact queueBounded_iff_ledger.mpr ⟨hrun hguarded reached hreached, run_exact plan reached⟩

/-! ## A batch that does not fit -/

section Overflow

/-- A recalled message: sequence 1, random 1, author "a". -/
def recallEntryBytes : List UInt8 :=
  [0x1a, 7, 8, 1, 0x18, 1, 0x32, 1, 0x61]

/-- A recall notice of group 1 that names thirty-two messages. -/
def recallProtoBytes : List UInt8 :=
  [0x20, 1, 0x5a, 0xa0, 2] ++ (List.replicate 32 recallEntryBytes).flatten

def recallContentBytes : List UInt8 :=
  [0, 0, 0, 1, 0, 1, 0x25] ++ recallProtoBytes

/-- A group event of subtype 17 with the given sequence. -/
def recallMessageBytes (sequence : UInt8) : List UInt8 :=
  [0x0a, 0, 0x12, 7, 8, 0xdc, 5, 0x10, 0x11, 0x28, sequence, 0x1a, 0xaf, 2, 0x12, 0xac, 2] ++
    recallContentBytes

/-- A group message without a body. -/
def groupMessageBytes : List UInt8 :=
  [0x0a, 0, 0x12, 2, 8, 0x52]

def recallSequences : List UInt8 :=
  [1, 2, 3, 4, 5, 6, 7, 8]

/-- Eight recall notices and the group message behind them, in one notification. -/
def overflowPacketBytes : List UInt8 :=
  [0x3a, 0x8b, 0x14, 0x1a, 0x88, 0x14] ++
    recallSequences.flatMap (fun sequence => [0x32, 0xbd, 2] ++ recallMessageBytes sequence) ++
    [0x32, 6] ++ groupMessageBytes

def emptyResponse : ResponseHead where
  fromUin := 0
  fromUid := none
  toUin := 0
  toUid := none
  forward := none
  group := none

def plainContent (messageType : UInt32) : ContentHead where
  messageType := messageType
  subType := none
  random := none
  sequence := none
  timestamp := none
  packageCount := none
  packageIndex := none
  divisionSequence := none
  directMessageSequence := none
  messageUid := none
  forward := none

def groupMessageBody : PushBody where
  response := some emptyResponse
  content := some (plainContent 82)
  body := none

def recallMessageBody (sequence : UInt8) : PushBody where
  response := some emptyResponse
  content := some { plainContent 732 with subType := some 17, sequence := some sequence.toUInt64 }
  body := some { richText := none, content := some recallContentBytes, encryptedContent := none }

/-- The protobuf decoder on the embedded messages. -/
def decodeOverflowBody (input : List UInt8) : Option PushBody :=
  if input = groupMessageBytes then some groupMessageBody
  else
    (recallSequences.find? (fun sequence => recallMessageBytes sequence = input)).map
      recallMessageBody

def overflowPacket : Packet where
  result := 0
  errorMessage := ""
  pushFlag := 0
  pushSequence := 0
  retryFlag := 0
  groupNodes := []
  groupNotifications := some [{
    groupCode := 0
    startSequence := 0
    endSequence := 0
    messages := recallSequences.map recallMessageBytes ++ [groupMessageBytes]
    lastSpeakTimestamp := 0 }]
  systemNotifications := none
  auxiliaryState := none
  useInitialCacheData := 0
  guildNode := none
  recentActivity := none
  roamMessageOptimizeFlag := 0
  groupGuildFlag := 0

def recallNoticeValue : RecallNoticeWire where
  groupId := 1
  «recall» := some {
    operatorUid := none
    messages := List.replicate 32 { sequence := 1, random := 1, authorUid := "a" }
    tip := none }

/-- The library functions on the bytes above. -/
def overflowWire : PushWire where
  message := {
    push := fun _ => none
    pushBody := decodeOverflowBody
    sha256 := fun input =>
      if input = [] then [0xe3, 0xb0, 0xc4, 0x42, 0x98, 0xfc, 0x1c, 0x14, 0x9a, 0xfb, 0xf4, 0xc8,
        0x99, 0x6f, 0xb9, 0x24, 0x27, 0xae, 0x41, 0xe4, 0x64, 0x9b, 0x93, 0x4c,
        0xa4, 0x95, 0x99, 0x1b, 0x78, 0x52, 0xb8, 0x55]
      else [0x4e, 0x79, 0x20, 0xd5, 0x51, 0x03, 0xba, 0x09, 0xfd, 0xda, 0xa9, 0x20,
        0x9a, 0xf1, 0xc5, 0x4e, 0xc9, 0x33, 0x3e, 0xb8, 0x45, 0xa5, 0xe5, 0xb5,
        0x24, 0xe0, 0xc5, 0x80, 0xd0, 0xc7, 0x37, 0x63] }
  notice := {
    fileExtra := fun _ => none
    friendRequest := fun _ => none
    join := fun _ => none
    invitationOuter := fun _ => none
    selfInvitation := fun _ => none
    administrator := fun _ => none
    memberChange := fun _ => none
    operator := fun _ => none
    reactionNotice := fun _ => none
    groupNameNotice := fun _ => none
    name := fun _ => none
    notify := fun _ => none
    general := fun _ => none
    essenceNotice := fun _ => none
    groupMute := fun _ => none
    recallNotice := fun input => if input = recallProtoBytes then some recallNoticeValue else none
    friendRecall := fun _ => none }
  richText := {
    richText := fun _ => none
    element := fun _ => none
    source := fun _ => none
    sourceReserve := fun _ => none
    richMessage := fun _ => none
    lightApp := fun _ => none
    directImage := fun _ => none
    groupImage := fun _ => none
    video := fun _ => none
    text := fun _ => none
    face := fun _ => none
    common := fun _ => none
    mention := fun _ => none
    standardFace := fun _ => none
    animatedFace := fun _ => none
    marketFace := fun _ => none
    mediaInfo := fun _ => none
    transfer := fun _ => none
    groupFileExtra := fun _ => none
    markdown := fun _ => none
    poke := fun _ => none
    inflate := fun _ _ => none
    json := fun _ => none
    messageResource := fun _ => none }
  codec := {
    packet := fun input => if input = overflowPacketBytes then some overflowPacket else none
    pair := fun _ => none
    encodePair := fun _ => []
    protective := fun _ => none
    configAck := fun _ => none
    legacyVideoAck := fun _ => .error .rejected }

/-- A plan with one route, for synchronization pushes. -/
def infoSyncPlan : PushPlan where
  entries := [{
    route := "InfoSyncPush"
    behavior := .infoSyncState
    responseRoute := none
    parameter := 0
    maximumBodyLen := maxPushBodyLen
    valid := by decide }]
  valid := by decide

def emptySync : OnlineSyncState where
  groupLastMessageTime := 0
  directLastMessageTime := 0
  previousDirectMessageTime := 0
  lastGroupCode := 0

/-- The only push of the run. -/
def overflowInput : PushInput :=
  .handle "InfoSyncPush" overflowPacketBytes emptySync

theorem overflowWire_bounded : overflowWire.message.Bounded where
  push_payload := by
    intro input push body payload hpush
    cases hpush
  pushBody_payload := by
    intro input body payload hbody hpayload
    have hbody : decodeOverflowBody input = some body := hbody
    unfold decodeOverflowBody at hbody
    split at hbody
    · cases hbody
      cases hpayload
    · obtain ⟨sequence, hfind, rfl⟩ := Option.map_eq_some_iff.mp hbody
      have hinput : recallMessageBytes sequence = input := by
        simpa using List.find?_some hfind
      cases hpayload
      have hlen : (recallMessageBytes sequence).length = 17 + recallContentBytes.length := by
        simp [recallMessageBytes]
        omega
      rw [← hinput, hlen]
      simp [MessageBody.payloadLen]

theorem queueBounded_iff_overflow :
    overflowWire.message.Bounded ∧
      ((∀ reached, reached <+: [overflowInput] →
          ((machine overflowWire).run (.new infoSyncPlan) reached).QueueBounded) ↔
        (machine overflowWire).Guarded (fun runtime input => runtime.Fits overflowWire input)
          (.new infoSyncPlan) [overflowInput]) :=
  ⟨overflowWire_bounded,
    queueBounded_iff overflowWire overflowWire_bounded infoSyncPlan [overflowInput]⟩

/-- Eight notices fill the queue, and the message behind them is queued as well. -/
theorem overflowInput_not_queueBounded :
    ¬ ((machine overflowWire).run (.new infoSyncPlan) [overflowInput]).QueueBounded := by
  intro hbounded
  have hlength : ((machine overflowWire).run (.new infoSyncPlan) [overflowInput]).events.length =
      257 := by
    decide +kernel
  have hle := hbounded.events_le
  rw [hlength] at hle
  exact absurd hle (by decide)

end Overflow

end PushRuntime
end Runtime
end Lirvena
