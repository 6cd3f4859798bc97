import Lirvena.Ceylith.Requests
import Lirvena.Lib.Run

/-!
# The continuity watch

A watch repeats one call over a dedicated connection: the request carries a
cursor, and the answer is an event with a later cursor, or an idle result.  An
event moves the cursor on and is handed to the caller; every other answer ends
the watch.

The server is not trusted.  A turn takes whatever the exchange answers, and what
is delivered is compared with `Coherent`, the events that agree with the request
and with themselves.
-/

namespace Lirvena
namespace Ceylith
namespace Watch

open Lib

/-! ## Responses -/

/-- Renewal state included in a Watch grant snapshot. -/
inductive RenewalState where
  | current
  | paused
  | revoked
  deriving DecidableEq

/-- Validated authorization snapshot delivered by Ceylith Watch. -/
structure WatchGrantSnapshot where
  grantClass : GrantClass
  maxFullAccounts : UInt32
  maxActiveInstallations : UInt32
  expiresAtMs : UInt64
  renewalState : RenewalState
  policyEpoch : UInt64
  deriving DecidableEq

/-- Structurally validated, cursor-bound Watch event. -/
structure WatchEvent where
  cursor : UInt64
  kind : WatchEventKind
  occurredAtMs : UInt64
  accountSlotId : Option AccountSlotId
  reasonCode : UInt32
  payload : List UInt8
  grant : Option WatchGrantSnapshot
  deriving DecidableEq

/-- One Watch long-poll outcome. -/
inductive WatchOutcome where
  | event (event : WatchEvent)
  | idle (cursor : UInt64)
  deriving DecidableEq

def watchIdleCode : UInt32 := 1

def decodeRenewalState (value : Int) : Except CodecError RenewalState := do
  match ← okOr .invalidField (Ceylith.RenewalState.ofWire value) with
  | .current => .ok .current
  | .paused => .ok .paused
  | .revoked => .ok .revoked
  | .unspecified => .error .invalidField

def decodeGrant (value : Proto.WatchGrantSnapshot) :
    Except CodecError WatchGrantSnapshot := do
  let grantClass ← okOr .invalidField (GrantClass.ofWire value.grantClass)
  let renewalState ← decodeRenewalState value.renewalState
  return {
    grantClass := grantClass
    maxFullAccounts := value.maxFullAccounts
    maxActiveInstallations := value.maxActiveInstallations
    expiresAtMs := value.expiresAtMs
    renewalState := renewalState
    policyEpoch := value.policyEpoch }

def decodeAccountSlot (value : List UInt8) : Except CodecError (Option AccountSlotId) :=
  if value = [] then .ok none
  else some <$> okOr .invalidField (FixedBytes.ofBytes 16 value)

def decodeOptionalGrant : Option Proto.WatchGrantSnapshot →
    Except CodecError (Option WatchGrantSnapshot)
  | none => .ok none
  | some value => some <$> decodeGrant value

def decodeEvent (value : Proto.WatchEvent) : Except CodecError WatchEvent := do
  let kind ← okOr .invalidField (WatchEventKind.ofWire value.kind)
  let accountSlotId ← decodeAccountSlot value.accountSlotId
  let grant ← decodeOptionalGrant value.grant
  return {
    cursor := value.cursor
    kind := kind
    occurredAtMs := value.occurredAtMs
    accountSlotId := accountSlotId
    reasonCode := value.reasonCode
    payload := value.payload
    grant := grant }

/-- Decodes a cursor-bound Watch response. -/
def decodeWatchResponse (sha256 : Sha256) (frame : Proto.InnerFrame)
    (requestedCursor : UInt64) : Except CodecError WatchOutcome := do
  validateInner sha256 frame
  match ← okOr .unsupportedBody frame.body with
  | .watchEvent value =>
      if requestedCursor < value.cursor then .event <$> decodeEvent value
      else .error .invalidField
  | .genericResult value =>
      if value.accepted ∧ value.code = watchIdleCode ∧ value.payload = [] then
        return .idle requestedCursor
      else .error .invalidField
  | _ => .error .invalidField

/-! ## The loop -/

/-- Where the task of a watch waits. -/
inductive WatchStage where
  | polling
  | backingOff
  | ended
  deriving DecidableEq

structure WatchLoop where
  cursor : UInt64
  stage : WatchStage
  deriving DecidableEq

/-- A watch that has just been spawned. -/
def WatchLoop.spawn : WatchLoop where
  cursor := 0
  stage := .polling

/-- What the task waits for: the shutdown signal, the answer of the exchange with
whether the caller still holds the receiver, and the end of the backoff. -/
inductive WatchTurn where
  | stopped
  | answered (answer : Except ClientError Proto.InnerFrame) (receives : Bool)
  | slept

section Loop

variable (sha256 : Sha256) (admission : SessionAdmission)

/-- The request of a polling watch. -/
def watchRequest (watch : WatchLoop) : Except ClientError Proto.InnerFrame :=
  watchRequestFor admission watch.cursor (UInt32.ofNat maxWatchWaitMs)

/-- `watch_once` for one answer of the exchange. -/
def watchOnce (watch : WatchLoop) (answer : Except ClientError Proto.InnerFrame) :
    Except ClientError WatchOutcome := do
  let _ ← watchRequest admission watch
  let response ← answer
  (decodeWatchResponse sha256 response watch.cursor).mapError fun _ => .protocol

/-- One turn of the loop, with what it hands to the caller. -/
def turn (watch : WatchLoop) :
    WatchTurn → WatchLoop × Option (Except ClientError WatchEvent)
  | .stopped => ({ watch with stage := .ended }, none)
  | .answered answer receives =>
      if watch.stage = .polling then
        match watchOnce sha256 admission watch answer with
        | .ok (.event event) =>
            if receives then ({ watch with cursor := event.cursor }, some (.ok event))
            else ({ cursor := event.cursor, stage := .ended }, none)
        | .ok (.idle _) => ({ watch with stage := .backingOff }, none)
        | .error error =>
            ({ watch with stage := .ended }, if receives then some (.error error) else none)
      else
        (watch, none)
  | .slept =>
      if watch.stage = .backingOff then ({ watch with stage := .polling }, none)
      else (watch, none)

def watchLoop : Machine WatchLoop WatchTurn (Option (Except ClientError WatchEvent)) where
  step := turn sha256 admission

end Loop

/-- The event that a turn delivers. -/
def deliveredEvent : WatchTurn × Option (Except ClientError WatchEvent) → Option WatchEvent
  | (_, some (.ok event)) => some event
  | _ => none

/-- The events delivered in a history, oldest first. -/
def deliveredEvents (history : List (WatchTurn × Option (Except ClientError WatchEvent))) :
    List WatchEvent :=
  history.filterMap deliveredEvent

/-! ## Answers that agree with their request -/

/-- The renewal state that an event of a kind may report. -/
def RenewalFits (renewal : Ceylith.RenewalState) : WatchEventKind → Prop
  | .renewalPaused => renewal = .paused
  | .grantRevoked => renewal = .revoked
  | .grantRestored => renewal = .current
  | .grantExpiring | .quotaChanged | .policyChanged =>
      renewal = .current ∨ renewal = .paused
  | .profileChanged | .maintenance => False

/-- The quotas that a grant of a class may have. -/
def QuotaFits (grant : Proto.WatchGrantSnapshot) : GrantClass → Prop
  | .«public» => grant.maxFullAccounts = 0
  | .community => grant.maxFullAccounts ≠ 0 ∧ grant.maxActiveInstallations ≠ 0
  | .full => True

/-- A grant snapshot that agrees with the kind of its event and with itself. -/
structure SnapshotFits (kind : WatchEventKind) (grant : Proto.WatchGrantSnapshot) :
    Prop where
  renewal : ∃ renewal, Ceylith.RenewalState.ofWire grant.renewalState = some renewal ∧
    RenewalFits renewal kind
  quota : ∃ grantClass, GrantClass.ofWire grant.grantClass = some grantClass ∧
    QuotaFits grant grantClass
  expires : grant.expiresAtMs ≠ 0
  epoch : grant.policyEpoch ≠ 0

/-- The grant that an event of a kind carries: none for a change of the profile and
for maintenance. -/
def GrantFits (grant : Option Proto.WatchGrantSnapshot) : WatchEventKind → Prop
  | .profileChanged | .maintenance => grant = none
  | kind => ∃ snapshot, grant = some snapshot ∧ SnapshotFits kind snapshot

/-- A frame that answers a watch request: a later event of a known kind with the
grant of that kind, or the idle result. -/
inductive Answers (requestedCursor : UInt64) (frame : Proto.InnerFrame) : Prop where
  | event (value : Proto.WatchEvent) (kind : WatchEventKind)
      (hbody : frame.body = some (.watchEvent value))
      (hlater : requestedCursor < value.cursor)
      (hkind : WatchEventKind.ofWire value.kind = some kind)
      (hgrant : GrantFits value.grant kind)
  | idle (value : Proto.GenericResult)
      (hbody : frame.body = some (.genericResult value))
      (haccepted : value.accepted = true ∧ value.code = watchIdleCode ∧ value.payload = [])

theorem validateKindRenewal_eq_ok {kind : WatchEventKind} {renewal : Ceylith.RenewalState}
    (hkind : kind ≠ .profileChanged ∧ kind ≠ .maintenance) (hknown : renewal ≠ .unspecified)
    (hvalid : validateKindRenewal kind renewal = .ok ()) : RenewalFits renewal kind := by
  cases kind <;> cases renewal <;> simp_all [validateKindRenewal, rejectIf, RenewalFits]

theorem validateGrantBounds_eq_ok {value : Proto.WatchGrantSnapshot} {grantClass : GrantClass}
    (hvalid : validateGrantBounds value grantClass = .ok ()) :
    QuotaFits value grantClass := by
  cases grantClass with
  | «public» => simpa [validateGrantBounds, QuotaFits] using hvalid
  | community => simpa [validateGrantBounds, QuotaFits] using hvalid
  | full => trivial

theorem snapshotFits_of_valid {kind : WatchEventKind} {grant : Proto.WatchGrantSnapshot}
    (hkind : kind ≠ .profileChanged ∧ kind ≠ .maintenance)
    (hgrant : validateWatchGrant grant = .ok ())
    (hboth : validateWatchKindGrant kind grant = .ok ()) : SnapshotFits kind grant := by
  obtain ⟨grantClass, hclass, hrest⟩ := bind_eq_ok_iff.mp hgrant
  obtain ⟨renewal, hrenewal, hchecks⟩ := bind_eq_ok_iff.mp hrest
  obtain ⟨⟨⟩, hnonzero, hbounds⟩ := bind_eq_ok_iff.mp hchecks
  obtain ⟨again, hagain, hmatches⟩ := bind_eq_ok_iff.mp hboth
  have hsame : again = renewal := Option.some.inj
    ((okOr_eq_ok_iff.mp hagain).symm.trans (okOr_eq_ok_iff.mp hrenewal))
  rw [hsame] at hmatches
  have hzero := rejectIf_eq_ok_iff.mp hnonzero
  push Not at hzero
  exact {
    renewal := ⟨renewal, okOr_eq_ok_iff.mp hrenewal,
      validateKindRenewal_eq_ok hkind hzero.1 hmatches⟩
    quota := ⟨grantClass, okOr_eq_ok_iff.mp hclass, validateGrantBounds_eq_ok hbounds⟩
    expires := hzero.2.1
    epoch := hzero.2.2 }

/-- What the validator checks of a grant is what its kind requires. -/
theorem grantFits_of_valid {kind : WatchEventKind} {grant : Option Proto.WatchGrantSnapshot}
    (hvalid : validateEventGrant kind grant = .ok ()) : GrantFits grant kind := by
  have hpresent : kind ≠ .profileChanged ∧ kind ≠ .maintenance →
      (do
        let grant ← okOr CodecError.invalidField grant
        validateWatchGrant grant
        validateWatchKindGrant kind grant) = .ok () →
      ∃ snapshot, grant = some snapshot ∧ SnapshotFits kind snapshot := by
    intro hkind hok
    obtain ⟨snapshot, hsome, hrest⟩ := bind_eq_ok_iff.mp hok
    obtain ⟨⟨⟩, hgrant, hboth⟩ := bind_eq_ok_iff.mp hrest
    exact ⟨snapshot, okOr_eq_ok_iff.mp hsome, snapshotFits_of_valid hkind hgrant hboth⟩
  cases kind with
  | profileChanged | maintenance =>
      simpa [GrantFits, validateEventGrant] using hvalid
  | grantExpiring | renewalPaused | grantRevoked | quotaChanged | policyChanged
  | grantRestored => exact hpresent (by simp) hvalid

theorem grantFits_of_validateWatchEvent {value : Proto.WatchEvent}
    (hvalid : validateWatchEvent value = .ok ()) :
    ∃ kind, WatchEventKind.ofWire value.kind = some kind ∧ GrantFits value.grant kind := by
  obtain ⟨kind, hkind, hrest⟩ := bind_eq_ok_iff.mp hvalid
  obtain ⟨⟨⟩, -, hslot⟩ := bind_eq_ok_iff.mp hrest
  obtain ⟨⟨⟩, -, hpayload⟩ := bind_eq_ok_iff.mp hslot
  obtain ⟨⟨⟩, -, hgrant⟩ := bind_eq_ok_iff.mp hpayload
  exact ⟨kind, okOr_eq_ok_iff.mp hkind, grantFits_of_valid hgrant⟩

theorem decodeEvent_cursor {value : Proto.WatchEvent} {event : WatchEvent}
    (hok : decodeEvent value = .ok event) : event.cursor = value.cursor := by
  obtain ⟨kind, -, hrest⟩ := bind_eq_ok_iff.mp hok
  obtain ⟨slot, -, hgrant⟩ := bind_eq_ok_iff.mp hrest
  obtain ⟨grant, -, hreturn⟩ := bind_eq_ok_iff.mp hgrant
  cases hreturn
  rfl

/-- Only a frame that answers the request is decoded, and an event has a later
cursor. -/
theorem decodeWatchResponse_eq_ok {sha256 : Sha256} {frame : Proto.InnerFrame}
    {requestedCursor : UInt64} {outcome : WatchOutcome}
    (hok : decodeWatchResponse sha256 frame requestedCursor = .ok outcome) :
    Answers requestedCursor frame ∧
      ∀ event, outcome = .event event → requestedCursor < event.cursor := by
  unfold decodeWatchResponse at hok
  obtain ⟨⟨⟩, hvalid, hdecode⟩ := bind_eq_ok_iff.mp hok
  obtain ⟨body, hbody, hmatch⟩ := bind_eq_ok_iff.mp hdecode
  have hsome := okOr_eq_ok_iff.mp hbody
  have hchecked : validateBody sha256 body = .ok () := by
    obtain ⟨⟨⟩, -, hrest⟩ := bind_eq_ok_iff.mp hvalid
    obtain ⟨same, hsame, hchecks⟩ := bind_eq_ok_iff.mp hrest
    have heq : same = body := Option.some.inj ((okOr_eq_ok_iff.mp hsame).symm.trans hsome)
    rwa [heq] at hchecks
  cases body with
  | watchEvent value =>
      obtain ⟨kind, hkind, hgrant⟩ := grantFits_of_validateWatchEvent hchecked
      dsimp only at hmatch
      split at hmatch
      · next hlater =>
          obtain ⟨event, hevent, rfl⟩ := map_eq_ok_iff.mp hmatch
          refine ⟨.event value kind hsome hlater hkind hgrant, ?_⟩
          rintro other ⟨⟩
          rw [decodeEvent_cursor hevent]
          exact hlater
      · cases hmatch
  | genericResult value =>
      dsimp only at hmatch
      split at hmatch
      · next haccepted =>
          cases hmatch
          refine ⟨.idle value hsome haccepted, ?_⟩
          intro event hevent
          cases hevent
      · cases hmatch
  | _ => cases hmatch

/-! ## Runs -/

section Runs

variable {sha256 : Sha256} {admission : SessionAdmission}

/-- The cursor of the last delivered event, or zero. -/
def lastCursor (events : List WatchEvent) : UInt64 :=
  (events.getLast?.map WatchEvent.cursor).getD 0

theorem watchOnce_eq_ok {watch : WatchLoop} {answer : Except ClientError Proto.InnerFrame}
    {outcome : WatchOutcome}
    (hok : watchOnce sha256 admission watch answer = .ok outcome) :
    ∃ frame, answer = .ok frame ∧ Answers watch.cursor frame ∧
      ∀ event, outcome = .event event → watch.cursor < event.cursor := by
  obtain ⟨request, -, hrest⟩ := bind_eq_ok_iff.mp hok
  obtain ⟨frame, hframe, hdecode⟩ := bind_eq_ok_iff.mp hrest
  refine ⟨frame, hframe, ?_⟩
  cases hresult : decodeWatchResponse sha256 frame watch.cursor with
  | error error =>
      rw [hresult] at hdecode
      cases hdecode
  | ok decoded =>
      rw [hresult] at hdecode
      cases hdecode
      exact decodeWatchResponse_eq_ok hresult

/-- What the events delivered so far say about the loop. -/
structure Delivered (history : List (WatchTurn × Option (Except ClientError WatchEvent)))
    (watch : WatchLoop) : Prop where
  increasing : (deliveredEvents history).Pairwise fun first second =>
    first.cursor < second.cursor
  le_cursor : ∀ event ∈ deliveredEvents history, event.cursor ≤ watch.cursor
  last : watch.stage ≠ .ended → watch.cursor = lastCursor (deliveredEvents history)

theorem Delivered.quiet
    {history : List (WatchTurn × Option (Except ClientError WatchEvent))}
    {watch next : WatchLoop} (hdelivered : Delivered history watch)
    {entry : WatchTurn × Option (Except ClientError WatchEvent)}
    (hentry : deliveredEvent entry = none) (hcursor : watch.cursor ≤ next.cursor)
    (hlast : next.stage ≠ .ended → watch.stage ≠ .ended ∧ next.cursor = watch.cursor) :
    Delivered (history ++ [entry]) next := by
  have hsame : deliveredEvents (history ++ [entry]) = deliveredEvents history := by
    simp [deliveredEvents, hentry]
  constructor
  case increasing =>
    rw [hsame]
    exact hdelivered.increasing
  case le_cursor =>
    rw [hsame]
    intro event hevent
    exact UInt64.le_trans (hdelivered.le_cursor event hevent) hcursor
  case last =>
    rw [hsame]
    intro hrunning
    obtain ⟨hbefore, hkept⟩ := hlast hrunning
    rw [hkept]
    exact hdelivered.last hbefore

theorem Delivered.event
    {history : List (WatchTurn × Option (Except ClientError WatchEvent))}
    {watch next : WatchLoop} (hdelivered : Delivered history watch)
    {entry : WatchTurn × Option (Except ClientError WatchEvent)} {event : WatchEvent}
    (hentry : deliveredEvent entry = some event) (hlater : watch.cursor < event.cursor)
    (hmoved : next.cursor = event.cursor) : Delivered (history ++ [entry]) next := by
  have happend : deliveredEvents (history ++ [entry]) = deliveredEvents history ++ [event] := by
    simp [deliveredEvents, hentry]
  constructor
  case increasing =>
    rw [happend]
    refine List.pairwise_append.mpr ⟨hdelivered.increasing, List.pairwise_singleton _ _, ?_⟩
    intro earlier hearlier later hlast
    obtain rfl := List.mem_singleton.mp hlast
    exact UInt64.lt_of_le_of_lt (hdelivered.le_cursor earlier hearlier) hlater
  case le_cursor =>
    rw [happend, hmoved]
    intro other hother
    rcases List.mem_append.mp hother with hold | hnew
    · exact UInt64.le_of_lt
        (UInt64.lt_of_le_of_lt (hdelivered.le_cursor other hold) hlater)
    · obtain rfl := List.mem_singleton.mp hnew
      exact UInt64.le_refl _
  case last =>
    intro _
    simp [happend, lastCursor, hmoved]

theorem Delivered.step
    {history : List (WatchTurn × Option (Except ClientError WatchEvent))}
    {watch : WatchLoop} (hdelivered : Delivered history watch) (input : WatchTurn) :
    Delivered (history ++ [(input, ((watchLoop sha256 admission).step watch input).2)])
      ((watchLoop sha256 admission).step watch input).1 := by
  show Delivered (history ++ [(input, (turn sha256 admission watch input).2)])
    (turn sha256 admission watch input).1
  cases input with
  | stopped =>
      exact hdelivered.quiet rfl (UInt64.le_refl _) (fun hrunning => absurd rfl hrunning)
  | slept =>
      by_cases hstage : watch.stage = .backingOff
      · simp only [Watch.turn, hstage, if_true]
        exact hdelivered.quiet rfl (UInt64.le_refl _) (fun _ => ⟨by simp [hstage], rfl⟩)
      · simp only [Watch.turn, hstage, if_false]
        exact hdelivered.quiet rfl (UInt64.le_refl _) (fun hrunning => ⟨hrunning, rfl⟩)
  | answered answer receives =>
      by_cases hstage : watch.stage = .polling
      · simp only [Watch.turn, hstage, if_true]
        split
        · next event hevent =>
            obtain ⟨frame, -, -, hlater⟩ := watchOnce_eq_ok hevent
            cases receives with
            | true =>
                have hentry : deliveredEvent (.answered answer true, some (.ok event)) =
                    some event := rfl
                exact hdelivered.event hentry (hlater event rfl) rfl
            | false =>
                exact hdelivered.quiet rfl (UInt64.le_of_lt (hlater event rfl))
                  (fun hrunning => absurd rfl hrunning)
        · exact hdelivered.quiet rfl (UInt64.le_refl _) (fun _ => ⟨by simp [hstage], rfl⟩)
        · refine hdelivered.quiet ?_ (UInt64.le_refl _) (fun hrunning => absurd rfl hrunning)
          cases receives <;> rfl
      · simp only [Watch.turn, hstage, if_false]
        exact hdelivered.quiet rfl (UInt64.le_refl _) (fun hrunning => ⟨hrunning, rfl⟩)

variable (sha256 admission)

theorem delivered_run (turns : List WatchTurn) :
    Delivered ((watchLoop sha256 admission).trace .spawn turns)
      ((watchLoop sha256 admission).run .spawn turns) := by
  refine (watchLoop sha256 admission).history_run Delivered ?_
    (fun _ _ input hdelivered => hdelivered.step input) turns
  exact ⟨List.Pairwise.nil, by simp [deliveredEvents], fun _ => rfl⟩

/-- A watch that has ended delivers nothing more. -/
theorem deliveredEvents_of_ended {watch : WatchLoop} (hended : watch.stage = .ended)
    (turns : List WatchTurn) :
    deliveredEvents ((watchLoop sha256 admission).trace watch turns) = [] := by
  induction turns generalizing watch with
  | nil => rfl
  | cons input rest ih =>
      have hstep : (watchLoop sha256 admission).step watch input = (watch, none) := by
        obtain ⟨cursor, stage⟩ := watch
        obtain rfl : stage = .ended := hended
        cases input <;> rfl
      rw [Machine.trace_cons, hstep]
      simpa [deliveredEvents, deliveredEvent] using ih hended

/-- A frame that does not answer the request ends the watch. -/
theorem turn_of_not_answers {watch : WatchLoop} {frame : Proto.InnerFrame} (receives : Bool)
    (hstage : watch.stage = .polling) (hnot : ¬ Answers watch.cursor frame) :
    (turn sha256 admission watch (.answered (.ok frame) receives)).1.stage = .ended ∧
      deliveredEvent (.answered (.ok frame) receives,
        (turn sha256 admission watch (.answered (.ok frame) receives)).2) = none := by
  simp only [turn, hstage, if_true]
  cases hresult : watchOnce sha256 admission watch (.ok frame) with
  | error error => cases receives <;> exact ⟨rfl, rfl⟩
  | ok outcome =>
      obtain ⟨same, hsame, hanswers, -⟩ := watchOnce_eq_ok hresult
      cases hsame
      exact absurd hanswers hnot

/-- Whatever the server answers: the delivered events have increasing cursors, none
is delivered twice, a polling watch requests from the cursor of the last delivered
event, and a frame that does not answer its request ends the watch and delivers
nothing. -/
theorem watch_run (turns : List WatchTurn) :
    let loop := watchLoop sha256 admission
    let events := deliveredEvents (loop.trace .spawn turns)
    events.Pairwise (fun first second => first.cursor < second.cursor) ∧
    events.Nodup ∧
    (∀ reached, reached <+: turns → (loop.run .spawn reached).stage = .polling →
      watchRequest admission (loop.run .spawn reached) =
        .ok (currentFrame (.watchRequest {
          runtimeLease := admission.runtimeLease.bytes
          cursor := lastCursor (deliveredEvents (loop.trace .spawn reached))
          maxWaitMs := UInt32.ofNat maxWatchWaitMs }))) ∧
    ∀ reached frame receives rest, turns = reached ++ .answered (.ok frame) receives :: rest →
      (loop.run .spawn reached).stage = .polling →
      ¬ Answers (loop.run .spawn reached).cursor frame →
      (loop.run .spawn (reached ++ [.answered (.ok frame) receives])).stage = .ended ∧
        events = deliveredEvents (loop.trace .spawn reached) := by
  intro loop events
  have hdelivered := delivered_run sha256 admission turns
  refine ⟨hdelivered.increasing, ?_, ?_, ?_⟩
  · refine hdelivered.increasing.imp ?_
    rintro first second hlater rfl
    exact UInt64.lt_irrefl _ hlater
  · intro reached hreached hstage
    have hlast := (delivered_run sha256 admission reached).last (by rw [hstage]; decide)
    rw [watchRequest, hlast]
    rfl
  · intro reached frame receives rest hturns hstage hnot
    obtain ⟨hended, hnone⟩ := turn_of_not_answers sha256 admission receives hstage hnot
    constructor
    · rw [Machine.run_append]
      exact hended
    · have hrest := deliveredEvents_of_ended sha256 admission hended rest
      have hsplit : events = deliveredEvents (loop.trace .spawn reached) ++
          deliveredEvents (loop.trace (loop.run .spawn reached)
            (.answered (.ok frame) receives :: rest)) := by
        show deliveredEvents (loop.trace .spawn turns) = _
        rw [hturns, Machine.trace_append]
        exact List.filterMap_append
      have hquiet : deliveredEvents (loop.trace (loop.run .spawn reached)
          (.answered (.ok frame) receives :: rest)) = [] :=
        (List.filterMap_cons_none hnone).trans hrest
      rw [hsplit, hquiet, List.append_nil]

end Runs

end Watch
end Ceylith
end Lirvena
