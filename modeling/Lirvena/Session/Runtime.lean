import Lirvena.Lib.Result

/-!
# The authenticated session

One session owns the only read path of a connection.  A push can therefore
arrive at two places: while `exchange` waits for the answer to a request, where
it is queued, and while `readPush` waits on an idle connection, where it is
returned.  Reads are inputs of the model: each is a decoded frame or the error
of the transport or the envelope.
-/

namespace Lirvena
namespace Session

open Lib

/-- The number of pushes a session holds back for its owner. -/
def maxQueuedPushes : Nat := 64

/-- The number of pushes that may precede the answer to one request. -/
def maxInterleavedPushes : Nat := 64

/-- Redacted transport failure. -/
inductive TransportError where
  | invalidConfiguration
  | invalidFrame
  | io
  | timeout
  deriving DecidableEq

/-- Redacted envelope failure. -/
inductive EnvelopeError where
  | wire
  | crypto
  | invalidField
  | unsupported
  deriving DecidableEq

/-- Rejected authenticated session operation. -/
inductive SessionError where
  | transport (error : TransportError)
  | envelope (error : EnvelopeError)
  | protocol
  | pushLimit
  deriving DecidableEq

def SessionError.isIdleTimeout : SessionError → Bool
  | .transport .timeout => true
  | _ => false

/-- One decoded server frame. -/
structure SsoResponse where
  sequence : Nat
  returnCode : Int
  command : String
  extra : String
  reserve : List UInt8
  extension : List UInt8
  payload : List UInt8
  deriving DecidableEq

/-- One read of the connection. -/
abbrev Inbound := Except SessionError SsoResponse

/-- The session of one transport generation, with its bounded push queue. -/
structure AuthenticatedSession where
  pushes : List SsoResponse
  bounded : pushes.length ≤ maxQueuedPushes
  deriving DecidableEq

namespace AuthenticatedSession

def new : AuthenticatedSession where
  pushes := []
  bounded := Nat.zero_le _

/-- Takes one admitted push out of the queue. -/
def popPush (session : AuthenticatedSession) :
    Option (SsoResponse × AuthenticatedSession) :=
  match hpushes : session.pushes with
  | [] => none
  | push :: rest =>
      some (push, ⟨rest, by
        have hbounded := session.bounded
        rw [hpushes] at hbounded
        exact Nat.le_of_succ_le hbounded⟩)

def enqueue (session : AuthenticatedSession) (push : SsoResponse) :
    Except SessionError AuthenticatedSession :=
  if hfull : maxQueuedPushes ≤ session.pushes.length then
    .error .pushLimit
  else
    .ok ⟨session.pushes ++ [push], by simp only [List.length_append]; grind⟩

/-- One frame read while a request is outstanding: `none` keeps waiting. -/
def exchangeFrame (admitsPush : String → Bool) (sequence : Nat) (command : String)
    (session : AuthenticatedSession) (inbound : SsoResponse) :
    AuthenticatedSession × Option (Except SessionError (List UInt8)) :=
  if inbound.sequence = sequence ∧ inbound.command = command then
    if inbound.returnCode ≠ 0 then
      (session, some (.error .protocol))
    else
      (session, some (.ok inbound.payload))
  else if inbound.sequence = sequence ∨ admitsPush inbound.command = false then
    (session, some (.error .protocol))
  else
    match session.enqueue inbound with
    | .error error => (session, some (.error error))
    | .ok session => (session, none)

/-- The read loop of an exchange with the given number of reads left.  It is
still waiting (`none`) when the reads run out before it ends. -/
def exchangeReads (admitsPush : String → Bool) (sequence : Nat) (command : String) :
    Nat → AuthenticatedSession → List Inbound →
      AuthenticatedSession × Option (Except SessionError (List UInt8))
  | 0, session, _ => (session, some (.error .pushLimit))
  | _ + 1, session, [] => (session, none)
  | _ + 1, session, .error error :: _ => (session, some (.error error))
  | remaining + 1, session, .ok inbound :: reads =>
      match exchangeFrame admitsPush sequence command session inbound with
      | (session, none) =>
          exchangeReads admitsPush sequence command remaining session reads
      | (session, some result) => (session, some result)

/-- Sends one request and keeps admitted pushes out of its response path. -/
def exchange (admitsPush : String → Bool) (sequence : Nat) (command : String)
    (session : AuthenticatedSession) (written : Except SessionError Unit)
    (reads : List Inbound) :
    AuthenticatedSession × Option (Except SessionError (List UInt8)) :=
  match written with
  | .error error => (session, some (.error error))
  | .ok () =>
      exchangeReads admitsPush sequence command (maxInterleavedPushes + 1) session reads

/-- Reads one push while the request path is idle. -/
def readPush (admitsPush : String → Bool) (inbound : Inbound) :
    Except SessionError SsoResponse := do
  let inbound ← inbound
  if inbound.returnCode ≠ 0 ∨ admitsPush inbound.command = false then
    throw .protocol
  return inbound

variable {admitsPush : String → Bool} {sequence : Nat} {command : String}
  {session next : AuthenticatedSession} {inbound : SsoResponse}

theorem popPush_eq_some {push : SsoResponse}
    (hpop : session.popPush = some (push, next)) :
    session.pushes = push :: next.pushes := by
  unfold popPush at hpop
  split at hpop
  · cases hpop
  · next head rest hpushes =>
      cases hpop
      exact hpushes

theorem popPush_eq_none (hpop : session.popPush = none) : session.pushes = [] := by
  unfold popPush at hpop
  split at hpop
  · next hpushes => exact hpushes
  · cases hpop

theorem enqueue_pushes (henqueue : session.enqueue inbound = .ok next) :
    next.pushes = session.pushes ++ [inbound] := by
  unfold enqueue at henqueue
  split at henqueue
  · cases henqueue
  · cases henqueue
    rfl

theorem enqueue_of_room (inbound : SsoResponse)
    (hroom : session.pushes.length < maxQueuedPushes) :
    ∃ next, session.enqueue inbound = .ok next ∧
      next.pushes = session.pushes ++ [inbound] := by
  unfold enqueue
  rw [dif_neg (Nat.not_le.mpr hroom)]
  exact ⟨_, rfl, rfl⟩

/-- A frame either ends the exchange and leaves the queue alone, or is queued
behind everything that is already there. -/
theorem exchangeFrame_cases (admitsPush : String → Bool) (sequence : Nat)
    (command : String) (session : AuthenticatedSession) (inbound : SsoResponse) :
    (∃ result, exchangeFrame admitsPush sequence command session inbound =
        (session, some result)) ∨
      ∃ next, exchangeFrame admitsPush sequence command session inbound = (next, none) ∧
        next.pushes = session.pushes ++ [inbound] := by
  unfold exchangeFrame
  split
  · left
    split
    · exact ⟨_, rfl⟩
    · exact ⟨_, rfl⟩
  · split
    · exact Or.inl ⟨_, rfl⟩
    · cases henqueue : session.enqueue inbound with
      | error error => exact Or.inl ⟨_, rfl⟩
      | ok next => exact Or.inr ⟨next, rfl, enqueue_pushes henqueue⟩

theorem readPush_ok (hcode : inbound.returnCode = 0) :
    readPush admitsPush (.ok inbound) =
      if admitsPush inbound.command then .ok inbound else .error .protocol := by
  cases hadmits : admitsPush inbound.command with
  | true => simp [readPush, hcode, hadmits, bind, Except.bind, pure, Except.pure]
  | false => simp [readPush, hadmits, bind, Except.bind, throw, throwThe,
      MonadExceptOf.throw]

/-- A frame of another request's sequence is queued exactly when its route is
admitted, and is a protocol error otherwise. -/
theorem exchangeFrame_other (admitsPush : String → Bool) (command : String)
    (hother : inbound.sequence ≠ sequence)
    (hroom : session.pushes.length < maxQueuedPushes) :
    (admitsPush inbound.command = true → ∃ next,
        exchangeFrame admitsPush sequence command session inbound = (next, none) ∧
          next.pushes = session.pushes ++ [inbound]) ∧
      (admitsPush inbound.command = false →
        exchangeFrame admitsPush sequence command session inbound =
          (session, some (.error .protocol))) := by
  constructor
  · intro hadmits
    obtain ⟨next, henqueue, hpushes⟩ := enqueue_of_room inbound hroom
    exact ⟨next, by simp [exchangeFrame, hother, hadmits, henqueue], hpushes⟩
  · intro hadmits
    simp [exchangeFrame, hother, hadmits]

/-- A successful frame that carries another sequence than the outstanding
request is treated, while the push queue and the reads of the exchange have
room, as `readPush` treats it: the exchange queues it and keeps waiting when
`readPush` returns it, and both reject it otherwise.  A frame that repeats the
outstanding sequence under another command ends the exchange. -/
theorem exchangeReads_treats_as_readPush (admitsPush : String → Bool) (sequence : Nat)
    (command : String) (session : AuthenticatedSession) (inbound : SsoResponse)
    (remaining : Nat) (reads : List Inbound) :
    (inbound.sequence ≠ sequence → inbound.returnCode = 0 →
      session.pushes.length < maxQueuedPushes →
      (readPush admitsPush (.ok inbound) = .ok inbound ∧
        ∃ next : AuthenticatedSession, next.pushes = session.pushes ++ [inbound] ∧
          exchangeReads admitsPush sequence command (remaining + 1) session
              (.ok inbound :: reads) =
            exchangeReads admitsPush sequence command remaining next reads) ∨
      (readPush admitsPush (.ok inbound) = .error .protocol ∧
        exchangeReads admitsPush sequence command (remaining + 1) session
            (.ok inbound :: reads) =
          (session, some (.error .protocol)))) ∧
    (inbound.sequence = sequence → inbound.command ≠ command →
      exchangeReads admitsPush sequence command (remaining + 1) session
          (.ok inbound :: reads) =
        (session, some (.error .protocol))) := by
  constructor
  · intro hother hcode hroom
    obtain ⟨hqueued, hrejected⟩ := exchangeFrame_other admitsPush command hother hroom
    rw [readPush_ok hcode]
    -- Both readers ask the same predicate about the command.
    cases hadmits : admitsPush inbound.command with
    | true =>
        left
        obtain ⟨next, hframe, hpushes⟩ := hqueued hadmits
        exact ⟨rfl, next, hpushes, by simp [exchangeReads, hframe]⟩
    | false =>
        right
        exact ⟨rfl, by simp [exchangeReads, hrejected hadmits]⟩
  · intro hsame hcommand
    simp [exchangeReads, exchangeFrame, hsame, hcommand]

/-- A successful frame of the given sequence and route, without a payload. -/
def bareFrame (sequence : Nat) (command : String) : SsoResponse where
  sequence := sequence
  returnCode := 0
  command := command
  extra := ""
  reserve := []
  extension := []
  payload := []

/-- A push with another sequence, and a frame that repeats the outstanding
sequence 17, arriving at a fresh session. -/
theorem exchangeReads_treats_as_readPush_fresh :
    (∃ next : AuthenticatedSession, next.pushes = [bareFrame 18 "push.alpha"] ∧
      exchangeReads (fun _ => true) 17 "request.alpha" 65 new
          [.ok (bareFrame 18 "push.alpha")] =
        exchangeReads (fun _ => true) 17 "request.alpha" 64 next []) ∧
    exchangeReads (fun _ => true) 17 "request.alpha" 65 new
        [.ok (bareFrame 17 "push.alpha")] =
      (new, some (.error .protocol)) := by
  constructor
  · have htreated := (exchangeReads_treats_as_readPush (fun _ => true) 17 "request.alpha"
      new (bareFrame 18 "push.alpha") 64 []).1 (by decide) rfl (by decide)
    rcases htreated with ⟨-, next, hpushes, hwaiting⟩ | ⟨hrejected, -⟩
    · exact ⟨next, hpushes, hwaiting⟩
    · cases hrejected
  · exact (exchangeReads_treats_as_readPush (fun _ => true) 17 "request.alpha"
      new (bareFrame 17 "push.alpha") 64 []).2 rfl (by decide)

/-- An admitted push that carries the outstanding sequence: `readPush` returns
it, an exchange rejects it. -/
theorem same_sequence_push_treated_differently :
    readPush (fun _ => true) (.ok (bareFrame 17 "push.alpha")) =
        .ok (bareFrame 17 "push.alpha") ∧
      exchange (fun _ => true) 17 "request.alpha" new (.ok ())
          [.ok (bareFrame 17 "push.alpha")] =
        (new, some (.error .protocol)) := by
  constructor
  · rfl
  · rfl

/-- An exchange that is still waiting has queued every frame it read, in the
order in which the frames arrived. -/
theorem exchangeReads_waiting {remaining : Nat} {reads : List Inbound}
    (hwaiting : exchangeReads admitsPush sequence command remaining session reads =
      (next, none)) :
    ∃ pushes : List SsoResponse, reads = pushes.map .ok ∧
      next.pushes = session.pushes ++ pushes := by
  induction remaining generalizing session reads with
  | zero => cases hwaiting
  | succ remaining ih =>
      cases reads with
      | nil =>
          cases hwaiting
          exact ⟨[], rfl, by simp⟩
      | cons read reads =>
          cases read with
          | error error => cases hwaiting
          | ok inbound =>
              rcases exchangeFrame_cases admitsPush sequence command session inbound with
                ⟨result, hframe⟩ | ⟨queued, hframe, hqueued⟩
              · simp [exchangeReads, hframe] at hwaiting
              · simp only [exchangeReads, hframe] at hwaiting
                obtain ⟨pushes, hreads, hnext⟩ := ih hwaiting
                exact ⟨inbound :: pushes, by simp [hreads], by simp [hnext, hqueued]⟩

end AuthenticatedSession
end Session
end Lirvena
