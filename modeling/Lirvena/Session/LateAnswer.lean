import Lirvena.Lib.Run
import Lirvena.Session.Runtime

/-!
# Late answers

A request whose answer does not come before the idle deadline is abandoned, and its answer may
still come: to the exchange of another request, or to a read of an idle connection.  The session
does not remember what it abandoned, so a late answer is judged as any frame of its command is.

The owner of a session uses it for one thing at a time; `Connection` takes the uses one by one,
with every read of an exchange as a use of its own.  What was abandoned is noted for the
statements only.
-/

namespace Lirvena
namespace Session

open Lib AuthenticatedSession

/-- What an answer is told by. -/
structure Request where
  sequence : Nat
  command : String
  deriving DecidableEq

/-- An exchange that waits for its answer, with the reads that are left to it. -/
structure Exchange where
  request : Request
  admitsPush : String → Bool
  remaining : Nat

structure Connection where
  session : AuthenticatedSession
  waiting : Option Exchange
  abandoned : List Request

namespace Connection

def new : Connection where
  session := .new
  waiting := none
  abandoned := []

/-- The requests whose answers may still come, oldest first. -/
def pending (connection : Connection) : List Request :=
  connection.abandoned ++ (connection.waiting.map Exchange.request).toList

/-- An exchange that is dropped before it ends. -/
def dropped (connection : Connection) : Connection where
  session := connection.session
  waiting := none
  abandoned := connection.pending

end Connection

/-- One use of the session: the write of a request, the next read of its exchange, a read while
the connection is idle, or the next queued push. -/
inductive Use where
  | request (request : Request) (admitsPush : String → Bool)
      (written : Except SessionError Unit)
  | arrive (inbound : Inbound)
  | readPush (admitsPush : String → Bool) (inbound : Inbound)
  | popPush

/-- The request that a use makes. -/
def Use.asked : Use → List Request
  | .request made _ _ => [made]
  | _ => []

inductive Outcome where
  | waiting
  | answered (payload : List UInt8)
  | pushed (push : SsoResponse)
  | popped (push : Option SsoResponse)
  | failed (error : SessionError)
  deriving DecidableEq

/-! ## One use -/

/-- A read of an exchange. -/
def readAnswer (connection : Connection) (exchange : Exchange) (inbound : Inbound) :
    Connection × Outcome :=
  match inbound with
  | .error error =>
      ({ connection with
          waiting := none
          abandoned := if error.isIdleTimeout then connection.pending else connection.abandoned },
        .failed error)
  | .ok inbound =>
      match exchangeFrame exchange.admitsPush exchange.request.sequence exchange.request.command
        connection.session inbound with
      | (session, some (.ok payload)) =>
          ({ connection with session := session, waiting := none }, .answered payload)
      | (session, some (.error error)) =>
          ({ connection with session := session, waiting := none }, .failed error)
      | (session, none) =>
          if exchange.remaining ≤ 1 then
            ({ connection with session := session, waiting := none }, .failed .pushLimit)
          else
            ({ connection with
                session := session
                waiting := some { exchange with remaining := exchange.remaining - 1 } },
              .waiting)

/-- The session has one owner, so an exchange that is not waited for any longer was dropped. -/
def use (connection : Connection) : Use → Connection × Outcome
  | .request request admitsPush written =>
      match written with
      | .error error => (connection.dropped, .failed error)
      | .ok () =>
          ({ connection.dropped with
              waiting := some ⟨request, admitsPush, maxInterleavedPushes + 1⟩ }, .waiting)
  | .arrive inbound =>
      match connection.waiting with
      | none => (connection, .waiting)
      | some exchange => readAnswer connection exchange inbound
  | .readPush admitsPush inbound =>
      match AuthenticatedSession.readPush admitsPush inbound with
      | .error error => (connection.dropped, .failed error)
      | .ok push => (connection.dropped, .pushed push)
  | .popPush =>
      match connection.session.popPush with
      | none => (connection.dropped, .popped none)
      | some (push, session) =>
          ({ connection.dropped with session := session }, .popped (some push))

/-- The uses of one session. -/
def connection : Machine Connection Use Outcome where
  step := use

section Reads

variable {start : Connection} {exchange : Exchange}

theorem run_of_idle (hidle : start.waiting = none) (reads : List Inbound) :
    connection.run start (reads.map .arrive) = start := by
  induction reads with
  | nil => rfl
  | cons read reads ih =>
      have hstep : (connection.step start (.arrive read)).1 = start := by
        show (use start (.arrive read)).1 = start
        simp only [use, hidle]
      rw [List.map_cons, Machine.run_cons, hstep, ih]

theorem run_of_ended {read : Inbound} {next : Connection}
    (hread : (connection.step start (.arrive read)).1 = next) (hidle : next.waiting = none)
    (reads : List Inbound) :
    connection.run start ((read :: reads).map .arrive) = next := by
  rw [List.map_cons, Machine.run_cons, hread, run_of_idle hidle]

/-- The reads of an exchange, one after another, are its read loop. -/
theorem run_arrive (hwaiting : start.waiting = some exchange) {remaining : Nat}
    (hremaining : exchange.remaining = remaining + 1) (reads : List Inbound) :
    let ended := exchangeReads exchange.admitsPush exchange.request.sequence
      exchange.request.command exchange.remaining start.session reads
    (connection.run start (reads.map .arrive)).session = ended.1 ∧
      ((connection.run start (reads.map .arrive)).waiting = none ↔ ended.2 ≠ none) := by
  induction reads generalizing start exchange remaining with
  | nil =>
      rw [hremaining]
      simp [exchangeReads, hwaiting]
  | cons read reads ih =>
      have hstep : connection.step start (.arrive read) = readAnswer start exchange read := by
        show use start (.arrive read) = _
        simp only [use, hwaiting]
      dsimp only
      rw [hremaining]
      cases read with
      | error error =>
          rw [run_of_ended (congrArg Prod.fst hstep) rfl]
          simp [exchangeReads, readAnswer]
      | ok inbound =>
          unfold exchangeReads
          simp only [readAnswer] at hstep
          split at hstep
          · next session payload hframe =>
              rw [run_of_ended (congrArg Prod.fst hstep) rfl, hframe]
              simp
          · next session error hframe =>
              rw [run_of_ended (congrArg Prod.fst hstep) rfl, hframe]
              simp
          · next session hframe =>
              rw [hframe]
              split at hstep
              · next hlast =>
                  obtain rfl : remaining = 0 := by omega
                  rw [run_of_ended (congrArg Prod.fst hstep) rfl]
                  simp [exchangeReads]
              · next hmore =>
                  have hleft : exchange.remaining - 1 = remaining := by omega
                  obtain ⟨later, rfl⟩ : ∃ later, remaining = later + 1 := ⟨remaining - 1, by omega⟩
                  rw [hleft] at hstep
                  rw [List.map_cons, Machine.run_cons, hstep]
                  have hnext : (⟨session, some { exchange with remaining := later + 1 },
                      start.abandoned⟩ : Connection).waiting =
                        some { exchange with remaining := later + 1 } := rfl
                  exact ih hnext rfl

end Reads

/-! ## Runs -/

theorem pending_dropped (before : Connection) : before.dropped.pending = before.pending :=
  List.append_nil _

theorem abandoned_sublist_pending (before : Connection) :
    before.abandoned.Sublist before.pending :=
  List.sublist_append_left _ _

/-- A read leaves the requests that are pending, or ends that of its exchange. -/
theorem pending_readAnswer {before : Connection} {exchange : Exchange}
    (hwaiting : before.waiting = some exchange) (inbound : Inbound) :
    (readAnswer before exchange inbound).1.pending.Sublist before.pending := by
  have hended : ∀ session, (Connection.mk session none before.abandoned).pending.Sublist
      before.pending := by
    intro session
    rw [show (Connection.mk session none before.abandoned).pending = before.abandoned from
      List.append_nil _]
    exact abandoned_sublist_pending before
  cases inbound with
  | error error =>
      show (Connection.pending ⟨_, none, if _ then _ else _⟩).Sublist _
      cases error.isIdleTimeout with
      | true =>
          show (before.pending ++ []).Sublist before.pending
          rw [List.append_nil]
      | false => exact hended _
  | ok inbound =>
      simp only [readAnswer]
      split
      · exact hended _
      · exact hended _
      · split
        · exact hended _
        · rw [show before.pending = before.abandoned ++ [exchange.request] from by
            rw [Connection.pending, hwaiting]
            rfl]
          exact List.Sublist.refl _

theorem pending_use (before : Connection) (used : Use) :
    (use before used).1.pending.Sublist (before.pending ++ used.asked) := by
  cases used with
  | request request admitsPush written =>
      cases written with
      | error error =>
          show before.dropped.pending.Sublist _
          rw [pending_dropped]
          exact List.sublist_append_left _ _
      | ok _ => exact List.Sublist.refl _
  | arrive inbound =>
      rw [show (Use.arrive inbound).asked = [] from rfl, List.append_nil]
      simp only [use]
      cases hwaiting : before.waiting with
      | none => exact List.Sublist.refl _
      | some exchange => exact pending_readAnswer hwaiting inbound
  | readPush admitsPush inbound =>
      rw [show (Use.readPush admitsPush inbound).asked = [] from rfl, List.append_nil,
        ← pending_dropped before]
      simp only [use]
      split
      · exact List.Sublist.refl _
      · exact List.Sublist.refl _
  | popPush =>
      rw [show Use.popPush.asked = [] from rfl, List.append_nil, ← pending_dropped before]
      simp only [use]
      split
      · exact List.Sublist.refl _
      · exact List.Sublist.refl _

/-- The pending requests of a run are among those that were made, in their order. -/
theorem pending_run (inputs : List Use) :
    (connection.run .new inputs).pending.Sublist (inputs.flatMap Use.asked) := by
  induction inputs using List.reverseRecOn with
  | nil => exact List.Sublist.refl _
  | append_singleton inputs used ih =>
      rw [Machine.run_append, List.flatMap_append, List.flatMap_singleton]
      exact (pending_use _ used).trans (ih.append_right _)

/-- The request that is waited for has another sequence than what was abandoned. -/
theorem abandoned_ne_waiting {inputs : List Use}
    (hdistinct : ((inputs.flatMap Use.asked).map Request.sequence).Nodup) {exchange : Exchange}
    (hwaiting : (connection.run .new inputs).waiting = some exchange) :
    ∀ request ∈ (connection.run .new inputs).abandoned,
      request.sequence ≠ exchange.request.sequence := by
  have hpending : (connection.run .new inputs).pending =
      (connection.run .new inputs).abandoned ++ [exchange.request] := by
    rw [Connection.pending, hwaiting]
    rfl
  have hnodup := ((pending_run inputs).map Request.sequence).nodup hdistinct
  rw [hpending, List.map_append, List.nodup_append] at hnodup
  intro request hrequest
  exact hnodup.2.2 _ (List.mem_map_of_mem hrequest) _ (List.mem_singleton.mpr rfl)

/-- The frame answers one of the requests. -/
def Late (requests : List Request) (inbound : SsoResponse) : Prop :=
  ∃ request ∈ requests,
    inbound.sequence = request.sequence ∧ inbound.command = request.command

/-- A late answer is no answer to another request.  It is taken as a push if its command is
admitted, and ends the exchange or the read otherwise. -/
def TakenAsPush (before : Connection) (used : Use) (result : Connection × Outcome) : Prop :=
  match used with
  | .arrive (.ok inbound) => ∀ exchange, before.waiting = some exchange →
      Late before.abandoned inbound →
        (exchange.admitsPush inbound.command = false →
          result.2 = .failed .protocol ∧ result.1.session = before.session) ∧
        (exchange.admitsPush inbound.command = true →
          maxQueuedPushes ≤ before.session.pushes.length →
            result.2 = .failed .pushLimit ∧ result.1.session = before.session) ∧
        (exchange.admitsPush inbound.command = true →
          before.session.pushes.length < maxQueuedPushes →
            result.2 = (if exchange.remaining ≤ 1 then .failed .pushLimit else .waiting) ∧
              result.1.session.pushes = before.session.pushes ++ [inbound])
  | .readPush admitsPush (.ok inbound) => Late before.pending inbound →
      result.2 = (if inbound.returnCode = 0 ∧ admitsPush inbound.command = true
        then .pushed inbound else .failed .protocol) ∧ result.1.session = before.session
  | _ => True

theorem readAnswer_late {before : Connection} {exchange : Exchange} {inbound : SsoResponse}
    (hother : inbound.sequence ≠ exchange.request.sequence) :
    (exchange.admitsPush inbound.command = false →
      (readAnswer before exchange (.ok inbound)).2 = .failed .protocol ∧
        (readAnswer before exchange (.ok inbound)).1.session = before.session) ∧
    (exchange.admitsPush inbound.command = true →
      maxQueuedPushes ≤ before.session.pushes.length →
        (readAnswer before exchange (.ok inbound)).2 = .failed .pushLimit ∧
          (readAnswer before exchange (.ok inbound)).1.session = before.session) ∧
    (exchange.admitsPush inbound.command = true →
      before.session.pushes.length < maxQueuedPushes →
        (readAnswer before exchange (.ok inbound)).2 =
            (if exchange.remaining ≤ 1 then .failed .pushLimit else .waiting) ∧
          (readAnswer before exchange (.ok inbound)).1.session.pushes =
            before.session.pushes ++ [inbound]) := by
  refine ⟨?_, ?_, ?_⟩
  · intro hadmits
    simp [readAnswer, exchangeFrame, hother, hadmits]
  · intro hadmits hfull
    simp [readAnswer, exchangeFrame, hother, hadmits, enqueue, hfull]
  · intro hadmits hroom
    obtain ⟨next, henqueue, hpushes⟩ := enqueue_of_room inbound hroom
    simp only [readAnswer, exchangeFrame, hother, hadmits, henqueue, false_and, if_false,
      Bool.true_eq_false, or_self]
    split
    · exact ⟨rfl, hpushes⟩
    · exact ⟨rfl, hpushes⟩

/-- In every run whose requests have different sequences, a late answer is taken as a push, or
ends what reads it. -/
theorem late_answer_taken_as_push {before : List Use} {used : Use}
    (hdistinct : (((before ++ [used]).flatMap Use.asked).map Request.sequence).Nodup) :
    TakenAsPush (connection.run .new before) used
      (connection.step (connection.run .new before) used) := by
  rw [List.flatMap_append, List.map_append] at hdistinct
  have hearlier := (List.nodup_append.mp hdistinct).1
  cases used with
  | request request admitsPush written => trivial
  | popPush => trivial
  | arrive inbound =>
      cases inbound with
      | error error => trivial
      | ok inbound =>
          rintro exchange hwaiting ⟨request, hrequest, hsequence, -⟩
          have hother : inbound.sequence ≠ exchange.request.sequence := by
            rw [hsequence]
            exact abandoned_ne_waiting hearlier hwaiting request hrequest
          have hstep : connection.step (connection.run .new before) (.arrive (.ok inbound)) =
              readAnswer (connection.run .new before) exchange (.ok inbound) := by
            show use _ (.arrive (.ok inbound)) = _
            simp only [use, hwaiting]
          rw [hstep]
          exact readAnswer_late hother
  | readPush admitsPush inbound =>
      cases inbound with
      | error error => trivial
      | ok inbound =>
          intro _
          by_cases hpush : inbound.returnCode = 0 ∧ admitsPush inbound.command = true
          · have hread : readPush admitsPush (.ok inbound) = .ok inbound := by
              rw [readPush_ok hpush.1, if_pos hpush.2]
            have hstep : connection.step (connection.run .new before)
                (.readPush admitsPush (.ok inbound)) =
                  ((connection.run .new before).dropped, .pushed inbound) := by
              show use _ (.readPush admitsPush (.ok inbound)) = _
              simp only [use, hread]
            rw [hstep, if_pos hpush]
            exact ⟨rfl, rfl⟩
          · have hread : readPush admitsPush (.ok inbound) = .error .protocol := by
              by_cases hcode : inbound.returnCode = 0
              · rw [readPush_ok hcode, if_neg fun hadmits => hpush ⟨hcode, hadmits⟩]
              · simp [readPush, hcode, bind, Except.bind, throw, throwThe, MonadExceptOf.throw]
            have hstep : connection.step (connection.run .new before)
                (.readPush admitsPush (.ok inbound)) =
                  ((connection.run .new before).dropped, .failed .protocol) := by
              show use _ (.readPush admitsPush (.ok inbound)) = _
              simp only [use, hread]
            rw [hstep, if_neg hpush]
            exact ⟨rfl, rfl⟩

/-- A request that is abandoned, and the answer to it. -/
def abandonedFirst : List Use :=
  [.request ⟨17, "request.alpha"⟩ (fun route => route = "push.alpha") (.ok ()),
    .arrive (.error (.transport .timeout))]

def lateAnswer : SsoResponse :=
  bareFrame 17 "request.alpha"

theorem lateAnswer_taken_as_push :
    TakenAsPush (connection.run .new abandonedFirst) (.readPush (fun _ => true) (.ok lateAnswer))
      (connection.step (connection.run .new abandonedFirst)
        (.readPush (fun _ => true) (.ok lateAnswer))) :=
  late_answer_taken_as_push (by decide)

/-- The next request. -/
def nextRequest : Use :=
  .request ⟨18, "request.beta"⟩ (fun route => route = "push.alpha") (.ok ())

/-- A late answer ends the exchange of another request and a read of an idle connection, and
where its command is admitted it is delivered as a push. -/
theorem late_answer_not_discarded :
    (((abandonedFirst ++ [nextRequest]).flatMap Use.asked).map Request.sequence).Nodup ∧
    Late (connection.run .new abandonedFirst).abandoned lateAnswer ∧
    (connection.step (connection.run .new (abandonedFirst ++ [nextRequest]))
      (.arrive (.ok lateAnswer))).2 = .failed .protocol ∧
    (connection.step (connection.run .new abandonedFirst)
      (.readPush (fun route => route = "push.alpha") (.ok lateAnswer))).2 = .failed .protocol ∧
    (connection.step (connection.run .new abandonedFirst)
      (.readPush (fun _ => true) (.ok lateAnswer))).2 = .pushed lateAnswer := by
  refine ⟨by decide, ⟨⟨17, "request.alpha"⟩, ?_, rfl, rfl⟩, rfl, rfl, rfl⟩
  exact List.mem_singleton.mpr rfl

end Session
end Lirvena
