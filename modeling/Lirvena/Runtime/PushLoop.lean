import Lirvena.Lib.Run
import Lirvena.Session.Runtime
import Mathlib.Data.List.Range

/-!
# The push loop of the online runtime

The online runtime and its exchanges share one connection.  `PushLoop` follows
the control flow of `start` and `run` between two reads: which phase the loop is
in, whether one of its exchanges is waiting for an answer, and what the session
holds back.  The order in which pushes reach the push runtime is stated with
arrival numbers: the pushes that the connection delivers are numbered as they
are read, and the loop answers a step with the number it ingests.  A push that is
read and goes nowhere has a number too: an exchange drops it where the session's
queue is full or where it repeats the sequence of the outstanding request.
-/

namespace Lirvena
namespace Runtime

open Lib
open Session

/-- Where the runtime stands between two reads of the connection. -/
inductive LoopPhase where
  /-- `start` before its drain: synchronization, bootstrap, confirmation. -/
  | starting
  /-- `PushRuntime::drain`, in `start` or at the top of the loop. -/
  | draining (startup : Bool)
  /-- `publish_pending_events`, before the `select!` or before the loop's top. -/
  | publishing (thenSelect : Bool)
  /-- The `select!` of the loop. -/
  | selecting
  /-- An account action or a due continuity task. -/
  | acting
  | ended
  deriving DecidableEq

/-- A request whose answer an exchange waits for. -/
structure Outstanding where
  sequence : Nat
  command : String
  /-- Reads left before the exchange gives up. -/
  remaining : Nat
  deriving DecidableEq

/-- A frame on an admitted route that is not the answer the exchange waits for. -/
def Outstanding.IsPush (admitsPush : String → Bool) (pending : Outstanding)
    (inbound : SsoResponse) : Prop :=
  admitsPush inbound.command = true ∧
    ¬ (inbound.sequence = pending.sequence ∧ inbound.command = pending.command)

instance (admitsPush : String → Bool) (pending : Outstanding) (inbound : SsoResponse) :
    Decidable (pending.IsPush admitsPush inbound) :=
  inferInstanceAs (Decidable (_ ∧ _))

structure PushLoop where
  session : AuthenticatedSession
  phase : LoopPhase
  outstanding : Option Outstanding
  /-- The number of pushes the connection has delivered. -/
  arrivals : Nat
  /-- The arrival numbers of the session's queue, front first. -/
  queuedArrivals : List Nat
  /-- The arrival numbers of the pushes that were read and dropped. -/
  droppedArrivals : List Nat
  deriving DecidableEq

inductive LoopInput where
  /-- The current phase sends a request. -/
  | request (sequence : Nat) (command : String)
  /-- The connection delivers one frame or a read error. -/
  | read (inbound : Inbound)
  /-- The current phase takes its next step. -/
  | proceed
  /-- The `select!` takes an action or the continuity timer. -/
  | act
  /-- An error of the current phase, or the operator, ends the run. -/
  | halt

/-- The arrival number and the push that a step hands to the push runtime. -/
abbrev Ingested := Option (Nat × SsoResponse)

namespace LoopPhase

/-- The phases that perform exchanges.  Draining only writes acknowledgements. -/
def exchanges : LoopPhase → Bool
  | .starting | .publishing _ | .acting => true
  | .draining _ | .selecting | .ended => false

end LoopPhase

namespace PushLoop

def new : PushLoop where
  session := .new
  phase := .starting
  outstanding := none
  arrivals := 0
  queuedArrivals := []
  droppedArrivals := []

/-- A push, if the frame was one, is dropped. -/
def dropIf (loop : PushLoop) (isPush : Prop) [Decidable isPush] : PushLoop :=
  if isPush then
    { loop with
      arrivals := loop.arrivals + 1
      droppedArrivals := loop.droppedArrivals ++ [loop.arrivals] }
  else loop

def request (loop : PushLoop) (sequence : Nat) (command : String) : PushLoop :=
  if loop.phase.exchanges = true ∧ loop.outstanding = none then
    { loop with outstanding := some ⟨sequence, command, maxInterleavedPushes + 1⟩ }
  else
    loop

/-- A read that an exchange waits for.  Whatever ends the exchange, its caller
goes on in the same phase or ends the run. -/
def readAnswer (admitsPush : String → Bool) (loop : PushLoop) (pending : Outstanding) :
    Inbound → PushLoop
  | .error _ => { loop with outstanding := none }
  | .ok inbound =>
      match AuthenticatedSession.exchangeFrame admitsPush pending.sequence
          pending.command loop.session inbound with
      | (session, some _) =>
          { loop with session := session, outstanding := none }.dropIf
            (pending.IsPush admitsPush inbound)
      | (session, none) =>
          { loop with
            session := session
            outstanding :=
              if pending.remaining ≤ 1 then none
              else some { pending with remaining := pending.remaining - 1 }
            arrivals := loop.arrivals + 1
            queuedArrivals := loop.queuedArrivals ++ [loop.arrivals] }

/-- A read of the `select!`: the push is ingested on the spot.  A push with a return code
ends the run. -/
def readIdle (admitsPush : String → Bool) (loop : PushLoop) (inbound : Inbound) :
    PushLoop × Ingested :=
  match AuthenticatedSession.readPush admitsPush inbound with
  | .ok push =>
      ({ loop with phase := .publishing false, arrivals := loop.arrivals + 1 },
        some (loop.arrivals, push))
  | .error error =>
      if error.isIdleTimeout then
        ({ loop with phase := .draining false }, none)
      else
        ({ loop with phase := .ended }.dropIf
          (inbound.toOption.elim false fun frame => admitsPush frame.command), none)

/-- One turn of `while let Some(push) = qq.pop_push()`. -/
def drainOne (loop : PushLoop) (startup : Bool) : PushLoop × Ingested :=
  match loop.session.popPush with
  | some (push, session) =>
      ({ loop with session := session, queuedArrivals := loop.queuedArrivals.tail },
        some (loop.queuedArrivals.headD loop.arrivals, push))
  | none => ({ loop with phase := .publishing (!startup) }, none)

def proceed (loop : PushLoop) : PushLoop × Ingested :=
  match loop.outstanding, loop.phase with
  | none, .starting => ({ loop with phase := .draining true }, none)
  | none, .draining startup => loop.drainOne startup
  | none, .publishing true => ({ loop with phase := .selecting }, none)
  | none, .publishing false => ({ loop with phase := .draining false }, none)
  | none, .acting => ({ loop with phase := .draining false }, none)
  | _, _ => (loop, none)

def step (admitsPush : String → Bool) (loop : PushLoop) :
    LoopInput → PushLoop × Ingested
  | .request sequence command => (loop.request sequence command, none)
  | .read inbound =>
      match loop.outstanding, loop.phase with
      | some pending, _ => (loop.readAnswer admitsPush pending inbound, none)
      | none, .selecting => loop.readIdle admitsPush inbound
      | none, _ => (loop, none)
  | .proceed => loop.proceed
  | .act =>
      if loop.phase = .selecting then ({ loop with phase := .acting }, none)
      else (loop, none)
  | .halt => ({ loop with phase := .ended, outstanding := none }, none)

/-- The runtime as a machine, for one set of admitted routes. -/
def runtime (admitsPush : String → Bool) : Machine PushLoop LoopInput Ingested where
  step := step admitsPush

/-- A push is about to be returned by `read_push`. -/
def ReadsPush (admitsPush : String → Bool) (loop : PushLoop) (input : LoopInput) : Prop :=
  loop.outstanding = none ∧ loop.phase = .selecting ∧
    ∃ inbound push, input = .read inbound ∧
      AuthenticatedSession.readPush admitsPush inbound = .ok push

/-- The session has a push that the drain is about to take. -/
def Drains (loop : PushLoop) (input : LoopInput) : Prop :=
  loop.outstanding = none ∧ (∃ startup, loop.phase = .draining startup) ∧
    input = .proceed ∧ loop.session.pushes ≠ []

/-- `read_push` returns a push only where nothing is held back and nothing was dropped, and the
drain takes only pushes that arrived before the first one that was dropped. -/
structure TakesInOrder (admitsPush : String → Bool) (loop : PushLoop) (input : LoopInput) :
    Prop where
  read : loop.ReadsPush admitsPush input →
    loop.session.pushes = [] ∧ loop.droppedArrivals = []
  drain : loop.Drains input →
    ∀ dropped ∈ loop.droppedArrivals, loop.queuedArrivals.headD loop.arrivals < dropped

/-- Everything a step does to the session's queue and the arrival numbers. -/
inductive Effect (admitsPush : String → Bool) (loop : PushLoop) (input : LoopInput)
    (next : PushLoop) : Ingested → Prop where
  | quiet (htakes : ¬ loop.ReadsPush admitsPush input ∧ ¬ loop.Drains input)
      (hsession : next.session = loop.session) (harrivals : next.arrivals = loop.arrivals)
      (hqueued : next.queuedArrivals = loop.queuedArrivals)
      (hdropped : next.droppedArrivals = loop.droppedArrivals) :
      Effect admitsPush loop input next none
  | dropped (htakes : ¬ loop.ReadsPush admitsPush input ∧ ¬ loop.Drains input)
      (hsession : next.session = loop.session)
      (harrivals : next.arrivals = loop.arrivals + 1)
      (hqueued : next.queuedArrivals = loop.queuedArrivals)
      (hdropped : next.droppedArrivals = loop.droppedArrivals ++ [loop.arrivals]) :
      Effect admitsPush loop input next none
  | queued (htakes : ¬ loop.ReadsPush admitsPush input ∧ ¬ loop.Drains input)
      (push : SsoResponse) (hsession : next.session.pushes = loop.session.pushes ++ [push])
      (harrivals : next.arrivals = loop.arrivals + 1)
      (hqueued : next.queuedArrivals = loop.queuedArrivals ++ [loop.arrivals])
      (hdropped : next.droppedArrivals = loop.droppedArrivals) :
      Effect admitsPush loop input next none
  | drained (hdrains : loop.Drains input) (push : SsoResponse)
      (hsession : loop.session.pushes = push :: next.session.pushes)
      (harrivals : next.arrivals = loop.arrivals)
      (hqueued : next.queuedArrivals = loop.queuedArrivals.tail)
      (hdropped : next.droppedArrivals = loop.droppedArrivals) :
      Effect admitsPush loop input next
        (some (loop.queuedArrivals.headD loop.arrivals, push))
  | direct (hreads : loop.ReadsPush admitsPush input) (push : SsoResponse)
      (hsession : next.session = loop.session)
      (harrivals : next.arrivals = loop.arrivals + 1)
      (hqueued : next.queuedArrivals = loop.queuedArrivals)
      (hdropped : next.droppedArrivals = loop.droppedArrivals) :
      Effect admitsPush loop input next (some (loop.arrivals, push))

section Effects

variable {admitsPush : String → Bool} {loop : PushLoop} {input : LoopInput}

/-- A step that takes no push keeps the queue, and drops a push at most. -/
theorem dropIf_effect {next : PushLoop} (isPush : Prop) [Decidable isPush]
    (htakes : ¬ loop.ReadsPush admitsPush input ∧ ¬ loop.Drains input)
    (hsession : next.session = loop.session) (harrivals : next.arrivals = loop.arrivals)
    (hqueued : next.queuedArrivals = loop.queuedArrivals)
    (hdropped : next.droppedArrivals = loop.droppedArrivals) :
    Effect admitsPush loop input (next.dropIf isPush) none := by
  unfold dropIf
  split
  · refine .dropped htakes hsession (congrArg (· + 1) harrivals) hqueued ?_
    rw [← harrivals, ← hdropped]
  · exact .quiet htakes hsession harrivals hqueued hdropped

theorem request_effect (sequence : Nat) (command : String) :
    Effect admitsPush loop (.request sequence command) (loop.request sequence command)
      none := by
  have htakes : ¬ loop.ReadsPush admitsPush (.request sequence command) ∧
      ¬ loop.Drains (.request sequence command) := by
    constructor
    · rintro ⟨-, -, inbound, push, hread, -⟩
      cases hread
    · rintro ⟨-, -, hproceed, -⟩
      cases hproceed
  unfold request
  split
  · exact .quiet htakes rfl rfl rfl rfl
  · exact .quiet htakes rfl rfl rfl rfl

/-- While an exchange waits nothing is taken. -/
theorem takes_of_outstanding {pending : Outstanding} (hpending : loop.outstanding = some pending) :
    ¬ loop.ReadsPush admitsPush input ∧ ¬ loop.Drains input := by
  constructor
  · rintro ⟨hnone, -⟩
    rw [hpending] at hnone
    cases hnone
  · rintro ⟨hnone, -⟩
    rw [hpending] at hnone
    cases hnone

theorem readAnswer_effect {pending : Outstanding} (hpending : loop.outstanding = some pending)
    (inbound : Inbound) :
    Effect admitsPush loop (.read inbound) (loop.readAnswer admitsPush pending inbound)
      none := by
  have htakes : ¬ loop.ReadsPush admitsPush (.read inbound) ∧ ¬ loop.Drains (.read inbound) :=
    takes_of_outstanding hpending
  cases inbound with
  | error error => exact .quiet htakes rfl rfl rfl rfl
  | ok frame =>
      unfold readAnswer
      rcases AuthenticatedSession.exchangeFrame_cases admitsPush pending.sequence
          pending.command loop.session frame with
        ⟨result, hframe⟩ | ⟨session, hframe, hpushes⟩
      · simp only [hframe]
        exact dropIf_effect _ htakes rfl rfl rfl rfl
      · simp only [hframe]
        exact .queued htakes frame hpushes rfl rfl rfl

theorem readIdle_effect (inbound : Inbound) (houtstanding : loop.outstanding = none)
    (hphase : loop.phase = .selecting) :
    Effect admitsPush loop (.read inbound) (loop.readIdle admitsPush inbound).1
      (loop.readIdle admitsPush inbound).2 := by
  have hdrains : ¬ loop.Drains (.read inbound) := by
    rintro ⟨-, -, hproceed, -⟩
    cases hproceed
  unfold readIdle
  split
  · next push hpush =>
      exact .direct ⟨houtstanding, hphase, inbound, push, rfl, hpush⟩ push rfl rfl rfl rfl
  · next error herror =>
      have hreads : ¬ loop.ReadsPush admitsPush (.read inbound) := by
        rintro ⟨-, -, other, push, hsame, hpush⟩
        cases hsame
        rw [herror] at hpush
        cases hpush
      split
      · exact .quiet ⟨hreads, hdrains⟩ rfl rfl rfl rfl
      · exact dropIf_effect _ ⟨hreads, hdrains⟩ rfl rfl rfl rfl

theorem not_readsPush_proceed : ¬ loop.ReadsPush admitsPush .proceed := by
  rintro ⟨-, -, inbound, push, hread, -⟩
  cases hread

theorem drainOne_effect {startup : Bool} (houtstanding : loop.outstanding = none)
    (hphase : loop.phase = .draining startup) :
    Effect admitsPush loop .proceed (loop.drainOne startup).1 (loop.drainOne startup).2 := by
  unfold drainOne
  split
  · next push session hpop =>
      have hpushes := AuthenticatedSession.popPush_eq_some hpop
      refine .drained ⟨houtstanding, ⟨startup, hphase⟩, rfl, ?_⟩ push hpushes rfl rfl rfl
      rw [hpushes]
      exact List.cons_ne_nil _ _
  · next hpop =>
      refine .quiet ⟨not_readsPush_proceed, ?_⟩ rfl rfl rfl rfl
      rintro ⟨-, -, -, hpushes⟩
      exact hpushes (AuthenticatedSession.popPush_eq_none hpop)

theorem proceed_effect : Effect admitsPush loop .proceed loop.proceed.1 loop.proceed.2 := by
  have hquiet : (∀ startup, loop.outstanding = none → loop.phase ≠ .draining startup) →
      ¬ loop.ReadsPush admitsPush .proceed ∧ ¬ loop.Drains .proceed := by
    intro hother
    refine ⟨not_readsPush_proceed, ?_⟩
    rintro ⟨hnone, ⟨startup, hdraining⟩, -, -⟩
    exact hother startup hnone hdraining
  have hphase {phase : LoopPhase} (hphase : loop.phase = phase)
      (hother : ∀ startup, phase ≠ .draining startup) :
      ¬ loop.ReadsPush admitsPush .proceed ∧ ¬ loop.Drains .proceed :=
    hquiet fun startup _ => hphase ▸ hother startup
  unfold proceed
  split
  · next _ hstarting =>
      exact .quiet (hphase hstarting fun _ => LoopPhase.noConfusion) rfl rfl rfl rfl
  · next startup hnone hdraining => exact drainOne_effect hnone hdraining
  · next _ hpublishing =>
      exact .quiet (hphase hpublishing fun _ => LoopPhase.noConfusion) rfl rfl rfl rfl
  · next _ hpublishing =>
      exact .quiet (hphase hpublishing fun _ => LoopPhase.noConfusion) rfl rfl rfl rfl
  · next _ hacting =>
      exact .quiet (hphase hacting fun _ => LoopPhase.noConfusion) rfl rfl rfl rfl
  · next _ hdraining _ _ _ => exact .quiet (hquiet hdraining) rfl rfl rfl rfl

theorem step_effect (admitsPush : String → Bool) (loop : PushLoop) (input : LoopInput) :
    Effect admitsPush loop input (loop.step admitsPush input).1
      (loop.step admitsPush input).2 := by
  have hquiet (hread : ∀ inbound, input ≠ .read inbound) (hproceed : input ≠ .proceed) :
      ¬ loop.ReadsPush admitsPush input ∧ ¬ loop.Drains input :=
    ⟨fun ⟨_, _, inbound, _, hsame, _⟩ => hread inbound hsame,
      fun ⟨_, _, hsame, _⟩ => hproceed hsame⟩
  cases input with
  | request sequence command => exact request_effect sequence command
  | read inbound =>
      simp only [step]
      split
      · next pending hpending => exact readAnswer_effect hpending inbound
      · next houtstanding hphase => exact readIdle_effect inbound houtstanding hphase
      · next hother =>
          refine .quiet ⟨?_, ?_⟩ rfl rfl rfl rfl
          · rintro ⟨hnone, hselecting, -⟩
            exact hother hselecting
          · rintro ⟨-, -, hproceed, -⟩
            cases hproceed
  | proceed => exact proceed_effect
  | act =>
      have htakes := hquiet (fun _ => LoopInput.noConfusion) LoopInput.noConfusion
      simp only [step]
      split
      · exact .quiet htakes rfl rfl rfl rfl
      · exact .quiet htakes rfl rfl rfl rfl
  | halt =>
      have htakes := hquiet (fun _ => LoopInput.noConfusion) LoopInput.noConfusion
      exact .quiet htakes rfl rfl rfl rfl

end Effects

/-- The arrival numbers that a run has handed to the push runtime, in order. -/
def deliveries (trace : List (LoopInput × Ingested)) : List Nat :=
  trace.filterMap (fun entry => entry.2.map Prod.fst)

@[simp] theorem deliveries_concat_none (trace : List (LoopInput × Ingested))
    (input : LoopInput) : deliveries (trace ++ [(input, none)]) = deliveries trace := by
  simp [deliveries]

@[simp] theorem deliveries_concat_some (trace : List (LoopInput × Ingested))
    (input : LoopInput) (arrival : Nat) (push : SsoResponse) :
    deliveries (trace ++ [(input, some (arrival, push))]) = deliveries trace ++ [arrival] := by
  simp [deliveries]

/-- A push is handed over only after every push that arrived earlier. -/
def InArrivalOrder (delivered : List Nat) : Prop :=
  EachStep (fun before arrival => ∀ earlier < arrival, earlier ∈ before) delivered

/-- What was delivered, what is held back and what was dropped is everything that arrived;
what is held back stands in arrival order. -/
structure Accounted (delivered : List Nat) (loop : PushLoop) : Prop where
  arrivals : (delivered ++ (loop.queuedArrivals ++ loop.droppedArrivals)).Perm
    (List.range loop.arrivals)
  sorted : loop.queuedArrivals.Pairwise (· < ·)
  length_eq : loop.queuedArrivals.length = loop.session.pushes.length

section Accounts

variable {delivered : List Nat} {loop next : PushLoop}

theorem accounted_new : Accounted [] new where
  arrivals := List.Perm.refl []
  sorted := List.Pairwise.nil
  length_eq := rfl

/-- A push has arrived exactly if it was delivered, is held back, or was dropped. -/
theorem Accounted.arrived_iff (haccounted : Accounted delivered loop) {arrival : Nat} :
    arrival < loop.arrivals ↔ arrival ∈ delivered ∨ arrival ∈ loop.queuedArrivals ∨
      arrival ∈ loop.droppedArrivals := by
  rw [← List.mem_range, ← haccounted.arrivals.mem_iff, List.mem_append, List.mem_append]

theorem Accounted.nodup (haccounted : Accounted delivered loop) :
    (delivered ++ (loop.queuedArrivals ++ loop.droppedArrivals)).Nodup :=
  haccounted.arrivals.nodup_iff.mpr List.nodup_range

/-- What was delivered is neither held back nor was it dropped. -/
theorem Accounted.not_delivered (haccounted : Accounted delivered loop) {arrival : Nat}
    (hrest : arrival ∈ loop.queuedArrivals ∨ arrival ∈ loop.droppedArrivals) :
    arrival ∉ delivered := fun hdelivered =>
  (List.nodup_append.mp haccounted.nodup).2.2 arrival hdelivered arrival
    (List.mem_append.mpr hrest) rfl

theorem accounted_step {admitsPush : String → Bool} {input : LoopInput} {ingested : Ingested}
    {history : List (LoopInput × Ingested)} (haccounted : Accounted (deliveries history) loop)
    (heffect : Effect admitsPush loop input next ingested) :
    Accounted (deliveries (history ++ [(input, ingested)])) next := by
  obtain ⟨harrived, hsorted, hlength⟩ := haccounted
  have hmore := harrived.append_right [loop.arrivals]
  rw [← List.range_succ] at hmore
  cases heffect with
  | quiet htakes hsession harrivals hqueued hdropped =>
      rw [deliveries_concat_none]
      exact ⟨by rw [hqueued, hdropped, harrivals]; exact harrived, hqueued ▸ hsorted,
        by rw [hqueued, hsession, hlength]⟩
  | dropped htakes hsession harrivals hqueued hdropped =>
      rw [deliveries_concat_none]
      refine ⟨?_, hqueued ▸ hsorted, by rw [hqueued, hsession, hlength]⟩
      rw [hqueued, hdropped, harrivals, ← List.append_assoc, ← List.append_assoc]
      rw [← List.append_assoc] at hmore
      exact hmore
  | queued htakes push hsession harrivals hqueued hdropped =>
      rw [deliveries_concat_none]
      refine ⟨?_, ?_, ?_⟩
      · rw [hqueued, hdropped, harrivals]
        refine List.Perm.trans ?_ hmore
        rw [List.append_assoc, List.append_assoc]
        refine List.Perm.append_left _ ?_
        rw [List.append_assoc]
        exact List.Perm.append_left _ List.perm_append_comm
      · rw [hqueued, List.pairwise_append]
        refine ⟨hsorted, List.pairwise_singleton _ _, ?_⟩
        intro earlier hearlier last hlast
        obtain rfl := List.mem_singleton.mp hlast
        rw [← List.mem_range, ← harrived.mem_iff]
        exact List.mem_append_right _ (List.mem_append_left _ hearlier)
      · rw [hqueued, hsession, List.length_append, List.length_append, hlength]
        rfl
  | drained hdrains push hsession harrivals hqueued hdropped =>
      rw [deliveries_concat_some]
      -- the queue is not empty, so the first arrival held back is the one drained
      cases hhead : loop.queuedArrivals with
      | nil => simp [hhead, hsession] at hlength
      | cons first rest =>
          rw [hhead] at harrived hlength hqueued hsorted
          refine ⟨?_, ?_, ?_⟩
          · rw [hqueued, hdropped, harrivals, List.append_assoc]
            exact harrived
          · rw [hqueued]
            exact hsorted.of_cons
          · simpa [hqueued, hsession] using hlength
  | direct hreads push hsession harrivals hqueued hdropped =>
      rw [deliveries_concat_some]
      refine ⟨?_, hqueued ▸ hsorted, by rw [hqueued, hsession, hlength]⟩
      rw [hqueued, hdropped, harrivals]
      refine List.Perm.trans ?_ hmore
      rw [List.append_assoc, List.append_assoc]
      exact List.Perm.append_left _ List.perm_append_comm

/-- The push that the drain takes is the next one exactly if none before it was dropped. -/
theorem Accounted.first_iff (haccounted : Accounted delivered loop) {first : Nat}
    {rest : List Nat} (hqueue : loop.queuedArrivals = first :: rest) :
    (∀ earlier < first, earlier ∈ delivered) ↔
      ∀ dropped ∈ loop.droppedArrivals, first < dropped := by
  have hfirst : first ∈ loop.queuedArrivals := hqueue ▸ List.mem_cons_self
  have harrived := haccounted.arrived_iff.mpr (Or.inr (Or.inl hfirst))
  constructor
  · intro hall dropped hdropped
    rcases Nat.lt_trichotomy first dropped with hlt | rfl | hlt
    · exact hlt
    · have hrest := (List.nodup_append.mp haccounted.nodup).2.1
      exact absurd rfl ((List.nodup_append.mp hrest).2.2 first hfirst first hdropped)
    · exact absurd (hall dropped hlt) (haccounted.not_delivered (Or.inr hdropped))
  · intro hall earlier hearlier
    rcases haccounted.arrived_iff.mp (hearlier.trans harrived) with hdelivered | hheld | hdropped
    · exact hdelivered
    · -- what is held back stands behind the first
      have hsorted := haccounted.sorted
      rw [hqueue] at hheld hsorted
      rcases List.mem_cons.mp hheld with rfl | hbehind
      · exact absurd hearlier (Nat.lt_irrefl _)
      · exact absurd (List.rel_of_pairwise_cons hsorted hbehind) (Nat.lt_asymm hearlier)
    · exact absurd (hall earlier hdropped) (Nat.lt_asymm hearlier)

/-- The push that `read_push` returns is the next one exactly if all before it were
delivered. -/
theorem Accounted.next_iff (haccounted : Accounted delivered loop) :
    (∀ earlier < loop.arrivals, earlier ∈ delivered) ↔
      loop.session.pushes = [] ∧ loop.droppedArrivals = [] := by
  constructor
  · intro hall
    have hnone {arrival : Nat}
        (hrest : arrival ∈ loop.queuedArrivals ∨ arrival ∈ loop.droppedArrivals) : False :=
      haccounted.not_delivered hrest
        (hall arrival (haccounted.arrived_iff.mpr (Or.inr hrest)))
    have hqueue : loop.queuedArrivals = [] :=
      List.eq_nil_iff_forall_not_mem.mpr fun _ hheld => hnone (Or.inl hheld)
    have hlength := haccounted.length_eq
    rw [hqueue, List.length_nil] at hlength
    exact ⟨List.length_eq_zero_iff.mp hlength.symm,
      List.eq_nil_iff_forall_not_mem.mpr fun _ hdropped => hnone (Or.inr hdropped)⟩
  · rintro ⟨hpushes, hdropped⟩ earlier hearlier
    have hlength := haccounted.length_eq
    rw [hpushes, List.length_nil, List.length_eq_zero_iff] at hlength
    rcases haccounted.arrived_iff.mp hearlier with hdelivered | hheld | hlost
    · exact hdelivered
    · simp [hlength] at hheld
    · simp [hdropped] at hlost

/-- One more step keeps the order exactly if it takes the next push, or none. -/
theorem inArrivalOrder_step_iff {admitsPush : String → Bool} {input : LoopInput}
    {ingested : Ingested} {history : List (LoopInput × Ingested)}
    (haccounted : Accounted (deliveries history) loop)
    (heffect : Effect admitsPush loop input next ingested) :
    InArrivalOrder (deliveries (history ++ [(input, ingested)])) ↔
      InArrivalOrder (deliveries history) ∧ loop.TakesInOrder admitsPush input := by
  have hquiet (htakes : ¬ loop.ReadsPush admitsPush input ∧ ¬ loop.Drains input) :
      loop.TakesInOrder admitsPush input :=
    ⟨fun hreads => absurd hreads htakes.1, fun hdrains => absurd hdrains htakes.2⟩
  cases heffect with
  | quiet htakes =>
      rw [deliveries_concat_none]
      exact (and_iff_left (hquiet htakes)).symm
  | dropped htakes =>
      rw [deliveries_concat_none]
      exact (and_iff_left (hquiet htakes)).symm
  | queued htakes =>
      rw [deliveries_concat_none]
      exact (and_iff_left (hquiet htakes)).symm
  | drained hdrains push hsession =>
      rw [deliveries_concat_some, InArrivalOrder, eachStep_concat_iff]
      refine and_congr_right fun _ => ?_
      cases hhead : loop.queuedArrivals with
      | nil =>
          have hlength := haccounted.length_eq
          simp [hhead, hsession] at hlength
      | cons first rest =>
          refine (haccounted.first_iff hhead).trans ⟨fun hall => ⟨?_, ?_⟩, fun htakes => ?_⟩
          · rintro ⟨-, -, inbound, other, hread, -⟩
            rw [hdrains.2.2.1] at hread
            cases hread
          · intro _
            rw [hhead]
            exact hall
          · have hall := htakes.drain hdrains
            rw [hhead] at hall
            exact hall
  | direct hreads push =>
      rw [deliveries_concat_some, InArrivalOrder, eachStep_concat_iff]
      refine and_congr_right fun _ => haccounted.next_iff.trans ?_
      refine ⟨fun hempty => ⟨fun _ => hempty, ?_⟩, fun htakes => htakes.read hreads⟩
      rintro ⟨-, -, hproceed, -⟩
      obtain ⟨-, -, inbound, other, hread, -⟩ := hreads
      rw [hproceed] at hread
      cases hread

end Accounts

/-- In every run of the online runtime, pushes reach the push runtime in the order in which
they arrived exactly when `read_push` returns a push only where nothing is held back and
nothing was dropped, and the drain takes only what arrived before the first dropped push. -/
theorem deliveries_inArrivalOrder_iff (admitsPush : String → Bool)
    (inputs : List LoopInput) :
    InArrivalOrder (deliveries ((runtime admitsPush).trace new inputs)) ↔
      (runtime admitsPush).Guarded (TakesInOrder admitsPush) new inputs := by
  refine (runtime admitsPush).property_trace_iff_guarded
    (fun history loop => Accounted (deliveries history) loop)
    (fun trace => InArrivalOrder (deliveries trace)) accounted_new eachStep_nil
    ?_ ?_ inputs
  · intro history loop input haccounted
    exact accounted_step haccounted (step_effect admitsPush loop input)
  · intro history loop input haccounted
    exact inArrivalOrder_step_iff haccounted (step_effect admitsPush loop input)

/-- A group notice (arrival 0) is queued during a heartbeat exchange and drained
at the top of the loop.  Resolving it needs an exchange, which queues the push
with arrival 1; the `select!` then reads the push with arrival 2 and ingests it
first. -/
def overtakingRun : List LoopInput :=
  let push (sequence : Nat) : LoopInput :=
    .read (.ok (AuthenticatedSession.bareFrame sequence "push.alpha"))
  let answer : LoopInput :=
    .read (.ok (AuthenticatedSession.bareFrame 17 "request.alpha"))
  [.proceed, .proceed, .proceed, .proceed, .proceed,
    .act, .request 17 "request.alpha", push 1, answer, .proceed,
    .proceed, .proceed,
    .request 17 "request.alpha", push 2, answer, .proceed,
    push 3]

theorem overtakingRun_deliveries :
    deliveries ((runtime (fun _ => true)).trace new overtakingRun) = [0, 2] := by
  decide

theorem overtakingRun_not_inArrivalOrder :
    ¬ InArrivalOrder (deliveries ((runtime (fun _ => true)).trace new overtakingRun)) := by
  rw [overtakingRun_deliveries]
  intro hinOrder
  have hmissing := hinOrder [0] 2 [] rfl 1 (by decide)
  simp at hmissing

end PushLoop
end Runtime
end Lirvena
