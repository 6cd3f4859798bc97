import Lirvena.Dispatch.Fanout

/-!
# Runs of the fan-out

Whatever the order in which the accounts publish, the coordinator hears and the sessions take
their turns, the coordinator hears the events of the accounts in order and without a gap, up
to one that it has missed, which ends it.  A session shows its client what the coordinator
has published since it came, in order and once: a forward session and an event stream say how
many events they leave out, and a reverse session ends where it would leave one out.
-/

namespace Lirvena
namespace Dispatch

open Lib Lirvena.Runtime
open OneBot (Coordinator CoordinatorConfig CoordinatorInput coordinate)

variable {Handle Notice : Type}

/-! ## Reading a run -/

def accountEvent : FanoutInput Notice → Option (AccountEvent Notice)
  | .account event => some event
  | _ => none

/-- What the accounts have published. -/
def accountEvents (inputs : List (FanoutInput Notice)) : List (AccountEvent Notice) :=
  inputs.filterMap accountEvent

def coordinatorInput : FanoutEvent Notice → Option (CoordinatorInput Notice)
  | .coordinated input => some input
  | _ => none

/-- The turns of the coordinator. -/
def coordinatorInputs (log : List (FanoutEvent Notice)) : List (CoordinatorInput Notice) :=
  log.filterMap coordinatorInput

def heardEvent : CoordinatorInput Notice → Option (AccountEvent Notice)
  | .received (.ok event) => some event
  | _ => none

/-- The account events among the turns of the coordinator. -/
def heardEvents (inputs : List (CoordinatorInput Notice)) : List (AccountEvent Notice) :=
  inputs.filterMap heardEvent

def publishedEvent : FanoutEvent Notice → Option Json
  | .published event => some event
  | _ => none

/-- What the coordinator has published. -/
def publishedEvents (log : List (FanoutEvent Notice)) : List Json :=
  log.filterMap publishedEvent

def sessionEvent (index : Nat) : FanoutEvent Notice → Option SessionEvent
  | .session connection event => if connection = index then some event else none
  | _ => none

/-- What one session has done. -/
def sessionLog (index : Nat) (log : List (FanoutEvent Notice)) : List SessionEvent :=
  log.filterMap (sessionEvent index)

/-- The frames that show something of the bus. -/
def shownFrame : SessionEvent → Option Frame
  | .framed (.text value) => some (.text value)
  | .framed (.named name value) => some (.named name value)
  | _ => none

def shownFrames (events : List SessionEvent) : List Frame :=
  events.filterMap shownFrame

section Logs

variable (first second : List (FanoutEvent Notice)) (index : Nat)

@[simp] theorem coordinatorInputs_append :
    coordinatorInputs (first ++ second) = coordinatorInputs first ++ coordinatorInputs second :=
  List.filterMap_append

@[simp] theorem publishedEvents_append :
    publishedEvents (first ++ second) = publishedEvents first ++ publishedEvents second :=
  List.filterMap_append

@[simp] theorem sessionLog_append :
    sessionLog index (first ++ second) = sessionLog index first ++ sessionLog index second :=
  List.filterMap_append

@[simp] theorem shownFrames_append (first second : List SessionEvent) :
    shownFrames (first ++ second) = shownFrames first ++ shownFrames second :=
  List.filterMap_append

@[simp] theorem sessionLog_map_self (events : List SessionEvent) :
    sessionLog index (events.map fun event => (.session index event : FanoutEvent Notice)) =
      events := by
  induction events with
  | nil => rfl
  | cons event rest ih => simpa [sessionLog, sessionEvent] using ih

theorem sessionLog_map_other {other : Nat} (hother : other ≠ index)
    (events : List SessionEvent) :
    sessionLog index (events.map fun event => (.session other event : FanoutEvent Notice)) =
      [] := by
  rw [sessionLog, List.filterMap_eq_nil_iff]
  intro event hevent
  obtain ⟨inner, -, rfl⟩ := List.mem_map.mp hevent
  exact if_neg hother

/-- What a session does is no turn of the coordinator. -/
theorem unread_map (events : List SessionEvent) :
    coordinatorInputs (events.map fun event => (.session index event : FanoutEvent Notice)) = [] ∧
      publishedEvents (events.map fun event => (.session index event : FanoutEvent Notice)) =
        [] := by
  constructor
  · refine List.filterMap_eq_nil_iff.mpr ?_
    intro event hevent
    obtain ⟨inner, -, rfl⟩ := List.mem_map.mp hevent
    rfl
  · refine List.filterMap_eq_nil_iff.mpr ?_
    intro event hevent
    obtain ⟨inner, -, rfl⟩ := List.mem_map.mp hevent
    rfl

end Logs

/-! ## What a session does -/

def Frame.isResponse : Frame → Bool
  | .response _ => true
  | _ => false

/-- What a session has done when it is in a phase: it takes one request at a time, and sends
nothing but its response before it goes on. -/
inductive Orderly (parse : String → Option Json) : SessionPhase → List SessionEvent → Prop where
  | start : Orderly parse .selecting []
  | sent {events : List SessionEvent} (horderly : Orderly parse .selecting events)
      (frame : Frame) (hframe : frame.isResponse = false) :
      Orderly parse .selecting (events ++ [.framed frame])
  | dispatched {events : List SessionEvent} (horderly : Orderly parse .selecting events)
      {text : String} {request : ActionRequest} (hparse : parseRequest parse text = .ok request) :
      Orderly parse .dispatching (events ++ [.asked text, .dispatched request])
  | answered {events : List SessionEvent} (horderly : Orderly parse .dispatching events)
      (response : ActionResponse) :
      Orderly parse .selecting (events ++ [.framed (.response response)])
  /-- A text that is no request is answered at once. -/
  | refused {events : List SessionEvent} (horderly : Orderly parse .selecting events)
      {text : String} {response : ActionResponse}
      (hparse : parseRequest parse text = .error response) :
      Orderly parse .selecting (events ++ [.asked text, .framed (.response response)])
  | unanswered {events : List SessionEvent} (horderly : Orderly parse .selecting events)
      {text : String} {response : ActionResponse}
      (hparse : parseRequest parse text = .error response) :
      Orderly parse .ended (events ++ [.asked text])
  | closed {events : List SessionEvent} (horderly : Orderly parse .selecting events) :
      Orderly parse .ended (events ++ [.framed .close])
  | ended {phase : SessionPhase} {events : List SessionEvent}
      (horderly : Orderly parse phase events) : Orderly parse .ended events

/-- A turn that shows nothing of the bus. -/
structure Unseen (parse : String → Option Json) (events : List SessionEvent)
    (turn : SessionTurn) : Prop where
  orderly : Orderly parse turn.1 (events ++ turn.2)
  shown : shownFrames turn.2 = []

/-- A turn that shows an answer of the bus, unless it ends the session. -/
structure Seen (parse : String → Option Json) (kind : SessionKind)
    (received : Received Json) (events : List SessionEvent) (turn : SessionTurn) : Prop where
  orderly : Orderly parse turn.1 (events ++ turn.2)
  shown : ∃ unsent, kind.shown received = shownFrames turn.2 ++ unsent ∧ unsent.length ≤ 1 ∧
    (turn.1 ≠ .ended → unsent = [])

section Turns

variable {parse : String → Option Json} {events : List SessionEvent}

/-- A turn that does nothing. -/
theorem unseen_idle (horderly : Orderly parse .selecting events) :
    Unseen parse events (.selecting, []) :=
  ⟨by rwa [List.append_nil], rfl⟩

theorem unseen_end (horderly : Orderly parse .selecting events) :
    Unseen parse events (.ended, []) :=
  ⟨by rw [List.append_nil]; exact horderly.ended, rfl⟩

theorem orderly_deliver (horderly : Orderly parse .selecting events) {frame : Frame}
    (hframe : frame.isResponse = false) (sent : Bool) :
    Orderly parse (deliver frame sent).1 (events ++ (deliver frame sent).2) := by
  cases sent with
  | true => exact horderly.sent frame hframe
  | false => exact (unseen_end horderly).orderly

theorem unseen_ask (horderly : Orderly parse .selecting events) (text : String) (sent : Bool) :
    Unseen parse events (ask parse text sent) := by
  unfold ask
  split
  · next request hparse => exact ⟨horderly.dispatched hparse, rfl⟩
  · next response hparse =>
      cases sent with
      | true => exact ⟨horderly.refused hparse, rfl⟩
      | false => exact ⟨horderly.unanswered hparse, rfl⟩

theorem unseen_pong (horderly : Orderly parse .selecting events) (payload : List UInt8)
    (sent : Bool) : Unseen parse events (deliver (.pong payload) sent) := by
  refine ⟨orderly_deliver horderly rfl sent, ?_⟩
  cases sent <;> rfl

theorem unseen_incoming (horderly : Orderly parse .selecting events) (kind : SessionKind)
    (message : Incoming) (sent : Bool) :
    Unseen parse events (kind.incoming parse message sent) := by
  have hidle := unseen_idle horderly
  have hend := unseen_end horderly
  cases kind with
  | forward capabilities =>
      cases message with
      | text text =>
          show Unseen parse events (if _ then _ else _)
          split
          · exact unseen_ask horderly text sent
          · exact hidle
      | ping payload => exact unseen_pong horderly payload sent
      | other => exact hidle
      | close => exact hend
      | ended => exact hend
      | failed => exact hend
  | reverse selfId =>
      cases message with
      | text text => exact unseen_ask horderly text sent
      | ping payload => exact unseen_pong horderly payload sent
      | other => exact hidle
      | close => exact hend
      | ended => exact hend
      | failed => exact hend
  | sse => exact hend

theorem unseen_shutdown (horderly : Orderly parse .selecting events) (kind : SessionKind)
    (changed : Option Bool) (sent : Bool) :
    Unseen parse events (kind.shutdown changed sent) := by
  cases kind with
  | forward capabilities => exact unseen_idle horderly
  | sse => exact unseen_idle horderly
  | reverse selfId =>
      show Unseen parse events (reverseShutdown changed sent)
      unfold reverseShutdown
      split
      · cases sent with
        | true => exact ⟨horderly.closed, rfl⟩
        | false => exact unseen_end horderly
      · exact unseen_idle horderly

theorem unseen_answered (horderly : Orderly parse .dispatching events)
    (response : ActionResponse) (sent : Bool) :
    Unseen parse events (deliver (.response response) sent) := by
  cases sent with
  | true => exact ⟨horderly.answered response, rfl⟩
  | false =>
      refine ⟨?_, rfl⟩
      rw [deliver, if_neg Bool.false_ne_true, List.append_nil]
      exact horderly.ended

variable {kind : SessionKind} {received : Received Json}

theorem seen_of_unseen {turn : SessionTurn} (hunseen : Unseen parse events turn)
    (hshown : kind.shown received = []) : Seen parse kind received events turn :=
  ⟨hunseen.orderly, [], by rw [hshown, hunseen.shown, List.append_nil], Nat.zero_le _,
    fun _ => rfl⟩

theorem seen_deliver (horderly : Orderly parse .selecting events) {frame : Frame}
    (hshown : kind.shown received = [frame]) (hframe : shownFrame (.framed frame) = some frame)
    (hresponse : frame.isResponse = false) (sent : Bool) :
    Seen parse kind received events (deliver frame sent) := by
  refine ⟨orderly_deliver horderly hresponse sent, ?_⟩
  cases sent with
  | true =>
      refine ⟨[], ?_, Nat.zero_le _, fun _ => rfl⟩
      have hone : shownFrames [.framed frame] = [frame] := by
        rw [shownFrames, List.filterMap_cons_some hframe]
        rfl
      rw [hshown, List.append_nil]
      exact hone.symm
  | false => exact ⟨[frame], hshown, Nat.le_refl _, fun hrunning => absurd rfl hrunning⟩

theorem seen_event (horderly : Orderly parse .selecting events) (kind : SessionKind)
    (received : Received Json) (sent : Bool) :
    Seen parse kind received events (kind.event received sent) := by
  cases kind with
  | forward capabilities =>
      cases received with
      | value event => exact seen_deliver horderly rfl rfl rfl sent
      | lagged skipped => exact seen_deliver horderly rfl rfl rfl sent
      | closed => exact seen_of_unseen (unseen_end horderly) rfl
      | waiting => exact seen_of_unseen (unseen_idle horderly) rfl
  | sse =>
      cases received with
      | value event => exact seen_deliver horderly rfl rfl rfl sent
      | lagged skipped => exact seen_deliver horderly rfl rfl rfl sent
      | closed => exact seen_of_unseen (unseen_end horderly) rfl
      | waiting => exact seen_of_unseen (unseen_idle horderly) rfl
  | reverse selfId =>
      cases received with
      | value event =>
          show Seen parse _ _ events (if _ then _ else _)
          split
          · next hbelongs =>
              have hshown : SessionKind.shown (.reverse selfId) (.value event) =
                  [.text event] := if_pos hbelongs
              exact seen_deliver horderly hshown rfl rfl sent
          · next hforeign =>
              have hshown : SessionKind.shown (.reverse selfId) (.value event) = [] :=
                if_neg hforeign
              exact seen_of_unseen (unseen_idle horderly) hshown
      | lagged skipped => exact seen_of_unseen (unseen_end horderly) rfl
      | closed => exact seen_of_unseen (unseen_end horderly) rfl
      | waiting => exact seen_of_unseen (unseen_idle horderly) rfl

end Turns

/-! ## What a session shows -/

/-- What a session was answered by the bus between two positions, and what it has shown of
it: everything, but for the last frame of a session that ends with it. -/
structure Shows (capacity : Nat) (published : List Json) (kind : SessionKind)
    (phase : SessionPhase) (events : List SessionEvent) (start : Nat)
    (answers : List (Received Json)) (stop : Nat) : Prop where
  reads : Reads capacity published start answers stop
  shown : ∃ unsent, answers.flatMap kind.shown = shownFrames events ++ unsent ∧
    unsent.length ≤ 1 ∧ (phase ≠ .ended → unsent = [])
  /-- A reverse session ends with the first gap. -/
  gapless : ∀ selfId, kind = .reverse selfId →
    (∀ answer ∈ answers.dropLast, ¬ answer.IsLagged) ∧
      (phase ≠ .ended → ∀ answer ∈ answers, ¬ answer.IsLagged)

/-- A session and its place in what was published: what came before it, what came since, and
what came when it had ended. -/
structure SessionHolds (config : FanoutConfig Handle Notice) (sent published : List Json)
    (connection : Connection) (events : List SessionEvent) : Prop where
  orderly : Orderly config.parse connection.phase events
  shows : ∃ before earlier since later position answers,
    connection.cursor = before.length + position ∧ published = earlier ++ since ++ later ∧
      (connection.phase ≠ .ended → later = [] ∧ sent = before ++ since) ∧
      Shows config.busCapacity since connection.kind connection.phase events 0 answers position

section Sessions

variable {config : FanoutConfig Handle Notice} {sent published : List Json}
  {connection : Connection} {events : List SessionEvent} {turn : SessionTurn}

theorem SessionHolds.unseen (hholds : SessionHolds config sent published connection events)
    (hrunning : connection.phase ≠ .ended) (hunseen : Unseen config.parse events turn) :
    SessionHolds config sent published { connection with phase := turn.1 }
      (events ++ turn.2) := by
  obtain ⟨before, earlier, since, later, position, answers, hcursor, hpublished, hplace,
    hreads, ⟨unsent, hshown, -, hnone⟩, hgapless⟩ := hholds.shows
  obtain rfl := hnone hrunning
  refine ⟨hunseen.orderly, before, earlier, since, later, position, answers, hcursor,
    hpublished, fun _ => hplace hrunning, hreads, ⟨[], ?_, Nat.zero_le _, fun _ => rfl⟩, ?_⟩
  · rw [hshown, shownFrames_append, hunseen.shown, List.append_nil, List.append_nil]
  · intro selfId hkind
    obtain ⟨hfirst, hall⟩ := hgapless selfId hkind
    exact ⟨hfirst, fun _ => hall hrunning⟩

theorem SessionHolds.seen {bus : Channel Json}
    (hholds : SessionHolds config sent published connection events)
    (hbus : bus.Holds config.busCapacity sent) (hrunning : connection.phase ≠ .ended)
    (hseen : Seen config.parse connection.kind (bus.receive connection.cursor).2 events turn)
    (hgap : ∀ selfId, connection.kind = .reverse selfId →
      (bus.receive connection.cursor).2.IsLagged → turn.1 = .ended) :
    SessionHolds config sent published
      { connection with phase := turn.1, cursor := (bus.receive connection.cursor).1 }
      (events ++ turn.2) := by
  obtain ⟨before, earlier, since, later, position, answers, hcursor, hpublished, hplace,
    hreads, ⟨unsent, hshown, -, hnone⟩, hgapless⟩ := hholds.shows
  obtain rfl := hnone hrunning
  obtain ⟨-, rfl⟩ := hplace hrunning
  obtain ⟨next, hnext, hreads⟩ := hreads.receive hbus
  rw [← hcursor] at hnext hreads
  obtain ⟨missing, hshows, hshort, hnothing⟩ := hseen.shown
  refine ⟨hseen.orderly, before, earlier, since, later, next, _, hnext, hpublished,
    fun _ => hplace hrunning, hreads, ⟨missing, ?_, hshort, hnothing⟩, ?_⟩
  · rw [List.flatMap_append, hshown, shownFrames_append, List.append_nil, List.append_assoc,
      ← hshows]
    exact congrArg (shownFrames events ++ ·) (List.append_nil _)
  · intro selfId hkind
    have hall := (hgapless selfId hkind).2 hrunning
    rw [List.dropLast_concat]
    refine ⟨hall, ?_⟩
    intro hstill answer hanswer
    rcases List.mem_append.mp hanswer with hanswer | hanswer
    · exact hall answer hanswer
    · rw [List.mem_singleton.mp hanswer]
      exact fun hlagged => hstill (hgap selfId hkind hlagged)

/-- The coordinator publishes an event; the bus drops it when no session is left. -/
theorem SessionHolds.publish (hholds : SessionHolds config sent published connection events)
    (event : Json) {after : List Json}
    (hafter : connection.phase ≠ .ended → after = sent ++ [event]) :
    SessionHolds config after (published ++ [event]) connection events := by
  obtain ⟨before, earlier, since, later, position, answers, hcursor, hpublished, hplace,
    hreads, hshown, hgapless⟩ := hholds.shows
  by_cases hrunning : connection.phase = .ended
  · refine ⟨hholds.orderly, before, earlier, since, later ++ [event], position, answers,
      hcursor, ?_, fun hstill => absurd hrunning hstill, hreads, hshown, hgapless⟩
    rw [hpublished, List.append_assoc (earlier ++ since)]
  · obtain ⟨rfl, rfl⟩ := hplace hrunning
    refine ⟨hholds.orderly, before, earlier, since ++ [event], [], position, answers,
      hcursor, ?_, fun hstill => ⟨rfl, ?_⟩, hreads.append _, hshown, hgapless⟩
    · rw [hpublished]
      simp only [List.append_nil, List.append_assoc]
    · rw [hafter hstill, List.append_assoc]

/-- A session that has just come. -/
theorem sessionHolds_new (config : FanoutConfig Handle Notice) (sent published : List Json)
    (kind : SessionKind) :
    SessionHolds config sent published ⟨kind, .selecting, sent.length⟩ [] := by
  refine ⟨.start, sent, published, [], [], 0, [], rfl, ?_, fun _ => ⟨rfl, ?_⟩, .nil,
    ⟨[], rfl, Nat.zero_le _, fun _ => rfl⟩, ?_⟩
  · rw [List.append_nil, List.append_nil]
  · rw [List.append_nil]
  · intro selfId hkind
    exact ⟨fun answer hanswer => absurd hanswer List.not_mem_nil,
      fun _ answer hanswer => absurd hanswer List.not_mem_nil⟩

end Sessions

/-! ## The relation of a run -/

def Connection.running (connection : Connection) : Bool :=
  connection.phase ≠ .ended

/-- The coordinator and its subscription to the hub. -/
structure HubHolds (capacity : Nat) (events heard : List (AccountEvent Notice))
    (hub : Channel (AccountEvent Notice)) (cursor : Nat) (running : Bool) : Prop where
  holds : ∃ sent, hub.Holds capacity sent ∧ sent <+: events ∧ (running = true → sent = events)
  receivers : hub.receivers = if running then 1 else 0
  hears : heard <+: events
  follows : running = true → cursor ≤ events.length ∧ heard = events.take cursor

/-- The coordinator is where its turns have led it. -/
structure TurnsHold (config : CoordinatorConfig Handle Notice)
    (inputs : List (CoordinatorInput Notice)) (projected : List Json)
    (coordinator : Coordinator Handle) : Prop where
  run : coordinator = (coordinate config).run .start inputs
  log : (coordinate config).log .start inputs = projected

/-- The bus and the sessions. -/
structure BusHolds (config : FanoutConfig Handle Notice) (log : List (FanoutEvent Notice))
    (bus : Channel Json) (connections : List Connection) : Prop where
  receivers : bus.receivers = connections.countP Connection.running
  sessions : ∃ sent, bus.Holds config.busCapacity sent ∧
    ∀ index connection, connections[index]? = some connection →
      SessionHolds config sent (publishedEvents log) connection (sessionLog index log)
  /-- A session to come has done nothing. -/
  fresh : ∀ index, connections.length ≤ index → sessionLog index log = []

structure FanoutHolds (config : FanoutConfig Handle Notice)
    (inputs : List (FanoutInput Notice)) (log : List (FanoutEvent Notice))
    (system : Fanout Handle Notice) : Prop where
  hub : HubHolds config.hubCapacity (accountEvents inputs) (heardEvents (coordinatorInputs log))
    system.hub system.cursor system.coordinator.ended.isNone
  turns : TurnsHold config.coordinator (coordinatorInputs log)
    (publishedEvents log ++ system.pending) system.coordinator
  bus : BusHolds config log system.bus system.connections

section Steps

variable {config : FanoutConfig Handle Notice} {before : List (FanoutInput Notice)}
  {log : List (FanoutEvent Notice)} {system : Fanout Handle Notice}

@[simp] theorem accountEvents_concat (before : List (FanoutInput Notice))
    (input : FanoutInput Notice) :
    accountEvents (before ++ [input]) = accountEvents before ++ (accountEvent input).toList := by
  rw [accountEvents, List.filterMap_append]
  cases hevent : accountEvent input with
  | none => rw [List.filterMap_cons_none hevent]; rfl
  | some event => rw [List.filterMap_cons_some hevent]; rfl

/-! ### The hub -/

section Hub

variable {capacity cursor : Nat} {events heard : List (AccountEvent Notice)}
  {hub : Channel (AccountEvent Notice)} {running : Bool}

/-- An account publishes an event. -/
theorem HubHolds.send (hholds : HubHolds capacity events heard hub cursor running)
    (event : AccountEvent Notice) :
    HubHolds capacity (events ++ [event]) heard (hub.send capacity event).1 cursor running := by
  obtain ⟨sent, hsent, hprefix, hall⟩ := hholds.holds
  have hreceivers := hholds.receivers
  refine ⟨?_, by rw [Channel.send_receivers, hreceivers],
    hholds.hears.trans (List.prefix_append ..), ?_⟩
  · cases running with
    | true =>
        obtain rfl := hall rfl
        have hone : 0 < hub.receivers := by rw [hreceivers]; exact Nat.one_pos
        exact ⟨_, hsent.send hone event, List.prefix_rfl, fun _ => rfl⟩
    | false =>
        have hnone : hub.receivers = 0 := hreceivers
        rw [Channel.send, if_pos hnone]
        exact ⟨sent, hsent, hprefix.trans (List.prefix_append ..),
          fun hrunning => by cases hrunning⟩
  · intro hrunning
    obtain ⟨hcursor, htake⟩ := hholds.follows hrunning
    refine ⟨Nat.le_trans hcursor ?_, ?_⟩
    · rw [List.length_append]
      exact Nat.le_add_right ..
    · rw [htake, List.take_append_of_le_length hcursor]

theorem HubHolds.close (hholds : HubHolds capacity events heard hub cursor running) :
    HubHolds capacity events heard { hub with closed := true } cursor running := by
  obtain ⟨sent, hsent, hprefix, hall⟩ := hholds.holds
  exact ⟨⟨sent, ⟨hsent.tail, hsent.held⟩, hprefix, hall⟩, hholds.receivers, hholds.hears,
    hholds.follows⟩

/-- The coordinator returns. -/
theorem HubHolds.unsubscribe (hholds : HubHolds capacity events heard hub cursor true)
    (later : Nat) : HubHolds capacity events heard hub.unsubscribe later false := by
  obtain ⟨sent, hsent, hprefix, -⟩ := hholds.holds
  refine ⟨⟨sent, ⟨hsent.tail, hsent.held⟩, hprefix, fun hrunning => by cases hrunning⟩, ?_,
    hholds.hears, fun hrunning => by cases hrunning⟩
  show hub.receivers - 1 = 0
  rw [hholds.receivers]
  rfl

/-- What the coordinator hears of the hub. -/
theorem HubHolds.receive (hholds : HubHolds capacity events heard hub cursor true) :
    (∃ event, hub.receive cursor = (cursor + 1, .value event) ∧
        HubHolds capacity events (heard ++ [event]) hub (cursor + 1) true) ∨
      (∃ later skipped, hub.receive cursor = (later, .lagged skipped)) ∨
      hub.receive cursor = (cursor, if hub.closed then .closed else .waiting) := by
  obtain ⟨sent, hsent, hprefix, hall⟩ := hholds.holds
  obtain rfl := hall rfl
  obtain ⟨hcursor, htake⟩ := hholds.follows rfl
  have hanswers := hsent.receive cursor
  generalize hub.receive cursor = result at hanswers ⊢
  cases hanswers with
  | value event hevent =>
      obtain ⟨hlt, hsame⟩ := List.getElem?_eq_some_iff.mp hevent
      have hnext : heard ++ [event] = sent.take (cursor + 1) := by
        rw [List.take_succ_eq_append_getElem hlt, hsame, htake]
      refine Or.inl ⟨event, rfl, hholds.holds, hholds.receivers, ?_, fun _ => ⟨hlt, hnext⟩⟩
      rw [hnext]
      exact List.take_prefix ..
  | lagged skipped _ _ => exact Or.inr (Or.inl ⟨_, _, rfl⟩)
  | drained _ => exact Or.inr (Or.inr rfl)

end Hub

/-! ### The coordinator -/

theorem TurnsHold.turn {config : CoordinatorConfig Handle Notice}
    {inputs : List (CoordinatorInput Notice)} {projected : List Json}
    {coordinator : Coordinator Handle} (hholds : TurnsHold config inputs projected coordinator)
    (input : CoordinatorInput Notice) :
    TurnsHold config (inputs ++ [input]) (projected ++ (coordinator.step config input).2)
      (coordinator.step config input).1 := by
  obtain ⟨hrun, hlog⟩ := hholds
  subst hrun hlog
  constructor
  · rw [Machine.run_append]
    rfl
  · exact Machine.log_concat ..

theorem BusHolds.append {bus : Channel Json} {connections : List Connection}
    (hholds : BusHolds config log bus connections) {events : List (FanoutEvent Notice)}
    (hpublished : publishedEvents events = []) (hsessions : ∀ index, sessionLog index events = []) :
    BusHolds config (log ++ events) bus connections := by
  have hlog : publishedEvents (log ++ events) = publishedEvents log := by
    rw [publishedEvents_append, hpublished, List.append_nil]
  have hsame : ∀ index, sessionLog index (log ++ events) = sessionLog index log := by
    intro index
    rw [sessionLog_append, hsessions, List.append_nil]
  obtain ⟨hreceivers, ⟨sent, hsent, hconnections⟩, hfresh⟩ := hholds
  refine ⟨hreceivers, ⟨sent, hsent, ?_⟩, ?_⟩
  · intro index connection hconnection
    rw [hlog, hsame]
    exact hconnections index connection hconnection
  · intro index hindex
    rw [hsame]
    exact hfresh index hindex

/-- A coordinator that returns drops its subscription. -/
theorem HubHolds.turn {capacity cursor : Nat} {events heard : List (AccountEvent Notice)}
    {hub : Channel (AccountEvent Notice)}
    (hholds : HubHolds capacity events heard hub cursor true)
    (ended : Option (Except OneBot.CoordinatorError Unit)) :
    HubHolds capacity events heard (if ended.isSome then hub.unsubscribe else hub) cursor
      ended.isNone := by
  cases ended with
  | none => exact hholds
  | some result => exact hholds.unsubscribe cursor

/-- A turn of the coordinator, behind what it has heard. -/
theorem coordinated_holds {input : CoordinatorInput Notice} {coordinator : Coordinator Handle}
    {projected : List Json}
    (hstep : system.coordinator.step config.coordinator input = (coordinator, projected))
    (hhub : HubHolds config.hubCapacity (accountEvents before)
      (heardEvents (coordinatorInputs log ++ [input]))
      (if coordinator.ended.isSome then system.hub.unsubscribe else system.hub) system.cursor
      coordinator.ended.isNone)
    (hturns : TurnsHold config.coordinator (coordinatorInputs log) (publishedEvents log)
      system.coordinator)
    (hbus : BusHolds config log system.bus system.connections) :
    FanoutHolds config before (log ++ (system.coordinated config input).2)
      (system.coordinated config input).1 := by
  have hnext := hturns.turn input
  unfold Fanout.coordinated
  rw [hstep] at hnext ⊢
  have hinputs : coordinatorInputs (log ++ [.coordinated input]) =
      coordinatorInputs log ++ [input] := coordinatorInputs_append ..
  have hpublished : publishedEvents (log ++ [.coordinated input]) = publishedEvents log := by
    rw [publishedEvents_append]
    exact List.append_nil _
  constructor
  · rw [hinputs]
    exact hhub
  · rw [hinputs, hpublished]
    exact hnext
  · exact hbus.append rfl fun _ => rfl

/-- The coordinator listens: its tables are up to date, and it has published its turns. -/
theorem FanoutHolds.listening (hholds : FanoutHolds config before log system)
    (hlistening : system.Listening) :
    HubHolds config.hubCapacity (accountEvents before) (heardEvents (coordinatorInputs log))
        system.hub system.cursor true ∧
      TurnsHold config.coordinator (coordinatorInputs log) (publishedEvents log)
        system.coordinator := by
  obtain ⟨hended, hpending⟩ := hlistening
  have hhub := hholds.hub
  have hturns := hholds.turns
  rw [hended] at hhub
  rw [hpending, List.append_nil] at hturns
  exact ⟨hhub, hturns⟩

theorem heardEvents_append (first second : List (CoordinatorInput Notice)) :
    heardEvents (first ++ second) = heardEvents first ++ heardEvents second :=
  List.filterMap_append

theorem heardEvents_unheard (inputs : List (CoordinatorInput Notice))
    {input : CoordinatorInput Notice} (hinput : heardEvent input = none) :
    heardEvents (inputs ++ [input]) = heardEvents inputs := by
  rw [heardEvents_append]
  show _ ++ List.filterMap heardEvent [input] = _
  rw [List.filterMap_cons_none hinput]
  exact List.append_nil _

/-- A turn on something else than what the hub answers. -/
theorem unheard_holds (hholds : FanoutHolds config before log system)
    (hlistening : system.Listening) {input : CoordinatorInput Notice}
    (hinput : heardEvent input = none) :
    FanoutHolds config before (log ++ (system.coordinated config input).2)
      (system.coordinated config input).1 := by
  obtain ⟨hhub, hturns⟩ := hholds.listening hlistening
  refine coordinated_holds (Prod.mk.eta).symm ?_ hturns hholds.bus
  rw [heardEvents_unheard _ hinput]
  exact hhub.turn _

/-- A failure to hear the hub ends the coordinator. -/
theorem lost_holds (hholds : FanoutHolds config before log system)
    (hlistening : system.Listening) (error : ReceiveError) (cursor : Nat) :
    FanoutHolds config before
      (log ++ (Fanout.coordinated config { system with cursor := cursor }
        (.received (.error error))).2)
      (Fanout.coordinated config { system with cursor := cursor }
        (.received (.error error))).1 := by
  obtain ⟨hhub, hturns⟩ := hholds.listening hlistening
  have hstep : system.coordinator.step config.coordinator (.received (.error error)) =
      (system.coordinator.fail (.events error), []) := by
    rw [Coordinator.step, if_neg (by rw [hlistening.1]; exact Bool.false_ne_true)]
    rfl
  refine coordinated_holds hstep ?_ hturns hholds.bus
  rw [heardEvents_unheard (coordinatorInputs log) rfl]
  exact hhub.unsubscribe cursor

theorem hear_holds (hholds : FanoutHolds config before log system)
    (hlistening : system.Listening) :
    FanoutHolds config before (log ++ (system.hear config).2) (system.hear config).1 := by
  obtain ⟨hhub, hturns⟩ := hholds.listening hlistening
  unfold Fanout.hear
  rcases hhub.receive with ⟨event, hreceive, hheard⟩ | ⟨later, skipped, hreceive⟩ | hreceive
  · rw [hreceive]
    refine coordinated_holds (Prod.mk.eta).symm ?_ hturns hholds.bus
    rw [heardEvents_append]
    exact hheard.turn _
  · rw [hreceive]
    exact lost_holds hholds hlistening .lagged later
  · rw [hreceive]
    cases system.hub.closed with
    | true => exact lost_holds hholds hlistening .closed system.cursor
    | false =>
        show FanoutHolds config before (log ++ []) _
        rw [List.append_nil]
        exact { hholds with }

/-! ### The bus -/

/-- A session that runs is subscribed. -/
theorem BusHolds.receivers_pos {bus : Channel Json} {connections : List Connection}
    (hholds : BusHolds config log bus connections) {index : Nat} {connection : Connection}
    (hconnection : connections[index]? = some connection)
    (hrunning : connection.phase ≠ .ended) : 0 < bus.receivers := by
  rw [hholds.receivers, List.countP_pos_iff]
  exact ⟨connection, List.mem_of_getElem? hconnection, decide_eq_true hrunning⟩

theorem publish_holds (hholds : FanoutHolds config before log system) :
    FanoutHolds config before (log ++ (system.publish config).2) (system.publish config).1 := by
  unfold Fanout.publish
  split
  · rw [List.append_nil]
    exact hholds
  · next event rest hpending =>
      have hinputs : coordinatorInputs (log ++ [.published event]) = coordinatorInputs log := by
        rw [coordinatorInputs_append]
        exact List.append_nil _
      have hpublished : publishedEvents (log ++ [.published event]) =
          publishedEvents log ++ [event] := publishedEvents_append ..
      have hsessions : ∀ index, sessionLog index (log ++ [.published event]) =
          sessionLog index log := by
        intro index
        rw [sessionLog_append]
        exact List.append_nil _
      have hturns := hholds.turns
      rw [hpending] at hturns
      obtain ⟨sent, hsent, hconnections⟩ := hholds.bus.sessions
      refine ⟨by rw [hinputs]; exact hholds.hub, ?_, ?_, ?_, ?_⟩
      · rw [hinputs, hpublished, List.append_assoc]
        exact hturns
      · rw [Channel.send_receivers]
        exact hholds.bus.receivers
      · by_cases hlistened : system.bus.receivers = 0
        · -- nobody is there, and nobody has been left behind
          refine ⟨sent, ?_, ?_⟩
          · rw [Channel.send, if_pos hlistened]
            exact hsent
          · intro index connection hconnection
            rw [hpublished, hsessions]
            refine (hconnections index connection hconnection).publish event fun hrunning => ?_
            exact absurd hlistened
              (Nat.ne_of_gt (hholds.bus.receivers_pos hconnection hrunning))
        · refine ⟨sent ++ [event], hsent.send (Nat.pos_of_ne_zero hlistened) event, ?_⟩
          intro index connection hconnection
          rw [hpublished, hsessions]
          exact (hconnections index connection hconnection).publish event fun _ => rfl
      · intro index hindex
        rw [hsessions]
        exact hholds.bus.fresh index hindex

theorem connect_holds (hholds : FanoutHolds config before log system) (kind : SessionKind) :
    FanoutHolds config before log (system.connect kind) := by
  obtain ⟨hreceivers, ⟨sent, hsent, hconnections⟩, hfresh⟩ := hholds.bus
  refine ⟨hholds.hub, hholds.turns, ?_, ⟨sent, ⟨hsent.tail, hsent.held⟩, ?_⟩, ?_⟩
  · show system.bus.receivers + 1 = (system.connections ++ [_]).countP Connection.running
    rw [List.countP_append, hreceivers]
    rfl
  · intro index connection hconnection
    change (system.connections ++ [⟨kind, .selecting, system.bus.tail⟩])[index]? =
      some connection at hconnection
    by_cases hold : index < system.connections.length
    · rw [List.getElem?_append_left hold] at hconnection
      exact hconnections index connection hconnection
    · have hlast : index = system.connections.length := by
        have hlt := (List.getElem?_eq_some_iff.mp hconnection).1
        rw [List.length_append, List.length_singleton] at hlt
        omega
      subst hlast
      rw [List.getElem?_concat_length] at hconnection
      cases hconnection
      rw [hfresh _ (Nat.le_refl _), hsent.tail]
      exact sessionHolds_new config sent _ kind
  · intro index hindex
    change (system.connections ++ [_]).length ≤ index at hindex
    rw [List.length_append] at hindex
    exact hfresh index (by omega)

/-- One subscription is dropped where one session ends. -/
theorem BusHolds.settled {bus : Channel Json} {connections : List Connection}
    (hholds : BusHolds config log bus connections) {index : Nat} {connection : Connection}
    (hconnection : connections[index]? = some connection)
    (hrunning : connection.phase ≠ .ended) (moved : Connection) :
    (if moved.phase = .ended then bus.unsubscribe else bus).receivers =
      (connections.set index moved).countP Connection.running := by
  obtain ⟨hlt, hsame⟩ := List.getElem?_eq_some_iff.mp hconnection
  have hone : connections[index].running = true := by
    rw [hsame]
    exact decide_eq_true hrunning
  have hpos := hholds.receivers_pos hconnection hrunning
  rw [List.countP_set hlt, if_pos hone, ← hholds.receivers]
  by_cases hended : moved.phase = .ended
  · have hrest : moved.running = false := decide_eq_false (not_not.mpr hended)
    rw [if_pos hended, hrest]
    rfl
  · have hstill : moved.running = true := decide_eq_true hended
    rw [if_neg hended, hstill, if_pos rfl]
    omega

/-- A session takes a turn. -/
theorem settle_holds (hholds : FanoutHolds config before log system) {index : Nat}
    {connection moved : Connection} {turn : SessionTurn}
    (hconnection : system.connections[index]? = some connection)
    (hrunning : connection.phase ≠ .ended)
    (hturn : ∀ sent, system.bus.Holds config.busCapacity sent →
      SessionHolds config sent (publishedEvents log) connection (sessionLog index log) →
      SessionHolds config sent (publishedEvents log) { moved with phase := turn.1 }
        (sessionLog index log ++ turn.2)) :
    FanoutHolds config before (log ++ (system.settle index moved turn).2)
      (system.settle index moved turn).1 := by
  obtain ⟨-, ⟨sent, hsent, hconnections⟩, hfresh⟩ := hholds.bus
  have hlt := (List.getElem?_eq_some_iff.mp hconnection).1
  obtain ⟨hinputs, hpublished⟩ := unread_map index turn.2
  unfold Fanout.settle
  refine ⟨?_, ?_, ?_, ⟨sent, ?_, ?_⟩, ?_⟩
  · rw [coordinatorInputs_append, hinputs, List.append_nil]
    exact hholds.hub
  · rw [coordinatorInputs_append, hinputs, publishedEvents_append, hpublished,
      List.append_nil, List.append_nil]
    exact hholds.turns
  · exact hholds.bus.settled hconnection hrunning { moved with phase := turn.1 }
  · show Channel.Holds _ _ (if turn.1 = .ended then system.bus.unsubscribe else system.bus)
    split
    · exact ⟨hsent.tail, hsent.held⟩
    · exact hsent
  · intro other found hfound
    rw [publishedEvents_append, hpublished, List.append_nil, sessionLog_append]
    by_cases hother : index = other
    · subst hother
      change (system.connections.set index _)[index]? = some found at hfound
      rw [List.getElem?_set_self hlt] at hfound
      cases hfound
      rw [sessionLog_map_self]
      exact hturn sent hsent (hconnections index connection hconnection)
    · change (system.connections.set index _)[other]? = some found at hfound
      rw [List.getElem?_set_ne hother] at hfound
      rw [sessionLog_map_other _ hother, List.append_nil]
      exact hconnections other found hfound
  · intro other hother
    change (system.connections.set index _).length ≤ other at hother
    rw [List.length_set] at hother
    have hdifferent : index ≠ other := by omega
    rw [sessionLog_append, sessionLog_map_other _ hdifferent, List.append_nil]
    exact hfresh other hother

theorem reverse_gap {kind : SessionKind} {selfId : UInt64} {received : Received Json}
    (hkind : kind = .reverse selfId) (hlagged : received.IsLagged) (sent : Bool) :
    (kind.event received sent).1 = .ended := by
  subst hkind
  cases received with
  | lagged skipped => rfl
  | value event => exact absurd hlagged id
  | closed => exact absurd hlagged id
  | waiting => exact absurd hlagged id

/-- A turn that shows nothing of the bus. -/
theorem unseen_holds (hholds : FanoutHolds config before log system) {index : Nat}
    {connection : Connection} {turn : SessionTurn}
    (hconnection : system.connections[index]? = some connection)
    (hrunning : connection.phase ≠ .ended)
    (hunseen : Orderly config.parse connection.phase (sessionLog index log) →
      Unseen config.parse (sessionLog index log) turn) :
    FanoutHolds config before (log ++ (system.settle index connection turn).2)
      (system.settle index connection turn).1 := by
  refine settle_holds hholds hconnection hrunning fun _ _ hsession => ?_
  exact hsession.unseen hrunning (hunseen hsession.orderly)

theorem session_holds (hholds : FanoutHolds config before log system) {index : Nat}
    {connection : Connection} (hconnection : system.connections[index]? = some connection)
    (input : SessionInput) :
    FanoutHolds config before (log ++ (system.sessionStep config index connection input).2)
      (system.sessionStep config index connection input).1 := by
  have hidle : FanoutHolds config before (log ++ []) system := by
    rw [List.append_nil]
    exact hholds
  unfold Fanout.sessionStep
  split
  · next message sent hphase =>
      have hrunning : connection.phase ≠ .ended := by rw [hphase]; exact SessionPhase.noConfusion
      refine unseen_holds hholds hconnection hrunning fun horderly => ?_
      rw [hphase] at horderly
      exact unseen_incoming horderly connection.kind message sent
  · next sent hphase =>
      have hrunning : connection.phase ≠ .ended := by rw [hphase]; exact SessionPhase.noConfusion
      split
      · refine settle_holds hholds hconnection hrunning fun _ hbus hsession => ?_
        have horderly := hsession.orderly
        rw [hphase] at horderly
        exact hsession.seen hbus hrunning (seen_event horderly connection.kind _ sent)
          fun selfId hkind hlagged => reverse_gap hkind hlagged sent
      · exact hidle
  · next changed sent hphase =>
      have hrunning : connection.phase ≠ .ended := by rw [hphase]; exact SessionPhase.noConfusion
      refine unseen_holds hholds hconnection hrunning fun horderly => ?_
      rw [hphase] at horderly
      exact unseen_shutdown horderly connection.kind changed sent
  · next response sent hphase =>
      have hrunning : connection.phase ≠ .ended := by rw [hphase]; exact SessionPhase.noConfusion
      refine unseen_holds hholds hconnection hrunning fun horderly => ?_
      rw [hphase] at horderly
      exact unseen_answered horderly response sent
  · exact hidle

/-! ### Steps -/

theorem FanoutHolds.hold (hholds : FanoutHolds config before log system)
    {input : FanoutInput Notice} (hinput : accountEvent input = none) :
    FanoutHolds config (before ++ [input]) log system := by
  have hevents : accountEvents (before ++ [input]) = accountEvents before := by
    rw [accountEvents_concat, hinput]
    exact List.append_nil _
  exact { hholds with hub := by rw [hevents]; exact hholds.hub }

theorem step_holds (hholds : FanoutHolds config before log system)
    (input : FanoutInput Notice) :
    FanoutHolds config (before ++ [input]) (log ++ (system.step config input).2)
      (system.step config input).1 := by
  have hidle : FanoutHolds config before (log ++ []) system := by
    rw [List.append_nil]
    exact hholds
  cases input with
  | account event =>
      refine { hidle with hub := ?_ }
      rw [accountEvents_concat]
      exact hidle.hub.send event
  | accountsEnded =>
      refine FanoutHolds.hold ?_ rfl
      exact { hidle with hub := hidle.hub.close }
  | hear =>
      refine FanoutHolds.hold ?_ rfl
      unfold Fanout.step
      dsimp only
      split
      · next hlistening => exact hear_holds hholds hlistening
      · exact hidle
  | heartbeat clock =>
      refine FanoutHolds.hold ?_ rfl
      unfold Fanout.step
      dsimp only
      split
      · next hlistening => exact unheard_holds hholds hlistening rfl
      · exact hidle
  | shutdownChanged changed =>
      refine FanoutHolds.hold ?_ rfl
      unfold Fanout.step
      dsimp only
      split
      · next hlistening => exact unheard_holds hholds hlistening rfl
      · exact hidle
  | publish => exact (publish_holds hholds).hold rfl
  | connect kind =>
      refine FanoutHolds.hold ?_ rfl
      show FanoutHolds config before (log ++ []) _
      rw [List.append_nil]
      exact connect_holds hholds kind
  | session index input =>
      refine FanoutHolds.hold ?_ rfl
      unfold Fanout.step
      dsimp only
      split
      · next connection hconnection => exact session_holds hholds hconnection input
      · exact hidle

end Steps

/-! ## Whole runs -/

theorem start_holds (config : FanoutConfig Handle Notice) :
    FanoutHolds config [] [] (Fanout.start : Fanout Handle Notice) where
  hub := {
    holds := ⟨[], ⟨rfl, (List.drop_nil ..).symm⟩, List.prefix_rfl, fun _ => rfl⟩
    receivers := rfl
    hears := List.prefix_rfl
    follows := fun _ => ⟨Nat.le_refl _, rfl⟩ }
  turns := ⟨rfl, rfl⟩
  bus := {
    receivers := rfl
    sessions := ⟨[], Channel.opened_holds, fun index connection hconnection => by
      cases hconnection⟩
    fresh := fun _ _ => rfl }

theorem fanout_holds (config : FanoutConfig Handle Notice) (inputs : List (FanoutInput Notice)) :
    FanoutHolds config inputs ((Fanout.fanout config).log Fanout.start inputs)
      ((Fanout.fanout config).run Fanout.start inputs) :=
  Machine.log_run (FanoutHolds config) (start_holds config)
    (fun _ _ _ input hholds => step_holds hholds input) inputs

/-- What holds of a run of the fan-out, from the accounts to the clients. -/
structure Fanned (config : FanoutConfig Handle Notice) (inputs : List (FanoutInput Notice))
    (log : List (FanoutEvent Notice)) (system : Fanout Handle Notice) : Prop where
  /-- The coordinator has heard the first of the accounts' events, none twice and none left
  out. -/
  heard : heardEvents (coordinatorInputs log) <+: accountEvents inputs
  /-- It has published, or is about to publish, what its turns project. -/
  projected : (coordinate config.coordinator).log .start (coordinatorInputs log) =
    publishedEvents log ++ system.pending
  /-- A session serves its client one request at a time, and shows it what was published
  from some point on. -/
  sessions : ∀ index connection, system.connections[index]? = some connection →
    Orderly config.parse connection.phase (sessionLog index log) ∧
      ∃ start stop answers, Shows config.busCapacity (publishedEvents log) connection.kind
        connection.phase (sessionLog index log) start answers stop
  /-- A reverse session shows all events of its account between two points. -/
  reverse : ∀ index connection selfId, system.connections[index]? = some connection →
    connection.kind = .reverse selfId →
      ∃ segment, segment <:+: publishedEvents log ∧
        shownFrames (sessionLog index log) <+:
          (segment.filter fun event => belongsToAccount event selfId).map .text

/-- What a reverse session shows are the events of its account among the values. -/
theorem flatMap_reverse (selfId : UInt64) (answers : List (Received Json)) :
    answers.flatMap (SessionKind.reverse selfId).shown =
      ((receivedValues answers).filter fun event => belongsToAccount event selfId).map .text := by
  induction answers with
  | nil => rfl
  | cons answer rest ih =>
      rw [List.flatMap_cons, ih]
      cases answer with
      | value event =>
          show (if _ then _ else _) ++ _ =
            (List.filter _ (event :: receivedValues rest)).map Frame.text
          rw [List.filter_cons]
          split <;> rfl
      | lagged skipped => rfl
      | closed => rfl
      | waiting => rfl

theorem fanout_fans (config : FanoutConfig Handle Notice) (inputs : List (FanoutInput Notice)) :
    Fanned config inputs ((Fanout.fanout config).log Fanout.start inputs)
      ((Fanout.fanout config).run Fanout.start inputs) := by
  have hholds := fanout_holds config inputs
  generalize (Fanout.fanout config).log Fanout.start inputs = log at hholds ⊢
  generalize (Fanout.fanout config).run Fanout.start inputs = system at hholds ⊢
  obtain ⟨sent, -, hsessions⟩ := hholds.bus.sessions
  refine ⟨hholds.hub.hears, hholds.turns.log, ?_, ?_⟩
  · intro index connection hconnection
    have hsession := hsessions index connection hconnection
    obtain ⟨_, earlier, since, later, position, answers, -, hpublished, -, hshows⟩ :=
      hsession.shows
    rw [hpublished]
    exact ⟨hsession.orderly, _, _, answers, (hshows.reads.prepend earlier).append later,
      hshows.shown, hshows.gapless⟩
  · intro index connection selfId hconnection hkind
    obtain ⟨_, earlier, since, later, position, answers, -, hpublished, -, hshows⟩ :=
      (hsessions index connection hconnection).shows
    obtain ⟨stop, hvalues⟩ := hshows.reads.complete_front (hshows.gapless selfId hkind).1
    obtain ⟨unsent, hshown, -⟩ := hshows.shown
    rw [hkind, flatMap_reverse, hvalues, List.drop_zero] at hshown
    refine ⟨since.take stop, ?_, ⟨unsent, hshown.symm⟩⟩
    rw [hpublished]
    exact (List.take_prefix stop since).isInfix.trans ⟨earlier, later, rfl⟩

end Dispatch
end Lirvena
