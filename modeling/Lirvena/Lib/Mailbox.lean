import Lirvena.Lib.Run

/-!
# A server behind a bounded queue

Clients put commands into a bounded queue, in any order and between any two steps of the
server, which takes the oldest command, or does work of its own, until an answer ends it.
Whatever the interleaving, the answers are those of a sequential machine that is given the
works one after the other, and the commands that were served are the front of the commands
that were accepted: each once and in their order.  A server that has ended can be started
again on the state that it left (`Server.lives`).
-/

namespace Lirvena
namespace Lib

/-- What a server does with one command, or with a work of its own, in an environment. -/
structure Server (State Command Own Env Answer : Type*) where
  handle : State → Command ⊕ Own → Env → State × Answer
  /-- The server ends with this answer. -/
  ends : Command ⊕ Own → Answer → Bool

/-- The server's state and the commands that it has not taken yet, oldest first. -/
structure Mailbox (State Command : Type*) where
  state : State
  queue : List Command
  ended : Bool

inductive MailboxInput (Command Own Env : Type*) where
  /-- A client offers a command. -/
  | send (command : Command)
  /-- The server takes the oldest command. -/
  | take (env : Env)
  /-- The server does a work of its own. -/
  | own (work : Own) (env : Env)

inductive MailboxOutput (Command Own Answer : Type*) where
  | accepted
  | full
  | closed
  | answered (work : Command ⊕ Own) (answer : Answer)
  | idle

namespace Server

variable {State Command Own Env Answer : Type*}
variable (server : Server State Command Own Env Answer)

/-- The server by itself, given one work after the other. -/
def sequential : Machine State ((Command ⊕ Own) × Env) Answer where
  step state work := server.handle state work.1 work.2

/-- One work is done.  The queue of a server that ends is dropped with it. -/
def serve (mailbox : Mailbox State Command) (work : Command ⊕ Own) (env : Env)
    (queue : List Command) : Mailbox State Command × MailboxOutput Command Own Answer :=
  let done := server.handle mailbox.state work env
  if server.ends work done.2 then
    ({ state := done.1, queue := [], ended := true }, .answered work done.2)
  else
    ({ state := done.1, queue := queue, ended := false }, .answered work done.2)

def mailboxStep (capacity : Nat) (mailbox : Mailbox State Command) :
    MailboxInput Command Own Env → Mailbox State Command × MailboxOutput Command Own Answer
  | .send command =>
      if mailbox.ended then (mailbox, .closed)
      else if mailbox.queue.length < capacity then
        ({ mailbox with queue := mailbox.queue ++ [command] }, .accepted)
      else (mailbox, .full)
  | .take env =>
      if mailbox.ended then (mailbox, .idle)
      else
        match mailbox.queue with
        | [] => (mailbox, .idle)
        | command :: rest => server.serve mailbox (.inl command) env rest
  | .own work env =>
      if mailbox.ended then (mailbox, .idle)
      else server.serve mailbox (.inr work) env mailbox.queue

/-- The server with its queue. -/
def mailbox (capacity : Nat) : Machine (Mailbox State Command) (MailboxInput Command Own Env)
    (MailboxOutput Command Own Answer) where
  step := server.mailboxStep capacity

/-- A server that has been started. -/
def opened (state : State) : Mailbox State Command where
  state := state
  queue := []
  ended := false

end Server

namespace Mailbox

variable {State Command Own Env Answer : Type*}

/-- A history of the queue and its server. -/
abbrev History (Command Own Env Answer : Type*) :=
  List (MailboxInput Command Own Env × MailboxOutput Command Own Answer)

def acceptedCommand : MailboxInput Command Own Env × MailboxOutput Command Own Answer →
    Option Command
  | (.send command, .accepted) => some command
  | _ => none

/-- The commands that the queue has accepted, oldest first. -/
def accepted (history : History Command Own Env Answer) : List Command :=
  history.filterMap acceptedCommand

def servedWork : MailboxInput Command Own Env × MailboxOutput Command Own Answer →
    Option (((Command ⊕ Own) × Env) × Answer)
  | (.take env, .answered work answer) => some ((work, env), answer)
  | (.own _ env, .answered work answer) => some ((work, env), answer)
  | _ => none

/-- The works that the server has done and their answers, oldest first. -/
def served (history : History Command Own Env Answer) :
    List (((Command ⊕ Own) × Env) × Answer) :=
  history.filterMap servedWork

/-- The commands among the works that were done. -/
def servedCommands (history : History Command Own Env Answer) : List Command :=
  (served history).filterMap fun entry => entry.1.1.getLeft?

/-- What a history says about the queue and its server: they are linearized. -/
structure Linearized (server : Server State Command Own Env Answer) (capacity : Nat)
    (start : State) (history : History Command Own Env Answer)
    (mailbox : Mailbox State Command) : Prop where
  trace : served history = server.sequential.trace start ((served history).map Prod.fst)
  run : mailbox.state = server.sequential.run start ((served history).map Prod.fst)
  /-- What is left of the accepted commands waits in the queue, or was dropped with it. -/
  inOrder : ∃ dropped, accepted history = servedCommands history ++ mailbox.queue ++ dropped ∧
    (mailbox.ended = false → dropped = [])
  bounded : mailbox.queue.length ≤ capacity
  ended : mailbox.ended = true → mailbox.queue = []
  /-- Only the last work can have ended the server. -/
  ends : mailbox.ended = false → ∀ entry ∈ served history,
    server.ends entry.1.1 entry.2 = false
  last : mailbox.ended = true → ∃ before entry, served history = before ++ [entry] ∧
    server.ends entry.1.1 entry.2 = true ∧
    ∀ earlier ∈ before, server.ends earlier.1.1 earlier.2 = false

variable {server : Server State Command Own Env Answer} {capacity : Nat} {start : State}
variable {history : History Command Own Env Answer} {mailbox : Mailbox State Command}

theorem linearized_opened (server : Server State Command Own Env Answer) (capacity : Nat)
    (start : State) : Linearized server capacity start [] (Server.opened start) where
  trace := rfl
  run := rfl
  inOrder := ⟨[], rfl, fun _ => rfl⟩
  bounded := Nat.zero_le _
  ended hended := absurd hended (by simp [Server.opened])
  ends _ := nofun
  last hended := absurd hended (by simp [Server.opened])

/-- A step that accepts and serves nothing. -/
theorem Linearized.kept (hlinear : Linearized server capacity start history mailbox)
    {entry : MailboxInput Command Own Env × MailboxOutput Command Own Answer}
    (haccepted : acceptedCommand entry = none) (hserved : servedWork entry = none) :
    Linearized server capacity start (history ++ [entry]) mailbox := by
  have hsame : served (history ++ [entry]) = served history := by
    simp [served, hserved]
  have hcommands : servedCommands (history ++ [entry]) = servedCommands history := by
    rw [servedCommands, servedCommands, hsame]
  have htaken : accepted (history ++ [entry]) = accepted history := by
    simp [accepted, haccepted]
  exact {
    trace := by rw [hsame]; exact hlinear.trace
    run := by rw [hsame]; exact hlinear.run
    inOrder := by rw [htaken, hcommands]; exact hlinear.inOrder
    bounded := hlinear.bounded
    ended := hlinear.ended
    ends := by rw [hsame]; exact hlinear.ends
    last := by rw [hsame]; exact hlinear.last }

/-- A command joins the queue. -/
theorem Linearized.sent (hlinear : Linearized server capacity start history mailbox)
    (hopen : mailbox.ended = false) (hroom : mailbox.queue.length < capacity)
    (command : Command) :
    Linearized server capacity start (history ++ [(.send command, .accepted)])
      { mailbox with queue := mailbox.queue ++ [command] } := by
  have hsame : served (history ++ [(.send command, .accepted)]) = served history := by
    simp [served, servedWork]
  have hcommands : servedCommands (history ++ [(.send command, .accepted)]) =
      servedCommands history := by
    rw [servedCommands, servedCommands, hsame]
  exact {
    trace := by rw [hsame]; exact hlinear.trace
    run := by rw [hsame]; exact hlinear.run
    inOrder := by
      obtain ⟨dropped, haccepted, hdropped⟩ := hlinear.inOrder
      obtain rfl := hdropped hopen
      refine ⟨[], ?_, fun _ => rfl⟩
      rw [hcommands, accepted, List.filterMap_append, ← accepted, haccepted]
      simp [acceptedCommand]
    bounded := by
      rw [List.length_append, List.length_singleton]
      exact hroom
    ended := fun hended => by simp [hopen] at hended
    ends := by rw [hsame]; exact hlinear.ends
    last := fun hended => by simp [hopen] at hended }

/-- A work is done; what it leaves of the queue was behind its command. -/
theorem Linearized.served (hlinear : Linearized server capacity start history mailbox)
    (hopen : mailbox.ended = false) {work : Command ⊕ Own} {env : Env} {queue : List Command}
    (hqueue : mailbox.queue = work.getLeft?.toList ++ queue)
    {entry : MailboxInput Command Own Env × MailboxOutput Command Own Answer}
    (haccepted : acceptedCommand entry = none)
    (hserved : servedWork entry =
      some ((work, env), (server.handle mailbox.state work env).2)) :
    Linearized server capacity start (history ++ [entry])
      (server.serve mailbox work env queue).1 := by
  obtain ⟨dropped, hbefore, hdropped⟩ := hlinear.inOrder
  obtain rfl := hdropped hopen
  have hsame : Mailbox.served (history ++ [entry]) = Mailbox.served history ++
      [((work, env), (server.handle mailbox.state work env).2)] := by
    simp [Mailbox.served, hserved]
  have hworks : (Mailbox.served (history ++ [entry])).map Prod.fst =
      (Mailbox.served history).map Prod.fst ++ [(work, env)] := by
    rw [hsame, List.map_append]
    rfl
  have hcommands : servedCommands (history ++ [entry]) =
      servedCommands history ++ work.getLeft?.toList := by
    rw [servedCommands, hsame, List.filterMap_append, ← servedCommands]
    cases work <;> rfl
  have htaken : accepted (history ++ [entry]) =
      servedCommands (history ++ [entry]) ++ queue := by
    rw [accepted, List.filterMap_append, ← accepted, hbefore, hcommands, hqueue]
    simp [haccepted]
  have htrace : Mailbox.served (history ++ [entry]) =
      server.sequential.trace start ((Mailbox.served (history ++ [entry])).map Prod.fst) := by
    rw [hworks, Machine.trace_append, ← hlinear.trace, ← hlinear.run, hsame]
    rfl
  have hrun : (server.handle mailbox.state work env).1 =
      server.sequential.run start ((Mailbox.served (history ++ [entry])).map Prod.fst) := by
    rw [hworks, Machine.run_append, ← hlinear.run]
    rfl
  have hlength : queue.length ≤ capacity := by
    have hbounded := hlinear.bounded
    rw [hqueue, List.length_append] at hbounded
    omega
  unfold Server.serve
  dsimp only
  split
  · next hends =>
      exact {
        trace := htrace
        run := hrun
        inOrder := ⟨queue, by simpa using htaken, fun hfalse => by cases hfalse⟩
        bounded := Nat.zero_le _
        ended := fun _ => rfl
        ends := fun hfalse => by cases hfalse
        last := fun _ => ⟨Mailbox.served history, _, hsame, hends, hlinear.ends hopen⟩ }
  · next hends =>
      exact {
        trace := htrace
        run := hrun
        inOrder := ⟨[], by simpa using htaken, fun _ => rfl⟩
        bounded := hlength
        ended := fun hfalse => by cases hfalse
        ends := fun _ other hother => by
          rw [hsame, List.mem_append, List.mem_singleton] at hother
          rcases hother with hother | rfl
          · exact hlinear.ends hopen other hother
          · exact Bool.not_eq_true _ ▸ hends
        last := fun hfalse => by cases hfalse }

/-- Every interleaving of clients and server is linearized. -/
theorem linearized_run (server : Server State Command Own Env Answer) (capacity : Nat)
    (start : State) (inputs : List (MailboxInput Command Own Env)) :
    Linearized server capacity start
      ((server.mailbox capacity).trace (Server.opened start) inputs)
      ((server.mailbox capacity).run (Server.opened start) inputs) := by
  refine (server.mailbox capacity).history_run
    (fun history mailbox => Linearized server capacity start history mailbox)
    (linearized_opened server capacity start) ?_ inputs
  intro history mailbox input hlinear
  show Linearized server capacity start
    (history ++ [(input, (server.mailboxStep capacity mailbox input).2)])
    (server.mailboxStep capacity mailbox input).1
  cases hended : mailbox.ended with
  | true =>
      cases input with
      | send command =>
          rw [Server.mailboxStep, if_pos hended]
          exact hlinear.kept rfl rfl
      | take env =>
          rw [Server.mailboxStep, if_pos hended]
          exact hlinear.kept rfl rfl
      | own work env =>
          rw [Server.mailboxStep, if_pos hended]
          exact hlinear.kept rfl rfl
  | false =>
      have hopen : ¬ mailbox.ended = true := by simp [hended]
      cases input with
      | send command =>
          rw [Server.mailboxStep, if_neg hopen]
          split
          · next hroom => exact hlinear.sent hended hroom command
          · exact hlinear.kept rfl rfl
      | take env =>
          rw [Server.mailboxStep, if_neg hopen]
          cases hqueue : mailbox.queue with
          | nil => exact hlinear.kept rfl rfl
          | cons command rest =>
              refine hlinear.served hended (by simpa using hqueue) ?_ ?_
              · unfold Server.serve; dsimp only; split <;> rfl
              · unfold Server.serve; dsimp only; split <;> rfl
      | own work env =>
          rw [Server.mailboxStep, if_neg hopen]
          refine hlinear.served hended (by simp) ?_ ?_
          · unfold Server.serve; dsimp only; split <;> rfl
          · unfold Server.serve; dsimp only; split <;> rfl

/-- A work that others follow did not end its server. -/
theorem Linearized.not_ends (hlinear : Linearized server capacity start history mailbox)
    {before after : List (((Command ⊕ Own) × Env) × Answer)}
    {entry : ((Command ⊕ Own) × Env) × Answer}
    (hserved : Mailbox.served history = before ++ entry :: after) (hafter : after ≠ []) :
    server.ends entry.1.1 entry.2 = false := by
  have hentry : entry ∈ before ++ entry :: after := by simp
  cases hended : mailbox.ended with
  | false => exact hlinear.ends hended entry (hserved ▸ hentry)
  | true =>
      obtain ⟨earlier, last, hsplit, -, hearlier⟩ := hlinear.last hended
      rw [hserved, ← List.dropLast_append_getLast hafter, List.append_cons,
        ← List.append_assoc] at hsplit
      have hsame := (List.append_inj' hsplit rfl).1
      exact hearlier entry (hsame ▸ by simp)

end Mailbox

namespace Server

variable {State Command Own Env Answer : Type*}

/-- One server after the other, each started on what the one before it left: the works of
each of them, and what the last one leaves. -/
def lives (server : Server State Command Own Env Answer) (capacity : Nat) :
    State → List (List (MailboxInput Command Own Env)) →
      List (List (((Command ⊕ Own) × Env) × Answer)) × State
  | state, [] => ([], state)
  | state, inputs :: rest =>
      let first := (server.mailbox capacity).trace (opened state) inputs
      let left := (server.mailbox capacity).run (opened state) inputs
      let others := server.lives capacity left.state rest
      (Mailbox.served first :: others.1, others.2)

variable (server : Server State Command Own Env Answer) (capacity : Nat)

/-- Together the servers do what one machine does that is never started again. -/
theorem lives_sequential (state : State)
    (inputs : List (List (MailboxInput Command Own Env))) :
    let works := (server.lives capacity state inputs).1.flatten
    works = server.sequential.trace state (works.map Prod.fst) ∧
      (server.lives capacity state inputs).2 =
        server.sequential.run state (works.map Prod.fst) := by
  induction inputs generalizing state with
  | nil => exact ⟨rfl, rfl⟩
  | cons first rest ih =>
      have hlinear := Mailbox.linearized_run server capacity state first
      obtain ⟨htrace, hrun⟩ := ih ((server.mailbox capacity).run (opened state) first).state
      dsimp only [lives, List.flatten_cons]
      rw [List.map_append, Machine.trace_append, Machine.run_append, ← hlinear.trace,
        ← hlinear.run, ← htrace, ← hrun]
      exact ⟨rfl, rfl⟩

/-- The work that ends a server is its last. -/
theorem lives_not_ends (state : State) (inputs : List (List (MailboxInput Command Own Env)))
    {life : List (((Command ⊕ Own) × Env) × Answer)}
    (hlife : life ∈ (server.lives capacity state inputs).1)
    {before after : List (((Command ⊕ Own) × Env) × Answer)}
    {entry : ((Command ⊕ Own) × Env) × Answer}
    (hserved : life = before ++ entry :: after) (hafter : after ≠ []) :
    server.ends entry.1.1 entry.2 = false := by
  induction inputs generalizing state with
  | nil => cases hlife
  | cons first rest ih =>
      rcases List.mem_cons.mp hlife with rfl | hothers
      · exact (Mailbox.linearized_run server capacity state first).not_ends hserved hafter
      · exact ih _ hothers

end Server
end Lib
end Lirvena
