import Lirvena.Account.AccountStoreRun
import Lirvena.Lib.Mailbox

/-!
# The writer of an account

One thread owns the store of an account.  Handles put their commands into its bounded
queue and wait for the reply; a shutdown comes after all earlier commands and ends the
thread.  Whatever the handles do between any two steps of the thread, they see an atomic
register: a snapshot reads what the last acknowledged transition wrote, and every
acknowledged transition starts from what the one before it left.
-/

namespace Lirvena
namespace Account

open Lib

/-- `Command` -/
inductive WriterCommand where
  | snapshot
  | transition (requested : AccountTransition)
  | shutdown

/-- What a command's reply channel is sent. -/
inductive WriterReply where
  | snapshot (answer : Except AccountRuntimeError AccountSnapshot)
  | transition (answer : Except AccountRuntimeError TransitionReceipt)
  | shutdown (answer : Except AccountRuntimeError AccountSnapshot)

/-- The loop of `run_writer`; whether the database commits is its environment. -/
def runWriter (localId : AccountLocalId) :
    Server Database WriterCommand Empty Bool WriterReply where
  handle database
    | .inl .snapshot, _ => (database, .snapshot (snapshot localId database))
    | .inl (.transition requested), commits =>
        match transition localId database requested commits with
        | .ok (next, receipt) => (next, .transition (.ok receipt))
        | .error error => (database, .transition (.error error))
    | .inl .shutdown, _ => (database, .shutdown (snapshot localId database))
  ends
    | .inl .shutdown, _ => true
    | _, _ => false

/-- A work of the writer in its environment, and the reply to it. -/
abbrev Served := ((WriterCommand ⊕ Empty) × Bool) × WriterReply

/-- The receipt that a work was acknowledged with. -/
def acknowledged : Served → Option TransitionReceipt
  | (_, .transition (.ok receipt)) => some receipt
  | _ => none

/-- The log entry of an acknowledged transition. -/
def TransitionReceipt.entry (receipt : TransitionReceipt) : TransitionRow where
  generation := receipt.current.generation
  fromPhase := receipt.previous.phase.stored
  toPhase := receipt.current.phase.stored
  protectiveReason := receipt.current.protectiveReason.map ProtectiveReason.stored
  occurredAtMs := receipt.current.updatedAtMs

/-- A transition as it was requested, from one snapshot to the next. -/
structure Grants (requested : AccountTransition) (receipt : TransitionReceipt) : Prop where
  phase : receipt.current.phase = requested.next
  reason : receipt.current.protectiveReason = requested.protectiveReason
  time : receipt.current.updatedAtMs = requested.occurredAtMs
  allowed : allowed receipt.previous.phase receipt.current.phase = true
  later : receipt.previous.updatedAtMs ≤ receipt.current.updatedAtMs
  generation : receipt.current.generation = receipt.previous.generation +
    if receipt.current.phase = .starting then 1 else 0

/-- The replies of an atomic register: what it holds at first, the works in the order in
which they are done, and what it holds in the end. -/
inductive RegisterLog : Except AccountRuntimeError AccountSnapshot → List Served →
    Except AccountRuntimeError AccountSnapshot → Prop where
  | nil (value) : RegisterLog value [] value
  | read {value last : Except AccountRuntimeError AccountSnapshot} {rest : List Served}
      (commits : Bool) (hrest : RegisterLog value rest last) :
      RegisterLog value (((.inl .snapshot, commits), .snapshot value) :: rest) last
  | ended {value last : Except AccountRuntimeError AccountSnapshot} {rest : List Served}
      (commits : Bool) (hrest : RegisterLog value rest last) :
      RegisterLog value (((.inl .shutdown, commits), .shutdown value) :: rest) last
  | moved {last : Except AccountRuntimeError AccountSnapshot} {rest : List Served}
      (requested : AccountTransition) (receipt : TransitionReceipt)
      (hgrants : Grants requested receipt) (hrest : RegisterLog (.ok receipt.current) rest last) :
      RegisterLog (.ok receipt.previous)
        (((.inl (.transition requested), true), .transition (.ok receipt)) :: rest) last
  | refused {value last : Except AccountRuntimeError AccountSnapshot} {rest : List Served}
      (requested : AccountTransition) (commits : Bool) (error : AccountRuntimeError)
      (hrest : RegisterLog value rest last) :
      RegisterLog value
        (((.inl (.transition requested), commits), .transition (.error error)) :: rest) last

/-! ## What a transition acknowledges -/

section Acknowledged

variable {localId : AccountLocalId} {database next : Database} {commits : Bool}

/-- An acknowledged transition is committed: it starts from the snapshot before it, is read
back as its receipt says, and adds its entry to the log. -/
theorem transition_acknowledged {requested : AccountTransition} {receipt : TransitionReceipt}
    (hok : transition localId database requested commits = .ok (next, receipt)) :
    commits = true ∧ snapshot localId database = .ok receipt.previous ∧
      snapshot localId next = .ok receipt.current ∧ Grants requested receipt ∧
      next.accountTransitions = database.accountTransitions ++ [receipt.entry] := by
  unfold transition at hok
  obtain ⟨previous, hprevious, hok⟩ := bind_eq_ok_iff.mp hok
  obtain ⟨⟨⟩, hvalid, hok⟩ := bind_eq_ok_iff.mp hok
  obtain ⟨generation, hgeneration, hok⟩ := bind_eq_ok_iff.mp hok
  obtain ⟨committed, hcommit, hreturn⟩ := bind_eq_ok_iff.mp hok
  cases hreturn
  obtain ⟨hreason, htime, hallowed⟩ := validateTransition_eq_ok hvalid
  unfold commitTransition at hcommit
  obtain ⟨storedGeneration, hstored, hcommit⟩ := bind_eq_ok_iff.mp hcommit
  obtain ⟨-, rfl⟩ := tryI64_eq_ok_iff.mp hstored
  obtain ⟨storedTime, hstored, hcommit⟩ := bind_eq_ok_iff.mp hcommit
  obtain ⟨-, rfl⟩ := tryI64_eq_ok_iff.mp hstored
  obtain ⟨previousGeneration, hstored, hcommit⟩ := bind_eq_ok_iff.mp hcommit
  obtain ⟨-, rfl⟩ := tryI64_eq_ok_iff.mp hstored
  obtain ⟨⟨⟩, -, hcommit⟩ := bind_eq_ok_iff.mp hcommit
  obtain ⟨hcommits, rfl⟩ := commit_eq_ok_iff.mp hcommit
  refine ⟨hcommits, hprevious, snapshot_of_row rfl hreason, ?_, rfl⟩
  refine ⟨rfl, rfl, rfl, hallowed, htime, ?_⟩
  unfold nextGeneration at hgeneration
  split at hgeneration
  · next hstarting =>
      rw [if_pos hstarting]
      exact (checkedAddU64_eq_some_iff.mp (okOr_eq_ok_iff.mp hgeneration)).2
  · next hstarting =>
      cases hgeneration
      rw [if_neg hstarting]
      rfl

end Acknowledged

/-! ## The register behind the queue -/

/-- The operations on the store that the works of the writer are. -/
def storeOp : (WriterCommand ⊕ Empty) × Bool → Option StoreOp
  | (.inl (.transition requested), commits) => some (.transition requested commits)
  | _ => none

section Register

variable (localId : AccountLocalId)

theorem handle_transition_ok {localId : AccountLocalId} {database next : Database}
    {commits : Bool} {requested : AccountTransition} {receipt : TransitionReceipt}
    (hok : transition localId database requested commits = .ok (next, receipt)) :
    (runWriter localId).handle database (.inl (.transition requested)) commits =
      (next, .transition (.ok receipt)) := by
  simp only [runWriter, hok]

theorem handle_transition_error {localId : AccountLocalId} {database : Database}
    {commits : Bool} {requested : AccountTransition} {error : AccountRuntimeError}
    (herror : transition localId database requested commits = .error error) :
    (runWriter localId).handle database (.inl (.transition requested)) commits =
      (database, .transition (.error error)) := by
  simp only [runWriter, herror]

/-- The writer changes its store by the operations of the store. -/
theorem run_store (database : Database) (works : List ((WriterCommand ⊕ Empty) × Bool)) :
    (runWriter localId).sequential.run database works =
      (store localId).run database (works.filterMap storeOp) := by
  refine Machine.run_filterMap _ ?_ database works
  rintro database ⟨command | own, commits⟩
  · cases command with
    | snapshot => rfl
    | shutdown => rfl
    | transition requested =>
        show ((runWriter localId).handle database (.inl (.transition requested)) commits).1 =
          (applyOp localId database (.transition requested commits)).1
        cases hresult : transition localId database requested commits with
        | error error => simp only [handle_transition_error hresult, applyOp, hresult]
        | ok moved =>
            obtain ⟨next, receipt⟩ := moved
            simp only [handle_transition_ok hresult, applyOp, hresult]
  · exact own.elim

/-- The sequential writer is an atomic register over a store that keeps a log. -/
theorem registerLog_sequential (database : Database)
    (works : List ((WriterCommand ⊕ Empty) × Bool)) :
    let served := (runWriter localId).sequential.trace database works
    let reached := (runWriter localId).sequential.run database works
    RegisterLog (snapshot localId database) served (snapshot localId reached) ∧
      reached.accountTransitions = database.accountTransitions ++
        (served.filterMap acknowledged).map TransitionReceipt.entry := by
  induction works generalizing database with
  | nil => exact ⟨.nil _, (List.append_nil _).symm⟩
  | cons work rest ih =>
      obtain ⟨command | own, commits⟩ := work
      · cases command with
        | snapshot =>
            obtain ⟨hlog, hentries⟩ := ih database
            exact ⟨.read commits hlog, hentries⟩
        | shutdown =>
            obtain ⟨hlog, hentries⟩ := ih database
            exact ⟨.ended commits hlog, hentries⟩
        | transition requested =>
            cases hresult : transition localId database requested commits with
            | error error =>
                simp only [Machine.trace_cons, Machine.run_cons, Server.sequential,
                  handle_transition_error hresult]
                obtain ⟨hlog, hentries⟩ := ih database
                exact ⟨.refused requested commits error hlog, hentries⟩
            | ok moved =>
                obtain ⟨next, receipt⟩ := moved
                simp only [Machine.trace_cons, Machine.run_cons, Server.sequential,
                  handle_transition_ok hresult]
                obtain ⟨rfl, hprevious, hcurrent, hgrants, hlogged⟩ :=
                  transition_acknowledged hresult
                obtain ⟨hlog, hentries⟩ := ih next
                rw [hcurrent] at hlog
                rw [hprevious]
                refine ⟨.moved requested receipt hgrants hlog, ?_⟩
                have hfirst : acknowledged
                    ((.inl (.transition requested), true), .transition (.ok receipt)) =
                      some receipt := rfl
                rw [List.filterMap_cons_some hfirst, List.map_cons, List.append_cons,
                  ← hlogged]
                exact hentries
      · exact own.elim

theorem ends_iff {work : WriterCommand ⊕ Empty} {reply : WriterReply} :
    (runWriter localId).ends work reply = true ↔ work = .inl .shutdown := by
  rcases work with command | own
  · cases command <;> simp [runWriter]
  · exact own.elim

/-- Whatever the handles send between any two steps of the writer: each command is served
once, in the order of acceptance; the replies are those of an atomic register; the log of
the store grows by one entry for each acknowledged transition and by nothing else, so that
the store is where its own operations lead; a shutdown is the last command that is served. -/
theorem writer_serves_register (capacity : Nat) (database : Database)
    (inputs : List (MailboxInput WriterCommand Empty Bool)) :
    let history := ((runWriter localId).mailbox capacity).trace (Server.opened database) inputs
    let reached := ((runWriter localId).mailbox capacity).run (Server.opened database) inputs
    let served := Mailbox.served history
    (∃ dropped, Mailbox.accepted history =
        Mailbox.servedCommands history ++ reached.queue ++ dropped ∧
      (reached.ended = false → dropped = [])) ∧
    reached.queue.length ≤ capacity ∧
    RegisterLog (snapshot localId database) served (snapshot localId reached.state) ∧
    reached.state.accountTransitions = database.accountTransitions ++
      (served.filterMap acknowledged).map TransitionReceipt.entry ∧
    reached.state = (store localId).run database ((served.map Prod.fst).filterMap storeOp) ∧
    (reached.ended = true ↔ .shutdown ∈ Mailbox.servedCommands history) ∧
    (.shutdown ∈ Mailbox.servedCommands history →
      (Mailbox.servedCommands history).getLast? = some .shutdown) := by
  intro history reached served
  have hlinear : Mailbox.Linearized (runWriter localId) capacity database history reached :=
    Mailbox.linearized_run (runWriter localId) capacity database inputs
  obtain ⟨hlog, hentries⟩ := registerLog_sequential localId database (served.map Prod.fst)
  rw [← hlinear.trace, ← hlinear.run] at hlog
  rw [← hlinear.trace, ← hlinear.run] at hentries
  have hrun := run_store localId database (served.map Prod.fst)
  rw [← hlinear.run] at hrun
  have hshutdown : .shutdown ∈ Mailbox.servedCommands history ↔
      ∃ entry ∈ served, (runWriter localId).ends entry.1.1 entry.2 = true := by
    rw [Mailbox.servedCommands, List.mem_filterMap]
    refine exists_congr fun entry => and_congr_right fun _ => ?_
    rw [ends_iff, Sum.getLeft?_eq_some_iff]
  have hended : reached.ended = true ↔ .shutdown ∈ Mailbox.servedCommands history := by
    rw [hshutdown]
    constructor
    · intro hended
      obtain ⟨before, entry, hserved, hends, -⟩ := hlinear.last hended
      refine ⟨entry, ?_, hends⟩
      show entry ∈ Mailbox.served history
      rw [hserved]
      simp
    · rintro ⟨entry, hentry, hends⟩
      by_contra hopen
      rw [hlinear.ends (Bool.not_eq_true _ ▸ hopen) entry hentry] at hends
      cases hends
  refine ⟨hlinear.inOrder, hlinear.bounded, hlog, hentries, hrun, hended, fun hserved => ?_⟩
  -- the work that ended the writer is its last one
  obtain ⟨before, entry, hlast, hends, -⟩ := hlinear.last (hended.mpr hserved)
  have hshut : entry.1.1.getLeft? = some .shutdown := by
    rw [(ends_iff localId).mp hends]
    rfl
  rw [Mailbox.servedCommands, hlast, List.filterMap_append]
  simp [hshut]

end Register
end Account
end Lirvena
