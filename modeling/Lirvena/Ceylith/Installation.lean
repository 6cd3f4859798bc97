import Lirvena.Ceylith.Tcp

/-!
# The installation worker

One task owns the connection of an installation and serves the exchanges of all
its accounts in the order of their queue.  Every failed exchange ends it, also one
that was refused before a byte was written; `worker_kept_open_iff` says that this
is the only way in which a run ends for another reason than the carrier, the
secure session or a shutdown.
-/

namespace Lirvena
namespace Ceylith

open Lib

structure RequestIdSequence where
  start : FixedBytes 8
  next : UInt64

namespace RequestIdSequence

/-- The identifier that is handed out next. -/
def current (requestIds : RequestIdSequence) : RequestId where
  bytes := requestIds.start.bytes ++ beBytes 8 requestIds.next.toNat
  length_eq := by simp [requestIds.start.length_eq]

def advance (requestIds : RequestIdSequence) : RequestIdSequence × Except TcpError RequestId :=
  match checkedAddU64 requestIds.next.toNat 1 with
  | none => (requestIds, .error (.client .closed))
  | some next => ({ requestIds with next := UInt64.ofNat next }, .ok requestIds.current)

end RequestIdSequence

/-- What is taken from the queue. -/
inductive Command (InnerFrame : Type) where
  | exchange (request : InnerFrame) (network : Network)
  | shutdown

inductive Reply (InnerFrame : Type) where
  | exchanged (answer : Except TcpError InnerFrame)
  | stopped (answer : Except TcpError Unit)

structure InstallationWorker (cipher : TransportCipher) where
  transport : CeylithTcpClient cipher
  requestIds : RequestIdSequence
  running : Bool

namespace InstallationWorker

variable {cipher : TransportCipher} {InnerFrame : Type}

/-- A worker that has just been spawned. -/
def spawn (transport : CeylithTcpClient cipher) (start : FixedBytes 8) :
    InstallationWorker cipher where
  transport := transport
  requestIds := ⟨start, 1⟩
  running := true

def answerExchange (codec : InnerCodec InnerFrame) (worker : InstallationWorker cipher)
    (request : InnerFrame) (network : Network) :
    InstallationWorker cipher × Except TcpError InnerFrame :=
  match worker.requestIds.advance with
  | (requestIds, .error error) => ({ worker with requestIds := requestIds }, .error error)
  | (requestIds, .ok requestId) =>
      let (transport, answer) := worker.transport.exchange codec requestId request network
      ({ worker with transport := transport, requestIds := requestIds }, answer)

/-- One turn of the loop; behind its end a caller finds the queue closed.  A queue
whose senders are all gone ends the loop as well, with nobody left to ask. -/
def turn (codec : InnerCodec InnerFrame) (worker : InstallationWorker cipher) :
    Command InnerFrame → InstallationWorker cipher × Reply InnerFrame
  | .exchange request network =>
      if worker.running then
        let (next, answer) := worker.answerExchange codec request network
        let terminal := match answer with
          | .error _ => true
          | .ok _ => false
        ({ next with running := !terminal }, .exchanged answer)
      else
        (worker, .exchanged (.error (.client .closed)))
  | .shutdown =>
      if worker.running then
        ({ worker with running := false }, .stopped (.ok ()))
      else
        (worker, .stopped (.error (.client .closed)))

/-- The worker as a machine over the commands of its queue. -/
def loop (cipher : TransportCipher) (codec : InnerCodec InnerFrame) :
    Machine (InstallationWorker cipher) (Command InnerFrame) (Reply InnerFrame) where
  step := turn codec

/-! ## What a shared connection owes its accounts -/

/-- The command is an exchange that a running worker refuses before it writes. -/
def TakesRejected (codec : InnerCodec InnerFrame) (worker : InstallationWorker cipher)
    (command : Command InnerFrame) : Prop :=
  ∃ request network, command = .exchange request network ∧ worker.running = true ∧
    worker.transport.connection.RejectsLocally codec request

/-- The carrier or the secure session fails in the exchange. -/
def Fails (codec : InnerCodec InnerFrame) (worker : InstallationWorker cipher)
    (request : InnerFrame) (network : Network) : Prop :=
  worker.transport.CarrierFails codec worker.requestIds.current request network ∨
    worker.transport.SessionFails codec worker.requestIds.current request network

/-- One turn of a running worker: a refused request does not end it, a valid one is
served, and only the carrier, the secure session or a shutdown ends it. -/
structure KeepsOpen (codec : InnerCodec InnerFrame) (worker : InstallationWorker cipher)
    (command : Command InnerFrame) : Prop where
  rejected : worker.TakesRejected codec command →
    (worker.turn codec command).1.running = true
  served : ∀ request network, command = .exchange request network →
    worker.running = true → Sealable codec worker.transport.connection.limits request →
    ¬ worker.Fails codec request network →
    (worker.turn codec command).1.running = true ∧
      ∃ response, (worker.turn codec command).2 = .exchanged (.ok response)
  ended : worker.running = true → (worker.turn codec command).1.running = false →
    command = .shutdown ∨ ∃ request network, command = .exchange request network ∧
      worker.Fails codec request network

/-! ## The request identifiers do not run out -/

/-- Every identifier was handed out for a message that the session has sealed. -/
def IdsLeft (worker : InstallationWorker cipher) : Prop :=
  worker.running = true → worker.requestIds.next = 1 ∨
    worker.requestIds.next.toNat ≤
        worker.transport.connection.secureSession.nextSendCounter.toNat + 1 ∧
      worker.transport.connection.secureSession.nextSendCounter ≤
        worker.transport.connection.secureSession.messageLimit

theorem advance_eq {requestIds : RequestIdSequence}
    (hroom : requestIds.next.toNat + 1 < u64Bound) :
    requestIds.advance =
      ({ requestIds with next := requestIds.next + 1 }, .ok requestIds.current) := by
  have hsum := checkedAddU64_eq_some_iff.mpr ⟨hroom, rfl⟩
  simp only [RequestIdSequence.advance, hsum, UInt64.ofNat_add, UInt64.ofNat_toNat]
  rfl

theorem IdsLeft.room {worker : InstallationWorker cipher} (hleft : worker.IdsLeft)
    (hrunning : worker.running = true) : worker.requestIds.next.toNat + 1 < u64Bound := by
  have hbound := worker.transport.connection.secureSession.messageLimit_le
  simp only [defaultSessionMessageLimit, u64Bound] at *
  rcases hleft hrunning with hfirst | ⟨hsealed, hlimit⟩
  · rw [hfirst]
    decide
  · rw [UInt64.le_iff_toNat_le] at hlimit
    omega

/-- One exchange of a running worker that has an identifier for it. -/
theorem turn_exchange (codec : InnerCodec InnerFrame) {worker : InstallationWorker cipher}
    (hrunning : worker.running = true) (hroom : worker.requestIds.next.toNat + 1 < u64Bound)
    (request : InnerFrame) (network : Network) :
    ∃ transport answer,
      worker.transport.Outcome codec worker.requestIds.current request network
        transport answer ∧
      (worker.turn codec (.exchange request network)).1.transport = transport ∧
      (worker.turn codec (.exchange request network)).1.requestIds.next =
        worker.requestIds.next + 1 ∧
      ((worker.turn codec (.exchange request network)).1.running = true ↔
        ∃ response, answer = .ok response) ∧
      (worker.turn codec (.exchange request network)).2 = .exchanged answer := by
  have houtcome := worker.transport.exchange_outcome codec worker.requestIds.current request
    network
  refine ⟨_, _, houtcome, ?_⟩
  simp only [turn, if_pos hrunning, answerExchange, advance_eq hroom, true_and, and_true]
  cases (worker.transport.exchange codec worker.requestIds.current request network).2 with
  | error error => simp
  | ok response => simp

/-- The end of a run is absorbing. -/
theorem turn_stopped (codec : InnerCodec InnerFrame) {worker : InstallationWorker cipher}
    (hstopped : worker.running = false) (command : Command InnerFrame) :
    (worker.turn codec command).1 = worker := by
  cases command with
  | exchange request network => simp [turn, hstopped]
  | shutdown => simp [turn, hstopped]

theorem idsLeft_turn (codec : InnerCodec InnerFrame) (worker : InstallationWorker cipher)
    (command : Command InnerFrame) (hleft : worker.IdsLeft) :
    (worker.turn codec command).1.IdsLeft := by
  by_cases hrunning : worker.running = true
  swap
  · rw [turn_stopped codec (by simpa using hrunning)]
    exact hleft
  cases command with
  | shutdown =>
      intro hstill
      simp [turn, hrunning] at hstill
  | exchange request network =>
      obtain ⟨transport, answer, houtcome, htransport, hids, hstill, -⟩ :=
        turn_exchange codec hrunning (hleft.room hrunning) request network
      intro hnext
      obtain ⟨response, rfl⟩ := hstill.mp hnext
      -- only a served exchange goes on, and it has used one message of the session
      cases houtcome with
      | served _ _ hsealable hexpired hsend hlimit =>
          right
          have hbound := worker.transport.connection.secureSession.messageLimit_le
          have hroom := hleft.room hrunning
          have hbelow := UInt64.not_le.mp hexpired
          rw [UInt64.lt_iff_toNat_lt] at hbelow
          simp only [defaultSessionMessageLimit, u64Bound] at hbound hroom
          rw [htransport, hids, hsend, hlimit, UInt64.le_iff_toNat_le, UInt64.toNat_add,
            UInt64.toNat_add, UInt64.toNat_one]
          rcases hleft hrunning with hfirst | ⟨hsealed, -⟩
          · rw [hfirst, UInt64.toNat_one]
            omega
          · omega

/-! ## Every run -/

/-- A refused request ends the worker. -/
theorem turn_rejected (codec : InnerCodec InnerFrame) {worker : InstallationWorker cipher}
    (hleft : worker.IdsLeft) {command : Command InnerFrame}
    (htakes : worker.TakesRejected codec command) :
    (worker.turn codec command).1.running = false := by
  obtain ⟨request, network, rfl, hrunning, hopen, hrefused⟩ := htakes
  obtain ⟨transport, answer, houtcome, -, -, hstill, -⟩ :=
    turn_exchange codec hrunning (hleft.room hrunning) request network
  cases houtcome with
  | rejected error hlocal => simpa using hstill
  | carrierFailed _ error hfails => simpa using hstill
  | sessionFailed _ error hfails => simpa using hstill
  | served _ response hsealable hexpired hsend hlimit =>
      -- a request that is sealed was not refused
      exfalso
      rcases hrefused with hencodes | ⟨-, hseals⟩
      · exact hencodes hsealable.encodes
      · exact hseals hsealable

/-- An exchange that is not refused is served, or the carrier or the session fails. -/
theorem turn_serves_or_fails (codec : InnerCodec InnerFrame)
    {worker : InstallationWorker cipher} (hleft : worker.IdsLeft)
    (hrunning : worker.running = true) {request : InnerFrame} {network : Network}
    (hnone : ¬ worker.TakesRejected codec (.exchange request network)) :
    worker.Fails codec request network ∨
      (worker.turn codec (.exchange request network)).1.running = true ∧
        ∃ response,
          (worker.turn codec (.exchange request network)).2 = .exchanged (.ok response) := by
  obtain ⟨transport, answer, houtcome, -, -, hstill, hreply⟩ :=
    turn_exchange codec hrunning (hleft.room hrunning) request network
  cases houtcome with
  | rejected error hlocal => exact absurd ⟨request, network, rfl, hrunning, hlocal⟩ hnone
  | carrierFailed _ error hfails => exact .inl (.inl hfails)
  | sessionFailed _ error hfails => exact .inl (.inr hfails)
  | served _ response _ hexpired hsend hlimit =>
      exact .inr ⟨hstill.mpr ⟨response, rfl⟩, response, hreply⟩

theorem keepsOpen_of_not_takesRejected (codec : InnerCodec InnerFrame)
    {worker : InstallationWorker cipher} (hleft : worker.IdsLeft)
    {command : Command InnerFrame} (hnone : ¬ worker.TakesRejected codec command) :
    worker.KeepsOpen codec command := by
  refine ⟨fun htakes => absurd htakes hnone, ?_, ?_⟩
  · rintro request network rfl hrunning - hworks
    exact (turn_serves_or_fails codec hleft hrunning hnone).resolve_left hworks
  · intro hrunning hended
    cases command with
    | shutdown => exact .inl rfl
    | exchange request network =>
        right
        refine ⟨request, network, rfl, ?_⟩
        by_contra hworks
        obtain ⟨hstill, -⟩ :=
          (turn_serves_or_fails codec hleft hrunning hnone).resolve_left hworks
        rw [hended] at hstill
        cases hstill

/-- In every run of a worker over any connection, whatever the network does, the
shared connection is kept open for its accounts exactly when no exchange of the run
is refused before it is written. -/
theorem worker_kept_open_iff (cipher : TransportCipher) {InnerFrame : Type}
    (codec : InnerCodec InnerFrame) (transport : CeylithTcpClient cipher)
    (start : FixedBytes 8) (commands : List (Command InnerFrame)) :
    (loop cipher codec).Guarded (KeepsOpen codec) (spawn transport start) commands ↔
      (loop cipher codec).Guarded (fun worker command => ¬ worker.TakesRejected codec command)
        (spawn transport start) commands := by
  have hspawned : IdsLeft (spawn transport start) := fun _ => .inl rfl
  refine (loop cipher codec).guarded_congr hspawned (idsLeft_turn codec) ?_ commands
  intro worker command hleft
  constructor
  · intro hkept htakes
    have hrun := hkept.rejected htakes
    rw [turn_rejected codec hleft htakes] at hrun
    cases hrun
  · exact keepsOpen_of_not_takesRejected codec hleft

/-! ## One refused request -/

def freshClient : CeylithTcpClient ClientConnection.countingCipher :=
  ⟨⟨[], []⟩, ClientConnection.freshConnection⟩

def sampleStart : FixedBytes 8 :=
  ⟨List.replicate 8 5, rfl⟩

/-- A network that takes everything and brings nothing. -/
def silent : Network :=
  ⟨none, []⟩

/-- A frame without a body is refused before a byte is written, and the connection
stays usable; but the valid request behind it finds the worker gone. -/
theorem refused_request_ends_worker :
    let codec := innerCodec sampleProst sampleSha256
    let worker := spawn freshClient sampleStart
    let commands : List (Command Proto.InnerFrame) :=
      [.exchange ⟨4, none⟩ silent, .exchange sampleFrame silent]
    let reached := (loop ClientConnection.countingCipher codec).run worker commands
    worker.TakesRejected codec (.exchange ⟨4, none⟩ silent) ∧
      Sealable codec ClientConnection.freshConnection.limits sampleFrame ∧
      reached.transport.stream = ⟨[], []⟩ ∧
      reached.transport.connection.isClosed = false ∧
      ((loop ClientConnection.countingCipher codec).trace worker commands).map Prod.snd =
        [.exchanged (.error (.client .protocol)), .exchanged (.error (.client .closed))] ∧
      ¬ (loop ClientConnection.countingCipher codec).Guarded (KeepsOpen codec) worker
        commands := by
  intro codec worker commands reached
  -- The codec refuses the frame before there is a plaintext.
  have hrefused : ¬ Encodes codec ClientConnection.freshConnection.limits ⟨4, none⟩ := by
    rintro ⟨plaintext, hencode, -⟩
    cases hencode
  have htakes : worker.TakesRejected codec (.exchange ⟨4, none⟩ silent) :=
    ⟨⟨4, none⟩, silent, rfl, rfl, rfl, .inl hrefused⟩
  refine ⟨htakes, ?_, rfl, rfl, rfl, ?_⟩
  · exact ⟨sampleBytes, rfl, by decide, by decide⟩
  · rintro ⟨hkept, -⟩
    have hrun := hkept.rejected htakes
    cases hrun

end InstallationWorker
end Ceylith
end Lirvena
