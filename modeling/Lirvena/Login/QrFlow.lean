import Lirvena.Lib.Run
import Lirvena.Lib.Text
import Lirvena.Login.QrPoll

/-!
# The QR login of an account

A round of the login asks the face resolver which account scanned the code, and then
polls QQ for the state of the challenge.  Both answer about a challenge that its user
may move on at any time, also between the two.  `untilConfirmed` takes one round after
another, and ends with the secrets of the account or with an error.

The binding check compares the account that was reported in a round with the account
confirmed in it, as numbers of 32 bits where they fit.  `Bound` is what the check is for,
and it holds in the runs in which no account is confirmed in a round without a report.
-/

namespace Lirvena
namespace Login

open Lib Wire Envelope

/-! ## The login machine -/

inductive LoginFailure where
  | transport
  | protocol
  | profile
  | ceylithContinuity
  | rejected
  deriving DecidableEq

/-- Closed account login state exposed to runtime adapters. -/
inductive LoginState where
  | stopped
  | fetchingQr
  | awaitingScan
  | awaitingConfirmation
  | exchangingCredentials
  | registering
  | online
  | protectiveOffline
  | failed (failure : LoginFailure)
  | qrExpired
  | qrCanceled
  deriving DecidableEq

def isAllowed : LoginState → LoginState → Bool
  | .stopped, .fetchingQr | .protectiveOffline, .fetchingQr | .failed _, .fetchingQr
  | .qrExpired, .fetchingQr | .qrCanceled, .fetchingQr => true
  | .fetchingQr, .awaitingScan | .fetchingQr, .failed _ => true
  | .awaitingScan, .awaitingScan | .awaitingScan, .awaitingConfirmation
  | .awaitingScan, .exchangingCredentials | .awaitingScan, .qrExpired | .awaitingScan, .qrCanceled
  | .awaitingScan, .failed _ => true
  | .awaitingConfirmation, .awaitingScan | .awaitingConfirmation, .awaitingConfirmation
  | .awaitingConfirmation, .exchangingCredentials | .awaitingConfirmation, .qrExpired
  | .awaitingConfirmation, .qrCanceled | .awaitingConfirmation, .failed _ => true
  | .exchangingCredentials, .registering | .exchangingCredentials, .protectiveOffline
  | .exchangingCredentials, .failed _ => true
  | .registering, .online | .registering, .protectiveOffline | .registering, .failed _ => true
  | .online, .protectiveOffline | .online, .failed _ => true
  | _, .stopped => true
  | _, _ => false

structure TransitionError where
  source : LoginState
  destination : LoginState
  deriving DecidableEq

/-- `LoginMachine::transition`, with the new state of the machine. -/
def transition (state next : LoginState) : Except TransitionError LoginState :=
  if isAllowed state next then .ok next else .error ⟨state, next⟩

def pollTarget : QrPollState → LoginState
  | .confirmed => .exchangingCredentials
  | .expired => .qrExpired
  | .waitingForScan => .awaitingScan
  | .waitingForConfirmation => .awaitingConfirmation
  | .canceled => .qrCanceled

def applyQrPoll (state : LoginState) (poll : QrPollState) : Except TransitionError LoginState :=
  transition state (pollTarget poll)

/-! ## The face resolver -/

/-- The fields of a face response that are read. -/
structure FaceResponse where
  returnCode : Int
  uin : UInt32
  deriving DecidableEq

/-- `FaceResolver::resolve`.  The answer of the endpoint is missing when the request
failed, or the response was no success, too long or malformed. -/
def resolveFace (appId : UInt32) (querySignature : String) (answer : Option FaceResponse) :
    Option (Option UInt32) :=
  if appId = 0 ∨ utf8Bytes querySignature = [] ∨ 2048 < (utf8Bytes querySignature).length then none
  else answer.map fun response =>
    if response.returnCode = 0 ∧ response.uin ≠ 0 then some response.uin else none

/-! ## The rounds -/

inductive QrFlowError where
  | interrupted
  | clock
  | timedOut
  | faceBinding
  | poll
  | bindingMismatch
  | ended (state : QrPollState)
  | transition (error : TransitionError)
  deriving DecidableEq

/-- What a challenge is polled with. -/
structure QrPolling where
  context : QrResponseContext
  querySignature : String
  expiresAtMs : Nat

/-- What one round finds: whether the pause ended without an interrupt, the clock before
the requests and after them, and the two answers, of which the second is the payload of a
polling response. -/
structure Round where
  waited : Bool
  nowMs : Option Nat
  face : Option FaceResponse
  payload : Option (List UInt8)
  laterMs : Option Nat

/-- The account that the resolver reported in a round, if it answered. -/
def reported (polling : QrPolling) (round : Round) : Option (Option UInt32) :=
  resolveFace polling.context.appId polling.querySignature round.face

/-- `poll_once`, from the payload that the request returns. -/
def pollOnce (polling : QrPolling) (round : Round) : Option QrPollResponse :=
  round.payload.bind fun payload => (decodeQrPollResponse payload polling.context).toOption

structure QrLogin where
  login : LoginState
  ended : Option (Except QrFlowError QrLoginSecrets)

namespace QrLogin

def finish (flow : QrLogin) (result : Except QrFlowError QrLoginSecrets) : QrLogin :=
  { flow with ended := some result }

/-- A transition under the clock, and then the end of the login or another round. -/
def apply (flow : QrLogin) (poll : QrPollState) (clock : Option Nat)
    (result : Option (Except QrFlowError QrLoginSecrets)) : QrLogin :=
  match clock with
  | none => flow.finish (.error .clock)
  | some _ =>
      match applyQrPoll flow.login poll with
      | .error error => flow.finish (.error (.transition error))
      | .ok login => { login := login, ended := result }

/-- The end of a round, after both requests. -/
def settle (flow : QrLogin) (boundUin : Option UInt32) (laterMs : Option Nat) :
    QrPollResponse → QrLogin
  | .confirmed secrets =>
      -- `u32::try_from(uin).ok()`: an account that does not fit is none.
      if boundUin ≠ tryU32 secrets.uin.toNat then flow.finish (.error .bindingMismatch)
      else flow.apply .confirmed laterMs (some (.ok secrets))
  | .state .expired => flow.apply .expired laterMs (some (.error (.ended .expired)))
  | .state .canceled => flow.apply .canceled laterMs (some (.error (.ended .canceled)))
  | .state state => flow.apply state laterMs none

/-- One turn of the loop. -/
def turn (polling : QrPolling) (flow : QrLogin) (round : Round) : QrLogin :=
  if round.waited = false then flow.finish (.error .interrupted)
  else
    match round.nowMs with
    | none => flow.finish (.error .clock)
    | some nowMs =>
        if polling.expiresAtMs ≤ nowMs then
          flow.apply .expired round.laterMs (some (.error .timedOut))
        else
          match reported polling round, pollOnce polling round with
          | none, _ => flow.finish (.error .faceBinding)
          | some _, none => flow.finish (.error .poll)
          | some boundUin, some response => flow.settle boundUin round.laterMs response

/-- A login that has ended takes no more rounds; the output is what ended it. -/
def step (polling : QrPolling) (flow : QrLogin) (round : Round) :
    QrLogin × Option (Except QrFlowError QrLoginSecrets) :=
  if flow.ended.isSome then (flow, none)
  else (flow.turn polling round, (flow.turn polling round).ended)

end QrLogin

def untilConfirmed (polling : QrPolling) :
    Machine QrLogin Round (Option (Except QrFlowError QrLoginSecrets)) where
  step := QrLogin.step polling

/-! ## The binding -/

/-- Secrets are of the account that was reported, and a mismatch is one between an account
that was reported and an account that was confirmed. -/
structure Bound (polling : QrPolling) (round : Round)
    (output : Option (Except QrFlowError QrLoginSecrets)) : Prop where
  secrets : ∀ secrets, output = some (.ok secrets) →
    ∃ uin, reported polling round = some (some uin) ∧ uin.toNat = secrets.uin.toNat
  mismatch : output = some (.error .bindingMismatch) →
    ∃ uin secrets, reported polling round = some (some uin) ∧
      pollOnce polling round = some (.confirmed secrets) ∧ uin.toNat ≠ secrets.uin.toNat

/-- A round that confirms an account without a report of one.  An account whose number does
not fit 32 bits ends the login only under a clock. -/
structure Unreported (polling : QrPolling) (round : Round) : Prop where
  waited : round.waited = true
  fresh : ∃ nowMs, round.nowMs = some nowMs ∧ nowMs < polling.expiresAtMs
  unreported : reported polling round = some none
  confirmed : ∃ secrets, pollOnce polling round = some (.confirmed secrets) ∧
    (secrets.uin.toNat < 2 ^ 32 ∨ round.laterMs ≠ none)

/-- The login that `untilConfirmed` starts from. -/
def accepted : QrLogin where
  login := .awaitingScan
  ended := none

/-- A login that goes on waits for the scan or for the confirmation. -/
def Waiting (flow : QrLogin) : Prop :=
  flow.ended = none → flow.login = .awaitingScan ∨ flow.login = .awaitingConfirmation

theorem transition_confirmed {flow : QrLogin} (hwaiting : Waiting flow)
    (hrunning : flow.ended = none) :
    applyQrPoll flow.login .confirmed = .ok .exchangingCredentials := by
  rcases hwaiting hrunning with hscan | hconfirmation
  · rw [hscan]
    rfl
  · rw [hconfirmation]
    rfl

/-- An output that ends the login with secrets, or with a mismatch. -/
def Decides : Option (Except QrFlowError QrLoginSecrets) → Prop
  | some (.ok _) | some (.error .bindingMismatch) => True
  | _ => False

theorem bound_of_not_decides {polling : QrPolling} {round : Round}
    {output : Option (Except QrFlowError QrLoginSecrets)} (hother : ¬ Decides output) :
    Bound polling round output where
  secrets := by
    rintro secrets rfl
    exact absurd trivial hother
  mismatch := by
    rintro rfl
    exact absurd trivial hother

theorem bound_ok_iff {polling : QrPolling} {round : Round} {secrets : QrLoginSecrets} :
    Bound polling round (some (.ok secrets)) ↔
      ∃ uin, reported polling round = some (some uin) ∧ uin.toNat = secrets.uin.toNat := by
  constructor
  · intro hbound
    exact hbound.secrets secrets rfl
  · intro hreported
    refine ⟨?_, fun hmismatch => nomatch hmismatch⟩
    intro same hsame
    cases hsame
    exact hreported

theorem bound_mismatch_iff {polling : QrPolling} {round : Round} :
    Bound polling round (some (.error .bindingMismatch)) ↔
      ∃ uin secrets, reported polling round = some (some uin) ∧
        pollOnce polling round = some (.confirmed secrets) ∧ uin.toNat ≠ secrets.uin.toNat :=
  ⟨fun hbound => hbound.mismatch rfl, fun hdiffer => ⟨nofun, fun _ => hdiffer⟩⟩

/-- A transition decides nothing that its result does not. -/
theorem apply_ended (flow : QrLogin) (poll : QrPollState) (clock : Option Nat)
    (result : Option (Except QrFlowError QrLoginSecrets)) :
    (flow.apply poll clock result).ended = result ∨
      ¬ Decides (flow.apply poll clock result).ended := by
  unfold QrLogin.apply
  split
  · exact .inr id
  · split
    · exact .inr id
    · exact .inl rfl

theorem not_decides_apply {flow : QrLogin} {poll : QrPollState} {clock : Option Nat}
    {result : Option (Except QrFlowError QrLoginSecrets)} (hresult : ¬ Decides result) :
    ¬ Decides (flow.apply poll clock result).ended := by
  rcases apply_ended flow poll clock result with hsame | hother
  · rw [hsame]
    exact hresult
  · exact hother

/-- A round that settles on a state of the challenge decides nothing. -/
theorem not_decides_settle_state (flow : QrLogin) (boundUin : Option UInt32)
    (laterMs : Option Nat) (state : QrPollState) :
    ¬ Decides (flow.settle boundUin laterMs (.state state)).ended := by
  unfold QrLogin.settle
  cases state <;> exact not_decides_apply (fun hdecides => hdecides.elim)

theorem settle_confirmed (flow : QrLogin) (boundUin : Option UInt32) (laterMs : Option Nat)
    (secrets : QrLoginSecrets) :
    flow.settle boundUin laterMs (.confirmed secrets) =
      if boundUin ≠ tryU32 secrets.uin.toNat then flow.finish (.error .bindingMismatch)
      else flow.apply .confirmed laterMs (some (.ok secrets)) := rfl

/-- A round in which the resolver reported an account keeps the binding, whatever it was
confirmed for. -/
theorem bound_settle_reported (flow : QrLogin) {polling : QrPolling} {round : Round}
    {uin : UInt32} {secrets : QrLoginSecrets} (hreported : reported polling round = some (some uin))
    (hpoll : pollOnce polling round = some (.confirmed secrets)) :
    Bound polling round (flow.settle (some uin) round.laterMs (.confirmed secrets)).ended := by
  rw [settle_confirmed]
  by_cases hsame : some uin = tryU32 secrets.uin.toNat
  · rw [if_neg (not_not.mpr hsame)]
    rcases apply_ended flow .confirmed round.laterMs (some (.ok secrets)) with hended | hother
    · rw [hended, bound_ok_iff]
      exact ⟨uin, hreported, tryU32_eq_some_iff.mp hsame.symm⟩
    · exact bound_of_not_decides hother
  · rw [if_pos hsame, QrLogin.finish, bound_mismatch_iff]
    refine ⟨uin, secrets, hreported, hpoll, ?_⟩
    intro huin
    exact hsame (tryU32_eq_some_iff.mpr huin).symm

/-- Without a report, a confirmed account keeps the binding only if the clock fails before
its secrets are returned. -/
theorem bound_settle_unreported {polling : QrPolling} {flow : QrLogin} {round : Round}
    {secrets : QrLoginSecrets} (hwaiting : Waiting flow) (hrunning : flow.ended = none)
    (hunreported : reported polling round = some none) :
    Bound polling round (flow.settle none round.laterMs (.confirmed secrets)).ended ↔
      ¬ (secrets.uin.toNat < 2 ^ 32 ∨ round.laterMs ≠ none) := by
  rw [settle_confirmed]
  by_cases hfits : secrets.uin.toNat < 2 ^ 32
  · have hsome : none ≠ tryU32 secrets.uin.toNat := by
      intro hnone
      have hwide := tryU32_eq_none_iff.mp hnone.symm
      omega
    rw [if_pos hsome, QrLogin.finish, bound_mismatch_iff]
    refine iff_of_false ?_ (not_not.mpr (.inl hfits))
    rintro ⟨uin, confirmed, hreported, -⟩
    exact nomatch hunreported.symm.trans hreported
  · -- An account that does not fit is compared with no report as no account, and the two
    -- are equal.
    have hnone : tryU32 secrets.uin.toNat = none := tryU32_eq_none_iff.mpr (by omega)
    rw [hnone, if_neg (not_not.mpr rfl)]
    unfold QrLogin.apply
    cases round.laterMs with
    | none =>
        refine iff_of_true (bound_of_not_decides id) ?_
        rintro (hfitting | hclock)
        · exact hfits hfitting
        · exact hclock rfl
    | some laterMs =>
        simp only [transition_confirmed hwaiting hrunning, bound_ok_iff]
        refine iff_of_false ?_ (not_not.mpr (.inr nofun))
        rintro ⟨uin, hreported, -⟩
        exact nomatch hunreported.symm.trans hreported

/-! ## One round -/

/-- A round that reaches its two requests. -/
structure Asks (polling : QrPolling) (round : Round) : Prop where
  waited : round.waited = true
  fresh : ∃ nowMs, round.nowMs = some nowMs ∧ nowMs < polling.expiresAtMs

theorem turn_of_asks (flow : QrLogin) {polling : QrPolling} {round : Round}
    (hasks : Asks polling round) :
    flow.turn polling round =
      match reported polling round, pollOnce polling round with
      | none, _ => flow.finish (.error .faceBinding)
      | some _, none => flow.finish (.error .poll)
      | some boundUin, some response => flow.settle boundUin round.laterMs response := by
  obtain ⟨nowMs, hnow, hfresh⟩ := hasks.fresh
  simp only [QrLogin.turn, hasks.waited, hnow, Bool.true_eq_false, if_false,
    if_neg (Nat.not_le.mpr hfresh)]

theorem not_decides_turn {polling : QrPolling} {flow : QrLogin} {round : Round}
    (hidle : ¬ Asks polling round) : ¬ Decides (flow.turn polling round).ended := by
  unfold QrLogin.turn
  by_cases hwaited : round.waited = false
  · rw [if_pos hwaited]
    exact id
  · rw [if_neg hwaited]
    split
    · exact id
    · next nowMs hnow =>
        have hexpired : polling.expiresAtMs ≤ nowMs := by
          by_contra hfresh
          exact hidle ⟨Bool.not_eq_false _ ▸ hwaited, nowMs, hnow, Nat.lt_of_not_le hfresh⟩
        rw [if_pos hexpired]
        exact not_decides_apply id

/-- Settling keeps the binding unless it confirms an account that was not reported. -/
theorem bound_settle_iff {polling : QrPolling} {flow : QrLogin} {round : Round}
    {boundUin : Option UInt32} {response : QrPollResponse} (hwaiting : Waiting flow)
    (hrunning : flow.ended = none) (hreported : reported polling round = some boundUin)
    (hpoll : pollOnce polling round = some response) :
    Bound polling round (flow.settle boundUin round.laterMs response).ended ↔
      ¬ (boundUin = none ∧ ∃ secrets, response = .confirmed secrets ∧
        (secrets.uin.toNat < 2 ^ 32 ∨ round.laterMs ≠ none)) := by
  cases response with
  | state state =>
      refine iff_of_true (bound_of_not_decides (not_decides_settle_state flow boundUin _ state)) ?_
      rintro ⟨-, secrets, hconfirmed, -⟩
      cases hconfirmed
  | confirmed secrets =>
      cases boundUin with
      | some uin =>
          refine iff_of_true (bound_settle_reported flow hreported hpoll) ?_
          rintro ⟨hnone, -⟩
          cases hnone
      | none =>
          refine (bound_settle_unreported hwaiting hrunning hreported).trans (not_congr ?_)
          constructor
          · intro hdecided
            exact ⟨rfl, secrets, rfl, hdecided⟩
          · rintro ⟨-, same, hsame, hdecided⟩
            cases hsame
            exact hdecided

/-- One round of a login that goes on keeps the binding unless it confirms an account
that was not reported. -/
theorem bound_turn_iff {polling : QrPolling} {flow : QrLogin} {round : Round}
    (hwaiting : Waiting flow) (hrunning : flow.ended = none) :
    Bound polling round (flow.turn polling round).ended ↔ ¬ Unreported polling round := by
  by_cases hasks : Asks polling round
  · rw [turn_of_asks flow hasks]
    cases hreported : reported polling round with
    | none =>
        refine iff_of_true (bound_of_not_decides id) ?_
        intro hround
        exact nomatch hreported.symm.trans hround.unreported
    | some boundUin =>
        cases hpoll : pollOnce polling round with
        | none =>
            refine iff_of_true (bound_of_not_decides id) ?_
            intro hround
            obtain ⟨secrets, hconfirmed, -⟩ := hround.confirmed
            exact nomatch hpoll.symm.trans hconfirmed
        | some response =>
            refine (bound_settle_iff hwaiting hrunning hreported hpoll).trans (not_congr ?_)
            constructor
            · rintro ⟨rfl, secrets, rfl, hdecided⟩
              exact ⟨hasks.waited, hasks.fresh, hreported, secrets, hpoll, hdecided⟩
            · intro hround
              obtain ⟨secrets, hconfirmed, hdecided⟩ := hround.confirmed
              exact ⟨Option.some.inj (hreported.symm.trans hround.unreported), secrets,
                Option.some.inj (hpoll.symm.trans hconfirmed), hdecided⟩
  · refine iff_of_true (bound_of_not_decides (not_decides_turn hasks)) ?_
    intro hround
    exact hasks ⟨hround.waited, hround.fresh⟩

/-- A login that goes on after a round waits again. -/
theorem waiting_apply (flow : QrLogin) {state : QrPollState} (clock : Option Nat)
    (hpending : state = .waitingForScan ∨ state = .waitingForConfirmation) :
    Waiting (flow.apply state clock none) := by
  intro hrunning
  unfold QrLogin.apply at hrunning ⊢
  split at hrunning
  · cases hrunning
  · split at hrunning
    · cases hrunning
    · next login hlogin =>
        unfold applyQrPoll transition at hlogin
        split at hlogin
        · cases hlogin
          rcases hpending with rfl | rfl
          · exact .inl rfl
          · exact .inr rfl
        · cases hlogin

/-- A transition that ends the login leaves nothing to wait for. -/
theorem apply_ended_ne_none (flow : QrLogin) (state : QrPollState) (clock : Option Nat)
    (result : Except QrFlowError QrLoginSecrets) :
    (flow.apply state clock (some result)).ended ≠ none := by
  unfold QrLogin.apply
  split
  · nofun
  · split <;> nofun

theorem pollOnce_of_decode {polling : QrPolling} {round : Round} {payload : List UInt8}
    {response : QrPollResponse} (hpayload : round.payload = some payload)
    (hdecode : decodeQrPollResponse payload polling.context = .ok response) :
    pollOnce polling round = some response := by
  rw [pollOnce, hpayload, Option.bind_some, hdecode]
  rfl

theorem pollOnce_state {polling : QrPolling} {round : Round} {state : QrPollState}
    (hpoll : pollOnce polling round = some (.state state)) : state ≠ .confirmed := by
  obtain ⟨payload, -, hdecode⟩ := Option.bind_eq_some_iff.mp hpoll
  cases hresult : decodeQrPollResponse payload polling.context with
  | error error =>
      rw [hresult] at hdecode
      cases hdecode
  | ok response =>
      rw [hresult] at hdecode
      cases hdecode
      exact decodeQrPollResponse_state hresult

theorem waiting_settle (flow : QrLogin) (boundUin : Option UInt32) (laterMs : Option Nat)
    {response : QrPollResponse} (hstate : ∀ state, response = .state state → state ≠ .confirmed) :
    Waiting (flow.settle boundUin laterMs response) := by
  intro hrunning
  cases response with
  | confirmed secrets =>
      rw [settle_confirmed] at hrunning
      split at hrunning
      · cases hrunning
      · exact absurd hrunning (apply_ended_ne_none flow _ _ _)
  | state state =>
      cases state with
      | confirmed => exact absurd rfl (hstate .confirmed rfl)
      | expired => exact absurd hrunning (apply_ended_ne_none flow _ _ _)
      | waitingForScan => exact waiting_apply flow laterMs (.inl rfl) hrunning
      | waitingForConfirmation => exact waiting_apply flow laterMs (.inr rfl) hrunning
      | canceled => exact absurd hrunning (apply_ended_ne_none flow _ _ _)

theorem waiting_turn (polling : QrPolling) (flow : QrLogin) (round : Round) :
    Waiting (flow.turn polling round) := by
  unfold QrLogin.turn
  split
  · exact nofun
  · split
    · exact nofun
    · split
      · exact fun hrunning => absurd hrunning (apply_ended_ne_none flow _ _ _)
      · split
        · exact nofun
        · exact nofun
        · next hpoll =>
            apply waiting_settle
            rintro state rfl
            exact pollOnce_state hpoll

theorem step_running {polling : QrPolling} {flow : QrLogin} {round : Round}
    (hrunning : flow.ended = none) :
    (untilConfirmed polling).step flow round =
      (flow.turn polling round, (flow.turn polling round).ended) := by
  simp [untilConfirmed, QrLogin.step, hrunning]

theorem step_output {polling : QrPolling} {flow : QrLogin} {round : Round}
    (hrunning : flow.ended = none) :
    ((untilConfirmed polling).step flow round).2 = (flow.turn polling round).ended := by
  rw [step_running hrunning]

theorem step_ended {polling : QrPolling} {flow : QrLogin} {round : Round}
    (hended : flow.ended ≠ none) : (untilConfirmed polling).step flow round = (flow, none) := by
  simp [untilConfirmed, QrLogin.step, Option.isSome_iff_ne_none.mpr hended]

theorem waiting_step (polling : QrPolling) (flow : QrLogin) (round : Round)
    (hwaiting : Waiting flow) : Waiting ((untilConfirmed polling).step flow round).1 := by
  by_cases hrunning : flow.ended = none
  · rw [step_running hrunning]
    exact waiting_turn polling flow round
  · rw [step_ended hrunning]
    exact hwaiting

/-- The guard of a run: no round of a login that goes on confirms an account that was not
reported. -/
def Guard (polling : QrPolling) (flow : QrLogin) (round : Round) : Prop :=
  flow.ended = none → ¬ Unreported polling round

theorem bound_step_iff {polling : QrPolling} {flow : QrLogin} (round : Round)
    (hwaiting : Waiting flow) :
    Bound polling round ((untilConfirmed polling).step flow round).2 ↔
      Guard polling flow round := by
  by_cases hrunning : flow.ended = none
  · rw [step_running hrunning, bound_turn_iff hwaiting hrunning]
    exact ⟨fun hreported _ => hreported, fun hguard => hguard hrunning⟩
  · rw [step_ended hrunning]
    exact iff_of_true (bound_of_not_decides id) (fun hnone => absurd hnone hrunning)

/-- A login binds its secrets and its mismatches to reported accounts exactly if no round
of it confirms an account while the resolver reports none. -/
theorem bound_iff_reported (polling : QrPolling) (rounds : List Round) :
    (∀ entry ∈ (untilConfirmed polling).trace accepted rounds, Bound polling entry.1 entry.2) ↔
      (untilConfirmed polling).Guarded (Guard polling) accepted rounds :=
  (untilConfirmed polling).forall_trace_iff_guarded (fun _ => .inl rfl)
    (waiting_step polling) (fun _ round hwaiting => bound_step_iff round hwaiting) rounds

/-- A challenge of an application, polled under one key. -/
def linuxPolling : QrPolling where
  context := linuxContext
  querySignature := "qrsig"
  expiresAtMs := 120000

/-- The user scans and confirms between the two requests of a round: the resolver has no
account yet, and the poll has it already. -/
def lateRound (uin : UInt64) : Round where
  waited := true
  nowMs := some 1000
  face := some ⟨0, 0⟩
  payload := some (confirmedPayload uin)
  laterMs := some 1500

theorem reported_lateRound (uin : UInt64) : reported linuxPolling (lateRound uin) = some none := by
  have hsignature : utf8Bytes "qrsig" = [0x71, 0x72, 0x73, 0x69, 0x67] := by decide
  simp [reported, resolveFace, linuxPolling, linuxContext, lateRound, hsignature]

theorem pollOnce_lateRound {uin : UInt64} (huin : uin ≠ 0) :
    pollOnce linuxPolling (lateRound uin) = some (.confirmed (confirmedSecrets uin)) :=
  pollOnce_of_decode rfl (decode_confirmedPayload huin)

theorem turn_lateRound {uin : UInt64} (huin : uin ≠ 0) :
    accepted.turn linuxPolling (lateRound uin) =
      accepted.settle none (lateRound uin).laterMs (.confirmed (confirmedSecrets uin)) := by
  have hasks : Asks linuxPolling (lateRound uin) := ⟨rfl, 1000, rfl, by decide⟩
  have hturn := turn_of_asks accepted hasks
  rw [reported_lateRound, pollOnce_lateRound huin] at hturn
  exact hturn

theorem trace_lateRound {uin : UInt64} (huin : uin ≠ 0) :
    (untilConfirmed linuxPolling).trace accepted [lateRound uin] =
      [(lateRound uin, (accepted.settle none (lateRound uin).laterMs
        (.confirmed (confirmedSecrets uin))).ended)] := by
  have hrunning : accepted.ended = none := rfl
  rw [Machine.trace_cons, Machine.trace_nil, step_output hrunning, turn_lateRound huin]

/-- A login that is confirmed between the two requests of a round fails, and one of an
account that does not fit 32 bits succeeds without a report. -/
theorem confirmed_between_requests :
    (untilConfirmed linuxPolling).trace accepted [lateRound 10001] =
        [(lateRound 10001, some (.error .bindingMismatch))] ∧
      ¬ Bound linuxPolling (lateRound 10001) (some (.error .bindingMismatch)) ∧
      (untilConfirmed linuxPolling).trace accepted [lateRound 4294967296] =
        [(lateRound 4294967296, some (.ok (confirmedSecrets 4294967296)))] ∧
      ¬ Bound linuxPolling (lateRound 4294967296) (some (.ok (confirmedSecrets 4294967296))) := by
  have hfits : tryU32 (10001 : UInt64).toNat = some 10001 := tryU32_eq_some_iff.mpr (by decide)
  have hwide : tryU32 (4294967296 : UInt64).toNat = none := tryU32_eq_none_iff.mpr (by decide)
  refine ⟨?_, ?_, ?_, ?_⟩
  · rw [trace_lateRound (by decide), settle_confirmed, confirmedSecrets, hfits]
    rfl
  · intro hbound
    obtain ⟨uin, secrets, hreported, -⟩ := hbound.mismatch rfl
    cases (reported_lateRound 10001).symm.trans hreported
  · rw [trace_lateRound (by decide), settle_confirmed, confirmedSecrets, hwide]
    rfl
  · intro hbound
    obtain ⟨uin, hreported, -⟩ := hbound.secrets _ rfl
    cases (reported_lateRound 4294967296).symm.trans hreported

end Login
end Lirvena
