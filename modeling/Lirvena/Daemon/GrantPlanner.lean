import Lirvena.Daemon.Supervise

/-!
# Grant plans and watch events

The planner assigns a realm to every configured account, for the grant of the
installation at its start.  Later the watch reports events, most of them with a snapshot
of the grant as it is then.  `Covers` compares such a snapshot with the plan, and
`classify_iff` is what the classifier makes of the events that the validator accepts:
it looks at the snapshot of a quota change, and otherwise at the kind alone.
-/

namespace Lirvena
namespace Daemon

open Lib Account Ceylith Watch

/-! ## The planner -/

/-- User-selected capability policy for one account. -/
inductive AccountGrantMode where
  | «public»
  | requireGrant
  | allowPublicFallback
  deriving DecidableEq

structure AccountGrantRequest where
  localId : AccountLocalId
  mode : AccountGrantMode
  deriving DecidableEq

/-- Installation-wide capability currently authenticated by Ceylith. -/
inductive GrantAvailability where
  | publicOnly
  | boundedFull (maxAccounts : UInt32)
  | unboundedFull
  deriving DecidableEq

inductive GrantPlanError where
  | duplicateAccount (account : AccountLocalId)
  | grantRequired (accounts : List AccountLocalId)
  | fullQuotaExceeded (limit : UInt32) (accounts : List AccountLocalId)
  deriving DecidableEq

/-- Requests for distinct accounts. -/
abbrev UniqueRequests :=
  {requests : List AccountGrantRequest // (requests.map AccountGrantRequest.localId).Nodup}

def collectUnique (unique : UniqueRequests) :
    List AccountGrantRequest → Except GrantPlanError UniqueRequests
  | [] => .ok unique
  | request :: rest =>
      if hrepeated : request.localId ∈ unique.val.map AccountGrantRequest.localId then
        .error (.duplicateAccount request.localId)
      else
        collectUnique ⟨unique.val ++ [request], by
          rw [List.map_append, List.nodup_append]
          refine ⟨unique.property, List.nodup_singleton _, ?_⟩
          intro earlier hearlier last hlast
          obtain rfl := List.mem_singleton.mp hlast
          rintro rfl
          exact hrepeated hearlier⟩ rest

/-- The accounts whose mode is one of those asked for. -/
def accountsWith (requests : UniqueRequests) (wanted : AccountGrantMode → Bool) :
    List AccountLocalId :=
  (requests.val.filter fun request => wanted request.mode).map AccountGrantRequest.localId

/-- The plan that gives each request the realm of its mode. -/
def planWith (requests : UniqueRequests) (realm : AccountGrantMode → AssignedRealm) :
    GrantPlan where
  assignments := requests.val.map fun request => (request.localId, realm request.mode)
  keys_nodup := by
    have hkeys : (requests.val.map fun request =>
        (request.localId, realm request.mode)).map Prod.fst =
          requests.val.map AccountGrantRequest.localId := by simp
    rw [hkeys]
    exact requests.property

/-- The realm of a mode while Full is available. -/
def fullRealm : AccountGrantMode → AssignedRealm
  | .«public» => .«public»
  | .requireGrant | .allowPublicFallback => .full

/-- A plan, with the accounts to be warned about at startup. -/
structure PlannedGrants where
  plan : GrantPlan
  publicFallbacks : List AccountLocalId

def planPublicOnly (requests : UniqueRequests) : Except GrantPlanError PlannedGrants :=
  let required := accountsWith requests (· = .requireGrant)
  if required ≠ [] then .error (.grantRequired required)
  else .ok ⟨planWith requests fun _ => .«public»,
    accountsWith requests (· = .allowPublicFallback)⟩

def planWithFull (requests : UniqueRequests) : PlannedGrants :=
  ⟨planWith requests fullRealm, []⟩

def planAccountGrants (requests : List AccountGrantRequest) (availability : GrantAvailability) :
    Except GrantPlanError PlannedGrants := do
  let requests ← collectUnique ⟨[], List.nodup_nil⟩ requests
  let fullCandidates := accountsWith requests (· ≠ .«public»)
  match availability with
  | .publicOnly => planPublicOnly requests
  | .boundedFull maxAccounts =>
      if maxAccounts.toNat < fullCandidates.length then
        .error (.fullQuotaExceeded maxAccounts fullCandidates)
      else .ok (planWithFull requests)
  | .unboundedFull => .ok (planWithFull requests)

/-- The Full accounts of a plan are those whose mode is given Full. -/
theorem planWith_full (requests : UniqueRequests) (realm : AccountGrantMode → AssignedRealm) :
    (planWith requests realm).protectiveOfflineOnRevocation =
      accountsWith requests fun mode => realm mode = .full := by
  obtain ⟨requests, hunique⟩ := requests
  change (requests.map fun request => (request.localId, realm request.mode)).filterMap
      (fun assignment => if assignment.2 = .full then some assignment.1 else none) =
    (requests.filter fun request => realm request.mode = .full).map AccountGrantRequest.localId
  clear hunique
  induction requests with
  | nil => rfl
  | cons request rest ih =>
      by_cases hfull : realm request.mode = .full
      · simpa [hfull] using ih
      · simpa [hfull] using ih

/-- A plan runs no more Full accounts than the grant that it is made for allows. -/
theorem planned_full_le {requests : List AccountGrantRequest} {availability : GrantAvailability}
    {planned : PlannedGrants} (hplan : planAccountGrants requests availability = .ok planned) :
    match availability with
    | .publicOnly => planned.plan.protectiveOfflineOnRevocation = []
    | .boundedFull maxAccounts =>
        planned.plan.protectiveOfflineOnRevocation.length ≤ maxAccounts.toNat
    | .unboundedFull => True := by
  obtain ⟨unique, -, hrest⟩ := bind_eq_ok_iff.mp hplan
  cases availability with
  | publicOnly =>
      dsimp only [planPublicOnly] at hrest
      split at hrest
      · cases hrest
      · cases hrest
        simp [planWith_full, accountsWith]
  | boundedFull maxAccounts =>
      dsimp only at hrest
      split at hrest
      · cases hrest
      · next hfits =>
          cases hrest
          have hmodes : ∀ mode, (fullRealm mode = .full) = (mode ≠ .«public») := by
            intro mode
            cases mode <;> simp [fullRealm]
          simp only [planWithFull, planWith_full, hmodes]
          exact Nat.not_lt.mp hfits
  | unboundedFull => trivial

/-! ## Events and plans -/

/-- The number of Full accounts that a grant authorises; none stands for no limit. -/
def authorised (grant : WatchGrantSnapshot) : Option Nat :=
  if grant.renewalState = .revoked then some 0
  else
    match grant.grantClass with
    | .«public» => some 0
    | .community => some grant.maxFullAccounts.toNat
    | .full => if grant.maxFullAccounts = 0 then none else some grant.maxFullAccounts.toNat

/-- A grant authorises all Full accounts of the plan. -/
def Covers (grant : WatchGrantSnapshot) (plan : GrantPlan) : Prop :=
  ∀ bound ∈ authorised grant, plan.protectiveOfflineOnRevocation.length ≤ bound

/-- The account is one that the event is about. -/
def InScope (event : WatchEvent) (account : AccountLocalId) : Prop :=
  ∀ scope ∈ event.accountSlotId, scope.bytes = account.bytes

/-- The events that protect the accounts in their scope. -/
def Protective (event : WatchEvent) (plan : GrantPlan) : Prop :=
  event.kind = .grantRevoked ∨ event.kind = .profileChanged ∨ event.kind = .maintenance ∨
    (event.kind = .quotaChanged ∧ ∃ grant ∈ event.grant, ¬ Covers grant plan)

/-- An event that is decoded has the kind on the wire, and the grant of that kind. -/
theorem decoded_event {sha256 : Sha256} {frame : Proto.InnerFrame} {requestedCursor : UInt64}
    {event : WatchEvent}
    (hok : decodeWatchResponse sha256 frame requestedCursor = .ok (.event event)) :
    ∃ value, decodeEvent value = .ok event ∧ GrantFits value.grant event.kind := by
  obtain ⟨hanswers, -⟩ := decodeWatchResponse_eq_ok hok
  unfold decodeWatchResponse at hok
  obtain ⟨⟨⟩, -, hdecode⟩ := bind_eq_ok_iff.mp hok
  obtain ⟨body, hbody, hmatch⟩ := bind_eq_ok_iff.mp hdecode
  have hsome := okOr_eq_ok_iff.mp hbody
  cases hanswers with
  | idle value hidle haccepted =>
      rw [hidle] at hsome
      cases hsome
      dsimp only at hmatch
      rw [if_pos haccepted] at hmatch
      cases hmatch
  | event value kind hvalue hlater hkind hgrant =>
      rw [hvalue] at hsome
      cases hsome
      dsimp only at hmatch
      rw [if_pos hlater] at hmatch
      obtain ⟨decoded, hdecoded, hevent⟩ := map_eq_ok_iff.mp hmatch
      cases hevent
      obtain ⟨again, hagain, hrest⟩ := bind_eq_ok_iff.mp hdecoded
      obtain ⟨slot, -, hafter⟩ := bind_eq_ok_iff.mp hrest
      obtain ⟨snapshot, -, hreturn⟩ := bind_eq_ok_iff.mp hafter
      have hsame : again = kind :=
        Option.some.inj ((okOr_eq_ok_iff.mp hagain).symm.trans hkind)
      refine ⟨value, hdecoded, ?_⟩
      cases hreturn
      exact hsame ▸ hgrant

/-- A decoded quota change carries a grant that is not revoked. -/
theorem decoded_quotaChanged {sha256 : Sha256} {frame : Proto.InnerFrame}
    {requestedCursor : UInt64} {event : WatchEvent}
    (hok : decodeWatchResponse sha256 frame requestedCursor = .ok (.event event))
    (hkind : event.kind = .quotaChanged) :
    ∃ grant, event.grant = some grant ∧ grant.renewalState ≠ .revoked := by
  obtain ⟨value, hdecoded, hgrant⟩ := decoded_event hok
  rw [hkind] at hgrant
  obtain ⟨snapshot, hsnapshot, hfits⟩ := hgrant
  obtain ⟨renewal, hwire, hrenewal⟩ := hfits.renewal
  obtain ⟨kind, -, hrest⟩ := bind_eq_ok_iff.mp hdecoded
  obtain ⟨slot, -, hafter⟩ := bind_eq_ok_iff.mp hrest
  obtain ⟨decoded, hdecode, hreturn⟩ := bind_eq_ok_iff.mp hafter
  rw [hsnapshot] at hdecode
  obtain ⟨grant, hsnap, hsome⟩ := map_eq_ok_iff.mp hdecode
  obtain ⟨grantClass, -, hclass⟩ := bind_eq_ok_iff.mp hsnap
  obtain ⟨state, hstate, hstruct⟩ := bind_eq_ok_iff.mp hclass
  obtain ⟨known, hknown, hmatch⟩ := bind_eq_ok_iff.mp hstate
  have hsame : known = renewal := Option.some.inj ((okOr_eq_ok_iff.mp hknown).symm.trans hwire)
  cases hreturn
  refine ⟨grant, hsome.symm, ?_⟩
  cases hstruct
  rw [hsame] at hmatch
  rcases hrenewal with rfl | rfl <;> cases hmatch <;> simp

/-- While the grant is not revoked, the quota test is whether it covers the plan. -/
theorem quotaExceeded_iff {event : WatchEvent} {grant : WatchGrantSnapshot} {plan : GrantPlan}
    (hgrant : event.grant = some grant) (hrenewal : grant.renewalState ≠ .revoked) :
    quotaExceeded event plan = true ↔ ¬ Covers grant plan := by
  unfold quotaExceeded Covers authorised
  rw [hgrant, if_neg hrenewal]
  cases hclass : grant.grantClass with
  | «public» => simp [hclass]
  | community => simp [hclass]
  | full =>
      by_cases hunlimited : grant.maxFullAccounts = 0
      · simp [hclass, hunlimited]
      · simp [hclass, hunlimited]

theorem inScope_iff {event : WatchEvent} {account : AccountLocalId} :
    event.accountSlotId.any (fun scope => scope.bytes ≠ account.bytes) = false ↔
      InScope event account := by
  unfold InScope
  cases event.accountSlotId <;> simp

/-- What the classifier makes of an accepted event: it protects the accounts in the scope
of a revocation, of a change of the profile, of maintenance, and of a quota change whose
grant does not cover the plan, and no others. -/
theorem classify_iff {sha256 : Sha256} {frame : Proto.InnerFrame} {requestedCursor : UInt64}
    {event : WatchEvent}
    (hevent : decodeWatchResponse sha256 frame requestedCursor = .ok (.event event))
    (plan : GrantPlan) (account : AccountLocalId) :
    (∃ reason, classify event account plan = .protect reason) ↔
      InScope event account ∧ Protective event plan := by
  unfold classify
  by_cases hscope : InScope event account
  · have hinside := inScope_iff.mpr hscope
    simp only [hinside, hscope, true_and, Bool.false_eq_true, if_false]
    unfold Protective
    cases hkind : event.kind with
    | quotaChanged =>
        obtain ⟨grant, hgrant, hrenewal⟩ := decoded_quotaChanged hevent hkind
        have hquota : quotaExceeded event plan = true ↔ ¬ Covers grant plan :=
          quotaExceeded_iff hgrant hrenewal
        by_cases hexceeded : quotaExceeded event plan = true
        · simp [hexceeded, hgrant, hquota.mp hexceeded]
        · simp [hexceeded, hgrant, not_not.mp (mt hquota.mpr hexceeded)]
    | grantRevoked | profileChanged | maintenance => simp
    | grantExpiring | renewalPaused | policyChanged | grantRestored => simp
  · have houtside : event.accountSlotId.any (fun scope => scope.bytes ≠ account.bytes) = true := by
      rw [← Bool.not_eq_false]
      exact mt inScope_iff.mp hscope
    rw [if_pos houtside]
    simp [hscope]

/-- A frame whose event says that only Public is granted from now on. -/
def publicFrame (kind : Int) : Proto.InnerFrame where
  contract := UInt32.ofNat currentInnerContract
  body := some (.watchEvent
    { cursor := 1, kind := kind, occurredAtMs := 1, accountSlotId := [], reasonCode := 1
      payload := [],
      grant := some
        { grantClass := 1, maxFullAccounts := 0, maxActiveInstallations := 0, expiresAtMs := 2
          renewalState := 1, policyEpoch := 1 } })

def publicEvent (kind : WatchEventKind) : WatchEvent where
  cursor := 1
  kind := kind
  occurredAtMs := 1
  accountSlotId := none
  reasonCode := 1
  payload := []
  grant := some
    { grantClass := .«public», maxFullAccounts := 0, maxActiveInstallations := 0
      expiresAtMs := 2, renewalState := .current, policyEpoch := 1 }

/-- A plan that runs one Full account. -/
def oneFull : GrantPlan where
  assignments := [(⟨List.replicate 16 1, ones_length⟩, .full)]
  keys_nodup := by decide

theorem blank_length : (List.replicate 32 (0 : UInt8)).length = 32 := List.length_replicate

/-- A digest that no watch event is checked with. -/
def blankDigest : Sha256 := fun _ => ⟨List.replicate 32 0, blank_length⟩

theorem publicFrame_decodes :
    decodeWatchResponse blankDigest (publicFrame 4) 0 = .ok (.event (publicEvent .quotaChanged)) :=
  rfl

theorem classify_iff_quotaChanged :
    (∃ reason, classify (publicEvent .quotaChanged) ⟨List.replicate 16 1, rfl⟩ oneFull =
        .protect reason) ↔
      InScope (publicEvent .quotaChanged) ⟨List.replicate 16 1, rfl⟩ ∧
        Protective (publicEvent .quotaChanged) oneFull :=
  classify_iff publicFrame_decodes oneFull _

/-- A policy change to Public is accepted, and leaves a planned Full account running. -/
theorem policy_change_continues :
    ∃ planned account event,
      planAccountGrants [⟨account, .requireGrant⟩] .unboundedFull = .ok planned ∧
      decodeWatchResponse blankDigest (publicFrame 5) 0 = .ok (.event event) ∧
      planned.plan.assignedRealm account = some .full ∧ InScope event account ∧
      (∃ grant ∈ event.grant, ¬ Covers grant planned.plan) ∧
      classify event account planned.plan = .«continue» := by
  refine ⟨⟨oneFull, []⟩, ⟨List.replicate 16 1, rfl⟩, publicEvent .policyChanged, rfl, rfl,
    by decide, ?_, ?_, by decide⟩
  · intro scope hscope
    exact nomatch hscope
  · refine ⟨_, rfl, ?_⟩
    intro hcovers
    exact absurd (hcovers 0 rfl) (by decide)

end Daemon
end Lirvena
