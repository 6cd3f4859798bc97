import Lirvena.Daemon.GrantPlanner
import Lirvena.Lib.Distinct

/-!
# What a grant plan promises

The planner decides about all accounts at once.  It refuses a list that names an account
twice; otherwise an error has every account that asked for what is not there, and a plan
gives every account the realm of its mode, whatever the order of the list.
-/

namespace Lirvena
namespace Daemon

open Lib Account

/-- The accounts of a list of requests. -/
def requestedAccounts (requests : List AccountGrantRequest) : List AccountLocalId :=
  requests.map AccountGrantRequest.localId

/-- The account asks for one of the modes. -/
def Asks (requests : List AccountGrantRequest) (wanted : AccountGrantMode → Prop)
    (account : AccountLocalId) : Prop :=
  ∃ request ∈ requests, request.localId = account ∧ wanted request.mode

/-- A plan against the requests that it is made for. -/
structure PlanLaw (requests : List AccountGrantRequest) (availability : GrantAvailability)
    (planned : PlannedGrants) : Prop where
  distinct : (requestedAccounts requests).Nodup
  /-- Each account has one realm; none has two, since a plan has distinct keys. -/
  assigned_iff : ∀ account, (∃ realm, planned.plan.assignedRealm account = some realm) ↔
    account ∈ requestedAccounts requests
  full_le : ∀ maxAccounts, availability = .boundedFull maxAccounts →
    planned.plan.protectiveOfflineOnRevocation.length ≤ maxAccounts.toNat
  full_none : availability = .publicOnly → planned.plan.protectiveOfflineOnRevocation = []
  public_kept : ∀ account, Asks requests (· = .«public») account →
    planned.plan.assignedRealm account = some .«public»
  required_full : ∀ account, Asks requests (· = .requireGrant) account →
    planned.plan.assignedRealm account = some .full
  /-- Among those that compete for Full there is no winner and no loser. -/
  alike : ∀ first second, Asks requests (· ≠ .«public») first →
    Asks requests (· ≠ .«public») second →
      planned.plan.assignedRealm first = planned.plan.assignedRealm second
  fallback_iff : ∀ account, account ∈ planned.publicFallbacks ↔
    availability = .publicOnly ∧ Asks requests (· = .allowPublicFallback) account

/-- An error against the requests, with the accounts that it has to name. -/
inductive ErrorLaw (requests : List AccountGrantRequest) (availability : GrantAvailability) :
    GrantPlanError → Prop where
  /-- The first account that is named again. -/
  | duplicate (front back : List AccountGrantRequest) (request : AccountGrantRequest)
      (hrequests : requests = front ++ request :: back)
      (hfront : (requestedAccounts front).Nodup)
      (hrepeated : request.localId ∈ requestedAccounts front) :
      ErrorLaw requests availability (.duplicateAccount request.localId)
  | required (accounts : List AccountLocalId) (hpublic : availability = .publicOnly)
      (hnonempty : accounts ≠ [])
      (hall : ∀ account, account ∈ accounts ↔ Asks requests (· = .requireGrant) account) :
      ErrorLaw requests availability (.grantRequired accounts)
  | quota (maxAccounts : UInt32) (accounts : List AccountLocalId)
      (hbounded : availability = .boundedFull maxAccounts) (hnodup : accounts.Nodup)
      (hexceeded : maxAccounts.toNat < accounts.length)
      (hall : ∀ account, account ∈ accounts ↔ Asks requests (· ≠ .«public») account) :
      ErrorLaw requests availability (.fullQuotaExceeded maxAccounts accounts)

/-- Two outcomes that agree as maps and sets. -/
inductive SameOutcome :
    Except GrantPlanError PlannedGrants → Except GrantPlanError PlannedGrants → Prop where
  | plan (first second : PlannedGrants)
      (hassigned : ∀ account, first.plan.assignedRealm account = second.plan.assignedRealm account)
      (hfallbacks : ∀ account, account ∈ first.publicFallbacks ↔
        account ∈ second.publicFallbacks) :
      SameOutcome (.ok first) (.ok second)
  | required (first second : List AccountLocalId)
      (hsame : ∀ account, account ∈ first ↔ account ∈ second) :
      SameOutcome (.error (.grantRequired first)) (.error (.grantRequired second))
  | quota (limit : UInt32) (first second : List AccountLocalId)
      (hsame : ∀ account, account ∈ first ↔ account ∈ second) :
      SameOutcome (.error (.fullQuotaExceeded limit first))
        (.error (.fullQuotaExceeded limit second))

/-- The planner over all of its inputs. -/
structure PlannerLaw (requests : List AccountGrantRequest) (availability : GrantAvailability) :
    Prop where
  failed : ∀ error, planAccountGrants requests availability = .error error →
    ErrorLaw requests availability error
  planned : ∀ planned, planAccountGrants requests availability = .ok planned →
    PlanLaw requests availability planned
  order_irrelevant : ∀ other, requests.Perm other → (requestedAccounts requests).Nodup →
    SameOutcome (planAccountGrants requests availability) (planAccountGrants other availability)

/-! ## The pieces of a plan -/

theorem mem_accountsWith {requests : UniqueRequests} {wanted : AccountGrantMode → Bool}
    {account : AccountLocalId} :
    account ∈ accountsWith requests wanted ↔ Asks requests.val (wanted · = true) account := by
  simp only [accountsWith, List.mem_map, List.mem_filter, Asks]
  exact exists_congr fun request => by tauto

theorem accountsWith_nodup (requests : UniqueRequests) (wanted : AccountGrantMode → Bool) :
    (accountsWith requests wanted).Nodup :=
  requests.property.sublist (List.filter_sublist.map _)

theorem planWith_assignedRealm {requests : UniqueRequests}
    {realm : AccountGrantMode → AssignedRealm}
    {account : AccountLocalId} {assigned : AssignedRealm} :
    (planWith requests realm).assignedRealm account = some assigned ↔
      Asks requests.val (realm · = assigned) account := by
  rw [GrantPlan.assignedRealm, lookup_eq_some_iff_mem (planWith requests realm).keys_nodup]
  simp only [planWith, List.mem_map, Prod.mk.injEq, Asks]

/-- The walk over the requests ends with all of them or at the first account named again. -/
theorem collectUnique_cases (unique : UniqueRequests) (requests : List AccountGrantRequest) :
    (∃ result, collectUnique unique requests = .ok result ∧
        result.val = unique.val ++ requests) ∨
      ∃ front request back, requests = front ++ request :: back ∧
        collectUnique unique requests = .error (.duplicateAccount request.localId) ∧
        (requestedAccounts (unique.val ++ front)).Nodup ∧
        request.localId ∈ requestedAccounts (unique.val ++ front) := by
  induction requests generalizing unique with
  | nil => exact .inl ⟨unique, rfl, (List.append_nil _).symm⟩
  | cons request rest ih =>
      unfold collectUnique
      split
      · next hrepeated =>
          refine .inr ⟨[], request, rest, rfl, rfl, ?_⟩
          rw [List.append_nil]
          exact ⟨unique.property, hrepeated⟩
      · rcases ih _ with ⟨result, hresult, hval⟩ | ⟨front, again, back, hrest, herror, hfront⟩
        · exact .inl ⟨result, hresult, hval.trans (List.append_assoc _ _ _)⟩
        · rw [List.append_assoc] at hfront
          exact .inr ⟨request :: front, again, back, by rw [hrest]; rfl, herror, hfront⟩

theorem collectUnique_of_nodup {requests : List AccountGrantRequest}
    (hnodup : (requestedAccounts requests).Nodup) :
    collectUnique ⟨[], List.nodup_nil⟩ requests = .ok ⟨requests, hnodup⟩ := by
  rcases collectUnique_cases ⟨[], List.nodup_nil⟩ requests with
    ⟨result, hresult, hval⟩ | ⟨front, request, back, hrequests, -, -, hrepeated⟩
  · rw [hresult, Except.ok.injEq]
    exact Subtype.ext hval
  · -- the account would stand in the list twice
    rw [hrequests, requestedAccounts, List.map_append, List.nodup_append] at hnodup
    exact absurd rfl (hnodup.2.2 _ hrepeated _ List.mem_cons_self)

/-- What the planner makes of distinct requests. -/
theorem planAccountGrants_of_nodup {requests : List AccountGrantRequest}
    (hnodup : (requestedAccounts requests).Nodup) (availability : GrantAvailability) :
    planAccountGrants requests availability =
      match availability with
      | .publicOnly => planPublicOnly ⟨requests, hnodup⟩
      | .boundedFull maxAccounts =>
          if maxAccounts.toNat < (accountsWith ⟨requests, hnodup⟩ (· ≠ .«public»)).length then
            .error (.fullQuotaExceeded maxAccounts
              (accountsWith ⟨requests, hnodup⟩ (· ≠ .«public»)))
          else .ok (planWithFull ⟨requests, hnodup⟩)
      | .unboundedFull => .ok (planWithFull ⟨requests, hnodup⟩) := by
  rw [planAccountGrants, collectUnique_of_nodup hnodup]
  rfl

theorem mem_requestedAccounts {requests : List AccountGrantRequest} {account : AccountLocalId} :
    account ∈ requestedAccounts requests ↔ Asks requests (fun _ => True) account := by
  simp [requestedAccounts, Asks]

theorem Asks.imp {requests : List AccountGrantRequest} {first second : AccountGrantMode → Prop}
    {account : AccountLocalId} (hfirst : Asks requests first account)
    (himplies : ∀ mode, first mode → second mode) : Asks requests second account := by
  obtain ⟨request, hmem, haccount, hmode⟩ := hfirst
  exact ⟨request, hmem, haccount, himplies request.mode hmode⟩

/-! ## Plans and errors -/

section Distinct

variable {requests : List AccountGrantRequest} (hnodup : (requestedAccounts requests).Nodup)

theorem planWith_assigned_iff (realm : AccountGrantMode → AssignedRealm)
    (account : AccountLocalId) :
    (∃ assigned, (planWith ⟨requests, hnodup⟩ realm).assignedRealm account = some assigned) ↔
      account ∈ requestedAccounts requests := by
  simp only [planWith_assignedRealm, mem_requestedAccounts]
  constructor
  · rintro ⟨assigned, hasks⟩
    exact hasks.imp fun _ _ => trivial
  · rintro ⟨request, hmem, haccount, -⟩
    exact ⟨realm request.mode, request, hmem, haccount, rfl⟩

theorem planWith_of_asks {realm : AccountGrantMode → AssignedRealm}
    {wanted : AccountGrantMode → Prop} {assigned : AssignedRealm}
    (hrealm : ∀ mode, wanted mode → realm mode = assigned) {account : AccountLocalId}
    (hasks : Asks requests wanted account) :
    (planWith ⟨requests, hnodup⟩ realm).assignedRealm account = some assigned :=
  planWith_assignedRealm.mpr (hasks.imp hrealm)

theorem fullRealm_of_ne_public {mode : AccountGrantMode} (hmode : mode ≠ .«public») :
    fullRealm mode = .full := by
  cases mode with
  | «public» => exact absurd rfl hmode
  | _ => rfl

/-- Where Full is available, every account has the realm of its mode. -/
theorem planWithFull_law {availability : GrantAvailability} (hfull : availability ≠ .publicOnly)
    (hquota : ∀ maxAccounts, availability = .boundedFull maxAccounts →
      (planWithFull ⟨requests, hnodup⟩).plan.protectiveOfflineOnRevocation.length ≤
        maxAccounts.toNat) :
    PlanLaw requests availability (planWithFull ⟨requests, hnodup⟩) where
  distinct := hnodup
  assigned_iff := planWith_assigned_iff hnodup fullRealm
  full_le := hquota
  full_none := fun hpublic => absurd hpublic hfull
  public_kept := fun account hasks =>
    planWith_of_asks hnodup (fun mode hmode => by rw [hmode]; rfl) hasks
  required_full := fun account hasks =>
    planWith_of_asks hnodup (fun mode hmode => by rw [hmode]; rfl) hasks
  alike := by
    intro first second hfirst hsecond
    have hrealm : ∀ account, Asks requests (· ≠ .«public») account →
        (planWith ⟨requests, hnodup⟩ fullRealm).assignedRealm account = some .full :=
      fun account hasks => planWith_of_asks hnodup (fun _ => fullRealm_of_ne_public) hasks
    exact (hrealm first hfirst).trans (hrealm second hsecond).symm
  fallback_iff := by
    intro account
    simp [planWithFull, hfull]

/-- Where only Public is there and no account insists on more, all have Public. -/
theorem planPublicOnly_law
    (hnone : accountsWith ⟨requests, hnodup⟩ (· = .requireGrant) = []) :
    PlanLaw requests .publicOnly
      ⟨planWith ⟨requests, hnodup⟩ fun _ => .«public»,
        accountsWith ⟨requests, hnodup⟩ (· = .allowPublicFallback)⟩ where
  distinct := hnodup
  assigned_iff := planWith_assigned_iff hnodup _
  full_le := fun _ hbounded => nomatch hbounded
  full_none := fun _ => by simp [planWith_full, accountsWith]
  public_kept := fun account hasks => planWith_of_asks hnodup (fun _ _ => rfl) hasks
  required_full := by
    intro account hasks
    have hmem : account ∈ accountsWith ⟨requests, hnodup⟩ (· = .requireGrant) :=
      mem_accountsWith.mpr (hasks.imp fun _ hmode => decide_eq_true hmode)
    rw [hnone] at hmem
    exact absurd hmem List.not_mem_nil
  alike := by
    intro first second hfirst hsecond
    have hrealm : ∀ account, Asks requests (· ≠ .«public») account →
        (planWith ⟨requests, hnodup⟩ fun _ => .«public»).assignedRealm account =
          some .«public» :=
      fun account hasks => planWith_of_asks hnodup (fun _ _ => rfl) hasks
    exact (hrealm first hfirst).trans (hrealm second hsecond).symm
  fallback_iff := by
    intro account
    simp [mem_accountsWith]

end Distinct

theorem planAccountGrants_planned {requests : List AccountGrantRequest}
    {availability : GrantAvailability} {planned : PlannedGrants}
    (hplan : planAccountGrants requests availability = .ok planned) :
    PlanLaw requests availability planned := by
  have hbound := planned_full_le hplan
  obtain ⟨unique, hunique, -⟩ := bind_eq_ok_iff.mp hplan
  rcases collectUnique_cases ⟨[], List.nodup_nil⟩ requests with
    ⟨result, hresult, hval⟩ | ⟨front, request, back, -, herror, -⟩
  · have hnodup : (requestedAccounts requests).Nodup := by
      have hsame : result.val = requests := hval
      exact hsame ▸ result.property
    rw [planAccountGrants_of_nodup hnodup] at hplan
    cases availability with
    | publicOnly =>
        dsimp only [planPublicOnly] at hplan
        split at hplan
        · cases hplan
        · next hnone =>
            cases hplan
            exact planPublicOnly_law hnodup (not_not.mp hnone)
    | boundedFull maxAccounts =>
        dsimp only at hplan
        split at hplan
        · cases hplan
        · cases hplan
          refine planWithFull_law hnodup (by simp) ?_
          rintro _ ⟨⟩
          exact hbound
    | unboundedFull =>
        cases hplan
        exact planWithFull_law hnodup (by simp) (by simp)
  · rw [herror] at hunique
    cases hunique

theorem planAccountGrants_failed {requests : List AccountGrantRequest}
    {availability : GrantAvailability} {error : GrantPlanError}
    (hplan : planAccountGrants requests availability = .error error) :
    ErrorLaw requests availability error := by
  rcases collectUnique_cases ⟨[], List.nodup_nil⟩ requests with
    ⟨result, -, hval⟩ | ⟨front, request, back, hrequests, herror, hfront, hrepeated⟩
  · have hnodup : (requestedAccounts requests).Nodup := by
      have hsame : result.val = requests := hval
      exact hsame ▸ result.property
    rw [planAccountGrants_of_nodup hnodup] at hplan
    cases availability with
    | publicOnly =>
        dsimp only [planPublicOnly] at hplan
        split at hplan
        · next hsome =>
            cases hplan
            exact .required _ rfl hsome fun account => by simp [mem_accountsWith]
        · cases hplan
    | boundedFull maxAccounts =>
        dsimp only at hplan
        split at hplan
        · next hexceeded =>
            cases hplan
            exact .quota maxAccounts _ rfl (accountsWith_nodup _ _) hexceeded
              fun account => by simp [mem_accountsWith]
        · cases hplan
    | unboundedFull => cases hplan
  · unfold planAccountGrants at hplan
    rw [herror] at hplan
    cases hplan
    exact .duplicate front back request hrequests hfront hrepeated

/-! ## The order of the requests -/

theorem asks_perm {requests other : List AccountGrantRequest} (hperm : requests.Perm other)
    (wanted : AccountGrantMode → Prop) (account : AccountLocalId) :
    Asks requests wanted account ↔ Asks other wanted account := by
  simp only [Asks, hperm.mem_iff]

section Order

variable {requests other : List AccountGrantRequest} (hperm : requests.Perm other)
  (hnodup : (requestedAccounts requests).Nodup) (hother : (requestedAccounts other).Nodup)

include hperm hnodup hother

theorem accountsWith_perm (wanted : AccountGrantMode → Bool) :
    (accountsWith ⟨requests, hnodup⟩ wanted).Perm (accountsWith ⟨other, hother⟩ wanted) :=
  (hperm.filter _).map _

theorem planWith_perm (realm : AccountGrantMode → AssignedRealm) (account : AccountLocalId) :
    (planWith ⟨requests, hnodup⟩ realm).assignedRealm account =
      (planWith ⟨other, hother⟩ realm).assignedRealm account := by
  apply Option.ext
  intro assigned
  rw [planWith_assignedRealm, planWith_assignedRealm]
  exact asks_perm hperm _ account

theorem planWithFull_perm :
    SameOutcome (.ok (planWithFull ⟨requests, hnodup⟩)) (.ok (planWithFull ⟨other, hother⟩)) :=
  .plan _ _ (planWith_perm hperm hnodup hother fullRealm) fun _ => Iff.rfl

theorem planPublicOnly_perm :
    SameOutcome (planPublicOnly ⟨requests, hnodup⟩) (planPublicOnly ⟨other, hother⟩) := by
  have hrequired := accountsWith_perm hperm hnodup hother (· = .requireGrant)
  unfold planPublicOnly
  dsimp only
  by_cases hnone : accountsWith ⟨requests, hnodup⟩ (· = .requireGrant) = []
  · have hotherNone : accountsWith ⟨other, hother⟩ (· = .requireGrant) = [] := by
      rw [hnone] at hrequired
      exact hrequired.nil_eq.symm
    rw [if_neg (not_not.mpr hnone), if_neg (not_not.mpr hotherNone)]
    have hfallbacks := accountsWith_perm hperm hnodup hother (· = .allowPublicFallback)
    exact .plan _ _ (planWith_perm hperm hnodup hother _) fun account => hfallbacks.mem_iff
  · have hotherSome : accountsWith ⟨other, hother⟩ (· = .requireGrant) ≠ [] := by
      intro hempty
      rw [hempty] at hrequired
      exact hnone hrequired.eq_nil
    rw [if_pos hnone, if_pos hotherSome]
    exact .required _ _ fun account => hrequired.mem_iff

theorem planAccountGrants_perm (availability : GrantAvailability) :
    SameOutcome (planAccountGrants requests availability)
      (planAccountGrants other availability) := by
  rw [planAccountGrants_of_nodup hnodup, planAccountGrants_of_nodup hother]
  cases availability with
  | publicOnly => exact planPublicOnly_perm hperm hnodup hother
  | boundedFull maxAccounts =>
      have hcandidates := accountsWith_perm hperm hnodup hother (· ≠ .«public»)
      dsimp only
      rw [hcandidates.length_eq]
      split
      · exact .quota _ _ _ fun account => hcandidates.mem_iff
      · exact planWithFull_perm hperm hnodup hother
  | unboundedFull => exact planWithFull_perm hperm hnodup hother

end Order

/-- Whatever is requested and whatever there is: an error names the first account that is
listed again, or every account that asks for what is not there; a plan gives each account
one realm, runs no more Full accounts than the limit, treats all that compete for Full
alike and falls back only where there is Public alone; and the order of distinct accounts
does not matter. -/
theorem planner_law (requests : List AccountGrantRequest) (availability : GrantAvailability) :
    PlannerLaw requests availability where
  failed := fun _ hplan => planAccountGrants_failed hplan
  planned := fun _ hplan => planAccountGrants_planned hplan
  order_irrelevant := by
    intro other hperm hnodup
    have hother : (requestedAccounts other).Nodup := (hperm.map _).nodup_iff.mp hnodup
    exact planAccountGrants_perm hperm hnodup hother availability

def twiceRequested (marker : UInt8) : AccountGrantRequest where
  localId := ⟨List.replicate 16 marker, by simp⟩
  mode := .requireGrant

def twiceRequests : List AccountGrantRequest :=
  [twiceRequested 1, twiceRequested 1, twiceRequested 2, twiceRequested 2]

/-- Two accounts are listed twice, and the error names one of them. -/
theorem second_duplicate_unnamed :
    planAccountGrants twiceRequests .unboundedFull =
        .error (.duplicateAccount (twiceRequested 1).localId) ∧
      (requestedAccounts twiceRequests).count (twiceRequested 2).localId = 2 ∧
      (twiceRequested 1).localId ≠ (twiceRequested 2).localId :=
  ⟨by rfl, by decide, by decide⟩

end Daemon
end Lirvena
