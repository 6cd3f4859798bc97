import Lirvena.Lib.Result
import Mathlib.Data.List.Nodup

/-!
# The push plan

A signed profile maps each admitted push route to one compiled behavior, with a
bound on the body and the route of the answer.  An entry and a plan carry their
validity as a field.
-/

namespace Lirvena
namespace Online

open Lib

def maxEntries : Nat := 32

def maxRouteLen : Nat := 128

def maxPushBodyLen : Nat := 4 * 1024 * 1024

/-- Closed compiled behavior selected for one push route. -/
inductive PushBehavior where
  | echoBody
  | protobufPairAck
  | configAck
  | observe
  | protectiveOffline
  | message
  | legacyVideoAck
  | infoSyncState
  deriving DecidableEq

def PushBehavior.needsResponseRoute : PushBehavior → Bool
  | .echoBody | .protobufPairAck | .configAck | .legacyVideoAck => true
  | .observe | .protectiveOffline | .message | .infoSyncState => false

/-- Rejected signed-profile push plan. -/
inductive PushPlanError where
  | rejected
  deriving DecidableEq

/-- Printable ASCII without blanks. -/
def validRoute (value : String) : Bool :=
  value ≠ "" && value.utf8ByteSize ≤ maxRouteLen &&
    value.toList.all (fun char => 0x21 ≤ char.toNat && char.toNat ≤ 0x7e)

structure PushPlanEntrySpec where
  route : String
  behavior : PushBehavior
  responseRoute : Option String
  parameter : UInt32
  maximumBodyLen : Nat
  deriving DecidableEq

def PushPlanEntrySpec.validate (spec : PushPlanEntrySpec) : Bool :=
  validRoute spec.route && spec.responseRoute.all validRoute &&
    spec.behavior.needsResponseRoute == spec.responseRoute.isSome &&
    decide (spec.behavior = .protobufPairAck) == decide (spec.parameter ≠ 0) &&
    spec.maximumBodyLen ≠ 0 && spec.maximumBodyLen ≤ maxPushBodyLen

/-- One validated route-to-primitive mapping. -/
structure PushPlanEntry extends PushPlanEntrySpec where
  valid : toPushPlanEntrySpec.validate = true
  deriving DecidableEq

def PushPlanEntry.new (spec : PushPlanEntrySpec) : Except PushPlanError PushPlanEntry :=
  if hvalid : spec.validate = true then .ok ⟨spec, hvalid⟩ else .error .rejected

/-- The loop over the entries: `routes` holds the routes before the current one. -/
def uniqueRoutes (routes : List String) : List PushPlanEntry → Bool
  | [] => true
  | entry :: rest => entry.route ∉ routes && uniqueRoutes (entry.route :: routes) rest

def validateEntries (entries : List PushPlanEntry) : Bool :=
  entries ≠ [] && entries.length ≤ maxEntries && uniqueRoutes [] entries

/-- Validated push admission and behavior plan. -/
structure PushPlan where
  entries : List PushPlanEntry
  valid : validateEntries entries = true

def PushPlan.new (entries : List PushPlanEntry) : Except PushPlanError PushPlan :=
  if hvalid : validateEntries entries = true then .ok ⟨entries, hvalid⟩ else .error .rejected

/-- Finds the primitive mapping for one authenticated route. -/
def PushPlan.find (plan : PushPlan) (route : String) : Option PushPlanEntry :=
  plan.entries.find? (fun entry => entry.route = route)

theorem uniqueRoutes_iff {routes : List String} {entries : List PushPlanEntry} :
    uniqueRoutes routes entries = true ↔
      (entries.map (fun entry => entry.route)).Nodup ∧
        ∀ entry ∈ entries, entry.route ∉ routes := by
  induction entries generalizing routes with
  | nil => simp [uniqueRoutes]
  | cons entry rest ih =>
      have htail : uniqueRoutes (entry.route :: routes) rest = true ↔ _ := ih
      simp only [uniqueRoutes, Bool.and_eq_true, decide_eq_true_eq, htail, List.map_cons,
        List.nodup_cons, List.mem_map, List.mem_cons, not_or, forall_eq_or_imp]
      constructor
      · rintro ⟨hfresh, hnodup, hrest⟩
        refine ⟨⟨?_, hnodup⟩, hfresh, fun other hother => (hrest other hother).2⟩
        rintro ⟨other, hother, hroute⟩
        exact (hrest other hother).1 hroute
      · rintro ⟨⟨hentry, hnodup⟩, hfresh, hrest⟩
        refine ⟨hfresh, hnodup, fun other hother => ⟨?_, hrest other hother⟩⟩
        intro hroute
        exact hentry ⟨other, hother, hroute⟩

/-- An entry of the plan is the one found under its route. -/
theorem PushPlan.find_eq_some_iff (plan : PushPlan) {route : String}
    {entry : PushPlanEntry} :
    plan.find route = some entry ↔ entry ∈ plan.entries ∧ entry.route = route := by
  have hvalid := plan.valid
  simp only [validateEntries, Bool.and_eq_true] at hvalid
  have hnodup := (uniqueRoutes_iff.mp hvalid.2).1
  unfold find
  constructor
  · intro hfind
    exact ⟨List.mem_of_find?_eq_some hfind, by simpa using List.find?_some hfind⟩
  · rintro ⟨hmem, rfl⟩
    cases hfind : plan.entries.find? (fun other => other.route = entry.route) with
    | none =>
        have hnone := List.find?_eq_none.mp hfind entry hmem
        simp at hnone
    | some other =>
        have hroute : other.route = entry.route := by simpa using List.find?_some hfind
        rw [List.inj_on_of_nodup_map hnodup (List.mem_of_find?_eq_some hfind) hmem hroute]

end Online
end Lirvena
