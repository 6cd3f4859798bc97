import Lirvena.OneBot.Coordinate

/-!
# Runs of the OneBot coordinator

In a run whose steps are all unambiguous the identities table holds what the accounts
announced, no number twice, and the routes are the handles of these accounts.  A step
that is ambiguous ends the coordinator, or leaves a route behind that no account has.
-/

namespace Lirvena
namespace OneBot

open Lib Account Lirvena.Runtime

variable {Handle Notice : Type*}

/-! ## What was announced -/

/-- The numbers that the accounts have, after one more input. -/
def hear (numbers : AccountLocalId → Option UInt64) :
    CoordinatorInput Notice → AccountLocalId → Option UInt64
  | .received (.ok (.identityReady localId identity)) =>
      Function.update numbers localId (some identity.qqId)
  | .received (.ok (.lifecycle localId phase _ _)) =>
      if takesOff phase then Function.update numbers localId none else numbers
  | _ => numbers

/-- The number that an account has announced and not since given up. -/
def announced (history : List (CoordinatorInput Notice)) : AccountLocalId → Option UInt64 :=
  history.foldl hear fun _ => none

/-- The routes are the numbers in the identities table, each reaches the account that
announced it, and the table holds what the accounts announced. -/
structure Routed (config : CoordinatorConfig Handle Notice)
    (numbers : AccountLocalId → Option UInt64) (coordinator : Coordinator Handle) : Prop where
  routes_exact : ∀ selfId, selfId ∈ coordinator.routes ↔
    ∃ localId, coordinator.identities.lookup localId = some selfId
  route_reaches : ∀ localId selfId, numbers localId = some selfId →
    select coordinator.routes (some selfId) = config.actions localId
  identities_eq : ∀ localId, coordinator.identities.lookup localId = numbers localId

/-- The coordinator has not failed, and routes as the accounts announced until it is
shut down. -/
structure Sound (config : CoordinatorConfig Handle Notice)
    (history : List (CoordinatorInput Notice)) (coordinator : Coordinator Handle) : Prop where
  survives : ∀ error, coordinator.ended ≠ some (.error error)
  routed : coordinator.ended = none → Routed config (announced history) coordinator

/-- An input that the coordinator can take: an event that was not lost, and an announcement
by a configured account that has no number, of a number that no account has. -/
def Unambiguous (config : CoordinatorConfig Handle Notice) (coordinator : Coordinator Handle) :
    CoordinatorInput Notice → Prop
  | .received (.error _) => False
  | .received (.ok (.identityReady localId identity)) =>
      config.actions localId ≠ none ∧ localId ∉ coordinator.identities ∧
        identity.qqId ∉ coordinator.routes
  | .received (.ok _) => True
  | .heartbeat clock => ∀ localId ∈ coordinator.identities, clock localId ≠ none
  | .shutdownChanged _ => True

/-- The guard of a run: every input that finds the coordinator running is unambiguous. -/
def Guard (config : CoordinatorConfig Handle Notice) (coordinator : Coordinator Handle)
    (input : CoordinatorInput Notice) : Prop :=
  coordinator.ended = none → Unambiguous config coordinator input

/-- What guarded runs keep: besides the routes, no number belongs to two accounts. -/
structure Agree (config : CoordinatorConfig Handle Notice)
    (numbers : AccountLocalId → Option UInt64) (coordinator : Coordinator Handle) : Prop
    extends Routed config numbers coordinator where
  injective : ∀ first second selfId, numbers first = some selfId →
    numbers second = some selfId → first = second

structure Kept (config : CoordinatorConfig Handle Notice)
    (history : List (CoordinatorInput Notice)) (coordinator : Coordinator Handle) : Prop where
  survives : ∀ error, coordinator.ended ≠ some (.error error)
  agree : coordinator.ended = none → Agree config (announced history) coordinator

/-! ## One step -/

@[simp] theorem announced_append (history : List (CoordinatorInput Notice))
    (input : CoordinatorInput Notice) :
    announced (history ++ [input]) = hear (announced history) input := by
  simp [announced]

theorem register_ok {routes : Routes Handle} {selfId : UInt64} {handle : Handle}
    (hnonzero : selfId ≠ 0) (hfree : selfId ∉ routes) :
    register routes selfId handle = .ok (routes.insert selfId handle) := by
  simp [register, hnonzero, hfree]

theorem AccountIdentity.qqId_ne_zero (identity : AccountIdentity) : identity.qqId ≠ 0 := by
  have hvalid := identity.valid
  unfold validIdentity at hvalid
  simp only [Bool.and_eq_true, decide_eq_true_eq] at hvalid
  exact hvalid.1.1.1

/-- The announcement of a free number by a configured account without one. -/
theorem announce_identity {config : CoordinatorConfig Handle Notice}
    {coordinator : Coordinator Handle} {localId : AccountLocalId} {identity : AccountIdentity}
    {handle : Handle} (hhandle : config.actions localId = some handle)
    (hfree : identity.qqId ∉ coordinator.routes) :
    coordinator.announce config (.identityReady localId identity) =
      .ok { coordinator with
        routes := coordinator.routes.insert identity.qqId handle
        identities := coordinator.identities.insert localId identity.qqId } := by
  simp [Coordinator.announce, hhandle, register_ok identity.qqId_ne_zero hfree]

theorem Kept.sound {config : CoordinatorConfig Handle Notice}
    {history : List (CoordinatorInput Notice)} {coordinator : Coordinator Handle}
    (hkept : Kept config history coordinator) : Sound config history coordinator where
  survives := hkept.survives
  routed := fun hrunning => (hkept.agree hrunning).toRouted

/-- A number that no account has is not routed. -/
theorem Agree.not_mem_routes_iff {config : CoordinatorConfig Handle Notice}
    {numbers : AccountLocalId → Option UInt64} {coordinator : Coordinator Handle}
    (hagree : Agree config numbers coordinator) {selfId : UInt64} :
    selfId ∉ coordinator.routes ↔ ∀ localId, numbers localId ≠ some selfId := by
  rw [hagree.routes_exact]
  simp only [hagree.identities_eq, not_exists, ne_eq]

theorem Agree.insert {config : CoordinatorConfig Handle Notice}
    {numbers : AccountLocalId → Option UInt64} {coordinator : Coordinator Handle}
    (hagree : Agree config numbers coordinator) {localId : AccountLocalId} {selfId : UInt64}
    {handle : Handle} (hhandle : config.actions localId = some handle)
    (hnew : localId ∉ coordinator.identities) (hfree : selfId ∉ coordinator.routes) :
    Agree config (Function.update numbers localId (some selfId)) { coordinator with
      routes := coordinator.routes.insert selfId handle
      identities := coordinator.identities.insert localId selfId } := by
  have hunused := hagree.not_mem_routes_iff.mp hfree
  have hnone : numbers localId = none := by
    rw [← hagree.identities_eq]
    exact AList.lookup_eq_none.mpr hnew
  have hidentities : ∀ other,
      (coordinator.identities.insert localId selfId).lookup other =
        Function.update numbers localId (some selfId) other := by
    intro other
    by_cases hsame : other = localId
    · subst hsame
      rw [AList.lookup_insert, Function.update_self]
    · rw [AList.lookup_insert_ne hsame, Function.update_of_ne hsame, hagree.identities_eq]
  constructor
  · constructor
    · intro number
      simp only [AList.mem_insert, hidentities]
      constructor
      · rintro (rfl | hmem)
        · exact ⟨localId, Function.update_self ..⟩
        · obtain ⟨owner, howner⟩ := (hagree.routes_exact number).mp hmem
          rw [hagree.identities_eq] at howner
          have hother : owner ≠ localId := by
            rintro rfl
            exact nomatch hnone.symm.trans howner
          exact ⟨owner, by rw [Function.update_of_ne hother, howner]⟩
      · rintro ⟨owner, howner⟩
        by_cases hsame : owner = localId
        · subst hsame
          rw [Function.update_self] at howner
          exact .inl (Option.some.inj howner).symm
        · rw [Function.update_of_ne hsame, ← hagree.identities_eq] at howner
          exact .inr ((hagree.routes_exact number).mpr ⟨owner, howner⟩)
    · intro owner number howner
      by_cases hsame : owner = localId
      · subst hsame
        rw [Function.update_self] at howner
        cases howner
        rw [select, AList.lookup_insert, hhandle]
      · rw [Function.update_of_ne hsame] at howner
        have hother : number ≠ selfId := by
          rintro rfl
          exact hunused owner howner
        rw [select, AList.lookup_insert_ne hother]
        exact hagree.route_reaches owner number howner
    · exact hidentities
  · intro first second number hfirst hsecond
    by_cases hone : first = localId
    · by_cases htwo : second = localId
      · exact hone.trans htwo.symm
      · subst hone
        rw [Function.update_self] at hfirst
        rw [Function.update_of_ne htwo, ← hfirst] at hsecond
        exact absurd hsecond (hunused second)
    · by_cases htwo : second = localId
      · subst htwo
        rw [Function.update_self] at hsecond
        rw [Function.update_of_ne hone, ← hsecond] at hfirst
        exact absurd hfirst (hunused first)
      · rw [Function.update_of_ne hone] at hfirst
        rw [Function.update_of_ne htwo] at hsecond
        exact hagree.injective first second number hfirst hsecond

theorem Agree.erase {config : CoordinatorConfig Handle Notice}
    {numbers : AccountLocalId → Option UInt64} {coordinator : Coordinator Handle}
    (hagree : Agree config numbers coordinator) {localId : AccountLocalId} {selfId : UInt64}
    (hlookup : coordinator.identities.lookup localId = some selfId) :
    Agree config (Function.update numbers localId none) { coordinator with
      identities := coordinator.identities.erase localId
      routes := unregister coordinator.routes selfId } := by
  have howned : numbers localId = some selfId := by rw [← hagree.identities_eq, hlookup]
  have hidentities : ∀ other, (coordinator.identities.erase localId).lookup other =
      Function.update numbers localId none other := by
    intro other
    by_cases hsame : other = localId
    · subst hsame
      rw [AList.lookup_erase, Function.update_self]
    · rw [AList.lookup_erase_ne hsame, Function.update_of_ne hsame, hagree.identities_eq]
  -- A number that is left belongs to another account, so it is another number.
  have hleft : ∀ owner number, Function.update numbers localId none owner = some number →
      numbers owner = some number ∧ number ≠ selfId := by
    intro owner number howner
    have hother : owner ≠ localId := by
      rintro rfl
      rw [Function.update_self] at howner
      exact nomatch howner
    rw [Function.update_of_ne hother] at howner
    refine ⟨howner, ?_⟩
    rintro rfl
    exact hother (hagree.injective owner localId number howner howned)
  constructor
  · constructor
    · intro number
      simp only [unregister, AList.mem_erase, hidentities]
      constructor
      · rintro ⟨hdifferent, hmem⟩
        obtain ⟨owner, howner⟩ := (hagree.routes_exact number).mp hmem
        rw [hagree.identities_eq] at howner
        have hother : owner ≠ localId := by
          rintro rfl
          exact hdifferent (Option.some.inj (howner.symm.trans howned))
        exact ⟨owner, by rw [Function.update_of_ne hother, howner]⟩
      · rintro ⟨owner, howner⟩
        obtain ⟨hkept, hdifferent⟩ := hleft owner number howner
        rw [← hagree.identities_eq] at hkept
        exact ⟨hdifferent, (hagree.routes_exact number).mpr ⟨owner, hkept⟩⟩
    · intro owner number howner
      obtain ⟨hkept, hdifferent⟩ := hleft owner number howner
      rw [select, unregister, AList.lookup_erase_ne hdifferent]
      exact hagree.route_reaches owner number hkept
    · exact hidentities
  · intro first second number hfirst hsecond
    exact hagree.injective first second number (hleft first number hfirst).1
      (hleft second number hsecond).1

theorem withdraw_ended (coordinator : Coordinator Handle) (event : AccountEvent Notice) :
    (coordinator.withdraw event).ended = coordinator.ended := by
  unfold Coordinator.withdraw
  split
  · split
    · split <;> rfl
    · rfl
  · rfl

/-- An account that stops loses its number, if it has one. -/
theorem Agree.withdraw {config : CoordinatorConfig Handle Notice}
    {numbers : AccountLocalId → Option UInt64} {coordinator : Coordinator Handle}
    (hagree : Agree config numbers coordinator) (localId : AccountLocalId) (phase : AccountPhase)
    (reason : Option ProtectiveReason) (occurredAtMs : Nat) :
    Agree config (if takesOff phase then Function.update numbers localId none else numbers)
      (coordinator.withdraw
        (.lifecycle localId phase reason occurredAtMs : AccountEvent Notice)) := by
  unfold Coordinator.withdraw
  by_cases hoff : takesOff phase = true
  · simp only [hoff, if_true]
    cases hlookup : coordinator.identities.lookup localId with
    | some selfId => exact hagree.erase hlookup
    | none =>
        have hnone : numbers localId = none := by rw [← hagree.identities_eq, hlookup]
        have hsame : Function.update numbers localId none = numbers := by
          rw [← hnone, Function.update_eq_self]
        rw [hsame]
        exact hagree
  · simp only [hoff]
    exact hagree

theorem step_ended {config : CoordinatorConfig Handle Notice} {coordinator : Coordinator Handle}
    (hended : coordinator.ended ≠ none) (input : CoordinatorInput Notice) :
    ((coordinate config).step coordinator input).1 = coordinator := by
  simp [coordinate, Coordinator.step, Option.isSome_iff_ne_none.mpr hended]

theorem step_running {config : CoordinatorConfig Handle Notice} {coordinator : Coordinator Handle}
    (hrunning : coordinator.ended = none) (input : CoordinatorInput Notice) :
    (coordinate config).step coordinator input = coordinator.turn config input := by
  simp [coordinate, Coordinator.step, hrunning]

/-- An announcement that is unambiguous gives the account its number. -/
theorem turn_identityReady {config : CoordinatorConfig Handle Notice}
    {coordinator : Coordinator Handle} {localId : AccountLocalId} {identity : AccountIdentity}
    {handle : Handle} (hhandle : config.actions localId = some handle)
    (hfree : identity.qqId ∉ coordinator.routes) :
    (coordinator.turn config (.received (.ok (.identityReady localId identity)))).1 =
      { coordinator with
        routes := coordinator.routes.insert identity.qqId handle
        identities := coordinator.identities.insert localId identity.qqId } := by
  simp [Coordinator.turn, announce_identity hhandle hfree, Coordinator.withdraw]

/-- A heartbeat reaches all identities exactly if the clock is read for each. -/
theorem heartbeats_eq_ok_iff (config : CoordinatorConfig Handle Notice)
    (clock : AccountLocalId → Option Nat) (identities : List (Σ _ : AccountLocalId, UInt64)) :
    (heartbeats config clock identities).2 = .ok () ↔
      ∀ entry ∈ identities, clock entry.1 ≠ none := by
  induction identities with
  | nil => simp [heartbeats]
  | cons entry rest ih =>
      obtain ⟨localId, selfId⟩ := entry
      unfold heartbeats
      cases hclock : clock localId with
      | none => simp [hclock]
      | some nowSeconds => simp [hclock, ih]

theorem heartbeats_inOrder (config : CoordinatorConfig Handle Notice)
    (clock : AccountLocalId → Option Nat) (identities : Identities) :
    (heartbeats config clock identities.inOrder).2 = .ok () ↔
      ∀ localId ∈ identities, clock localId ≠ none := by
  rw [heartbeats_eq_ok_iff]
  simp only [Identities.inOrder, List.mem_insertionSort, AList.mem_keys, AList.keys,
    List.keys, List.mem_map, forall_exists_index, and_imp, forall_apply_eq_imp_iff₂]

/-- A coordinator that runs keeps its tables through an unambiguous input. -/
theorem Agree.turn {config : CoordinatorConfig Handle Notice}
    {numbers : AccountLocalId → Option UInt64} {coordinator : Coordinator Handle}
    (hagree : Agree config numbers coordinator) (hrunning : coordinator.ended = none)
    {input : CoordinatorInput Notice} (hclear : Unambiguous config coordinator input) :
    (∀ error, (coordinator.turn config input).1.ended ≠ some (.error error)) ∧
      Agree config (hear numbers input) (coordinator.turn config input).1 := by
  cases input with
  | received answer =>
      cases answer with
      | error error => exact hclear.elim
      | ok event =>
          cases event with
          | identityReady localId identity =>
              obtain ⟨hconfigured, hnew, hfree⟩ := hclear
              obtain ⟨handle, hhandle⟩ := Option.ne_none_iff_exists'.mp hconfigured
              rw [turn_identityReady hhandle hfree]
              exact ⟨by simp [hrunning], hagree.insert hhandle hnew hfree⟩
          | lifecycle localId phase reason occurredAtMs =>
              refine ⟨?_, hagree.withdraw localId phase reason occurredAtMs⟩
              simp [Coordinator.turn, Coordinator.announce, withdraw_ended, hrunning]
          | message message => exact ⟨by simp [Coordinator.turn, Coordinator.announce,
              Coordinator.withdraw, hrunning], hagree⟩
          | notice notice => exact ⟨by simp [Coordinator.turn, Coordinator.announce,
              Coordinator.withdraw, hrunning], hagree⟩
          | outboundMessageAccepted localId occurredAtMs => exact ⟨by simp [Coordinator.turn,
              Coordinator.announce, Coordinator.withdraw, hrunning], hagree⟩
          | groupCountObserved localId count occurredAtMs => exact ⟨by simp [Coordinator.turn,
              Coordinator.announce, Coordinator.withdraw, hrunning], hagree⟩
  | heartbeat clock =>
      have hread := (heartbeats_inOrder config clock coordinator.identities).mpr hclear
      simp only [Coordinator.turn]
      split
      · next events error hfailed =>
          rw [hfailed] at hread
          cases hread
      · exact ⟨by simp [hrunning], hagree⟩
  | shutdownChanged changed =>
      simp only [Coordinator.turn]
      split
      · refine ⟨by simp, ?_⟩
        exact { hagree with }
      · exact ⟨by simp [hrunning], hagree⟩

theorem Kept.step {config : CoordinatorConfig Handle Notice}
    {history : List (CoordinatorInput Notice)} {coordinator : Coordinator Handle}
    (hkept : Kept config history coordinator) {input : CoordinatorInput Notice}
    (hguard : Guard config coordinator input) :
    Kept config (history ++ [input]) ((coordinate config).step coordinator input).1 := by
  by_cases hrunning : coordinator.ended = none
  · have hturn := (hkept.agree hrunning).turn hrunning (hguard hrunning)
    rw [step_running hrunning]
    constructor
    · exact hturn.1
    · intro hstill
      rw [announced_append]
      exact hturn.2
  · rw [step_ended hrunning]
    exact ⟨hkept.survives, fun hnone => absurd hnone hrunning⟩

/-- An ambiguous input ends the coordinator or leaves a route that no account has. -/
theorem Agree.not_sound_turn {config : CoordinatorConfig Handle Notice}
    {history : List (CoordinatorInput Notice)} {coordinator : Coordinator Handle}
    (hagree : Agree config (announced history) coordinator) (hrunning : coordinator.ended = none)
    {input : CoordinatorInput Notice} (hambiguous : ¬ Unambiguous config coordinator input) :
    ¬ Sound config (history ++ [input]) (coordinator.turn config input).1 := by
  intro hsound
  cases input with
  | received answer =>
      cases answer with
      | error error => exact hsound.survives (.events error) rfl
      | ok event =>
          cases event with
          | identityReady localId identity =>
              cases hhandle : config.actions localId with
              | none =>
                  refine hsound.survives .actionHandleMissing ?_
                  simp [Coordinator.turn, Coordinator.announce, hhandle, Coordinator.fail]
              | some handle =>
                  by_cases hfree : identity.qqId ∈ coordinator.routes
                  · refine hsound.survives (.registration
                      (.badParameters "OneBot account registration is invalid")) ?_
                    simp only [Coordinator.turn, Coordinator.announce, hhandle, register, hfree,
                      or_true, if_true, Coordinator.fail]
                  · -- The account has another number already, and its route stays behind.
                    have hold : localId ∈ coordinator.identities := by
                      by_contra hnew
                      exact hambiguous ⟨by simp [hhandle], hnew, hfree⟩
                    obtain ⟨old, hlookup⟩ :=
                      Option.isSome_iff_exists.mp (AList.lookup_isSome.mpr hold)
                    have hstale := (hagree.routes_exact old).mpr ⟨localId, hlookup⟩
                    rw [turn_identityReady hhandle hfree] at hsound
                    obtain ⟨owner, howner⟩ := ((hsound.routed hrunning).routes_exact old).mp
                      ((AList.mem_insert _).mpr (.inr hstale))
                    by_cases hsame : owner = localId
                    · subst hsame
                      rw [AList.lookup_insert] at howner
                      cases howner
                      exact hfree hstale
                    · rw [AList.lookup_insert_ne hsame] at howner
                      rw [hagree.identities_eq] at howner hlookup
                      exact hsame (hagree.injective owner localId old howner hlookup)
          | lifecycle localId phase reason occurredAtMs => exact hambiguous trivial
          | message message => exact hambiguous trivial
          | notice notice => exact hambiguous trivial
          | outboundMessageAccepted localId occurredAtMs => exact hambiguous trivial
          | groupCountObserved localId count occurredAtMs => exact hambiguous trivial
  | heartbeat clock =>
      have hread := mt (heartbeats_inOrder config clock coordinator.identities).mp hambiguous
      simp only [Coordinator.turn] at hsound
      split at hsound
      · next events error hfailed => exact hsound.survives error rfl
      · next events hsent =>
          rw [hsent] at hread
          exact hread rfl
  | shutdownChanged changed => exact hambiguous trivial

/-! ## The run -/

theorem kept_start (config : CoordinatorConfig Handle Notice) :
    Kept config [] (Coordinator.start : Coordinator Handle) where
  survives := by simp [Coordinator.start]
  agree := fun _ =>
    { routes_exact := by simp [Coordinator.start]
      route_reaches := by simp [announced]
      identities_eq := by simp [Coordinator.start, announced]
      injective := by simp [announced] }

theorem kept_run {config : CoordinatorConfig Handle Notice}
    {inputs : List (CoordinatorInput Notice)}
    (hguarded : (coordinate config).Guarded (Guard config) Coordinator.start inputs) :
    Kept config inputs ((coordinate config).run Coordinator.start inputs) := by
  induction inputs using List.reverseRecOn with
  | nil => exact kept_start config
  | append_singleton inputs input ih =>
      obtain ⟨hbefore, hlast⟩ := (coordinate config).guarded_append_singleton.mp hguarded
      rw [Machine.run_append]
      exact (ih hbefore).step hlast

/-- The coordinator runs on and routes what the accounts announced, after every step of a
run, exactly when no step of the run is ambiguous. -/
theorem coordinate_sound_iff_guarded (config : CoordinatorConfig Handle Notice)
    (inputs : List (CoordinatorInput Notice)) :
    (∀ reached, reached <+: inputs →
      Sound config reached ((coordinate config).run Coordinator.start reached)) ↔
    (coordinate config).Guarded (Guard config) Coordinator.start inputs := by
  constructor
  · intro hsound
    by_contra hbroken
    obtain ⟨before, input, after, rfl, hguarded, hviolation⟩ :=
      (coordinate config).exists_first_violation hbroken
    obtain ⟨hrunning, hambiguous⟩ := Classical.not_imp.mp hviolation
    have hkept := kept_run hguarded
    have hnext := hsound (before ++ [input]) ⟨after, by simp⟩
    rw [Machine.run_append, Machine.run_cons, Machine.run_nil, step_running hrunning] at hnext
    exact (hkept.agree hrunning).not_sound_turn hrunning hambiguous hnext
  · rintro hguarded reached ⟨rest, rfl⟩
    exact (kept_run (Machine.Guarded.of_append (coordinate config) hguarded)).sound

theorem twos_length : (List.replicate 16 (2 : UInt8)).length = 16 := List.length_replicate

/-- Two accounts that are logged in to the same QQ number. -/
def sharedNumber : List (CoordinatorInput Empty) :=
  [.received (.ok (.identityReady ⟨List.replicate 16 1, ones_length⟩ ⟨10001, "first", by decide⟩)),
    .received (.ok (.identityReady ⟨List.replicate 16 2, twos_length⟩
      ⟨10001, "second", by decide⟩))]

def twoAccounts : CoordinatorConfig Nat Empty where
  actions := fun localId => if localId.bytes.head? = some 1 then some 1 else some 2
  projectNotice := nofun
  idFormat := .number
  heartbeatMs := 15000

theorem shared_number_ends_coordinator :
    ¬ Sound twoAccounts sharedNumber
      ((coordinate twoAccounts).run Coordinator.start sharedNumber) := by
  intro hsound
  exact hsound.survives (.registration (.badParameters "OneBot account registration is invalid"))
    rfl

end OneBot
end Lirvena
