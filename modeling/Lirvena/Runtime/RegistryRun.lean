import Lirvena.Lib.Run
import Lirvena.Runtime.ReplyResolution

/-!
# Runs of the message registry

An inbound message replaces the stored message with its correlation, so that the
correlations stay unique.  An outbound message is stored under a free identifier
even when its correlation is stored already, which happens when the echo of the
message is retained before the send is registered.
-/

namespace Lirvena
namespace Runtime

open Lib
open Message
open OneBot
open Store

/-- One call on the message registry. -/
inductive RegistryCall where
  | retainDecoded (identity : AccountIdentity) (envelope : MessageEnvelope)
      (richText : Option RichTextMessage) (insertedAtMs : UInt64)
  | registerOutbound (target : SendTextTarget) (correlations : OutboundCorrelations)
      (insertedAtMs : UInt64) (response : Json)
  | remove (messageId : UInt32)
  | reopen

/-- Every correlation is carried by at most one stored message. -/
def UniqueCorrelations (store : MessageStore) : Prop :=
  ∀ correlation : Correlation, (store.carrying correlation.Carries).length ≤ 1

/-- The record of an outbound message passes its checks; otherwise the call stores nothing. -/
def Recordable (registry : MessageRegistry) (target : SendTextTarget)
    (correlations : OutboundCorrelations) (insertedAtMs : UInt64) (response : Json) : Prop :=
  ∃ fields, response.asObject = some fields ∧
    let messageId := registry.nextId (preferredId correlations.sequence.toUInt64)
    validRecord messageId insertedAtMs (numberedResponse fields messageId)
      (outboundTarget target correlations) = true

/-- An outbound message that can be recorded is registered under a correlation that no stored
message carries. -/
def OutboundFresh (registry : MessageRegistry) : RegistryCall → Prop
  | .registerOutbound target correlations insertedAtMs response =>
      Recordable registry target correlations insertedAtMs response → ∀ correlation,
        (outboundTarget target correlations).correlation = some correlation →
          registry.store.carrying correlation.Carries = []
  | _ => True

namespace MessageRegistry

/-- The answer of a call: the identifier of the stored message, if there is one. -/
abbrev Answer := Except MessageStoreError (Option UInt32)

def step (registry : MessageRegistry) : RegistryCall → MessageRegistry × Answer
  | .retainDecoded identity envelope richText insertedAtMs =>
      match registry.retainDecoded identity envelope richText insertedAtMs with
      | .ok (next, message) => (next, .ok (some message.messageId))
      | .error error => (registry, .error error)
  | .registerOutbound target correlations insertedAtMs response =>
      match registry.registerOutbound target correlations insertedAtMs response with
      | .ok (next, messageId) => (next, .ok (some messageId))
      | .error error => (registry, .error error)
  | .remove messageId => (registry.remove messageId, .ok none)
  | .reopen => ({ store := registry.store.prune }, .ok none)

def machine : Machine MessageRegistry RegistryCall Answer where
  step := step

/-! ## One step -/

theorem put_unique {store next : MessageStore} {record : MessageRecord}
    (hunique : UniqueCorrelations store) (hput : store.put record = .ok next)
    (hreplaced : ∀ correlation, record.recall.correlation = some correlation →
      ∀ row ∈ store.carrying correlation.Carries,
        row.messageId = intColumn record.messageId) : UniqueCorrelations next := by
  obtain ⟨row, hrow, rfl⟩ := MessageStore.put_eq_ok_iff.mp hput
  obtain ⟨_, _, -, -, hcolumns⟩ := StoredRow.exists_columns hrow
  intro correlation
  have hlen := MessageStore.insertRow_carrying_length store ⟨record, hrow⟩ correlation.Carries
  have hbefore := hunique correlation
  by_cases hcarries : correlation.Carries row
  · have hcorrelation : record.recall.correlation = some correlation := by
      rw [hcolumns] at hcarries
      exact carries_columns_iff.mp hcarries
    -- the row that carried the correlation before is the one that is replaced
    have hkept : (store.carrying correlation.Carries).filter
        (fun other => other.messageId ≠ row.messageId) = [] := by
      rw [List.filter_eq_nil_iff]
      intro other hother
      have hid := hreplaced correlation hcorrelation other hother
      simp [hid, StoredRow.messageId_ofRecord hrow]
    rw [hkept, if_pos hcarries] at hlen
    simpa using hlen
  · have hkept := List.length_filter_le (fun other : StoredRow => other.messageId ≠ row.messageId)
      (store.carrying correlation.Carries)
    rw [if_neg hcarries] at hlen
    omega

theorem retainDecoded_unique {registry next : MessageRegistry} {identity : AccountIdentity}
    {envelope : MessageEnvelope} {richText : Option RichTextMessage} {insertedAtMs : UInt64}
    {message : InboundMessage} (hunique : UniqueCorrelations registry.store)
    (hretain : registry.retainDecoded identity envelope richText insertedAtMs =
      .ok (next, message)) : UniqueCorrelations next.store := by
  obtain ⟨⟨messageId, target⟩, hprepare, hretain⟩ := bind_eq_ok_iff.mp hretain
  obtain ⟨replyIds, -, hretain⟩ := bind_eq_ok_iff.mp hretain
  obtain ⟨inbound, hinbound, hretain⟩ := bind_eq_ok_iff.mp hretain
  obtain ⟨kept, hkept, hpair⟩ := bind_eq_ok_iff.mp hretain
  cases hpair
  have hid : message.messageId = messageId := by
    obtain ⟨_, -, hvalue⟩ := bind_eq_ok_iff.mp (configured_eq_ok_iff.mp hinbound)
    cases hvalue
    rfl
  obtain ⟨response, record, -, hnew, hput⟩ := retainInbound_eq_ok_iff.mp hkept
  obtain ⟨hvalid, rfl⟩ := MessageRecord.new_eq_ok_iff.mp hnew
  obtain ⟨-, -, hrows⟩ := prepareInbound_eq_ok hprepare
  apply put_unique hunique hput
  intro correlation hcorrelation row hrow
  rw [quoted_recall] at hcorrelation
  have hcorrelation : target.correlation = some correlation := hcorrelation
  rw [quoted_messageId]
  -- A correlation that is already stored keeps its identifier.
  rcases hrows correlation hcorrelation with hnone | ⟨only, honly, honlyId⟩
  · simp [hnone] at hrow
  · rw [honly, List.mem_singleton] at hrow
    rw [hrow, honlyId]
    exact congrArg intColumn hid.symm

theorem registerOutbound_unique {registry next : MessageRegistry} {target : SendTextTarget}
    {correlations : OutboundCorrelations} {insertedAtMs : UInt64} {response : Json}
    {messageId : UInt32} (hunique : UniqueCorrelations registry.store)
    (hfresh : Recordable registry target correlations insertedAtMs response → ∀ correlation,
      (outboundTarget target correlations).correlation = some correlation →
        registry.store.carrying correlation.Carries = [])
    (hregister : registry.registerOutbound target correlations insertedAtMs response =
      .ok (next, messageId)) : UniqueCorrelations next.store := by
  obtain ⟨fields, hfields, hregister⟩ := bind_eq_ok_iff.mp hregister
  obtain ⟨record, hnew, hregister⟩ := bind_eq_ok_iff.mp hregister
  obtain ⟨store, hput, hpair⟩ := bind_eq_ok_iff.mp hregister
  cases hpair
  obtain ⟨hvalid, rfl⟩ := MessageRecord.new_eq_ok_iff.mp hnew
  apply put_unique hunique hput
  intro correlation hcorrelation row hrow
  have hcorrelation : (outboundTarget target correlations).correlation = some correlation :=
    hcorrelation
  have hrecordable : Recordable registry target correlations insertedAtMs response :=
    ⟨fields, okOr_eq_ok_iff.mp hfields, hvalid⟩
  simp [hfresh hrecordable correlation hcorrelation] at hrow

theorem step_unique (registry : MessageRegistry) (call : RegistryCall)
    (hunique : UniqueCorrelations registry.store) (hfresh : OutboundFresh registry call) :
    UniqueCorrelations (registry.step call).1.store := by
  cases call with
  | retainDecoded identity envelope richText insertedAtMs =>
      cases hretain : registry.retainDecoded identity envelope richText insertedAtMs with
      | error error => simpa only [step, hretain] using hunique
      | ok retained =>
          simp only [step, hretain]
          exact retainDecoded_unique hunique hretain
  | registerOutbound target correlations insertedAtMs response =>
      cases hregister : registry.registerOutbound target correlations insertedAtMs response with
      | error error => simpa only [step, hregister] using hunique
      | ok registered =>
          simp only [step, hregister]
          exact registerOutbound_unique hunique hfresh hregister
  | remove messageId =>
      intro correlation
      exact (MessageStore.remove_carrying_length _ _ _).trans (hunique correlation)
  | reopen =>
      intro correlation
      exact (MessageStore.prune_carrying_length _ _).trans (hunique correlation)

/-! ## Whole runs -/

theorem empty_unique : UniqueCorrelations MessageStore.empty := by
  intro correlation
  simp [MessageStore.carrying, MessageStore.empty]

theorem run_unique {calls reached : List RegistryCall}
    (hguarded : machine.Guarded OutboundFresh emptyRegistry calls)
    (hreached : reached <+: calls) :
    UniqueCorrelations (machine.run emptyRegistry reached).store := by
  have hstart : (fun registry : MessageRegistry => UniqueCorrelations registry.store)
      emptyRegistry := empty_unique
  exact machine.invariant_guarded_run hstart step_unique hguarded hreached

/-- In a run that registers only outbound messages with a fresh correlation, the
two lookups by correlation are never ambiguous. -/
theorem lookups_unambiguous_of_guarded {calls reached : List RegistryCall}
    (hguarded : machine.Guarded OutboundFresh emptyRegistry calls)
    (hreached : reached <+: calls) :
    UniqueCorrelations (machine.run emptyRegistry reached).store ∧
      (∀ groupCode sequence, groupCode ≠ 0 → sequence ≠ 0 →
        ∃ found, (machine.run emptyRegistry reached).store.findGroup groupCode sequence =
          .ok found) ∧
      ∀ uid peerUin sequence clientSequence random timestamp,
        validRecall (.private uid (some peerUin) sequence clientSequence random timestamp) =
          true →
        ∃ found, (machine.run emptyRegistry reached).store.findPrivate uid peerUin sequence
          clientSequence random timestamp = .ok found := by
  have hunique : UniqueCorrelations (machine.run emptyRegistry reached).store :=
    run_unique hguarded hreached
  refine ⟨hunique, ?_, ?_⟩
  · intro groupCode sequence hcode hsequence
    rw [findGroup_eq hcode hsequence]
    exact (MessageStore.find_ok_iff _ _).mpr (hunique (.group groupCode sequence))
  · intro uid peerUin sequence clientSequence random timestamp hvalid
    rw [findPrivate_eq hvalid]
    exact (MessageStore.find_ok_iff _ _).mpr
      (hunique (.private uid peerUin sequence clientSequence random timestamp))

/-! ## The echo of an outbound message -/

/-- The account's own message in group 100, as the group sends it back. -/
def echoEnvelope : MessageEnvelope :=
  messageEnvelope { memberResponse 100 with fromUin := 10001, fromUid := some "u_own" }
    memberContent emptyBody

def retainEcho : RegistryCall :=
  .retainDecoded ownIdentity echoEnvelope (some plainText) 2

def registerSend : RegistryCall :=
  .registerOutbound (.group 100)
    { sequence := 5, clientSequence := 7, random := 9, timestamp := 1700000000 } 1
    (.object [("message", .array []), ("message_type", .string "group")])

theorem echo_last_guarded :
    machine.Guarded OutboundFresh emptyRegistry [registerSend, retainEcho] :=
  ⟨by intro _ correlation _; rfl, trivial, trivial⟩

/-- The send is registered first and the echo replaces it. -/
theorem lookups_unambiguous_of_guarded_echo_last :
    UniqueCorrelations (machine.run emptyRegistry [registerSend, retainEcho]).store :=
  (lookups_unambiguous_of_guarded echo_last_guarded (List.prefix_refl _)).1

/-- The echo is retained first, and the registered send is a second message with
its correlation. -/
theorem echo_first_ambiguous :
    let store := (machine.run emptyRegistry [retainEcho, registerSend]).store
    (store.carrying (StoredRow.CarriesGroup 100 5)).length = 2 ∧
      (store.findGroup 100 5).map (Option.map MessageRecord.messageId) =
        .error .configuration := by
  decide +kernel

end MessageRegistry
end Runtime
end Lirvena
