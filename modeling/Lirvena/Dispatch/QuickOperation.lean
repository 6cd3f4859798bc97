import Lirvena.Dispatch.Action

/-!
# Quick operations

A bot may answer an event with what is to be done about it: a reply, a recall, a kick or
a ban for a message, a decision for a request.  Such an answer is expanded into actions.
What an action is about is taken from the event alone, so that an answer to an event
can do nothing to another chat, another member or another account.
-/

namespace Lirvena
namespace Dispatch

open Lib

/-- The fields of an object, each under its key. -/
abbrev Fields := List (String × Json)

def badQuick : BackendError := .badParameters "quick operation is invalid"

def object (value : Option Json) : Except BackendError Fields :=
  okOr badQuick (value.bind Json.asObject)

def required (object : Fields) (key : String) : Except BackendError Json :=
  okOr badQuick (object.lookup key)

def requiredStr (object : Fields) (key : String) : Except BackendError String := do
  okOr badQuick (← required object key).asStr

/-- `Map::get` and a test for `true`. -/
def holds (object : Fields) (key : String) : Bool :=
  match object.lookup key with
  | some (.bool true) => true
  | _ => false

/-- `Map::insert` of a value that may be missing. -/
def insertSome (key : String) (value : Option Json) (params : Fields) : Fields :=
  match value with
  | some value => Json.insertField key value params
  | none => params

def actionValue (action : String) (params : Fields) (selfId : Option Json) : Json :=
  .object (insertSome "self_id" selfId
    (Json.insertField "params" (.object params)
      (Json.insertField "action" (.string action) [])))

def actionWith (action key : String) (value : Json) (selfId : Option Json) : Json :=
  actionValue action [(key, value)] selfId

def groupMemberParams (context : Fields) : Fields :=
  insertSome "user_id" (context.lookup "user_id")
    (insertSome "group_id" (context.lookup "group_id") [])

def groupMemberAction (action : String) (context : Fields) (selfId : Option Json) : Json :=
  actionValue action (groupMemberParams context) selfId

/-- The message of a reply. -/
def replyParams (operation : Fields) (reply : Json) : Fields :=
  Json.insertField "auto_escape" ((operation.lookup "auto_escape").getD (.bool false))
    (Json.insertField "message" reply [])

/-- The part of `expand_message` for a reply. -/
def expandReply (context operation : Fields) (selfId : Option Json) (messageType : String) :
    Except BackendError (List Json) :=
  match operation.lookup "reply" with
  | none => .ok []
  | some reply =>
      if messageType = "private" then do
        let userId ← required context "user_id"
        return [actionValue "send_private_msg"
          (Json.insertField "user_id" userId (replyParams operation reply)) selfId]
      else if messageType = "group" then do
        let groupId ← required context "group_id"
        let params := Json.insertField "group_id" groupId (replyParams operation reply)
        if holds operation "at_sender" then
          let senderId ← required context "user_id"
          return [actionValue "send_group_msg"
            (Json.insertField "sender_id" senderId
              (Json.insertField "at_sender" (.bool true) params)) selfId]
        else
          return [actionValue "send_group_msg" params selfId]
      else .error badQuick

/-- The part of `expand_message` for a recall. -/
def expandDelete (context operation : Fields) (selfId : Option Json) :
    Except BackendError (List Json) :=
  if holds operation "delete" then do
    let messageId ← required context "message_id"
    return [actionWith "delete_msg" "message_id" messageId selfId]
  else .ok []

/-- The part of `expand_message` for a member of a group. -/
def expandMember (context operation : Fields) (selfId : Option Json) (messageType : String) :
    List Json :=
  if messageType = "group" then
    (if holds operation "kick" then [groupMemberAction "set_group_kick" context selfId]
      else []) ++
    (if holds operation "ban" then
      [actionValue "set_group_ban"
        (Json.insertField "duration" ((operation.lookup "ban_duration").getD (.integer 1800))
          (groupMemberParams context)) selfId]
      else [])
  else []

def expandMessage (context operation : Fields) (selfId : Option Json) :
    Except BackendError (List Json) := do
  let messageType ← requiredStr context "message_type"
  let replies ← expandReply context operation selfId messageType
  let deletions ← expandDelete context operation selfId
  return replies ++ deletions ++ expandMember context operation selfId messageType

def expandRequest (context operation : Fields) (selfId : Option Json) :
    Except BackendError (List Json) :=
  match operation.lookup "approve" with
  | none => .ok []
  | some approve => do
      let flag ← required context "flag"
      let params := Json.insertField "approve" approve (Json.insertField "flag" flag [])
      let requestType ← requiredStr context "request_type"
      if requestType = "friend" then
        return [actionValue "set_friend_add_request"
          (insertSome "remark" (operation.lookup "remark") params) selfId]
      else if requestType = "group" then do
        let subType ← required context "sub_type"
        return [actionValue "set_group_add_request"
          (insertSome "reason" (operation.lookup "reason")
            (Json.insertField "sub_type" subType params)) selfId]
      else .error badQuick

/-- The values that a quick operation is expanded into. -/
def quickValues (context operation : Fields) (selfId : Option Json) :
    Except BackendError (List Json) :=
  match (context.lookup "post_type").bind Json.asStr with
  | some postType =>
      if postType = "message" then expandMessage context operation selfId
      else if postType = "request" then expandRequest context operation selfId
      else .ok []
  | none => .error badQuick

def expandQuickOperation (request : ActionRequest) :
    Except BackendError (List ActionRequest) := do
  let context ← object (request.params.lookup "context")
  let operation ← object (request.params.lookup "operation")
  let selfId := (context.lookup "self_id").or (request.params.lookup "self_id")
  let values ← quickValues context operation selfId
  values.mapM fun value => (fromJson value).mapError fun _ => badQuick

/-! ## Where the parameters come from -/

/-- The parameters that say what an action is about, and the field of the event that each of
them is. -/
def eventKeys : List (String × String) :=
  [("user_id", "user_id"), ("group_id", "group_id"), ("message_id", "message_id"),
    ("flag", "flag"), ("sub_type", "sub_type"), ("sender_id", "user_id")]

/-- The parameters that say what is done, and the field of the answer that each of them is. -/
def answerKeys : List (String × String) :=
  [("message", "reply"), ("auto_escape", "auto_escape"), ("duration", "ban_duration"),
    ("approve", "approve"), ("remark", "remark"), ("reason", "reason")]

def presets : List (String × Json) :=
  [("auto_escape", .bool false), ("duration", .integer 1800), ("at_sender", .bool true)]

/-- What a parameter of an expanded action can be. -/
inductive Origin (context operation : Fields) : String → Json → Prop where
  | event {key source : String} {value : Json} (hkey : (key, source) ∈ eventKeys)
      (hvalue : context.lookup source = some value) : Origin context operation key value
  | answer {key source : String} {value : Json} (hkey : (key, source) ∈ answerKeys)
      (hvalue : operation.lookup source = some value) : Origin context operation key value
  | preset {key : String} {value : Json} (hpreset : (key, value) ∈ presets) :
      Origin context operation key value

def Sourced (context operation params : Fields) : Prop :=
  ∀ key value, params.lookup key = some value → Origin context operation key value

section Sourced

variable {context operation params : Fields} {key : String} {value : Json}

theorem sourced_nil (context operation : Fields) : Sourced context operation [] := by
  intro key value hvalue
  cases hvalue

theorem Sourced.insertField (hsourced : Sourced context operation params)
    (horigin : Origin context operation key value) :
    Sourced context operation (Json.insertField key value params) := by
  intro other found hfound
  rw [Json.lookup_insertField] at hfound
  split at hfound
  · next hkey =>
      obtain rfl := Option.some.inj hfound
      rw [hkey]
      exact horigin
  · exact hsourced other found hfound

theorem Sourced.insertSome (hsourced : Sourced context operation params) {option : Option Json}
    (horigin : ∀ value, option = some value → Origin context operation key value) :
    Sourced context operation (insertSome key option params) := by
  cases option with
  | none => exact hsourced
  | some value => exact hsourced.insertField (horigin value rfl)

theorem preset_mem (hpreset : (key, value) ∈ presets) :
    key ∈ ["auto_escape", "duration", "at_sender"] := by
  show key ∈ presets.map Prod.fst
  exact List.mem_map_of_mem hpreset

/-- No answer can name another event's chat, member or account. -/
theorem Sourced.of_event (hsourced : Sourced context operation params) {source : String}
    (hkey : (key, source) ∈ eventKeys) (hvalue : params.lookup key = some value) :
    context.lookup source = some value := by
  have hkeys : ∀ entry ∈ eventKeys, ∀ other ∈ eventKeys, other.1 = entry.1 →
      other.2 = entry.2 := by decide
  have hanswer : ∀ entry ∈ eventKeys, entry.1 ∉ answerKeys.map Prod.fst := by decide
  have hpreset : ∀ entry ∈ eventKeys, entry.1 ∉ ["auto_escape", "duration", "at_sender"] := by
    decide
  cases hsourced key value hvalue with
  | event hother hcontext =>
      obtain rfl := hkeys _ hkey _ hother rfl
      exact hcontext
  | answer hother _ =>
      have hmem : key ∈ answerKeys.map Prod.fst := List.mem_map_of_mem hother
      exact absurd hmem (hanswer (key, source) hkey)
  | preset hother => exact absurd (preset_mem hother) (hpreset (key, source) hkey)

theorem Sourced.unaddressed (hsourced : Sourced context operation params) :
    params.lookup "self_id" = none := by
  have hevent : "self_id" ∉ eventKeys.map Prod.fst := by decide
  have hanswer : "self_id" ∉ answerKeys.map Prod.fst := by decide
  have hpreset : "self_id" ∉ ["auto_escape", "duration", "at_sender"] := by decide
  cases hvalue : params.lookup "self_id" with
  | none => rfl
  | some value =>
      cases hsourced _ _ hvalue with
      | event hother _ => exact absurd (List.mem_map_of_mem hother) hevent
      | answer hother _ => exact absurd (List.mem_map_of_mem hother) hanswer
      | preset hother => exact absurd (preset_mem hother) hpreset

theorem sourced_replyParams {reply : Json} (hreply : operation.lookup "reply" = some reply) :
    Sourced context operation (replyParams operation reply) := by
  refine ((sourced_nil _ _).insertField (.answer (by decide) hreply)).insertField ?_
  cases hescape : operation.lookup "auto_escape" with
  | none => exact .preset (by simp [presets])
  | some value => exact .answer (by decide) hescape

theorem sourced_groupMemberParams :
    Sourced context operation (groupMemberParams context) :=
  ((sourced_nil _ _).insertSome fun _ hvalue => .event (by decide) hvalue).insertSome
    fun _ hvalue => .event (by decide) hvalue

end Sourced

/-! ## The values -/

/-- The values of actions, each with parameters that have an origin, whose names come in the
given order. -/
def Expands (context operation : Fields) (selfId : Option Json) (names : List String)
    (values : List Json) : Prop :=
  ∃ items : List (String × Fields),
    values = items.map (fun item => actionValue item.1 item.2 selfId) ∧
      (items.map Prod.fst).Sublist names ∧
      ∀ item ∈ items, Sourced context operation item.2

section Expands

variable {context operation : Fields} {selfId : Option Json}

theorem expands_nil (names : List String) : Expands context operation selfId names [] :=
  ⟨[], rfl, List.nil_sublist _, fun _ hmem => absurd hmem List.not_mem_nil⟩

theorem expands_singleton {names : List String} {name : String} {params : Fields}
    (hname : name ∈ names) (hsourced : Sourced context operation params) :
    Expands context operation selfId names [actionValue name params selfId] := by
  refine ⟨[(name, params)], rfl, List.singleton_sublist.mpr hname, ?_⟩
  intro item hitem
  rw [List.mem_singleton.mp hitem]
  exact hsourced

theorem Expands.append {first second : List Json} {firstNames secondNames : List String}
    (hfirst : Expands context operation selfId firstNames first)
    (hsecond : Expands context operation selfId secondNames second) :
    Expands context operation selfId (firstNames ++ secondNames) (first ++ second) := by
  obtain ⟨front, rfl, hfront, hfrontSourced⟩ := hfirst
  obtain ⟨back, rfl, hback, hbackSourced⟩ := hsecond
  refine ⟨front ++ back, List.map_append.symm, ?_, ?_⟩
  · rw [List.map_append]
    exact hfront.append hback
  · intro item hitem
    rcases List.mem_append.mp hitem with hitem | hitem
    · exact hfrontSourced item hitem
    · exact hbackSourced item hitem

theorem Expands.mono {names larger : List String} {values : List Json}
    (hexpands : Expands context operation selfId names values)
    (hnames : names.Sublist larger) : Expands context operation selfId larger values := by
  obtain ⟨items, hvalues, hsublist, hsourced⟩ := hexpands
  exact ⟨items, hvalues, hsublist.trans hnames, hsourced⟩

theorem required_eq_ok_iff {fields : Fields} {key : String} {value : Json} :
    required fields key = .ok value ↔ fields.lookup key = some value :=
  okOr_eq_ok_iff

theorem expands_reply {messageType : String} {values : List Json}
    (hok : expandReply context operation selfId messageType = .ok values) :
    Expands context operation selfId ["send_private_msg", "send_group_msg"] values := by
  unfold expandReply at hok
  cases hreply : operation.lookup "reply" with
  | none =>
      rw [hreply] at hok
      cases hok
      exact expands_nil _
  | some reply =>
      rw [hreply] at hok
      dsimp only at hok
      have hsourced : Sourced context operation (replyParams operation reply) :=
        sourced_replyParams hreply
      split at hok
      · obtain ⟨userId, huser, hvalues⟩ := bind_eq_ok_iff.mp hok
        cases hvalues
        exact expands_singleton (by decide)
          (hsourced.insertField (.event (by decide) (required_eq_ok_iff.mp huser)))
      · split at hok
        · obtain ⟨groupId, hgroup, hmention⟩ := bind_eq_ok_iff.mp hok
          have hgrouped : Sourced context operation
              (Json.insertField "group_id" groupId (replyParams operation reply)) :=
            hsourced.insertField (.event (by decide) (required_eq_ok_iff.mp hgroup))
          split at hmention
          · obtain ⟨senderId, hsender, hvalues⟩ := bind_eq_ok_iff.mp hmention
            cases hvalues
            exact expands_singleton (by decide)
              ((hgrouped.insertField (.preset (by simp [presets]))).insertField
                (.event (by decide) (required_eq_ok_iff.mp hsender)))
          · cases hmention
            exact expands_singleton (by decide) hgrouped
        · cases hok

theorem expands_delete {values : List Json}
    (hok : expandDelete context operation selfId = .ok values) :
    Expands context operation selfId ["delete_msg"] values := by
  unfold expandDelete at hok
  split at hok
  · obtain ⟨messageId, hmessage, hvalues⟩ := bind_eq_ok_iff.mp hok
    cases hvalues
    have hsourced : Sourced context operation (Json.insertField "message_id" messageId []) :=
      (sourced_nil _ _).insertField (.event (by decide) (required_eq_ok_iff.mp hmessage))
    exact expands_singleton (by decide) hsourced
  · cases hok
    exact expands_nil _

theorem expands_member (messageType : String) :
    Expands context operation selfId ["set_group_kick", "set_group_ban"]
      (expandMember context operation selfId messageType) := by
  have hmember : Sourced context operation (groupMemberParams context) :=
    sourced_groupMemberParams
  unfold expandMember
  split
  · show Expands context operation selfId (["set_group_kick"] ++ ["set_group_ban"]) _
    refine Expands.append ?_ ?_
    · split
      · exact expands_singleton (by decide) hmember
      · exact expands_nil _
    · split
      · refine expands_singleton (by decide) (hmember.insertField ?_)
        cases hduration : operation.lookup "ban_duration" with
        | none => exact .preset (by simp [presets])
        | some value => exact .answer (by decide) hduration
      · exact expands_nil _
  · exact expands_nil _

theorem expands_message {values : List Json}
    (hok : expandMessage context operation selfId = .ok values) :
    Expands context operation selfId
      ["send_private_msg", "send_group_msg", "delete_msg", "set_group_kick", "set_group_ban"]
      values := by
  obtain ⟨messageType, -, hok⟩ := bind_eq_ok_iff.mp hok
  obtain ⟨replies, hreplies, hok⟩ := bind_eq_ok_iff.mp hok
  obtain ⟨deletions, hdeletions, hvalues⟩ := bind_eq_ok_iff.mp hok
  cases hvalues
  exact ((expands_reply hreplies).append (expands_delete hdeletions)).append
    (expands_member messageType)

theorem expands_request {values : List Json}
    (hok : expandRequest context operation selfId = .ok values) :
    Expands context operation selfId ["set_friend_add_request", "set_group_add_request"]
      values := by
  unfold expandRequest at hok
  cases happrove : operation.lookup "approve" with
  | none =>
      rw [happrove] at hok
      cases hok
      exact expands_nil _
  | some approve =>
      rw [happrove] at hok
      obtain ⟨flag, hflag, hok⟩ := bind_eq_ok_iff.mp hok
      obtain ⟨requestType, -, hok⟩ := bind_eq_ok_iff.mp hok
      have hdecision : Sourced context operation
          (Json.insertField "approve" approve (Json.insertField "flag" flag [])) :=
        ((sourced_nil _ _).insertField
          (.event (by decide) (required_eq_ok_iff.mp hflag))).insertField
          (.answer (by decide) happrove)
      split at hok
      · cases hok
        exact expands_singleton (by decide)
          (hdecision.insertSome fun _ hvalue => .answer (by decide) hvalue)
      · split at hok
        · obtain ⟨subType, hsubType, hvalues⟩ := bind_eq_ok_iff.mp hok
          cases hvalues
          exact expands_singleton (by decide)
            ((hdecision.insertField (.event (by decide)
              (required_eq_ok_iff.mp hsubType))).insertSome
              fun _ hvalue => .answer (by decide) hvalue)
        · cases hok

/-- The names of the actions that quick operations stand for, in their order. -/
def quickActions : List String :=
  ["send_private_msg", "send_group_msg", "delete_msg", "set_group_kick", "set_group_ban",
    "set_friend_add_request", "set_group_add_request"]

theorem expands_quickValues {values : List Json}
    (hok : quickValues context operation selfId = .ok values) :
    Expands context operation selfId quickActions values := by
  unfold quickValues at hok
  cases htype : (context.lookup "post_type").bind Json.asStr with
  | none =>
      rw [htype] at hok
      cases hok
  | some postType =>
      rw [htype] at hok
      dsimp only at hok
      split at hok
      · exact (expands_message hok).mono (by decide)
      · split at hok
        · exact (expands_request hok).mono (by decide)
        · cases hok
          exact expands_nil _

end Expands

/-! ## The actions -/

theorem lookup_insertSome (key other : String) (value : Option Json) (params : Fields) :
    (insertSome key value params).lookup other =
      if other = key then value.or (params.lookup other) else params.lookup other := by
  cases value with
  | none => simp [insertSome]
  | some value => rw [insertSome, Json.lookup_insertField, Option.some_or]

theorem normalize_quick : ∀ name ∈ quickActions,
    normalizeAction name = some (name, .synchronous) := by decide

/-- A value of a quick operation is read as the action that it was made of. -/
theorem fromJson_actionValue {name : String} {params : Fields} {selfId : Option Json}
    (hname : normalizeAction name = some (name, .synchronous))
    (hself : params.lookup "self_id" = none) {action : ActionRequest}
    (hok : fromJson (actionValue name params selfId) = .ok action) :
    action.action = name ∧ action.params = params ∧ action.echo = none ∧
      action.mode = .synchronous ∧ parseOptionalId selfId [] = .ok action.selfId := by
  obtain ⟨object, hobject, hok⟩ := bind_eq_ok_iff.mp hok
  obtain ⟨found, hfound, hok⟩ := bind_eq_ok_iff.mp hok
  obtain ⟨normalized, hnormalized, hok⟩ := bind_eq_ok_iff.mp hok
  obtain ⟨given, hgiven, hok⟩ := bind_eq_ok_iff.mp hok
  obtain ⟨id, hid, haction⟩ := bind_eq_ok_iff.mp hok
  cases haction
  obtain rfl := Except.ok.inj hobject
  rw [okOr_eq_ok_iff] at hfound hnormalized hgiven
  have hid := mapError_eq_ok_iff.mp hid
  simp only [lookup_insertSome, Json.lookup_insertField] at hfound hgiven hid
  obtain rfl : name = found := Option.some.inj hfound
  obtain rfl : params = given := Option.some.inj hgiven
  obtain rfl := Option.some.inj (hname.symm.trans hnormalized)
  refine ⟨rfl, rfl, ?_, rfl, ?_⟩
  · simp only [lookup_insertSome, Json.lookup_insertField]
    rfl
  · simpa [parseOptionalId, hself] using hid

/-- An action of a quick operation. -/
structure QuickAction (context operation : Fields) (selfId : Option Json)
    (action : ActionRequest) : Prop where
  echo : action.echo = none
  mode : action.mode = .synchronous
  account : parseOptionalId selfId [] = .ok action.selfId
  sourced : Sourced context operation action.params

theorem quickActions_read {context operation : Fields} {selfId : Option Json}
    {items : List (String × Fields)} {actions : List ActionRequest}
    (hread : List.Forall₂ (fun item action =>
      (fromJson (actionValue item.1 item.2 selfId)).mapError (fun _ => badQuick) = .ok action)
      items actions)
    (hitems : ∀ item ∈ items, item.1 ∈ quickActions ∧ Sourced context operation item.2) :
    actions.map ActionRequest.action = items.map Prod.fst ∧
      ∀ action ∈ actions, QuickAction context operation selfId action := by
  induction hread with
  | nil => exact ⟨rfl, fun _ hmem => absurd hmem List.not_mem_nil⟩
  | @cons item action items actions hfirst _ ih =>
      obtain ⟨hname, hsourced⟩ := hitems item List.mem_cons_self
      obtain ⟨haction, hparams, hecho, hmode, haccount⟩ := fromJson_actionValue
        (normalize_quick _ hname) hsourced.unaddressed (mapError_eq_ok_iff.mp hfirst)
      obtain ⟨hnames, hactions⟩ := ih fun other hother =>
        hitems other (List.mem_cons_of_mem _ hother)
      refine ⟨by rw [List.map_cons, List.map_cons, haction, hnames], ?_⟩
      intro other hother
      rcases List.mem_cons.mp hother with rfl | hother
      · exact ⟨hecho, hmode, haccount, hparams ▸ hsourced⟩
      · exact hactions other hother

/-- What a quick operation does: at most one action of each kind, in their order, each about
what the event is about. -/
theorem expandQuickOperation_eq_ok {request : ActionRequest} {actions : List ActionRequest}
    (hok : expandQuickOperation request = .ok actions) :
    ∃ context operation, request.params.lookup "context" = some (.object context) ∧
      request.params.lookup "operation" = some (.object operation) ∧
      (actions.map ActionRequest.action).Sublist quickActions ∧
      ∀ action ∈ actions, QuickAction context operation
        ((context.lookup "self_id").or (request.params.lookup "self_id")) action := by
  obtain ⟨context, hcontext, hok⟩ := bind_eq_ok_iff.mp hok
  obtain ⟨operation, hoperation, hok⟩ := bind_eq_ok_iff.mp hok
  obtain ⟨values, hvalues, hok⟩ := bind_eq_ok_iff.mp hok
  have hobject : ∀ {value : Option Json} {fields : Fields}, object value = .ok fields →
      value = some (.object fields) := by
    intro value fields hfields
    obtain ⟨json, rfl, hjson⟩ := Option.bind_eq_some_iff.mp (okOr_eq_ok_iff.mp hfields)
    cases json <;> first | cases hjson; rfl | cases hjson
  refine ⟨context, operation, hobject hcontext, hobject hoperation, ?_⟩
  obtain ⟨items, rfl, hnames, hsourced⟩ := expands_quickValues hvalues
  have hread := mapM_eq_ok_iff_forall₂.mp hok
  rw [List.forall₂_map_left_iff] at hread
  obtain ⟨hactions, hquick⟩ := quickActions_read hread fun item hitem =>
    ⟨hnames.subset (List.mem_map_of_mem hitem), hsourced item hitem⟩
  exact ⟨hactions ▸ hnames, hquick⟩

/-- A quick operation does at most one action of each kind, in their order, to the account,
the chat, the member and the message of its event, whatever the answer of the bot holds. -/
theorem quick_operation_confined {request : ActionRequest} {actions : List ActionRequest}
    (hok : expandQuickOperation request = .ok actions) :
    ∃ context operation, request.params.lookup "context" = some (.object context) ∧
      request.params.lookup "operation" = some (.object operation) ∧
      (actions.map ActionRequest.action).Sublist quickActions ∧
      ∀ action ∈ actions, action.echo = none ∧ action.mode = .synchronous ∧
        parseOptionalId ((context.lookup "self_id").or (request.params.lookup "self_id")) [] =
          .ok action.selfId ∧
        (∀ entry ∈ eventKeys, ∀ value, action.params.lookup entry.1 = some value →
          context.lookup entry.2 = some value) ∧
        ∀ key value, action.params.lookup key = some value →
          Origin context operation key value := by
  obtain ⟨context, operation, hcontext, hoperation, hnames, hquick⟩ :=
    expandQuickOperation_eq_ok hok
  refine ⟨context, operation, hcontext, hoperation, hnames, fun action haction => ?_⟩
  obtain ⟨hecho, hmode, haccount, hsourced⟩ := hquick action haction
  exact ⟨hecho, hmode, haccount, fun entry hentry value hvalue => hsourced.of_event hentry hvalue,
    hsourced⟩

/-- A bot that kicks and bans the sender of a message, and gives a group of its own choice. -/
def sampleOperation : ActionRequest where
  action := ".handle_quick_operation"
  params := [("context", .object [("group_id", .integer 7), ("message_type", .string "group"),
      ("post_type", .string "message"), ("self_id", .integer 10001), ("user_id", .integer 9)]),
    ("operation", .object [("ban", .bool true), ("group_id", .integer 8),
      ("kick", .bool true)])]
  echo := none
  selfId := none
  mode := .synchronous

/-- The actions of the sample: both in the group of the message. -/
def sampleActions : List ActionRequest :=
  [⟨"set_group_kick", [("group_id", .integer 7), ("user_id", .integer 9)], none, some 10001,
      .synchronous⟩,
    ⟨"set_group_ban", [("duration", .integer 1800), ("group_id", .integer 7),
      ("user_id", .integer 9)], none, some 10001, .synchronous⟩]

set_option maxRecDepth 4000 in
theorem expand_sample : expandQuickOperation sampleOperation = .ok sampleActions := by rfl

theorem sample_confined :
    ∃ context operation, sampleOperation.params.lookup "context" = some (.object context) ∧
      sampleOperation.params.lookup "operation" = some (.object operation) ∧
      (sampleActions.map ActionRequest.action).Sublist quickActions ∧
      ∀ action ∈ sampleActions, action.echo = none ∧ action.mode = .synchronous ∧
        parseOptionalId ((context.lookup "self_id").or
          (sampleOperation.params.lookup "self_id")) [] = .ok action.selfId ∧
        (∀ entry ∈ eventKeys, ∀ value, action.params.lookup entry.1 = some value →
          context.lookup entry.2 = some value) ∧
        ∀ key value, action.params.lookup key = some value →
          Origin context operation key value :=
  quick_operation_confined expand_sample

end Dispatch
end Lirvena
