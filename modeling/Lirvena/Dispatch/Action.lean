import Lirvena.OneBot.Forward
import Lirvena.OneBot.Coordinate

/-!
# Actions and their responses

A `OneBot` action as a transport receives it, the response that it is answered with, and
the call of an account's backend.  The name of an action may end in a suffix that says how
it is executed.  What a backend answers with is shown in the identifier format of the
endpoint, whatever format the backend used.
-/

namespace Lirvena
namespace Dispatch

open Lib
open OneBot (IdFormat asU64 parseU64)

/-! ## Failures -/

inductive BackendError where
  | actionNotFound
  | unsupported
  | badParameters (message : String)
  | accountUnavailable
  | overloaded
  | failed (message : String)
  deriving DecidableEq

def BackendError.text : BackendError → String
  | .actionNotFound => "action is not implemented"
  | .unsupported => "action is unavailable for this account"
  | .badParameters message => message
  | .failed message => message
  | .accountUnavailable => "account is unavailable"
  | .overloaded => "account action queue is full"

/-- The failures of an account's action channel. -/
inductive AccountActionError where
  | actionNotFound
  | unsupported
  | badParameters
  | accountUnavailable
  | overloaded
  | qqFailure
  deriving DecidableEq

def mapAccountError : AccountActionError → BackendError
  | .actionNotFound => .actionNotFound
  | .unsupported => .unsupported
  | .badParameters => .badParameters "account action parameters are invalid"
  | .accountUnavailable => .accountUnavailable
  | .overloaded => .overloaded
  | .qqFailure => .failed "QQ action failed"

/-! ## Responses -/

inductive ResponseStatus where
  | ok
  | async
  | failed
  deriving DecidableEq

structure ActionResponse where
  status : ResponseStatus
  retcode : Nat
  data : Json
  message : String
  wording : String
  echo : Option Json

namespace ActionResponse

def new (status : ResponseStatus) (retcode : Nat) (data : Json) (message : String)
    (echo : Option Json) : ActionResponse where
  status := status
  retcode := retcode
  data := data
  message := message
  wording := message
  echo := echo

def success (data : Json) (echo : Option Json) : ActionResponse :=
  new .ok 0 data "" echo

def asynchronous (echo : Option Json) : ActionResponse :=
  new .async 1 .null "" echo

def badRequest (echo : Option Json) (message : String) : ActionResponse :=
  new .failed 1400 .null message echo

def accountRequired (echo : Option Json) : ActionResponse :=
  new .failed 1400 .null "self_id is required for a multi-account endpoint" echo

def backendRetcode : BackendError → Nat
  | .actionNotFound => 1404
  | .unsupported => 1404
  | .badParameters _ => 1400
  | .accountUnavailable => 2001
  | .overloaded => 2002
  | .failed _ => 2000

def backendFailure (echo : Option Json) (error : BackendError) : ActionResponse :=
  new .failed (backendRetcode error) .null error.text echo

def fromNestedFailure (response : ActionResponse) (echo : Option Json) : ActionResponse :=
  { response with echo := echo }

/-- The test that a quick operation makes on the response to one of its actions. -/
def accepted (response : ActionResponse) : Bool :=
  response.retcode = 0 || response.retcode = 1

/-- The status, the code and the data say the same. -/
def Coherent (response : ActionResponse) : Prop :=
  response.wording = response.message ∧
    match response.status with
    | .ok => response.retcode = 0 ∧ response.message = ""
    | .async => response.retcode = 1 ∧ response.message = "" ∧ response.data = .null
    | .failed => response.retcode ∈ [1400, 1404, 2000, 2001, 2002] ∧ response.data = .null

theorem coherent_success (data : Json) (echo : Option Json) : (success data echo).Coherent :=
  ⟨rfl, rfl, rfl⟩

theorem coherent_asynchronous (echo : Option Json) : (asynchronous echo).Coherent :=
  ⟨rfl, rfl, rfl, rfl⟩

theorem coherent_badRequest (echo : Option Json) (message : String) :
    (badRequest echo message).Coherent :=
  ⟨rfl, by simp [badRequest, new], rfl⟩

theorem coherent_accountRequired (echo : Option Json) : (accountRequired echo).Coherent :=
  ⟨rfl, by simp [accountRequired, new], rfl⟩

theorem coherent_backendFailure (echo : Option Json) (error : BackendError) :
    (backendFailure echo error).Coherent := by
  refine ⟨rfl, ?_, rfl⟩
  show backendRetcode error ∈ [1400, 1404, 2000, 2001, 2002]
  cases error <;> simp [backendRetcode]

theorem coherent_fromNestedFailure {response : ActionResponse} (echo : Option Json)
    (hcoherent : response.Coherent) : (response.fromNestedFailure echo).Coherent :=
  hcoherent

@[simp] theorem accepted_backendFailure (echo : Option Json) (error : BackendError) :
    (backendFailure echo error).accepted = false := by
  cases error <;> rfl

@[simp] theorem accepted_accountRequired (echo : Option Json) :
    (accountRequired echo).accepted = false := rfl

/-- A response is accepted exactly if it is not a failure. -/
theorem Coherent.accepted_iff {response : ActionResponse} (hcoherent : response.Coherent) :
    response.accepted = true ↔ response.status ≠ .failed := by
  obtain ⟨-, hshape⟩ := hcoherent
  unfold accepted
  cases hstatus : response.status with
  | ok =>
      rw [hstatus] at hshape
      simp [hshape.1]
  | async =>
      rw [hstatus] at hshape
      simp [hshape.1]
  | failed =>
      rw [hstatus] at hshape
      have hcode := hshape.1
      simp only [List.mem_cons, List.not_mem_nil, or_false] at hcode
      simp only [Bool.or_eq_true, decide_eq_true_eq, ne_eq, not_true_eq_false, iff_false]
      omega

end ActionResponse

/-! ## Requests -/

inductive ActionMode where
  | synchronous
  | asynchronous
  | rateLimited
  deriving DecidableEq

structure ActionRequest where
  action : String
  params : List (String × Json)
  echo : Option Json
  selfId : Option UInt64
  mode : ActionMode

/-- What a backend is given of a request. -/
def ActionRequest.intoBackend (request : ActionRequest) : ActionRequest :=
  { request with echo := none }

def maxActionBytes : Nat := 128

/-- `str::strip_suffix` -/
def stripSuffix (ending text : String) : Option String :=
  if ending.toList.isSuffixOf text.toList then some (withoutEnd ending text) else none

/-- The name without its suffix, and what the suffix says. -/
def splitMode (action : String) : String × ActionMode :=
  match stripSuffix "_async" action with
  | some base => (base, .asynchronous)
  | none =>
      match stripSuffix "_rate_limited" action with
      | some base => (base, .rateLimited)
      | none => (action, .synchronous)

/-- The suffix of a mode. -/
def ActionMode.suffix : ActionMode → String
  | .synchronous => ""
  | .asynchronous => "_async"
  | .rateLimited => "_rate_limited"

theorem stripSuffix_eq_some {ending text base : String}
    (hstrip : stripSuffix ending text = some base) : text = base ++ ending := by
  unfold stripSuffix at hstrip
  split at hstrip
  · next hsuffix =>
      obtain rfl := Option.some.inj hstrip
      obtain ⟨front, hfront⟩ := List.isSuffixOf_iff_suffix.mp hsuffix
      obtain rfl : text = String.ofList front ++ ending := by
        rw [← String.toList_inj, String.toList_append, String.toList_ofList]
        exact hfront.symm
      rw [withoutEnd_append]
  · cases hstrip

/-- A name is its base and the suffix of its mode. -/
theorem splitMode_append (action : String) :
    (splitMode action).1 ++ (splitMode action).2.suffix = action := by
  unfold splitMode
  cases hasync : stripSuffix "_async" action with
  | some base => exact (stripSuffix_eq_some hasync).symm
  | none =>
      cases hlimited : stripSuffix "_rate_limited" action with
      | some base => exact (stripSuffix_eq_some hlimited).symm
      | none => exact String.append_empty

def normalizeAction (action : String) : Option (String × ActionMode) :=
  if action = "" ∨ maxActionBytes < action.utf8ByteSize ∨ hasControl action ∨
      trim action ≠ action then
    none
  else if (splitMode action).1 = "" then none
  else some (splitMode action)

/-- A name without control characters and within the bound. -/
structure BoundedName (action : String) : Prop where
  nonempty : action ≠ ""
  bounded : action.utf8ByteSize ≤ maxActionBytes
  printable : hasControl action = false

theorem hasControl_append (first second : String) :
    hasControl (first ++ second) = (hasControl first || hasControl second) := by
  rw [hasControl, String.toList_append, List.any_append]
  rfl

/-- The base of an accepted name is bounded as well. -/
theorem normalizeAction_eq_some {action base : String} {mode : ActionMode}
    (hnormal : normalizeAction action = some (base, mode)) :
    action = base ++ mode.suffix ∧ trim action = action ∧ BoundedName base := by
  unfold normalizeAction at hnormal
  split at hnormal
  · cases hnormal
  · next hvalid =>
      split at hnormal
      · cases hnormal
      · next hbase =>
          have hsplit := splitMode_append action
          rw [Option.some.inj hnormal] at hsplit hbase
          obtain ⟨-, hsize, hcontrol, htrim⟩ :
              action ≠ "" ∧ action.utf8ByteSize ≤ maxActionBytes ∧
                ¬ hasControl action = true ∧ trim action = action := by
            simpa only [not_or, not_lt, not_not, ne_eq] using hvalid
          refine ⟨hsplit.symm, htrim, hbase, ?_, ?_⟩
          · rw [← hsplit, String.utf8ByteSize_append] at hsize
            exact (Nat.le_add_right _ _).trans hsize
          · rw [← hsplit, hasControl_append, Bool.or_eq_true, not_or] at hcontrol
            simpa using hcontrol.1

/-! ## Identifiers -/

/-- The identifier that a value is read as. -/
def identifierOf : Json → Option Nat
  | .integer number => asU64 (.integer number)
  | .string text => parseU64 text
  | _ => none

theorem asU64_eq_some {value : Json} {number : Nat} (hvalue : asU64 value = some number) :
    number < 2 ^ 64 := by
  cases value with
  | integer value =>
      rw [asU64] at hvalue
      split at hvalue
      · next hrange =>
          obtain rfl := Option.some.inj hvalue
          omega
      · cases hvalue
  | null => cases hvalue
  | bool flag => cases hvalue
  | decimal literal => cases hvalue
  | string text => cases hvalue
  | array items => cases hvalue
  | object fields => cases hvalue

theorem parseDigitsU64_eq_some {text : String} {number : Nat}
    (hparse : parseDigitsU64 text = some number) : number < 2 ^ 64 := by
  unfold parseDigitsU64 at hparse
  split at hparse
  · next hdigits =>
      obtain rfl := Option.some.inj hparse
      simp only [Bool.and_eq_true, decide_eq_true_eq] at hdigits
      exact hdigits.2
  · cases hparse

theorem parseU64_eq_some {text : String} {number : Nat} (hparse : parseU64 text = some number) :
    number < 2 ^ 64 := by
  unfold parseU64 at hparse
  split at hparse
  · exact parseDigitsU64_eq_some hparse
  · exact parseDigitsU64_eq_some hparse

theorem identifierOf_lt {value : Json} {id : Nat} (hid : identifierOf value = some id) :
    id < 2 ^ 64 := by
  cases value with
  | integer number =>
      have hnumber : asU64 (.integer number) = some id := hid
      exact asU64_eq_some hnumber
  | string text => exact parseU64_eq_some hid
  | null => cases hid
  | bool flag => cases hid
  | decimal literal => cases hid
  | array items => cases hid
  | object fields => cases hid

def parseId (value : Json) : Except String UInt64 :=
  okOr "self_id must be a positive integer or decimal string"
    (((identifierOf value).filter (· ≠ 0)).map UInt64.ofNat)

/-- The number that is read is the account, and not zero. -/
theorem parseId_eq_ok_iff {value : Json} {id : UInt64} :
    parseId value = .ok id ↔ identifierOf value = some id.toNat ∧ id ≠ 0 := by
  rw [parseId, okOr_eq_ok_iff, Option.map_eq_some_iff]
  constructor
  · rintro ⟨number, hfilter, rfl⟩
    obtain ⟨hread, hpositive⟩ := Option.filter_eq_some_iff.mp hfilter
    have hnumber : (UInt64.ofNat number).toNat = number :=
      UInt64.toNat_ofNat_of_lt' (identifierOf_lt hread)
    refine ⟨by rw [hnumber, hread], fun hzero => ?_⟩
    rw [hzero] at hnumber
    exact of_decide_eq_true hpositive hnumber.symm
  · rintro ⟨hread, hne⟩
    refine ⟨id.toNat, Option.filter_eq_some_iff.mpr ⟨hread, ?_⟩, UInt64.ofNat_toNat⟩
    rw [decide_eq_true_eq]
    exact fun hzero => hne (UInt64.toNat_inj.mp hzero)

def parseOptionalId (topLevel : Option Json) (params : List (String × Json)) :
    Except String (Option UInt64) :=
  match topLevel.or (params.lookup "self_id") with
  | none => .ok none
  | some value => (parseId value).map some

/-- The parameters of a request. -/
def paramsOf : Option Json → Option (List (String × Json))
  | none => some []
  | some .null => some []
  | some (.object params) => some params
  | some _ => none

def fromJson (value : Json) : Except ActionResponse ActionRequest := do
  let object ← okOr (.badRequest none "action request must be an object") value.asObject
  let echo := object.lookup "echo"
  let name ← okOr (.badRequest echo "action is required")
    ((object.lookup "action").bind Json.asStr)
  let normalized ← okOr (.badRequest echo "action name is invalid") (normalizeAction name)
  let params ← okOr (.badRequest echo "params must be an object")
    (paramsOf (object.lookup "params"))
  let selfId ← (parseOptionalId (object.lookup "self_id") params).mapError
    (ActionResponse.badRequest echo)
  return { action := normalized.1, params := params, echo := echo, selfId := selfId,
           mode := normalized.2 }

/-- `Map::remove` -/
def removeField (key : String) (fields : List (String × Json)) : List (String × Json) :=
  fields.filter fun field => field.1 ≠ key

def fromHttp (action : String) (params : List (String × Json)) :
    Except ActionResponse ActionRequest := do
  let normalized ← okOr (.badRequest none "action name is invalid") (normalizeAction action)
  let selfId ← (parseOptionalId none params).mapError (ActionResponse.badRequest none)
  return { action := normalized.1, params := removeField "self_id" params, echo := none,
           selfId := selfId, mode := normalized.2 }

/-- `AccountActionRequest::new`: the action that an account's channel takes. -/
def accountAction (action : String) (params : List (String × Json)) :
    Except AccountActionError (String × List (String × Json)) :=
  if action = "" ∨ maxActionBytes < action.utf8ByteSize ∨ trim action ≠ action ∨
      hasControl action then
    .error .badParameters
  else
    .ok (action, params)

theorem okOr_eq_error {ε α : Type} {error other : ε} {option : Option α}
    (herror : okOr error option = .error other) : other = error := by
  cases option with
  | none => exact (Except.error.inj herror).symm
  | some value => cases herror

/-- What is answered to a value that is no request: the value's echo is sent back. -/
theorem fromJson_eq_error {value : Json} {response : ActionResponse}
    (herror : fromJson value = .error response) :
    ∃ message, response = .badRequest (value.get "echo") message := by
  cases value with
  | object object =>
      show ∃ message, response = .badRequest (object.lookup "echo") message
      rcases bind_eq_error_iff.mp herror with herror | ⟨fields, hfields, herror⟩
      · cases herror
      obtain rfl : object = fields := Except.ok.inj hfields
      rcases bind_eq_error_iff.mp herror with herror | ⟨name, -, herror⟩
      · exact ⟨_, okOr_eq_error herror⟩
      rcases bind_eq_error_iff.mp herror with herror | ⟨normalized, -, herror⟩
      · exact ⟨_, okOr_eq_error herror⟩
      rcases bind_eq_error_iff.mp herror with herror | ⟨params, -, herror⟩
      · exact ⟨_, okOr_eq_error herror⟩
      rcases bind_eq_error_iff.mp herror with herror | ⟨selfId, -, herror⟩
      · cases hid : parseOptionalId (object.lookup "self_id") params with
        | ok id => rw [hid] at herror; cases herror
        | error message =>
            rw [hid] at herror
            exact ⟨message, (Except.error.inj herror).symm⟩
      · cases herror
  | null => exact ⟨_, (Except.error.inj herror).symm⟩
  | bool flag => exact ⟨_, (Except.error.inj herror).symm⟩
  | integer number => exact ⟨_, (Except.error.inj herror).symm⟩
  | decimal literal => exact ⟨_, (Except.error.inj herror).symm⟩
  | string text => exact ⟨_, (Except.error.inj herror).symm⟩
  | array items => exact ⟨_, (Except.error.inj herror).symm⟩

/-- A request as it was taken from a value. -/
structure TakenFrom (value : Json) (request : ActionRequest) : Prop where
  echo : request.echo = value.get "echo"
  /-- The name, behind it the suffix of the mode. -/
  action : (value.get "action").bind Json.asStr =
    some (request.action ++ request.mode.suffix)
  name : BoundedName request.action
  params : paramsOf (value.get "params") = some request.params
  selfId : parseOptionalId (value.get "self_id") request.params = .ok request.selfId

theorem fromJson_eq_ok {value : Json} {request : ActionRequest}
    (hok : fromJson value = .ok request) : TakenFrom value request := by
  obtain ⟨object, hobject, hok⟩ := bind_eq_ok_iff.mp hok
  obtain ⟨name, hname, hok⟩ := bind_eq_ok_iff.mp hok
  obtain ⟨normalized, hnormalized, hok⟩ := bind_eq_ok_iff.mp hok
  obtain ⟨params, hparams, hok⟩ := bind_eq_ok_iff.mp hok
  obtain ⟨selfId, hselfId, hrequest⟩ := bind_eq_ok_iff.mp hok
  cases hrequest
  rw [okOr_eq_ok_iff] at hobject hname hnormalized hparams
  have hget : ∀ key, value.get key = object.lookup key := by
    intro key
    cases value <;> first | cases hobject; rfl | cases hobject
  obtain ⟨hsplit, -, hbounded⟩ := normalizeAction_eq_some hnormalized
  exact {
    echo := (hget "echo").symm
    action := by rw [hget, hname, hsplit]
    name := hbounded
    params := by rw [hget]; exact hparams
    selfId := by rw [hget]; exact mapError_eq_ok_iff.mp hselfId }

/-- The account channel refuses an action of the adapter only for a blank that its suffix
hid. -/
theorem accountAction_isOk_iff {action base : String} {mode : ActionMode}
    (hnormal : normalizeAction action = some (base, mode)) (params : List (String × Json)) :
    accountAction base params = .ok (base, params) ↔ trim base = base := by
  obtain ⟨-, -, hname⟩ := normalizeAction_eq_some hnormal
  unfold accountAction
  have hsize := hname.bounded
  simp [hname.nonempty, hname.printable, hsize]

/-! ## The format of identifiers -/

def isIdentifierKey (key : String) : Bool :=
  key ∈ ["self_id", "user_id", "group_id", "operator_id", "invitor_id", "message_id", "real_id"]

def projectIdentifier (idFormat : IdFormat) (value : Json) : Json :=
  match identifierOf value with
  | some id => idFormat.value id
  | none => value

mutual

def projectData (idFormat : IdFormat) : Json → Json
  | .array items => .array (projectItems idFormat items)
  | .object fields => .object (projectFields idFormat fields)
  | .null => .null
  | .bool value => .bool value
  | .integer value => .integer value
  | .decimal literal => .decimal literal
  | .string value => .string value

def projectItems (idFormat : IdFormat) : List Json → List Json
  | [] => []
  | item :: rest => projectData idFormat item :: projectItems idFormat rest

def projectFields (idFormat : IdFormat) : List (String × Json) → List (String × Json)
  | [] => []
  | (key, value) :: rest =>
      (key, if isIdentifierKey key then projectIdentifier idFormat value
        else projectData idFormat value) :: projectFields idFormat rest

end

/-! ## Identifiers in another format -/

theorem toList_decimalText (number : Nat) :
    (Json.decimalText number).toList = Nat.toDigits 10 number := by
  rw [Json.decimalText, String.toList_ofList]
  rfl

theorem parseDigitsU64_decimalText {number : Nat} (hnumber : number < 2 ^ 64) :
    parseDigitsU64 (Json.decimalText number) = some number := by
  have hall : (Nat.toDigits 10 number).all isDigit = true := by
    rw [List.all_eq_true]
    intro digit hdigit
    exact isDigit_of_isDigit (Nat.isDigit_of_mem_toDigits (by decide) (by decide) hdigit)
  have hne : Json.decimalText number ≠ "" := by
    intro hempty
    have hchars := congrArg String.toList hempty
    rw [toList_decimalText] at hchars
    exact Nat.toDigits_ne_nil hchars
  unfold parseDigitsU64
  rw [toList_decimalText, decimalValue_toDigits]
  simpa [hall, hne] using hnumber

/-- A decimal number has no sign. -/
theorem parseU64_decimalText {number : Nat} (hnumber : number < 2 ^ 64) :
    parseU64 (Json.decimalText number) = some number := by
  unfold parseU64
  split
  · next digits hsign =>
      rw [toList_decimalText] at hsign
      have hmem : '+' ∈ Nat.toDigits 10 number := by
        rw [hsign]
        exact List.mem_cons_self
      exact absurd (Nat.isDigit_of_mem_toDigits (by decide) (by decide) hmem) (by decide)
  · exact parseDigitsU64_decimalText hnumber

theorem identifierOf_value {id : Nat} (hid : id < 2 ^ 64) (idFormat : IdFormat) :
    identifierOf (idFormat.value id) = some id := by
  cases idFormat with
  | string => exact parseU64_decimalText hid
  | number =>
      show asU64 (.integer id) = some id
      simp only [asU64]
      rw [if_pos ⟨Int.natCast_nonneg id, by exact_mod_cast hid⟩, Int.toNat_natCast]

/-- The number of an identifier is the same in every format. -/
theorem identifierOf_projectIdentifier (idFormat : IdFormat) (value : Json) :
    identifierOf (projectIdentifier idFormat value) = identifierOf value := by
  unfold projectIdentifier
  cases hid : identifierOf value with
  | none => exact hid
  | some id => exact identifierOf_value (identifierOf_lt hid) idFormat

theorem projectIdentifier_projectIdentifier (first second : IdFormat) (value : Json) :
    projectIdentifier second (projectIdentifier first value) = projectIdentifier second value := by
  rw [projectIdentifier, identifierOf_projectIdentifier]
  cases hid : identifierOf value with
  | none =>
      simp only [projectIdentifier, hid]
  | some id =>
      simp only [projectIdentifier, hid]

mutual

/-- An endpoint shows data in its format whatever format the data has been given before. -/
theorem projectData_projectData (first second : IdFormat) : ∀ data : Json,
    projectData second (projectData first data) = projectData second data
  | .array items => by
      rw [projectData, projectData, projectData, projectItems_projectItems first second items]
  | .object fields => by
      rw [projectData, projectData, projectData, projectFields_projectFields first second fields]
  | .null => rfl
  | .bool _ => rfl
  | .integer _ => rfl
  | .decimal _ => rfl
  | .string _ => rfl

theorem projectItems_projectItems (first second : IdFormat) : ∀ items : List Json,
    projectItems second (projectItems first items) = projectItems second items
  | [] => rfl
  | item :: rest => by
      rw [projectItems, projectItems, projectItems, projectData_projectData first second item,
        projectItems_projectItems first second rest]

theorem projectFields_projectFields (first second : IdFormat) :
    ∀ fields : List (String × Json),
    projectFields second (projectFields first fields) = projectFields second fields
  | [] => rfl
  | (key, value) :: rest => by
      rw [projectFields, projectFields, projectFields,
        projectFields_projectFields first second rest]
      cases isIdentifierKey key with
      | true => simp only [if_true, projectIdentifier_projectIdentifier]
      | false =>
          simp only [Bool.false_eq_true, if_false, projectData_projectData first second value]

end

end Dispatch
end Lirvena
