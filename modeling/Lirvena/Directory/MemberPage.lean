import Lirvena.Directory.FriendPage

/-!
# Pages of the members of a group

As for friends, but the next page is named by a text that the server chooses, and a
request with an unsafe one, or for no group, is not built.
-/

namespace Lirvena
namespace Directory

open Lib

def maxMembersPerPage : Nat := 5000

def maxTokenBytes : Nat := 4096

def maxMemberTextBytes : Nat := 4096

inductive GroupMemberRole where
  | member
  | owner
  | admin
  deriving DecidableEq

/-- One bounded QQ group member directory entry. -/
structure GroupMember where
  uin : UInt32
  uid : String
  nickname : String
  card : String
  level : UInt32
  role : GroupMemberRole
  specialTitle : String
  joinedAt : UInt32
  lastMessageAt : UInt32
  mutedUntil : UInt32
  deriving DecidableEq

/-- One validated member-directory page. -/
structure GroupMemberPage where
  members : List GroupMember
  nextToken : Option String
  deriving DecidableEq

inductive GroupDirectoryError where
  | invalid
  deriving DecidableEq

structure MemberIdentity where
  uid : String
  uin : UInt32

structure RawMember where
  identity : Option MemberIdentity
  nickname : String
  card : Option String
  level : Option UInt32
  specialTitle : Option String
  joinedAt : UInt32
  lastMessageAt : UInt32
  mutedUntil : Option UInt32
  permission : UInt32

structure MemberResponse where
  members : List RawMember
  token : Option String

structure MemberResponseEnvelope where
  errorCode : UInt32
  body : Option MemberResponse

/-- The fields of a member that a request asks for. -/
def memberFields : List Nat :=
  [10, 11, 12, 13, 16, 17, 18, 20, 21, 100, 101, 102, 103, 104, 105, 106, 107, 200, 201]

def validToken (token : Option String) : Prop :=
  ∀ value ∈ token, validText value maxTokenBytes

instance (token : Option String) : Decidable (validToken token) :=
  inferInstanceAs (Decidable (∀ value ∈ token, validText value maxTokenBytes))

open Protobuf in
/-- Encodes one Linux NT group-member page request. -/
def encodeGroupMemberPageRequest (groupId : UInt32) (token : Option String) :
    Except GroupDirectoryError (List UInt8) := do
  rejectIf .invalid (groupId = 0 ∨ ¬ validToken token)
  let fields := messageField 4 (memberFields.flatMap fun number => boolField number true)
  let last : Option Field := token.map fun value => ⟨15, .lengthDelimited (utf8Bytes value)⟩
  let body := varintField 1 groupId.toNat ++ varintField 2 5 ++ varintField 3 2 ++ [fields] ++
    last.toList
  return encodeMessage (varintField 1 0x0fe7 ++ varintField 2 3 ++ varintField 3 0 ++
    [messageField 4 body])

def parseMemberRole (permission : UInt32) : Option GroupMemberRole :=
  if permission = 0 then some .member
  else if permission = 1 then some .owner
  else if permission = 2 then some .admin
  else none

def parseMember (raw : RawMember) : Except GroupDirectoryError GroupMember := do
  let identity ← okOr .invalid raw.identity
  let card := raw.card.getD ""
  let role ← okOr .invalid (parseMemberRole raw.permission)
  rejectIf .invalid (identity.uin = 0 ∨ identity.uid = "" ∨ !validText identity.uid maxUidBytes ∨
    !validText raw.nickname maxMemberTextBytes ∨ !validText card maxMemberTextBytes ∨
    !validText (raw.specialTitle.getD "") maxMemberTextBytes)
  return {
    uin := identity.uin
    uid := identity.uid
    nickname := raw.nickname
    card := card
    level := raw.level.getD 0
    role := role
    specialTitle := raw.specialTitle.getD ""
    joinedAt := raw.joinedAt
    lastMessageAt := raw.lastMessageAt
    mutedUntil := raw.mutedUntil.getD 0 }

/-- Parses one Linux NT group-member page response. -/
def parseGroupMemberPage (decode : List UInt8 → Option MemberResponseEnvelope)
    (input : List UInt8) : Except GroupDirectoryError GroupMemberPage := do
  let envelope ← okOr .invalid (decode input)
  rejectIf .invalid (envelope.errorCode ≠ 0)
  let body ← okOr .invalid envelope.body
  rejectIf .invalid (maxMembersPerPage < body.members.length ∨ ¬ validToken body.token)
  let members ← parseEntries parseMember GroupMember.uin .invalid [] body.members
  return ⟨members, body.token.filter (· ≠ "")⟩

/-- Each accepted page is bounded, has its members under numbers of their own, and names
the next page by a text that a request may carry. -/
theorem parseGroupMemberPage_bounded {decode : List UInt8 → Option MemberResponseEnvelope}
    {input : List UInt8} {page : GroupMemberPage}
    (hparse : parseGroupMemberPage decode input = .ok page) :
    page.members.length ≤ maxMembersPerPage ∧ (page.members.map GroupMember.uin).Nodup ∧
      validToken page.nextToken := by
  obtain ⟨envelope, -, hparse⟩ := bind_eq_ok_iff.mp hparse
  obtain ⟨⟨⟩, -, hparse⟩ := bind_eq_ok_iff.mp hparse
  obtain ⟨body, -, hparse⟩ := bind_eq_ok_iff.mp hparse
  obtain ⟨⟨⟩, hchecked, hparse⟩ := bind_eq_ok_iff.mp hparse
  obtain ⟨members, hmembers, hparse⟩ := bind_eq_ok_iff.mp hparse
  cases hparse
  obtain ⟨hentries, hnodup, -⟩ := parseEntries_eq_ok_iff.mp hmembers
  obtain ⟨hcount, htoken⟩ := not_or.mp (rejectIf_eq_ok_iff.mp hchecked)
  refine ⟨hentries.length_eq ▸ Nat.not_lt.mp hcount, hnodup, ?_⟩
  intro value hvalue
  exact not_not.mp htoken value (Option.mem_filter_iff.mp hvalue).1

/-- A request is built exactly for a group and behind a safe text. -/
theorem encodeGroupMemberPageRequest_returns_iff {groupId : UInt32} {token : Option String} :
    Returns (encodeGroupMemberPageRequest groupId token) ↔ groupId ≠ 0 ∧ validToken token := by
  constructor
  · rintro ⟨bytes, hbuild⟩
    obtain ⟨⟨⟩, hchecked, -⟩ := bind_eq_ok_iff.mp hbuild
    obtain ⟨hgroup, htoken⟩ := not_or.mp (rejectIf_eq_ok_iff.mp hchecked)
    exact ⟨hgroup, not_not.mp htoken⟩
  · rintro ⟨hgroup, htoken⟩
    have hchecked := not_or.mpr ⟨hgroup, not_not.mpr htoken⟩
    exact ⟨_, bind_eq_ok_iff.mpr ⟨(), rejectIf_eq_ok_iff.mpr hchecked, rfl⟩⟩

end Directory
end Lirvena
