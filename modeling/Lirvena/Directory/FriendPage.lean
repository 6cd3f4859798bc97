import Lirvena.Lib.Distinct
import Lirvena.Lib.Proto3
import Lirvena.Lib.Text

/-!
# Pages of the friend directory

A request names the page by the number that the page before ended with.  An answer is
taken over entry by entry, each under a number that the page has not had before, and
one bad entry refuses the whole page.
-/

namespace Lirvena
namespace Directory

open Lib

/-! ## Entries under distinct numbers -/

/-- At most so many bytes, and no control characters. -/
def validText (value : String) (max : Nat) : Bool :=
  value.utf8ByteSize ≤ max && !hasControl value

/-- Entries parsed one behind another, with the numbers `seen` so far. -/
def parseEntries {ρ α ε : Type} (parse : ρ → Except ε α) (uin : α → UInt32) (duplicate : ε) :
    List UInt32 → List ρ → Except ε (List α)
  | _, [] => return []
  | seen, raw :: rest => do
      let entry ← parse raw
      rejectIf duplicate (uin entry ∈ seen)
      let entries ← parseEntries parse uin duplicate (uin entry :: seen) rest
      return entry :: entries

section Entries

variable {ρ α ε : Type} {parse : ρ → Except ε α} {uin : α → UInt32} {duplicate : ε}

/-- Entries are accepted exactly when each is, under a number of its own. -/
theorem parseEntries_eq_ok_iff {seen : List UInt32} {raws : List ρ} {entries : List α} :
    parseEntries parse uin duplicate seen raws = .ok entries ↔
      List.Forall₂ (fun raw entry => parse raw = .ok entry) raws entries ∧
        (entries.map uin).Nodup ∧ (entries.map uin).Disjoint seen := by
  induction raws generalizing seen entries with
  | nil =>
      constructor
      · intro hparse
        cases hparse
        exact ⟨.nil, List.nodup_nil, List.disjoint_nil_left seen⟩
      · rintro ⟨hentries, -⟩
        cases hentries
        rfl
  | cons raw rest ih =>
      unfold parseEntries
      constructor
      · intro hparse
        obtain ⟨entry, hentry, hparse⟩ := bind_eq_ok_iff.mp hparse
        obtain ⟨⟨⟩, hnew, hparse⟩ := bind_eq_ok_iff.mp hparse
        obtain ⟨others, hothers, hparse⟩ := bind_eq_ok_iff.mp hparse
        cases hparse
        obtain ⟨hrest, hdistinct⟩ := ih.mp hothers
        exact ⟨.cons hentry hrest,
          nodup_disjoint_cons_iff.mpr ⟨rejectIf_eq_ok_iff.mp hnew, hdistinct⟩⟩
      · rintro ⟨hentries, hdistinct⟩
        cases hentries with
        | cons hentry hrest =>
            obtain ⟨hnew, hdistinct⟩ := nodup_disjoint_cons_iff.mp hdistinct
            refine bind_eq_ok_iff.mpr ⟨_, hentry, bind_eq_ok_iff.mpr ⟨(), ?_, ?_⟩⟩
            · exact rejectIf_eq_ok_iff.mpr hnew
            · exact bind_eq_ok_iff.mpr ⟨_, ih.mpr ⟨hrest, hdistinct⟩, rfl⟩

end Entries

/-! ## Friends -/

def maxFriendsPerPage : Nat := 300

def requestFriendCount : Nat := 300

def maxUidBytes : Nat := 128

def maxFriendTextBytes : Nat := 1024

/-- One bounded QQ friend directory entry. -/
structure FriendEntry where
  uin : UInt32
  uid : String
  nickname : String
  remark : String
  signature : String
  qid : String
  deriving DecidableEq

/-- One validated page of the QQ friend directory. -/
structure FriendPage where
  friends : List FriendEntry
  nextUin : Option UInt32
  deriving DecidableEq

inductive FriendDirectoryError where
  | invalid
  deriving DecidableEq

structure FriendProperty where
  code : UInt32
  value : String

structure FriendLayer where
  properties : List FriendProperty

structure FriendAdditional where
  kind : UInt32
  layer : Option FriendLayer

structure RawFriend where
  uid : String
  uin : UInt32
  additional : List FriendAdditional

structure FriendResponse where
  next : Option UInt32
  friends : List RawFriend

structure FriendResponseEnvelope where
  errorCode : UInt32
  body : Option FriendResponse

open Protobuf in
/-- Encodes one Linux NT friend-directory page request. -/
def encodeFriendPageRequest (nextUin : Option UInt32) : List UInt8 :=
  let next := nextUin.map fun uin => messageField 5 (varintField 1 uin.toNat)
  let property := fun kind numbers =>
    messageField 10001 (varintField 1 kind ++ [messageField 2 (packedField 1 numbers)])
  let body := varintField 2 requestFriendCount ++ next.toList ++ varintField 6 1 ++
    varintField 7 0x7fffffff ++ [property 1 [103, 102, 20002, 27394], property 4 [100, 101, 102]] ++
    packedField 10002 [13578, 13579, 13573, 13572, 13568] ++ varintField 10003 4051
  encodeMessage (varintField 1 0x0fd4 ++ varintField 2 1 ++ varintField 3 0 ++
    [messageField 4 body])

/-- The properties by code; a code that comes twice is refused. -/
def readProperties : List (UInt32 × String) → List FriendProperty →
    Except FriendDirectoryError (List (UInt32 × String))
  | properties, [] => return properties
  | properties, property :: rest => do
      rejectIf .invalid (!validText property.value maxFriendTextBytes ∨
        property.code ∈ properties.map Prod.fst)
      readProperties ((property.code, property.value) :: properties) rest

def propertyOrDefault (properties : List (UInt32 × String)) (code : UInt32) (default : String) :
    String :=
  (properties.lookup code).getD default

def parseFriend (raw : RawFriend) : Except FriendDirectoryError FriendEntry := do
  rejectIf .invalid (raw.uin = 0 ∨ !validText raw.uid maxUidBytes ∨ raw.uid = "")
  let additional := raw.additional.find? fun value => value.kind = 1
  let layer ← okOr .invalid (additional.bind FriendAdditional.layer)
  let properties ← readProperties [] layer.properties
  return {
    uin := raw.uin
    uid := raw.uid
    nickname := propertyOrDefault properties 20002 (toString raw.uin.toNat)
    remark := propertyOrDefault properties 103 ""
    signature := propertyOrDefault properties 102 ""
    qid := propertyOrDefault properties 27394 "" }

/-- Parses one Linux NT friend-directory page response. -/
def parseFriendPage (decode : List UInt8 → Option FriendResponseEnvelope) (input : List UInt8) :
    Except FriendDirectoryError FriendPage := do
  let envelope ← okOr .invalid (decode input)
  rejectIf .invalid (envelope.errorCode ≠ 0)
  let body ← okOr .invalid envelope.body
  rejectIf .invalid (maxFriendsPerPage < body.friends.length)
  let friends ← parseEntries parseFriend FriendEntry.uin .invalid [] body.friends
  return ⟨friends, body.next.filter (· ≠ 0)⟩

/-- Each accepted page is bounded and has its friends under numbers of their own. -/
theorem parseFriendPage_bounded {decode : List UInt8 → Option FriendResponseEnvelope}
    {input : List UInt8} {page : FriendPage} (hparse : parseFriendPage decode input = .ok page) :
    page.friends.length ≤ maxFriendsPerPage ∧ (page.friends.map FriendEntry.uin).Nodup ∧
      page.nextUin ≠ some 0 := by
  obtain ⟨envelope, -, hparse⟩ := bind_eq_ok_iff.mp hparse
  obtain ⟨⟨⟩, -, hparse⟩ := bind_eq_ok_iff.mp hparse
  obtain ⟨body, -, hparse⟩ := bind_eq_ok_iff.mp hparse
  obtain ⟨⟨⟩, hcount, hparse⟩ := bind_eq_ok_iff.mp hparse
  obtain ⟨friends, hfriends, hparse⟩ := bind_eq_ok_iff.mp hparse
  cases hparse
  obtain ⟨hentries, hnodup, -⟩ := parseEntries_eq_ok_iff.mp hfriends
  have hcount := Nat.not_lt.mp (rejectIf_eq_ok_iff.mp hcount)
  exact ⟨hentries.length_eq ▸ hcount, hnodup, by simp⟩

end Directory
end Lirvena
