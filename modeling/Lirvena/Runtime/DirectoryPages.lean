import Lirvena.Directory.MemberPage
import Lirvena.Lib.KeyedMap
import Lirvena.Lib.Paging
import Lirvena.Runtime.SendSegments

/-!
# Reading a directory page by page

`refresh_friends` and `fetch_group_members` are loops over the pages of a server that
may answer anything.  The friends are followed unless a page names itself again, and
replace the cache once the last page is in; the members are followed unless a page names
any page before, and there is a limit to their number.
-/

namespace Lirvena
namespace Runtime

open Directory
open Lib

/-- What is outside: the answer to the request of a turn, and the decoders of answers. -/
structure DirectoryServer where
  sendWithReserve : Nat → String → List UInt8 → Option (List UInt8)
  decodeFriends : List UInt8 → Option FriendResponseEnvelope
  decodeMembers : List UInt8 → Option MemberResponseEnvelope

def maxPages : Nat := 64

def maxMembers : Nat := 100000

/-! ## Friends -/

/-- The friends by their numbers. -/
abbrev FriendCache := KeyedMap fun friend : FriendEntry => friend.uin.toNat

namespace DirectoryServer

variable (server : DirectoryServer)

def friendPage (sent : Nat) (body : List UInt8) : Except AccountActionError FriendPage := do
  let response ← okOr .qqFailure (server.sendWithReserve sent "OidbSvcTrpcTcp.0xfd4_1" body)
  failing .qqFailure (parseFriendPage server.decodeFriends response)

def memberPage (sent : Nat) (body : List UInt8) : Except AccountActionError GroupMemberPage := do
  let response ← okOr .qqFailure (server.sendWithReserve sent "OidbSvcTrpcTcp.0xfe7_3" body)
  failing .qqFailure (parseGroupMemberPage server.decodeMembers response)

end DirectoryServer

/-- A page that names the page it was asked for itself is not followed. -/
def followFriends (next : Option UInt32) (value : UInt32) :
    Except AccountActionError (Option UInt32) :=
  if some value ≠ next then .ok (some value) else .error .qqFailure

def collectFriends (collected : FriendCache) (page : FriendPage) :
    Except AccountActionError FriendCache :=
  okOr .qqFailure (page.friends.foldlM KeyedMap.insertNew collected)

theorem cursor_followFriends {next after : Option UInt32} {value : UInt32}
    (hfollow : followFriends next value = .ok after) : after = some value := by
  unfold followFriends at hfollow
  split at hfollow
  · exact (Except.ok.inj hfollow).symm
  · cases hfollow

/-- The loop of `refresh_friends`. -/
def friendLoop :
    PageLoop FriendPage UInt32 (Option UInt32) FriendCache (List UInt8) AccountActionError where
  request next := .ok (encodeFriendPageRequest next)
  cursor := id
  collect := collectFriends
  next := FriendPage.nextUin
  follow := followFriends
  cursor_follow := cursor_followFriends
  exhausted := .qqFailure

/-- How a refresh ends: the cache, the requests that were sent, and the result. -/
structure FriendRefresh where
  friends : FriendCache
  requests : Nat
  result : Except AccountActionError Unit

def refreshFriends (server : DirectoryServer) (friends : FriendCache) : FriendRefresh :=
  match friendLoop.run server.friendPage maxPages 0 none (KeyedMap.empty _) with
  | (sent, .ok collected) => ⟨collected, sent, .ok ()⟩
  | (sent, .error error) => ⟨friends, sent, .error error⟩

/-- The pages of a whole friend directory, each asked for with the number that the page
before ended with. -/
abbrev FriendChain (server : DirectoryServer) (pages : List FriendPage) : Prop :=
  PageChain (friendLoop.ask server.friendPage) FriendPage.nextUin 0 none pages

theorem followFriends_eq_ok_iff {next after : Option UInt32} {value : UInt32} :
    followFriends next value = .ok after ↔ some value ≠ next ∧ after = some value := by
  unfold followFriends
  by_cases hnew : some value ≠ next
  · simp [hnew, eq_comm]
  · simp [hnew]

/-- Numbers are followed throughout unless one comes twice in a row. -/
theorem followAll_friends {next : Option UInt32} {values : List UInt32} :
    (∃ last, values.foldlM followFriends next = .ok last) ↔
      (next.toList ++ values).IsChain (· ≠ ·) := by
  induction values generalizing next with
  | nil =>
      rw [List.append_nil]
      cases next with
      | none => exact iff_of_true ⟨none, rfl⟩ .nil
      | some previous => exact iff_of_true ⟨some previous, rfl⟩ (.singleton previous)
  | cons value rest ih =>
      have hstep : (∃ last, (value :: rest).foldlM followFriends next = .ok last) ↔
          some value ≠ next ∧ (value :: rest).IsChain (· ≠ ·) := by
        rw [show value :: rest = (some value).toList ++ rest from rfl, ← ih]
        constructor
        · rintro ⟨last, hlast⟩
          obtain ⟨after, hfollow, hlast⟩ := bind_eq_ok_iff.mp hlast
          obtain ⟨hnew, rfl⟩ := followFriends_eq_ok_iff.mp hfollow
          exact ⟨hnew, last, hlast⟩
        · rintro ⟨hnew, last, hlast⟩
          exact ⟨last, bind_eq_ok_iff.mpr
            ⟨some value, followFriends_eq_ok_iff.mpr ⟨hnew, rfl⟩, hlast⟩⟩
      rw [hstep]
      cases next with
      | none => simp
      | some previous => simp [List.isChain_cons_cons, eq_comm]

/-- A fold over pages is one over all of their entries. -/
theorem collectAll_friends {collected result : FriendCache} {pages : List FriendPage} :
    pages.foldlM collectFriends collected = .ok result ↔
      (pages.flatMap FriendPage.friends).foldlM KeyedMap.insertNew collected = some result := by
  induction pages generalizing collected with
  | nil =>
      constructor
      · intro hsame
        exact congrArg some (Except.ok.inj hsame)
      · intro hsame
        exact congrArg Except.ok (Option.some.inj hsame)
  | cons page rest ih =>
      rw [List.flatMap_cons, List.foldlM_append, Option.bind_eq_bind, Option.bind_eq_some_iff,
        List.foldlM_cons, bind_eq_ok_iff]
      refine exists_congr fun next => and_congr ?_ ih
      exact okOr_eq_ok_iff

/-- The friends of all pages under numbers of their own, and nothing else. -/
structure FriendUnion (server : DirectoryServer) (pages : List FriendPage)
    (friends : FriendCache) : Prop where
  chain : FriendChain server pages
  bounded : pages.length ≤ maxPages
  progress : (pages.filterMap FriendPage.nextUin).IsChain (· ≠ ·)
  distinct : ((pages.flatMap FriendPage.friends).map FriendEntry.uin).Nodup
  union : friends.entries.Perm (pages.flatMap FriendPage.friends)

theorem friendLoop_eq_ok_iff {server : DirectoryServer} {result : FriendCache} :
    (friendLoop.run server.friendPage maxPages 0 none (KeyedMap.empty _)).2 = .ok result ↔
      ∃ pages, FriendUnion server pages result := by
  rw [PageLoop.run_eq_ok_iff]
  refine exists_congr fun pages => ?_
  have hkeys : (((KeyedMap.empty fun friend : FriendEntry => friend.uin.toNat).entries ++
      pages.flatMap FriendPage.friends).map fun friend => friend.uin.toNat).Nodup ↔
        ((pages.flatMap FriendPage.friends).map FriendEntry.uin).Nodup := by
    have hinjective : Function.Injective UInt32.toNat := fun _ _ => UInt32.toNat.inj
    rw [← List.nodup_map_iff hinjective, List.map_map]
    rfl
  constructor
  · rintro ⟨hchain, hlength, hcollect, hfollow⟩
    obtain ⟨hnodup, hunion⟩ := KeyedMap.insertAll_eq_some_iff.mp (collectAll_friends.mp hcollect)
    exact ⟨hchain, hlength, followAll_friends.mp hfollow, hkeys.mp hnodup, hunion⟩
  · rintro ⟨hchain, hlength, hprogress, hdistinct, hunion⟩
    refine ⟨hchain, hlength, collectAll_friends.mpr ?_, followAll_friends.mpr hprogress⟩
    exact KeyedMap.insertAll_eq_some_iff.mpr ⟨hkeys.mpr hdistinct, hunion⟩

/-- A refresh replaces the cache exactly at the end of a whole chain of pages with
distinct friends, and otherwise leaves it alone. -/
theorem refreshFriends_cases (server : DirectoryServer) (friends : FriendCache) :
    (∃ pages collected, FriendUnion server pages collected ∧
      (refreshFriends server friends).result = .ok () ∧
        (refreshFriends server friends).friends = collected) ∨
    (¬ ∃ pages collected, FriendUnion server pages collected) ∧
      (∃ error, (refreshFriends server friends).result = .error error) ∧
        (refreshFriends server friends).friends = friends := by
  unfold refreshFriends
  cases hrun : friendLoop.run server.friendPage maxPages 0 none (KeyedMap.empty _) with
  | mk sent outcome =>
      cases outcome with
      | ok collected =>
          obtain ⟨pages, hunion⟩ := friendLoop_eq_ok_iff.mp (congrArg Prod.snd hrun)
          exact .inl ⟨pages, collected, hunion, rfl, rfl⟩
      | error error =>
          refine .inr ⟨?_, ⟨error, rfl⟩, rfl⟩
          rintro ⟨pages, collected, hunion⟩
          have hok := friendLoop_eq_ok_iff.mpr ⟨pages, hunion⟩
          rw [hrun] at hok
          cases hok

theorem refreshFriends_requests (server : DirectoryServer) (friends : FriendCache) :
    (refreshFriends server friends).requests ≤ maxPages := by
  have hsent := friendLoop.run_sent_le server.friendPage maxPages 0 none (KeyedMap.empty _)
  rw [Nat.zero_add] at hsent
  unfold refreshFriends
  split
  · next hrun =>
      rw [hrun] at hsent
      exact hsent
  · next hrun =>
      rw [hrun] at hsent
      exact hsent

/-! ## Members -/

/-- The text that the next page is asked for with, and all texts so far. -/
structure TokenTrail where
  token : Option String
  seenTokens : List String

/-- The members so far, and their numbers. -/
structure MemberStore where
  members : List Directory.GroupMember
  seenUins : List UInt32

/-- A page that names any page before is not followed. -/
def followToken (trail : TokenTrail) (next : String) : Except AccountActionError TokenTrail :=
  if next ∈ trail.seenTokens then .error .qqFailure
  else .ok ⟨some next, next :: trail.seenTokens⟩

def pushMember (store : MemberStore) (member : Directory.GroupMember) :
    Except AccountActionError MemberStore := do
  rejectIf .qqFailure (maxMembers ≤ store.members.length ∨ member.uin ∈ store.seenUins)
  return ⟨store.members ++ [member], member.uin :: store.seenUins⟩

theorem followToken_eq_ok_iff {trail after : TokenTrail} {next : String} :
    followToken trail next = .ok after ↔
      next ∉ trail.seenTokens ∧ after = ⟨some next, next :: trail.seenTokens⟩ := by
  unfold followToken
  by_cases hseen : next ∈ trail.seenTokens
  · simp [hseen]
  · simp [hseen, eq_comm]

/-- The loop of `fetch_group_members`. -/
def memberLoop (groupId : UInt32) :
    PageLoop GroupMemberPage String TokenTrail MemberStore (List UInt8) AccountActionError where
  request token := failing .badParameters (encodeGroupMemberPageRequest groupId token)
  cursor := TokenTrail.token
  collect store page := page.members.foldlM pushMember store
  next := GroupMemberPage.nextToken
  follow := followToken
  cursor_follow hfollow := by
    obtain ⟨-, rfl⟩ := followToken_eq_ok_iff.mp hfollow
    rfl
  exhausted := .qqFailure

/-- The requests that were sent, and the members. -/
def fetchGroupMembers (server : DirectoryServer) (groupId : UInt32) :
    Nat × Except AccountActionError (List Directory.GroupMember) :=
  let (sent, outcome) :=
    (memberLoop groupId).run server.memberPage maxPages 0 ⟨none, []⟩ ⟨[], []⟩
  (sent, MemberStore.members <$> outcome)

/-- The pages of a whole group, each asked for with the text that the page before names. -/
abbrev MemberChain (server : DirectoryServer) (groupId : UInt32) (pages : List GroupMemberPage) :
    Prop :=
  PageChain ((memberLoop groupId).ask server.memberPage) GroupMemberPage.nextToken 0 none pages

/-- Texts are followed throughout unless one comes twice. -/
theorem followAll_tokens {trail : TokenTrail} {values : List String} :
    (∃ last, values.foldlM followToken trail = .ok last) ↔
      values.Nodup ∧ values.Disjoint trail.seenTokens := by
  induction values generalizing trail with
  | nil => exact iff_of_true ⟨trail, rfl⟩ ⟨List.nodup_nil, List.disjoint_nil_left _⟩
  | cons value rest ih =>
      rw [nodup_disjoint_cons_iff]
      constructor
      · rintro ⟨last, hlast⟩
        obtain ⟨after, hfollow, hlast⟩ := bind_eq_ok_iff.mp hlast
        obtain ⟨hnew, rfl⟩ := followToken_eq_ok_iff.mp hfollow
        exact ⟨hnew, ih.mp ⟨last, hlast⟩⟩
      · rintro ⟨hnew, hrest⟩
        obtain ⟨last, hlast⟩ : ∃ last,
            rest.foldlM followToken ⟨some value, value :: trail.seenTokens⟩ = .ok last :=
          ih.mpr hrest
        have hfollow := followToken_eq_ok_iff.mpr ⟨hnew, rfl⟩
        exact ⟨last, bind_eq_ok_iff.mpr ⟨_, hfollow, hlast⟩⟩

/-- The store behind more members. -/
def MemberStore.push (store : MemberStore) (members : List Directory.GroupMember) : MemberStore :=
  ⟨store.members ++ members, (members.map Directory.GroupMember.uin).reverse ++ store.seenUins⟩

theorem pushMember_eq_ok_iff {store result : MemberStore} {member : Directory.GroupMember} :
    pushMember store member = .ok result ↔
      (store.members.length < maxMembers ∧ member.uin ∉ store.seenUins) ∧
        result = store.push [member] := by
  unfold pushMember
  rw [bind_eq_ok_iff]
  constructor
  · rintro ⟨⟨⟩, hchecked, hresult⟩
    cases hresult
    obtain ⟨hroom, hnew⟩ := not_or.mp (rejectIf_eq_ok_iff.mp hchecked)
    exact ⟨⟨Nat.not_le.mp hroom, hnew⟩, rfl⟩
  · rintro ⟨⟨hroom, hnew⟩, rfl⟩
    exact ⟨(), rejectIf_eq_ok_iff.mpr (not_or.mpr ⟨Nat.not_le.mpr hroom, hnew⟩), rfl⟩

/-- Members go in one behind another exactly when they are distinct and within the limit. -/
theorem pushAll_eq_ok_iff {store result : MemberStore} {members : List Directory.GroupMember}
    (hroom : store.members.length ≤ maxMembers) :
    members.foldlM pushMember store = .ok result ↔
      ((members.map Directory.GroupMember.uin).Nodup ∧
        (members.map Directory.GroupMember.uin).Disjoint store.seenUins) ∧
        store.members.length + members.length ≤ maxMembers ∧ result = store.push members := by
  induction members generalizing store with
  | nil =>
      have hsame : store.push [] = store := by
        unfold MemberStore.push
        simp
      rw [hsame]
      constructor
      · intro hresult
        exact ⟨⟨List.nodup_nil, List.disjoint_nil_left _⟩, hroom, (Except.ok.inj hresult).symm⟩
      · rintro ⟨-, -, rfl⟩
        rfl
  | cons member rest ih =>
      have hpush : (store.push [member]).push rest = store.push (member :: rest) := by
        unfold MemberStore.push
        simp
      have hlength : (store.push [member]).members.length = store.members.length + 1 :=
        List.length_append
      rw [List.map_cons, nodup_disjoint_cons_iff, List.length_cons]
      constructor
      · intro hfold
        obtain ⟨next, hmember, hfold⟩ := bind_eq_ok_iff.mp hfold
        obtain ⟨⟨hless, hnew⟩, rfl⟩ := pushMember_eq_ok_iff.mp hmember
        obtain ⟨hdistinct, hbound, rfl⟩ := (ih (by omega)).mp hfold
        exact ⟨⟨hnew, hdistinct⟩, by omega, hpush⟩
      · rintro ⟨⟨hnew, hdistinct⟩, hbound, rfl⟩
        have hless : store.members.length < maxMembers := by omega
        have hmember := pushMember_eq_ok_iff.mpr ⟨⟨hless, hnew⟩, rfl⟩
        refine bind_eq_ok_iff.mpr ⟨_, hmember, (ih (by omega)).mpr ⟨hdistinct, ?_, hpush.symm⟩⟩
        omega

/-- The members of all pages in their order, under numbers of their own. -/
structure MemberUnion (server : DirectoryServer) (groupId : UInt32) (pages : List GroupMemberPage)
    (members : List Directory.GroupMember) : Prop where
  chain : MemberChain server groupId pages
  bounded : pages.length ≤ maxPages
  progress : (pages.filterMap GroupMemberPage.nextToken).Nodup
  distinct : (members.map Directory.GroupMember.uin).Nodup
  limit : members.length ≤ maxMembers
  union : members = pages.flatMap GroupMemberPage.members

theorem collectAll_members {store result : MemberStore} {pages : List GroupMemberPage} :
    pages.foldlM (fun store page => page.members.foldlM pushMember store) store = .ok result ↔
      (pages.flatMap GroupMemberPage.members).foldlM pushMember store = .ok result := by
  induction pages generalizing store with
  | nil => exact Iff.rfl
  | cons page rest ih =>
      rw [List.flatMap_cons, List.foldlM_append, List.foldlM_cons, bind_eq_ok_iff,
        bind_eq_ok_iff]
      exact exists_congr fun next => and_congr_right fun _ => ih

/-- The members are returned exactly at the end of a whole chain of pages with distinct
members. -/
theorem fetchGroupMembers_eq_ok_iff {server : DirectoryServer} {groupId : UInt32}
    {members : List Directory.GroupMember} :
    (fetchGroupMembers server groupId).2 = .ok members ↔
      ∃ pages, MemberUnion server groupId pages members := by
  unfold fetchGroupMembers
  dsimp only
  rw [map_eq_ok_iff]
  constructor
  · rintro ⟨store, hstore, rfl⟩
    obtain ⟨pages, hchain, hlength, hcollect, hfollow⟩ := PageLoop.run_eq_ok_iff.mp hstore
    obtain ⟨⟨hdistinct, -⟩, hlimit, rfl⟩ :=
      (pushAll_eq_ok_iff (Nat.zero_le _)).mp (collectAll_members.mp hcollect)
    refine ⟨pages, hchain, hlength, (followAll_tokens.mp hfollow).1, hdistinct, ?_, rfl⟩
    rw [List.length_nil, Nat.zero_add] at hlimit
    exact hlimit
  · rintro ⟨pages, hchain, hlength, hprogress, hdistinct, hlimit, rfl⟩
    have hpushed : (pages.flatMap GroupMemberPage.members).foldlM pushMember ⟨[], []⟩ = .ok _ :=
      (pushAll_eq_ok_iff (Nat.zero_le _)).mpr
        ⟨⟨hdistinct, List.disjoint_nil_right _⟩, by simpa using hlimit, rfl⟩
    have hfollow : ∃ last, (pages.filterMap GroupMemberPage.nextToken).foldlM followToken
        ⟨none, []⟩ = .ok last :=
      followAll_tokens.mpr ⟨hprogress, List.disjoint_nil_right _⟩
    exact ⟨_, PageLoop.run_eq_ok_iff.mpr
      ⟨pages, hchain, hlength, collectAll_members.mpr hpushed, hfollow⟩, rfl⟩

theorem fetchGroupMembers_requests (server : DirectoryServer) (groupId : UInt32) :
    (fetchGroupMembers server groupId).1 ≤ maxPages := by
  have hsent := (memberLoop groupId).run_sent_le server.memberPage maxPages 0 ⟨none, []⟩ ⟨[], []⟩
  rw [Nat.zero_add] at hsent
  exact hsent

/-- Whatever a server answers: the cache becomes the friends of one whole chain of pages
or stays as it was, members are returned as the pages of one whole chain have them, and
there are at most 64 requests. -/
theorem directory_read_whole (server : DirectoryServer) :
    (∀ friends, (refreshFriends server friends).requests ≤ 64 ∧
      ((∃ pages collected, FriendUnion server pages collected ∧
        (refreshFriends server friends).result = .ok () ∧
          (refreshFriends server friends).friends = collected) ∨
      (¬ ∃ pages collected, FriendUnion server pages collected) ∧
        (∃ error, (refreshFriends server friends).result = .error error) ∧
          (refreshFriends server friends).friends = friends)) ∧
    ∀ groupId, (fetchGroupMembers server groupId).1 ≤ 64 ∧
      ∀ members, (fetchGroupMembers server groupId).2 = .ok members ↔
        ∃ pages, MemberUnion server groupId pages members :=
  ⟨fun friends => ⟨refreshFriends_requests server friends, refreshFriends_cases server friends⟩,
    fun groupId => ⟨fetchGroupMembers_requests server groupId,
      fun _ => fetchGroupMembers_eq_ok_iff⟩⟩

end Runtime
end Lirvena
