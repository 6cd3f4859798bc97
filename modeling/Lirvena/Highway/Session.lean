import Lirvena.Highway.Upload
import Lirvena.Lib.Distinct
import Lirvena.Lib.Proto3
import Lirvena.Lib.Text

/-!
# Upload sessions

A session is asked for with the ticket of the login.  The endpoints of the response are
usable IPv4 addresses, each once, at most thirty-two of them and those of service type 1
first.  The limit is applied while the endpoints are collected in the server's order, and
the preference only afterwards.
-/

namespace Lirvena
namespace Highway

open Lib

def maxSessionBytes : Nat := 64 * 1024

def maxEndpoints : Nat := 32

/-! ## The request -/

structure SessionRequestWire where
  field1 : UInt32
  field2 : UInt32
  field3 : UInt32
  field4 : UInt32
  tgtHex : String
  field6 : UInt32
  serviceTypes : List UInt32
  field9 : UInt32
  field10 : UInt32
  field11 : UInt32
  version : String
  deriving DecidableEq

def sessionRequestFields (request : SessionRequestWire) : List Protobuf.Field :=
  Protobuf.varintField 1 request.field1.toNat ++ Protobuf.varintField 2 request.field2.toNat ++
    Protobuf.varintField 3 request.field3.toNat ++ Protobuf.varintField 4 request.field4.toNat ++
      Protobuf.bytesField 5 (utf8Bytes request.tgtHex) ++
        Protobuf.varintField 6 request.field6.toNat ++
          Protobuf.packedField 7 (request.serviceTypes.map UInt32.toNat) ++
            Protobuf.varintField 9 request.field9.toNat ++
              Protobuf.varintField 10 request.field10.toNat ++
                Protobuf.varintField 11 request.field11.toNat ++
                  Protobuf.bytesField 15 (utf8Bytes request.version)

/-- The request for an upload session, with the ticket of the login in hexadecimal. -/
def encodeSessionRequest (tgt : List UInt8) : Except HighwayError (List UInt8) := do
  rejectIf .invalidInput (tgt = [] ∨ maxSecretBytes < tgt.length)
  return Protobuf.encodeMessage [Protobuf.messageField 1281 (sessionRequestFields
    { field1 := 0, field2 := 0, field3 := 16, field4 := 1,
      tgtHex := hexText lowerHexDigit tgt, field6 := 3, serviceTypes := [1, 5, 10, 21],
      field9 := 2, field10 := 9, field11 := 8, version := "1.0.1" })]

theorem encodeSessionRequest_isOk_iff {tgt : List UInt8} :
    (∃ body, encodeSessionRequest tgt = .ok body) ↔ tgt ≠ [] ∧ tgt.length ≤ maxSecretBytes := by
  simp only [encodeSessionRequest, bind_eq_ok_iff]
  constructor
  · rintro ⟨body, checked, hchecked, -⟩
    have haccepted := rejectIf_eq_ok_iff.mp hchecked
    push Not at haccepted
    exact haccepted
  · rintro ⟨hne, hlength⟩
    exact ⟨_, (), rejectIf_eq_ok_iff.mpr (by push Not; exact ⟨hne, hlength⟩), rfl⟩

/-! ## The response -/

structure ServerAddressWire where
  ipv4 : UInt32
  port : UInt32
  deriving DecidableEq

structure ServerInfoWire where
  serviceType : UInt32
  addresses : List ServerAddressWire
  deriving DecidableEq

structure SessionResponseWire where
  ticket : List UInt8
  sessionKey : List UInt8
  servers : List ServerInfoWire
  deriving DecidableEq

structure SessionResponseOuter where
  connection : Option SessionResponseWire
  deriving DecidableEq

/-- `Ipv4Addr::from(value.to_le_bytes())`. -/
def addressOfLe (value : UInt32) : UInt32 :=
  UInt32.ofNat (beNat (beBytes 4 value.toNat).reverse)

/-- The address is none of the reserved ones. -/
def isUsableEndpoint (address : UInt32) : Bool :=
  match (beBytes 4 address.toNat).map UInt8.toNat with
  | [a, b, c, d] =>
      !(a == 0 || a == 127 || a ≥ 224 || (a == 169 && b == 254) ||
        (a == 192 && b == 0 && c == 0) || (a == 192 && b == 0 && c == 2) ||
        (a == 198 && (b == 18 || b == 19)) || (a == 198 && b == 51 && c == 100) ||
        (a == 203 && b == 0 && c == 113) || (a == 255 && b == 255 && c == 255 && d == 255))
  | _ => false

/-- The endpoint of a candidate that has a port and a usable address. -/
def endpointOf (serviceType : UInt32) (candidate : ServerAddressWire) :
    Option HighwayEndpoint :=
  let address := addressOfLe candidate.ipv4
  match tryU16 candidate.port.toNat with
  | none => none
  | some port =>
      if port = 0 ∨ isUsableEndpoint address = false then none
      else some { serviceType := serviceType, address := address, port := port }

/-- The addresses of one server; the loop ends when the endpoints are at their limit. -/
def collectAddresses (serviceType : UInt32) (endpoints : List HighwayEndpoint) :
    List ServerAddressWire → List HighwayEndpoint
  | [] => endpoints
  | candidate :: rest =>
      if endpoints.length = maxEndpoints then endpoints
      else
        match endpointOf serviceType candidate with
        | none => collectAddresses serviceType endpoints rest
        | some endpoint =>
            if endpoint ∈ endpoints then collectAddresses serviceType endpoints rest
            else collectAddresses serviceType (endpoints ++ [endpoint]) rest

def collectServers (endpoints : List HighwayEndpoint) :
    List ServerInfoWire → List HighwayEndpoint
  | [] => endpoints
  | server :: rest =>
      collectServers (collectAddresses server.serviceType endpoints server.addresses) rest

def isPreferred (endpoint : HighwayEndpoint) : Bool :=
  endpoint.serviceType == 1

/-- `sort_by_key(|endpoint| u8::from(endpoint.service_type != 1))`, a stable sort. -/
def sortByPreference (endpoints : List HighwayEndpoint) : List HighwayEndpoint :=
  endpoints.insertionSort fun left right => rank isPreferred left ≤ rank isPreferred right

deriving instance DecidableEq for HighwaySession

/-- Decodes one bounded upload-session response; `decode` is the protobuf decoder. -/
def decodeSessionResponse (decode : List UInt8 → Option SessionResponseOuter)
    (input : List UInt8) : Except HighwayError HighwaySession := do
  rejectIf .malformedFrame (input = [] ∨ maxSessionBytes < input.length)
  let response ← okOr .malformedFrame (decode input)
  let connection ← okOr .unusableSession response.connection
  rejectIf .unusableSession (connection.ticket = [] ∨ maxSecretBytes < connection.ticket.length ∨
    maxSecretBytes < connection.sessionKey.length)
  let endpoints := collectServers [] connection.servers
  rejectIf .unusableSession (endpoints = [])
  return { ticket := connection.ticket, endpoints := sortByPreference endpoints }

/-! ## What the server offers -/

/-- The usable endpoints of all servers in the server's order. -/
def offered (servers : List ServerInfoWire) : List HighwayEndpoint :=
  servers.flatMap fun server => server.addresses.filterMap (endpointOf server.serviceType)

/-- The endpoints of a session against the servers of its response. -/
structure SessionLaw (servers : List ServerInfoWire) (endpoints : List HighwayEndpoint) :
    Prop where
  distinct : endpoints.Nodup
  usable : ∀ endpoint ∈ endpoints, endpoint ∈ offered servers ∧ endpoint.port ≠ 0 ∧
    isUsableEndpoint endpoint.address = true
  length_le : endpoints.length ≤ maxEndpoints
  /-- The limit drops no preferred endpoint as long as another one is kept. -/
  preferred_kept : (∃ endpoint ∈ endpoints, isPreferred endpoint = false) →
    ∀ endpoint ∈ offered servers, isPreferred endpoint = true → endpoint ∈ endpoints
  preferred_first : endpoints.Pairwise fun first second =>
    isPreferred second = true → isPreferred first = true
  /-- Endpoints of one preference stand in the order of the server. -/
  order_kept : ∀ preferred, (endpoints.filter (isPreferred · == preferred)).Sublist
    (distinctItems (offered servers))

/-- No preferred endpoint is offered behind thirty-two others one of which is not. -/
def PreferredInTime (servers : List ServerInfoWire) : Prop :=
  ∀ late ∈ (distinctItems (offered servers)).drop maxEndpoints, isPreferred late = true →
    ∀ early ∈ (distinctItems (offered servers)).take maxEndpoints, isPreferred early = true

theorem collectAddresses_eq (serviceType : UInt32) (endpoints : List HighwayEndpoint)
    (addresses : List ServerAddressWire) :
    collectAddresses serviceType endpoints addresses =
      addNewUpTo maxEndpoints endpoints (addresses.filterMap (endpointOf serviceType)) := by
  induction addresses generalizing endpoints with
  | nil => rfl
  | cons candidate rest ih =>
      cases hcandidate : endpointOf serviceType candidate with
      | none =>
          simp only [collectAddresses, hcandidate, ih, List.filterMap_cons_none hcandidate]
          split
          · next hfull => exact (addNewUpTo_full hfull _).symm
          · rfl
      | some endpoint =>
          simp only [collectAddresses, hcandidate, ih, List.filterMap_cons_some hcandidate,
            addNewUpTo]

theorem collectServers_from (endpoints : List HighwayEndpoint) (servers : List ServerInfoWire) :
    collectServers endpoints servers = addNewUpTo maxEndpoints endpoints (offered servers) := by
  induction servers generalizing endpoints with
  | nil => rfl
  | cons server rest ih =>
      have hoffered : offered (server :: rest) =
          server.addresses.filterMap (endpointOf server.serviceType) ++ offered rest :=
        List.flatMap_cons
      rw [collectServers, ih, collectAddresses_eq, hoffered, addNewUpTo_append]

/-- The endpoints collected are the first thirty-two distinct ones offered. -/
theorem collectServers_eq (servers : List ServerInfoWire) :
    collectServers [] servers = (distinctItems (offered servers)).take maxEndpoints := by
  rw [collectServers_from, addNewUpTo_eq_take (Nat.zero_le _)]
  rfl

theorem sortByPreference_eq (endpoints : List HighwayEndpoint) :
    sortByPreference endpoints =
      endpoints.filter isPreferred ++ endpoints.filter (fun endpoint => !isPreferred endpoint) :=
  insertionSort_rank isPreferred endpoints

theorem mem_sortByPreference {endpoints : List HighwayEndpoint} {endpoint : HighwayEndpoint} :
    endpoint ∈ sortByPreference endpoints ↔ endpoint ∈ endpoints :=
  List.mem_insertionSort _

theorem endpointOf_usable {serviceType : UInt32} {candidate : ServerAddressWire}
    {endpoint : HighwayEndpoint} (hendpoint : endpointOf serviceType candidate = some endpoint) :
    endpoint.port ≠ 0 ∧ isUsableEndpoint endpoint.address = true := by
  unfold endpointOf at hendpoint
  dsimp only at hendpoint
  split at hendpoint
  · cases hendpoint
  · split at hendpoint
    · cases hendpoint
    · next port _ hgood =>
        cases hendpoint
        rw [not_or, Bool.not_eq_false] at hgood
        exact hgood

theorem offered_usable {servers : List ServerInfoWire} {endpoint : HighwayEndpoint}
    (hoffered : endpoint ∈ offered servers) :
    endpoint.port ≠ 0 ∧ isUsableEndpoint endpoint.address = true := by
  obtain ⟨server, -, hmem⟩ := List.mem_flatMap.mp hoffered
  obtain ⟨candidate, -, hcandidate⟩ := List.mem_filterMap.mp hmem
  exact endpointOf_usable hcandidate

theorem mem_distinctItems {servers : List ServerInfoWire} {endpoint : HighwayEndpoint} :
    endpoint ∈ distinctItems (offered servers) ↔ endpoint ∈ offered servers := by
  rw [distinctItems, mem_addNew]
  simp

theorem sortByPreference_preferred_first (endpoints : List HighwayEndpoint) :
    (sortByPreference endpoints).Pairwise fun first second =>
      isPreferred second = true → isPreferred first = true := by
  rw [sortByPreference_eq, List.pairwise_append]
  refine ⟨?_, ?_, ?_⟩
  · exact List.pairwise_of_forall_mem_list fun first hfirst _ _ _ => (List.mem_filter.mp hfirst).2
  · refine List.pairwise_of_forall_mem_list fun _ _ second hsecond hpreferred => ?_
    have hother : !isPreferred second := (List.mem_filter.mp hsecond).2
    rw [hpreferred] at hother
    cases hother
  · intro first hfirst _ _ _
    exact (List.mem_filter.mp hfirst).2

/-- The sort leaves the endpoints of one preference in their order. -/
theorem sortByPreference_filter (preferred : Bool) (endpoints : List HighwayEndpoint) :
    (sortByPreference endpoints).filter (isPreferred · == preferred) =
      endpoints.filter (isPreferred · == preferred) := by
  rw [sortByPreference_eq, List.filter_append, List.filter_filter, List.filter_filter]
  cases preferred with
  | true =>
      have hnone : endpoints.filter (fun endpoint => isPreferred endpoint == true &&
          !isPreferred endpoint) = [] := List.filter_eq_nil_iff.mpr (by simp)
      rw [hnone, List.append_nil]
      exact List.filter_congr fun endpoint _ => by simp
  | false =>
      have hnone : endpoints.filter (fun endpoint => isPreferred endpoint == false &&
          isPreferred endpoint) = [] := List.filter_eq_nil_iff.mpr (by simp)
      rw [hnone, List.nil_append]
      exact List.filter_congr fun endpoint _ => by simp

/-- What every accepted session keeps, whatever the order of the server. -/
theorem sessionLaw_of_preferredKept {servers : List ServerInfoWire}
    {endpoints : List HighwayEndpoint}
    (hendpoints : endpoints =
      sortByPreference ((distinctItems (offered servers)).take maxEndpoints))
    (hkept : (∃ endpoint ∈ endpoints, isPreferred endpoint = false) →
      ∀ endpoint ∈ offered servers, isPreferred endpoint = true → endpoint ∈ endpoints) :
    SessionLaw servers endpoints := by
  have hdistinct : (distinctItems (offered servers)).Nodup := addNew_nodup List.nodup_nil _
  have htake : ((distinctItems (offered servers)).take maxEndpoints).Sublist
      (distinctItems (offered servers)) := List.take_sublist _ _
  refine ⟨?_, ?_, ?_, hkept, ?_, ?_⟩
  · rw [hendpoints]
    exact (List.perm_insertionSort _ _).nodup_iff.mpr (hdistinct.sublist htake)
  · intro endpoint hmem
    rw [hendpoints, mem_sortByPreference] at hmem
    have hoffered := mem_distinctItems.mp (htake.subset hmem)
    exact ⟨hoffered, offered_usable hoffered⟩
  · rw [hendpoints, sortByPreference, List.length_insertionSort]
    exact List.length_take_le _ _
  · rw [hendpoints]
    exact sortByPreference_preferred_first _
  · intro preferred
    rw [hendpoints, sortByPreference_filter]
    exact List.filter_sublist.trans htake

/-- Without a late preferred endpoint the limit drops none in favour of another. -/
theorem preferredKept_of_inTime {servers : List ServerInfoWire}
    (hinTime : PreferredInTime servers)
    (hother : ∃ endpoint ∈ (distinctItems (offered servers)).take maxEndpoints,
      isPreferred endpoint = false) {endpoint : HighwayEndpoint}
    (hoffered : endpoint ∈ offered servers) (hpreferred : isPreferred endpoint = true) :
    endpoint ∈ (distinctItems (offered servers)).take maxEndpoints := by
  obtain ⟨other, hkept, hnot⟩ := hother
  have hmem := mem_distinctItems.mpr hoffered
  rw [← List.take_append_drop maxEndpoints (distinctItems (offered servers)),
    List.mem_append] at hmem
  rcases hmem with hearly | hlate
  · exact hearly
  · have hall := hinTime endpoint hlate hpreferred other hkept
    rw [hnot] at hall
    cases hall

theorem inTime_of_sessionLaw {servers : List ServerInfoWire}
    (hlaw : SessionLaw servers
      (sortByPreference ((distinctItems (offered servers)).take maxEndpoints))) :
    PreferredInTime servers := by
  intro late hlate hpreferred early hearly
  by_contra hnot
  rw [Bool.not_eq_true] at hnot
  have hoffered : late ∈ offered servers :=
    mem_distinctItems.mp (List.mem_of_mem_drop hlate)
  have hkept := hlaw.preferred_kept ⟨early, mem_sortByPreference.mpr hearly, hnot⟩ late
    hoffered hpreferred
  -- it would stand among the distinct endpoints twice
  have hdistinct : (distinctItems (offered servers)).Nodup := addNew_nodup List.nodup_nil _
  exact List.disjoint_take_drop hdistinct (Nat.le_refl maxEndpoints)
    (mem_sortByPreference.mp hkept) hlate

/-- The endpoints of an accepted session. -/
theorem decodeSessionResponse_endpoints {decode : List UInt8 → Option SessionResponseOuter}
    {input : List UInt8} {connection : SessionResponseWire} {session : HighwaySession}
    (hread : decode input = some { connection := some connection })
    (haccepted : decodeSessionResponse decode input = .ok session) :
    session.endpoints =
      sortByPreference ((distinctItems (offered connection.servers)).take maxEndpoints) := by
  simp only [decodeSessionResponse, bind_eq_ok_iff, okOr_eq_ok_iff, hread] at haccepted
  obtain ⟨_, -, _, hresponse, _, hconnection, _, -, _, -, hsession⟩ := haccepted
  cases hresponse
  cases hconnection
  cases hsession
  rw [← collectServers_eq]

/-- An accepted session keeps the law exactly when no preferred endpoint is offered too
late. -/
theorem sessionLaw_iff (decode : List UInt8 → Option SessionResponseOuter) {input : List UInt8}
    {connection : SessionResponseWire} {session : HighwaySession}
    (hread : decode input = some { connection := some connection })
    (haccepted : decodeSessionResponse decode input = .ok session) :
    SessionLaw connection.servers session.endpoints ↔ PreferredInTime connection.servers := by
  have hendpoints := decodeSessionResponse_endpoints hread haccepted
  constructor
  · intro hlaw
    rw [hendpoints] at hlaw
    exact inTime_of_sessionLaw hlaw
  · intro hinTime
    refine sessionLaw_of_preferredKept hendpoints ?_
    rintro ⟨other, hother, hnot⟩ endpoint hoffered hpreferred
    rw [hendpoints, mem_sortByPreference] at hother ⊢
    exact preferredKept_of_inTime hinTime ⟨other, hother, hnot⟩ hoffered hpreferred

/-- The fields 2 and 3 of an address, 8.8.8.8 at this port. -/
def addressBytes (port : UInt8) : List UInt8 :=
  [0x12, 0x07, 0x10, 0x88, 0x90, 0xa0, 0x40, 0x18, port]

def addressAt (port : Nat) : ServerAddressWire :=
  { ipv4 := 0x08080808, port := UInt32.ofNat port }

/-- A response with two endpoints of type 5 and one of type 1 behind them. -/
def mixedInput : List UInt8 :=
  [0x8a, 0x50, 0x26, 0x0a, 0x01, 0x07, 0x1a, 0x14, 0x08, 0x05] ++ addressBytes 80 ++
    addressBytes 81 ++ [0x1a, 0x0b, 0x08, 0x01] ++ addressBytes 82

def mixedResponse : SessionResponseWire :=
  { ticket := [7], sessionKey := [],
    servers := [⟨5, [addressAt 80, addressAt 81]⟩, ⟨1, [addressAt 82]⟩] }

theorem sessionLaw_iff_mixed :
    SessionLaw mixedResponse.servers
        [⟨1, 0x08080808, 82⟩, ⟨5, 0x08080808, 80⟩, ⟨5, 0x08080808, 81⟩] ↔
      PreferredInTime mixedResponse.servers := by
  have haccepted : decodeSessionResponse
      (fun bytes => if bytes = mixedInput then some ⟨some mixedResponse⟩ else none) mixedInput =
        .ok ⟨[7], [⟨1, 0x08080808, 82⟩, ⟨5, 0x08080808, 80⟩, ⟨5, 0x08080808, 81⟩]⟩ := by
    decide +kernel
  exact sessionLaw_iff _ (if_pos rfl) haccepted

/-- Thirty-two endpoints of type 5 are collected before the only one of type 1, which is
dropped. -/
def crowdedServers : List ServerInfoWire :=
  [⟨5, (List.range' 1 32).map addressAt⟩, ⟨1, [addressAt 80]⟩]

def crowdedInput : List UInt8 :=
  [0x8a, 0x50, 0xb5, 0x02, 0x0a, 0x01, 0x07, 0x1a, 0xa2, 0x02, 0x08, 0x05] ++
    (List.range' 1 32).flatMap (fun port => addressBytes (UInt8.ofNat port)) ++
    [0x1a, 0x0b, 0x08, 0x01] ++ addressBytes 80

def crowdedResponse : SessionResponseWire :=
  { ticket := [7], sessionKey := [], servers := crowdedServers }

theorem late_preferred_dropped :
    ∃ (decode : List UInt8 → Option SessionResponseOuter) (session : HighwaySession),
      decode crowdedInput = some { connection := some crowdedResponse } ∧
      decodeSessionResponse decode crowdedInput = .ok session ∧
      ¬ SessionLaw crowdedServers session.endpoints := by
  refine ⟨fun bytes => if bytes = crowdedInput then some ⟨some crowdedResponse⟩ else none,
    ⟨[7], (List.range' 1 32).map fun port => ⟨5, 0x08080808, UInt16.ofNat port⟩⟩,
    if_pos rfl, by decide +kernel, fun hlaw => ?_⟩
  have hkept := hlaw.preferred_kept ⟨⟨5, 0x08080808, 1⟩, by decide, by decide⟩
    ⟨1, 0x08080808, 80⟩ (by decide +kernel) (by decide)
  exact absurd hkept (by decide +kernel)

end Highway
end Lirvena
