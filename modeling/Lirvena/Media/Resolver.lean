import Mathlib.Data.Finset.Card
import Lirvena.Lib.Result
import Lirvena.Lib.Text
import Lirvena.Media.Address

/-!
# Acquisition of remote media

`remote` follows one request: the checks of the URL against the policy, the name
resolution, and the HTTP request to the addresses that it gave.  Name resolution and the
HTTP client stand outside the repository and are parameters; the client dials no
address but those it was built with.

A request is `Exposed` when all checks pass and one of the addresses is a form of a
non-public IPv4 address.  These are the requests that reach a non-public network.
-/

namespace Lirvena
namespace Media

open Lib

inductive MediaError where
  | configuration
  | referenceRejected
  | localFileRejected
  | remoteRejected
  | sizeLimit
  | io
  | conversion
  deriving DecidableEq

inductive MediaSourceKind where
  | localFile
  | remoteHttps
  | inlineBase64
  | cache
  deriving DecidableEq

structure MediaObject where
  bytes : List UInt8
  source : MediaSourceKind
  deriving DecidableEq

def HARD_MAX_MEDIA_BYTES : Nat := 256 * 1024 * 1024
def MAX_REMOTE_HOSTS : Nat := 64
def MAX_RESOLVED_ADDRESSES : Nat := 16

def validHost (host : String) : Bool :=
  !host.isEmpty
    && (utf8Bytes host).length ≤ 253
    && host == host.toLower
    && host.toList.head? != some '.'
    && host.toList.getLast? != some '.'
    && (utf8Bytes host).all fun byte =>
      (97 ≤ byte && byte ≤ 122) || (48 ≤ byte && byte ≤ 57) || byte == 46 || byte == 45

/-- The timeout in nanoseconds is between one second and two minutes. -/
def validTimeout (timeout : Nat) : Bool :=
  1_000_000_000 ≤ timeout && timeout ≤ 120_000_000_000

/-- Explicit remote-media policy; absence disables remote acquisition. -/
structure RemoteMediaPolicy where
  allowedHosts : Option (Finset String)
  deniedHosts : Finset String
  timeout : Nat
  allowed_valid : ∀ hosts ∈ allowedHosts,
    hosts.Nonempty ∧ hosts.card ≤ MAX_REMOTE_HOSTS ∧ ∀ host ∈ hosts, validHost host = true
  denied_valid :
    deniedHosts.card ≤ MAX_REMOTE_HOSTS ∧ ∀ host ∈ deniedHosts, validHost host = true
  timeout_valid : validTimeout timeout = true

namespace RemoteMediaPolicy

def publicWeb (timeout : Nat) : Except MediaError RemoteMediaPolicy :=
  if htimeout : validTimeout timeout = true then
    .ok ⟨none, ∅, timeout, by simp, by simp, htimeout⟩
  else
    .error .configuration

def restrictedWeb (allowedHosts : List String) (timeout : Nat) :
    Except MediaError RemoteMediaPolicy :=
  let hosts := allowedHosts.toFinset
  if hhosts : hosts.Nonempty ∧ hosts.card ≤ MAX_REMOTE_HOSTS ∧
      ∀ host ∈ hosts, validHost host = true then
    if htimeout : validTimeout timeout = true then
      .ok ⟨some hosts, ∅, timeout, by simpa using hhosts, by simp, htimeout⟩
    else
      .error .configuration
  else
    .error .configuration

def withDeniedHosts (policy : RemoteMediaPolicy) (deniedHosts : List String) :
    Except MediaError RemoteMediaPolicy :=
  let hosts := deniedHosts.toFinset
  if hhosts : hosts.card ≤ MAX_REMOTE_HOSTS ∧ ∀ host ∈ hosts, validHost host = true then
    .ok { policy with deniedHosts := hosts, denied_valid := hhosts }
  else
    .error .configuration

end RemoteMediaPolicy

/-- Bounded acquisition policy, as far as remote media needs it. -/
structure MediaPolicy where
  maximumBytes : Nat
  remote : Option RemoteMediaPolicy
  maximum_pos : 0 < maximumBytes
  maximum_le : maximumBytes ≤ HARD_MAX_MEDIA_BYTES

structure Url where
  scheme : String
  username : String
  password : Option String
  hostStr : Option String
  portOrKnownDefault : Option UInt16
  deriving DecidableEq

structure SocketAddr where
  ip : IpAddr
  port : UInt16
  deriving DecidableEq

/-! ## Name resolution -/

def resolvePublic (lookupHost : String → UInt16 → Option (List SocketAddr)) (host : String)
    (port : UInt16) : Except MediaError (List SocketAddr) := do
  let found ← okOr .remoteRejected (lookupHost host port)
  let addresses := found.take (MAX_RESOLVED_ADDRESSES + 1)
  rejectIf .remoteRejected (addresses = [] ∨ MAX_RESOLVED_ADDRESSES < addresses.length ∨
    ∃ address ∈ addresses, isPublic address.ip = false)
  return addresses

theorem resolvePublic_eq_ok_iff {lookupHost : String → UInt16 → Option (List SocketAddr)}
    {host : String} {port : UInt16} {addresses : List SocketAddr} :
    resolvePublic lookupHost host port = .ok addresses ↔
      lookupHost host port = some addresses ∧ addresses ≠ [] ∧
        addresses.length ≤ MAX_RESOLVED_ADDRESSES ∧
        ∀ address ∈ addresses, isPublic address.ip = true := by
  have hshort : ∀ found : List SocketAddr,
      (found.take (MAX_RESOLVED_ADDRESSES + 1)).length ≤ MAX_RESOLVED_ADDRESSES →
      found.take (MAX_RESOLVED_ADDRESSES + 1) = found := by
    intro found hlength
    rw [List.length_take] at hlength
    exact List.take_of_length_le (by omega)
  simp only [resolvePublic, bind_eq_ok_iff, okOr_eq_ok_iff]
  constructor
  · rintro ⟨found, hfound, checked, hchecks, hsame⟩
    have hgood := rejectIf_eq_ok_iff.mp hchecks
    push Not at hgood
    obtain ⟨hnonempty, hlength, hpublic⟩ := hgood
    have htake := hshort found hlength
    rw [htake] at hnonempty hlength hpublic hsame
    cases hsame
    refine ⟨hfound, hnonempty, hlength, ?_⟩
    intro address haddress
    simpa using hpublic address haddress
  · rintro ⟨hfound, hnonempty, hlength, hpublic⟩
    have htake : addresses.take (MAX_RESOLVED_ADDRESSES + 1) = addresses :=
      List.take_of_length_le (by omega)
    refine ⟨addresses, hfound, (), ?_, congrArg Except.ok htake⟩
    rw [htake]
    apply rejectIf_eq_ok_iff.mpr
    push Not
    refine ⟨hnonempty, hlength, ?_⟩
    intro address haddress
    simp [hpublic address haddress]

/-! ## The request -/

structure Response where
  success : Bool
  contentLength : Option Nat
  chunks : List (Option (List UInt8))
  deriving DecidableEq

/-- What one `GET` did: the addresses it dialled, and the answer if there was one. -/
structure Fetch where
  contacted : List SocketAddr
  response : Option Response
  deriving DecidableEq

/-- A client without redirects and proxies, built for one host with its addresses; no
client is built when `get` has no value. -/
structure HttpClient where
  get : Url → String → List SocketAddr → Nat → Option Fetch
  contacted_offered : ∀ {url host addresses timeout fetch},
    get url host addresses timeout = some fetch →
      ∀ address ∈ fetch.contacted, address ∈ addresses

/-- The body of a response, chunk by chunk. -/
def readChunks (maximum : Nat) (bytes : List UInt8) :
    List (Option (List UInt8)) → Except MediaError (List UInt8)
  | [] => .ok bytes
  | none :: _ => .error .remoteRejected
  | some chunk :: rest =>
      if maximum < bytes.length + chunk.length then .error .sizeLimit
      else readChunks maximum (bytes ++ chunk) rest

def readResponse (maximum : Nat) (response : Option Response) : Except MediaError MediaObject := do
  let response ← okOr .remoteRejected response
  rejectIf .remoteRejected (response.success = false ∨
    ∃ length ∈ response.contentLength, maximum < length)
  let bytes ← readChunks maximum [] response.chunks
  rejectIf .remoteRejected (bytes = [])
  return ⟨bytes, .remoteHttps⟩

/-- The checks before the client is built, with the addresses for it. -/
def destination (media : MediaPolicy)
    (lookupHost : String → UInt16 → Option (List SocketAddr)) (url : Url) :
    Except MediaError (RemoteMediaPolicy × String × List SocketAddr) := do
  let policy ← okOr .referenceRejected media.remote
  rejectIf .remoteRejected ((url.scheme ≠ "http" ∧ url.scheme ≠ "https") ∨
    url.username ≠ "" ∨ url.password ≠ none)
  let host ← okOr .remoteRejected url.hostStr
  rejectIf .remoteRejected (host ∈ policy.deniedHosts ∨
    ∃ allowed ∈ policy.allowedHosts, host ∉ allowed)
  let port ← okOr .remoteRejected url.portOrKnownDefault
  let addresses ← resolvePublic lookupHost host port
  return (policy, host, addresses)

structure Acquisition where
  contacted : List SocketAddr
  result : Except MediaError MediaObject

def remote (media : MediaPolicy) (lookupHost : String → UInt16 → Option (List SocketAddr))
    (client : HttpClient) (url : Url) : Acquisition :=
  match destination media lookupHost url with
  | .error error => ⟨[], .error error⟩
  | .ok (policy, host, addresses) =>
      match client.get url host addresses policy.timeout with
      | none => ⟨[], .error .remoteRejected⟩
      | some fetch => ⟨fetch.contacted, readResponse media.maximumBytes fetch.response⟩

/-! ## What a request reaches -/

/-- The addresses that name resolution returns for the host and the port of a URL. -/
def resolved (lookupHost : String → UInt16 → Option (List SocketAddr)) (url : Url) :
    List SocketAddr :=
  match url.hostStr, url.portOrKnownDefault with
  | some host, some port => (lookupHost host port).getD []
  | _, _ => []

/-- Whatever the client does, it contacts no address that stands for a non-public IPv4
address, and a request whose host resolves to such an address is refused. -/
def StaysPublic (media : MediaPolicy)
    (lookupHost : String → UInt16 → Option (List SocketAddr)) (url : Url) : Prop :=
  ∀ client : HttpClient,
    (∀ address ∈ (remote media lookupHost client url).contacted, ∀ value,
      Reaches address.ip value → publicV4 value = true) ∧
    ((∃ address ∈ resolved lookupHost url, ∃ value,
        Reaches address.ip value ∧ publicV4 value = false) →
      (remote media lookupHost client url).contacted = [] ∧
        ∃ error, (remote media lookupHost client url).result = .error error)

/-- The URL passes the policy, its host resolves to at most sixteen addresses on neither
deny list, and one of them is a form of a non-public IPv4 address. -/
structure Exposed (media : MediaPolicy)
    (lookupHost : String → UInt16 → Option (List SocketAddr)) (url : Url) : Prop where
  scheme : url.scheme = "http" ∨ url.scheme = "https"
  no_user : url.username = "" ∧ url.password = none
  host_allowed : ∃ policy ∈ media.remote, ∃ host ∈ url.hostStr,
    host ∉ policy.deniedHosts ∧ ∀ allowed ∈ policy.allowedHosts, host ∈ allowed
  port : url.portOrKnownDefault ≠ none
  few : (resolved lookupHost url).length ≤ MAX_RESOLVED_ADDRESSES
  listed : ∀ address ∈ resolved lookupHost url, isPublic address.ip = true
  disguised : ∃ address ∈ resolved lookupHost url, Disguised address.ip

theorem destination_eq_ok_iff {media : MediaPolicy}
    {lookupHost : String → UInt16 → Option (List SocketAddr)} {url : Url}
    {policy : RemoteMediaPolicy} {host : String} {addresses : List SocketAddr} :
    destination media lookupHost url = .ok (policy, host, addresses) ↔
      media.remote = some policy ∧ (url.scheme = "http" ∨ url.scheme = "https") ∧
      (url.username = "" ∧ url.password = none) ∧ url.hostStr = some host ∧
      (host ∉ policy.deniedHosts ∧ ∀ allowed ∈ policy.allowedHosts, host ∈ allowed) ∧
      ∃ port, url.portOrKnownDefault = some port ∧
        resolvePublic lookupHost host port = .ok addresses := by
  simp only [destination, bind_eq_ok_iff, okOr_eq_ok_iff]
  constructor
  · rintro ⟨own, hpolicy, checked, hurl, name, hhost, checked', hallowed, port, hport, found,
      hfound, hsame⟩
    cases hsame
    have hurl := rejectIf_eq_ok_iff.mp hurl
    have hallowed := rejectIf_eq_ok_iff.mp hallowed
    push Not at hurl hallowed
    refine ⟨hpolicy, ?_, hurl.2, hhost, hallowed, port, hport, hfound⟩
    by_cases hhttp : url.scheme = "http"
    · exact .inl hhttp
    · exact .inr (hurl.1 hhttp)
  · rintro ⟨hpolicy, hscheme, huser, hhost, hallowed, port, hport, hfound⟩
    refine ⟨policy, hpolicy, (), ?_, host, hhost, (), ?_, port, hport, addresses, hfound, rfl⟩
    · apply rejectIf_eq_ok_iff.mpr
      push Not
      exact ⟨fun hhttp => hscheme.resolve_left hhttp, huser⟩
    · apply rejectIf_eq_ok_iff.mpr
      push Not
      exact hallowed

/-- What the client is given is what the name resolution returned. -/
theorem resolved_of_destination {media : MediaPolicy}
    {lookupHost : String → UInt16 → Option (List SocketAddr)} {url : Url}
    {policy : RemoteMediaPolicy} {host : String} {addresses : List SocketAddr}
    (hdestination : destination media lookupHost url = .ok (policy, host, addresses)) :
    resolved lookupHost url = addresses ∧ addresses.length ≤ MAX_RESOLVED_ADDRESSES ∧
      ∀ address ∈ addresses, isPublic address.ip = true := by
  obtain ⟨-, -, -, hhost, -, port, hport, hfound⟩ := destination_eq_ok_iff.mp hdestination
  obtain ⟨hlookup, -, hlength, hpublic⟩ := resolvePublic_eq_ok_iff.mp hfound
  refine ⟨?_, hlength, hpublic⟩
  simp [resolved, hhost, hport, hlookup]

/-- The exposed requests are those whose client is given a disguised address. -/
theorem exposed_iff {media : MediaPolicy}
    {lookupHost : String → UInt16 → Option (List SocketAddr)} {url : Url} :
    Exposed media lookupHost url ↔
      ∃ policy host addresses, destination media lookupHost url = .ok (policy, host, addresses) ∧
        ∃ address ∈ addresses, Disguised address.ip := by
  constructor
  · rintro ⟨hscheme, huser, ⟨policy, hpolicy, host, hhost, hallowed⟩, hport, hfew, hlisted,
      hdisguised⟩
    obtain ⟨port, hport⟩ := Option.ne_none_iff_exists'.mp hport
    have hresolved : resolved lookupHost url = (lookupHost host port).getD [] := by
      have hhost : url.hostStr = some host := hhost
      simp [resolved, hhost, hport]
    cases hlookup : lookupHost host port with
    | none =>
        obtain ⟨address, haddress, -⟩ := hdisguised
        rw [hresolved, hlookup] at haddress
        exact absurd haddress List.not_mem_nil
    | some addresses =>
        rw [hlookup, Option.getD_some] at hresolved
        rw [hresolved] at hfew hlisted hdisguised
        refine ⟨policy, host, addresses, ?_, hdisguised⟩
        refine destination_eq_ok_iff.mpr
          ⟨hpolicy, hscheme, huser, hhost, hallowed, port, hport, ?_⟩
        refine resolvePublic_eq_ok_iff.mpr ⟨hlookup, ?_, hfew, hlisted⟩
        rintro rfl
        obtain ⟨address, haddress, -⟩ := hdisguised
        exact absurd haddress List.not_mem_nil
  · rintro ⟨policy, host, addresses, hdestination, hdisguised⟩
    obtain ⟨hresolved, hfew, hlisted⟩ := resolved_of_destination hdestination
    obtain ⟨hpolicy, hscheme, huser, hhost, hallowed, port, hport, -⟩ :=
      destination_eq_ok_iff.mp hdestination
    exact
      { scheme := hscheme
        no_user := huser
        host_allowed := ⟨policy, hpolicy, host, hhost, hallowed⟩
        port := by simp [hport]
        few := hresolved ▸ hfew
        listed := hresolved ▸ hlisted
        disguised := hresolved ▸ hdisguised }

/-- A client that dials every address it was given and gets no answer. -/
def eagerClient : HttpClient where
  get := fun _ _ addresses _ => some ⟨addresses, none⟩
  contacted_offered := by
    intro url host addresses timeout fetch hget address haddress
    cases hget
    exact haddress

theorem remote_eagerClient {media : MediaPolicy}
    {lookupHost : String → UInt16 → Option (List SocketAddr)} {url : Url}
    {policy : RemoteMediaPolicy} {host : String} {addresses : List SocketAddr}
    (hdestination : destination media lookupHost url = .ok (policy, host, addresses)) :
    (remote media lookupHost eagerClient url).contacted = addresses := by
  simp [remote, hdestination, eagerClient]

/-- Remote acquisition stays on public networks exactly in the requests that are not
exposed. -/
theorem staysPublic_iff_not_exposed (media : MediaPolicy)
    (lookupHost : String → UInt16 → Option (List SocketAddr)) (url : Url) :
    StaysPublic media lookupHost url ↔ ¬ Exposed media lookupHost url := by
  constructor
  · intro hstays hexposed
    obtain ⟨policy, host, addresses, hdestination, address, haddress, hdisguised⟩ :=
      exposed_iff.mp hexposed
    obtain ⟨-, -, hlisted⟩ := resolved_of_destination hdestination
    obtain ⟨value, hreaches, hvalue⟩ :=
      (disguised_iff_reaches (hlisted address haddress)).mp hdisguised
    have hcontacted := (hstays eagerClient).1
    rw [remote_eagerClient hdestination] at hcontacted
    rw [hcontacted address haddress value hreaches] at hvalue
    exact nomatch hvalue
  · intro hsafe client
    cases hdestination : destination media lookupHost url with
    | error error =>
        have hremote : remote media lookupHost client url = ⟨[], .error error⟩ := by
          simp [remote, hdestination]
        rw [hremote]
        exact ⟨fun address haddress => absurd haddress List.not_mem_nil,
          fun _ => ⟨rfl, error, rfl⟩⟩
    | ok destined =>
        obtain ⟨policy, host, addresses⟩ := destined
        obtain ⟨hresolved, -, hlisted⟩ := resolved_of_destination hdestination
        -- No address that the client was given is disguised.
        have hreal : ∀ address ∈ addresses, ∀ value, Reaches address.ip value →
            publicV4 value = true := by
          intro address haddress value hreaches
          by_contra hvalue
          apply hsafe
          refine exposed_iff.mpr ⟨policy, host, addresses, hdestination, address, haddress, ?_⟩
          exact (disguised_iff_reaches (hlisted address haddress)).mpr
            ⟨value, hreaches, by simpa using hvalue⟩
        constructor
        · intro address haddress
          apply hreal
          cases hget : client.get url host addresses policy.timeout with
          | none => simp [remote, hdestination, hget] at haddress
          | some fetch =>
              simp only [remote, hdestination, hget] at haddress
              exact client.contacted_offered hget address haddress
        · rintro ⟨address, haddress, value, hreaches, hvalue⟩
          rw [hresolved] at haddress
          rw [hreal address haddress value hreaches] at hvalue
          exact nomatch hvalue

/-- A host that resolves to `::ffff:127.0.0.1`, asked for under the policy for the web. -/
def loopbackUrl : Url := ⟨"http", "", none, some "media.example", some 80⟩

def loopbackLookup : String → UInt16 → Option (List SocketAddr) := fun _ port =>
  some [⟨.v6 ⟨0, 0, 0, 0, 0, 0xffff, 0x7f00, 1⟩, port⟩]

def webPolicy : MediaPolicy where
  maximumBytes := 1024
  remote := some ⟨none, ∅, 5_000_000_000, by simp, by simp, by decide⟩
  maximum_pos := by decide
  maximum_le := by decide

theorem mapped_loopback_contacted : ¬ StaysPublic webPolicy loopbackLookup loopbackUrl := by
  intro hstays
  have hcontacted := (hstays eagerClient).1 ⟨.v6 ⟨0, 0, 0, 0, 0, 0xffff, 0x7f00, 1⟩, 80⟩
  have hembeds : EmbeddingForm.mapped.Embeds ⟨0, 0, 0, 0, 0, 0xffff, 0x7f00, 1⟩ ⟨127, 0, 0, 1⟩ := by
    unfold EmbeddingForm.Embeds
    decide
  have hpublic := hcontacted (by decide) ⟨127, 0, 0, 1⟩ (.embedded hembeds)
  exact absurd hpublic (by decide)

end Media
end Lirvena
