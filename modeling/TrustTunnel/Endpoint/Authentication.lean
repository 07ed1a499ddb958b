import TrustTunnel.Endpoint.ReverseProxy
import TrustTunnel.Rfc4648.Encodings

/-!
# Authentication of clients

A client presents its user name and password in base 64, in the `Proxy-Authorization`
header of a request or as the first label of the server name of its connection. The
registry looks for them among the credentials of the configured clients. Credentials
are the bytes of a text.
-/

namespace TrustTunnel.Endpoint

/-! ## The registry -/

variable {source : Source}

namespace Authentication

/-- Authentication request source. -/
inductive Source where
  /-- A client tries to authenticate using SNI. -/
  | sni (creds : Bytes)
  /-- A client tries to authenticate using the basic authentication scheme. -/
  | proxyBasic (creds : Bytes)
  deriving DecidableEq

def Source.creds : Source → Bytes
  | sni creds => creds
  | proxyBasic creds => creds

/-- Authentication procedure status. -/
inductive Status where
  | pass
  | reject
  deriving DecidableEq

/-- `dyn Authenticator`. -/
structure Authenticator where
  authenticate : Source → Status

/-- A client descriptor. -/
structure Client where
  username : String
  password : String
  maxHttp2Conns : Option UInt32
  maxHttp3Conns : Option UInt32

/-- `BASE64_ENGINE.encode(format!("{}:{}", username, password))`. -/
def Client.creds (self : Client) : Bytes :=
  .ofString (.ofList (Rfc4648.Base64.encode (.ofString (self.username ++ ":" ++ self.password))))

/-- The credentials of the clients in the list. -/
structure RegistryBasedAuthenticator where
  clients : List Bytes

namespace RegistryBasedAuthenticator

def new (clients : List Client) : RegistryBasedAuthenticator := ⟨clients.map Client.creds⟩

def authenticate (self : RegistryBasedAuthenticator) (source : Source) : Status :=
  if source.creds ∈ self.clients then .pass else .reject

/-- `Arc<dyn Authenticator>` from a registry. -/
def toAuthenticator (self : RegistryBasedAuthenticator) : Authenticator := ⟨self.authenticate⟩

end RegistryBasedAuthenticator

/-- The registry lets exactly the credentials of its clients pass. -/
lemma authenticate_new {clients : List Client} :
    (RegistryBasedAuthenticator.new clients).toAuthenticator.authenticate source = .pass ↔
      ∃ client ∈ clients, client.creds = source.creds := by
  rw [← List.mem_map]
  constructor
  · intro passed
    by_contra unknown
    have rejected : (RegistryBasedAuthenticator.new clients).authenticate source = .reject :=
      if_neg unknown
    cases rejected.symm.trans passed
  · intro known
    exact if_pos known

end Authentication

/-! ## The credentials of a request -/

open Authentication ReverseProxy

/-- A request of a tunnel. `scrubbed` is the text of the request with placeholders for the
target and the header values. -/
structure PendingRequest where
  request : RequestHeaders
  scrubbed : String

namespace PendingRequest

/-- The first words of the header, and the blank behind it. -/
def basic : Bytes := .ofString "Basic "

/-- The value of the `Proxy-Authorization` header, the first one if there are several. -/
def proxyAuthorization (self : PendingRequest) : Option Bytes :=
  (Header.values ForwardedStreamSource.proxyAuthorization self.request.headers).head?

/-- Get the authorization info if some. -/
def authInfo (self : PendingRequest) : Except IoError (Option Source) :=
  match self.proxyAuthorization with
  | none => .ok none
  | some header =>
    match (toStr header).bind (·.dropPrefix? basic) with
    | some creds => .ok (some (.proxyBasic creds))
    | none => .error (.other ("Unexpected authorization header: " ++ self.scrubbed))

variable {self : PendingRequest}

/-- Only the credentials behind the scheme are handed to the authenticator. -/
lemma authInfo_eq_ok_some (info : self.authInfo = .ok (some source)) :
    self.proxyAuthorization = some (basic ++ source.creds) := by
  cases present : self.proxyAuthorization with
  | none =>
    rw [authInfo, present] at info
    cases info
  | some header =>
    rw [authInfo, present] at info
    cases taken : (toStr header).bind (·.dropPrefix? basic) with
    | none =>
      simp only [taken] at info
      cases info
    | some =>
      simp only [taken] at info
      cases info
      obtain ⟨text, read, dropped⟩ := Option.bind_eq_some_iff.mp taken
      obtain ⟨front, split, same⟩ := List.dropPrefix?_eq_some_iff.mp dropped
      rw [toStr, Option.ite_none_right_eq_some] at read
      cases read.2
      rw [split, eq_of_beq same]
      rfl

lemma authInfo_eq_ok_none (info : self.authInfo = .ok none) : self.proxyAuthorization = none := by
  cases present : self.proxyAuthorization with
  | none => rfl
  | some header =>
    rw [authInfo, present] at info
    cases taken : (toStr header).bind (·.dropPrefix? basic) with
    | none | some =>
      simp only [taken] at info
      cases info

end PendingRequest

end TrustTunnel.Endpoint
