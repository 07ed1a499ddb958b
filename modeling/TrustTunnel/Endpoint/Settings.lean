import TrustTunnel.Endpoint.Authentication
import TrustTunnel.Endpoint.NetUtils

/-!
# The settings of the endpoint

The settings that decide about routing, and what the endpoint checks before it starts with
them. Fields that neither the checks nor the routing read are left out; of the settings of
a listen protocol it only matters whether they are there.
-/

namespace TrustTunnel

def Ipv4Addr.isUnspecified (ip : Ipv4Addr) : Bool := ip == new 0 0 0 0

namespace IpAddr

def isUnspecified : IpAddr → Bool
  | .v4 ip => ip.isUnspecified
  | .v6 ip => ip.isUnspecified

def isLoopback : IpAddr → Bool
  | .v4 ip => ip.isLoopback
  | .v6 ip => ip.isLoopback

end IpAddr

namespace Endpoint

/-- `str::starts_with`, on the bytes of the texts. -/
def startsWith (text front : String) : Bool :=
  (Bytes.ofString front).isPrefixOf (Bytes.ofString text)

lemma startsWith_iff {text front : String} :
    startsWith text front = true ↔ Bytes.ofString front <+: Bytes.ofString text :=
  List.isPrefixOf_iff_prefix

inductive ValidationError where
  | listenAddressNotSet
  | mainTlsHostInfo (msg : String)
  | pingTlsHostInfo (msg : String)
  | speedTlsHostInfo (msg : String)
  | reverseProxy (msg : String)
  | listenProtocols (msg : String)
  | invalidPath (msg : String)
  | rulesFile (msg : String)
  | noCredentialsOnPublicAddress
  | invalidAuthFailureStatusCode (code : UInt16)
  deriving DecidableEq

/-- Go on if a condition holds, fail otherwise. -/
def ensure {ε : Type} (condition : Prop) [Decidable condition] (error : ε) : Except ε Unit :=
  if condition then .ok () else .error error

lemma ensure_eq_ok {ε : Type} {condition : Prop} [Decidable condition] {error : ε}
    {result : Unit} : ensure condition error = .ok result ↔ condition := by
  rw [ensure]
  split
  · rename_i holds
    exact iff_of_true rfl holds
  · rename_i holds
    refine iff_of_false ?_ holds
    intro passed
    cases passed

/-- Check a value if there is one. -/
def checkSome {ε α : Type} (check : α → Except ε Unit) : Option α → Except ε Unit
  | none => .ok ()
  | some value => check value

/-! ## The reverse proxy -/

structure ReverseProxySettings where
  /-- The origin server address. -/
  serverAddress : SocketAddr
  /-- Paths starting with this mask are routed to the reverse proxy server. -/
  pathMask : String

def ReverseProxySettings.validate (self : ReverseProxySettings) : Except ValidationError Unit := do
  ensure (self.serverAddress.port ≠ 0) (.reverseProxy "Server address is not set")
  ensure (¬(self.pathMask.isEmpty = true ∨ startsWith self.pathMask "/" = false))
    (.reverseProxy ("Invalid path mask: " ++ self.pathMask))

/-! ## The endpoint -/

/-- The client listener codecs that are enabled. -/
structure ListenProtocolSettings where
  http1 : Bool
  http2 : Bool
  quic : Bool

structure Settings where
  listenAddress : SocketAddr
  listenProtocols : ListenProtocolSettings
  clients : List Authentication.Client
  reverseProxy : Option ReverseProxySettings
  speedtestEnable : Bool
  pingEnable : Bool
  pingPath : Option String
  speedtestPath : Option String
  authFailureStatusCode : UInt16
  nonConnectAuthFailureStatusCode : Option UInt16

namespace Settings

def isValidAuthFailureStatusCode (code : UInt16) : Bool :=
  code == 407 || code == 405 || code == 404 || code == 403

def validateRequestPath (name : String) (path : Option String) : Except ValidationError Unit :=
  path |> checkSome fun path =>
    ensure (¬(path.isEmpty = true ∨ startsWith path "/" = false))
      (.invalidPath (name ++ ": " ++ path))

def validateRequestPathOverlaps (left right : Option String) : Except ValidationError Unit :=
  match left, right with
  | some left, some right =>
    ensure (¬(left = right ∨ startsWith left right = true ∨ startsWith right left = true))
      (.invalidPath ("path overlap: " ++ left ++ " vs " ++ right))
  | _, _ => .ok ()

def validate (self : Settings) : Except ValidationError Unit := do
  ensure (¬(self.listenAddress.ip.isUnspecified = true ∧ self.listenAddress.port = 0))
    .listenAddressNotSet
  checkSome ReverseProxySettings.validate self.reverseProxy
  validateRequestPath "ping_path" self.pingPath
  validateRequestPath "speedtest_path" self.speedtestPath
  validateRequestPathOverlaps self.pingPath self.speedtestPath
  ensure (¬(self.listenProtocols.http1 = false ∧ self.listenProtocols.http2 = false ∧
    self.listenProtocols.quic = false)) (.listenProtocols "Not set")
  ensure (¬(self.clients.isEmpty = true ∧ self.listenAddress.ip.isLoopback = false))
    .noCredentialsOnPublicAddress
  ensure (isValidAuthFailureStatusCode self.authFailureStatusCode = true)
    (.invalidAuthFailureStatusCode self.authFailureStatusCode)
  self.nonConnectAuthFailureStatusCode |> checkSome fun code =>
    ensure (isValidAuthFailureStatusCode code = true) (.invalidAuthFailureStatusCode code)

/-- What an accepted configuration has passed, as far as paths are concerned. -/
lemma paths_of_validate {self : Settings} (accepted : self.validate = .ok ()) :
    (∀ proxy, self.reverseProxy = some proxy → startsWith proxy.pathMask "/" = true) ∧
      ∀ ping speedtest, self.pingPath = some ping → self.speedtestPath = some speedtest →
        ¬startsWith ping speedtest = true ∧ ¬startsWith speedtest ping = true := by
  obtain ⟨_, -, accepted⟩ := bind_eq_ok.mp accepted
  obtain ⟨_, proxied, accepted⟩ := bind_eq_ok.mp accepted
  obtain ⟨_, -, accepted⟩ := bind_eq_ok.mp accepted
  obtain ⟨_, -, accepted⟩ := bind_eq_ok.mp accepted
  obtain ⟨_, apart, -⟩ := bind_eq_ok.mp accepted
  constructor
  · intro proxy present
    rw [present] at proxied
    obtain ⟨_, -, masked⟩ := bind_eq_ok.mp proxied
    have slash := not_or.mp (ensure_eq_ok.mp masked)
    exact Bool.not_eq_false _ ▸ slash.2
  · intro ping speedtest pingPresent speedtestPresent
    rw [pingPresent, speedtestPresent, validateRequestPathOverlaps] at apart
    exact not_or.mp (not_or.mp (ensure_eq_ok.mp apart)).2

end Settings

end Endpoint

end TrustTunnel
