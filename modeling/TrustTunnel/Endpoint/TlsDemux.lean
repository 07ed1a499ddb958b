import TrustTunnel.Endpoint.HttpDemux
import TrustTunnel.Table.Collect
import TrustTunnel.Text.Segments

/-!
# Routing of connections by server name

The TLS demultiplexer looks a server name up in one table of hosts after the other, then
takes its first label for credentials, and at last looks for a main host that allows the
name. Certificates and keys are loaded from files, which are a parameter.
-/

namespace TrustTunnel.Endpoint

open ReverseProxy Table

/-! ## TLS hosts -/

structure TlsHostInfo where
  /-- Used as a key for selecting a certificate chain in TLS handshake. -/
  hostname : String
  certChainPath : String
  privateKeyPath : String
  /-- List of alternative SNIs that should be accepted for this host. -/
  allowedSni : List String

structure TlsHostsSettings where
  mainHosts : List TlsHostInfo
  pingHosts : List TlsHostInfo
  speedtestHosts : List TlsHostInfo
  reverseProxyHosts : List TlsHostInfo

/-- What is loaded from the certificate and key files. -/
structure Keystore where
  CertChain : Type
  Key : Type
  BoringIdentity : Type
  loadCerts : String → Except String CertChain
  loadPrivateKey : String → Except String Key
  /-- The certificates and the key as parsed by BoringSSL. -/
  boringIdentity : CertChain → Key → Except String BoringIdentity

namespace TlsHostsSettings

/-- One round of `validate_tls_hosts`. -/
def validateTlsHost (keystore : Keystore) (uniqueHosts : List String) (host : TlsHostInfo) :
    Except String (List String) := do
  let _ ← (keystore.loadCerts host.certChainPath).mapError fun error =>
    "Invalid cert chain: path='" ++ host.certChainPath ++ "', error='" ++ error ++ "'"
  let _ ← (keystore.loadPrivateKey host.privateKeyPath).mapError fun error =>
    "Invalid key: path='" ++ host.privateKeyPath ++ "', error='" ++ error ++ "'"
  ensure (host.hostname ∉ uniqueHosts) ("Hostname must be unique: " ++ host.hostname)
  return host.hostname :: uniqueHosts

def validateTlsHosts (keystore : Keystore) :
    List TlsHostInfo → List String → Except String (List String)
  | [], uniqueHosts => .ok uniqueHosts
  | host :: hosts, uniqueHosts => do
      let uniqueHosts ← validateTlsHost keystore uniqueHosts host
      validateTlsHosts keystore hosts uniqueHosts

def validate (keystore : Keystore) (self : TlsHostsSettings) : Except ValidationError Unit := do
  ensure (self.mainHosts.isEmpty = false) (.mainTlsHostInfo "Not set")
  let hosts ← (validateTlsHosts keystore self.mainHosts []).mapError .mainTlsHostInfo
  let hosts ← (validateTlsHosts keystore self.pingHosts hosts).mapError .pingTlsHostInfo
  let hosts ← (validateTlsHosts keystore self.speedtestHosts hosts).mapError .speedTlsHostInfo
  let _ ← (validateTlsHosts keystore self.reverseProxyHosts hosts).mapError .reverseProxy
  return ()

end TlsHostsSettings

/-! ## Protocols -/

namespace ReverseProxy.Protocol

def fromAlpn (alpn : String) : Option Protocol :=
  if alpn = "http/1.1" then some http1
  else if alpn = "h2" then some http2
  else if alpn = "h3" then some http3
  else none

/-- `Iterator::max` for protocols, of which the later ones are greater. -/
def max? (protocols : List Protocol) : Option Protocol :=
  if http3 ∈ protocols then some http3
  else if http2 ∈ protocols then some http2
  else if http1 ∈ protocols then some http1
  else none

end ReverseProxy.Protocol

def defaultProtocol : Protocol := .http1

namespace Utils

def hexDigit (number : Nat) : Char := "0123456789abcdef".toList.getD number '0'

def hexDump (buf : Bytes) : String :=
  .ofList (buf.flatMap fun byte => [hexDigit (byte.toNat / 16), hexDigit (byte.toNat % 16)])

end Utils

/-- A list of ALPNs as it is printed in an error. -/
def alpnText (alpn : List Bytes) : String :=
  "[" ++ ", ".intercalate (alpn.map fun name => "\"" ++ Utils.hexDump name ++ "\"") ++ "]"

/-! ## The demultiplexer -/

/-- `str::split_once('.')`. -/
def splitOnceDot (text : String) : Option (String × String) :=
  (Text.cutFirst '.' text.toList).map fun parts => (.ofList parts.1, .ofList parts.2)

def NetUtils.scrubSni (sni : String) : String :=
  match splitOnceDot sni with
  | none => sni
  | some (_, behind) => "__stripped__." ++ behind

structure Host (keystore : Keystore) where
  certChain : keystore.CertChain
  key : keystore.Key
  certChainPath : String
  keyPath : String
  allowedSni : List String
  boring : keystore.BoringIdentity

structure ConnectionMeta (keystore : Keystore) where
  /-- The server name a client sent in the client hello. -/
  sni : String
  protocol : Protocol
  channel : Channel
  certChain : keystore.CertChain
  key : keystore.Key
  certChainPath : String
  keyPath : String
  /-- The SNI-based authentication credentials if some. -/
  sniAuthCreds : Option String
  boring : keystore.BoringIdentity

/-- A hash map of hosts by name. -/
abbrev HostMap (keystore : Keystore) := AList fun _ : String => Host keystore

structure TlsDemux (keystore : Keystore) where
  mainHosts : HostMap keystore
  reverseProxyHosts : HostMap keystore
  pingHosts : HostMap keystore
  speedtestHosts : HostMap keystore
  tunnelProtocols : List Protocol
  allowedSniToMainHost : AList fun _ : String => String

namespace TlsDemux

section New

variable (keystore : Keystore)

def makeEntry (info : TlsHostInfo) : Except String (String × Host keystore) := do
  let certChain ← keystore.loadCerts info.certChainPath
  let key ← keystore.loadPrivateKey info.privateKeyPath
  let boring ← keystore.boringIdentity certChain key
  return (info.hostname,
    ⟨certChain, key, info.certChainPath, info.privateKeyPath, info.allowedSni, boring⟩)

/-- `make_hosts!`, the entries before they are collected into a map. -/
def makeEntries : List TlsHostInfo → Except String (List (String × Host keystore))
  | [] => .ok []
  | info :: infos => do
      let entry ← makeEntry keystore info
      let entries ← makeEntries infos
      return entry :: entries

def tunnelProtocolsOf (settings : Settings) : List Protocol :=
  (if settings.listenProtocols.http1 then [.http1] else []) ++
    (if settings.listenProtocols.http2 then [.http2] else []) ++
    if settings.listenProtocols.quic then [.http3] else []

/-- Which main host allows a name, from the main hosts in the order of the iteration. -/
def allowedSnis (hosts : List ((_ : String) × Host keystore)) : AList fun _ : String => String :=
  collect (hosts.flatMap fun host => host.2.allowedSni.map fun sni => (sni, host.1))

/-- `TlsDemux::new`; `iterate` is the order in which the hash map of the main hosts is
iterated over. -/
def new (settings : Settings) (tls : TlsHostsSettings)
    (iterate : List ((_ : String) × Host keystore) → List ((_ : String) × Host keystore)) :
    Except String (TlsDemux keystore) := do
  let mainHosts ← makeEntries keystore tls.mainHosts
  let pingHosts ← makeEntries keystore tls.pingHosts
  let speedtestHosts ← makeEntries keystore tls.speedtestHosts
  let reverseProxyHosts ← makeEntries keystore
    (if settings.reverseProxy.isSome then tls.reverseProxyHosts else [])
  return {
    mainHosts := collect mainHosts
    pingHosts := collect pingHosts
    speedtestHosts := collect speedtestHosts
    reverseProxyHosts := collect reverseProxyHosts
    tunnelProtocols := tunnelProtocolsOf settings
    allowedSniToMainHost := allowedSnis keystore (iterate (collect mainHosts).entries)
  }

end New

variable {keystore : Keystore} (self : TlsDemux keystore)

/-- A selection fails with a message, or panics. -/
inductive SelectError where
  | rejected (msg : String)
  | panic (fault : Fault)

def selectTunnelChannelProtocol (parsedAlpn : List Protocol) (alpn : List Bytes) :
    Except SelectError Protocol :=
  match Protocol.max? (parsedAlpn.filter (· ∈ self.tunnelProtocols)) with
  | some protocol => .ok protocol
  | none =>
    if defaultProtocol ∈ self.tunnelProtocols ∧ alpn.isEmpty = true then .ok defaultProtocol
    else .error (.rejected ("Unexpected ALPN on reverse proxy connection " ++ alpnText alpn))

/-- The protocol and the channel of a server name, its host and the credentials in it. -/
def route (parsedAlpn : List Protocol) (alpn : List Bytes) (sni : String) :
    Except SelectError (Protocol × Channel × Host keystore × Option String) :=
  match self.mainHosts.lookup sni with
  | some host => do
      let protocol ← self.selectTunnelChannelProtocol parsedAlpn alpn
      return (protocol, .tunnel, host, none)
  | none =>
  match self.reverseProxyHosts.lookup sni with
  | some host =>
    match Protocol.max? (parsedAlpn.filter fun protocol =>
      protocol = .http1 ∨ protocol = .http3) with
    | some protocol => .ok (protocol, .reverseProxy, host, none)
    | none =>
      if alpn.isEmpty then .ok (defaultProtocol, .reverseProxy, host, none)
      else .error (.rejected ("Unexpected ALPN on reverse proxy connection " ++ alpnText alpn))
  | none =>
  match self.pingHosts.lookup sni with
  | some host => .ok ((Protocol.max? parsedAlpn).getD defaultProtocol, .ping, host, none)
  | none =>
  match self.speedtestHosts.lookup sni with
  | some host => .ok ((Protocol.max? parsedAlpn).getD defaultProtocol, .speedtest, host, none)
  | none =>
  match (splitOnceDot sni).bind fun parts =>
      (self.mainHosts.lookup parts.2).map fun host => (host, parts.1) with
  | some (host, authCreds) => do
      let protocol ← self.selectTunnelChannelProtocol parsedAlpn alpn
      return (protocol, .tunnel, host, some authCreds)
  | none =>
  match self.allowedSniToMainHost.lookup sni with
  | some mainHostname =>
    match self.mainHosts.lookup mainHostname with
    | some host => do
        let protocol ← self.selectTunnelChannelProtocol parsedAlpn alpn
        return (protocol, .tunnel, host, none)
    | none => .error (.panic .unwrap)
  | none => .error (.rejected ("Unexpected SNI " ++ NetUtils.scrubSni sni))

def parseAlpn (alpn : List Bytes) : List Protocol :=
  (alpn.filterMap Bytes.fromUtf8).filterMap Protocol.fromAlpn

def select (alpn : List Bytes) (sni : String) : Except SelectError (ConnectionMeta keystore) := do
  ensure (¬((parseAlpn alpn).isEmpty = true ∧ alpn.isEmpty = false))
    (.rejected ("None of advertised ALPNs successfully parsed: " ++ alpnText alpn))
  let (protocol, channel, host, auth) ← self.route (parseAlpn alpn) alpn sni
  return {
    sni := sni
    protocol := protocol
    channel := channel
    certChain := host.certChain
    key := host.key
    certChainPath := host.certChainPath
    keyPath := host.keyPath
    sniAuthCreds := auth
    boring := host.boring
  }

end TlsDemux

/-!
## Allowed server names

A main host lists the server names it is to be used for. A connection with such a name is
routed to the tunnel with the certificate of that host only if nothing else claims the name,
since the list is looked at last, and the settings are not checked for it.
-/

open List

/-- Two hosts use the same certificate and key files. -/
def TlsHostInfo.SameCertificate (left right : TlsHostInfo) : Prop :=
  left.certChainPath = right.certChainPath ∧ left.privateKeyPath = right.privateKeyPath

lemma splitOnceDot_eq_some {text label name : String} :
    splitOnceDot text = some (label, name) ↔ text = label ++ "." ++ name ∧ '.' ∉ label.toList := by
  rw [splitOnceDot, Option.map_eq_some_iff]
  constructor
  · rintro ⟨⟨front, behind⟩, cut, same⟩
    cases same
    obtain ⟨split, plain⟩ := Text.cutFirst_eq_some.mp cut
    refine ⟨String.toList_injective ?_, by rwa [String.toList_ofList]⟩
    rw [split]
    simp
  · rintro ⟨rfl, plain⟩
    refine ⟨(label.toList, name.toList), Text.cutFirst_eq_some.mpr ⟨?_, plain⟩, ?_⟩
    · simp
    · rw [String.ofList_toList, String.ofList_toList]

namespace TlsDemux

variable {keystore : Keystore} {host : Host keystore} {entry : String × Host keystore}
  {left right : TlsHostInfo} {info : TlsHostInfo}

/-! ## Tables of hosts -/

/-- The host was loaded from the files of the settings. -/
structure LoadedFrom (host : Host keystore) (info : TlsHostInfo) : Prop where
  certChainPath : host.certChainPath = info.certChainPath
  keyPath : host.keyPath = info.privateKeyPath
  certChain : keystore.loadCerts info.certChainPath = .ok host.certChain
  key : keystore.loadPrivateKey info.privateKeyPath = .ok host.key
  boring : keystore.boringIdentity host.certChain host.key = .ok host.boring

lemma LoadedFrom.sameCertificate (first : LoadedFrom host left) (second : LoadedFrom host right) :
    left.SameCertificate right :=
  ⟨first.certChainPath.symm.trans second.certChainPath, first.keyPath.symm.trans second.keyPath⟩

lemma LoadedFrom.of_sameCertificate (loaded : LoadedFrom host left)
    (same : left.SameCertificate right) : LoadedFrom host right where
  certChainPath := loaded.certChainPath.trans same.1
  keyPath := loaded.keyPath.trans same.2
  certChain := same.1 ▸ loaded.certChain
  key := same.2 ▸ loaded.key
  boring := loaded.boring

lemma makeEntry_eq_ok (made : makeEntry keystore info = .ok entry) :
    entry.1 = info.hostname ∧ entry.2.allowedSni = info.allowedSni ∧ LoadedFrom entry.2 info := by
  obtain ⟨certChain, certs, made⟩ := bind_eq_ok.mp made
  obtain ⟨key, loaded, made⟩ := bind_eq_ok.mp made
  obtain ⟨boring, identity, made⟩ := bind_eq_ok.mp made
  cases made
  exact ⟨rfl, rfl, rfl, rfl, certs, loaded, identity⟩

open TlsHostInfo

section Entries

variable {infos : List TlsHostInfo} {entries : List (String × Host keystore)}

lemma map_fst_makeEntries (made : makeEntries keystore infos = .ok entries) :
    entries.map Prod.fst = infos.map hostname := by
  induction infos generalizing entries with
  | nil =>
    cases made
    rfl
  | cons _ _ ih =>
    obtain ⟨entry, first, made⟩ := bind_eq_ok.mp made
    obtain ⟨others, rest, made⟩ := bind_eq_ok.mp made
    cases made
    rw [map_cons, map_cons, ih rest, (makeEntry_eq_ok first).1]

lemma mem_makeEntries (made : makeEntries keystore infos = .ok entries) :
    entry ∈ entries ↔ ∃ info ∈ infos, makeEntry keystore info = .ok entry := by
  induction infos generalizing entries with
  | nil =>
    cases made
    simp
  | cons _ _ ih =>
    obtain ⟨own, first, made⟩ := bind_eq_ok.mp made
    obtain ⟨others, rest, made⟩ := bind_eq_ok.mp made
    cases made
    rw [mem_cons, ih rest, exists_mem_cons_iff, first, Except.ok.injEq]
    exact or_congr_left eq_comm

end Entries

/-- A table was made of a list of hosts. -/
def Tabulates (table : HostMap keystore) (infos : List TlsHostInfo) : Prop :=
  ∃ entries, makeEntries keystore infos = .ok entries ∧ table = collect entries

namespace Tabulates

variable {table : HostMap keystore} {infos : List TlsHostInfo} {name : String}
  {host : Host keystore}

lemma lookup_eq_none_iff (tabulates : Tabulates table infos) :
    table.lookup name = none ↔ ∀ info ∈ infos, info.hostname ≠ name := by
  obtain ⟨entries, made, rfl⟩ := tabulates
  have names := forall_mem_map (f := Prod.fst) (l := entries) (P := (· ≠ name))
  rw [map_fst_makeEntries made, forall_mem_map] at names
  rw [lookup_collect_eq_none_iff, names]

section

variable (tabulates : Tabulates table infos) (distinct : (infos.map TlsHostInfo.hostname).Nodup)

include tabulates distinct

/-- Names that occur only once have their own host in the table. -/
lemma lookup_eq_some_iff :
    table.lookup name = some host ↔ ∃ info ∈ infos, makeEntry keystore info = .ok (name, host) := by
  obtain ⟨entries, made, rfl⟩ := tabulates
  rw [← map_fst_makeEntries made] at distinct
  rw [lookup_collect_iff distinct, mem_makeEntries made]

lemma exists_lookup (mem : info ∈ infos) :
    ∃ host, table.lookup info.hostname = some host ∧
      host.allowedSni = info.allowedSni ∧ LoadedFrom host info := by
  cases found : table.lookup info.hostname with
  | none => exact absurd rfl (tabulates.lookup_eq_none_iff.mp found info mem)
  | some host =>
    obtain ⟨other, otherMember, made⟩ := (tabulates.lookup_eq_some_iff distinct).mp found
    obtain ⟨sameName, listed, loaded⟩ := makeEntry_eq_ok made
    have same := inj_on_of_nodup_map distinct mem otherMember sameName
    subst same
    exact ⟨host, rfl, listed, loaded⟩

end

end Tabulates

/-! ## The demultiplexer of some settings -/

/-- An order in which a hash map can be iterated over. -/
def IsOrder {α : Type} (iterate : List α → List α) : Prop :=
  ∀ entries, (iterate entries).Perm entries

variable {settings : Settings} {tls : TlsHostsSettings}
  {iterate : List ((_ : String) × Host keystore) → List ((_ : String) × Host keystore)}
  {demux : TlsDemux keystore} {host : Host keystore} {info : TlsHostInfo}
  {alpn : List Bytes} {sni : String}

/-- What the demultiplexer was made of. -/
structure MadeOf (demux : TlsDemux keystore) (settings : Settings) (tls : TlsHostsSettings)
    (iterate : List ((_ : String) × Host keystore) → List ((_ : String) × Host keystore)) :
    Prop where
  mainHosts : Tabulates demux.mainHosts tls.mainHosts
  pingHosts : Tabulates demux.pingHosts tls.pingHosts
  speedtestHosts : Tabulates demux.speedtestHosts tls.speedtestHosts
  reverseProxyHosts : Tabulates demux.reverseProxyHosts
    (if settings.reverseProxy.isSome then tls.reverseProxyHosts else [])
  tunnelProtocols : demux.tunnelProtocols = tunnelProtocolsOf settings
  allowedSni : demux.allowedSniToMainHost = allowedSnis keystore (iterate demux.mainHosts.entries)

lemma madeOf_new (made : new keystore settings tls iterate = .ok demux) :
    demux.MadeOf settings tls iterate := by
  obtain ⟨main, mainMade, made⟩ := bind_eq_ok.mp made
  obtain ⟨ping, pingMade, made⟩ := bind_eq_ok.mp made
  obtain ⟨speedtest, speedtestMade, made⟩ := bind_eq_ok.mp made
  obtain ⟨proxy, proxyMade, made⟩ := bind_eq_ok.mp made
  cases made
  exact ⟨⟨main, mainMade, rfl⟩, ⟨ping, pingMade, rfl⟩, ⟨speedtest, speedtestMade, rfl⟩,
    ⟨proxy, proxyMade, rfl⟩, rfl, rfl⟩

/-- The order of the iteration does not decide whether the demultiplexer can be made. -/
lemma exists_new (made : new keystore settings tls iterate = .ok demux)
    (other : List ((_ : String) × Host keystore) → List ((_ : String) × Host keystore)) :
    ∃ demux, new keystore settings tls other = .ok demux := by
  obtain ⟨main, mainMade, made⟩ := bind_eq_ok.mp made
  obtain ⟨ping, pingMade, made⟩ := bind_eq_ok.mp made
  obtain ⟨speedtest, speedtestMade, made⟩ := bind_eq_ok.mp made
  obtain ⟨proxy, proxyMade, -⟩ := bind_eq_ok.mp made
  rw [new, mainMade, pingMade, speedtestMade, proxyMade]
  exact ⟨_, rfl⟩

lemma nodup_of_validateTlsHosts {infos : List TlsHostInfo} {known all : List String}
    (accepted : TlsHostsSettings.validateTlsHosts keystore infos known = .ok all) :
    (infos.map hostname).Nodup ∧ ∀ info ∈ infos, info.hostname ∉ known := by
  induction infos generalizing known with
  | nil => exact ⟨nodup_nil, forall_mem_nil _⟩
  | cons _ _ ih =>
    obtain ⟨grown, one, rest⟩ := bind_eq_ok.mp accepted
    obtain ⟨_, -, one⟩ := bind_eq_ok.mp one
    obtain ⟨_, -, one⟩ := bind_eq_ok.mp one
    obtain ⟨_, new, one⟩ := bind_eq_ok.mp one
    cases one
    obtain ⟨distinct, others⟩ := ih rest
    constructor
    · rw [map_cons, nodup_cons]
      refine ⟨fun again => ?_, distinct⟩
      obtain ⟨info, mem, same⟩ := mem_map.mp again
      exact others info mem (same ▸ mem_cons_self)
    · rintro info mem
      rcases mem_cons.mp mem with rfl | later
      · exact ensure_eq_ok.mp new
      · exact fun old => others info later (mem_cons_of_mem _ old)

lemma mapError_eq_ok {ε φ α : Type} {change : ε → φ} {result : Except ε α} {value : α}
    (passed : result.mapError change = .ok value) : result = .ok value := by
  cases result with
  | error => cases passed
  | ok =>
    cases passed
    rfl

lemma nodup_of_validate (accepted : tls.validate keystore = .ok ()) :
    (tls.mainHosts.map hostname).Nodup := by
  obtain ⟨_, -, accepted⟩ := bind_eq_ok.mp accepted
  obtain ⟨_, main, -⟩ := bind_eq_ok.mp accepted
  exact (nodup_of_validateTlsHosts (mapError_eq_ok main)).1

/-! ## The route of a tunnel connection -/

/-- The ALPNs are acceptable for a tunnel: one of them is a protocol of the tunnel, or there
is none and the default protocol is one. -/
def TunnelAlpn (settings : Settings) (alpn : List Bytes) : Prop :=
  (∃ protocol ∈ parseAlpn alpn, protocol ∈ tunnelProtocolsOf settings) ∨
    alpn = [] ∧ defaultProtocol ∈ tunnelProtocolsOf settings

variable {protocol : Protocol} {parsed : List Protocol} {name : String}

lemma exists_max? {protocols : List Protocol} (mem : protocol ∈ protocols) :
    ∃ greatest, Protocol.max? protocols = some greatest := by
  rw [Protocol.max?]
  split
  · exact ⟨_, rfl⟩
  · split
    · exact ⟨_, rfl⟩
    · split
      · exact ⟨_, rfl⟩
      · cases protocol with
        | http1 | http2 | http3 => contradiction

lemma exists_tunnelProtocol (made : demux.MadeOf settings tls iterate)
    (acceptable : TunnelAlpn settings alpn) :
    ∃ protocol, demux.selectTunnelChannelProtocol (parseAlpn alpn) alpn = .ok protocol := by
  rw [selectTunnelChannelProtocol, made.tunnelProtocols]
  rcases acceptable with ⟨protocol, parsed, enabled⟩ | ⟨rfl, enabled⟩
  · have mem : protocol ∈ (parseAlpn alpn).filter (· ∈ tunnelProtocolsOf settings) := by
      rw [mem_filter]
      exact ⟨parsed, decide_eq_true enabled⟩
    obtain ⟨greatest, found⟩ := exists_max? mem
    rw [found]
    exact ⟨greatest, rfl⟩
  · refine ⟨defaultProtocol, ?_⟩
    have none : Protocol.max? ((parseAlpn []).filter (· ∈ tunnelProtocolsOf settings)) = none := rfl
    exact if_pos ⟨enabled, rfl⟩

/-- Which host a tunnel connection without credentials in its name gets. -/
inductive Selects (demux : TlsDemux keystore) (sni : String) (host : Host keystore) : Prop where
  | main (found : demux.mainHosts.lookup sni = some host)
  | allowed (main : demux.mainHosts.lookup sni = none)
      (reverseProxy : demux.reverseProxyHosts.lookup sni = none)
      (ping : demux.pingHosts.lookup sni = none)
      (speedtest : demux.speedtestHosts.lookup sni = none)
      (label : ∀ label name, splitOnceDot sni = some (label, name) →
        demux.mainHosts.lookup name = none)
      (mainHostname : String) (listed : demux.allowedSniToMainHost.lookup sni = some mainHostname)
      (found : demux.mainHosts.lookup mainHostname = some host)

lemma selects_of_route
    (routed : demux.route parsed alpn sni = .ok (protocol, .tunnel, host, none)) :
    Selects demux sni host := by
  revert routed
  fun_cases demux.route parsed alpn sni with
  | case1 _ main =>
    intro routed
    obtain ⟨_, -, routed⟩ := bind_eq_ok.mp routed
    cases routed
    exact .main main
  | case7 =>
    intro routed
    obtain ⟨_, -, routed⟩ := bind_eq_ok.mp routed
    cases routed
  | case8 main reverseProxy ping speedtest label _ listed _ found =>
    intro routed
    obtain ⟨_, -, routed⟩ := bind_eq_ok.mp routed
    cases routed
    refine .allowed main reverseProxy ping speedtest ?_ _ listed found
    intro first name split
    exact Option.map_eq_none_iff.mp (Option.bind_eq_none_iff.mp label (first, name) split)
  | case2 | case3 | case4 | case5 | case6 | case9 | case10 =>
    intro routed
    cases routed

lemma route_of_selects (usable : demux.selectTunnelChannelProtocol parsed alpn = .ok protocol)
    (selects : Selects demux sni host) :
    demux.route parsed alpn sni = .ok (protocol, .tunnel, host, none) := by
  rw [route]
  cases selects with
  | main found =>
    simp only [found, usable]
    rfl
  | allowed main reverseProxy ping speedtest label _ listed found =>
    have unlabelled : ((splitOnceDot sni).bind fun parts =>
        (demux.mainHosts.lookup parts.2).map fun host => (host, parts.1)) = none := by
      rw [Option.bind_eq_none_iff]
      intro parts split
      rw [label parts.1 parts.2 split, Option.map_none]
    simp only [main, reverseProxy, ping, speedtest, unlabelled, listed, found, usable]
    rfl

/-- The connection goes to the tunnel, without credentials, with the certificate and the key
of the host. -/
def RoutedToTunnel (demux : TlsDemux keystore) (alpn : List Bytes) (sni : String)
    (info : TlsHostInfo) : Prop :=
  ∃ conn, demux.select alpn sni = .ok conn ∧ conn.channel = .tunnel ∧
    conn.sniAuthCreds = none ∧ conn.sni = sni ∧
    conn.certChainPath = info.certChainPath ∧ conn.keyPath = info.privateKeyPath ∧
    keystore.loadCerts info.certChainPath = .ok conn.certChain ∧
    keystore.loadPrivateKey info.privateKeyPath = .ok conn.key ∧
    keystore.boringIdentity conn.certChain conn.key = .ok conn.boring

lemma routedToTunnel_iff (made : demux.MadeOf settings tls iterate)
    (acceptable : TunnelAlpn settings alpn) :
    demux.RoutedToTunnel alpn sni info ↔ ∃ host, Selects demux sni host ∧ LoadedFrom host info := by
  have parsed : ¬((parseAlpn alpn).isEmpty = true ∧ alpn.isEmpty = false) := by
    rintro ⟨nothing, something⟩
    rcases acceptable with ⟨protocol, mem, -⟩ | ⟨rfl, -⟩
    · rw [List.isEmpty_iff.mp nothing] at mem
      cases mem
    · cases something
  constructor
  · rintro ⟨conn, selected, tunnel, bare, -, certPath, keyPath, certs, key, boring⟩
    obtain ⟨_, -, selected⟩ := bind_eq_ok.mp selected
    obtain ⟨⟨protocol, channel, host, auth⟩, routed, selected⟩ := bind_eq_ok.mp selected
    cases selected
    subst tunnel bare
    exact ⟨host, selects_of_route routed, certPath, keyPath, certs, key, boring⟩
  · rintro ⟨host, selects, loaded⟩
    obtain ⟨protocol, usable⟩ := exists_tunnelProtocol made acceptable
    refine ⟨⟨sni, protocol, .tunnel, host.certChain, host.key, host.certChainPath, host.keyPath,
      none, host.boring⟩, ?_, rfl, rfl, rfl, loaded.certChainPath, loaded.keyPath,
      loaded.certChain, loaded.key, loaded.boring⟩
    rw [select, route_of_selects usable selects, ensure, if_pos parsed]
    rfl

/-! ## Which names are undisputed -/

lemma mem_allowedSnis {hosts : List ((_ : String) × Host keystore)} :
    (sni, name) ∈ hosts.flatMap (fun host => host.2.allowedSni.map fun sni => (sni, host.1)) ↔
      ∃ host, ⟨name, host⟩ ∈ hosts ∧ sni ∈ host.allowedSni := by
  simp only [mem_flatMap, mem_map, Prod.mk.injEq]
  constructor
  · rintro ⟨⟨_, host⟩, mem, _, listed, rfl, rfl⟩
    exact ⟨host, mem, listed⟩
  · rintro ⟨host, mem, listed⟩
    exact ⟨⟨name, host⟩, mem, sni, listed, rfl, rfl⟩

lemma mem_entries_iff {table : HostMap keystore} :
    ⟨name, host⟩ ∈ table.entries ↔ table.lookup name = some host := by
  rw [← AList.mem_lookup_iff, Option.mem_def]

/-- A name that is allowed is found, with a main host that lists it. -/
lemma exists_allowed (made : demux.MadeOf settings tls iterate) (order : IsOrder iterate)
    (distinct : (tls.mainHosts.map hostname).Nodup) (mem : info ∈ tls.mainHosts)
    (listed : sni ∈ info.allowedSni) :
    ∃ other ∈ tls.mainHosts, sni ∈ other.allowedSni ∧ ∃ host,
      demux.allowedSniToMainHost.lookup sni = some other.hostname ∧
      demux.mainHosts.lookup other.hostname = some host ∧ LoadedFrom host other := by
  obtain ⟨own, found, allowed, -⟩ := made.mainHosts.exists_lookup distinct mem
  have present : (sni, info.hostname) ∈ (iterate demux.mainHosts.entries).flatMap
      (fun host => host.2.allowedSni.map fun sni => (sni, host.1)) :=
    mem_allowedSnis.mpr ⟨own, (order _).mem_iff.mpr (mem_entries_iff.mpr found), allowed ▸ listed⟩
  obtain ⟨last, lookup⟩ := exists_lookup_collect present
  obtain ⟨host, hostMember, hostListed⟩ := mem_allowedSnis.mp (mem_of_lookup_collect lookup)
  have hostFound := mem_entries_iff.mp ((order _).mem_iff.mp hostMember)
  obtain ⟨other, otherMember, entry⟩ := (made.mainHosts.lookup_eq_some_iff distinct).mp hostFound
  obtain ⟨rfl, otherListed, loaded⟩ := makeEntry_eq_ok entry
  refine ⟨other, otherMember, otherListed ▸ hostListed, host, ?_, hostFound, loaded⟩
  rw [made.allowedSni, allowedSnis, lookup]

/-- The order in which the host of a given name comes last. -/
def hostLast (name : String) (hosts : List ((_ : String) × Host keystore)) :
    List ((_ : String) × Host keystore) :=
  hosts.filter (fun host => !decide (host.1 = name)) ++ hosts.filter (fun host => host.1 = name)

lemma isOrder_hostLast (name : String) : IsOrder (@hostLast keystore name) := fun hosts =>
  perm_append_comm.trans (filter_append_perm (fun host => host.1 = name) hosts)

/-- If the iteration ends with a host that lists the name, the name is taken for that host. -/
lemma lookup_hostLast (made : demux.MadeOf settings tls (hostLast info.hostname))
    (distinct : (tls.mainHosts.map hostname).Nodup) (mem : info ∈ tls.mainHosts)
    (listed : sni ∈ info.allowedSni) :
    demux.allowedSniToMainHost.lookup sni = some info.hostname := by
  obtain ⟨host, found, allowed, -⟩ := made.mainHosts.exists_lookup distinct mem
  rw [made.allowedSni, allowedSnis, hostLast, flatMap_append, lookup_collect_append]
  have own : ⟨info.hostname, host⟩ ∈
      demux.mainHosts.entries.filter (fun host => host.1 = info.hostname) :=
    mem_filter.mpr ⟨mem_entries_iff.mpr found, decide_eq_true rfl⟩
  rw [lookup_collect_of_mem (mem_allowedSnis.mpr ⟨host, own, allowed ▸ listed⟩), Option.some_or]
  intro other otherMember
  obtain ⟨_, filtered, -⟩ := mem_allowedSnis.mp otherMember
  exact of_decide_eq_true (mem_filter.mp filtered).2

/-- A name that no main host has is not the name of another host either, and what stands
behind its first dot is not the name of a main host. -/
structure NameUnclaimed (settings : Settings) (tls : TlsHostsSettings) (sni : String) : Prop where
  reverseProxy : settings.reverseProxy.isSome = true →
    ∀ other ∈ tls.reverseProxyHosts, other.hostname ≠ sni
  ping : ∀ other ∈ tls.pingHosts, other.hostname ≠ sni
  speedtest : ∀ other ∈ tls.speedtestHosts, other.hostname ≠ sni
  label : ∀ other ∈ tls.mainHosts, ∀ label : String, '.' ∉ label.toList →
    sni ≠ label ++ "." ++ other.hostname

/-- Moreover all main hosts that list the name have the certificate of the given one. -/
structure Unclaimed (settings : Settings) (tls : TlsHostsSettings) (info : TlsHostInfo)
    (sni : String) : Prop extends NameUnclaimed settings tls sni where
  listed : ∀ other ∈ tls.mainHosts, sni ∈ other.allowedSni → other.SameCertificate info

/-- Nothing but the host claims the name. -/
structure Undisputed (settings : Settings) (tls : TlsHostsSettings) (info : TlsHostInfo)
    (sni : String) : Prop where
  named : ∀ other ∈ tls.mainHosts, other.hostname = sni → other.SameCertificate info
  unnamed : (∀ other ∈ tls.mainHosts, other.hostname ≠ sni) → Unclaimed settings tls info sni

section

variable (made : demux.MadeOf settings tls iterate)

include made

lemma MadeOf.lookup_reverseProxy :
    demux.reverseProxyHosts.lookup sni = none ↔ (settings.reverseProxy.isSome = true →
      ∀ other ∈ tls.reverseProxyHosts, other.hostname ≠ sni) := by
  rw [made.reverseProxyHosts.lookup_eq_none_iff]
  cases settings.reverseProxy with
  | none | some => simp

lemma MadeOf.lookup_label :
    (∀ label name, splitOnceDot sni = some (label, name) → demux.mainHosts.lookup name = none) ↔
      ∀ other ∈ tls.mainHosts, ∀ label : String, '.' ∉ label.toList →
        sni ≠ label ++ "." ++ other.hostname := by
  simp only [made.mainHosts.lookup_eq_none_iff, splitOnceDot_eq_some]
  constructor
  · intro apart other mem label plain cut
    exact apart label _ ⟨cut, plain⟩ other mem rfl
  · rintro apart label name ⟨cut, plain⟩ other mem rfl
    exact apart other mem label plain cut

lemma Undisputed.selects (undisputed : Undisputed settings tls info sni)
    (order : IsOrder iterate) (distinct : (tls.mainHosts.map hostname).Nodup)
    (mem : info ∈ tls.mainHosts) (listed : sni ∈ info.allowedSni) :
    ∃ host, Selects demux sni host ∧ LoadedFrom host info := by
  cases main : demux.mainHosts.lookup sni with
  | some host =>
    obtain ⟨other, otherMember, entry⟩ := (made.mainHosts.lookup_eq_some_iff distinct).mp main
    obtain ⟨name, -, loaded⟩ := makeEntry_eq_ok entry
    exact ⟨host, .main main,
      loaded.of_sameCertificate (undisputed.named other otherMember name.symm)⟩
  | none =>
    have unclaimed := undisputed.unnamed (made.mainHosts.lookup_eq_none_iff.mp main)
    obtain ⟨other, otherMember, otherListed, host, allowed, found, loaded⟩ :=
      exists_allowed made order distinct mem listed
    refine ⟨host, ?_, loaded.of_sameCertificate (unclaimed.listed other otherMember otherListed)⟩
    exact .allowed main (made.lookup_reverseProxy.mpr unclaimed.reverseProxy)
      (made.pingHosts.lookup_eq_none_iff.mpr unclaimed.ping)
      (made.speedtestHosts.lookup_eq_none_iff.mpr unclaimed.speedtest)
      (made.lookup_label.mpr unclaimed.label) _ allowed found

lemma Selects.nameUnclaimed (selected : Selects demux sni host)
    (unnamed : ∀ other ∈ tls.mainHosts, other.hostname ≠ sni) : NameUnclaimed settings tls sni := by
  cases selected with
  | main found => cases (made.mainHosts.lookup_eq_none_iff.mpr unnamed).symm.trans found
  | allowed _ reverseProxy ping speedtest label =>
    exact ⟨made.lookup_reverseProxy.mp reverseProxy, made.pingHosts.lookup_eq_none_iff.mp ping,
      made.speedtestHosts.lookup_eq_none_iff.mp speedtest, made.lookup_label.mp label⟩

end

/-- A name that is routed to its host, whichever host comes last, is undisputed. -/
lemma undisputed_of_selects (distinct : (tls.mainHosts.map hostname).Nodup)
    (mem : info ∈ tls.mainHosts)
    (selects : ∀ other ∈ tls.mainHosts, ∃ demux : TlsDemux keystore,
      demux.MadeOf settings tls (hostLast other.hostname) ∧
      ∃ host, Selects demux sni host ∧ LoadedFrom host info) :
    Undisputed settings tls info sni where
  named other otherMember name := by
    obtain ⟨demux, made, host, selected, loaded⟩ := selects other otherMember
    obtain ⟨own, found, -, ownLoaded⟩ := made.mainHosts.exists_lookup distinct otherMember
    rw [name] at found
    cases selected with
    | main same =>
      cases found.symm.trans same
      exact ownLoaded.sameCertificate loaded
    | allowed absent => cases found.symm.trans absent
  unnamed unnamed := {
    toNameUnclaimed := by
      obtain ⟨demux, made, host, selected, -⟩ := selects info mem
      exact selected.nameUnclaimed made unnamed
    listed := by
      intro other otherMember otherListed
      obtain ⟨demux, made, host, selected, loaded⟩ := selects other otherMember
      obtain ⟨own, ownFound, -, ownLoaded⟩ := made.mainHosts.exists_lookup distinct otherMember
      cases selected with
      | main found => cases (made.mainHosts.lookup_eq_none_iff.mpr unnamed).symm.trans found
      | allowed _ _ _ _ _ _ taken found =>
        cases taken.symm.trans (lookup_hostLast made distinct otherMember otherListed)
        cases ownFound.symm.trans found
        exact ownLoaded.sameCertificate loaded
  }

/-- A name that a main host lists is routed to the tunnel with the certificate of that host,
in every order in which the hosts are iterated over, exactly when nothing else claims it. -/
theorem routedToTunnel_allowed_iff (settings : Settings) (tls : TlsHostsSettings)
    (accepted : tls.validate keystore = .ok ())
    (starts : ∃ demux, new keystore settings tls id = .ok demux)
    (alpn : List Bytes) (acceptable : TunnelAlpn settings alpn)
    (info : TlsHostInfo) (mem : info ∈ tls.mainHosts)
    (sni : String) (listed : sni ∈ info.allowedSni) :
    (∀ iterate demux, IsOrder iterate → new keystore settings tls iterate = .ok demux →
      demux.RoutedToTunnel alpn sni info) ↔ Undisputed settings tls info sni := by
  have distinct := nodup_of_validate accepted
  constructor
  · intro routed
    apply undisputed_of_selects distinct mem
    intro other otherMember
    obtain ⟨_, started⟩ := starts
    obtain ⟨demux, built⟩ := exists_new started _
    have made := madeOf_new built
    exact ⟨demux, made, (routedToTunnel_iff made acceptable).mp
      (routed _ demux (isOrder_hostLast _) built)⟩
  · intro undisputed iterate demux order built
    have made := madeOf_new built
    exact (routedToTunnel_iff made acceptable).mpr
      (undisputed.selects made order distinct mem listed)

/-- Files that hold their own names. -/
def namedFiles : Keystore where
  CertChain := String
  Key := String
  BoringIdentity := String × String
  loadCerts := .ok
  loadPrivateKey := .ok
  boringIdentity certChain key := .ok (certChain, key)

/-- One main host, which allows the given name, and one ping host. -/
def oneAllowed (sni : String) : TlsHostsSettings where
  mainHosts := [⟨"vpn.example", "vpn.pem", "vpn.key", [sni]⟩]
  pingHosts := [⟨"ping.example", "ping.pem", "ping.key", []⟩]
  speedtestHosts := []
  reverseProxyHosts := []

lemma tunnelAlpn_http2 : TunnelAlpn (HttpDemux.maskedSettings "/api") [.ofString "h2"] :=
  .inl ⟨.http2, by decide +kernel, by decide +kernel⟩

lemma undisputed_cdn :
    Undisputed (HttpDemux.maskedSettings "/api") (oneAllowed "cdn.example")
      ⟨"vpn.example", "vpn.pem", "vpn.key", ["cdn.example"]⟩ "cdn.example" where
  named other mem _ := by
    rw [mem_singleton.mp mem]
    exact ⟨rfl, rfl⟩
  unnamed _ := {
    reverseProxy := fun _ _ mem => absurd mem not_mem_nil
    ping := fun other mem => by
      rw [mem_singleton.mp mem]
      decide +kernel
    speedtest := forall_mem_nil _
    label := fun other mem label plain cut => by
      rw [mem_singleton.mp mem] at cut
      have parts : splitOnceDot "cdn.example" = some ("cdn", "example") := by decide +kernel
      have same := parts.symm.trans (splitOnceDot_eq_some.mpr ⟨cut, plain⟩)
      have behind : "example" = "vpn.example" := congrArg Prod.snd (Option.some.inj same)
      exact absurd behind (by decide +kernel)
    listed := fun other mem _ => by
      rw [mem_singleton.mp mem]
      exact ⟨rfl, rfl⟩
  }

theorem routedToTunnel_cdn :
    (oneAllowed "cdn.example").validate namedFiles = .ok () ∧
      (∃ demux, new namedFiles (HttpDemux.maskedSettings "/api") (oneAllowed "cdn.example") id =
        .ok demux) ∧
      ∀ iterate demux, IsOrder iterate →
        new namedFiles (HttpDemux.maskedSettings "/api") (oneAllowed "cdn.example") iterate =
          .ok demux →
        demux.RoutedToTunnel [.ofString "h2"] "cdn.example"
          ⟨"vpn.example", "vpn.pem", "vpn.key", ["cdn.example"]⟩ := by
  have accepted : (oneAllowed "cdn.example").validate namedFiles = .ok () := by
    decide +kernel
  have starts : ∃ demux, new namedFiles (HttpDemux.maskedSettings "/api")
      (oneAllowed "cdn.example") id = .ok demux := ⟨_, rfl⟩
  exact ⟨accepted, starts, (routedToTunnel_allowed_iff _ _ accepted starts _ tunnelAlpn_http2 _
    mem_cons_self _ mem_cons_self).mpr undisputed_cdn⟩

/-- A name under that of the host is accepted, and a connection with it is taken for one with
credentials. -/
theorem not_routedToTunnel_label :
    (oneAllowed "a.vpn.example").validate namedFiles = .ok () ∧
      ¬∀ iterate demux, IsOrder iterate →
        new namedFiles (HttpDemux.maskedSettings "/api") (oneAllowed "a.vpn.example") iterate =
          .ok demux →
        demux.RoutedToTunnel [.ofString "h2"] "a.vpn.example"
          ⟨"vpn.example", "vpn.pem", "vpn.key", ["a.vpn.example"]⟩ := by
  refine ⟨by decide +kernel, fun routed => ?_⟩
  have built : ∃ demux, new namedFiles (HttpDemux.maskedSettings "/api")
      (oneAllowed "a.vpn.example") id = .ok demux := ⟨_, rfl⟩
  obtain ⟨demux, built⟩ := built
  have made := madeOf_new built
  obtain ⟨host, selected, -⟩ := (routedToTunnel_iff made tunnelAlpn_http2).mp
    (routed id demux (fun _ => .refl _) built)
  have unclaimed := selected.nameUnclaimed made (by
    intro other mem
    rw [mem_singleton.mp mem]
    decide +kernel)
  exact unclaimed.label _ mem_cons_self "a" (by decide +kernel) (by decide +kernel)

end TlsDemux

end TrustTunnel.Endpoint
