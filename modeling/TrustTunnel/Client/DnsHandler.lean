import TrustTunnel.Client.DnsPackets
import TrustTunnel.Client.DomainFilter
import TrustTunnel.Client.UpstreamMultiplexer
import TrustTunnel.Transition.Trace

/-!
# The DNS handler of the client

`core/src/dns_handler.cpp`: a DNS message of an application goes to the DNS proxy of the user, to
the system DNS proxy, or to its destination, through the endpoint or past it. While the client is
not connected and the kill switch is on, nothing may go past the endpoint but the queries of the
application itself.
-/

namespace TrustTunnel.Client

open Transition DomainFilter DnsUtils

namespace DnsHandler

/-- The DNS proxies, each with a client of its own. -/
inductive Proxy where
  | user
  | system
  | systemIpv6
  deriving DecidableEq

/-- What becomes of a message. A listener connection is flagged if it was requested with
`CCRF_DNS_HANDLER_BYPASS`. -/
inductive Delivery where
  | proxied (proxy : Proxy) (upstreamConnId : UInt64) (tcp : Bool) (msg : Bytes)
  | asListener (upstreamConnId : UInt64) (flagged : Bool) (msg : Bytes)
  deriving DecidableEq

structure Parameters where
  dnsUpstreams : List String
  altExclusionsRoute : Bool

structure ConnectionInfo where
  upstreamConnId : UInt64
  proto : Int32
  src : SocketAddr
  dst : TunnelAddress
  appName : String

/-- What the handler asks the client for. -/
structure VpnClient (parsers : Parsers) where
  endpointUpstreamConnected : Bool
  killSwitchOn : Bool
  exclusionsMode : VpnMode
  domainFilter : Tables parsers
  /-- `vpn_network_manager_check_app_request_domain`. -/
  checkAppRequestDomain : Bytes → Bool

end DnsHandler

structure DnsHandler where
  parameters : DnsHandler.Parameters
  /-- There is a client of the proxy. -/
  client : Bool
  systemClient : Bool
  systemClientIpv6 : Bool
  /-- The listener connections by the upstream ones that they were opened for, and whether they
  are flagged. -/
  listenerConnections : AList fun _ : UInt64 => Bool

namespace DnsHandler

/-- `IPPROTO_TCP`. -/
def ipprotoTcp : Int32 := 6

/-- `PLAIN_DNS_PORT_NUMBER`. -/
def plainDnsPortNumber : UInt16 := 53

/-- `VPN_INTERNAL_DNS_IPS_V4` and `VPN_INTERNAL_DNS_IPS_V6`. -/
def vpnInternalDnsIps : List IpAddr :=
  [.v4 (.new 198 18 53 53), .v4 (.new 198 18 53 54),
    .v6 ⟨[0xfd, 0, 0, 0, 0, 0, 0, 0, 0, 0, 0, 0, 0, 0, 0, 0x53], rfl⟩,
    .v6 ⟨[0xfd, 0, 0, 0, 0, 0, 0, 0, 0, 0, 0, 0, 0, 0, 0, 0x54], rfl⟩]

def isInternalDnsDestination : TunnelAddress → Bool
  | .address address => address.port == plainDnsPortNumber && vpnInternalDnsIps.contains address.ip
  | .name _ _ => false

/-- The destination is an IPv6 address. -/
def isIpv6 : TunnelAddress → Bool
  | .address ⟨.v6 _, _⟩ => true
  | .address ⟨.v4 _, _⟩ | .name _ _ => false

def new (parameters : Parameters) (client systemClient systemClientIpv6 : Bool) : DnsHandler where
  parameters := parameters
  client := client
  systemClient := systemClient
  systemClientIpv6 := systemClientIpv6
  listenerConnections := ∅

variable (self : DnsHandler)

/-! ## Sending -/

/-- The client that `send_request` uses, if there is one. -/
def selectClient (systemProxy ipv6 : Bool) : Option Proxy :=
  let useIpv6SystemClient := systemProxy && ((ipv6 && self.systemClientIpv6) || !self.systemClient)
  if !systemProxy then if self.client then some .user else none
  else if useIpv6SystemClient then if self.systemClientIpv6 then some .systemIpv6 else none
  else if self.systemClient then some .system else none

/-- `send_request`, where `accepts` tells whether the client of a proxy sends the message. -/
def sendRequest (accepts : Proxy → Bool) (systemProxy ipv6 tcp : Bool) (upstreamConnId : UInt64)
    (msg : Bytes) : List Delivery :=
  match self.selectClient systemProxy ipv6 with
  | none => []
  | some proxy => if accepts proxy then [.proxied proxy upstreamConnId tcp msg] else []

/-- `send_as_listener`: the flags are those of the connect request, which is made once for an
upstream connection. -/
def sendRequestAsListener (info : ConnectionInfo) (msg : Bytes) (forceBypass : Bool) :
    DnsHandler × List Delivery :=
  match self.listenerConnections.lookup info.upstreamConnId with
  | none =>
    ({ self with
        listenerConnections := self.listenerConnections.insert info.upstreamConnId forceBypass },
      [.asListener info.upstreamConnId forceBypass msg])
  | some flagged => (self, [.asListener info.upstreamConnId flagged msg])

/-! ## Requests -/

section

variable {parsers : Parsers} (vpn : VpnClient parsers) (accepts : Proxy → Bool)
  (info : ConnectionInfo) (msg : Bytes)

/-- A message goes to a DNS proxy, and the tables stay as they are. -/
def viaProxy (systemProxy : Bool) : DnsHandler × List Delivery :=
  (self, self.sendRequest accepts systemProxy (isIpv6 info.dst) (info.proto == ipprotoTcp)
    info.upstreamConnId msg)

/-- A message that is not a request. -/
def onOtherMessage : DnsHandler × List Delivery :=
  if isInternalDnsDestination info.dst then
    if self.parameters.dnsUpstreams ≠ [] then self.viaProxy accepts info msg false
    else self.viaProxy accepts info msg true
  else self.sendRequestAsListener info msg false

/-- A request while the endpoint is not connected. -/
def onUnconnectedRequest (req : DecodedRequest) : DnsHandler × List Delivery :=
  let appRequest := vpn.checkAppRequestDomain req.name
  if vpn.killSwitchOn && !appRequest then (self, [])
  else if isInternalDnsDestination info.dst then
    if self.parameters.dnsUpstreams ≠ [] then self.viaProxy accepts info msg false
    else self.viaProxy accepts info msg true
  else if self.parameters.altExclusionsRoute then self.sendRequestAsListener info msg true
  else self.viaProxy accepts info msg true

/-- A request while the endpoint is connected. -/
def onConnectedRequest (req : DecodedRequest) : DnsHandler × List Delivery :=
  let status := matchDomain vpn.domainFilter req.name
  let included :=
    match vpn.exclusionsMode with
    | .general => status == .default
    | .selective => status == .exclusion
  if included && self.parameters.dnsUpstreams ≠ [] then
    if self.client then self.viaProxy accepts info msg false else (self, [])
  else if isInternalDnsDestination info.dst then self.viaProxy accepts info msg true
  else if !included && !self.parameters.altExclusionsRoute then
    self.viaProxy accepts info msg true
  else self.sendRequestAsListener info msg !included

def onDnsRequest (ldns : Ldns) : DnsHandler × List Delivery :=
  match decodePacket ldns msg with
  | .error _ => (self, [])
  | .reply _ | .inapplicable _ => self.onOtherMessage accepts info msg
  | .request req =>
    if vpn.endpointUpstreamConnected then self.onConnectedRequest vpn accepts info msg req
    else self.onUnconnectedRequest vpn accepts info msg req

end

/-! ## Runs -/

inductive Event (parsers : Parsers) where
  | request (vpn : VpnClient parsers) (accepts : Proxy → Bool) (info : ConnectionInfo) (msg : Bytes)
  /-- The proxies are restarted, with new parameters. -/
  | restart (parameters : Parameters) (client systemClient systemClientIpv6 : Bool)

variable {parsers : Parsers} (ldns : Ldns)

def next (self : DnsHandler) : Event parsers → DnsHandler
  | .request vpn accepts info msg => (self.onDnsRequest vpn accepts info msg ldns).1
  | .restart parameters client systemClient systemClientIpv6 =>
    { self with parameters, client, systemClient, systemClientIpv6 }

/-- The message goes past the endpoint. -/
def Delivery.Leaks : Delivery → Prop
  | .proxied .user _ _ _ => False
  | .proxied .system _ _ _ | .proxied .systemIpv6 _ _ _ => True
  | .asListener _ flagged _ => flagged = true

/-- While the endpoint is not connected and the kill switch is on, a message goes past the
endpoint only if it is a query for a domain of an app request. -/
def Confined (self : DnsHandler) : Event parsers → Prop
  | .request vpn accepts info msg =>
    vpn.endpointUpstreamConnected = false → vpn.killSwitchOn = true →
      ∀ delivery ∈ (self.onDnsRequest vpn accepts info msg ldns).2, delivery.Leaks →
        ∃ req, decodePacket ldns msg = .request req ∧ vpn.checkAppRequestDomain req.name = true
  | .restart _ _ _ _ => True

/-- The message is a reply, or a packet without a question. -/
def IsOther (msg : Bytes) : Prop :=
  (∃ reply, decodePacket ldns msg = .reply reply) ∨ ∃ id, decodePacket ldns msg = .inapplicable id

/-- A message that is not a request finds no way past the endpoint: for an internal destination
there is a DNS server of the user, or the system DNS proxy does not take it, and for another one
there is no flagged connection. -/
def Shut (self : DnsHandler) : Event parsers → Prop
  | .request vpn accepts info msg =>
    vpn.endpointUpstreamConnected = false → vpn.killSwitchOn = true → IsOther ldns msg →
      if isInternalDnsDestination info.dst then
        self.parameters.dnsUpstreams ≠ [] ∨
          ∀ proxy, self.selectClient true (isIpv6 info.dst) = some proxy → accepts proxy = false
      else self.listenerConnections.lookup info.upstreamConnId ≠ some true
  | .restart _ _ _ _ => True

variable {ldns} {self : DnsHandler} {accepts : Proxy → Bool} {info : ConnectionInfo} {msg : Bytes}

/-- A client that is selected for the system DNS proxy is one of it. -/
lemma leaks_of_selectClient {ipv6 tcp : Bool} {proxy : Proxy} {upstreamConnId : UInt64}
    (selected : self.selectClient true ipv6 = some proxy) :
    (Delivery.proxied proxy upstreamConnId tcp msg).Leaks := by
  rw [selectClient] at selected
  simp only [Bool.true_and, Bool.not_true, Bool.false_eq_true, if_false] at selected
  split at selected
  · split at selected
    · cases selected
      trivial
    · cases selected
  · split at selected
    · cases selected
      trivial
    · cases selected

/-- Nothing leaks through the DNS proxy of the user. -/
lemma viaProxy_user : ∀ delivery ∈ (self.viaProxy accepts info msg false).2, ¬delivery.Leaks := by
  intro delivery mem
  rw [viaProxy, sendRequest] at mem
  cases selected : self.selectClient false (isIpv6 info.dst) with
  | none =>
    rw [selected] at mem
    cases mem
  | some =>
    rw [selected] at mem
    dsimp only at mem
    split at mem
    · rw [List.mem_singleton.mp mem]
      rw [selectClient] at selected
      simp only [Bool.not_false, if_true] at selected
      split at selected
      · cases selected
        exact id
      · cases selected
    · cases mem

/-- A message leaks through the system DNS proxy unless that does not take it. -/
lemma viaProxy_system : (∀ delivery ∈ (self.viaProxy accepts info msg true).2, ¬delivery.Leaks) ↔
    ∀ proxy, self.selectClient true (isIpv6 info.dst) = some proxy → accepts proxy = false := by
  rw [viaProxy, sendRequest]
  cases selected : self.selectClient true (isIpv6 info.dst) with
  | none => simp
  | some proxy =>
    have leaks : (Delivery.proxied proxy info.upstreamConnId (info.proto == ipprotoTcp)
        msg).Leaks := leaks_of_selectClient selected
    cases taken : accepts proxy with
    | true => simp [leaks]
    | false => simp [taken]

lemma onOtherMessage_iff :
    (∀ delivery ∈ (self.onOtherMessage accepts info msg).2, ¬delivery.Leaks) ↔
      if isInternalDnsDestination info.dst then
        self.parameters.dnsUpstreams ≠ [] ∨
          ∀ proxy, self.selectClient true (isIpv6 info.dst) = some proxy → accepts proxy = false
      else self.listenerConnections.lookup info.upstreamConnId ≠ some true := by
  rw [onOtherMessage]
  split
  · split
    case isTrue configured => exact iff_of_true viaProxy_user (.inl configured)
    case isFalse bare =>
      rw [viaProxy_system]
      exact ⟨.inr, fun either => either.resolve_left bare⟩
  · rw [sendRequestAsListener]
    cases known : self.listenerConnections.lookup _ with
    | none | some => simp [Delivery.Leaks]

lemma confined_iff (event : Event parsers) : self.Confined ldns event ↔ self.Shut ldns event := by
  cases event with
  | restart => exact Iff.rfl
  | request _ _ _ msg =>
    refine imp_congr_right fun unconnected => imp_congr_right fun killSwitchOn => ?_
    rw [onDnsRequest, IsOther]
    cases decoded : decodePacket ldns msg with
    | error => simp
    | request req =>
      simp only [unconnected, Bool.false_eq_true, if_false]
      refine iff_of_true (fun delivery mem _ => ⟨req, rfl, ?_⟩) ?_
      · by_contra other
        rw [Bool.not_eq_true] at other
        simp only [onUnconnectedRequest, killSwitchOn, other, Bool.not_false, Bool.and_self,
          if_true] at mem
        cases mem
      · rintro (⟨_, impossible⟩ | ⟨_, impossible⟩)
        · cases impossible
        · cases impossible
    | reply | inapplicable => simpa using onOtherMessage_iff

/-- While the endpoint is not connected and the kill switch is on, messages are confined
throughout a run if and only if those that are not requests find no way past the endpoint. -/
theorem confined_run_iff (ldns : Ldns) (parameters : Parameters)
    (client systemClient systemClientIpv6 : Bool) (events : List (Event parsers)) :
    EachStep (next ldns) (Confined ldns) (new parameters client systemClient systemClientIpv6)
        events ↔
      EachStep (next ldns) (Shut ldns) (new parameters client systemClient systemClientIpv6)
        events :=
  eachStep_congr fun _ event => confined_iff event

/-- A library that reads of a message only whether it is a query for `a` or a reply to one with
an error. -/
def sampleLdns : Ldns where
  wire2pkt msg :=
    .ok
      { id := 1
        qr := 128 ≤ msg.getD 2 0
        rcode := 3
        question := [⟨⟨[], .ofString "a.", true⟩, .a, 0, []⟩]
        answer := [] }

/-- Not connected, with the kill switch on; the application looks for `a` itself. -/
def lockedVpn : VpnClient Parsers.namesOnly where
  endpointUpstreamConnected := false
  killSwitchOn := true
  exclusionsMode := .general
  domainFilter := ⟨.general, ∅, [], [], []⟩
  checkAppRequestDomain name := name == .ofString "a"

/-- A TCP connection to a DNS server. -/
def dnsConnection (ip : IpAddr) : ConnectionInfo where
  upstreamConnId := 7
  proto := ipprotoTcp
  src := ⟨.v4 (.new 10 0 0 2), 40000⟩
  dst := .address ⟨ip, 53⟩
  appName := ""

/-- A message with the given flags in its header and a question for the address of `a`. -/
def aboutA (flags : Bytes) : Bytes :=
  [0, 1] ++ flags ++ [0, 1, 0, 0, 0, 0, 0, 0] ++ [1, 97, 0, 0, 1, 0, 1]

def query : Bytes := aboutA [1, 0]

def reply : Bytes := aboutA [0x81, 0x83]

/-- A reply is sent to the internal DNS server. -/
def internalRun : List (Event Parsers.namesOnly) :=
  [.request lockedVpn (fun _ => true) (dnsConnection (.v4 (.new 198 18 53 53))) reply]

/-- A reply follows a query of the application on the same connection. -/
def sharedRun : List (Event Parsers.namesOnly) :=
  [.request lockedVpn (fun _ => true) (dnsConnection (.v4 (.new 8 8 8 8))) query,
    .request lockedVpn (fun _ => true) (dnsConnection (.v4 (.new 8 8 8 8))) reply]

/-- Messages that are not requests go past the endpoint, to the system DNS proxy or on a
connection that bypasses the endpoint. -/
theorem not_confined_runs :
    ¬EachStep (next sampleLdns) (Confined sampleLdns) (new ⟨[], false⟩ false true false)
        internalRun ∧
      ¬EachStep (next sampleLdns) (Confined sampleLdns) (new ⟨[], true⟩ false true false)
        sharedRun := by
  refine ⟨fun steps => ?_, fun steps => ?_⟩
  · obtain ⟨_, impossible, -⟩ := steps.1 rfl rfl (.proxied .system 7 true reply)
      (List.mem_singleton_self _) trivial
    cases impossible
  · obtain ⟨_, impossible, -⟩ := steps.2.1 rfl rfl (.asListener 7 true reply) (by decide) rfl
    cases impossible

end DnsHandler

end TrustTunnel.Client
