import Mathlib.Data.List.AList
import TrustTunnel.Endpoint.IoError
import TrustTunnel.Endpoint.NetUtils

/-!
# UDP datagrams on both sides of the endpoint

Towards the client a datagram carries the name of the application that sent it;
towards the forwarder only the address pair is kept, and it keys the tables of
UDP "connections".
-/

namespace TrustTunnel.Endpoint

namespace Downstream

structure UdpDatagramMeta where
  source : SocketAddr
  destination : SocketAddr
  appName : Option String
  deriving DecidableEq

structure UdpDatagram where
  metadata : UdpDatagramMeta
  payload : Bytes
  deriving DecidableEq

end Downstream

namespace Forwarder

structure UdpDatagramMeta where
  source : SocketAddr
  destination : SocketAddr
  deriving DecidableEq

structure UdpDatagram where
  metadata : UdpDatagramMeta
  payload : Bytes
  deriving DecidableEq

namespace UdpDatagramMeta

def reversed (self : UdpDatagramMeta) : UdpDatagramMeta where
  source := self.destination
  destination := self.source

/-- `From<&downstream::UdpDatagramMeta>`. -/
def ofDownstream (dgram : Downstream.UdpDatagramMeta) : UdpDatagramMeta where
  source := dgram.source
  destination := dgram.destination

end UdpDatagramMeta

end Forwarder

/-!
## The direct UDP forwarder

The forwarder keeps a connected socket for each address pair of a client. The
sockets themselves and the metrics guards are left out: what matters is which
address pairs have one.
-/

namespace UdpForwarder

open Forwarder

structure Connection where
  beingListened : Bool
  deriving DecidableEq

abbrev Connections := AList fun _ : UdpDatagramMeta => Connection

structure Settings where
  allowPrivateNetworkConnections : Bool

/-- The destination may be connected to. -/
def Settings.Admits (self : Settings) (metadata : Downstream.UdpDatagramMeta) : Prop :=
  self.allowPrivateNetworkConnections = true ∨ NetUtils.isGlobalIp metadata.destination.ip = true

instance (self : Settings) (metadata : Downstream.UdpDatagramMeta) :
    Decidable (self.Admits metadata) :=
  inferInstanceAs (Decidable (_ ∨ _))

/-- `on_new_udp_connection`; `socket` is what `make_udp_socket` returns. -/
def onNewUdpConnection (settings : Settings) (connections : Connections)
    (metadata : Downstream.UdpDatagramMeta) (socket : Except IoError Unit) :
    Except IoError Connections := do
  if ¬settings.Admits metadata then
    throw ⟨.permissionDenied, "UDP destination is in a non-routable network"⟩
  if .ofDownstream metadata ∈ connections then
    throw (.other "Already present")
  socket
  return connections.insert (.ofDownstream metadata) ⟨false⟩

/-- `on_connection_closed`: the address pair is given as the peer sees it. -/
def onConnectionClosed (connections : Connections) (metadata : UdpDatagramMeta) :
    Connections :=
  connections.erase metadata.reversed

lemma onNewUdpConnection_ok {settings : Settings} {connections after : Connections}
    {metadata : Downstream.UdpDatagramMeta} {socket : Except IoError Unit}
    (opened : onNewUdpConnection settings connections metadata socket = .ok after) :
    after = connections.insert (.ofDownstream metadata) ⟨false⟩ := by
  rw [onNewUdpConnection] at opened
  by_cases admitted : settings.Admits metadata
  · by_cases present : .ofDownstream metadata ∈ connections
    · simp [admitted, present, bind, Except.bind] at opened
    · cases socket with
      | error => simp [admitted, present] at opened
      | ok =>
        simp only [admitted, present, not_true_eq_false, if_false, ok_bind] at opened
        cases opened
        rfl
  · simp [admitted, bind, Except.bind] at opened

end UdpForwarder

end TrustTunnel.Endpoint
