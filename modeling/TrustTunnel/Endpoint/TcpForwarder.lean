import TrustTunnel.Endpoint.Settings
import TrustTunnel.Endpoint.Tunnel

/-!
# Peers of forwarded TCP connections

A destination is an address or a host name. The addresses that a name resolves to are
scanned for the first one that may be connected to, and the scan remembers why the
addresses before it were rejected. A second loopback address is remembered as not
routable.
-/

namespace TrustTunnel

open List

namespace Endpoint

open NetUtils

lemma NetUtils.isGlobalIp_of_isLoopback {ip : IpAddr} (loopback : ip.isLoopback = true) :
    isGlobalIp ip = false := by
  cases ip with
  | v4 ip =>
    have first : ip.get 0 = 127 := by simpa [IpAddr.isLoopback, Ipv4Addr.isLoopback] using loopback
    have special : ¬(ip = .new 192 0 0 9 ∨ ip = .new 192 0 0 10) := by
      rintro (rfl | rfl) <;> exact absurd first (by decide)
    simp [isGlobalIp, isGlobalIpv4, special, Ipv4Addr.isLoopback, first]
  | v6 ip =>
    have octets : ip = ⟨List.replicate 15 0 ++ [1], rfl⟩ :=
      List.Vector.eq _ _ (by simpa [IpAddr.isLoopback, Ipv6Addr.isLoopback] using loopback)
    subst octets
    decide

inductive TcpDestination where
  | address (peer : SocketAddr)
  | hostName (host : String) (port : UInt16)

inductive SelectionStatus where
  | loopback
  | nonRoutable
  | suitable (peer : SocketAddr)

/-- The settings that the choice of a peer depends on. -/
structure TcpForwarder where
  allowPrivateNetworkConnections : Bool
  ipv6Available : Bool

namespace TcpForwarder

/-- The loop over the addresses of a host name. -/
def select (self : TcpForwarder) : Option SelectionStatus → List SocketAddr → Option SelectionStatus
  | status, [] => status
  | status, a :: rest =>
    if a.ip.isIpv6 && !self.ipv6Available then self.select status rest
    else if isGlobalIp a.ip || self.allowPrivateNetworkConnections then some (.suitable a)
    else if status.isNone && a.ip.isLoopback then self.select (some .loopback) rest
    else self.select (some .nonRoutable) rest

/-- The peer that `connect` opens a stream to. -/
def peer (lookupHost : String → UInt16 → Except ConnectionError (List SocketAddr))
    (self : TcpForwarder) : TcpDestination → Except ConnectionError SocketAddr
  | .address peer =>
    if !self.allowPrivateNetworkConnections && !isGlobalIp peer.ip then
      .error (if peer.ip.isLoopback then .dnsLoopback else .dnsNonroutable)
    else .ok peer
  | .hostName host port => do
      match self.select none (← lookupHost host port) with
      | none => .error (.io (.other "Resolved to empty list"))
      | some .loopback => .error .dnsLoopback
      | some .nonRoutable => .error .dnsNonroutable
      | some (.suitable peer) => .ok peer

/-- The addresses of a family that can be used. -/
def usable (self : TcpForwarder) (resolved : List SocketAddr) : List SocketAddr :=
  resolved.filter fun a => !(a.ip.isIpv6 && !self.ipv6Available)

/-- What the addresses that were rejected are remembered as. -/
def rejected : Option SelectionStatus → List SocketAddr → Option SelectionStatus
  | status, [] => status
  | none, [a] => some (if a.ip.isLoopback then .loopback else .nonRoutable)
  | _, _ => some .nonRoutable

/-- The peer is the first global address of a usable family. Without one, the error tells
whether all addresses that could be used are loopback addresses. -/
def SelectsFirstGlobal (self : TcpForwarder) (resolved : List SocketAddr)
    (result : Except ConnectionError SocketAddr) : Prop :=
  (∀ peer, result = .ok peer ↔ (self.usable resolved).find? (isGlobalIp ·.ip) = some peer) ∧
    (self.usable resolved ≠ [] → (self.usable resolved).find? (isGlobalIp ·.ip) = none →
      result = .error
        (if (self.usable resolved).all (·.ip.isLoopback) then .dnsLoopback else .dnsNonroutable))

variable {self : TcpForwarder} (disallowed : self.allowPrivateNetworkConnections = false)

include disallowed

/-- The loop finds the first usable global address, or judges the usable addresses. -/
lemma select_eq (status : Option SelectionStatus) (resolved : List SocketAddr) :
    self.select status resolved =
      (((self.usable resolved).find? (isGlobalIp ·.ip)).map .suitable).or
        (rejected status (self.usable resolved)) := by
  fun_induction select self status resolved with
  | case1 status => cases status <;> rfl
  | case2 _ _ _ skipped ih => rw [ih, usable, usable, filter_cons_of_neg (by simp [skipped])]
  | case3 _ a _ kept suitable =>
    have isGlobal : isGlobalIp a.ip = true := by simpa [disallowed] using suitable
    rw [usable, filter_cons_of_pos (by simp [kept]), find?_cons_of_pos (by exact isGlobal)]
    rfl
  | case4 _ _ rest kept _ first ih =>
    simp only [Bool.and_eq_true, Option.isNone_iff_eq_none] at first
    rw [ih, first.1, usable, usable, filter_cons_of_pos (by simp [kept]),
      find?_cons_of_neg (by simp_all)]
    cases List.filter _ rest <;> simp [rejected, first.2]
  | case5 status _ rest kept _ _ ih =>
    rw [ih, usable, usable, filter_cons_of_pos (by simp [kept])]
    cases status <;> cases List.filter _ rest <;> simp_all [rejected]

/-- A name that resolves to two or more usable addresses, all of them loopback addresses, is
reported as not routable. In every other case the choice is the specified one. -/
theorem peer_selectsFirstGlobal_iff
    {lookupHost : String → UInt16 → Except ConnectionError (List SocketAddr)} {host : String}
    {port : UInt16} {resolved : List SocketAddr} (found : lookupHost host port = .ok resolved) :
    self.SelectsFirstGlobal resolved (self.peer lookupHost (.hostName host port)) ↔
      ¬(2 ≤ (self.usable resolved).length ∧
        (self.usable resolved).all (·.ip.isLoopback) = true) := by
  rw [peer, found]
  simp only [ok_bind]
  rw [select_eq disallowed, SelectsFirstGlobal]
  generalize self.usable resolved = usable
  cases first : usable.find? _ with
  | some a =>
    have notAll : ¬usable.all (·.ip.isLoopback) = true := by
      intro all
      have isGlobal := isGlobalIp_of_isLoopback (all_eq_true.mp all a (mem_of_find?_eq_some first))
      exact absurd (find?_some first) (by simp [isGlobal])
    simp [notAll, eq_comm]
  | none =>
    match usable with
    | [] => simp [rejected]
    | [a] => cases loopback : a.ip.isLoopback <;> simp [rejected, loopback]
    | a :: b :: rest => cases loopback : (a :: b :: rest).all _ <;> simp [rejected]

/-- What `localhost` resolves to on a machine with both families. -/
def localhost : List SocketAddr :=
  [⟨.v6 ⟨List.replicate 15 0 ++ [1], rfl⟩, 80⟩, ⟨.v4 (.new 127 0 0 1), 80⟩]

omit disallowed in
theorem peer_not_selectsFirstGlobal_localhost :
    ¬(TcpForwarder.mk false true).SelectsFirstGlobal localhost
      ((TcpForwarder.mk false true).peer (fun _ _ => .ok localhost) (.hostName "localhost" 80)) := by
  intro right
  have reported : (.error .dnsNonroutable : Except ConnectionError SocketAddr) =
      .error .dnsLoopback := right.2 (by decide) (by decide)
  exact absurd (Except.error.inj reported) (by simp)

omit disallowed in
/-- Without IPv6 the only usable address is a loopback address, and it is reported as one. -/
theorem peer_selectsFirstGlobal_localhost :
    (TcpForwarder.mk false false).SelectsFirstGlobal localhost
      ((TcpForwarder.mk false false).peer (fun _ _ => .ok localhost) (.hostName "localhost" 80)) :=
  (peer_selectsFirstGlobal_iff rfl rfl).mpr (by decide)

end TcpForwarder

end Endpoint

end TrustTunnel
