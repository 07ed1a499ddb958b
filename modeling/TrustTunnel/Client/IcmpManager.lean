import Mathlib.Data.List.AList
import Mathlib.Data.List.Sort
import TrustTunnel.Net.Address
import TrustTunnel.Transition.Trace

/-!
# Echo requests on the client

`IcmpManager` groups the echo requests on the wire by their identifier. A request ends with a
reply or a timeout, and both are given to the client.
-/

namespace TrustTunnel.Client.IcmpManager

open List Transition

/-- One that is not set is neither IPv4 nor IPv6. -/
abbrev SocketAddress := Option SocketAddr

structure IcmpEchoRequest where
  peer : SocketAddress
  id : UInt16
  seqno : UInt16

structure IcmpEchoReply where
  peer : SocketAddress
  id : UInt16
  seqno : UInt16
  type : UInt8
  code : UInt8

structure RequestAttempt where
  seqno : UInt16
  timeoutTs : Int
  deriving DecidableEq

/-- No entry is left without tries. -/
structure RequestInfo where
  originalPeer : SocketAddress
  tries : List RequestAttempt
  tried : tries ≠ []

/-- `m_requests`. -/
abbrev Requests := AList fun _ : UInt16 => RequestInfo

/-- The requests afterwards if the answer is `IM_MSGS_PASS`; if not, they are as before. -/
def registerRequest (requestTimeout now : Int) (req : IcmpEchoRequest) (requests : Requests) :
    Option Requests :=
  let attempt : RequestAttempt := ⟨req.seqno, now + requestTimeout⟩
  match requests.lookup req.id with
  | none => some (requests.insert req.id ⟨req.peer, [attempt], by simp⟩)
  | some info =>
    if info.tries.any (·.seqno == req.seqno) then none
    else some (requests.insert req.id ⟨info.originalPeer, info.tries ++ [attempt], by simp⟩)

/-- Set the tries of an entry; one without tries is erased. -/
def setTries (requests : Requests) (id : UInt16) (peer : SocketAddress)
    (tries : List RequestAttempt) : Requests :=
  if empty : tries = [] then requests.erase id else requests.insert id ⟨peer, tries, empty⟩

/-- The type is `ICMP_MT_ECHO_REPLY` or `ICMPV6_MT_ECHO_REPLY`. -/
def isEchoReply (reply : IcmpEchoReply) : Bool :=
  !(reply.peer.any (!·.ip.isIpv6) && reply.type != 0) &&
    !(reply.peer.any (·.ip.isIpv6) && reply.type != 129)

/-- `try_it`: a message that is no echo reply ends the first try. -/
def findTry (reply : IcmpEchoReply) (tries : List RequestAttempt) : Option RequestAttempt :=
  if isEchoReply reply then tries.find? (·.seqno == reply.seqno) else tries.head?

/-- The reply as it is passed on and the requests then, if the answer is `IM_MSGS_PASS`. -/
def registerReply (reply : IcmpEchoReply) (requests : Requests) :
    Option (IcmpEchoReply × Requests) := do
  let info ← requests.lookup reply.id
  let attempt ← findTry reply info.tries
  some ({ reply with seqno := attempt.seqno },
    setTries requests reply.id info.originalPeer (info.tries.erase attempt))

/-- The type is `ICMP_MT_DROP`. -/
def makeReplyOnTimeout (id : UInt16) (peer : SocketAddress) (seqno : UInt16) : IcmpEchoReply :=
  ⟨peer, id, seqno, 84, 0⟩

/-- A round of the loop over the entries, with the replies raised so far. -/
def expire (now : Int) (state : Requests × List IcmpEchoReply) (id : UInt16) :
    Requests × List IcmpEchoReply :=
  match state.1.lookup id with
  | none => state
  | some info =>
    (setTries state.1 id info.originalPeer (info.tries.filter (now < ·.timeoutTs)),
      state.2 ++ (info.tries.filter fun attempt => !decide (now < attempt.timeoutTs)).map
        fun attempt => makeReplyOnTimeout id info.originalPeer attempt.seqno)

/-- The entries stand in the order of their identifiers. -/
def timerCallback (now : Int) (requests : Requests) : Requests × List IcmpEchoReply :=
  (requests.keys.insertionSort (· ≤ ·)).foldl (expire now) (requests, [])

inductive Event where
  | request (now : Int) (req : IcmpEchoRequest)
  | reply (reply : IcmpEchoReply)
  | timer (now : Int)

/-- With the requests, replies and timeouts that were passed on. -/
structure Exchange where
  requests : Requests := ∅
  passed : List IcmpEchoRequest := []
  replies : List IcmpEchoReply := []
  timeouts : List IcmpEchoReply := []

def Exchange.next (requestTimeout : Int) (self : Exchange) : Event → Exchange
  | .request now req =>
    match registerRequest requestTimeout now req self.requests with
    | some requests => { self with requests, passed := self.passed ++ [req] }
    | none => self
  | .reply reply =>
    match registerReply reply self.requests with
    | some (reply, requests) => { self with requests, replies := self.replies ++ [reply] }
    | none => self
  | .timer now =>
    let (requests, raised) := timerCallback now self.requests
    { self with requests, timeouts := self.timeouts ++ raised }

/-! ## What is outstanding -/

/-- An identifier, a sequence number and what is said of a peer. -/
abbrev Key (π : Type) := UInt16 × UInt16 × π

variable {π : Type} (view : SocketAddress → π)

def requestKey (req : IcmpEchoRequest) : Key π := (req.id, req.seqno, view req.peer)

def replyKey (reply : IcmpEchoReply) : Key π := (reply.id, reply.seqno, view reply.peer)

/-- Tries of an entry, as a timeout would name them. -/
def keysOf (id : UInt16) (peer : SocketAddress) (tries : List RequestAttempt) : List (Key π) :=
  tries.map fun attempt => (id, attempt.seqno, view peer)

def tracked (requests : Requests) : List (Key π) :=
  requests.entries.flatMap fun entry => keysOf view entry.1 entry.2.originalPeer entry.2.tries

/-- A message that finds an entry comes from the peer of that entry. -/
def Agrees (requests : Requests) (id : UInt16) (peer : SocketAddress) : Prop :=
  ∀ info ∈ requests.lookup id, view info.originalPeer = view peer

variable {view} {requests after : Requests} {ident : UInt16} {info : RequestInfo}
  {req : IcmpEchoRequest}

lemma tracked_erase (found : requests.lookup ident = some info) :
    tracked view requests ~ keysOf view ident info.originalPeer info.tries ++
      tracked view (requests.erase ident) := by
  have listed := AList.mem_lookup_iff.mp found
  obtain ⟨own, front, back, -, split, erased⟩ := exists_of_kerase (mem_keys_of_mem listed)
  have same : own = info := by
    have mem : ⟨ident, own⟩ ∈ requests.entries := by simp [split]
    exact Option.some.inj ((AList.mem_lookup_iff.mpr mem).symm.trans found)
  subst same
  have rest : (requests.erase ident).entries = front ++ back := erased
  rw [tracked, tracked, split, rest, flatMap_append, flatMap_append, flatMap_cons]
  exact perm_append_comm_assoc _ _ _

lemma tracked_insert :
    tracked view (requests.insert ident info) =
      keysOf view ident info.originalPeer info.tries ++ tracked view (requests.erase ident) :=
  flatMap_cons

lemma tracked_setTries (found : requests.lookup ident = some info)
    {gone left : List RequestAttempt} (parts : gone ++ left ~ info.tries) :
    keysOf view ident info.originalPeer gone ++
      tracked view (setTries requests ident info.originalPeer left) ~ tracked view requests := by
  have kept : tracked view (setTries requests ident info.originalPeer left) =
      keysOf view ident info.originalPeer left ++ tracked view (requests.erase ident) := by
    rw [setTries]
    split
    case isTrue empty =>
      rw [empty]
      rfl
    case isFalse => exact tracked_insert
  have whole := parts.map fun attempt => (ident, attempt.seqno, view info.originalPeer)
  rw [map_append] at whole
  rw [kept, ← append_assoc]
  exact (whole.append_right _).trans (tracked_erase found).symm

lemma tracked_registerRequest {requestTimeout now : Int}
    (done : registerRequest requestTimeout now req requests = some after)
    (agrees : Agrees view requests req.id req.peer) :
    tracked view after ~ requestKey view req :: tracked view requests := by
  rw [registerRequest] at done
  split at done
  case h_1 found =>
    cases done
    have absent : requests.erase req.id = requests :=
      AList.ext (kerase_of_notMem_keys (AList.lookup_eq_none.mp found))
    rw [tracked_insert, absent]
    rfl
  case h_2 info found =>
    cases (Option.ite_none_left_eq_some.mp done).2
    rw [tracked_insert, keysOf, map_append, append_assoc, requestKey, ← agrees info found]
    exact perm_middle.trans ((tracked_erase found).symm.cons _)

lemma tracked_registerReply {reply passedOn : IcmpEchoReply}
    (done : registerReply reply requests = some (passedOn, after))
    (agrees : Agrees view requests reply.id reply.peer) :
    replyKey view passedOn :: tracked view after ~ tracked view requests := by
  obtain ⟨info, found, rest⟩ := Option.bind_eq_some_iff.mp done
  obtain ⟨attempt, chosen, same⟩ := Option.bind_eq_some_iff.mp rest
  cases same
  have mem : attempt ∈ info.tries := by
    rw [findTry] at chosen
    split at chosen
    · exact mem_of_find?_eq_some chosen
    · exact mem_of_head? chosen
  rw [replyKey, ← agrees info found]
  exact @tracked_setTries _ _ _ _ _ found [attempt] _ (perm_cons_erase mem).symm

lemma tracked_timerCallback (now : Int) (requests : Requests) :
    (timerCallback now requests).2.map (replyKey view) ++
      tracked view (timerCallback now requests).1 ~ tracked view requests := by
  refine foldlRecOn (motive := fun state : Requests × List IcmpEchoReply =>
    state.2.map (replyKey view) ++ tracked view state.1 ~ tracked view requests) _ _ (.refl _)
    fun state same ident _ => ?_
  rw [expire]
  split
  · exact same
  · rename_i info found
    rw [map_append, append_assoc, map_map]
    refine .trans (.append_left _ ?_) same
    exact tracked_setTries found (perm_append_comm.trans (filter_append_perm _ _))

/-! ## Nothing is lost -/

def Event.Agrees (view : SocketAddress → π) (requests : Requests) : Event → Prop
  | request _ msg => IcmpManager.Agrees view requests msg.id msg.peer
  | reply msg => IcmpManager.Agrees view requests msg.id msg.peer
  | timer _ => True

namespace Exchange

variable {self : Exchange} {event : Event} (requestTimeout : Int)

/-- Each request that was passed on was answered, has timed out or is tracked. -/
def Balanced (view : SocketAddress → π) (self : Exchange) : Prop :=
  self.passed.map (requestKey view) ~
    (self.replies ++ self.timeouts).map (replyKey view) ++ tracked view self.requests

lemma Balanced.next (balanced : self.Balanced view) (agrees : event.Agrees view self.requests) :
    (self.next requestTimeout event).Balanced view := by
  cases event with
  | request now req =>
    rw [Exchange.next]
    split
    · rename_i done
      rw [Balanced, map_append]
      refine (balanced.append_right _).trans ?_
      rw [append_assoc]
      exact .append_left _ ((perm_append_singleton _ _).trans
        (tracked_registerRequest done agrees).symm)
    · exact balanced
  | reply reply =>
    rw [Exchange.next]
    split
    · rename_i done
      have ended := (tracked_registerReply done agrees).symm
      rw [Balanced, append_assoc, map_append, append_assoc]
      rw [Balanced, map_append, append_assoc] at balanced
      exact balanced.trans (.append_left _ ((ended.append_left _).trans perm_middle))
    · exact balanced
  | timer now =>
    rw [Exchange.next, Balanced, ← append_assoc, map_append, append_assoc]
    exact balanced.trans (.append_left _ (tracked_timerCallback now self.requests).symm)

/-- The requests that were passed on are as many as the replies, the timeouts and the tries that
are left, and no entry is without tries. -/
structure Conserved (exchange : Exchange) : Prop where
  balance : exchange.passed.length = exchange.replies.length + exchange.timeouts.length +
    (exchange.requests.entries.map fun entry => entry.2.tries.length).sum
  tried : ∀ entry ∈ exchange.requests.entries, entry.2.tries ≠ []

/-- Requests, replies, timeouts and tries are in balance in every run. -/
theorem conserved_always (events : List Event) :
    Always (next requestTimeout) Conserved {} events := by
  refine .of_invariant (Balanced fun _ => ()) (fun {_ event} balanced _ => ?_)
    (fun balanced => ?_) .nil (eachStep_true _ events)
  · exact balanced.next _ (by cases event <;> simp [Event.Agrees, IcmpManager.Agrees])
  · have lengths := balanced.length_eq
    simp only [length_map, length_append, tracked, keysOf, length_flatMap] at lengths
    exact ⟨lengths, fun entry _ => entry.2.tried⟩

/-! ## Whose reply it is -/

/-- How many requests with this key were passed on, and how many answers. -/
def counts (self : Exchange) (key : Key SocketAddress) : Nat × Nat :=
  ((self.passed.map (requestKey id)).count key,
    ((self.replies ++ self.timeouts).map (replyKey id)).count key)

/-- No request is answered twice, a request is outstanding once it was made, and a reply keeps
the sequence number that it quotes. -/
def Attributes (self : Exchange) (event : Event) : Prop :=
  let after := self.next requestTimeout event
  (∀ key, (after.counts key).2 ≤ (after.counts key).1) ∧
    match event with
    | .request _ req => (after.counts (requestKey id req)).2 < (after.counts (requestKey id req)).1
    | .reply reply => ∀ passedOn requests,
      registerReply reply self.requests = some (passedOn, requests) → passedOn.seqno = reply.seqno
    | .timer _ => True

/-- The messages of an identifier have one peer, and an error quotes the oldest try. -/
def Unshared (self : Exchange) (event : Event) : Prop :=
  event.Agrees id self.requests ∧
    match event with
    | .reply reply => isEchoReply reply = false → ∀ info ∈ self.requests.lookup reply.id,
      ∀ attempt ∈ info.tries.head?, attempt.seqno = reply.seqno
    | _ => True

lemma mem_tracked_request (agrees : Agrees view self.requests req.id req.peer) (now : Int) :
    requestKey view req ∈ tracked view (self.next requestTimeout (.request now req)).requests := by
  rw [next]
  split
  · rename_i done
    exact (tracked_registerRequest done agrees).mem_iff.mpr mem_cons_self
  · rename_i dropped
    rw [registerRequest] at dropped
    split at dropped
    case h_1 => cases dropped
    case h_2 info found =>
      rw [ite_eq_left_iff] at dropped
      obtain ⟨attempt, mem, same⟩ := any_eq_true.mp (by_contra fun other => nomatch dropped other)
      refine (tracked_erase found).mem_iff.mpr (mem_append_left _ (mem_map.mpr ⟨_, mem, ?_⟩))
      rw [agrees info found, beq_iff_eq.mp same]
      rfl

/-- When the messages of an identifier have one peer, replies and timeouts name their requests. -/
theorem attributes_run {events : List Event}
    (unshared : EachStep (next requestTimeout) Unshared {} events) :
    EachStep (next requestTimeout) (Attributes requestTimeout) {} events := by
  refine .of_invariant (fun balanced unshared => Balanced.next _ balanced unshared.1)
    (fun {self event} balanced unshared => ?_) (show Balanced id {} from .nil) unshared
  have balance (key) := ((balanced.next requestTimeout unshared.1).count_eq key).trans count_append
  refine ⟨fun key => Nat.le.intro (balance key).symm, ?_⟩
  cases event with
  | request now req =>
    have tracks := mem_tracked_request requestTimeout unshared.1 now
    have positive := count_pos_iff.mpr tracks
    have balance := balance (requestKey id req)
    dsimp only [counts]
    omega
  | reply reply =>
    intro passedOn after done
    obtain ⟨info, found, rest⟩ := Option.bind_eq_some_iff.mp done
    obtain ⟨attempt, chosen, same⟩ := Option.bind_eq_some_iff.mp rest
    cases same
    rw [findTry] at chosen
    split at chosen
    case isTrue =>
      have same := find?_some chosen
      exact beq_iff_eq.mp same
    case isFalse error => exact unshared.2 (eq_false_of_ne_true error) info found attempt chosen
  | timer => trivial

/-- A request and its reply. -/
theorem attributes_onePeer :
    EachStep (next 3000) (Attributes 3000) {} [.request 0 ⟨some ⟨.v4 (.new 1 1 1 1), 0⟩, 1, 1⟩,
      .reply ⟨some ⟨.v4 (.new 1 1 1 1), 0⟩, 1, 1, 0, 0⟩] :=
  attributes_run 3000 ⟨⟨by simp [Event.Agrees, IcmpManager.Agrees], trivial⟩,
    ⟨by rintro info ⟨⟩; rfl, nofun⟩, trivial⟩

/-- The second of two requests to different peers is not tracked. -/
theorem not_attributes_twoPeers :
    ¬EachStep (next 3000) (Attributes 3000) {} [.request 0 ⟨some ⟨.v4 (.new 1 1 1 1), 0⟩, 1, 1⟩,
      .request 0 ⟨some ⟨.v4 (.new 8 8 8 8), 0⟩, 1, 1⟩] := by
  rintro ⟨-, second, -⟩
  exact absurd second.2 (by decide)

end Exchange

end TrustTunnel.Client.IcmpManager
