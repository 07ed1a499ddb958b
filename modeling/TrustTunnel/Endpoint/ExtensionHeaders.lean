import TrustTunnel.Endpoint.Icmpv6Errors

/-!
# Extension headers of a quoted packet

RFC 8200 measures an extension header in units of eight bytes, of which the first is not
counted; a fragment header is always one unit. The loop of `skip_ipv6_header` takes the length
for a number of bytes.
-/

namespace TrustTunnel.Endpoint.NetUtils

open List IcmpUtils

inductive ExtensionKind where
  | hopByHop
  | routing
  | destinationOptions
  | fragment
  deriving DecidableEq

def ExtensionKind.protocol : ExtensionKind → UInt8
  | hopByHop => ipprotoHopopts
  | routing => ipprotoRouting
  | destinationOptions => ipprotoDstopts
  | fragment => ipprotoFragment

/-- What the layout of an extension header depends on. -/
structure ExtensionShape where
  kind : ExtensionKind
  /-- The second byte: the length in units of eight bytes without the first, or reserved. -/
  length : UInt8

/-- How many bytes there are behind the first two. -/
def ExtensionShape.size : ExtensionShape → Nat
  | ⟨.fragment, _⟩ => 6
  | ⟨_, length⟩ => 6 + 8 * length.toNat

structure ExtensionHeader where
  shape : ExtensionShape
  body : Bytes
  measured : body.length = shape.size

/-- The protocol of the first header, or of the ICMPv6 message if there is none. -/
def firstProtocol : List ExtensionHeader → UInt8
  | [] => ipprotoIcmpv6
  | header :: _ => header.shape.kind.protocol

/-- The chain of headers in front of a payload. -/
def renderChain : List ExtensionHeader → Bytes → Bytes
  | [], payload => payload
  | header :: chain, payload =>
    firstProtocol chain :: header.shape.length :: (header.body ++ renderChain chain payload)

/-- An echo request whose checksum is given. -/
def renderRequest (code : UInt8) (checksum identifier sequenceNumber data : Bytes) : Bytes :=
  V6.TypeId.echoRequest :: code :: (checksum ++ (identifier ++ (sequenceNumber ++ data)))

/-- Behind every chain of headers of the given shapes, the echo request is found, and its
identifier, sequence number and data are recovered. -/
def FindsRequest (shapes : List ExtensionShape) : Prop :=
  ∀ (chain : List ExtensionHeader) (front middle : Bytes) (code : UInt8)
    (checksum identifier sequenceNumber data : Bytes), chain.map (·.shape) = shapes →
    front.length = 6 → middle.length = 33 → checksum.length = 2 → identifier.length = 2 →
    sequenceNumber.length = 2 →
    let req := renderRequest code checksum identifier sequenceNumber data
    let packet := front ++ firstProtocol chain :: (middle ++ renderChain chain req)
    skipIpv6Header packet = .ok (some (ipprotoIcmpv6, req)) ∧
      ∀ msg : V6.Message, msg.icmpData = some packet →
        msg.respondedEchoRequest = .ok (some ⟨code, .ofNat (Wire.beNat identifier),
          .ofNat (Wire.beNat sequenceNumber), data⟩)

variable {chain : List ExtensionHeader} {payload : Bytes}

lemma skipExtensionHeaders_renderChain_cons {header : ExtensionHeader}
    (fragment : header.shape.kind = .fragment) :
    skipExtensionHeaders (firstProtocol (header :: chain)) (renderChain (header :: chain) payload) =
      skipExtensionHeaders (firstProtocol chain) (renderChain chain payload) := by
  obtain ⟨⟨kind, length⟩, body, measured⟩ := header
  cases fragment
  have size : (length :: body).length = ipv6FragmentExtLength - 1 := by rw [length_cons, measured]; rfl
  exact skipExtensionHeaders_fragment size

lemma skipExtensionHeaders_of_fragments
    (fragments : ∀ header ∈ chain, header.shape.kind = .fragment) :
    skipExtensionHeaders (firstProtocol chain) (renderChain chain payload) =
      .ok (some (ipprotoIcmpv6, payload)) := by
  induction chain with
  | nil => exact skipExtensionHeaders_payload (by decide) (by decide)
  | cons _ _ ih =>
    rw [forall_mem_cons] at fragments
    rw [skipExtensionHeaders_renderChain_cons fragments.1, ih fragments.2]

lemma quotedEcho_renderRequest (code : UInt8) {checksum identifier sequenceNumber : Bytes}
    (data : Bytes) (checksumLength : checksum.length = 2) (identifierLength : identifier.length = 2)
    (sequenceLength : sequenceNumber.length = 2) :
    quotedEcho ipprotoIcmpv6 V6.TypeId.echoRequest (.lowerBound icmpMinCommonHeaderSize)
        (some (ipprotoIcmpv6, renderRequest code checksum identifier sequenceNumber data)) =
      .ok (some ⟨code, .ofNat (Wire.beNat identifier), .ofNat (Wire.beNat sequenceNumber), data⟩) := by
  obtain ⟨first, second, rfl⟩ := length_eq_two.mp checksumLength
  have enough : icmpMinCommonHeaderSize ≤ 4 + (identifier ++ (sequenceNumber ++ data)).length := by
    rw [length_append, length_append, identifierLength, sequenceLength,
      show icmpMinCommonHeaderSize = 8 from rfl]
    omega
  simp only [renderRequest, quotedEcho, cons_append, nil_append, deserializePacket_cons enough,
    parseEcho_append code data identifierLength sequenceLength]
  rfl

/-! ## What is found behind the other headers -/

/-- The protocol number of "no next header". -/
def noNextHeader : UInt8 := 59

/-- A header whose bytes say that nothing follows, wherever they are read. -/
def ExtensionHeader.filled (shape : ExtensionShape) : ExtensionHeader :=
  ⟨shape, replicate shape.size noNextHeader, length_replicate⟩

/-- Inside of a filled header, no ICMPv6 message is found. -/
lemma skipExtensionHeaders_ne (kind : ExtensionKind) (packet : Bytes) :
    skipExtensionHeaders kind.protocol (noNextHeader :: packet) ≠
      .ok (some (ipprotoIcmpv6, payload)) := by
  generalize whole : noNextHeader :: packet = bytes
  fun_cases skipExtensionHeaders _ bytes
  case case1 | case4 =>
    cases whole
    rw [skipExtensionHeaders_payload (by decide) (by decide)]
    simp [noNextHeader, ipprotoIcmpv6]
  case case7 unsized unfragmented =>
    cases kind <;> simp [ExtensionKind.protocol] at unsized unfragmented
  all_goals simp

lemma hasLength_of_ne_fragment {shape : ExtensionShape} (other : shape.kind ≠ .fragment) :
    HasLength shape.kind.protocol ∧
      shape.size = shape.length.toNat + (6 + 7 * shape.length.toNat) := by
  obtain ⟨kind, length⟩ := shape
  have size : 6 + 8 * length.toNat = length.toNat + (6 + 7 * length.toNat) := by omega
  cases kind with
  | hopByHop => exact ⟨.inl rfl, size⟩
  | routing => exact ⟨.inr (.inl rfl), size⟩
  | destinationOptions => exact ⟨.inr (.inr rfl), size⟩
  | fragment => exact absurd rfl other

/-- The loop finds the payload behind filled headers only if they are fragment headers. -/
lemma fragments_of_skipExtensionHeaders {shapes : List ExtensionShape}
    (found : skipExtensionHeaders (firstProtocol (shapes.map .filled))
      (renderChain (shapes.map .filled) payload) = .ok (some (ipprotoIcmpv6, payload))) :
    ∀ shape ∈ shapes, shape.kind = .fragment := by
  induction shapes with
  | nil => exact forall_mem_nil _
  | cons shape shapes ih =>
    rw [forall_mem_cons]
    by_cases fragment : shape.kind = .fragment
    · rw [map_cons, skipExtensionHeaders_renderChain_cons fragment] at found
      exact ⟨fragment, ih found⟩
    · obtain ⟨sized, size⟩ := hasLength_of_ne_fragment fragment
      have split : replicate shape.size noNextHeader = replicate shape.length.toNat noNextHeader ++
          noNextHeader :: replicate (5 + 7 * shape.length.toNat) noNextHeader := by
        rw [size, replicate_add, ← replicate_succ]
        congr 2
        omega
      simp only [map_cons, firstProtocol, renderChain, ExtensionHeader.filled, split, append_assoc,
        skipExtensionHeaders_sized sized length_replicate] at found
      cases shapes with
      | nil =>
        rw [skipExtensionHeaders_payload (by decide) (by decide)] at found
        have longer := congrArg length (Prod.ext_iff.mp (Option.some.inj (Except.ok.inj found))).2
        simp [renderChain] at longer
        omega
      | cons next => exact absurd found (skipExtensionHeaders_ne _ _)

theorem findsRequest_iff (shapes : List ExtensionShape) :
    FindsRequest shapes ↔ ∀ shape ∈ shapes, shape.kind = .fragment := by
  constructor
  · intro finds
    have same : (shapes.map ExtensionHeader.filled).map (·.shape) = shapes := by
      rw [map_map]
      exact map_id shapes
    have found := (finds _ (replicate 6 0) (replicate 33 0) 0 [0, 0] [0, 0] [0, 0] [] same rfl rfl
      rfl rfl rfl).1
    exact fragments_of_skipExtensionHeaders found
  · intro fragments chain front middle code checksum identifier sequenceNumber data same frontLength
      middleLength checksumLength identifierLength sequenceLength req packet
    have fragments : ∀ header ∈ chain, header.shape.kind = .fragment := by
      rw [← same, forall_mem_map] at fragments
      exact fragments
    have skipped : skipIpv6Header packet = .ok (some (ipprotoIcmpv6, req)) := by
      rw [skipIpv6Header_append _ _ frontLength middleLength,
        skipExtensionHeaders_of_fragments fragments]
    refine ⟨skipped, fun msg quoted => ?_⟩
    rw [V6.Message.respondedEchoRequest_of_icmpData quoted, skipped]
    exact quotedEcho_renderRequest code data checksumLength identifierLength sequenceLength

/-- Behind a hop-by-hop header of eight bytes with an option of padding, the loop returns its
last six bytes in front of the echo request. -/
theorem not_findsRequest_hopByHop : ¬FindsRequest [⟨.hopByHop, 0⟩] := by
  intro finds
  have found := (finds [⟨⟨.hopByHop, 0⟩, [1, 4, 0, 0, 0, 0], rfl⟩] (replicate 6 0) (replicate 33 0) 0
    [0, 0] [0, 0] [0, 0] [] rfl rfl rfl rfl rfl rfl).1
  have nothing : (0 : UInt8).toNat = length ([] : Bytes) := rfl
  have returned : skipExtensionHeaders ipprotoHopopts (renderChain [⟨⟨.hopByHop, 0⟩,
      [1, 4, 0, 0, 0, 0], rfl⟩] (renderRequest 0 [0, 0] [0, 0] [0, 0] [])) =
      .ok (some (ipprotoIcmpv6, [1, 4, 0, 0, 0, 0, 128, 0, 0, 0, 0, 0, 0, 0])) :=
    (skipExtensionHeaders_sized (.inl rfl) nothing.symm).trans
      (skipExtensionHeaders_payload (by decide) (by decide))
  cases returned.symm.trans found

end TrustTunnel.Endpoint.NetUtils
