import TrustTunnel.Endpoint.ForwardedHead
import TrustTunnel.Endpoint.ReverseProxy

/-!
# Receiving the head of a response in the reverse proxy

Whatever way the head of a response is split into reads, the reverse proxy either gathers
it and goes over to the body, or it refuses the response before the client gets anything.
-/

namespace TrustTunnel.Endpoint.ReverseProxy

open Chunked Http List
open Http1Codec (maxHeadersNum maxRawHeadersSize decodeResponse)

variable {crates : Crates} {head body : Bytes} {resp : Response} {reads : List Bytes}

/-- The proxy takes the head of a response: it has slots for the headers, a response can be
built of them, and no read ends inside of the head when the buffer is full. -/
structure Accepts (crates : Crates) (head body : Bytes) (resp : Response)
    (reads : List Bytes) : Prop where
  few : resp.headers.length ≤ Http1Codec.maxHeadersNum
  builds : crates.buildResponse resp.code resp.headers = .ok ()
  short : ∀ place ∈ boundaries reads, body.length < place →
    head.length + body.length < place + Http1Codec.maxRawHeadersSize

variable (parses : crates.ParsesHead head resp)

include parses

variable {front back : Bytes}

/-- Before the end of the head, the proxy reads on or refuses it. -/
lemma probeHead_unfinished (splits : front ++ back = head) (behind : back ≠ []) :
    probeHead crates front = none ∧ front.length < maxRawHeadersSize ∨
      ∃ error, probeHead crates front = some (.error error) := by
  rw [probeHead, decodeResponse]
  rcases parses.unfinished _ splits behind with parsed | ⟨-, parsed⟩
  · rw [parsed]
    by_cases shorter : front.length < maxRawHeadersSize
    · rw [if_pos shorter]
      exact .inl ⟨rfl, shorter⟩
    · rw [if_neg shorter]
      exact .inr ⟨_, rfl⟩
  · rw [parsed]
    exact .inr ⟨_, rfl⟩

/-- There is nothing to refuse before the end of a head with few headers. -/
lemma probeHead_short (few : resp.headers.length ≤ maxHeadersNum)
    (splits : front ++ back = head) (behind : back ≠ [])
    (short : front.length < maxRawHeadersSize) : probeHead crates front = none := by
  have parsed : crates.parseResponse maxHeadersNum front = .ok none := by
    rcases parses.unfinished maxHeadersNum splits behind with parsed | ⟨many, -⟩
    · exact parsed
    · exact absurd many (Nat.not_lt_of_ge few)
  rw [probeHead, decodeResponse, parsed]
  rw [if_pos short]

lemma probeHead_complete (few : resp.headers.length ≤ maxHeadersNum)
    (builds : crates.buildResponse resp.code resp.headers = .ok ()) (tail : Bytes) :
    probeHead crates (head ++ tail) = some (.ok (resp, tail)) := by
  rw [probeHead, decodeResponse, parses.complete tail few]
  dsimp only
  rw [builds]
  rw [drop_left]

lemma probeHead_refused
    (refused : ¬(resp.headers.length ≤ maxHeadersNum ∧
      crates.buildResponse resp.code resp.headers = .ok ()))
    (tail : Bytes) : ∃ error, probeHead crates (head ++ tail) = some (.error error) := by
  rw [probeHead, decodeResponse]
  rcases Nat.lt_or_ge _ _ with many | few
  · rw [parses.overflows tail many]
    exact ⟨_, rfl⟩
  · rw [parses.complete tail few]
    dsimp only
    cases builds : crates.buildResponse _ _ with
    | error => exact ⟨_, rfl⟩
    | ok => exact absurd ⟨few, builds⟩ refused

/-- The head of a response is read, however it arrives. -/
lemma handleStream_eq (accepts : Accepts crates head body resp reads)
    (arrives : reads.flatten = head ++ body) (protocol : Protocol) (version : Version)
    (ending : Ending) (client : Client) :
    ∃ tail left, tail ++ left.flatten = body ∧ AgreeUpTo body.length reads (tail :: left) ∧
      handleStream crates protocol version ⟨reads, ending⟩ client =
        handleResponse protocol version ending resp tail left client := by
  cases reads with
  | nil => exact absurd (append_eq_nil_iff.mp arrives.symm).1 parses.nonempty
  | cons buffer reads =>
    have unfinished {front back : Bytes} (splits : front ++ back = head) (behind : back ≠ [])
        (boundary : back.length + body.length ∈ boundaries (buffer :: reads)) :
        probeHead crates front = none := by
      have positive := length_pos_iff.mpr behind
      have short := accepts.short _ boundary (by omega)
      rw [← splits, length_append] at short
      exact probeHead_short parses accepts.few splits behind (by omega)
    obtain ⟨tail, left, fills, flatten, agree⟩ :=
      refill_eq_of_boundaries unfinished
        (fun _ => probeHead_complete parses accepts.few accepts.builds _) arrives
    refine ⟨tail, left, flatten, agree, ?_⟩
    rw [handleStream]
    dsimp only
    rw [fills]

lemma handleStream_single (few : resp.headers.length ≤ maxHeadersNum)
    (builds : crates.buildResponse resp.code resp.headers = .ok ()) (body : Bytes)
    (protocol : Protocol) (version : Version) (ending : Ending) (client : Client) :
    handleStream crates protocol version ⟨[head ++ body], ending⟩ client =
      handleResponse protocol version ending resp body [] client := by
  rw [handleStream]
  dsimp only
  rw [refill_of_eq_some (probeHead_complete parses few builds body)]

variable {decoded : Response × Bytes}

lemma prefix_of_probeHead {buffer rest : Bytes}
    (probes : probeHead crates buffer = some (.ok decoded))
    (arrives : buffer ++ rest = head ++ body) : head <+: buffer := by
  rcases append_eq_append_iff.mp arrives with ⟨back, joined, -⟩ | ⟨tail, joined, -⟩
  · cases back with
    | nil => exact ⟨[], by rw [joined, append_nil, append_nil]⟩
    | cons =>
      rcases probeHead_unfinished parses joined.symm (cons_ne_nil _ _) with
        ⟨nothing, -⟩ | ⟨error, fails⟩
      · rw [nothing] at probes
        cases probes
      · rw [fails] at probes
        cases probes
  · exact ⟨tail, joined.symm⟩

lemma accepts_of_refill {buffer after : Bytes} {left : List Bytes}
    (fills : refill (probeHead crates) buffer reads = .ready (.ok decoded) after left)
    (arrives : buffer ++ reads.flatten = head ++ body) :
    Accepts crates head body resp (buffer :: reads) := by
  obtain ⟨probes, same⟩ := refill_ready fills
  obtain ⟨tail, rfl⟩ := prefix_of_probeHead parses probes (same.trans arrives)
  have taken : resp.headers.length ≤ maxHeadersNum ∧
      crates.buildResponse resp.code resp.headers = .ok () := by
    apply Classical.byContradiction
    intro refused
    obtain ⟨error, fails⟩ := probeHead_refused parses refused tail
    rw [fails] at probes
    cases probes
  refine ⟨taken.1, taken.2, ?_⟩
  intro place boundary inside
  have le : place ≤ head.length + body.length := by
    have behind := le_of_mem_boundaries_cons boundary
    have lengths := congrArg List.length arrives
    simp only [length_append] at lengths
    omega
  obtain ⟨front, back, rfl, front_length, back_length⟩ :=
    Bytes.exists_append head (head.length + body.length - place) (by omega)
  have nothing : probeHead crates front = none := by
    have splits : front ++ (back ++ body) = buffer ++ reads.flatten := by
      rw [arrives, append_assoc]
    apply probe_eq_none_of_refill_ready fills splits
    · rw [length_append, show back.length + body.length = place by omega]
      exact boundary
    · simp only [length_append]
      omega
  have behind : back ≠ [] := length_pos_iff.mp (by omega)
  rcases probeHead_unfinished parses rfl behind with ⟨-, short⟩ | ⟨error, fails⟩
  · omega
  · rw [fails] at nothing
    cases nothing

lemma handleStream_refused (refused : ¬Accepts crates head body resp reads)
    (arrives : reads.flatten = head ++ body) (protocol : Protocol) (version : Version)
    (ending : Ending) (client : Client) :
    ∃ error, handleStream crates protocol version ⟨reads, ending⟩ client =
      (.failed (.io error), client) := by
  cases reads with
  | nil => exact absurd (append_eq_nil_iff.mp arrives.symm).1 parses.nonempty
  | cons buffer reads =>
    rw [handleStream]
    dsimp only
    cases fills : refill _ buffer reads with
    | starved =>
      obtain ⟨nothing, rfl⟩ := of_refill_starved fills
      by_cases taken : resp.headers.length ≤ maxHeadersNum ∧
          crates.buildResponse resp.code resp.headers = .ok ()
      · rw [← flatten_cons, arrives, probeHead_complete parses taken.1 taken.2] at nothing
        cases nothing
      · obtain ⟨error, fails⟩ := probeHead_refused parses taken body
        rw [← flatten_cons, arrives, fails] at nothing
        cases nothing
    | ready value =>
      cases value with
      | error error => exact ⟨error, rfl⟩
      | ok => exact absurd (accepts_of_refill parses fills arrives) refused

end TrustTunnel.Endpoint.ReverseProxy
