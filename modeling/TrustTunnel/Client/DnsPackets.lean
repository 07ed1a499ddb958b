import TrustTunnel.Wire.Bytes

/-!
# DNS packets

`net/src/dns_utils.cpp`: what the client reads off a DNS packet. The packet itself is taken apart
by ldns, which is a parameter.
-/

namespace TrustTunnel.Client.DnsUtils

/-- `ldns_rr_type`, as far as it matters. -/
inductive RrType where
  | a
  | aaaa
  | cname
  | svcb
  | https
  | other (code : UInt16)
  deriving DecidableEq

/-- `ldns_rdf`: its bytes, its text, and whether the text is an absolute name. -/
structure Rdf where
  data : Bytes
  text : Bytes
  absolute : Bool
  deriving DecidableEq

structure Rr where
  owner : Rdf
  type : RrType
  ttl : UInt32
  rdata : List Rdf
  deriving DecidableEq

structure Pkt where
  id : UInt16
  qr : Bool
  rcode : UInt8
  question : List Rr
  answer : List Rr
  deriving DecidableEq

/-- The library that parses packets. -/
structure Ldns where
  /-- `ldns_wire2pkt`, or the text of an error. -/
  wire2pkt : Bytes → Except String Pkt

inductive RecordType where
  | a
  | aaaa
  deriving DecidableEq

structure AnswerAddress where
  ip : Bytes
  ttl : UInt32
  deriving DecidableEq

structure DecodedRequest where
  id : UInt16
  questionType : Option RecordType
  name : Bytes
  deriving DecidableEq

structure DecodedReply where
  id : UInt16
  questionType : Option RecordType
  names : List Bytes
  addresses : List AnswerAddress
  pkt : Pkt
  deriving DecidableEq

inductive DecodeResult where
  | request (req : DecodedRequest)
  | reply (reply : DecodedReply)
  | inapplicable (id : UInt16)
  | error (description : String)
  deriving DecidableEq

/-- The text without the trailing dot. -/
def rdfToString (rdf : Rdf) : Bytes := if rdf.absolute then rdf.text.dropLast else rdf.text

def addNameToAnswer (answer : DecodedReply) (rdf : Rdf) : DecodedReply :=
  let name := rdfToString rdf
  if answer.names.contains name then answer else { answer with names := answer.names ++ [name] }

def ldnsToUtilsRrType : RrType → Option RecordType
  | .a => some .a
  | .aaaa => some .aaaa
  | .cname | .svcb | .https | .other _ => none

def decodeRequest (pkt : Pkt) : DecodeResult :=
  match pkt.question with
  | [] => .inapplicable pkt.id
  | question :: _ =>
    .request
      { id := pkt.id
        questionType := ldnsToUtilsRrType question.type
        name := rdfToString question.owner }

/-- The loop of `decode_reply` over the answers. -/
def addAnswer (answer : DecodedReply) (rr : Rr) : DecodedReply :=
  match rr.type, rr.rdata with
  | .a, rd :: _ | .aaaa, rd :: _ =>
    if rd.data.length ≠ 4 ∧ rd.data.length ≠ 16 then answer
    else
      let named := addNameToAnswer answer rr.owner
      { named with addresses := named.addresses ++ [⟨rd.data, rr.ttl⟩] }
  | .cname, rd :: _ => addNameToAnswer (addNameToAnswer answer rr.owner) rd
  | .https, _ | .svcb, _ => addNameToAnswer answer rr.owner
  | .a, [] | .aaaa, [] | .cname, [] | .other _, _ => answer

def decodeReply (pkt : Pkt) : DecodeResult :=
  if pkt.rcode ≠ 0 then .inapplicable pkt.id
  else
    match pkt.question with
    | [] => .inapplicable pkt.id
    | question :: _ =>
      .reply (pkt.answer.foldl addAnswer
        { id := pkt.id
          questionType := ldnsToUtilsRrType question.type
          names := []
          addresses := []
          pkt })

def decodePacket (ldns : Ldns) (packet : Bytes) : DecodeResult :=
  match ldns.wire2pkt packet with
  | .error description => .error description
  | .ok pkt => if pkt.qr then decodeReply pkt else decodeRequest pkt

end TrustTunnel.Client.DnsUtils
