import TrustTunnel.Wire.Bytes

/-!
# Errors of the endpoint

The part of `std::io::Error` that the endpoint uses: a kind and a text.
-/

namespace TrustTunnel.Endpoint

inductive ErrorKind where
  | permissionDenied
  | notFound
  | invalidData
  | unexpectedEof
  | timedOut
  | other
  deriving DecidableEq

structure IoError where
  kind : ErrorKind
  message : String
  deriving DecidableEq

namespace ErrorKind

/-- The text of an error that is made of a kind alone. -/
def description : ErrorKind → String
  | permissionDenied => "permission denied"
  | notFound => "entity not found"
  | invalidData => "invalid data"
  | unexpectedEof => "unexpected end of file"
  | timedOut => "timed out"
  | other => "other error"

end ErrorKind

namespace IoError

/-- `From<ErrorKind> for io::Error`. -/
def ofKind (kind : ErrorKind) : IoError := ⟨kind, kind.description⟩

/-- `io::Error::other`. -/
def other (msg : String) : IoError := ⟨.other, msg⟩

end IoError

/-- How an operation can fail: with an error it returns, or by a panic. -/
inductive Failure where
  | io (error : IoError)
  | panic (fault : Fault)
  deriving DecidableEq

end TrustTunnel.Endpoint
