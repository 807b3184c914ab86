import CredentialGateway.Bytes

/-! Bodies as they come from a caller, in pieces and in the caller's own time. Times are in milliseconds. -/

namespace CredentialGateway.Http

/-- What is still to come of a body, and how long it takes to come. A caller that stalls takes long. -/
inductive Body
  | ended (wait : Nat)
  | broken (wait : Nat) (reason : String)
  | piece (wait : Nat) (bytes : Bytes) (rest : Body)
  deriving DecidableEq, Repr

inductive BodyError
  | tooLong
  | broken (reason : String)
  deriving DecidableEq, Repr

def BodyError.message : BodyError → String
  | tooLong => "length limit exceeded"
  | broken reason => reason

namespace Body

def whole (bytes : Bytes) : Body := piece 0 bytes (ended 0)

instance : Coe Bytes Body := ⟨whole⟩

/-- Reads a body with at most `limit` bytes, and tells how long that takes. The piece that goes beyond the limit is the
last one that is waited for. -/
def read : Nat → Body → Except BodyError Bytes × Nat
  | _, ended wait => (.ok [], wait)
  | _, broken wait reason => (.error (.broken reason), wait)
  | limit, piece wait bytes rest =>
    if limit < bytes.length then (.error .tooLong, wait)
    else
      let (result, millis) := read (limit - bytes.length) rest
      (result.map (bytes ++ ·), wait + millis)

end Body
end CredentialGateway.Http
