import CredentialGateway.Http.Header
import CredentialGateway.Unicode.Blank

/-! Hop-by-hop headers: those that concern one connection only, among them all that a Connection header names. -/

namespace CredentialGateway.Http

def hopByHopNames : List HeaderName :=
  [⟨"connection"⟩, ⟨"keep-alive"⟩, ⟨"proxy-connection"⟩, ⟨"proxy-authenticate"⟩, ⟨"proxy-authorization"⟩,
    ⟨"te"⟩, ⟨"trailer"⟩, ⟨"transfer-encoding"⟩, ⟨"upgrade"⟩]

/-- The names in a comma-separated list; items that are no header names are passed over. -/
def listedNames (cs : List Char) : List HeaderName :=
  (cs.splitOn ',').filterMap fun item => HeaderName.parse? (Unicode.trim item)

namespace Headers

def connectionNames (h : Headers) : List HeaderName :=
  ((h.all .connection).filterMap HeaderValue.chars?).flatMap listedNames

/-- Takes out first the headers that Connection names, one after the other, and then the fixed ones. -/
def stripHopByHop (h : Headers) : Headers :=
  hopByHopNames.foldl erase (h.connectionNames.foldl erase h)

end Headers
end CredentialGateway.Http
