import CredentialGateway.ProxyError

/-! Calls with a deadline. Times are in milliseconds. -/

namespace CredentialGateway

/-- The outcome of work that takes a while, and the time that has passed when it is known. Work that ends at the
deadline is still in time. -/
def withTimeout {α : Type} (service : String) (after takes : Nat) (result : α) : Except ProxyError α × Nat :=
  if takes ≤ after then (.ok result, takes) else (.error (.timeout service (.ofMillis after)), after)

end CredentialGateway
