import CredentialGateway.Decimal.Shortest

/-! Spans of time. -/

namespace CredentialGateway

structure Duration where
  nanos : Nat
  deriving DecidableEq, Repr

namespace Duration

def ofMillis (n : Nat) : Duration := ⟨n * 1000000⟩

def secondsText (d : Duration) : String := Decimal.seconds (d.nanos / 1000000000) (d.nanos % 1000000000)

end Duration
end CredentialGateway
