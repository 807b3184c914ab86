import CredentialGateway.Bytes
import CredentialGateway.Unicode.Range

/-! Percent-encoding, with the sets of characters that each part of a URL has to encode. -/

namespace CredentialGateway.Url

def isControl (c : Char) : Bool := c.toNat < 0x20 || 0x7e < c.toNat

def inFragmentSet (c : Char) : Bool := isControl c || " \x22<>\x60".toList.contains c

def inQuerySet (c : Char) : Bool := isControl c || " \x22#<>".toList.contains c

def inSpecialQuerySet (c : Char) : Bool := inQuerySet c || c = '\x27'

def inPathSet (c : Char) : Bool := inFragmentSet c || "#?\x7b\x7d".toList.contains c

def inUserSet (c : Char) : Bool := inPathSet c || "/:;=@[\\]^|".toList.contains c

def upperHex (n : Nat) : Char := (Nat.digitChar n).toUpper

def percentByte (b : UInt8) : List Char :=
  ['%', upperHex (b.toNat / 16), upperHex (b.toNat % 16)]

def percentEncode (set : Char → Bool) (cs : List Char) : List Char :=
  cs.flatMap fun c => if set c then (String.utf8EncodeChar c).flatMap percentByte else [c]

/-- Undoes percent-encoding; a percent sign without two digits stands for itself. -/
def percentDecode : List Char → Bytes
  | [] => []
  | '%' :: a :: b :: rest =>
    match Unicode.hexDigit? a, Unicode.hexDigit? b with
    | some x, some y => UInt8.ofNat (16 * x + y) :: percentDecode rest
    | _, _ => 37 :: percentDecode (a :: b :: rest)
  | c :: rest => String.utf8EncodeChar c ++ percentDecode rest
  termination_by cs => cs.length

end CredentialGateway.Url
