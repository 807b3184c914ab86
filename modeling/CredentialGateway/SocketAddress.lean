import CredentialGateway.Url.Address

/-! Addresses to listen on: an IPv4 address with a port, or an IPv6 address in brackets with a port. -/

namespace CredentialGateway

inductive SocketAddress
  | ipv4 (address port : Nat)
  | ipv6 (groups : List Nat) (scope port : Nat)
  deriving DecidableEq, Repr

namespace SocketAddress
open Url

def number? (limit : Nat) (cs : List Char) : Option Nat := do
  let n ← Address.ofRadix? 10 cs
  if cs = [] ∨ limit ≤ n then none else some n

def splitPort? (cs : List Char) : Option (List Char × Nat) := do
  let digits := (cs.reverse.takeWhile (· ≠ ':')).reverse
  let port ← number? 65536 digits
  if digits.length = cs.length then none else some (cs.take (cs.length - digits.length - 1), port)

def parse? (s : String) : Option SocketAddress := do
  let (host, port) ← splitPort? s.toList
  match host with
  | '[' :: rest =>
    let inner := rest.dropLast
    if rest.getLast? ≠ some ']' then none
    else
      let address := inner.takeWhile (· ≠ '%')
      let groups ← Address.ipv6? address
      match inner.drop address.length with
      | _ :: scope => (number? 4294967296 scope).map fun n => .ipv6 groups n port
      | [] => some (.ipv6 groups 0 port)
  | _ => (Address.dotted? host).map fun n => .ipv4 n port

def port : SocketAddress → Nat
  | ipv4 _ p | ipv6 _ _ p => p

def isLocal : SocketAddress → Bool
  | ipv4 n _ => n = 0 || n / 16777216 = 127
  | ipv6 groups _ _ => groups.dropLast.all (· = 0) && (groups.getLast?.getD 0) ≤ 1

def text : SocketAddress → String
  | ipv4 n p => String.ofList (Address.ipv4Chars n) ++ ":" ++ toString p
  | ipv6 groups scope p =>
    "[" ++ String.ofList (Address.ipv6Chars groups) ++ (if scope = 0 then "" else "%" ++ toString scope) ++ "]:" ++
      toString p

end SocketAddress
end CredentialGateway
