import CredentialGateway.Url.Address
import CredentialGateway.Url.Percent

/-! URLs and their printed form. Every part is held percent-encoded, as it is printed. -/

namespace CredentialGateway

namespace Url

inductive Host
  | domain (name : List Char)
  | ipv4 (address : Nat)
  | ipv6 (groups : List Nat)
  /-- The host of a scheme that has no rules for hosts, and the empty host. -/
  | plain (name : List Char)
  deriving DecidableEq, Repr

def Host.chars : Host → List Char
  | domain name | plain name => name
  | ipv4 n => Address.ipv4Chars n
  | ipv6 groups => '[' :: Address.ipv6Chars groups ++ [']']

/-- User info, host and port. A password that is empty counts as none. -/
structure Authority where
  username : List Char
  password : List Char
  host : Host
  port : Option Nat
  deriving DecidableEq, Repr

namespace Authority

def hasUserInfo (a : Authority) : Bool := a.username ≠ [] || a.password ≠ []

def withoutUserInfo (a : Authority) : Authority := { a with username := [], password := [] }

def hostPort (a : Authority) : List Char :=
  a.host.chars ++
    match a.port with
    | some p => ':' :: Nat.toDigits 10 p
    | none => []

def chars (a : Authority) : List Char :=
  a.username ++ (if a.password = [] then [] else ':' :: a.password) ++
    (if a.hasUserInfo then ['@'] else []) ++ a.hostPort

end Authority
end Url

structure Url where
  scheme : List Char
  authority : Option Url.Authority
  path : List Char
  query : Option (List Char)
  fragment : Option (List Char)
  deriving DecidableEq, Repr

namespace Url

def defaultPort (scheme : List Char) : Option Nat :=
  match String.ofList scheme with
  | "http" | "ws" => some 80
  | "https" | "wss" => some 443
  | "ftp" => some 21
  | _ => none

def isFileScheme (scheme : List Char) : Bool := String.ofList scheme == "file"

def isSpecialScheme (scheme : List Char) : Bool := (defaultPort scheme).isSome || isFileScheme scheme

/-- A flat path has no segments, as in `mailto:a@b`. -/
def isFlat (u : Url) : Bool := u.authority.isNone && u.path.head? != some '/'

def host? (u : Url) : Option Host := u.authority.map Authority.host

def segments (u : Url) : List (List Char) := (u.path.drop 1).splitOn '/'

def target (u : Url) : List Char :=
  u.path ++
    match u.query with
    | some q => '?' :: q
    | none => []

/-- A path that would read as an authority is printed behind a dot segment. -/
def chars (u : Url) : List Char :=
  u.scheme ++ [':'] ++
    (match u.authority with
      | some a => '/' :: '/' :: a.chars
      | none => if u.path.take 2 = ['/', '/'] then ['/', '.'] else []) ++
    u.target ++
    match u.fragment with
    | some f => '#' :: f
    | none => []

def text (u : Url) : String := String.ofList u.chars

def withoutUserInfo (u : Url) : Url := { u with authority := u.authority.map Authority.withoutUserInfo }

end Url
end CredentialGateway
