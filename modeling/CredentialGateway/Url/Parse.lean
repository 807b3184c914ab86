import CredentialGateway.Url.Domain
import CredentialGateway.Url.Path

/-! Reading URLs, alone or relative to a URL of the web. -/

namespace CredentialGateway.Url

inductive ParseError
  | noBase
  | emptyHost
  | port
  | ipv4
  | ipv6
  | domainName
  | domainCharacter
  deriving DecidableEq, Repr

def ParseError.message : ParseError → String
  | noBase => "relative URL without a base"
  | emptyHost => "empty host"
  | port => "invalid port number"
  | ipv4 => "invalid IPv4 address"
  | ipv6 => "invalid IPv6 address"
  | domainName => "invalid international domain name"
  | domainCharacter => "invalid domain character"

def splitScheme? (cs : List Char) : Option (List Char × List Char) :=
  let scheme := cs.takeWhile fun c => c.isAlphanum || "+-.".toList.contains c
  match cs, cs.drop scheme.length with
  | c :: _, ':' :: rest => if c.isAlpha then some (scheme.map Char.toLower, rest) else none
  | _, _ => none

/-- The authority ends before any of these. -/
def endsAuthority (special : Bool) (c : Char) : Bool :=
  c = '/' || c = '?' || c = '#' || (special && c = '\\')

def readIpv6 (cs : List Char) : Except ParseError Host :=
  match cs.getLast?, Address.ipv6? (cs.drop 1).dropLast with
  | some ']', some groups => .ok (.ipv6 groups)
  | _, _ => .error .ipv6

def readHost (cs : List Char) : Except ParseError Host :=
  if cs.head? = some '[' then readIpv6 cs
  else
    match (Bytes.text? (percentDecode cs)).bind fun s => Domain.toAscii? s.toList with
    | none => .error .domainName
    | some [] => .error .emptyHost
    | some name =>
      if Address.endsInNumber name then
        match Address.ipv4? name with
        | some n => .ok (.ipv4 n)
        | none => .error .ipv4
      else .ok (.domain name)

def isForbiddenHostChar (c : Char) : Bool :=
  c.toNat = 0 || "\t\n\r #/:<>?@[\\]^|".toList.contains c

def readPlainHost (cs : List Char) : Except ParseError Host :=
  if cs.head? = some '[' then readIpv6 cs
  else if cs.any isForbiddenHostChar then .error .domainCharacter
  else .ok (.plain (percentEncode isControl cs))

/-- The part of a text up to the first colon outside brackets. -/
def hostPart (inside : Bool) : List Char → List Char
  | [] => []
  | c :: rest =>
    if c = ':' && !inside then []
    else c :: hostPart (if c = '[' then true else if c = ']' then false else inside) rest

def readPort (scheme : List Char) (cs : List Char) : Except ParseError (Option Nat × List Char) :=
  let digits := cs.takeWhile Char.isDigit
  let rest := cs.dropWhile Char.isDigit
  let port := (Address.ofRadix? 10 digits).getD 0
  if 65535 < port || !(rest.head?.map (endsAuthority true)).getD true then .error .port
  else .ok (if digits = [] || some port = defaultPort scheme then none else some port, rest)

def splitUserInfo (cs : List Char) : Option (List Char) × List Char :=
  let after := (cs.reverse.takeWhile (· ≠ '@')).reverse
  if after.length = cs.length then (none, cs)
  else (some (cs.take (cs.length - after.length - 1)), after)

structure Tail where
  path : List Char
  query : Option (List Char)
  fragment : Option (List Char)

def splitTail (cs : List Char) : Tail :=
  let path := cs.takeWhile fun c => c ≠ '?' && c ≠ '#'
  let fragment := match cs.dropWhile (· ≠ '#') with
    | _ :: rest => some rest
    | [] => none
  match cs.drop path.length with
  | '?' :: rest => ⟨path, some (rest.takeWhile (· ≠ '#')), fragment⟩
  | _ => ⟨path, none, fragment⟩

def finish (scheme : List Char) (authority : Option Authority) (path : List Char) (tail : Tail) : Url :=
  ⟨scheme, authority, path, tail.query.map (readQuery scheme), tail.fragment.map readFragment⟩

def readAuthority (scheme : List Char) (cs : List Char) : Except ParseError Url := do
  let special := isSpecialScheme scheme
  let authority := cs.takeWhile fun c => !endsAuthority special c
  let rest := cs.drop authority.length
  let (info, hostAndPort) := splitUserInfo authority
  if info = some [] ∧ hostAndPort = [] ∧ rest ≠ [] then throw .emptyHost
  let user := (info.getD []).takeWhile (· ≠ ':')
  let password := ((info.getD []).dropWhile (· ≠ ':')).drop 1
  let hostText := hostPart false hostAndPort
  let afterHost := hostAndPort.drop hostText.length
  if hostText = [] ∧ (special ∨ afterHost ≠ [] ∨ user ≠ [] ∨ password ≠ []) then throw .emptyHost
  let host ← if special then readHost hostText else readPlainHost hostText
  let (port, afterPort) ← match afterHost with
    | ':' :: digits => readPort scheme (digits ++ rest)
    | _ => .ok (none, rest)
  let tail := splitTail afterPort
  return finish scheme
    (some ⟨percentEncode inUserSet user, percentEncode inUserSet password, host, port⟩)
    (readPath scheme tail.path) tail

/-- The host of a file; the local one is written as none. -/
def readFileHost (cs : List Char) : Except ParseError Host := do
  if cs = [] then return .plain []
  let host ← readHost cs
  return if host = .domain "localhost".toList then .plain [] else host

/-- Reads the rest of a file URL after its scheme. A path that begins with a drive letter takes the place of a host. -/
def readFile (cs : List Char) : Except ParseError Url := do
  let scheme := "file".toList
  let isSlash := fun c => c = '/' || c = '\\'
  match cs with
  | a :: b :: rest =>
    if isSlash a && isSlash b then
      let hostText := rest.takeWhile fun c => !endsAuthority true c
      if isDrive hostText then
        let tail := splitTail rest
        return finish scheme (some ⟨[], [], .plain [], none⟩) (readPath scheme ('/' :: tail.path)) tail
      let host ← readFileHost hostText
      let tail := splitTail (rest.drop hostText.length)
      let first := (readSegments scheme [] (dropSlash true tail.path)).head?
      let host := if (first.map isDrive).getD false then .plain [] else host
      return finish scheme (some ⟨[], [], host, none⟩) (readPath scheme tail.path) tail
  | _ => pure ()
  let tail := splitTail cs
  return finish scheme (some ⟨[], [], .plain [], none⟩) (readPath scheme tail.path) tail

/-- Reads a URL without scheme, relative to a URL of the web. -/
def readRelative (base : Url) (cs : List Char) : Except ParseError Url :=
  let tail := splitTail cs
  let slashes := cs.takeWhile fun c => c = '/' || c = '\\'
  if 2 ≤ slashes.length then
    readAuthority base.scheme (if cs.take 2 = ['/', '/'] then cs.drop 2 else cs.drop slashes.length)
  else if slashes.length = 1 then
    .ok (finish base.scheme base.authority (readPath base.scheme tail.path) tail)
  else if tail.path ≠ [] then
    let segments := readSegments base.scheme base.segments.dropLast tail.path
    .ok (finish base.scheme base.authority (pathOfSegments base.scheme segments) tail)
  else
    let u := finish base.scheme base.authority base.path tail
    .ok (if tail.query.isNone then { u with query := base.query } else u)

def readScheme (base : Option Url) (scheme : List Char) (cs : List Char) : Except ParseError Url :=
  if isFileScheme scheme then readFile cs
  else if isSpecialScheme scheme then
    let slashes := cs.takeWhile fun c => c = '/' || c = '\\'
    match base with
    | some b =>
      if slashes.length < 2 && b.scheme == scheme then readRelative b cs
      else readAuthority scheme (cs.drop slashes.length)
    | none => readAuthority scheme (cs.drop slashes.length)
  else if cs.take 2 = ['/', '/'] then readAuthority scheme (cs.drop 2)
  else
    let tail := splitTail cs
    let path := if tail.path.head? = some '/' then readPath scheme tail.path else readFlatPath tail.path
    .ok (finish scheme none path tail)

/-- A text without controls and blanks at its ends and without tabs and line ends in it. -/
def tidy (cs : List Char) : List Char :=
  let isEdge := fun c : Char => c.toNat ≤ 0x20
  dropBreaks ((cs.dropWhile isEdge).reverse.dropWhile isEdge).reverse

def parse (s : String) : Except ParseError Url :=
  match splitScheme? (tidy s.toList) with
  | some (scheme, rest) => readScheme none scheme rest
  | none => .error .noBase

def resolve (base : Url) (s : String) : Except ParseError Url :=
  let cs := tidy s.toList
  match splitScheme? cs with
  | some (scheme, rest) => readScheme (some base) scheme rest
  | none => readRelative base cs

end CredentialGateway.Url
