import CredentialGateway.Bytes

/-! The target of a request, in its four forms. A fragment is dropped. -/

namespace CredentialGateway.Http

inductive RequestUri
  | asterisk
  | origin (pathAndQuery : List Char)
  | absolute (scheme authority pathAndQuery : List Char)
  | authority (authority : List Char)
  deriving DecidableEq, Repr

namespace RequestUri

def isSchemeChar (c : Char) : Bool := c.isAlphanum || "+-.~".toList.contains c

def isAuthorityChar (c : Char) : Bool :=
  c.isAlphanum || "!$&\x27()*+,-.:;=@[]_~".toList.contains c

def isPathChar (c : Char) : Bool :=
  0x21 ≤ c.toNat && !"#<>?\x60".toList.contains c

def isQueryChar (c : Char) : Bool :=
  0x21 ≤ c.toNat && !"\x22#<>".toList.contains c

def endsAuthority (c : Char) : Bool := c = '/' || c = '?' || c = '#'

/-- What is known of an authority while it is read from left to right. A user name takes with it the colons and percent
signs read so far, and so does a closing bracket. -/
structure AuthorityScan where
  colons : Nat
  opened : Bool
  closed : Bool
  percent : Bool
  atEnd : Bool

namespace AuthorityScan

def start : AuthorityScan := ⟨0, false, false, false, false⟩

def step (s : AuthorityScan) (c : Char) : Option AuthorityScan :=
  if c = ':' then
    -- The most that an address with a port has, as in `[1:2:3:4:5:6:7:8]:80`.
    if 8 ≤ s.colons then none else some { s with colons := s.colons + 1, atEnd := false }
  else if c = '[' then
    if s.percent || s.opened then none else some { s with opened := true, atEnd := false }
  else if c = ']' then
    if !s.opened || s.closed then none
    else some { s with colons := 0, closed := true, percent := false, atEnd := false }
  else if c = '@' then some { s with colons := 0, percent := false, atEnd := true }
  else if c = '%' then some { s with percent := true, atEnd := false }
  else if isAuthorityChar c then some { s with atEnd := false }
  else none

def ok (s : AuthorityScan) : Bool :=
  s.opened == s.closed && s.colons ≤ 1 && !s.atEnd && !s.percent

end AuthorityScan

def isAuthority (cs : List Char) : Bool :=
  match cs.foldlM AuthorityScan.step AuthorityScan.start with
  | some s => s.ok
  | none => false

def pathAndQuery? (cs : List Char) : Option (List Char) :=
  -- The fragment goes unread.
  let kept := cs.takeWhile (· ≠ '#')
  let path := kept.takeWhile (· ≠ '?')
  let query := (kept.dropWhile (· ≠ '?')).drop 1
  if path.all isPathChar && query.all isQueryChar then some kept else none

def splitScheme? (cs : List Char) : Option (List Char × List Char) :=
  let scheme := cs.takeWhile isSchemeChar
  match cs.dropWhile isSchemeChar with
  | ':' :: '/' :: '/' :: rest => some (scheme, rest)
  | _ => none

def ofChars? (cs : List Char) : Option RequestUri :=
  match cs with
  | [] => none
  | ['*'] => some .asterisk
  | '/' :: _ => (pathAndQuery? cs).map .origin
  | _ =>
    match splitScheme? cs with
    | some (scheme, rest) =>
      let authority := rest.takeWhile fun c => !endsAuthority c
      if 64 < scheme.length || authority = [] || !isAuthority authority then none
      else (pathAndQuery? (rest.dropWhile fun c => !endsAuthority c)).map (.absolute scheme authority)
    | none => if cs.all (fun c => !endsAuthority c) && isAuthority cs then some (.authority cs) else none

/-- Reads a request target of at most 65534 bytes. -/
def parse? (s : String) : Option RequestUri :=
  if 65534 < s.utf8ByteSize then none else ofChars? s.toList

def authority? : RequestUri → Option (List Char)
  | asterisk | origin _ => none
  | absolute _ a _ | authority a => some a

/-- The path and query as they are forwarded; a target that names none asks for the root. -/
def pathAndQuery : RequestUri → List Char
  | asterisk => ['*']
  | origin pq => pq
  | absolute _ _ pq => if pq = [] then ['/'] else pq
  | authority _ => ['/']

def path : RequestUri → List Char
  | asterisk => ['*']
  | origin pq => pq.takeWhile (· ≠ '?')
  | absolute _ _ pq => if pq.takeWhile (· ≠ '?') = [] then ['/'] else pq.takeWhile (· ≠ '?')
  | authority _ => []

end RequestUri
end CredentialGateway.Http
