import CredentialGateway.Url.Basic

/-! Paths of URLs as lists of segments: dot segments are resolved while a path is read, and no step leads above the
root. -/

namespace CredentialGateway.Url

def isSingleDot (s : List Char) : Bool :=
  [".", "%2e"].contains (String.ofList (s.map Char.toLower))

def isDoubleDot (s : List Char) : Bool :=
  ["..", "%2e.", ".%2e", "%2e%2e"].contains (String.ofList (s.map Char.toLower))

def isDrive : List Char → Bool
  | [a, b] => a.isAlpha && (b = ':' || b = '|')
  | _ => false

/-- Goes up by one segment of a reversed list; a drive letter stays. -/
def ascend : List (List Char) → List (List Char)
  | [] => []
  | s :: rest => if isDrive s then s :: rest else rest

/-- A drive letter that begins the path of a file is written with a colon. -/
def spellSegment (file : Bool) (done : List (List Char)) (s : List Char) : List Char :=
  if file && done.isEmpty && isDrive s then s.take 1 ++ [':'] else percentEncode inPathSet s

/-- Reads segments below the reversed list `done`. A dot segment at the end leaves an empty segment. -/
def descend (file : Bool) (done : List (List Char)) : List (List Char) → List (List Char)
  | [] => done
  | [s] =>
    if isDoubleDot s then [] :: ascend done
    else if isSingleDot s then [] :: done
    else spellSegment file done s :: done
  | s :: rest =>
    if isDoubleDot s then descend file (ascend done) rest
    else if isSingleDot s then descend file done rest
    else descend file (spellSegment file done s :: done) rest

def joinSegments (segments : List (List Char)) : List Char := segments.flatMap ('/' :: ·)

/-- In special schemes a backslash parts segments too. -/
def splitSegments (special : Bool) (cs : List Char) : List (List Char) :=
  (if special then cs.map fun c => if c = '\\' then '/' else c else cs).splitOn '/'

def dropSlash (special : Bool) : List Char → List Char
  | [] => []
  | c :: rest => if c = '/' || (special && c = '\\') then rest else c :: rest

def readSegments (scheme : List Char) (base : List (List Char)) (cs : List Char) : List (List Char) :=
  (descend (isFileScheme scheme) base.reverse (splitSegments (isSpecialScheme scheme) cs)).reverse

/-- Paths of files begin with no empty segment. -/
def pathOfSegments (scheme : List Char) (segments : List (List Char)) : List Char :=
  if isFileScheme scheme then
    match segments.dropWhile (· = []) with
    | [] => ['/']
    | s :: rest => joinSegments (s :: rest)
  else joinSegments segments

/-- The path that a text gives from the root. Only where the scheme is not special can it be empty. -/
def readPath (scheme : List Char) (cs : List Char) : List Char :=
  if cs = [] && !isSpecialScheme scheme then []
  else pathOfSegments scheme (readSegments scheme [] (dropSlash (isSpecialScheme scheme) cs))

def readFlatPath (cs : List Char) : List Char := percentEncode isControl cs

def readQuery (scheme : List Char) (cs : List Char) : List Char :=
  percentEncode (if isSpecialScheme scheme then inSpecialQuerySet else inQuerySet) cs

def readFragment (cs : List Char) : List Char := percentEncode inFragmentSet cs

def dropBreaks (cs : List Char) : List Char := cs.filter fun c => c ≠ '\t' && c ≠ '\n' && c ≠ '\r'

def setPath (u : Url) (cs : List Char) : Url :=
  let cs := dropBreaks cs
  if u.isFlat then
    { u with
      path :=
        match cs with
        -- A slash at the start would part the path into segments.
        | '/' :: rest => "%2F".toList ++ readFlatPath rest
        | _ => readFlatPath cs }
  else { u with path := readPath u.scheme cs }

/-- Replaces the query. Blanks at the end of a flat path go when nothing follows them. -/
def setQuery (u : Url) (query : Option (List Char)) : Url :=
  match query with
  | some cs => { u with query := some (readQuery u.scheme (dropBreaks cs)) }
  | none =>
    if u.isFlat && u.fragment.isNone then
      { u with query := none, path := (u.path.reverse.dropWhile (· = ' ')).reverse }
    else { u with query := none }

end CredentialGateway.Url
