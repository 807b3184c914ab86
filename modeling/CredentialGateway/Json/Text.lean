import CredentialGateway.Datum
import CredentialGateway.Unicode.Range

/-! JSON texts: strict reading of a whole text, and writing without blanks. -/

namespace CredentialGateway.Json

def isSpace (c : Char) : Bool := c = ' ' || c = '\t' || c = '\n' || c = '\r'

def skipSpace (cs : List Char) : List Char := cs.dropWhile isSpace

def hex4? (a b c d : Char) : Option Nat := do
  let w ← Unicode.hexDigit? a
  let x ← Unicode.hexDigit? b
  let y ← Unicode.hexDigit? c
  let z ← Unicode.hexDigit? d
  some (((w * 16 + x) * 16 + y) * 16 + z)

def escaped? : Char → Option Char
  | '\x22' => some '\x22'
  | '\\' => some '\\'
  | '/' => some '/'
  | 'b' => some '\x08'
  | 'f' => some '\x0c'
  | 'n' => some '\n'
  | 'r' => some '\r'
  | 't' => some '\t'
  | _ => none

/-- Reads a string up to its closing quote; `done` holds the characters before in reverse. A high surrogate has to be
followed by a low one, and a low one cannot stand alone. -/
def readString (done : List Char) : List Char → Option (String × List Char)
  | [] => none
  | '\x22' :: rest => some (String.ofList done.reverse, rest)
  | '\\' :: 'u' :: a :: b :: c :: d :: rest =>
    match hex4? a b c d with
    | none => none
    | some n =>
      if n < 0xd800 || 0xe000 ≤ n then readString (Char.ofNat n :: done) rest
      else if 0xdc00 ≤ n then none
      else
        match rest with
        | '\\' :: 'u' :: e :: f :: g :: h :: rest =>
          match hex4? e f g h with
          | none => none
          | some m =>
            if 0xdc00 ≤ m && m < 0xe000 then
              readString (Char.ofNat (0x10000 + (n - 0xd800) * 1024 + (m - 0xdc00)) :: done) rest
            else none
        | _ => none
  | '\\' :: e :: rest =>
    match escaped? e with
    | some c => readString (c :: done) rest
    | none => none
  | c :: rest => if c.toNat < 0x20 then none else readString (c :: done) rest
  termination_by cs => cs.length

def naturalOf (digits : List Char) : Nat := digits.foldl (fun n c => 10 * n + (c.toNat - 48)) 0

/-- Integers fit into 64 bits, with or without sign; every other number is kept as `real`. -/
def numberDatum (negative : Bool) (whole : List Char) (plain : Bool) : Datum :=
  let n := naturalOf whole
  if plain && !negative && n < Nat.pow 2 64 then .integer n
  else if plain && negative && 0 < n && n ≤ Nat.pow 2 63 then .integer (-n)
  else .real

def skipExponent? : List Char → Option (List Char)
  | c :: rest =>
    if c = 'e' || c = 'E' then
      let digits := match rest with
        | s :: r => if s = '+' || s = '-' then r else s :: r
        | [] => []
      if (digits.head?.map Char.isDigit).getD false then some (digits.dropWhile Char.isDigit) else none
    else some (c :: rest)
  | [] => some []

def skipFraction? : List Char → Option (List Char)
  | '.' :: c :: rest => if c.isDigit then some (rest.dropWhile Char.isDigit) else none
  | ['.'] => none
  | cs => some cs

def readNumber (cs : List Char) : Option (Datum × List Char) := do
  let negative := cs.head? == some '-'
  let cs := if negative then cs.drop 1 else cs
  let whole := cs.takeWhile Char.isDigit
  let rest := cs.drop whole.length
  -- No zero comes before another digit.
  if whole = [] ∨ (whole.head? = some '0' ∧ whole.length ≠ 1) then none
  else
    let after ← skipFraction? rest
    let after ← skipExponent? after
    some (numberDatum negative whole (after.length == rest.length), after)

mutual

/-- Reads a value that is nested in at most `depth` further levels. The first argument exceeds the number of steps. -/
def readValue (steps depth : Nat) (cs : List Char) : Option (Datum × List Char) :=
  match steps with
  | 0 => none
  | steps + 1 =>
    match skipSpace cs with
    | 'n' :: 'u' :: 'l' :: 'l' :: rest => some (.null, rest)
    | 't' :: 'r' :: 'u' :: 'e' :: rest => some (.bool true, rest)
    | 'f' :: 'a' :: 'l' :: 's' :: 'e' :: rest => some (.bool false, rest)
    | '\x22' :: rest => (readString [] rest).map fun (s, r) => (.text s, r)
    | '[' :: rest =>
      match depth with
      | 0 => none
      | depth + 1 =>
        match skipSpace rest with
        | ']' :: rest => some (.list [], rest)
        | rest => readItems steps depth [] rest
    | '\x7b' :: rest =>
      match depth with
      | 0 => none
      | depth + 1 =>
        match skipSpace rest with
        | '\x7d' :: rest => some (.table [], rest)
        | rest => readFields steps depth [] rest
    | rest => readNumber rest

def readItems (steps depth : Nat) (done : List Datum) (cs : List Char) : Option (Datum × List Char) :=
  match steps with
  | 0 => none
  | steps + 1 => do
    let (d, rest) ← readValue steps depth cs
    match skipSpace rest with
    | ',' :: rest => readItems steps depth (d :: done) rest
    | ']' :: rest => some (.list (d :: done).reverse, rest)
    | _ => none

def readFields (steps depth : Nat) (done : List (String × Datum)) (cs : List Char) : Option (Datum × List Char) :=
  match steps with
  | 0 => none
  | steps + 1 =>
    match skipSpace cs with
    | '\x22' :: rest => do
      let (key, rest) ← readString [] rest
      match skipSpace rest with
      | ':' :: rest => do
        let (d, rest) ← readValue steps depth rest
        match skipSpace rest with
        | ',' :: rest => readFields steps depth ((key, d) :: done) rest
        | '\x7d' :: rest => some (.table ((key, d) :: done).reverse, rest)
        | _ => none
      | _ => none
    | _ => none

end

def maxDepth : Nat := 127

def parse? (s : String) : Option Datum := do
  let cs := s.toList
  -- No character takes more than two steps.
  let (d, rest) ← readValue (2 * cs.length + 2) maxDepth cs
  if skipSpace rest = [] then some d else none

def controlEscape (c : Char) : List Char :=
  "\\u00".toList ++ [Nat.digitChar (c.toNat / 16), Nat.digitChar (c.toNat % 16)]

def escapeChar (c : Char) : List Char :=
  if c = '\x22' then "\\\"".toList
  else if c = '\\' then "\\\\".toList
  else if c = '\x08' then "\\b".toList
  else if c = '\x0c' then "\\f".toList
  else if c = '\n' then "\\n".toList
  else if c = '\r' then "\\r".toList
  else if c = '\t' then "\\t".toList
  else if c.toNat < 0x20 then controlEscape c
  else [c]

def renderText (s : String) : List Char :=
  '\x22' :: s.toList.flatMap escapeChar ++ ['\x22']

mutual

/-- Writes a tree in the order of its fields. Only integers have a written form among the numbers; the others become
`null`. -/
def render : Datum → List Char
  | .null | .real | .moment => "null".toList
  | .bool true => "true".toList
  | .bool false => "false".toList
  | .integer n => (toString n).toList
  | .text s => renderText s
  | .list items => '[' :: renderItems items ++ [']']
  | .table fields => '\x7b' :: renderFields fields ++ ['\x7d']

def renderItems : List Datum → List Char
  | [] => []
  | [d] => render d
  | d :: rest => render d ++ ',' :: renderItems rest

def renderFields : List (String × Datum) → List Char
  | [] => []
  | [(k, d)] => renderText k ++ ':' :: render d
  | (k, d) :: rest => renderText k ++ ':' :: render d ++ ',' :: renderFields rest

end

end CredentialGateway.Json
