import CredentialGateway.Datum
import CredentialGateway.Unicode.Range

/-! The single values of TOML: strings, numbers, dates and times. Each reader gives what it read and the text behind
it. -/

namespace CredentialGateway.Toml

abbrev Text := List Char

def isBlank (c : Char) : Bool := c = ' ' || c = '\t'

def skipBlanks (cs : Text) : Text := cs.dropWhile isBlank

def newline? : Text → Option Text
  | '\n' :: rest => some rest
  | '\r' :: '\n' :: rest => some rest
  | _ => none

def isPlain (c : Char) : Bool := c = '\t' || (0x20 ≤ c.toNat && c.toNat ≠ 0x7f)

def charOfCode? (n : Nat) : Option Char :=
  if n < 0xd800 ∨ (0xe000 ≤ n ∧ n < 0x110000) then some (Char.ofNat n) else none

def escape? : Text → Option (Char × Text)
  | [] => none
  | c :: rest =>
    let code := fun digits =>
      let read := rest.take digits
      if read.length = digits && read.all fun d => (Unicode.hexDigit? d).isSome then
        (charOfCode? (Unicode.ofHex read)).map fun ch => (ch, rest.drop digits)
      else none
    match c with
    | 'b' => some ('\x08', rest)
    | 'f' => some ('\x0c', rest)
    | 'n' => some ('\n', rest)
    | 'r' => some ('\r', rest)
    | 't' => some ('\t', rest)
    | '\\' => some ('\\', rest)
    | 'u' => code 4
    | 'U' => code 8
    | _ => if c = '\x22' then some (c, rest) else none

def isFold (c : Char) : Bool := isBlank c || c = '\n' || c = '\r'

def pairsReturns : Text → Bool
  | [] => true
  | '\r' :: '\n' :: rest => pairsReturns rest
  | c :: rest => c ≠ '\r' && pairsReturns rest

def foldedLine? (cs : Text) : Option Text := do
  let rest ← newline? (skipBlanks cs)
  let skipped := rest.takeWhile isFold
  if pairsReturns skipped then some (rest.drop skipped.length) else none

def readBasic (steps : Nat) (done : Text) (cs : Text) : Option (String × Text) :=
  match steps, cs with
  | steps + 1, c :: rest =>
    if c = '\x22' then some (String.ofList done.reverse, rest)
    else if c = '\\' then do
      let (ch, rest) ← escape? rest
      readBasic steps (ch :: done) rest
    else if isPlain c then readBasic steps (c :: done) rest
    else none
  | _, _ => none

def readLiteral (done : Text) : Text → Option (String × Text)
  | [] => none
  | c :: rest =>
    if c = '\x27' then some (String.ofList done.reverse, rest)
    else if isPlain c then readLiteral (c :: done) rest
    else none

/-- The quotes at the start of a text: three of them end a string over several lines, and up to two more before the
last three belong to it. -/
def closing? (quote : Char) (cs : Text) : Option (Text × Text) :=
  let n := (cs.takeWhile (· = quote)).length
  if n < 3 then none
  else
    -- Whatever follows five quotes is no longer part of the string.
    let inside := min (n - 3) 2
    some (List.replicate inside quote, cs.drop (inside + 3))

def readLines (quote : Char) (escapes : Bool) (steps : Nat) (done : Text) (cs : Text) : Option (String × Text) :=
  match steps, cs with
  | steps + 1, c :: rest =>
    if c = quote then
      match closing? quote cs with
      | some (inside, rest) => some (String.ofList (done.reverse ++ inside), rest)
      | none => readLines quote escapes steps (c :: done) rest
    else if escapes && c = '\\' then
      match foldedLine? rest with
      | some rest => readLines quote escapes steps done rest
      | none => do
        let (ch, rest) ← escape? rest
        readLines quote escapes steps (ch :: done) rest
    else if isPlain c then readLines quote escapes steps (c :: done) rest
    else
      match newline? cs with
      | some rest => readLines quote escapes steps ('\n' :: done) rest
      | none => none
  | _, _ => none

/-- A line end right behind the opening quotes does not count. -/
def skipFirstNewline (cs : Text) : Text := (newline? cs).getD cs

def readString (cs : Text) : Option (String × Text) :=
  match cs with
  | '\x22' :: '\x22' :: '\x22' :: rest => readLines '\x22' true (rest.length + 1) [] (skipFirstNewline rest)
  | '\x22' :: rest => readBasic (rest.length + 1) [] rest
  | '\x27' :: '\x27' :: '\x27' :: rest => readLines '\x27' false (rest.length + 1) [] (skipFirstNewline rest)
  | '\x27' :: rest => readLiteral [] rest
  | _ => none

def digitRun? (isDigit : Char → Bool) : Text → Option (Text × Text)
  | [] => none
  | [c] => if isDigit c then some ([c], []) else none
  | c :: d :: rest =>
    if !isDigit c then none
    else if isDigit d then (digitRun? isDigit (d :: rest)).map fun (ds, after) => (c :: ds, after)
    else if d = '_' then (digitRun? isDigit rest).map fun (ds, after) => (c :: ds, after)
    else some ([c], d :: rest)

def valueOf (radix : Nat) (digits : Text) : Nat :=
  digits.foldl (fun n c => radix * n + (Unicode.hexDigit? c).getD 0) 0

/-- Reads an integer in hexadecimal, octal or binary digits after its two letters. -/
def radixInteger? (radix : Nat) (cs : Text) : Option (Datum × Text) := do
  let (digits, rest) ← digitRun? (fun c => (Unicode.hexDigit? c).any (· < radix)) cs
  let n := valueOf radix digits
  if n < Nat.pow 2 63 then some (.integer n, rest) else none

def splitSign : Text → Option Bool × Text
  | '+' :: rest => (some false, rest)
  | '-' :: rest => (some true, rest)
  | cs => (none, cs)

/-- Reads a whole decimal number; only zero begins with a zero. -/
def decimal? (cs : Text) : Option (Text × Text) :=
  match cs with
  | '0' :: rest => some (['0'], rest)
  | _ => digitRun? Char.isDigit cs

/-- The exponent of a number with its sign; a text without exponent counts as exponent zero. -/
def exponent? (cs : Text) : Option (Int × Bool × Text) :=
  match cs with
  | c :: rest =>
    if c = 'e' || c = 'E' then do
      let (sign, rest) := splitSign rest
      let (digits, rest) ← digitRun? Char.isDigit rest
      let n : Int := valueOf 10 digits
      some (if sign = some true then -n else n, true, rest)
    else some (0, false, cs)
  | [] => some (0, false, [])

def overflowBound : Nat := Nat.pow 2 1024 - Nat.pow 2 970

/-- Whether digits times a power of ten lie beyond the finite binary numbers of 64 bits. -/
def overflows (digits : Text) (exponent : Int) : Bool :=
  let significant := digits.dropWhile (· = '0')
  let places := (significant.length : Int) + exponent
  -- The bounds spare large powers where the number of places decides.
  if significant = [] || places < 300 then false
  else if 320 < places then true
  else
    let n := valueOf 10 significant
    if 0 ≤ exponent then overflowBound ≤ n * Nat.pow 10 exponent.toNat
    else overflowBound * Nat.pow 10 (-exponent).toNat ≤ n

/-- Reads a decimal number. Integers fit into 64 bits; a positive number may not be too large for a binary one. -/
def number? (cs : Text) : Option (Datum × Text) := do
  let (sign, unsigned) := splitSign cs
  if unsigned.take 3 = ['i', 'n', 'f'] ∨ unsigned.take 3 = ['n', 'a', 'n'] then
    return (.real, unsigned.drop 3)
  let (whole, rest) ← decimal? unsigned
  let (fraction, rest) ← match rest with
    | '.' :: rest => (digitRun? Char.isDigit rest).map fun (ds, after) => (some ds, after)
    | _ => some (none, rest)
  let (exponent, hasExponent, rest) ← exponent? rest
  if fraction.isSome || hasExponent then
    let digits := whole ++ fraction.getD []
    if sign ≠ some true && overflows digits (exponent - (fraction.getD []).length) then none
    else return (.real, rest)
  else
    let n := valueOf 10 whole
    if sign = some true then
      if n ≤ Nat.pow 2 63 then return (.integer (-n), rest) else none
    else if n < Nat.pow 2 63 then return (.integer n, rest)
    else none

def fixed? (digits low high : Nat) (cs : Text) : Option (Nat × Text) :=
  let read := cs.take digits
  let n := valueOf 10 read
  if read.length = digits && read.all Char.isDigit && low ≤ n && n ≤ high then some (n, cs.drop digits)
  else none

def char? (c : Char) : Text → Option Text
  | [] => none
  | d :: rest => if c = d then some rest else none

def daysInMonth (year month : Nat) : Nat :=
  if month = 2 then
    if year % 4 = 0 && (year % 100 ≠ 0 || year % 400 = 0) then 29 else 28
  else if [4, 6, 9, 11].contains month then 30
  else 31

def readDate (cs : Text) : Option Text := do
  let (year, rest) ← fixed? 4 0 9999 cs
  let rest ← char? '-' rest
  let (month, rest) ← fixed? 2 1 12 rest
  let rest ← char? '-' rest
  let (_, rest) ← fixed? 2 1 (daysInMonth year month) rest
  some rest

/-- Reads a time of day; a minute may have a leap second. -/
def readTime (cs : Text) : Option Text := do
  let (_, rest) ← fixed? 2 0 23 cs
  let rest ← char? ':' rest
  let (_, rest) ← fixed? 2 0 59 rest
  let rest ← char? ':' rest
  let (_, rest) ← fixed? 2 0 60 rest
  match rest with
  | '.' :: c :: more => if c.isDigit then some (more.dropWhile Char.isDigit) else none
  | ['.'] => none
  | _ => some rest

def readOffset (cs : Text) : Option Text :=
  match cs with
  | c :: rest =>
    if c = 'Z' || c = 'z' then some rest
    else if c = '+' || c = '-' then do
      let (_, rest) ← fixed? 2 0 23 rest
      let rest ← char? ':' rest
      let (_, rest) ← fixed? 2 0 59 rest
      some rest
    else some cs
  | [] => some []

def beginsTime (cs : Text) : Bool :=
  ((fixed? 2 0 23 cs).bind fun r => char? ':' r.2).isSome

def readMoment (cs : Text) : Option (Datum × Text) :=
  if beginsTime cs then (readTime cs).map fun rest => (.moment, rest)
  else do
    let rest ← readDate cs
    match rest with
    | c :: more =>
      if (c = 'T' || c = 't' || c = ' ') && beginsTime more then do
        let rest ← readTime more
        let rest ← readOffset rest
        some (.moment, rest)
      else some (.moment, rest)
    | [] => some (.moment, [])

def beginsDate (cs : Text) : Bool := ((fixed? 4 0 9999 cs).bind fun r => char? '-' r.2).isSome

def readNumeric (cs : Text) : Option (Datum × Text) :=
  if beginsDate cs || beginsTime cs then readMoment cs
  else
    match cs with
    | '0' :: 'x' :: rest => radixInteger? 16 rest
    | '0' :: 'o' :: rest => radixInteger? 8 rest
    | '0' :: 'b' :: rest => radixInteger? 2 rest
    | _ => number? cs

end CredentialGateway.Toml
