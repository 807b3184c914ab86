import CredentialGateway.Unicode.Range

/-! Internet addresses: IPv4 as one to four numbers or in strict dotted form, IPv6 as groups of hexadecimal digits. -/

namespace CredentialGateway.Url.Address

def ofRadix? (radix : Nat) (cs : List Char) : Option Nat :=
  cs.foldlM (fun n c => do
    let d ← Unicode.hexDigit? c
    if d < radix then some (radix * n + d) else none) 0

/-- A number of an IPv4 address: hexadecimal after `0x`, octal after another leading zero, else decimal. -/
def number? : List Char → Option Nat
  | [] => none
  | '0' :: c :: rest => if c = 'x' || c = 'X' then ofRadix? 16 rest else ofRadix? 8 (c :: rest)
  | cs => ofRadix? 10 cs

def hostParts (cs : List Char) : List (List Char) :=
  let parts := cs.splitOn '.'
  if parts.getLast? = some [] then parts.dropLast else parts

/-- A host whose last part is a number can only be an IPv4 address. -/
def endsInNumber (cs : List Char) : Bool :=
  match (hostParts cs).getLast? with
  | none => false
  | some last => (last ≠ [] && last.all Char.isDigit) || (number? last).isSome

/-- Reads an IPv4 address; its last number fills all bytes that the numbers before it leave. -/
def ipv4? (cs : List Char) : Option Nat := do
  let numbers ← (hostParts cs).mapM number?
  let last ← numbers.getLast?
  let leading := numbers.dropLast
  if leading.length ≤ 3 ∧ leading.all (· ≤ 255) ∧ last < Nat.pow 256 (4 - leading.length) then
    some (leading.foldl (fun n b => 256 * n + b) 0 * Nat.pow 256 (4 - leading.length) + last)
  else none

def octet? (cs : List Char) : Option Nat := do
  let n ← ofRadix? 10 cs
  if cs = [] ∨ 3 < cs.length ∨ (cs.head? = some '0' ∧ cs.length ≠ 1) ∨ 255 < n then none else some n

def dotted? (cs : List Char) : Option Nat :=
  match (cs.splitOn '.').mapM octet? with
  | some [a, b, c, d] => some (((a * 256 + b) * 256 + c) * 256 + d)
  | _ => none

def group? (cs : List Char) : Option Nat :=
  if cs = [] ∨ 4 < cs.length then none else ofRadix? 16 cs

def groups? (cs : List Char) : Option (List Nat) :=
  if cs = [] then some [] else (cs.splitOn ':').mapM group?

/-- Groups of which the last two may be written as a dotted IPv4 address. -/
def lastGroups? (cs : List Char) : Option (List Nat) :=
  if cs = [] then some []
  else do
    let items := cs.splitOn ':'
    let leading ← items.dropLast.mapM group?
    let last ← items.getLast?
    match dotted? last with
    | some n => some (leading ++ [n / 65536, n % 65536])
    | none => (group? last).map fun g => leading ++ [g]

def splitDouble? : List Char → Option (List Char × List Char)
  | [] => none
  | ':' :: ':' :: rest => some ([], rest)
  | c :: rest => (splitDouble? rest).map fun (a, b) => (c :: a, b)

/-- Reads an IPv6 address as its eight groups; a double colon stands for at least one group of zeros. -/
def ipv6? (cs : List Char) : Option (List Nat) :=
  match splitDouble? cs with
  | some (head, tail) => do
    let a ← groups? head
    let b ← lastGroups? tail
    if a.length + b.length ≤ 7 then some (a ++ List.replicate (8 - a.length - b.length) 0 ++ b) else none
  | none => do
    let groups ← lastGroups? cs
    if groups.length = 8 then some groups else none

def ipv4Chars (n : Nat) : List Char :=
  ['.'].intercalate ([n / 16777216, n / 65536 % 256, n / 256 % 256, n % 256].map (Nat.toDigits 10))

def zeroRun (groups : List Nat) : Nat := (groups.takeWhile (· = 0)).length

def longestRun (groups : List Nat) : Nat × Nat :=
  (List.range groups.length).foldl (fun best i =>
    if best.2 < zeroRun (groups.drop i) then (i, zeroRun (groups.drop i)) else best) (0, 0)

def groupChars (groups : List Nat) : List Char := [':'].intercalate (groups.map (Nat.toDigits 16))

def ipv6Chars (groups : List Nat) : List Char :=
  let (i, n) := longestRun groups
  if n ≤ 1 then groupChars groups
  else groupChars (groups.take i) ++ [':', ':'] ++ groupChars (groups.drop (i + n))

end CredentialGateway.Url.Address
