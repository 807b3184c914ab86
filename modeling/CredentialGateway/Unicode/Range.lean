/-! Sets of characters given by ranges of code points, and the reading of tables that are written as text. -/

namespace CredentialGateway.Unicode

def inRanges (ranges : List (Nat × Nat)) (c : Char) : Bool :=
  ranges.any fun r => r.1 ≤ c.toNat && c.toNat ≤ r.2

def hexDigit? (c : Char) : Option Nat :=
  if '0' ≤ c ∧ c ≤ '9' then some (c.toNat - 48)
  else if 'a' ≤ c ∧ c ≤ 'f' then some (c.toNat - 87)
  else if 'A' ≤ c ∧ c ≤ 'F' then some (c.toNat - 55)
  else none

def ofHex (cs : List Char) : Nat :=
  cs.foldl (fun n c => 16 * n + (hexDigit? c).getD 0) 0

def words (cs : List Char) : List (List Char) :=
  ((cs.map fun c => if c = '\n' then ' ' else c).splitOn ' ').filter (· ≠ [])

/-- The rows of a table: semicolons part rows, blanks and line ends part the hexadecimal numbers of a row. -/
def rows (table : String) : List (List Nat) :=
  (table.toList.splitOn ';').map fun row => (words row).map ofHex

/-- The ranges of a table whose rows are single code points or pairs of ends. -/
def ranges (table : String) : List (Nat × Nat) :=
  (rows table).filterMap fun
    | [a] => some (a, a)
    | [a, b] => some (a, b)
    | _ => none

end CredentialGateway.Unicode
