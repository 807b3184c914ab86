/-! Numbers rounded to 53 significant bits, and the shortest decimal that rounds to such a number. Numbers are counted
in units of 2⁻⁹⁰, which is fine enough for every duration. -/

namespace CredentialGateway.Decimal

def unit : Nat := Nat.pow 2 90

/-- The nearest integer to a quotient; a half goes to the even neighbour. -/
def roundHalfEven (num den : Nat) : Nat :=
  let q := num / den
  let r := num % den
  if 2 * r < den ∨ (2 * r = den ∧ q % 2 = 0) then q else q + 1

def lastBit (n : Nat) : Nat := Nat.log2 n - 52

def round53 (num den : Nat) : Nat :=
  let s := lastBit (num / den)
  roundHalfEven num (den * Nat.pow 2 s) * Nat.pow 2 s

/-- Four times the bounds between which all decimals round to `n`, and whether the bounds themselves do. -/
def rounding (n : Nat) : Nat × Nat × Bool :=
  let s := lastBit n
  let m := n / Nat.pow 2 s
  -- Below a power of two the numbers lie twice as close.
  (4 * n - (if m = Nat.pow 2 52 then Nat.pow 2 s else 2 * Nat.pow 2 s), 4 * n + 2 * Nat.pow 2 s, m % 2 == 0)

/-- The multiple of `num / den` next to `n` that rounds to `n`, if there is one. Of two that are equally near, the larger
one. -/
def onGrid? (n num den : Nat) : Option Nat :=
  let (low, high, closed) := rounding n
  let fits := fun k =>
    let v := 4 * k * num
    if closed then low * den ≤ v && v ≤ high * den else low * den < v && v < high * den
  let k := n * den / num
  let below := fits k
  let above := fits (k + 1)
  -- A multiple that does not round back is no candidate, even if it is the nearer one.
  if below && above then some (if 2 * n * den < (2 * k + 1) * num then k else k + 1)
  else if below then some k
  else if above then some (k + 1)
  else none

/-- The coarsest power of ten, from 10 ^ `e` - 30 downwards, of which a multiple rounds to `n`, and that multiple. -/
def coarsest (n : Nat) : Nat → Nat × Nat
  | 0 => (0, 0)
  | e + 1 =>
    match onGrid? n (Nat.pow 10 e * unit) (Nat.pow 10 30) with
    | some k => (k, e)
    | none => coarsest n e

def positional (k e : Nat) : String :=
  if 30 ≤ e then String.ofList (Nat.toDigits 10 (k * Nat.pow 10 (e - 30)))
  else
    let places := 30 - e
    let fraction := Nat.toDigits 10 (k % Nat.pow 10 places)
    String.ofList
      (Nat.toDigits 10 (k / Nat.pow 10 places) ++ '.' :: List.replicate (places - fraction.length) '0' ++ fraction)

def shortest (n : Nat) : String :=
  if n = 0 then "0" else let (k, e) := coarsest n 52; positional k e

/-- The sum of seconds and nanoseconds, with each step rounded to 53 significant bits. -/
def seconds (secs nanos : Nat) : String :=
  shortest (round53 (round53 (secs * unit) 1 + round53 (nanos * unit) 1000000000) 1)

end CredentialGateway.Decimal
