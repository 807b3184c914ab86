/-! Punycode: Unicode labels in the letters, digits and hyphens of a host name. -/

namespace CredentialGateway.Url.Punycode

def threshold (k bias : Nat) : Nat :=
  if k ≤ bias + 1 then 1 else if bias + 26 ≤ k then 26 else k - bias

def adaptFrom (delta k : Nat) : Nat :=
  if h : 455 < delta then adaptFrom (delta / 35) (k + 36) else k + 36 * delta / (delta + 38)
  termination_by delta
  decreasing_by omega

def adapt (delta points : Nat) (first : Bool) : Nat :=
  let halved := if first then delta / 700 else delta / 2
  adaptFrom (halved + halved / points) 0

def digitChar (d : Nat) : Char := Char.ofNat (if d < 26 then 97 + d else 22 + d)

def digit? (c : Char) : Option Nat :=
  if c.isDigit then some (c.toNat - 22)
  else if c.isLower then some (c.toNat - 97)
  else if c.isUpper then some (c.toNat - 65)
  else none

def digits (q k bias : Nat) : List Char :=
  let t := threshold k bias
  if h : q < t then [digitChar q]
  else digitChar (t + (q - t) % (36 - t)) :: digits ((q - t) / (36 - t)) (k + 36) bias
  termination_by q
  decreasing_by
    have h1 : 1 ≤ threshold k bias ∧ threshold k bias ≤ 26 := by
      unfold threshold
      split
      · omega
      · split <;> omega
    have h2 : (q - threshold k bias) / (36 - threshold k bias) ≤ q - threshold k bias := Nat.div_le_self _ _
    omega

structure Encoder where
  next : Nat
  delta : Nat
  bias : Nat
  done : Nat
  output : List Char

/-- Passes over the label once for the code point `m`. -/
def Encoder.pass (label : List Nat) (basic : Nat) (e : Encoder) (m : Nat) : Encoder :=
  let start := { e with delta := e.delta + (m - e.next) * (e.done + 1), next := m }
  let passed := label.foldl (fun s c =>
    if c < m then { s with delta := s.delta + 1 }
    else if c = m then
      { s with
        output := s.output ++ digits s.delta 36 s.bias
        bias := adapt s.delta (s.done + 1) (s.done == basic)
        delta := 0
        done := s.done + 1 }
    else s) start
  { passed with delta := passed.delta + 1, next := m + 1 }

def encode (label : List Char) : List Char :=
  let codes := label.map Char.toNat
  let basic := label.filter fun c => c.toNat < 128
  let others := ((codes.filter fun c => 128 ≤ c).mergeSort).eraseDups
  let head := if basic = [] then [] else basic ++ ['-']
  head ++ (others.foldl (Encoder.pass codes basic.length) ⟨128, 0, 72, basic.length, []⟩).output

structure Decoder where
  next : Nat
  index : Nat
  bias : Nat
  output : List Nat
  start : Nat
  weight : Nat
  position : Nat

def Decoder.step (s : Decoder) (c : Char) : Option Decoder := do
  let d ← digit? c
  let index := s.index + d * s.weight
  let t := threshold s.position s.bias
  if 0xffffffff < index then none
  else if t ≤ d then
    some { s with index, weight := s.weight * (36 - t), position := s.position + 36 }
  else
    let points := s.output.length + 1
    let code := s.next + index / points
    if 0x10ffff < code ∨ (0xd800 ≤ code ∧ code < 0xe000) then none
    else
      some
        { next := code
          index := index % points + 1
          bias := adapt (index - s.start) points (s.start == 0)
          output := s.output.insertIdx (index % points) code
          start := index % points + 1
          weight := 1
          position := 36 }

def splitBasic (cs : List Char) : List Char × List Char :=
  let tail := (cs.reverse.takeWhile (· ≠ '-')).reverse
  let head := cs.take (cs.length - tail.length)
  if head.length ≤ 1 then ([], cs) else (head.dropLast, tail)

def decode? (cs : List Char) : Option (List Char) := do
  let (basic, rest) := splitBasic cs
  let s ← rest.foldlM Decoder.step ⟨128, 0, 72, basic.map Char.toNat, 0, 1, 36⟩
  if s.position = 36 then some (s.output.map Char.ofNat) else none

end CredentialGateway.Url.Punycode
