import CredentialGateway.Unicode.NormalTable
import CredentialGateway.Unicode.Range

/-! Canonical decomposition and composition of characters: Normalization Form C. -/

namespace CredentialGateway.Unicode

structure Decomposition where
  char : Nat
  composes : Bool
  parts : List Nat

def decompositions : Array Decomposition :=
  ((rows decompositionText).filterMap fun
    | c :: k :: parts => some ⟨c, k == 1, parts⟩
    | _ => none).toArray

def combiningClasses : Array (Nat × Nat × Nat) :=
  ((rows combiningClassText).filterMap fun
    | [a, b, k] => some (a, b, k)
    | _ => none).toArray

def combiningClass (c : Nat) : Nat :=
  match combiningClasses.find? fun (a, b, _) => a ≤ c && c ≤ b with
  | some (_, _, k) => k
  | none => 0

def syllableParts (c : Nat) : List Nat :=
  let s := c - 0xac00
  let vowel := [0x1100 + s / 588, 0x1161 + s % 588 / 28]
  if s % 28 = 0 then vowel else vowel ++ [0x11a7 + s % 28]

/-- Full decomposition; no character decomposes in more steps than `depth` at its call below. -/
def decomposeChar : Nat → Nat → List Nat
  | 0, c => [c]
  | depth + 1, c =>
    if 0xac00 ≤ c ∧ c < 0xd7a4 then syllableParts c
    else
      match decompositions.find? fun d => d.char == c with
      | some d => d.parts.flatMap (decomposeChar depth)
      | none => [c]

/-- Puts a character behind all whose class is not greater, within the run of marks that ends the reversed text. -/
def insertMark (c : Nat) : List Nat → List Nat
  | [] => [c]
  | d :: rest =>
    if combiningClass c ≠ 0 ∧ combiningClass c < combiningClass d then d :: insertMark c rest
    else c :: d :: rest

def canonicalOrder (cs : List Nat) : List Nat :=
  (cs.foldl (fun reversed c => insertMark c reversed) []).reverse

def composePair (a b : Nat) : Option Nat :=
  if 0x1100 ≤ a ∧ a < 0x1113 ∧ 0x1161 ≤ b ∧ b < 0x1176 then
    some (0xac00 + (a - 0x1100) * 588 + (b - 0x1161) * 28)
  else if 0xac00 ≤ a ∧ a < 0xd7a4 ∧ (a - 0xac00) % 28 = 0 ∧ 0x11a7 < b ∧ b < 0x11c3 then
    some (a + (b - 0x11a7))
  else
    (decompositions.find? fun d => d.composes && d.parts == [a, b]).map Decomposition.char

/-- Composition from left to right: `starter` is the last character of class 0, `marks` the reversed marks after it. -/
def composeFrom (starter : Option Nat) (marks : List Nat) : List Nat → List Nat
  | [] => starter.toList ++ marks.reverse
  | c :: rest =>
    let free := marks.isEmpty || (marks.head?.map combiningClass).getD 0 < combiningClass c
    match starter.bind fun s => if free then composePair s c else none with
    | some p => composeFrom (some p) marks rest
    | none =>
      if combiningClass c = 0 then starter.toList ++ marks.reverse ++ composeFrom (some c) [] rest
      else composeFrom starter (c :: marks) rest

/-- Normalization Form C. ASCII is left as it is. -/
def normalize (cs : List Char) : List Char :=
  if cs.all fun c => c.toNat < 0x80 then cs
  else
    let codes := canonicalOrder (cs.flatMap fun c => decomposeChar 8 c.toNat)
    (composeFrom none [] codes).map Char.ofNat

end CredentialGateway.Unicode
