import CredentialGateway.Unicode.DomainTable
import CredentialGateway.Unicode.LabelTable
import CredentialGateway.Unicode.Normal
import CredentialGateway.Url.Punycode

/-! Domain names in the letters of any script, and the ASCII form that stands for them: characters are mapped,
normalized and checked, and each label that is not ASCII is written in Punycode. -/

namespace CredentialGateway.Url.Domain
open Unicode

def runRows : Array (Nat × Nat × Nat × Nat × Nat) :=
  ((rows domainRunText).filterMap fun
    | [first, last, step, stride, image] => some (first, last, step, stride, image)
    | _ => none).toArray

def sequenceRows : Array (Nat × List Nat) :=
  ((rows domainSequenceText).filterMap fun
    | c :: images => some (c, images)
    | [] => none).toArray

def ignoredRanges : List (Nat × Nat) := ranges domainIgnoredText
def forbiddenRanges : List (Nat × Nat) := ranges domainForbiddenText

/-- What stands for a character in a domain name; no answer if nothing may. -/
def mapChar (c : Char) : Option (List Char) :=
  if c.toNat < 0x80 then some [c.toLower]
  else
    match runRows.find? fun (first, last, step, _, _) =>
        first ≤ c.toNat && c.toNat ≤ last && (c.toNat - first) % step == 0 with
    | some (first, _, step, stride, image) => some [Char.ofNat (image + (c.toNat - first) / step * stride)]
    | none =>
      match sequenceRows.find? fun r => r.1 == c.toNat with
      | some (_, images) => some (images.map Char.ofNat)
      | none =>
        if inRanges ignoredRanges c then some []
        else if inRanges forbiddenRanges c then none
        else some [c]

def mapText (cs : List Char) : Option (List Char) := do
  let mapped ← cs.mapM mapChar
  some (normalize mapped.flatten)

def isForbiddenAscii (c : Char) : Bool :=
  c.toNat ≤ 0x20 || c.toNat = 0x7f || "%#/:<>?@[\\]^|".toList.contains c

inductive Direction
  | left | right | arabicLetter | europeanDigit | europeanSeparator | europeanTerminator | arabicDigit
  | commonSeparator | nonspacing | boundary | neutral | other
  deriving DecidableEq

def directionRanges : List (Direction × List (Nat × Nat)) :=
  [(.right, ranges rightToLeftText), (.arabicLetter, ranges arabicLetterText),
    (.europeanDigit, ranges europeanDigitText), (.europeanSeparator, ranges europeanSeparatorText),
    (.europeanTerminator, ranges europeanTerminatorText), (.arabicDigit, ranges arabicDigitText),
    (.commonSeparator, ranges commonSeparatorText), (.nonspacing, ranges nonspacingText),
    (.boundary, ranges boundaryText), (.neutral, ranges neutralText), (.other, ranges otherDirectionText)]

def direction (c : Char) : Direction :=
  match directionRanges.find? fun d => inRanges d.2 c with
  | some d => d.1
  | none => .left

def isRightward (d : Direction) : Bool := d = .right || d = .arabicLetter || d = .arabicDigit

def allowedBoth (d : Direction) : Bool :=
  [Direction.europeanDigit, .europeanSeparator, .europeanTerminator, .commonSeparator, .nonspacing, .boundary,
    .neutral].contains d

def directionRule (label : List Char) : Bool :=
  let ds := label.map direction
  let last := (ds.reverse.dropWhile (· = .nonspacing)).head?
  match ds.head? with
  | none => true
  | some d =>
    if d = .right || d = .arabicLetter then
      ds.all (fun d => allowedBoth d || isRightward d) &&
        (match last with
          | some d => isRightward d || d = .europeanDigit
          | none => false) &&
        !(ds.contains .europeanDigit && ds.contains .arabicDigit)
    else if d = .left then
      ds.all (fun d => allowedBoth d || d = .left) &&
        (match last with
          | some d => d = .left || d = .europeanDigit
          | none => false)
    else false

def leftJoiningRanges : List (Nat × Nat) := ranges leftJoiningText ++ ranges dualJoiningText
def rightJoiningRanges : List (Nat × Nat) := ranges rightJoiningText ++ ranges dualJoiningText
def transparentRanges : List (Nat × Nat) := ranges transparentText
def markRanges : List (Nat × Nat) := ranges markText

/-- Whether joiners stand only where they have an effect; `before` is the reversed text before the rest. -/
def joinersFit (before : List Char) : List Char → Bool
  | [] => true
  | c :: rest =>
    let afterVirama := match before with
      | p :: _ => combiningClass p.toNat == 9
      | [] => false
    let joins := match (before.dropWhile (inRanges transparentRanges)).head?,
        (rest.dropWhile (inRanges transparentRanges)).head? with
      | some p, some n => inRanges leftJoiningRanges p && inRanges rightJoiningRanges n
      | _, _ => false
    (if c.toNat = 0x200c then afterVirama || joins
      else if c.toNat = 0x200d then afterVirama
      else true) && joinersFit (c :: before) rest

def isAscii (cs : List Char) : Bool := cs.all fun c => c.toNat < 0x80

def readLabel (label : List Char) : Option (List Char) :=
  match label with
  | 'x' :: 'n' :: '-' :: '-' :: rest => do
    let decoded ← if isAscii rest then Punycode.decode? rest else none
    -- Punycode is refused where it is not needed, and where it hides what would have been mapped.
    if isAscii decoded || mapText decoded != some decoded then none else some decoded
  | _ => some label

def labelFits (label : List Char) : Bool :=
  label.all (fun c => !(c.toNat < 0x80 && isForbiddenAscii c)) &&
    (match label with
      | c :: _ => !inRanges markRanges c
      | [] => true) &&
    joinersFit [] label

def writeLabel (label : List Char) : List Char :=
  if isAscii label then label else "xn--".toList ++ Punycode.encode label

def toAscii? (cs : List Char) : Option (List Char) := do
  let labels ← ((← mapText cs).splitOn '.').mapM readLabel
  -- One label with letters from right to left brings all labels under the rule.
  let bidirectional := labels.any fun l => !isAscii l && l.any fun c => isRightward (direction c)
  if labels.all labelFits && (!bidirectional || labels.all directionRule) then
    some (['.'].intercalate (labels.map writeLabel))
  else none

end CredentialGateway.Url.Domain
