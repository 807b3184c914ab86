import CredentialGateway.Unicode.PrintTable
import CredentialGateway.Unicode.Range

/-! Texts between double quotes, for people to read: controls and everything without a printed form of its own are
escaped. -/

namespace CredentialGateway.Text

def hexText (n : Nat) : List Char := Nat.toDigits 16 n

def codeEscape (c : Char) : List Char :=
  "\\u\x7b".toList ++ hexText c.toNat ++ ['\x7d']

def isPlain (c : Char) : Bool :=
  if c.toNat < 0x80 then 0x20 ≤ c.toNat && c.toNat < 0x7f
  else !Unicode.inRanges Unicode.extenderRanges c && !Unicode.inRanges Unicode.hiddenRanges c

def quotedChar (c : Char) : List Char :=
  if c = '\x22' then "\\\"".toList
  else if c = '\\' then "\\\\".toList
  else if c = '\t' then "\\t".toList
  else if c = '\n' then "\\n".toList
  else if c = '\r' then "\\r".toList
  else if c.toNat = 0 then "\\0".toList
  else if isPlain c then [c]
  else codeEscape c

def quoted (s : String) : String :=
  String.ofList ('\x22' :: s.toList.flatMap quotedChar ++ ['\x22'])

def shownOption (o : Option String) : String :=
  match o with
  | none => "None"
  | some s => "Some(" ++ s ++ ")"

def shownRecord (name : String) (fields : List (String × String)) : String :=
  name ++ " \x7b " ++ ", ".intercalate (fields.map fun f => f.1 ++ ": " ++ f.2) ++ " \x7d"

end CredentialGateway.Text
