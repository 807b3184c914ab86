import CredentialGateway.Bytes
import CredentialGateway.Config.Decode
import CredentialGateway.Config.Validation
import CredentialGateway.SystemError
import CredentialGateway.Toml.Document

/-! Loading a configuration from a TOML text or file. -/

namespace CredentialGateway.Config

abbrev File := Except SystemError Bytes

inductive FileError
  | system (e : SystemError)
  | notText
  deriving DecidableEq, Repr

namespace FileError

def notTextReason : String := "stream did not contain valid UTF-8"

def message : FileError → String
  | system e => e.message
  | notText => notTextReason

def shown : FileError → String
  | system e => e.shown
  | notText => Text.shownRecord "Error" [("kind", "InvalidData"), ("message", Text.quoted notTextReason)]

end FileError

inductive LoadError
  | file (e : FileError)
  | malformed
  | invalid (violations : List Violation)
  deriving DecidableEq, Repr

namespace LoadError

/-- The text of an error; what is wrong with a malformed text is not told. -/
def message : LoadError → String
  | file e => "IO error: " ++ e.message
  | malformed => "Parse error"
  | invalid vs => "Validation failed: " ++ ", ".intercalate (vs.map Violation.message)

def shown : LoadError → String
  | file e => "Io(" ++ e.shown ++ ")"
  | malformed => "Parse"
  | invalid vs => "Validation([" ++ ", ".intercalate (vs.map Violation.shown) ++ "])"

end LoadError

def parse (toml : String) : Except LoadError Config :=
  match (Toml.parse? toml).bind (decode? .toml) with
  | none => .error .malformed
  | some c => if c.violations = [] then .ok c else .error (.invalid c.violations)

def File.text : File → Except FileError String
  | .error e => .error (.system e)
  | .ok bytes =>
    match Bytes.text? bytes with
    | some s => .ok s
    | none => .error .notText

def load (f : File) : Except LoadError Config :=
  match File.text f with
  | .error e => .error (.file e)
  | .ok s => parse s

end CredentialGateway.Config
