import CredentialGateway.Service
import CredentialGateway.Unicode.LowerCase

/-! The directory of services, keyed by lower-case ids as hosts name them. -/

namespace CredentialGateway

inductive LookupError
  | notFound (id : String)
  | unavailable (reason : String)
  | unusable (reason : String)
  deriving DecidableEq, Repr

def LookupError.message : LookupError → String
  | notFound id => "service '" ++ id ++ "' not found"
  | unavailable reason => "metadata store unavailable: " ++ reason
  | unusable reason => "internal metadata error: " ++ reason

structure Directory where
  entries : List (String × ServiceDefinition)
  deriving DecidableEq, Repr

namespace Directory

def empty : Directory := ⟨[]⟩

def insert (d : Directory) (key : String) (definition : ServiceDefinition) : Directory :=
  ⟨(d.entries.filter fun e => e.1 != key) ++ [(key, definition)]⟩

/-- Of two services with one key the later is kept. -/
def ofServices (services : List Service) : Directory :=
  services.foldl (fun d s => d.insert (Unicode.lowerText s.id) s.definition) empty

def get? (d : Directory) (key : String) : Option ServiceDefinition :=
  (d.entries.find? fun e => e.1 == key).map Prod.snd

def lookup (d : Directory) (key : String) : Except LookupError ServiceDefinition :=
  match d.get? key with
  | some definition => .ok definition
  | none => .error (.notFound key)

def size (d : Directory) : Nat := d.entries.length

end Directory
end CredentialGateway
