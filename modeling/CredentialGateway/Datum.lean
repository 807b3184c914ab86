/-! Trees of data, as JSON and TOML texts hold them. -/

namespace CredentialGateway

/-- A table keeps its keys in the order of the text. -/
inductive Datum
  | null
  | bool (b : Bool)
  | integer (n : Int)
  | real
  | moment
  | text (s : String)
  | list (items : List Datum)
  | table (fields : List (String × Datum))
  deriving Inhabited, Repr

namespace Datum

def ofNat (n : Nat) : Datum := .integer n

def ofOption {α : Type} (f : α → Datum) : Option α → Datum
  | none => .null
  | some a => f a

/-- The value of a key in a list of fields. A key that occurs again takes the place of the earlier one. -/
def field? (fields : List (String × Datum)) (key : String) : Option Datum :=
  (fields.reverse.find? fun f => f.1 == key).map Prod.snd

def get? (d : Datum) (key : String) : Option Datum :=
  match d with
  | table fields => field? fields key
  | _ => none

def text? : Datum → Option String
  | text s => some s
  | _ => none

def nat? : Datum → Option Nat
  | integer (.ofNat n) => some n
  | _ => none

def bool? : Datum → Option Bool
  | bool b => some b
  | _ => none

def list? : Datum → Option (List Datum)
  | list items => some items
  | _ => none

end Datum
end CredentialGateway
