import CredentialGateway.Datum
import CredentialGateway.Log.Filter
import CredentialGateway.Text.Quoted

/-! Log records, and the two forms in which they are written. -/

namespace CredentialGateway.Log

/-- What a field holds. A text is written as it is, a literal between quotes where the form is for people. -/
inductive Field
  | text (s : String)
  | literal (s : String)
  | number (n : Nat)
  | flag (b : Bool)
  deriving DecidableEq, Repr

namespace Field

def shown : Field → String
  | text s => s
  | literal s => Text.quoted s
  | number n => toString n
  | flag b => if b then "true" else "false"

def encode : Field → Datum
  | text s | literal s => .text s
  | number n => .ofNat n
  | flag b => .bool b

end Field

structure Record where
  level : Level
  target : String
  message : String
  fields : List (String × Field)
  deriving DecidableEq, Repr

namespace Record

def line (r : Record) : String :=
  r.level.name ++ " " ++ r.target ++ ": " ++
    " ".intercalate (r.message :: r.fields.map fun f => f.1 ++ "=" ++ f.2.shown)

def encodeFields (r : Record) : Datum :=
  .table (("message", .text r.message) :: r.fields.map fun f => (f.1, f.2.encode))

def fieldNames (r : Record) : List String := "message" :: r.fields.map Prod.fst

end Record

def Filter.select (f : Filter) (rs : List Record) : List Record :=
  rs.filter fun r => f.passes r.level r.target r.fieldNames

end CredentialGateway.Log
