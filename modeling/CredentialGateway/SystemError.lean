import CredentialGateway.Text.Quoted

/-! Failures that the operating system reports, by the names and numbers that it has for them. -/

namespace CredentialGateway

inductive SystemError
  | notFound
  | permissionDenied
  | notADirectory
  | isADirectory
  | addressInUse
  | addressNotAvailable
  deriving DecidableEq, Repr

namespace SystemError

def code : SystemError → Nat
  | notFound => 2
  | permissionDenied => 13
  | notADirectory => 20
  | isADirectory => 21
  | addressInUse => 98
  | addressNotAvailable => 99

def kind : SystemError → String
  | notFound => "NotFound"
  | permissionDenied => "PermissionDenied"
  | notADirectory => "NotADirectory"
  | isADirectory => "IsADirectory"
  | addressInUse => "AddrInUse"
  | addressNotAvailable => "AddrNotAvailable"

def reason : SystemError → String
  | notFound => "No such file or directory"
  | permissionDenied => "Permission denied"
  | notADirectory => "Not a directory"
  | isADirectory => "Is a directory"
  | addressInUse => "Address already in use"
  | addressNotAvailable => "Cannot assign requested address"

def message (e : SystemError) : String := e.reason ++ " (os error " ++ toString e.code ++ ")"

def shown (e : SystemError) : String :=
  Text.shownRecord "Os" [("code", toString e.code), ("kind", e.kind), ("message", Text.quoted e.reason)]

end SystemError
end CredentialGateway
