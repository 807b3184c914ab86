import CredentialGateway.Http.Header

/-! Request methods. Their case matters. -/

namespace CredentialGateway.Http

structure Method where
  token : String
  deriving DecidableEq, Repr

namespace Method

def parse? (s : String) : Option Method :=
  if s ≠ "" ∧ s.toList.all isTokenChar then some ⟨s⟩ else none

def get : Method := ⟨"GET"⟩
def head : Method := ⟨"HEAD"⟩
def post : Method := ⟨"POST"⟩

end Method
end CredentialGateway.Http
