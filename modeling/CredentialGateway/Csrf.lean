import CredentialGateway.ProxyError
import CredentialGateway.Unicode.Blank

/-! CSRF tokens with the cookies that bind them to a session, and the store that keeps one per endpoint. -/

namespace CredentialGateway

structure CsrfToken where
  token : String
  cookies : List String
  deriving DecidableEq, Repr

namespace CsrfToken
open Http

/-- The Cookie values of a caller that read as text and are not blank, without blanks at their ends. -/
def callerCookies (h : Headers) : List String :=
  ((h.all .cookie).filterMap HeaderValue.chars?).filterMap fun cs =>
    let trimmed := Unicode.trim cs
    if trimmed = [] then none else some (String.ofList trimmed)

/-- Writes the token onto a request and adds the cookies after those of the caller. What was changed before an error
stays. -/
def apply (t : CsrfToken) (h : Headers) : Headers × Except CsrfError Unit :=
  match HeaderValue.ofText? t.token with
  | none => (h, .error .invalidHeader)
  | some token =>
    let h := h.set .csrfToken token
    if t.cookies = [] then (h, .ok ())
    else
      -- All Cookie values are replaced by one, also those that did not read as text.
      match HeaderValue.ofText? ("; ".intercalate (callerCookies h ++ t.cookies)) with
      | none => (h, .error .invalidHeader)
      | some cookies => (h.set .cookie cookies, .ok ())

/-- The name and value of a cookie that a response sets, without its attributes. -/
def cookieOf (v : HeaderValue) : Option String := do
  let cs ← v.chars?
  let trimmed := Unicode.trim (cs.takeWhile (· ≠ ';'))
  if trimmed = [] then none else some (String.ofList trimmed)

def ofHeaders? (h : Headers) : Option CsrfToken := do
  let token ← (h.get? .csrfToken).bind HeaderValue.text?
  if token = "" then none else some ⟨token, (h.all .setCookie).filterMap cookieOf⟩

end CsrfToken

structure CsrfStore where
  entries : List (String × CsrfToken)
  deriving DecidableEq, Repr

namespace CsrfStore

def empty : CsrfStore := ⟨[]⟩

def get? (s : CsrfStore) (url : String) : Option CsrfToken :=
  (s.entries.find? fun e => e.1 == url).map Prod.snd

def erase (s : CsrfStore) (url : String) : CsrfStore := ⟨s.entries.filter fun e => e.1 != url⟩

def insert (s : CsrfStore) (url : String) (t : CsrfToken) : CsrfStore := ⟨(s.erase url).entries ++ [(url, t)]⟩

end CsrfStore
end CredentialGateway
