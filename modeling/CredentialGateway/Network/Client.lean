import CredentialGateway.Network.Basic
import CredentialGateway.Url.Parse

/-! Calls of an HTTP client. User info of a URL becomes Basic credentials, `accept` is added where it is missing, and a
call that is to follow redirects does so up to a limit within one deadline. -/

namespace CredentialGateway

open Http

inductive CallError
  | unreadable
  | unusable (url : Url)
  | failed (url : Url) (timedOut : Bool)
  | tooManyRedirects (url : Url)
  deriving DecidableEq, Repr

namespace CallError

def message : CallError → String
  | unreadable => "builder error"
  | unusable url => "builder error for url (" ++ url.text ++ ")"
  | failed url _ => "error sending request for url (" ++ url.text ++ ")"
  | tooManyRedirects url => "error following redirect for url (" ++ url.text ++ ")"

def isTimeout : CallError → Bool
  | failed _ timedOut => timedOut
  | _ => false

end CallError

structure Call where
  method : Method
  url : Url
  headers : Headers
  body : Bytes
  deriving Repr

namespace Call

def basicValue (username password : String) : HeaderValue :=
  HeaderValue.hidden ⟨Bytes.ofChars ("Basic ".toList ++ Bytes.base64 (Bytes.ofText (username ++ ":" ++ password))), false⟩

/-- Takes the user info off a URL, and gives the credentials that it holds. User info that is no text stays. -/
def splitUserInfo (u : Url) : Url × Option HeaderValue :=
  match u.authority with
  | none => (u, none)
  | some a =>
    match Bytes.text? (Url.percentDecode a.username) with
    | none => (u, none)
    | some username =>
      let password := if a.password = [] then none else Bytes.text? (Url.percentDecode a.password)
      if username = "" ∧ password = none then (u, none)
      else (u.withoutUserInfo, some (basicValue username (password.getD "")))

def urlHeaders (credentials : Option HeaderValue) : Headers :=
  ⟨(credentials.map fun v => (HeaderName.authorization, v)).toList⟩

def anything : HeaderValue := ⟨Bytes.ofText "*/*", false⟩

def withAccept (h : Headers) : Headers := if h.contains .accept then h else h.add .accept anything

def isWeb (u : Url) : Bool := u.scheme == "http".toList || u.scheme == "https".toList

def isUsable (u : Url) : Bool := isWeb u && (RequestUri.parse? u.text).isSome

def sent (c : Call) : Sent where
  method := c.method.token
  host := (c.url.authority.map Url.Authority.hostPort).getD []
  target := c.url.target
  headers := (c.headers.erase .host).erase .contentLength
  body := c.body

/-- Sends one request, unless the deadline has come already. It fails for lack of a connection at once, by a reset when
that comes, and at the deadline otherwise; the error tells whether it was the deadline. -/
def exchange (n : Network) (deadline : Nat) (c : Call) (w : World) : Except Bool Received × World :=
  if deadline ≤ w.clock then (.error true, w)
  else if !n.connects c.url then (.error false, w)
  else
    let r := n.reply w.sent c.sent
    let w := w.record c.sent
    -- A reply that comes at the deadline comes too late.
    if deadline ≤ w.clock + r.delay then (.error true, w.waitUntil deadline)
    else
      let w := w.advance r.delay
      if r.reset then (.error false, w)
      else if expectsBody c.method.token r.status then (.ok ⟨r.status, r.headers, r.body, r.cut, deadline⟩, w)
      else (.ok ⟨r.status, r.headers, [], none, deadline⟩, w)

def send (n : Network) (deadline : Nat) (c : Call) (w : World) : Except CallError Received × World :=
  if !isUsable c.url then (.error (.unusable c.url), w)
  else
    match exchange n deadline c w with
    | (.error timedOut, w) => (.error (.failed c.url timedOut), w)
    | (.ok r, w) => (.ok r, w)

def isRedirect (status : Nat) : Bool := [301, 302, 303, 307, 308].contains status

/-- Where a response redirects to. A location that is no URL is none. -/
def redirectOf (c : Call) (r : Received) : Option Url := do
  let location ← r.headers.get? .location
  let text ← Bytes.text? location.bytes
  match c.url.resolve text with
  | .ok u => if (RequestUri.parse? u.text).isSome then some u else none
  | .error _ => none

/-- Names the previous URL, without user info and fragment; not from an encrypted one to another. -/
def withReferer (previous next : Url) (h : Headers) : Headers :=
  if previous.scheme == "https".toList && next.scheme == "http".toList then h
  else h.set .referer ⟨Bytes.ofChars { previous.withoutUserInfo with fragment := none }.chars, false⟩

def sameOrigin (a b : Url) : Bool :=
  -- A port that is left out is the default one.
  a.host? == b.host? &&
    (a.authority.bind Url.Authority.port).or (Url.defaultPort a.scheme) ==
      (b.authority.bind Url.Authority.port).or (Url.defaultPort b.scheme)

/-- The call that a redirect asks for: credentials do not leave their origin, and only 307 and 308 keep method and
body. -/
def redirected (c : Call) (status : Nat) (next : Url) : Call :=
  let keeps := status = 307 ∨ status = 308
  let headers := if keeps then c.headers else c.headers.erase .contentType
  let headers := if sameOrigin c.url next then headers else (headers.erase .authorization).erase .cookie
  { method := if keeps ∨ c.method = .get ∨ c.method = .head then c.method else .get
    url := next
    headers := withReferer c.url next headers
    body := if keeps then c.body else [] }

def maxRedirects : Nat := 10

/-- Sends a request and follows at most so many redirects. Failures name the URL of the first request. -/
def follow (n : Network) (deadline : Nat) (first : Url) : Nat → Call → World → Except CallError Received × World
  | left, c, w =>
    match exchange n deadline c w with
    | (.error timedOut, w) => (.error (.failed first timedOut), w)
    | (.ok r, w) =>
      match if isRedirect r.status then redirectOf c r else none with
      | none => (.ok r, w)
      | some next =>
        match left with
        | 0 => (.error (.tooManyRedirects c.url), w)
        | left + 1 =>
          if isWeb next then follow n deadline first left (c.redirected r.status next) w
          else (.error (.unusable next), w)

/-- Sends a request to a URL in a text and follows redirects. `headers` makes the headers of the request from those that
stem from the URL. -/
def request (n : Network) (timeout : Nat) (method : Method) (url : String) (headers : Headers → Headers)
    (body : Bytes) (w : World) : Except CallError Received × World :=
  match Url.parse url with
  | .error _ => (.error .unreadable, w)
  | .ok u =>
    let (u, credentials) := splitUserInfo u
    if !isUsable u then (.error (.unusable u), w)
    else
      follow n (w.clock + timeout) u maxRedirects
        ⟨method, u, withAccept (headers (urlHeaders credentials)), body⟩ w

end Call
end CredentialGateway
