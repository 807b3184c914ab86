import CredentialGateway.Bytes

/-! Header names, header values, and lists of headers in which a name may occur more than once. -/

namespace CredentialGateway.Http

def isTokenChar (c : Char) : Bool :=
  c.isAlphanum || "!#$%&\x27*+-.^_\x60|~".toList.contains c

structure HeaderName where
  text : String
  deriving DecidableEq, Repr

namespace HeaderName

/-- Reads a name in any case; it is a token of at most 65535 characters. -/
def parse? (cs : List Char) : Option HeaderName :=
  if cs ≠ [] ∧ cs.length ≤ 65535 ∧ cs.all isTokenChar then
    some ⟨String.ofList (cs.map Char.toLower)⟩
  else none

def accept : HeaderName := ⟨"accept"⟩
def accessToken : HeaderName := ⟨"access-token"⟩
def authorization : HeaderName := ⟨"authorization"⟩
def connection : HeaderName := ⟨"connection"⟩
def contentLength : HeaderName := ⟨"content-length"⟩
def contentType : HeaderName := ⟨"content-type"⟩
def cookie : HeaderName := ⟨"cookie"⟩
def csrfToken : HeaderName := ⟨"x-csrf-token"⟩
def host : HeaderName := ⟨"host"⟩
def location : HeaderName := ⟨"location"⟩
def referer : HeaderName := ⟨"referer"⟩
def requestId : HeaderName := ⟨"x-request-id"⟩
def setCookie : HeaderName := ⟨"set-cookie"⟩

end HeaderName

def isFieldByte (b : UInt8) : Bool := (32 ≤ b && b != 127) || b == 9

def isVisibleByte (b : UInt8) : Bool := (32 ≤ b && b < 127) || b == 9

/-- The bytes of a header value. Sensitive values are those that no log may show. -/
structure HeaderValue where
  bytes : Bytes
  sensitive : Bool
  deriving DecidableEq, Repr

namespace HeaderValue

/-- Bytes form a value if none is a control other than the tab. -/
def ofBytes? (b : Bytes) : Option HeaderValue :=
  if b.all isFieldByte then some ⟨b, false⟩ else none

def ofText? (s : String) : Option HeaderValue := ofBytes? (Bytes.ofText s)

/-- A value reads as text if it consists of visible ASCII, spaces and tabs. -/
def chars? (v : HeaderValue) : Option (List Char) :=
  if v.bytes.all isVisibleByte then some (v.bytes.map fun b => Char.ofNat b.toNat) else none

def text? (v : HeaderValue) : Option String := v.chars?.map String.ofList

def hidden (v : HeaderValue) : HeaderValue := { v with sensitive := true }

end HeaderValue

structure Headers where
  entries : List (HeaderName × HeaderValue)
  deriving DecidableEq, Repr

namespace Headers

def empty : Headers := ⟨[]⟩

def all (h : Headers) (n : HeaderName) : List HeaderValue :=
  (h.entries.filter fun e => e.1 == n).map Prod.snd

def get? (h : Headers) (n : HeaderName) : Option HeaderValue := (h.all n).head?

def contains (h : Headers) (n : HeaderName) : Bool := h.entries.any fun e => e.1 == n

def add (h : Headers) (n : HeaderName) (v : HeaderValue) : Headers :=
  ⟨h.entries ++ [(n, v)]⟩

def erase (h : Headers) (n : HeaderName) : Headers :=
  ⟨h.entries.filter fun e => e.1 != n⟩

def set (h : Headers) (n : HeaderName) (v : HeaderValue) : Headers :=
  (h.erase n).add n v

def eraseAll (h : Headers) (ns : List HeaderName) : Headers :=
  ⟨h.entries.filter fun e => !ns.contains e.1⟩

/-- Puts the values of `new` in place of those that their names have in `h`. -/
def override (h new : Headers) : Headers :=
  ⟨(h.eraseAll (new.entries.map Prod.fst)).entries ++ new.entries⟩

theorem all_set_self (h : Headers) (n : HeaderName) (v : HeaderValue) : (h.set n v).all n = [v] := by
  simp only [all, set, add, erase, List.filter_append, List.filter_filter]
  simp

theorem all_set_of_ne (h : Headers) {n m : HeaderName} (v : HeaderValue) (hne : m ≠ n) :
    (h.set n v).all m = h.all m := by
  simp only [all, set, add, erase, List.filter_append, List.filter_filter, List.map_append]
  have h1 : ((n == m) : Bool) = false := by simpa using fun e => hne e.symm
  have h2 : ∀ e : HeaderName × HeaderValue, ((e.1 == m) && (e.1 != n)) = (e.1 == m) := by
    intro e
    by_cases he : e.1 = m
    · simp [he, hne]
    · simp [he]
  simp [h1, h2]

end Headers
end CredentialGateway.Http
