import CredentialGateway.Network.Basic
import CredentialGateway.Unicode.Range

/-! Messages of HTTP/1.1 as bytes. Reading takes what has come so far and tells whether the message is complete. -/

namespace CredentialGateway.Wire

open Http

inductive Progress (α : Type)
  | more
  | malformed
  | complete (a : α)
  deriving DecidableEq, Repr

namespace Progress

def map {α β : Type} (f : α → β) : Progress α → Progress β
  | more => more
  | malformed => malformed
  | complete a => complete (f a)

end Progress

def chars (b : Bytes) : List Char := b.map fun x => Char.ofNat x.toNat

def lineFeed : UInt8 := 10

def carriageReturn : UInt8 := 13

/-- The lines up to the first empty one and what follows it, once that line has come. `line` is the begin of the first
line and `done` are the lines before it, both in reverse. -/
def readLines (line : Bytes) (done : List Bytes) : Bytes → Option (List Bytes × Bytes)
  | [] => none
  | b :: rest =>
    if b = lineFeed then
      let whole := if line.head? = some carriageReturn then line.drop 1 else line
      if whole = [] then some (done.reverse, rest) else readLines [] (whole.reverse :: done) rest
    else readLines (b :: line) done rest

def isPad (b : UInt8) : Bool := b = 32 || b = 9

def trimPad (b : Bytes) : Bytes := ((b.dropWhile isPad).reverse.dropWhile isPad).reverse

def readHeader? (line : Bytes) : Option (HeaderName × HeaderValue) := do
  let name := line.takeWhile (· ≠ 58)
  let value ← HeaderValue.ofBytes? (trimPad (line.drop (name.length + 1)))
  if name.length = line.length then none else some (← HeaderName.parse? (chars name), value)

def readHeaders? (lines : List Bytes) : Option Headers := (lines.mapM readHeader?).map Headers.mk

def decimal? (cs : List Char) : Option Nat :=
  if cs = [] ∨ !cs.all Char.isDigit then none else some (cs.foldl (fun n c => 10 * n + (c.toNat - 48)) 0)

def transferEncoding : HeaderName := ⟨"transfer-encoding"⟩

inductive Framing
  | sized (n : Nat)
  | chunked
  | untilEnd
  deriving DecidableEq, Repr

def framing? (h : Headers) (otherwise : Framing) : Option Framing :=
  match h.get? transferEncoding, h.get? .contentLength with
  -- A length does not count beside chunks.
  | some v, _ => if (chars v.bytes).map Char.toLower = "chunked".toList then some .chunked else none
  | none, some v => (decimal? (chars v.bytes)).map .sized
  | none, none => some otherwise

def hexSize? (cs : List Char) : Option Nat :=
  if cs = [] then none else cs.foldlM (fun n c => (Unicode.hexDigit? c).map fun d => 16 * n + d) 0

/-- The chunks of a body up to the empty one, and the trailers after it. `fuel` bounds their number. -/
def readChunks : Nat → Bytes → Progress Bytes
  | 0, _ => .malformed
  | fuel + 1, b =>
    let line := b.takeWhile (· ≠ lineFeed)
    let rest := b.drop (line.length + 1)
    if line.length = b.length then .more
    else
      match hexSize? ((chars (trimPad (line.filter (· ≠ carriageReturn)))).takeWhile (· ≠ ';')) with
      | none => .malformed
      | some 0 =>
        match readLines [] [] rest with
        | none => .more
        | some _ => .complete []
      | some n =>
        if rest.length < n + 2 then .more else (readChunks fuel (rest.drop (n + 2))).map (rest.take n ++ ·)

def readBody (f : Framing) (ended : Bool) (b : Bytes) : Progress Bytes :=
  match f with
  | .sized n => if n ≤ b.length then .complete (b.take n) else .more
  | .chunked => readChunks (b.length + 1) b
  | .untilEnd => if ended then .complete b else .more

def words (line : Bytes) : List (List Char) := (chars line).splitOn ' '

def isVersion (cs : List Char) : Bool := cs = "HTTP/1.1".toList || cs = "HTTP/1.0".toList

def brokenOff : String := "error reading a body from connection"

/-- A request whose body has taken some time. When nothing more comes, a body that is not complete has broken off. -/
def readRequest (wait : Nat) (ended : Bool) (b : Bytes) : Progress Request :=
  match readLines [] [] b with
  | none => .more
  | some ([], _) => .malformed
  | some (start :: fields, rest) =>
    match words start, readHeaders? fields with
    | [method, target, version], some headers =>
      match Method.parse? (String.ofList method), RequestUri.parse? (String.ofList target), framing? headers (.sized 0) with
      | some method, some uri, some framing =>
        let request (body : Body) : Request := ⟨method, uri, headers, body⟩
        if !isVersion version then .malformed
        else
          match readBody framing false rest with
          | .complete body => .complete (request (.piece wait body (.ended 0)))
          | .malformed => .malformed
          | .more => if ended then .complete (request (.broken wait brokenOff)) else .more
      | _, _, _ => .malformed
    | _, _ => .malformed

/-- A response as a reply after some time. When nothing more comes, a body that is not complete counts as cut. -/
def readReply (method : String) (delay : Nat) (cut : Option Cut) (b : Bytes) : Progress Reply :=
  match readLines [] [] b with
  | none => .more
  | some ([], _) => .malformed
  | some (start :: fields, rest) =>
    match words start, readHeaders? fields with
    | version :: status :: _, some headers =>
      match decimal? status, framing? headers .untilEnd with
      | some status, some framing =>
        let reply (body : Bytes) (cut : Option Cut) : Reply := ⟨status, headers, body, delay, false, cut⟩
        if !isVersion version || !isStatus status || status < 200 then .malformed
        else if !expectsBody method status then .complete (reply [] none)
        else
          match readBody framing (cut == some .close) rest, cut with
          | .complete body, _ => .complete (reply body none)
          | .malformed, _ => .malformed
          | .more, none => .more
          | .more, some cut => .complete (reply [] (some cut))
      | _, _ => .malformed
    | _, _ => .malformed

def line (s : String) : Bytes := Bytes.ofText s ++ [carriageReturn, lineFeed]

def writeHeaders (h : Headers) : Bytes :=
  h.entries.flatMap fun e => Bytes.ofText (e.1.text ++ ": ") ++ e.2.bytes ++ [carriageReturn, lineFeed]

def writeSent (s : Sent) : Bytes :=
  line (s.method ++ " " ++ String.ofList s.target ++ " HTTP/1.1") ++ line ("host: " ++ String.ofList s.host) ++
    writeHeaders s.headers ++ line ("content-length: " ++ toString s.body.length) ++ line "connection: close" ++
    line "" ++ s.body

/-- A response. One whose body broke off is left without its end. -/
def writeResponse (method : String) (r : Response) : Bytes :=
  let head := line ("HTTP/1.1 " ++ toString r.status ++ " ") ++ line "connection: close"
  let sized (h : Headers) := (h.erase transferEncoding).erase .contentLength
  if !expectsBody method r.status then head ++ writeHeaders (r.headers.erase transferEncoding) ++ line ""
  else
    match r.body with
    | some body =>
      head ++ writeHeaders (sized r.headers) ++ line ("content-length: " ++ toString body.length) ++ line "" ++ body
    | none => head ++ writeHeaders (sized r.headers) ++ line "transfer-encoding: chunked" ++ line ""

end CredentialGateway.Wire
