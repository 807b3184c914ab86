import CredentialGateway.Unicode.Blank

/-! Which log records are written. A filter is a list of directives, each of which lets records of some targets pass
from some level on; the most specific directive for a record decides. -/

namespace CredentialGateway.Log

inductive Level
  | error
  | warn
  | info
  | debug
  | trace
  deriving DecidableEq, Repr

namespace Level

def all : List Level := [error, warn, info, debug, trace]

def name : Level → String
  | error => "ERROR"
  | warn => "WARN"
  | info => "INFO"
  | debug => "DEBUG"
  | trace => "TRACE"

def rank : Level → Nat
  | error => 1
  | warn => 2
  | info => 3
  | debug => 4
  | trace => 5

def named? (cs : List Char) : Option Level := all.find? fun l => l.name.toList == cs.map Char.toUpper

end Level

abbrev Threshold := Option Level

namespace Threshold

def passes (t : Threshold) (l : Level) : Bool :=
  match t with
  | none => false
  | some least => l.rank ≤ least.rank

def numbered? : Nat → Option Threshold
  | 0 => some none
  | n + 1 => (Level.all[n]?).map some

def number? (cs : List Char) : Option Nat :=
  let digits := if cs.head? = some '+' then cs.drop 1 else cs
  if digits = [] ∨ !digits.all Char.isDigit then none
  else some (digits.foldl (fun n c => 10 * n + (c.toNat - 48)) 0)

def parse? (cs : List Char) : Option Threshold :=
  match number? cs with
  | some n => numbered? n
  | none => if cs.map Char.toLower = "off".toList then some none else (Level.named? cs).map some

end Threshold

structure Directive where
  target : List Char
  fields : List (List Char)
  /-- The directive is only for what happens inside of certain spans. -/
  inSpan : Bool
  threshold : Threshold
  deriving DecidableEq, Repr

namespace Directive

def onlyErrors : Directive := ⟨[], [], false, some .error⟩

/-- Any character outside of ASCII is taken for a letter. -/
def startsName (c : Char) : Bool := c.isAlphanum || "-:_".toList.contains c || 0x80 ≤ c.toNat

/-- The threshold behind an equals sign; none there means that everything passes. -/
def thresholdAfter? : List Char → Option Threshold
  | [] => some (some .trace)
  | cs => Threshold.parse? cs

def pieces (cs : List Char) : List (List Char) := cs.splitOn ','

def span? (cs : List Char) : Option (List Char × List (List Char) × List Char) :=
  let name := cs.takeWhile fun c => c ≠ ']' && c ≠ '\x7b'
  match cs.drop name.length with
  | ']' :: rest => some (name, [], rest)
  | '\x7b' :: rest =>
    let inner := rest.takeWhile (· ≠ '\x7d')
    match rest.drop inner.length with
    | '\x7d' :: ']' :: rest => if (pieces inner).contains [] then none else some (name, pieces inner, rest)
    | _ => none
  | _ => none

/-- A directive with a span. Without a name and with fields but no values, it is for records with these fields. -/
def ofSpan? (target cs : List Char) : Option Directive := do
  let (name, fields, rest) ← span? cs
  let inSpan := name ≠ [] || fields = [] || fields.any fun f => f.contains '='
  match rest with
  | [] => some ⟨target, fields, inSpan, some .trace⟩
  | '=' :: level => (thresholdAfter? level).map fun t => ⟨target, fields, inSpan, t⟩
  | _ => none

/-- A directive: a threshold, or a target and perhaps a span, with a threshold behind an equals sign. Around these there
may be no blanks; without equals sign they are taken for a part of the target. -/
def parse? (cs : List Char) : Option Directive := do
  let trimmed := Unicode.trim cs
  let first ← trimmed.head?
  let name := trimmed.takeWhile fun c => c ≠ '=' && c ≠ '['
  match trimmed.drop name.length with
  | [] =>
    if !startsName first then none
    else
      -- Blanks around it make a threshold the name of a target.
      match Threshold.parse? cs with
      | some t => some ⟨[], [], false, t⟩
      | none => some ⟨cs, [], false, some .trace⟩
  | '[' :: rest => if first ≠ '[' ∧ !startsName first ∨ trimmed ≠ cs then none else ofSpan? name rest
  | _ :: level =>
    if !startsName first ∨ trimmed ≠ cs then none
    else (thresholdAfter? level).map fun t => ⟨name, [], false, t⟩

def concerns (d : Directive) (target : String) (fields : List String) : Bool :=
  !d.inSpan && d.target.isPrefixOf target.toList && d.fields.all fun f => fields.contains (String.ofList f)

/-- Whether the second one of two directives is at least as specific as the first. -/
def yields (a b : Directive) : Bool :=
  a.target.length < b.target.length || (a.target.length == b.target.length && a.fields.length ≤ b.fields.length)

end Directive

structure Filter where
  directives : List Directive
  deriving DecidableEq, Repr

namespace Filter

def ofDirectives (ds : List Directive) : Filter := if ds = [] then ⟨[.onlyErrors]⟩ else ⟨ds⟩

def texts (s : String) : List (List Char) := (Directive.pieces s.toList).filter (· ≠ [])

def parse? (s : String) : Option Filter := ((texts s).mapM Directive.parse?).map ofDirectives

def ofText (s : String) : Filter := ofDirectives ((texts s).filterMap Directive.parse?)

def levelDirectives (level : String) : String := "service_proxy=" ++ level ++ ",tower_http=" ++ level

/-- The filter that an operator asks for, if that is well formed, or else the configured one. -/
def ofSettings (asked : Option String) (level : String) : Filter :=
  (asked.bind parse?).getD (ofText (levelDirectives level))

def deciding? (f : Filter) (target : String) (fields : List String) : Option Directive :=
  (f.directives.filter fun d => d.concerns target fields).foldl (fun best d =>
    match best with
    | none => some d
    -- Of two directives that are equally specific the later one decides.
    | some b => if b.yields d then some d else some b) none

def passes (f : Filter) (level : Level) (target : String) (fields : List String) : Bool :=
  match f.deciding? target fields with
  | none => false
  | some d => d.threshold.passes level

end Filter
end CredentialGateway.Log
