/-! The arguments of the command line, read from left to right. A value may follow its option or be attached to it, and
short options without values may be written together. -/

namespace CredentialGateway.CommandLine

structure Arguments where
  config : Option String
  watch : Bool
  deriving DecidableEq, Repr

inductive Flag
  | config
  | watch
  | help
  deriving DecidableEq, Repr

def Flag.name : Flag → String
  | config => "--config <CONFIG>"
  | watch => "--watch"
  | help => "--help"

inductive UsageError
  | unexpectedArgument (arg : String)
  | valueRequired (flag : Flag)
  | repeated (flag : Flag)
  | unexpectedValue (value : String) (flag : Flag)
  | nothingToWatch
  deriving DecidableEq, Repr

namespace UsageError

def message : UsageError → String
  | unexpectedArgument arg => "unexpected argument '" ++ arg ++ "' found"
  | valueRequired flag => "a value is required for '" ++ flag.name ++ "' but none was supplied"
  | repeated flag => "the argument '" ++ flag.name ++ "' cannot be used multiple times"
  | unexpectedValue value flag =>
    "unexpected value '" ++ value ++ "' for '" ++ flag.name ++ "' found; no more were expected"
  | nothingToWatch => "the following required arguments were not provided:\n  --config <CONFIG>"

end UsageError

inductive Interruption
  | help
  | refused (e : UsageError)
  deriving DecidableEq, Repr

inductive Pending
  | none
  | awaitsPath
  | path (value : String)
  deriving DecidableEq, Repr

structure Reading where
  config : Option String
  watch : Bool
  pending : Pending
  deriving DecidableEq, Repr

namespace Reading

def start : Reading := ⟨none, false, .none⟩

def refuse {α : Type} (e : UsageError) : Except Interruption α := .error (.refused e)

def setConfig (r : Reading) (value : String) : Except Interruption Reading :=
  if r.config.isSome then refuse (.repeated .config)
  else if value = "" then refuse (.valueRequired .config)
  else .ok { r with config := some value, pending := .none }

def settle (r : Reading) : Except Interruption Reading :=
  match r.pending with
  | .none => .ok r
  | .awaitsPath => refuse (.valueRequired .config)
  | .path value => r.setConfig value

def setWatch (r : Reading) : Except Interruption Reading := do
  let r ← r.settle
  if r.watch then refuse (.repeated .watch) else .ok { r with watch := true }

def awaitPath (r : Reading) : Except Interruption Reading := do
  let r ← r.settle
  .ok { r with pending := .awaitsPath }

def attachPath (r : Reading) (value : List Char) : Except Interruption Reading := do
  let r ← r.settle
  r.setConfig (String.ofList value)

def showHelp (r : Reading) : Except Interruption Reading := do
  let _ ← r.settle
  .error .help

def readShort (r : Reading) : List Char → Except Interruption Reading
  | [] => .ok r
  | 'h' :: _ => r.showHelp
  | 'w' :: rest => do readShort (← r.setWatch) rest
  | ['c'] => r.awaitPath
  | 'c' :: '=' :: value => r.attachPath value
  | 'c' :: value => r.attachPath value
  | c :: _ => refuse (.unexpectedArgument (String.ofList ['-', c]))

def readLong (r : Reading) (cs : List Char) : Except Interruption Reading :=
  let name := cs.takeWhile (· ≠ '=')
  let value := if name.length < cs.length then some (cs.drop (name.length + 1)) else none
  match String.ofList name, value with
  | "config", none => r.awaitPath
  | "config", some value => r.attachPath value
  | "watch", none => r.setWatch
  | "watch", some value => refuse (.unexpectedValue (String.ofList value) .watch)
  | "help", none => r.showHelp
  | "help", some value => refuse (.unexpectedValue (String.ofList value) .help)
  | name, _ => refuse (.unexpectedArgument ("--" ++ name))

/-- An argument that is no option is a value, if one is awaited. -/
def readValue (r : Reading) (arg : String) : Except Interruption Reading :=
  match r.pending with
  | .awaitsPath => .ok { r with pending := .path arg }
  | _ => refuse (.unexpectedArgument arg)

/-- Reads arguments. After two dashes there are no options any more, and no value is awaited. -/
def readAll (r : Reading) : List String → Except Interruption Reading
  | [] => r.settle
  | arg :: rest =>
    match arg.toList with
    | ['-', '-'] =>
      match rest with
      -- Nothing may follow the two dashes.
      | [] => r.settle
      | next :: _ => refuse (.unexpectedArgument next)
    | '-' :: '-' :: cs => do readAll (← r.readLong cs) rest
    | ['-'] => do readAll (← r.readValue arg) rest
    | '-' :: cs => do readAll (← r.readShort cs) rest
    | _ => do readAll (← r.readValue arg) rest

end Reading

def Arguments.read (args : List String) : Except Interruption Arguments := do
  let r ← Reading.start.readAll args
  if r.watch ∧ r.config = none then .error (.refused .nothingToWatch) else .ok ⟨r.config, r.watch⟩

def helpText : List String :=
  ["Host-routed reverse proxy with per-service credential injection", "", "Usage: service-proxy [OPTIONS]", "",
    "Options:", "  -c, --config <CONFIG>  Path to the TOML configuration file. Defaults are used when omitted",
    "  -w, --watch            Reload the service table when the configuration file changes",
    "  -h, --help             Print help"]

end CredentialGateway.CommandLine
