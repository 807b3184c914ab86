import CredentialGateway.Toml.Scalar

/-! TOML documents. Tables may be written in pieces, but no piece may add to what another one has closed: `Node` keeps
how each table came into being. -/

namespace CredentialGateway.Toml

inductive Origin
  | header
  /-- The table has no header of its own, but one inside it has. -/
  | implied
  | dotted
  deriving DecidableEq, Repr

inductive Node
  | value (d : Datum)
  | table (origin : Origin) (fields : List (String × Node))
  | tables (items : List (List (String × Node)))

abbrev Fields := List (String × Node)

namespace Fields

def get? (fields : Fields) (key : String) : Option Node :=
  (fields.find? fun f => f.1 == key).map Prod.snd

def replace (fields : Fields) (key : String) (node : Node) : Fields :=
  fields.map fun f => if f.1 == key then (key, node) else f

/-- Changes the table at a path and creates what is missing on the way to it. In a list of tables the last one is meant.
A dotted key may not lead through a table that has a header. -/
def change (dotted : Bool) (act : Origin → Fields → Option Fields) :
    List String → Origin → Fields → Option Fields
  | [], origin, fields => act origin fields
  | key :: path, _, fields =>
    match get? fields key with
    | none => do
      let origin := if dotted then Origin.dotted else .implied
      let made ← change dotted act path origin []
      some (fields ++ [(key, .table origin made)])
    | some (.value _) => none
    | some (.tables items) => do
      let last ← items.getLast?
      let changed ← change dotted act path .header last
      some (replace fields key (.tables (items.dropLast ++ [changed])))
    | some (.table origin inner) =>
      -- A header has closed this table to the dotted keys of others.
      if dotted && origin = .header then none
      else do
        let changed ← change dotted act path origin inner
        some (replace fields key (.table origin changed))

/-- Adds a value under a key that is not there yet. Behind a dotted path the table has to stem from dotted keys. -/
def addValue (path : List String) (key : String) (d : Datum) (fields : Fields) (origin : Origin) : Option Fields :=
  change true (fun o inner =>
    if path ≠ [] ∧ o ≠ .dotted then none
    else if (get? inner key).isSome then none
    else some (inner ++ [(key, .value d)])) path origin fields

/-- Opens a table by its header; one that was only implied so far is taken over. -/
def openTable (key : String) (fields : Fields) : Option Fields :=
  match get? fields key with
  | none => some (fields ++ [(key, .table .header [])])
  | some (.table .implied inner) => some (replace fields key (.table .header inner))
  | some _ => none

def openItem (key : String) (fields : Fields) : Option Fields :=
  match get? fields key with
  | none => some (fields ++ [(key, .tables [[]])])
  | some (.tables items) => some (replace fields key (.tables (items ++ [[]])))
  | some _ => none

end Fields

mutual

def Node.toDatum : Node → Datum
  | .value d => d
  | .table _ fields => .table (fieldsData fields)
  | .tables items => .list (itemsData items)

def fieldsData : List (String × Node) → List (String × Datum)
  | [] => []
  | (key, node) :: rest => (key, node.toDatum) :: fieldsData rest

def itemsData : List (List (String × Node)) → List Datum
  | [] => []
  | fields :: rest => .table (fieldsData fields) :: itemsData rest

end

/-- No key has more parts than this, and no value is nested deeper. -/
def maxDepth : Nat := 79

def isBareKeyChar (c : Char) : Bool := c.isAlphanum || c = '-' || c = '_'

def readKeyPart (cs : Text) : Option (String × Text) :=
  match cs with
  | [] => none
  | c :: rest =>
    if c = '\x22' then readBasic (rest.length + 1) [] rest
    else if c = '\x27' then readLiteral [] rest
    else
      let bare := cs.takeWhile isBareKeyChar
      if bare = [] then none else some (String.ofList bare, cs.drop bare.length)

/-- Reads the parts of a dotted key with the blanks around them. The first argument exceeds their number. -/
def readKeyParts : Nat → Text → Option (List String × Text)
  | 0, _ => none
  | n + 1, cs => do
    let (part, rest) ← readKeyPart (skipBlanks cs)
    match skipBlanks rest with
    | '.' :: more => do
      let (parts, rest) ← readKeyParts n more
      some (part :: parts, rest)
    | rest => some ([part], rest)

def readKey (cs : Text) : Option (List String × String × Text) := do
  let (parts, rest) ← readKeyParts (cs.length + 1) cs
  let last ← parts.getLast?
  if maxDepth < parts.length then none else some (parts.dropLast, last, rest)

def skipComment (cs : Text) : Text :=
  match cs with
  | '#' :: rest => rest.dropWhile isPlain
  | _ => cs

def skipLines : Nat → Text → Option Text
  | 0, _ => none
  | n + 1, cs =>
    match skipBlanks cs with
    | '#' :: rest => (newline? (rest.dropWhile isPlain)).bind (skipLines n)
    | rest =>
      match newline? rest with
      | some rest => skipLines n rest
      | none => some rest

mutual

/-- Reads a value that is nested in at most `depth` further levels. The first argument exceeds the number of steps. -/
def readValue (steps depth : Nat) (cs : Text) : Option (Datum × Text) :=
  match steps with
  | 0 => none
  | steps + 1 =>
    match cs with
    | [] => none
    | '[' :: rest =>
      match depth with
      | 0 => none
      | depth + 1 =>
        match rest with
        | ']' :: rest => some (.list [], rest)
        | _ => readItems steps depth [] rest
    | '\x7b' :: rest =>
      match depth with
      | 0 => none
      | depth + 1 =>
        match skipBlanks rest with
        | '\x7d' :: rest => some (.table [], rest)
        | rest => readInline steps depth [] rest
    | 't' :: 'r' :: 'u' :: 'e' :: rest => some (.bool true, rest)
    | 'f' :: 'a' :: 'l' :: 's' :: 'e' :: rest => some (.bool false, rest)
    | c :: _ =>
      if c = '\x22' || c = '\x27' then (readString cs).map fun (s, rest) => (.text s, rest)
      else readNumeric cs

def readItems (steps depth : Nat) (done : List Datum) (cs : Text) : Option (Datum × Text) :=
  match steps with
  | 0 => none
  | steps + 1 => do
    match ← skipLines (cs.length + 1) cs with
    | ']' :: rest => some (.list done.reverse, rest)
    | rest => do
      let (d, rest) ← readValue steps depth rest
      match ← skipLines (rest.length + 1) rest with
      | ',' :: rest => readItems steps depth (d :: done) rest
      | ']' :: rest => some (.list (d :: done).reverse, rest)
      | _ => none

def readInline (steps depth : Nat) (fields : Fields) (cs : Text) : Option (Datum × Text) :=
  match steps with
  | 0 => none
  | steps + 1 => do
    let (path, key, rest) ← readKey cs
    let rest ← char? '=' rest
    let (d, rest) ← readValue steps depth (skipBlanks rest)
    let fields ← fields.addValue path key d .header
    match skipBlanks rest with
    | ',' :: rest => readInline steps depth fields rest
    | '\x7d' :: rest => some (.table (fieldsData fields), rest)
    | _ => none

end

structure Draft where
  root : Fields
  current : List String

def endLine? (cs : Text) : Option Text :=
  match skipComment (skipBlanks cs) with
  | [] => some []
  | rest => newline? rest

def readHeader (brackets : Nat) (cs : Text) : Option (List String × String × Text) := do
  let (path, key, rest) ← readKey cs
  if rest.take brackets = List.replicate brackets ']' then some (path, key, rest.drop brackets) else none

/-- Reads one line that holds a header or a value, and gives the text of the lines after it. -/
def Draft.readLine (draft : Draft) (cs : Text) : Option (Draft × Text) :=
  match cs with
  | '[' :: '[' :: rest => do
    let (path, key, rest) ← readHeader 2 rest
    let root ← draft.root.change false (fun _ inner => inner.openItem key) path .header
    some (⟨root, path ++ [key]⟩, ← endLine? rest)
  | '[' :: rest => do
    let (path, key, rest) ← readHeader 1 rest
    let root ← draft.root.change false (fun _ inner => inner.openTable key) path .header
    some (⟨root, path ++ [key]⟩, ← endLine? rest)
  | _ => do
    let (path, key, rest) ← readKey cs
    let rest ← char? '=' rest
    let (d, rest) ← readValue (2 * rest.length + 2) maxDepth (skipBlanks rest)
    let root ← draft.root.change false (fun origin inner => inner.addValue path key d origin) draft.current .header
    some ({ draft with root }, ← endLine? rest)

def Draft.readLines (draft : Draft) : Nat → Text → Option Draft
  | 0, _ => none
  | n + 1, cs =>
    match skipBlanks cs with
    | [] => some draft
    | '#' :: rest => (endLine? ('#' :: rest)).bind (draft.readLines n)
    | rest =>
      match newline? rest with
      | some rest => draft.readLines n rest
      | none => do
        let (draft, rest) ← draft.readLine rest
        draft.readLines n rest

def parse? (s : String) : Option Datum := do
  let cs := match s.toList with
    | c :: rest => if c.toNat = 0xfeff then rest else c :: rest
    | [] => []
  let draft ← Draft.readLines ⟨[], []⟩ (cs.length + 1) cs
  some (.table (fieldsData draft.root))

end CredentialGateway.Toml
