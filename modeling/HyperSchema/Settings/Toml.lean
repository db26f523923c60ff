import HyperSchema.Settings.Toml.Scalar
import HyperSchema.Settings.Toml.Table

namespace HyperSchema.Toml

/-- Lists and tables within a value may stand this deep inside one another. -/
def depthLimit : Nat := 80

/-- The last part of a key and the parts before it. -/
def splitKey (path : List String) : List String × String := (path.dropLast, path.getLast?.getD "")

/-- A key with its value. -/
def keyValue? (read : List Char → Option (Entry × List Char)) (nodes : Nodes) (cs : List Char) :
    Option (Nodes × List Char) := do
  let (path, rest) ← key? cs
  match rest with
  | '=' :: rest =>
    let (e, rest) ← read (skipSpaces rest)
    let (path, key) := splitKey path
    pure (← nodes.addValue? path key e, rest)
  | _ => none

/-- Items up to a closing bracket; what has been read so far is in reverse. -/
def items? (read : List Char → Option (Entry × List Char)) (items : List Entry) (cs : List Char) :
    Option (Entry × List Char) :=
  match skipLines cs with
  | ']' :: rest => some (.items items.reverse, rest)
  | cs' =>
    match read cs' with
    | none => none
    | some (e, rest) =>
      match skipLines rest with
      | ',' :: rest => if rest.length < cs.length then items? read (e :: items) rest else none
      | ']' :: rest => some (.items (e :: items).reverse, rest)
      | _ => none
termination_by cs.length

/-- Keys with values up to a closing brace. -/
def members? (read : List Char → Option (Entry × List Char)) (nodes : Nodes) (cs : List Char) :
    Option (Entry × List Char) :=
  match skipLines cs with
  | '\x7d' :: rest => some (.table (Node.entries nodes), rest)
  | cs' =>
    match keyValue? read nodes cs' with
    | none => none
    | some (nodes, rest) =>
      match skipLines rest with
      | ',' :: rest => if rest.length < cs.length then members? read nodes rest else none
      | '\x7d' :: rest => some (.table (Node.entries nodes), rest)
      | _ => none
termination_by cs.length

/-- A value that holds lists and tables at most `depth` deep. -/
def value? (depth : Nat) (cs : List Char) : Option (Entry × List Char) :=
  match depth, cs with
  | 0, '[' :: _ | 0, '\x7b' :: _ => none
  | depth + 1, '[' :: rest => items? (value? depth) [] rest
  | depth + 1, '\x7b' :: rest => members? (value? depth) [] rest
  | _, '"' :: _ | _, '\'' :: _ => (text? cs).map fun (s, rest) => (.text s, rest)
  | _, cs => scalar? cs

/-- What has been read, and the header under which the next keys stand. -/
structure State where
  header : List String := []
  nodes : Nodes := []

/-- Reads a header after its opening bracket. -/
def header? (s : State) (cs : List Char) : Option (State × List Char) :=
  match cs with
  | '[' :: cs => do
    let (header, rest) ← key? cs
    match rest with
    | ']' :: ']' :: rest =>
      let (path, key) := splitKey header
      pure (⟨header, ← s.nodes.openSeries? path key⟩, rest)
    | _ => none
  | cs => do
    let (header, rest) ← key? cs
    match rest with
    | ']' :: rest =>
      let (path, key) := splitKey header
      pure (⟨header, ← s.nodes.openTable? path key⟩, rest)
    | _ => none

/-- A key with its value in the table under the present header. -/
def State.keyValue? (s : State) (cs : List Char) : Option (State × List Char) := do
  let (path, rest) ← key? cs
  match rest with
  | '=' :: rest =>
    let (e, rest) ← value? depthLimit (skipSpaces rest)
    let (path, key) := splitKey path
    let nodes ← Nodes.edit? (fun _ nodes => nodes.addValue? path key e) false .header s.nodes
      s.header
    pure (⟨s.header, nodes⟩, rest)
  | _ => none

def line? (s : State) (cs : List Char) : Option (State × List Char) := do
  let (s, rest) ← match cs with
    | '[' :: cs => header? s cs
    | cs => s.keyValue? cs
  pure (s, ← endLine? rest)

def lines? (s : State) (cs : List Char) : Option State :=
  match skipLines cs with
  | [] => some s
  | cs' =>
    match line? s cs' with
    | some (s, rest) => if rest.length < cs.length then lines? s rest else none
    | none => none
termination_by cs.length

/-- A byte order mark in front of a text is no part of it. -/
def skipMark : List Char → List Char
  | '\uFEFF' :: cs => cs
  | cs => cs

def read? (text : String) : Option Entries :=
  (lines? {} (skipMark text.toList)).map fun s => Node.entries s.nodes

end HyperSchema.Toml
