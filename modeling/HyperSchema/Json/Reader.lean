import HyperSchema.Json.Token

namespace HyperSchema.Json

/-- Members as they are met, latest first. A key may be text without a value. -/
abbrev Members := List (Option String × Json)

/-- A container whose end has not been met; what it holds is kept in reverse. -/
inductive Frame where
  | array (items : List Json)
  | object (members : Members) (key : Option String)

/-- What may come next. -/
inductive Expect where
  | value
  | valueOrClose
  | separator
  | key (members : Members)
  | keyOrClose
  | colon (members : Members) (key : Option String)
  | nothing (document : Json)

structure Builder where
  stack : List Frame
  expect : Expect

namespace Builder

/-- The object of these members. One key without a value leaves the object without one. -/
def objectOf (members : Members) : Json :=
  match members.reverse.mapM fun (key, j) => key.map (·, j) with
  | some members => .object members
  | none => .unreadable

/-- Places a finished value. -/
def place (stack : List Frame) (j : Json) : Builder :=
  match stack with
  | [] => ⟨[], .nothing j⟩
  | .array items :: rest => ⟨.array (j :: items) :: rest, .separator⟩
  | .object members key :: rest => ⟨.object ((key, j) :: members) key :: rest, .separator⟩

def startValue (stack : List Frame) : Token → Option Builder
  | .leaf j => some (place stack j)
  | .unreadableText => some (place stack .unreadable)
  | .openArray => some ⟨.array [] :: stack, .valueOrClose⟩
  | .openObject => some ⟨stack, .keyOrClose⟩
  | _ => none

def startMember (stack : List Frame) (members : Members) : Token → Option Builder
  | .leaf (.string key) => some ⟨stack, .colon members (some key)⟩
  | .unreadableText => some ⟨stack, .colon members none⟩
  | _ => none

def step (b : Builder) (t : Token) : Option Builder :=
  match b.expect, t, b.stack with
  | .value, t, stack => startValue stack t
  | .valueOrClose, .closeArray, .array items :: rest => some (place rest (.array items.reverse))
  | .valueOrClose, t, stack => startValue stack t
  | .separator, .comma, .array items :: rest => some ⟨.array items :: rest, .value⟩
  | .separator, .closeArray, .array items :: rest => some (place rest (.array items.reverse))
  | .separator, .comma, .object members _ :: rest => some ⟨rest, .key members⟩
  | .separator, .closeObject, .object members _ :: rest =>
    some (place rest (objectOf members))
  | .key members, t, stack => startMember stack members t
  | .keyOrClose, .closeObject, stack => some (place stack (.object []))
  | .keyOrClose, t, stack => startMember stack [] t
  | .colon members key, .colon, stack => some ⟨.object members key :: stack, .value⟩
  | _, _, _ => none

end Builder

/-- Reads one document with nothing but blanks around it. -/
def read? (text : String) : Option Json := do
  let tokens ← tokens? text.toList
  let b ← tokens.foldlM Builder.step ⟨[], .value⟩
  match b.expect with
  | .nothing j => some j
  | _ => none

/-- Reads a document all of whose literals have values and whose nesting is within the limit. -/
def readValue? (text : String) : Option Json :=
  (read? text).bind fun j =>
    if j.isReadable && j.depth ≤ depthLimit then some j.canonical else none

end HyperSchema.Json
