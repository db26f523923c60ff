import HyperSchema.Json.Token

/-!
Blanks, texts and keys of TOML. Each reader takes what is left of a document and gives what it has
read with what is then left, or nothing when the document is refused.
-/

namespace HyperSchema.Toml

def isSpace (c : Char) : Bool := c == ' ' || c == '\t'

def skipSpaces (cs : List Char) : List Char := cs.dropWhile isSpace

/-- Controls other than the tab stand nowhere but in line ends. -/
def isControl (c : Char) : Bool := (c.toNat < 0x20 && c != '\t') || c.toNat == 0x7F

def skipComment : List Char → List Char
  | '#' :: cs => cs.dropWhile (!isControl ·)
  | cs => cs

/-- What follows a line end. -/
def afterLineEnd? : List Char → Option (List Char)
  | '\n' :: cs => some cs
  | '\r' :: '\n' :: cs => some cs
  | _ => none

/-- Skips spaces, comments and line ends. -/
def skipLines (cs : List Char) : List Char :=
  let rest := skipComment (skipSpaces cs)
  match afterLineEnd? rest with
  | some rest => if rest.length < cs.length then skipLines rest else rest
  | none => rest
termination_by cs.length

/-- The rest after the end of a line, or nothing at the end of the document. -/
def endLine? (cs : List Char) : Option (List Char) :=
  match skipComment (skipSpaces cs) with
  | [] => some []
  | cs => afterLineEnd? cs

def escape? (c : Char) : Option Char :=
  match c with
  | '"' => some '"'
  | '\\' => some '\\'
  | 'b' => some '\x08'
  | 'e' => some '\x1b'
  | 't' => some '\t'
  | 'n' => some '\n'
  | 'f' => some '\x0c'
  | 'r' => some '\r'
  | _ => none

/-- How many digits the code point after an escape letter has. -/
def codeWidth? (c : Char) : Option Nat :=
  match c with
  | 'x' => some 2
  | 'u' => some 4
  | 'U' => some 8
  | _ => none

def codePoint? (width : Nat) (cs : List Char) : Option (Char × List Char) := do
  let digits := cs.take width
  let n ← digits.foldlM (fun n c => (Json.hexDigit? c).map (16 * n + ·)) 0
  if digits.length = width ∧ n.isValidChar then some (Char.ofNat n, cs.drop width) else none

/-- What a backslash and the characters after it stand for. -/
def escaped? : List Char → Option (Char × List Char)
  | [] => none
  | c :: cs =>
    match codeWidth? c with
    | some width => codePoint? width cs
    | none => (escape? c).map (·, cs)

/-- Text up to a double quote; what has been read so far is in reverse. -/
def basicText? (read : List Char) (cs : List Char) : Option (String × List Char) :=
  let next (c : Char) (rest : List Char) :=
    if rest.length < cs.length then basicText? (c :: read) rest else none
  match cs with
  | [] => none
  | '"' :: cs => some (String.ofList read.reverse, cs)
  | '\\' :: cs => (escaped? cs).bind fun (c, rest) => next c rest
  | c :: cs => if isControl c then none else next c cs
termination_by cs.length

/-- Text up to a single quote, taken as it stands. -/
def literalText? (cs : List Char) : Option (String × List Char) :=
  let text := cs.takeWhile (· != '\'')
  match cs.dropWhile (· != '\'') with
  | _ :: rest => if text.any isControl then none else some (String.ofList text, rest)
  | [] => none

/-- Text of several lines ends at three quotes; up to two more right before them belong to it. -/
def closing? (quote : Char) (read : List Char) (cs : List Char) : Option (String × List Char) :=
  let quotes := (cs.takeWhile (· == quote)).length
  if 3 ≤ quotes ∧ quotes ≤ 5 then
    some (String.ofList ((List.replicate (quotes - 3) quote ++ read).reverse), cs.drop quotes)
  else none

/-- A line end right after the opening quotes does not count. -/
def skipFirstEnd (cs : List Char) : List Char := (afterLineEnd? cs).getD cs

/-- Leaves out a line end behind a backslash with all blanks around it. -/
def continued? (cs : List Char) : Option (List Char) :=
  (afterLineEnd? (skipSpaces cs)).map fun rest =>
    rest.dropWhile fun c => isSpace c || c == '\n' || c == '\r'

/-- Text of several lines up to three double quotes. Line ends become single newlines. -/
def basicLines? (read : List Char) (cs : List Char) : Option (String × List Char) :=
  let next (read : List Char) (rest : List Char) :=
    if rest.length < cs.length then basicLines? read rest else none
  match cs with
  | [] => none
  | '"' :: '"' :: '"' :: _ => closing? '"' read cs
  | '\\' :: rest =>
    match continued? rest with
    | some rest => next read rest
    | none => (escaped? rest).bind fun (c, rest) => next (c :: read) rest
  | c :: rest =>
    match afterLineEnd? cs with
    | some rest => next ('\n' :: read) rest
    | none => if isControl c then none else next (c :: read) rest
termination_by cs.length

/-- Text of several lines up to three single quotes, taken as it stands but for its line ends. -/
def literalLines? (read : List Char) (cs : List Char) : Option (String × List Char) :=
  let next (c : Char) (rest : List Char) :=
    if rest.length < cs.length then literalLines? (c :: read) rest else none
  match cs with
  | [] => none
  | '\'' :: '\'' :: '\'' :: _ => closing? '\'' read cs
  | c :: rest =>
    match afterLineEnd? cs with
    | some rest => next '\n' rest
    | none => if isControl c then none else next c rest
termination_by cs.length

/-- A text with its quotes. -/
def text? : List Char → Option (String × List Char)
  | '"' :: '"' :: '"' :: cs => basicLines? [] (skipFirstEnd cs)
  | '\'' :: '\'' :: '\'' :: cs => literalLines? [] (skipFirstEnd cs)
  | '"' :: cs => basicText? [] cs
  | '\'' :: cs => literalText? cs
  | _ => none

def isBareKeyChar (c : Char) : Bool := c.isAlphanum || c == '_' || c == '-'

def keyPart? : List Char → Option (String × List Char)
  | '"' :: cs => basicText? [] cs
  | '\'' :: cs => literalText? cs
  | cs =>
    let key := cs.takeWhile isBareKeyChar
    if key.isEmpty then none else some (String.ofList key, cs.dropWhile isBareKeyChar)

/-- The parts of a dotted key. -/
def key? (cs : List Char) : Option (List String × List Char) :=
  match keyPart? (skipSpaces cs) with
  | none => none
  | some (part, rest) =>
    match skipSpaces rest with
    | '.' :: more =>
      if more.length < cs.length then (key? more).map fun (parts, rest) => (part :: parts, rest)
      else none
    | rest => some ([part], rest)
termination_by cs.length

end HyperSchema.Toml
