import HyperSchema.Decimal.Integer
import HyperSchema.Json.Token
import HyperSchema.Pattern.Basic

/-!
Escapes and bracketed sets. Each reader takes what is left of the pattern and gives what it has
read with what is then left, or nothing when the pattern is refused.
-/

namespace HyperSchema.Pattern
open Text Decimal

/-- Parts of a pattern may stand this deep inside one another. -/
def depthLimit : Nat := 250

structure Flags where
  ignoreCase : Bool := false
  multiLine : Bool := false
  dotAll : Bool := false
  wide : Bool := true
  returns : Bool := false
  spaced : Bool := false
  /-- Whether repetitions prefer fewer rounds unless they are marked. -/
  lazy : Bool := false
deriving DecidableEq, Repr

def asciiWords : Ranges := [(0x30, 0x39), (0x41, 0x5A), (0x5F, 0x5F), (0x61, 0x7A)]
def asciiBlanks : Ranges := [(0x09, 0x0D), (0x20, 0x20)]

namespace Flags

def words (f : Flags) : Ranges := if f.wide then wordChars else asciiWords
def digits (f : Flags) : Ranges := if f.wide then decimalDigits else [(0x30, 0x39)]
def blanks (f : Flags) : Ranges := if f.wide then Text.blanks else asciiBlanks

/-- The set as the case flag has it. -/
def cased (f : Flags) (set : Ranges) : Ranges :=
  if f.ignoreCase then anyCase (if f.wide then foldingRows else asciiFoldingRows) set else set

/-- Sets that leave out characters are only read over all of Unicode. -/
def negated? (f : Flags) (set : Ranges) : Option Ranges :=
  if f.wide then some set.complement else none

/-- A character as a member of a set. Narrow sets hold ASCII only. -/
def member? (f : Flags) (c : Char) : Option Char :=
  if f.wide || c.toNat < 0x80 then some c else none

end Flags

/-- Leaves out blanks and comments where the flags say so. -/
def skipSpaced (f : Flags) (cs : List Char) : List Char :=
  if f.spaced then skip cs.length cs else cs
where
  skip : Nat → List Char → List Char
    | 0, cs => cs
    | n + 1, c :: cs =>
      if isBlank c then skip n cs
      else if c = '#' then skip n (cs.dropWhile (· != '\n'))
      else c :: cs
    | _, [] => []

/-- Takes characters while `p` holds, leaving out blanks and comments where the flags say so. -/
def readWhile (f : Flags) (p : Char → Bool) (cs : List Char) : List Char × List Char :=
  match skipSpaced f cs with
  | [] => ([], [])
  | c :: rest =>
    if p c ∧ rest.length < cs.length then
      let (taken, rest) := readWhile f p rest
      (c :: taken, rest)
    else ([], c :: rest)
termination_by cs.length
decreasing_by omega

/-- What a backslash and the characters after it stand for. -/
inductive Escape where
  | literal (c : Char)
  | set (s : Ranges)
  | place (p : Place)

def isMeta (c : Char) : Bool := "\\.+*?()|[]\x7b\x7d^$#&-~".toList.contains c

/-- Marks of ASCII stand for themselves behind a backslash, letters and digits do not. -/
def isPlainEscape (c : Char) : Bool :=
  isMeta c || (c.toNat < 0x80 && !c.isAlphanum && c != '<' && c != '>')

def hexNumber? (cs : List Char) : Option Nat :=
  cs.foldlM (fun n c => (Json.hexDigit? c).map (16 * n + ·)) 0

def hexChar? (digits : List Char) : Option Char := do
  let n ← hexNumber? digits
  if !digits.isEmpty && n.isValidChar then some (Char.ofNat n) else none

/-- A set number of characters. -/
def readExactly? (f : Flags) : Nat → List Char → Option (List Char × List Char)
  | 0, cs => some ([], cs)
  | n + 1, cs =>
    match skipSpaced f cs with
    | [] => none
    | c :: rest => (readExactly? f n rest).map fun (taken, rest) => (c :: taken, rest)

/-- Two digits stand for a byte, which is a character alone only in ASCII unless sets are wide. -/
def isByte (f : Flags) (width : Nat) (c : Char) : Bool := !f.wide && width == 2 && 0x7F < c.toNat

/-- A character by its code point: in braces, or in a set number of digits. -/
def readHex? (f : Flags) (width : Nat) (cs : List Char) : Option (Escape × List Char) :=
  match skipSpaced f cs with
  | '\x7b' :: cs =>
    match readWhile f (· != '\x7d') cs with
    | (digits, _ :: rest) => (hexChar? digits).map fun c => (.literal c, rest)
    | _ => none
  | cs => do
    let (digits, rest) ← readExactly? f width cs
    let c ← hexChar? digits
    if isByte f width c then none else pure (.literal c, rest)

/-- The name in braces that may follow a word boundary. A brace that begins no name is left. -/
def readBoundary? (f : Flags) (cs : List Char) : Option (Escape × List Char) :=
  let isNameChar c := c.isAlpha || c == '-'
  match cs with
  | '\x7b' :: r =>
    match skipSpaced f r, readWhile f isNameChar r with
    | [], _ => none
    | _, ([], _) => some (.place (.boundary f.words), cs)
    | _, (name, '\x7d' :: rest) =>
      match String.ofList name with
      | "start" => some (.place (.wordStart f.words), rest)
      | "end" => some (.place (.wordEnd f.words), rest)
      | "start-half" => some (.place (.noWordBefore f.words), rest)
      | "end-half" => some (.place (.noWordAfter f.words), rest)
      | _ => none
    | _, _ => none
  | _ => some (.place (.boundary f.words), cs)

/-- Reads what follows a backslash. -/
def readEscape? (f : Flags) : List Char → Option (Escape × List Char)
  | [] => none
  | c :: cs =>
    let literal (c : Char) := some (Escape.literal c, cs)
    let negated (set : Ranges) := (f.negated? set).map fun s => (Escape.set s, cs)
    match c with
    | 'd' => some (.set f.digits, cs)
    | 's' => some (.set f.blanks, cs)
    | 'w' => some (.set f.words, cs)
    | 'D' => negated f.digits
    | 'S' => negated f.blanks
    | 'W' => negated f.words
    | 'x' => readHex? f 2 cs
    | 'u' => readHex? f 4 cs
    | 'U' => readHex? f 8 cs
    | 'a' => literal '\x07'
    | 'f' => literal '\x0c'
    | 't' => literal '\t'
    | 'n' => literal '\n'
    | 'r' => literal '\r'
    | 'v' => literal '\x0b'
    | 'A' => some (.place .textStart, cs)
    | 'z' => some (.place .textEnd, cs)
    | 'b' => readBoundary? f cs
    | 'B' => some (.place (.inside f.words), cs)
    | '<' => some (.place (.wordStart f.words), cs)
    | '>' => some (.place (.wordEnd f.words), cs)
    | c => if isPlainEscape c then literal c else none

def namedRanges? (name : String) : Option Ranges :=
  match name with
  | "alnum" => some [(0x30, 0x39), (0x41, 0x5A), (0x61, 0x7A)]
  | "alpha" => some [(0x41, 0x5A), (0x61, 0x7A)]
  | "ascii" => some [(0x00, 0x7F)]
  | "blank" => some [(0x09, 0x09), (0x20, 0x20)]
  | "cntrl" => some [(0x00, 0x1F), (0x7F, 0x7F)]
  | "digit" => some [(0x30, 0x39)]
  | "graph" => some [(0x21, 0x7E)]
  | "lower" => some [(0x61, 0x7A)]
  | "print" => some [(0x20, 0x7E)]
  | "punct" => some [(0x21, 0x2F), (0x3A, 0x40), (0x5B, 0x60), (0x7B, 0x7E)]
  | "space" => some asciiBlanks
  | "upper" => some [(0x41, 0x5A)]
  | "word" => some asciiWords
  | "xdigit" => some [(0x30, 0x39), (0x41, 0x46), (0x61, 0x66)]
  | _ => none

/-- A name between `[:` and `:]`, with `^` in front to leave its characters out. -/
def readNamed? (cs : List Char) : Option (Bool × Ranges × List Char) :=
  match cs with
  | '[' :: ':' :: r =>
    let (negative, r) := match r with
      | '^' :: r => (true, r)
      | r => (false, r)
    match r.dropWhile (· != ':') with
    | ':' :: ']' :: rest =>
      (namedRanges? (String.ofList (r.takeWhile (· != ':')))).map (negative, ·, rest)
    | _ => none
  | _ => none

inductive SetOperator where
  | intersection
  | difference
  | symmetricDifference
deriving DecidableEq

def SetOperator.apply : SetOperator → Ranges → Ranges → Ranges
  | intersection => .intersection
  | difference => .difference
  | symmetricDifference => .symmetricDifference

/-- A set with how deeply it is nested: sets of several members and operators count as levels. -/
structure NestedSet where
  set : Ranges
  depth : Nat

/-- A bracket that has been opened: its sign, what its last operator awaits, and its members in any
order. -/
structure OpenSet where
  negative : Bool
  pending : Option (NestedSet × SetOperator) := none
  members : Ranges := []
  count : Nat := 0
  /-- How deep the deepest member is. -/
  depth : Nat := 0

namespace OpenSet

def add (o : OpenSet) (member : NestedSet) : OpenSet :=
  { o with
    members := member.set ++ o.members
    count := o.count + 1
    depth := max o.depth member.depth }

def addPlain (o : OpenSet) (set : Ranges) : OpenSet := o.add ⟨set, 0⟩

def whole (o : OpenSet) : NestedSet :=
  ⟨.ofList o.members, if o.count ≤ 1 then o.depth else o.depth + 1⟩

/-- Everything so far as the operand of the operators met. -/
def operand (f : Flags) (o : OpenSet) : NestedSet :=
  match o.pending with
  | some (left, op) =>
    let right := o.whole
    ⟨op.apply (f.cased left.set) (f.cased right.set), max left.depth right.depth + 1⟩
  | none => o.whole

def operate (f : Flags) (o : OpenSet) (op : SetOperator) : OpenSet :=
  { negative := o.negative, pending := some (o.operand f, op) }

def close? (f : Flags) (o : OpenSet) : Option NestedSet := do
  let inner := o.operand f
  let set := f.cased inner.set
  let set ← if o.negative then f.negated? set else some set
  if inner.depth < depthLimit then some ⟨set, inner.depth + 1⟩ else none

end OpenSet

/-- Reads an opening bracket with its sign and the marks that stand for themselves right after. -/
def openSet? (f : Flags) (cs : List Char) : Option (OpenSet × List Char) :=
  let (negative, cs) := match skipSpaced f cs with
    | '^' :: r => (true, skipSpaced f r)
    | r => (false, r)
  let (dashes, cs) := readWhile f (· == '-') cs
  let o : OpenSet := ⟨negative, none, dashes.map fun c => (c.toNat, c.toNat), dashes.length, 0⟩
  match cs with
  | [] => none
  | ']' :: rest => if dashes.isEmpty then some (o.addPlain (.single ']'), rest) else some (o, cs)
  | _ => some (o, cs)

/-- One character or escape inside of brackets. -/
def readMember? (f : Flags) : List Char → Option (Escape × List Char)
  | [] => none
  | '\\' :: cs => readEscape? f cs
  | c :: cs => some (.literal c, cs)

def memberSet? (f : Flags) : Escape → Option Ranges
  | .literal c => (f.member? c).map .single
  | .set s => some s
  | .place _ => none

/-- One member or a range. A dash before a bracket or another dash makes no range. -/
def readRange? (f : Flags) (cs : List Char) : Option (Ranges × List Char) := do
  let (first, rest) ← readMember? f cs
  match skipSpaced f rest with
  | [] => none
  | '-' :: rest' =>
    match skipSpaced f rest' with
    | [] => none
    | c :: after =>
      if c = ']' ∨ c = '-' then (memberSet? f first).map (·, '-' :: c :: after)
      else
        match first, ← readMember? f (c :: after) with
        | .literal a, (.literal b, rest) => do
          let a ← f.member? a
          let b ← f.member? b
          if a ≤ b then some ([(a.toNat, b.toNat)], rest) else none
        | _, _ => none
  | rest => (memberSet? f first).map (·, rest)

/-- Reads on inside of brackets, the innermost first, until the outermost is closed. -/
def readSet? (f : Flags) (current : OpenSet) (outer : List OpenSet) (cs : List Char) :
    Option (NestedSet × List Char) :=
  let next (current : OpenSet) (outer : List OpenSet) (rest : List Char) :=
    if rest.length < cs.length then readSet? f current outer rest else none
  match skipSpaced f cs with
  | [] => none
  | ']' :: rest =>
    match current.close? f, outer with
    | none, _ => none
    | some set, [] => some (set, rest)
    | some set, parent :: outer => next (parent.add set) outer rest
  | '&' :: '&' :: rest => next (current.operate f .intersection) outer rest
  | '-' :: '-' :: rest => next (current.operate f .difference) outer rest
  | '~' :: '~' :: rest => next (current.operate f .symmetricDifference) outer rest
  | '[' :: rest =>
    match readNamed? ('[' :: rest) with
    | some (negative, ranges, rest) =>
      if negative then
        match f.negated? (f.cased ranges) with
        | some set => next (current.addPlain set) outer rest
        | none => none
      else next (current.addPlain ranges) outer rest
    | none =>
      match openSet? f rest with
      | some (o, rest) => next o (current :: outer) rest
      | none => none
  | cs' =>
    match readRange? f cs' with
    | some (set, rest) => next (current.addPlain set) outer rest
    | none => none
termination_by cs.length

/-- Reads a set after its opening bracket. -/
def bracketed? (f : Flags) (cs : List Char) : Option (NestedSet × List Char) :=
  (openSet? f cs).bind fun (o, rest) => readSet? f o [] rest

end HyperSchema.Pattern
