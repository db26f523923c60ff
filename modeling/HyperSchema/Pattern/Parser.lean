import HyperSchema.Pattern.Match
import HyperSchema.Pattern.Set
import HyperSchema.Pattern.Size
import HyperSchema.Text.Letters

namespace HyperSchema.Pattern
open Text Decimal

/-- A tree with how deeply it is nested as it was written: groups, repetitions, sets, sequences and
alternatives of several parts count as levels. -/
structure Piece where
  tree : Tree
  depth : Nat

/-- A part of a sequence. A group of flags alone matches nothing and cannot be repeated. -/
inductive Part where
  | piece (p : Piece)
  | flags

def Part.toPiece : Part → Piece
  | .piece p => p
  | .flags => ⟨.empty, 0⟩

/-- Several pieces are one level deeper than the deepest of them. -/
def Piece.join (f : List Tree → Tree) (pieces : List Piece) : Piece :=
  match pieces with
  | [p] => p
  | pieces =>
    let deepest := pieces.foldl (fun d p => max d p.depth) 0
    ⟨f (pieces.map (·.tree)), if pieces.isEmpty then 0 else deepest + 1⟩

/-- A group that has been opened; what it holds is kept in reverse. -/
structure Group where
  branches : List Piece := []
  parts : List Part := []
  /-- Whether the match is kept. -/
  kept : Bool := true
  /-- The flags to return to when the group ends. -/
  flagsAfter : Flags := {}

structure Parser where
  group : Group
  outer : List Group
  flags : Flags
  names : List String

namespace Group

def sequence (g : Group) : Piece := .join .concat (g.parts.reverse.map Part.toPiece)

def piece (g : Group) : Piece := .join .alternation ((g.sequence :: g.branches).reverse)

def branch (g : Group) : Group := { g with branches := g.sequence :: g.branches, parts := [] }

def push (g : Group) (p : Piece) : Group := { g with parts := .piece p :: g.parts }

/-- What the group is to the one around it. -/
def close (g : Group) : Piece :=
  let p := g.piece
  ⟨if g.kept then .group p.tree else p.tree, p.depth + 1⟩

end Group

namespace Parser

/-- Adds a piece that is not too deep. -/
def push? (p : Parser) (piece : Piece) : Option Parser :=
  if piece.depth ≤ depthLimit then some { p with group := p.group.push piece } else none

def pushPlain (p : Parser) (t : Tree) : Parser := { p with group := p.group.push ⟨t, 0⟩ }

/-- Repeats the last part, if there is one that can be. -/
def repeatLast? (p : Parser) (least : Nat) (most : Option Nat) (eager : Bool) : Option Parser :=
  match p.group.parts with
  | .piece last :: earlier =>
    { p with group := { p.group with parts := earlier } }.push?
      ⟨.repetition last.tree least most eager, last.depth + 1⟩
  | _ => none

def openGroup (p : Parser) (kept : Bool) (flags : Flags) : Parser :=
  { p with group := { kept, flagsAfter := p.flags }, outer := p.group :: p.outer, flags := flags }

def closeGroup? (p : Parser) : Option Parser :=
  match p.outer with
  | [] => none
  | parent :: outer =>
    { p with group := parent, outer := outer, flags := p.group.flagsAfter }.push? p.group.close

end Parser

/-- A question mark after a repetition turns its preference around. -/
def readPreference (f : Flags) (cs : List Char) : Bool × List Char :=
  match cs with
  | '?' :: rest => (f.lazy, rest)
  | _ => (!f.lazy, cs)

def countLimit : Nat := UInt32.size

/-- A count with blanks around it. -/
def readCount? (f : Flags) (cs : List Char) : Option (Nat × List Char) :=
  let (digits, rest) := readWhile f (fun c => (digit? c).isSome) (cs.dropWhile isBlank)
  if digits.isEmpty then none
  else (natOfDigits? digits).bind fun n =>
    if n < countLimit then some (n, skipSpaced f (rest.dropWhile isBlank)) else none

/-- Reads the counts of a repetition after its brace. -/
def readCounts? (f : Flags) (cs : List Char) : Option (Nat × Option Nat × List Char) := do
  let (least, rest) ← readCount? f (skipSpaced f cs)
  match rest with
  | '\x7d' :: rest => some (least, some least, rest)
  | ',' :: rest =>
    match skipSpaced f rest with
    | '\x7d' :: rest => some (least, none, rest)
    | rest =>
      match ← readCount? f rest with
      | (most, '\x7d' :: rest) => if least ≤ most then some (least, some most, rest) else none
      | _ => none
  | _ => none

/-- Flags up to a colon or a closing bracket; a dash turns those after it off. -/
def readFlags? (on : Bool) (met : List Char) (f : Flags) : List Char → Option (Flags × List Char)
  | [] => none
  | c :: cs =>
    if c = ':' ∨ c = ')' then if met.head? = some '-' then none else some (f, c :: cs)
    else if c ∈ met then none
    else match c with
      | '-' => readFlags? false (c :: met) f cs
      | 'i' => readFlags? on (c :: met) { f with ignoreCase := on } cs
      | 'm' => readFlags? on (c :: met) { f with multiLine := on } cs
      | 's' => readFlags? on (c :: met) { f with dotAll := on } cs
      | 'U' => readFlags? on (c :: met) { f with lazy := on } cs
      | 'u' => readFlags? on (c :: met) { f with wide := on } cs
      | 'R' => readFlags? on (c :: met) { f with returns := on } cs
      | 'x' => readFlags? on (c :: met) { f with spaced := on } cs
      | _ => none

def isNameStart (c : Char) : Bool := c == '_' || isLetter c

def isNameChar (c : Char) : Bool :=
  c == '_' || c == '.' || c == '[' || c == ']' || isLetterOrNumeral c

/-- A new name for a group, up to the closing angle. -/
def readName? (names : List String) (cs : List Char) : Option (String × List Char) :=
  let chars := cs.takeWhile (· != '>')
  match chars, cs.dropWhile (· != '>') with
  | c :: more, _ :: rest =>
    let name := String.ofList chars
    if isNameStart c && more.all isNameChar && !names.contains name then some (name, rest)
    else none
  | _, _ => none

/-- Reads what follows an opening bracket. Looking ahead or behind is refused. -/
def readGroup? (p : Parser) (cs : List Char) : Option (Parser × List Char) :=
  let named (rest : List Char) : Option (Parser × List Char) :=
    (readName? p.names rest).map fun (name, rest) =>
      ({ p.openGroup true p.flags with names := name :: p.names }, rest)
  match cs with
  | '?' :: '=' :: _ | '?' :: '!' :: _ | '?' :: '<' :: '=' :: _ | '?' :: '<' :: '!' :: _ => none
  | '?' :: 'P' :: '<' :: rest => named rest
  | '?' :: '<' :: rest => named rest
  | '?' :: rest =>
    match readFlags? true [] p.flags rest with
    | some (flags, ':' :: after) => some (p.openGroup false flags, after)
    | some (flags, ')' :: after) =>
      if rest.head? = some ')' then none
      else
        let group := { p.group with parts := .flags :: p.group.parts }
        some ({ p with group := group, flags := flags }, after)
    | _ => none
  | rest => some (p.openGroup true p.flags, rest)

/-- A dot leaves out line ends, and leaving out is for wide sets only. -/
def dot? (f : Flags) : Option Tree :=
  let left : Ranges :=
    if f.dotAll then [] else if f.returns then [(10, 10), (13, 13)] else .single '\n'
  (f.negated? left).map .ofSet

def escapeTree (f : Flags) : Escape → Tree
  | .literal c => .ofSet (f.cased (.single c))
  | .set s => .ofSet s
  | .place p => .place p

/-- Reads one part of a pattern, a bar, or the start or end of a group. -/
def readPart? (p : Parser) : List Char → Option (Parser × List Char)
  | [] => none
  | c :: rest =>
    let f := p.flags
    let times (least : Nat) (most : Option Nat) (rest : List Char) : Option (Parser × List Char) :=
      let (eager, rest) := readPreference f rest
      (p.repeatLast? least most eager).map (·, rest)
    let put (t : Tree) : Option (Parser × List Char) := some (p.pushPlain t, rest)
    match c with
    | '(' => readGroup? p (skipSpaced f rest)
    | ')' => p.closeGroup?.map (·, rest)
    | '|' => some ({ p with group := p.group.branch }, rest)
    | '[' => do
      let (set, rest) ← bracketed? f rest
      (p.push? ⟨.ofSet set.set, set.depth⟩).map (·, rest)
    | '*' => times 0 none rest
    | '+' => times 1 none rest
    | '?' => times 0 (some 1) rest
    | '\x7b' => do
      let (least, most, rest) ← readCounts? f rest
      times least most (skipSpaced f rest)
    | '.' => (dot? f).bind put
    | '^' => put (.place (if f.multiLine then .lineStart f.returns else .textStart))
    | '$' => put (.place (if f.multiLine then .lineEnd f.returns else .textEnd))
    | '\\' => (readEscape? f rest).map fun (e, rest) => (p.pushPlain (escapeTree f e), rest)
    | c => put (.ofSet (f.cased (.single c)))

/-- Reads parts until the pattern ends, each of them at least one character long. -/
def readParts? (p : Parser) (cs : List Char) : Option Parser :=
  match skipSpaced p.flags cs with
  | [] => some p
  | cs' =>
    match readPart? p cs' with
    | some (p, rest) => if rest.length < cs.length then readParts? p rest else none
    | none => none
termination_by cs.length

/-- Reads a whole pattern whose groups are all closed. -/
def parse? (ignoreCase : Bool) (text : String) : Option Tree := do
  let p ← readParts? ⟨{}, [], { ignoreCase := ignoreCase }, []⟩ text.toList
  let piece := p.group.piece
  if p.outer.isEmpty && piece.depth ≤ depthLimit && piece.tree.fits then some piece.tree else none

end HyperSchema.Pattern

namespace HyperSchema

/-- A regular expression that has been read. -/
structure Regex where
  text : String
  tree : Pattern.Tree

namespace Regex

/-- Reads a pattern. Classes of characters by their Unicode properties are refused. -/
def compile? (text : String) (ignoreCase : Bool) : Option Regex :=
  (Pattern.parse? ignoreCase text).map (⟨text, ·⟩)

def isMatch (r : Regex) (probe : String) : Bool := r.tree.isMatch probe

end Regex

end HyperSchema
