import HyperSchema.Json.Number

namespace HyperSchema.Json
open Decimal

inductive Token where
  | openArray
  | closeArray
  | openObject
  | closeObject
  | comma
  | colon
  | leaf (j : Json)
  /-- Text that holds half of a surrogate pair. -/
  | unreadableText

/-- Text read so far between two quotes. -/
structure Spelling where
  chars : List Char := []
  /-- The first half of a surrogate pair whose second half must come next. -/
  high : Option Nat := none
  whole : Bool := true

namespace Spelling

/-- A waiting first half that is not completed leaves the text without a value. -/
def settle (s : Spelling) : Spelling :=
  if s.high.isSome then { s with high := none, whole := false } else s

def push (s : Spelling) (c : Char) : Spelling :=
  let s := s.settle
  { s with chars := c :: s.chars }

/-- Takes a code unit written in hexadecimal. -/
def pushUnit (s : Spelling) (u : Nat) : Spelling :=
  match s.high with
  | some h =>
    if 0xDC00 ≤ u ∧ u < 0xE000 then
      { s with
        high := none
        chars := Char.ofNat (0x10000 + (h - 0xD800) * 0x400 + (u - 0xDC00)) :: s.chars }
    else { s with high := none, whole := false }
  | none =>
    if 0xD800 ≤ u ∧ u < 0xDC00 then { s with high := some u }
    else if 0xDC00 ≤ u ∧ u < 0xE000 then { s with whole := false }
    else s.push (Char.ofNat u)

def text? (s : Spelling) : Option String :=
  let s := s.settle
  if s.whole then some (String.ofList s.chars.reverse) else none

end Spelling

/-- Where the reader stands. Letters and digits are kept in reverse. -/
inductive Mode where
  | between
  | word (letters : List Char)
  | number (spelt : List Char)
  | string (s : Spelling)
  | escape (s : Spelling)
  | hex (s : Spelling) (left : Nat) (value : Nat)

structure Lexer where
  mode : Mode
  /-- Latest first. -/
  tokens : List Token

def isNumberChar (c : Char) : Bool :=
  isDigit c || c == '+' || c == '-' || c == '.' || c == 'e' || c == 'E'

def isLetter (c : Char) : Bool := 'a' ≤ c && c ≤ 'z'

def wordToken? (letters : List Char) : Option Token :=
  match String.ofList letters.reverse with
  | "null" => some (.leaf .null)
  | "true" => some (.leaf (.bool true))
  | "false" => some (.leaf (.bool false))
  | _ => none

def numberToken? (spelt : List Char) : Option Token := (number? spelt.reverse).map .leaf

def stringToken (s : Spelling) : Token :=
  match s.text? with
  | some t => .leaf (.string t)
  | none => .unreadableText

def hexDigit? (c : Char) : Option Nat :=
  if isDigit c then digit? c
  else if 'a' ≤ c ∧ c ≤ 'f' then some (c.toNat - 'a'.toNat + 10)
  else if 'A' ≤ c ∧ c ≤ 'F' then some (c.toNat - 'A'.toNat + 10)
  else none

def escaped? (c : Char) : Option Char :=
  match c with
  | '"' => some '"'
  | '\\' => some '\\'
  | '/' => some '/'
  | 'b' => some '\x08'
  | 'f' => some '\x0c'
  | 'n' => some '\n'
  | 'r' => some '\r'
  | 't' => some '\t'
  | _ => none

/-- The next character outside of words, numbers and strings. -/
def Lexer.stepBetween (tokens : List Token) (c : Char) : Option Lexer :=
  match c with
  | ' ' | '\t' | '\n' | '\r' => some ⟨.between, tokens⟩
  | '[' => some ⟨.between, .openArray :: tokens⟩
  | ']' => some ⟨.between, .closeArray :: tokens⟩
  | '\x7b' => some ⟨.between, .openObject :: tokens⟩
  | '\x7d' => some ⟨.between, .closeObject :: tokens⟩
  | ',' => some ⟨.between, .comma :: tokens⟩
  | ':' => some ⟨.between, .colon :: tokens⟩
  | '"' => some ⟨.string {}, tokens⟩
  | c =>
    if isDigit c || c == '-' then some ⟨.number [c], tokens⟩
    else if isLetter c then some ⟨.word [c], tokens⟩
    else none

def Lexer.step (l : Lexer) (c : Char) : Option Lexer :=
  match l.mode with
  | .between => stepBetween l.tokens c
  | .word letters =>
    if isLetter c then some ⟨.word (c :: letters), l.tokens⟩
    else (wordToken? letters).bind fun t => stepBetween (t :: l.tokens) c
  | .number spelt =>
    if isNumberChar c then some ⟨.number (c :: spelt), l.tokens⟩
    else (numberToken? spelt).bind fun t => stepBetween (t :: l.tokens) c
  | .string s =>
    if c == '"' then some ⟨.between, stringToken s :: l.tokens⟩
    else if c == '\\' then some ⟨.escape s, l.tokens⟩
    else if c.toNat < 0x20 then none
    else some ⟨.string (s.push c), l.tokens⟩
  | .escape s =>
    if c == 'u' then some ⟨.hex s 4 0, l.tokens⟩
    else (escaped? c).map fun e => ⟨.string (s.push e), l.tokens⟩
  | .hex s left value =>
    (hexDigit? c).map fun d =>
      let value := 16 * value + d
      if left ≤ 1 then ⟨.string (s.pushUnit value), l.tokens⟩
      else ⟨.hex s (left - 1) value, l.tokens⟩

def Lexer.finish (l : Lexer) : Option (List Token) :=
  match l.mode with
  | .between => some l.tokens.reverse
  | .word letters => (wordToken? letters).map fun t => (t :: l.tokens).reverse
  | .number spelt => (numberToken? spelt).map fun t => (t :: l.tokens).reverse
  | _ => none

def tokens? (cs : List Char) : Option (List Token) :=
  (cs.foldlM Lexer.step ⟨.between, []⟩).bind Lexer.finish

end HyperSchema.Json
