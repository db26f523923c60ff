import HyperSchema.Text.NameSet
import HyperSchema.ValueType

namespace HyperSchema

/-- How a link is followed. -/
inductive Method where
  | get
  | head
  | options
  | put
  | post
  | delete
  | patch
deriving DecidableEq, Repr

namespace Method

def name : Method → String
  | get => "GET"
  | head => "HEAD"
  | options => "OPTIONS"
  | put => "PUT"
  | post => "POST"
  | delete => "DELETE"
  | patch => "PATCH"

def all : List Method := [get, head, options, put, post, delete, patch]

def ofName? (s : String) : Option Method := all.find? (·.name == s)

/-- Methods that only read. -/
def isSafe : Method → Bool
  | get | head | options => true
  | _ => false

def isIdempotent : Method → Bool
  | put | delete => true
  | m => m.isSafe

end Method

inductive Operator where
  | equal
  | notEqual
  | lessThan
  | lessThanOrEqual
  | greaterThan
  | greaterThanOrEqual
  | regex
  | isThere
  | isNotThere
deriving DecidableEq, Repr

namespace Operator

def symbol : Operator → String
  | equal => "="
  | notEqual => "!="
  | lessThan => "<"
  | lessThanOrEqual => "<="
  | greaterThan => ">"
  | greaterThanOrEqual => ">="
  | regex => "~"
  | isThere => "exists"
  | isNotThere => "not exists"

def name : Operator → String
  | equal => "equal"
  | notEqual => "notEqual"
  | lessThan => "lessThan"
  | lessThanOrEqual => "lessThanOrEqual"
  | greaterThan => "greaterThan"
  | greaterThanOrEqual => "greaterThanOrEqual"
  | regex => "regex"
  | isThere => "exists"
  | isNotThere => "notExists"

def all : List Operator :=
  [equal, notEqual, lessThan, lessThanOrEqual, greaterThan, greaterThanOrEqual, regex, isThere,
    isNotThere]

def ofName? (s : String) : Option Operator := all.find? (·.name == s)

/-- Whether there is anything to compare with. -/
def needsValue : Operator → Bool
  | isThere | isNotThere => false
  | _ => true

end Operator

/-- Where a bound value is taken from. -/
inductive SourceKind where
  /-- A dotted path of slots, starting at the referrer. -/
  | referrerSlot
  /-- A query parameter among the referrer's hints. -/
  | queryParameter
  | constant
deriving DecidableEq, Repr

namespace SourceKind

def name : SourceKind → String
  | referrerSlot => "referrerSlot"
  | queryParameter => "queryParameter"
  | constant => "constant"

def all : List SourceKind := [referrerSlot, queryParameter, constant]

def ofName? (s : String) : Option SourceKind := all.find? (·.name == s)

end SourceKind

structure SourceDeclaration where
  kind : SourceKind
  text : String
deriving DecidableEq, Repr

/-- Limits on the values of a slot, as text until the type of the slot is known. -/
structure Constraints where
  minimum : Option String := none
  exclusiveMinimum : Bool := false
  maximum : Option String := none
  exclusiveMaximum : Bool := false
  minLength : Option Nat := none
  maxLength : Option Nat := none
  minSize : Option Nat := none
  maxSize : Option Nat := none
  divisor : Option String := none
  disallowed : List String := []
deriving DecidableEq, Repr

structure CriterionDeclaration where
  referenceSlot : String
  source : SourceDeclaration
  operator : Operator
  caseInsensitive : Bool := false
deriving DecidableEq, Repr

/-- Marks a slot that is filled by searching for documents. -/
structure CollectionDeclaration where
  linkRelation : Option String := none
  limit : Option Nat := none
  and : List CriterionDeclaration := []
  or : List CriterionDeclaration := []
deriving DecidableEq, Repr

structure SlotDeclaration where
  name : String
  valueType : ValueType
  title : String := ""
  description : String := ""
  aliases : List String := []
  searchable : Bool := false
  default : Option String := none
  constraints : Constraints := {}
  collection : Option CollectionDeclaration := none
  /-- The link slot whose target fills this slot. -/
  linkBinding : Option String := none
deriving DecidableEq, Repr

structure LinkDeclaration where
  name : String
  relation : String
  method : Method
  title : String := ""
  description : String := ""
  requestType : Option ValueType := none
  responseType : Option ValueType := none
  embedded : Bool := false
  /-- From slots of the response schema to the sources of their values, in ascending order. -/
  bindings : List (String × SourceDeclaration) := []
deriving DecidableEq, Repr

/-- A schema as declared. Bases, bounds and bindings are still text. -/
structure Schema where
  id : SchemaId
  version : Nat := 1
  title : String := ""
  description : String := ""
  readOnly : Bool := false
  bases : List SchemaId := []
  slots : List SlotDeclaration := []
  links : List LinkDeclaration := []
  /-- Ascending and distinct. -/
  keySlotNames : List String := []
  comparableSlotNames : List String := []
  /-- Ascending and distinct. -/
  tags : List String := []
deriving DecidableEq, Repr

namespace CollectionDeclaration

def addAnd (c : CollectionDeclaration) (criterion : CriterionDeclaration) : CollectionDeclaration :=
  { c with and := c.and ++ [criterion] }

def addOr (c : CollectionDeclaration) (criterion : CriterionDeclaration) : CollectionDeclaration :=
  { c with or := c.or ++ [criterion] }

end CollectionDeclaration

/-- Puts a binding at its place in ascending order, in place of one of the same name. -/
def insertByName (name : String) (a : α) : List (String × α) → List (String × α)
  | [] => [(name, a)]
  | (n, b) :: rest =>
    if name < n then (name, a) :: (n, b) :: rest
    else if name = n then (name, a) :: rest
    else (n, b) :: insertByName name a rest

def LinkDeclaration.bind (l : LinkDeclaration) (slot : String) (source : SourceDeclaration) :
    LinkDeclaration :=
  { l with bindings := insertByName slot source l.bindings }

namespace Schema

def addBase (s : Schema) (base : SchemaId) : Schema := { s with bases := s.bases ++ [base] }

def addSlot (s : Schema) (slot : SlotDeclaration) : Schema := { s with slots := s.slots ++ [slot] }

def addLink (s : Schema) (link : LinkDeclaration) : Schema := { s with links := s.links ++ [link] }

def addKey (s : Schema) (slot : String) : Schema :=
  { s with keySlotNames := Text.insertName slot s.keySlotNames }

def addComparable (s : Schema) (slot : String) : Schema :=
  { s with comparableSlotNames := s.comparableSlotNames ++ [slot] }

def addTag (s : Schema) (tag : String) : Schema := { s with tags := Text.insertName tag s.tags }

end Schema

end HyperSchema
