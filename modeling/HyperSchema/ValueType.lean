import HyperSchema.Text.Pieces

namespace HyperSchema

/-- The identifier of a schema. -/
structure SchemaId where
  text : String
deriving DecidableEq, Repr

instance : Ord SchemaId := ⟨fun a b => compare a.text b.text⟩

/-- What a slot holds. -/
inductive ValueType where
  | boolean
  | integer
  | long
  | double
  | text
  | date
  | link
  | choice (options : List String)
  | model (schema : SchemaId)
  | list (element : ValueType)
  | native (name : String)
deriving DecidableEq, Repr

namespace ValueType

def listOfModels (schema : SchemaId) : ValueType := .list (.model schema)

def name : ValueType → String
  | boolean => "Boolean"
  | integer => "Integer"
  | long => "Long"
  | double => "Double"
  | text => "Text"
  | date => "Date"
  | link => "Link"
  | choice _ => "Choice"
  | model _ => "Model"
  | list _ => "List"
  | native _ => "Native"

def display : ValueType → String
  | choice options => "Choice(" ++ Text.joinWith "|" options ++ ")"
  | model schema => "Model<" ++ schema.text ++ ">"
  | list element => "List<" ++ element.display ++ ">"
  | native n => "Native<" ++ n ++ ">"
  | t => t.name

def isIntegral : ValueType → Bool
  | integer | long => true
  | _ => false

def isNumeric : ValueType → Bool
  | integer | long | double => true
  | _ => false

def element? : ValueType → Option ValueType
  | list element => some element
  | _ => none

/-- The schema of a model or of a list of models. -/
def referencedSchema? : ValueType → Option SchemaId
  | model schema | list (model schema) => some schema
  | _ => none

def isListOfModels : ValueType → Bool
  | list (model _) => true
  | _ => false

def isModel : ValueType → Bool
  | model _ => true
  | _ => false

def rank : ValueType → Nat
  | boolean => 0
  | integer => 1
  | long => 2
  | double => 3
  | text => 4
  | date => 5
  | link => 6
  | choice _ => 7
  | model _ => 8
  | list _ => 9
  | native _ => 10

/-- By rank, and within one rank by what the type carries. -/
def order : ValueType → ValueType → Ordering
  | choice a, choice b => compare a b
  | model a, model b => compare a b
  | list a, list b => order a b
  | native a, native b => compare a b
  | a, b => compare a.rank b.rank

instance : Ord ValueType := ⟨order⟩

end ValueType

end HyperSchema
