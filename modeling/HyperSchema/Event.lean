import HyperSchema.ValueSource

namespace HyperSchema

inductive Level where
  | debug
  | info
  | warn
deriving DecidableEq, Repr

def Level.name : Level → String
  | debug => "DEBUG"
  | info => "INFO"
  | warn => "WARN"

/-- What happens while prototypes are compiled and used. -/
inductive Event where
  | prototypeFound (schema : SchemaId)
  | prototypeCompiled (schema : SchemaId) (slots keys bases : Nat)
  | prototypeFailed (schema : SchemaId) (failure : Failure)
  | comparableIgnored (schema : SchemaId) (slot : String)
  | criteriaCompiled (slot : String) (owner : SchemaId)
  | bindingsCompiled (slot : String) (owner : SchemaId) (bindings : Nat)
  | parameterAbsent (parameter : String)
  | pathInterrupted (path segment : String)
  | searchBuilt (slot : String) (reference : SchemaId) (and or projection : Nat)
deriving DecidableEq, Repr

inductive EventField where
  | text (s : String)
  | count (n : Nat)
deriving DecidableEq, Repr

namespace Event

def level : Event → Level
  | prototypeFound _ => .debug
  | prototypeCompiled .. => .info
  | prototypeFailed .. | comparableIgnored .. => .warn
  | criteriaCompiled .. | bindingsCompiled .. | parameterAbsent _ | pathInterrupted ..
  | searchBuilt .. => .debug

def message : Event → String
  | prototypeFound _ => "prototype cache hit"
  | prototypeCompiled .. => "compiled prototype"
  | prototypeFailed .. => "prototype compilation failed"
  | comparableIgnored .. => "ignoring unknown comparable slot"
  | criteriaCompiled .. => "compiled search criteria"
  | bindingsCompiled .. => "compiled link bindings"
  | parameterAbsent _ => "query parameter absent"
  | pathInterrupted .. => "referrer path interrupted by a missing value"
  | searchBuilt .. => "built search criteria"

def fields : Event → List (String × EventField)
  | prototypeFound schema => [("schema", .text schema.text)]
  | prototypeCompiled schema slots keys bases =>
    [("schema", .text schema.text), ("slots", .count slots), ("keys", .count keys),
      ("bases", .count bases)]
  | prototypeFailed schema failure =>
    [("schema", .text schema.text), ("error", .text failure.message)]
  | comparableIgnored schema slot => [("schema", .text schema.text), ("slot", .text slot)]
  | criteriaCompiled slot owner => [("slot", .text slot), ("owner", .text owner.text)]
  | bindingsCompiled slot owner bindings =>
    [("slot", .text slot), ("owner", .text owner.text), ("bindings", .count bindings)]
  | parameterAbsent parameter => [("parameter", .text parameter)]
  | pathInterrupted path segment => [("path", .text path), ("at", .text segment)]
  | searchBuilt slot reference and or projection =>
    [("slot", .text slot), ("reference", .text reference.text), ("and", .count and),
      ("or", .count or), ("projection", .count projection)]

end Event

/-- What there is to remark when a source has no value for a referrer. -/
def ValueSource.remark? (s : ValueSource) (referrer : Model) : Option Event :=
  match s.origin with
  | .constant _ => none
  | .parameter =>
    if (referrer.hints.queryParameter? s.text).isNone then some (.parameterAbsent s.text) else none
  | .path first rest =>
    (interruptedAt? (referrer.slotValue? first) rest).map fun segment =>
      .pathInterrupted s.text segment

end HyperSchema
