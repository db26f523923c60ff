namespace HyperSchema

inductive SlotKind where
  | property
  | collection
  | link
deriving DecidableEq, Repr

namespace SlotKind

def name : SlotKind → String
  | property => "property"
  | collection => "collection"
  | link => "link"

def rank : SlotKind → Nat
  | property => 0
  | collection => 1
  | link => 2

instance : Ord SlotKind := ⟨fun a b => compare a.rank b.rank⟩

end SlotKind

end HyperSchema
