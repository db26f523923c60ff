namespace HyperSchema

structure Settings where
  /-- Slot names refused besides the built-in ones. -/
  reservedSlotNames : List String := []
  schemaDirectory : Option String := none
  logFilter : String := "info"
  /-- The limit of collections that declare none. -/
  defaultResultLimit : Option Nat := none
deriving DecidableEq, Repr

end HyperSchema
