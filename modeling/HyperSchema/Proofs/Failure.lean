import HyperSchema.Failure

namespace HyperSchema.CompileError

/-- The words of every error, written out. -/
def wording : CompileError → String
  | schemaNotFound schema => String.join ["Schema not found: ", schema.text]
  | cyclicInheritance schema cycle => String.join ["Schema ", schema.text,
      " inherits from itself through ", "[",
      ", ".intercalate (cycle.map fun id => String.join ["SchemaId(", Text.quoted id.text, ")"]),
      "]"]
  | duplicateLinkRelation schema relation first second => String.join ["Schema ", schema.text,
      ": link relation ", relation, " is claimed by both '", first, "' and '", second, "'"]
  | reservedSlotName schema slot => String.join ["Schema ", schema.text,
      ": slot name '", slot, "' is reserved"]
  | duplicateSlot schema slot => String.join ["Schema ", schema.text,
      ": slot '", slot, "' is declared more than once"]
  | slotKindConflict schema slot first second => String.join ["Schema ", schema.text,
      ": slot name '", slot, "' is declared both as a ", first.name, " and as a ", second.name]
  | notAModelList schema slot found => String.join ["Schema ", schema.text,
      ": collection slot '", slot, "' must be a list of models, found ", found.display]
  | conflictingBinding schema slot link => String.join ["Schema ", schema.text,
      ": collection slot '", slot, "' also declares a link binding to '", link, "'"]
  | invalidAlias schema slot byname reason => String.join ["Schema ", schema.text,
      ": alias '", byname, "' of slot '", slot, "' is invalid: ", reason]
  | unknownKeySlot schema slot => String.join ["Schema ", schema.text,
      ": key slot '", slot, "' does not exist"]
  | invalidConstraint schema slot reason => String.join ["Schema ", schema.text,
      ": slot '", slot, "' has an invalid constraint: ", reason]
  | invalidLimit schema slot limit => String.join ["Schema ", schema.text,
      ": collection slot '", slot, "' has limit ", toString limit, ", must be at least 1"]
  | embeddedUnsafeLink schema slot method => String.join ["Schema ", schema.text,
      ": link slot '", slot, "' is embedded but ", method, " is not a safe method"]
  | unboundLinkBinding schema slot => String.join ["Schema ", schema.text,
      ": link slot '", slot, "' declares bindings but has no response schema"]
  | unknownLinkSlot schema slot link => String.join ["Schema ", schema.text,
      ": slot '", slot, "' is bound to unknown link slot '", link, "'"]
  | unknownReferenceSlot schema slot => String.join ["Schema ", schema.text,
      ": reference slot '", slot, "' does not exist"]
  | unknownReferrerSlot schema slot => String.join ["Schema ", schema.text,
      ": referrer slot '", slot, "' does not exist"]
  | wrongSlotKind schema slot expected => String.join ["Schema ", schema.text,
      ": slot '", slot, "' is not a ", expected, " slot"]

theorem message_eq_wording (e : CompileError) : e.message = e.wording := by
  delta message
  cases e <;> simp [wording, within, ofSlot, ofCollection, ofLink, SchemaId.displayList,
    Text.joinWith, String.join_cons, String.append_assoc]

end HyperSchema.CompileError
