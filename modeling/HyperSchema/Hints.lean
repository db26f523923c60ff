import HyperSchema.Text.Pieces

namespace HyperSchema

/-- What a request asks of a model and of the documents that the model holds. -/
structure Hints where
  includedSlotNames : List String := []
  excludedSlotNames : List String := []
  embeddedLinkSlotNames : List String := []
  /-- Names are distinct. -/
  queryParameters : List (String × String) := []
  locale : Option String := none
  referrerUri : Option String := none
deriving DecidableEq, Repr

namespace Hints

/-- What remains of a dotted name inside `slot`. -/
def inside? (slot name : String) : Option String := Text.afterLead? (slot ++ ".") name

def namesInside (slot : String) (names : List String) : List String :=
  names.filterMap (inside? slot)

def parametersInside (slot : String) (parameters : List (String × String)) :
    List (String × String) :=
  parameters.filterMap fun (name, value) => (inside? slot name).map (·, value)

/-- The hints for the documents held by `slot`: only what is named under the slot, without the
slot's name in front. Locale and referrer stay. -/
def nested (h : Hints) (slot : String) : Hints where
  includedSlotNames := namesInside slot h.includedSlotNames
  excludedSlotNames := namesInside slot h.excludedSlotNames
  embeddedLinkSlotNames := namesInside slot h.embeddedLinkSlotNames
  queryParameters := parametersInside slot h.queryParameters
  locale := h.locale
  referrerUri := h.referrerUri

def queryParameter? (h : Hints) (name : String) : Option String := h.queryParameters.lookup name

end Hints

end HyperSchema
