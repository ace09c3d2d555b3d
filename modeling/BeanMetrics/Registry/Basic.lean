import BeanMetrics.Attribute.Descriptor
import BeanMetrics.Attribute.Value
import BeanMetrics.ObjectName.Pattern

/-!
A registry of managed objects, as three questions that fail independently: which names match a
pattern, which attributes an object has, and what the value of one attribute is.
-/

namespace BeanMetrics

inductive RegistryError where
  | malformedPattern (pattern : String)
  | unavailable (reason : String)
  | instanceNotFound (object : String)
  | attributeUnavailable (object attr : String)
  deriving DecidableEq, Repr

def RegistryError.message : RegistryError → String
  | .malformedPattern pattern => "Malformed object name pattern '" ++ pattern ++ "'"
  | .unavailable reason => "Registry unavailable: " ++ reason
  | .instanceNotFound object => "Instance not found: " ++ object
  | .attributeUnavailable object attr =>
    "Cannot read attribute '" ++ attr ++ "' of " ++ object

/-- The pattern that a text denotes. A text that denotes none is a malformed pattern. -/
def Pattern.ofText (text : String) : Except RegistryError Pattern :=
  match ofText? text with
  | some p => .ok p
  | none => .error (.malformedPattern text)

structure Registry where
  resolve : Pattern → Except RegistryError (List ObjectName)
  describe : ObjectName → Except RegistryError (List AttributeDescriptor)
  read : ObjectName → String → Except RegistryError AttributeValue

end BeanMetrics
