import BeanMetrics.Agent.Error
import BeanMetrics.Attribute.Descriptor
import BeanMetrics.Attribute.Value
import BeanMetrics.Json.Basic
import BeanMetrics.ObjectName.Pattern

/-!
The values of replies: the names that a search found, the attributes that a listing knows, and the
values that were read. Names that are none are passed over.
-/

namespace BeanMetrics
namespace ReplyValue

/-- An object with the attributes listed for it. -/
abbrev Listed := ObjectName × List AttributeDescriptor

/-- An object with the values read of it, under the names of the attributes. -/
abbrev Readings := ObjectName × List (String × Json)

def searched : Json → Except AgentError (List ObjectName)
  | .array elements => .ok ((elements.filterMap Json.string?).filterMap ObjectName.ofText?)
  | _ => .error (.malformed "search value is not an array")

/-- The text under a key of an object; empty if there is none. -/
def textUnder (key : String) (value : Json) : String :=
  ((value.get? key).bind Json.string?).getD ""

/-- The descriptors in the entry of one object, in the order of the attributes' names. -/
def descriptorsOf (entry : Json) : List AttributeDescriptor :=
  (((entry.get? "attr").bind Json.object?).getD []).map fun (name, about) =>
    { name
      declaredType := textUnder "type" about
      description := textUnder "desc" about
      readable := true }

/-- The objects of a domain in the listing, which has an entry for each list of key properties. -/
def listed (domain : String) : Json → Except AgentError (List Listed)
  | .object entries => .ok <| entries.filterMap fun (properties, entry) =>
    (ObjectName.ofText? (domain ++ ":" ++ properties)).map (·, descriptorsOf entry)
  | _ => .error (.malformed "list value is not an object")

/-- The values read: of many objects under their names if the pattern may match several, and
otherwise of the one object `mbean`. -/
def read (pattern : Pattern) (mbean : String) : Json → Except AgentError (List Readings)
  | .object entries =>
    if pattern.isPattern then
      .ok <| entries.filterMap fun (name, values) =>
        (ObjectName.ofText? name).map (·, values.object?.getD [])
    else match ObjectName.ofText? mbean with
      | some name => .ok [(name, entries)]
      | none => .error (.invalidObjectName mbean)
  | _ => .error (.malformed "read value is not an object")

def faultMark : String := "ERROR: "

/-- Declared types of attributes whose values are texts. -/
def isTextType (declaredType : String) : Bool :=
  declaredType = "" || declaredType = "java.lang.String" || declaredType = "String"

/-- Whether a value only reports that the attribute could not be read. -/
def isFault (value : Json) (declaredType : String) : Bool :=
  match value with
  | .string s => !isTextType declaredType || Text.startsWith faultMark.toList s.toList
  | _ => false

/-- How the declared type of an array of records begins. -/
def recordArrayType : String := "[Ljavax.management.openmbean.CompositeData"

def isObject : Json → Bool
  | .object _ => true
  | _ => false

mutual

/-- The attribute value that a JSON value stands for. An array is one of records if all its elements
are objects and it either has elements or is declared so. -/
def attributeValue (declaredType : String) : Json → AttributeValue
  | .null => .null
  | .boolean b => .boolean b
  | .number n => .number n.toBinary64
  | .string s => .string s
  | .object members => .composite (fieldsOf members)
  | .array elements =>
    if elements.all isObject &&
        (Text.startsWith recordArrayType.toList declaredType.toList || !elements.isEmpty) then
      .compositeArray (recordsOf elements)
    else .unsupported

def fieldsOf : List (String × Json) → List (String × AttributeValue)
  | [] => []
  | (key, value) :: members => (key, attributeValue "" value) :: fieldsOf members

def recordsOf : List Json → List (List (String × AttributeValue))
  | .object members :: elements => fieldsOf members :: recordsOf elements
  | _ :: elements => recordsOf elements
  | [] => []

end

end ReplyValue
end BeanMetrics
