import BeanMetrics.Text.Split

/-!
Names of managed objects, written `domain:key=value,key=value`. The order of the key properties is
kept; the value of the first one says of what kind the object is. Quoted values are not known: a
comma always separates and the first `=` always ends a key.
-/

namespace BeanMetrics

structure ObjectName where
  domain : String
  properties : List (String × String)
  deriving DecidableEq, Inhabited, Repr

namespace ObjectName

/-- The value of the first key property: the kind of the object. -/
def primary? (name : ObjectName) : Option String := name.properties.head?.map (·.2)

/-- The kind of the object, empty when there is no key property. -/
def kind (name : ObjectName) : String := name.primary?.getD ""

def property? (name : ObjectName) (key : String) : Option String := name.properties.lookup key

def propertyChars (property : String × String) : List Char :=
  property.1.toList ++ '=' :: property.2.toList

/-- The key properties as they are written, without the domain. -/
def keyPropertyList (name : ObjectName) : String :=
  String.ofList (Text.join [','] (name.properties.map propertyChars))

def text (name : ObjectName) : String := name.domain ++ ":" ++ name.keyPropertyList

/-- The pairs of a comma-separated list of `key=value`, if every key is there and no two are
equal. The empty text is the empty list. -/
def properties? (s : List Char) : Option (List (String × String)) :=
  if s = [] then some []
  else do
    let pairs ← (Text.splitAll ',' s).mapM (Text.splitFirst '=')
    let keys := pairs.map (·.1)
    if [] ∉ keys ∧ keys.Pairwise (· ≠ ·) then
      return pairs.map fun (key, value) => (String.ofList key, String.ofList value)
    else none

def isWildcard (c : Char) : Bool := c = '*' || c = '?'

/-- The name that a text denotes: a domain without wildcards, and at least one key property. -/
def ofText? (text : String) : Option ObjectName := do
  let (domain, list) ← Text.splitFirst ':' text.toList
  if domain = [] ∨ domain.any isWildcard then none
  else
    let properties ← properties? list
    if properties = [] then none else return ⟨String.ofList domain, properties⟩

/-- The same domain and the same key properties in any order, as far as one name can be looked up
in the other. -/
def sameObject (a b : ObjectName) : Bool :=
  decide (a.domain = b.domain) && decide (a.properties.length = b.properties.length) &&
    a.properties.all fun (key, value) => b.property? key == some value

end ObjectName
end BeanMetrics
