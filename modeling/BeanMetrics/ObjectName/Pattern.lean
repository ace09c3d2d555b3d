import BeanMetrics.ObjectName.Basic
import BeanMetrics.ObjectName.Glob

/-!
Patterns of object names: a name whose domain and property values are globs, and in whose list of
key properties the element `*` admits further properties. A pattern is equal to another one if both
are written alike.
-/

namespace BeanMetrics

structure Pattern where
  text : String
  domain : Glob
  properties : List (String × Glob)
  /-- Whether a name may have more key properties than are listed. -/
  openEnded : Bool
  deriving Inhabited, Repr

namespace Pattern

/-- The pattern that a text denotes. The elements `*` are taken out of the property list and the
others are read as one list again. No glob is refused, as all of them can be compiled. -/
def ofText? (text : String) : Option Pattern := do
  let (domain, list) ← Text.splitFirst ':' text.toList
  if domain = [] then none
  else
    let elements := Text.splitAll ',' list
    let openEnded := elements.contains ['*']
    let listed := elements.filter (· ≠ ['*'])
    let properties ← ObjectName.properties? (Text.join [','] listed)
    if properties = [] ∧ openEnded = false then none
    else return {
      text
      domain := ⟨String.ofList domain⟩
      properties := properties.map fun (key, value) => (key, ⟨value⟩)
      openEnded }

def isPattern (p : Pattern) : Bool :=
  p.openEnded || p.domain.isWildcard || p.properties.any fun (_, glob) => glob.isWildcard

/-- Whether a name matches: its domain does, every listed property is there with a matching value,
and there are no others unless the pattern is open-ended. -/
def accepts (p : Pattern) (name : ObjectName) : Bool :=
  p.domain.accepts name.domain &&
    (p.properties.all fun (key, glob) =>
      match name.property? key with
      | some value => glob.accepts value
      | none => false) &&
    (p.openEnded || decide (name.properties.length = p.properties.length))

instance : BEq Pattern := ⟨fun p q => p.text == q.text⟩

end Pattern
end BeanMetrics
