/-!
What a registry says about an attribute before it is read.
-/

namespace BeanMetrics

structure AttributeDescriptor where
  name : String
  /-- The declared type, for instance `long`; empty when it is not known. -/
  declaredType : String
  description : String
  readable : Bool
  deriving DecidableEq, Inhabited, Repr

end BeanMetrics
