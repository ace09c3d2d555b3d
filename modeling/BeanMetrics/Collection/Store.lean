import BeanMetrics.Attribute.Value
import BeanMetrics.Recorder.Node

/-!
The last value read of every attribute, beside the metrics. The key of an attribute is made of the
kind of its object and its name. Later values replace earlier ones.
-/

namespace BeanMetrics

structure Store where
  entries : List (String × AttributeValue)
  deriving Inhabited, Repr

namespace Store

def empty : Store := ⟨[]⟩

def key (kind attr : String) : String := kind ++ "_" ++ attr

/-- The key of the flag that says whether the node is ready. -/
def readyKey : String := key NodeStatus.kind NodeStatus.readyAttribute

def setEntry (key : String) (value : AttributeValue) :
    List (String × AttributeValue) → List (String × AttributeValue)
  | [] => [(key, value)]
  | (k, v) :: rest => if k = key then (key, value) :: rest else (k, v) :: setEntry key value rest

def put (s : Store) (key : String) (value : AttributeValue) : Store :=
  ⟨setEntry key value s.entries⟩

def putAll (s : Store) (writes : List (String × AttributeValue)) : Store :=
  writes.foldl (fun s (key, value) => s.put key value) s

def get? (s : Store) (key : String) : Option AttributeValue := s.entries.lookup key

def size (s : Store) : Nat := s.entries.length

end Store
end BeanMetrics
