import BeanMetrics.Registry.Basic

/-!
A registry held in memory. Objects are kept in the order in which they were added; a name finds the
first object that it denotes, whatever the order of its key properties. A snapshot may also stand
for a registry that could not be reached, and then resolves nothing.
-/

namespace BeanMetrics

/-- An object of a snapshot. Without descriptors it cannot be described; of two values for one
attribute the later one counts, and it is the first in the list. -/
structure SnapshotObject where
  name : ObjectName
  descriptors : Option (List AttributeDescriptor)
  values : List (String × AttributeValue)
  deriving Inhabited, Repr

structure Snapshot where
  objects : List SnapshotObject
  unavailable : Option String
  deriving Inhabited, Repr

namespace SnapshotObject

def named (name : ObjectName) : SnapshotObject := ⟨name, some [], []⟩

def withDescriptor (object : SnapshotObject) (d : AttributeDescriptor) : SnapshotObject :=
  { object with descriptors := some (object.descriptors.getD [] ++ [d]) }

/-- The object with one attribute more and its value. -/
def withAttribute (object : SnapshotObject) (d : AttributeDescriptor) (value : AttributeValue) :
    SnapshotObject :=
  { object.withDescriptor d with values := (d.name, value) :: object.values }

/-- The object with one attribute more, to which no value is added. -/
def withFailingAttribute (object : SnapshotObject) (d : AttributeDescriptor) : SnapshotObject :=
  object.withDescriptor d

/-- The object, no longer to be described. -/
def withoutDescriptors (object : SnapshotObject) : SnapshotObject :=
  { object with descriptors := none }

end SnapshotObject

namespace Snapshot

def empty : Snapshot := ⟨[], none⟩

def unreachable (reason : String) : Snapshot := ⟨[], some reason⟩

def add (s : Snapshot) (object : SnapshotObject) : Snapshot :=
  { s with objects := s.objects ++ [object] }

def size (s : Snapshot) : Nat := s.objects.length

/-- The first object that a name denotes. -/
def find? (s : Snapshot) (name : ObjectName) : Option SnapshotObject :=
  s.objects.find? fun object => object.name.sameObject name

def resolve (s : Snapshot) (pattern : Pattern) : Except RegistryError (List ObjectName) :=
  match s.unavailable with
  | some reason => .error (.unavailable reason)
  | none => .ok ((s.objects.map (·.name)).filter pattern.accepts)

def describe (s : Snapshot) (name : ObjectName) : Except RegistryError (List AttributeDescriptor) :=
  match (s.find? name).bind (·.descriptors) with
  | some descriptors => .ok descriptors
  | none => .error (.instanceNotFound name.text)

def read (s : Snapshot) (name : ObjectName) (attr : String) :
    Except RegistryError AttributeValue :=
  match (s.find? name).bind (·.values.lookup attr) with
  | some value => .ok value
  | none => .error (.attributeUnavailable name.text attr)

def registry (s : Snapshot) : Registry := ⟨s.resolve, s.describe, s.read⟩

end Snapshot
end BeanMetrics
