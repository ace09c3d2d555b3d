import BeanMetrics.Agent.ReplyValue
import BeanMetrics.Registry.Snapshot

/-!
A snapshot put together from what was searched, listed and read. Entries that denote the same object
belong together, whatever the order of their key properties; of several the first one counts.
-/

namespace BeanMetrics
namespace Snapshot

def entryFor? {α : Type} (entries : List (ObjectName × α)) (name : ObjectName) : Option α :=
  (entries.find? fun (n, _) => n.sameObject name).map (·.2)

/-- The value of a described attribute, if it was read and is no fault. -/
def valueOf? (readings : List (String × Json)) (d : AttributeDescriptor) :
    Option (String × AttributeValue) :=
  match readings.lookup d.name with
  | some raw =>
    if ReplyValue.isFault raw d.declaredType then none
    else some (d.name, ReplyValue.attributeValue d.declaredType raw)
  | none => none

def assembleObject (listed : List ReplyValue.Listed) (read : List ReplyValue.Readings)
    (name : ObjectName) : SnapshotObject :=
  let descriptors := entryFor? listed name
  let values := match descriptors, entryFor? read name with
    | some descriptors, some readings => (descriptors.filterMap (valueOf? readings)).reverse
    | _, _ => []
  { name, descriptors, values }

/-- The snapshot of the names that were searched. -/
def assemble (names : List ObjectName) (listed : List ReplyValue.Listed)
    (read : List ReplyValue.Readings) : Snapshot :=
  ⟨names.map (assembleObject listed read), none⟩

end Snapshot
end BeanMetrics
