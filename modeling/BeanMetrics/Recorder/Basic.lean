import BeanMetrics.Attribute.Value
import BeanMetrics.Metric.Sample

/-!
What recorders are given and what they answer. A recorder knows the attributes of one kind of
object. It consumes a value, and then says which samples come of it; or declines it; or does not
implement its form at all, which is a violation of the contract between the registry and the
recorder.
-/

namespace BeanMetrics

/-- A value as recorders see it: booleans are the numbers one and zero, and values that say nothing
are none. -/
inductive Payload where
  | number (n : Binary64)
  | string (s : String)
  | composite (record : CompositeRecord)
  | compositeArray (records : List CompositeRecord)
  deriving Inhabited, Repr

def Payload.kind : Payload → ValueKind
  | .number _ => .number
  | .string _ => .string
  | .composite _ => .composite
  | .compositeArray _ => .compositeArray

def Binary64.ofBool (b : Bool) : Binary64 := if b then .one else .zero

def AttributeValue.payload? : AttributeValue → Option Payload
  | .number n => some (.number n)
  | .boolean b => some (.number (.ofBool b))
  | .string s => some (.string s)
  | .composite fields => some (.composite fields)
  | .compositeArray records => some (.compositeArray records)
  | .null => none
  | .unsupported => none

inductive Verdict (α : Type) where
  | consumed (result : α)
  | declined
  | notImplemented
  deriving Repr

namespace Verdict

def map {α β : Type} (f : α → β) : Verdict α → Verdict β
  | consumed result => consumed (f result)
  | declined => declined
  | notImplemented => notImplemented

/-- Consumed with a result, declined without one. -/
def ofOption {α : Type} : Option α → Verdict α
  | some result => consumed result
  | none => declined

end Verdict

/-- A recorder was handed a form of value that it does not implement. -/
structure RecorderError where
  recorder : String
  kind : ValueKind
  attr : String
  deriving DecidableEq, Repr

def RecorderError.message (e : RecorderError) : String :=
  e.recorder ++ " cannot be called with " ++ e.kind.name ++ " value (attribute '" ++ e.attr ++ "')"

def CompositeRecord.numbers (record : CompositeRecord) : List (String × Binary64) :=
  record.filterMap fun (field, value) => value.number?.map (field, ·)

def Emission.gauge (help : String) (sample : Sample) : Emission := ⟨sample, .gauge, help⟩

end BeanMetrics
