import BeanMetrics.Collection.Store
import BeanMetrics.Metric.Name
import BeanMetrics.Recorder.Kinds
import BeanMetrics.Registry.Basic

/-!
One pass over a registry. It walks the matching objects of a registry and their attributes in order.
Each step has an effect: emissions, writes to the store, and counts. A step may also end the pass,
when a recorder is handed a form of value that it does not implement; the effects up to then remain.
-/

namespace BeanMetrics

structure Settings where
  /-- The domain of the objects. -/
  sourceDomain : String
  /-- The pattern of the key properties within the domain. -/
  pattern : String
  /-- What takes the place of the source domain in the names of metrics. -/
  namespaceName : String
  deriving DecidableEq, Inhabited, Repr

namespace Settings

def default : Settings := ⟨"io.crate.monitoring", "*", "crate"⟩

/-- The pattern of whole object names. -/
def objectPattern (s : Settings) : String := s.sourceDomain ++ ":" ++ s.pattern

end Settings

structure Effect where
  emissions : List Emission
  writes : List (String × AttributeValue)
  /-- Objects whose attributes could be listed. -/
  objects : Nat
  /-- Failed listings and failed reads. -/
  attributeErrors : Nat
  /-- Values read of which no sample was made. -/
  valuesDropped : Nat
  deriving Inhabited, Repr

namespace Effect

def none : Effect := ⟨[], [], 0, 0, 0⟩

def emit (emissions : List Emission) : Effect := { none with emissions }

def write (key : String) (value : AttributeValue) : Effect := { none with writes := [(key, value)] }

def oneObject : Effect := { none with objects := 1 }

def oneError : Effect := { none with attributeErrors := 1 }

def oneDropped : Effect := { none with valuesDropped := 1 }

def append (a b : Effect) : Effect :=
  { emissions := a.emissions ++ b.emissions
    writes := a.writes ++ b.writes
    objects := a.objects + b.objects
    attributeErrors := a.attributeErrors + b.attributeErrors
    valuesDropped := a.valuesDropped + b.valuesDropped }

instance : Append Effect := ⟨append⟩

end Effect

/-- A part of a pass: its effect, the state of the recorders after it, and the violation that ended
the pass, if one did. -/
structure Run where
  effect : Effect
  recorders : Recorders
  violation : Option RecorderError
  deriving Inhabited, Repr

namespace Run

/-- A part that only has an effect. -/
def having (effect : Effect) (r : Recorders) : Run := ⟨effect, r, none⟩

/-- One part after another, unless the first one ended the pass. -/
def andThen (run : Run) (next : Recorders → Run) : Run :=
  match run.violation with
  | some _ => run
  | none =>
    let rest := next run.recorders
    ⟨run.effect ++ rest.effect, rest.recorders, rest.violation⟩

def each {α : Type} (step : α → Recorders → Run) : List α → Recorders → Run
  | [], r => having .none r
  | a :: as, r => (step a r).andThen (each step as)

end Run

namespace Pass

/-- The domain of an object with the namespace in place of the source domain. -/
def metricDomain (s : Settings) (object : ObjectName) : String :=
  String.ofList (Text.replaceAll s.sourceDomain.toList s.namespaceName.toList object.domain.toList)

/-- The name of a metric for which there is no recorder: the domain, the kind of the object and the
attribute. -/
def fallbackName (s : Settings) (object : ObjectName) (d : AttributeDescriptor) : String :=
  MetricName.snake (MetricName.joinComponents [metricDomain s object, object.kind, d.name])

/-- The emission of a number for which there is no recorder: an untyped sample without labels. -/
def fallbackEmission (s : Settings) (object : ObjectName) (d : AttributeDescriptor)
    (n : Binary64) : Emission :=
  let help := d.description ++ " (" ++ object.domain ++
    MetricName.angleBrackets object.properties ++ d.name ++ ")"
  ⟨.unlabeled (fallbackName s object d) n, .untyped, help⟩

/-- What comes of a value for which there is no recorder. A string names something or gives a
version; it is no metric, and nothing is lost when it is passed over. -/
def fallback (s : Settings) (object : ObjectName) (d : AttributeDescriptor) :
    AttributeValue → Effect
  | .number n => .emit [fallbackEmission s object d n]
  | .boolean b => .emit [fallbackEmission s object d (.ofBool b)]
  | .string _ => .none
  | _ => .oneDropped

/-- Makes samples of a value that says something. -/
def valueStep (s : Settings) (object : ObjectName) (d : AttributeDescriptor)
    (value : AttributeValue) (r : Recorders) : Run :=
  match Recorder.ofKind? object.kind with
  | none => .having (fallback s object d value) r
  | some recorder =>
    match r.record recorder s.namespaceName d.name value with
    | .ok (some recorded) => .having (.emit recorded.emissions) recorded.recorders
    | .ok none => .having .oneDropped r
    | .error violation => ⟨.none, r, some violation⟩

/-- Whether a value says nothing: it is dropped before it reaches the store. -/
def isVoid : AttributeValue → Bool
  | .null | .unsupported => true
  | _ => false

def attributeStep (s : Settings) (registry : Registry) (object : ObjectName)
    (d : AttributeDescriptor) (r : Recorders) : Run :=
  if d.readable = false then .having .none r
  else match registry.read object d.name with
    | .error _ => .having .oneError r
    | .ok value =>
      if isVoid value then .having .oneDropped r
      else (Run.having (.write (Store.key object.kind d.name) value) r).andThen
        (valueStep s object d value)

def objectStep (s : Settings) (registry : Registry) (object : ObjectName) (r : Recorders) : Run :=
  match registry.describe object with
  | .error _ => .having .oneError r
  | .ok descriptors =>
    (Run.having .oneObject r).andThen (Run.each (attributeStep s registry object) descriptors)

/-- The objects that a pass reads: none if there is no pattern, or if it cannot be resolved. -/
def objects (registry : Registry) : Option Pattern → List ObjectName
  | none => []
  | some pattern =>
    match registry.resolve pattern with
    | .ok names => names
    | .error _ => []

/-- A whole pass, with recorders that remember nothing of earlier ones. -/
def run (s : Settings) (pattern : Option Pattern) (registry : Registry) (r : Recorders) : Run :=
  Run.each (objectStep s registry) (objects registry pattern) r.reset

end Pass
end BeanMetrics
