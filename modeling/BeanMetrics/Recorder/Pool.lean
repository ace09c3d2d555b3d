import BeanMetrics.Recorder.Basic
import BeanMetrics.Text.LowerCase

/-!
Thread pools and circuit breakers. Each of their attributes is a record that describes one pool: its
field `name` names the pool, and every numeric field becomes a sample labelled with the pool, in
lower case, and the field.
-/

namespace BeanMetrics
namespace Pool

/-- The pool that a record describes, in lower case. -/
def name? (record : CompositeRecord) : Option String :=
  ((KeyMap.get? "name" record).bind AttributeValue.string?).map Text.lower

/-- The samples of one pool, none if the record has no name. -/
def emissions? (metric help : String) (record : CompositeRecord) : Option (List Emission) :=
  (name? record).map fun pool =>
    CompositeRecord.numbers record |>.map fun (field, number) =>
      .gauge help ((Sample.unlabeled metric number).withLabels
        [("name", pool), ("property", field)])

def record (metric help : String) : Payload → Verdict (List Emission)
  | .composite fields => .ofOption (emissions? metric help fields)
  | _ => .notImplemented

/-- Thread pools under `<namespace>_threadpools`. -/
def recordThreads (ns : String) : Payload → Verdict (List Emission) :=
  record (ns ++ "_threadpools") "Statistics of thread pools"

/-- Circuit breakers under `<namespace>_circuitbreakers`. -/
def recordBreakers (ns : String) : Payload → Verdict (List Emission) :=
  record (ns ++ "_circuitbreakers") "Statistics of circuit breakers"

end Pool
end BeanMetrics
