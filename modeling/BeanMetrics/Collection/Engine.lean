import BeanMetrics.Collection.Pass
import BeanMetrics.Collection.Telemetry
import BeanMetrics.Metric.FamilyMap
import BeanMetrics.Registry.Snapshot

/-!
The engine that makes passes: settings, and what is kept from pass to pass. A pass that ends with a
violation has written to the store but counts for nothing else.
-/

namespace BeanMetrics

structure Engine where
  settings : Settings
  /-- The pattern of the settings; none if it is malformed, and then a pass finds no objects. -/
  pattern : Option Pattern
  recorders : Recorders
  store : Store
  telemetry : Telemetry
  deriving Inhabited, Repr

namespace Engine

def create (settings : Settings) (telemetry : Telemetry) : Engine :=
  ⟨settings, Pattern.ofText? settings.objectPattern, .initial, .empty, telemetry⟩

def passStats (effect : Effect) : PassStats :=
  ⟨effect.objects, effect.attributeErrors, effect.valuesDropped⟩

/-- One pass over a registry, which took the given number of nanoseconds. -/
def collect (e : Engine) (registry : Registry) (nanos : Nat) :
    Engine × Except RecorderError (List Family) :=
  let run := Pass.run e.settings e.pattern registry e.recorders
  let e := { e with recorders := run.recorders, store := e.store.putAll run.effect.writes }
  match run.violation with
  | some violation => (e, .error violation)
  | none =>
    ({ e with telemetry := e.telemetry.recordPass (passStats run.effect) nanos },
      .ok (FamilyMap.ofEmissions run.effect.emissions).families)

end Engine
end BeanMetrics
