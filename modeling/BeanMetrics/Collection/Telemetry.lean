import BeanMetrics.Metric.Sample

/-!
Metrics about the passes themselves. Counters are 64-bit words and wrap around.
-/

namespace BeanMetrics

def version : String := "0.1.0"

/-- A count that only grows, modulo `2 ^ 64`. -/
structure Counter where
  value : UInt64
  deriving DecidableEq, Inhabited, Repr

namespace Counter

def zero : Counter := ⟨0⟩

def add (c : Counter) (n : Nat) : Counter := ⟨c.value + UInt64.ofNat n⟩

def increment (c : Counter) : Counter := c.add 1

def toBinary64 (c : Counter) : Binary64 := .ofNat c.value.toNat

end Counter

/-- Nanoseconds as seconds: the whole seconds and the rest are each rounded before they are
added. -/
def secondsOfNanos (nanos : Nat) : Binary64 :=
  let whole := Binary64.ofNat (nanos / Nat.pow 10 9)
  whole.addNonneg (.ofRatio false (nanos % Nat.pow 10 9) (Nat.pow 10 9))

structure PassStats where
  objects : Nat
  attributeErrors : Nat
  valuesDropped : Nat
  deriving DecidableEq, Inhabited, Repr

structure Telemetry where
  scrapes : Counter
  scrapeSeconds : Binary64
  objectsScraped : Binary64
  attributeErrors : Counter
  valuesDropped : Counter
  startTime : Binary64
  deriving DecidableEq, Inhabited, Repr

namespace Telemetry

/-- The metrics of a process that began at the given time and has made no pass yet. -/
def since (startTime : Binary64) : Telemetry := ⟨.zero, .zero, .zero, .zero, .zero, startTime⟩

/-- The metrics after one more pass, which took the given number of nanoseconds. -/
def recordPass (t : Telemetry) (stats : PassStats) (nanos : Nat) : Telemetry :=
  { t with
    scrapes := t.scrapes.increment
    scrapeSeconds := secondsOfNanos nanos
    objectsScraped := .ofNat stats.objects
    attributeErrors := t.attributeErrors.add stats.attributeErrors
    valuesDropped := t.valuesDropped.add stats.valuesDropped }

/-- The metrics as families, in ascending order of their names. -/
def families (t : Telemetry) : List Family :=
  [.single "jmx_exporter_attribute_errors_total" .counter
      "Total number of failed MBean info lookups and attribute reads" t.attributeErrors.toBinary64,
   ⟨"jmx_exporter_build_info", .gauge,
      "A metric with a constant '1' value labeled with the version of the exporter",
      [(Sample.unlabeled "jmx_exporter_build_info" .one).withLabel "version" version]⟩,
   .single "jmx_exporter_objects_scraped" .gauge
      "Number of MBeans read in the last translation pass" t.objectsScraped,
   .single "jmx_exporter_scrape_duration_seconds" .gauge
      "Duration of the last translation pass in seconds" t.scrapeSeconds,
   .single "jmx_exporter_scrapes_total" .counter
      "Total number of translation passes" t.scrapes.toBinary64,
   .single "jmx_exporter_values_dropped_total" .counter
      "Total number of attribute values that were read but not exported"
      t.valuesDropped.toBinary64,
   .single "process_start_time_seconds" .gauge
      "Start time of the process since unix epoch in seconds" t.startTime]

end Telemetry
end BeanMetrics
