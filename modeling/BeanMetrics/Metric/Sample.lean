import BeanMetrics.Binary64.Basic

/-!
Samples and the families that they belong to. The labels of a sample are pairs in the order in which
they were given; giving a label again replaces its value and keeps its place.
-/

namespace BeanMetrics

inductive MetricType where
  | gauge
  | counter
  | untyped
  deriving DecidableEq, Inhabited, Repr

def MetricType.name : MetricType → String
  | .gauge => "gauge"
  | .counter => "counter"
  | .untyped => "untyped"

structure Sample where
  name : String
  labels : List (String × String)
  value : Binary64
  deriving DecidableEq, Inhabited, Repr

namespace Sample

def unlabeled (name : String) (value : Binary64) : Sample := ⟨name, [], value⟩

/-- Labels with `value` under `label`. -/
def setLabel (label value : String) : List (String × String) → List (String × String)
  | [] => [(label, value)]
  | (l, v) :: rest =>
    if l = label then (l, value) :: rest else (l, v) :: setLabel label value rest

def withLabel (s : Sample) (label value : String) : Sample :=
  { s with labels := setLabel label value s.labels }

def withLabels (s : Sample) (labels : List (String × String)) : Sample :=
  labels.foldl (fun s (label, value) => s.withLabel label value) s

def label? (s : Sample) (label : String) : Option String := s.labels.lookup label

end Sample

/-- A sample together with the type and the help text of its family. -/
structure Emission where
  sample : Sample
  type : MetricType
  help : String
  deriving DecidableEq, Inhabited, Repr

/-- Samples under one name, with the type and the help text that stand for all of them. -/
structure Family where
  name : String
  type : MetricType
  help : String
  samples : List Sample
  deriving DecidableEq, Inhabited, Repr

namespace Family

def ofEmission (e : Emission) : Family := ⟨e.sample.name, e.type, e.help, [e.sample]⟩

/-- A family that consists of one sample without labels. -/
def single (name : String) (type : MetricType) (help : String) (value : Binary64) : Family :=
  ⟨name, type, help, [.unlabeled name value]⟩

end Family
end BeanMetrics
