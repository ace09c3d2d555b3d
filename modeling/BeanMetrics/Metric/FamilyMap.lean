import BeanMetrics.Metric.Sample

/-!
The families of a pass, in ascending order of their names. The first emission under a name opens the
family and settles its type and help text; later ones only add their samples, in their order.
-/

namespace BeanMetrics

structure FamilyMap where
  families : List Family
  deriving DecidableEq, Inhabited, Repr

namespace FamilyMap

def empty : FamilyMap := ⟨[]⟩

/-- Families in ascending order with one emission more. -/
def addEmission (e : Emission) : List Family → List Family
  | [] => [.ofEmission e]
  | f :: rest =>
    if e.sample.name = f.name then { f with samples := f.samples ++ [e.sample] } :: rest
    else if e.sample.name < f.name then .ofEmission e :: f :: rest
    else f :: addEmission e rest

def accept (m : FamilyMap) (e : Emission) : FamilyMap := ⟨addEmission e m.families⟩

def acceptAll (m : FamilyMap) (emissions : List Emission) : FamilyMap := emissions.foldl accept m

def ofEmissions (emissions : List Emission) : FamilyMap := empty.acceptAll emissions

def get? (m : FamilyMap) (name : String) : Option Family := m.families.find? (·.name = name)

def size (m : FamilyMap) : Nat := m.families.length

def sampleCount (m : FamilyMap) : Nat :=
  m.families.foldl (fun count f => count + f.samples.length) 0

end FamilyMap
end BeanMetrics
