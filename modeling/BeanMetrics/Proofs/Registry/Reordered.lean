import BeanMetrics.Proofs.ObjectName.Written
import Mathlib.Data.List.Find

/-!
Names with their key properties in another order. `sameObject` counts the properties of both names and
looks up those of one in the other, where a key is found at its first place. If no key occurs twice in
the name that is looked up, this finds out whether the other one is its reordering; no key does in a name
that is read of a text. So a snapshot finds the same object in whatever order the properties are named.
-/

namespace BeanMetrics
namespace ObjectName

/-- The same domain, and the same key properties in any order. -/
def Reordered (a b : ObjectName) : Prop := a.domain = b.domain ∧ b.properties.Perm a.properties

instance (a b : ObjectName) : Decidable (a.Reordered b) := inferInstanceAs (Decidable (_ ∧ _))

theorem equivalence_reordered : Equivalence Reordered where
  refl _ := ⟨rfl, .refl _⟩
  symm h := ⟨h.1.symm, h.2.symm⟩
  trans h h' := ⟨h.1.trans h'.1, h'.2.trans h.2⟩

theorem Reordered.same {a b : ObjectName} (h : a.Reordered b) (ha : a.DistinctKeys) : b.Same a :=
  same_of_perm ha h.1.symm h.2

/-- No two properties of `a` are equal, so if all of them are found in a list of the same length, there
is nothing else in it. Of the keys of `b` nothing needs to be known. -/
theorem sameObject_iff_reordered {a b : ObjectName} (ha : a.DistinctKeys) :
    a.sameObject b = true ↔ a.Reordered b := by
  constructor
  · intro h
    exact ⟨(sameObject_iff.mp h).1, (perm_of_sameObject ha h).symm⟩
  · intro h
    have hb : b.DistinctKeys := ha.perm h.2.symm
    exact (sameObject_iff_same ha hb).mpr (h.same ha).symm

/-- With a key that occurs twice, one of two names may be found in the other and not the other way round. -/
example :
    let twice : ObjectName := ⟨"java.lang", [("type", "Memory"), ("type", "Memory")]⟩
    let once : ObjectName := ⟨"java.lang", [("type", "Memory"), ("name", "heap")]⟩
    twice.sameObject once = true ∧ once.sameObject twice = false := by decide

theorem equivalence_sameObject :
    Equivalence fun a b : {name : ObjectName // name.DistinctKeys} => a.1.sameObject b.1 = true := by
  -- one way is enough: on these names the look-up is the relation itself
  have h : (fun a b : {name : ObjectName // name.DistinctKeys} => a.1.sameObject b.1 = true) =
      fun a b => a.1.Reordered b.1 := by
    funext a b
    exact propext (sameObject_iff_reordered a.2)
  rw [h]
  exact equivalence_reordered.comap Subtype.val

/-- A name is found in all reorderings of a name or in none, even if it has a key twice itself. -/
theorem sameObject_congr {b c : ObjectName} (hb : b.DistinctKeys) (h : b.Reordered c) (a : ObjectName) :
    a.sameObject c = a.sameObject b := by
  have hlookup : ∀ key, c.property? key = b.property? key := (h.same hb).2
  rw [Bool.eq_iff_iff, sameObject_iff, sameObject_iff, h.1, h.2.length_eq]
  simp only [hlookup]

end ObjectName

namespace Snapshot

theorem find?_of_reordered (s : Snapshot) {asked other : ObjectName} (hk : asked.DistinctKeys)
    (h : asked.Reordered other) : s.find? other = s.find? asked := by
  unfold find?
  congr 1
  funext object
  exact ObjectName.sameObject_congr hk h object.name

theorem find?_eq_find?_reordered {s : Snapshot} (hs : ∀ object ∈ s.objects, object.name.DistinctKeys)
    (asked : ObjectName) :
    s.find? asked = s.objects.find? fun object => decide (object.name.Reordered asked) := by
  refine List.find?_congr fun object hm => ?_
  rw [Bool.eq_iff_iff, decide_eq_true_iff]
  exact ObjectName.sameObject_iff_reordered (hs object hm)

/-- The order of key properties does not matter. No name that is read of a text has a key twice. A name
without such keys is the same object as another name exactly if that has the same domain and the same
properties in any order; among these names this is an equivalence. A snapshot finds the same object under
each reordering of a name, and if no object of it has a key twice, the first one that is a reordering. -/
theorem property_order_immaterial :
    (∀ text name, ObjectName.ofText? text = some name → name.DistinctKeys) ∧
    (∀ a b : ObjectName, a.DistinctKeys →
      (a.sameObject b = true ↔ a.domain = b.domain ∧ b.properties.Perm a.properties)) ∧
    Equivalence (fun a b : {name : ObjectName // name.DistinctKeys} => a.1.sameObject b.1 = true) ∧
    (∀ (s : Snapshot) (asked other : ObjectName), asked.DistinctKeys →
      other.domain = asked.domain → other.properties.Perm asked.properties →
        s.find? other = s.find? asked) ∧
    ∀ (s : Snapshot) (asked : ObjectName), (∀ object ∈ s.objects, object.name.DistinctKeys) →
      s.find? asked = s.objects.find? fun object => decide (object.name.domain = asked.domain ∧
        asked.properties.Perm object.name.properties) := by
  refine ⟨?_, ?_, ObjectName.equivalence_sameObject, ?_, ?_⟩
  · intro text name h
    exact ObjectName.distinctKeys_of_ofText? h
  · intro a b ha
    exact ObjectName.sameObject_iff_reordered ha
  · intro s asked other hk hd hp
    exact s.find?_of_reordered hk ⟨hd.symm, hp⟩
  · intro s asked hs
    exact find?_eq_find?_reordered hs asked

/-- Two pools and the node are in the snapshot; the second pool is asked for with its properties the other
way round. -/
theorem property_order_immaterial_twoPools :
    let node : ObjectName := ⟨"io.crate.monitoring", [("type", "NodeInfo")]⟩
    let search : ObjectName := ⟨"io.crate.monitoring", [("type", "ThreadPools"), ("name", "search")]⟩
    let write : ObjectName := ⟨"io.crate.monitoring", [("type", "ThreadPools"), ("name", "write")]⟩
    let asked : ObjectName := ⟨"io.crate.monitoring", [("name", "write"), ("type", "ThreadPools")]⟩
    let s : Snapshot := ⟨[.named node, .named search, .named write], none⟩
    ObjectName.ofText? "io.crate.monitoring:type=ThreadPools,name=write" = some write ∧
      write.DistinctKeys ∧ write.sameObject asked = true ∧ asked.sameObject write = true ∧
      ¬ search.sameObject asked = true ∧ s.find? asked = s.find? write ∧
      s.find? asked = some (.named write) := by
  intro node search write asked s
  obtain ⟨hread, hsame, hequiv, hfind, hfirst⟩ := property_order_immaterial
  have ht : ObjectName.ofText? "io.crate.monitoring:type=ThreadPools,name=write" = some write := by
    decide +kernel
  have hw : write.DistinctKeys := hread _ _ ht
  have hasked : asked.DistinctKeys := by decide
  have hp : asked.properties.Perm write.properties := List.Perm.swap _ _ _
  have hwrite : write.sameObject asked = true := (hsame write asked hw).mpr ⟨rfl, hp⟩
  have hback : asked.sameObject write = true :=
    hequiv.symm (x := ⟨write, hw⟩) (y := ⟨asked, hasked⟩) hwrite
  have hother : ¬ search.sameObject asked = true := by
    rw [hsame search asked (by decide)]
    decide
  refine ⟨ht, hw, hwrite, hback, hother, hfind s write asked hw rfl hp, ?_⟩
  rw [hfirst s asked (by decide)]
  rfl

end Snapshot
end BeanMetrics
