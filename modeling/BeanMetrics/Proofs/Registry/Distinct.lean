import BeanMetrics.Registry.Snapshot
import Mathlib.Data.List.Nodup
import Mathlib.Data.List.Perm.Subperm

/-!
Snapshots of different objects. Two names denote the same object when they have the same domain and
the same value under every key; where no key occurs twice, this is what `sameObject` finds out. In a
snapshot of different objects the name of each one finds it, in whatever order they are listed.
-/

namespace BeanMetrics
namespace KeyMap

variable {α : Type} {pairs : List (String × α)} {key : String} {value : α}

theorem mem_of_lookup (h : pairs.lookup key = some value) : (key, value) ∈ pairs := by
  obtain ⟨front, back, hs, -⟩ := List.lookup_eq_some_iff.mp h
  rw [hs]
  simp

/-- Where no key occurs twice, the pair under a key is the only one. -/
theorem lookup_eq_some_iff_mem (h : (pairs.map (·.1)).Nodup) :
    pairs.lookup key = some value ↔ (key, value) ∈ pairs := by
  refine ⟨mem_of_lookup, fun hm => ?_⟩
  obtain ⟨front, back, hs⟩ := List.append_of_mem hm
  have hd : (front.map (·.1) ++ key :: back.map (·.1)).Nodup := by
    rw [hs] at h
    simpa using h
  have hf : key ∉ front.map (·.1) := fun hk =>
    (List.nodup_append.mp hd).2.2 key hk key (by simp) rfl
  refine List.lookup_eq_some_iff.mpr ⟨front, back, hs, fun p hp => ?_⟩
  have hne : key ≠ p.1 := fun he => hf (he ▸ List.mem_map_of_mem hp)
  simpa using hne

end KeyMap

namespace ObjectName

def DistinctKeys (name : ObjectName) : Prop := (name.properties.map (·.1)).Nodup

instance (name : ObjectName) : Decidable name.DistinctKeys :=
  inferInstanceAs (Decidable (List.Nodup _))

/-- The same domain, and the same value under every key. -/
def Same (a b : ObjectName) : Prop :=
  a.domain = b.domain ∧ ∀ key, a.property? key = b.property? key

theorem Same.refl (a : ObjectName) : a.Same a := ⟨rfl, fun _ => rfl⟩

theorem Same.symm {a b : ObjectName} (h : a.Same b) : b.Same a :=
  ⟨h.1.symm, fun key => (h.2 key).symm⟩

theorem Same.trans {a b c : ObjectName} (h : a.Same b) (h' : b.Same c) : a.Same c :=
  ⟨h.1.trans h'.1, fun key => (h.2 key).trans (h'.2 key)⟩

theorem mem_of_property? {name : ObjectName} {key value : String}
    (h : name.property? key = some value) : (key, value) ∈ name.properties :=
  KeyMap.mem_of_lookup h

theorem DistinctKeys.property?_eq_some_iff {name : ObjectName} (h : name.DistinctKeys)
    {key value : String} :
    name.property? key = some value ↔ (key, value) ∈ name.properties :=
  KeyMap.lookup_eq_some_iff_mem h

theorem DistinctKeys.perm {a b : ObjectName} (h : a.DistinctKeys)
    (hp : a.properties.Perm b.properties) : b.DistinctKeys :=
  (hp.map Prod.fst).nodup_iff.mp h

theorem same_of_perm {a b : ObjectName} (hb : b.DistinctKeys) (hd : a.domain = b.domain)
    (hp : a.properties.Perm b.properties) : a.Same b := by
  have ha : a.DistinctKeys := hb.perm hp.symm
  refine ⟨hd, fun key => Option.ext fun value => ?_⟩
  rw [ha.property?_eq_some_iff, hb.property?_eq_some_iff, hp.mem_iff]

theorem sameObject_iff {a b : ObjectName} :
    a.sameObject b = true ↔ a.domain = b.domain ∧ a.properties.length = b.properties.length ∧
      ∀ q ∈ a.properties, b.property? q.1 = some q.2 := by
  simp only [sameObject, Bool.and_eq_true, decide_eq_true_eq, List.all_eq_true, beq_iff_eq, and_assoc]

/-- The properties of one name are looked up in the other one, and that has no others. -/
theorem perm_of_sameObject {a b : ObjectName} (ha : a.DistinctKeys) (h : a.sameObject b) :
    a.properties.Perm b.properties := by
  obtain ⟨-, hlen, hall⟩ := sameObject_iff.mp h
  have hs : a.properties ⊆ b.properties := by
    rintro ⟨key, value⟩ hm
    exact mem_of_property? (hall (key, value) hm)
  have hn : a.properties.Nodup := List.Nodup.of_map _ ha
  exact (List.subperm_of_subset hn hs).perm_of_length_le (Nat.le_of_eq hlen.symm)

theorem same_of_sameObject {a b : ObjectName} (ha : a.DistinctKeys) (h : a.sameObject b) :
    a.Same b := by
  have hp := perm_of_sameObject ha h
  have hd : a.domain = b.domain := (sameObject_iff.mp h).1
  exact same_of_perm (ha.perm hp) hd hp

theorem perm_of_same {a b : ObjectName} (ha : a.DistinctKeys) (hb : b.DistinctKeys) (h : a.Same b) :
    a.properties.Perm b.properties := by
  have hna : a.properties.Nodup := List.Nodup.of_map _ ha
  have hnb : b.properties.Nodup := List.Nodup.of_map _ hb
  refine (List.perm_ext_iff_of_nodup hna hnb).mpr fun (key, value) => ?_
  rw [← ha.property?_eq_some_iff, ← hb.property?_eq_some_iff, h.2]

/-- Where no key occurs twice, `sameObject` finds out whether two names denote the same object. -/
theorem sameObject_iff_same {a b : ObjectName} (ha : a.DistinctKeys) (hb : b.DistinctKeys) :
    a.sameObject b ↔ a.Same b := by
  refine ⟨same_of_sameObject ha, fun h => ?_⟩
  have hp := perm_of_same ha hb h
  refine sameObject_iff.mpr ⟨h.1, hp.length_eq, ?_⟩
  rintro ⟨key, value⟩ hm
  exact hb.property?_eq_some_iff.mpr (hp.mem_iff.mp hm)

end ObjectName

namespace Snapshot

/-- No key occurs twice in a name, and no two objects have the same name. -/
structure Distinct (s : Snapshot) : Prop where
  keys : ∀ object ∈ s.objects, object.name.DistinctKeys
  names : s.objects.Pairwise fun a b => ¬ a.name.Same b.name

theorem distinct_iff {s : Snapshot} :
    s.Distinct ↔ (∀ object ∈ s.objects, object.name.DistinctKeys) ∧
      s.objects.Pairwise fun a b => ¬ a.name.sameObject b.name := by
  constructor
  · intro h
    refine ⟨h.keys, h.names.imp_of_mem fun ha _ hn hs => hn ?_⟩
    exact ObjectName.same_of_sameObject (h.keys _ ha) hs
  · rintro ⟨hk, hn⟩
    refine ⟨hk, hn.imp_of_mem fun ha hb hne hs => hne ?_⟩
    exact (ObjectName.sameObject_iff_same (hk _ ha) (hk _ hb)).mpr hs

instance (s : Snapshot) : Decidable s.Distinct := decidable_of_iff _ distinct_iff.symm

theorem Distinct.perm {s s' : Snapshot} (h : s.Distinct) (hp : s.objects.Perm s'.objects) :
    s'.Distinct where
  keys object hm := h.keys object (hp.mem_iff.mpr hm)
  names := (hp.pairwise_iff fun hab hba => hab hba.symm).mp h.names

theorem Distinct.pairwise_names {s : Snapshot} (h : s.Distinct) :
    (s.objects.map (·.name)).Pairwise fun a b => ¬ a.Same b :=
  List.pairwise_map.mpr h.names

theorem Distinct.of_map_name {s s' : Snapshot} (h : s.Distinct)
    (hn : s'.objects.map (·.name) = s.objects.map (·.name)) : s'.Distinct where
  keys object hm := by
    have hm' : object.name ∈ s.objects.map (·.name) := hn ▸ List.mem_map_of_mem hm
    obtain ⟨found, hf, he⟩ := List.mem_map.mp hm'
    exact he ▸ h.keys found hf
  names := List.pairwise_map.mp (hn ▸ h.pairwise_names)

theorem Distinct.nodup_names {s : Snapshot} (h : s.Distinct) : (s.objects.map (·.name)).Nodup := by
  refine h.pairwise_names.imp fun {a b} hs he => hs ?_
  rw [he]
  exact .refl b

theorem Distinct.find?_of_same {s : Snapshot} (h : s.Distinct) {object : SnapshotObject}
    (hm : object ∈ s.objects) {name : ObjectName} (hk : name.DistinctKeys) (hs : object.name.Same name) :
    s.find? name = some object := by
  obtain ⟨front, back, he⟩ := List.append_of_mem hm
  have hnone : front.find? (·.name.sameObject name) = none := by
    rw [List.find?_eq_none]
    intro other ho hsame
    have hko : other.name.DistinctKeys := h.keys other (by rw [he]; exact List.mem_append_left _ ho)
    have hn := h.names
    rw [he, List.pairwise_append] at hn
    have hother : other.name.Same name := ObjectName.same_of_sameObject hko hsame
    exact hn.2.2 other ho object (by simp) (hother.trans hs.symm)
  rw [find?, he, List.find?_append, hnone, Option.none_or]
  exact List.find?_cons_of_pos ((ObjectName.sameObject_iff_same (h.keys object hm) hk).mpr hs)

theorem Distinct.find?_eq {s : Snapshot} (h : s.Distinct) {object : SnapshotObject}
    (hm : object ∈ s.objects) : s.find? object.name = some object :=
  h.find?_of_same hm (h.keys object hm) (.refl _)

end Snapshot
end BeanMetrics
