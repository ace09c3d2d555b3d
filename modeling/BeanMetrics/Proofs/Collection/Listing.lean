import BeanMetrics.Proofs.Collection.Trace
import BeanMetrics.Proofs.Registry.Distinct

/-!
Which objects a pass over a snapshot goes through, and what it takes from each of them. A pass sees of
an object only what the registry says when it is asked for it by name; so it reads the same of an
object in two snapshots in which the name finds the same.
-/

namespace BeanMetrics

/-- A snapshot with other objects in it, or with its own in another order. -/
def Snapshot.relist (s : Snapshot) (listed : List SnapshotObject) : Snapshot :=
  { s with objects := listed }

structure Registry.Agree (registry registry' : Registry) (object : ObjectName) : Prop where
  describe : registry.describe object = registry'.describe object
  read : registry.read object = registry'.read object

namespace Snapshot

theorem describe_of_find? {s : Snapshot} {name : ObjectName} {object : SnapshotObject}
    (h : s.find? name = some object) :
    s.registry.describe name =
      match object.descriptors with
      | some descriptors => .ok descriptors
      | none => .error (.instanceNotFound name.text) := by
  cases hd : object.descriptors <;> simp only [registry, describe, h, Option.bind_some, hd]

theorem read_of_find? {s : Snapshot} {name : ObjectName} {object : SnapshotObject}
    (h : s.find? name = some object) (attr : String) :
    s.registry.read name attr =
      match object.values.lookup attr with
      | some value => .ok value
      | none => .error (.attributeUnavailable name.text attr) := by
  cases hv : object.values.lookup attr <;> simp only [registry, read, h, Option.bind_some, hv]

theorem lookup_of_read {s : Snapshot} {name : ObjectName} {object : SnapshotObject}
    (h : s.find? name = some object) {attr : String} {value : AttributeValue}
    (hv : s.registry.read name attr = .ok value) : object.values.lookup attr = some value := by
  rw [read_of_find? h] at hv
  split at hv
  · rename_i found hl
    rw [hl, Except.ok.inj hv]
  · cases hv

theorem agree_of_find?_eq {s s' : Snapshot} {object : ObjectName}
    (h : s.find? object = s'.find? object) : s.registry.Agree s'.registry object where
  describe := by simp only [registry, Snapshot.describe, h]
  read := by
    funext attr
    simp only [registry, Snapshot.read, h]

end Snapshot

namespace Pass

variable {registry registry' : Registry} {object : ObjectName}

/-! ### What is asked of an object -/

theorem reading?_eq_some_iff {d : AttributeDescriptor} {x : Reading} :
    reading? registry object d = some x ↔
      d.readable ∧ ∃ value, registry.read object d.name = .ok value ∧ ¬ isVoid value ∧
        x = ⟨object, d, value⟩ := by
  unfold reading?
  by_cases hd : d.readable
  · cases registry.read object d.name with
    | error e => simp [hd]
    | ok value =>
      by_cases hv : isVoid value
      · simp [hd, hv]
      · simpa [hd, hv] using eq_comm
  · simp [hd]

theorem mem_readingsOf {x : Reading} (h : x ∈ readingsOf registry object) :
    ∃ d, reading? registry object d = some x := by
  unfold readingsOf at h
  split at h
  · obtain ⟨d, -, hd⟩ := List.mem_filterMap.mp h
    exact ⟨d, hd⟩
  · cases h

theorem object_of_mem_readingsOf {x : Reading} (h : x ∈ readingsOf registry object) :
    x.object = object := by
  obtain ⟨d, hd⟩ := mem_readingsOf h
  obtain ⟨-, value, -, -, rfl⟩ := reading?_eq_some_iff.mp hd
  rfl

theorem object_mem_objects {pattern : Option Pattern} {x : Reading}
    (h : x ∈ readings registry pattern) : x.object ∈ objects registry pattern := by
  obtain ⟨object, hobject, hx⟩ := List.mem_flatMap.mp h
  rwa [object_of_mem_readingsOf hx]

theorem reading?_congr {d : AttributeDescriptor}
    (h : registry.read object d.name = registry'.read object d.name) :
    reading? registry object d = reading? registry' object d := by
  unfold reading?
  rw [h]

theorem readingsOf_congr (h : registry.Agree registry' object) :
    readingsOf registry object = readingsOf registry' object := by
  have hr : reading? registry object = reading? registry' object :=
    funext fun d => reading?_congr (congrFun h.read d.name)
  unfold readingsOf
  rw [h.describe, hr]

theorem attributeStep_congr (h : registry.Agree registry' object) (s : Settings) :
    attributeStep s registry object = attributeStep s registry' object := by
  funext d r
  unfold attributeStep
  rw [h.read]

theorem objectStep_congr (h : registry.Agree registry' object) (s : Settings) (r : Recorders) :
    objectStep s registry object r = objectStep s registry' object r := by
  unfold objectStep
  rw [h.describe, attributeStep_congr h]

/-! ### The objects of a snapshot -/

/-- The names of a snapshot that a pattern accepts, in the order in which the snapshot lists them. -/
theorem objects_snapshot (s : Snapshot) (pattern : Option Pattern) :
    objects s.registry pattern =
      match pattern, s.unavailable with
      | some pattern, none => (s.objects.map (·.name)).filter pattern.accepts
      | _, _ => [] := by
  unfold objects
  cases pattern with
  | none => rfl
  | some pattern =>
    dsimp only [Snapshot.registry, Snapshot.resolve]
    cases s.unavailable <;> rfl

theorem objects_relist {s : Snapshot} {listed : List SnapshotObject}
    (h : listed.map (·.name) = s.objects.map (·.name)) (pattern : Option Pattern) :
    objects (s.relist listed).registry pattern = objects s.registry pattern := by
  rw [objects_snapshot, objects_snapshot]
  dsimp only [Snapshot.relist]
  rw [h]

theorem exists_of_mem_objects {s : Snapshot} {pattern : Option Pattern} {name : ObjectName}
    (h : name ∈ objects s.registry pattern) : ∃ object ∈ s.objects, object.name = name := by
  rw [objects_snapshot] at h
  split at h
  · exact List.mem_map.mp (List.mem_of_mem_filter h)
  · cases h

theorem nodup_objects {s : Snapshot} (h : s.Distinct) (pattern : Option Pattern) :
    (objects s.registry pattern).Nodup := by
  rw [objects_snapshot]
  split
  · exact h.nodup_names.filter _
  · exact .nil

theorem objects_perm {s : Snapshot} {listed : List SnapshotObject} (h : s.objects.Perm listed)
    (pattern : Option Pattern) :
    (objects s.registry pattern).Perm (objects (s.relist listed).registry pattern) := by
  rw [objects_snapshot, objects_snapshot]
  dsimp only [Snapshot.relist]
  split
  · exact (h.map (·.name)).filter _
  · exact .refl _

end Pass
end BeanMetrics
