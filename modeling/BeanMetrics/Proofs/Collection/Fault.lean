import BeanMetrics.Proofs.Collection.Contribution
import BeanMetrics.Proofs.Collection.Listing
import BeanMetrics.Proofs.Collection.StableGrouping
import BeanMetrics.Proofs.Collection.Writes

/-!
Faults of single attributes. An attribute of which nothing can be read costs only itself: the pass has
all its other readings in their order, so its families keep all other samples in their order, and
nothing else changes in the store. The parts of the node's identity are left out here, because what is
emitted of them depends on all of them.
-/

namespace BeanMetrics

/-- Why nothing is read of an attribute. -/
inductive Fault where
  /-- It is listed as not readable. -/
  | unreadable
  /-- Reading it fails. -/
  | failing
  | null
  | unsupported
  deriving DecidableEq, Repr

namespace Fault

def descriptor (fault : Fault) (attr : String) (d : AttributeDescriptor) : AttributeDescriptor :=
  match fault with
  | .unreadable => if d.name = attr then { d with readable := false } else d
  | _ => d

def values (fault : Fault) (attr : String) (values : List (String × AttributeValue)) :
    List (String × AttributeValue) :=
  match fault with
  | .unreadable => values
  | .failing => values.filter (·.1 ≠ attr)
  | .null => (attr, .null) :: values
  | .unsupported => (attr, .unsupported) :: values

end Fault

def SnapshotObject.withFault (object : SnapshotObject) (attr : String) (fault : Fault) :
    SnapshotObject :=
  { object with
    descriptors := object.descriptors.map (·.map (fault.descriptor attr))
    values := fault.values attr object.values }

/-- The snapshot where an attribute of the object of the given name has a fault. -/
def Snapshot.withFault (s : Snapshot) (name : ObjectName) (attr : String) (fault : Fault) : Snapshot :=
  s.relist (s.objects.map fun object =>
    if object.name = name then object.withFault attr fault else object)

/-- An attribute that is listed once on an object of the snapshot. -/
structure Snapshot.ListsOnce (s : Snapshot) (object : SnapshotObject) (d : AttributeDescriptor) :
    Prop where
  mem : object ∈ s.objects
  once : ∃ before after, object.descriptors = some (before ++ d :: after) ∧
    ∀ other ∈ before ++ after, other.name ≠ d.name

/-! ### What is read where there is a fault -/

namespace Fault

variable {fault : Fault} {attr : String}

theorem descriptor_of_ne {d : AttributeDescriptor} (h : d.name ≠ attr) :
    fault.descriptor attr d = d := by
  cases fault with
  | unreadable => exact if_neg h
  | failing | null | unsupported => rfl

theorem name_descriptor (d : AttributeDescriptor) : (fault.descriptor attr d).name = d.name := by
  cases fault with
  | unreadable =>
    dsimp only [descriptor]
    split <;> rfl
  | failing | null | unsupported => rfl

theorem lookup_filter_of_ne {attr' : String} (h : attr' ≠ attr)
    (values : List (String × AttributeValue)) :
    (values.filter (·.1 ≠ attr)).lookup attr' = values.lookup attr' := by
  induction values with
  | nil => rfl
  | cons entry rest ih =>
    obtain ⟨key, value⟩ := entry
    rw [KeyMap.lookup_cons_eq_ite]
    by_cases hk : key = attr
    · rw [List.filter_cons_of_neg (by simpa using hk), ih, if_neg (hk ▸ h)]
    · rw [List.filter_cons_of_pos (by simpa using hk), KeyMap.lookup_cons_eq_ite, ih]

theorem lookup_values_of_ne {attr' : String} (h : attr' ≠ attr)
    (values : List (String × AttributeValue)) :
    (fault.values attr values).lookup attr' = values.lookup attr' := by
  cases fault with
  | unreadable => rfl
  | failing => exact lookup_filter_of_ne h values
  | null | unsupported => exact (KeyMap.lookup_cons_eq_ite _ _ _ _).trans (if_neg h)

/-- A readable attribute has no value any more, or one that says nothing. -/
theorem isVoid_of_lookup_values {d : AttributeDescriptor} (hr : (fault.descriptor d.name d).readable)
    {values : List (String × AttributeValue)} {value : AttributeValue}
    (hv : (fault.values d.name values).lookup d.name = some value) : Pass.isVoid value := by
  cases fault with
  | unreadable => simp [descriptor] at hr
  | failing =>
    obtain ⟨front, back, hs, -⟩ := List.lookup_eq_some_iff.mp hv
    have hm : (d.name, value) ∈ failing.values d.name values := by
      rw [hs]
      simp
    simp [Fault.values] at hm
  | null | unsupported =>
    rw [Fault.values, KeyMap.lookup_cons_eq_ite, if_pos rfl] at hv
    rw [← Option.some.inj hv]
    rfl

end Fault

/-! ### Snapshots where there is a fault -/

namespace Snapshot

variable {s : Snapshot} {object : SnapshotObject} {name : ObjectName} {attr : String} {fault : Fault}

theorem map_name_withFault :
    (s.withFault name attr fault).objects.map (·.name) = s.objects.map (·.name) := by
  simp only [withFault, relist, List.map_map]
  refine List.map_congr_left fun object _ => ?_
  dsimp only [Function.comp]
  split <;> rfl

theorem Distinct.withFault (h : s.Distinct) : (s.withFault name attr fault).Distinct :=
  h.of_map_name map_name_withFault

/-- A name finds what it found before, now perhaps with the fault. -/
theorem Distinct.find?_withFault (h : s.Distinct) (ho : object ∈ s.objects) :
    (s.withFault name attr fault).find? object.name =
      some (if object.name = name then object.withFault attr fault else object) := by
  have hm : (if object.name = name then object.withFault attr fault else object) ∈
      (s.withFault name attr fault).objects :=
    List.mem_map_of_mem ho
  rw [← h.withFault.find?_eq hm]
  congr 1
  split <;> rfl

theorem Distinct.find?_withFault_self (h : s.Distinct) (ho : object ∈ s.objects) :
    (s.withFault object.name attr fault).find? object.name =
      some (object.withFault attr fault) := by
  rw [h.find?_withFault ho, if_pos rfl]

theorem Distinct.agree_withFault (h : s.Distinct) (ho : object ∈ s.objects)
    (hn : object.name ≠ name) :
    s.registry.Agree (s.withFault name attr fault).registry object.name := by
  have hf : (s.withFault name attr fault).find? object.name = some object := by
    rw [h.find?_withFault ho, if_neg hn]
  exact agree_of_find?_eq ((h.find?_eq ho).trans hf.symm)

end Snapshot

def Reading.isOf (object : ObjectName) (attr : String) (x : Reading) : Bool :=
  x.object = object ∧ x.descriptor.name = attr

namespace Pass

theorem isOf_of_reading? {registry : Registry} {name : ObjectName} {d : AttributeDescriptor}
    {x : Reading} (h : reading? registry name d = some x) : x.isOf name d.name := by
  obtain ⟨-, value, -, -, rfl⟩ := reading?_eq_some_iff.mp h
  simp [Reading.isOf]

variable {s : Snapshot} {object : SnapshotObject} {attr : String} {fault : Fault}

theorem reading?_withFault_self (hd : s.Distinct) (ho : object ∈ s.objects)
    (d : AttributeDescriptor) :
    reading? (s.withFault object.name d.name fault).registry object.name
      (fault.descriptor d.name d) = none := by
  rw [Option.eq_none_iff_forall_ne_some]
  intro x hx
  obtain ⟨hr, value, hv, hw, -⟩ := reading?_eq_some_iff.mp hx
  rw [Fault.name_descriptor] at hv
  exact hw (Fault.isVoid_of_lookup_values hr
    (Snapshot.lookup_of_read (hd.find?_withFault_self ho) hv))

theorem reading?_withFault_of_ne (hd : s.Distinct) (ho : object ∈ s.objects)
    {d : AttributeDescriptor} (hn : d.name ≠ attr) :
    reading? (s.withFault object.name attr fault).registry object.name
      (fault.descriptor attr d) = reading? s.registry object.name d := by
  have hr : (s.withFault object.name attr fault).registry.read object.name d.name =
      s.registry.read object.name d.name := by
    rw [Snapshot.read_of_find? (hd.find?_eq ho),
      Snapshot.read_of_find? (hd.find?_withFault_self ho)]
    dsimp only [SnapshotObject.withFault]
    rw [Fault.lookup_values_of_ne hn]
  rw [Fault.descriptor_of_ne hn, reading?_congr hr]

/-- The reading of a descriptor is kept unless it is one of the attribute with the fault. -/
theorem reading?_withFault (hd : s.Distinct) (ho : object ∈ s.objects) (d : AttributeDescriptor) :
    reading? (s.withFault object.name attr fault).registry object.name (fault.descriptor attr d) =
      (reading? s.registry object.name d).filter (·.descriptor.name ≠ attr) := by
  have hx : ∀ x ∈ reading? s.registry object.name d, x.descriptor.name = d.name := fun x hx =>
    (of_decide_eq_true (isOf_of_reading? hx)).2
  by_cases hn : d.name = attr
  · subst hn
    rw [reading?_withFault_self hd ho, eq_comm, Option.filter_eq_none_iff]
    exact fun x hm => by simp [hx x hm]
  · rw [reading?_withFault_of_ne hd ho hn]
    cases hr : reading? s.registry object.name d with
    | none => rfl
    | some x =>
      refine (Option.filter_eq_some_iff.mpr ⟨rfl, ?_⟩).symm
      exact decide_eq_true (hx x hr ▸ hn)

/-- Of the object with the fault everything is read but the attribute. -/
theorem readingsOf_withFault (hd : s.Distinct) (ho : object ∈ s.objects) :
    readingsOf (s.withFault object.name attr fault).registry object.name =
      (readingsOf s.registry object.name).filter (·.descriptor.name ≠ attr) := by
  unfold readingsOf
  rw [Snapshot.describe_of_find? (hd.find?_eq ho),
    Snapshot.describe_of_find? (hd.find?_withFault_self ho)]
  dsimp only [SnapshotObject.withFault]
  cases object.descriptors with
  | none => rfl
  | some descriptors =>
    dsimp only [Option.map_some]
    rw [List.filterMap_map, List.filter_filterMap]
    exact List.filterMap_congr fun d _ => reading?_withFault hd ho d

theorem readings_withFault (hd : s.Distinct) (ho : object ∈ s.objects) (pattern : Option Pattern) :
    readings (s.withFault object.name attr fault).registry pattern =
      (readings s.registry pattern).filter fun x => ¬ x.isOf object.name attr := by
  have hn : objects (s.withFault object.name attr fault).registry pattern =
      objects s.registry pattern := objects_relist Snapshot.map_name_withFault pattern
  rw [readings, readings, hn, List.filter_flatMap]
  refine List.flatMap_congr fun name hm => ?_
  obtain ⟨found, hf, rfl⟩ := exists_of_mem_objects hm
  by_cases he : found.name = object.name
  · rw [he, readingsOf_withFault hd ho]
    refine List.filter_congr fun x hx => ?_
    simp [Reading.isOf, object_of_mem_readingsOf hx]
  · rw [← readingsOf_congr (hd.agree_withFault hf he), eq_comm, List.filter_eq_self]
    intro x hx
    simp [Reading.isOf, object_of_mem_readingsOf hx, he]

/-! ### Where the reading of the attribute is -/

theorem not_isOf_of_mem_flatMap {registry : Registry} {name : ObjectName} {names : List ObjectName}
    (h : name ∉ names) (attr : String) :
    ∀ x ∈ names.flatMap (readingsOf registry), ¬ x.isOf name attr := by
  intro x hx hi
  obtain ⟨other, hm, hx⟩ := List.mem_flatMap.mp hx
  have he : x.object = name := (of_decide_eq_true hi).1
  exact h (he ▸ object_of_mem_readingsOf hx ▸ hm)

theorem not_isOf_of_mem_filterMap {registry : Registry} {name : ObjectName} {attr : String}
    {descriptors : List AttributeDescriptor} (h : ∀ d ∈ descriptors, d.name ≠ attr) :
    ∀ x ∈ descriptors.filterMap (reading? registry name), ¬ x.isOf name attr := by
  intro x hx hi
  obtain ⟨d, hm, hd⟩ := List.mem_filterMap.mp hx
  have hn := (of_decide_eq_true (isOf_of_reading? hd)).2
  exact h d hm (hn.symm.trans (of_decide_eq_true hi).2)

theorem readingsOf_eq_append (hf : s.find? object.name = some object)
    {before after : List AttributeDescriptor} {d : AttributeDescriptor}
    (hl : object.descriptors = some (before ++ d :: after)) :
    readingsOf s.registry object.name =
      before.filterMap (reading? s.registry object.name) ++
        ((reading? s.registry object.name d).toList ++
          after.filterMap (reading? s.registry object.name)) := by
  unfold readingsOf
  rw [Snapshot.describe_of_find? hf, hl]
  dsimp only
  rw [List.filterMap_append, List.filterMap_cons]
  cases reading? s.registry object.name d <;> rfl

/-- An attribute that is listed once on one object is read at most once in a pass. -/
theorem readings_eq_append (hd : s.Distinct) {d : AttributeDescriptor} (hl : s.ListsOnce object d)
    {pattern : Option Pattern} (hm : object.name ∈ objects s.registry pattern) :
    ∃ front back, readings s.registry pattern =
        front ++ (reading? s.registry object.name d).toList ++ back ∧
      ∀ x ∈ front ++ back, ¬ x.isOf object.name d.name := by
  obtain ⟨ho, before, after, hl, hn⟩ := hl
  obtain ⟨first, rest, hs⟩ := List.append_of_mem hm
  -- no other object of the pass has this name, and no other descriptor of the object has `d.name`
  have hnd := nodup_objects hd pattern
  rw [hs, List.nodup_append] at hnd
  have hfirst : object.name ∉ first := fun hf => hnd.2.2 _ hf _ (by simp) rfl
  have hrest : object.name ∉ rest := (List.nodup_cons.mp hnd.2.1).1
  refine ⟨first.flatMap (readingsOf s.registry) ++
      before.filterMap (reading? s.registry object.name),
    after.filterMap (reading? s.registry object.name) ++ rest.flatMap (readingsOf s.registry), ?_, ?_⟩
  · rw [readings, hs, List.flatMap_append, List.flatMap_cons,
      readingsOf_eq_append (hd.find?_eq ho) hl]
    simp only [List.append_assoc]
  · simp only [List.mem_append]
    rintro x ((hx | hx) | (hx | hx))
    · exact not_isOf_of_mem_flatMap hfirst d.name x hx
    · exact not_isOf_of_mem_filterMap (fun other hb => hn other (List.mem_append_left _ hb)) x hx
    · exact not_isOf_of_mem_filterMap (fun other ha => hn other (List.mem_append_right _ ha)) x hx
    · exact not_isOf_of_mem_flatMap hrest d.name x hx

theorem readings_withFault_eq_append (hd : s.Distinct) {d : AttributeDescriptor}
    (hl : s.ListsOnce object d) {pattern : Option Pattern}
    (hm : object.name ∈ objects s.registry pattern) (fault : Fault) :
    ∃ front back, readings s.registry pattern =
        front ++ (reading? s.registry object.name d).toList ++ back ∧
      readings (s.withFault object.name d.name fault).registry pattern = front ++ back := by
  obtain ⟨front, back, hr, hf⟩ := readings_eq_append hd hl hm
  refine ⟨front, back, hr, ?_⟩
  have hx : (reading? s.registry object.name d).toList.filter
      (fun x => ¬ x.isOf object.name d.name) = [] := by
    rw [List.filter_eq_nil_iff]
    intro x hx
    simp [isOf_of_reading? (Option.mem_toList.mp hx)]
  have hfront : front.filter (fun x => ¬ x.isOf object.name d.name) = front :=
    List.filter_eq_self.mpr fun x hm => decide_eq_true (hf x (List.mem_append_left _ hm))
  have hback : back.filter (fun x => ¬ x.isOf object.name d.name) = back :=
    List.filter_eq_self.mpr fun x hm => decide_eq_true (hf x (List.mem_append_right _ hm))
  rw [readings_withFault hd hl.mem, hr, List.filter_append, List.filter_append, hx, hfront, hback,
    List.append_nil]

/-- Such an attribute tells nothing of the identity, unless it is a string of an object of the node's
kind. -/
theorem identityPart?_of_reading? (hf : s.find? object.name = some object) {d : AttributeDescriptor}
    (hi : object.name.kind = "NodeInfo" → ∀ text, object.values.lookup d.name ≠ some (.string text)) :
    ∀ x ∈ reading? s.registry object.name d, x.identityPart? = none := by
  intro x hx
  rw [Option.eq_none_iff_forall_ne_some]
  intro part hp
  obtain ⟨hk, text, ht⟩ := Reading.of_identityPart? hp
  obtain ⟨-, value, hv, -, rfl⟩ := reading?_eq_some_iff.mp hx
  exact hi hk text (ht ▸ Snapshot.lookup_of_read hf hv)

theorem trace_drop {settings : Settings} {r : Recorders} {front back : List Reading}
    {x? : Option Reading} (hx : ∀ x ∈ x?, x.identityPart? = none) {emissions : List Emission}
    (h : trace settings r (front ++ x?.toList ++ back) = .ok emissions) :
    ∃ before after, emissions = before ++ x?.elim [] (Reading.ownEmissions settings) ++ after ∧
      trace settings r (front ++ back) = .ok (before ++ after) := by
  cases x? with
  | none =>
    rw [Option.toList_none, List.append_nil] at h
    exact ⟨emissions, [], by simp, by simpa using h⟩
  | some x =>
    rw [Option.toList_some, List.append_assoc, List.singleton_append] at h
    exact trace_remove (hx x rfl) h

end Pass

/-! ### The pass with the fault -/

theorem Store.lastUnder_map_entry {k : String} {object : ObjectName} {attr : String}
    (hk : k ≠ key object.kind attr) {x? : Option Reading} (hx : ∀ x ∈ x?, x.isOf object attr)
    (front back : List Reading) :
    lastUnder k ((front ++ x?.toList ++ back).map Reading.entry) =
      lastUnder k ((front ++ back).map Reading.entry) := by
  cases x? with
  | none => rw [Option.toList_none, List.append_nil]
  | some x =>
    have he : x.entry.1 ≠ k := by
      obtain ⟨ho, ha⟩ := of_decide_eq_true (hx x rfl)
      rw [Reading.entry, ho, ha]
      exact hk.symm
    simp only [Option.toList_some, List.append_assoc, List.singleton_append, List.map_append,
      List.map_cons]
    exact lastUnder_append_cons_of_ne he _ _

/-- If nothing is read of an attribute any more, a pass that succeeded still does. Its families keep
their samples in their order but for those that are made of the attribute, no family is empty, and
under all other keys the store is the same. -/
theorem Engine.collect_withFault (e : Engine) {s : Snapshot} (hd : s.Distinct)
    {object : SnapshotObject} {d : AttributeDescriptor} (hl : s.ListsOnce object d)
    (hm : object.name ∈ Pass.objects s.registry e.pattern)
    (hi : object.name.kind = "NodeInfo" → ∀ text, object.values.lookup d.name ≠ some (.string text))
    (fault : Fault) {nanos : Nat} {families : List Family}
    (h : (e.collect s.registry nanos).2 = .ok families) :
    let broken := s.withFault object.name d.name fault
    ∃ families' own,
      (e.collect broken.registry nanos).2 = .ok families' ∧
      (∀ r, (Pass.attributeStep e.settings s.registry object.name d r).effect.emissions = own) ∧
      (∀ name, ∃ start finish,
        FamilyMap.samplesUnder name families = start ++ FamilyMap.madeUnder name own ++ finish ∧
        FamilyMap.samplesUnder name families' = start ++ finish) ∧
      (∀ f ∈ families', f.samples ≠ []) ∧
      ∀ key, key ≠ Store.key object.name.kind d.name →
        (e.collect broken.registry nanos).1.store.get? key =
          (e.collect s.registry nanos).1.store.get? key := by
  intro broken
  have hx := Pass.identityPart?_of_reading? (hd.find?_eq hl.mem) hi
  obtain ⟨front, back, hr, hr'⟩ := Pass.readings_withFault_eq_append hd hl hm fault
  obtain ⟨emissions, ht, rfl⟩ := trace_of_collect h
  rw [hr] at ht
  obtain ⟨before, after, rfl, ht'⟩ := Pass.trace_drop hx ht
  have h' : (e.collect broken.registry nanos).2 = .ok (FamilyMap.grouping (before ++ after)) := by
    rw [result_collect, hr', ht']
    rfl
  refine ⟨_, _, h', fun r => Pass.emissions_attributeStep hx e.settings r, ?_, ?_, ?_⟩
  · intro name
    refine ⟨FamilyMap.madeUnder name before, FamilyMap.madeUnder name after, ?_, ?_⟩
    · rw [FamilyMap.samplesUnder_grouping, FamilyMap.madeUnder_append, FamilyMap.madeUnder_append]
    · rw [FamilyMap.samplesUnder_grouping, FamilyMap.madeUnder_append]
  · exact fun f hf => FamilyMap.samples_ne_nil_of_mem_grouping hf
  · intro key hk
    rw [get?_collect h', get?_collect h, hr, hr',
      Store.lastUnder_map_entry hk fun x hm => Pass.isOf_of_reading? hm]

def SnapshotObject.threeProtocols : SnapshotObject :=
  (((named ⟨"io.crate.monitoring", [("type", "Connections")]⟩).withAttribute
    ⟨"HttpOpen", "long", "", true⟩ (.number .one)).withAttribute
    ⟨"PsqlOpen", "long", "", true⟩ (.number .zero)).withAttribute
    ⟨"TransportOpen", "long", "", true⟩ (.number .one)

/-- This object, and before it the id and the name of the node. -/
def Snapshot.threeProtocols : Snapshot where
  objects :=
    [((SnapshotObject.named ⟨"io.crate.monitoring", [("type", "NodeInfo")]⟩).withAttribute
      ⟨"NodeId", "java.lang.String", "", true⟩ (.string "n1")).withAttribute
      ⟨"NodeName", "java.lang.String", "", true⟩ (.string "Aconcagua"),
     .threeProtocols]
  unavailable := none

def Family.ofProtocols (samples : List (String × Binary64)) : List Family :=
  [⟨"crate_connections", .gauge,
      "Number of connections and transferred messages and bytes per protocol",
      samples.map fun (protocol, n) =>
        ⟨"crate_connections", [("protocol", protocol), ("property", "open")], n⟩⟩,
   ⟨"crate_node_info", .untyped, "Node information.",
      [⟨"crate_node_info", [("id", "n1"), ("name", "Aconcagua")], .one⟩]⟩]

theorem Engine.collect_withFault_threeProtocols :
    let e := create .default (.since .zero)
    let s := Snapshot.threeProtocols
    let object := SnapshotObject.threeProtocols
    let d : AttributeDescriptor := ⟨"PsqlOpen", "long", "", true⟩
    let broken := s.withFault object.name d.name .failing
    let all := Family.ofProtocols [("http", .one), ("psql", .zero), ("transport", .one)]
    let left := Family.ofProtocols [("http", .one), ("transport", .one)]
    s.Distinct ∧ s.ListsOnce object d ∧
      object.name ∈ Pass.objects s.registry e.pattern ∧ object.name.kind ≠ "NodeInfo" ∧
      (e.collect s.registry 0).2 = .ok all ∧ (e.collect broken.registry 0).2 = .ok left ∧
      (∃ own,
        (∀ r, (Pass.attributeStep e.settings s.registry object.name d r).effect.emissions = own) ∧
        ∀ name, ∃ start finish,
          FamilyMap.samplesUnder name all = start ++ FamilyMap.madeUnder name own ++ finish ∧
          FamilyMap.samplesUnder name left = start ++ finish) ∧
      (e.collect broken.registry 0).1.store.get? "Connections_HttpOpen" =
        (e.collect s.registry 0).1.store.get? "Connections_HttpOpen" := by
  intro e s object d broken all left
  have hd : s.Distinct := by decide
  have hl : s.ListsOnce object d := by
    refine ⟨by simp [s, object, Snapshot.threeProtocols], [⟨"HttpOpen", "long", "", true⟩],
      [⟨"TransportOpen", "long", "", true⟩], rfl, by decide⟩
  have hm : object.name ∈ Pass.objects s.registry e.pattern := by decide +kernel
  have hk : object.name.kind ≠ "NodeInfo" := by decide
  have h : (e.collect s.registry 0).2 = .ok all := by decide +kernel
  have hb : (e.collect broken.registry 0).2 = .ok left := by decide +kernel
  obtain ⟨families, own, hf, ho, hs, -, hg⟩ :=
    collect_withFault e hd hl hm (fun hi => absurd hi hk) .failing h
  obtain rfl : left = families := Except.ok.inj (hb.symm.trans hf)
  exact ⟨hd, hl, hm, hk, h, hb, ⟨own, ho, hs⟩, hg _ (by decide)⟩

end BeanMetrics
