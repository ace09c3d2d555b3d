import BeanMetrics.Proofs.Collection.Listing
import Mathlib.Data.List.DropRight
import Mathlib.Data.List.Induction
import Mathlib.Data.List.ModifyLast

/-!
Snapshots that are built step by step. An object that has been added is changed until the next one is
added; attributes are put to it with a value or without one, and its descriptors may be dropped. Its
descriptors are those put to it since they were last dropped. Its value of an attribute is the one that
was given last: an attribute that is put to it once more without a value keeps the one that it has.
-/

namespace BeanMetrics
namespace SnapshotObject

inductive Change where
  | put (d : AttributeDescriptor) (value : AttributeValue)
  | putFailing (d : AttributeDescriptor)
  | dropDescriptors
  deriving Repr

namespace Change

def descriptor? : Change → Option AttributeDescriptor
  | .put d _ => some d
  | .putFailing d => some d
  | .dropDescriptors => none

def given? (attr : String) : Change → Option AttributeValue
  | .put d value => if d.name = attr then some value else none
  | _ => none

end Change

def change (object : SnapshotObject) : Change → SnapshotObject
  | .put d value => object.withAttribute d value
  | .putFailing d => object.withFailingAttribute d
  | .dropDescriptors => object.withoutDescriptors

def changeAll (object : SnapshotObject) (changes : List Change) : SnapshotObject :=
  changes.foldl change object

def lastGiven? (attr : String) (changes : List Change) : Option AttributeValue :=
  (changes.filterMap (Change.given? attr)).getLast?

/-- The descriptors put to the object since they were last dropped. -/
def sinceDropped (changes : List Change) : List AttributeDescriptor :=
  (changes.rtakeWhile (·.descriptor?.isSome)).filterMap Change.descriptor?

/-! ### One change more -/

theorem changeAll_concat (object : SnapshotObject) (changes : List Change) (c : Change) :
    object.changeAll (changes ++ [c]) = (object.changeAll changes).change c := by
  simp [changeAll]

@[simp] theorem name_change (object : SnapshotObject) (c : Change) :
    (object.change c).name = object.name := by
  cases c <;> rfl

theorem lookup_change (object : SnapshotObject) (c : Change) (attr : String) :
    (object.change c).values.lookup attr = (c.given? attr).or (object.values.lookup attr) := by
  cases c with
  | put d value =>
    have hl := KeyMap.lookup_cons_eq_ite d.name value object.values attr
    by_cases hd : d.name = attr
    · simp [change, withAttribute, Change.given?, hd]
    · simpa [change, withAttribute, withDescriptor, Change.given?, hd, Ne.symm hd] using hl
  | putFailing d => rfl
  | dropDescriptors => rfl

theorem descriptors_change (object : SnapshotObject) (c : Change) :
    (object.change c).descriptors = c.descriptor?.map (object.descriptors.getD [] ++ [·]) := by
  cases c <;> rfl

theorem lastGiven?_concat (attr : String) (changes : List Change) (c : Change) :
    lastGiven? attr (changes ++ [c]) = (c.given? attr).or (lastGiven? attr changes) := by
  simp only [lastGiven?, List.filterMap_append]
  cases hc : c.given? attr <;> simp [hc]

theorem sinceDropped_concat (changes : List Change) (c : Change) :
    sinceDropped (changes ++ [c]) = c.descriptor?.elim [] (sinceDropped changes ++ [·]) := by
  unfold sinceDropped
  cases hc : c.descriptor? with
  | none => rw [List.rtakeWhile_concat_neg _ _ _ (by simp [hc])]; rfl
  | some d =>
    rw [List.rtakeWhile_concat_pos _ _ _ (by simp [hc]), List.filterMap_append]
    simp [hc]

/-! ### All changes -/

theorem name_changeAll (object : SnapshotObject) (changes : List Change) :
    (object.changeAll changes).name = object.name := by
  induction changes using List.reverseRecOn with
  | nil => rfl
  | append_singleton changes c ih => rw [changeAll_concat, name_change, ih]

theorem lookup_changeAll (object : SnapshotObject) (changes : List Change) (attr : String) :
    (object.changeAll changes).values.lookup attr =
      (lastGiven? attr changes).or (object.values.lookup attr) := by
  induction changes using List.reverseRecOn with
  | nil => rfl
  | append_singleton changes c ih =>
    rw [changeAll_concat, lookup_change, ih, lastGiven?_concat, Option.or_assoc]

/-- A new object has no descriptors if they were dropped by the last change. -/
theorem descriptors_changeAll (name : ObjectName) (changes : List Change) :
    ((named name).changeAll changes).descriptors =
      match changes.getLast? with
      | some .dropDescriptors => none
      | _ => some (sinceDropped changes) := by
  -- however the last change came out, the next one adds to what was put since the last drop
  have hput : ∀ changes, ((named name).changeAll changes).descriptors.getD [] =
      sinceDropped changes := by
    intro changes
    induction changes using List.reverseRecOn with
    | nil => rfl
    | append_singleton changes c ih =>
      rw [changeAll_concat, descriptors_change, sinceDropped_concat, ih]
      cases c.descriptor? <;> rfl
  induction changes using List.reverseRecOn with
  | nil => rfl
  | append_singleton changes c _ =>
    rw [changeAll_concat, descriptors_change, hput, List.getLast?_concat, sinceDropped_concat]
    cases c <;> rfl

end SnapshotObject

namespace Snapshot

open SnapshotObject (Change)

/-- What is done to build a snapshot: a change is one of the object that was added last. -/
inductive BuildStep where
  | addObject (name : ObjectName)
  | change (c : Change)
  deriving Repr

def perform (s : Snapshot) : BuildStep → Snapshot
  | .addObject name => s.add (.named name)
  | .change c => { s with objects := s.objects.modifyLast (·.change c) }

def performAll (s : Snapshot) (steps : List BuildStep) : Snapshot := steps.foldl perform s

def built (steps : List BuildStep) : Snapshot := empty.performAll steps

/-! ### Objects of a snapshot that is being built -/

theorem performAll_append (s : Snapshot) (steps steps' : List BuildStep) :
    s.performAll (steps ++ steps') = (s.performAll steps).performAll steps' :=
  List.foldl_append

theorem perform_add_change (s : Snapshot) (object : SnapshotObject) (c : Change) :
    (s.add object).perform (.change c) = s.add (object.change c) := by
  simp [perform, add, List.modifyLast_concat]

/-- The changes that follow when an object has been added are its own. -/
theorem performAll_add_changes (s : Snapshot) (object : SnapshotObject) (changes : List Change) :
    (s.add object).performAll (changes.map .change) = s.add (object.changeAll changes) := by
  induction changes generalizing object with
  | nil => rfl
  | cons c changes ih => exact (congrArg (performAll · _) (perform_add_change s object c)).trans (ih _)

/-- Objects that are followed by another one are not changed any more. -/
theorem exists_objects_perform {s : Snapshot} {front more : List SnapshotObject}
    (h : s.objects = front ++ more) (hm : more ≠ []) (step : BuildStep) :
    ∃ more', more' ≠ [] ∧ (s.perform step).objects = front ++ more' := by
  cases step with
  | addObject name => exact ⟨more ++ [.named name], by simp, by simp [perform, add, h]⟩
  | change c =>
    obtain ⟨others, last, rfl⟩ := (List.eq_nil_or_concat' more).resolve_left hm
    refine ⟨others ++ [last.change c], by simp, ?_⟩
    simp [perform, h, ← List.append_assoc, List.modifyLast_concat]

theorem exists_objects_performAll {s : Snapshot} {front more : List SnapshotObject}
    (h : s.objects = front ++ more) (hm : more ≠ []) (steps : List BuildStep) :
    ∃ more', (s.performAll steps).objects = front ++ more' := by
  induction steps generalizing s more with
  | nil => exact ⟨more, h⟩
  | cons step steps ih =>
    obtain ⟨more', hm', h'⟩ := exists_objects_perform h hm step
    exact ih h' hm'

theorem exists_objects_of_next (s : Snapshot) {back : List BuildStep}
    (hb : ∀ c, back.head? ≠ some (.change c)) :
    ∃ more, (s.performAll back).objects = s.objects ++ more := by
  cases back with
  | nil => exact ⟨[], by simp [performAll]⟩
  | cons step back =>
    cases step with
    | addObject next =>
      have ho : (s.add (.named next)).objects = s.objects ++ [.named next] := rfl
      exact exists_objects_performAll ho (by simp) back
    | change c => exact absurd rfl (hb c)

/-- An object is in the snapshot with all changes that were made until the next one was added. -/
theorem mem_objects_built (front : List BuildStep) (name : ObjectName) (changes : List Change)
    {back : List BuildStep} (hb : ∀ c, back.head? ≠ some (.change c)) :
    (SnapshotObject.named name).changeAll changes ∈
      (built (front ++ .addObject name :: (changes.map .change ++ back))).objects := by
  have hs : built (front ++ .addObject name :: (changes.map .change ++ back)) =
      ((built front).add ((SnapshotObject.named name).changeAll changes)).performAll back := by
    rw [← performAll_add_changes, ← performAll_append, built, performAll_append]
    rfl
  obtain ⟨more, hm⟩ := exists_objects_of_next
    ((built front).add ((SnapshotObject.named name).changeAll changes)) hb
  rw [hs, hm]
  simp [add]

/-- What a snapshot says of an object, whatever was done before it was added and after the next one was,
and in whatever order its key properties are named. A read gives the value that was given last, if one
was, and whether the attribute was put without a value after that does not matter. The object is described
by what was put to it since its descriptors were last dropped, unless that was the last change. -/
theorem answers_built {front back : List BuildStep} {name asked : ObjectName} {changes : List Change}
    (hb : ∀ c, back.head? ≠ some (.change c)) (hk : asked.DistinctKeys) (hs : name.Same asked) :
    let s := built (front ++ .addObject name :: (changes.map .change ++ back))
    s.Distinct →
      (∀ attr, s.registry.read asked attr =
        match SnapshotObject.lastGiven? attr changes with
        | some value => .ok value
        | none => .error (.attributeUnavailable asked.text attr)) ∧
      s.registry.describe asked =
        match changes.getLast? with
        | some .dropDescriptors => .error (.instanceNotFound asked.text)
        | _ => .ok (SnapshotObject.sinceDropped changes) := by
  intro s hd
  have hn : ((SnapshotObject.named name).changeAll changes).name.Same asked := by
    rwa [SnapshotObject.name_changeAll]
  have hf := hd.find?_of_same (mem_objects_built front name changes hb) hk hn
  refine ⟨fun attr => ?_, ?_⟩
  · have hv := SnapshotObject.lookup_changeAll (.named name) changes attr
    rw [read_of_find? hf, hv]
    cases SnapshotObject.lastGiven? attr changes <;> rfl
  · rw [describe_of_find? hf, SnapshotObject.descriptors_changeAll]
    cases changes.getLast? with
    | none => rfl
    | some c => cases c <;> rfl

def readyFlag : AttributeDescriptor := ⟨"Ready", "boolean", "", true⟩

/-- The flag is put to an object with a value, and after a drop of the descriptors without one. The object
is asked for with its properties in another order. -/
theorem answers_built_flagTwice :
    let node : ObjectName := ⟨"io.crate.monitoring", [("type", "NodeStatus"), ("node", "n1")]⟩
    let asked : ObjectName := ⟨"io.crate.monitoring", [("node", "n1"), ("type", "NodeStatus")]⟩
    let pool : ObjectName := ⟨"io.crate.monitoring", [("type", "ThreadPools"), ("name", "search")]⟩
    let active : AttributeDescriptor := ⟨"Active", "int", "", true⟩
    let s := built ([.addObject pool, .change .dropDescriptors] ++ .addObject node ::
      (List.map .change [.put readyFlag (.boolean true), .dropDescriptors, .putFailing readyFlag] ++
        [.addObject ⟨"java.lang", [("type", "Memory")]⟩, .change (.put active (.number .one))]))
    node.Same asked ∧ s.Distinct ∧ s.registry.read asked "Ready" = .ok (.boolean true) ∧
      s.registry.read asked "Active" = .error (.attributeUnavailable asked.text "Active") ∧
      s.registry.describe asked = .ok [readyFlag] := by
  intro node asked pool active s
  have hs : node.Same asked := (ObjectName.sameObject_iff_same (by decide) (by decide)).mp (by decide)
  have hd : s.Distinct := by decide
  obtain ⟨hr, hdescribe⟩ := answers_built (fun c => by simp) (by decide) hs hd
  exact ⟨hs, hd, hr "Ready", hr "Active", hdescribe⟩

/-- The flag was put without a value last, and it is read all the same. -/
theorem read_built_ne_error_flag :
    let node : ObjectName := ⟨"io.crate.monitoring", [("type", "NodeStatus")]⟩
    let s := built [.addObject node, .change (.put readyFlag (.boolean true)),
      .change (.putFailing readyFlag)]
    s.Distinct ∧ s.registry.read node "Ready" = .ok (.boolean true) := by
  intro node s
  exact ⟨by decide, rfl⟩

end Snapshot
end BeanMetrics
