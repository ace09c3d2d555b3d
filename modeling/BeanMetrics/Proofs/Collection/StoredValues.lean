import BeanMetrics.Proofs.Collection.Writes
import BeanMetrics.Registry.Snapshot
import Mathlib.Data.List.Basic

/-!
Whose value is found in the store. A key joins the kind of an object and the name of an attribute with
a `_`, and both may have a `_` in them; so two attributes come to one key if the longer kind goes on
with a `_` and the other attribute begins with what it goes on with. Of attributes that overlap in this
way the one read last is found, and all others find their own value.
-/

namespace BeanMetrics
namespace Store

/-- The longer kind is the shorter one, a `_` and some more text; and with this text and a `_` begins
the attribute of the shorter kind. -/
def Overlap (kind attr kind' attr' : String) : Prop :=
  ∃ text, kind = key kind' text ∧ attr' = key text attr

theorem key_eq_of_overlap {kind attr kind' attr' : String} (h : Overlap kind attr kind' attr') :
    key kind attr = key kind' attr' := by
  obtain ⟨text, rfl, rfl⟩ := h
  simp [key, String.append_assoc]

/-- How a key that is not shorter than the kind of another one goes on. -/
theorem overlap_of_append_eq {kind attr kind' attr' : String} {more : List Char}
    (hk : kind.toList = kind'.toList ++ more) (ha : '_' :: attr'.toList = more ++ '_' :: attr.toList) :
    (kind = kind' ∧ attr = attr') ∨ Overlap kind attr kind' attr' := by
  cases more with
  | nil =>
    have hk' : kind = kind' := String.toList_injective (by simpa using hk)
    have ha' : attr = attr' := String.toList_injective (by simpa using ha.symm)
    exact .inl ⟨hk', ha'⟩
  | cons c text =>
    obtain ⟨rfl, ht⟩ := List.cons.inj ha
    refine .inr ⟨String.ofList text, String.toList_injective ?_, String.toList_injective ?_⟩
    · simp [toList_key, hk]
    · simp [toList_key, ht]

theorem key_eq_key_iff_overlap {kind attr kind' attr' : String} :
    key kind attr = key kind' attr' ↔
      (kind = kind' ∧ attr = attr') ∨ Overlap kind attr kind' attr' ∨ Overlap kind' attr' kind attr := by
  constructor
  · intro h
    have hl := congrArg String.toList h
    rw [toList_key, toList_key] at hl
    rcases List.append_eq_append_iff.mp hl with ⟨more, hk, ha⟩ | ⟨more, hk, ha⟩
    · rcases overlap_of_append_eq hk ha with ⟨rfl, rfl⟩ | ho
      · exact .inl ⟨rfl, rfl⟩
      · exact .inr (.inr ho)
    · rcases overlap_of_append_eq hk ha with hs | ho
      · exact .inl hs
      · exact .inr (.inl ho)
  · rintro (⟨rfl, rfl⟩ | ho | ho)
    · rfl
    · exact key_eq_of_overlap ho
    · exact (key_eq_of_overlap ho).symm

theorem lastUnder_append (k : String) (front back : List (String × AttributeValue)) :
    lastUnder k (front ++ back) = (lastUnder k back).or (lastUnder k front) := by
  simp only [lastUnder, List.filter_append, List.getLast?_append]
  cases (back.filter (·.1 = k)).getLast? <;> rfl

theorem lastUnder_eq_none_iff {k : String} {writes : List (String × AttributeValue)} :
    lastUnder k writes = none ↔ ∀ write ∈ writes, write.1 ≠ k := by
  simp [lastUnder]

end Store

namespace Reading

def SameAttribute (x y : Reading) : Prop :=
  x.object.kind = y.object.kind ∧ x.descriptor.name = y.descriptor.name

instance (x y : Reading) : Decidable (x.SameAttribute y) := inferInstanceAs (Decidable (_ ∧ _))

/-- One of the two kinds goes on where the other one has ended, and so does the attribute of the other
one. -/
def Overlaps (x y : Reading) : Prop :=
  Store.Overlap x.object.kind x.descriptor.name y.object.kind y.descriptor.name ∨
    Store.Overlap y.object.kind y.descriptor.name x.object.kind x.descriptor.name

theorem key_eq_key_iff {x y : Reading} :
    x.entry.1 = y.entry.1 ↔ x.SameAttribute y ∨ x.Overlaps y :=
  Store.key_eq_key_iff_overlap

theorem lastUnder_cons_of_apart {x : Reading} {back : List Reading}
    (h : ∀ y ∈ back, x.entry.1 ≠ y.entry.1) :
    Store.lastUnder x.entry.1 ((x :: back).map entry) = some x.value := by
  have hn : Store.lastUnder x.entry.1 (back.map entry) = none := by
    rw [Store.lastUnder_eq_none_iff]
    rintro write hw
    obtain ⟨y, hy, rfl⟩ := List.mem_map.mp hw
    exact (h y hy).symm
  rw [List.map_cons, ← List.singleton_append, Store.lastUnder_append, hn]
  simp [Store.lastUnder, entry]

end Reading

namespace Engine

variable {e : Engine} {registry : Registry} {nanos : Nat} {families : List Family}

theorem get?_collect_of_split (h : (e.collect registry nanos).2 = .ok families)
    {front back : List Reading} {x : Reading}
    (hs : Pass.readings registry e.pattern = front ++ x :: back)
    (hb : ∀ y ∈ back, x.entry.1 ≠ y.entry.1) :
    (e.collect registry nanos).1.store.get? x.entry.1 = some x.value := by
  rw [get?_collect h, hs, List.map_append, Store.lastUnder_append,
    Reading.lastUnder_cons_of_apart hb]
  rfl

theorem get?_collect_of_forall_ne (h : (e.collect registry nanos).2 = .ok families) {k : String}
    (hk : ∀ x ∈ Pass.readings registry e.pattern, x.entry.1 ≠ k) :
    (e.collect registry nanos).1.store.get? k = e.store.get? k := by
  have hn : Store.lastUnder k ((Pass.readings registry e.pattern).map Reading.entry) = none := by
    rw [Store.lastUnder_eq_none_iff]
    rintro write hw
    obtain ⟨x, hx, rfl⟩ := List.mem_map.mp hw
    exact hk x hx
  rw [get?_collect h, hn, Option.none_or]

theorem exists_get?_collect (h : (e.collect registry nanos).2 = .ok families) {x : Reading}
    (hx : x ∈ Pass.readings registry e.pattern) :
    ∃ y ∈ Pass.readings registry e.pattern, x.entry.1 = y.entry.1 ∧
      (e.collect registry nanos).1.store.get? x.entry.1 = some y.value := by
  rw [get?_collect h]
  cases hl : Store.lastUnder x.entry.1 ((Pass.readings registry e.pattern).map Reading.entry) with
  | none => exact absurd rfl (Store.lastUnder_eq_none_iff.mp hl _ (List.mem_map_of_mem hx))
  | some value =>
    obtain ⟨write, hw, rfl⟩ := Option.map_eq_some_iff.mp hl
    obtain ⟨hm, hk⟩ := List.mem_filter.mp (List.mem_of_getLast? hw)
    obtain ⟨y, hy, rfl⟩ := List.mem_map.mp hm
    exact ⟨y, hy, (of_decide_eq_true hk).symm, rfl⟩

/-- All readings find their own value if no two under one key have different ones. -/
theorem forall_get?_collect_iff (h : (e.collect registry nanos).2 = .ok families) :
    (∀ x ∈ Pass.readings registry e.pattern,
      (e.collect registry nanos).1.store.get? x.entry.1 = some x.value) ↔
    (Pass.readings registry e.pattern).Pairwise fun x y =>
      x.entry.1 = y.entry.1 → x.value = y.value := by
  constructor
  · intro hall
    refine List.pairwise_of_forall_mem_list fun x hx y hy hk => ?_
    have hv := (hall x hx).symm.trans (hk ▸ hall y hy)
    exact Option.some.inj hv
  · intro hp x hx
    have hflip := hp.imp fun hv hk => (hv (Eq.symm hk)).symm
    have hsame := List.Pairwise.forall_of_forall_of_flip (fun _ _ _ => rfl) hp hflip
    obtain ⟨y, hy, hk, hg⟩ := exists_get?_collect h hx
    rw [hg, hsame hx hy hk]

/-- Different attributes have one key exactly if they overlap. After a pass in which no attribute is read
twice, those that overlap find the same value, which is the value of the one read last; so all attributes
find their own value exactly if those that overlap have the same one. What is no attribute's key holds what
it held before. -/
theorem stored_collect (h : (e.collect registry nanos).2 = .ok families)
    (hd : (Pass.readings registry e.pattern).Pairwise fun x y => ¬ x.SameAttribute y) :
    let store := (e.collect registry nanos).1.store
    let found (x : Reading) := store.get? (Store.key x.object.kind x.descriptor.name)
    (∀ x y : Reading,
      Store.key x.object.kind x.descriptor.name = Store.key y.object.kind y.descriptor.name ↔
        x.SameAttribute y ∨ x.Overlaps y) ∧
    (∀ front x back, Pass.readings registry e.pattern = front ++ x :: back →
      (∀ y ∈ back, ¬ x.Overlaps y) → found x = some x.value) ∧
    (∀ x y : Reading, x.Overlaps y → found x = found y) ∧
    ((∀ x ∈ Pass.readings registry e.pattern, found x = some x.value) ↔
      (Pass.readings registry e.pattern).Pairwise fun x y => x.Overlaps y → x.value = y.value) ∧
    ∀ k, (∀ x ∈ Pass.readings registry e.pattern, Store.key x.object.kind x.descriptor.name ≠ k) →
      store.get? k = e.store.get? k := by
  intro store found
  refine ⟨fun _ _ => Reading.key_eq_key_iff, fun front x back hs hb => ?_, fun x y ho => ?_, ?_,
    fun k => get?_collect_of_forall_ne h⟩
  · rw [hs] at hd
    have hx : ∀ y ∈ back, ¬ x.SameAttribute y :=
      (List.pairwise_cons.mp (List.pairwise_append.mp hd).2.1).1
    refine get?_collect_of_split h hs fun y hy hk => ?_
    rcases Reading.key_eq_key_iff.mp hk with ha | ho
    · exact hx y hy ha
    · exact hb y hy ho
  · exact congrArg store.get? (Reading.key_eq_key_iff.mpr (.inr ho))
  · refine (forall_get?_collect_iff h).trans ⟨fun hp => ?_, fun hp => ?_⟩
    · exact hp.imp fun hv ho => hv (Reading.key_eq_key_iff.mpr (.inr ho))
    · refine hd.imp₂ (fun x y ha hv hk => ?_) hp
      rcases Reading.key_eq_key_iff.mp hk with hs | ho
      · exact absurd hs ha
      · exact hv ho

def overlapping : Snapshot where
  objects :=
    [(SnapshotObject.named ⟨"io.crate.monitoring", [("type", "A_B")]⟩).withAttribute
      ⟨"C", "java.lang.String", "", true⟩ (.string "first"),
     (SnapshotObject.named ⟨"io.crate.monitoring", [("type", "A")]⟩).withAttribute
      ⟨"B_C", "java.lang.String", "", true⟩ (.string "second")]
  unavailable := none

def overlappingReadings : List Reading :=
  [⟨⟨"io.crate.monitoring", [("type", "A_B")]⟩, ⟨"C", "java.lang.String", "", true⟩, .string "first"⟩,
   ⟨⟨"io.crate.monitoring", [("type", "A")]⟩, ⟨"B_C", "java.lang.String", "", true⟩, .string "second"⟩]

theorem readings_overlapping :
    Pass.readings overlapping.registry (create .default (.since .zero)).pattern =
      overlappingReadings := by
  rfl

theorem collect_overlapping :
    ((create .default (.since .zero)).collect overlapping.registry 0).2 = .ok [] := by
  decide +kernel

theorem stored_collect_overlapping :
    let e := create .default (.since .zero)
    let store := (e.collect overlapping.registry 0).1.store
    (e.collect overlapping.registry 0).2 = .ok [] ∧
      (Pass.readings overlapping.registry e.pattern).Pairwise (fun x y => ¬ x.SameAttribute y) ∧
      store.get? (Store.key "A" "B_C") = some (.string "second") ∧
      store.get? (Store.key "A_B" "C") = store.get? (Store.key "A" "B_C") ∧
      store.get? Store.readyKey = e.store.get? Store.readyKey := by
  intro e store
  have hd : (Pass.readings overlapping.registry e.pattern).Pairwise
      fun x y => ¬ x.SameAttribute y := by
    rw [readings_overlapping]
    decide
  obtain ⟨-, hlast, hsame, -, hkeep⟩ := stored_collect collect_overlapping hd
  have ho : Store.Overlap "A_B" "C" "A" "B_C" := ⟨"B", rfl, rfl⟩
  refine ⟨collect_overlapping, hd, ?_, hsame overlappingReadings[0] overlappingReadings[1] (.inl ho), ?_⟩
  · exact hlast [overlappingReadings[0]] overlappingReadings[1] [] readings_overlapping (by simp)
  · refine hkeep _ ?_
    rw [readings_overlapping]
    decide

/-- The one that is read first finds the value of the other. -/
theorem stored_ne_overlapping :
    let e := create .default (.since .zero)
    let store := (e.collect overlapping.registry 0).1.store
    (e.collect overlapping.registry 0).2 = .ok [] ∧
      (Pass.readings overlapping.registry e.pattern).Pairwise (fun x y => ¬ x.SameAttribute y) ∧
      ¬ ∀ x ∈ Pass.readings overlapping.registry e.pattern,
        store.get? (Store.key x.object.kind x.descriptor.name) = some x.value := by
  intro e store
  refine ⟨collect_overlapping, ?_, fun hall => ?_⟩
  · rw [readings_overlapping]
    decide
  · rw [readings_overlapping] at hall
    have hfirst := hall overlappingReadings[0] (by simp [overlappingReadings])
    have hsecond := hall overlappingReadings[1] (by simp [overlappingReadings])
    have hk : Store.key "A_B" "C" = Store.key "A" "B_C" := rfl
    have hv := hfirst.symm.trans (hk ▸ hsecond)
    simp [overlappingReadings] at hv

end Engine
end BeanMetrics
