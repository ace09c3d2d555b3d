import BeanMetrics.Agent.Assembly
import BeanMetrics.Proofs.Json.Ordered
import BeanMetrics.Proofs.ObjectName.Written
import Mathlib.Data.List.Find

/-!
What an assembled snapshot answers. The names that were searched, the attributes that were listed and
the values that were read are joined on the object that they denote, in whatever order its properties
are written; of several entries for one object the first one counts, and no entry for another object.
-/

namespace BeanMetrics
namespace ObjectName

theorem same_iff {a b : ObjectName} :
    a.Same b ↔ a.domain = b.domain ∧
      ∀ key ∈ a.properties.map (·.1) ++ b.properties.map (·.1), a.property? key = b.property? key := by
  refine and_congr_right fun _ => ⟨fun h key _ => h key, fun h key => ?_⟩
  by_cases hk : key ∈ a.properties.map (·.1) ++ b.properties.map (·.1)
  · exact h key hk
  · -- a key that neither name has
    have hnone {name : ObjectName} (hn : key ∉ name.properties.map (·.1)) :
        name.property? key = none := by
      refine List.lookup_eq_none_iff.mpr fun p hp => ?_
      have hne : key ≠ p.1 := fun he => hn (he ▸ List.mem_map_of_mem hp)
      simpa using hne
    obtain ⟨ha, hb⟩ := not_or.mp (mt List.mem_append.mpr hk)
    rw [hnone ha, hnone hb]

instance (a b : ObjectName) : Decidable (a.Same b) := decidable_of_iff _ same_iff.symm

end ObjectName

/-! ### What is joined -/

namespace ReplyValue

theorem distinctKeys_searched {value : Json} {names : List ObjectName}
    (h : searched value = .ok names) : ∀ name ∈ names, name.DistinctKeys := by
  cases value with
  | array elements =>
    obtain rfl := Except.ok.inj h
    intro name hm
    obtain ⟨text, -, ht⟩ := List.mem_filterMap.mp hm
    exact ObjectName.distinctKeys_of_ofText? ht
  | _ => cases h

theorem distinctKeys_listed {domain : String} {value : Json} {entries : List Listed}
    (h : listed domain value = .ok entries) : ∀ entry ∈ entries, entry.1.DistinctKeys := by
  cases value with
  | object members =>
    obtain rfl := Except.ok.inj h
    intro entry hm
    obtain ⟨member, -, ht⟩ := List.mem_filterMap.mp hm
    obtain ⟨name, hn, rfl⟩ := Option.map_eq_some_iff.mp ht
    exact ObjectName.distinctKeys_of_ofText? hn
  | _ => cases h

theorem distinctKeys_read {pattern : Pattern} {mbean : String} {value : Json}
    {entries : List Readings} (h : read pattern mbean value = .ok entries) :
    ∀ entry ∈ entries, entry.1.DistinctKeys := by
  cases value with
  | object members =>
    rw [read] at h
    split at h
    · obtain rfl := Except.ok.inj h
      intro entry hm
      obtain ⟨member, -, ht⟩ := List.mem_filterMap.mp hm
      obtain ⟨name, hn, rfl⟩ := Option.map_eq_some_iff.mp ht
      exact ObjectName.distinctKeys_of_ofText? hn
    · split at h
      · rename_i name hn
        obtain rfl := Except.ok.inj h
        intro entry hm
        rw [List.mem_singleton.mp hm]
        exact ObjectName.distinctKeys_of_ofText? hn
      · cases h
  | _ => cases h

theorem map_name_descriptorsOf (entry : Json) :
    (descriptorsOf entry).map (·.name) =
      (((entry.get? "attr").bind Json.object?).getD []).map (·.1) := by
  rw [descriptorsOf, List.map_map]
  rfl

theorem nodup_descriptorsOf {entry : Json} (h : entry.Ordered) :
    ((descriptorsOf entry).map (·.name)).Nodup := by
  rw [map_name_descriptorsOf]
  cases ha : (entry.get? "attr").bind Json.object? with
  | none => exact List.nodup_nil
  | some members =>
    obtain ⟨attributes, hg, ho⟩ := Option.bind_eq_some_iff.mp ha
    have hordered := h.get? hg
    cases hordered with
    | object hk _ =>
      obtain rfl := Option.some.inj ho
      exact hk.nodup_keys
    | _ => cases ho

theorem nodup_listed {domain : String} {value : Json} {entries : List Listed}
    (h : listed domain value = .ok entries) (ho : value.Ordered) :
    ∀ entry ∈ entries, (entry.2.map (·.name)).Nodup := by
  cases ho with
  | object _ hall =>
    obtain rfl := Except.ok.inj h
    intro entry hm
    obtain ⟨member, hmem, ht⟩ := List.mem_filterMap.mp hm
    obtain ⟨name, -, rfl⟩ := Option.map_eq_some_iff.mp ht
    exact nodup_descriptorsOf (hall member hmem)
  | _ => cases h

end ReplyValue

namespace Snapshot

/-! ### The first entry for an object -/

section

variable {α : Type} {entries : List (ObjectName × α)} {q q' : ObjectName}

def firstOf? (entries : List (ObjectName × α)) (q : ObjectName) : Option α :=
  (entries.find? fun entry => decide (entry.1.Same q)).map (·.2)

theorem firstOf?_congr (h : q'.Same q) : firstOf? entries q' = firstOf? entries q := by
  have hs : ∀ entry : ObjectName × α, entry.1.Same q' ↔ entry.1.Same q :=
    fun entry => ⟨fun he => he.trans h, fun he => he.trans h.symm⟩
  simp only [firstOf?, hs]

/-- The first entry says what all entries for the object say. -/
theorem firstOf?_eq_some {name : ObjectName} {value : α} (hm : (name, value) ∈ entries)
    (hs : name.Same q) (hall : ∀ entry ∈ entries, entry.1.Same q → entry.2 = value) :
    firstOf? entries q = some value := by
  rw [firstOf?, Option.map_eq_some_iff]
  cases hf : entries.find? fun entry => decide (entry.1.Same q) with
  | none => exact absurd (decide_eq_true hs) (List.find?_eq_none.mp hf _ hm)
  | some entry =>
    have he : entry.1.Same q := by simpa using List.find?_some hf
    exact ⟨entry, rfl, hall entry (List.mem_of_find?_eq_some hf) he⟩

theorem firstOf?_filter (entries : List (ObjectName × α)) (q : ObjectName) :
    firstOf? (entries.filter fun entry => decide (entry.1.Same q)) q = firstOf? entries q := by
  simp [firstOf?, List.find?_filter]

theorem entryFor?_eq_firstOf? (hk : ∀ entry ∈ entries, entry.1.DistinctKeys) (hq : q.DistinctKeys) :
    entryFor? entries q = firstOf? entries q := by
  have hs : ∀ entry ∈ entries, entry.1.sameObject q = decide (entry.1.Same q) := by
    intro entry he
    rw [Bool.eq_iff_iff, ObjectName.sameObject_iff_same (hk entry he) hq, decide_eq_true_iff]
  rw [entryFor?, firstOf?, List.find?_congr hs]

end

/-! ### One object of the join -/

/-- The value that an attribute of an object is given: it is described, it was read, and what was read
is no fault. -/
def Given (descriptors : List AttributeDescriptor) (readings : List (String × Json)) (attr : String)
    (value : AttributeValue) : Prop :=
  ∃ d ∈ descriptors, d.name = attr ∧ ∃ raw, readings.lookup attr = some raw ∧
    ReplyValue.isFault raw d.declaredType = false ∧
    value = ReplyValue.attributeValue d.declaredType raw

theorem valueOf?_eq_some_iff {readings : List (String × Json)} {d : AttributeDescriptor}
    {p : String × AttributeValue} :
    valueOf? readings d = some p ↔ p.1 = d.name ∧ ∃ raw, readings.lookup d.name = some raw ∧
      ReplyValue.isFault raw d.declaredType = false ∧
      p.2 = ReplyValue.attributeValue d.declaredType raw := by
  obtain ⟨attr, value⟩ := p
  unfold valueOf?
  cases hr : readings.lookup d.name with
  | none => simp
  | some raw =>
    cases hf : ReplyValue.isFault raw d.declaredType with
    | true => simp [hf]
    | false =>
      simp only [hf, Bool.false_eq_true, if_false, Option.some.injEq, Prod.mk.injEq, exists_eq_left',
        true_and]
      exact and_congr eq_comm eq_comm

/-- Values are there under names of described attributes, in the same order. -/
theorem map_fst_values_sublist (descriptors : List AttributeDescriptor)
    (readings : List (String × Json)) :
    ((descriptors.filterMap (valueOf? readings)).map (·.1)).Sublist
      (descriptors.map (·.name)) := by
  induction descriptors with
  | nil => exact List.Sublist.slnil
  | cons d descriptors ih =>
    cases hv : valueOf? readings d with
    | none =>
      rw [List.filterMap_cons_none hv]
      exact ih.cons d.name
    | some p =>
      have hp : p.1 = d.name := (valueOf?_eq_some_iff.mp hv).1
      rw [List.filterMap_cons_some hv, List.map_cons, List.map_cons, hp]
      exact ih.cons_cons d.name

theorem lookup_values_iff {descriptors : List AttributeDescriptor} {readings : List (String × Json)}
    (hd : (descriptors.map (·.name)).Nodup) {attr : String} {value : AttributeValue} :
    (descriptors.filterMap (valueOf? readings)).reverse.lookup attr = some value ↔
      Given descriptors readings attr value := by
  have hn : ((descriptors.filterMap (valueOf? readings)).reverse.map (·.1)).Nodup := by
    rw [List.map_reverse, List.nodup_reverse]
    exact (map_fst_values_sublist descriptors readings).nodup hd
  rw [KeyMap.lookup_eq_some_iff_mem hn, List.mem_reverse, List.mem_filterMap]
  simp only [valueOf?_eq_some_iff, Given]
  constructor
  · rintro ⟨d, hm, rfl, hraw⟩
    exact ⟨d, hm, rfl, hraw⟩
  · rintro ⟨d, hm, rfl, hraw⟩
    exact ⟨d, hm, rfl, hraw⟩

/-! ### Answers -/

section

variable {names : List ObjectName} {listed : List ReplyValue.Listed} {read : List ReplyValue.Readings}
  {q : ObjectName}

/-- The attributes that were listed for an object, if it was searched. -/
def joined? (names : List ObjectName) (listed : List ReplyValue.Listed) (q : ObjectName) :
    Option (List AttributeDescriptor) :=
  if ∃ name ∈ names, name.Same q then firstOf? listed q else none

theorem joined?_eq_some_iff {descriptors : List AttributeDescriptor} :
    joined? names listed q = some descriptors ↔
      (∃ name ∈ names, name.Same q) ∧ firstOf? listed q = some descriptors := by
  rw [joined?, Option.ite_none_right_eq_some]

/-- What a name finds is what the first searched name for this object was made to. -/
theorem find?_assemble (hn : ∀ name ∈ names, name.DistinctKeys) (hq : q.DistinctKeys) :
    (assemble names listed read).find? q =
      (names.find? fun name => decide (name.Same q)).map (assembleObject listed read) := by
  have hs : ∀ name ∈ names, name.sameObject q = decide (name.Same q) := by
    intro name hm
    rw [Bool.eq_iff_iff, ObjectName.sameObject_iff_same (hn name hm) hq, decide_eq_true_iff]
  rw [find?, assemble, List.find?_map]
  exact congrArg (Option.map _) (List.find?_congr hs)

/-- What the three requests bring: no name has a key twice, and no object an attribute. -/
structure Joinable (names : List ObjectName) (listed : List ReplyValue.Listed)
    (read : List ReplyValue.Readings) : Prop where
  nameKeys : ∀ name ∈ names, name.DistinctKeys
  listedKeys : ∀ entry ∈ listed, entry.1.DistinctKeys
  readKeys : ∀ entry ∈ read, entry.1.DistinctKeys
  attributes : ∀ entry ∈ listed, (entry.2.map (·.name)).Nodup

theorem Joinable.filter (h : Joinable names listed read) (q : ObjectName) :
    Joinable names (listed.filter fun entry => decide (entry.1.Same q))
      (read.filter fun entry => decide (entry.1.Same q)) where
  nameKeys := h.nameKeys
  listedKeys entry hm := h.listedKeys entry (List.mem_of_mem_filter hm)
  readKeys entry hm := h.readKeys entry (List.mem_of_mem_filter hm)
  attributes entry hm := h.attributes entry (List.mem_of_mem_filter hm)

theorem Joinable.nodup_joined? (h : Joinable names listed read) {descriptors : List AttributeDescriptor}
    (hj : joined? names listed q = some descriptors) : (descriptors.map (·.name)).Nodup := by
  obtain ⟨-, hf⟩ := joined?_eq_some_iff.mp hj
  obtain ⟨entry, he, rfl⟩ := Option.map_eq_some_iff.mp hf
  exact h.attributes entry (List.mem_of_find?_eq_some he)

/-- An object of the join has what is first for the name that finds it. -/
theorem Joinable.exists_find?_assemble (h : Joinable names listed read) (hq : q.DistinctKeys)
    (hn : ∃ name ∈ names, name.Same q) :
    ∃ object, (assemble names listed read).find? q = some object ∧
      object.descriptors = firstOf? listed q ∧
      object.values = match firstOf? listed q, firstOf? read q with
        | some descriptors, some readings => (descriptors.filterMap (valueOf? readings)).reverse
        | _, _ => [] := by
  obtain ⟨found, hfound⟩ : ∃ found, names.find? (fun name => decide (name.Same q)) = some found := by
    refine Option.isSome_iff_exists.mp (List.find?_isSome.mpr ?_)
    obtain ⟨name, hm, hs⟩ := hn
    exact ⟨name, hm, decide_eq_true hs⟩
  have hk : found.DistinctKeys := h.nameKeys found (List.mem_of_find?_eq_some hfound)
  have hs : found.Same q := by simpa using List.find?_some hfound
  have hlisted : entryFor? listed found = firstOf? listed q :=
    (entryFor?_eq_firstOf? h.listedKeys hk).trans (firstOf?_congr hs)
  have hread : entryFor? read found = firstOf? read q :=
    (entryFor?_eq_firstOf? h.readKeys hk).trans (firstOf?_congr hs)
  refine ⟨assembleObject listed read found, ?_, hlisted, ?_⟩
  · rw [find?_assemble h.nameKeys hq, hfound, Option.map_some]
  · show (match entryFor? listed found, entryFor? read found with
      | some descriptors, some readings => (descriptors.filterMap (valueOf? readings)).reverse
      | _, _ => []) = _
    rw [hlisted, hread]

theorem Joinable.find?_assemble_eq_none (h : Joinable names listed read) (hq : q.DistinctKeys)
    (hn : ¬ ∃ name ∈ names, name.Same q) : (assemble names listed read).find? q = none := by
  have hnone : names.find? (fun name => decide (name.Same q)) = none :=
    List.find?_eq_none.mpr fun name hm hs => hn ⟨name, hm, of_decide_eq_true hs⟩
  rw [find?_assemble h.nameKeys hq, hnone, Option.map_none]

theorem Joinable.describe_assemble (h : Joinable names listed read) (hq : q.DistinctKeys) :
    (assemble names listed read).describe q =
      match joined? names listed q with
      | some descriptors => .ok descriptors
      | none => .error (.instanceNotFound q.text) := by
  have hfound : ((assemble names listed read).find? q).bind (·.descriptors) =
      joined? names listed q := by
    by_cases hn : ∃ name ∈ names, name.Same q
    · obtain ⟨object, hfind, hd, -⟩ := h.exists_find?_assemble hq hn
      rw [hfind, Option.bind_some, hd, joined?, if_pos hn]
    · rw [h.find?_assemble_eq_none hq hn, Option.bind_none, joined?, if_neg hn]
  cases hj : joined? names listed q with
  | none => simp only [describe, hfound, hj]
  | some descriptors => simp only [describe, hfound, hj]

theorem Joinable.describe_eq_ok_iff (h : Joinable names listed read) (hq : q.DistinctKeys)
    {descriptors : List AttributeDescriptor} :
    (assemble names listed read).describe q = .ok descriptors ↔
      joined? names listed q = some descriptors := by
  rw [h.describe_assemble hq]
  cases joined? names listed q <;> simp

theorem Joinable.read_eq_ok_iff (h : Joinable names listed read) (hq : q.DistinctKeys)
    {attr : String} {value : AttributeValue} :
    (assemble names listed read).read q attr = .ok value ↔
      ∃ descriptors, joined? names listed q = some descriptors ∧
        ∃ readings, firstOf? read q = some readings ∧ Given descriptors readings attr value := by
  have hok : (assemble names listed read).read q attr = .ok value ↔
      ((assemble names listed read).find? q).bind (·.values.lookup attr) = some value := by
    rw [Snapshot.read]
    cases ((assemble names listed read).find? q).bind (·.values.lookup attr) <;> simp
  rw [hok]
  by_cases hn : ∃ name ∈ names, name.Same q
  · obtain ⟨object, hfind, -, hv⟩ := h.exists_find?_assemble hq hn
    rw [hfind, Option.bind_some, hv, joined?, if_pos hn]
    cases hd : firstOf? listed q with
    | none => simp
    | some descriptors =>
      have hnodup : (descriptors.map (·.name)).Nodup :=
        h.nodup_joined? (joined?_eq_some_iff.mpr ⟨hn, hd⟩)
      cases hr : firstOf? read q with
      | none => simp
      | some readings => simpa using lookup_values_iff hnodup
  · rw [h.find?_assemble_eq_none hq hn, joined?, if_neg hn]
    simp

theorem Joinable.describe_error (h : Joinable names listed read) (hq : q.DistinctKeys)
    {e : RegistryError} (he : (assemble names listed read).describe q = .error e) :
    e = .instanceNotFound q.text := by
  rw [h.describe_assemble hq] at he
  split at he
  · cases he
  · exact (Except.error.inj he).symm

/-- The order of properties in the name that is asked for does not matter. -/
theorem Joinable.answers_of_perm (h : Joinable names listed read) (hq : q.DistinctKeys)
    {q' : ObjectName} (hd : q'.domain = q.domain) (hp : q'.properties.Perm q.properties) :
    let s := assemble names listed read
    (∀ descriptors, s.describe q' = .ok descriptors ↔ s.describe q = .ok descriptors) ∧
      ∀ attr value, s.read q' attr = .ok value ↔ s.read q attr = .ok value := by
  intro s
  have hs : q'.Same q := ObjectName.same_of_perm hq hd hp
  have hq' : q'.DistinctKeys := hq.perm hp.symm
  have hsearched : (∃ name ∈ names, name.Same q') ↔ ∃ name ∈ names, name.Same q := by
    constructor
    · rintro ⟨name, hm, hn⟩
      exact ⟨name, hm, hn.trans hs⟩
    · rintro ⟨name, hm, hn⟩
      exact ⟨name, hm, hn.trans hs.symm⟩
  have hj : joined? names listed q' = joined? names listed q := by
    rw [joined?, joined?, firstOf?_congr hs]
    simp only [hsearched]
  constructor
  · intro descriptors
    rw [h.describe_eq_ok_iff hq', h.describe_eq_ok_iff hq, hj]
  · intro attr value
    rw [h.read_eq_ok_iff hq', h.read_eq_ok_iff hq, hj, firstOf?_congr hs]

end

/-- What is asked of an assembled snapshot. An object is described if it was searched and listed, by the
first entry for it; an attribute has a value if it is described, the first entry for the object that
was read has one and that is no fault. The order of properties does not matter, nor do entries for
other objects. -/
theorem answers_assemble {found listing values : Json} {domain mbean : String} {pattern : Pattern}
    {names : List ObjectName} {listed : List ReplyValue.Listed} {read : List ReplyValue.Readings}
    (hn : ReplyValue.searched found = .ok names) (hl : ReplyValue.listed domain listing = .ok listed)
    (ho : listing.Ordered) (hr : ReplyValue.read pattern mbean values = .ok read) {q : ObjectName}
    (hq : q.DistinctKeys) :
    let s := assemble names listed read
    let own := assemble names (listed.filter fun entry => decide (entry.1.Same q))
      (read.filter fun entry => decide (entry.1.Same q))
    (∀ descriptors, s.describe q = .ok descriptors ↔
      (∃ name ∈ names, name.Same q) ∧ firstOf? listed q = some descriptors) ∧
    (∀ e, s.describe q = .error e → e = .instanceNotFound q.text) ∧
    (∀ attr value, s.read q attr = .ok value ↔ ∃ descriptors, s.describe q = .ok descriptors ∧
      ∃ readings, firstOf? read q = some readings ∧ Given descriptors readings attr value) ∧
    (∀ attr e, s.read q attr = .error e → e = .attributeUnavailable q.text attr) ∧
    (∀ q' : ObjectName, q'.domain = q.domain → q'.properties.Perm q.properties →
      (∀ descriptors, s.describe q' = .ok descriptors ↔ s.describe q = .ok descriptors) ∧
        ∀ attr value, s.read q' attr = .ok value ↔ s.read q attr = .ok value) ∧
    s.describe q = own.describe q ∧ ∀ attr, s.read q attr = own.read q attr := by
  intro s own
  have h : Joinable names listed read :=
    ⟨ReplyValue.distinctKeys_searched hn, ReplyValue.distinctKeys_listed hl,
      ReplyValue.distinctKeys_read hr, ReplyValue.nodup_listed hl ho⟩
  have hown := h.filter q
  have hj : joined? names (listed.filter fun entry => decide (entry.1.Same q)) q =
      joined? names listed q := by
    rw [joined?, joined?, firstOf?_filter]
  have herror (t : Snapshot) (attr : String) (e : RegistryError) (he : t.read q attr = .error e) :
      e = .attributeUnavailable q.text attr := by
    unfold Snapshot.read at he
    split at he
    · cases he
    · exact (Except.error.inj he).symm
  refine ⟨fun descriptors => ?_, fun e => h.describe_error hq, fun attr value => ?_, herror s,
    fun q' => h.answers_of_perm hq, ?_, fun attr => ?_⟩
  · rw [h.describe_eq_ok_iff hq, joined?_eq_some_iff]
  · rw [h.read_eq_ok_iff hq]
    simp only [s, h.describe_eq_ok_iff hq]
  · rw [h.describe_assemble hq, hown.describe_assemble hq, hj]
  · -- the same values, and the same error where there is none
    have hsame (value : AttributeValue) : s.read q attr = .ok value ↔ own.read q attr = .ok value := by
      rw [h.read_eq_ok_iff hq, hown.read_eq_ok_iff hq, hj, firstOf?_filter]
    cases hv : s.read q attr with
    | ok value => exact ((hsame value).mp hv).symm
    | error e =>
      cases hw : own.read q attr with
      | ok value => exact absurd ((hsame value).mpr hw) (by rw [hv]; simp)
      | error e' => rw [herror s attr e hv, herror own attr e' hw]

/-- A listing of two objects of the domain `d`, the properties of the first one in another order than in
its name. -/
def poolListing : Json :=
  .object
    [("name=search,type=ThreadPools", .object [("attr", .object
      [("Active", .object [("type", .string "int")]), ("Queue", .object [("type", .string "int")])])]),
     ("type=NodeInfo", .object [])]

def poolValues : List (String × Json) :=
  [("Active", .number (.natural 3)), ("Queue", .string "ERROR: closed")]

theorem ordered_poolListing : poolListing.Ordered := by
  have htype : (Json.object [("type", .string "int")]).Ordered :=
    .object (List.pairwise_singleton _ _) (by simpa using Json.Ordered.string "int")
  have hattr : (Json.object [("Active", .object [("type", .string "int")]),
      ("Queue", .object [("type", .string "int")])]).Ordered := by
    refine .object ?_ ?_
    · simp only [KeyMap.Ascending]
      decide
    · simpa using htype
  refine .object ?_ ?_
  · simp only [KeyMap.Ascending]
    decide
  · have hempty : (Json.object []).Ordered := .object .nil (by simp)
    simpa using ⟨Json.Ordered.object (List.pairwise_singleton _ _) (by simpa using hattr), hempty⟩

theorem answers_assemble_pool :
    let found := Json.array [.string "d:type=ThreadPools,name=search"]
    let values := Json.object [("d:name=search,type=ThreadPools", .object poolValues)]
    let pattern : Pattern := ⟨"d:*", ⟨"d"⟩, [], true⟩
    let q : ObjectName := ⟨"d", [("name", "search"), ("type", "ThreadPools")]⟩
    ∃ names listed read, ReplyValue.searched found = .ok names ∧
      ReplyValue.listed "d" poolListing = .ok listed ∧ poolListing.Ordered ∧
      ReplyValue.read pattern pattern.text values = .ok read ∧ q.DistinctKeys ∧
      (assemble names listed read).describe q =
        .ok [⟨"Active", "int", "", true⟩, ⟨"Queue", "int", "", true⟩] ∧
      (assemble names listed read).read q "Active" = .ok (.number (.ofNat 3)) ∧
      ∀ value, (assemble names listed read).read q "Queue" ≠ .ok value := by
  intro found values pattern q
  let searched : ObjectName := ⟨"d", [("type", "ThreadPools"), ("name", "search")]⟩
  let attributes : List AttributeDescriptor := [⟨"Active", "int", "", true⟩, ⟨"Queue", "int", "", true⟩]
  have hn : ReplyValue.searched found = .ok [searched] := by decide +kernel
  have hl : ReplyValue.listed "d" poolListing =
      .ok [(q, attributes), (⟨"d", [("type", "NodeInfo")]⟩, [])] := by decide +kernel
  have hr : ReplyValue.read pattern pattern.text values = .ok [(q, poolValues)] := by
    rfl
  have hq : q.DistinctKeys := by decide
  obtain ⟨hdescribe, -, hread, -⟩ := answers_assemble hn hl ordered_poolListing hr hq
  have hfirst : firstOf? [(q, poolValues)] q = some poolValues := by
    simp [firstOf?, ObjectName.Same.refl]
  have hd := (hdescribe attributes).mpr ⟨⟨searched, by simp, by decide⟩, by decide⟩
  refine ⟨_, _, _, hn, hl, ordered_poolListing, hr, hq, hd, ?_, fun value hv => ?_⟩
  · refine (hread _ _).mpr ⟨attributes, hd, poolValues, hfirst, ?_⟩
    exact ⟨_, List.mem_cons_self, rfl, _, rfl, rfl, rfl⟩
  · obtain ⟨_, hf, readings, hreadings, d, hm, hname, raw, hraw, hfault, -⟩ := (hread _ _).mp hv
    obtain rfl := Option.some.inj (hfirst.symm.trans hreadings)
    obtain rfl := Option.some.inj (hraw.symm.trans (show _ = some (Json.string "ERROR: closed") from rfl))
    -- a text is a fault where another type was declared
    obtain rfl := Except.ok.inj (hd.symm.trans hf)
    have htype : d.declaredType = "int" := by
      have hall : ∀ d ∈ attributes, d.declaredType = "int" := by decide
      exact hall d hm
    rw [htype] at hfault
    exact absurd hfault (by decide)

end Snapshot
end BeanMetrics
