import BeanMetrics.ObjectName.Pattern
import BeanMetrics.Proofs.Registry.Distinct
import BeanMetrics.Proofs.Text.Split

/-!
Names of objects as they are written. A text is read as a name exactly if it is the written form of
this name and the name can be written at all: no separator where the reader would cut, no key twice. A
pattern that matches one name only is this name, written.
-/

namespace BeanMetrics
namespace Text

theorem sep_notMem_of_mem_splitAll {sep : Char} {s piece : List Char} (h : piece ∈ splitAll sep s) :
    sep ∉ piece := by
  induction s generalizing piece with
  | nil =>
    rw [splitAll, List.mem_singleton] at h
    simp [h]
  | cons c cs ih =>
    by_cases hc : c = sep
    · rw [splitAll, if_pos hc, List.mem_cons] at h
      rcases h with rfl | hm
      · exact List.not_mem_nil
      · exact ih hm
    · rw [splitAll, if_neg hc] at h
      cases hp : splitAll sep cs with
      | nil => exact absurd hp (splitAll_ne_nil sep cs)
      | cons first pieces =>
        rw [hp] at h ih
        rcases List.mem_cons.mp h with rfl | hm
        · have hf : sep ∉ first := ih List.mem_cons_self
          simpa [Ne.symm hc] using hf
        · exact ih (List.mem_cons_of_mem first hm)

theorem splitAll_of_notMem {sep : Char} {s : List Char} (h : sep ∉ s) : splitAll sep s = [s] := by
  induction s with
  | nil => rfl
  | cons c cs ih =>
    have hc : c ≠ sep := fun he => h (by simp [he])
    have ht : splitAll sep cs = [cs] := ih fun hm => h (List.mem_cons_of_mem c hm)
    rw [splitAll, if_neg hc, ht]

theorem splitAll_join {sep : Char} {pieces : List (List Char)} (hne : pieces ≠ [])
    (hp : ∀ piece ∈ pieces, sep ∉ piece) : splitAll sep (join [sep] pieces) = pieces := by
  induction pieces with
  | nil => exact absurd rfl hne
  | cons piece pieces ih =>
    have hh : sep ∉ piece := hp piece List.mem_cons_self
    cases pieces with
    | nil => exact splitAll_of_notMem hh
    | cons next pieces =>
      have ht : splitAll sep (join [sep] (next :: pieces)) = next :: pieces :=
        ih (List.cons_ne_nil _ _) fun q hq => hp q (List.mem_cons_of_mem piece hq)
      rw [join, List.append_assoc, List.singleton_append, splitAll_append_sep hh, ht]

end Text

namespace ObjectName

/-- Key properties that are read as they are written: keys are there, no two are equal, and no `,` or
`=` stands where it would separate. -/
structure Writable (properties : List (String × String)) : Prop where
  keys : ∀ p ∈ properties, p.1 ≠ "" ∧ ',' ∉ p.1.toList ∧ '=' ∉ p.1.toList
  values : ∀ p ∈ properties, ',' ∉ p.2.toList
  distinct : (properties.map (·.1)).Nodup

theorem Writable.perm {properties properties' : List (String × String)} (h : Writable properties)
    (hp : properties.Perm properties') : Writable properties' where
  keys p hm := h.keys p (hp.mem_iff.mpr hm)
  values p hm := h.values p (hp.mem_iff.mpr hm)
  distinct := (hp.map (·.1)).nodup_iff.mp h.distinct

theorem Writable.comma_notMem {properties : List (String × String)} (h : Writable properties) :
    ∀ piece ∈ properties.map propertyChars, ',' ∉ piece := by
  intro piece hm
  obtain ⟨p, hp, rfl⟩ := List.mem_map.mp hm
  have hk := (h.keys p hp).2.1
  have hv := h.values p hp
  simp [propertyChars, hk, hv]

theorem mapM_splitFirst_eq_some_iff {pieces : List (List Char)} {pairs : List (List Char × List Char)} :
    pieces.mapM (Text.splitFirst '=') = some pairs ↔
      pieces = pairs.map (fun p => p.1 ++ '=' :: p.2) ∧ ∀ p ∈ pairs, '=' ∉ p.1 := by
  induction pieces generalizing pairs with
  | nil => cases pairs <;> simp
  | cons piece pieces ih =>
    cases pairs with
    | nil => simp [List.mapM_cons, Option.bind_eq_some_iff]
    | cons p pairs =>
      have hp := @Text.splitFirst_eq_some_iff '=' piece p.1 p.2
      simp only [List.mapM_cons, Option.bind_eq_bind, Option.bind_eq_some_iff, Option.pure_def,
        Option.some.injEq, List.map_cons, List.cons.injEq, List.forall_mem_cons]
      constructor
      · rintro ⟨_, hf, _, hr, rfl, rfl⟩
        obtain ⟨hpiece, hkey⟩ := hp.mp hf
        obtain ⟨hpieces, hkeys⟩ := ih.mp hr
        exact ⟨⟨hpiece, hpieces⟩, hkey, hkeys⟩
      · rintro ⟨⟨hpiece, hpieces⟩, hkey, hkeys⟩
        exact ⟨p, hp.mpr ⟨hpiece, hkey⟩, pairs, ih.mpr ⟨hpieces, hkeys⟩, rfl, rfl⟩

theorem writable_nil : Writable [] :=
  ⟨fun _ h => absurd h List.not_mem_nil, fun _ h => absurd h List.not_mem_nil, List.nodup_nil⟩

theorem join_ne_nil {properties : List (String × String)} (h : properties ≠ []) :
    Text.join [','] (properties.map propertyChars) ≠ [] := by
  cases properties with
  | nil => exact absurd rfl h
  | cons p rest => cases rest <;> simp [Text.join, propertyChars]

theorem writable_of_properties? {s : List Char} {properties : List (String × String)}
    (h : properties? s = some properties) :
    Writable properties ∧ s = Text.join [','] (properties.map propertyChars) := by
  by_cases hs : s = []
  · rw [properties?, if_pos hs] at h
    obtain rfl := Option.some.inj h
    exact ⟨writable_nil, hs⟩
  · rw [properties?, if_neg hs] at h
    obtain ⟨pairs, hm, h⟩ := Option.bind_eq_some_iff.mp h
    obtain ⟨hpieces, hsep⟩ := mapM_splitFirst_eq_some_iff.mp hm
    dsimp only at h
    split at h
    · rename_i hkeys
      obtain ⟨hempty, hdistinct⟩ := hkeys
      obtain rfl := Option.some.inj h
      have hcomma : ∀ p ∈ pairs, ',' ∉ p.1 ++ '=' :: p.2 := fun p hp =>
        Text.sep_notMem_of_mem_splitAll (hpieces ▸ List.mem_map_of_mem hp)
      refine ⟨⟨?_, ?_, ?_⟩, ?_⟩
      · intro p hp
        obtain ⟨q, hq, rfl⟩ := List.mem_map.mp hp
        have hc := hcomma q hq
        have hne : q.1 ≠ [] := fun he => hempty (he ▸ List.mem_map_of_mem hq)
        simp only [List.mem_append, not_or] at hc
        exact ⟨by simpa using hne, by simpa using hc.1, by simpa using hsep q hq⟩
      · intro p hp
        obtain ⟨q, hq, rfl⟩ := List.mem_map.mp hp
        have hc := hcomma q hq
        simp only [List.mem_append, List.mem_cons, not_or] at hc
        simpa using hc.2.2
      · have hmap : (pairs.map fun p => (String.ofList p.1, String.ofList p.2)).map (·.1) =
            (pairs.map (·.1)).map String.ofList := by simp
        rw [hmap]
        exact List.Nodup.map (fun _ _ he => String.ofList_injective he) hdistinct
      · have hmap : (pairs.map fun p => (String.ofList p.1, String.ofList p.2)).map propertyChars =
            Text.splitAll ',' s := by
          rw [hpieces, List.map_map]
          exact List.map_congr_left fun p _ => by simp [propertyChars]
        rw [hmap, Text.join_splitAll]
    · cases h

theorem properties?_of_writable {properties : List (String × String)} (h : Writable properties) :
    properties? (Text.join [','] (properties.map propertyChars)) = some properties := by
  by_cases hne : properties = []
  · subst hne
    rfl
  · have hpieces : properties.map propertyChars ≠ [] := by simpa using hne
    have hpairs : (properties.map propertyChars).mapM (Text.splitFirst '=') =
        some (properties.map fun p => (p.1.toList, p.2.toList)) := by
      refine mapM_splitFirst_eq_some_iff.mpr ⟨?_, fun p hp => ?_⟩
      · rw [List.map_map]
        rfl
      · obtain ⟨q, hq, rfl⟩ := List.mem_map.mp hp
        exact (h.keys q hq).2.2
    have hempty : [] ∉ (properties.map fun p => (p.1.toList, p.2.toList)).map (·.1) := by
      intro hm
      simp only [List.map_map, List.mem_map, Function.comp_apply] at hm
      obtain ⟨p, hp, he⟩ := hm
      exact (h.keys p hp).1 (by simpa using he)
    have hdistinct : ((properties.map fun p => (p.1.toList, p.2.toList)).map (·.1)).Pairwise
        (· ≠ ·) := by
      have hmap : (properties.map fun p => (p.1.toList, p.2.toList)).map (·.1) =
          (properties.map (·.1)).map String.toList := by simp
      rw [hmap]
      exact List.Nodup.map (fun _ _ he => String.toList_injective he) h.distinct
    rw [properties?, if_neg (join_ne_nil hne), Text.splitAll_join hpieces h.comma_notMem, hpairs]
    simp only [Option.bind_eq_bind, Option.bind_some]
    rw [if_pos ⟨hempty, hdistinct⟩]
    simp [Function.comp_def]

/-- A list of key properties is read exactly if it is one that can be written, written. -/
theorem properties?_eq_some_iff {s : List Char} {properties : List (String × String)} :
    properties? s = some properties ↔
      Writable properties ∧ s = Text.join [','] (properties.map propertyChars) := by
  constructor
  · exact writable_of_properties?
  · rintro ⟨h, rfl⟩
    exact properties?_of_writable h

/-- A domain that is read as it is written, and denotes itself only. -/
structure PlainDomain (domain : String) : Prop where
  ne_empty : domain ≠ ""
  noColon : ':' ∉ domain.toList
  noWildcard : domain.toList.any isWildcard = false

theorem toList_text (name : ObjectName) :
    name.text.toList =
      name.domain.toList ++ ':' :: Text.join [','] (name.properties.map propertyChars) := by
  simp [text, keyPropertyList]

/-- A text is read as a name exactly if it is this name, written, and the name can be written. -/
theorem ofText?_eq_some_iff {s : String} {name : ObjectName} :
    ofText? s = some name ↔
      PlainDomain name.domain ∧ Writable name.properties ∧ name.properties ≠ [] ∧ s = name.text := by
  constructor
  · intro h
    obtain ⟨⟨domain, list⟩, hsplit, h⟩ := Option.bind_eq_some_iff.mp h
    obtain ⟨hs, hcolon⟩ := Text.splitFirst_eq_some_iff.mp hsplit
    dsimp only at h
    split at h
    · cases h
    · rename_i hdomain
      obtain ⟨hne, hwild⟩ := not_or.mp hdomain
      obtain ⟨properties, hp, h⟩ := Option.bind_eq_some_iff.mp h
      split at h
      · cases h
      · rename_i hproperties
        obtain rfl := Option.some.inj h
        obtain ⟨hw, rfl⟩ := properties?_eq_some_iff.mp hp
        refine ⟨⟨by simpa using hne, by simpa using hcolon, by simpa using hwild⟩, hw, hproperties, ?_⟩
        rw [← String.toList_inj, toList_text, hs, String.toList_ofList]
  · rintro ⟨hd, hw, hne, rfl⟩
    have hsplit := Text.splitFirst_eq_some_iff.mpr ⟨toList_text name, hd.noColon⟩
    have hdomain : ¬ (name.domain.toList = [] ∨ name.domain.toList.any isWildcard = true) :=
      not_or.mpr ⟨by simpa using hd.ne_empty, Bool.eq_false_iff.mp hd.noWildcard⟩
    rw [ofText?, hsplit]
    simp only [Option.bind_eq_bind, Option.bind_some]
    rw [if_neg hdomain, properties?_of_writable hw, Option.bind_some, if_neg hne]
    simp

theorem distinctKeys_of_ofText? {s : String} {name : ObjectName} (h : ofText? s = some name) :
    name.DistinctKeys :=
  (ofText?_eq_some_iff.mp h).2.1.distinct

end ObjectName

namespace Pattern

theorem exists_of_ofText? {s : String} {p : Pattern} (h : ofText? s = some p) :
    ∃ domain list properties, Text.splitFirst ':' s.toList = some (domain, list) ∧ domain ≠ [] ∧
      ObjectName.properties? (Text.join [','] ((Text.splitAll ',' list).filter (· ≠ ['*']))) =
        some properties ∧
      ¬ (properties = [] ∧ (Text.splitAll ',' list).contains ['*'] = false) ∧
      p = ⟨s, ⟨String.ofList domain⟩, properties.map fun (key, value) => (key, ⟨value⟩),
        (Text.splitAll ',' list).contains ['*']⟩ := by
  obtain ⟨⟨domain, list⟩, hsplit, h⟩ := Option.bind_eq_some_iff.mp h
  dsimp only at h
  split at h
  · cases h
  · rename_i hne
    obtain ⟨properties, hp, h⟩ := Option.bind_eq_some_iff.mp h
    split at h
    · cases h
    · rename_i hproperties
      obtain rfl := Option.some.inj h
      exact ⟨domain, list, properties, hsplit, hne, hp, hproperties, rfl⟩

theorem text_of_ofText? {s : String} {p : Pattern} (h : ofText? s = some p) : p.text = s := by
  obtain ⟨_, _, _, _, _, _, _, rfl⟩ := exists_of_ofText? h
  rfl

structure IsExactly (p : Pattern) (name : ObjectName) : Prop where
  domain : p.domain = ⟨name.domain⟩
  properties : p.properties = name.properties.map fun (key, value) => (key, ⟨value⟩)
  closed : p.openEnded = false

/-- A pattern that matches one name only is this name, written. -/
theorem exists_name_of_not_isPattern {s : String} {p : Pattern} (h : ofText? s = some p)
    (hp : p.isPattern = false) : ∃ name, ObjectName.ofText? p.text = some name ∧ p.IsExactly name := by
  obtain ⟨domain, list, properties, hsplit, hne, hread, hproperties, rfl⟩ := exists_of_ofText? h
  simp only [isPattern, Bool.or_eq_false_iff] at hp
  obtain ⟨⟨hopen, hwild⟩, -⟩ := hp
  have hlisted : (Text.splitAll ',' list).filter (· ≠ ['*']) = Text.splitAll ',' list := by
    refine List.filter_eq_self.mpr fun element hm => ?_
    have hstar : ['*'] ∉ Text.splitAll ',' list := by simpa using hopen
    exact decide_eq_true fun he => hstar (he ▸ hm)
  rw [hlisted, Text.join_splitAll] at hread
  have hsome : properties ≠ [] := fun he => hproperties ⟨he, hopen⟩
  have hw : domain.any ObjectName.isWildcard = false := by
    simpa [Glob.isWildcard, ObjectName.isWildcard] using hwild
  have hdomain : ¬ (domain = [] ∨ domain.any ObjectName.isWildcard = true) :=
    not_or.mpr ⟨hne, Bool.eq_false_iff.mp hw⟩
  refine ⟨⟨String.ofList domain, properties⟩, ?_, rfl, rfl, hopen⟩
  rw [ObjectName.ofText?, hsplit, Option.bind_eq_bind, Option.bind_some]
  dsimp only
  rw [if_neg hdomain, hread, Option.bind_eq_bind, Option.bind_some, if_neg hsome]
  rfl

end Pattern
end BeanMetrics
