import BeanMetrics.Proofs.ObjectName.Glob
import BeanMetrics.Proofs.ObjectName.Written

/-!
Which names a pattern matches, told of the text of the pattern. Its domain is a glob for the domain of a
name and each of its elements `key=glob` is one for the value under a key. Other keys are admitted by an
element `*` only: as no key is there twice, that is so exactly if there are as many of them on both sides.
Neither the order of the elements nor that of the properties of a name matters.
-/

namespace BeanMetrics

/-- Of two lists without repetitions, one of which has all that is in the other. -/
theorem length_eq_iff_subset {as bs : List String} (ha : as.Nodup) (hb : bs.Nodup) (h : as ⊆ bs) :
    bs.length = as.length ↔ bs ⊆ as := by
  have hsub := List.subperm_of_subset ha h
  constructor
  · intro hl
    exact (hsub.perm_of_length_le (Nat.le_of_eq hl)).symm.subset
  · intro hs
    exact Nat.le_antisymm (List.subperm_of_subset hb hs).length_le hsub.length_le

namespace ObjectName

theorem splitFirst_propertyChars {properties : List (String × String)} (hw : Writable properties)
    {q : String × String} (hq : q ∈ properties) :
    Text.splitFirst '=' (propertyChars q) = some (q.1.toList, q.2.toList) :=
  Text.splitFirst_eq_some_iff.mpr ⟨rfl, (hw.keys q hq).2.2⟩

/-- Pieces that are read as properties when they are joined are these properties, written. There may be
one empty piece instead of none. -/
theorem pieces_of_properties? {pieces : List (List Char)} (hp : ∀ piece ∈ pieces, ',' ∉ piece)
    {properties : List (String × String)}
    (h : properties? (Text.join [','] pieces) = some properties) :
    Writable properties ∧
      (pieces = properties.map propertyChars ∨ properties = [] ∧ pieces = [[]]) := by
  obtain ⟨hw, hj⟩ := writable_of_properties? h
  refine ⟨hw, ?_⟩
  by_cases hpieces : pieces = []
  · subst hpieces
    have hnil : properties = [] := by
      by_contra hne
      exact join_ne_nil hne hj.symm
    exact .inl (by rw [hnil]; rfl)
  · have hcut := Text.splitAll_join hpieces hp
    rw [hj] at hcut
    by_cases hnil : properties = []
    · subst hnil
      exact .inr ⟨rfl, hcut.symm⟩
    · have hmap : properties.map propertyChars ≠ [] := by simpa using hnil
      rw [Text.splitAll_join hmap hw.comma_notMem] at hcut
      exact .inl hcut.symm

/-- Properties that were written are read again in whatever order their pieces are joined. -/
theorem exists_perm_of_pieces {pieces pieces' : List (List Char)} (hperm : pieces'.Perm pieces)
    {properties : List (String × String)} (hw : Writable properties)
    (hpieces : pieces = properties.map propertyChars ∨ properties = [] ∧ pieces = [[]]) :
    ∃ properties', properties? (Text.join [','] pieces') = some properties' ∧
      properties'.Perm properties := by
  rcases hpieces with rfl | ⟨rfl, rfl⟩
  · obtain ⟨properties', rfl, hp⟩ : ∃ properties' : List (String × String),
        pieces' = properties'.map propertyChars ∧ properties'.Perm properties := by
      have hcomp := congrFun₂ (List.eq_map_comp_perm propertyChars) pieces' properties
      obtain ⟨properties', heq, hp⟩ := hcomp.mpr hperm
      exact ⟨properties', heq, hp⟩
    exact ⟨properties', properties?_of_writable (hw.perm hp.symm), hp⟩
  · obtain rfl := List.perm_singleton.mp hperm
    exact ⟨[], rfl, .refl _⟩

end ObjectName

namespace Pattern

/-- Whether one of the elements of a pattern has a glob for the value under a key. The first `=` ends
the key. -/
def Lists (elements : List (List Char)) (key : String) (glob : List Char) : Prop :=
  ∃ element ∈ elements, Text.splitFirst '=' element = some (key.toList, glob)

/-- What a domain and elements say of a name. -/
structure Describes (domain : List Char) (elements : List (List Char)) (name : ObjectName) : Prop where
  domain : Glob.Matches domain name.domain.toList
  listed : ∀ key glob, Lists elements key glob →
    ∃ value, (key, value) ∈ name.properties ∧ Glob.Matches glob value.toList
  others : ['*'] ∉ elements → ∀ property ∈ name.properties, ∃ glob, Lists elements property.1 glob

theorem Describes.of_perm {domain : List Char} {elements : List (List Char)} {name name' : ObjectName}
    (h : Describes domain elements name) (hd : name'.domain = name.domain)
    (hp : name'.properties.Perm name.properties) : Describes domain elements name' where
  domain := hd ▸ h.domain
  listed key glob hl := by
    obtain ⟨value, hm, hv⟩ := h.listed key glob hl
    exact ⟨value, hp.mem_iff.mpr hm, hv⟩
  others hstar property hm := h.others hstar property (hp.mem_iff.mp hm)

theorem lists_iff {elements : List (List Char)} {properties : List (String × String)}
    (hw : ObjectName.Writable properties)
    (hpieces : elements.filter (· ≠ ['*']) = properties.map ObjectName.propertyChars ∨
      properties = [] ∧ elements.filter (· ≠ ['*']) = [[]]) {key : String} {glob : List Char} :
    Lists elements key glob ↔ (key, String.ofList glob) ∈ properties := by
  -- neither `*` nor the empty element has a key
  have hlisted : Lists elements key glob ↔
      ∃ q ∈ properties, Text.splitFirst '=' (ObjectName.propertyChars q) = some (key.toList, glob) := by
    constructor
    · rintro ⟨element, hm, hs⟩
      have hne : element ≠ ['*'] := by
        rintro rfl
        exact absurd hs (by simp [Text.splitFirst])
      have hf : element ∈ elements.filter (· ≠ ['*']) := List.mem_filter.mpr ⟨hm, by simpa using hne⟩
      rcases hpieces with he | ⟨-, he⟩
      · rw [he] at hf
        obtain ⟨q, hq, rfl⟩ := List.mem_map.mp hf
        exact ⟨q, hq, hs⟩
      · rw [he, List.mem_singleton] at hf
        rw [hf] at hs
        cases hs
    · rintro ⟨q, hq, hs⟩
      rcases hpieces with he | ⟨he, -⟩
      · have hf : ObjectName.propertyChars q ∈ elements.filter (· ≠ ['*']) :=
          he ▸ List.mem_map_of_mem hq
        exact ⟨_, (List.mem_filter.mp hf).1, hs⟩
      · rw [he] at hq
        cases hq
  rw [hlisted]
  constructor
  · rintro ⟨q, hq, hs⟩
    rw [ObjectName.splitFirst_propertyChars hw hq] at hs
    obtain ⟨hkey, hvalue⟩ := Prod.mk.inj (Option.some.inj hs)
    rw [← hvalue, ← String.toList_inj.mp hkey, String.ofList_toList]
    exact hq
  · intro hm
    refine ⟨_, hm, ?_⟩
    rw [ObjectName.splitFirst_propertyChars hw hm, String.toList_ofList]

theorem exists_parts {text : String} {p : Pattern} (h : ofText? text = some p) :
    ∃ domain list properties,
      text.toList = domain ++ ':' :: list ∧ ':' ∉ domain ∧ domain ≠ [] ∧
      ObjectName.Writable properties ∧
      ((Text.splitAll ',' list).filter (· ≠ ['*']) = properties.map ObjectName.propertyChars ∨
        properties = [] ∧ (Text.splitAll ',' list).filter (· ≠ ['*']) = [[]]) ∧
      ¬ (properties = [] ∧ (Text.splitAll ',' list).contains ['*'] = false) ∧
      p = ⟨text, ⟨String.ofList domain⟩, properties.map fun (key, value) => (key, ⟨value⟩),
        (Text.splitAll ',' list).contains ['*']⟩ := by
  obtain ⟨domain, list, properties, hsplit, hne, hread, hsome, he⟩ := exists_of_ofText? h
  obtain ⟨htext, hcolon⟩ := Text.splitFirst_eq_some_iff.mp hsplit
  obtain ⟨hw, hpieces⟩ := ObjectName.pieces_of_properties?
    (fun piece hm => Text.sep_notMem_of_mem_splitAll (List.mem_of_mem_filter hm)) hread
  exact ⟨domain, list, properties, htext, hcolon, hne, hw, hpieces, hsome, he⟩

theorem exists_ofText?_of_perm {domain list list' : List Char} (hcolon : ':' ∉ domain)
    (hne : domain ≠ []) (hperm : (Text.splitAll ',' list').Perm (Text.splitAll ',' list))
    {properties : List (String × String)} (hw : ObjectName.Writable properties)
    (hpieces : (Text.splitAll ',' list).filter (· ≠ ['*']) =
        properties.map ObjectName.propertyChars ∨
      properties = [] ∧ (Text.splitAll ',' list).filter (· ≠ ['*']) = [[]])
    (hsome : ¬ (properties = [] ∧ (Text.splitAll ',' list).contains ['*'] = false)) :
    ∃ properties' : List (String × String), properties'.Perm properties ∧
      ofText? (String.ofList (domain ++ ':' :: list')) =
        some ⟨String.ofList (domain ++ ':' :: list'), ⟨String.ofList domain⟩,
          properties'.map fun (key, value) => (key, ⟨value⟩),
          (Text.splitAll ',' list).contains ['*']⟩ := by
  obtain ⟨properties', hread, hp⟩ :=
    ObjectName.exists_perm_of_pieces (hperm.filter (· ≠ ['*'])) hw hpieces
  have hsplit : Text.splitFirst ':' (String.ofList (domain ++ ':' :: list')).toList =
      some (domain, list') :=
    Text.splitFirst_eq_some_iff.mpr ⟨String.toList_ofList, hcolon⟩
  have hopen : (Text.splitAll ',' list').contains ['*'] = (Text.splitAll ',' list).contains ['*'] := by
    rw [Bool.eq_iff_iff, List.contains_iff_mem, List.contains_iff_mem, hperm.mem_iff]
  have hsome' : ¬ (properties' = [] ∧ (Text.splitAll ',' list).contains ['*'] = false) := by
    rintro ⟨rfl, hclosed⟩
    exact hsome ⟨hp.nil_eq.symm, hclosed⟩
  refine ⟨properties', hp, ?_⟩
  rw [ofText?, hsplit, Option.bind_eq_bind, Option.bind_some]
  dsimp only
  rw [if_neg hne, hread, Option.bind_eq_bind, Option.bind_some, hopen, if_neg hsome']
  rfl

/-- Each property of a pattern is asked for, and the number of properties if there are to be no others. -/
theorem accepts_mk_iff {text : String} {domain : Glob} {properties : List (String × String)}
    {openEnded : Bool} {name : ObjectName} (hk : name.DistinctKeys) :
    accepts ⟨text, domain, properties.map fun (key, value) => (key, ⟨value⟩), openEnded⟩ name = true ↔
      domain.accepts name.domain = true ∧
      (∀ p ∈ properties, ∃ value, (p.1, value) ∈ name.properties ∧
        Glob.accepts ⟨p.2⟩ value = true) ∧
      (openEnded = true ∨ name.properties.length = properties.length) := by
  unfold accepts
  simp only [Bool.and_eq_true, Bool.or_eq_true, decide_eq_true_eq, List.all_eq_true, List.length_map,
    List.forall_mem_map, and_assoc, ← hk.property?_eq_some_iff]
  refine and_congr_right fun _ => and_congr_left fun _ => forall₂_congr fun p _ => ?_
  cases name.property? p.1 <;> simp

/-- The keys of a pattern are as many as those of a name that has them all exactly if the name has no
others. -/
theorem length_eq_iff {properties : List (String × String)} (hd : (properties.map (·.1)).Nodup)
    {name : ObjectName} (hk : name.DistinctKeys)
    (hall : ∀ p ∈ properties, ∃ value, (p.1, value) ∈ name.properties) :
    name.properties.length = properties.length ↔
      ∀ q ∈ name.properties, ∃ value, (q.1, value) ∈ properties := by
  have hsub : properties.map (·.1) ⊆ name.properties.map (·.1) := by
    intro key hm
    obtain ⟨p, hp, rfl⟩ := List.mem_map.mp hm
    obtain ⟨value, hv⟩ := hall p hp
    exact List.mem_map.mpr ⟨_, hv, rfl⟩
  have hlength := length_eq_iff_subset hd hk hsub
  rw [List.length_map, List.length_map] at hlength
  rw [hlength]
  constructor
  · intro hs q hq
    obtain ⟨p, hp, he⟩ := List.mem_map.mp (hs (List.mem_map_of_mem hq))
    exact ⟨p.2, he ▸ hp⟩
  · intro hs key hm
    obtain ⟨q, hq, rfl⟩ := List.mem_map.mp hm
    obtain ⟨value, hv⟩ := hs q hq
    exact List.mem_map.mpr ⟨_, hv, rfl⟩

theorem accepts_mk_iff_describes {text : String} {domain : List Char} {elements : List (List Char)}
    {properties : List (String × String)} (hd : (properties.map (·.1)).Nodup)
    (hlists : ∀ key glob, Lists elements key glob ↔ (key, String.ofList glob) ∈ properties)
    {name : ObjectName} (hk : name.DistinctKeys) :
    accepts ⟨text, ⟨String.ofList domain⟩, properties.map fun (key, value) => (key, ⟨value⟩),
      elements.contains ['*']⟩ name = true ↔ Describes domain elements name := by
  rw [accepts_mk_iff hk, Glob.accepts_iff, String.toList_ofList]
  have hlisted {key value : String} : Lists elements key value.toList ↔ (key, value) ∈ properties := by
    rw [hlists, String.ofList_toList]
  constructor
  · rintro ⟨hdomain, hall, hlength⟩
    refine ⟨hdomain, fun key glob hl => ?_, fun hstar property hm => ?_⟩
    · obtain ⟨value, hm, hv⟩ := hall _ ((hlists key glob).mp hl)
      exact ⟨value, hm, by simpa using Glob.accepts_iff.mp hv⟩
    · have hcount := hlength.resolve_left (by simpa using hstar)
      have hkeys := (length_eq_iff hd hk fun p hp => (hall p hp).imp fun _ hv => hv.1).mp hcount
      obtain ⟨value, hv⟩ := hkeys property hm
      exact ⟨value.toList, hlisted.mpr hv⟩
  · intro h
    have hall : ∀ p ∈ properties, ∃ value, (p.1, value) ∈ name.properties ∧
        Glob.accepts ⟨p.2⟩ value = true := by
      intro p hp
      obtain ⟨value, hm, hv⟩ := h.listed p.1 p.2.toList (hlisted.mpr hp)
      exact ⟨value, hm, Glob.accepts_iff.mpr hv⟩
    refine ⟨h.domain, hall, ?_⟩
    by_cases hstar : ['*'] ∈ elements
    · exact .inl (by simpa using hstar)
    · refine .inr ((length_eq_iff hd hk fun p hp => (hall p hp).imp fun _ hv => hv.1).mpr ?_)
      intro q hq
      obtain ⟨glob, hl⟩ := h.others hstar q hq
      exact ⟨String.ofList glob, (hlists q.1 glob).mp hl⟩

/-- Patterns that differ in the order of their properties only match the same names. -/
theorem accepts_eq_of_perm {p q : Pattern} (hd : q.domain = p.domain)
    (hp : q.properties.Perm p.properties) (ho : q.openEnded = p.openEnded) (name : ObjectName) :
    q.accepts name = p.accepts name := by
  unfold accepts
  rw [hd, ho, hp.length_eq]
  congr 2
  rw [Bool.eq_iff_iff, List.all_eq_true, List.all_eq_true]
  simp only [hp.mem_iff]

/-- What the text of a pattern says of a name is what the pattern finds out, and it says the same with
its elements in another order, and of a name with its properties in another order. -/
theorem accepts_iff_describes {text : String} {p : Pattern} (h : ofText? text = some p) :
    ∃ domain list, text.toList = domain ++ ':' :: list ∧ ':' ∉ domain ∧
      let elements := Text.splitAll ',' list
      (∀ name : ObjectName, name.DistinctKeys →
        (p.accepts name = true ↔ Describes domain elements name)) ∧
      (∀ name name' : ObjectName, name.DistinctKeys → name'.domain = name.domain →
        name'.properties.Perm name.properties → p.accepts name' = p.accepts name) ∧
      ∀ list', (Text.splitAll ',' list').Perm elements →
        ∃ q, ofText? (String.ofList (domain ++ ':' :: list')) = some q ∧
          ∀ name, q.accepts name = p.accepts name := by
  obtain ⟨domain, list, properties, htext, hcolon, hne, hw, hpieces, hsome, he⟩ := exists_parts h
  have hmeaning {name : ObjectName} (hk : name.DistinctKeys) :
      p.accepts name = true ↔ Describes domain (Text.splitAll ',' list) name := by
    rw [he]
    exact accepts_mk_iff_describes hw.distinct (fun _ _ => lists_iff hw hpieces) hk
  refine ⟨domain, list, htext, hcolon, fun _ => hmeaning, fun name name' hk hd hp => ?_,
    fun list' hperm => ?_⟩
  · have hk' : name'.DistinctKeys := (hp.map Prod.fst).nodup_iff.mpr hk
    rw [Bool.eq_iff_iff, hmeaning hk, hmeaning hk']
    exact ⟨fun hn => hn.of_perm hd.symm hp.symm, fun hn => hn.of_perm hd hp⟩
  · obtain ⟨properties', hp, hq⟩ := exists_ofText?_of_perm hcolon hne hperm hw hpieces hsome
    refine ⟨_, hq, fun name => ?_⟩
    rw [he]
    exact accepts_eq_of_perm (by rfl) (hp.map _) (by rfl) name

theorem accepts_iff_describes_backslash :
    let text := "io.crate.*:name=Node(?)\\*,*,type=Pool"
    let name : ObjectName :=
      ⟨"io.crate.monitoring", [("type", "Pool"), ("id", "1"), ("name", "Node(1)\\+")]⟩
    ∃ p domain list, ofText? text = some p ∧ text.toList = domain ++ ':' :: list ∧
      name.DistinctKeys ∧ p.accepts name = true ∧ Describes domain (Text.splitAll ',' list) name := by
  intro text name
  obtain ⟨p, hp⟩ : ∃ p, ofText? text = some p := Option.isSome_iff_exists.mp (by decide +kernel)
  have hk : name.DistinctKeys := by decide
  have hall : (ofText? text).all (·.accepts name) = true := by decide +kernel
  have ha : p.accepts name = true := by simpa [hp] using hall
  obtain ⟨domain, list, htext, -, hmeaning, -⟩ := accepts_iff_describes hp
  exact ⟨p, domain, list, hp, htext, hk, ha, (hmeaning name hk).mp ha⟩

end Pattern
end BeanMetrics
