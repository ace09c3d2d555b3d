import BeanMetrics.Proofs.ObjectName.Matching
import BeanMetrics.Registry.Basic

/-!
The grammar of names and of patterns, told of their texts: a domain up to the first `:`, and behind it
elements with a comma between each two. An element is `key=value`; in a pattern it may be `*`. Names are
read of just these texts, and a name is written as the text that it was read of. Patterns are read of more:
one empty element is passed over when all the others are `*`.
-/

namespace BeanMetrics
namespace ObjectName

/-- A text made of a domain, the first `:`, and elements between commas. -/
structure Divides (s domain : List Char) (elements : List (List Char)) : Prop where
  eq_join : s = domain ++ ':' :: Text.join [','] elements
  noColon : ':' ∉ domain
  ne_nil : elements ≠ []
  noComma : ∀ element ∈ elements, ',' ∉ element

/-- An element `key=value` with a key that is not empty. The first `=` ends the key. -/
def HasKey (element key : List Char) : Prop :=
  key ≠ [] ∧ '=' ∉ key ∧ ∃ value, element = key ++ '=' :: value

def KeysDiffer (elements : List (List Char)) : Prop :=
  elements.Pairwise fun a b => ∀ key, HasKey a key → ¬ HasKey b key

/-- What a text of a name is made of: a domain without wildcards, and elements with a key each. -/
structure Grammar (domain : List Char) (elements : List (List Char)) : Prop where
  domain_ne_nil : domain ≠ []
  noStar : '*' ∉ domain
  noMark : '?' ∉ domain
  keyed : ∀ element ∈ elements, ∃ key, HasKey element key
  differ : KeysDiffer elements

/-- A name that can be read when it is written: see `PlainDomain` and `Writable`. -/
structure Printable (name : ObjectName) : Prop where
  domain : PlainDomain name.domain
  properties : Writable name.properties
  ne_nil : name.properties ≠ []

/-! ### Domain and elements of a text -/

theorem divides_iff {s domain : List Char} {elements : List (List Char)} :
    Divides s domain elements ↔
      ∃ list, Text.splitFirst ':' s = some (domain, list) ∧ Text.splitAll ',' list = elements := by
  constructor
  · intro h
    refine ⟨_, Text.splitFirst_eq_some_iff.mpr ⟨h.eq_join, h.noColon⟩, ?_⟩
    exact Text.splitAll_join h.ne_nil h.noComma
  · rintro ⟨list, hs, rfl⟩
    have hparts := Text.splitFirst_eq_some_iff.mp hs
    refine ⟨?_, hparts.2, Text.splitAll_ne_nil ',' list, fun _ => Text.sep_notMem_of_mem_splitAll⟩
    rw [Text.join_splitAll]
    exact hparts.1

theorem Divides.unique {s domain domain' : List Char} {elements elements' : List (List Char)}
    (h : Divides s domain elements) (h' : Divides s domain' elements') :
    domain' = domain ∧ elements' = elements := by
  obtain ⟨list, hs, rfl⟩ := divides_iff.mp h
  obtain ⟨list', hs', rfl⟩ := divides_iff.mp h'
  simp_all

/-! ### Keys of elements -/

theorem hasKey_iff {element key : List Char} :
    HasKey element key ↔ key ≠ [] ∧ ∃ value, Text.splitFirst '=' element = some (key, value) := by
  simp [HasKey, Text.splitFirst_eq_some_iff, and_comm]

theorem HasKey.unique {element key key' : List Char} (h : HasKey element key)
    (h' : HasKey element key') : key' = key := by
  obtain ⟨-, value, hs⟩ := hasKey_iff.mp h
  obtain ⟨-, value', hs'⟩ := hasKey_iff.mp h'
  simp_all

theorem not_hasKey_nil {key : List Char} : ¬ HasKey [] key := by
  simp [hasKey_iff]

theorem not_hasKey_star {key : List Char} : ¬ HasKey ['*'] key := by
  simp [hasKey_iff, Text.splitFirst]

theorem hasKey_propertyChars {properties : List (String × String)} (hw : Writable properties)
    {q : String × String} (hq : q ∈ properties) : HasKey (propertyChars q) q.1.toList := by
  have hkey := hw.keys q hq
  exact ⟨by simpa using hkey.1, hkey.2.2, q.2.toList, rfl⟩

theorem keyed_of_writable {properties : List (String × String)} (hw : Writable properties) :
    ∀ element ∈ properties.map propertyChars, ∃ key, HasKey element key := by
  rw [List.forall_mem_map]
  intro q hq
  exact ⟨_, hasKey_propertyChars hw hq⟩

theorem keysDiffer_of_writable {properties : List (String × String)} (hw : Writable properties) :
    KeysDiffer (properties.map propertyChars) := by
  have hdistinct : properties.Pairwise fun p q => p.1 ≠ q.1 := List.pairwise_map.mp hw.distinct
  apply List.pairwise_map.mpr
  apply hdistinct.imp_of_mem
  intro p q hp hq hne key hkp hkq
  apply hne
  rw [← String.toList_inj, ← (hasKey_propertyChars hw hp).unique hkp,
    (hasKey_propertyChars hw hq).unique hkq]

theorem Writable.cons {p : String × String} {properties : List (String × String)}
    (h : Writable properties) (hkey : p.1 ≠ "" ∧ ',' ∉ p.1.toList ∧ '=' ∉ p.1.toList)
    (hvalue : ',' ∉ p.2.toList) (hnew : p.1 ∉ properties.map (·.1)) : Writable (p :: properties) where
  keys := by simpa using ⟨hkey, fun a b => h.keys (a, b)⟩
  values := by simpa using ⟨hvalue, fun a b => h.values (a, b)⟩
  distinct := List.nodup_cons.mpr ⟨hnew, h.distinct⟩

theorem exists_writable {elements : List (List Char)} (hcomma : ∀ element ∈ elements, ',' ∉ element)
    (hkeyed : ∀ element ∈ elements, ∃ key, HasKey element key) (hdiffer : KeysDiffer elements) :
    ∃ properties, Writable properties ∧ elements = properties.map propertyChars := by
  induction elements with
  | nil => exact ⟨[], writable_nil, rfl⟩
  | cons element elements ih =>
    obtain ⟨hfirst, hlater⟩ := List.pairwise_cons.mp hdiffer
    obtain ⟨properties, hw, rfl⟩ := ih (fun e he => hcomma e (List.mem_cons_of_mem _ he))
      (fun e he => hkeyed e (List.mem_cons_of_mem _ he)) hlater
    obtain ⟨key, hkey⟩ := hkeyed element List.mem_cons_self
    obtain ⟨hne, hequals, value, rfl⟩ := hkey
    have hc : ',' ∉ key ++ '=' :: value := hcomma _ List.mem_cons_self
    simp only [List.mem_append, List.mem_cons, not_or] at hc
    have hnew : String.ofList key ∉ properties.map (·.1) := by
      intro hm
      obtain ⟨q, hq, he⟩ := List.mem_map.mp hm
      have hkq := hasKey_propertyChars hw hq
      rw [he, String.toList_ofList] at hkq
      exact hfirst _ (List.mem_map_of_mem hq) key ⟨hne, hequals, value, rfl⟩ hkq
    refine ⟨(String.ofList key, String.ofList value) :: properties, hw.cons ?_ ?_ hnew, ?_⟩
    · simpa using ⟨hne, hc.1, hequals⟩
    · simpa using hc.2.2
    · simp [propertyChars]

/-! ### Names -/

theorem any_isWildcard_eq_false_iff {domain : List Char} :
    domain.any isWildcard = false ↔ '*' ∉ domain ∧ '?' ∉ domain := by
  simp only [List.any_eq_false, isWildcard, Bool.or_eq_true, decide_eq_true_eq, not_or]
  constructor
  · intro h
    exact ⟨fun hm => (h _ hm).1 rfl, fun hm => (h _ hm).2 rfl⟩
  · rintro ⟨hstar, hmark⟩ c hc
    exact ⟨fun he => hstar (he ▸ hc), fun he => hmark (he ▸ hc)⟩

theorem Printable.divides_text {name : ObjectName} (h : Printable name) :
    Divides name.text.toList name.domain.toList (name.properties.map propertyChars) :=
  ⟨toList_text name, h.domain.noColon, by simpa using h.ne_nil, h.properties.comma_notMem⟩

theorem Printable.grammar {name : ObjectName} (h : Printable name) :
    Grammar name.domain.toList (name.properties.map propertyChars) where
  domain_ne_nil := by simpa using h.domain.ne_empty
  noStar := (any_isWildcard_eq_false_iff.mp h.domain.noWildcard).1
  noMark := (any_isWildcard_eq_false_iff.mp h.domain.noWildcard).2
  keyed := keyed_of_writable h.properties
  differ := keysDiffer_of_writable h.properties

theorem exists_printable {s domain : List Char} {elements : List (List Char)}
    (hs : Divides s domain elements) (hg : Grammar domain elements) :
    ∃ name, Printable name ∧ name.text = String.ofList s := by
  obtain ⟨properties, hw, rfl⟩ := exists_writable hs.noComma hg.keyed hg.differ
  refine ⟨⟨String.ofList domain, properties⟩, ⟨⟨?_, ?_, ?_⟩, hw, ?_⟩, ?_⟩
  · simpa using hg.domain_ne_nil
  · simpa using hs.noColon
  · simpa using any_isWildcard_eq_false_iff.mpr ⟨hg.noStar, hg.noMark⟩
  · simpa using hs.ne_nil
  · rw [← String.toList_inj, toList_text, hs.eq_join, String.toList_ofList, String.toList_ofList]

theorem ofText?_eq_some_iff_printable {s : String} {name : ObjectName} :
    ofText? s = some name ↔ Printable name ∧ s = name.text := by
  rw [ofText?_eq_some_iff]
  constructor
  · rintro ⟨hd, hw, hne, rfl⟩
    exact ⟨⟨hd, hw, hne⟩, rfl⟩
  · rintro ⟨h, rfl⟩
    exact ⟨h.domain, h.properties, h.ne_nil, rfl⟩

/-- Names are read of the texts that follow the grammar, and reading and writing undo each other. -/
theorem ofText?_inverse_text :
    (∀ s : String, (∃ name, ofText? s = some name) ↔
      ∃ domain elements, Divides s.toList domain elements ∧ Grammar domain elements) ∧
    (∀ (s : String) (name : ObjectName), ofText? s = some name → name.text = s) ∧
    (∀ name : ObjectName, ofText? name.text = some name ↔ Printable name) ∧
    ∀ name name' : ObjectName, Printable name → Printable name' → name.text = name'.text →
      name = name' := by
  refine ⟨fun s => ⟨?_, ?_⟩, fun s name h => ?_, fun name => ?_, fun name name' h h' he => ?_⟩
  · rintro ⟨name, hread⟩
    obtain ⟨h, rfl⟩ := ofText?_eq_some_iff_printable.mp hread
    exact ⟨_, _, h.divides_text, h.grammar⟩
  · rintro ⟨domain, elements, hs, hg⟩
    obtain ⟨name, h, htext⟩ := exists_printable hs hg
    rw [String.ofList_toList] at htext
    exact ⟨name, ofText?_eq_some_iff_printable.mpr ⟨h, htext.symm⟩⟩
  · exact (ofText?_eq_some_iff_printable.mp h).2.symm
  · simp [ofText?_eq_some_iff_printable]
  · have hread : ofText? name.text = some name := ofText?_eq_some_iff_printable.mpr ⟨h, rfl⟩
    have hread' : ofText? name.text = some name' := ofText?_eq_some_iff_printable.mpr ⟨h', he⟩
    exact Option.some.inj (hread.symm.trans hread')

theorem ofText?_inverse_text_inner_separators :
    let s := "d:a:b=c=d,k="
    let name : ObjectName := ⟨"d", [("a:b", "c=d"), ("k", "")]⟩
    ofText? s = some name ∧ name.text = s ∧ Printable name ∧
      ∃ domain elements, Divides s.toList domain elements ∧ Grammar domain elements := by
  intro s name
  have hread : ofText? s = some name := by decide
  have htext : name.text = s := ofText?_inverse_text.2.1 s name hread
  refine ⟨hread, htext, (ofText?_inverse_text.2.2.1 name).mp ?_, ?_⟩
  · rwa [htext]
  · exact (ofText?_inverse_text.1 s).mp ⟨name, hread⟩

end ObjectName

namespace Pattern

open ObjectName (Divides HasKey KeysDiffer Writable propertyChars)

/-- What a text of a pattern should be made of: a domain, and elements that are `*` or have a key. -/
structure Grammar (domain : List Char) (elements : List (List Char)) : Prop where
  domain_ne_nil : domain ≠ []
  starOrKeyed : ∀ element ∈ elements, element = ['*'] ∨ ∃ key, HasKey element key
  differ : KeysDiffer elements

/-- Behind a domain, one element is empty and all others, of which there are some, are `*`. -/
structure Gap (domain : List Char) (elements : List (List Char)) : Prop where
  domain_ne_nil : domain ≠ []
  starOrEmpty : ∀ element ∈ elements, element = ['*'] ∨ element = []
  star : ['*'] ∈ elements
  once : elements.count [] = 1

/-! ### Elements that are not `*` -/

theorem forall_listed_iff {holds : List Char → Prop} {elements : List (List Char)} :
    (∀ element ∈ elements.filter (· ≠ ['*']), holds element) ↔
      ∀ element ∈ elements, element = ['*'] ∨ holds element := by
  simp [List.mem_filter, or_iff_not_imp_left]

theorem keysDiffer_listed_iff {elements : List (List Char)} :
    KeysDiffer (elements.filter (· ≠ ['*'])) ↔ KeysDiffer elements := by
  unfold KeysDiffer
  rw [List.pairwise_filter]
  constructor
  · intro h
    apply h.imp
    intro a b hab key ha hb
    have hne : a ≠ ['*'] := fun he => ObjectName.not_hasKey_star (he ▸ ha)
    have hne' : b ≠ ['*'] := fun he => ObjectName.not_hasKey_star (he ▸ hb)
    exact hab (by simpa using hne) (by simpa using hne') key ha hb
  · intro h
    exact h.imp fun hab _ _ => hab

/-- Elements other than `*` are written properties exactly if they have different keys. -/
theorem exists_listed_iff {elements : List (List Char)}
    (hcomma : ∀ element ∈ elements, ',' ∉ element) :
    (∃ properties, Writable properties ∧
        elements.filter (· ≠ ['*']) = properties.map propertyChars) ↔
      (∀ element ∈ elements, element = ['*'] ∨ ∃ key, HasKey element key) ∧ KeysDiffer elements := by
  rw [← forall_listed_iff, ← keysDiffer_listed_iff]
  constructor
  · rintro ⟨properties, hw, hlisted⟩
    rw [hlisted]
    exact ⟨ObjectName.keyed_of_writable hw, ObjectName.keysDiffer_of_writable hw⟩
  · rintro ⟨hkeyed, hdiffer⟩
    have hcomma' : ∀ element ∈ elements.filter (· ≠ ['*']), ',' ∉ element := fun element hf =>
      hcomma element (List.mem_filter.mp hf).1
    exact ObjectName.exists_writable hcomma' hkeyed hdiffer

theorem listed_eq_gap_iff {elements : List (List Char)} :
    elements.filter (· ≠ ['*']) = [[]] ↔
      (∀ element ∈ elements, element = ['*'] ∨ element = []) ∧ elements.count [] = 1 := by
  have hcount : (elements.filter (· ≠ ['*'])).count [] = elements.count [] :=
    List.count_filter (by decide)
  rw [← forall_listed_iff, ← hcount]
  constructor
  · intro h
    rw [h]
    simp
  · rintro ⟨hempty, honce⟩
    have hrep := List.eq_replicate_of_mem hempty
    rw [hrep, List.count_replicate_self] at honce
    rw [hrep, honce]
    rfl

/-! ### Patterns -/

theorem ofText_eq_ok_iff {text : String} {p : Pattern} : ofText text = .ok p ↔ ofText? text = some p := by
  unfold ofText
  cases ofText? text <;> simp

theorem ofText_eq_error_iff {text : String} :
    ofText text = .error (.malformedPattern text) ↔ ofText? text = none := by
  unfold ofText
  cases ofText? text <;> simp

theorem grammar_or_gap_of_ofText? {text : String} {p : Pattern} (h : ofText? text = some p) :
    ∃ domain elements, Divides text.toList domain elements ∧
      (Grammar domain elements ∨ Gap domain elements) := by
  obtain ⟨domain, list, properties, htext, hcolon, hne, hw, hpieces, hsome, -⟩ := exists_parts h
  have hd : Divides text.toList domain (Text.splitAll ',' list) :=
    ObjectName.divides_iff.mpr ⟨list, Text.splitFirst_eq_some_iff.mpr ⟨htext, hcolon⟩, rfl⟩
  refine ⟨domain, _, hd, ?_⟩
  rcases hpieces with hlisted | ⟨hnil, hgap⟩
  · obtain ⟨hall, hdiffer⟩ := (exists_listed_iff hd.noComma).mp ⟨properties, hw, hlisted⟩
    exact .inl ⟨hne, hall, hdiffer⟩
  · obtain ⟨hall, honce⟩ := listed_eq_gap_iff.mp hgap
    have hstar : ['*'] ∈ Text.splitAll ',' list := by simpa [hnil] using hsome
    exact .inr ⟨hne, hall, hstar, honce⟩

theorem exists_ofText? {text : String} {domain : List Char} {elements : List (List Char)}
    (hd : Divides text.toList domain elements) (hg : Grammar domain elements ∨ Gap domain elements) :
    ∃ p, ofText? text = some p := by
  obtain ⟨list, hsplit, rfl⟩ := ObjectName.divides_iff.mp hd
  obtain ⟨htext, hcolon⟩ := Text.splitFirst_eq_some_iff.mp hsplit
  have hread : text = String.ofList (domain ++ ':' :: list) := by
    rw [← htext, String.ofList_toList]
  rw [hread]
  rcases hg with hg | hg
  · obtain ⟨properties, hw, hlisted⟩ :=
      (exists_listed_iff hd.noComma).mpr ⟨hg.starOrKeyed, hg.differ⟩
    have hsome : ¬ (properties = [] ∧ (Text.splitAll ',' list).contains ['*'] = false) := by
      rintro ⟨rfl, hclosed⟩
      -- there is an element, and it is no property
      obtain ⟨element, hm⟩ := List.exists_mem_of_ne_nil _ hd.ne_nil
      have hnone : element ∉ (Text.splitAll ',' list).filter (· ≠ ['*']) := by
        rw [hlisted]
        exact List.not_mem_nil
      have hstar : element = ['*'] := by simpa [hm] using hnone
      simp [← hstar, hm] at hclosed
    obtain ⟨_, _, h⟩ := exists_ofText?_of_perm hcolon hg.domain_ne_nil (.refl _) hw (.inl hlisted) hsome
    exact ⟨_, h⟩
  · have hgap := listed_eq_gap_iff.mpr ⟨hg.starOrEmpty, hg.once⟩
    have hsome : ¬ (([] : List (String × String)) = [] ∧
        (Text.splitAll ',' list).contains ['*'] = false) := by
      simpa using hg.star
    obtain ⟨_, _, h⟩ := exists_ofText?_of_perm hcolon hg.domain_ne_nil (.refl _)
      ObjectName.writable_nil (.inr ⟨rfl, hgap⟩) hsome
    exact ⟨_, h⟩

/-- Patterns are read of the texts that follow their grammar, and of those with a gap between `*`; every
other text is reported as it is. -/
theorem ofText_eq_ok_iff_grammar_or_gap (text : String) :
    ((∃ p, ofText text = .ok p) ↔ ∃ domain elements, Divides text.toList domain elements ∧
      (Grammar domain elements ∨ Gap domain elements)) ∧
    (ofText text = .error (.malformedPattern text) ↔
      ¬ ∃ domain elements, Divides text.toList domain elements ∧
        (Grammar domain elements ∨ Gap domain elements)) := by
  have hread : (∃ p, ofText? text = some p) ↔ ∃ domain elements,
      Divides text.toList domain elements ∧ (Grammar domain elements ∨ Gap domain elements) := by
    constructor
    · rintro ⟨p, h⟩
      exact grammar_or_gap_of_ofText? h
    · rintro ⟨domain, elements, hd, hg⟩
      exact exists_ofText? hd hg
  constructor
  · simpa only [ofText_eq_ok_iff] using hread
  · rw [ofText_eq_error_iff, ← hread, Option.eq_none_iff_forall_ne_some, not_exists]

/-- An empty element in front of `*` is none that the grammar knows, and yet the pattern is read. -/
theorem ofText_ok_of_gap :
    (∃ p, ofText "d:,*" = .ok p) ∧
      ¬ ∃ domain elements, Divides "d:,*".toList domain elements ∧ Grammar domain elements := by
  have hd : Divides "d:,*".toList ['d'] [[], ['*']] := ⟨by decide, by decide, by decide, by decide⟩
  constructor
  · obtain ⟨p, hp⟩ := exists_ofText? hd (.inr ⟨by decide, by decide, by decide, by decide⟩)
    exact ⟨p, ofText_eq_ok_iff.mpr hp⟩
  · rintro ⟨domain, elements, hd', hg⟩
    obtain ⟨-, rfl⟩ := hd.unique hd'
    rcases hg.starOrKeyed [] (by decide) with he | ⟨key, hkey⟩
    · cases he
    · exact ObjectName.not_hasKey_nil hkey

end Pattern
end BeanMetrics
