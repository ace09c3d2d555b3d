import BeanMetrics.Agent.ReplyValue
import BeanMetrics.Proofs.ObjectName.Grammar

/-!
Patterns without wildcards. Such a pattern matches the objects of one name, in whatever order the properties
are written, and its text is that name. What is read of it alone is what a pattern with wildcards would
read of it. A pattern with wildcards has an element `*`, or a glob that matches different texts.
-/

namespace BeanMetrics

open ObjectName (Divides)

namespace Pattern

theorem glob_of_not_isPattern {p : Pattern} (hp : p.isPattern = false) :
    p.domain.isWildcard = false ∧ ∀ q ∈ p.properties, q.2.isWildcard = false := by
  simp only [isPattern, Bool.or_eq_false_iff, List.any_eq_false, Bool.not_eq_true] at hp
  exact ⟨hp.1.2, hp.2⟩

theorem isPattern_iff {p : Pattern} :
    p.isPattern = true ↔
      p.openEnded = true ∨ ∃ glob ∈ p.domain :: p.properties.map (·.2), glob.isWildcard = true := by
  have hany : p.isPattern =
      (p.openEnded || (p.domain.isWildcard || (p.properties.map (·.2)).any Glob.isWildcard)) := by
    rw [List.any_map, ← Bool.or_assoc]
    rfl
  rw [hany, ← List.any_cons, Bool.or_eq_true, List.any_eq_true]

theorem IsExactly.accepts_iff {p : Pattern} {name other : ObjectName} (h : p.IsExactly name)
    (hp : p.isPattern = false) (hn : name.DistinctKeys) (hk : other.DistinctKeys) :
    p.accepts other = true ↔ name.Same other := by
  obtain ⟨text, domain, properties, openEnded⟩ := p
  obtain ⟨rfl, rfl, rfl⟩ := h
  obtain ⟨hdomain, hlisted⟩ := glob_of_not_isPattern hp
  rw [List.forall_mem_map] at hlisted
  rw [accepts_mk_iff hk, Glob.accepts_iff_eq hdomain, ← ObjectName.sameObject_iff_same hn hk]
  have hvalues : (∀ q ∈ name.properties, ∃ value, (q.1, value) ∈ other.properties ∧
        Glob.accepts ⟨q.2⟩ value = true) ↔
      ∀ q ∈ name.properties, other.property? q.1 = some q.2 := by
    apply forall₂_congr
    intro q hq
    simp [Glob.accepts_iff_eq (hlisted q hq), hk.property?_eq_some_iff]
  rw [hvalues, ObjectName.sameObject_iff]
  simp only [Bool.false_eq_true, false_or]
  constructor
  · rintro ⟨hd, hall, hlength⟩
    exact ⟨hd.symm, hlength.symm, hall⟩
  · rintro ⟨hd, hlength, hall⟩
    exact ⟨hd.symm, hall, hlength.symm⟩

theorem openEnded_iff {text : String} {p : Pattern} (h : ofText? text = some p) :
    p.openEnded = true ↔ ∃ domain elements, Divides p.text.toList domain elements ∧ ['*'] ∈ elements := by
  obtain ⟨domain, list, properties, hsplit, -, -, -, rfl⟩ := exists_of_ofText? h
  have hd : Divides text.toList domain (Text.splitAll ',' list) :=
    ObjectName.divides_iff.mpr ⟨list, hsplit, rfl⟩
  rw [List.contains_iff_mem]
  constructor
  · intro hstar
    exact ⟨domain, _, hd, hstar⟩
  · rintro ⟨domain', elements, hd', hstar⟩
    rwa [(hd.unique hd').2] at hstar

end Pattern

namespace ReplyValue

variable {name : ObjectName} {text : String} {p : Pattern}

theorem read_of_not_isPattern (hp : p.isPattern = false) (hn : ObjectName.ofText? text = some name)
    (attrs : List (String × Json)) :
    read p text (.object attrs) = .ok [(name, attrs)] := by
  simp [read, hp, hn]

theorem read_of_isPattern (hp : p.isPattern = true) (hn : ObjectName.ofText? text = some name)
    (mbean : String) (attrs : List (String × Json)) :
    read p mbean (.object [(text, .object attrs)]) = .ok [(name, attrs)] := by
  simp [read, hp, hn, Json.object?]

end ReplyValue

namespace Pattern

/-- A pattern without wildcards matches the objects of its own name, and its values are read as those of one
object among several would be; any other pattern is open-ended or has a glob that matches different texts. -/
theorem exact_or_ambiguous {text : String} {p : Pattern} (h : ofText? text = some p) :
    (p.isPattern = false → ∃ name, ObjectName.ofText? p.text = some name ∧
      (∀ other : ObjectName, other.DistinctKeys → (p.accepts other = true ↔ name.Same other)) ∧
      ∀ attrs : List (String × Json),
        ReplyValue.read p p.text (.object attrs) = .ok [(name, attrs)] ∧
        ∀ (q : Pattern) (mbean : String), q.isPattern = true →
          ReplyValue.read q mbean (.object [(p.text, .object attrs)]) =
            ReplyValue.read p p.text (.object attrs)) ∧
    (p.isPattern = true ↔
      (∃ domain elements, Divides p.text.toList domain elements ∧ ['*'] ∈ elements) ∨
      ∃ glob ∈ p.domain :: p.properties.map (·.2),
        ∃ a b, a ≠ b ∧ glob.accepts a = true ∧ glob.accepts b = true) := by
  constructor
  · intro hp
    obtain ⟨name, hn, hexact⟩ := exists_name_of_not_isPattern h hp
    have hkeys : name.DistinctKeys := ObjectName.distinctKeys_of_ofText? hn
    refine ⟨name, hn, fun other hk => hexact.accepts_iff hp hkeys hk, fun attrs => ?_⟩
    have halone := ReplyValue.read_of_not_isPattern hp hn attrs
    refine ⟨halone, fun q mbean hq => ?_⟩
    rw [halone, ReplyValue.read_of_isPattern hq hn]
  · rw [isPattern_iff, openEnded_iff h]
    simp only [Glob.isWildcard_iff]

theorem exact_or_ambiguous_nodeStatus :
    let text := "io.crate.monitoring:name=a=b,type=NodeStatus"
    let other : ObjectName := ⟨"io.crate.monitoring", [("type", "NodeStatus"), ("name", "a=b")]⟩
    let attrs := [("Ready", Json.boolean true)]
    ∃ p q name, ofText? text = some p ∧ p.isPattern = false ∧ ofText? "*:*" = some q ∧
      q.isPattern = true ∧ ObjectName.ofText? p.text = some name ∧ other.DistinctKeys ∧
      p.accepts other = true ∧ name.Same other ∧
      ReplyValue.read q "" (.object [(p.text, .object attrs)]) =
        ReplyValue.read p p.text (.object attrs) := by
  intro text other attrs
  obtain ⟨p, hp⟩ : ∃ p, ofText? text = some p := Option.isSome_iff_exists.mp (by decide +kernel)
  obtain ⟨q, hq⟩ : ∃ q, ofText? "*:*" = some q := Option.isSome_iff_exists.mp (by decide +kernel)
  have hplain : (ofText? text).all (fun p => !p.isPattern && p.accepts other) = true := by
    decide +kernel
  have hwild : (ofText? "*:*").all isPattern = true := by decide +kernel
  simp only [hp, Option.all_some, Bool.and_eq_true, Bool.not_eq_true'] at hplain
  simp only [hq, Option.all_some] at hwild
  have hk : other.DistinctKeys := by decide
  obtain ⟨name, hn, hmatch, hread⟩ := (exact_or_ambiguous hp).1 hplain.1
  exact ⟨p, q, name, hp, hplain.1, hq, hwild, hn, hk, hplain.2, (hmatch other hk).mp hplain.2,
    (hread attrs).2 q "" hwild⟩

end Pattern
end BeanMetrics
