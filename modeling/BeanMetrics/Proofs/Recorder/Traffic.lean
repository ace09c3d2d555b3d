import BeanMetrics.Proofs.Text.Split
import BeanMetrics.Recorder.Traffic

/-! The parts of an attribute name give the name back, so attributes with different names have
different parts; and the name of a figure's attribute has these parts and no others. -/
namespace BeanMetrics
namespace Connections

theorem of_decompose? {attr protocol property : String}
    (h : decompose? attr = some (protocol, property)) :
    protocol ∈ protocols ∧ property ∈ properties ∧ protocol ++ property = attr := by
  obtain ⟨p, hp, hf⟩ := List.exists_of_findSome?_eq_some h
  obtain ⟨q, hq, he⟩ := Option.map_eq_some_iff.mp hf
  obtain ⟨rfl, rfl⟩ := Prod.mk.inj he
  have ha := List.find?_some hq
  exact ⟨hp, List.mem_of_find?_eq_some hq, by simpa using ha⟩

theorem lowerAscii_injOn_protocols :
    ∀ p ∈ protocols, ∀ q ∈ protocols, lowerAscii p = lowerAscii q → p = q := by decide

theorem lowerAscii_injOn_properties :
    ∀ p ∈ properties, ∀ q ∈ properties, lowerAscii p = lowerAscii q → p = q := by decide

/-- Parts that become the same labels are parts of one attribute name. -/
theorem eq_of_lowerAscii_eq {attr attr' protocol protocol' property property' : String}
    (h : decompose? attr = some (protocol, property))
    (h' : decompose? attr' = some (protocol', property'))
    (hp : lowerAscii protocol = lowerAscii protocol')
    (hq : lowerAscii property = lowerAscii property') : attr = attr' := by
  obtain ⟨hpm, hqm, rfl⟩ := of_decompose? h
  obtain ⟨hpm', hqm', rfl⟩ := of_decompose? h'
  have hpe := lowerAscii_injOn_protocols protocol hpm protocol' hpm' hp
  have hqe := lowerAscii_injOn_properties property hqm property' hqm' hq
  rw [hpe, hqe]

end Connections

namespace QueryStats

theorem of_statement? {figure : Figure} {attr statement : String}
    (h : statement? figure attr = some statement) :
    attr = statement ++ ("Query" ++ figure.suffix) := by
  unfold statement? at h
  split at h
  · rename_i front hd
    split at h
    · cases h
    · obtain rfl := Option.some.inj h
      have ha := Text.eq_append_of_dropEnd? hd
      rw [← String.ofList_toList (s := attr), ha, String.ofList_append, String.ofList_toList]
  · cases h

/-! ### Only one decomposition -/

theorem statement?_append (figure : Figure) (statement : String) :
    statement? figure (statement ++ ("Query" ++ figure.suffix)) =
      if statement.toList = [] ∨ '\n' ∈ statement.toList then none else some statement := by
  have hl : (statement ++ ("Query" ++ figure.suffix)).toList =
      statement.toList ++ ("Query" ++ figure.suffix).toList := String.toList_append
  rw [statement?, hl, Text.dropEnd?_append]
  show (if _ then none else some (String.ofList statement.toList)) = _
  rw [String.ofList_toList]

theorem statement?_eq_some_iff {figure : Figure} {attr statement : String} :
    statement? figure attr = some statement ↔
      statement ≠ "" ∧ '\n' ∉ statement.toList ∧ attr = statement ++ ("Query" ++ figure.suffix) := by
  constructor
  · intro h
    have ha := of_statement? h
    rw [ha, statement?_append] at h
    split at h
    · cases h
    · rename_i hn
      obtain ⟨hne, hl⟩ := not_or.mp hn
      exact ⟨fun he => hne (by rw [he]; rfl), hl, ha⟩
  · rintro ⟨hne, hl, rfl⟩
    have hne : statement.toList ≠ [] := fun he => hne (String.toList_eq_nil_iff.mp he)
    rw [statement?_append, if_neg (not_or.mpr ⟨hne, hl⟩)]

/-- No figure's ending, with `Query` before it, ends another one. -/
theorem eq_of_suffix_figures :
    ∀ f ∈ figures, ∀ g ∈ figures,
      ("Query" ++ f.suffix).toList <:+ ("Query" ++ g.suffix).toList → f = g := by decide

/-- An attribute's name is made of a type of statement, on one line, and a figure. -/
structure Composes (statement : String) (figure : Figure) (attr : String) : Prop where
  known : figure ∈ figures
  ne_empty : statement ≠ ""
  oneLine : '\n' ∉ statement.toList
  eq : attr = statement ++ "Query" ++ figure.suffix

theorem composes_iff {statement attr : String} {figure : Figure} :
    Composes statement figure attr ↔
      figure ∈ figures ∧ statement? figure attr = some statement := by
  rw [statement?_eq_some_iff, ← String.append_assoc]
  constructor
  · rintro ⟨hk, hne, hl, he⟩
    exact ⟨hk, hne, hl, he⟩
  · rintro ⟨hk, hne, hl, he⟩
    exact ⟨hk, hne, hl, he⟩

/-- Both endings end the same name, so one of them ends the other. -/
theorem Composes.unique {statement statement' attr : String} {figure figure' : Figure}
    (h : Composes statement figure attr) (h' : Composes statement' figure' attr) :
    statement = statement' ∧ figure = figure' := by
  have he : statement ++ ("Query" ++ figure.suffix) = statement' ++ ("Query" ++ figure'.suffix) := by
    rw [← String.append_assoc, ← String.append_assoc, ← h.eq, ← h'.eq]
  have hs : ("Query" ++ figure.suffix).toList <:+ attr.toList :=
    ⟨statement.toList, by rw [← String.toList_append, ← String.append_assoc, ← h.eq]⟩
  have hs' : ("Query" ++ figure'.suffix).toList <:+ attr.toList :=
    ⟨statement'.toList, by rw [← String.toList_append, ← String.append_assoc, ← h'.eq]⟩
  have hf : figure = figure' := by
    rcases List.suffix_or_suffix_of_suffix hs hs' with hends | hends
    · exact eq_of_suffix_figures figure h.known figure' h'.known hends
    · exact (eq_of_suffix_figures figure' h'.known figure h.known hends).symm
  subst hf
  exact ⟨(String.append_left_inj _).mp he, rfl⟩

/-- The decomposition by a table of figures that are tried in its order. -/
def decomposeBy? (table : List Figure) (attr : String) : Option (String × Figure) :=
  table.findSome? fun figure => (statement? figure attr).map (·, figure)

theorem composes_of_decomposeBy? {table : List Figure} (ht : table.Perm figures)
    {attr statement : String} {figure : Figure}
    (h : decomposeBy? table attr = some (statement, figure)) : Composes statement figure attr := by
  obtain ⟨f, hf, hs⟩ := List.exists_of_findSome?_eq_some h
  obtain ⟨front, hfront, he⟩ := Option.map_eq_some_iff.mp hs
  obtain ⟨rfl, rfl⟩ := Prod.mk.inj he
  exact composes_iff.mpr ⟨ht.mem_iff.mp hf, hfront⟩

/-- With a table of these figures in any order, the first match is the only one. -/
theorem decomposeBy?_eq_some_iff {table : List Figure} (ht : table.Perm figures)
    {attr statement : String} {figure : Figure} :
    decomposeBy? table attr = some (statement, figure) ↔ Composes statement figure attr := by
  constructor
  · exact composes_of_decomposeBy? ht
  · intro h
    cases hd : decomposeBy? table attr with
    | none =>
      obtain ⟨hk, hs⟩ := composes_iff.mp h
      have hn := List.findSome?_eq_none_iff.mp hd figure (ht.mem_iff.mpr hk)
      simp [hs] at hn
    | some parts =>
      obtain ⟨rfl, rfl⟩ := (composes_of_decomposeBy? ht hd).unique h
      rfl

theorem decompose?_eq_some_iff {attr statement : String} {figure : Figure} :
    decompose? attr = some (statement, figure) ↔ Composes statement figure attr :=
  decomposeBy?_eq_some_iff (.refl figures)

theorem metric_injOn_figures :
    ∀ f ∈ figures, ∀ g ∈ figures, f.metric = g.metric → f = g := by decide

/-- Parts that become the same metric and the same label are parts of one attribute name. -/
theorem eq_of_metric_eq {attr attr' statement : String} {figure figure' : Figure}
    (h : decompose? attr = some (statement, figure))
    (h' : decompose? attr' = some (statement, figure'))
    (hm : figure.metric = figure'.metric) : attr = attr' := by
  have hc := decompose?_eq_some_iff.mp h
  have hc' := decompose?_eq_some_iff.mp h'
  rw [hc.eq, hc'.eq, metric_injOn_figures figure hc.known figure' hc'.known hm]

/-- The emission of a consumed number, under the metric of its figure and with its statement as the
label. -/
theorem of_record {ns attr : String} {n : Binary64} {emissions : List Emission}
    (h : record ns attr (.number n) = .consumed emissions) :
    ∃ statement figure, Composes statement figure attr ∧
      emissions = [⟨⟨ns ++ "_" ++ figure.metric, [("query", statement)], n⟩, .gauge, figure.help⟩] := by
  unfold record at h
  cases hd : decompose? attr with
  | none =>
    rw [hd] at h
    cases h
  | some parts =>
    rw [hd] at h
    obtain rfl := Verdict.consumed.inj h
    exact ⟨parts.1, parts.2, decompose?_eq_some_iff.mp hd, rfl⟩

/-- The names of attributes decompose in one way only: into a type of statement that is not empty and
on one line, `Query`, and the ending of a figure. So the order in which the figures are tried does not
matter, a type of statement is kept whatever it contains, and numbers of differently named attributes
never come under one metric with one label. -/
theorem decomposition_unique :
    (∀ attr statement figure,
      decompose? attr = some (statement, figure) ↔ Composes statement figure attr) ∧
    (∀ attr statement statement' figure figure', Composes statement figure attr →
      Composes statement' figure' attr → statement = statement' ∧ figure = figure') ∧
    (∀ table, table.Perm figures → ∀ attr, decomposeBy? table attr = decompose? attr) ∧
    (∀ statement, statement ≠ "" → '\n' ∉ statement.toList → ∀ figure ∈ figures,
      decompose? (statement ++ "Query" ++ figure.suffix) = some (statement, figure)) ∧
    (∀ ns attr attr' n n' emissions emissions', record ns attr (.number n) = .consumed emissions →
      record ns attr' (.number n') = .consumed emissions' → attr ≠ attr' →
      ∀ e ∈ emissions, ∀ e' ∈ emissions', e.sample.name = e'.sample.name →
        e.sample.label? "query" ≠ e'.sample.label? "query") := by
  refine ⟨?_, ?_, ?_, ?_, ?_⟩
  · intro attr statement figure
    exact decompose?_eq_some_iff
  · intro attr statement statement' figure figure' h h'
    exact h.unique h'
  · intro table ht attr
    refine Option.ext fun parts => ?_
    exact (decomposeBy?_eq_some_iff ht).trans decompose?_eq_some_iff.symm
  · intro statement hne hl figure hf
    exact decompose?_eq_some_iff.mpr ⟨hf, hne, hl, rfl⟩
  · intro ns attr attr' n n' emissions emissions' h h' hne e he e' he' hname hlabel
    obtain ⟨statement, figure, hc, rfl⟩ := of_record h
    obtain ⟨statement', figure', hc', rfl⟩ := of_record h'
    obtain rfl := List.mem_singleton.mp he
    obtain rfl := List.mem_singleton.mp he'
    have hs : statement = statement' := Option.some.inj hlabel
    have hm : figure.metric = figure'.metric := (String.append_right_inj _).mp hname
    subst hs
    exact hne (eq_of_metric_eq (decompose?_eq_some_iff.mpr hc) (decompose?_eq_some_iff.mpr hc') hm)

/-- A type of statement that contains `Query` and the whole ending of another figure, read with the
table of figures turned around. -/
theorem decomposition_unique_nested :
    let statement := "CopyQueryTotalCountQuery"
    let figure : Figure :=
      ⟨"Frequency", "queries", "Queries per second for a given query type."⟩
    statement ≠ "" ∧ '\n' ∉ statement.toList ∧ figure ∈ figures ∧
      figures.reverse.Perm figures ∧
      decompose? "CopyQueryTotalCountQueryQueryFrequency" = some (statement, figure) ∧
      decomposeBy? figures.reverse "CopyQueryTotalCountQueryQueryFrequency" =
        some (statement, figure) := by
  intro statement figure
  obtain ⟨-, -, horder, hread, -⟩ := decomposition_unique
  have hne : statement ≠ "" := by decide
  have hl : '\n' ∉ statement.toList := by decide
  have hf : figure ∈ figures := by decide
  have hp : figures.reverse.Perm figures := List.reverse_perm figures
  have hd := hread statement hne hl figure hf
  exact ⟨hne, hl, hf, hp, hd, (horder _ hp _).trans hd⟩

end QueryStats
end BeanMetrics
