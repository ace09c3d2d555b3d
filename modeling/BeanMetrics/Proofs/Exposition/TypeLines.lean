import BeanMetrics.Proofs.Exposition.Lossless

/-!
How often a body gives the type of a metric. There is one such line for each family of the name, and
nothing that is written in help texts or label values looks like another one.
-/

namespace BeanMetrics
namespace Exposition

def typeStart (name : String) : List Char := "# TYPE ".toList ++ (name.toList ++ [' '])

def typeLineCount (name body : String) : Nat :=
  (Text.splitAll '\n' body.toList).countP (typeStart name).isPrefixOf

theorem not_typeStart_prefix_helpLine (name : String) (f : Family) :
    ¬ typeStart name <+: helpLine f := by
  unfold typeStart helpLine
  simp

theorem not_typeStart_prefix_sampleLine (name : String) {s : Sample}
    (hn : ∀ c ∈ s.name.toList, MetricName.isNameChar c = true) :
    ¬ typeStart name <+: sampleLine s := by
  rintro ⟨rest, hr⟩
  refine head?_sampleLine hn ?_
  rw [← hr]
  rfl

/-- The blank behind the name is the only one, so the name ends there. -/
theorem typeStart_prefix_typeLine_iff (name : String) {f : Family}
    (hf : ∀ c ∈ f.name.toList, MetricName.isNameChar c = true) :
    typeStart name <+: typeLine f ↔ f.name = name := by
  have hblank : ' ' ∉ f.name.toList := notMem_of_chars hf (by decide)
  have htype : ' ' ∉ f.type.name.toList := by cases f.type <;> decide
  have hstart : typeStart name <+: typeLine f ↔
      name.toList ++ [' '] <+: f.name.toList ++ ' ' :: f.type.name.toList := by
    unfold typeStart typeLine
    rw [List.append_assoc]
    exact List.prefix_append_right_inj _
  rw [hstart]
  constructor
  · rintro ⟨rest, hr⟩
    rw [List.append_assoc, List.singleton_append] at hr
    rw [← String.toList_inj, Text.eq_of_append_sep_eq hblank htype hr]
  · rintro rfl
    exact ⟨f.type.name.toList, by simp⟩

theorem countP_familyLines (name : String) {f : Family} (hf : Exposable f) :
    (familyLines f).countP (typeStart name).isPrefixOf = if f.name = name then 1 else 0 := by
  have hs : (f.samples.map sampleLine).countP (typeStart name).isPrefixOf = 0 := by
    refine List.countP_eq_zero.mpr fun line hm => ?_
    obtain ⟨s, hs, rfl⟩ := List.mem_map.mp hm
    rw [List.isPrefixOf_iff_prefix]
    exact not_typeStart_prefix_sampleLine name (hf.sample_name s hs ▸ hf.name_chars)
  simp only [familyLines, List.countP_cons, hs, List.isPrefixOf_iff_prefix,
    not_typeStart_prefix_helpLine, typeStart_prefix_typeLine_iff name hf.name_chars, if_false,
    Nat.zero_add, Nat.add_zero]

theorem countP_lines (name : String) {families : List Family} (hf : ∀ f ∈ families, Exposable f) :
    (families.flatMap familyLines).countP (typeStart name).isPrefixOf =
      families.countP (·.name = name) := by
  induction families with
  | nil => rfl
  | cons f families ih =>
    obtain ⟨hfirst, hrest⟩ := List.forall_mem_cons.mp hf
    simp only [List.flatMap_cons, List.countP_append, countP_familyLines name hfirst, ih hrest,
      List.countP_cons, decide_eq_true_eq]
    omega

/-- There is one line for each family of the name. -/
theorem typeLineCount_text {families : List Family} (hf : ∀ f ∈ families, Exposable f)
    (name : String) : typeLineCount name (text families) = families.countP (·.name = name) := by
  have hn : ∀ line ∈ families.flatMap familyLines, '\n' ∉ line := by
    intro line hm
    obtain ⟨f, hfm, hl⟩ := List.mem_flatMap.mp hm
    exact newline_notMem_familyLines (hf f hfm) line hl
  rw [typeLineCount, text, String.toList_ofList, chars, Text.splitAll_terminated hn,
    List.countP_append, countP_lines name hf]
  rfl

/-- Selecting keeps all families of a name or none. -/
theorem countP_select (requested : List String) (families : List Family) (name : String) :
    (select requested families).countP (·.name = name) =
      if includes requested name then (families.map (·.name)).count name else 0 := by
  rw [select, List.countP_filter, List.count, List.countP_map]
  split
  · rename_i hi
    refine List.countP_congr fun f _ => ?_
    by_cases hn : f.name = name <;> simp [hn, hi]
  · rename_i hi
    refine List.countP_eq_zero.mpr fun f _ => ?_
    by_cases hn : f.name = name <;> simp [hn, hi]

end Exposition
end BeanMetrics
