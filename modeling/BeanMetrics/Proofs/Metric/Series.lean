import BeanMetrics.Metric.Sample

/-!
Time series. A sample belongs to the series of its name and its set of labels. Labels that are set
one after the other under different names are kept as they are given, so the labels of a sample can
be read off from the place that sets them.
-/

namespace BeanMetrics

structure Series where
  name : String
  labels : List (String × String)
  deriving DecidableEq, Repr

/-- The same name and the same set of labels. -/
def Series.Same (a b : Series) : Prop :=
  a.name = b.name ∧ ∀ label, label ∈ a.labels ↔ label ∈ b.labels

theorem Series.Same.symm {a b : Series} (h : Same a b) : Same b a :=
  ⟨h.1.symm, fun label => (h.2 label).symm⟩

def Series.labelNames (a : Series) : List String := a.labels.map (·.1)

theorem Series.labelNames_subset {a b : Series} (h : ∀ label ∈ a.labels, label ∈ b.labels) :
    ∀ name ∈ a.labelNames, name ∈ b.labelNames := by
  intro name hn
  obtain ⟨label, hm, rfl⟩ := List.mem_map.mp hn
  exact List.mem_map_of_mem (h label hm)

/-- A set of labels is in one order only, once their names are in a fixed order. -/
theorem labels_eq_of_mem_iff {labels labels' : List (String × String)}
    (hn : labels.map (·.1) = labels'.map (·.1)) (hd : (labels.map (·.1)).Nodup)
    (h : ∀ label, label ∈ labels ↔ label ∈ labels') : labels = labels' := by
  induction labels generalizing labels' with
  | nil => simpa using hn.symm
  | cons head rest ih =>
    cases labels' with
    | nil => simp at hn
    | cons head' rest' =>
      simp only [List.map_cons, List.cons.injEq] at hn
      obtain ⟨hhead, hrest⟩ := hn
      obtain ⟨hne, hd⟩ := List.nodup_cons.mp hd
      have he : head = head' := by
        rcases List.mem_cons.mp ((h head).mp (by simp)) with he | hm
        · exact he
        · exact absurd (hrest ▸ List.mem_map_of_mem hm) hne
      subst he
      refine congrArg (head :: ·) (ih hrest hd fun label => ?_)
      have hl := h label
      -- the first label is in neither rest, as its name is no name of theirs
      by_cases hh : label = head
      · subst hh
        have hn : label ∉ rest := fun hm => hne (List.mem_map_of_mem hm)
        have hn' : label ∉ rest' := fun hm => hne (hrest ▸ List.mem_map_of_mem hm)
        simp [hn, hn']
      · simpa [hh] using hl

namespace Sample

def series (s : Sample) : Series := ⟨s.name, s.labels⟩

theorem setLabel_of_notMem {label : String} (value : String) {labels : List (String × String)}
    (h : label ∉ labels.map (·.1)) : setLabel label value labels = labels ++ [(label, value)] := by
  induction labels with
  | nil => rfl
  | cons pair rest ih =>
    obtain ⟨l, v⟩ := pair
    have hl : l ≠ label := fun he => h (by simp [he])
    have hr : label ∉ rest.map (·.1) := fun hm => h (List.mem_cons_of_mem l hm)
    simp [setLabel, hl, ih hr]

theorem series_withLabels {s : Sample} {labels : List (String × String)}
    (h : ((s.labels ++ labels).map (·.1)).Nodup) :
    (s.withLabels labels).series = ⟨s.name, s.labels ++ labels⟩ := by
  induction labels generalizing s with
  | nil => simp [withLabels, series]
  | cons pair rest ih =>
    obtain ⟨label, value⟩ := pair
    have hn : label ∉ s.labels.map (·.1) := by
      intro hm
      rw [List.map_append, List.nodup_append] at h
      exact h.2.2 label hm label (by simp) rfl
    have hs : (s.withLabel label value).labels = s.labels ++ [(label, value)] :=
      setLabel_of_notMem value hn
    have ht := ih (s := s.withLabel label value) (by simpa [hs] using h)
    rw [hs, List.append_assoc, List.singleton_append] at ht
    exact ht

/-- Labels with different names are the labels of the sample. -/
theorem series_unlabeled_withLabels (name : String) (value : Binary64)
    {labels : List (String × String)} (h : (labels.map (·.1)).Nodup) :
    ((unlabeled name value).withLabels labels).series = ⟨name, labels⟩ := by
  rw [series_withLabels (by simpa [unlabeled] using h)]
  rfl

end Sample
end BeanMetrics
