import BeanMetrics.Metric.FamilyMap
import Mathlib.Data.List.Dedup
import Mathlib.Data.List.Induction
import Mathlib.Data.List.Sort
import Mathlib.Data.String.Basic

/-!
Families as groups. Adding emissions one by one to the families in ascending order comes to the same
as grouping all of them by name: the names in ascending order, and under each name its emissions in
the order in which they came.
-/

namespace BeanMetrics
namespace FamilyMap

/-- The group of one name, if there is an emission under it. The first one settles the type and the
help text. -/
def group? (name : String) (emissions : List Emission) : Option Family :=
  match emissions.filter (·.sample.name = name) with
  | [] => none
  | e :: own => some ⟨name, e.type, e.help, (e :: own).map (·.sample)⟩

def namesOf (emissions : List Emission) : List String :=
  (emissions.map (·.sample.name)).dedup.mergeSort fun a b => decide (a ≤ b)

def grouping (emissions : List Emission) : List Family :=
  (namesOf emissions).filterMap (group? · emissions)

/-- Every later family has a greater name. -/
def Ascending (families : List Family) : Prop := families.Pairwise (·.name < ·.name)

/-! ### Ascending families -/

theorem Ascending.nodup {families : List Family} (h : Ascending families) : families.Nodup :=
  List.Pairwise.imp (fun {f g} hlt (he : f = g) => lt_irrefl g.name (he ▸ hlt)) h

theorem Ascending.find?_eq_some_iff {families : List Family} (h : Ascending families)
    {name : String} {f : Family} :
    families.find? (·.name = name) = some f ↔ f ∈ families ∧ f.name = name := by
  constructor
  · intro hf
    exact ⟨List.mem_of_find?_eq_some hf, by simpa using List.find?_some hf⟩
  · rintro ⟨hm, rfl⟩
    induction families with
    | nil => simp at hm
    | cons g rest ih =>
      obtain ⟨hg, hrest⟩ := List.pairwise_cons.mp h
      rcases List.mem_cons.mp hm with rfl | hr
      · simp
      · have hne : g.name ≠ f.name := (hg f hr).ne
        rw [List.find?_cons_of_neg (by simpa using hne)]
        exact ih hrest hr

/-- In ascending order there is at most one family of a name. -/
theorem Ascending.filter_name {families : List Family} (h : Ascending families) (name : String) :
    families.filter (·.name = name) = (families.find? (·.name = name)).toList := by
  induction families with
  | nil => rfl
  | cons g rest ih =>
    obtain ⟨hg, hrest⟩ := List.pairwise_cons.mp h
    by_cases hn : g.name = name
    · have hr : rest.filter (·.name = name) = [] := by
        simp only [List.filter_eq_nil_iff, decide_eq_true_eq]
        exact fun f hf he => (hg f hf).ne (hn.trans he.symm)
      rw [List.filter_cons_of_pos (by simpa using hn), List.find?_cons_of_pos (by simpa using hn), hr]
      rfl
    · rw [List.filter_cons_of_neg (by simpa using hn), List.find?_cons_of_neg (by simpa using hn),
        ih hrest]

/-- Families in ascending order are settled by what is found under every name. -/
theorem Ascending.ext {fs gs : List Family} (hf : Ascending fs) (hg : Ascending gs)
    (h : ∀ name, fs.find? (·.name = name) = gs.find? (·.name = name)) : fs = gs := by
  have hm : ∀ f, f ∈ fs ↔ f ∈ gs := by
    intro f
    have hfm := @Ascending.find?_eq_some_iff fs hf f.name f
    have hgm := @Ascending.find?_eq_some_iff gs hg f.name f
    simp only [and_true] at hfm hgm
    rw [← hfm, ← hgm, h]
  have hp : fs.Perm gs := (List.perm_ext_iff_of_nodup hf.nodup hg.nodup).mpr hm
  exact hp.eq_of_pairwise (fun a b _ _ hab hba => absurd hab hba.asymm) hf hg

/-! ### One emission more -/

/-- What is under the name of an emission once it has been added. -/
def extend (e : Emission) : Option Family → Family
  | none => .ofEmission e
  | some f => { f with samples := f.samples ++ [e.sample] }

theorem name_mem_addEmission {e : Emission} {fs : List Family} {f : Family}
    (h : f ∈ addEmission e fs) : f.name = e.sample.name ∨ ∃ g ∈ fs, f.name = g.name := by
  induction fs with
  | nil => simp_all [addEmission, Family.ofEmission]
  | cons g rest ih =>
    rw [addEmission] at h
    split at h
    · rcases List.mem_cons.mp h with rfl | hr
      · exact .inr ⟨g, by simp, rfl⟩
      · exact .inr ⟨f, List.mem_cons_of_mem g hr, rfl⟩
    · split at h
      · rcases List.mem_cons.mp h with rfl | hr
        · exact .inl rfl
        · exact .inr ⟨f, hr, rfl⟩
      · rcases List.mem_cons.mp h with rfl | hr
        · exact .inr ⟨f, by simp, rfl⟩
        · rcases ih hr with he | ⟨x, hx, he⟩
          · exact .inl he
          · exact .inr ⟨x, List.mem_cons_of_mem g hx, he⟩

theorem Ascending.addEmission {fs : List Family} (h : Ascending fs) (e : Emission) :
    Ascending (addEmission e fs) := by
  induction fs with
  | nil => exact List.pairwise_singleton _ _
  | cons g rest ih =>
    obtain ⟨hg, hrest⟩ := List.pairwise_cons.mp h
    rw [FamilyMap.addEmission]
    split
    · exact List.pairwise_cons.mpr ⟨hg, hrest⟩
    · rename_i hne
      split
      · rename_i hlt
        refine List.pairwise_cons.mpr ⟨?_, h⟩
        intro f hf
        rcases List.mem_cons.mp hf with rfl | hr
        · exact hlt
        · exact hlt.trans (hg f hr)
      · rename_i hnlt
        have hgt : g.name < e.sample.name := lt_of_le_of_ne (not_lt.mp hnlt) (Ne.symm hne)
        refine List.pairwise_cons.mpr ⟨?_, ih hrest⟩
        intro f hf
        rcases name_mem_addEmission hf with he | ⟨x, hx, he⟩
        · rw [he]
          exact hgt
        · rw [he]
          exact hg x hx

theorem find?_addEmission {fs : List Family} (h : Ascending fs) (e : Emission) (name : String) :
    (addEmission e fs).find? (·.name = name) =
      if e.sample.name = name then some (extend e (fs.find? (·.name = name)))
      else fs.find? (·.name = name) := by
  induction fs with
  | nil =>
    by_cases hn : e.sample.name = name <;> simp [addEmission, extend, Family.ofEmission, hn]
  | cons g rest ih =>
    obtain ⟨hg, hrest⟩ := List.pairwise_cons.mp h
    have ht := ih hrest
    rw [addEmission]
    by_cases hn : e.sample.name = name
    · subst hn
      split
      · rename_i he
        simp [extend, he]
      · rename_i hne
        split
        · rename_i hlt
          -- every family that was there has a greater name, so nothing was found before
          have hnone : (g :: rest).find? (·.name = e.sample.name) = none := by
            simp only [List.find?_eq_none, decide_eq_true_eq]
            intro f hf
            rcases List.mem_cons.mp hf with rfl | hr
            · exact hlt.ne'
            · exact (hlt.trans (hg f hr)).ne'
          simp [hnone, extend, Family.ofEmission]
        · simp [Ne.symm hne, ht]
    · split
      · rename_i he
        simp [hn, ← he]
      · split
        · simp [hn, Family.ofEmission]
        · simp only [List.find?_cons, ht, if_neg hn]

/-! ### Groups -/

theorem group?_concat (name : String) (emissions : List Emission) (e : Emission) :
    group? name (emissions ++ [e]) =
      if e.sample.name = name then some (extend e (group? name emissions))
      else group? name emissions := by
  by_cases hn : e.sample.name = name
  · subst hn
    cases ho : emissions.filter (·.sample.name = e.sample.name) with
    | nil => simp [group?, List.filter_append, ho, extend, Family.ofEmission]
    | cons first own => simp [group?, List.filter_append, ho, extend]
  · simp [group?, List.filter_append, hn]

/-- A family of a group has the name of the group and the samples under it, and takes its type and
its help text from the first of them. -/
theorem group?_eq_some_iff {name : String} {emissions : List Emission} {f : Family} :
    group? name emissions = some f ↔
      f.name = name ∧ f.samples = (emissions.filter (·.sample.name = name)).map (·.sample) ∧
        ∃ first, emissions.find? (·.sample.name = name) = some first ∧
          f.type = first.type ∧ f.help = first.help := by
  rw [← List.head?_filter]
  cases ho : emissions.filter (·.sample.name = name) with
  | nil => simp [group?, ho]
  | cons first own =>
    simp only [group?, ho, Option.some.injEq, List.head?_cons]
    constructor
    · rintro rfl
      exact ⟨rfl, rfl, first, rfl, rfl, rfl⟩
    · rintro ⟨hn, hs, e, rfl, ht, hh⟩
      cases f
      simp_all

theorem mem_namesOf {name : String} {emissions : List Emission} :
    name ∈ namesOf emissions ↔ ∃ e ∈ emissions, e.sample.name = name := by
  simp [namesOf]

theorem pairwise_namesOf (emissions : List Emission) : (namesOf emissions).Pairwise (· < ·) := by
  have hs : (namesOf emissions).Pairwise (· ≤ ·) := by
    have hp := @List.pairwise_mergeSort String (fun a b => decide (a ≤ b))
      (fun a b c hab hbc => by simpa using le_trans (by simpa using hab) (by simpa using hbc))
      (fun a b => by simpa using le_total a b) (emissions.map (·.sample.name)).dedup
    exact hp.imp fun h => by simpa using h
  have hd : (namesOf emissions).Nodup :=
    (List.mergeSort_perm _ _).nodup_iff.mpr (List.nodup_dedup _)
  exact (hs.and hd).imp fun h => lt_of_le_of_ne h.1 h.2

theorem name_of_group? {name : String} {emissions : List Emission} {f : Family}
    (h : group? name emissions = some f) : f.name = name :=
  (group?_eq_some_iff.mp h).1

theorem ascending_grouping (emissions : List Emission) : Ascending (grouping emissions) := by
  refine List.pairwise_filterMap.mpr ((pairwise_namesOf emissions).imp ?_)
  intro a b hab f hf g hg
  rw [name_of_group? hf, name_of_group? hg]
  exact hab

theorem group?_eq_none {name : String} {emissions : List Emission}
    (h : name ∉ namesOf emissions) : group? name emissions = none := by
  have hf : emissions.filter (·.sample.name = name) = [] := by
    simp only [List.filter_eq_nil_iff, decide_eq_true_eq]
    exact fun e he hn => h (mem_namesOf.mpr ⟨e, he, hn⟩)
  simp [group?, hf]

theorem find?_grouping (emissions : List Emission) (name : String) :
    (grouping emissions).find? (·.name = name) = group? name emissions := by
  cases hg : group? name emissions with
  | none =>
    simp only [List.find?_eq_none, decide_eq_true_eq]
    intro f hf he
    obtain ⟨n, -, hn⟩ := List.mem_filterMap.mp hf
    rw [name_of_group? hn] at he
    simp [he, hg] at hn
  | some f =>
    have hm : name ∈ namesOf emissions := by
      by_contra hm
      simp [group?_eq_none hm] at hg
    exact (ascending_grouping emissions).find?_eq_some_iff.mpr
      ⟨List.mem_filterMap.mpr ⟨name, hm, hg⟩, name_of_group? hg⟩

/-! ### Accepting emissions -/

theorem ofEmissions_concat (emissions : List Emission) (e : Emission) :
    (ofEmissions (emissions ++ [e])).families = addEmission e (ofEmissions emissions).families := by
  simp [ofEmissions, acceptAll, accept]

theorem ascending_ofEmissions (emissions : List Emission) :
    Ascending (ofEmissions emissions).families := by
  induction emissions using List.reverseRecOn with
  | nil => exact List.Pairwise.nil
  | append_singleton emissions e ih =>
    rw [ofEmissions_concat]
    exact ih.addEmission e

theorem find?_ofEmissions (emissions : List Emission) (name : String) :
    (ofEmissions emissions).families.find? (·.name = name) = group? name emissions := by
  induction emissions using List.reverseRecOn with
  | nil => rfl
  | append_singleton emissions e ih =>
    rw [ofEmissions_concat, find?_addEmission (ascending_ofEmissions emissions), group?_concat, ih]

theorem families_ofEmissions (emissions : List Emission) :
    (ofEmissions emissions).families = grouping emissions := by
  refine (ascending_ofEmissions emissions).ext (ascending_grouping emissions) fun name => ?_
  rw [find?_ofEmissions, find?_grouping]

/-! ### Names of families and samples under them -/

def samplesUnder (name : String) (families : List Family) : List Sample :=
  (families.filter (·.name = name)).flatMap (·.samples)

def madeUnder (name : String) (emissions : List Emission) : List Sample :=
  (emissions.filter (·.sample.name = name)).map (·.sample)

theorem madeUnder_cons (name : String) (e : Emission) (emissions : List Emission) :
    madeUnder name (e :: emissions) =
      if e.sample.name = name then e.sample :: madeUnder name emissions
      else madeUnder name emissions := by
  by_cases hn : e.sample.name = name <;> simp [madeUnder, hn]

@[simp] theorem madeUnder_append (name : String) (first second : List Emission) :
    madeUnder name (first ++ second) = madeUnder name first ++ madeUnder name second := by
  simp [madeUnder]

theorem madeUnder_perm {emissions emissions' : List Emission} (h : emissions.Perm emissions')
    (name : String) : (madeUnder name emissions).Perm (madeUnder name emissions') :=
  (h.filter _).map _

theorem samplesUnder_grouping (name : String) (emissions : List Emission) :
    samplesUnder name (grouping emissions) = madeUnder name emissions := by
  rw [samplesUnder, (ascending_grouping emissions).filter_name, find?_grouping, madeUnder]
  cases ho : emissions.filter (·.sample.name = name) with
  | nil => simp [group?, ho]
  | cons first own => simp [group?, ho]

theorem map_name_grouping (emissions : List Emission) :
    (grouping emissions).map (·.name) = namesOf emissions := by
  have hn (name : String) (hm : name ∈ namesOf emissions) :
      (group? name emissions).map (·.name) = some name := by
    cases hg : group? name emissions with
    | none =>
      obtain ⟨e, he, hs⟩ := mem_namesOf.mp hm
      have ho : e ∈ emissions.filter (·.sample.name = name) :=
        List.mem_filter.mpr ⟨he, by simpa using hs⟩
      unfold group? at hg
      split at hg
      · rename_i hnil
        simp [hnil] at ho
      · cases hg
    | some f => rw [Option.map_some, name_of_group? hg]
  rw [grouping, List.map_filterMap, List.filterMap_congr hn, List.filterMap_some]

/-- Which families there are depends only on the names of the emissions. -/
theorem namesOf_perm {emissions emissions' : List Emission}
    (h : (emissions.map (·.sample.name)).Perm (emissions'.map (·.sample.name))) :
    namesOf emissions = namesOf emissions' := by
  have hp : (namesOf emissions).Perm (namesOf emissions') :=
    (List.mergeSort_perm _ _).trans (h.dedup.trans (List.mergeSort_perm _ _).symm)
  exact hp.eq_of_pairwise (fun a b _ _ hab hba => absurd hab hba.asymm) (pairwise_namesOf _)
    (pairwise_namesOf _)

/-! ### What is in the groups -/

theorem mem_grouping {emissions : List Emission} {f : Family} (h : f ∈ grouping emissions) :
    group? f.name emissions = some f := by
  rw [← find?_grouping]
  exact (ascending_grouping emissions).find?_eq_some_iff.mpr ⟨h, rfl⟩

theorem samples_ne_nil_of_mem_grouping {emissions : List Emission} {f : Family}
    (h : f ∈ grouping emissions) : f.samples ≠ [] := by
  have hg := mem_grouping h
  unfold group? at hg
  split at hg
  · cases hg
  · have hs := congrArg (·.samples) (Option.some.inj hg)
    simp [← hs]

theorem samples_addEmission_perm (e : Emission) (fs : List Family) :
    ((addEmission e fs).flatMap (·.samples)).Perm (fs.flatMap (·.samples) ++ [e.sample]) := by
  induction fs with
  | nil => simp [addEmission, Family.ofEmission]
  | cons g rest ih =>
    have hlast (samples : List Sample) : (e.sample :: samples).Perm (samples ++ [e.sample]) :=
      (List.perm_append_singleton e.sample samples).symm
    rw [addEmission]
    split
    · simpa using (hlast (rest.flatMap (·.samples))).append_left g.samples
    · split
      · simpa [Family.ofEmission] using hlast (g.samples ++ rest.flatMap (·.samples))
      · simpa using ih.append_left g.samples

/-- No emission is lost and none is made twice. -/
theorem samples_grouping_perm (emissions : List Emission) :
    ((grouping emissions).flatMap (·.samples)).Perm (emissions.map (·.sample)) := by
  rw [← families_ofEmissions]
  induction emissions using List.reverseRecOn with
  | nil => exact List.Perm.nil
  | append_singleton emissions e ih =>
    rw [ofEmissions_concat, List.map_append, List.map_singleton]
    exact (samples_addEmission_perm e _).trans (ih.append_right _)

end FamilyMap
end BeanMetrics
