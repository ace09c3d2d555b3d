import BeanMetrics.Proofs.Metric.Grouping

/-!
Emissions of two sources, put together to one sequence. The families of the whole are those of both
sides, next to each other, exactly if the sides have no name in common.
-/

namespace BeanMetrics

/-- A sequence made of two others, each in its own order. -/
inductive Merged {α : Type} : List α → List α → List α → Prop where
  | nil : Merged [] [] []
  | left {a : α} {as bs cs : List α} (h : Merged as bs cs) : Merged (a :: as) bs (a :: cs)
  | right {b : α} {as bs cs : List α} (h : Merged as bs cs) : Merged as (b :: bs) (b :: cs)

namespace Merged

variable {α : Type} {as bs cs : List α}

theorem append_left (h : Merged as bs cs) (more : List α) : Merged (more ++ as) bs (more ++ cs) := by
  induction more with
  | nil => exact h
  | cons a more ih => exact ih.left

theorem symm (h : Merged as bs cs) : Merged bs as cs := by
  induction h with
  | nil => exact .nil
  | left h ih => exact ih.right
  | right h ih => exact ih.left

theorem perm (h : Merged as bs cs) : cs.Perm (as ++ bs) := by
  induction h with
  | nil => exact .nil
  | left h ih => exact ih.cons _
  | right h ih => exact (ih.cons _).trans List.perm_middle.symm

/-- What is only in one of two sequences is in its order there. -/
theorem filter_eq_left {p : α → Bool} (h : Merged as bs cs) (hb : ∀ b ∈ bs, p b = false) :
    cs.filter p = as.filter p := by
  induction h with
  | nil => rfl
  | left h ih => rw [List.filter_cons, List.filter_cons, ih hb]
  | right h ih =>
    obtain ⟨hp, hbs⟩ := List.forall_mem_cons.mp hb
    rw [List.filter_cons_of_neg (by simp [hp]), ih hbs]

end Merged

namespace FamilyMap

theorem mem_grouping_iff {emissions : List Emission} {f : Family} :
    f ∈ grouping emissions ↔ group? f.name emissions = some f := by
  refine ⟨mem_grouping, fun h => ?_⟩
  rw [← find?_grouping] at h
  exact List.mem_of_find?_eq_some h

theorem name_mem_namesOf {emissions : List Emission} {f : Family} (h : f ∈ grouping emissions) :
    f.name ∈ namesOf emissions := by
  rw [← map_name_grouping]
  exact List.mem_map_of_mem h

section

variable {as bs cs : List Emission}

def Apart (as bs : List Emission) : Prop := ∀ a ∈ as, ∀ b ∈ bs, a.sample.name ≠ b.sample.name

instance : Decidable (Apart as bs) :=
  inferInstanceAs (Decidable (∀ a ∈ as, ∀ b ∈ bs, _))

theorem apart_iff_disjoint : Apart as bs ↔ (namesOf as).Disjoint (namesOf bs) := by
  constructor
  · intro h name ha hb
    obtain ⟨a, hma, rfl⟩ := mem_namesOf.mp ha
    obtain ⟨b, hmb, hn⟩ := mem_namesOf.mp hb
    exact h a hma b hmb hn.symm
  · intro h a ha b hb hn
    exact h (mem_namesOf.mpr ⟨a, ha, rfl⟩) (mem_namesOf.mpr ⟨b, hb, hn.symm⟩)

theorem group?_eq_left {name : String} (h : Merged as bs cs) (hb : name ∉ namesOf bs) :
    group? name cs = group? name as := by
  have hf : cs.filter (·.sample.name = name) = as.filter (·.sample.name = name) := by
    refine h.filter_eq_left fun b hm => decide_eq_false fun hn => hb ?_
    exact mem_namesOf.mpr ⟨b, hm, hn⟩
  rw [group?, group?, hf]

theorem mem_grouping_iff_of_apart (h : Merged as bs cs) (ha : Apart as bs) {f : Family} :
    f ∈ grouping cs ↔ f ∈ grouping as ++ grouping bs := by
  rw [List.mem_append]
  by_cases hb : f.name ∈ namesOf bs
  · have hn : f.name ∉ namesOf as := fun hm => apart_iff_disjoint.mp ha hm hb
    have hnot : f ∉ grouping as := fun hm => hn (name_mem_namesOf hm)
    rw [mem_grouping_iff, group?_eq_left h.symm hn, ← mem_grouping_iff]
    simp [hnot]
  · have hnot : f ∉ grouping bs := fun hm => hb (name_mem_namesOf hm)
    rw [mem_grouping_iff, group?_eq_left h hb, ← mem_grouping_iff]
    simp [hnot]

theorem nodup_namesOf (emissions : List Emission) : (namesOf emissions).Nodup :=
  (pairwise_namesOf emissions).imp fun h => h.ne

/-- The families are those of both sides exactly if the sides have no name in common. -/
theorem grouping_perm_append_iff (h : Merged as bs cs) :
    (grouping cs).Perm (grouping as ++ grouping bs) ↔ Apart as bs := by
  constructor
  · intro hp
    have hn := (hp.map (·.name)).nodup_iff.mp (map_name_grouping cs ▸ nodup_namesOf cs)
    rw [List.map_append, map_name_grouping, map_name_grouping] at hn
    exact apart_iff_disjoint.mpr (List.disjoint_of_nodup_append hn)
  · intro ha
    have hd : (grouping as).Disjoint (grouping bs) := fun f hf hf' =>
      apart_iff_disjoint.mp ha (name_mem_namesOf hf) (name_mem_namesOf hf')
    have hn := List.nodup_append'.mpr
      ⟨(ascending_grouping as).nodup, (ascending_grouping bs).nodup, hd⟩
    exact (List.perm_ext_iff_of_nodup (ascending_grouping cs).nodup hn).mpr fun f =>
      mem_grouping_iff_of_apart h ha

end

end FamilyMap
end BeanMetrics
