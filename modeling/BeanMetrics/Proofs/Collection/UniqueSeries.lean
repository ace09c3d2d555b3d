import BeanMetrics.Config.Basic
import BeanMetrics.Proofs.Collection.StableGrouping

/-!
When a pass exposes a time series twice. Names and labels are made in a way that does not keep all
quantities apart; the families of a pass repeat a series exactly when two quantities in its readings
coincide.
-/

namespace BeanMetrics

/-- Two samples with the same name and the same set of labels. -/
def Sample.Repeats (a b : Sample) : Prop := a.series.Same b.series

theorem Sample.Repeats.symm {a b : Sample} (h : Repeats a b) : Repeats b a := Series.Same.symm h

theorem Exposed.pairwise_iff {ns : String} {qs : List Quantity} {emissions : List Emission}
    (h : Exposed ns qs emissions) :
    (emissions.map (·.sample)).Pairwise (fun a b => ¬ a.Repeats b) ↔
      qs.Pairwise fun q q' => ¬ q.Coincide ns q' := by
  induction qs generalizing emissions with
  | nil =>
    have he : emissions = [] := by simpa [Exposed] using h
    simp [he]
  | cons q qs ih =>
    cases emissions with
    | nil => simp [Exposed] at h
    | cons e emissions =>
      have hc := List.cons.inj h
      have hrest : Exposed ns qs emissions := hc.2
      rw [List.map_cons, List.pairwise_cons, List.pairwise_cons, ih hrest]
      refine and_congr_left' ⟨?_, ?_⟩
      · intro hs q' hq' hco
        obtain ⟨e', he', hs'⟩ := hrest.exists_emission hq'
        exact hs e'.sample (List.mem_map_of_mem he')
          ((Quantity.same_iff_coincide hc.1 hs').mpr hco)
      · intro hs a ha hr
        obtain ⟨e', he', rfl⟩ := List.mem_map.mp ha
        obtain ⟨q', hq', hs'⟩ := hrest.exists_quantity he'
        exact hs q' hq' ((Quantity.same_iff_coincide hc.1 hs').mp hr)

theorem Quantity.not_same_identitySeries {ns : String} {q : Quantity} {a : Series}
    (h : q.series? ns = some a) (id name : String) : ¬ (identitySeries ns id name).Same a := by
  intro hs
  have hl := labelNames_of_series? h
  have hd : ∀ names ∈ labelNameLists, ¬ ((∀ n ∈ ["id", "name"], n ∈ names) ∧
      ∀ n ∈ names, n ∈ ["id", "name"]) := by decide
  exact hd _ hl ⟨Series.labelNames_subset fun label => (hs.2 label).mp,
    Series.labelNames_subset fun label => (hs.2 label).mpr⟩

/-- The families of a pass expose every series at most once exactly if no two quantities in its
readings coincide. -/
theorem Engine.no_repeats_iff {e : Engine} {registry : Registry} {nanos : Nat}
    {families : List Family} (h : (e.collect registry nanos).2 = .ok families) :
    (families.flatMap (·.samples)).Pairwise (fun a b => ¬ a.Repeats b) ↔
      ((Pass.readings registry e.pattern).flatMap (Reading.quantities e.settings)).Pairwise
        fun q q' => ¬ q.Coincide e.settings.namespaceName q' := by
  rw [result_collect] at h
  cases ht : Pass.trace e.settings .initial (Pass.readings registry e.pattern) with
  | error violation => simp [ht, Except.map] at h
  | ok emissions =>
    rw [ht] at h
    obtain rfl := Except.ok.inj h
    obtain ⟨identity, own, emitted, hp, hi, hq⟩ := Pass.exposed_trace ht
    have hsymm {a b : Sample} (hab : ¬ a.Repeats b) : ¬ b.Repeats a := fun hba => hab hba.symm
    have hperm := (FamilyMap.samples_grouping_perm emissions).trans (hp.map (·.sample))
    have hidentity : (identity.map (·.sample)).Pairwise fun a b => ¬ a.Repeats b := by
      have hl := hi.length_le
      cases identity with
      | nil => exact .nil
      | cons first rest =>
        have hrest : rest = [] := by simpa using hl
        simp [hrest]
    have hcross : ∀ a ∈ identity.map (·.sample), ∀ b ∈ own.map (·.sample), ¬ a.Repeats b := by
      intro a ha b hb hr
      obtain ⟨first, hf, rfl⟩ := List.mem_map.mp ha
      obtain ⟨second, hs, rfl⟩ := List.mem_map.mp hb
      obtain ⟨id, name, hid⟩ := hi.eq_identitySeries (List.mem_map_of_mem hf)
      obtain ⟨q, -, hqs⟩ := hq.exists_quantity hs
      rw [Sample.Repeats, hid] at hr
      exact q.not_same_identitySeries hqs id name hr
    rw [hperm.pairwise_iff hsymm, List.map_append, List.pairwise_append, ← hq.pairwise_iff]
    exact ⟨fun hall => hall.2.1, fun hown => ⟨hidentity, hown, hcross⟩⟩

def Snapshot.twins : Snapshot where
  objects :=
    [(SnapshotObject.named ⟨"io.crate.monitoring", [("type", "Shard"), ("id", "1")]⟩).withAttribute
      ⟨"Size", "long", "", true⟩ (.number .one),
     (SnapshotObject.named ⟨"io.crate.monitoring", [("type", "Shard"), ("id", "2")]⟩).withAttribute
      ⟨"Size", "long", "", true⟩ (.number .zero)]
  unavailable := none

def Family.twins : List Family :=
  [⟨"crate_shard_size", .untyped, " (io.crate.monitoring<type=Shard, id=1>Size)",
    [.unlabeled "crate_shard_size" .one, .unlabeled "crate_shard_size" .zero]⟩]

theorem Engine.no_repeats_iff_twins :
    ((create .default (.since .zero)).collect Snapshot.twins.registry 0).2 = .ok Family.twins ∧
      ((Family.twins.flatMap (·.samples)).Pairwise (fun a b => ¬ a.Repeats b) ↔
        ((Pass.readings Snapshot.twins.registry (create .default (.since .zero)).pattern).flatMap
          (Reading.quantities .default)).Pairwise fun q q' => ¬ q.Coincide "crate" q') := by
  have hr : ((create .default (.since .zero)).collect Snapshot.twins.registry 0).2 =
      .ok Family.twins := by decide +kernel
  exact ⟨hr, no_repeats_iff hr⟩

/-- The objects and their attributes are different and the configuration is valid, and still a
series is exposed twice. -/
theorem Engine.repeats_of_twins :
    Config.default.validate = .ok () ∧
      (Snapshot.twins.objects.map (·.name)).Pairwise (fun a b => a.sameObject b = false) ∧
      (∀ object ∈ Snapshot.twins.objects, (object.name.properties.map (·.1)).Nodup ∧
        ((object.descriptors.getD []).map (·.name)).Nodup) ∧
      ((create Config.default.settings (.since .zero)).collect Snapshot.twins.registry 0).2 =
        .ok Family.twins ∧
      ¬ (Family.twins.flatMap (·.samples)).Pairwise fun a b => ¬ a.Repeats b := by
  refine ⟨by decide +kernel, by decide +kernel, by decide +kernel, by decide +kernel, ?_⟩
  intro hp
  have hr : (Sample.unlabeled "crate_shard_size" .one).Repeats
      (.unlabeled "crate_shard_size" .zero) := ⟨rfl, fun label => .rfl⟩
  exact List.rel_of_pairwise_cons hp (by decide) hr

end BeanMetrics
