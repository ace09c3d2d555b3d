import BeanMetrics.Proofs.Collection.Trace
import BeanMetrics.Proofs.Recorder.Exposure

/-!
What a pass exposes. Its emissions are samples of the quantities of its readings, one of each, and
beside them at most once the identity of the node.
-/

namespace BeanMetrics

/-- What comes of a value are samples of the quantities; nothing comes of it if there are none. -/
def Recorders.Accounts (ns : String) (r : Recorders) (qs : List Quantity) : Option Recorded → Prop
  | some recorded => recorded.Exposes ns r qs
  | none => qs = []

theorem Recorders.accounts_of_record {ns : String} {r : Recorders} {recorder : Recorder}
    {attr : String} {value : AttributeValue} {outcome : Option Recorded}
    (h : r.record recorder ns attr value = .ok outcome) :
    r.Accounts ns (value.payload?.elim [] (recorder.quantities attr)) outcome := by
  unfold record at h
  cases hp : value.payload? with
  | none =>
    rw [hp] at h
    obtain rfl := Except.ok.inj h
    rfl
  | some payload =>
    have hh := r.exposes_handle recorder ns attr payload
    rw [hp] at h
    dsimp only at h
    cases hv : r.handle recorder ns attr payload with
    | consumed recorded =>
      rw [hv] at h hh
      obtain rfl := Except.ok.inj h
      exact hh
    | declined =>
      rw [hv] at h hh
      obtain rfl := Except.ok.inj h
      exact hh
    | notImplemented => simp [hv] at h

namespace Reading

/-- What is measured in a reading: by its recorder, or under the name that is made for it. -/
def quantities (s : Settings) (x : Reading) : List Quantity :=
  match Recorder.ofKind? x.object.kind with
  | some recorder => x.value.payload?.elim [] (recorder.quantities x.descriptor.name)
  | none =>
    match x.number? with
    | some _ => [.unrecorded (Pass.fallbackName s x.object x.descriptor)]
    | none => []

theorem accounts_of_outcome {s : Settings} {r : Recorders} {x : Reading}
    {outcome : Option Recorded} (h : x.outcome s r = .ok outcome) :
    r.Accounts s.namespaceName (x.quantities s) outcome := by
  unfold Reading.outcome at h
  unfold quantities
  cases hk : Recorder.ofKind? x.object.kind with
  | some recorder =>
    rw [hk] at h
    exact Recorders.accounts_of_record h
  | none =>
    rw [hk] at h
    obtain rfl := Except.ok.inj h
    cases hn : x.number? with
    | none => rfl
    | some n => exact ⟨[], _, rfl, .nothing _, Exposed.singleton rfl⟩

end Reading

theorem Pass.exposed_trace {s : Settings} {r : Recorders} {xs : List Reading}
    {emissions : List Emission} (h : trace s r xs = .ok emissions) :
    ∃ identity own emitted, emissions.Perm (identity ++ own) ∧
      Introduces s.namespaceName r.node.emitted emitted (identity.map (·.sample.series)) ∧
      Exposed s.namespaceName (xs.flatMap (Reading.quantities s)) own := by
  induction xs generalizing r emissions with
  | nil =>
    obtain rfl := Except.ok.inj h
    exact ⟨[], [], _, .refl _, .nothing _, rfl⟩
  | cons x xs ih =>
    rw [trace] at h
    cases ho : x.outcome s r with
    | error violation => simp [ho] at h
    | ok outcome =>
      have hx := Reading.accounts_of_outcome ho
      rw [ho] at h
      cases outcome with
      | none =>
        have hn : x.quantities s = [] := hx
        rw [List.flatMap_cons, hn]
        exact ih h
      | some recorded =>
        cases ht : trace s recorded.recorders xs with
        | error violation => simp [ht, Except.map] at h
        | ok later =>
          obtain ⟨identity, own, he, hi, hq⟩ := hx
          obtain ⟨identity', own', emitted, hp, hi', hq'⟩ := ih ht
          have hm : recorded.emissions ++ later = emissions := by
            simpa [ht, Except.map] using h
          refine ⟨identity ++ identity', own ++ own', emitted, ?_, ?_, ?_⟩
          · rw [← hm, he, List.append_assoc, List.append_assoc]
            refine .append_left identity ?_
            exact (hp.append_left own).trans (List.perm_append_comm_assoc own identity' own')
          · rw [List.map_append]
            exact hi.append hi'
          · rw [List.flatMap_cons]
            exact hq.append hq'

theorem Pass.labelNames_of_trace {s : Settings} {r : Recorders} {xs : List Reading}
    {emissions : List Emission} (h : trace s r xs = .ok emissions) :
    ∀ e ∈ emissions, e.sample.series.labelNames ∈ ["id", "name"] :: Quantity.labelNameLists := by
  obtain ⟨identity, own, emitted, hp, hi, hq⟩ := exposed_trace h
  intro e he
  rcases List.mem_append.mp (hp.mem_iff.mp he) with hm | hm
  · obtain ⟨id, name, hs⟩ := hi.eq_identitySeries (List.mem_map_of_mem hm)
    rw [hs]
    exact List.mem_cons_self
  · obtain ⟨q, -, hs⟩ := hq.exists_quantity hm
    exact List.mem_cons_of_mem _ (Quantity.labelNames_of_series? hs)

/-- No sample of a pass has two labels of one name. -/
theorem Pass.nodup_labelNames_of_trace {s : Settings} {r : Recorders} {xs : List Reading}
    {emissions : List Emission} (h : trace s r xs = .ok emissions) :
    ∀ e ∈ emissions, e.sample.series.labelNames.Nodup := by
  have hd : ∀ names ∈ ["id", "name"] :: Quantity.labelNameLists, names.Nodup := by decide
  exact fun e he => hd _ (labelNames_of_trace h e he)

end BeanMetrics
