import BeanMetrics.Proofs.Collection.Exposure
import BeanMetrics.Proofs.Recorder.Identity

/-!
What each reading contributes to a pass. But for the parts of the node's identity, a reading makes the
same of itself whatever has been read before: the same emissions, or the same violation. So a pass
succeeds exactly if each of its readings does, its emissions are those of its readings and beside them
the identity, and without one reading it emits what it emits with it but for what is made of this one.
-/

namespace BeanMetrics
namespace Reading

def identityPart? (x : Reading) : Option IdentityPart :=
  match Recorder.ofKind? x.object.kind, x.value.payload? with
  | some recorder, some payload => recorder.identityPart? x.descriptor.name payload
  | _, _ => none

/-- Only strings of objects of the node's kind tell anything of the identity. -/
theorem of_identityPart? {x : Reading} {part : IdentityPart} (h : x.identityPart? = some part) :
    x.object.kind = "NodeInfo" ∧ ∃ text, x.value = .string text := by
  unfold identityPart? at h
  split at h
  · rename_i recorder payload hk hp
    unfold Recorder.identityPart? at h
    split at h
    · rename_i text
      have hf := List.find?_some hk
      rw [decide_eq_true_eq] at hf
      refine ⟨hf.symm, text, ?_⟩
      cases hv : x.value <;> simp_all [AttributeValue.payload?]
    · cases h
  · cases h

/-- What comes of a reading when nothing is known of the node: emissions, nothing, or a violation. -/
def own (s : Settings) (x : Reading) : Except RecorderError (Option (List Emission)) :=
  (x.outcome s .initial).map (Option.map Recorded.emissions)

def ownEmissions (s : Settings) (x : Reading) : List Emission :=
  match x.own s with
  | .ok (some emissions) => emissions
  | _ => []

theorem outcome_of_identityPart {x : Reading} {part : IdentityPart} (h : x.identityPart? = some part)
    (s : Settings) (r : Recorders) :
    x.outcome s r = .ok (some ⟨r.tell s.namespaceName part,
      NodeInfo.uttered s.namespaceName r.node part⟩) := by
  unfold identityPart? at h
  split at h
  · rename_i recorder payload hk hp
    unfold outcome Recorders.record
    rw [hk, hp]
    dsimp only
    rw [Recorders.handle_of_identityPart h r s.namespaceName]
  · cases h

theorem outcome_of_not_identityPart {x : Reading} (h : x.identityPart? = none) (s : Settings)
    (r : Recorders) : x.outcome s r = (x.own s).map (Option.map (Recorded.mk r)) := by
  unfold own outcome
  cases hk : Recorder.ofKind? x.object.kind with
  | none => cases hn : x.number? <;> rfl
  | some recorder =>
    dsimp only
    unfold Recorders.record
    cases hp : x.value.payload? with
    | none => rfl
    | some payload =>
      have hi : recorder.identityPart? x.descriptor.name payload = none := by
        simpa only [identityPart?, hk, hp] using h
      dsimp only
      rw [Recorders.handle_of_not_identityPart hi r]
      cases Recorders.initial.handle recorder s.namespaceName x.descriptor.name payload <;> rfl

theorem own_of_identityPart {x : Reading} {part : IdentityPart} (h : x.identityPart? = some part)
    (s : Settings) : x.own s = .ok (some []) := by
  rw [own, outcome_of_identityPart h]
  cases part <;> rfl

theorem ownEmissions_of_identityPart {x : Reading} {part : IdentityPart}
    (h : x.identityPart? = some part) (s : Settings) : x.ownEmissions s = [] := by
  rw [ownEmissions, own_of_identityPart h]

theorem exists_quantity_of_mem_ownEmissions {s : Settings} {x : Reading} {e : Emission}
    (h : e ∈ x.ownEmissions s) : ∃ q : Quantity, q.series? s.namespaceName = some e.sample.series := by
  cases hp : x.identityPart? with
  | some part => simp [ownEmissions_of_identityPart hp] at h
  | none =>
    unfold ownEmissions at h
    split at h
    · rename_i emissions ho
      have hr : x.outcome s .initial = .ok (some ⟨.initial, emissions⟩) := by
        rw [outcome_of_not_identityPart hp, ho]
        rfl
      obtain ⟨identity, own, he, hi, hq⟩ := accounts_of_outcome hr
      have hn : identity = [] := by
        cases hi' : identity.map (·.sample.series) with
        | nil => exact List.map_eq_nil_iff.mp hi'
        | cons a rest =>
          rw [hi'] at hi
          cases hi
      dsimp only at he
      rw [he, hn, List.nil_append] at h
      obtain ⟨q, -, hs⟩ := hq.exists_quantity h
      exact ⟨q, hs⟩
    · cases h

theorem labelNames_of_mem_ownEmissions {s : Settings} {x : Reading} {e : Emission}
    (h : e ∈ x.ownEmissions s) : e.sample.labels.map (·.1) ≠ ["id", "name"] := by
  obtain ⟨q, hq⟩ := exists_quantity_of_mem_ownEmissions h
  have hm : e.sample.labels.map (·.1) ∈ Quantity.labelNameLists := Quantity.labelNames_of_series? hq
  intro he
  rw [he] at hm
  exact absurd hm (by decide)

end Reading

namespace Pass

/-! ### One reading after another -/

theorem trace_cons_of_identityPart {s : Settings} {x : Reading} {part : IdentityPart}
    (h : x.identityPart? = some part) (r : Recorders) (xs : List Reading) :
    trace s r (x :: xs) = (trace s (r.tell s.namespaceName part) xs).map
      (NodeInfo.uttered s.namespaceName r.node part ++ ·) := by
  rw [trace, Reading.outcome_of_identityPart h]

theorem trace_cons_of_not_identityPart {s : Settings} {x : Reading} (h : x.identityPart? = none)
    (r : Recorders) (xs : List Reading) :
    trace s r (x :: xs) = (x.own s).bind fun _ => (trace s r xs).map (x.ownEmissions s ++ ·) := by
  rw [trace, Reading.outcome_of_not_identityPart h, Reading.ownEmissions]
  cases x.own s with
  | error violation => rfl
  | ok outcome =>
    cases outcome with
    | none => cases trace s r xs <;> rfl
    | some emissions => rfl

theorem isOk_map {α β : Type} (f : α → β) (result : Except RecorderError α) :
    (result.map f).isOk = result.isOk := by
  cases result <;> rfl

theorem trace_isOk_iff {s : Settings} {r : Recorders} {xs : List Reading} :
    (trace s r xs).isOk ↔ ∀ x ∈ xs, (x.own s).isOk := by
  induction xs generalizing r with
  | nil => simp [trace, Except.isOk, Except.toBool]
  | cons x xs ih =>
    rw [List.forall_mem_cons]
    cases hp : x.identityPart? with
    | some part =>
      have hx : (x.own s).isOk := by
        rw [Reading.own_of_identityPart hp]
        rfl
      rw [trace_cons_of_identityPart hp, isOk_map, ih]
      exact ⟨fun hxs => ⟨hx, hxs⟩, fun h => h.2⟩
    | none =>
      rw [trace_cons_of_not_identityPart hp]
      cases ho : x.own s with
      | error violation => simp [Except.bind, Except.isOk, Except.toBool]
      | ok outcome =>
        have hx : (Except.ok outcome : Except RecorderError _).isOk := rfl
        rw [Except.bind, isOk_map, ih]
        exact ⟨fun hxs => ⟨hx, hxs⟩, fun h => h.2⟩

/-- What the first reading of a successful pass does: it tells a part of the identity, or it emits its
own and leaves the recorders as they are. -/
theorem trace_cons_eq_ok {s : Settings} {r : Recorders} {x : Reading} {xs : List Reading}
    {emissions : List Emission} (h : trace s r (x :: xs) = .ok emissions) :
    (∃ part later, x.identityPart? = some part ∧
      trace s (r.tell s.namespaceName part) xs = .ok later ∧
      emissions = NodeInfo.uttered s.namespaceName r.node part ++ later) ∨
    (∃ outcome later, x.identityPart? = none ∧ x.own s = .ok outcome ∧ trace s r xs = .ok later ∧
      emissions = x.ownEmissions s ++ later) := by
  cases hp : x.identityPart? with
  | some part =>
    rw [trace_cons_of_identityPart hp] at h
    obtain ⟨later, hl, he⟩ := exists_of_map_eq_ok h
    exact .inl ⟨part, later, rfl, hl, he.symm⟩
  | none =>
    rw [trace_cons_of_not_identityPart hp] at h
    cases ho : x.own s with
    | error violation => simp [ho, Except.bind] at h
    | ok outcome =>
      rw [ho] at h
      obtain ⟨later, hl, he⟩ := exists_of_map_eq_ok h
      exact .inr ⟨outcome, later, rfl, rfl, hl, he.symm⟩

/-- The emissions of a pass are its readings' own and beside them the identity of the node. -/
theorem trace_perm {s : Settings} {r : Recorders} {xs : List Reading} {emissions : List Emission}
    (h : trace s r xs = .ok emissions) :
    emissions.Perm (NodeInfo.introductions s.namespaceName r.node (xs.filterMap Reading.identityPart?) ++
      xs.flatMap (Reading.ownEmissions s)) := by
  induction xs generalizing r emissions with
  | nil =>
    obtain rfl := Except.ok.inj h
    exact .refl _
  | cons x xs ih =>
    rw [List.flatMap_cons]
    rcases trace_cons_eq_ok h with ⟨part, later, hp, hl, rfl⟩ | ⟨-, later, hp, -, hl, rfl⟩
    · rw [List.filterMap_cons_some hp, NodeInfo.introductions, List.append_assoc,
        Reading.ownEmissions_of_identityPart hp, List.nil_append]
      exact (ih hl).append_left _
    · rw [List.filterMap_cons_none hp]
      exact ((ih hl).append_left _).trans (List.perm_append_comm_assoc _ _ _)

/-- Without a reading that tells nothing of the identity, everything else is emitted as it is with
it. -/
theorem trace_remove {s : Settings} {r : Recorders} {front back : List Reading} {x : Reading}
    {emissions : List Emission} (hx : x.identityPart? = none)
    (h : trace s r (front ++ x :: back) = .ok emissions) :
    ∃ before after, emissions = before ++ x.ownEmissions s ++ after ∧
      trace s r (front ++ back) = .ok (before ++ after) := by
  -- `x` leaves the recorders as they are, so what comes after it runs from the same state without it
  induction front generalizing r emissions with
  | nil =>
    rcases trace_cons_eq_ok h with ⟨part, later, hp, -, -⟩ | ⟨-, later, -, -, hl, rfl⟩
    · simp [hx] at hp
    · exact ⟨[], later, rfl, hl⟩
  | cons y front ih =>
    rcases trace_cons_eq_ok h with ⟨part, later, hp, hl, rfl⟩ | ⟨outcome, later, hp, ho, hl, rfl⟩
    · obtain ⟨before, after, rfl, ht⟩ := ih hl
      refine ⟨NodeInfo.uttered s.namespaceName r.node part ++ before, after, by simp, ?_⟩
      rw [List.cons_append, trace_cons_of_identityPart hp, ht]
      simp [Except.map]
    · obtain ⟨before, after, rfl, ht⟩ := ih hl
      refine ⟨y.ownEmissions s ++ before, after, by simp, ?_⟩
      rw [List.cons_append, trace_cons_of_not_identityPart hp, ho, ht]
      simp [Except.bind, Except.map]

/-! ### What the steps emit -/

theorem emissions_readingStep {x : Reading} (h : x.identityPart? = none) (s : Settings)
    (r : Recorders) : (readingStep s x r).effect.emissions = x.ownEmissions s := by
  have hv := congrArg (·.effect.emissions) (uncounted_valueStep s x r)
  have he : (readingStep s x r).effect.emissions =
      (valueStep s x.object x.descriptor x.value r).uncounted.effect.emissions := by
    rw [readingStep, Run.effect_andThen rfl]
    rfl
  rw [he, hv, Reading.outcome_of_not_identityPart h, Reading.ownEmissions]
  cases x.own s with
  | error violation => rfl
  | ok outcome => cases outcome <;> rfl

/-- An attribute that tells nothing of the identity emits the same whatever has been learnt before. -/
theorem emissions_attributeStep {registry : Registry} {object : ObjectName} {d : AttributeDescriptor}
    (h : ∀ x ∈ reading? registry object d, x.identityPart? = none) (s : Settings) (r : Recorders) :
    (attributeStep s registry object d r).effect.emissions =
      (reading? registry object d).elim [] (Reading.ownEmissions s) := by
  have hu := congrArg (·.effect.emissions) (uncounted_attributeStep s registry object d r)
  refine hu.trans ?_
  cases hx : reading? registry object d with
  | none => rfl
  | some x => exact emissions_readingStep (h x hx) s r

end Pass
end BeanMetrics
