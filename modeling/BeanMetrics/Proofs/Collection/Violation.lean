import BeanMetrics.Proofs.Collection.Counts
import BeanMetrics.Proofs.Collection.Listing
import BeanMetrics.Proofs.Collection.StableGrouping
import BeanMetrics.Proofs.Collection.Writes
import BeanMetrics.Proofs.Recorder.Verdict

/-!
When a pass fails. It fails at the first reading that has a form which the recorder of its object does
not implement, and at nothing else; the error names this reading. Until then the store has received
every reading, and of the counts none has changed.
-/

namespace BeanMetrics
namespace Reading

/-- Whether a value has a form that the recorder of its object does not implement. Pools are told by
records only; connections, the status of the node and statements by anything but records. -/
def Violates (x : Reading) : Prop :=
  (x.object.kind ∈ ["CircuitBreakers", "ThreadPools"] ∧ x.value.kind ≠ .composite) ∨
    (x.object.kind ∈ ["Connections", "NodeStatus", "QueryStats"] ∧
      x.value.kind ∈ [ValueKind.composite, .compositeArray])

instance (x : Reading) : Decidable x.Violates := inferInstanceAs (Decidable (_ ∨ _))

def violation (x : Reading) : RecorderError := ⟨x.object.kind, x.value.form, x.descriptor.name⟩

theorem not_violates_of_ofKind?_eq_none {x : Reading} (h : Recorder.ofKind? x.object.kind = none) :
    ¬ x.Violates := by
  have hs : ∀ kind ∈ ["CircuitBreakers", "ThreadPools"] ++ ["Connections", "NodeStatus", "QueryStats"],
      Recorder.ofKind? kind ≠ none := by decide
  rintro (⟨hk, -⟩ | ⟨hk, -⟩)
  · exact hs _ (List.mem_append_left _ hk) h
  · exact hs _ (List.mem_append_right _ hk) h

/-- With a recorder, a value that says something is a violation if the recorder does not implement its
form. -/
theorem violates_iff_of_ofKind? {x : Reading} {recorder : Recorder}
    (h : Recorder.ofKind? x.object.kind = some recorder) {payload : Payload}
    (hp : x.value.payload? = some payload) :
    x.Violates ↔ x.value.form ∉ recorder.implemented := by
  obtain ⟨object, d, value⟩ := x
  have hk : recorder.kind = object.kind := Recorder.ofKind?_eq_some_iff.mp h
  dsimp only [Violates] at hp ⊢
  rw [← hk]
  cases value with
  | null | unsupported => cases hp
  | _ =>
    cases recorder <;>
      simp [Recorder.kind, NodeStatus.kind, Recorder.implemented, AttributeValue.form, AttributeValue.kind]

theorem exists_payload_of_not_isVoid {value : AttributeValue} (h : ¬ Pass.isVoid value) :
    ∃ payload, value.payload? = some payload := by
  cases value with
  | null | unsupported => exact absurd rfl h
  | _ => exact ⟨_, rfl⟩

/-- A reading that says something fails exactly if it is a violation, whatever has been learnt before,
and then with the report of this violation. -/
theorem outcome_eq_error_iff {x : Reading} (hx : ¬ Pass.isVoid x.value) {s : Settings} {r : Recorders}
    {e : RecorderError} : x.outcome s r = .error e ↔ x.Violates ∧ e = x.violation := by
  obtain ⟨payload, hp⟩ := exists_payload_of_not_isVoid hx
  unfold outcome
  cases hk : Recorder.ofKind? x.object.kind with
  | none => simp [not_violates_of_ofKind?_eq_none hk]
  | some recorder =>
    have hn : recorder.kind = x.object.kind := Recorder.ofKind?_eq_some_iff.mp hk
    dsimp only
    rw [Recorders.record_eq_error_iff hp, violates_iff_of_ofKind? hk hp, violation, hn]

theorem isOk_own_iff {x : Reading} (hx : ¬ Pass.isVoid x.value) {s : Settings} :
    (x.own s).isOk ↔ ¬ x.Violates := by
  rw [own, Pass.isOk_map]
  cases ho : x.outcome s .initial with
  | error e => simp [((outcome_eq_error_iff hx).mp ho).1, Except.isOk, Except.toBool]
  | ok outcome =>
    have hn : ¬ x.Violates := fun hv => by
      rw [(outcome_eq_error_iff hx).mpr ⟨hv, rfl⟩] at ho
      cases ho
    simp [hn, Except.isOk, Except.toBool]

end Reading

namespace Pass

theorem not_isVoid_of_mem_readings {registry : Registry} {pattern : Option Pattern} {x : Reading}
    (h : x ∈ readings registry pattern) : ¬ isVoid x.value := by
  obtain ⟨object, -, hx⟩ := List.mem_flatMap.mp h
  obtain ⟨d, hd⟩ := mem_readingsOf hx
  obtain ⟨-, value, -, hv, rfl⟩ := reading?_eq_some_iff.mp hd
  exact hv

theorem trace_of_violates {s : Settings} {r : Recorders} {before later : List Reading} {x : Reading}
    (hv : ∀ y ∈ before ++ x :: later, ¬ isVoid y.value) (hb : ∀ y ∈ before, ¬ y.Violates)
    (hx : x.Violates) : trace s r (before ++ x :: later) = .error x.violation := by
  induction before generalizing r with
  | nil =>
    have ho : x.outcome s r = .error x.violation :=
      (Reading.outcome_eq_error_iff (hv x (by simp))).mpr ⟨hx, rfl⟩
    rw [List.nil_append, trace, ho]
  | cons y before ih =>
    obtain ⟨hy, hvs⟩ := List.forall_mem_cons.mp hv
    obtain ⟨hny, hbs⟩ := List.forall_mem_cons.mp hb
    rw [List.cons_append, trace]
    cases ho : y.outcome s r with
    | error e => exact absurd ((Reading.outcome_eq_error_iff hy).mp ho).1 hny
    | ok outcome =>
      cases outcome with
      | none => exact ih hvs hbs
      | some recorded =>
        dsimp only
        rw [ih hvs hbs]
        rfl

/-! ### What is left behind -/

theorem violation_readingStep (s : Settings) (x : Reading) (r : Recorders) :
    (readingStep s x r).violation =
      match x.outcome s r with
      | .ok _ => none
      | .error e => some e := by
  have hv := congrArg Run.violation (uncounted_valueStep s x r)
  have hs : (readingStep s x r).violation =
      (valueStep s x.object x.descriptor x.value r).uncounted.violation := rfl
  rw [hs, hv]
  cases x.outcome s r with
  | error e => rfl
  | ok outcome => cases outcome <;> rfl

/-- Up to the first violation, and with it, every reading is stored. -/
theorem writes_each_of_violates {s : Settings} {r : Recorders} {before later : List Reading}
    {x : Reading} (hv : ∀ y ∈ before ++ x :: later, ¬ isVoid y.value)
    (hb : ∀ y ∈ before, ¬ y.Violates) (hx : x.Violates) :
    (Run.each (fun x r => (readingStep s x r).uncounted) (before ++ x :: later) r).effect.writes =
      (before ++ [x]).map Reading.entry := by
  induction before generalizing r with
  | nil =>
    have ho : x.outcome s r = .error x.violation :=
      (Reading.outcome_eq_error_iff (hv x (by simp))).mpr ⟨hx, rfl⟩
    have hr : (readingStep s x r).uncounted.violation = some x.violation := by
      show (readingStep s x r).violation = _
      rw [violation_readingStep, ho]
    rw [List.nil_append, Run.each, Run.andThen_of_violation hr]
    exact writes_readingStep s x r
  | cons y before ih =>
    obtain ⟨hy, hvs⟩ := List.forall_mem_cons.mp hv
    obtain ⟨hny, hbs⟩ := List.forall_mem_cons.mp hb
    have hr : (readingStep s y r).uncounted.violation = none := by
      show (readingStep s y r).violation = none
      rw [violation_readingStep]
      cases ho : y.outcome s r with
      | ok outcome => rfl
      | error e => exact absurd ((Reading.outcome_eq_error_iff hy).mp ho).1 hny
    have hw : (readingStep s y r).uncounted.effect.writes = [y.entry] := writes_readingStep s y r
    rw [List.cons_append, Run.each, Run.effect_andThen hr, Effect.writes_append, hw, ih hvs hbs]
    rfl

end Pass

namespace Engine

theorem isOk_collect_iff_not_violates {e : Engine} {registry : Registry} {nanos : Nat} :
    (e.collect registry nanos).2.isOk ↔ ∀ x ∈ Pass.readings registry e.pattern, ¬ x.Violates := by
  rw [isOk_collect]
  refine forall₂_congr fun x hx => ?_
  exact Reading.isOk_own_iff (Pass.not_isVoid_of_mem_readings hx)

theorem writes_of_violates {e : Engine} {registry : Registry} {before later : List Reading}
    {x : Reading} (h : Pass.readings registry e.pattern = before ++ x :: later)
    (hb : ∀ y ∈ before, ¬ y.Violates) (hx : x.Violates) :
    e.writes registry = (before ++ [x]).map Reading.entry := by
  have hv : ∀ y ∈ before ++ x :: later, ¬ Pass.isVoid y.value := fun y hy =>
    Pass.not_isVoid_of_mem_readings (h ▸ hy)
  have hu := congrArg (·.effect.writes) (Pass.uncounted_run e.settings e.pattern registry e.recorders)
  rw [h] at hu
  exact hu.trans (Pass.writes_each_of_violates hv hb hx)

/-- A pass fails exactly if one of its readings is a violation. The first one is reported; the store has
received the readings up to this one, and nothing has been counted. Objects that cannot be resolved or
described and attributes that cannot be read are no readings and never make a pass fail. -/
theorem collect_fails_iff (e : Engine) (registry : Registry) (nanos : Nat) :
    let xs := Pass.readings registry e.pattern
    let after := (e.collect registry nanos).1
    let result := (e.collect registry nanos).2
    ((∃ violation, result = .error violation) ↔ ∃ x ∈ xs, x.Violates) ∧
      (∀ before x later, xs = before ++ x :: later → (∀ y ∈ before, ¬ y.Violates) → x.Violates →
        result = .error x.violation ∧ after.telemetry = e.telemetry ∧
          e.writes registry = (before ++ [x]).map Reading.entry ∧
          after.store = e.store.putAll ((before ++ [x]).map Reading.entry)) ∧
      ((∀ pattern, e.pattern = some pattern → ∃ reason, registry.resolve pattern = .error reason) →
        result = .ok []) := by
  intro xs after result
  have hv : ∀ y ∈ xs, ¬ Pass.isVoid y.value := fun y hy => Pass.not_isVoid_of_mem_readings hy
  have hr : result = (Pass.trace e.settings .initial xs).map FamilyMap.grouping :=
    result_collect e registry nanos
  have hfirst : ∀ before x later, xs = before ++ x :: later → (∀ y ∈ before, ¬ y.Violates) →
      x.Violates → result = .error x.violation := by
    intro before x later hxs hb hx
    rw [hr, hxs, Pass.trace_of_violates (hxs ▸ hv) hb hx]
    rfl
  have hok : result.isOk ↔ ∀ x ∈ xs, ¬ x.Violates := isOk_collect_iff_not_violates
  refine ⟨?_, ?_, ?_⟩
  · cases he : result with
    | error violation => simpa [he, Except.isOk, Except.toBool] using hok
    | ok families => simpa [he, Except.isOk, Except.toBool] using hok
  · intro before x later hxs hb hx
    have he := hfirst before x later hxs hb hx
    have hw := writes_of_violates hxs hb hx
    refine ⟨he, ?_, hw, ?_⟩
    · rw [show after = (e.collect registry nanos).1 from rfl, telemetry_collect,
        show (e.collect registry nanos).2 = _ from he]
    · rw [← hw]
      exact store_collect e registry nanos
  · intro hn
    have ho : Pass.objects registry e.pattern = [] := by
      cases hp : e.pattern with
      | none => rfl
      | some pattern =>
        obtain ⟨reason, he⟩ := hn pattern hp
        simp only [Pass.objects, he]
    have hxs : xs = [] := by
      show (Pass.objects registry e.pattern).flatMap _ = []
      rw [ho]
      rfl
    rw [hr, hxs, Pass.trace, Except.map, ← FamilyMap.families_ofEmissions]
    rfl

end Engine

/-- A flag, an object that cannot be described, and then two objects with attributes that their recorders
do not implement. -/
def Snapshot.twoViolations : Snapshot where
  objects :=
    [(SnapshotObject.named ⟨"io.crate.monitoring", [("type", "NodeStatus")]⟩).withAttribute
      ⟨"Ready", "boolean", "", true⟩ (.boolean true),
     (SnapshotObject.named ⟨"io.crate.monitoring", [("type", "Cluster")]⟩).withoutDescriptors,
     (SnapshotObject.named ⟨"io.crate.monitoring", [("type", "ThreadPools")]⟩).withAttribute
      ⟨"Search", "boolean", "", true⟩ (.boolean false),
     (SnapshotObject.named ⟨"io.crate.monitoring", [("type", "QueryStats")]⟩).withAttribute
      ⟨"SelectQueryFrequency", "composite", "", true⟩ (.composite [])]
  unavailable := none

theorem Engine.collect_fails_iff_twoViolations :
    let e := create .default (.since .zero)
    let result := e.collect Snapshot.twoViolations.registry 0
    result.2 = .error ⟨"ThreadPools", .number, "Search"⟩ ∧ result.1.telemetry = e.telemetry ∧
      e.writes Snapshot.twoViolations.registry =
        [("NodeStatus_Ready", .boolean true), ("ThreadPools_Search", .boolean false)] := by
  intro e result
  have hxs : Pass.readings Snapshot.twoViolations.registry e.pattern =
      [⟨⟨"io.crate.monitoring", [("type", "NodeStatus")]⟩, ⟨"Ready", "boolean", "", true⟩,
        .boolean true⟩] ++
      ⟨⟨"io.crate.monitoring", [("type", "ThreadPools")]⟩, ⟨"Search", "boolean", "", true⟩,
        .boolean false⟩ ::
      [⟨⟨"io.crate.monitoring", [("type", "QueryStats")]⟩,
        ⟨"SelectQueryFrequency", "composite", "", true⟩, .composite []⟩] := by
    rfl
  obtain ⟨-, hfirst, -⟩ := collect_fails_iff e Snapshot.twoViolations.registry 0
  obtain ⟨he, ht, hw, -⟩ := hfirst _ _ _ hxs (by decide) (by decide)
  exact ⟨he, ht, hw⟩

end BeanMetrics
