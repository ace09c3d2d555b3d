import BeanMetrics.Collection.Engine
import BeanMetrics.Proofs.Collection.Contribution

/-!
What a pass counts. A step counts the same whatever the recorders remember, so the counts of a pass
without violation are the sums of what its objects count, one by one and each for itself.
-/

namespace BeanMetrics
namespace PassStats

def zero : PassStats := ⟨0, 0, 0⟩

def add (a b : PassStats) : PassStats :=
  ⟨a.objects + b.objects, a.attributeErrors + b.attributeErrors, a.valuesDropped + b.valuesDropped⟩

def total (counts : List PassStats) : PassStats := counts.foldr add zero

instance : LeftCommutative add where
  left_comm a b c := by simp only [add, PassStats.mk.injEq]; omega

theorem total_perm {counts counts' : List PassStats} (h : counts.Perm counts') :
    total counts = total counts' :=
  h.foldr_eq zero

end PassStats

namespace Engine

def counts (e : Engine) (registry : Registry) : PassStats :=
  passStats (Pass.run e.settings e.pattern registry e.recorders).effect

/-- A pass that succeeds is counted, and one that fails is not. -/
theorem telemetry_collect (e : Engine) (registry : Registry) (nanos : Nat) :
    (e.collect registry nanos).1.telemetry =
      match (e.collect registry nanos).2 with
      | .ok _ => e.telemetry.recordPass (e.counts registry) nanos
      | .error _ => e.telemetry := by
  dsimp only [collect, counts]
  cases (Pass.run e.settings e.pattern registry e.recorders).violation <;> rfl

theorem passStats_append (a b : Effect) :
    passStats (a ++ b) = (passStats a).add (passStats b) := rfl

end Engine

namespace Run

variable {α : Type}

/-- Two runs that end alike and count the same. -/
structure CountsAlike (run run' : Run) : Prop where
  violation : run.violation = run'.violation
  stats : Engine.passStats run.effect = Engine.passStats run'.effect

theorem CountsAlike.andThen {run run' : Run} {next next' : Recorders → Run}
    (h : CountsAlike run run') (hn : ∀ r r', CountsAlike (next r) (next' r')) :
    CountsAlike (run.andThen next) (run'.andThen next') := by
  obtain ⟨effect, r, violation⟩ := run
  obtain ⟨effect', r', violation'⟩ := run'
  obtain ⟨hv, hs⟩ := h
  dsimp only at hv hs
  subst hv
  cases violation with
  | some e => exact ⟨rfl, hs⟩
  | none =>
    refine ⟨(hn r r').violation, ?_⟩
    simp only [Run.andThen, Engine.passStats_append, hs, (hn r r').stats]

/-- A step that counts the same whatever the recorders remember. -/
def Uniform (step : α → Recorders → Run) : Prop := ∀ a r r', CountsAlike (step a r) (step a r')

theorem Uniform.each {step : α → Recorders → Run} (h : Uniform step) : Uniform (each step) := by
  intro as
  induction as with
  | nil => exact fun r r' => ⟨rfl, rfl⟩
  | cons a as ih => exact fun r r' => (h a r r').andThen ih

theorem Uniform.stats_each {step : α → Recorders → Run} (h : Uniform step) {as : List α}
    {r : Recorders} (hv : (Run.each step as r).violation = none) :
    Engine.passStats (Run.each step as r).effect =
      PassStats.total (as.map fun a => Engine.passStats (step a .initial).effect) := by
  induction as generalizing r with
  | nil => rfl
  | cons a as ih =>
    rw [Run.each] at hv ⊢
    obtain ⟨ha, has⟩ := violation_andThen_eq_none_iff.mp hv
    rw [effect_andThen ha, Engine.passStats_append, ih has, (h a r .initial).stats]
    rfl

end Run

namespace Pass

/-- Where there is a recorder, the step of a value is read off from its outcome. -/
theorem valueStep_of_ofKind? {x : Reading} {recorder : Recorder}
    (h : Recorder.ofKind? x.object.kind = some recorder) (s : Settings) (r : Recorders) :
    valueStep s x.object x.descriptor x.value r =
      match x.outcome s r with
      | .ok (some recorded) => .having (.emit recorded.emissions) recorded.recorders
      | .ok none => .having .oneDropped r
      | .error violation => ⟨.none, r, some violation⟩ := by
  unfold valueStep Reading.outcome
  rcases hr : r.record recorder s.namespaceName x.descriptor.name x.value with
    violation | (_ | recorded)
  all_goals simp only [h, hr]

theorem countsAlike_valueStep (s : Settings) (x : Reading) (r r' : Recorders) :
    (valueStep s x.object x.descriptor x.value r).CountsAlike
      (valueStep s x.object x.descriptor x.value r') := by
  cases hk : Recorder.ofKind? x.object.kind with
  | none =>
    unfold valueStep
    rw [hk]
    exact ⟨rfl, rfl⟩
  | some recorder =>
    rw [valueStep_of_ofKind? hk, valueStep_of_ofKind? hk]
    -- a part of the identity is consumed in every state, if not always with an emission
    cases hp : x.identityPart? with
    | some part =>
      rw [Reading.outcome_of_identityPart hp, Reading.outcome_of_identityPart hp]
      exact ⟨rfl, rfl⟩
    | none =>
      rw [Reading.outcome_of_not_identityPart hp, Reading.outcome_of_not_identityPart hp]
      cases x.own s with
      | error violation => exact ⟨rfl, rfl⟩
      | ok outcome => cases outcome <;> exact ⟨rfl, rfl⟩

theorem uniform_attributeStep (s : Settings) (registry : Registry) (object : ObjectName) :
    Run.Uniform (attributeStep s registry object) := by
  intro d r r'
  unfold attributeStep
  split
  · exact ⟨rfl, rfl⟩
  · split
    · exact ⟨rfl, rfl⟩
    · rename_i value hv
      split
      · exact ⟨rfl, rfl⟩
      · exact Run.CountsAlike.andThen ⟨rfl, rfl⟩ (countsAlike_valueStep s ⟨object, d, value⟩)

theorem uniform_objectStep (s : Settings) (registry : Registry) :
    Run.Uniform (objectStep s registry) := by
  intro object r r'
  unfold objectStep
  split
  · exact ⟨rfl, rfl⟩
  · exact Run.CountsAlike.andThen ⟨rfl, rfl⟩ ((uniform_attributeStep s registry object).each _)

theorem stats_run {s : Settings} {pattern : Option Pattern} {registry : Registry} {r : Recorders}
    (h : (run s pattern registry r).violation = none) :
    Engine.passStats (run s pattern registry r).effect =
      PassStats.total ((objects registry pattern).map fun object =>
        Engine.passStats (objectStep s registry object .initial).effect) :=
  (uniform_objectStep s registry).stats_each h

end Pass
end BeanMetrics
