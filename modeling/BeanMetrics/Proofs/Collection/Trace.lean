import BeanMetrics.Collection.Engine
import BeanMetrics.Proofs.Collection.Run

/-!
What a pass does, read off from the registry. The readings of a pass are the attributes that were
read and say something, objects in the order in which they match and attributes as their object
lists them. The trace is what they emit one after the other; the result of a pass depends on nothing
else.
-/

namespace BeanMetrics

/-- An attribute with the value that was read for it. -/
structure Reading where
  object : ObjectName
  descriptor : AttributeDescriptor
  value : AttributeValue
  deriving Inhabited, Repr

namespace Reading

/-- The number that is exported when there is no recorder: a boolean counts as one or zero. -/
def number? (x : Reading) : Option Binary64 :=
  match x.value with
  | .number n => some n
  | .boolean b => some (.ofBool b)
  | _ => none

/-- What comes of a reading when the recorders are in a given state: a new state and emissions,
nothing, or a violation. -/
def outcome (s : Settings) (r : Recorders) (x : Reading) :
    Except RecorderError (Option Recorded) :=
  match Recorder.ofKind? x.object.kind with
  | some recorder => r.record recorder s.namespaceName x.descriptor.name x.value
  | none => .ok (x.number?.map fun n => ⟨r, [Pass.fallbackEmission s x.object x.descriptor n]⟩)

def entry (x : Reading) : String × AttributeValue :=
  (Store.key x.object.kind x.descriptor.name, x.value)

end Reading

namespace Pass

/-- The reading of an attribute: none if it is not readable, cannot be read or says nothing. -/
def reading? (registry : Registry) (object : ObjectName) (d : AttributeDescriptor) :
    Option Reading :=
  if d.readable then
    match registry.read object d.name with
    | .ok value => if isVoid value then none else some ⟨object, d, value⟩
    | .error _ => none
  else none

def readingsOf (registry : Registry) (object : ObjectName) : List Reading :=
  match registry.describe object with
  | .ok descriptors => descriptors.filterMap (reading? registry object)
  | .error _ => []

def readings (registry : Registry) (pattern : Option Pattern) : List Reading :=
  (objects registry pattern).flatMap (readingsOf registry)

/-- What readings emit one after the other, or the first violation. -/
def trace (s : Settings) : Recorders → List Reading → Except RecorderError (List Emission)
  | _, [] => .ok []
  | r, x :: xs =>
    match x.outcome s r with
    | .ok (some recorded) => (trace s recorded.recorders xs).map (recorded.emissions ++ ·)
    | .ok none => trace s r xs
    | .error violation => .error violation

theorem exists_of_map_eq_ok {α β : Type} {f : α → β} {result : Except RecorderError α} {b : β}
    (h : result.map f = .ok b) : ∃ a, result = .ok a ∧ f a = b := by
  cases result with
  | error violation => cases h
  | ok a => exact ⟨a, rfl, Except.ok.inj h⟩

def readingStep (s : Settings) (x : Reading) (r : Recorders) : Run :=
  (Run.having (.write x.entry.1 x.entry.2) r).andThen (valueStep s x.object x.descriptor x.value)

/-! ### A pass as steps over its readings -/

theorem uncounted_attributeStep (s : Settings) (registry : Registry) (object : ObjectName)
    (d : AttributeDescriptor) (r : Recorders) :
    (attributeStep s registry object d r).uncounted =
      (reading? registry object d).elim (.having .none r) fun x => (readingStep s x r).uncounted := by
  by_cases hd : d.readable
  · cases hv : registry.read object d.name with
    | error e => simp [attributeStep, reading?, hd, hv]; rfl
    | ok value =>
      by_cases hw : isVoid value
      · simp [attributeStep, reading?, hd, hv, hw]; rfl
      · simp [attributeStep, reading?, hd, hv, hw, readingStep, Reading.entry]
  · simp [attributeStep, reading?, hd]; rfl

theorem uncounted_objectStep (s : Settings) (registry : Registry) (object : ObjectName)
    (r : Recorders) :
    (objectStep s registry object r).uncounted =
      Run.each (fun x r => (readingStep s x r).uncounted) (readingsOf registry object) r := by
  cases hd : registry.describe object with
  | error e => simp [objectStep, readingsOf, hd]; rfl
  | ok descriptors =>
    have hs : (fun d r => (attributeStep s registry object d r).uncounted) = fun d r =>
        (reading? registry object d).elim (.having .none r)
          fun x => (readingStep s x r).uncounted := by
      funext d r
      exact uncounted_attributeStep s registry object d r
    have he := Run.uncounted_each (attributeStep s registry object) descriptors
    have hc : (Run.having .oneObject r).uncounted = Run.having .none r := rfl
    simp only [objectStep, readingsOf, hd, Run.uncounted_andThen, he, hs, hc, Run.each_filterMap,
      Run.having_none_andThen]

/-- Up to its counts a pass is the steps over its readings. -/
theorem uncounted_run (s : Settings) (pattern : Option Pattern) (registry : Registry)
    (r : Recorders) :
    (run s pattern registry r).uncounted =
      Run.each (fun x r => (readingStep s x r).uncounted) (readings registry pattern) r.reset := by
  have hs : (fun object r => (objectStep s registry object r).uncounted) = fun object r =>
      Run.each (fun x r => (readingStep s x r).uncounted) (readingsOf registry object) r := by
    funext object r
    exact uncounted_objectStep s registry object r
  rw [run, Run.uncounted_each, hs, readings, Run.each_flatMap]

/-! ### The emissions of a pass -/

theorem uncounted_valueStep (s : Settings) (x : Reading) (r : Recorders) :
    (valueStep s x.object x.descriptor x.value r).uncounted =
      match x.outcome s r with
      | .ok (some recorded) => .having (.emit recorded.emissions) recorded.recorders
      | .ok none => .having .none r
      | .error violation => ⟨.none, r, some violation⟩ := by
  unfold valueStep Reading.outcome
  cases Recorder.ofKind? x.object.kind with
  | none => cases hv : x.value <;> simp [Reading.number?, hv, fallback] <;> rfl
  | some recorder =>
    dsimp only
    cases r.record recorder s.namespaceName x.descriptor.name x.value with
    | error violation => rfl
    | ok recorded => cases recorded <;> rfl

theorem result_each_readingStep (s : Settings) (xs : List Reading) (r : Recorders) :
    (Run.each (fun x r => (readingStep s x r).uncounted) xs r).result = trace s r xs := by
  induction xs generalizing r with
  | nil => rfl
  | cons x xs ih =>
    have hw : (Run.having (.write x.entry.1 x.entry.2) r).uncounted =
        Run.having (.write x.entry.1 x.entry.2) r := rfl
    rw [Run.each, readingStep, Run.uncounted_andThen, hw, Run.andThen_assoc,
      Run.result_having_andThen, uncounted_valueStep, trace]
    cases ho : x.outcome s r with
    | error violation => rfl
    | ok outcome =>
      cases outcome with
      | none =>
        rw [Run.result_having_andThen, ih]
        cases trace s r xs <;> rfl
      | some recorded =>
        dsimp only
        rw [Run.result_having_andThen, ih]
        cases trace s recorded.recorders xs <;> rfl

/-- A pass comes to the trace of its readings, whatever the recorders knew before. -/
theorem result_run (s : Settings) (pattern : Option Pattern) (registry : Registry)
    (r : Recorders) :
    (run s pattern registry r).result = trace s .initial (readings registry pattern) := by
  rw [← Run.result_uncounted, uncounted_run, result_each_readingStep, Recorders.reset_eq_initial]

end Pass
end BeanMetrics
