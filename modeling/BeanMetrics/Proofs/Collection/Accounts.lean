import BeanMetrics.Proofs.Collection.Counts
import BeanMetrics.Proofs.Collection.Violation

/-!
What becomes of everything that a pass comes upon. Every object that matches can be described or not,
and every readable attribute of those that can be is unread, dropped, passed over or consumed; the
counts of a successful pass are how many of them there are. Over many passes the counters add up what
the successful ones count, and the others leave them as they are.
-/

namespace BeanMetrics
namespace Reading

/-- Whether a value is declined by its recorder, or has no recorder and is made of records. -/
def isDeclined (s : Settings) (x : Reading) : Bool :=
  match Recorder.ofKind? x.object.kind with
  | some recorder => recorder.answer s.namespaceName x.descriptor.name x.value = .ok false
  | none => x.value.kind = .composite || x.value.kind = .compositeArray

def isPassedOver (x : Reading) : Bool :=
  (Recorder.ofKind? x.object.kind).isNone && x.value.kind = .string

/-- Whether a value is consumed by its recorder, or has no recorder and is a number or a boolean. -/
def isConsumed (s : Settings) (x : Reading) : Bool :=
  match Recorder.ofKind? x.object.kind with
  | some recorder => recorder.answer s.namespaceName x.descriptor.name x.value = .ok true
  | none => x.value.kind = .number || x.value.kind = .boolean

/-- A reading that is no violation is declined, passed over or consumed. -/
theorem one_of_isOk_own {s : Settings} {x : Reading} (hx : ¬ Pass.isVoid x.value)
    (h : (x.own s).isOk) :
    (x.isDeclined s).toNat + x.isPassedOver.toNat + (x.isConsumed s).toNat = 1 := by
  unfold isDeclined isPassedOver isConsumed
  cases hk : Recorder.ofKind? x.object.kind with
  | none =>
    cases hv : x.value with
    | null | unsupported => simp [hv, Pass.isVoid] at hx
    | _ => simp [AttributeValue.kind]
  | some recorder =>
    have ha : recorder.answer s.namespaceName x.descriptor.name x.value =
        (x.outcome s .initial).map Option.isSome := by
      unfold outcome
      rw [hk]
      rfl
    rw [own, Pass.isOk_map] at h
    simp only [ha]
    cases ho : x.outcome s .initial with
    | error e => simp [ho, Except.isOk, Except.toBool] at h
    | ok outcome => cases outcome <;> simp [Except.map]

end Reading

namespace Pass

/-! ### Objects and attributes -/

section

variable (s : Settings) (registry : Registry)

def isDescribed (object : ObjectName) : Bool := (registry.describe object).isOk

def readable (names : List ObjectName) : List (ObjectName × AttributeDescriptor) :=
  names.flatMap fun object =>
    match registry.describe object with
    | .ok descriptors => (descriptors.filter (·.readable)).map (object, ·)
    | .error _ => []

def isUnread (a : ObjectName × AttributeDescriptor) : Bool :=
  match registry.read a.1 a.2.name with
  | .ok _ => false
  | .error _ => true

/-- Whether the value of an attribute says nothing or is declined. -/
def isDropped (a : ObjectName × AttributeDescriptor) : Bool :=
  match registry.read a.1 a.2.name with
  | .ok value => isVoid value || (Reading.mk a.1 a.2 value).isDeclined s
  | .error _ => false

def isPassedOver (a : ObjectName × AttributeDescriptor) : Bool :=
  match registry.read a.1 a.2.name with
  | .ok value => !isVoid value && (Reading.mk a.1 a.2 value).isPassedOver
  | .error _ => false

def isConsumed (a : ObjectName × AttributeDescriptor) : Bool :=
  match registry.read a.1 a.2.name with
  | .ok value => !isVoid value && (Reading.mk a.1 a.2 value).isConsumed s
  | .error _ => false

/-- How many objects are described, how many of them cannot be described and how many of their
attributes cannot be read, and how many values are dropped. -/
def account (names : List ObjectName) : PassStats where
  objects := names.countP (isDescribed registry)
  attributeErrors := names.countP (!isDescribed registry ·) +
    (readable registry names).countP (isUnread registry)
  valuesDropped := (readable registry names).countP (isDropped s registry)

end

variable {s : Settings} {registry : Registry}

/-! ### The counts of one pass -/

theorem passStats_valueStep (x : Reading) (r : Recorders) (hx : ¬ isVoid x.value) :
    Engine.passStats (valueStep s x.object x.descriptor x.value r).effect =
      ⟨0, 0, (x.isDeclined s).toNat⟩ := by
  unfold Reading.isDeclined valueStep
  cases hk : Recorder.ofKind? x.object.kind with
  | none =>
    cases hv : x.value with
    | null | unsupported => simp [hv, isVoid] at hx
    | _ => rfl
  | some recorder =>
    have ha := r.isSome_record recorder s.namespaceName x.descriptor.name x.value
    dsimp only
    rw [← ha]
    cases r.record recorder s.namespaceName x.descriptor.name x.value with
    | error violation => rfl
    | ok recorded => cases recorded <;> rfl

theorem passStats_write_append (key : String) (value : AttributeValue) (effect : Effect) :
    Engine.passStats (Effect.write key value ++ effect) = Engine.passStats effect := by
  rw [Engine.passStats_append]
  simp [Engine.passStats, Effect.write, Effect.none, PassStats.add]

theorem passStats_attributeStep {object : ObjectName} {d : AttributeDescriptor} (hd : d.readable)
    (r : Recorders) :
    Engine.passStats (attributeStep s registry object d r).effect =
      ⟨0, (isUnread registry (object, d)).toNat, (isDropped s registry (object, d)).toNat⟩ := by
  unfold attributeStep isUnread isDropped
  cases hv : registry.read object d.name with
  | error e =>
    simp only [hd]
    rfl
  | ok value =>
    by_cases hw : isVoid value
    · simp only [hd, hw]
      rfl
    · have hs := @passStats_valueStep s ⟨object, d, value⟩ r hw
      simp only [hd, hw]
      rw [if_neg (by decide), if_neg (by decide), Run.effect_andThen rfl]
      exact (passStats_write_append _ _ _).trans hs

theorem passStats_each_attributeStep {object : ObjectName} {descriptors : List AttributeDescriptor}
    {r : Recorders} (h : (Run.each (attributeStep s registry object) descriptors r).violation = none) :
    let attributes := (descriptors.filter (·.readable)).map (object, ·)
    Engine.passStats (Run.each (attributeStep s registry object) descriptors r).effect =
      ⟨0, attributes.countP (isUnread registry), attributes.countP (isDropped s registry)⟩ := by
  induction descriptors generalizing r with
  | nil => rfl
  | cons d descriptors ih =>
    rw [Run.each] at h ⊢
    obtain ⟨hd, hds⟩ := Run.violation_andThen_eq_none_iff.mp h
    dsimp only
    rw [Run.effect_andThen hd, Engine.passStats_append, ih hds]
    by_cases hr : d.readable
    · rw [passStats_attributeStep hr, List.filter_cons_of_pos (by simpa using hr), List.map_cons,
        List.countP_cons, List.countP_cons]
      simp only [PassStats.add, PassStats.mk.injEq]
      cases isUnread registry (object, d) <;> cases isDropped s registry (object, d) <;>
        simp [Nat.add_comm]
    · have hn : attributeStep s registry object d r = .having .none r := by simp [attributeStep, hr]
      rw [hn, List.filter_cons_of_neg (by simpa using hr)]
      simp [Run.having, Engine.passStats, Effect.none, PassStats.add]

theorem passStats_objectStep {object : ObjectName} {r : Recorders}
    (h : (objectStep s registry object r).violation = none) :
    Engine.passStats (objectStep s registry object r).effect = account s registry [object] := by
  unfold objectStep at h ⊢
  unfold account readable isDescribed
  cases hd : registry.describe object with
  | error e =>
    simp [hd, Except.isOk, Except.toBool, Run.having, Engine.passStats, Effect.oneError, Effect.none]
  | ok descriptors =>
    rw [hd] at h
    dsimp only at h ⊢
    have hv := (Run.violation_andThen_eq_none_iff.mp h).2
    rw [Run.effect_andThen rfl, Engine.passStats_append, passStats_each_attributeStep hv]
    simp [hd, Except.isOk, Except.toBool, Run.having, Engine.passStats, Effect.oneObject, Effect.none,
      PassStats.add]

theorem account_cons (s : Settings) (registry : Registry) (object : ObjectName)
    (names : List ObjectName) :
    account s registry (object :: names) =
      (account s registry [object]).add (account s registry names) := by
  simp only [account, readable, PassStats.add, List.flatMap_cons, List.flatMap_nil, List.append_nil,
    List.countP_append, List.countP_cons, List.countP_nil, PassStats.mk.injEq]
  exact ⟨by omega, by omega, trivial⟩

theorem passStats_each_objectStep {names : List ObjectName} {r : Recorders}
    (h : (Run.each (objectStep s registry) names r).violation = none) :
    Engine.passStats (Run.each (objectStep s registry) names r).effect = account s registry names := by
  induction names generalizing r with
  | nil => rfl
  | cons object names ih =>
    rw [Run.each] at h ⊢
    obtain ⟨ho, hos⟩ := Run.violation_andThen_eq_none_iff.mp h
    rw [Run.effect_andThen ho, Engine.passStats_append, passStats_objectStep ho, ih hos, ← account_cons]

end Pass

namespace Engine

/-- What a pass over a registry has to count. -/
def account (e : Engine) (registry : Registry) : PassStats :=
  Pass.account e.settings registry (Pass.objects registry e.pattern)

theorem counts_eq_account {e : Engine} {registry : Registry} {nanos : Nat} {families : List Family}
    (h : (e.collect registry nanos).2 = .ok families) : e.counts registry = e.account registry :=
  Pass.passStats_each_objectStep (violation_of_collect h)

end Engine

namespace Pass

/-! ### The fate of an attribute -/

theorem mem_readings_of_mem_readable {pattern : Option Pattern}
    {a : ObjectName × AttributeDescriptor} (ha : a ∈ readable registry (objects registry pattern))
    {value : AttributeValue} (hv : registry.read a.1 a.2.name = .ok value) (hw : ¬ isVoid value) :
    ⟨a.1, a.2, value⟩ ∈ readings registry pattern := by
  obtain ⟨object, ho, ha⟩ := List.mem_flatMap.mp ha
  refine List.mem_flatMap.mpr ⟨object, ho, ?_⟩
  unfold readingsOf
  cases hd : registry.describe object with
  | error e =>
    rw [hd] at ha
    cases ha
  | ok descriptors =>
    rw [hd] at ha
    obtain ⟨d, hm, rfl⟩ := List.mem_map.mp ha
    obtain ⟨hm, hr⟩ := List.mem_filter.mp hm
    exact List.mem_filterMap.mpr ⟨d, hm, reading?_eq_some_iff.mpr ⟨hr, value, hv, hw, rfl⟩⟩

/-- In a successful pass every attribute has one fate only. -/
theorem one_of_mem_readable {pattern : Option Pattern}
    (h : ∀ x ∈ readings registry pattern, (x.own s).isOk) {a : ObjectName × AttributeDescriptor}
    (ha : a ∈ readable registry (objects registry pattern)) :
    (isUnread registry a).toNat + (isDropped s registry a).toNat + (isPassedOver registry a).toNat +
      (isConsumed s registry a).toNat = 1 := by
  unfold isUnread isDropped isPassedOver isConsumed
  cases hv : registry.read a.1 a.2.name with
  | error e => rfl
  | ok value =>
    by_cases hw : isVoid value
    · simp [hw]
    · have ho := Reading.one_of_isOk_own hw (h _ (mem_readings_of_mem_readable ha hv hw))
      simpa [hw] using ho

end Pass

theorem length_eq_add_countP {α : Type} {p q r t : α → Bool} {as : List α}
    (h : ∀ a ∈ as, (p a).toNat + (q a).toNat + (r a).toNat + (t a).toNat = 1) :
    as.length = as.countP p + as.countP q + as.countP r + as.countP t := by
  induction as with
  | nil => rfl
  | cons a as ih =>
    obtain ⟨ha, has⟩ := List.forall_mem_cons.mp h
    have hl := ih has
    simp only [List.length_cons, List.countP_cons]
    cases hp : p a <;> cases hq : q a <;> cases hr : r a <;> cases ht : t a <;>
      simp [hp, hq, hr, ht] at ha ⊢ <;> omega

/-! ### Many passes -/

theorem Counter.toNat_add (c : Counter) (n : Nat) :
    (c.add n).value.toNat = (c.value.toNat + n) % UInt64.size := by
  simp [add, UInt64.toNat_add, UInt64.size]

/-- Telemetry that has gone on by the given counts of passes. Counters wrap around. -/
structure Telemetry.Counted (before after : Telemetry) (counts : List PassStats) : Prop where
  scrapes : after.scrapes.value.toNat =
    (before.scrapes.value.toNat + counts.length) % UInt64.size
  attributeErrors : after.attributeErrors.value.toNat =
    (before.attributeErrors.value.toNat + (PassStats.total counts).attributeErrors) % UInt64.size
  valuesDropped : after.valuesDropped.value.toNat =
    (before.valuesDropped.value.toNat + (PassStats.total counts).valuesDropped) % UInt64.size
  objectsScraped : after.objectsScraped =
    match counts.getLast? with
    | some last => .ofNat last.objects
    | none => before.objectsScraped

namespace Telemetry

theorem Counted.refl (t : Telemetry) : Counted t t [] where
  scrapes := (Nat.mod_eq_of_lt t.scrapes.value.toNat_lt_size).symm
  attributeErrors := (Nat.mod_eq_of_lt t.attributeErrors.value.toNat_lt_size).symm
  valuesDropped := (Nat.mod_eq_of_lt t.valuesDropped.value.toNat_lt_size).symm
  objectsScraped := rfl

theorem Counted.recordPass {t after : Telemetry} {counts : List PassStats} {stats : PassStats}
    {nanos : Nat} (h : Counted (t.recordPass stats nanos) after counts) :
    Counted t after (stats :: counts) where
  scrapes := by
    rw [h.scrapes, Telemetry.recordPass, Counter.increment, Counter.toNat_add, Nat.mod_add_mod,
      List.length_cons, Nat.add_assoc, Nat.add_comm 1]
  attributeErrors := by
    rw [h.attributeErrors, Telemetry.recordPass, Counter.toNat_add, Nat.mod_add_mod, Nat.add_assoc]
    rfl
  valuesDropped := by
    rw [h.valuesDropped, Telemetry.recordPass, Counter.toNat_add, Nat.mod_add_mod, Nat.add_assoc]
    rfl
  objectsScraped := by
    rw [h.objectsScraped]
    cases counts with
    | nil => rfl
    | cons next counts => rw [List.getLast?_cons_cons]; cases hl : (next :: counts).getLast? <;> simp_all

end Telemetry

namespace Engine

def successes (e : Engine) : List (Registry × Nat) → List Registry
  | [] => []
  | (registry, nanos) :: passes =>
    let (after, result) := e.collect registry nanos
    if result.isOk then registry :: after.successes passes else after.successes passes

def collectAll (e : Engine) (passes : List (Registry × Nat)) : Engine :=
  e.performAll (passes.map fun (registry, nanos) => .collect registry nanos)

theorem collectAll_cons (e : Engine) (registry : Registry) (nanos : Nat)
    (passes : List (Registry × Nat)) :
    e.collectAll ((registry, nanos) :: passes) = (e.collect registry nanos).1.collectAll passes := rfl

theorem account_eq_of_alike {e e' : Engine} (h : Alike e e') : e.account = e'.account := by
  funext registry
  rw [account, h.settings, h.pattern, ← account]

theorem counted_collectAll (e : Engine) (passes : List (Registry × Nat)) :
    e.telemetry.Counted (e.collectAll passes).telemetry ((e.successes passes).map e.account) := by
  induction passes generalizing e with
  | nil => exact .refl e.telemetry
  | cons pass passes ih =>
    obtain ⟨registry, nanos⟩ := pass
    have hi := ih (e.collect registry nanos).1
    rw [account_eq_of_alike (alike_collect e registry nanos), telemetry_collect] at hi
    rw [collectAll_cons, successes]
    cases hc : (e.collect registry nanos).2 with
    | error violation => simpa [hc, Except.isOk, Except.toBool] using hi
    | ok families =>
      rw [hc, counts_eq_account hc] at hi
      simpa [hc, Except.isOk, Except.toBool] using hi.recordPass

theorem isOk_of_mem_successes {e : Engine} {passes : List (Registry × Nat)} {registry : Registry}
    (h : registry ∈ e.successes passes) (nanos : Nat) : (e.collect registry nanos).2.isOk := by
  induction passes generalizing e with
  | nil => cases h
  | cons pass passes ih =>
    obtain ⟨first, duration⟩ := pass
    have ha := alike_collect e first duration
    have hrest (hm : registry ∈ (e.collect first duration).1.successes passes) :
        (e.collect registry nanos).2.isOk := by
      rw [← result_eq_of_alike ha registry nanos nanos]
      exact ih hm
    dsimp only [successes] at h
    split at h
    · rename_i hok
      rcases List.mem_cons.mp h with rfl | hm
      · rw [result_eq_of_alike (.refl e) registry nanos duration]
        exact hok
      · exact hrest hm
    · exact hrest h

/-- Over any passes the counters go on by what the successful ones have to count, and in each of these
nothing is lost sight of: an object that matches is described or is an error, and a readable attribute
of a described object is an error, or its value is dropped, passed over as a string without recorder,
or consumed. -/
theorem counted_and_accounted (e : Engine) (passes : List (Registry × Nat)) :
    e.telemetry.Counted (e.collectAll passes).telemetry ((e.successes passes).map e.account) ∧
      ∀ registry ∈ e.successes passes,
        let objects := Pass.objects registry e.pattern
        let attributes := Pass.readable registry objects
        objects.length = objects.countP (Pass.isDescribed registry) +
          objects.countP (!Pass.isDescribed registry ·) ∧
        attributes.length = attributes.countP (Pass.isUnread registry) +
          attributes.countP (Pass.isDropped e.settings registry) +
          attributes.countP (Pass.isPassedOver registry) +
          attributes.countP (Pass.isConsumed e.settings registry) := by
  refine ⟨counted_collectAll e passes, fun registry hm => ?_⟩
  have hok := isOk_collect.mp (isOk_of_mem_successes hm 0)
  refine ⟨?_, length_eq_add_countP fun a ha => Pass.one_of_mem_readable hok ha⟩
  simpa using List.length_eq_countP_add_countP (Pass.isDescribed registry)

end Engine

/-- Of five readable attributes one cannot be read, two are dropped, one is a string and one is
exported; the second object cannot be described. -/
def Snapshot.everyFate : Snapshot where
  objects :=
    [((((((SnapshotObject.named ⟨"io.crate.monitoring", [("type", "Cluster")]⟩).withFailingAttribute
      ⟨"Gone", "int", "", true⟩).withAttribute ⟨"Empty", "int", "", true⟩ .null).withAttribute
      ⟨"Shards", "composite", "", true⟩ (.composite [])).withAttribute
      ⟨"Name", "string", "", true⟩ (.string "blue")).withAttribute
      ⟨"Size", "int", "", true⟩ (.number (.ofNat 3))).withAttribute
      ⟨"Secret", "int", "", false⟩ (.number .one),
     (SnapshotObject.named ⟨"io.crate.monitoring", [("type", "Lost")]⟩).withoutDescriptors]
  unavailable := none

/-- Three passes, of which the second one fails, on a counter that is about to wrap around. -/
theorem Engine.counted_and_accounted_everyFate :
    let e := create .default { Telemetry.since .zero with scrapes := ⟨UInt64.ofNat (UInt64.size - 1)⟩ }
    let registry := Snapshot.everyFate.registry
    let passes := [(registry, 0), (Snapshot.twoViolations.registry, 0), (registry, 0)]
    let after := (e.collectAll passes).telemetry
    registry ∈ e.successes passes ∧ after.scrapes.value.toNat = 1 ∧
      after.attributeErrors.value.toNat = 4 ∧ after.valuesDropped.value.toNat = 4 ∧
      after.objectsScraped = .ofNat 1 ∧
      (Pass.readable registry (Pass.objects registry e.pattern)).length = 1 + 2 + 1 + 1 := by
  intro e registry passes after
  have hm : registry ∈ e.successes passes := .head _
  have hs : (e.successes passes).map e.account = [⟨1, 2, 2⟩, ⟨1, 2, 2⟩] := by rfl
  obtain ⟨hc, ha⟩ := counted_and_accounted e passes
  rw [hs] at hc
  exact ⟨hm, hc.scrapes.trans (by decide), hc.attributeErrors, hc.valuesDropped, hc.objectsScraped, (ha registry hm).2⟩

end BeanMetrics
