import BeanMetrics.Proofs.Collection.Isolation
import BeanMetrics.Proofs.Collection.Trace
import Mathlib.Data.List.Basic
import Mathlib.Data.List.Induction

/-!
What a pass leaves in the store. A pass that is not ended by a violation writes one entry for each of
its readings, in their order, and of several entries under one key the last one stays. Keys are made
by joining two names with a `_`; a key whose names have none themselves is the key of no other pair.
-/

namespace BeanMetrics
namespace Store

/-! ### Entries under a key -/

theorem lookup_setEntry (key : String) (value : AttributeValue)
    (entries : List (String × AttributeValue)) (k : String) :
    (setEntry key value entries).lookup k = if k = key then some value else entries.lookup k := by
  induction entries with
  | nil => rw [setEntry, KeyMap.lookup_cons_eq_ite]
  | cons entry rest ih =>
    obtain ⟨k', v⟩ := entry
    rw [setEntry]
    split
    · rename_i he
      subst he
      rw [KeyMap.lookup_cons_eq_ite, KeyMap.lookup_cons_eq_ite]
      split <;> rfl
    · rename_i he
      rw [KeyMap.lookup_cons_eq_ite, KeyMap.lookup_cons_eq_ite, ih]
      by_cases hk : k = k'
      · simp [hk, he]
      · simp [hk]

@[simp] theorem get?_put (s : Store) (key : String) (value : AttributeValue) (k : String) :
    (s.put key value).get? k = if k = key then some value else s.get? k :=
  lookup_setEntry key value s.entries k

def lastUnder (k : String) (writes : List (String × AttributeValue)) : Option AttributeValue :=
  (writes.filter (·.1 = k)).getLast?.map (·.2)

theorem lastUnder_concat (k : String) (writes : List (String × AttributeValue))
    (key : String) (value : AttributeValue) :
    lastUnder k (writes ++ [(key, value)]) = if k = key then some value else lastUnder k writes := by
  by_cases hk : k = key
  · simp [lastUnder, List.filter_append, hk]
  · simp [lastUnder, List.filter_append, hk, Ne.symm hk]

theorem lastUnder_append_cons_of_ne {k : String} {write : String × AttributeValue} (h : write.1 ≠ k)
    (front back : List (String × AttributeValue)) :
    lastUnder k (front ++ write :: back) = lastUnder k (front ++ back) := by
  simp [lastUnder, List.filter_append, h]

/-- Of several writes under one key the last one counts, and what was there before stays where
nothing is written. -/
theorem get?_putAll (s : Store) (writes : List (String × AttributeValue)) (k : String) :
    (s.putAll writes).get? k = (lastUnder k writes).or (s.get? k) := by
  -- from the right: the last write decides
  induction writes using List.reverseRecOn with
  | nil => simp [putAll, lastUnder]
  | append_singleton writes write ih =>
    obtain ⟨key, value⟩ := write
    have hp : s.putAll (writes ++ [(key, value)]) = (s.putAll writes).put key value := by
      simp [putAll]
    rw [hp, get?_put, ih, lastUnder_concat]
    by_cases hk : k = key <;> simp [hk]

/-! ### Keys -/

theorem toList_key (kind attr : String) : (key kind attr).toList = kind.toList ++ '_' :: attr.toList := by
  simp [key]

/-- A key can be taken apart in one way only if neither of its names has a `_`. -/
theorem key_eq_key_iff {kind attr kind' attr' : String} (hk : '_' ∉ kind'.toList)
    (ha : '_' ∉ attr'.toList) : key kind attr = key kind' attr' ↔ kind = kind' ∧ attr = attr' := by
  constructor
  · intro h
    have hl := congrArg String.toList h
    rw [toList_key, toList_key] at hl
    have hp := (List.append_cons_inj_of_notMem hk ha).mp hl.symm
    exact ⟨(String.toList_injective hp.1).symm, (String.toList_injective hp.2.2).symm⟩
  · rintro ⟨rfl, rfl⟩
    rfl

end Store

/-! ### What a pass writes -/

@[simp] theorem Effect.writes_append (a b : Effect) : (a ++ b).writes = a.writes ++ b.writes := rfl

namespace Pass

theorem writes_valueStep (s : Settings) (object : ObjectName) (d : AttributeDescriptor)
    (value : AttributeValue) (r : Recorders) :
    (valueStep s object d value r).effect.writes = [] := by
  unfold valueStep
  cases Recorder.ofKind? object.kind with
  | none => cases value <;> rfl
  | some recorder =>
    dsimp only
    cases r.record recorder s.namespaceName d.name value with
    | error violation => rfl
    | ok recorded => cases recorded <;> rfl

theorem writes_readingStep (s : Settings) (x : Reading) (r : Recorders) :
    (readingStep s x r).effect.writes = [x.entry] := by
  have hv := writes_valueStep s x.object x.descriptor x.value r
  rw [readingStep, Run.effect_andThen rfl, Effect.writes_append]
  dsimp only [Run.having]
  rw [hv]
  rfl

theorem writes_each_readingStep {s : Settings} {xs : List Reading} {r : Recorders}
    (h : (Run.each (fun x r => (readingStep s x r).uncounted) xs r).violation = none) :
    (Run.each (fun x r => (readingStep s x r).uncounted) xs r).effect.writes =
      xs.map Reading.entry := by
  induction xs generalizing r with
  | nil => rfl
  | cons x xs ih =>
    rw [Run.each] at h ⊢
    obtain ⟨hx, hxs⟩ := Run.violation_andThen_eq_none_iff.mp h
    have hw : (readingStep s x r).uncounted.effect.writes = [x.entry] := writes_readingStep s x r
    rw [Run.effect_andThen hx, Effect.writes_append, hw, ih hxs]
    rfl

theorem writes_run {s : Settings} {pattern : Option Pattern} {registry : Registry} {r : Recorders}
    (h : (run s pattern registry r).violation = none) :
    (run s pattern registry r).effect.writes = (readings registry pattern).map Reading.entry := by
  have hu := uncounted_run s pattern registry r
  have hv := congrArg Run.violation hu
  have hw := congrArg (·.effect.writes) hu
  have he := writes_each_readingStep (hv.symm.trans h)
  exact hw.trans he

end Pass

namespace Engine

theorem violation_of_collect {e : Engine} {registry : Registry} {nanos : Nat}
    {families : List Family} (h : (e.collect registry nanos).2 = .ok families) :
    (Pass.run e.settings e.pattern registry e.recorders).violation = none := by
  unfold collect at h
  cases hv : (Pass.run e.settings e.pattern registry e.recorders).violation with
  | none => rfl
  | some violation => simp [hv] at h

/-- What is found in the store after a pass: the value read last under the key, or what was there
before. -/
theorem get?_collect {e : Engine} {registry : Registry} {nanos : Nat} {families : List Family}
    (h : (e.collect registry nanos).2 = .ok families) (k : String) :
    (e.collect registry nanos).1.store.get? k =
      (Store.lastUnder k ((Pass.readings registry e.pattern).map Reading.entry)).or
        (e.store.get? k) := by
  rw [store_collect, Store.get?_putAll, writes, Pass.writes_run (violation_of_collect h)]

end Engine
end BeanMetrics
