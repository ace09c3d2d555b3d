import BeanMetrics.Proofs.Collection.Writes
import BeanMetrics.Service.Basic

/-!
What decides whether the node is ready. The answer to a request for readiness is settled by the flag
that the pass of this request reads last; what the store held before has no part in it, and neither
has any other attribute, as no other one is kept under the key of the flag.
-/

namespace BeanMetrics

def Reading.isReadyFlag (x : Reading) : Bool :=
  x.object.primary? = some NodeStatus.kind && x.descriptor.name = NodeStatus.readyAttribute

/-- The flag as it is read last in a pass, if it is read. -/
def Pass.readyFlag? (registry : Registry) (pattern : Option Pattern) : Option AttributeValue :=
  ((readings registry pattern).filter Reading.isReadyFlag).getLast?.map (·.value)

theorem ObjectName.kind_eq_iff {name : ObjectName} {kind : String} (h : kind ≠ "") :
    name.kind = kind ↔ name.primary? = some kind := by
  unfold ObjectName.kind
  cases name.primary? with
  | none => simp [Ne.symm h]
  | some value => simp

namespace Reading

/-- Nothing else is kept under the key of the flag. -/
theorem key_eq_readyKey_iff (x : Reading) : x.entry.1 = Store.readyKey ↔ x.isReadyFlag := by
  have hk : '_' ∉ NodeStatus.kind.toList := by decide
  have ha : '_' ∉ NodeStatus.readyAttribute.toList := by decide
  have hn : NodeStatus.kind ≠ "" := by decide
  rw [entry, Store.readyKey, Store.key_eq_key_iff hk ha, ObjectName.kind_eq_iff hn]
  simp [isReadyFlag]

theorem lastUnder_readyKey (xs : List Reading) :
    Store.lastUnder Store.readyKey (xs.map entry) =
      (xs.filter isReadyFlag).getLast?.map (·.value) := by
  have hf : (xs.map entry).filter (·.1 = Store.readyKey) = (xs.filter isReadyFlag).map entry := by
    rw [List.filter_map]
    congr 1
    refine List.filter_congr fun x _ => ?_
    rw [Bool.eq_iff_iff]
    exact decide_eq_true_iff.trans (key_eq_readyKey_iff x)
  rw [Store.lastUnder, hf, List.getLast?_map, Option.map_map]
  rfl

end Reading

/-- What a pass leaves under the key of the flag: the flag, or what was there if it is not read. -/
theorem Engine.get?_readyKey_collect {e : Engine} {registry : Registry} {nanos : Nat}
    {families : List Family} (h : (e.collect registry nanos).2 = .ok families) :
    (e.collect registry nanos).1.store.get? Store.readyKey =
      (Pass.readyFlag? registry e.pattern).or (e.store.get? Store.readyKey) := by
  rw [get?_collect h, Reading.lastUnder_readyKey, Pass.readyFlag?]

namespace Service

def observed (s : Service) : Registry :=
  match s.engine.pattern with
  | none => Snapshot.empty.registry
  | some pattern => (s.source.snapshot pattern).2.registry

theorem engine_scrape (s : Service) (nanos : Nat) :
    (s.scrape nanos).1.engine = (s.engine.collect s.observed nanos).1 := by
  unfold scrape Engine.scrape observed
  cases s.engine.pattern <;> rfl

theorem result_scrape (s : Service) (nanos : Nat) :
    (s.scrape nanos).2 = (s.engine.collect s.observed nanos).2 := by
  unfold scrape Engine.scrape observed
  cases s.engine.pattern <;> rfl

@[simp] theorem observed_resetStore (s : Service) : s.resetStore.observed = s.observed := rfl

/-- Emptying the store does not change what a pass comes to. -/
theorem result_scrape_resetStore (s : Service) (nanos : Nat) :
    (s.resetStore.scrape nanos).2 = (s.engine.collect s.observed nanos).2 := by
  have ha : Engine.Alike s.resetStore.engine s.engine := ⟨rfl, rfl⟩
  rw [result_scrape, observed_resetStore]
  exact Engine.result_eq_of_alike ha s.observed nanos nanos

theorem ready_of_error {s : Service} {nanos : Nat} {violation : RecorderError}
    (h : (s.resetStore.scrape nanos).2 = .error violation) : (s.ready nanos).2 = .bare 500 := by
  unfold ready
  generalize s.resetStore.scrape nanos = made at h
  obtain ⟨after, result⟩ := made
  obtain rfl : result = .error violation := h
  rfl

theorem ready_of_ok {s : Service} {nanos : Nat} {families : List Family}
    (h : (s.resetStore.scrape nanos).2 = .ok families) :
    (s.ready nanos).2 = .bare (s.resetStore.scrape nanos).1.readiness := by
  unfold ready
  generalize s.resetStore.scrape nanos = made at h
  obtain ⟨after, result⟩ := made
  obtain rfl : result = .ok families := h
  rfl

/-- With nothing in the store at first, the store tells only what the pass has read. -/
theorem readiness_scrape_resetStore {s : Service} {nanos : Nat} {families : List Family}
    (h : (s.resetStore.scrape nanos).2 = .ok families) :
    (s.resetStore.scrape nanos).1.readiness =
      readyStatus (Pass.readyFlag? s.observed s.engine.pattern) := by
  rw [result_scrape] at h
  have hf := Engine.get?_readyKey_collect h
  have he : s.resetStore.engine.store.get? Store.readyKey = none := rfl
  rw [he, Option.or_none] at hf
  rw [readiness, engine_scrape, hf]
  rfl

/-- The status of the answer to a request for readiness, whatever the store holds and whatever the
source is: 500 exactly if the pass ends with a violation, and else as the flag says that the pass has
read last. -/
theorem status_ready (s : Service) (nanos : Nat) :
    ((s.ready nanos).2.status =
      match (s.engine.collect s.observed nanos).2, Pass.readyFlag? s.observed s.engine.pattern with
      | .error _, _ => 500
      | .ok _, some (.boolean true) => 200
      | .ok _, some (.boolean false) => 503
      | .ok _, _ => 501) ∧
    ((s.ready nanos).2.status = 500 ↔
      ∃ violation, (s.engine.collect s.observed nanos).2 = .error violation) := by
  have hr := result_scrape_resetStore s nanos
  cases hc : (s.engine.collect s.observed nanos).2 with
  | error violation =>
    rw [ready_of_error (hr.trans hc)]
    exact ⟨rfl, fun _ => ⟨violation, rfl⟩, fun _ => rfl⟩
  | ok families =>
    have ho := hr.trans hc
    rw [ready_of_ok ho, Response.bare, readiness_scrape_resetStore ho]
    generalize Pass.readyFlag? s.observed s.engine.pattern = flag
    have hne : readyStatus flag ≠ 500 := by
      unfold readyStatus
      split <;> decide
    refine ⟨?_, fun h => absurd h hne, fun ⟨violation, h⟩ => nomatch h⟩
    cases flag with
    | none => rfl
    | some value =>
      cases value with
      | boolean b => cases b <;> rfl
      | _ => rfl

end Service
end BeanMetrics
