import BeanMetrics.Recorder.Handlers
import Mathlib.Data.List.Basic

/-!
What the handlers come to. Step by step they do what `Recorders.handle` says at once: a value that is
consumed leaves the state and hands over the emissions that are told there, and a value that is
declined or refused leaves everything as it was. The loops of the handlers go through the fields of a
record and through the records of a list and hand over what each of them gives, one after the other.
-/

namespace BeanMetrics

variable {σ : Type} [Sink σ]

theorem Sink.acceptAll_append (sink : σ) (first second : List Emission) :
    acceptAll sink (first ++ second) = acceptAll (acceptAll sink first) second :=
  List.foldl_append

theorem Sink.acceptAll_log (log emissions : List Emission) :
    acceptAll log emissions = log ++ emissions := by
  induction emissions generalizing log with
  | nil => exact (List.append_nil log).symm
  | cons e emissions ih => exact (ih (log ++ [e])).trans (List.append_assoc log [e] emissions)

def Desk.taking (desk : Desk σ) (emissions : List Emission) : Desk σ :=
  { desk with sink := Sink.acceptAll desk.sink emissions }

theorem Desk.taking_append (desk : Desk σ) (first second : List Emission) :
    desk.taking (first ++ second) = (desk.taking first).taking second := by
  rw [taking, Sink.acceptAll_append]
  rfl

/-! ### Laws of work -/

namespace Work

variable {α β : Type}

omit [Sink σ]

theorem perform_bind (work : Work σ α) (next : α → Work σ β) (desk : Desk σ) :
    (work >>= next).perform desk =
      match work.perform desk with
      | (.ok a, desk) => (next a).perform desk
      | (.error e, desk) => (.error e, desk) := by
  show ExceptT.bindCont next (work desk).1 (work desk).2 =
    match work desk with
    | (.ok a, desk) => (next a).perform desk
    | (.error e, desk) => (.error e, desk)
  obtain ⟨_ | _, _⟩ := work desk <;> rfl

theorem perform_bind_of_ok {work : Work σ α} {desk desk' : Desk σ} {a : α}
    (h : work.perform desk = (.ok a, desk')) (next : α → Work σ β) :
    (work >>= next).perform desk = (next a).perform desk' := by
  rw [perform_bind, h]

@[simp] theorem perform_learn_bind (update : NodeIdentity → NodeIdentity) (next : Unit → Work σ β)
    (desk : Desk σ) :
    (learn update >>= next).perform desk =
      (next ()).perform { desk with recorders := ⟨update desk.recorders.node⟩ } := rfl

variable [Sink σ]

/-- A loop whose every turn only hands over emissions hands over all of them, in order. -/
theorem perform_forIn {body : α → PUnit → Work σ (ForInStep PUnit)} {made : α → List Emission}
    (h : ∀ a desk, (body a ⟨⟩).perform desk = (.ok (.yield ⟨⟩), desk.taking (made a)))
    (as : List α) (desk : Desk σ) :
    (forIn as PUnit.unit body).perform desk = (.ok ⟨⟩, desk.taking (as.flatMap made)) := by
  induction as generalizing desk with
  | nil => rfl
  | cons a as ih =>
    rw [List.forIn_cons, perform_bind_of_ok (h a desk), List.flatMap_cons, Desk.taking_append]
    exact ih (desk.taking (made a))

theorem perform_forIn_filterMap {body : α → PUnit → Work σ (ForInStep PUnit)}
    {made? : α → Option Emission}
    (h : ∀ a desk, (body a ⟨⟩).perform desk = (.ok (.yield ⟨⟩), desk.taking (made? a).toList))
    (as : List α) (desk : Desk σ) :
    (forIn as PUnit.unit body).perform desk = (.ok ⟨⟩, desk.taking (as.filterMap made?)) := by
  rw [List.filterMap_eq_flatMap_toList]
  exact perform_forIn h as desk

end Work

/-! ### The loops over records -/

/-- One emission for each number of a record, in the order of the fields. -/
theorem CompositeRecord.map_numbers (made : String × Binary64 → Emission)
    (record : CompositeRecord) :
    record.numbers.map made =
      record.filterMap fun field => field.2.number?.map fun number => made (field.1, number) := by
  simp only [numbers, List.map_filterMap, Option.map_map]
  rfl

namespace Handlers

open Work

theorem perform_recordPool (metric help : String) (record : CompositeRecord) (desk : Desk σ) :
    (recordPool metric help record).perform desk =
      match Pool.emissions? metric help record with
      | some emissions => (.ok true, desk.taking emissions)
      | none => (.ok false, desk) := by
  unfold recordPool Pool.emissions? Pool.name?
  cases (KeyMap.get? "name" record).bind AttributeValue.string? with
  | none => rfl
  | some name =>
    simp only [Option.map_some, CompositeRecord.map_numbers]
    refine perform_bind_of_ok (perform_forIn_filterMap (fun field desk => ?_) record desk) _
    cases field.2.number? <;> rfl

theorem perform_recordShard (ns : String) (shard : CompositeRecord) (desk : Desk σ) :
    (recordShard ns shard).perform desk = (.ok (), desk.taking (NodeInfo.shardEmissions ns shard)) := by
  unfold recordShard NodeInfo.shardEmissions NodeInfo.measured
  simp only [CompositeRecord.map_numbers, List.filterMap_filter]
  refine perform_bind_of_ok (perform_forIn_filterMap (fun field desk => ?_) shard desk) _
  cases NodeInfo.shardLabels.any fun label => decide (label.1 = field.1) with
  | true => rfl
  | false => cases field.2.number? <;> rfl

theorem perform_introduceIfComplete (ns : String) (desk : Desk σ) :
    (introduceIfComplete ns).perform desk =
      (.ok (), ⟨⟨(NodeInfo.introduce ns desk.recorders.node).1⟩,
        Sink.acceptAll desk.sink (NodeInfo.introduce ns desk.recorders.node).2⟩) := by
  obtain ⟨⟨id, name, emitted⟩, sink⟩ := desk
  cases emitted with
  | true => rfl
  | false =>
    cases id with
    | none => rfl
    | some id => cases name <;> rfl

theorem perform_string_nodeInfo (ns attr value : String) (desk : Desk σ) :
    (nodeInfo.string ns attr value).perform desk =
      match (NodeInfo.learn? attr value desk.recorders.node).map (NodeInfo.introduce ns) with
      | some (node, emissions) => (.ok true, ⟨⟨node⟩, Sink.acceptAll desk.sink emissions⟩)
      | none => (.ok false, desk) := by
  unfold nodeInfo NodeInfo.learn?
  by_cases hid : NodeInfo.sameIgnoringCase attr "NodeId"
  · simp only [hid, if_true, perform_learn_bind]
    exact perform_bind_of_ok (perform_introduceIfComplete ns _) _
  · by_cases hname : NodeInfo.sameIgnoringCase attr "NodeName"
    · simp only [hid, hname, if_true, Bool.false_eq_true, if_false, perform_learn_bind]
      exact perform_bind_of_ok (perform_introduceIfComplete ns _) _
    · simp only [hid, hname, Bool.false_eq_true, if_false]
      rfl

end Handlers

/-! ### Handlers and verdicts -/

def Desk.outcome (desk : Desk σ) (recorder : Recorder) (attr : String) (form : ValueKind) :
    Verdict Recorded → Except RecorderError Bool × Desk σ
  | .consumed recorded =>
    (.ok true, ⟨recorded.recorders, Sink.acceptAll desk.sink recorded.emissions⟩)
  | .declined => (.ok false, desk)
  | .notImplemented => (.error ⟨recorder.kind, form, attr⟩, desk)

namespace Recorder

variable (ns attr : String) (payload : Payload) (desk : Desk σ)

theorem perform_call_pools {recorder : Recorder} {suffix help : String}
    (hh : (recorder.handlers : Handlers σ) = .pools recorder.kind suffix help) :
    (recorder.call ns attr payload).perform desk =
      desk.outcome recorder attr payload.kind
        ((Pool.record (ns ++ suffix) help payload).map (⟨desk.recorders, ·⟩)) := by
  cases payload with
  | composite record =>
    rw [call, hh]
    refine (Handlers.perform_recordPool (ns ++ suffix) help record desk).trans ?_
    show _ = desk.outcome recorder attr .composite
      ((Verdict.ofOption (Pool.emissions? (ns ++ suffix) help record)).map _)
    cases Pool.emissions? (ns ++ suffix) help record <;> rfl
  | _ =>
    rw [call, hh]
    rfl

theorem perform_call_connections :
    (connections.call ns attr payload).perform desk =
      desk.outcome connections attr payload.kind
        ((Connections.record ns attr payload).map (⟨desk.recorders, ·⟩)) := by
  cases payload with
  | number n =>
    show Work.perform (Handlers.connections.number ns attr n) desk = _
    unfold Handlers.connections Connections.record
    dsimp only
    cases Connections.decompose? attr <;> rfl
  | _ => rfl

theorem perform_call_queryStats :
    (queryStats.call ns attr payload).perform desk =
      desk.outcome queryStats attr payload.kind
        ((QueryStats.record ns attr payload).map (⟨desk.recorders, ·⟩)) := by
  cases payload with
  | number n =>
    show Work.perform (Handlers.queryStats.number ns attr n) desk = _
    unfold Handlers.queryStats QueryStats.record
    dsimp only
    cases QueryStats.decompose? attr <;> rfl
  | _ => rfl

theorem perform_call_nodeStatus :
    (nodeStatus.call ns attr payload).perform desk =
      desk.outcome nodeStatus attr payload.kind
        ((NodeStatus.record ns attr payload).map (⟨desk.recorders, ·⟩)) := by
  cases payload with
  | number n =>
    show Work.perform (Handlers.nodeStatus.number ns attr n) desk = _
    unfold Handlers.nodeStatus NodeStatus.record
    by_cases ha : attr = NodeStatus.readyAttribute
    · simp only [ha, ne_eq, not_true, if_true, if_false]
      rfl
    · simp only [ha, ne_eq, not_false_eq_true, if_true, if_false]
      rfl
  | _ => rfl

theorem perform_call_nodeInfo :
    (nodeInfo.call ns attr payload).perform desk =
      desk.outcome nodeInfo attr payload.kind (desk.recorders.handle nodeInfo ns attr payload) := by
  unfold Recorders.handle NodeInfo.record
  cases payload with
  | number n =>
    show Work.perform (Handlers.nodeInfo.number ns attr n) desk = _
    unfold Handlers.nodeInfo
    by_cases ha : attr = "ClusterStateVersion"
    · simp only [ha, ne_eq, not_true, if_true, if_false]
      rfl
    · simp only [ha, ne_eq, not_false_eq_true, if_true, if_false]
      rfl
  | string value =>
    refine (Handlers.perform_string_nodeInfo ns attr value desk).trans ?_
    show _ = desk.outcome nodeInfo attr .string ((Verdict.ofOption
      ((NodeInfo.learn? attr value desk.recorders.node).map (NodeInfo.introduce ns))).map _)
    cases (NodeInfo.learn? attr value desk.recorders.node).map (NodeInfo.introduce ns) <;> rfl
  | composite record =>
    show Work.perform (Handlers.nodeInfo.composite ns attr record) desk = _
    unfold Handlers.nodeInfo
    by_cases ha : attr = "ShardStats"
    · simp only [ha, ne_eq, not_true, if_true, if_false, NodeInfo.statisticsEmissions,
        CompositeRecord.map_numbers]
      refine Work.perform_bind_of_ok
        (Work.perform_forIn_filterMap (fun field desk => ?_) record desk) _
      cases field.2.number? <;> rfl
    · simp only [ha, ne_eq, not_false_eq_true, if_true, if_false]
      rfl
  | compositeArray shards =>
    show Work.perform (Handlers.nodeInfo.compositeArray ns attr shards) desk = _
    unfold Handlers.nodeInfo
    by_cases ha : attr = "ShardInfo"
    · simp only [ha, ne_eq, not_true, if_true, if_false]
      refine Work.perform_bind_of_ok (Work.perform_forIn (fun shard desk => ?_) shards desk) _
      exact Work.perform_bind_of_ok (Handlers.perform_recordShard ns shard desk) _
    · simp only [ha, ne_eq, not_false_eq_true, if_true, if_false]
      rfl

/-- Step by step a recorder does what its verdict says at once. -/
theorem perform_call (recorder : Recorder) (ns attr : String) (payload : Payload)
    (desk : Desk σ) :
    (recorder.call ns attr payload).perform desk =
      desk.outcome recorder attr payload.kind (desk.recorders.handle recorder ns attr payload) := by
  cases recorder with
  | circuitBreakers | threadPools => exact perform_call_pools ns attr payload desk rfl
  | connections => exact perform_call_connections ns attr payload desk
  | nodeInfo => exact perform_call_nodeInfo ns attr payload desk
  | nodeStatus => exact perform_call_nodeStatus ns attr payload desk
  | queryStats => exact perform_call_queryStats ns attr payload desk

end Recorder

namespace Desk

theorem perform_hand (desk : Desk σ) (recorder : Recorder) (ns attr : String) (payload : Payload) :
    (desk.perform (.hand recorder ns attr payload)).2 =
      (desk.outcome recorder attr payload.kind
        (desk.recorders.handle recorder ns attr payload)).2 := by
  rw [← Recorder.perform_call]
  rfl

theorem performAll_append (desk : Desk σ) (calls more : List Call) :
    (desk.performAll (calls ++ more)).2 = ((desk.performAll calls).2.performAll more).2 := by
  induction calls generalizing desk with
  | nil => rfl
  | cons call calls ih => exact ih (desk.perform call).2

/-! ### Values that are not consumed -/

variable {desk desk' : Desk σ} {recorder : Recorder} {ns attr : String} {payload : Payload}
  {answer : Except RecorderError Bool}

theorem exists_of_outcome {form : ValueKind} {verdict : Verdict Recorded}
    (h : desk.outcome recorder attr form verdict = (.ok true, desk')) :
    ∃ recorded, verdict = .consumed recorded ∧
      desk' = ⟨recorded.recorders, Sink.acceptAll desk.sink recorded.emissions⟩ := by
  cases verdict with
  | consumed recorded => exact ⟨recorded, rfl, (congrArg Prod.snd h).symm⟩
  | declined => cases congrArg Prod.fst h
  | notImplemented => cases congrArg Prod.fst h

theorem eq_of_outcome {form : ValueKind} {verdict : Verdict Recorded}
    (h : desk.outcome recorder attr form verdict = (answer, desk')) (hn : answer ≠ .ok true) :
    desk' = desk := by
  cases verdict with
  | consumed recorded => exact absurd (congrArg Prod.fst h).symm hn
  | declined => exact (congrArg Prod.snd h).symm
  | notImplemented => exact (congrArg Prod.snd h).symm

theorem outcome_of_perform
    (h : desk.perform (.hand recorder ns attr payload) = (some answer, desk')) :
    desk.outcome recorder attr payload.kind (desk.recorders.handle recorder ns attr payload) =
      (answer, desk') := by
  rw [← Recorder.perform_call]
  obtain ⟨ha, hd⟩ := Prod.mk.inj h
  exact Prod.ext (Option.some.inj ha) hd

/-- A value that a recorder consumes leaves the state and the emissions that its verdict says. A value
that it declines or refuses leaves the desk as it was, the state of the recorders and the sink alike;
so whatever is asked later is answered as if the value had never been handed over. -/
theorem trace_only_if_consumed
    (h : desk.perform (.hand recorder ns attr payload) = (some answer, desk')) :
    (answer = .ok true → ∃ recorded,
      desk.recorders.handle recorder ns attr payload = .consumed recorded ∧
        desk' = ⟨recorded.recorders, Sink.acceptAll desk.sink recorded.emissions⟩) ∧
    ((answer = .ok false ∨ ∃ violation, answer = .error violation) →
      desk' = desk ∧ ∀ calls, desk.performAll (.hand recorder ns attr payload :: calls) =
        (some answer :: (desk.performAll calls).1, (desk.performAll calls).2)) := by
  have ho := outcome_of_perform h
  constructor
  · rintro rfl
    exact exists_of_outcome ho
  · intro hn
    have hne : answer ≠ .ok true := by
      rintro rfl
      simp at hn
    have hsame : desk' = desk := eq_of_outcome ho hne
    refine ⟨hsame, fun calls => ?_⟩
    rw [performAll, h, hsame]

/-- The id of the node is known, its name is not, and the sink is not empty. -/
def midway : Desk FamilyMap :=
  ⟨⟨⟨some "n1", none, false⟩⟩, .ofEmissions [.gauge "Ready" (.unlabeled "crate_ready" .one)]⟩

/-- A pool that is declined for want of a name, although it has a number. -/
theorem trace_only_if_consumed_nameless :
    let call := Call.hand .threadPools "crate" "Search" (.composite [("active", .number .one)])
    midway.perform call = (some (.ok false), midway) ∧
      ∀ calls, midway.performAll (call :: calls) =
        (some (.ok false) :: (midway.performAll calls).1, (midway.performAll calls).2) := by
  intro call
  have h : midway.perform call = (some (.ok false), midway) := rfl
  exact ⟨h, ((trace_only_if_consumed h).2 (.inl rfl)).2⟩

end Desk
end BeanMetrics
