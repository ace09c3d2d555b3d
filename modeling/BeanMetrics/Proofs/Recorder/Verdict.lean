import BeanMetrics.Proofs.Recorder.Identity

/-!
How a recorder answers. Which of its three answers a value gets, consumed, declined or not
implemented, does not depend on what has been learnt before; and whether it is implemented at all
depends only on the recorder and on the form in which the value is handed over.
-/

namespace BeanMetrics

/-- The form in which a value is handed to a recorder: a boolean is handed over as a number. -/
def AttributeValue.form : AttributeValue → ValueKind
  | .boolean _ => .number
  | value => value.kind

theorem AttributeValue.form_of_payload? {value : AttributeValue} {payload : Payload}
    (h : value.payload? = some payload) : value.form = payload.kind := by
  cases value with
  | null | unsupported => cases h
  | _ =>
    obtain rfl := Option.some.inj h
    rfl

/-- The forms of values that a recorder implements. -/
def Recorder.implemented : Recorder → List ValueKind
  | .circuitBreakers | .threadPools => [.composite]
  | .connections | .nodeStatus | .queryStats => [.number, .string]
  | .nodeInfo => [.number, .string, .composite, .compositeArray]

namespace Verdict

@[simp] theorem ofOption_ne_notImplemented {α : Type} (result : Option α) :
    ofOption result ≠ .notImplemented := by
  cases result <;> simp [ofOption]

@[simp] theorem map_eq_notImplemented_iff {α β : Type} {f : α → β} {verdict : Verdict α} :
    verdict.map f = .notImplemented ↔ verdict = .notImplemented := by
  cases verdict <;> simp [map]

end Verdict

namespace Recorders

variable {r : Recorders} {recorder : Recorder} {ns attr : String} {value : AttributeValue}

theorem handle_eq_notImplemented_iff {payload : Payload} :
    r.handle recorder ns attr payload = .notImplemented ↔ payload.kind ∉ recorder.implemented := by
  cases recorder with
  | circuitBreakers | threadPools =>
    rw [handle, Verdict.map_eq_notImplemented_iff]
    cases payload <;>
      simp [Pool.recordBreakers, Pool.recordThreads, Pool.record, Payload.kind, Recorder.implemented]
  | connections =>
    rw [handle, Verdict.map_eq_notImplemented_iff]
    cases payload <;> simp [Connections.record, Payload.kind, Recorder.implemented]
  | queryStats =>
    rw [handle, Verdict.map_eq_notImplemented_iff]
    cases payload <;> simp [QueryStats.record, Payload.kind, Recorder.implemented]
  | nodeStatus =>
    rw [handle, Verdict.map_eq_notImplemented_iff]
    cases payload with
    | number n =>
      by_cases ha : attr = NodeStatus.readyAttribute <;>
        simp [NodeStatus.record, ha, Payload.kind, Recorder.implemented]
    | _ => simp [NodeStatus.record, Payload.kind, Recorder.implemented]
  | nodeInfo =>
    rw [handle, Verdict.map_eq_notImplemented_iff]
    cases payload with
    | number n =>
      by_cases ha : attr = "ClusterStateVersion" <;>
        simp [NodeInfo.record, ha, Payload.kind, Recorder.implemented]
    | string s => simp [NodeInfo.record, Payload.kind, Recorder.implemented]
    | composite fields =>
      by_cases ha : attr = "ShardStats" <;>
        simp [NodeInfo.record, ha, Payload.kind, Recorder.implemented]
    | compositeArray shards =>
      by_cases ha : attr = "ShardInfo" <;>
        simp [NodeInfo.record, ha, Payload.kind, Recorder.implemented]

/-- A value is refused exactly if its form is not implemented, and then the error names the recorder,
the form and the attribute. -/
theorem record_eq_error_iff {payload : Payload} (h : value.payload? = some payload)
    {violation : RecorderError} :
    r.record recorder ns attr value = .error violation ↔
      value.form ∉ recorder.implemented ∧ violation = ⟨recorder.kind, value.form, attr⟩ := by
  rw [record, h, AttributeValue.form_of_payload? h,
    ← @handle_eq_notImplemented_iff r recorder ns attr payload]
  dsimp only
  cases r.handle recorder ns attr payload with
  | consumed recorded => simp
  | declined => simp
  | notImplemented => simpa using eq_comm

end Recorders

def Recorder.answer (recorder : Recorder) (ns attr : String) (value : AttributeValue) :
    Except RecorderError Bool :=
  (Recorders.initial.record recorder ns attr value).map Option.isSome

/-- The answer is the same whatever has been learnt before. -/
theorem Recorders.isSome_record (r : Recorders) (recorder : Recorder) (ns attr : String)
    (value : AttributeValue) :
    (r.record recorder ns attr value).map Option.isSome = recorder.answer ns attr value := by
  unfold Recorder.answer record
  cases value.payload? with
  | none => rfl
  | some payload =>
    dsimp only
    cases hp : recorder.identityPart? attr payload with
    | some part =>
      rw [handle_of_identityPart hp, handle_of_identityPart hp]
      rfl
    | none =>
      rw [handle_of_not_identityPart hp r]
      cases initial.handle recorder ns attr payload <;> rfl

end BeanMetrics
