import BeanMetrics.Proofs.Recorder.Handlers
import BeanMetrics.Proofs.Recorder.Metrics
import Mathlib.Data.List.Induction

/-!
When the node is introduced. Since the last reset the recorder of the node knows the newest id and the
newest name that it was given, and it has introduced the node exactly if it knows both. So the
identity is emitted by the call that completes it and by no other, and nothing that was given before
the reset is in it.
-/

namespace BeanMetrics

/-! ### Sequences of calls -/

namespace Recorders

def after (r : Recorders) (calls : List Call) : Recorders :=
  ((Desk.mk r ([] : List Emission)).performAll calls).2.recorders

def emissions (r : Recorders) (calls : List Call) : List Emission :=
  ((Desk.mk r ([] : List Emission)).performAll calls).2.sink

theorem after_hand (r : Recorders) (recorder : Recorder) (ns attr : String) (payload : Payload) :
    r.after [.hand recorder ns attr payload] =
      match r.handle recorder ns attr payload with
      | .consumed recorded => recorded.recorders
      | _ => r := by
  show ((Desk.mk r ([] : List Emission)).perform (.hand recorder ns attr payload)).2.recorders = _
  rw [Desk.perform_hand]
  cases r.handle recorder ns attr payload <;> rfl

theorem emissions_hand (r : Recorders) (recorder : Recorder) (ns attr : String)
    (payload : Payload) :
    r.emissions [.hand recorder ns attr payload] =
      match r.handle recorder ns attr payload with
      | .consumed recorded => recorded.emissions
      | _ => [] := by
  show ((Desk.mk r ([] : List Emission)).perform (.hand recorder ns attr payload)).2.sink = _
  rw [Desk.perform_hand]
  cases r.handle recorder ns attr payload with
  | consumed recorded => exact Sink.acceptAll_log [] recorded.emissions
  | _ => rfl

theorem perform_log (r : Recorders) (log : List Emission) (call : Call) :
    ((Desk.mk r log).perform call).2 = ⟨r.after [call], log ++ r.emissions [call]⟩ := by
  cases call with
  | reset => exact congrArg (Desk.mk _) (List.append_nil log).symm
  | hand recorder ns attr payload =>
    rw [Desk.perform_hand, after_hand, emissions_hand]
    cases r.handle recorder ns attr payload with
    | consumed recorded =>
      exact congrArg (Desk.mk _) (Sink.acceptAll_log log recorded.emissions)
    | _ => exact congrArg (Desk.mk _) (List.append_nil log).symm

theorem performAll_cons_log (r : Recorders) (log : List Emission) (call : Call)
    (calls : List Call) :
    ((Desk.mk r log).performAll (call :: calls)).2 =
      ((Desk.mk (r.after [call]) (log ++ r.emissions [call])).performAll calls).2 :=
  congrArg (fun desk => (desk.performAll calls).2) (perform_log r log call)

theorem performAll_log (r : Recorders) (log : List Emission) (calls : List Call) :
    ((Desk.mk r log).performAll calls).2 = ⟨r.after calls, log ++ r.emissions calls⟩ := by
  induction calls generalizing r log with
  | nil => exact congrArg (Desk.mk _) (List.append_nil log).symm
  | cons call calls ih =>
    have hempty : ((Desk.mk r []).performAll (call :: calls)).2 =
        ⟨(r.after [call]).after calls, r.emissions [call] ++ (r.after [call]).emissions calls⟩ := by
      rw [performAll_cons_log, ih, List.nil_append]
    have ha : r.after (call :: calls) = (r.after [call]).after calls := by
      rw [after, hempty]
    have he : r.emissions (call :: calls) =
        r.emissions [call] ++ (r.after [call]).emissions calls := by
      rw [emissions, hempty]
    rw [performAll_cons_log, ih, ha, he, List.append_assoc]

theorem after_append (r : Recorders) (calls more : List Call) :
    r.after (calls ++ more) = (r.after calls).after more := by
  rw [after, Desk.performAll_append, performAll_log r, performAll_log]

theorem emissions_append (r : Recorders) (calls more : List Call) :
    r.emissions (calls ++ more) = r.emissions calls ++ (r.after calls).emissions more := by
  rw [emissions, Desk.performAll_append, performAll_log r, performAll_log]
  rfl

end Recorders

/-! ### What is given of the identity -/

namespace Call

/-- The value that a call gives under a title: a string of the node whose attribute is named so, in
letters of either case. -/
def given? (title : String) : Call → Option String
  | .hand .nodeInfo _ attr (.string value) =>
    if NodeInfo.sameIgnoringCase attr title then some value else none
  | _ => none

def newest? (title : String) (calls : List Call) : Option String :=
  (calls.filterMap (given? title)).getLast?

def Complete (calls : List Call) : Prop :=
  (∃ call ∈ calls, (call.given? "NodeId").isSome) ∧
    ∃ call ∈ calls, (call.given? "NodeName").isSome

instance (calls : List Call) : Decidable (Complete calls) := inferInstanceAs (Decidable (_ ∧ _))

theorem newest?_concat (title : String) (calls : List Call) (call : Call) :
    newest? title (calls ++ [call]) = (call.given? title).or (newest? title calls) := by
  have hs : newest? title [call] = call.given? title := by simp [newest?]
  rw [newest?, List.filterMap_append, List.getLast?_append, ← newest?, ← newest?, hs]

theorem isSome_newest?_iff {title : String} {calls : List Call} :
    (newest? title calls).isSome ↔ ∃ call ∈ calls, (call.given? title).isSome := by
  rw [newest?, List.getLast?_filterMap, List.findSome?_isSome_iff]
  simp only [List.mem_reverse]

theorem complete_iff {calls : List Call} :
    Complete calls ↔
      (newest? "NodeId" calls).isSome ∧ (newest? "NodeName" calls).isSome := by
  rw [isSome_newest?_iff, isSome_newest?_iff, Complete]

end Call

/-! ### The state of the node's recorder -/

namespace IdentityPart

def idValue? : IdentityPart → Option String
  | id value => some value
  | name _ => none

def nameValue? : IdentityPart → Option String
  | id _ => none
  | name value => some value

end IdentityPart

theorem NodeInfo.not_sameIgnoringCase_both (attr : String) :
    ¬ (sameIgnoringCase attr "NodeId" ∧ sameIgnoringCase attr "NodeName") := by
  simp only [sameIgnoringCase, beq_iff_eq]
  rintro ⟨hid, hname⟩
  exact absurd (hid.symm.trans hname) (by decide)

/-- A call gives the part of the identity that the recorder learns from it. -/
theorem Call.given?_hand (recorder : Recorder) (ns attr : String) (payload : Payload) :
    (hand recorder ns attr payload).given? "NodeId" =
        (recorder.identityPart? attr payload).bind IdentityPart.idValue? ∧
      (hand recorder ns attr payload).given? "NodeName" =
        (recorder.identityPart? attr payload).bind IdentityPart.nameValue? := by
  cases recorder with
  | nodeInfo =>
    cases payload with
    | string value =>
      have hboth := NodeInfo.not_sameIgnoringCase_both attr
      dsimp only [given?, Recorder.identityPart?, NodeInfo.identityPart?]
      by_cases hid : NodeInfo.sameIgnoringCase attr "NodeId"
      · have hname : ¬ NodeInfo.sameIgnoringCase attr "NodeName" := fun hn => hboth ⟨hid, hn⟩
        simp [hid, hname, IdentityPart.idValue?, IdentityPart.nameValue?]
      · by_cases hname : NodeInfo.sameIgnoringCase attr "NodeName" <;>
          simp [hid, hname, IdentityPart.idValue?, IdentityPart.nameValue?]
    | _ => exact ⟨rfl, rfl⟩
  | _ => exact ⟨rfl, rfl⟩

/-- What is known when these are the newest id and the newest name: with both, the node has been
introduced. -/
def NodeIdentity.knowing (id name : Option String) : NodeIdentity :=
  ⟨id, name, id.isSome && name.isSome⟩

/-- The identity sample, if both of its parts are there. -/
def NodeInfo.announced (ns : String) : Option String → Option String → List Emission
  | some id, some name => [identityEmission ns id name]
  | _, _ => []

/-- One part more: it is known from now on, and the identity is emitted if it was not complete. -/
theorem NodeInfo.introduce_knowing (ns : String) (id name : Option String) (part : IdentityPart) :
    introduce ns ((NodeIdentity.knowing id name).know part) =
      (.knowing (part.idValue?.or id) (part.nameValue?.or name),
        if id.isSome ∧ name.isSome then []
        else announced ns (part.idValue?.or id) (part.nameValue?.or name)) := by
  cases part <;> cases id <;> cases name <;> rfl

/-! ### Samples of the identity -/

def Emission.isIdentity (e : Emission) : Bool :=
  "_node_info".toList.isSuffixOf e.sample.name.toList

theorem NodeInfo.filter_isIdentity_announced (ns : String) (id name : Option String) :
    (announced ns id name).filter Emission.isIdentity = announced ns id name := by
  have hi (id name : String) : (identityEmission ns id name).isIdentity = true := by
    refine List.isSuffixOf_iff_suffix.mpr ⟨ns.toList, ?_⟩
    exact (String.toList_append).symm
  cases id with
  | none => rfl
  | some id =>
    cases name with
    | none => rfl
    | some name => simp [announced, hi]

/-- The last character tells the identity from all other metrics. -/
theorem Emission.isIdentity_eq_false {e : Emission} {ns ending : String}
    (hn : e.sample.name = ns ++ ending) (hl : ending.toList.getLast? ∉ [none, some 'o']) :
    e.isIdentity = false := by
  refine Bool.eq_false_iff.mpr fun hi => hl ?_
  obtain ⟨front, hf⟩ := List.isSuffixOf_iff_suffix.mp hi
  have hlast := congrArg List.getLast? hf
  rw [hn, String.toList_append, List.getLast?_append, List.getLast?_append] at hlast
  cases he : ending.toList.getLast? with
  | none => exact List.mem_cons_self
  | some c =>
    rw [he] at hlast
    exact List.mem_cons_of_mem _ (List.mem_singleton.mpr hlast.symm)

theorem Recorder.getLast?_metrics {recorder : Recorder} (h : recorder ≠ .nodeInfo) :
    ∀ m ∈ recorder.metrics, ("_" ++ m.suffix).toList.getLast? ∉ [none, some 'o'] := by
  cases recorder with
  | nodeInfo => exact absurd rfl h
  | _ => decide

def NoIdentity (emissions : List Emission) : Prop := ∀ e ∈ emissions, e.isIdentity = false

theorem NoIdentity.filter_eq_nil {emissions : List Emission} (h : NoIdentity emissions) :
    emissions.filter Emission.isIdentity = [] :=
  List.filter_eq_nil_iff.mpr fun e he => by simp [h e he]

namespace NodeInfo

theorem noIdentity_statisticsEmissions (ns : String) (record : CompositeRecord) :
    NoIdentity (statisticsEmissions ns record) := by
  intro e he
  obtain ⟨number, -, rfl⟩ := List.mem_map.mp he
  exact Emission.isIdentity_eq_false (Sample.name_withLabels _ _) (by decide)

theorem noIdentity_shardEmissions (ns : String) (shards : List CompositeRecord) :
    NoIdentity (shards.flatMap (shardEmissions ns)) := by
  intro e he
  obtain ⟨shard, -, hs⟩ := List.mem_flatMap.mp he
  obtain ⟨number, -, rfl⟩ := List.mem_map.mp hs
  exact Emission.isIdentity_eq_false (Sample.name_withLabels _ _) (by decide)

theorem noIdentity_record {attr : String} {payload : Payload}
    (h : Recorder.nodeInfo.identityPart? attr payload = none) (node : NodeIdentity) (ns : String) :
    (record node ns attr payload).All fun made => NoIdentity made.2 := by
  cases payload with
  | number n =>
    rw [record]
    split
    · intro e he
      obtain rfl := List.mem_singleton.mp he
      exact Emission.isIdentity_eq_false rfl (by decide)
    · trivial
  | string value =>
    have hn : identityPart? attr value = none := h
    rw [record, learn?_eq, hn]
    trivial
  | composite fields =>
    rw [record]
    split
    · exact noIdentity_statisticsEmissions ns fields
    · trivial
  | compositeArray shards =>
    rw [record]
    split
    · exact noIdentity_shardEmissions ns shards
    · trivial

end NodeInfo

/-- A value that is no part of the identity makes no sample of it. -/
theorem Recorders.noIdentity_handle {recorder : Recorder} {attr : String} {payload : Payload}
    (h : recorder.identityPart? attr payload = none) (r : Recorders) (ns : String) :
    (r.handle recorder ns attr payload).All fun recorded => NoIdentity recorded.emissions := by
  by_cases hr : recorder = .nodeInfo
  · subst hr
    exact Verdict.all_map.mpr (NodeInfo.noIdentity_record h r.node ns)
  · have hall := r.allOf_handle recorder ns attr payload
    cases hv : r.handle recorder ns attr payload with
    | consumed recorded =>
      rw [hv] at hall
      intro e he
      obtain ⟨m, hm, ho⟩ := hall e he
      have hn : e.sample.name = ns ++ ("_" ++ m.suffix) := ho.name.trans (String.append_assoc ..)
      exact Emission.isIdentity_eq_false hn (Recorder.getLast?_metrics hr m hm)
    | _ => trivial

namespace Recorders

variable {recorder : Recorder} {attr : String} {payload : Payload}

theorem after_of_not_identityPart (h : recorder.identityPart? attr payload = none) (r : Recorders)
    (ns : String) : r.after [.hand recorder ns attr payload] = r := by
  rw [after_hand, handle_of_not_identityPart h]
  cases initial.handle recorder ns attr payload <;> rfl

theorem filter_isIdentity_of_not_identityPart (h : recorder.identityPart? attr payload = none)
    (r : Recorders) (ns : String) :
    (r.emissions [.hand recorder ns attr payload]).filter Emission.isIdentity = [] := by
  have hn := noIdentity_handle h r ns
  rw [emissions_hand]
  cases hv : r.handle recorder ns attr payload with
  | consumed recorded =>
    rw [hv] at hn
    exact hn.filter_eq_nil
  | _ => rfl

end Recorders

/-! ### Segments between resets -/

namespace Call

/-- The state of the node's recorder that its calls since the last reset have led to. -/
def known (calls : List Call) : Recorders :=
  ⟨.knowing (newest? "NodeId" calls) (newest? "NodeName" calls)⟩

/-- What a call introduces that comes after others since the last reset: the identity, made of the
newest id and the newest name up to this call, if it is complete with this call and was not before. -/
def introduction (ns : String) (before : List Call) (call : Call) : List Emission :=
  match newest? "NodeId" (before ++ [call]), newest? "NodeName" (before ++ [call]) with
  | some id, some name =>
    if Complete before then []
    else [⟨⟨ns ++ "_node_info", [("id", id), ("name", name)], .one⟩, .untyped, "Node information."⟩]
  | _, _ => []

theorem introduction_eq (ns : String) (before : List Call) (call : Call) :
    introduction ns before call =
      if (newest? "NodeId" before).isSome ∧ (newest? "NodeName" before).isSome then []
      else NodeInfo.announced ns (newest? "NodeId" (before ++ [call]))
        (newest? "NodeName" (before ++ [call])) := by
  rw [introduction]
  cases newest? "NodeId" (before ++ [call]) with
  | none => simp [NodeInfo.announced]
  | some id =>
    cases newest? "NodeName" (before ++ [call]) with
    | none => simp [NodeInfo.announced]
    | some name =>
      simp only [complete_iff]
      rfl

/-- One call more: what it leaves, and what it introduces. -/
theorem step_known (before : List Call) (recorder : Recorder) (ns attr : String)
    (payload : Payload) :
    (known before).after [hand recorder ns attr payload] =
        known (before ++ [hand recorder ns attr payload]) ∧
      ((known before).emissions [hand recorder ns attr payload]).filter Emission.isIdentity =
        introduction ns before (hand recorder ns attr payload) := by
  obtain ⟨hid, hname⟩ := given?_hand recorder ns attr payload
  rw [introduction_eq, known, known, newest?_concat, newest?_concat, hid, hname]
  cases hp : recorder.identityPart? attr payload with
  | some part =>
    have hi := NodeInfo.introduce_knowing ns (newest? "NodeId" before) (newest? "NodeName" before) part
    rw [Recorders.after_hand, Recorders.emissions_hand, Recorders.handle_of_identityPart hp]
    refine ⟨congrArg (fun made => Recorders.mk made.1) hi, ?_⟩
    show (NodeInfo.introduce ns _).2.filter _ = _
    rw [hi]
    split
    · rfl
    · exact NodeInfo.filter_isIdentity_announced _ _ _
  | none =>
    refine ⟨Recorders.after_of_not_identityPart hp _ ns, ?_⟩
    rw [Recorders.filter_isIdentity_of_not_identityPart hp]
    cases newest? "NodeId" before <;> cases newest? "NodeName" before <;> rfl

theorem Complete.append {before : List Call} (h : Complete before) (more : List Call) :
    Complete (before ++ more) := by
  obtain ⟨⟨call, hc, hid⟩, ⟨call', hc', hname⟩⟩ := h
  exact ⟨⟨call, List.mem_append_left more hc, hid⟩, ⟨call', List.mem_append_left more hc', hname⟩⟩

theorem length_introduction (ns : String) (before : List Call) (call : Call) :
    (introduction ns before call).length =
      if Complete before then 0 else if Complete (before ++ [call]) then 1 else 0 := by
  rw [introduction_eq]
  simp only [complete_iff]
  split
  · rfl
  · cases newest? "NodeId" (before ++ [call]) <;> cases newest? "NodeName" (before ++ [call]) <;> rfl

/-- A whole segment: the state that it leaves is known from its calls, and it introduces the node
once if it is complete and not at all otherwise. -/
theorem run_known {segment : List Call} (h : .reset ∉ segment) :
    Recorders.initial.after segment = known segment ∧
      ((Recorders.initial.emissions segment).filter Emission.isIdentity).length =
        if Complete segment then 1 else 0 := by
  induction segment using List.reverseRecOn with
  | nil => exact ⟨rfl, rfl⟩
  | append_singleton before call ih =>
    obtain ⟨ha, hl⟩ := ih fun hm => h (List.mem_append_left _ hm)
    cases call with
    | reset => exact absurd (List.mem_append_right before List.mem_cons_self) h
    | hand recorder ns attr payload =>
      obtain ⟨hs, hi⟩ := step_known before recorder ns attr payload
      refine ⟨by rw [Recorders.after_append, ha, hs], ?_⟩
      rw [Recorders.emissions_append, List.filter_append, List.length_append, hl, ha, hi,
        length_introduction]
      by_cases hb : Complete before
      · rw [if_pos hb, if_pos hb, if_pos (hb.append _)]
      · rw [if_neg hb, if_neg hb, Nat.zero_add]

end Call

/-- A sequence of calls after which the next one begins a segment: none, or one that ends with a
reset. -/
def Call.Fresh (history : List Call) : Prop :=
  history = [] ∨ history.getLast? = some .reset

theorem Recorders.after_of_fresh {history : List Call} (h : Call.Fresh history) :
    initial.after history = initial := by
  obtain rfl | hl := h
  · rfl
  · obtain ⟨before, rfl⟩ := List.getLast?_eq_some_iff.mp hl
    rw [after_append]
    exact reset_eq_initial _

/-- In a segment without resets the identity of the node is emitted at most once, and once exactly if
the segment gives an id and a name. The call that emits it is the first one up to which both are
given, under its namespace and with the newest id and the newest name up to it. All that is emitted
in the segment, and so every label, is what new recorders would emit, whatever came before the
reset. -/
theorem Recorders.identity_of_segment {history segment : List Call} (hh : Call.Fresh history)
    (hs : .reset ∉ segment) :
    let r := initial.after history
    ((r.emissions segment).filter Emission.isIdentity).length =
        (if Call.Complete segment then 1 else 0) ∧
      (∀ before recorder ns attr payload rest,
        segment = before ++ .hand recorder ns attr payload :: rest →
        ((r.after before).emissions [.hand recorder ns attr payload]).filter Emission.isIdentity =
          Call.introduction ns before (.hand recorder ns attr payload)) ∧
      r.emissions segment = initial.emissions segment := by
  intro r
  have hr : r = initial := after_of_fresh hh
  rw [hr]
  refine ⟨(Call.run_known hs).2, ?_, rfl⟩
  rintro before recorder ns attr payload rest rfl
  have hb : .reset ∉ before := fun hm => hs (List.mem_append_left _ hm)
  rw [(Call.run_known hb).1]
  exact (Call.step_known before recorder ns attr payload).2

/-- An id that is forgotten, and then a name, another name, the id under another namespace, and one
id more. -/
def Call.renaming : List Call × List Call :=
  ([.hand .nodeInfo "crate" "NodeId" (.string "n0"), .reset],
   [.hand .nodeInfo "crate" "nodename" (.string "Aconcagua"),
    .hand .nodeInfo "crate" "ClusterStateVersion" (.number .one),
    .hand .nodeInfo "crate" "NODENAME" (.string "Denali"),
    .hand .nodeInfo "lab" "NodeId" (.string "n1"),
    .hand .nodeInfo "crate" "NodeId" (.string "n2")])

theorem Recorders.identity_of_segment_renaming :
    let r := initial.after Call.renaming.1
    Call.Fresh Call.renaming.1 ∧ .reset ∉ Call.renaming.2 ∧
      ((r.emissions Call.renaming.2).filter Emission.isIdentity).length = 1 ∧
      ((r.after (Call.renaming.2.take 3)).emissions
          [.hand .nodeInfo "lab" "NodeId" (.string "n1")]).filter Emission.isIdentity =
        [⟨⟨"lab_node_info", [("id", "n1"), ("name", "Denali")], .one⟩, .untyped,
          "Node information."⟩] := by
  intro r
  have hh : Call.Fresh Call.renaming.1 := .inr rfl
  have hs : .reset ∉ Call.renaming.2 := by simp [Call.renaming]
  obtain ⟨hl, hi, -⟩ := identity_of_segment hh hs
  refine ⟨hh, hs, hl, ?_⟩
  exact hi (Call.renaming.2.take 3) .nodeInfo "lab" "NodeId" (.string "n1") _ rfl

end BeanMetrics
