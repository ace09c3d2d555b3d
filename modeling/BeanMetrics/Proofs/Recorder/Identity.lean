import BeanMetrics.Recorder.Kinds
import Mathlib.Data.List.Perm.Basic

/-!
The only thing that a recorder remembers is the identity of the node. It comes in parts, an id or a
name at a time, and it is emitted once, with the part that completes it. Everything else that is made
of a payload is the same whatever has been learnt before.
-/

namespace BeanMetrics

/-- What one attribute tells of the identity of the node. -/
inductive IdentityPart where
  | id (value : String)
  | name (value : String)
  deriving DecidableEq, Repr

namespace IdentityPart

def isId : IdentityPart → Bool
  | id _ => true
  | name _ => false

def isName : IdentityPart → Bool
  | id _ => false
  | name _ => true

end IdentityPart

/-- The identity with one part more, or with a newer one in its place. -/
def NodeIdentity.know (node : NodeIdentity) : IdentityPart → NodeIdentity
  | .id value => { node with id := some value }
  | .name value => { node with name := some value }

namespace NodeInfo

def identityPart? (attr value : String) : Option IdentityPart :=
  if sameIgnoringCase attr "NodeId" then some (.id value)
  else if sameIgnoringCase attr "NodeName" then some (.name value)
  else none

theorem learn?_eq (attr value : String) (node : NodeIdentity) :
    learn? attr value node = (identityPart? attr value).map node.know := by
  unfold learn? identityPart?
  split
  · rfl
  · split <;> rfl

def identityEmission (ns id name : String) : Emission :=
  ⟨(Sample.unlabeled (ns ++ "_node_info") .one).withLabels [("id", id), ("name", name)], .untyped,
    "Node information."⟩

def told (ns : String) (node : NodeIdentity) (part : IdentityPart) : NodeIdentity :=
  (introduce ns (node.know part)).1

def uttered (ns : String) (node : NodeIdentity) (part : IdentityPart) : List Emission :=
  (introduce ns (node.know part)).2

/-- What is emitted while parts of the identity are told one after the other. -/
def introductions (ns : String) : NodeIdentity → List IdentityPart → List Emission
  | _, [] => []
  | node, part :: parts => uttered ns node part ++ introductions ns (told ns node part) parts

/-- An identity that is still to be emitted: one of its parts is not known. -/
def Pending (node : NodeIdentity) : Prop :=
  node.emitted = false ∧ (node.id = none ∨ node.name = none)

theorem pending_unknown : Pending .unknown := ⟨rfl, .inl rfl⟩

/-- Whether both parts are known once the given ones have been told. -/
def Completes (node : NodeIdentity) (parts : List IdentityPart) : Prop :=
  (node.id.isSome ∨ parts.any IdentityPart.isId) ∧
    (node.name.isSome ∨ parts.any IdentityPart.isName)

instance (node : NodeIdentity) (parts : List IdentityPart) : Decidable (Completes node parts) :=
  inferInstanceAs (Decidable (_ ∧ _))

theorem introductions_of_emitted {ns : String} {node : NodeIdentity} (h : node.emitted = true)
    (parts : List IdentityPart) : introductions ns node parts = [] := by
  induction parts generalizing node with
  | nil => rfl
  | cons part parts ih =>
    have hk : (node.know part).emitted = true := by cases part <;> exact h
    have hi : introduce ns (node.know part) = (node.know part, []) := by simp [introduce, hk]
    rw [introductions, uttered, told, hi]
    exact ih hk

theorem introduce_of_pending {ns : String} {node : NodeIdentity} (h : Pending node) :
    introduce ns node = (node, []) := by
  obtain ⟨he, hid | hname⟩ := h
  · simp [introduce, hid]
  · simp [introduce, hname]

theorem introduce_of_complete {ns id name : String} {node : NodeIdentity}
    (he : node.emitted = false) (hid : node.id = some id) (hname : node.name = some name) :
    introduce ns node = ({ node with emitted := true }, [identityEmission ns id name]) := by
  simp [introduce, he, hid, hname, identityEmission]

theorem completes_cons_iff {node : NodeIdentity} {part : IdentityPart} {parts : List IdentityPart} :
    Completes node (part :: parts) ↔ Completes (node.know part) parts := by
  cases part <;> simp [Completes, NodeIdentity.know, IdentityPart.isId, IdentityPart.isName]

theorem not_completes_nil {node : NodeIdentity} (h : Pending node) : ¬ Completes node [] := by
  obtain ⟨-, hid | hname⟩ := h
  · simp [Completes, hid]
  · simp [Completes, hname]

/-- The identity is emitted once if the parts complete it, and else not at all. -/
theorem introductions_of_pending {ns : String} {node : NodeIdentity} (h : Pending node)
    (parts : List IdentityPart) :
    if Completes node parts then ∃ id name, introductions ns node parts = [identityEmission ns id name]
    else introductions ns node parts = [] := by
  induction parts generalizing node with
  | nil => rw [if_neg (not_completes_nil h)]; rfl
  | cons part parts ih =>
    have he : (node.know part).emitted = false := by cases part <;> exact h.1
    by_cases hp : Pending (node.know part)
    · have hi : introductions ns node (part :: parts) = introductions ns (node.know part) parts := by
        rw [introductions, uttered, told, introduce_of_pending hp, List.nil_append]
      rw [hi]
      simpa only [completes_cons_iff] using ih hp
    · have hboth : (node.know part).id ≠ none ∧ (node.know part).name ≠ none := by
        constructor
        · exact fun hid => hp ⟨he, .inl hid⟩
        · exact fun hname => hp ⟨he, .inr hname⟩
      obtain ⟨id, hid⟩ := Option.ne_none_iff_exists'.mp hboth.1
      obtain ⟨name, hname⟩ := Option.ne_none_iff_exists'.mp hboth.2
      have hc : Completes node (part :: parts) :=
        completes_cons_iff.mpr ⟨.inl (by simp [hid]), .inl (by simp [hname])⟩
      rw [if_pos hc]
      refine ⟨id, name, ?_⟩
      rw [introductions, uttered, told, introduce_of_complete he hid hname,
        introductions_of_emitted rfl, List.append_nil]

theorem completes_perm {node : NodeIdentity} {parts parts' : List IdentityPart}
    (h : parts.Perm parts') : Completes node parts ↔ Completes node parts' := by
  unfold Completes
  rw [h.any_eq, h.any_eq]

/-- Told in another order, the parts make the identity known just as well, if perhaps with another id
or name. -/
theorem introductions_perm (ns : String) {parts parts' : List IdentityPart}
    (h : parts.Perm parts') :
    introductions ns .unknown parts = introductions ns .unknown parts' ∨
      ∃ id name id' name', introductions ns .unknown parts = [identityEmission ns id name] ∧
        introductions ns .unknown parts' = [identityEmission ns id' name'] := by
  have hi := @introductions_of_pending ns _ pending_unknown parts
  have hi' := @introductions_of_pending ns _ pending_unknown parts'
  by_cases hc : Completes .unknown parts
  · rw [if_pos hc] at hi
    rw [if_pos ((completes_perm h).mp hc)] at hi'
    obtain ⟨id, name, he⟩ := hi
    obtain ⟨id', name', he'⟩ := hi'
    exact .inr ⟨id, name, id', name', he, he'⟩
  · rw [if_neg hc] at hi
    rw [if_neg ((completes_perm h).not.mp hc)] at hi'
    exact .inl (hi.trans hi'.symm)

end NodeInfo

/-! ### What does not depend on the state -/

def Recorder.identityPart? (recorder : Recorder) (attr : String) (payload : Payload) :
    Option IdentityPart :=
  match recorder, payload with
  | .nodeInfo, .string value => NodeInfo.identityPart? attr value
  | _, _ => none

namespace Recorders

def tell (r : Recorders) (ns : String) (part : IdentityPart) : Recorders :=
  ⟨NodeInfo.told ns r.node part⟩

theorem handle_of_identityPart {recorder : Recorder} {attr : String} {payload : Payload}
    {part : IdentityPart} (h : recorder.identityPart? attr payload = some part) (r : Recorders)
    (ns : String) :
    r.handle recorder ns attr payload =
      .consumed ⟨r.tell ns part, NodeInfo.uttered ns r.node part⟩ := by
  unfold Recorder.identityPart? at h
  split at h
  · rename_i value
    rw [handle, NodeInfo.record, NodeInfo.learn?_eq, h]
    rfl
  · cases h

theorem handle_of_not_identityPart {recorder : Recorder} {attr : String} {payload : Payload}
    (h : recorder.identityPart? attr payload = none) (r : Recorders) (ns : String) :
    r.handle recorder ns attr payload =
      (initial.handle recorder ns attr payload).map fun recorded => ⟨r, recorded.emissions⟩ := by
  have hm (verdict : Verdict (List Emission)) : verdict.map (Recorded.mk r) =
      (verdict.map (Recorded.mk initial)).map fun recorded => ⟨r, recorded.emissions⟩ := by
    cases verdict <;> rfl
  cases recorder with
  | nodeInfo =>
    cases payload with
    | string value =>
      have hn : NodeInfo.identityPart? attr value = none := h
      rw [handle, handle, NodeInfo.record, NodeInfo.record, NodeInfo.learn?_eq, NodeInfo.learn?_eq, hn]
      rfl
    | number n =>
      dsimp only [handle, NodeInfo.record]
      split <;> rfl
    | composite fields =>
      dsimp only [handle, NodeInfo.record]
      split <;> rfl
    | compositeArray shards =>
      dsimp only [handle, NodeInfo.record]
      split <;> rfl
  | circuitBreakers | connections | nodeStatus | queryStats | threadPools => exact hm _

end Recorders
end BeanMetrics
