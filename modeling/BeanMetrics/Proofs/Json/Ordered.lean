import BeanMetrics.Agent.Reply
import Mathlib.Data.String.Basic

/-!
Objects in key order. Whatever was written, an object that was read has each key once and in ascending
order, and so have the objects in it; this holds of the value of every reply.
-/

namespace BeanMetrics
namespace KeyMap

variable {α : Type} {key : String} {value : α} {map : List (String × α)}

theorem eq_or_mem_of_mem_insert {p : String × α} (h : p ∈ insert key value map) :
    p = (key, value) ∨ p ∈ map := by
  induction map with
  | nil => exact .inl (List.mem_singleton.mp h)
  | cons q rest ih =>
    rw [insert] at h
    split at h
    · rcases List.mem_cons.mp h with rfl | hr
      · exact .inl rfl
      · exact .inr (List.mem_cons_of_mem q hr)
    · split at h
      · rcases List.mem_cons.mp h with rfl | hr
        · exact .inl rfl
        · exact .inr hr
      · rcases List.mem_cons.mp h with rfl | hr
        · exact .inr List.mem_cons_self
        · rcases ih hr with he | hm
          · exact .inl he
          · exact .inr (List.mem_cons_of_mem q hm)

theorem Ascending.insert (h : Ascending map) (key : String) (value : α) :
    Ascending (insert key value map) := by
  induction map with
  | nil => exact List.pairwise_singleton _ _
  | cons q rest ih =>
    obtain ⟨hq, hrest⟩ := List.pairwise_cons.mp h
    rw [KeyMap.insert]
    split
    · rename_i he
      exact List.pairwise_cons.mpr ⟨fun p hp => he ▸ hq p hp, hrest⟩
    · rename_i hne
      split
      · rename_i hlt
        refine List.pairwise_cons.mpr ⟨?_, h⟩
        intro p hp
        rcases List.mem_cons.mp hp with rfl | hr
        · exact hlt
        · exact hlt.trans (hq p hr)
      · rename_i hnlt
        have hgt : q.1 < key := lt_of_le_of_ne (not_lt.mp hnlt) (Ne.symm hne)
        refine List.pairwise_cons.mpr ⟨?_, ih hrest⟩
        intro p hp
        rcases eq_or_mem_of_mem_insert hp with rfl | hr
        · exact hgt
        · exact hq p hr

theorem Ascending.nodup_keys (h : Ascending map) : (map.map (·.1)).Nodup := by
  rw [List.Nodup, List.pairwise_map]
  exact h.imp fun hlt => hlt.ne

/-- What is said of a list of pairs holds of the map that is made of it. -/
theorem foldl_insert {P : String × α → Prop} {pairs : List (String × α)} (hm : Ascending map)
    (hmap : ∀ p ∈ map, P p) (hpairs : ∀ p ∈ pairs, P p) :
    let all := pairs.foldl (fun map (key, value) => insert key value map) map
    Ascending all ∧ ∀ p ∈ all, P p := by
  induction pairs generalizing map with
  | nil => exact ⟨hm, hmap⟩
  | cons q rest ih =>
    obtain ⟨hq, hrest⟩ := List.forall_mem_cons.mp hpairs
    refine ih (hm.insert q.1 q.2) (fun p hp => ?_) hrest
    rcases eq_or_mem_of_mem_insert hp with rfl | hr
    · exact hq
    · exact hmap p hr

theorem ofList_ascending (pairs : List (String × α)) : Ascending (ofList pairs) :=
  (foldl_insert (P := fun _ => True) .nil (fun _ _ => trivial) fun _ _ => trivial).1

theorem forall_mem_ofList {P : String × α → Prop} {pairs : List (String × α)}
    (h : ∀ p ∈ pairs, P p) : ∀ p ∈ ofList pairs, P p :=
  (foldl_insert .nil (fun _ hp => absurd hp List.not_mem_nil) h).2

end KeyMap

namespace Json

/-- Every object in the value has its members in ascending order of their keys. -/
inductive Ordered : Json → Prop
  | null : Ordered .null
  | boolean (b : Bool) : Ordered (.boolean b)
  | number (n : Number) : Ordered (.number n)
  | string (s : String) : Ordered (.string s)
  | array {elements : List Json} (h : ∀ element ∈ elements, Ordered element) :
      Ordered (.array elements)
  | object {members : List (String × Json)} (hk : KeyMap.Ascending members)
      (h : ∀ member ∈ members, Ordered member.2) : Ordered (.object members)

/-- A member of a value whose objects are in order. -/
theorem Ordered.get? {value member : Json} {key : String} (h : value.Ordered)
    (hm : value.get? key = some member) : member.Ordered := by
  cases h with
  | object hk hall =>
    obtain ⟨front, back, rfl, -⟩ := List.lookup_eq_some_iff.mp hm
    exact hall (key, member) (by simp)
  | _ => cases hm

section

variable {P : Json → Prop} {depth : Nat}

theorem forall_mem_of_elementsOfWritten? (hp : ∀ w v, ofWritten? depth w = some v → P v)
    {elements : List Written} {values : List Json}
    (h : elementsOfWritten? depth elements = some values) : ∀ value ∈ values, P value := by
  induction elements generalizing values with
  | nil =>
    obtain rfl := Option.some.inj h
    exact fun v hv => absurd hv List.not_mem_nil
  | cons element elements ih =>
    obtain ⟨first, hf, h⟩ := Option.bind_eq_some_iff.mp h
    obtain ⟨rest, hr, h⟩ := Option.bind_eq_some_iff.mp h
    obtain rfl := Option.some.inj h
    exact List.forall_mem_cons.mpr ⟨hp element first hf, ih hr⟩

theorem forall_mem_of_membersOfWritten? (hp : ∀ w v, ofWritten? depth w = some v → P v)
    {members : List (Option String × Written)} {values : List (String × Json)}
    (h : membersOfWritten? depth members = some values) : ∀ member ∈ values, P member.2 := by
  induction members generalizing values with
  | nil =>
    obtain rfl := Option.some.inj h
    exact fun v hv => absurd hv List.not_mem_nil
  | cons member members ih =>
    obtain ⟨key, -, h⟩ := Option.bind_eq_some_iff.mp h
    obtain ⟨first, hf, h⟩ := Option.bind_eq_some_iff.mp h
    obtain ⟨rest, hr, h⟩ := Option.bind_eq_some_iff.mp h
    obtain rfl := Option.some.inj h
    exact List.forall_mem_cons.mpr ⟨hp member.2 first hf, ih hr⟩

end

/-- Objects are read in key order. The parts of a value are read with less room for nesting than the
value, and the induction is on this room. -/
theorem ordered_of_ofWritten? {depth : Nat} {written : Written} {value : Json}
    (h : ofWritten? depth written = some value) : value.Ordered := by
  induction depth using Nat.strongRecOn generalizing written value with
  | ind depth ih =>
    cases written with
    | null => exact Option.some.inj h ▸ .null
    | boolean b => exact Option.some.inj h ▸ .boolean b
    | number n =>
      obtain ⟨number, -, rfl⟩ := Option.map_eq_some_iff.mp h
      exact .number number
    | string text =>
      obtain ⟨s, -, rfl⟩ := Option.map_eq_some_iff.mp h
      exact .string s
    | array elements =>
      cases depth with
      | zero => cases h
      | succ depth =>
        obtain ⟨values, hv, rfl⟩ := Option.map_eq_some_iff.mp h
        have hpart : ∀ w v, ofWritten? depth w = some v → v.Ordered :=
          fun _ _ hw => ih depth (by omega) hw
        exact .array (forall_mem_of_elementsOfWritten? hpart hv)
    | object members =>
      cases depth with
      | zero => cases h
      | succ depth =>
        obtain ⟨values, hv, rfl⟩ := Option.map_eq_some_iff.mp h
        have hpart : ∀ w v, ofWritten? depth w = some v → v.Ordered :=
          fun _ _ hw => ih depth (by omega) hw
        exact .object (KeyMap.ofList_ascending values)
          (KeyMap.forall_mem_ofList (forall_mem_of_membersOfWritten? hpart hv))

end Json

namespace Reply

/-- The value of a reply is a part of what was written, or null if there is none. -/
theorem value_of_ofWritten? {depth : Nat} {written : Json.Written} {reply : Reply}
    (h : ofWritten? depth written = some reply) :
    reply.value = .null ∨ ∃ part, Json.ofWritten? depth part = some reply.value := by
  unfold ofWritten? at h
  obtain ⟨members, -, h⟩ := Option.bind_eq_some_iff.mp h
  obtain ⟨echo, -, h⟩ := Option.bind_eq_some_iff.mp h
  obtain ⟨request, -, h⟩ := Option.bind_eq_some_iff.mp h
  -- the members behind the value, and among these the ones behind the timestamp, do not touch it
  extract_lets rest at h
  have hrest : ∀ value, rest value = some reply → reply.value = value := by
    intro value hr
    obtain ⟨status, -, hr⟩ := Option.bind_eq_some_iff.mp hr
    obtain ⟨_, -, hr⟩ := Option.bind_eq_some_iff.mp hr
    extract_lets last at hr
    have hlast : ∀ timestamp, last timestamp = some reply → reply.value = value := by
      intro timestamp hl
      obtain ⟨_, -, hl⟩ := Option.bind_eq_some_iff.mp hl
      obtain ⟨_, -, hl⟩ := Option.bind_eq_some_iff.mp hl
      obtain rfl := Option.some.inj hl
      rfl
    split at hr
    · obtain ⟨_, -, hr⟩ := Option.bind_eq_some_iff.mp hr
      exact hlast _ hr
    · exact hlast _ hr
  split at h
  · rename_i part _
    obtain ⟨value, hv, h⟩ := Option.bind_eq_some_iff.mp h
    exact .inr ⟨part, hrest value h ▸ hv⟩
  · exact .inl (hrest _ h)

theorem ordered_value {text : String} {reply : Reply} (h : ofText text = .ok reply) :
    reply.value.Ordered := by
  unfold ofText at h
  split at h
  · rename_i found hfound
    obtain rfl := Except.ok.inj h
    obtain ⟨written, -, hw⟩ := Option.bind_eq_some_iff.mp hfound
    rcases value_of_ofWritten? hw with hnull | ⟨part, hpart⟩
    · rw [hnull]
      exact .null
    · exact Json.ordered_of_ofWritten? hpart
  · cases h

end Reply
end BeanMetrics
