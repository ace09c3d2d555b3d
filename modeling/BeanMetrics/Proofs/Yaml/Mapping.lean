import BeanMetrics.Yaml.Node

/-!
What mappings are read as. A block mapping of plain scalars gives its members in their order, and so does
one that is the only member of a document.
-/

namespace BeanMetrics
namespace Yaml.Node

variable {fuel : Nat} {rest : List Token} {anchors : List (String × Node)}

theorem read_scalar (block entries : Bool) (style : Style) (text : String) :
    read (fuel + 1) block entries ⟨.scalar style text :: rest, anchors⟩ =
      some (.scalar style none text, ⟨rest, anchors⟩) := by
  simp [read, read.content, properties]

theorem read_blockMapping {pairs : List (Node × Node)} {r : Reading}
    (h : read.blockPairs fuel ⟨rest, anchors⟩ = some (pairs, r)) (entries : Bool) :
    read (fuel + 1) true entries ⟨.blockMappingStart :: rest, anchors⟩ = some (.mapping pairs, r) := by
  simp [read, read.content, properties, Reading.next, h]

theorem blockPairs_end :
    read.blockPairs (fuel + 1) ⟨.blockEnd :: rest, anchors⟩ = some ([], ⟨rest, anchors⟩) := by
  simp [read.blockPairs, Reading.next]

theorem readUnless_eq_read {ends : List Token} {first : Token} (h : ends.contains first = false)
    (block entries : Bool) :
    read.readUnless fuel ends block entries ⟨first :: rest, anchors⟩ =
      read fuel block entries ⟨first :: rest, anchors⟩ := by
  have hat : Reading.isAt ⟨first :: rest, anchors⟩ ends = false := h
  simp [read.readUnless, hat]

/-- A member whose value is there, and the members behind it. -/
theorem blockPairs_cons {key : String} {first : Token} {value : Node} {pairs : List (Node × Node)}
    {after r : Reading} (hf : [Token.key, .value, .blockEnd].contains first = false)
    (hv : read (fuel + 1) true true ⟨first :: rest, anchors⟩ = some (value, after))
    (hp : read.blockPairs (fuel + 1) after = some (pairs, r)) :
    read.blockPairs (fuel + 2) ⟨.key :: .scalar .plain key :: .value :: first :: rest, anchors⟩ =
      some ((.scalar .plain none key, value) :: pairs, r) := by
  have hk : Reading.isAt ⟨.value :: first :: rest, anchors⟩ [.value] = true := rfl
  rw [read.blockPairs]
  dsimp only [Reading.next, List.tail_cons]
  rw [readUnless_eq_read (by rfl), read_scalar]
  simp only [Option.bind_eq_bind, Option.bind_some, hk, if_true, List.tail_cons]
  rw [readUnless_eq_read hf, hv, Option.bind_some, hp]
  rfl

def memberTokens (member : String × String) : List Token :=
  [.key, .scalar .plain member.1, .value, .scalar .plain member.2]

def memberPair (member : String × String) : Node × Node :=
  (.scalar .plain none member.1, .scalar .plain none member.2)

theorem blockPairs_members (members : List (String × String)) (n : Nat) :
    read.blockPairs (members.length + n + 1)
        ⟨members.flatMap memberTokens ++ .blockEnd :: rest, anchors⟩ =
      some (members.map memberPair, ⟨rest, anchors⟩) := by
  induction members with
  | nil => exact blockPairs_end
  | cons member members ih =>
    have hfuel : (member :: members).length + n + 1 = members.length + n + 2 := by
      simp only [List.length_cons]
      omega
    rw [hfuel]
    exact blockPairs_cons rfl (read_scalar ..) ih

theorem length_le_flatMap (members : List (String × String)) :
    members.length ≤ (members.flatMap memberTokens).length := by
  induction members with
  | nil => simp
  | cons member members ih =>
    simp only [List.flatMap_cons, List.length_append, List.length_cons, memberTokens]
    omega

/-- A document of one section, whose members are plain scalars. -/
theorem ofTokens?_section (name : String) (members : List (String × String)) :
    ofTokens? (.blockMappingStart :: .key :: .scalar .plain name :: .value :: .blockMappingStart ::
        (members.flatMap memberTokens ++ [.blockEnd, .blockEnd])) =
      some (.mapping [(.scalar .plain none name, .mapping (members.map memberPair))]) := by
  generalize ht : members.flatMap memberTokens ++ [.blockEnd, .blockEnd] = tokens
  -- there is fuel for every token, so there is for the members
  have hlength : members.length ≤ tokens.length := by
    have hl := length_le_flatMap members
    rw [← ht, List.length_append]
    omega
  obtain ⟨n, hfuel⟩ : ∃ n, 4 * (tokens.length + 5) + 4 = members.length + n + 4 :=
    ⟨4 * (tokens.length + 5) - members.length, by omega⟩
  have hmembers : read (members.length + n + 2) true true ⟨.blockMappingStart :: tokens, []⟩ =
      some (.mapping (members.map memberPair), ⟨[.blockEnd], []⟩) := by
    rw [← ht]
    exact read_blockMapping (blockPairs_members members n) true
  have hsection : read.blockPairs (members.length + n + 3)
      ⟨.key :: .scalar .plain name :: .value :: .blockMappingStart :: tokens, []⟩ =
      some ([(.scalar .plain none name, .mapping (members.map memberPair))], ⟨[], []⟩) :=
    blockPairs_cons rfl hmembers blockPairs_end
  have hread := read_blockMapping hsection false
  simp [ofTokens?, hfuel, hread]

end Yaml.Node
end BeanMetrics
