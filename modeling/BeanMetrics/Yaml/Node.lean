import BeanMetrics.Yaml.Token

/-!
The document of a YAML text. A node is a scalar, a sequence or a mapping; what is left out where a
node could stand is an empty plain scalar. A reference stands for the node with that anchor in front
of it. A text holds at most one document, and a text without one is the empty scalar.
-/

namespace BeanMetrics
namespace Yaml

inductive Node where
  | scalar (style : Style) (tag : Option String) (text : String)
  | sequence (elements : List Node)
  | mapping (pairs : List (Node × Node))
  deriving Inhabited, Repr

namespace Node

/-- What stands where nothing is written. -/
def empty : Node := .scalar .plain none ""

/-- The tokens to come, and the nodes that have anchors. -/
structure Reading where
  tokens : List Token
  anchors : List (String × Node)

def Reading.isAt (r : Reading) (ts : List Token) : Bool :=
  match r.tokens with
  | t :: _ => ts.contains t
  | [] => false

def Reading.next (r : Reading) : Reading := { r with tokens := r.tokens.tail }

/-- The properties in front of a node: an anchor and a tag, in either order. -/
def properties (r : Reading) : Option String × Option String × Reading :=
  match r.tokens with
  | .anchor a :: .tag t :: rest => (some a, some t, { r with tokens := rest })
  | .tag t :: .anchor a :: rest => (some a, some t, { r with tokens := rest })
  | .anchor a :: rest => (some a, none, { r with tokens := rest })
  | .tag t :: rest => (none, some t, { r with tokens := rest })
  | _ => (none, none, r)

/-- A node at the head of the tokens. `block` says whether it may be a block collection, `entries`
whether it may be a sequence that is not indented more than its mapping. -/
def read : Nat → Bool → Bool → Reading → Option (Node × Reading)
  | 0, _, _, _ => none
  | fuel + 1, block, entries, r =>
    match r.tokens with
    | .reference name :: rest => (r.anchors.lookup name).map (·, { r with tokens := rest })
    | _ => do
      let (anchor, tag, r) := properties r
      let (node, r) ← content fuel block entries (anchor.isSome || tag.isSome) tag r
      let anchors := match anchor with
        | some name => (name, node) :: r.anchors
        | none => r.anchors
      return (node, { r with anchors })
where
  content (fuel : Nat) (block entries described : Bool) (tag : Option String) (r : Reading) :
      Option (Node × Reading) :=
    match r.tokens with
    | .blockEntry :: _ =>
      if entries then (plainEntries fuel r).map fun (elements, r) => (.sequence elements, r)
      else if described then some (.scalar .plain tag "", r) else none
    | .scalar style text :: rest => some (.scalar style tag text, { r with tokens := rest })
    | .flowSequenceStart :: _ =>
      (flowElements fuel true r.next).map fun (elements, r) => (.sequence elements, r)
    | .flowMappingStart :: _ =>
      (flowPairs fuel true r.next).map fun (pairs, r) => (.mapping pairs, r)
    | .blockSequenceStart :: _ =>
      if block then (blockEntries fuel r.next).map fun (elements, r) => (.sequence elements, r)
      else if described then some (.scalar .plain tag "", r) else none
    | .blockMappingStart :: _ =>
      if block then (blockPairs fuel r.next).map fun (pairs, r) => (.mapping pairs, r)
      else if described then some (.scalar .plain tag "", r) else none
    | _ => if described then some (.scalar .plain tag "", r) else none
  /-- A node, or the empty one if the next token already ends it. -/
  readUnless (fuel : Nat) (ends : List Token) (block entries : Bool) (r : Reading) :
      Option (Node × Reading) :=
    if r.tokens = [] || r.isAt ends then some (.empty, r) else read fuel block entries r
  /-- The entries of a block sequence up to its end. -/
  blockEntries : Nat → Reading → Option (List Node × Reading)
    | 0, _ => none
    | fuel + 1, r =>
      match r.tokens with
      | .blockEntry :: _ => do
        let (element, r) ← readUnless fuel [.blockEntry, .blockEnd] true false r.next
        let (elements, r) ← blockEntries fuel r
        return (element :: elements, r)
      | .blockEnd :: _ => some ([], r.next)
      | _ => none
  /-- The entries of a sequence that is not indented more than its mapping. -/
  plainEntries : Nat → Reading → Option (List Node × Reading)
    | 0, _ => none
    | fuel + 1, r =>
      match r.tokens with
      | .blockEntry :: _ => do
        let (element, r) ←
          readUnless fuel [.blockEntry, .key, .value, .blockEnd] true false r.next
        let (elements, r) ← plainEntries fuel r
        return (element :: elements, r)
      | _ => some ([], r)
  /-- The pairs of a block mapping up to its end. -/
  blockPairs : Nat → Reading → Option (List (Node × Node) × Reading)
    | 0, _ => none
    | fuel + 1, r =>
      match r.tokens with
      | .key :: _ => do
        let ends := [Token.key, .value, .blockEnd]
        let (key, r) ← readUnless fuel ends true true r.next
        let (value, r) ← if r.isAt [.value] then readUnless fuel ends true true r.next
          else some (.empty, r)
        let (pairs, r) ← blockPairs fuel r
        return ((key, value) :: pairs, r)
      | .blockEnd :: _ => some ([], r.next)
      | _ => none
  /-- The elements of a flow sequence up to its end. A key in it makes a mapping of one pair. -/
  flowElements : Nat → Bool → Reading → Option (List Node × Reading)
    | 0, _, _ => none
    | fuel + 1, first, r =>
      if r.isAt [.flowSequenceEnd] then some ([], r.next)
      else do
        let r ← if first then some r else if r.isAt [.flowEntry] then some r.next else none
        if r.isAt [.flowSequenceEnd] then return ([], r.next)
        else
          let (element, r) ←
            if r.isAt [.key] then do
              let (key, r) ←
                readUnless fuel [.value, .flowEntry, .flowSequenceEnd] false false r.next
              let (value, r) ← if r.isAt [.value] then
                  readUnless fuel [.flowEntry, .flowSequenceEnd] false false r.next
                else some (.empty, r)
              some (.mapping [(key, value)], r)
            else read fuel false false r
          let (elements, r) ← flowElements fuel false r
          return (element :: elements, r)
  /-- The pairs of a flow mapping up to its end. -/
  flowPairs : Nat → Bool → Reading → Option (List (Node × Node) × Reading)
    | 0, _, _ => none
    | fuel + 1, first, r =>
      if r.isAt [.flowMappingEnd] then some ([], r.next)
      else do
        let r ← if first then some r else if r.isAt [.flowEntry] then some r.next else none
        if r.isAt [.flowMappingEnd] then return ([], r.next)
        else
          let (pair, r) ←
            if r.isAt [.key] then do
              let (key, r) ←
                readUnless fuel [.value, .flowEntry, .flowMappingEnd] false false r.next
              let (value, r) ← if r.isAt [.value] then
                  readUnless fuel [.flowEntry, .flowMappingEnd] false false r.next
                else some (.empty, r)
              some ((key, value), r)
            else do
              let (key, r) ← read fuel false false r
              some ((key, .empty), r)
          let (pairs, r) ← flowPairs fuel false r
          return (pair :: pairs, r)

def ofTokens? (tokens : List Token) : Option Node :=
  let fuel := 4 * tokens.length + 4
  let afterDirectives := tokens.dropWhile (· = .directive)
  let explicit := afterDirectives.head? = some .documentStart
  if afterDirectives.length < tokens.length && !explicit then none
  else
    let r : Reading := ⟨if explicit then afterDirectives.tail else tokens, []⟩
    if r.tokens = [] then some .empty
    else do
      let (node, r) ←
        if explicit && r.isAt [.documentEnd] then some (.empty, r) else read fuel true false r
      if r.tokens.all (· = .documentEnd) then return node else none

def ofText? (text : String) : Option Node := (tokens? text.toList).bind ofTokens?

end Node
end Yaml
end BeanMetrics
