/-!
Maps from names to values, kept as lists of pairs in ascending order of the names. Two maps with
the same entries are the same list, and walking the list walks the names in order. The order of
strings is by code point.
-/

namespace BeanMetrics

/-- Pairs in ascending order of their first components. -/
abbrev KeyMap (α : Type) := List (String × α)

namespace KeyMap

variable {α β : Type}

/-- The map with `key` bound to `value`; an earlier binding is replaced. -/
def insert (key : String) (value : α) : List (String × α) → List (String × α)
  | [] => [(key, value)]
  | (k, v) :: rest =>
    if key = k then (key, value) :: rest
    else if key < k then (key, value) :: (k, v) :: rest
    else (k, v) :: insert key value rest

/-- The bindings of a list of pairs, the later of two for one key winning. -/
def ofList (pairs : List (String × α)) : List (String × α) :=
  pairs.foldl (fun map (key, value) => insert key value map) []

def get? (key : String) (map : List (String × α)) : Option α := map.lookup key

theorem lookup_cons_eq_ite (key : String) (value : α) (map : List (String × α)) (k : String) :
    ((key, value) :: map).lookup k = if k = key then some value else map.lookup k := by
  by_cases hk : k = key
  · simp [hk]
  · have hb : (k == key) = false := beq_false_of_ne hk
    simp [List.lookup_cons, hb, hk]

/-- Every later key is greater. -/
def Ascending (map : List (String × α)) : Prop := map.Pairwise (·.1 < ·.1)

end KeyMap
end BeanMetrics
