/-!
# Entries

Maps that remember the order in which their keys first came.  A map is a list of pairs; `put` gives a key a value, in place when the key is there and at the end when it is not, so a map built by `put` holds no key twice and its keys stand in order of first appearance.
-/

namespace FleetHealth.Entries

variable {κ ν : Type} [BEq κ]

/-- The map with a key given a value. -/
def put (k : κ) (v : ν) : List (κ × ν) → List (κ × ν)
  | []      => [(k, v)]
  | e :: es => if e.1 == k then (e.1, v) :: es else e :: put k v es

/-- The map with all pairs of a list put into it, in order. -/
def putAll (es fresh : List (κ × ν)) : List (κ × ν) :=
  fresh.foldl (fun m e => put e.1 e.2 m) es

/-- The map that a list of pairs builds: of a repeated key the first place and the last value. -/
def ofPairs (es : List (κ × ν)) : List (κ × ν) := putAll [] es

/-- Whether a key has a value. -/
def has (k : κ) (es : List (κ × ν)) : Bool := es.any fun e => e.1 == k

/-- The value of a key. -/
def get? (k : κ) : List (κ × ν) → Option ν
  | []      => none
  | e :: es => if e.1 == k then some e.2 else get? k es

/-- The map without a key. -/
def remove (k : κ) (es : List (κ × ν)) : List (κ × ν) := es.filter fun e => !(e.1 == k)

end FleetHealth.Entries
