/-! # Values under names

An association list in increasing order of its names, each name once. Names are ordered by their
code points.
-/

namespace Polydialect

/-- Pairs of a name and a value. -/
abbrev Keyed (α : Type) := List (String × α)

namespace Keyed

variable {α : Type}

/-- Puts a value under a name, in its place, instead of an older value there. -/
def insert (k : String) (v : α) : Keyed α → Keyed α
  | [] => [(k, v)]
  | p :: r =>
    if k < p.1 then (k, v) :: p :: r
    else if k = p.1 then (k, v) :: r
    else p :: insert k v r

/-- The pairs in order, the last value of each name. -/
def ofPairs (ps : List (String × α)) : Keyed α := ps.foldl (fun m p => insert p.1 p.2 m) []

end Keyed

end Polydialect
