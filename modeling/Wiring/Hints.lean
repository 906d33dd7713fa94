import Wiring.Component
import Wiring.Hints.Sorting
/-!
# Hints — the order that components ask for

A component may name others that it wants to come after or before.  The hints are edges between positions of
the list; an order that honours them all exists unless they run in a circle.
-/
namespace Wiring
namespace Hints

/-- The position that an id denotes: the last component with that id. -/
def denoted? (cs : List Component) (id : String) : Option Nat :=
  ((cs.zipIdx.filter fun p => p.1.id == id).getLast?).map (·.2)

/-- The position that an id in a hint of another position denotes. -/
def other? (cs : List Component) (i : Nat) (id : String) : Option Nat :=
  (denoted? cs id).bind fun j => if j = i then none else some j

/-- The edges that the component at a position asks for.  Ids of no component and of itself ask for nothing. -/
def edgesOf (cs : List Component) (c : Component) (i : Nat) : List Edge :=
  (c.after.filterMap (other? cs i)).map (fun j => (j, i)) ++ (c.before.filterMap (other? cs i)).map fun j => (i, j)

def edges (cs : List Component) : List Edge := cs.zipIdx.flatMap fun p => edgesOf cs p.1 p.2

/-- Follows edges in depth from a position at the end of a path.  The first edge back onto the path closes a
circle, which is the error; else the answer is all positions visited so far. -/
def visit (es : List Edge) (n : Nat) : Nat → List Nat → List Nat → Nat → Except (List Nat) (List Nat)
  | 0, _, visited, _ => .ok visited
  | fuel + 1, path, visited, i =>
    let here := path ++ [i]
    (successors es n i).foldlM (fun visited j =>
      if here.contains j then .error (here.dropWhile (· != j) ++ [j])
      else if visited.contains j then .ok visited
      else visit es n fuel here visited j) (i :: visited)

/-- A circle of edges as a closed path, found from the least position that reaches one. -/
def circle (es : List Edge) (n : Nat) : List Nat :=
  match (List.range n).foldlM (fun visited i =>
      if visited.contains i then .ok visited else visit es n n [] visited i) [] with
  | .error path => path
  | .ok _ => []

/-- The positions in the order asked for: among those that may come next, the least comes.  If the hints run in
a circle, it is the error. -/
def order (cs : List Component) : Except (List Nat) (List Nat) :=
  let taken := sorted (edges cs) cs.length
  if taken.length = cs.length then .ok taken else .error (circle (edges cs) cs.length)

end Hints
end Wiring
