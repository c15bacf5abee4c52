/-
Strongly connected components. A depth-first walk numbers the ids in the order in which it finds them
and keeps them open until their component is complete: when the walk is done with an id from which no
open id with a smaller number can be reached, then all that was opened since is one component.
-/

import Tabulation.Digraph.Basic

namespace Tabulation.Digraph

variable {α : Type}

/-- A depth-first walk. -/
structure Walk where
  /-- The ids found so far, last first. -/
  found : List Nat := []
  /-- The found ids whose component is not complete, last first. -/
  opened : List Nat := []
  /-- The complete components in the order of their completion, the members last found first. -/
  complete : List (List Nat) := []
deriving Repr, DecidableEq

namespace Walk

/-- The number of an id that was found. Numbers count from one. -/
def number (walk : Walk) (id : Nat) : Nat := walk.found.length - walk.found.idxOf id

def enter (walk : Walk) (id : Nat) : Walk :=
  { walk with found := id :: walk.found, opened := id :: walk.opened }

/-- Completes the component of all ids that were opened since `id`, and of `id` itself. -/
def close (walk : Walk) (id : Nat) : Walk :=
  let since := walk.opened.takeWhile (· != id)
  { walk with
    opened := walk.opened.drop (since.length + 1)
    complete := walk.complete ++ [since ++ [id]] }

/-- Follows an edge to `next`. The number beside the walk is the smallest one of an open id that is
known to be reached from where the edge starts; an id that was not found yet is connected first. -/
def follow (connect : Walk → Nat → Walk × Nat) (state : Walk × Nat) (next : Nat) : Walk × Nat :=
  let (walk, low) := state
  if walk.found.contains next then
    if walk.opened.contains next then (walk, min low (walk.number next)) else (walk, low)
  else
    let (after, lowOfNext) := connect walk next
    (after, min low lowOfNext)

end Walk

/-- Walks from an id that was not found before, and gives the smallest number of an open id that is
known to be reached from it. `depth` bounds the depth of the walk. -/
def connect (g : Digraph α) : (depth : Nat) → Walk → (id : Nat) → Walk × Nat
  | 0, walk, _ => (walk, 0)
  | depth + 1, walk, id =>
    let entered := walk.enter id
    let (inside, low) :=
      (g.successors id).foldl (Walk.follow (connect g depth)) (entered, entered.number id)
    if low == inside.number id then (inside.close id, low) else (inside, low)

/-- Walks from an id, unless it was found before. -/
def visitRoot (g : Digraph α) (walk : Walk) (id : Nat) : Walk :=
  if walk.found.contains id then walk else (g.connect (g.order + 1) walk id).1

/-- The components of what can be reached from ids, in the order in which they are completed: a
component comes after every component that it reaches. -/
def componentsFrom (g : Digraph α) (roots : List Nat) : List (List Nat) :=
  (roots.foldl g.visitRoot {}).complete

def components (g : Digraph α) : List (List Nat) := g.componentsFrom g.keys

/-- The components of all ids, listed or not. -/
def strongComponents (g : Digraph α) : List (List Nat) := g.componentsFrom (List.range g.order)

/-- The components of the graph of listed nodes and successors, as values, when `find` gives those of a
graph. -/
def componentsOf [DecidableEq α] (bound : Nat) (nodes : List α) (successors : α → List α)
    (find : Digraph α → List (List Nat) := components) : List (List α) :=
  let g := explore bound nodes successors
  (find g).map fun ids => ids.filterMap g.value?

end Tabulation.Digraph
