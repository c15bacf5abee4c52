/-
Elementary cycles: closed walks that repeat no id but the first, which is also the last. Every cycle
is found once, from the listed id that comes first among its members. The search blocks an id from
which its start cannot be reached at the moment, and lets it in again once that has changed.
-/

import Tabulation.Digraph.Components

namespace Tabulation.Digraph

variable {α : Type}

/-- A search for the cycles through an id. -/
structure CycleSearch where
  /-- The ids that are not entered now. -/
  blocked : List Nat := []
  /-- Pairs of an id and of another one that is let in again as soon as the first one is. -/
  waiting : List (Nat × Nat) := []
  /-- The cycles found so far, last first. -/
  cycles : List (List Nat) := []
deriving Repr, DecidableEq

/-- Lets ids in again, and with each of them all that wait for it. -/
def unblock : (ids blocked : List Nat) → (waiting : List (Nat × Nat)) →
    List Nat × List (Nat × Nat)
  | [], blocked, waiting => (blocked, waiting)
  | id :: ids, blocked, waiting =>
    if id ∈ blocked then
      let woken := waiting.filter fun pair => pair.1 == id
      unblock (woken.map (·.2) ++ ids) (blocked.filter (· != id))
        (waiting.filter fun pair => pair.1 != id)
    else unblock ids blocked waiting
termination_by ids blocked => (blocked.length, ids.length)
decreasing_by
  · rename_i isBlocked
    have fewer : (blocked.filter (· != id)).length < blocked.length :=
      List.length_filter_lt_length_iff_exists.mpr ⟨id, isBlocked, by simp⟩
    exact Prod.Lex.left _ _ (by simpa using fewer)
  · exact Prod.Lex.right _ (Nat.lt_succ_self _)

namespace CycleSearch

def block (search : CycleSearch) (id : Nat) : CycleSearch :=
  { search with blocked := id :: search.blocked }

/-- Lets an id in again, and all that wait for it. -/
def release (search : CycleSearch) (id : Nat) : CycleSearch :=
  let (blocked, waiting) := unblock [id] search.blocked search.waiting
  { search with blocked, waiting }

/-- Leaves an id blocked until one of its successors is let in again. -/
def await (search : CycleSearch) (id : Nat) (successors : List Nat) : CycleSearch :=
  let pairs := (successors.map fun next => (next, id)).filter (!search.waiting.contains ·)
  { search with waiting := pairs ++ search.waiting }

/-- Notes the cycle that goes along a path and back to its start. The path is given last first. -/
def note (search : CycleSearch) (start : Nat) (path : List Nat) : CycleSearch :=
  { search with cycles := (start :: path).reverse :: search.cycles }

/-- Goes on from the last id of a path to `next`. Beside the search stands whether a cycle was
found since the last id was entered. -/
def extend (start : Nat) (path : List Nat)
    (circuit : CycleSearch → Nat → Option (Bool × CycleSearch)) (state : Bool × CycleSearch)
    (next : Nat) : Option (Bool × CycleSearch) :=
  let (closes, search) := state
  if next == start then some (true, search.note start path)
  else if search.blocked.contains next then some (closes, search)
  else (circuit search next).map fun after => (closes || after.1, after.2)

end CycleSearch

/-- Searches for the cycles that go along a path, given last first, and on through an id back to
`start`, and says whether there are any. There is no result if the path would grow by more than
`depth` ids. -/
def circuit (g : Digraph α) (start : Nat) : (depth : Nat) → (path : List Nat) → CycleSearch →
    (id : Nat) → Option (Bool × CycleSearch)
  | 0, _, _, _ => none
  | depth + 1, path, search, id =>
    ((g.successors id).foldlM
      (CycleSearch.extend start (id :: path) (circuit g start depth (id :: path)))
      (false, search.block id)).map fun (closes, after) =>
        if closes then (true, after.release id)
        else (false, after.await id (g.successors id))

section Enumeration

variable (find : Digraph α → List (List Nat))

/-- The component of an id among those that `find` gives. -/
def componentOf (g : Digraph α) (id : Nat) : List Nat :=
  ((find g).find? (·.contains id)).getD [id]

/-- The cycles through `start` whose other ids are among the given ones. -/
def cyclesFrom (g : Digraph α) (start : Nat) (others : List Nat) : Option (List (List Nat)) :=
  let rest := g.subgraph (start :: others)
  let component := rest.componentOf find start
  if component.length == 1 && !g.hasEdge start start then some []
  else
    ((rest.subgraph component).circuit start (g.order + 1) [] {} start).map fun after =>
      after.2.cycles.reverse

/-- The cycles between the remaining listed ids, each from the first of its ids. -/
def cyclesBetween (g : Digraph α) : List Nat → Option (List (List Nat))
  | [] => some []
  | start :: others => do
    let cycles ← g.cyclesFrom find start others
    let more ← cyclesBetween g others
    return cycles ++ more

/-- All elementary cycles of a graph, when `find` gives its strongly connected components. -/
def elementaryCycles? (g : Digraph α) : Option (List (List Nat)) := g.cyclesBetween find g.keys

end Enumeration

def elementaryCycles (g : Digraph α)
    (find : Digraph α → List (List Nat) := strongComponents) : List (List Nat) :=
  (g.elementaryCycles? find).getD []

end Tabulation.Digraph
