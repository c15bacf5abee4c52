/-
Directed graphs over dense ids. The values of a graph are numbered from zero: first the listed ones
in order of first occurrence, then those that are only discovered as successors.
-/

import Tabulation.Search

namespace Tabulation

/-- A directed graph. `values` holds the value of every id, `rows` the successors of every id in
increasing order, and `keys` the ids that are listed as nodes. -/
structure Digraph (α : Type) where
  values : List α
  keys : List Nat
  rows : Array (List Nat)
deriving Repr, Inhabited

namespace Digraph

variable {α : Type}

/-- Increasing order without repetition. -/
def sortedIds (ids : List Nat) : List Nat :=
  (Text.distinct ids).mergeSort fun a b => Nat.ble a b

/-- The graph of the listed nodes and all that their successors lead to, when these are at most
`bound` values. -/
def explore [DecidableEq α] (bound : Nat) (nodes : List α) (successors : α → List α) : Digraph α :=
  let values := Search.reach bound successors nodes
  { values := values
    keys := List.range values.length
    rows := (values.map fun value => sortedIds ((successors value).map values.idxOf)).toArray }

def order (g : Digraph α) : Nat := g.values.length

def value? (g : Digraph α) (id : Nat) : Option α := g.values[id]?

/-- The ids that an id leads to, in increasing order. -/
def successors (g : Digraph α) (id : Nat) : List Nat := (g.rows[id]?).getD []

/-- Whether there is an edge between two ids, in this direction. -/
def hasEdge (g : Digraph α) (source target : Nat) : Bool := (g.successors source).contains target

/-- Whether there is an edge between two ids, in any direction. -/
def hasEdgeBetween (g : Digraph α) (a b : Nat) : Bool := g.hasEdge a b || g.hasEdge b a

def hasNode (g : Digraph α) (id : Nat) : Bool := Nat.blt id g.order

/-- The listed ids that lead to an id, in the order of the list. -/
def predecessors (g : Digraph α) (id : Nat) : List Nat := g.keys.filter fun key => g.hasEdge key id

/-- The listed nodes. An id without a value is shown as the first one. -/
def nodes (g : Digraph α) : List Nat := g.keys.map fun key => if g.hasNode key then key else 0

/-- The part of a graph between the included ids. Ids, values and order stay the same. -/
def subgraph (g : Digraph α) (included : List Nat) : Digraph α :=
  { values := g.values
    keys := included
    rows := g.rows.mapIdx fun id row =>
      if included.contains id then row.filter included.contains else [] }

/-- Visits the successors of an id in order, up to the first one that `stop` accepts. The result
lists the visited ones and says whether one was accepted. -/
def visit (g : Digraph α) (id : Nat) (stop : Nat → Bool) : List Nat × Bool :=
  let row := g.successors id
  match row.findIdx? stop with
  | some position => (row.take (position + 1), true)
  | none => (row, false)

/-- All edges between ids, in the order of their source, then of their target. -/
def edges (g : Digraph α) : List (Nat × Nat) :=
  (List.range g.order).flatMap fun id => (g.successors id).map fun target => (id, target)

def size (g : Digraph α) : Nat := g.edges.length

def loops (g : Digraph α) : Nat := (g.edges.filter fun edge => edge.1 == edge.2).length

def onCycle (g : Digraph α) (id : Nat) : Bool :=
  (Search.reach (g.order + 1) g.successors (g.successors id)).contains id

/-- Whether no id can reach itself. -/
def isAcyclic (g : Digraph α) : Bool := (List.range g.order).all fun id => !g.onCycle id

end Digraph

end Tabulation
