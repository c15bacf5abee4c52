/-
Directed graphs over ids in tables that grow.

A value gets its id when it is met for the first time, in the list of nodes or as a successor. The
ids are gone through while their list grows, and an edge may lead to an id that is made for it. A
part of a graph has its own ids and edges, and shares everything else.
-/

import Tabulation.Digraph.Basic
import Tabulation.Solver.Ledger

namespace Tabulation

namespace Digraph

/-- A value with its id. -/
structure Node (α : Type) where
  id : Int := 0
  value : α
deriving Repr, DecidableEq, Inhabited

/-- The tables of a graph: the id of each value, the node of each id, the ids of the graph in order,
and under each of them those it leads to. -/
structure Tables (α : Type) where
  order : Nat := 0
  ids : List (α × Int) := []
  nodes : List (Int × Node α) := []
  keys : List Int := []
  edges : Groups Int Int := []
deriving Repr, DecidableEq

namespace Tables

variable {α : Type}

/-! ### Making a graph -/

/-- The id of a value. A new value gets the next one. -/
def add [DecidableEq α] (g : Tables α) (value : α) : Int × Tables α :=
  match g.ids.lookup value with
  | some id => (id, g)
  | none =>
    let id : Int := g.keys.length
    (id,
      { g with
        ids := (value, id) :: g.ids
        nodes := (id, ⟨id, value⟩) :: g.nodes
        keys := g.keys ++ [id]
        edges := g.edges.withKey id })

def link [DecidableEq α] (g : Tables α) (source : Int) (target : α) : Tables α :=
  let (id, g) := g.add target
  { g with edges := g.edges.add source id }

section Nodes

variable [Inhabited α]

def node (g : Tables α) (id : Int) : Node α := (g.nodes.lookup id).getD default

def value (g : Tables α) (id : Int) : α := (g.node id).value

/-- Goes through the ids from a position on, up to the end of their list, and adds the edges of
each. There is no outcome if this takes more than `rounds`. -/
def grow [DecidableEq α] (successors : α → List α) :
    (rounds : Nat) → (position : Nat) → Tables α → Option (Tables α)
  | 0, _, _ => none
  | rounds + 1, position, g =>
    match g.keys[position]? with
    | some key =>
      grow successors rounds (position + 1)
        ((successors (g.value key)).foldl (fun g next => g.link key next) g)
    | none => some { g with order := g.keys.length }

def construct? [DecidableEq α] (rounds : Nat) (nodes : List α) (successors : α → List α) :
    Option (Tables α) :=
  grow successors rounds 0 (nodes.foldl (fun g value => (g.add value).2) {})

end Nodes

/-- The part of a graph between the included ids. -/
def subgraph (g : Tables α) (included : List Int) : Tables α :=
  { g with
    keys := included
    edges := (included.map fun id =>
      (id, (g.edges.values id).filter included.contains)).foldl Groups.addAll [] }

/-! ### Views of the edges -/

/-- The ids that an id leads to, in increasing order. -/
def row (g : Tables α) (id : Int) : List Int :=
  (g.edges.values id).mergeSort fun a b => decide (a ≤ b)

/-- Whether there is an edge between two ids, in this direction. -/
def hasEdge (g : Tables α) (source target : Int) : Bool := (g.edges.values source).contains target

def successors [Inhabited α] (g : Tables α) (id : Int) : List (Node α) := (g.row id).map g.node

/-- The nodes of the graph that lead to an id. -/
def predecessors [Inhabited α] (g : Tables α) (id : Int) : List (Node α) :=
  (g.keys.filter fun key => g.hasEdge key id).map g.node

/-- Calls some code for one id after the other, with the cost of an edge, until it says that this is
enough. -/
def visitEach {σ : Type} (code : σ → Int → Int → Bool × σ) : List Int → σ → Bool × σ
  | [], state => (false, state)
  | id :: rest, state =>
    match code state id 1 with
    | (true, state) => (true, state)
    | (false, state) => visitEach code rest state

/-- Visits the ids that an id leads to. The result says whether the visit was broken off. -/
def visit {σ : Type} (g : Tables α) (id : Int) (code : σ → Int → Int → Bool × σ) (state : σ) :
    Bool × σ :=
  visitEach code (g.row id) state

end Tables

end Digraph

end Tabulation
