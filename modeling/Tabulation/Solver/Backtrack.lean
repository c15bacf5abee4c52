/-
Traces as a search finds them that goes back and forth on one path.

The path stands in an array, and a slice of the array is the path so far. A longer path is written
over what a path that was given up left in the array, as long as there is room; otherwise it moves
to an array of its own. Which vertices are on the path is marked, and a mark is taken back when the
search goes back. A trace that was found is copied, since the search goes on to write over its path.
-/

import Tabulation.Solver.Trace

namespace Tabulation

/-- The front of an array. -/
structure Slice where
  array : Nat
  length : Nat
deriving Repr, DecidableEq

namespace Slice

/-- The slice of an array without cells, which is there from the beginning. -/
def empty : Slice := ⟨0, 0⟩

end Slice

/-- The arrays that were made so far, by number. A cell into which nothing was written holds nothing. -/
structure Memory (α : Type) where
  arrays : List (List (Option α)) := [[]]
deriving Repr, DecidableEq

namespace Memory

variable {α : Type}

def cells (memory : Memory α) (array : Nat) : List (Option α) := memory.arrays.getD array []

def read (memory : Memory α) (slice : Slice) : List α :=
  ((memory.cells slice.array).take slice.length).filterMap id

def allocate (memory : Memory α) (values : List α) (spare : Nat) : Slice × Memory α :=
  (⟨memory.arrays.length, values.length⟩,
    ⟨memory.arrays ++ [values.map some ++ List.replicate spare none]⟩)

/-- A slice and one more value. The value goes into the next cell of the array if there is one, whatever
stands there; if there is none, everything goes into a new array. `spare` says for each number of values
how many cells a new array for them has to spare. -/
def append (spare : Nat → Nat) (memory : Memory α) (slice : Slice) (value : α) : Slice × Memory α :=
  if slice.length < (memory.cells slice.array).length then
    (⟨slice.array, slice.length + 1⟩,
      ⟨memory.arrays.set slice.array ((memory.cells slice.array).set slice.length (some value))⟩)
  else memory.allocate (memory.read slice ++ [value]) (spare (slice.length + 1))

end Memory

/-- A search that goes back and forth: the memory, the vertices that are marked, and the traces. -/
structure Backtrack (V : Type) where
  memory : Memory V := {}
  onTrace : List V := []
  traces : List Slice := []
deriving Repr, DecidableEq

namespace Backtrack

variable {V : Type} [DecidableEq V]

def emit (spare : Nat → Nat) (state : Backtrack V) (trace : Slice) : Backtrack V :=
  let values := state.memory.read trace
  let (copy, memory) := state.memory.allocate values (spare values.length)
  { state with memory, traces := state.traces ++ [copy] }

/-- Goes on to a vertex, unless it is on the path: marks it, writes it behind the path, searches from
there, and takes the mark back. -/
def enter (spare : Nat → Nat) (walk : Slice → Backtrack V → Option (Backtrack V)) (trace : Slice)
    (state : Backtrack V) (u : V) : Option (Backtrack V) :=
  if u ∈ state.onTrace then some state
  else do
    let (longer, memory) := state.memory.append spare trace u
    let after ← walk longer { state with memory, onTrace := u :: state.onTrace }
    return { after with onTrace := after.onTrace.filter (· ≠ u) }

/-- Goes on from the last vertex of a path. `order` says for each path in which order what follows
its last vertex comes. There is no outcome if the search goes deeper than `depth`, or if the path is
empty. -/
def walk (spare : Nat → Nat) (order : List V → List V) (sink : V) :
    (depth : Nat) → Slice → Backtrack V → Option (Backtrack V)
  | 0, _, _ => none
  | depth + 1, trace, state => do
    let path := state.memory.read trace
    let v ← path.getLast?
    if v = sink then return state.emit spare trace
    else (order path).foldlM (enter spare (walk spare order sink depth) trace) state

/-- The traces that were found, as they stand in the memory in the end. -/
def found (state : Backtrack V) : List (List V) := state.traces.map state.memory.read

end Backtrack

namespace TraceGraph

variable {S F : Type} [DecidableEq S] [DecidableEq F]

/-- An order in which the sources come, and for each path one in which the vertices come to which an
edge leads from its last vertex. Each comes once. -/
structure Enumeration (g : TraceGraph S F) where
  sources : List (Vertex S F)
  next : List (Vertex S F) → List (Vertex S F)
  nodup_sources : sources.Nodup
  mem_sources : ∀ v, v ∈ sources ↔ v ∈ g.sources
  nodup_next : ∀ path, (next path).Nodup
  mem_next : ∀ before v u, u ∈ next (before ++ [v]) ↔ (v, u) ∈ g.edges

/-- The search from one source after the other. The marks of a source are taken back before the next. -/
def backtrack (g : TraceGraph S F) (spare : Nat → Nat) (enumeration : g.Enumeration) (depth : Nat) :
    Option (Backtrack (Vertex S F)) :=
  enumeration.sources.foldlM
    (Backtrack.enter spare (Backtrack.walk spare enumeration.next g.sink depth) .empty) {}

end TraceGraph

end Tabulation
