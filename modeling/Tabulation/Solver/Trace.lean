/-
Traces: how the fact of a finding came about. The derivations of a vertex are followed backwards through
the reasons of the edges that end there; what is found is a graph from sources to the vertex, and its
paths without repetition are the traces.
-/

import Tabulation.Solver.Solution

namespace Tabulation

variable {S F : Type}

/-- The graph of vertices that lead from the sources to a sink. -/
structure TraceGraph (S F : Type) where
  sink : Vertex S F
  sources : List (Vertex S F) := []
  edges : List (Vertex S F × Vertex S F) := []
deriving Repr, DecidableEq

namespace TraceGraph

variable [DecidableEq S] [DecidableEq F]

def addSource (g : TraceGraph S F) (v : Vertex S F) : TraceGraph S F :=
  if g.sources.contains v then g else { g with sources := v :: g.sources }

/-- Adds an edge. An edge from a vertex to itself says nothing. -/
def addEdge (g : TraceGraph S F) (u v : Vertex S F) : TraceGraph S F :=
  if u == v || g.edges.contains (u, v) then g else { g with edges := (u, v) :: g.edges }

def successors (g : TraceGraph S F) (v : Vertex S F) : List (Vertex S F) :=
  (g.edges.filter fun e => e.1 == v).map (·.2)

/-- The paths without repetition from a vertex to the sink. `before` are the vertices on the way so far,
the last one first; `fuel` bounds the length of the path. -/
def pathsFrom (g : TraceGraph S F) :
    (fuel : Nat) → (before : List (Vertex S F)) → Vertex S F → List (List (Vertex S F))
  | 0, _, _ => []
  | fuel + 1, before, v =>
    if v == g.sink then [(v :: before).reverse]
    else
      ((g.successors v).filter fun u => !(v :: before).contains u).flatMap
        (g.pathsFrom fuel (v :: before))

/-- All traces: the paths without repetition from a source to the sink. -/
def traces (g : TraceGraph S F) : List (List (Vertex S F)) :=
  g.sources.flatMap (g.pathsFrom (g.edges.length + 1) [])

end TraceGraph

/-- A step of the backward search: an edge whose derivations are followed, the vertex it leads to, and
whether the search stays inside the method of the edge. -/
structure TraceVisit (S F : Type) where
  edge : Edge S F
  last : Vertex S F
  inCallee : Bool
deriving Repr, DecidableEq

namespace Solution

variable [DecidableEq S] [DecidableEq F]

/-- What a reason adds to the trace graph, and the visits that follow, in their order. -/
def followReason (visit : TraceVisit S F) (g : TraceGraph S F) (reason : Reason S F) :
    TraceGraph S F × List (TraceVisit S F) :=
  let here := visit.edge.target
  let previous := reason.edge
  match reason.kind with
  | .initial | .fromOtherRunner => ((g.addSource here).addEdge here visit.last, [])
  | .sequent | .callToReturn =>
    if previous.target.fact == here.fact then (g, [⟨previous, visit.last, visit.inCallee⟩])
    else
      (g.addEdge previous.target visit.last, [⟨previous, previous.target, visit.inCallee⟩])
  | .callToStart =>
    if visit.inCallee then (g, [])
    else (g.addEdge previous.target visit.last, [⟨previous, previous.target, false⟩])
  | .exitToReturn =>
    let summary := reason.summary
    ((g.addEdge summary.target visit.last).addEdge previous.target summary.source,
      [⟨summary, summary.target, true⟩, ⟨previous, previous.target, visit.inCallee⟩])
  | .other _ => (g, [])

/-- What all reasons of a visited edge add, and the visits that follow. Inside a callee the search
ends at the start of the method, and anywhere at the zero fact. -/
def follow (data : Solution S F) (zero : F) (visit : TraceVisit S F) (g : TraceGraph S F) :
    TraceGraph S F × List (TraceVisit S F) :=
  let here := visit.edge.target
  if visit.inCallee && visit.edge.source == here then (g.addEdge visit.edge.source visit.last, [])
  else if here.fact == zero then ((g.addEdge here visit.last).addSource here, [])
  else
    (data.reasonsOf visit.edge).foldl
      (fun (acc : TraceGraph S F × List (TraceVisit S F)) reason =>
        let (g, more) := followReason visit acc.1 reason
        (g, acc.2 ++ more)) (g, [])

/-- Depth-first search. An edge is visited once for each vertex it leads to, and the first visit decides
whether the search stays inside the method. -/
def search (data : Solution S F) (zero : F) :
    (fuel : Nat) → (visited : List (Edge S F × Vertex S F)) → List (TraceVisit S F) →
      TraceGraph S F → TraceGraph S F
  | 0, _, _, g => g
  | _ + 1, _, [], g => g
  | fuel + 1, visited, visit :: rest, g =>
    if visited.contains (visit.edge, visit.last) then data.search zero fuel visited rest g
    else
      let (g, more) := data.follow zero visit g
      data.search zero fuel ((visit.edge, visit.last) :: visited) (more ++ rest) g

/-- A bound on the length of the search: there are at most `n` edges and `n` vertices to visit, and each
visit is followed by at most `n` others. -/
def searchBound (data : Solution S F) : Nat :=
  let n := data.edges.length + 2 * data.reasons.length + 1
  n * n * n + n + 1

def traceGraph (data : Solution S F) (sink : Vertex S F) (zero : F) : TraceGraph S F :=
  data.search zero data.searchBound []
    ((data.edgesEndingAt sink).map fun e => ⟨e, e.target, false⟩) { sink }

/-- The traces of a vertex, in the order of their printed parts. -/
def tracesOf [Shown S] [Shown F] (data : Solution S F) (sink : Vertex S F) (zero : F) :
    List (List (Vertex S F)) :=
  sortByKey (·.flatMap Vertex.key) (data.traceGraph sink zero).traces

end Solution

end Tabulation
