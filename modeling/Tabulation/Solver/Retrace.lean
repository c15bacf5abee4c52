/-
The derivations of a vertex, followed back through the groups of a content.

The search goes from a visited edge to the edges it was derived from before it looks at the next reason.
Nothing is asked of the content: an edge may lack its reasons, reasons may go round in circles or name
edges that are not there, and under a vertex there may be edges that end elsewhere.
-/

import Tabulation.Solver.Ledger
import Tabulation.Solver.Trace

namespace Tabulation

variable {S F : Type}

/-- What a search has visited and found: the edges it came to, each with a vertex it leads to, and the
graph. -/
structure Retraced (S F : Type) where
  visited : List (Edge S F × Vertex S F) := []
  graph : TraceGraph S F
deriving Repr, DecidableEq

/-- Follows one reason of a visited edge: what it adds, then the visits that come next, each with
all that `search` does there. -/
def Retraced.follow [DecidableEq S] [DecidableEq F]
    (search : Retraced S F → TraceVisit S F → Option (Retraced S F)) (visit : TraceVisit S F)
    (state : Retraced S F) (reason : Reason S F) : Option (Retraced S F) :=
  let (graph, next) := Solution.followReason visit state.graph reason
  next.foldlM search { state with graph }

namespace GroupedSolution

variable [DecidableEq S] [DecidableEq F]

/-- A visit and all visits that follow, in their order. There is no outcome if the search goes
deeper than `depth`. -/
def retrace (data : GroupedSolution S F) (zero : F) :
    (depth : Nat) → Retraced S F → TraceVisit S F → Option (Retraced S F)
  | 0, _, _ => none
  | depth + 1, state, visit =>
    let here := visit.edge.target
    if state.visited.contains (visit.edge, visit.last) then some state
    else
      let visited := (visit.edge, visit.last) :: state.visited
      if visit.inCallee && visit.edge.source == here then
        some ⟨visited, state.graph.addEdge visit.edge.source visit.last⟩
      else if here.fact == zero then
        some ⟨visited, (state.graph.addEdge here visit.last).addSource here⟩
      else
        (data.reasons.values visit.edge).foldlM (Retraced.follow (data.retrace zero depth) visit)
          { state with visited }

/-- The graph of the derivations of a vertex. The search begins with the edges that stand under it. -/
def traceGraph? (data : GroupedSolution S F) (sink : Vertex S F) (zero : F) (depth : Nat) :
    Option (TraceGraph S F) :=
  ((data.edgesByEnd.values sink).foldlM
    (fun state edge => data.retrace zero depth state ⟨edge, edge.target, false⟩)
    { graph := { sink } }).map (·.graph)

end GroupedSolution

/-- A content in groups: edges under their ends, facts under their statements, and reasons under their
edges. -/
def Solution.grouped [DecidableEq S] [DecidableEq F] (data : Solution S F) : GroupedSolution S F where
  edgesByEnd := data.edges.foldl (fun groups edge => groups.push edge.target edge) []
  factsByStatement := data.facts.foldl (fun groups v => groups.push v.statement v.fact) []
  reasons := data.reasons.foldl (fun groups pair => groups.push pair.1 pair.2) []
  findings := data.findings
  summaries := data.summaries

end Tabulation
