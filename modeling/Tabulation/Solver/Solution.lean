/-
What a run has found out: the edges with their reasons, the facts at each statement, the summaries and
the findings. All parts are kept as lists; no part depends on the order of another.
-/

import Tabulation.Solver.Edge

namespace Tabulation

variable {S F : Type}

/-- The content of one or several stores. `reasons` has a pair for each reason of each edge, and `facts`
a vertex for each fact at each statement. -/
structure Solution (S F : Type) where
  edges : List (Edge S F) := []
  reasons : List (Edge S F × Reason S F) := []
  facts : List (Vertex S F) := []
  summaries : List (Edge S F) := []
  findings : List (Finding S F) := []
deriving Repr, DecidableEq, Inhabited

namespace Solution

variable [DecidableEq S] [DecidableEq F]

def edgesEndingAt (data : Solution S F) (v : Vertex S F) : List (Edge S F) :=
  data.edges.filter fun e => e.target == v

def reasonsOf (data : Solution S F) (e : Edge S F) : List (Reason S F) :=
  (data.reasons.filter fun pair => pair.1 == e).map (·.2)

def factsAt (data : Solution S F) (s : S) : List F :=
  (data.facts.filter fun v => v.statement == s).map (·.fact)

def statements (data : Solution S F) : List S := Text.distinct (data.facts.map (·.statement))

/-- The union of several contents, with nothing listed twice. -/
def merge [Hashable S] [Hashable F] (all : List (Solution S F)) : Solution S F where
  edges := Text.distinctByHash (all.flatMap (·.edges))
  reasons := Text.distinctByHash (all.flatMap (·.reasons))
  facts := Text.distinctByHash (all.flatMap (·.facts))
  summaries := Text.distinctByHash (all.flatMap (·.summaries))
  findings := Text.distinctByHash (all.flatMap (·.findings))

/-- The content with every list in the order of the printed parts. -/
def sorted [Shown S] [Shown F] (data : Solution S F) : Solution S F where
  edges := sortByKey Edge.key data.edges
  reasons := sortByKey (fun pair => pair.1.key ++ pair.2.key) data.reasons
  facts := sortByKey Vertex.key data.facts
  summaries := sortByKey Edge.key data.summaries
  findings := sortByKey Finding.key data.findings

end Solution

structure SolutionStats where
  edges : Int := 0
  statements : Int := 0
  facts : Int := 0
  summaries : Int := 0
  findings : Int := 0
deriving Repr, DecidableEq, Inhabited

def Solution.stats [DecidableEq S] (data : Solution S F) : SolutionStats where
  edges := data.edges.length
  statements := (Text.distinct (data.facts.map (·.statement))).length
  facts := data.facts.length
  summaries := data.summaries.length
  findings := data.findings.length

end Tabulation
