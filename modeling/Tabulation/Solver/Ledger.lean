/-
A store that finds what it looks for under keys.

A ledger does what a store does, and goes through no list of items to answer a message: reasons stand
under their edges, summaries under both of their ends, and subscriptions under their vertices. What it
gives out is in groups as well: edges under their ends, facts under their statements.
-/

import Tabulation.Solver.Store

namespace Tabulation

variable {S F M : Type}

abbrev Groups (K V : Type) := List (K × List V)

namespace Groups

variable {K V : Type}

def keys (groups : Groups K V) : List K := groups.map (·.1)

def size (groups : Groups K V) : Nat := groups.foldr (fun group size => group.2.length + size) 0

def pairs (groups : Groups K V) : List (K × V) :=
  groups.flatMap fun group => group.2.map (group.1, ·)

variable [DecidableEq K]

def values (groups : Groups K V) (key : K) : List V := (groups.lookup key).getD []

def push (groups : Groups K V) (key : K) (value : V) : Groups K V :=
  match groups with
  | [] => [(key, [value])]
  | (other, values) :: rest =>
    if other = key then (other, values ++ [value]) :: rest
    else (other, values) :: push rest key value

/-- Puts a value under its key, unless it is there. -/
def add [DecidableEq V] (groups : Groups K V) (key : K) (value : V) : Groups K V :=
  if (groups.values key).contains value then groups else groups.push key value

/-- Makes a key known. A new one has no values. -/
def withKey (groups : Groups K V) (key : K) : Groups K V :=
  if groups.keys.contains key then groups else groups ++ [(key, [])]

/-- Puts all values of a key under it, unless they are there. The key is known even without values. -/
def addAll [DecidableEq V] (groups : Groups K V) (group : K × List V) : Groups K V :=
  group.2.foldl (fun groups value => groups.add group.1 value) (groups.withKey group.1)

end Groups

/-- What a ledger has found out, in groups. -/
structure GroupedSolution (S F : Type) where
  edgesByEnd : Groups (Vertex S F) (Edge S F) := []
  factsByStatement : Groups S F := []
  reasons : Groups (Edge S F) (Reason S F) := []
  findings : List (Finding S F) := []
  summaries : List (Edge S F) := []
deriving Repr, DecidableEq

namespace GroupedSolution

variable [DecidableEq S] [DecidableEq F]

/-- The edges that stand under some end, each once. -/
def edgeSet (data : GroupedSolution S F) : List (Edge S F) :=
  Text.distinct (data.edgesByEnd.flatMap (·.2))

def factsAt (data : GroupedSolution S F) (s : S) : List F := data.factsByStatement.values s

/-- The union of several contents, with nothing listed twice. An edge that is known without a reason
stays known. -/
def merge (all : List (GroupedSolution S F)) : GroupedSolution S F where
  edgesByEnd := (Text.distinct (all.flatMap fun data => data.edgesByEnd.flatMap (·.2))).foldl
    (fun groups edge => groups.push edge.target edge) []
  factsByStatement := (all.flatMap (·.factsByStatement.pairs)).foldl
    (fun groups pair => groups.add pair.1 pair.2) []
  reasons := (all.flatMap (·.reasons)).foldl Groups.addAll []
  findings := Text.distinct (all.flatMap (·.findings))
  summaries := Text.distinct (all.flatMap (·.summaries))

/-- The union of those contents that are there. -/
def mergePresent (all : List (Option (GroupedSolution S F))) : GroupedSolution S F :=
  merge (all.filterMap id)

omit [DecidableEq S] [DecidableEq F] in
def stats (data : GroupedSolution S F) : SolutionStats where
  edges := data.reasons.length
  statements := data.factsByStatement.length
  facts := data.factsByStatement.size
  summaries := data.summaries.length
  findings := data.findings.length

end GroupedSolution

/-- The state of one runner in one chunk, in groups. Nothing in it is ever removed. -/
structure Ledger (S F : Type) where
  runner : String
  /-- The reasons of each edge. -/
  reasons : Groups (Edge S F) (Reason S F) := []
  summaries : List (Edge S F) := []
  summariesByStart : Groups (Vertex S F) (Edge S F) := []
  summariesByEnd : Groups (Vertex S F) (Edge S F) := []
  /-- Who subscribed at the start of summaries, with the edge that comes back. -/
  onStart : Groups (Vertex S F) (String × Edge S F) := []
  onEnd : Groups (Vertex S F) (String × Edge S F) := []
  findings : List (Finding S F) := []
deriving Repr, DecidableEq

namespace Ledger

def startNotice (ledger : Ledger S F) (wish : String × Edge S F) (summary : Edge S F) :
    Message S F M :=
  .startNotice wish.1 ledger.runner summary wish.2

def endNotice (ledger : Ledger S F) (wish : String × Edge S F) (summary : Edge S F) :
    Message S F M :=
  .endNotice wish.1 ledger.runner summary wish.2

/-- How many edges were recorded. -/
def numEdges (ledger : Ledger S F) : Nat := ledger.reasons.length

variable [DecidableEq S] [DecidableEq F]

/-- Records a reason of an edge. Only an edge that is new is announced. -/
def addEdge (ledger : Ledger S F) (edge : Edge S F) (reason : Reason S F) :
    Ledger S F × List (Message S F M) :=
  ({ ledger with reasons := ledger.reasons.add edge reason },
    if ledger.reasons.keys.contains edge then [] else [.edgeAdded ledger.runner edge])

/-- Records a summary under both of its ends. A new one is told to all who subscribed there. -/
def addSummary (ledger : Ledger S F) (summary : Edge S F) : Ledger S F × List (Message S F M) :=
  if ledger.summaries.contains summary then (ledger, [])
  else
    ({ ledger with
        summaries := ledger.summaries ++ [summary]
        summariesByStart := ledger.summariesByStart.add summary.source summary
        summariesByEnd := ledger.summariesByEnd.add summary.target summary },
      (ledger.onStart.values summary.source).map (ledger.startNotice · summary) ++
        (ledger.onEnd.values summary.target).map (ledger.endNotice · summary))

/-- Adds a subscription to others. A new one is told of the summaries under its vertex. -/
def subscribe (wishes : Groups (Vertex S F) (String × Edge S F))
    (index : Groups (Vertex S F) (Edge S F)) (vertex : Vertex S F) (wish : String × Edge S F)
    (notice : String × Edge S F → Edge S F → Message S F M) :
    Groups (Vertex S F) (String × Edge S F) × List (Message S F M) :=
  if (wishes.values vertex).contains wish then (wishes, [])
  else (wishes.add vertex wish, (index.values vertex).map (notice wish))

def handle [Shown S] [Shown F] [Shown M] (ledger : Ledger S F) (message : Message S F M) :
    Except Unexpected (Ledger S F × List (Message S F M)) :=
  match message with
  | .newEdge _ edge reason => .ok (ledger.addEdge edge reason)
  | .newSummary _ edge => .ok (ledger.addSummary edge)
  | .subscribeStart _ vertex subscriber edge =>
    let (onStart, answers) := subscribe ledger.onStart ledger.summariesByStart vertex
      (subscriber, edge) ledger.startNotice
    .ok ({ ledger with onStart }, answers)
  | .subscribeEnd _ vertex subscriber edge =>
    let (onEnd, answers) := subscribe ledger.onEnd ledger.summariesByEnd vertex
      (subscriber, edge) ledger.endNotice
    .ok ({ ledger with onEnd }, answers)
  | .newFinding _ finding =>
    .ok ({ ledger with findings := insertNew finding ledger.findings }, [])
  | .collectData .. => .ok (ledger, [])
  | message => .error (.inStore ledger.runner message.typeName)

def serve [Shown S] [Shown F] [Shown M] (ledger : Ledger S F) (messages : List (Message S F M)) :
    Ledger S F × List (Message S F M) :=
  serveAll Ledger.handle ledger messages

def snapshot (ledger : Ledger S F) : GroupedSolution S F where
  edgesByEnd := ledger.reasons.keys.foldl (fun groups edge => groups.push edge.target edge) []
  factsByStatement := ledger.reasons.keys.foldl
    (fun groups edge => groups.add edge.target.statement edge.target.fact) []
  reasons := ledger.reasons
  findings := ledger.findings
  summaries := ledger.summaries

end Ledger

end Tabulation
