/-
Nullness analysis. The facts are the variables that may be null, and the empty name stands for the fact
that holds wherever a method is reachable. A finding is a call on a receiver that may be null; after the
call the receiver is known not to be.
-/

import Tabulation.Analysis.Taint

namespace Tabulation.Nullness

def runner : String := "nullness"

def rule : String := "null-dereference"

/-- The fact that holds wherever a method is reachable. -/
def zero : String := ""

def null : String := "null"

/-- Null goes through assignments and comes from the constant. -/
def sequent (p : Program) (current _next : Statement) (fact : String) : List String :=
  match p.instruction? current with
  | some (.const lhs value) =>
    if fact == zero then (if value == null then [zero, lhs] else [zero])
    else if fact == lhs && value != null then []
    else [fact]
  | some (.assign lhs rhs) =>
    if fact == zero then [zero]
    else if fact == rhs then [fact, lhs]
    else if fact == lhs then []
    else [fact]
  | _ => [fact]

/-- A call does not return if its receiver is null, and its result is not null unless a callee says so.
Null arguments go to the callees. -/
def call (p : Program) (place _returnSite : Statement) (fact : String) : List (CallAction String) :=
  match p.instruction? place with
  | some (.call call) =>
    if fact == zero then [.toReturn zero, .toCallees zero]
    else if fact == call.receiver || fact == call.lhs then []
    else .toReturn fact :: if call.args.contains fact then [.toCallees fact] else []
  | _ => []

def callToStart (p : Program) (place entry : Statement) (fact : String) : List String :=
  if fact == zero then [zero]
  else
    match p.instruction? place, p.method? entry.method with
    | some (.call call), some callee => Taint.boundParams call.args callee.params fact
    | _, _ => []

/-- The value that a callee returns becomes the result of the call. -/
def exitToReturn (p : Program) (place _returnSite exit : Statement) (fact : String) : List String :=
  if fact == zero then [zero]
  else
    match p.instruction? place, p.instruction? exit with
    | some (.call call), some (.ret value) =>
      if value == fact && call.lhs != "" then [call.lhs] else []
    | _, _ => []

def findings (p : Program) (vertex : Vertex Statement String) : List (Finding Statement String) :=
  match p.instruction? vertex.statement with
  | some (.call call) =>
    if vertex.fact != zero && call.receiver == vertex.fact then
      [⟨vertex, rule, vertex.fact ++ " may be null when calling " ++ call.callee⟩]
    else []
  | _ => []

def rules (p : Program) : Rules Statement String MethodName where
  runner := runner
  graph := p.flowGraph
  flow :=
    { sequent := sequent p
      call := call p
      callToStart := callToStart p
      exitToReturn := exitToReturn p }
  startFacts _ := [zero]
  onNewEdge edge := (findings p edge.target).map (.newFinding runner)

def analyze (p : Program) (config : Config) (entries : List MethodName) :
    Except AnalysisError (AnalysisResult String) := do
  let (status, data) ← p.analyze config entries (rules p)
  return { status, findings := sortFindings data.findings, data }

end Tabulation.Nullness
