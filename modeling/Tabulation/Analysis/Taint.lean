/-
Taint analysis. The facts are the tainted variables, and the empty name stands for the fact that holds
wherever a method is reachable. The result of a source is tainted, and so are the parameters of a method
that is itself a source; a finding is a tainted variable that a call passes to a sink.
-/

import Tabulation.Analysis.Basic

namespace Tabulation.Taint

def runner : String := "taint"

def rule : String := "taint"

/-- The fact that holds wherever a method is reachable. -/
def zero : String := ""

def calleeId (call : Call) : CodeId :=
  let (package, type) := splitAtLastDot call.calleeClass
  { package, type, method := call.calleeName }

def methodId (id : MethodName) : CodeId :=
  let (package, type) := splitAtLastDot id.owner
  { package, type, method := id.name }

/-- The facts at an entry: the zero fact, and the parameters of a source. -/
def startFacts (p : Program) (config : Config) (entry : Statement) : List String :=
  zero :: if config.isSource (methodId entry.method) then
      ((p.method? entry.method).map Method.parameters).getD []
    else []

/-- Taint goes through assignments; what is overwritten is clean. -/
def sequent (p : Program) (current _next : Statement) (fact : String) : List String :=
  if fact == zero then [zero]
  else
    match p.instruction? current with
    | some (.assign lhs rhs) =>
      if fact == rhs then [fact, lhs] else if fact == lhs then [] else [fact]
    | some (.const lhs _) => if fact == lhs then [] else [fact]
    | _ => [fact]

/-- The variable that takes the result of a call, if there is one, as an action. -/
def taintResult (call : Call) : List (CallAction String) :=
  if call.lhs == "" then [] else [.toReturn call.lhs]

/-- The result of a source is tainted. Variables keep their taint over a call, with the exception of
the one that takes the result. Tainted variables that are passed go to the callees; a sanitizer is
not entered, and a callee that is not in the program hands the taint on to its result. -/
def call (p : Program) (config : Config) (place _returnSite : Statement) (fact : String) :
    List (CallAction String) :=
  match p.instruction? place with
  | some (.call call) =>
    let id := calleeId call
    let isSanitizer := config.isSanitizer id
    if fact == zero then
      [.toReturn zero] ++ (if isSanitizer then [] else [.toCallees zero]) ++
        (if config.isSource id then taintResult call else [])
    else
      (if fact == call.lhs then [] else [.toReturn fact]) ++
        (if !(Instruction.call call).uses.contains fact || isSanitizer then []
          else if ((p.callSite? place).map CallSite.callees).getD [] == [] then taintResult call
          else [.toCallees fact])
  | _ => []

/-- The parameters that take the value of a variable. -/
def boundParams (args params : List String) (fact : String) : List String :=
  ((args.zip params).filter fun pair => pair.1 == fact).map Prod.snd

/-- Arguments become parameters, and the receiver becomes the receiver of the callee. -/
def callToStart (p : Program) (place entry : Statement) (fact : String) : List String :=
  if fact == zero then [zero]
  else
    match p.instruction? place, p.method? entry.method with
    | some (.call call), some callee =>
      (if call.receiver == fact && !callee.isStatic then [receiverName] else []) ++
        boundParams call.args callee.params fact
    | _, _ => []

/-- The value that a callee returns becomes the result of the call. -/
def exitToReturn (p : Program) (place _returnSite exit : Statement) (fact : String) : List String :=
  if fact == zero then [zero]
  else
    match p.instruction? place, p.instruction? exit with
    | some (.call call), some (.ret value) =>
      if value == fact && call.lhs != "" then [call.lhs] else []
    | _, _ => []

/-- A tainted variable that is passed to a sink. -/
def findings (p : Program) (config : Config) (vertex : Vertex Statement String) :
    List (Finding Statement String) :=
  match p.instruction? vertex.statement with
  | some (.call call) =>
    if vertex.fact != zero && (Instruction.call call).uses.contains vertex.fact &&
        config.isSink (calleeId call) then
      [⟨vertex, rule, "tainted " ++ vertex.fact ++ " flows into " ++ call.callee⟩]
    else []
  | _ => []

def rules (p : Program) (config : Config) : Rules Statement String MethodName where
  runner := runner
  graph := p.flowGraph
  flow :=
    { sequent := sequent p
      call := call p config
      callToStart := callToStart p
      exitToReturn := exitToReturn p }
  startFacts := startFacts p config
  onNewEdge edge := (findings p config edge.target).map (.newFinding runner)

def analyze (p : Program) (config : Config) (entries : List MethodName) :
    Except AnalysisError (AnalysisResult String) := do
  let (status, data) ← p.analyze config entries (rules p config)
  return { status, findings := sortFindings data.findings, data }

end Tabulation.Taint
