/-
Analyzers. An analyzer of the usual kind is given by a control-flow graph over all methods and four flow
functions; its step applies them to one message at a time and has no state of its own.
-/

import Tabulation.Solver.Store

namespace Tabulation

variable {S F M : Type}

/-- The control-flow graph of all methods of a program. -/
structure FlowGraph (S M : Type) where
  methodOf : S → M
  successors : S → List S
  entries : M → List S
  exits : M → List S
  isCall : S → Bool

/-- What the flow function of calls does with a fact. -/
inductive CallAction (F : Type) where
  /-- The fact holds at the return site, whatever the callee does. -/
  | toReturn (fact : F)
  /-- The fact is passed to the callees. -/
  | toCallees (fact : F)
  /-- Nothing. -/
  | ignored
deriving Repr, DecidableEq

structure FlowFunctions (S F : Type) where
  /-- From a statement that is not a call to a successor. -/
  sequent : (current next : S) → F → List F
  /-- At a call, towards a return site. -/
  call : (call returnSite : S) → F → List (CallAction F)
  /-- From a fact passed to a callee to the facts at its entry. -/
  callToStart : (call entry : S) → F → List F
  /-- From a fact at an exit of a callee to the facts at a return site. -/
  exitToReturn : (call returnSite exit : S) → F → List F

/-- What went wrong in a step of an analyzer. -/
inductive StepFailure where
  | unexpected (cause : Unexpected)
  /-- The analyzer reported an error. -/
  | failed (text : String)
  /-- The analyzer broke down. -/
  | crashed (text : String)
deriving Repr, DecidableEq

def StepFailure.message : StepFailure → String
  | .unexpected cause => cause.message
  | .failed text => text
  | .crashed text => "panic: " ++ text

/-- What comes of a step of an analyzer: messages, which count even if the step went wrong. A step that
waits is not over before the barrier of the engine is open. -/
structure StepResult (S F M : Type) where
  messages : List (Message S F M) := []
  failure : Option StepFailure := none
  waits : Bool := false
deriving Repr, DecidableEq

/-- The policy of one runner: a pure function on messages. -/
structure Analyzer (S F M : Type) where
  /-- The facts at an entry of a method that is analyzed from there. -/
  startFacts : S → List F
  step : Message S F M → StepResult S F M

/-- The rules of an analysis: flow functions over a graph, with hooks. -/
structure Rules (S F M : Type) where
  runner : String
  graph : FlowGraph S M
  flow : FlowFunctions S F
  startFacts : S → List F := fun _ => []
  /-- What to send besides, once for every new edge. -/
  onNewEdge : Edge S F → List (Message S F M) := fun _ => []
  /-- What to send for a notice, with its summary and subscribing edge, of a subscription at the end. -/
  onEnd : (summary edge : Edge S F) → List (Message S F M) := fun _ _ => []

namespace Rules

variable [DecidableEq S] [DecidableEq F] [Inhabited S] [Inhabited F]

def isExit (rules : Rules S F M) (s : S) : Bool :=
  (rules.graph.exits (rules.graph.methodOf s)).contains s

/-- The edge from the same source to another target, as a message. -/
def extend (rules : Rules S F M) (edge : Edge S F) (statement : S) (reason : Reason S F)
    (fact : F) : Message S F M :=
  .newEdge rules.runner ⟨edge.source, ⟨statement, fact⟩⟩ reason

def sequentStep (rules : Rules S F M) (edge : Edge S F) : List (Message S F M) :=
  let here := edge.target.statement
  (rules.graph.successors here).flatMap fun next =>
    (rules.flow.sequent here next edge.target.fact).map
      (rules.extend edge next (.derived .sequent edge))

def callActions (rules : Rules S F M) (edge : Edge S F) : List (S × CallAction F) :=
  let here := edge.target.statement
  (rules.graph.successors here).flatMap fun next =>
    (rules.flow.call here next edge.target.fact).map (next, ·)

/-- Sends what the actions at a call say, in their order. `asked` are the facts for which the callees
were asked already. -/
def runActions (rules : Rules S F M) (edge : Edge S F) :
    (asked : List F) → List (S × CallAction F) → List (Message S F M)
  | _, [] => []
  | asked, (next, .toReturn fact) :: rest =>
    rules.extend edge next (.derived .callToReturn edge) fact :: rules.runActions edge asked rest
  | asked, (_, .toCallees fact) :: rest =>
    if asked.contains fact then rules.runActions edge asked rest
    else
      .unresolvedCall rules.runner ⟨edge.source, ⟨edge.target.statement, fact⟩⟩ ::
        rules.runActions edge (fact :: asked) rest
  | asked, (_, .ignored) :: rest => rules.runActions edge asked rest

/-- Flow at a call: what bypasses the callees, and one question for the callees for each fact that is
passed to them. -/
def callStep (rules : Rules S F M) (edge : Edge S F) : List (Message S F M) :=
  rules.runActions edge [] (rules.callActions edge)

/-- What follows from a new edge. An exit gives a summary, and has no flow of its own unless it is a
call. -/
def edgeStep (rules : Rules S F M) (edge : Edge S F) : List (Message S F M) :=
  let here := edge.target.statement
  let exit := rules.isExit here
  (if exit then [.newSummary rules.runner edge] else []) ++ rules.onNewEdge edge ++
    (if rules.graph.isCall here then rules.callStep edge
      else if exit then [] else rules.sequentStep edge)

/-- What follows from a callee of the call at the target of an edge: the callee is started, and the edge
subscribes to its summaries. -/
def calleeStep (rules : Rules S F M) (edge : Edge S F) (callee : M) : List (Message S F M) :=
  (rules.graph.entries callee).flatMap fun entry =>
    (rules.flow.callToStart edge.target.statement entry edge.target.fact).flatMap fun fact =>
      [.subscribeStart rules.runner ⟨entry, fact⟩ rules.runner edge,
        .newEdge rules.runner (.loop ⟨entry, fact⟩) (.derived .callToStart edge)]

/-- What follows from a summary of a callee of the call at the target of `edge`. -/
def returnStep (rules : Rules S F M) (edge summary : Edge S F) : List (Message S F M) :=
  let call := edge.target.statement
  (rules.graph.successors call).flatMap fun next =>
    (rules.flow.exitToReturn call next summary.target.statement summary.target.fact).map
      (rules.extend edge next (.applied edge summary))

def step [Shown S] [Shown F] [Shown M] (rules : Rules S F M) (message : Message S F M) :
    StepResult S F M :=
  match message with
  | .edgeAdded _ edge => { messages := rules.edgeStep edge }
  | .resolvedCall _ edge callee => { messages := rules.calleeStep edge callee }
  | .startNotice _ _ summary edge => { messages := rules.returnStep edge summary }
  | .endNotice _ _ summary edge => { messages := rules.onEnd summary edge }
  | message => { failure := some (.unexpected (.inAnalyzer rules.runner message.typeName)) }

def analyzer [Shown S] [Shown F] [Shown M] (rules : Rules S F M) : Analyzer S F M where
  startFacts := rules.startFacts
  step := rules.step

end Rules

end Tabulation
