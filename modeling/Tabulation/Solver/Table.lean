/-
Problems given by tables. Statements, facts and methods are plain texts, and the method of a
statement is the part of its name before the last colon. Flow functions are lists of rules, of which
the first that fits is used.
-/

import Tabulation.Solver.Registry

namespace Tabulation

/-- What a table says of a statement. -/
structure StatementRow where
  successors : List String := []
  call : Option (CallSite String) := none
deriving Repr, DecidableEq

/-- What a table says of a method. -/
structure MethodRow where
  entries : List String := []
  exits : List String := []
  overrides : List String := []
  type : String := ""
deriving Repr, DecidableEq

/-- A rule of a flow function: what its arguments must be, and what comes out. -/
structure FlowRule (α : Type) where
  arguments : List String
  outcome : List α
deriving Repr, DecidableEq

/-- A problem given by tables. -/
structure Table where
  statements : List (String × StatementRow) := []
  methods : List (String × MethodRow) := []
  /-- Pairs of a subtype and its supertype. -/
  subtypes : List (String × String) := []
  banned : List String := []
  sequent : List (FlowRule String) := []
  /-- An outcome is the word for the action with its fact. -/
  call : List (FlowRule (String × String)) := []
  callToStart : List (FlowRule String) := []
  exitToReturn : List (FlowRule String) := []
deriving Repr, DecidableEq

/-- Whether a pattern allows a text. A star allows any. -/
def FlowRule.allows (pattern text : String) : Bool := pattern == "*" || pattern == text

/-- The outcome of the first rule whose patterns allow the arguments. -/
def FlowRule.outcome? {α : Type} (rules : List (FlowRule α)) (arguments : List String) :
    Option (List α) :=
  (rules.find? fun rule => (rule.arguments.zip arguments).all fun (pattern, text) =>
    FlowRule.allows pattern text).map FlowRule.outcome

namespace Table

def methodOf (statement : String) : String :=
  match (statement.splitOn ":").reverse with
  | _ :: last :: before => ":".intercalate (last :: before).reverse
  | _ => statement

/-- The chunk of a statement: all statements are in one chunk, or each method is a chunk. -/
def chunkOf (single : Bool) (statement : String) : String := if single then "all" else methodOf statement

def statement (t : Table) (name : String) : StatementRow := (t.statements.lookup name).getD {}

def method (t : Table) (name : String) : MethodRow := (t.methods.lookup name).getD {}

def flowGraph (t : Table) : FlowGraph String String where
  methodOf := methodOf
  successors s := (t.statement s).successors
  entries m := (t.method m).entries
  exits m := (t.method m).exits
  isCall s := (t.statement s).call.isSome

def dispatch (t : Table) : Dispatch String String where
  callSite s := (t.statement s).call
  overrides m := (t.method m).overrides
  declaringType m := (t.method m).type
  isSubtype sub super := sub == super || t.subtypes.contains (sub, super)
  banned := t.banned

/-- A fact that comes out of a rule; a dollar sign stands for the fact that went in. -/
def outFact (fact outcome : String) : String := if outcome == "$" then fact else outcome

/-- The facts that come out of rules. A fact for which there is no rule is kept. -/
def outFacts (rules : List (FlowRule String)) (arguments : List String) (fact : String) : List String :=
  match FlowRule.outcome? rules (arguments ++ [fact]) with
  | some outcome => outcome.map (outFact fact)
  | none => [fact]

def action (word fact : String) : CallAction String :=
  match word with
  | "return" => .toReturn fact
  | "start" => .toCallees fact
  | _ => .ignored

/-- The flow functions of the table. A call without a rule keeps a fact and passes it to the callees. -/
def flow (t : Table) : FlowFunctions String String where
  sequent a b := outFacts t.sequent [a, b]
  call a b fact :=
    match FlowRule.outcome? t.call [a, b, fact] with
    | some outcome => outcome.map fun (word, value) => action word (outFact fact value)
    | none => [.toReturn fact, .toCallees fact]
  callToStart a b := outFacts t.callToStart [a, b]
  exitToReturn a b exit := outFacts t.exitToReturn [a, b, exit]

end Table

/-- What a runner sends besides for edges that end at some vertices. -/
structure EdgeHook where
  statement : String
  fact : String
  messages : List (Message String String String) := []
  /-- The rule and message of a finding. -/
  finding : Option (String × String) := none
  /-- The runner and the statement to which the fact is handed over. -/
  handOver : Option (String × String) := none
deriving Repr, DecidableEq

/-- A runner over a table, with failures that are planned by statement. -/
structure TableRunner where
  runner : String
  startFacts : List String := []
  hooks : List EdgeHook := []
  /-- The rule of the finding for a notice of a subscription at the end. -/
  onEnd : Option String := none
  crashes : List (String × String) := []
  failures : List (String × String) := []
  waits : Option String := none
deriving Repr, DecidableEq

def EdgeHook.send (hook : EdgeHook) (runner : String) (target : Vertex String String) :
    List (Message String String String) :=
  if FlowRule.allows hook.statement target.statement && FlowRule.allows hook.fact target.fact then
    hook.messages ++ (hook.finding.toList.map fun (rule, text) =>
      .newFinding runner ⟨target, rule, text⟩) ++
      hook.handOver.toList.map fun (other, statement) =>
        .handOver other runner (.loop ⟨statement, target.fact⟩)
  else []

namespace TableRunner

def rules (r : TableRunner) (t : Table) : Rules String String String where
  runner := r.runner
  graph := t.flowGraph
  flow := t.flow
  startFacts _ := r.startFacts
  onNewEdge edge := r.hooks.flatMap fun hook => hook.send r.runner edge.target
  onEnd summary edge :=
    r.onEnd.toList.map fun rule => .newFinding r.runner ⟨edge.target, rule, "end " ++ summary.text⟩

/-- One step, with the failures that are planned. What a crash interrupts is lost. -/
def step (r : TableRunner) (t : Table) (message : Message String String String) :
    StepResult String String String :=
  let result := (r.rules t).step message
  match message with
  | .edgeAdded _ edge =>
    let place := edge.target.statement
    match r.crashes.lookup place, r.failures.lookup place with
    | some text, _ => { failure := some (.crashed text) }
    | none, some text => { result with failure := some (.failed text) }
    | none, none => { result with waits := r.waits == some place }
  | _ => result

def analyzer (r : TableRunner) (t : Table) : Analyzer String String String where
  startFacts := (r.rules t).startFacts
  step := r.step t

end TableRunner

end Tabulation
