/-
Taint analysis of programs in static single assignment form. Values never change, so a tainted value
stays tainted to the end of its function. Memory is tracked through the addresses to which tainted
values are stored.
-/

import Tabulation.Engine.Session
import Tabulation.Ssa.Directive
import Tabulation.Ssa.Calls

namespace Tabulation.Ssa

/-- Why an analysis failed. -/
inductive AnalysisError where
  | config (cause : ConfigError)
  | entry (cause : Program.UnknownFunction)
  | engine (cause : EngineError)
deriving Repr, DecidableEq

def AnalysisError.message : AnalysisError → String
  | .config cause => cause.message
  | .entry cause => cause.message
  | .engine cause => "go taint analysis: " ++ cause.message

structure AnalysisResult where
  status : Status
  findings : List (Finding Statement Fact)
  data : Solution Statement Fact
deriving Repr

namespace Taint

def runner : String := "go-taint"

def rule : String := "go-taint"

def facts (p : Program) (ids : List Nat) : List Fact := ids.map p.fact

def isAmong (fact : Fact) (ids : List Nat) : Bool :=
  match fact with
  | .zero => false
  | .value id _ => ids.contains id

/-- The facts at an entry: the zero fact, and the parameters of a source. -/
def startFacts (p : Program) (config : Config) (entry : Statement) : List Fact :=
  match p.function? entry.function.id with
  | some f => .zero :: if config.isSource f.codeId then facts p f.params else []
  | none => [.zero]

/-- An address and the values that it is an address into. `fuel` bounds the length of the chain. -/
def addressChain (p : Program) : (fuel : Nat) → Nat → List Nat
  | 0, _ => []
  | fuel + 1, id =>
    match (p.values[id]?).map Value.origin with
    | some (.address base) => id :: addressChain p fuel base
    | _ => [id]

/-- The values that become tainted by an instruction when a fact holds before it: the address of what is
stored, the map or channel that takes a value, and the value defined from an operand. -/
def tainted (p : Program) (instruction : Instruction) (fact : Fact) : List Nat :=
  match instruction.action with
  | .store address value =>
    if isAmong fact [value] then addressChain p (p.values.size + 1) address else []
  | .mapUpdate map key value => if isAmong fact [value, key] then [map] else []
  | .send channel value => if isAmong fact [value] then [channel] else []
  | .call _ | .ret _ | .other =>
    if isAmong fact instruction.operands then instruction.value.toList else []

/-- Facts are kept, and a tainted value taints what is made from it. -/
def sequent (p : Program) (current _next : Statement) (fact : Fact) : List Fact :=
  match p.instruction? current with
  | none => [fact]
  | some instruction => Text.distinct (fact :: facts p (tainted p instruction fact))

def bindings (p : Program) (call : CallInstruction) : List Nat :=
  match (p.values[call.target]?).map Value.origin with
  | some (.closure _ bindings) => bindings
  | _ => []

def result (p : Program) (place : Statement) : List Fact :=
  facts p ((p.instruction? place).bind Instruction.value).toList

/-- The result of a source is tainted. Facts are kept over a call. Tainted arguments go to the
callees; a sanitizer is not entered, and where no callee is analyzed the taint goes on to the
result. -/
def call (p : Program) (config : Config) (place _returnSite : Statement) (fact : Fact) :
    List (CallAction Fact) :=
  match p.call? place with
  | none => []
  | some call =>
    let id := p.calleeId call
    let isSanitizer := config.isSanitizer id
    match fact with
    | .zero =>
      [.toReturn .zero] ++ (if isSanitizer then [] else [.toCallees .zero]) ++
        (if config.isSource id then (result p place).map CallAction.toReturn else [])
    | fact =>
      .toReturn fact ::
        if (!isAmong fact call.allArgs && !isAmong fact (bindings p call)) || isSanitizer then []
        else if (p.callees call).isEmpty then (result p place).map CallAction.toReturn
        else [.toCallees fact]

def boundTo (fact : Fact) (args params : List Nat) : List Nat :=
  ((args.zip params).filter fun pair => isAmong fact [pair.1]).map Prod.snd

/-- Arguments become parameters, and the values of a closure become the free variables of its
function. -/
def callToStart (p : Program) (place entry : Statement) (fact : Fact) : List Fact :=
  if fact == .zero then [.zero]
  else
    match p.call? place, p.function? entry.function.id with
    | some call, some callee =>
      let free :=
        match (p.values[call.target]?).map Value.origin with
        | some (.closure function bindings) =>
          if function == entry.function.id then boundTo fact bindings callee.freeVars else []
        | _ => []
      facts p (boundTo fact call.allArgs callee.params ++ free)
    | _, _ => []

/-- A tainted value that is returned taints the result of the call. -/
def exitToReturn (p : Program) (place _returnSite exit : Statement) (fact : Fact) : List Fact :=
  if fact == .zero then [.zero]
  else
    match (p.instruction? exit).map Instruction.action with
    | some (.ret results) => if isAmong fact results then result p place else []
    | _ => []

def positionOf (p : Program) (s : Statement) : Position :=
  ((p.instruction? s).map Instruction.position).getD {}

/-- A tainted value that is passed to a sink on a line that is not ignored. -/
def findings (p : Program) (config : Config) (vertex : Vertex Statement Fact) :
    List (Finding Statement Fact) :=
  match p.call? vertex.statement with
  | none => []
  | some call =>
    let id := p.calleeId call
    if isAmong vertex.fact call.allArgs && config.isSink id &&
        !p.isIgnored (positionOf p vertex.statement) then
      [⟨vertex, rule, "tainted " ++ vertex.fact.name ++ " flows into " ++ id.method⟩]
    else []

def rules (p : Program) (config : Config) : Rules Statement Fact FunctionRef where
  runner := runner
  graph := p.flowGraph
  flow :=
    { sequent := sequent p
      call := call p config
      callToStart := callToStart p
      exitToReturn := exitToReturn p }
  startFacts := startFacts p config
  onNewEdge edge := (findings p config edge.target).map (.newFinding runner)

/-- The functions with the given names; without names the main functions and the sources. -/
def entryFunctions (p : Program) (config : Config) (names : List String) :
    Except Program.UnknownFunction (List FunctionRef) :=
  if names.isEmpty then
    .ok (p.analyzed.filter fun ref =>
      match p.function? ref.id with
      | some f =>
        (f.name == "main" && f.parent.isNone && f.receiver.isNone) || config.isSource f.codeId
      | none => false)
  else names.mapM p.functionNamed

/-- The number of messages after which a run on a program is given up: a high power of the number of
statements and values. -/
def patience (p : Program) (entries : List FunctionRef) : Nat :=
  let instructions := p.functions.toList.flatMap fun f => f.blocks.flatMap Block.instructions
  Nat.pow (instructions.length + p.values.size + entries.length + 2) 8

/-- The order of findings: by file, line and name of the value, then by the printed parts. -/
def findingBefore (p : Program) (a b : Finding Statement Fact) : Bool :=
  let pa := positionOf p a.vertex.statement
  let pb := positionOf p b.vertex.statement
  if pa.file != pb.file then Text.textBefore pa.file pb.file
  else if pa.line != pb.line then Nat.blt pa.line pb.line
  else if a.vertex.fact.name != b.vertex.fact.name then
    Text.textBefore a.vertex.fact.name b.vertex.fact.name
  else Text.textsBefore a.key b.key

def engine (p : Program) (config : Config) (strategy : ChunkStrategy) (entries : List FunctionRef) :
    Engine Statement Fact FunctionRef where
  name := runner
  registry :=
    { analyzers := [(runner, (rules p config).analyzer)]
      resolver := some (p.dispatch config.options.banned).indirection }
  strategy := p.chunkOf strategy
  graph := p.flowGraph
  runner
  patience := patience p entries

def analyze (p : Program) (config : Config) (entries : List FunctionRef) :
    Except AnalysisError AnalysisResult := do
  let strategy ← config.strategy.mapError .config
  let engine := engine p config strategy entries
  let (status, state) := engine.analyze (Engine.initial config.log) entries
  let status ← status.mapError .engine
  let data ← (Engine.collect state runner).mapError .engine
  return { status, findings := Text.sortBy (findingBefore p) data.findings, data }

/-- The methods of interfaces that a finished run has looked up: those of all calls it reached that
are not to sanitizers. -/
def lookups (p : Program) (config : Config) (data : Solution Statement Fact) : List (String × String) :=
  p.lookups (data.statements.filter fun s =>
    (p.call? s).any fun call => !config.isSanitizer (p.calleeId call))

end Taint

end Tabulation.Ssa
