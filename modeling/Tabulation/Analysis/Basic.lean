/-
Running an analysis of a program: the engine is set up with the rules of the analysis, started in the
entry methods, and its data is collected when it is done.
-/

import Tabulation.Engine.Session
import Tabulation.Program.Partition
import Tabulation.Program.Calls

namespace Tabulation

/-- Why an analysis failed. -/
inductive AnalysisError where
  | config (cause : ConfigError)
  | program (cause : ProgramError)
  | entry (cause : Program.UnknownMethod)
  /-- The engine of the named analysis failed. -/
  | engine (analysis : String) (cause : EngineError)
deriving Repr, DecidableEq

def AnalysisError.message : AnalysisError → String
  | .config cause => cause.message
  | .program cause => cause.message
  | .entry cause => cause.message
  | .engine analysis cause => analysis ++ " analysis: " ++ cause.message

/-- The result of an analysis with facts of type `F`. -/
structure AnalysisResult (F : Type) where
  status : Status
  findings : List (Finding Statement F)
  data : Solution Statement F
deriving Repr

namespace Program

/-- How much is written in a program: instructions, variables and targets. -/
def weight (p : Program) : Nat :=
  p.methods.foldl
    (fun weight m =>
      m.body.foldl (fun weight i => weight + 2 + i.uses.length + (i.next 0).length)
        (weight + m.params.length + 2))
    0

/-- The number of messages after which a run on a program is given up. A vertex is a statement and a
variable or definition, so their number is at most the square of the weight; the patience is a high
power of it. -/
def patience (p : Program) (entries : List MethodName) : Nat :=
  Nat.pow (p.weight + entries.length + 2) 12

def engine {F : Type} [DecidableEq F] [Inhabited F] [Shown F] (p : Program) (config : Config)
    (strategy : ChunkStrategy) (entries : List MethodName)
    (rules : Rules Statement F MethodName) : Engine Statement F MethodName where
  name := rules.runner
  registry :=
    { analyzers := [(rules.runner, rules.analyzer)]
      resolver := some (p.dispatch config.options.banned).indirection }
  strategy := strategy.chunkOf
  graph := p.flowGraph
  runner := rules.runner
  patience := p.patience entries

/-- Runs some rules on a program from entry methods: how the run ended, and its data. -/
def analyze {F : Type} [DecidableEq F] [Hashable F] [Inhabited F] [Shown F] (p : Program)
    (config : Config)
    (entries : List MethodName) (rules : Rules Statement F MethodName) :
    Except AnalysisError (Status × Solution Statement F) := do
  let strategy ← config.strategy.mapError .config
  let engine := p.engine config strategy entries rules
  let (status, state) := engine.analyze (Engine.initial config.log) entries
  let status ← status.mapError (.engine rules.runner)
  let data ← (Engine.collect state rules.runner).mapError (.engine rules.runner)
  return (status, data)

end Program

/-- The order of findings about variables: by the printed statement, then by the variable. -/
def sortFindings (findings : List (Finding Statement String)) : List (Finding Statement String) :=
  sortByKey (fun f => f.vertex.key) findings

end Tabulation
