/-
The operations on an engine from outside: start an analysis, wait for its end, collect the results.
-/

import Tabulation.Engine.Basic

namespace Tabulation

variable {S F M : Type}

/-- Why an operation on an engine failed. -/
inductive EngineError where
  | closed
  | registry (cause : RegistryError)
  /-- A run did not start because a method did not. -/
  | starting (method : String) (cause : EngineError)
  /-- The caller gave up. -/
  | cancelled
deriving Repr, DecidableEq

def EngineError.message : EngineError → String
  | .closed => "actor system closed"
  | .registry cause => cause.message
  | .starting method cause => "starting analysis of " ++ method ++ ": " ++ cause.message
  | .cancelled => "context canceled"

/-- The error below the steps in which it came up. -/
def EngineError.root : EngineError → EngineError
  | .starting _ cause => cause.root
  | error => error

namespace Engine

/-- The state of an engine that did nothing yet. -/
def initial (log : Log) : EngineState S F M := { log }

def send (state : EngineState S F M) (message : Message S F M) :
    Except EngineError (EngineState S F M) :=
  if state.closed then .error .closed
  else .ok { state with pending := state.pending ++ [(Place.project, message)] }

/-- The edges that start an analysis in a method: one for each start fact at each entry. -/
def seeds [Inhabited S] [Inhabited F] (engine : Engine S F M) (analyzer : Analyzer S F M)
    (runner : String) (method : M) : List (Message S F M) :=
  (engine.graph.entries method).flatMap fun entry =>
    (analyzer.startFacts entry).map fun fact => .newEdge runner (.loop ⟨entry, fact⟩) .initial

def start [Inhabited S] [Inhabited F] (engine : Engine S F M) (state : EngineState S F M)
    (runner : String) (method : M) : Except EngineError (EngineState S F M) :=
  if state.closed then .error .closed
  else
    match engine.registry.analyzer runner with
    | .error error => .error (.registry error)
    | .ok analyzer =>
      let messages := (engine.seeds analyzer runner method).map (Place.project, ·)
      .ok { state with pending := state.pending ++ messages }

/-- Lets the engine handle messages again. What was dropped is lost. -/
def resume (state : EngineState S F M) : EngineState S F M := { state with halted := false }

def close (state : EngineState S F M) : EngineState S F M := { state with closed := true }

/-- Opens the barrier for good: the steps that waited for it end. -/
def openBarrier [Shown S] [Shown F] [Shown M] (engine : Engine S F M)
    (state : EngineState S F M) : EngineState S F M :=
  state.held.foldl
    (fun state step =>
      let (next, sent) := engine.finishStep state step.1.1 step.1.2 step.2.1 step.2.2
      { next with pending := next.pending ++ sent })
    { state with barrierOpen := true, held := [] }

def collectByChunk [DecidableEq S] [DecidableEq F] [Hashable S] [Hashable F]
    (state : EngineState S F M) (runner : String) :
    Except EngineError (List (String × Solution S F)) :=
  if state.closed then .error .closed
  else
    .ok (state.chunks.map fun chunk =>
      (chunk, ((state.store? chunk runner).map Store.snapshot).getD {}))

def collect [DecidableEq S] [DecidableEq F] [Hashable S] [Hashable F]
    (state : EngineState S F M) (runner : String) :
    Except EngineError (Solution S F) :=
  (collectByChunk state runner).map fun parts => Solution.merge (parts.map (·.2))

variable [DecidableEq S] [DecidableEq F] [Shown S] [Shown F] [Shown M]

def settle (engine : Engine S F M) (state : EngineState S F M) : EngineState S F M :=
  engine.run engine.patience state

/-- Waits until nothing is left to do. When the patience ends before, or a step waits for the
barrier, the engine is halted with a partial result. -/
def await (engine : Engine S F M) (state : EngineState S F M) :
    Except EngineError Status × EngineState S F M :=
  if state.closed then (.error .closed, state)
  else
    let state := engine.settle state
    if state.isIdle then (.ok .quiesced, state)
    else (.ok .timedOut, { state with halted := true })

/-- Looks once whether nothing is left to do, and gives up otherwise. -/
def giveUp (engine : Engine S F M) (state : EngineState S F M) :
    Except EngineError Status × EngineState S F M :=
  if state.closed then (.error .closed, state)
  else
    let state := engine.settle state
    if state.isIdle then (.ok .quiesced, state)
    else (.error .cancelled, { state with halted := true })

def startAll [Inhabited S] [Inhabited F] (engine : Engine S F M) (state : EngineState S F M)
    (methods : List M) : Except EngineError (EngineState S F M) :=
  methods.foldlM
    (fun state method =>
      (engine.start state engine.runner method).mapError (.starting (Shown.text method))) state

def analyze [Inhabited S] [Inhabited F] (engine : Engine S F M) (state : EngineState S F M)
    (methods : List M) : Except EngineError Status × EngineState S F M :=
  match engine.startAll state methods with
  | .error error => (.error error, state)
  | .ok state => engine.await state

end Engine

end Tabulation
