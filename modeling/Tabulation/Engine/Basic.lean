/-
The engine: units that exchange messages until none is pending.

A pending message is handled by the part that owns it, which may change the store of one unit and gives
further messages. Nothing depends on the order in which pending messages are taken; the engine takes the
oldest first.
-/

import Tabulation.Engine.Routing
import Tabulation.Solver.Registry

namespace Tabulation

variable {S F M : Type}

structure Engine (S F M : Type) where
  name : String
  registry : Registry S F M
  strategy : S → String
  graph : FlowGraph S M
  /-- The runner that is meant where none is named. -/
  runner : String
  /-- How many messages are handled before the time is up. -/
  patience : Nat

structure EngineState (S F M : Type) where
  /-- The chunks that were announced, in their order. -/
  chunks : List String := []
  /-- The stores of the units that came into being. -/
  units : List ((String × String) × Store S F) := []
  /-- The messages that wait, with the managers they were given to. -/
  pending : List (Place × Message S F M) := []
  /-- The steps that wait for the barrier: chunk and runner of the unit, the message and the result. -/
  held : List ((String × String) × Message S F M × StepResult S F M) := []
  barrierOpen : Bool := false
  /-- A halted engine drops all messages that only drive the analysis. -/
  halted : Bool := false
  closed : Bool := false
  log : Log

namespace EngineState

def store? (state : EngineState S F M) (chunk runner : String) : Option (Store S F) :=
  state.units.lookup (chunk, runner)

def hasUnit (state : EngineState S F M) (chunk runner : String) : Bool :=
  (state.store? chunk runner).isSome

def putStore (state : EngineState S F M) (chunk runner : String) (store : Store S F) :
    EngineState S F M :=
  { state with units := state.units.map fun unit =>
      if unit.1 == (chunk, runner) then (unit.1, store) else unit }

def announce (state : EngineState S F M) (chunk : String) : EngineState S F M :=
  if state.chunks.contains chunk then state else { state with chunks := state.chunks ++ [chunk] }

/-- Writes a line about a place of the engine. -/
def report (state : EngineState S F M) (severity : Severity) (path text : String) :
    EngineState S F M :=
  { state with log := state.log.write severity (path ++ ": " ++ text) }

/-- Whether nothing is left to do. -/
def isIdle (state : EngineState S F M) : Bool := state.pending.isEmpty && state.held.isEmpty

end EngineState

namespace Engine

/-- Writes a line about a runner that lacks something. -/
def reportLack (engine : Engine S F M) (state : EngineState S F M) (place : Place)
    {α : Type} (found : Except RegistryError α) : EngineState S F M :=
  match found with
  | .ok _ => state
  | .error error => state.report .error (place.path engine.name) error.message

/-- Brings a unit into being. What its runner lacks is reported once. -/
def openUnit (engine : Engine S F M) (state : EngineState S F M) (chunk runner : String) :
    EngineState S F M :=
  if state.hasUnit chunk runner then state
  else
    let state := state.announce chunk
    let place := Place.unit chunk runner
    let state := engine.reportLack state place (engine.registry.analyzer runner)
    let state := engine.reportLack state place (engine.registry.resolverOf runner)
    { state with units := state.units ++ [((chunk, runner), { runner })] }

def sentBy (chunk runner : String) (messages : List (Message S F M)) :
    List (Place × Message S F M) :=
  messages.map (Place.unit chunk runner, ·)

def reportFailure [Shown S] [Shown F] [Shown M] (engine : Engine S F M)
    (state : EngineState S F M) (chunk runner part : String) (message : Message S F M)
    (text : String) : EngineState S F M :=
  state.report .warn ((Place.unit chunk runner).path engine.name ++ "/" ++ part)
    ("exception while handling " ++ message.typeName ++ ": " ++ text)

/-- Ends a step of a worker: its messages are sent, and its failure is reported. -/
def finishStep [Shown S] [Shown F] [Shown M] (engine : Engine S F M)
    (state : EngineState S F M) (chunk runner : String) (message : Message S F M)
    (result : StepResult S F M) : EngineState S F M × List (Place × Message S F M) :=
  let state := match result.failure with
    | none => state
    | some (.crashed text) =>
      engine.reportFailure state chunk runner "worker-*" message (StepFailure.crashed text).message
    | some failure =>
      engine.reportFailure state chunk runner "worker-*" message
        ("step on " ++ message.typeName ++ ": " ++ failure.message)
  (state, sentBy chunk runner result.messages)

def work [Shown S] [Shown F] [Shown M] (engine : Engine S F M) (state : EngineState S F M)
    (chunk runner : String) (message : Message S F M) :
    EngineState S F M × List (Place × Message S F M) :=
  match engine.registry.analyzer runner with
  | .error _ => (engine.reportFailure state chunk runner "worker-*" message "no analyzer", [])
  | .ok analyzer =>
    let result := analyzer.step message
    if result.waits && !state.barrierOpen then
      ({ state with held := state.held ++ [((chunk, runner), message, result)] }, [])
    else engine.finishStep state chunk runner message result

def record [DecidableEq S] [DecidableEq F] [Shown S] [Shown F] [Shown M] (engine : Engine S F M)
    (state : EngineState S F M) (chunk runner : String) (message : Message S F M) :
    EngineState S F M × List (Place × Message S F M) :=
  match ((state.store? chunk runner).getD { runner }).handle message with
  | .ok (store, out) => (state.putStore chunk runner store, sentBy chunk runner out)
  | .error error => (engine.reportFailure state chunk runner "storage" message error.message, [])

/-- The resolver of a unit handles a message. Without a way to resolve calls the question is dropped. -/
def resolve [Shown S] [Shown F] [Shown M] (engine : Engine S F M)
    (state : EngineState S F M) (chunk runner : String) (message : Message S F M) :
    EngineState S F M × List (Place × Message S F M) :=
  match message with
  | .unresolvedCall caller edge =>
    match engine.registry.resolverOf runner with
    | .ok (some indirection) =>
      match indirection.resolve caller edge with
      | .ok messages => (state, sentBy chunk runner messages)
      | .error cause =>
        (engine.reportFailure state chunk runner "indirection" message
          ("resolving call at " ++ Shown.text edge.target.statement ++ ": " ++ cause), [])
    | _ => (state, [])
  | message =>
    (engine.reportFailure state chunk runner "indirection" message
      (Unexpected.inResolver message.typeName).message, [])

variable [DecidableEq S] [DecidableEq F] [Shown S] [Shown F] [Shown M]

/-- Handles a message given to a manager: the new state and the messages that were sent. A halted
engine drops the message unless it asks about the state. -/
def handle (engine : Engine S F M) (state : EngineState S F M) (place : Place)
    (message : Message S F M) : EngineState S F M × List (Place × Message S F M) :=
  if state.halted && !message.isControl then (state, [])
  else
    match place.destination engine.strategy state.hasUnit message with
    | .project =>
      match message with
      | .newChunk chunk => (state.announce chunk, [])
      | _ => (state, [])
    | .dropped =>
      (state.report .warn (Place.project.path engine.name)
        ("dropping " ++ message.typeName ++ ", no chunk owns it"), [])
    | .noData chunk => (state.announce chunk, [])
    | .storage chunk runner =>
      engine.record (engine.openUnit state chunk runner) chunk runner message
    | .workers chunk runner =>
      engine.work (engine.openUnit state chunk runner) chunk runner message
    | .indirection chunk runner =>
      engine.resolve (engine.openUnit state chunk runner) chunk runner message

def step (engine : Engine S F M) (state : EngineState S F M) : EngineState S F M :=
  match state.pending with
  | [] => state
  | (place, message) :: rest =>
    let (next, sent) := engine.handle { state with pending := rest } place message
    { next with pending := rest ++ sent }

/-- Handles pending messages until there are none, at most `limit`. -/
def run (engine : Engine S F M) : (limit : Nat) → EngineState S F M → EngineState S F M
  | 0, state => state
  | limit + 1, state =>
    if state.pending.isEmpty then state else engine.run limit (engine.step state)

end Engine

end Tabulation
