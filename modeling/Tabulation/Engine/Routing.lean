/-
The way of a message to its owner.

The engine is a tree: the project at the root, a manager for each chunk below it, and below each of
those a manager for each runner of the chunk, whose unit has a store, workers and a resolver. Every
manager looks at a message, and either knows the way down or passes the message up.
-/

import Tabulation.Solver.Message

namespace Tabulation

variable {S F M : Type}

/-- A manager of the tree. -/
inductive Place where
  | project
  | chunk (chunk : String)
  | unit (chunk runner : String)
deriving Repr, DecidableEq

/-- The path of a manager below the name of the engine. -/
def Place.path (name : String) : Place → String
  | .project => name ++ "/project"
  | .chunk id => name ++ "/project/chunk:" ++ id
  | .unit id runner => name ++ "/project/chunk:" ++ id ++ "/runner:" ++ runner

/-- Where the way of a message ends. -/
inductive Destination where
  | storage (chunk runner : String)
  | workers (chunk runner : String)
  | indirection (chunk runner : String)
  /-- The project keeps its own messages. -/
  | project
  /-- The project drops what no chunk owns. -/
  | dropped
  /-- The manager of a chunk answers for a runner that never ran there. -/
  | noData (chunk : String)
deriving Repr, DecidableEq

/-- What a manager does with a message. -/
inductive Hop where
  | forward (place : Place)
  | arrive (destination : Destination)
deriving Repr, DecidableEq

def projectHop (strategy : S → String) (message : Message S F M) : Hop :=
  match message with
  | .newChunk _ | .collectAll _ => .arrive .project
  | message =>
    match message.chunkOf strategy with
    | some chunk => .forward (.chunk chunk)
    | none => .arrive .dropped

/-- What the manager of a chunk does with a message. `hasUnit` says which units there are. -/
def chunkHop (strategy : S → String) (hasUnit : String → String → Bool) (chunk : String)
    (message : Message S F M) : Hop :=
  if message.chunkOf strategy == some chunk then
    match message with
    | .collectData runner _ =>
      if hasUnit chunk runner then .forward (.unit chunk runner) else .arrive (.noData chunk)
    | message => .forward (.unit chunk message.runner)
  else .forward .project

def unitHop (strategy : S → String) (chunk runner : String) (message : Message S F M) : Hop :=
  if message.isOwnedBy strategy chunk runner then
    match message.category with
    | .storage => .arrive (.storage chunk runner)
    | .analyzer => .arrive (.workers chunk runner)
    | .indirection => .arrive (.indirection chunk runner)
    | .project | .other _ => .forward (.chunk chunk)
  else .forward (.chunk chunk)

def Place.hop (strategy : S → String) (hasUnit : String → String → Bool) (place : Place)
    (message : Message S F M) : Hop :=
  match place with
  | .project => projectHop strategy message
  | .chunk id => chunkHop strategy hasUnit id message
  | .unit id runner => unitHop strategy id runner message

/-- Follows the hops of a message, at most `limit` of them. -/
def Place.follow (strategy : S → String) (hasUnit : String → String → Bool) :
    (limit : Nat) → Place → Message S F M → Option Destination
  | 0, _, _ => none
  | limit + 1, place, message =>
    match place.hop strategy hasUnit message with
    | .arrive destination => some destination
    | .forward next => next.follow strategy hasUnit limit message

/-- Where a message ends that is given to a manager. The longest way leads from a unit up to the
project and down to another unit. -/
def Place.destination (strategy : S → String) (hasUnit : String → String → Bool) (place : Place)
    (message : Message S F M) : Destination :=
  (place.follow strategy hasUnit 5 message).getD .dropped

end Tabulation
