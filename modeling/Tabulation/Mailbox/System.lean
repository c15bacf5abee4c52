/-
A system of actors. An actor has a mailbox and handles one message at a time. Messages are kept in the
order in which they were sent, so the mailbox of an actor is the part of them that is addressed to it.
The system is quiet when nothing is in flight.
-/

import Tabulation.Log
import Tabulation.Text.Order

namespace Tabulation.Mailbox

/-- What the system looks at in a message. -/
class Letter (M : Type) where
  /-- Whether a halted system still handles the message. -/
  isControl : M → Bool
  /-- By what routers tell messages apart. -/
  key : M → String
  /-- What log lines call the message. -/
  typeName : M → String

/-- Why an actor failed. A crash has the stack that it was found on. -/
inductive Failure where
  | failed (text : String)
  | crashed (text : String) (stack : String := "")
deriving Repr, DecidableEq

def Failure.message : Failure → String
  | .failed text => text
  | .crashed text _ => "panic: " ++ text

def stackLine (path stack : String) : String := path ++ ": panic stack:\n" ++ stack

/-- One thing that an actor does. -/
inductive Deed (M : Type) where
  /-- Puts an event on the record. -/
  | record (event : String)
  | send (address : String) (message : M)
  | sendSelf (message : M)
  | stop
  /-- Makes a child. -/
  | spawn (name : String)
deriving Repr, DecidableEq

/-- What comes of a message. An actor that waits is not done with the message before the barrier
opens. -/
structure Reaction (M : Type) where
  deeds : List (Deed M) := []
  failure : Option Failure := none
  waits : Bool := false
deriving Repr, DecidableEq

/-- The behaviour of an actor. -/
structure Role (M : Type) where
  /-- What it does before its first message. -/
  start : Option (Reaction M) := none
  receive : M → Reaction M
  /-- What it does after a failure. -/
  recover : Option (M → Failure → Reaction M) := none

/-- An actor. Its parent is given by position; the system itself is no actor. -/
structure Actor (M : Type) where
  path : String
  parent : Option Nat
  role : Role M
  isStopped : Bool
  isWaiting : Bool := false

/-- How a pool chooses the worker for a message. -/
inductive PoolStrategy where
  | roundRobin
  /-- An idle worker, or else one with the fewest messages. -/
  | firstReady
deriving Repr, DecidableEq

/-- A way to spread messages over actors. -/
inductive Router where
  /-- Each key has an actor of its own, made on first use. -/
  | keyed (parent : Option Nat) (nameOf : String → String) (children : List (String × Nat))
  | pool (strategy : PoolStrategy) (workers : List Nat) (next : Nat)

/-- What an address stands for. -/
inductive Ref where
  | actor (id : Nat)
  | router (id : Nat)
deriving Repr, DecidableEq

structure System (M : Type) where
  name : String
  /-- The behaviour of actors for which no other is given. -/
  role : Role M
  actors : Array (Actor M) := #[]
  routers : Array Router := #[]
  /-- What addresses stand for; the latest meaning comes first. -/
  addresses : List (String × Ref) := []
  /-- The messages that nobody has started to handle, with their receivers, the oldest first. -/
  pending : List (Nat × M) := []
  /-- The number of messages that were sent and not handled to the end, and of other pieces of work. -/
  inFlight : Int := 0
  /-- Whether the work in flight ran out since this was last asked. -/
  wentQuiet : Bool := false
  isHalted : Bool := false
  isClosed : Bool := false
  /-- The events on record, with the paths of the actors. -/
  events : List (String × String) := []
  log : Log

namespace System

variable {M : Type}

/-! ### Work in flight -/

/-- Takes a piece of work away, and notes if it was the last. -/
def done (system : System M) : System M :=
  let count := system.inFlight - 1
  { system with inFlight := count, wentQuiet := system.wentQuiet || count == 0 }

/-- Adds a piece of work that is no message. -/
def hold (system : System M) : System M := { system with inFlight := system.inFlight + 1 }

/-- Takes such a piece of work away. -/
def release (system : System M) : System M := system.done

/-- Whether the work ran out since this was last asked. -/
def takeQuiet (system : System M) : Bool × System M :=
  (system.wentQuiet, { system with wentQuiet := false })

/-! ### Actors -/

/-- Whether an actor is stopped. Where there is no actor the system itself is meant. -/
def isStopped (system : System M) : Option Nat → Bool
  | none => system.isClosed
  | some id => (system.actors[id]?).all Actor.isStopped

def pathOf (system : System M) : Option Nat → String
  | none => system.name
  | some id => (system.actors[id]?).elim "" Actor.path

def update (system : System M) (id : Nat) (change : Actor M → Actor M) : System M :=
  { system with actors := system.actors.modify id change }

/-- Whether an actor is another one or below it. `fuel` bounds the depth. -/
def isBelow (system : System M) (above : Nat) : (fuel : Nat) → Nat → Bool
  | 0, _ => false
  | fuel + 1, id =>
    id == above || match (system.actors[id]?).bind Actor.parent with
      | some parent => system.isBelow above fuel parent
      | none => false

/-- Stops an actor and those below it. The messages in their mailboxes stay there. -/
def stop (system : System M) (id : Nat) : System M :=
  (List.range system.actors.size).foldl
    (fun state other =>
      if system.isBelow id (system.actors.size + 1) other then
        state.update other fun actor => { actor with isStopped := true }
      else state)
    system

def record (system : System M) (id : Nat) (event : String) : System M :=
  { system with events := system.events ++ [(system.pathOf (some id), event)] }

def write (system : System M) (severity : Severity) (text : String) : System M :=
  { system with log := system.log.write severity text }

def note (system : System M) (id : Nat) (severity : Severity) (text : String) : System M :=
  system.write severity (system.pathOf (some id) ++ ": " ++ text)

/-- Writes the stack to the log, if the code of the actor at a path crashed. -/
def noteStack (system : System M) (path : String) : Option Failure → System M
  | some (.crashed _ stack) => system.write .debug (stackLine path stack)
  | _ => system

/-- Puts a message into the mailbox of an actor; a stopped actor takes none. -/
def post (system : System M) (id : Nat) (message : M) : System M :=
  if system.isStopped (some id) then system
  else { system with inFlight := system.inFlight + 1, pending := system.pending ++ [(id, message)] }

/-- Adds an actor, which has not started yet. Below a stopped actor it is stopped from the start. -/
def add (system : System M) (parent : Option Nat) (name : String) (role : Role M) : Nat × System M :=
  let id := system.actors.size
  let path := system.pathOf parent ++ "/" ++ name
  (id,
    { system with
      actors := system.actors.push { path, parent, role, isStopped := system.isStopped parent }
      addresses := (path, .actor id) :: system.addresses })

/-- The mailbox of an actor, the oldest message first. -/
def mailbox (system : System M) (id : Nat) : List M :=
  (system.pending.filter fun entry => entry.1 == id).map Prod.snd

/-- The number of messages that an actor has before it or handles. -/
def backlog (system : System M) (id : Nat) : Nat :=
  (system.mailbox id).length + (if (system.actors[id]?).any Actor.isWaiting then 1 else 0)

/-- A worker with the fewest messages, the first of several. -/
def firstReady (system : System M) : List Nat → Option Nat
  | [] => none
  | id :: rest =>
    match system.firstReady rest with
    | some other => some (if Nat.ble (system.backlog id) (system.backlog other) then id else other)
    | none => some id

variable [Letter M]

/-! ### Sending and handling -/

/-- The child of a keyed router for a key, made if needed. Children have the common role, which has
no start of its own. -/
def child (system : System M) (router : Nat) (key : String) : Option Nat × System M :=
  match system.routers[router]? with
  | some (.keyed parent nameOf children) =>
    match children.lookup key with
    | some id => (some id, system)
    | none =>
      let (id, system) := system.add parent (nameOf key) system.role
      (some id,
        { system with
          routers := system.routers.modify router fun _ =>
            .keyed parent nameOf (children ++ [(key, id)]) })
  | _ => (none, system)

def route (system : System M) (router : Nat) (message : M) : System M :=
  match system.routers[router]? with
  | none => system
  | some (.keyed ..) =>
    match system.child router (Letter.key message) with
    | (some id, system) => system.post id message
    | (none, system) => system
  | some (.pool .firstReady workers _) =>
    match system.firstReady workers with
    | some id => system.post id message
    | none => system
  | some (.pool .roundRobin workers next) =>
    let system :=
      { system with
        routers := system.routers.modify router fun _ => .pool .roundRobin workers (next + 1) }
    match workers[next % workers.length]? with
    | some id => system.post id message
    | none => system

def send (system : System M) (address : String) (message : M) : System M :=
  match system.addresses.lookup address with
  | some (.actor id) => system.post id message
  | some (.router router) => system.route router message
  | none => system

def perform (system : System M) (id : Nat) : Deed M → System M
  | .record event => system.record id event
  | .send address message => system.send address message
  | .sendSelf message => system.post id message
  | .stop => system.stop id
  | .spawn name => (system.add (some id) name system.role).2

def performAll (system : System M) (id : Nat) (deeds : List (Deed M)) : System M :=
  deeds.foldl (fun state deed => state.perform id deed) system

/-- Makes an actor and lets it start. A failure to start is only noted. -/
def spawn (system : System M) (parent : Option Nat) (name : String) (role : Role M) :
    Nat × System M :=
  let (id, system) := system.add parent name role
  match role.start with
  | none => (id, system)
  | some reaction =>
    if system.isStopped (some id) then (id, system)
    else
      let path := system.pathOf (some id)
      let system := (system.performAll id reaction.deeds).noteStack path reaction.failure
      match reaction.failure with
      | some failure => (id, system.note id .error ("failed to start: " ++ failure.message))
      | none => (id, system)

/-- What follows from a failure: the actor handles it, or it is noted. -/
def fail (system : System M) (id : Nat) (role : Role M) (message : M) (failure : Failure) : System M :=
  match role.recover with
  | none =>
    system.note id .warn
      ("exception while handling " ++ Letter.typeName message ++ ": " ++ failure.message)
  | some recover =>
    let reaction := recover message failure
    let path := system.pathOf (some id)
    let system := (system.performAll id reaction.deeds).noteStack path reaction.failure
    match reaction.failure with
    | some again => system.note id .error ("exception handler failed: " ++ again.message)
    | none => system

/-- Lets an actor handle a message that was taken from its mailbox. A halted system drops what is no
control message. -/
def handle (system : System M) (id : Nat) (message : M) : System M :=
  match system.actors[id]? with
  | none => system
  | some actor =>
    if system.isHalted && !Letter.isControl message then system.done
    else
      let reaction := actor.role.receive message
      let system := system.performAll id reaction.deeds
      if reaction.waits then system.update id fun actor => { actor with isWaiting := true }
      else
        let system := system.noteStack actor.path reaction.failure
        match reaction.failure with
        | some failure => (system.fail id actor.role message failure).done
        | none => system.done

/-- Whether an actor can take a message: it is not stopped and does not wait. -/
def isReady (system : System M) (id : Nat) : Bool :=
  (system.actors[id]?).any fun actor => !actor.isStopped && !actor.isWaiting

/-- Takes the oldest message of an actor out of some messages. -/
def takeFrom (id : Nat) : List (Nat × M) → Option (M × List (Nat × M))
  | [] => none
  | entry :: rest =>
    if entry.1 == id then some (entry.2, rest)
    else (takeFrom id rest).map fun (message, others) => (message, entry :: others)

/-- Lets an actor handle the oldest message of its mailbox, if it can take one. -/
def deliver? (system : System M) (id : Nat) : Option (System M) :=
  if system.isReady id then
    (takeFrom id system.pending).map fun (message, others) =>
      { system with pending := others }.handle id message
  else none

/-- Lets the receiver of the oldest message that can be taken handle it. -/
def step? (system : System M) : Option (System M) :=
  (system.pending.find? fun entry => system.isReady entry.1).bind fun entry => system.deliver? entry.1

/-- Handles messages until none can be taken. `fuel` bounds their number. -/
def settle : (fuel : Nat) → System M → System M
  | 0, system => system
  | fuel + 1, system =>
    match system.step? with
    | some next => settle fuel next
    | none => system

/-! ### Pools and routers -/

/-- Makes a pool with at least one worker. The result is its path and number of workers. -/
def addPool (system : System M) (parent : Option Nat) (name : String) (strategy : PoolStrategy)
    (size : Nat) : String × Nat × System M :=
  let count := max size 1
  let (workers, system) := (List.range count).foldl
    (fun (acc : List Nat × System M) number =>
      let (id, system) := acc.2.spawn parent (name ++ "-" ++ toString number) acc.2.role
      (acc.1 ++ [id], system))
    ([], system)
  let path := system.pathOf parent ++ "/" ++ name
  (path, count,
    { system with
      routers := system.routers.push (.pool strategy workers 0)
      addresses := (path, .router system.routers.size) :: system.addresses })

/-- Makes a keyed router with an address. The result is its path. -/
def addKeyed (system : System M) (parent : Option Nat) (address : String) (nameOf : String → String) :
    String × System M :=
  (system.pathOf parent ++ "/*",
    { system with
      routers := system.routers.push (.keyed parent nameOf [])
      addresses := (address, .router system.routers.size) :: system.addresses })

/-- The keyed router that an address stands for, or stood for before it got another meaning. -/
def keyedAt? (system : System M) (address : String) : Option Nat :=
  system.addresses.findSome? fun entry =>
    match entry with
    | (name, .router router) =>
      match system.routers[router]? with
      | some (.keyed ..) => if name == address then some router else none
      | _ => none
    | _ => none

/-- The children of the keyed router at an address, in the order in which they were made. -/
def children (system : System M) (address : String) : List (String × Nat) :=
  match (system.keyedAt? address).bind fun router => system.routers[router]? with
  | some (.keyed _ _ children) => children
  | _ => []

/-- The child for a key of the router at an address, made if needed. -/
def childAt (system : System M) (address key : String) : Option Nat × System M :=
  match system.keyedAt? address with
  | some router => system.child router key
  | none => (none, system)

/-- The actor that an address stands for, or stood for before it got another meaning. -/
def actorAt? (system : System M) (address : String) : Option Nat :=
  system.addresses.findSome? fun entry =>
    match entry with
    | (name, .actor id) => if name == address then some id else none
    | _ => none

/-! ### The barrier and the end -/

def openBarrier (system : System M) : System M :=
  (List.range system.actors.size).foldl
    (fun state id =>
      if (state.actors[id]?).any Actor.isWaiting then
        (state.update id fun actor => { actor with isWaiting := false }).done
      else state)
    system

def close (system : System M) : System M :=
  { system with
    isClosed := true
    actors := system.actors.map fun actor => { actor with isStopped := true } }

end System

end Tabulation.Mailbox
