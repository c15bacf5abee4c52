/-
A system of actors in which all actors are at work at once.

Each actor has a thread of its own, and other threads come from outside. A thread does one small
thing at a time, and in between any other thread goes on: while a message is sent it is looked up
whether the receiver is stopped, the message is counted, it is put into the mailbox, and the
receiver is woken, and each of these is a step. What the code of an actor does when it is called is
a matter of chance here.
-/

import Tabulation.Mailbox.System

namespace Tabulation.Mailbox

/-- Puts a message that was counted into a mailbox. -/
def System.enqueue {M : Type} (system : System M) (id : Nat) (message : M) : System M :=
  { system with pending := system.pending ++ [(id, message)] }

/-- Marks one actor as stopped. To stop an actor, a thread marks it and then those below it. -/
def System.mark {M : Type} (system : System M) (id : Nat) : System M :=
  system.update id fun actor => { actor with isStopped := true }

/-- One thing that the code of a thread does. -/
inductive Act (M : Type) where
  | send (receiver : Nat) (message : M)
  | hold
  | release
  /-- Leaves it to another thread to take a piece of work away. -/
  | entrust
  | takeOver
  | halt
  | resume
  | stop (id : Nat)
  | spawn (parent : Option Nat) (name : String) (role : Role M)
  | close
  | record (id : Nat) (event : String)
  | write (severity : Severity) (text : String)
  /-- Asks whether the work ran out. -/
  | ask
  /-- Changes what routers remember and what addresses stand for. -/
  | arrange (routers : Array Router) (addresses : List (String × Ref))
  /-- Begins to wait in the code of an actor, or goes on there. -/
  | pause (id : Nat) (waits : Bool)

/-- What a thread still has to do. A send is done step by step, and so is a spawn. -/
inductive Task (M : Type) where
  | act (act : Act M)
  /-- The receiver was not stopped; the message is not counted yet. -/
  | count (receiver : Nat) (message : M)
  /-- The message is counted, but not in the mailbox yet. -/
  | enqueue (receiver : Nat) (message : M)
  | signal (receiver : Nat)
  /-- The actor was made, but it has no thread yet. -/
  | launch (id : Nat)

/-- Where the thread of an actor is in its loop. -/
inductive Stage (M : Type) where
  /-- Runs the code before the first message, which may end in a failure. -/
  | starting (failure : Option Failure)
  | next
  | waiting
  | taken (message : M)
  | receiving (message : M) (failure : Option Failure)
  | recovering (message : M) (failure : Option Failure)
  /-- Is done with a message that is still counted. -/
  | finishing (message : M)
  | between
  | ended

/-- Whose code a thread runs. -/
inductive Position (M : Type) where
  | outside (program : List (Act M))
  | inside (id : Nat) (stage : Stage M)

/-- A thread: what it still has to do before it goes on in its loop, and how many pieces of work it
has to take away, because it added them or took them over. -/
structure Thread (M : Type) where
  position : Position M
  todo : List (Task M) := []
  held : Nat := 0

/-- What happened to a message. -/
inductive Entry (M : Type) where
  | accepted (receiver : Nat) (message : M)
  | enqueued (receiver : Nat) (message : M)
  | dropped (receiver : Nat) (message : M)
  | passed (receiver : Nat) (message : M)
  | failed (receiver : Nat) (message : M) (failure : Failure)
  | finished (receiver : Nat) (message : M)
deriving Repr, DecidableEq

/-- What the threads share. -/
structure Shared (M : Type) where
  system : System M
  /-- The actors that were woken since they last looked. -/
  signals : List Nat := []
  /-- How many pieces of work no thread has to take away, but any can take over. -/
  entrusted : Nat := 0
  /-- What happened so far, the oldest first. -/
  journal : List (Entry M) := []

/-- What is not up to the threads: what the code of an actor does if it is called in a step, how
this ends, and which way a thread goes that may end or go on. -/
structure Chance (M : Type) where
  script : List (Act M) := []
  failure : Option Failure := none
  ends : Bool := false

/-- The code that is called of the actor at a path. When it crashes, the stack is written to the log. -/
def Chance.code {M : Type} (chance : Chance M) (path : String) : List (Act M) :=
  match chance.failure with
  | some (.crashed _ stack) => chance.script ++ [.write .debug (stackLine path stack)]
  | _ => chance.script

/-- What comes of a task: the tasks in its place, and the threads that begin. -/
structure Effect (M : Type) where
  shared : Shared M
  tasks : List (Task M) := []
  held : Nat
  begun : List (Thread M) := []

def tasksOf {M : Type} (script : List (Act M)) : List (Task M) := script.map .act

namespace Shared

variable {M : Type}

def on (shared : Shared M) (change : System M → System M) : Shared M :=
  { shared with system := change shared.system }

def enter (shared : Shared M) (entry : Entry M) : Shared M :=
  { shared with journal := shared.journal ++ [entry] }

/-- The thread of an actor, which first runs the code that the actor has for its start. -/
def threadOf (chance : Chance M) (id : Nat) (actor : Actor M) : Thread M :=
  match actor.role.start with
  | none => { position := .inside id .next }
  | some _ =>
    { position := .inside id (.starting chance.failure), todo := tasksOf (chance.code actor.path) }

/-- Does a task for a thread that has some pieces of work to take away. It can take away no others. -/
def perform? (chance : Chance M) (shared : Shared M) (held : Nat) : Task M → Option (Effect M)
  | .act (.send receiver message) =>
    if shared.system.isStopped (some receiver) then some { shared, held }
    else some { shared, held, tasks := [.count receiver message] }
  | .count receiver message =>
    some
      { shared := (shared.on .hold).enter (.accepted receiver message), held
        tasks := [.enqueue receiver message] }
  | .enqueue receiver message =>
    some
      { shared := (shared.on (·.enqueue receiver message)).enter (.enqueued receiver message), held
        tasks := [.signal receiver] }
  | .signal receiver => some { shared := { shared with signals := receiver :: shared.signals }, held }
  | .act .hold => some { shared := shared.on .hold, held := held + 1 }
  | .act .release =>
    match held with
    | 0 => none
    | held + 1 => some { shared := shared.on .release, held }
  | .act .entrust =>
    match held with
    | 0 => none
    | held + 1 => some { shared := { shared with entrusted := shared.entrusted + 1 }, held }
  | .act .takeOver =>
    match shared.entrusted with
    | 0 => none
    | entrusted + 1 => some { shared := { shared with entrusted }, held := held + 1 }
  | .act .halt => some { shared := shared.on ({ · with isHalted := true }), held }
  | .act .resume => some { shared := shared.on ({ · with isHalted := false }), held }
  | .act (.stop id) => some { shared := shared.on (·.mark id), held }
  | .act (.spawn parent name role) =>
    let (id, system) := shared.system.add parent name role
    some { shared := { shared with system }, held, tasks := tasksOf chance.script ++ [.launch id] }
  | .launch id =>
    (shared.system.actors[id]?).map fun actor =>
      { shared, held, begun := if actor.isStopped then [] else [threadOf chance id actor] }
  | .act .close => some { shared := shared.on ({ · with isClosed := true }), held }
  | .act (.record id event) => some { shared := shared.on (·.record id event), held }
  | .act (.write severity text) => some { shared := shared.on (·.write severity text), held }
  | .act .ask => some { shared := shared.on (·.takeQuiet.2), held }
  | .act (.arrange routers addresses) =>
    some { shared := shared.on ({ · with routers, addresses }), held }
  | .act (.pause id waits) =>
    some { shared := shared.on (·.update id fun actor => { actor with isWaiting := waits }), held }

variable [Letter M]

/-- Goes on in the loop of an actor. The result has the code that is called. -/
def proceed? (chance : Chance M) (shared : Shared M) (id : Nat) :
    Stage M → Option (Shared M × Stage M × List (Act M))
  | .starting none => some (shared, .next, [])
  | .starting (some failure) =>
    some (shared.on (·.note id .error ("failed to start: " ++ failure.message)), .next, [])
  | .next =>
    match System.takeFrom id shared.system.pending with
    | some (message, others) =>
      some (shared.on ({ · with pending := others }), .taken message, [])
    | none => some (shared, .waiting, [])
  | .waiting =>
    if chance.ends then
      if shared.system.isStopped (some id) then some (shared.on (·.mark id), .ended, []) else none
    else if id ∈ shared.signals then
      some ({ shared with signals := shared.signals.filter (· ≠ id) }, .next, [])
    else none
  | .taken message =>
    if shared.system.isHalted && !Letter.isControl message then
      some (shared.enter (.dropped id message), .finishing message, [])
    else
      some (shared.enter (.passed id message), .receiving message chance.failure,
        chance.code (shared.system.pathOf (some id)))
  | .receiving message none => some (shared, .finishing message, [])
  | .receiving message (some failure) =>
    let shared := shared.enter (.failed id message failure)
    match (shared.system.actors[id]?).bind (·.role.recover) with
    | some _ =>
      some (shared, .recovering message chance.failure,
        chance.code (shared.system.pathOf (some id)))
    | none =>
      let text := "exception while handling " ++ Letter.typeName message ++ ": " ++ failure.message
      some (shared.on (·.note id .warn text), .finishing message, [])
  | .recovering message none => some (shared, .finishing message, [])
  | .recovering message (some again) =>
    some (shared.on (·.note id .error ("exception handler failed: " ++ again.message)),
      .finishing message, [])
  | .finishing message => some ((shared.on .done).enter (.finished id message), .between, [])
  | .between =>
    if shared.system.isStopped (some id) then some (shared.on (·.mark id), .ended, [])
    else some (shared, .next, [])
  | .ended => none

/-- One step of a thread. The result has the threads that begin. -/
def move? (chance : Chance M) (shared : Shared M) (thread : Thread M) :
    Option (Shared M × Thread M × List (Thread M)) :=
  match thread.todo, thread.position with
  | task :: rest, _ =>
    (shared.perform? chance thread.held task).map fun effect =>
      (effect.shared, { thread with todo := effect.tasks ++ rest, held := effect.held }, effect.begun)
  | [], .inside id stage =>
    (shared.proceed? chance id stage).map fun (shared, stage, script) =>
      (shared, { thread with position := .inside id stage, todo := tasksOf script }, [])
  | [], .outside _ => none

end Shared

/-- A system at work. -/
structure Concurrent (M : Type) where
  shared : Shared M
  threads : List (Thread M) := []

/-- What happens next: a thread comes from outside with a program, or a thread takes a step. -/
inductive Choice (M : Type) where
  | enter (program : List (Act M))
  | move (number : Nat) (chance : Chance M)

namespace Concurrent

variable {M : Type}

def start (name : String) (role : Role M) (log : Log) : Concurrent M :=
  { shared := { system := { name, role, log } } }

/-- Whether nothing is in flight. -/
def isIdle (state : Concurrent M) : Bool := state.shared.system.inFlight == 0

variable [Letter M]

def step? (state : Concurrent M) : Choice M → Option (Concurrent M)
  | .enter program =>
    some
      { state with
        threads := state.threads ++ [{ position := .outside program, todo := tasksOf program }] }
  | .move number chance => do
    let thread ← state.threads[number]?
    let (shared, thread, begun) ← state.shared.move? chance thread
    return { shared, threads := state.threads.set number thread ++ begun }

/-- Many steps, in any order of the threads. -/
def run? (state : Concurrent M) (choices : List (Choice M)) : Option (Concurrent M) :=
  choices.foldlM step? state

end Concurrent

/-- What a thread does that seeds several messages: the work is held in between. -/
def seeding {M : Type} (root : Nat) (seeds : List M) : List (Act M) :=
  .hold :: seeds.map (.send root) ++ [.release]

end Tabulation.Mailbox
