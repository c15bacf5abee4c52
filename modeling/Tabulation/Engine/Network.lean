/-
The engine as a network of actors.

Every manager, store, worker and resolver is an actor with a mailbox, and handles one message at a
time.  What an actor sends while it handles a message leaves it one after the other, and in between
other actors go on.  A message is in flight from when it is sent until its receiver is done with it.
-/

import Tabulation.Engine.Session

namespace Tabulation

variable {S F M : Type}

/-- An actor of the engine. -/
inductive Party where
  | manager (place : Place)
  | storage (chunk runner : String)
  | worker (chunk runner : String) (number : Nat)
  | indirection (chunk runner : String)
deriving Repr, DecidableEq

/-- A message, with the number of the question that it belongs to. -/
structure Mail (S F M : Type) where
  message : Message S F M
  question : Option Nat := none
deriving Repr, DecidableEq

structure Network (S F M : Type) where
  /-- The units, and the chunks whose managers were made. -/
  state : EngineState S F M
  /-- The chunks of which the project was told, in the order in which it was. -/
  known : List String := []
  /-- The chunks whose managers have started. -/
  begun : List String := []
  /-- The mail that nobody has taken, with the receivers, the oldest first. -/
  mail : List (Party × Mail S F M) := []
  /-- The actors that handle a message, with what they are about to send. -/
  atWork : List (Party × List (Party × Mail S F M)) := []
  inFlight : Nat := 0
  /-- What came from outside, the oldest first. -/
  questions : List (Message S F M) := []
  /-- The chunks to which the project passed a question on. -/
  scattered : List (Nat × List String) := []
  /-- What chunks answered to questions. -/
  replies : List ((Nat × String) × Solution S F) := []

namespace Network

/-- The network of an engine that did nothing yet. -/
def initial (log : Log) : Network S F M := { state := { log, barrierOpen := true } }

/-- How many messages came from outside, which is the number of the next one. -/
def asked (network : Network S F M) : Nat := network.questions.length

def post (network : Network S F M) (party : Party) (mail : Mail S F M) : Network S F M :=
  { network with mail := network.mail ++ [(party, mail)], inFlight := network.inFlight + 1 }

def ask (network : Network S F M) (message : Message S F M) : Network S F M :=
  { network.post (.manager .project) ⟨message, some network.asked⟩ with
    questions := network.questions ++ [message] }

/-- The manager of a chunk starts: it tells the project of its chunk. -/
def start (network : Network S F M) (chunk : String) : Network S F M :=
  { network.post (.manager .project) ⟨.newChunk chunk, none⟩ with
    begun := network.begun ++ [chunk] }

/-- The project takes note of a chunk. -/
def learn (network : Network S F M) (chunk : String) : Network S F M :=
  if network.known.contains chunk then network
  else { network with known := network.known ++ [chunk] }

/-- Makes a manager that does not exist yet. -/
def make (engine : Engine S F M) (network : Network S F M) : Place → Network S F M
  | .project => network
  | .chunk chunk => { network with state := network.state.announce chunk }
  | .unit chunk runner => { network with state := engine.openUnit network.state chunk runner }

def reply (network : Network S F M) (mail : Mail S F M) (chunk : String) (data : Solution S F) :
    Network S F M :=
  match mail.question with
  | some number => { network with replies := network.replies ++ [((number, chunk), data)] }
  | none => network

/-- The project passes a question on to the chunks that it knows. -/
def scatter (network : Network S F M) (mail : Mail S F M) (runner : String) :
    Network S F M × List (Party × Mail S F M) :=
  (match mail.question with
    | some number =>
      { network with scattered := network.scattered ++ [(number, network.known)] }
    | none => network,
    network.known.map fun chunk =>
      (.manager (.chunk chunk), ⟨.collectData runner chunk, mail.question⟩))

/-- A part of a unit ends its work. What it says goes to the manager of the unit. -/
def settle (network : Network S F M) (result : EngineState S F M × List (Place × Message S F M)) :
    Network S F M × List (Party × Mail S F M) :=
  ({ network with state := result.1 },
    result.2.map fun (place, message) => (.manager place, ⟨message, none⟩))

section Handling

variable [DecidableEq S] [DecidableEq F] [Hashable S] [Hashable F]

/-- The data of a runner in a chunk. It is empty where the runner never ran. -/
def dataOf (state : EngineState S F M) (chunk runner : String) : Solution S F :=
  ((state.store? chunk runner).map Store.snapshot).getD {}

variable [Shown S] [Shown F] [Shown M]

/-- The end of the way of a message: the part of a unit that it is for, or the manager itself. -/
def arrive (engine : Engine S F M) (network : Network S F M) (worker : Nat) (mail : Mail S F M) :
    Destination → Network S F M × List (Party × Mail S F M)
  | .storage chunk runner => (network, [(.storage chunk runner, mail)])
  | .workers chunk runner => (network, [(.worker chunk runner worker, mail)])
  | .indirection chunk runner => (network, [(.indirection chunk runner, mail)])
  | .project =>
    match mail.message with
    | .newChunk chunk => (network.learn chunk, [])
    | .collectAll runner => network.scatter mail runner
    | _ => (network, [])
  | .dropped =>
    let text := "dropping " ++ mail.message.typeName ++ ", no chunk owns it"
    let path := Place.project.path engine.name
    ({ network with state := network.state.report .warn path text }, [])
  | .noData chunk => (network.reply mail chunk {}, [])

/-- What an actor does with its mail, and what it is about to send then. A message for the workers
of a unit goes to the one with the number `worker`. -/
def receive (engine : Engine S F M) (network : Network S F M) (worker : Nat) (party : Party)
    (mail : Mail S F M) : Network S F M × List (Party × Mail S F M) :=
  match party with
  | .manager place =>
    match place.hop engine.strategy network.state.hasUnit mail.message with
    | .forward next => (network.make engine next, [(.manager next, mail)])
    | .arrive destination => network.arrive engine worker mail destination
  | .storage chunk runner =>
    match mail.message with
    | .collectData _ _ => (network.reply mail chunk (dataOf network.state chunk runner), [])
    | message => network.settle (engine.record network.state chunk runner message)
  | .worker chunk runner _ => network.settle (engine.work network.state chunk runner mail.message)
  | .indirection chunk runner =>
    network.settle (engine.resolve network.state chunk runner mail.message)

/-- An actor takes mail, of which `rest` is left, and begins to handle it. A halted engine drops what
is no question about the state. -/
def take (engine : Engine S F M) (network : Network S F M) (worker : Nat)
    (rest : List (Party × Mail S F M)) (party : Party) (mail : Mail S F M) : Network S F M :=
  let (next, sent) :=
    if network.state.halted && !mail.message.isControl then (network, [])
    else network.receive engine worker party mail
  { next with mail := rest, atWork := next.atWork ++ [(party, sent)] }

/-- Whether an actor may take its first message. The manager of a chunk has to start before. -/
def isReady (network : Network S F M) : Party → Bool
  | .manager (.chunk chunk) => network.begun.contains chunk
  | _ => true

/-- A step of some actor. -/
inductive Acts (engine : Engine S F M) : Network S F M → Network S F M → Prop
  | start {network : Network S F M} {chunk : String} (made : chunk ∈ network.state.chunks)
      (waits : chunk ∉ network.begun) : Acts engine network (network.start chunk)
  | take {network : Network S F M} {before after : List (Party × Mail S F M)} {party : Party}
      {mail : Mail S F M} {worker : Nat}
      (waiting : network.mail = before ++ (party, mail) :: after)
      (oldest : ∀ item ∈ before, item.1 ≠ party) (free : ∀ item ∈ network.atWork, item.1 ≠ party)
      (ready : network.isReady party = true) :
      Acts engine network (network.take engine worker (before ++ after) party mail)
  | send {network : Network S F M} {before after : List (Party × List (Party × Mail S F M))}
      {party : Party} {first : Party × Mail S F M} {rest : List (Party × Mail S F M)}
      (working : network.atWork = before ++ (party, first :: rest) :: after) :
      Acts engine network
        { network.post first.1 first.2 with atWork := before ++ (party, rest) :: after }
  | finish {network : Network S F M} {before after : List (Party × List (Party × Mail S F M))}
      {party : Party} (working : network.atWork = before ++ (party, []) :: after) :
      Acts engine network
        { network with atWork := before ++ after, inFlight := network.inFlight - 1 }

/-- What comes from outside. Only the managers of chunks tell of their chunks. -/
inductive Disturbs : Network S F M → Network S F M → Prop
  | ask {network : Network S F M} {message : Message S F M}
      (ours : ∀ chunk, message ≠ .newChunk chunk) : Disturbs network (network.ask message)
  | halt {network : Network S F M} : Disturbs network { network with state.halted := true }
  | resume {network : Network S F M} :
      Disturbs network { network with state := Engine.resume network.state }

/-- One way to go on: who is at work ends it, and then the oldest mail is taken. -/
def advance? (engine : Engine S F M) (network : Network S F M) : Option (Network S F M) :=
  match network.atWork with
  | (party, first :: rest) :: others =>
    some { network.post first.1 first.2 with atWork := (party, rest) :: others }
  | (_, []) :: others =>
    some { network with atWork := others, inFlight := network.inFlight - 1 }
  | [] =>
    match network.mail with
    | [] => none
    | (party, mail) :: rest =>
      if network.isReady party then some (network.take engine 0 rest party mail)
      else (network.state.chunks.find? fun chunk => !network.begun.contains chunk).map network.start

/-- Goes on until nobody can, for at most `limit` steps. -/
def drain (engine : Engine S F M) : (limit : Nat) → Network S F M → Network S F M
  | 0, network => network
  | limit + 1, network =>
    match network.advance? engine with
    | some next => drain engine limit next
    | none => network

end Handling

/-- What the chunks answered to a question, once all have that it was passed on to. -/
def answer? (network : Network S F M) (question : Nat) :
    Option (List (String × Solution S F)) :=
  (network.scattered.lookup question).bind fun chunks =>
    chunks.mapM fun chunk => (network.replies.lookup (question, chunk)).map (chunk, ·)

end Network

end Tabulation
