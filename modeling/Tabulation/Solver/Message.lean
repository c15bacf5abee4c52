/-
The messages that the parts of the solver exchange, and the rule that gives each message its owner.

The state of the solver is divided into units, one for each chunk of the program and each runner. A
message belongs to one runner, and, with the exception of the messages of the project, to the chunk of
one of its statements. Nothing but the message and the chunk strategy decides who owns it.
-/

import Tabulation.Solver.Edge

namespace Tabulation

variable {S F M : Type}

/-- Which part of a unit handles a message. -/
inductive Category where
  | storage
  | analyzer
  | indirection
  | project
  /-- A category that no part handles. -/
  | other (code : Int)
deriving Repr, DecidableEq, Inhabited

def Category.ofCode (code : Int) : Category :=
  match code with
  | 0 => .storage
  | 1 => .analyzer
  | 2 => .indirection
  | 3 => .project
  | code => .other code

def Category.text : Category → String
  | .storage => "storage"
  | .analyzer => "analyzer"
  | .indirection => "indirection"
  | .project => "project"
  | .other code => "category(" ++ toString code ++ ")"

/-- A message of the solver. The first field of almost all of them is the runner that owns it. -/
inductive Message (S F M : Type) where
  /-- Asks the store to record an edge and a reason for it. -/
  | newEdge (runner : String) (edge : Edge S F) (reason : Reason S F)
  /-- Asks the store to record a summary. -/
  | newSummary (runner : String) (edge : Edge S F)
  /-- Asks the store to record a finding. -/
  | newFinding (runner : String) (finding : Finding S F)
  /-- Asks the store to notify `subscriber` of every summary, past and future, that starts at
  `vertex`; `edge` comes back with every notice. -/
  | subscribeStart (runner : String) (vertex : Vertex S F) (subscriber : String) (edge : Edge S F)
  /-- The same for the summaries that end at `vertex`. -/
  | subscribeEnd (runner : String) (vertex : Vertex S F) (subscriber : String) (edge : Edge S F)
  /-- Asks the store of a chunk for a snapshot. -/
  | collectData (runner chunk : String)
  /-- Tells the analyzer that an edge was recorded for the first time. -/
  | edgeAdded (runner : String) (edge : Edge S F)
  /-- Tells the analyzer of a callee of the call at the target of an edge. -/
  | resolvedCall (runner : String) (edge : Edge S F) (callee : M)
  /-- Tells the subscriber `runner` of a summary that starts where it subscribed. -/
  | startNotice (runner author : String) (summary edge : Edge S F)
  /-- Tells the subscriber `runner` of a summary that ends where it subscribed. -/
  | endNotice (runner author : String) (summary edge : Edge S F)
  /-- Asks for the callees of the call at the target of an edge. -/
  | unresolvedCall (runner : String) (edge : Edge S F)
  /-- Tells the project that a chunk has come into being. -/
  | newChunk (chunk : String)
  /-- Asks the project for the data of a runner in every chunk. -/
  | collectAll (runner : String)
  /-- A message of a kind that no part of the solver knows. -/
  | foreign (runner : String) (category : Int)
deriving Repr, DecidableEq

namespace Message

def runner : Message S F M → String
  | .newEdge runner .. | .newSummary runner .. | .newFinding runner .. => runner
  | .subscribeStart runner .. | .subscribeEnd runner .. | .collectData runner .. => runner
  | .edgeAdded runner .. | .resolvedCall runner .. => runner
  | .startNotice runner .. | .endNotice runner .. | .unresolvedCall runner .. => runner
  | .newChunk _ => ""
  | .collectAll runner | .foreign runner _ => runner

/-- The part of a unit that handles a message. -/
def category : Message S F M → Category
  | .newEdge .. | .newSummary .. | .newFinding .. => .storage
  | .subscribeStart .. | .subscribeEnd .. | .collectData .. => .storage
  | .edgeAdded .. | .resolvedCall .. | .startNotice .. | .endNotice .. => .analyzer
  | .unresolvedCall .. => .indirection
  | .newChunk _ | .collectAll _ => .project
  | .foreign _ code => .ofCode code

/-- Whether a message is still handled while the solver is halted: questions about the state and the
news of a chunk are. -/
def isControl : Message S F M → Bool
  | .collectData .. | .collectAll _ | .newChunk _ => true
  | _ => false

def home? : Message S F M → Option S
  | .newEdge _ edge _ => some edge.target.statement
  | .newSummary _ edge => some edge.source.statement
  | .newFinding _ finding => some finding.vertex.statement
  | .subscribeStart _ vertex .. | .subscribeEnd _ vertex .. => some vertex.statement
  | .edgeAdded _ edge | .resolvedCall _ edge _ | .unresolvedCall _ edge => some edge.target.statement
  | .startNotice _ _ _ edge | .endNotice _ _ _ edge => some edge.target.statement
  | .collectData .. | .newChunk _ | .collectAll _ | .foreign .. => none

/-- The chunk that owns a message. The messages of the project and foreign messages have none. -/
def chunkOf (strategy : S → String) (message : Message S F M) : Option String :=
  match message with
  | .collectData _ chunk => some chunk
  | message => message.home?.map strategy

def isOwnedBy (strategy : S → String) (chunk runner : String) (message : Message S F M) : Bool :=
  message.chunkOf strategy == some chunk && message.runner == runner

def kindName : Message S F M → String
  | .newEdge .. => "NewEdge"
  | .newSummary .. => "NewSummaryEdge"
  | .newFinding .. => "NewFinding"
  | .subscribeStart .. => "SubscriptionOnStart"
  | .subscribeEnd .. => "SubscriptionOnEnd"
  | .collectData .. => "CollectData"
  | .edgeAdded .. => "EdgeMessage"
  | .resolvedCall .. => "ResolvedCall"
  | .startNotice .. => "NotificationOnStart"
  | .endNotice .. => "NotificationOnEnd"
  | .unresolvedCall .. => "UnresolvedCall"
  | .newChunk _ => "NewChunk"
  | .collectAll _ => "CollectAll"
  | .foreign .. => "customMsg"

/-- The full name of the type of a message, as logs and errors show it. -/
def typeName [Shown S] [Shown F] [Shown M] (message : Message S F M) : String :=
  let parameters := Shown.typeName S ++ "," ++ Shown.typeName F
  match message with
  | .newChunk _ => "ifds.NewChunk"
  | .foreign .. => "main.customMsg"
  | .resolvedCall .. => "ifds.ResolvedCall[" ++ parameters ++ "," ++ Shown.typeName M ++ "]"
  | message => "ifds." ++ message.kindName ++ "[" ++ parameters ++ "]"

def handOver [Inhabited S] [Inhabited F] (runner author : String) (edge : Edge S F) :
    Message S F M :=
  .newEdge runner edge (.fromRunner author)

/-- The printed parts of a message, by which the answers of a store are ordered. -/
def key [Shown S] [Shown F] [Inhabited S] [Inhabited F] (message : Message S F M) : List String :=
  let (subscribing, summary) : Edge S F × Edge S F :=
    match message with
    | .startNotice _ _ summary edge | .endNotice _ _ summary edge => (edge, summary)
    | _ => (default, default)
  message.kindName :: message.runner :: (subscribing.key ++ summary.key)

end Message

end Tabulation
