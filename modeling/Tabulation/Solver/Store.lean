/-
The store of one runner in one chunk. It records edges, summaries and findings, announces every edge
once, and brings together subscriptions and summaries in whatever order they arrive.
-/

import Tabulation.Solver.Solution
import Tabulation.Solver.Message

namespace Tabulation

variable {S F M : Type}

/-- A wish to be told of the summaries at a vertex. `edge` comes back with every notice. -/
structure Subscription (S F : Type) where
  vertex : Vertex S F
  subscriber : String
  edge : Edge S F
deriving Repr, DecidableEq

/-- The state of one runner in one chunk. Nothing in it is ever removed. -/
structure Store (S F : Type) where
  runner : String
  /-- Each reason of each edge, once, the latest first. -/
  reasons : List (Edge S F × Reason S F) := []
  summaries : List (Edge S F) := []
  onStart : List (Subscription S F) := []
  onEnd : List (Subscription S F) := []
  /-- Each finding once, the latest first. -/
  findings : List (Finding S F) := []
deriving Repr, DecidableEq

/-- A message came to a part of the solver that does not handle its kind. -/
inductive Unexpected where
  | inStore (runner typeName : String)
  | inAnalyzer (runner typeName : String)
  | inResolver (typeName : String)
deriving Repr, DecidableEq

def Unexpected.message : Unexpected → String
  | .inStore runner typeName => "store " ++ runner ++ ": unexpected message " ++ typeName
  | .inAnalyzer runner typeName => "analyzer " ++ runner ++ ": unexpected message " ++ typeName
  | .inResolver typeName => "unexpected message " ++ typeName

/-- Adds an element in front of a list that does not have it. -/
def insertNew {α : Type} [DecidableEq α] (item : α) (items : List α) : List α :=
  if items.contains item then items else item :: items

namespace Store

variable [DecidableEq S] [DecidableEq F]

/-- The recorded edges, in the order of arrival. -/
def edges [Hashable S] [Hashable F] (store : Store S F) : List (Edge S F) :=
  Text.distinctByHash (store.reasons.reverse.map (·.1))

def hasEdge (store : Store S F) (edge : Edge S F) : Bool :=
  store.reasons.any fun pair => pair.1.isSame edge

/-- Records a reason of an edge. Only an edge that is new is announced. -/
def addEdge (store : Store S F) (edge : Edge S F) (reason : Reason S F) :
    Store S F × List (Message S F M) :=
  if store.hasEdge edge then ({ store with reasons := insertNew (edge, reason) store.reasons }, [])
  else ({ store with reasons := (edge, reason) :: store.reasons }, [.edgeAdded store.runner edge])

def startNotice (store : Store S F) (summary : Edge S F) (wish : Subscription S F) :
    Message S F M :=
  .startNotice wish.subscriber store.runner summary wish.edge

def endNotice (store : Store S F) (summary : Edge S F) (wish : Subscription S F) :
    Message S F M :=
  .endNotice wish.subscriber store.runner summary wish.edge

/-- Records a summary. A new one is told to all who subscribed at one of its ends. -/
def addSummary (store : Store S F) (summary : Edge S F) : Store S F × List (Message S F M) :=
  if store.summaries.contains summary then (store, [])
  else
    ({ store with summaries := store.summaries ++ [summary] },
      ((store.onStart.filter fun wish => wish.vertex == summary.source).map
        (store.startNotice summary)) ++
      ((store.onEnd.filter fun wish => wish.vertex == summary.target).map
        (store.endNotice summary)))

/-- Records a subscription at the start of summaries. A new one is told of the summaries so far. -/
def subscribeStart (store : Store S F) (wish : Subscription S F) :
    Store S F × List (Message S F M) :=
  if store.onStart.contains wish then (store, [])
  else
    ({ store with onStart := store.onStart ++ [wish] },
      (store.summaries.filter fun summary => summary.source == wish.vertex).map
        fun summary => store.startNotice summary wish)

/-- Records a subscription at the end of summaries. A new one is told of the summaries so far. -/
def subscribeEnd (store : Store S F) (wish : Subscription S F) :
    Store S F × List (Message S F M) :=
  if store.onEnd.contains wish then (store, [])
  else
    ({ store with onEnd := store.onEnd ++ [wish] },
      (store.summaries.filter fun summary => summary.target == wish.vertex).map
        fun summary => store.endNotice summary wish)

/-- Handles a message and gives the messages that answer it. A message that is not for a store is an
error and changes nothing. The question for a snapshot changes nothing either: its answer is
`Store.snapshot`. -/
def handle [Shown S] [Shown F] [Shown M] (store : Store S F) (message : Message S F M) :
    Except Unexpected (Store S F × List (Message S F M)) :=
  match message with
  | .newEdge _ edge reason => .ok (store.addEdge edge reason)
  | .newSummary _ edge => .ok (store.addSummary edge)
  | .subscribeStart _ vertex subscriber edge => .ok (store.subscribeStart ⟨vertex, subscriber, edge⟩)
  | .subscribeEnd _ vertex subscriber edge => .ok (store.subscribeEnd ⟨vertex, subscriber, edge⟩)
  | .newFinding _ finding => .ok ({ store with findings := insertNew finding store.findings }, [])
  | .collectData .. => .ok (store, [])
  | message => .error (.inStore store.runner message.typeName)

def snapshot [Hashable S] [Hashable F] (store : Store S F) : Solution S F where
  edges := store.edges
  reasons := store.reasons.reverse
  facts := Text.distinctByHash (store.edges.map (·.target))
  summaries := store.summaries
  findings := store.findings.reverse

end Store

/-- Handles messages one after the other: the state at the end, and all answers in their order. What is
refused changes nothing. -/
def serveAll {σ : Type} (handle : σ → Message S F M → Except Unexpected (σ × List (Message S F M)))
    (state : σ) : List (Message S F M) → σ × List (Message S F M)
  | [] => (state, [])
  | message :: rest =>
    let (next, answers) := (handle state message).toOption.getD (state, [])
    let (last, more) := serveAll handle next rest
    (last, answers ++ more)

def Store.serve [DecidableEq S] [DecidableEq F] [Shown S] [Shown F] [Shown M] (store : Store S F)
    (messages : List (Message S F M)) : Store S F × List (Message S F M) :=
  serveAll Store.handle store messages

end Tabulation
