/-
The domain of the solver: facts that hold at statements, edges between them, and why an edge holds.

An edge says that its target is reachable while exploring from its source. The source of an edge is the
start of the method under exploration, and a method is started by the edge from its start to itself.
Statements and facts are supplied by a front end; the solver only compares and prints them.
-/

import Tabulation.Text.Order

namespace Tabulation

/-- How the values of a type are written, and what the type is called in messages. -/
class Shown (α : Type) where
  text : α → String
  typeName : String

instance : Shown String where
  text := id
  typeName := "string"

/-- A statement paired with a fact that holds there. -/
structure Vertex (S F : Type) where
  statement : S
  fact : F
deriving Repr, DecidableEq, Inhabited, Hashable

/-- `target` is reachable while exploring from `source`. -/
structure Edge (S F : Type) where
  source : Vertex S F
  target : Vertex S F
deriving Repr, DecidableEq, Inhabited, Hashable

variable {S F : Type}

/-- Whether two edges are equal. Edges of one method differ in their targets, which are compared
first. -/
def Edge.isSame [DecidableEq S] [DecidableEq F] (a b : Edge S F) : Bool :=
  a.target.statement == b.target.statement && a.target.fact == b.target.fact &&
    a.source.statement == b.source.statement && a.source.fact == b.source.fact

theorem Edge.isSame_iff [DecidableEq S] [DecidableEq F] (a b : Edge S F) :
    a.isSame b = true ↔ a = b := by
  obtain ⟨⟨s, f⟩, ⟨t, g⟩⟩ := a
  obtain ⟨⟨s', f'⟩, ⟨t', g'⟩⟩ := b
  simp only [isSame, Bool.and_eq_true, beq_iff_eq, Edge.mk.injEq, Vertex.mk.injEq]
  constructor
  · rintro ⟨⟨⟨ht, hg⟩, hs⟩, hf⟩
    exact ⟨⟨hs, hf⟩, ht, hg⟩
  · rintro ⟨⟨hs, hf⟩, ht, hg⟩
    exact ⟨⟨⟨ht, hg⟩, hs⟩, hf⟩

def Edge.loop (v : Vertex S F) : Edge S F := ⟨v, v⟩

/-- The kind of derivation that justifies an edge. -/
inductive ReasonKind where
  /-- The edge was seeded. -/
  | initial
  /-- Flow inside a method. -/
  | sequent
  /-- Flow that bypasses a call. -/
  | callToReturn
  /-- The start of a method, reached from a call. -/
  | callToStart
  /-- The summary of a callee, applied at a call. -/
  | exitToReturn
  /-- The edge was sent by another runner. -/
  | fromOtherRunner
  /-- A kind that the solver itself never uses. -/
  | other (code : Int)
deriving Repr, DecidableEq, Inhabited, Hashable

def ReasonKind.ofCode (code : Int) : ReasonKind :=
  match code with
  | 0 => .initial
  | 1 => .sequent
  | 2 => .callToReturn
  | 3 => .callToStart
  | 4 => .exitToReturn
  | 5 => .fromOtherRunner
  | code => .other code

def ReasonKind.code : ReasonKind → Int
  | .initial => 0
  | .sequent => 1
  | .callToReturn => 2
  | .callToStart => 3
  | .exitToReturn => 4
  | .fromOtherRunner => 5
  | .other code => code

def ReasonKind.text : ReasonKind → String
  | .initial => "initial"
  | .sequent => "sequent"
  | .callToReturn => "call-to-return"
  | .callToStart => "call-to-start"
  | .exitToReturn => "exit-to-return-site"
  | .fromOtherRunner => "from-other-runner"
  | .other code => "reason(" ++ toString code ++ ")"

/-- Why an edge was added. `edge` is the edge it was derived from, which for `exitToReturn` is the
edge of the caller; `summary` is the summary applied by `exitToReturn`, and `runner` the author of
an edge from another runner. What a kind does not use has its default value. -/
structure Reason (S F : Type) where
  kind : ReasonKind
  edge : Edge S F
  summary : Edge S F
  runner : String
deriving Repr, DecidableEq, Inhabited, Hashable

namespace Reason

variable [Inhabited S] [Inhabited F]

def initial : Reason S F := ⟨.initial, default, default, ""⟩

def fromRunner (author : String) : Reason S F := ⟨.fromOtherRunner, default, default, author⟩

def derived (kind : ReasonKind) (edge : Edge S F) : Reason S F := ⟨kind, edge, default, ""⟩

def applied (caller summary : Edge S F) : Reason S F := ⟨.exitToReturn, caller, summary, ""⟩

end Reason

/-- A fact that reaches a place where it must not. -/
structure Finding (S F : Type) where
  vertex : Vertex S F
  rule : String
  message : String
deriving Repr, DecidableEq, Inhabited, Hashable

/-- How a run ended. -/
inductive Status where
  /-- Every message was handled: the result is complete. -/
  | quiesced
  /-- The time was up first: the result is partial. -/
  | timedOut
  /-- The caller gave up first: the result is partial. -/
  | cancelled
  /-- A status that no run has. -/
  | other (code : Int)
deriving Repr, DecidableEq, Inhabited

def Status.ofCode (code : Int) : Status :=
  match code with
  | 0 => .quiesced
  | 1 => .timedOut
  | 2 => .cancelled
  | code => .other code

def Status.text : Status → String
  | .quiesced => "quiesced"
  | .timedOut => "timed out"
  | .cancelled => "cancelled"
  | .other code => "status(" ++ toString code ++ ")"

def Status.isComplete (status : Status) : Bool := status == .quiesced

section Printing

variable [Shown S] [Shown F]

def Vertex.text (v : Vertex S F) : String :=
  "(" ++ Shown.text v.statement ++ ", " ++ Shown.text v.fact ++ ")"

def Edge.text (e : Edge S F) : String := e.source.text ++ " -> " ++ e.target.text

def Finding.text (f : Finding S F) : String :=
  "[" ++ f.rule ++ "] " ++ f.message ++ " at " ++ f.vertex.text

def Vertex.key (v : Vertex S F) : List String := [Shown.text v.statement, Shown.text v.fact]

/-- The printed parts of an edge, by which edges are ordered. -/
def Edge.key (e : Edge S F) : List String := e.source.key ++ e.target.key

/-- The printed parts of a finding, by which findings are ordered. -/
def Finding.key (f : Finding S F) : List String := f.vertex.key ++ [f.rule, f.message]

/-- A number as twenty characters, with zeros after the sign. -/
def paddedCode (code : Int) : String :=
  let digits := toString code.natAbs
  let sign := if code < 0 then "-" else ""
  let zeros := 20 - digits.length - sign.length
  sign ++ String.ofList (List.replicate zeros '0') ++ digits

/-- The printed parts of a reason, by which reasons are ordered. -/
def Reason.key (r : Reason S F) : List String :=
  paddedCode r.kind.code :: (r.edge.key ++ r.summary.key ++ [r.runner])

end Printing

def sortByKey {α : Type} (key : α → List String) (items : List α) : List α :=
  ((items.map fun item => (key item, item)).mergeSort fun a b => !Text.textsBefore b.1 a.1).map (·.2)

end Tabulation
