/-
Facts hold where realizable paths lead.

The meaning of the rules is a machine with a stack: a call is pushed where a callee is
entered, and a callee leaves to the return sites of the call that is popped.  The solver
has no stack.  An edge stands for the runs from its source to its target that end with
the stack they began with, and the calls on a stack are found again as a chain of
edges, each of which starts the source of the one before.
-/

import Tabulation.Proofs.LeastSolution

namespace Tabulation

variable {S F M : Type}

/-- A vertex and the calls that are not over, the latest first. -/
structure Configuration (S F : Type) where
  vertex : Vertex S F
  stack : List S

namespace Rules

variable [DecidableEq S] [DecidableEq M]

/-- One move along a realizable path. -/
inductive Moves (rules : Rules S F M) (dispatch : Dispatch S M) :
    Configuration S F → Configuration S F → Prop
  | flow {vertex next : Vertex S F} {stack : List S}
      (flows : rules.Flows vertex next) :
      Moves rules dispatch ⟨vertex, stack⟩ ⟨next, stack⟩
  | bypass {vertex next : Vertex S F} {stack : List S}
      (bypasses : rules.Bypasses vertex next) :
      Moves rules dispatch ⟨vertex, stack⟩ ⟨next, stack⟩
  | enter {vertex start : Vertex S F} {passed : F} {stack : List S}
      (enters : rules.Enters dispatch vertex passed start) :
      Moves rules dispatch ⟨vertex, stack⟩ ⟨start, vertex.statement :: stack⟩
  | leave {call : S} {vertex next : Vertex S F} {stack : List S}
      (exit : rules.isExit vertex.statement = true)
      (reenters : rules.Reenters call vertex next) :
      Moves rules dispatch ⟨vertex, call :: stack⟩ ⟨next, stack⟩

/-- A realizable path leads from one of the starts to a vertex. -/
def Realizable (rules : Rules S F M) (dispatch : Dispatch S M)
    (starts : Set (Vertex S F)) (vertex : Vertex S F) : Prop :=
  ∃ start ∈ starts, ∃ stack,
    Relation.ReflTransGen (rules.Moves dispatch) ⟨start, []⟩ ⟨vertex, stack⟩

variable {rules : Rules S F M} {dispatch : Dispatch S M}

/-! ### Edges stand for runs -/

/-- The runs that an edge stands for: one leads from a start to its source, and for
every stack one leads from its source to its target. -/
structure Traverses (rules : Rules S F M) (dispatch : Dispatch S M)
    (starts : Set (Vertex S F)) (edge : Edge S F) : Prop where
  reached : rules.Realizable dispatch starts edge.source
  level : ∀ stack, Relation.ReflTransGen (rules.Moves dispatch)
    ⟨edge.source, stack⟩ ⟨edge.target, stack⟩

variable {starts : Set (Vertex S F)}

private theorem Traverses.loop {start : Vertex S F}
    (reached : rules.Realizable dispatch starts start) :
    rules.Traverses dispatch starts (.loop start) where
  reached := reached
  level := fun _ => Relation.ReflTransGen.refl

private theorem Traverses.extend {edge : Edge S F} {next : Vertex S F}
    (traverses : rules.Traverses dispatch starts edge)
    (moves : ∀ stack, Relation.ReflTransGen (rules.Moves dispatch)
      ⟨edge.target, stack⟩ ⟨next, stack⟩) :
    rules.Traverses dispatch starts ⟨edge.source, next⟩ where
  reached := traverses.reached
  level := fun stack => (traverses.level stack).trans (moves stack)

theorem Traverses.target {edge : Edge S F}
    (traverses : rules.Traverses dispatch starts edge) :
    rules.Realizable dispatch starts edge.target := by
  obtain ⟨start, member, stack, run⟩ := traverses.reached
  exact ⟨start, member, stack, run.trans (traverses.level stack)⟩

/-- The entered callee runs on the stack with the call, and leaves it as it was. -/
private theorem level_of_summary {vertex next : Vertex S F} {passed : F}
    {summary : Edge S F} (enters : rules.Enters dispatch vertex passed summary.source)
    (level : ∀ stack, Relation.ReflTransGen (rules.Moves dispatch)
      ⟨summary.source, stack⟩ ⟨summary.target, stack⟩)
    (exit : rules.isExit summary.target.statement = true)
    (reenters : rules.Reenters vertex.statement summary.target next)
    (stack : List S) :
    Relation.ReflTransGen (rules.Moves dispatch) ⟨vertex, stack⟩ ⟨next, stack⟩ := by
  have entered : rules.Moves dispatch ⟨vertex, stack⟩
      ⟨summary.source, vertex.statement :: stack⟩ := .enter enters
  have left : rules.Moves dispatch ⟨summary.target, vertex.statement :: stack⟩
      ⟨next, stack⟩ := .leave exit reenters
  exact (Relation.ReflTransGen.head entered (level (vertex.statement :: stack))).tail left

variable [Inhabited S] [Inhabited F]

theorem closed_traverses (rules : Rules S F M) (dispatch : Dispatch S M)
    (starts : Set (Vertex S F)) :
    rules.Closed dispatch {edge | rules.Traverses dispatch starts edge} := by
  intro edge reason infers
  cases infers with
  | sequent member flows =>
      exact member.extend fun _ => Relation.ReflTransGen.single (.flow flows)
  | callToReturn member bypasses =>
      exact member.extend fun _ => Relation.ReflTransGen.single (.bypass bypasses)
  | callToStart member enters =>
      obtain ⟨start, isStart, stack, run⟩ := member.target
      exact Traverses.loop ⟨start, isStart, _, run.tail (.enter enters)⟩
  | exitToReturn member enters summaryMember exit reenters =>
      exact member.extend (level_of_summary enters summaryMember.level exit reenters)

/-! ### Runs are explained by edges -/

/-- The calls on a stack are the targets of known edges: the latest of them starts the
source, and so on with the source of its edge. -/
def Unwinds (rules : Rules S F M) (dispatch : Dispatch S M) (known : Set (Edge S F)) :
    Vertex S F → List S → Prop
  | _, [] => True
  | source, call :: rest => ∃ caller ∈ known, caller.target.statement = call ∧
      (∃ passed, rules.Enters dispatch caller.target passed source) ∧
      Unwinds rules dispatch known caller.source rest

/-- A known edge ends at the vertex, and its source was started by the stack. -/
def Explains (rules : Rules S F M) (dispatch : Dispatch S M) (known : Set (Edge S F))
    (configuration : Configuration S F) : Prop :=
  ∃ source, ⟨source, configuration.vertex⟩ ∈ known ∧
    rules.Unwinds dispatch known source configuration.stack

variable {known : Set (Edge S F)} {before after : Configuration S F}

private theorem Explains.move (closed : rules.Closed dispatch known)
    (explains : rules.Explains dispatch known before)
    (move : rules.Moves dispatch before after) :
    rules.Explains dispatch known after := by
  obtain ⟨source, member, unwinds⟩ := explains
  cases move with
  | flow flows => exact ⟨source, closed _ _ (.sequent member flows), unwinds⟩
  | bypass bypasses =>
      exact ⟨source, closed _ _ (.callToReturn member bypasses), unwinds⟩
  | @enter vertex start passed stack enters =>
      have started : Edge.loop start ∈ known := closed _ _ (.callToStart member enters)
      exact ⟨start, started, ⟨source, vertex⟩, member, rfl, ⟨passed, enters⟩, unwinds⟩
  | leave exit reenters =>
      obtain ⟨caller, callerMember, rfl, ⟨passed, enters⟩, rest⟩ := unwinds
      have returned := closed _ _ (.exitToReturn callerMember enters member exit reenters)
      exact ⟨caller.source, returned, rest⟩

theorem Explains.run (closed : rules.Closed dispatch known)
    (explains : rules.Explains dispatch known before)
    (run : Relation.ReflTransGen (rules.Moves dispatch) before after) :
    rules.Explains dispatch known after := by
  induction run with
  | refl => exact explains
  | tail _ move inductionHypothesis => exact inductionHypothesis.move closed move

/-- From starts, the least set of edges has an edge to every vertex that a realizable
path leads to, and to no other. -/
theorem realizable_iff (least : IsLeast {known | (∀ start ∈ starts, .loop start ∈ known) ∧
      rules.Closed dispatch known} known) (vertex : Vertex S F) :
    rules.Realizable dispatch starts vertex ↔ ∃ edge ∈ known, edge.target = vertex := by
  constructor
  · rintro ⟨start, member, stack, run⟩
    have begins : rules.Explains dispatch known ⟨start, []⟩ :=
      ⟨start, least.1.1 start member, trivial⟩
    obtain ⟨source, edge, _⟩ := begins.run least.1.2 run
    exact ⟨⟨source, vertex⟩, edge, rfl⟩
  · rintro ⟨edge, member, rfl⟩
    have within : known ⊆ {edge | rules.Traverses dispatch starts edge} :=
      least.2 ⟨fun start isStart => Traverses.loop ⟨start, isStart, [], .refl⟩,
        rules.closed_traverses dispatch starts⟩
    exact (within member).target

end Rules

theorem Solution.mem_factsAt [DecidableEq S] (data : Solution S F) (s : S)
    (fact : F) : fact ∈ data.factsAt s ↔ ⟨s, fact⟩ ∈ data.facts := by
  unfold factsAt
  simp only [List.mem_map, List.mem_filter, beq_iff_eq]
  constructor
  · rintro ⟨vertex, ⟨member, rfl⟩, rfl⟩
    exact member
  · intro member
    exact ⟨⟨s, fact⟩, ⟨member, rfl⟩, rfl⟩

/-- The vertices at which a runner was started from outside. -/
def History.starts (history : History S F M) (runner : String) : Set (Vertex S F) :=
  {vertex | ∃ reason, .newEdge runner (.loop vertex) reason ∈ history.sent}

variable [DecidableEq S] [DecidableEq F] [DecidableEq M] [Inhabited S] [Inhabited F]
variable [Shown S] [Shown F] [Shown M] [Hashable S] [Hashable F]

/-- When a run that was started with loops has come to its end, the facts at a statement
are those to which a realizable path leads from a start. -/
theorem Engine.mem_factsAt_iff_realizable (engine : Engine S F M) (rules : Rules S F M)
    (dispatch : Dispatch S M) (follows : engine.Follows rules dispatch)
    (hook : rules.OnlyFindings) (log : Log) (history : History S F M)
    (reaches : engine.Reaches log history)
    (sent : ∀ message ∈ history.sent,
      ∃ runner vertex reason, message = .newEdge runner (.loop vertex) reason)
    (finished : history.pending = []) :
    ∃ data, Engine.collect history.state rules.runner = .ok data ∧
      ∀ s fact, fact ∈ data.factsAt s ↔
        rules.Realizable dispatch (history.starts rules.runner) ⟨s, fact⟩ := by
  have edges : ∀ message ∈ history.sent,
      ∃ runner edge reason, message = .newEdge runner edge reason := by
    intro message member
    obtain ⟨runner, vertex, reason, same⟩ := sent message member
    exact ⟨runner, _, reason, same⟩
  have least := Reaches.isLeast_knownEdges reaches finished follows hook edges
  have seeds : ∀ known : Set (Edge S F),
      (∀ seed ∈ history.seeds rules.runner, seed.1 ∈ known) ↔
        ∀ start ∈ history.starts rules.runner, .loop start ∈ known := by
    intro known
    constructor
    · rintro seeded start ⟨reason, member⟩
      exact seeded (.loop start, reason) member
    · rintro started ⟨edge, reason⟩ member
      obtain ⟨_, vertex, _, same⟩ := sent _ member
      cases same
      exact started vertex ⟨reason, member⟩
  simp only [seeds] at least
  obtain ⟨data, collected, reports⟩ := (Reaches.accounts reaches).collect rules.runner
  refine ⟨data, collected, fun s fact => ?_⟩
  rw [data.mem_factsAt, reports.facts, Rules.realizable_iff least]
  constructor
  · rintro ⟨edge, reason, target, member⟩
    exact ⟨edge, ⟨reason, member⟩, target⟩
  · rintro ⟨edge, ⟨reason, member⟩, target⟩
    exact ⟨edge, reason, target, member⟩

theorem Engine.mem_factsAt_iff_realizable_sample : ∃ history data,
    (Sample.engine Sample.graph.methodOf).Reaches Sample.log history ∧
    history.pending = [] ∧ Engine.collect history.state "sample" = .ok data ∧
    ∀ s fact, fact ∈ data.factsAt s ↔
      Sample.rules.Realizable Sample.dispatch (history.starts "sample") ⟨s, fact⟩ := by
  obtain ⟨history, reaches, finished, sent⟩ := Sample.finishes_by_method
  have loops : ∀ message ∈ history.sent,
      ∃ runner vertex reason, message = .newEdge runner (.loop vertex) reason := by
    rw [sent]
    intro message member
    exact ⟨_, _, _, List.mem_singleton.mp member⟩
  obtain ⟨data, collected, facts⟩ := Engine.mem_factsAt_iff_realizable
    (Sample.engine Sample.graph.methodOf) Sample.rules Sample.dispatch
    (Sample.follows _) Sample.onlyFindings Sample.log history reaches loops finished
  exact ⟨history, data, reaches, finished, collected, facts⟩

end Tabulation
