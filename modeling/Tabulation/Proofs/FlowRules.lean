/-
The flow rules and the steps that follow them.

Facts flow between vertices in four ways: inside a method, past a call, from a call
to the starts of its callees, and from an exit back to a return site.  What a step of
an analyzer sends for a message are the conclusions of these rules, and nothing else
besides its hooks.
-/

import Mathlib.Data.Set.Basic
import Tabulation.Solver.Registry

namespace Tabulation.Rules

variable {S F M : Type}

section Flow

variable [DecidableEq S] (rules : Rules S F M)

/-- Flow from a statement that is neither a call nor an exit. -/
def Flows (vertex next : Vertex S F) : Prop :=
  rules.graph.isCall vertex.statement = false ∧
    rules.isExit vertex.statement = false ∧
    next.statement ∈ rules.graph.successors vertex.statement ∧
    next.fact ∈ rules.flow.sequent vertex.statement next.statement vertex.fact

/-- Flow from a call to a return site that no callee takes part in. -/
def Bypasses (vertex next : Vertex S F) : Prop :=
  rules.graph.isCall vertex.statement = true ∧
    next.statement ∈ rules.graph.successors vertex.statement ∧
    .toReturn next.fact ∈
      rules.flow.call vertex.statement next.statement vertex.fact

/-- A call passes a fact to its callees. -/
def Passes (vertex : Vertex S F) (passed : F) : Prop :=
  rules.graph.isCall vertex.statement = true ∧
    ∃ next ∈ rules.graph.successors vertex.statement,
      .toCallees passed ∈ rules.flow.call vertex.statement next vertex.fact

def Starts (call : S) (passed : F) (callee : M) (start : Vertex S F) : Prop :=
  start.statement ∈ rules.graph.entries callee ∧
    start.fact ∈ rules.flow.callToStart call start.statement passed

/-- Flow from a call to a start of one of its callees. -/
def Enters [DecidableEq M] (dispatch : Dispatch S M) (vertex : Vertex S F)
    (passed : F) (start : Vertex S F) : Prop :=
  rules.Passes vertex passed ∧
    ∃ callee ∈ (dispatch.resolve vertex.statement).methods,
      rules.Starts vertex.statement passed callee start

/-- Flow from the target of a summary to a return site of a call. -/
def Reenters (call : S) (vertex next : Vertex S F) : Prop :=
  next.statement ∈ rules.graph.successors call ∧
    next.fact ∈
      rules.flow.exitToReturn call next.statement vertex.statement vertex.fact

end Flow

/-- The edge of a call with the fact that is passed to the callees. -/
def callEdge (edge : Edge S F) (passed : F) : Edge S F :=
  ⟨edge.source, ⟨edge.target.statement, passed⟩⟩

/-! ### What the steps send -/

variable (rules : Rules S F M)

theorem mem_returnStep (edge summary : Edge S F) (message : Message S F M) :
    message ∈ rules.returnStep edge summary ↔
      ∃ next, rules.Reenters edge.target.statement summary.target next ∧
        message = .newEdge rules.runner ⟨edge.source, next⟩ (.applied edge summary) := by
  simp only [returnStep, extend, List.mem_flatMap, List.mem_map]
  constructor
  · rintro ⟨next, successor, fact, member, rfl⟩
    exact ⟨⟨next, fact⟩, ⟨successor, member⟩, rfl⟩
  · rintro ⟨next, ⟨successor, member⟩, rfl⟩
    exact ⟨next.statement, successor, next.fact, member, rfl⟩

variable [Inhabited S] [Inhabited F]

theorem mem_calleeStep (edge : Edge S F) (callee : M) (message : Message S F M) :
    message ∈ rules.calleeStep edge callee ↔
      ∃ start, rules.Starts edge.target.statement edge.target.fact callee start ∧
        (message = .subscribeStart rules.runner start rules.runner edge ∨
          message = .newEdge rules.runner (.loop start) (.derived .callToStart edge)) := by
  simp only [calleeStep, List.mem_flatMap, List.mem_cons, List.not_mem_nil, or_false]
  constructor
  · rintro ⟨entry, isEntry, fact, member, sent⟩
    exact ⟨⟨entry, fact⟩, ⟨isEntry, member⟩, sent⟩
  · rintro ⟨start, ⟨isEntry, member⟩, sent⟩
    exact ⟨start.statement, isEntry, start.fact, member, sent⟩

private theorem mem_sequentStep (edge : Edge S F) (message : Message S F M) :
    message ∈ rules.sequentStep edge ↔
      ∃ next : Vertex S F,
        next.statement ∈ rules.graph.successors edge.target.statement ∧
        next.fact ∈ rules.flow.sequent edge.target.statement next.statement
          edge.target.fact ∧
        message = .newEdge rules.runner ⟨edge.source, next⟩ (.derived .sequent edge) := by
  simp only [sequentStep, extend, List.mem_flatMap, List.mem_map]
  constructor
  · rintro ⟨next, successor, fact, member, rfl⟩
    exact ⟨⟨next, fact⟩, successor, member, rfl⟩
  · rintro ⟨next, successor, member, rfl⟩
    exact ⟨next.statement, successor, next.fact, member, rfl⟩

variable [DecidableEq F]

/-- A question for callees is asked once, so the facts asked for before are left out. -/
private theorem mem_runActions (edge : Edge S F) (asked : List F)
    (actions : List (S × CallAction F)) (message : Message S F M) :
    message ∈ rules.runActions edge asked actions ↔
      (∃ next : Vertex S F, (next.statement, .toReturn next.fact) ∈ actions ∧
        message = .newEdge rules.runner ⟨edge.source, next⟩
          (.derived .callToReturn edge)) ∨
      (∃ passed, passed ∉ asked ∧ (∃ next, (next, .toCallees passed) ∈ actions) ∧
        message = .unresolvedCall rules.runner (callEdge edge passed)) := by
  induction actions generalizing asked with
  | nil => simp [runActions]
  | cons first rest inductionHypothesis =>
      obtain ⟨next, action⟩ := first
      cases action with
      | toReturn fact =>
          rw [runActions, List.mem_cons, inductionHypothesis]
          constructor
          · rintro (rfl | ⟨other, member, rfl⟩ | ⟨passed, fresh, ⟨site, member⟩, rfl⟩)
            · exact Or.inl ⟨⟨next, fact⟩, List.mem_cons_self, rfl⟩
            · exact Or.inl ⟨other, List.mem_cons_of_mem _ member, rfl⟩
            · exact Or.inr ⟨passed, fresh, ⟨site, List.mem_cons_of_mem _ member⟩, rfl⟩
          · rintro (⟨other, member, rfl⟩ | ⟨passed, fresh, ⟨site, member⟩, rfl⟩)
            · rcases List.mem_cons.mp member with same | later
              · cases same
                exact Or.inl rfl
              · exact Or.inr (Or.inl ⟨other, later, rfl⟩)
            · rcases List.mem_cons.mp member with same | later
              · cases same
              · exact Or.inr (Or.inr ⟨passed, fresh, ⟨site, later⟩, rfl⟩)
      | toCallees fact =>
          rw [runActions]
          by_cases known : fact ∈ asked
          · rw [if_pos (List.contains_iff_mem.mpr known), inductionHypothesis]
            simp only [List.mem_cons, Prod.mk.injEq, reduceCtorEq, and_false, false_or,
              CallAction.toCallees.injEq]
            refine or_congr_right (exists_congr fun passed => ?_)
            refine and_congr_right fun fresh => and_congr_left fun _ => ?_
            refine exists_congr fun site => ⟨Or.inr, ?_⟩
            rintro (⟨_, rfl⟩ | member)
            · exact absurd known fresh
            · exact member
          · rw [if_neg fun present => known (List.contains_iff_mem.mp present),
              List.mem_cons, inductionHypothesis]
            constructor
            · rintro (rfl | ⟨other, member, rfl⟩ | ⟨passed, fresh, ⟨site, member⟩, rfl⟩)
              · exact Or.inr ⟨fact, known, ⟨next, List.mem_cons_self⟩, rfl⟩
              · exact Or.inl ⟨other, List.mem_cons_of_mem _ member, rfl⟩
              · exact Or.inr ⟨passed, fun old => fresh (List.mem_cons_of_mem _ old),
                  ⟨site, List.mem_cons_of_mem _ member⟩, rfl⟩
            · rintro (⟨other, member, rfl⟩ | ⟨passed, fresh, ⟨site, member⟩, rfl⟩)
              · rcases List.mem_cons.mp member with same | later
                · cases same
                · exact Or.inr (Or.inl ⟨other, later, rfl⟩)
              · by_cases same : passed = fact
                · subst same
                  exact Or.inl rfl
                · rcases List.mem_cons.mp member with first | later
                  · cases first
                    exact absurd rfl same
                  · refine Or.inr (Or.inr ⟨passed, ?_, ⟨site, later⟩, rfl⟩)
                    exact fun old => (List.mem_cons.mp old).elim same fresh
      | ignored =>
          rw [runActions, inductionHypothesis]
          simp only [List.mem_cons, Prod.mk.injEq, reduceCtorEq, and_false, false_or]

private theorem mem_callStep (edge : Edge S F) (message : Message S F M)
    (call : rules.graph.isCall edge.target.statement = true) :
    message ∈ rules.callStep edge ↔
      (∃ next, rules.Bypasses edge.target next ∧
        message = .newEdge rules.runner ⟨edge.source, next⟩
          (.derived .callToReturn edge)) ∨
      (∃ passed, rules.Passes edge.target passed ∧
        message = .unresolvedCall rules.runner (callEdge edge passed)) := by
  unfold callStep callActions
  rw [mem_runActions]
  simp [Bypasses, Passes, call]

variable [DecidableEq S]

theorem mem_edgeStep (edge : Edge S F) (message : Message S F M) :
    message ∈ rules.edgeStep edge ↔
      (rules.isExit edge.target.statement = true ∧
        message = .newSummary rules.runner edge) ∨
      message ∈ rules.onNewEdge edge ∨
      (∃ next, rules.Flows edge.target next ∧
        message = .newEdge rules.runner ⟨edge.source, next⟩ (.derived .sequent edge)) ∨
      (∃ next, rules.Bypasses edge.target next ∧
        message = .newEdge rules.runner ⟨edge.source, next⟩
          (.derived .callToReturn edge)) ∨
      (∃ passed, rules.Passes edge.target passed ∧
        message = .unresolvedCall rules.runner (callEdge edge passed)) := by
  unfold edgeStep
  simp only [List.mem_append, or_assoc]
  refine or_congr ?_ (or_congr_right ?_)
  · split <;> simp_all
  · by_cases call : rules.graph.isCall edge.target.statement = true
    · rw [if_pos call, rules.mem_callStep edge message call]
      simp [Flows, call]
    · rw [if_neg call]
      simp only [Bool.not_eq_true] at call
      by_cases exit : rules.isExit edge.target.statement = true
      · simp [Flows, Bypasses, Passes, call, exit]
      · rw [if_neg exit, mem_sequentStep]
        simp only [Bool.not_eq_true] at exit
        simp [Flows, Bypasses, Passes, call, exit, and_assoc]

/-! ### The rules -/

variable [DecidableEq M]

/-- The conclusions of the rules from known edges, each with its reason. -/
inductive Infers (dispatch : Dispatch S M)
    (known : Set (Edge S F)) : Edge S F → Reason S F → Prop
  | sequent {edge : Edge S F} {next : Vertex S F} (member : edge ∈ known)
      (flows : rules.Flows edge.target next) :
      Infers dispatch known ⟨edge.source, next⟩ (.derived .sequent edge)
  | callToReturn {edge : Edge S F} {next : Vertex S F} (member : edge ∈ known)
      (bypasses : rules.Bypasses edge.target next) :
      Infers dispatch known ⟨edge.source, next⟩ (.derived .callToReturn edge)
  | callToStart {edge : Edge S F} {passed : F} {start : Vertex S F}
      (member : edge ∈ known)
      (enters : rules.Enters dispatch edge.target passed start) :
      Infers dispatch known (.loop start)
        (.derived .callToStart (callEdge edge passed))
  | exitToReturn {edge summary : Edge S F} {passed : F} {next : Vertex S F}
      (member : edge ∈ known)
      (enters : rules.Enters dispatch edge.target passed summary.source)
      (summaryMember : summary ∈ known)
      (exit : rules.isExit summary.target.statement = true)
      (reenters : rules.Reenters edge.target.statement summary.target next) :
      Infers dispatch known ⟨edge.source, next⟩
        (.applied (callEdge edge passed) summary)

omit [DecidableEq F] in
theorem Infers.mono {rules : Rules S F M} {dispatch : Dispatch S M} {few many : Set (Edge S F)}
    (subset : few ⊆ many) {edge : Edge S F} {reason : Reason S F}
    (infers : rules.Infers dispatch few edge reason) :
    rules.Infers dispatch many edge reason := by
  cases infers with
  | sequent member flows => exact .sequent (subset member) flows
  | callToReturn member bypasses => exact .callToReturn (subset member) bypasses
  | callToStart member enters => exact .callToStart (subset member) enters
  | exitToReturn member enters summaryMember exit reenters =>
      exact .exitToReturn (subset member) enters (subset summaryMember) exit reenters

/-- No conclusion of the rules is missing. -/
def Closed (dispatch : Dispatch S M)
    (known : Set (Edge S F)) : Prop :=
  ∀ edge reason, rules.Infers dispatch known edge reason → edge ∈ known

end Tabulation.Rules
