/-
What starting an engine and waiting for it comes to.

The operations from outside are runs like others: the seeds are sent, and the oldest
message is handled until none is left or the patience is at an end.
-/

import Tabulation.Engine.Session
import Tabulation.Proofs.Collection

namespace Tabulation.Engine

variable {S F M : Type}

section Waiting

variable [DecidableEq S] [DecidableEq F] [Shown S] [Shown F] [Shown M]

private theorem await_eq (engine : Engine S F M) (state : EngineState S F M)
    (opened : state.closed = false) (held : (engine.settle state).held = []) :
    engine.await state =
      if (engine.settle state).pending.isEmpty then (.ok .quiesced, engine.settle state)
      else (.ok .timedOut, { engine.settle state with halted := true }) := by
  have idle : (engine.settle state).isIdle = (engine.settle state).pending.isEmpty := by
    unfold EngineState.isIdle
    rw [held, List.isEmpty_nil, Bool.and_true]
  unfold await
  rw [if_neg (ne_true_of_eq_false opened)]
  simp only [idle]

end Waiting

variable [Inhabited S] [Inhabited F]

def seedsOf (engine : Engine S F M) (analyzer : Analyzer S F M) (methods : List M) :
    List (Message S F M) :=
  methods.flatMap (engine.seeds analyzer engine.runner)

theorem isLoop_of_mem_seeds {engine : Engine S F M} {analyzer : Analyzer S F M}
    {methods : List M} {message : Message S F M}
    (member : message ∈ engine.seedsOf analyzer methods) :
    ∃ vertex, message = .newEdge engine.runner (.loop vertex) .initial := by
  unfold seedsOf seeds at member
  simp only [List.mem_flatMap, List.mem_map] at member
  obtain ⟨method, _, entry, _, fact, _, same⟩ := member
  exact ⟨⟨entry, fact⟩, same.symm⟩

variable [Shown M]

theorem startAll_eq (engine : Engine S F M) {analyzer : Analyzer S F M}
    (found : engine.registry.analyzer engine.runner = .ok analyzer)
    (state : EngineState S F M) (opened : state.closed = false) (methods : List M) :
    engine.startAll state methods = .ok { state with
      pending := state.pending ++
        (engine.seedsOf analyzer methods).map (Place.project, ·) } := by
  unfold startAll
  induction methods generalizing state with
  | nil =>
      rw [List.foldlM_nil, seedsOf, List.flatMap_nil, List.map_nil, List.append_nil]
      rfl
  | cons method rest inductionHypothesis =>
      let next : EngineState S F M := { state with
        pending := state.pending ++
          (engine.seeds analyzer engine.runner method).map (Place.project, ·) }
      have started : engine.start state engine.runner method = .ok next := by
        unfold start
        rw [if_neg (ne_true_of_eq_false opened), found]
      have later := inductionHypothesis next opened
      rw [List.foldlM_cons, started]
      refine Eq.trans later ?_
      unfold seedsOf
      rw [List.flatMap_cons, List.map_append, ← List.append_assoc]

variable [DecidableEq S] [DecidableEq F] [Shown S] [Shown F]

/-- How the runs of an analysis end whose steps do not wait for the barrier: all
messages were handled, or exactly as many as the patience allows. -/
theorem analyze_reaches (engine : Engine S F M) {analyzer : Analyzer S F M}
    (found : engine.registry.analyzer engine.runner = .ok analyzer)
    (prompt : ∀ message, engine.IsPrompt message) (log : Log) (methods : List M) :
    ∃ history, engine.Reaches log history ∧
      history.sent = (engine.seedsOf analyzer methods).reverse ∧
      history.handled.length ≤ engine.patience ∧
      ((history.pending = [] ∧
          engine.analyze (initial log) methods = (.ok .quiesced, history.state)) ∨
        (history.pending ≠ [] ∧ history.handled.length = engine.patience ∧
          engine.analyze (initial log) methods =
            (.ok .timedOut, { history.state with halted := true }))) := by
  let seeds := engine.seedsOf analyzer methods
  let started : EngineState S F M :=
    { initial log with pending := seeds.map (Place.project, ·) }
  have sent : engine.Reaches log ⟨seeds.reverse, [], started⟩ := by
    have begun : engine.Reaches log ⟨seeds.reverse ++ [], [], started⟩ :=
      Reaches.sendAll Relation.ReflTransGen.refl seeds
    rw [List.append_nil] at begun
    exact begun
  obtain ⟨handled, reaches, bound, full⟩ := sent.run engine.patience
  rw [List.length_nil, Nat.zero_add] at bound full
  change engine.Reaches log ⟨seeds.reverse, handled, engine.settle started⟩ at reaches
  change (engine.settle started).pending ≠ [] → _ at full
  have held := (Reaches.accounts reaches).held prompt
  have analyzed : engine.analyze (initial log) methods = engine.await started := by
    unfold analyze
    rw [engine.startAll_eq found (initial log) rfl methods]
    rfl
  rw [engine.await_eq started rfl held] at analyzed
  refine ⟨⟨seeds.reverse, handled, engine.settle started⟩, reaches, rfl, bound, ?_⟩
  cases left : (engine.settle started).pending with
  | nil =>
      rw [left] at analyzed
      refine Or.inl ⟨?_, analyzed⟩
      unfold History.pending
      rw [left, List.map_nil]
  | cons first rest =>
      rw [left] at analyzed full
      refine Or.inr ⟨?_, full (List.cons_ne_nil _ _), analyzed⟩
      unfold History.pending
      rw [left, List.map_cons]
      exact List.cons_ne_nil _ _

end Tabulation.Engine
