/-
Runs of the analyses of a program.

An analysis is a run of its rules in the order of the engine.  It reports what its
messages asked for, whether or not it came to its end.
-/

import Tabulation.Analysis.DeadStore
import Tabulation.Analysis.Nullness
import Tabulation.Proofs.LeastSolution
import Tabulation.Proofs.Sessions

namespace Tabulation

namespace Program

variable {F : Type} [DecidableEq F] [Inhabited F] [Shown F]

theorem follows_engine (p : Program) (config : Config) (strategy : ChunkStrategy)
    (entries : List MethodName) (rules : Rules Statement F MethodName) :
    (p.engine config strategy entries rules).Follows rules
      (p.dispatch config.options.banned) := ⟨rfl, rfl⟩

variable [Hashable F]

theorem analyze_reaches (p : Program) (config : Config) {strategy : ChunkStrategy}
    (known : config.strategy = .ok strategy) (entries : List MethodName)
    (rules : Rules Statement F MethodName) :
    ∃ history data, (p.engine config strategy entries rules).Reaches config.log history ∧
      history.sent = ((p.engine config strategy entries rules).seedsOf rules.analyzer
        entries).reverse ∧
      history.handled.length ≤ p.patience entries ∧
      data.Reports rules.runner {message | message ∈ history.handled} ∧
      ((history.pending = [] ∧ p.analyze config entries rules = .ok (.quiesced, data)) ∨
        (history.pending ≠ [] ∧ history.handled.length = p.patience entries ∧
          p.analyze config entries rules = .ok (.timedOut, data))) := by
  have follows := p.follows_engine config strategy entries rules
  obtain ⟨history, reaches, sent, bound, ends⟩ :=
    (p.engine config strategy entries rules).analyze_reaches follows.analyzer_eq
      follows.isPrompt config.log entries
  have patience : (p.engine config strategy entries rules).patience = p.patience entries := by
    simp only [engine]
  rw [patience] at bound ends
  obtain ⟨data, collected, reports⟩ :=
    (Engine.Reaches.accounts reaches).collect rules.runner
  refine ⟨history, data, reaches, sent, bound, reports, ?_⟩
  rcases ends with ⟨finished, analyzed⟩ | ⟨more, full, analyzed⟩
  · refine Or.inl ⟨finished, ?_⟩
    unfold analyze
    rw [known]
    simp only [Except.mapError, bind, Except.bind, analyzed, collected, pure, Except.pure]
  · refine Or.inr ⟨more, full, ?_⟩
    have partly : Engine.collect { history.state with halted := true } rules.runner =
        .ok data := collected
    unfold analyze
    rw [known]
    simp only [Except.mapError, bind, Except.bind, analyzed, partly, pure, Except.pure]

end Program

theorem Taint.onlyFindings (p : Program) (config : Config) :
    (Taint.rules p config).OnlyFindings := by
  intro edge message member
  obtain ⟨finding, _, same⟩ := List.mem_map.mp member
  exact ⟨_, finding, same.symm⟩

theorem Nullness.onlyFindings (p : Program) : (Nullness.rules p).OnlyFindings := by
  intro edge message member
  obtain ⟨finding, _, same⟩ := List.mem_map.mp member
  exact ⟨_, finding, same.symm⟩

theorem DeadStore.onlyFindings (p : Program) : (DeadStore.rules p).OnlyFindings := by
  intro edge message member
  cases member

namespace DeadStore

/-! ### Definitions at calls -/

variable {p : Program}

theorem mem_across {fact found : Definition} :
    found ∈ across fact ↔ fact = .reachable ∧ found = .reachable := by
  cases fact <;> simp [across]

theorem toReturn_mem_call {s next : Statement} {fact found : Definition} :
    .toReturn found ∈ call p s next fact ↔ found ∈ sequent p s next fact := by
  cases fact <;> simp [call]

theorem toCallees_mem_call {s next : Statement} {fact passed : Definition} :
    .toCallees passed ∈ call p s next fact ↔ fact = .reachable ∧ passed = .reachable := by
  cases fact <;> simp [call]

end DeadStore

end Tabulation
