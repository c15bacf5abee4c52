/-
What a finished run of some rules on a program has found.

The facts are those to which a realizable path leads from the entry methods, and every
finding that the hook for new edges sends for one of them is there.  Neither the order
of the messages nor the chunks matter.
-/

import Tabulation.Proofs.Analyses
import Tabulation.Proofs.ConnectedComponents
import Tabulation.Proofs.Loading
import Tabulation.Proofs.RealizablePaths

namespace Tabulation

namespace Engine

/-- The collected facts are the targets of the edges in the stores. -/
theorem mem_facts_of_collect {S F M : Type} [DecidableEq S] [DecidableEq F] [Hashable S]
    [Hashable F] {state : EngineState S F M} {runner : String} {data : Solution S F}
    (collected : collect state runner = .ok data) (vertex : Vertex S F) :
    vertex ∈ data.facts ↔
      (state.chunks.any fun chunk => (state.store? chunk runner).any fun store =>
        store.reasons.any fun pair => pair.1.target == vertex) = true := by
  unfold collect collectByChunk at collected
  split at collected
  · cases collected
  · cases collected
    simp only [Solution.merge, Text.mem_distinctByHash, List.mem_flatMap, List.mem_map,
      exists_exists_and_eq_and, List.any_eq_true]
    refine exists_congr fun chunk => and_congr_right fun _ => ?_
    cases state.store? chunk runner with
    | none => simp
    | some store => simp [Store.snapshot, Store.edges, Text.mem_distinctByHash]

end Engine

namespace Program

variable {F : Type} [DecidableEq F] [Inhabited F] [Shown F]

def startVertices (p : Program) (entries : List MethodName)
    (rules : Rules Statement F MethodName) : Set (Vertex Statement F) :=
  {vertex | (∃ id ∈ entries, vertex.statement ∈ p.flowGraph.entries id) ∧
    vertex.fact ∈ rules.startFacts vertex.statement}

variable {p : Program} {config : Config} {entries : List MethodName}
variable {rules : Rules Statement F MethodName} {data : Solution Statement F}

theorem mem_seedsOf {strategy : ChunkStrategy} {edge : Edge Statement F}
    {reason : Reason Statement F} :
    .newEdge rules.runner edge reason ∈
        (p.engine config strategy entries rules).seedsOf rules.analyzer entries ↔
      reason = .initial ∧ ∃ vertex ∈ p.startVertices entries rules, edge = .loop vertex := by
  unfold Engine.seedsOf Engine.seeds startVertices
  simp only [List.mem_flatMap, List.mem_map, Message.newEdge.injEq]
  constructor
  · rintro ⟨id, isEntry, entry, isStart, fact, isFact, _, rfl, rfl⟩
    exact ⟨rfl, ⟨entry, fact⟩, ⟨⟨id, isEntry, isStart⟩, isFact⟩, rfl⟩
  · rintro ⟨rfl, vertex, ⟨⟨id, isEntry, isStart⟩, isFact⟩, rfl⟩
    exact ⟨id, isEntry, vertex.statement, isStart, vertex.fact, isFact, rfl, rfl, rfl⟩

variable [Hashable F]

/-- The data is what is collected when a run has come to its end.  The entry methods were
started and all messages were handled, in any order. -/
def IsOutcome (p : Program) (config : Config) (entries : List MethodName)
    (rules : Rules Statement F MethodName) (data : Solution Statement F) : Prop :=
  ∃ strategy log history,
    (p.engine config strategy entries rules).Reaches log history ∧
    (∀ message, message ∈ history.sent ↔
      message ∈ (p.engine config strategy entries rules).seedsOf rules.analyzer entries) ∧
    history.pending = [] ∧
    Engine.collect history.state rules.runner = .ok data

/-- An analysis that handled everything gives such data. -/
theorem isOutcome_of_analyze (analyzed : p.analyze config entries rules = .ok (.quiesced, data)) :
    p.IsOutcome config entries rules data := by
  unfold analyze at analyzed
  rw [Check.bind_eq_ok] at analyzed
  obtain ⟨strategy, _, analyzed⟩ := analyzed
  have follows := p.follows_engine config strategy entries rules
  obtain ⟨history, reaches, sent, _, ends⟩ :=
    (p.engine config strategy entries rules).analyze_reaches follows.analyzer_eq
      follows.isPrompt config.log entries
  rcases ends with ⟨finished, ended⟩ | ⟨_, _, ended⟩
  · simp only [ended, Check.bind_eq_ok, Check.mapError_eq_ok] at analyzed
    obtain ⟨_, _, collected, found, same⟩ := analyzed
    cases same
    refine ⟨strategy, config.log, history, reaches, fun message => ?_, finished, found⟩
    rw [sent, List.mem_reverse]
  · simp only [ended, Check.bind_eq_ok, Check.mapError_eq_ok] at analyzed
    obtain ⟨status, sameStatus, _, _, same⟩ := analyzed
    cases sameStatus
    cases same

/-- The state in which the entry methods were started and nothing was handled. -/
def startState (p : Program) (config : Config) (strategy : ChunkStrategy)
    (entries : List MethodName) (rules : Rules Statement F MethodName) :
    EngineState Statement F MethodName :=
  { Engine.initial config.log with
    pending := ((p.engine config strategy entries rules).seedsOf rules.analyzer entries).map
      (Place.project, ·) }

/-- A run that leaves no message gives data. -/
theorem exists_isOutcome_of_run (p : Program) (config : Config) (entries : List MethodName)
    (rules : Rules Statement F MethodName) (strategy : ChunkStrategy) (steps : Nat)
    (finished : ((p.engine config strategy entries rules).run steps
      (p.startState config strategy entries rules)).pending = []) :
    ∃ data, p.IsOutcome config entries rules data ∧
      Engine.collect ((p.engine config strategy entries rules).run steps
        (p.startState config strategy entries rules)) rules.runner = .ok data := by
  have begun : (p.engine config strategy entries rules).Reaches config.log
      ⟨[], [], Engine.initial config.log⟩ := Relation.ReflTransGen.refl
  have started := begun.sendAll
    ((p.engine config strategy entries rules).seedsOf rules.analyzer entries)
  obtain ⟨handled, reaches, _⟩ := started.run steps
  obtain ⟨data, collected, _⟩ := (Engine.Reaches.accounts reaches).collect rules.runner
  refine ⟨data, ⟨strategy, config.log, _, reaches, fun message => ?_, ?_, collected⟩, collected⟩
  · rw [List.append_nil, List.mem_reverse]
  · exact List.map_eq_nil_iff.mpr finished

theorem IsOutcome.mem_facts (outcome : p.IsOutcome config entries rules data)
    (hook : rules.OnlyFindings) (vertex : Vertex Statement F) :
    vertex ∈ data.facts ↔
      rules.Realizable (p.dispatch config.options.banned) (p.startVertices entries rules)
        vertex := by
  obtain ⟨strategy, log, history, reaches, sent, finished, collected⟩ := outcome
  have edges : ∀ message ∈ history.sent,
      ∃ runner edge reason, message = .newEdge runner edge reason := by
    intro message member
    obtain ⟨start, same⟩ := Engine.isLoop_of_mem_seeds ((sent message).mp member)
    exact ⟨_, _, _, same⟩
  have least := Engine.Reaches.isLeast_knownEdges reaches finished
    (p.follows_engine config strategy entries rules) hook edges
  have seeds : ∀ known : Set (Edge Statement F),
      (∀ seed ∈ history.seeds rules.runner, seed.1 ∈ known) ↔
        ∀ start ∈ p.startVertices entries rules, .loop start ∈ known := by
    intro known
    constructor
    · intro seeded start isStart
      exact seeded (.loop start, .initial)
        ((sent _).mpr (mem_seedsOf.mpr ⟨rfl, start, isStart, rfl⟩))
    · rintro started ⟨edge, reason⟩ member
      obtain ⟨_, start, isStart, rfl⟩ := mem_seedsOf.mp ((sent _).mp member)
      exact started start isStart
  simp only [seeds] at least
  obtain ⟨found, same, reports⟩ := (Engine.Reaches.accounts reaches).collect rules.runner
  rw [collected] at same
  cases same
  rw [reports.facts, Rules.realizable_iff least]
  constructor
  · rintro ⟨edge, reason, target, member⟩
    exact ⟨edge, ⟨reason, member⟩, target⟩
  · rintro ⟨edge, ⟨reason, member⟩, target⟩
    exact ⟨edge, reason, target, member⟩

theorem IsOutcome.mem_findings (outcome : p.IsOutcome config entries rules data)
    {vertex : Vertex Statement F} (fact : vertex ∈ data.facts)
    {finding : Finding Statement F}
    (hooked : ∀ edge, edge.target = vertex →
      .newFinding rules.runner finding ∈ rules.onNewEdge edge) :
    finding ∈ data.findings := by
  obtain ⟨strategy, log, history, reaches, _, finished, collected⟩ := outcome
  have accounts := Engine.Reaches.accounts reaches
  obtain ⟨found, same, reports⟩ := accounts.collect rules.runner
  rw [collected] at same
  cases same
  obtain ⟨edge, reason, target, member⟩ := (reports.facts vertex).mp fact
  refine (reports.findings finding).mpr ?_
  refine accounts.mem_of_edgeStep finished
    (p.follows_engine config strategy entries rules) ⟨reason, member⟩ ?_
  rw [rules.mem_edgeStep]
  exact Or.inr (Or.inl (hooked edge target))

/-- The edges that start rules in entry methods, with their reason. -/
def startSeeds (p : Program) (entries : List MethodName)
    (rules : Rules Statement F MethodName) : Set (Edge Statement F × Reason Statement F) :=
  {seed | seed.2 = .initial ∧ ∃ vertex ∈ p.startVertices entries rules, seed.1 = .loop vertex}

omit [Hashable F] in
private theorem seeds_eq_startSeeds {strategy : ChunkStrategy}
    {history : History Statement F MethodName}
    (sent : ∀ message, message ∈ history.sent ↔
      message ∈ (p.engine config strategy entries rules).seedsOf rules.analyzer entries) :
    history.seeds rules.runner = p.startSeeds entries rules := by
  ext ⟨edge, reason⟩
  change .newEdge rules.runner edge reason ∈ history.sent ↔ _
  rw [sent, mem_seedsOf]
  rfl

theorem IsOutcome.isSolvedBy (outcome : p.IsOutcome config entries rules data)
    (hook : rules.OnlyFindings) :
    rules.IsSolvedBy (p.dispatch config.options.banned) (p.startSeeds entries rules) data := by
  obtain ⟨strategy, log, history, reaches, sent, finished, collected⟩ := outcome
  have follows := p.follows_engine config strategy entries rules
  have edges : ∀ message ∈ history.sent,
      ∃ runner edge reason, message = .newEdge runner edge reason := by
    intro message member
    obtain ⟨start, same⟩ := Engine.isLoop_of_mem_seeds ((sent message).mp member)
    exact ⟨_, _, _, same⟩
  obtain ⟨found, same, reports⟩ := (Engine.Reaches.accounts reaches).collect rules.runner
  rw [collected] at same
  cases same
  rw [← seeds_eq_startSeeds sent]
  exact Engine.Reaches.isSolvedBy reaches finished follows hook edges reports

end Program

namespace Sample

def relayMain : MethodName := ⟨"Relay", "main"⟩

/-- Reads a value, hands it over with null, and writes what comes back. -/
def relayBody : Method where
  id := relayMain
  params := []
  isStatic := true
  isAbstract := false
  body := [
    .call ⟨"x", "Input", "read", [], false, "", ""⟩,
    .const "n" "null",
    .call ⟨"y", "Relay", "pass", ["x", "n"], false, "", ""⟩,
    .call ⟨"n", "Output", "write", ["y"], false, "", ""⟩,
    .ret ""]

def relayPass : MethodName := ⟨"Relay", "pass"⟩

/-- Calls something on its second parameter and gives the first one back. -/
def relayPassBody : Method where
  id := relayPass
  params := ["v", "w"]
  isStatic := true
  isAbstract := false
  body := [.call ⟨"", "Relay", "use", [], true, "w", "Relay"⟩, .ret "v"]

def relay : Program where
  name := "relay"
  classes := [{
    name := "Relay"
    super := ""
    interfaces := []
    methods := [relayBody, relayPassBody] }]

theorem relay_loaded : relay.Loaded := by
  refine ⟨_, Digraph.findsCondensation_components, "relay", [{
    name := "Relay"
    methods := [
      { name := "main"
        isStatic := true
        body := [
          { operation := "call", lhs := "x", callee := "Input.read" },
          { operation := "const", lhs := "n", value := "null" },
          { operation := "call", lhs := "y", callee := "Relay.pass", args := ["x", "n"] },
          { operation := "call", lhs := "n", callee := "Output.write", args := ["y"] },
          { operation := "return" }] },
      { name := "pass"
        params := ["v", "w"]
        isStatic := true
        body := [
          { operation := "call", callee := "Relay.use", isVirtual := true, receiver := "w" },
          { operation := "return", rhs := "v" }] }] }], ?_⟩
  decide +kernel

/-- What is read is tainted and must not be written. -/
def relayConfig : Config where
  options := { banned := [] }
  problems := [{
    sources := [{ id := { type := "Input", method := "read" } }]
    sinks := [{ id := { type := "Output", method := "write" } }] }]

end Sample

end Tabulation
