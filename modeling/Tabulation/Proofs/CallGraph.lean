/-
The analyses stay inside the call graph.

Every edge of a run belongs to one method: it starts at the entry of the method and ends at a
statement of it.  A method is entered because it is an entry method or because a call is resolved to
it, and every method that a call is resolved to is one that the call graph has for the call.  This
holds of every set of edges that the rules lead to, so it holds at every moment of a run, whatever
was lost before.
-/

import Tabulation.Proofs.Declarations
import Tabulation.Proofs.Interruptions

namespace Tabulation

namespace Engine

section Runs

variable {S F M : Type} [DecidableEq S] [DecidableEq F] [Shown S] [Shown F] [Shown M]
variable {engine : Engine S F M} {log : Log} {history : History S F M}

/-- A run that is never halted is one of those that may be. -/
theorem Reaches.interrupted (reaches : engine.Reaches log history) :
    history.state.halted = false ∧ engine.Interrupted log ⟨history, [], []⟩ := by
  induction reaches with
  | refl => exact ⟨rfl, .refl⟩
  | tail _ move inductionHypothesis =>
      obtain ⟨running, interrupted⟩ := inductionHypothesis
      cases move with
      | send accepted =>
          refine ⟨?_, interrupted.tail (.send accepted)⟩
          unfold Engine.send at accepted
          split at accepted
          · cases accepted
          · cases accepted
            exact running
      | handle waiting =>
          refine ⟨(engine.halted_take _ _ _ _).1.trans running,
            interrupted.tail (.takes (.handle waiting fun drops => ?_))⟩
          exact Bool.false_ne_true (running.symm.trans drops.1)

/-- Whatever was handled in a run, its data is within the least solution of the rules. -/
theorem Reaches.bounds [DecidableEq M] [Inhabited S] [Inhabited F] {rules : Rules S F M}
    {dispatch : Dispatch S M} {data : Solution S F} (reaches : engine.Reaches log history)
    (follows : engine.Follows rules dispatch) (hook : rules.OnlyFindings)
    (sent : ∀ message ∈ history.sent, ∃ runner edge reason, message = .newEdge runner edge reason)
    (reports : data.Reports rules.runner {message | message ∈ history.handled}) :
    rules.Bounds dispatch (history.seeds rules.runner) data := by
  have least := (rules.isLeast_leastEdges dispatch (history.seeds rules.runner)).1
  exact .of_reports reports (Reaches.justifies reaches follows hook sent least.1 least.2)

end Runs

end Engine

namespace Program

variable {p : Program} {banned : List String} {entries : List MethodName}

/-- A method of the program to which the call graph leads from an entry method. If its class is left
out, it is an entry method itself. -/
structure Explores (p : Program) (banned : List String) (entries : List MethodName) (m : Method) :
    Prop where
  isMethod : m ∈ p.methods
  called : ∃ entry ∈ entries,
    Relation.ReflTransGen (fun caller callee => callee ∈ p.callees caller) entry m.id
  allowed : isBanned banned m.id.owner = true → m.id ∈ entries

/-- The edge goes from the entry of an explored method to a statement of the same method. -/
def HasInside {F : Type} (p : Program) (banned : List String) (entries : List MethodName)
    (edge : Edge Statement F) : Prop :=
  ∃ m, p.Explores banned entries m ∧ edge.source.statement ∈ m.entries ∧
    edge.source.statement ∈ m.statements ∧ edge.target.statement ∈ m.statements

/-- Whatever is recorded is about explored methods, and nothing reaches a method that is left out,
unless it is an entry method. -/
structure Contains {F : Type} (p : Program) (banned : List String) (entries : List MethodName)
    (data : Solution Statement F) : Prop where
  edges : ∀ edge ∈ data.edges, p.HasInside banned entries edge
  reasons : ∀ pair ∈ data.reasons, p.HasInside banned entries pair.1
  summaries : ∀ edge ∈ data.summaries, p.HasInside banned entries edge
  facts : ∀ vertex ∈ data.facts, ∃ m, p.Explores banned entries m ∧ vertex.statement ∈ m.statements
  leftOut : ∀ vertex ∈ data.facts, isBanned banned vertex.statement.method.owner = true →
    vertex.statement.method ∈ entries

/-! ### Calls -/

/-- What a call is resolved to is in the call graph, and its class is not left out. -/
private theorem Loaded.called_of_resolved (loaded : p.Loaded) {m : Method} (isMethod : m ∈ p.methods)
    {s : Statement} (isStatement : s ∈ m.statements) {callee : MethodName}
    (resolved : callee ∈ ((p.dispatch banned).resolve s).methods) :
    callee ∈ p.callees m.id ∧ isBanned banned callee.owner = false := by
  obtain ⟨call, declared, here, found, target⟩ := mem_resolve.mp resolved
  obtain ⟨allowed, stands⟩ := Dispatch.mem_targets.mp target
  have site : p.callSite? s = some (siteOf call declared) := by
    unfold callSite?
    rw [here]
    dsimp only
    rw [found]
    rfl
  have listed : callee ∈ declared.id ::
      if call.isVirtual then p.overridesIn p.hierarchy declared.id else [] := by
    rcases stands with rfl | ⟨isVirtual, isOverride, _⟩
    · exact List.mem_cons_self
    · rw [if_pos (show call.isVirtual = true from isVirtual)]
      exact List.mem_cons_of_mem _ isOverride
  refine ⟨?_, ?_⟩
  · unfold callees
    rw [loaded.method?_iff.mpr ⟨isMethod, rfl⟩]
    dsimp only
    rw [Text.mem_distinct, List.mem_flatMap]
    refine ⟨s, isStatement, ?_⟩
    rw [site]
    exact List.mem_flatMap.mpr ⟨declared.id, List.mem_singleton_self _, listed⟩
  · rcases stands with rfl | ⟨_, _, allowedThere, _⟩
    · exact allowed
    · exact allowedThere

/-! ### Edges -/

section Edges

variable {F : Type} {rules : Rules Statement F MethodName} {edge : Edge Statement F}

/-- An entry of an explored method is explored. -/
private theorem Loaded.hasInside_loop (loaded : p.Loaded) {id : MethodName}
    {start : Vertex Statement F} (isEntry : start.statement ∈ p.flowGraph.entries id)
    (called : ∃ entry ∈ entries,
      Relation.ReflTransGen (fun caller callee => callee ∈ p.callees caller) entry id)
    (allowed : isBanned banned id.owner = true → id ∈ entries) :
    p.HasInside banned entries (.loop start) := by
  obtain ⟨m, found, isFirst⟩ := mem_entries_iff.mp isEntry
  obtain ⟨isMethod, rfl⟩ := loaded.method?_iff.mp found
  have isStatement : start.statement ∈ m.statements := List.mem_of_mem_take isFirst
  exact ⟨m, ⟨isMethod, called, allowed⟩, isFirst, isStatement, isStatement⟩

/-- Control does not leave a method, so neither does an edge that goes on along it. -/
private theorem Loaded.hasInside_extend (loaded : p.Loaded)
    (inside : p.HasInside banned entries edge) {next : Vertex Statement F}
    (successor : next.statement ∈ p.successors edge.target.statement) :
    p.HasInside banned entries ⟨edge.source, next⟩ := by
  obtain ⟨m, explored, isEntry, isSource, isTarget⟩ := inside
  exact ⟨m, explored, isEntry, isSource,
    (loaded.isClosure_successors explored.isMethod).successors _ isTarget _ successor⟩

/-- A callee is explored if its caller is. -/
private theorem Loaded.hasInside_callee (loaded : p.Loaded)
    (inside : p.HasInside banned entries edge) {callee : MethodName}
    (resolved : callee ∈ ((p.dispatch banned).resolve edge.target.statement).methods)
    {start : Vertex Statement F} (isEntry : start.statement ∈ p.flowGraph.entries callee) :
    p.HasInside banned entries (.loop start) := by
  obtain ⟨m, explored, _, _, isTarget⟩ := inside
  obtain ⟨entry, isEntryMethod, calls⟩ := explored.called
  obtain ⟨called, allowed⟩ := loaded.called_of_resolved explored.isMethod isTarget resolved
  refine loaded.hasInside_loop isEntry ⟨entry, isEntryMethod, calls.tail called⟩ fun leftOut => ?_
  rw [allowed] at leftOut
  cases leftOut

variable [Inhabited F]

/-- The edges inside explored methods are closed under rules that go along the program. -/
private theorem Loaded.closed_hasInside (loaded : p.Loaded) (graph : rules.graph = p.flowGraph) :
    rules.Closed (p.dispatch banned) {edge | p.HasInside banned entries edge} := by
  intro edge reason infers
  have along : ∀ {s next}, next ∈ rules.graph.successors s → next ∈ p.successors s := by
    intro s next successor
    rw [graph] at successor
    exact successor
  cases infers with
  | sequent inside flows => exact loaded.hasInside_extend inside (along flows.2.2.1)
  | callToReturn inside bypasses => exact loaded.hasInside_extend inside (along bypasses.2.1)
  | callToStart inside enters =>
      obtain ⟨_, callee, resolved, isEntry, _⟩ := enters
      rw [graph] at isEntry
      exact loaded.hasInside_callee inside resolved isEntry
  | exitToReturn inside _ _ _ reenters => exact loaded.hasInside_extend inside (along reenters.1)

/-- Data within the least solution of rules that start in entry methods is about explored methods. -/
private theorem Loaded.contains_of_bounds (loaded : p.Loaded) (graph : rules.graph = p.flowGraph)
    {seeds : Set (Edge Statement F × Reason Statement F)}
    (seeded : ∀ seed ∈ seeds, ∃ vertex ∈ p.startVertices entries rules, seed.1 = .loop vertex)
    {data : Solution Statement F} (bounds : rules.Bounds (p.dispatch banned) seeds data) :
    p.Contains banned entries data := by
  have starts : ∀ seed ∈ seeds, p.HasInside banned entries seed.1 := by
    intro seed isSeed
    obtain ⟨vertex, ⟨⟨id, isEntryMethod, isEntry⟩, _⟩, same⟩ := seeded seed isSeed
    rw [same]
    exact loaded.hasInside_loop isEntry ⟨id, isEntryMethod, .refl⟩ fun _ => isEntryMethod
  have least : rules.leastEdges (p.dispatch banned) seeds ⊆
      {edge | p.HasInside banned entries edge} :=
    (rules.isLeast_leastEdges (p.dispatch banned) seeds).2
      ⟨starts, loaded.closed_hasInside graph⟩
  have reached : ∀ vertex ∈ data.facts,
      ∃ m, p.Explores banned entries m ∧ vertex.statement ∈ m.statements := by
    intro vertex member
    obtain ⟨edge, isLeast, rfl⟩ := bounds.facts vertex member
    obtain ⟨m, explored, _, _, isTarget⟩ := least isLeast
    exact ⟨m, explored, isTarget⟩
  refine ⟨fun edge member => least (bounds.edges edge member), ?_,
    fun edge member => least (bounds.summaries edge member).1, reached, ?_⟩
  · rintro ⟨edge, reason⟩ member
    rcases bounds.reasons edge reason member with isSeed | infers
    · exact starts _ isSeed
    · exact loaded.closed_hasInside graph edge reason (infers.mono least)
  · intro vertex member
    obtain ⟨m, explored, isStatement⟩ := reached vertex member
    obtain ⟨_, _, same⟩ := List.mem_map.mp isStatement
    rw [← same]
    exact explored.allowed

end Edges

/-! ### Runs -/

variable {F : Type} [DecidableEq F] [Inhabited F] [Shown F] [Hashable F]

/-- At every moment of a run from entry methods the collected data is about explored methods.
Messages are handled in any order, and any that drive the analysis may be dropped. So it is with
what an analysis gives, whether or not it came to its end. -/
def StaysInside (p : Program) (config : Config) (entries : List MethodName)
    (rules : Rules Statement F MethodName) : Prop :=
  (∀ strategy log session,
    (p.engine config strategy entries rules).Interrupted log session →
    (∀ message ∈ session.sent,
      message ∈ (p.engine config strategy entries rules).seedsOf rules.analyzer entries) →
    ∃ data, Engine.collect session.state rules.runner = .ok data ∧
      p.Contains config.options.banned entries data) ∧
  ∀ status data, p.analyze config entries rules = .ok (status, data) →
    p.Contains config.options.banned entries data

omit [Hashable F] in
private theorem Loaded.contains_of_reaches (loaded : p.Loaded) {config : Config}
    {rules : Rules Statement F MethodName} (graph : rules.graph = p.flowGraph)
    (hook : rules.OnlyFindings) {strategy : ChunkStrategy} {log : Log}
    {history : History Statement F MethodName}
    (reaches : (p.engine config strategy entries rules).Reaches log history)
    (sent : ∀ message ∈ history.sent,
      message ∈ (p.engine config strategy entries rules).seedsOf rules.analyzer entries)
    {data : Solution Statement F}
    (reports : data.Reports rules.runner {message | message ∈ history.handled}) :
    p.Contains config.options.banned entries data := by
  have edges : ∀ message ∈ history.sent,
      ∃ runner edge reason, message = .newEdge runner edge reason := by
    intro message member
    obtain ⟨start, same⟩ := Engine.isLoop_of_mem_seeds (sent message member)
    exact ⟨_, _, _, same⟩
  refine loaded.contains_of_bounds graph ?_
    (reaches.bounds (p.follows_engine config strategy entries rules) hook edges reports)
  rintro ⟨edge, reason⟩ isSeed
  exact (mem_seedsOf.mp (sent _ isSeed)).2

private theorem Loaded.staysInside (loaded : p.Loaded) {config : Config}
    {rules : Rules Statement F MethodName} (graph : rules.graph = p.flowGraph)
    (hook : rules.OnlyFindings) : p.StaysInside config entries rules := by
  refine ⟨fun strategy log session interrupted sent => ?_, fun status data analyzed => ?_⟩
  · obtain ⟨waiting, lost, _, reaches⟩ := interrupted.exists_reaches
    obtain ⟨data, collected, reports⟩ := (Engine.Reaches.accounts reaches).collect rules.runner
    exact ⟨data, collected, loaded.contains_of_reaches graph hook reaches sent reports⟩
  · cases known : config.strategy with
    | error cause =>
        unfold analyze at analyzed
        rw [known] at analyzed
        cases analyzed
    | ok strategy =>
        obtain ⟨history, found, reaches, sent, _, reports, ends⟩ :=
          p.analyze_reaches config known entries rules
        have same : found = data := by
          rcases ends with ⟨_, ended⟩ | ⟨_, _, ended⟩
          all_goals
            rw [ended] at analyzed
            exact (Prod.mk.inj (Except.ok.inj analyzed)).2
        subst same
        refine loaded.contains_of_reaches graph hook reaches (fun message member => ?_) reports
        rw [sent] at member
        exact List.mem_reverse.mp member

end Program

/-- In taint, nullness and dead-store runs, at every moment and however they were cut off, every
edge stays in one method, from its entry to one of its statements, the call graph leads from an
entry method to it, and it is not left out unless it is an entry method. -/
theorem analyses_stay_inside (p : Program) (loaded : p.Loaded) (config : Config)
    (entries : List MethodName) :
    p.StaysInside config entries (Taint.rules p config) ∧
      p.StaysInside config entries (Nullness.rules p) ∧
      p.StaysInside config entries (DeadStore.rules p) :=
  ⟨loaded.staysInside rfl (Taint.onlyFindings p config),
    loaded.staysInside rfl (Nullness.onlyFindings p),
    loaded.staysInside rfl (DeadStore.onlyFindings p)⟩

open Sample in
/-- The taint of what is read comes to the method that hands it over, to which the call graph leads. -/
theorem analyses_stay_inside_relay : ∃ data,
    relay.IsOutcome relayConfig [relayMain] (Taint.rules relay relayConfig) data ∧
    ⟨⟨relayPass, 1⟩, "v"⟩ ∈ data.facts ∧ relay.Contains [] [relayMain] data ∧
    Relation.ReflTransGen (fun caller callee => callee ∈ relay.callees caller) relayMain relayPass := by
  obtain ⟨data, outcome, collected⟩ := Program.exists_isOutcome_of_run relay relayConfig
    [relayMain] (Taint.rules relay relayConfig) .byClass 200 (by decide +kernel)
  have known : ⟨⟨relayPass, 1⟩, "v"⟩ ∈ data.facts :=
    (Engine.mem_facts_of_collect collected _).mpr (by decide +kernel)
  obtain ⟨strategy, log, history, reaches, sent, _, found⟩ := id outcome
  obtain ⟨inside, _⟩ := (analyses_stay_inside relay relay_loaded relayConfig [relayMain]).1
  obtain ⟨same, again, contains⟩ := inside strategy log _ (Engine.Reaches.interrupted reaches).2
    fun message member => (sent message).mp member
  obtain rfl : data = same := Except.ok.inj (found.symm.trans again)
  obtain ⟨m, explored, isStatement⟩ := contains.facts _ known
  obtain ⟨_, _, place⟩ := List.mem_map.mp isStatement
  obtain ⟨entry, isEntry, calls⟩ := explored.called
  have isPass : m.id = relayPass := congrArg Statement.method place
  rw [List.mem_singleton.mp isEntry, isPass] at calls
  exact ⟨data, outcome, known, contains, calls⟩

end Tabulation
