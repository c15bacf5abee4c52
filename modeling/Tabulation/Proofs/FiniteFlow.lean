/-
The analyses of a loaded program come to an end.

A program has finitely many places, and its analyses have no facts but the names that are
written in it and the definitions at its places.  So they stay among finitely many statements
and facts.
-/

import Mathlib.Data.Set.Finite.Lattice
import Tabulation.Proofs.ControlFlow
import Tabulation.Proofs.Outcomes
import Tabulation.Proofs.Termination

namespace Tabulation

namespace Program

variable {p : Program}

/-! ### Places and names -/

def places (p : Program) : Set Statement := {s | (p.instruction? s).isSome}

/-- The places, and where control can go from them. A body may end without a return. -/
def statements (p : Program) : Set Statement :=
  p.places ∪ {s | ∃ place ∈ p.places, s ∈ p.successors place}

/-- The zero fact, the receiver, and the variables and parameters of the program. -/
def names (p : Program) : Set String :=
  {"", receiverName} ∪ DeadStore.definedAt p '' p.places ∪
    {name | ∃ id m, p.method? id = some m ∧ name ∈ m.parameters}

def placedDefinitions (p : Program) : Set Definition :=
  {.reachable} ∪ (fun place => .of (DeadStore.definedAt p place) place) '' p.places

private theorem finite_known (p : Program) : {id | (p.method? id).isSome}.Finite := by
  let declared := p.classes.flatMap fun c => c.methods.map fun m => MethodName.mk c.name m.id.name
  apply declared.finite_toSet.subset
  intro id known
  obtain ⟨m, found⟩ := Option.isSome_iff_exists.mp known
  unfold method? at found
  obtain ⟨c, foundClass, foundMethod⟩ := Option.bind_eq_some_iff.mp found
  obtain ⟨isClass, owner⟩ := class?_eq_some foundClass
  unfold Class.method? at foundMethod
  have name : m.id.name = id.name := by
    have same := List.find?_some foundMethod
    exact eq_of_beq same
  refine List.mem_flatMap.mpr ⟨c, isClass, List.mem_map.mpr ⟨m, ?_, ?_⟩⟩
  · exact List.mem_of_find?_eq_some foundMethod
  · rw [owner, name]

/-- There are finitely many of what every method has finitely many of. -/
private theorem finite_of_methods {α : Type} (p : Program) (parts : Method → List α) :
    {part | ∃ id m, p.method? id = some m ∧ part ∈ parts m}.Finite := by
  let partsOf (id : MethodName) := ((p.method? id).map parts).getD []
  apply (p.finite_known.biUnion fun id _ => (partsOf id).finite_toSet).subset
  rintro part ⟨id, m, found, member⟩
  refine Set.mem_biUnion (x := id) (Option.isSome_iff_exists.mpr ⟨m, found⟩) ?_
  change part ∈ partsOf id
  unfold partsOf
  rw [found]
  exact member

theorem finite_places (p : Program) : p.places.Finite := by
  have positions := p.finite_of_methods fun m => List.range m.body.length
  apply (p.finite_known.image2 Statement.mk positions).subset
  intro s placed
  obtain ⟨instruction, here⟩ := Option.isSome_iff_exists.mp placed
  unfold instruction? at here
  obtain ⟨m, found, inBody⟩ := Option.bind_eq_some_iff.mp here
  obtain ⟨bound, _⟩ := List.getElem?_eq_some_iff.mp inBody
  exact ⟨s.method, Option.isSome_iff_exists.mpr ⟨m, found⟩, s.position,
    ⟨s.method, m, found, List.mem_range.mpr bound⟩, rfl⟩

theorem finite_statements (p : Program) : p.statements.Finite := by
  apply p.finite_places.union
  apply (p.finite_places.biUnion fun place _ => (p.successors place).finite_toSet).subset
  rintro s ⟨place, placed, successor⟩
  exact Set.mem_biUnion placed successor

theorem finite_names (p : Program) : p.names.Finite :=
  ((Set.toFinite _).union (p.finite_places.image _)).union
    (p.finite_of_methods Method.parameters)

theorem finite_placedDefinitions (p : Program) : p.placedDefinitions.Finite :=
  (Set.finite_singleton _).union (p.finite_places.image _)

theorem Loaded.entry_mem_places (loaded : p.Loaded) {id : MethodName} {s : Statement}
    (isEntry : s ∈ p.flowGraph.entries id) : s ∈ p.places := by
  obtain ⟨m, found, isFirst⟩ := mem_entries_iff.mp isEntry
  obtain ⟨nonempty, rfl⟩ := Method.mem_entries.mp isFirst
  obtain ⟨same, _⟩ := loaded.method?_eq_some found
  obtain ⟨first, rest, body⟩ := List.exists_cons_of_ne_nil nonempty
  refine Option.isSome_iff_exists.mpr ⟨first, ?_⟩
  unfold instruction?
  simp [same, found, body]

theorem successor_mem_statements {s next : Statement} (successor : next ∈ p.successors s) :
    next ∈ p.statements := by
  obtain ⟨instruction, here, _⟩ := mem_successors.mp successor
  exact Or.inr ⟨s, Option.isSome_iff_exists.mpr ⟨_, here⟩, successor⟩

theorem defines_mem_names {s : Statement} {instruction : Instruction}
    (here : p.instruction? s = some instruction) : instruction.defines ∈ p.names := by
  refine Or.inl (Or.inr ⟨s, Option.isSome_iff_exists.mpr ⟨_, here⟩, ?_⟩)
  unfold DeadStore.definedAt
  rw [here]
  rfl

/-! ### What the flow of an analysis of variables gives -/

/-- The zero fact, the fact that was there, or the variable that a statement writes. -/
def Yields (p : Program) (s : Statement) (fact found : String) : Prop :=
  found = "" ∨ found = fact ∨
    ∃ instruction, p.instruction? s = some instruction ∧ found = instruction.defines

/-- The zero fact, the receiver, or a parameter of the method that starts. -/
def Binds (p : Program) (start : Statement) (found : String) : Prop :=
  found = "" ∨ found = receiverName ∨
    ∃ m, p.method? start.method = some m ∧ found ∈ m.parameters

theorem Yields.mem_names {s : Statement} {fact found : String} (yields : p.Yields s fact found)
    (isName : fact ∈ p.names) : found ∈ p.names := by
  rcases yields with rfl | rfl | ⟨instruction, here, rfl⟩
  · exact Or.inl (Or.inl (Set.mem_insert _ _))
  · exact isName
  · exact defines_mem_names here

theorem Binds.mem_names {start : Statement} {found : String} (binds : p.Binds start found) :
    found ∈ p.names := by
  rcases binds with rfl | rfl | ⟨m, known, isParameter⟩
  · exact Or.inl (Or.inl (Set.mem_insert _ _))
  · exact Or.inl (Or.inl (Set.mem_insert_of_mem _ rfl))
  · exact Or.inr ⟨_, m, known, isParameter⟩

theorem binds_of_boundParams {start : Statement} {m : Method}
    (known : p.method? start.method = some m) {args : List String} {fact found : String}
    (bound : found ∈ Taint.boundParams args m.params fact) : p.Binds start found := by
  unfold Taint.boundParams at bound
  obtain ⟨pair, kept, rfl⟩ := List.mem_map.mp bound
  have isParam : pair.2 ∈ m.params := (List.of_mem_zip (List.mem_of_mem_filter kept)).2
  refine Or.inr (Or.inr ⟨m, known, ?_⟩)
  unfold Method.parameters
  split
  · exact isParam
  · exact List.mem_cons_of_mem _ isParam

end Program

variable {p : Program}

theorem Taint.sequent_yields {s : Statement} (next : Statement) {fact found : String}
    (flow : found ∈ Taint.sequent p s next fact) : p.Yields s fact found := by
  unfold Taint.sequent zero at flow
  cases here : p.instruction? s with
  | none => grind [Program.Yields]
  | some instruction => cases instruction <;> grind [Program.Yields, Instruction.defines]

theorem Nullness.sequent_yields {s : Statement} (next : Statement) {fact found : String}
    (flow : found ∈ Nullness.sequent p s next fact) : p.Yields s fact found := by
  unfold Nullness.sequent zero at flow
  cases here : p.instruction? s with
  | none => grind [Program.Yields]
  | some instruction => cases instruction <;> grind [Program.Yields, Instruction.defines]

theorem Taint.call_yields {config : Config} {s : Statement} (next : Statement)
    {fact found : String}
    (flow : .toReturn found ∈ Taint.call p config s next fact) : p.Yields s fact found := by
  unfold Taint.call taintResult zero at flow
  cases here : p.instruction? s with
  | none => grind
  | some instruction => cases instruction <;> grind [Program.Yields, Instruction.defines]

theorem Nullness.call_yields {s : Statement} (next : Statement) {fact found : String}
    (flow : .toReturn found ∈ Nullness.call p s next fact) : p.Yields s fact found := by
  unfold Nullness.call zero at flow
  cases here : p.instruction? s with
  | none => grind
  | some instruction => cases instruction <;> grind [Program.Yields]

theorem Taint.passed_eq {config : Config} {s : Statement} (next : Statement)
    {fact passed : String}
    (flow : .toCallees passed ∈ Taint.call p config s next fact) : passed = fact := by
  unfold Taint.call taintResult zero at flow
  cases here : p.instruction? s with
  | none => grind
  | some instruction => cases instruction <;> grind

theorem Nullness.passed_eq {s : Statement} (next : Statement) {fact passed : String}
    (flow : .toCallees passed ∈ Nullness.call p s next fact) : passed = fact := by
  unfold Nullness.call zero at flow
  cases here : p.instruction? s with
  | none => grind
  | some instruction => cases instruction <;> grind

theorem Taint.callToStart_binds {s start : Statement} {fact found : String}
    (flow : found ∈ Taint.callToStart p s start fact) : p.Binds start found := by
  unfold Taint.callToStart zero at flow
  cases known : p.method? start.method with
  | none => grind [Program.Binds]
  | some m =>
      have bound := @Program.binds_of_boundParams p start m known
      cases here : p.instruction? s with
      | none => grind [Program.Binds]
      | some instruction => cases instruction <;> grind [Program.Binds]

theorem Nullness.callToStart_binds {s start : Statement} {fact found : String}
    (flow : found ∈ Nullness.callToStart p s start fact) : p.Binds start found := by
  unfold Nullness.callToStart zero at flow
  cases known : p.method? start.method with
  | none => grind [Program.Binds]
  | some m =>
      have bound := @Program.binds_of_boundParams p start m known
      cases here : p.instruction? s with
      | none => grind [Program.Binds]
      | some instruction => cases instruction <;> grind [Program.Binds]

theorem Taint.exitToReturn_yields {s : Statement} (next : Statement) {exit : Statement}
    {fact found : String}
    (flow : found ∈ Taint.exitToReturn p s next exit fact) : p.Yields s fact found := by
  unfold Taint.exitToReturn zero at flow
  cases here : p.instruction? s with
  | none => grind [Program.Yields]
  | some instruction => cases instruction <;> grind [Program.Yields, Instruction.defines]

theorem Taint.startFacts_binds {config : Config} {start : Statement} {found : String}
    (starts : found ∈ Taint.startFacts p config start) : p.Binds start found := by
  unfold Taint.startFacts zero at starts
  cases known : p.method? start.method with
  | none => grind [Program.Binds]
  | some m => grind [Program.Binds]

/-! ### The analyses stay inside -/

theorem Program.Loaded.staysWithin_names (loaded : p.Loaded)
    {rules : Rules Statement String MethodName} (graph : rules.graph = p.flowGraph)
    (dispatch : Dispatch Statement MethodName)
    (sequent : ∀ {s} next {fact found},
      found ∈ rules.flow.sequent s next fact → p.Yields s fact found)
    (toReturn : ∀ {s} next {fact found},
      .toReturn found ∈ rules.flow.call s next fact → p.Yields s fact found)
    (toCallees : ∀ {s} next {fact passed},
      .toCallees passed ∈ rules.flow.call s next fact → passed = fact)
    (callToStart : ∀ {s start fact found},
      found ∈ rules.flow.callToStart s start fact → p.Binds start found)
    (exitToReturn : ∀ {s} next {exit fact found},
      found ∈ rules.flow.exitToReturn s next exit fact → p.Yields s fact found) :
    rules.StaysWithin dispatch p.statements p.names where
  successor _ _ _ successor := by
    rw [graph] at successor
    exact successor_mem_statements successor
  entry _ _ _ _ _ isEntry := by
    rw [graph] at isEntry
    exact Or.inl (loaded.entry_mem_places isEntry)
  sequent _ _ _ _ _ isName _ flow := (sequent _ flow).mem_names isName
  toReturn _ _ _ _ _ isName _ flow := (toReturn _ flow).mem_names isName
  toCallees _ _ _ _ _ isName _ flow := toCallees _ flow ▸ isName
  callToStart _ _ _ _ _ _ _ _ _ flow := (callToStart flow).mem_names
  exitToReturn _ _ _ _ _ _ _ isName _ flow := (exitToReturn _ flow).mem_names isName

theorem Taint.staysWithin (loaded : p.Loaded) (config : Config)
    (dispatch : Dispatch Statement MethodName) :
    (Taint.rules p config).StaysWithin dispatch p.statements p.names :=
  loaded.staysWithin_names rfl dispatch Taint.sequent_yields Taint.call_yields Taint.passed_eq
    Taint.callToStart_binds Taint.exitToReturn_yields

theorem Nullness.staysWithin (loaded : p.Loaded) (dispatch : Dispatch Statement MethodName) :
    (Nullness.rules p).StaysWithin dispatch p.statements p.names :=
  loaded.staysWithin_names rfl dispatch Nullness.sequent_yields Nullness.call_yields
    Nullness.passed_eq Nullness.callToStart_binds Taint.exitToReturn_yields

namespace DeadStore

theorem definition_mem_placedDefinitions {s : Statement} {found : Definition}
    (defined : found ∈ definitionAt p s) : found ∈ p.placedDefinitions := by
  unfold definitionAt at defined
  split at defined
  · cases defined
  · next named =>
      rw [List.mem_singleton.mp defined]
      refine Or.inr ⟨s, ?_, rfl⟩
      unfold definedAt at named
      cases here : p.instruction? s with
      | none => simp [here] at named
      | some instruction => exact Option.isSome_iff_exists.mpr ⟨_, here⟩

theorem sequent_mem_placedDefinitions {s : Statement} (next : Statement) {fact found : Definition}
    (placed : fact ∈ p.placedDefinitions) (flow : found ∈ DeadStore.sequent p s next fact) :
    found ∈ p.placedDefinitions := by
  cases fact with
  | reachable =>
      rcases List.mem_cons.mp flow with rfl | defined
      · exact placed
      · exact definition_mem_placedDefinitions defined
  | of name site =>
      unfold DeadStore.sequent at flow
      grind

theorem staysWithin (loaded : p.Loaded) (dispatch : Dispatch Statement MethodName) :
    (DeadStore.rules p).StaysWithin dispatch p.statements p.placedDefinitions where
  successor _ _ _ successor := Program.successor_mem_statements successor
  entry _ _ _ _ _ isEntry := Or.inl (loaded.entry_mem_places isEntry)
  sequent _ _ next _ _ placed _ flow := sequent_mem_placedDefinitions next placed flow
  toReturn _ _ next _ _ placed _ flow :=
    sequent_mem_placedDefinitions next placed (toReturn_mem_call.mp flow)
  toCallees _ _ _ _ _ _ _ flow := Or.inl (toCallees_mem_call.mp flow).2
  callToStart _ _ _ _ _ _ _ _ _ flow := Or.inl (mem_across.mp flow).2
  exitToReturn _ _ _ _ _ _ _ _ _ flow := Or.inl (mem_across.mp flow).2

end DeadStore

/-! ### The analyses end -/

/-- The rules lead from the seeds to finitely many edges: they stay among finitely many
statements and facts. -/
def Rules.IsFinitary {S F M : Type} [DecidableEq M] (rules : Rules S F M) (dispatch : Dispatch S M)
    (seeds : List (Message S F M)) : Prop :=
  ∃ statements facts, statements.Finite ∧ facts.Finite ∧
    rules.StaysWithin dispatch statements facts ∧
    ∀ message ∈ seeds, ∃ runner edge reason,
      message = .newEdge runner edge reason ∧ edge.IsAmong statements facts

section Ends

variable {F : Type} [DecidableEq F] [Inhabited F] [Hashable F] [Shown F]

/-- No run of the rules goes on for ever, whatever the chunks, and there is a run to the end. -/
def Program.Terminates (p : Program) (config : Config) (entries : List MethodName)
    (rules : Rules Statement F MethodName) : Prop :=
  (∀ strategy, (p.engine config strategy entries rules).Quiesces
    ((p.engine config strategy entries rules).seedsOf rules.analyzer entries)) ∧
  ∃ data, p.IsOutcome config entries rules data

variable {config : Config} {entries : List MethodName} {rules : Rules Statement F MethodName}

private theorem Program.Loaded.terminates (loaded : p.Loaded) {facts : Set F}
    (stays : rules.StaysWithin (p.dispatch config.options.banned) p.statements facts)
    (finite : facts.Finite) (hook : rules.OnlyFindings)
    (started : ∀ start, ∀ fact ∈ rules.startFacts start, fact ∈ facts) :
    p.Terminates config entries rules := by
  have quiesces : ∀ strategy, (p.engine config strategy entries rules).Quiesces
      ((p.engine config strategy entries rules).seedsOf rules.analyzer entries) := by
    intro strategy
    refine stays.quiesces p.finite_statements finite
      (p.follows_engine config strategy entries rules) hook fun message member => ?_
    obtain ⟨start, rfl⟩ := Engine.isLoop_of_mem_seeds member
    obtain ⟨_, vertex, ⟨⟨id, _, isEntry⟩, isFact⟩, same⟩ :=
      Program.mem_seedsOf.mp member
    have among : vertex.IsAmong p.statements facts :=
      ⟨Or.inl (loaded.entry_mem_places isEntry), started _ _ isFact⟩
    exact ⟨_, .loop start, .initial, rfl, by rw [same]; exact ⟨among, among⟩⟩
  refine ⟨quiesces, ?_⟩
  have begun : (p.engine config .byClass entries rules).Reaches config.log
      ⟨_, [], Engine.initial config.log⟩ := Relation.ReflTransGen.refl
  have started := begun.sendAll
    ((p.engine config .byClass entries rules).seedsOf rules.analyzer entries)
  obtain ⟨steps, finished⟩ := (quiesces .byClass).comesToEnd config.log _ started (by
    rw [List.append_nil]
    exact (List.reverse_perm _).subperm)
  obtain ⟨data, outcome, _⟩ := Program.exists_isOutcome_of_run p config entries rules .byClass
    steps finished
  exact ⟨data, outcome⟩

end Ends

namespace Sample

theorem isFinitary : rules.IsFinitary dispatch [seed] := by
  refine ⟨{"call", "return", "body"}, {"fact"}, Set.toFinite _, Set.toFinite _, ?_, ?_⟩
  · constructor
    case successor =>
      intro s _ next successor
      change next ∈ (if s = "call" then ["return"] else []) at successor
      grind
    case entry =>
      intro s _ callee _ start isEntry
      change start ∈ (if callee = "callee" then ["body"] else ["call"]) at isEntry
      grind
    -- The four flow functions hand on the fact that they are given.
    all_goals simp [rules]
  · intro message member
    rw [List.mem_singleton.mp member]
    exact ⟨_, _, _, rfl, ⟨Or.inl rfl, rfl⟩, ⟨Or.inl rfl, rfl⟩⟩

end Sample

/-- Every run of finitary rules comes to an end, in whatever order its messages are handled, and
the analyses of a loaded program are such. -/
theorem runs_terminate :
    (∀ {S F M : Type} [DecidableEq S] [DecidableEq F] [DecidableEq M] [Inhabited S] [Inhabited F]
      [Shown S] [Shown F] [Shown M] (engine : Engine S F M) (rules : Rules S F M)
      (dispatch : Dispatch S M) (seeds : List (Message S F M)), engine.Follows rules dispatch →
      rules.OnlyFindings → rules.IsFinitary dispatch seeds → engine.Quiesces seeds) ∧
    ∀ (p : Program), p.Loaded → ∀ (config : Config) (entries : List MethodName),
      p.Terminates config entries (Taint.rules p config) ∧
      p.Terminates config entries (Nullness.rules p) ∧
      p.Terminates config entries (DeadStore.rules p) := by
  constructor
  · rintro S F M _ _ _ _ _ _ _ _ engine rules dispatch seeds follows hook
      ⟨statements, facts, finite, factsFinite, stays, seeded⟩
    exact stays.quiesces finite factsFinite follows hook seeded
  · intro p loaded config entries
    refine ⟨?_, ?_, ?_⟩
    · exact loaded.terminates (Taint.staysWithin loaded config _) p.finite_names
        (Taint.onlyFindings p config) fun start fact starts =>
          (Taint.startFacts_binds starts).mem_names
    · refine loaded.terminates (Nullness.staysWithin loaded _) p.finite_names
        (Nullness.onlyFindings p) fun start fact starts => ?_
      rw [List.mem_singleton.mp starts]
      exact Or.inl (Or.inl (Set.mem_insert _ _))
    · refine loaded.terminates (DeadStore.staysWithin loaded _) p.finite_placedDefinitions
        (DeadStore.onlyFindings p) fun start fact starts => ?_
      rw [List.mem_singleton.mp starts]
      exact Or.inl rfl

theorem runs_terminate_relay :
    (Sample.engine Sample.graph.methodOf).Quiesces [Sample.seed] ∧
    Sample.relay.Terminates Sample.relayConfig [Sample.relayMain]
      (Taint.rules Sample.relay Sample.relayConfig) :=
  ⟨runs_terminate.1 _ Sample.rules Sample.dispatch _ (Sample.follows _) Sample.onlyFindings
      Sample.isFinitary,
    (runs_terminate.2 Sample.relay Sample.relay_loaded Sample.relayConfig
      [Sample.relayMain]).1⟩

end Tabulation
