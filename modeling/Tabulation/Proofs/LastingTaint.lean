/-
Taint in programs in static single assignment form only grows along the control flow.

Values never change, so no instruction takes a fact away: every flow inside a function keeps the fact it
starts from, and a fact is handed over a call whatever becomes of it in the callees.  A return has
nothing after it.  So what is found at a statement is found wherever control can go from there, for
each start of the function apart, and a sink that comes later reports it.
-/

import Tabulation.Proofs.Outcomes
import Tabulation.Ssa.Taint

namespace Tabulation

namespace Rules

variable {S F M : Type} [DecidableEq S]

/-- Every fact is kept along the control flow, inside a method and past a call. -/
def Keeps (rules : Rules S F M) : Prop :=
  ∀ s, ∀ next ∈ rules.graph.successors s, ∀ fact,
    rules.Flows ⟨s, fact⟩ ⟨next, fact⟩ ∨ rules.Bypasses ⟨s, fact⟩ ⟨next, fact⟩

variable [DecidableEq M] [Inhabited S] [Inhabited F] {rules : Rules S F M}
variable {dispatch : Dispatch S M} {seeds : Set (Edge S F × Reason S F)} {data : Solution S F}

/-- An edge goes on to each successor of its target with the fact that it has. -/
theorem IsSolvedBy.goesOn (solved : rules.IsSolvedBy dispatch seeds data) (keeps : rules.Keeps)
    {edge : Edge S F} (known : edge ∈ data.edges) {next : S}
    (follows : next ∈ rules.graph.successors edge.target.statement) :
    ⟨edge.source, ⟨next, edge.target.fact⟩⟩ ∈ data.edges := by
  have closed := solved.edges.1.2
  rcases keeps edge.target.statement next follows edge.target.fact with flows | bypasses
  · exact closed _ _ (.sequent known flows)
  · exact closed _ _ (.callToReturn known bypasses)

theorem IsSolvedBy.lasts (solved : rules.IsSolvedBy dispatch seeds data) (keeps : rules.Keeps)
    {s later : S} (path : Relation.ReflTransGen (fun s next => next ∈ rules.graph.successors s) s later)
    {source : Vertex S F} {fact : F} (known : ⟨source, ⟨s, fact⟩⟩ ∈ data.edges) :
    ⟨source, ⟨later, fact⟩⟩ ∈ data.edges := by
  induction path with
  | refl => exact known
  | tail _ follows inductionHypothesis => exact solved.goesOn keeps inductionHypothesis follows

end Rules

namespace Ssa

/-! ### Returns -/

def Instruction.isReturn (instruction : Instruction) : Bool :=
  match instruction.action with
  | .ret _ => true
  | _ => false

/-- A return is the last instruction of its block, and no block comes after it. -/
def Block.EndsAtReturn (block : Block) : Prop :=
  ∀ pair ∈ block.instructions.zipIdx, pair.1.isReturn = true →
    pair.2 + 1 = block.instructions.length ∧ block.successors = []

instance (block : Block) : Decidable block.EndsAtReturn :=
  inferInstanceAs (Decidable (∀ pair ∈ block.instructions.zipIdx, pair.1.isReturn = true →
    pair.2 + 1 = block.instructions.length ∧ block.successors = []))

namespace Program

/-- Control leaves a function at its returns. -/
def EndsAtReturns (p : Program) : Prop :=
  ∀ f ∈ p.functions.toList, ∀ block ∈ f.blocks, block.EndsAtReturn

instance (p : Program) : Decidable p.EndsAtReturns :=
  inferInstanceAs (Decidable (∀ f ∈ p.functions.toList, ∀ block ∈ f.blocks, block.EndsAtReturn))

theorem exists_of_isReturn {p : Program} {s : Statement} (isReturn : p.isReturn s = true) :
    ∃ f block instruction, p.function? s.function.id = some f ∧ f.blocks[s.block]? = some block ∧
      block.instructions[s.position]? = some instruction ∧ instruction.isReturn = true := by
  unfold Program.isReturn at isReturn
  split at isReturn
  next results found =>
    obtain ⟨instruction, here, isRet⟩ := Option.map_eq_some_iff.mp found
    obtain ⟨block, inBlock, here⟩ := Option.bind_eq_some_iff.mp here
    obtain ⟨f, known, inBlock⟩ := Option.bind_eq_some_iff.mp inBlock
    refine ⟨f, block, instruction, known, inBlock, here, ?_⟩
    unfold Instruction.isReturn
    rw [isRet]
  next => cases isReturn

theorem EndsAtReturns.successors_eq_nil {p : Program} (ends : p.EndsAtReturns) {s : Statement}
    (isReturn : p.isReturn s = true) : p.successors s = [] := by
  obtain ⟨f, block, instruction, known, inBlock, here, isRet⟩ := exists_of_isReturn isReturn
  have isFunction : f ∈ p.functions.toList :=
    Array.mem_toList_iff.mpr (Array.mem_of_getElem? known)
  obtain ⟨last, noBlock⟩ := ends f isFunction block (List.mem_of_getElem? inBlock)
    (instruction, s.position) (List.mk_mem_zipIdx_iff_getElem?.mpr here) isRet
  have atEnd : ¬Nat.blt (s.position + 1) block.instructions.length = true := by
    rw [Nat.blt_eq]
    exact Nat.not_lt.mpr (Nat.le_of_eq last.symm)
  unfold successors
  rw [known]
  dsimp only
  rw [inBlock]
  dsimp only
  rw [if_neg atEnd, noBlock]
  rfl

/-- Control can go from one statement to another one, without entering callees. -/
def LeadsTo (p : Program) : Statement → Statement → Prop :=
  Relation.ReflTransGen fun s next => next ∈ p.successors s

end Program

namespace Taint

variable {p : Program} {config : Config}

theorem onlyFindings (p : Program) (config : Config) : (rules p config).OnlyFindings := by
  intro edge message member
  obtain ⟨finding, -, same⟩ := List.mem_map.mp member
  exact ⟨_, finding, same.symm⟩

theorem isReturn_of_isExit {s : Statement} (isExit : (rules p config).isExit s = true) :
    p.isReturn s = true :=
  (List.mem_filter.mp (List.contains_iff_mem.mp isExit)).2

/-! ### Facts are kept -/

theorem mem_sequent_self (s next : Statement) (fact : Fact) : fact ∈ sequent p s next fact := by
  unfold sequent
  split
  · exact List.mem_cons_self
  · rw [Text.mem_distinct]
    exact List.mem_cons_self

/-- Whatever the callee is and whether or not the call uses the fact, it is there after the call. -/
theorem toReturn_mem_call_self {s : Statement} (isCall : (p.call? s).isSome) (next : Statement)
    (fact : Fact) : .toReturn fact ∈ call p config s next fact := by
  obtain ⟨found, here⟩ := Option.isSome_iff_exists.mp isCall
  unfold call
  rw [here]
  cases fact with
  | zero => exact List.mem_append_left _ (List.mem_append_left _ (List.mem_singleton_self _))
  | value id name => exact List.mem_cons_self

theorem keeps (ends : p.EndsAtReturns) (config : Config) : (rules p config).Keeps := by
  intro s next follows fact
  cases isCall : (p.call? s).isSome with
  | true => exact .inr ⟨isCall, follows, toReturn_mem_call_self isCall next fact⟩
  | false =>
      refine .inl ⟨isCall, ?_, follows, mem_sequent_self s next fact⟩
      refine Bool.eq_false_iff.mpr fun isExit => ?_
      have none : p.successors s = [] := ends.successors_eq_nil (isReturn_of_isExit isExit)
      have member : next ∈ p.successors s := follows
      rw [none] at member
      exact List.not_mem_nil member

/-! ### What a finished run has found -/

theorem follows_engine (p : Program) (config : Config) (strategy : ChunkStrategy)
    (entries : List FunctionRef) :
    (engine p config strategy entries).Follows (rules p config)
      (p.dispatch config.options.banned) := ⟨rfl, rfl⟩

/-- The data is what is collected when a run has come to its end. The entry functions were started
and all messages were handled, in any order. -/
def IsOutcome (p : Program) (config : Config) (entries : List FunctionRef)
    (data : Solution Statement Fact) : Prop :=
  ∃ strategy log history, (engine p config strategy entries).Reaches log history ∧
    (∀ message, message ∈ history.sent ↔
      message ∈ (engine p config strategy entries).seedsOf (rules p config).analyzer entries) ∧
    history.pending = [] ∧ Engine.collect history.state runner = .ok data

/-- An analysis that handled everything gives such data, and the findings in it. -/
theorem isOutcome_of_analyze {entries : List FunctionRef} {result : AnalysisResult}
    (analyzed : analyze p config entries = .ok result) (quiesced : result.status = .quiesced) :
    IsOutcome p config entries result.data ∧ result.findings.Perm result.data.findings := by
  unfold analyze at analyzed
  rw [Check.bind_eq_ok] at analyzed
  obtain ⟨strategy, -, analyzed⟩ := analyzed
  have follows := follows_engine p config strategy entries
  obtain ⟨history, reaches, sent, -, ends⟩ :=
    (engine p config strategy entries).analyze_reaches follows.analyzer_eq follows.isPrompt
      config.log entries
  rcases ends with ⟨finished, ended⟩ | ⟨-, -, ended⟩
  · simp only [ended, Check.bind_eq_ok, Check.mapError_eq_ok] at analyzed
    obtain ⟨status, sameStatus, data, collected, same⟩ := analyzed
    cases same
    refine ⟨⟨strategy, config.log, history, reaches, fun message => ?_, finished, collected⟩, ?_⟩
    · rw [sent, List.mem_reverse]
    · exact List.mergeSort_perm _ _
  · simp only [ended, Check.bind_eq_ok, Check.mapError_eq_ok] at analyzed
    obtain ⟨status, sameStatus, data, collected, same⟩ := analyzed
    cases sameStatus
    cases same
    cases quiesced

/-- The state in which the entry functions were started and nothing was handled. -/
def startState (p : Program) (config : Config) (strategy : ChunkStrategy)
    (entries : List FunctionRef) : EngineState Statement Fact FunctionRef :=
  { Engine.initial config.log with
    pending := ((engine p config strategy entries).seedsOf (rules p config).analyzer entries).map
      (Place.project, ·) }

/-- A run that leaves no message gives data. -/
theorem exists_isOutcome_of_run (p : Program) (config : Config) (entries : List FunctionRef)
    (strategy : ChunkStrategy) (steps : Nat)
    (finished : ((engine p config strategy entries).run steps
      (startState p config strategy entries)).pending = []) :
    ∃ data, IsOutcome p config entries data ∧
      Engine.collect ((engine p config strategy entries).run steps
        (startState p config strategy entries)) runner = .ok data := by
  have begun : (engine p config strategy entries).Reaches config.log
      ⟨[], [], Engine.initial config.log⟩ := Relation.ReflTransGen.refl
  have started := begun.sendAll
    ((engine p config strategy entries).seedsOf (rules p config).analyzer entries)
  obtain ⟨handled, reaches, -⟩ := started.run steps
  obtain ⟨data, collected, -⟩ := (Engine.Reaches.accounts reaches).collect runner
  refine ⟨data, ⟨strategy, config.log, _, reaches, fun message => ?_, ?_, collected⟩, collected⟩
  · rw [List.append_nil, List.mem_reverse]
  · exact List.map_eq_nil_iff.mpr finished

theorem IsOutcome.exists_isSolvedBy {entries : List FunctionRef} {data : Solution Statement Fact}
    (outcome : IsOutcome p config entries data) :
    ∃ seeds, (rules p config).IsSolvedBy (p.dispatch config.options.banned) seeds data := by
  obtain ⟨strategy, log, history, reaches, sent, finished, collected⟩ := outcome
  have loops : ∀ message ∈ history.sent,
      ∃ runner edge reason, message = .newEdge runner edge reason := by
    intro message member
    obtain ⟨start, same⟩ := Engine.isLoop_of_mem_seeds ((sent message).mp member)
    exact ⟨_, _, _, same⟩
  obtain ⟨found, same, reports⟩ := (Engine.Reaches.accounts reaches).collect runner
  cases Except.ok.inj (collected.symm.trans same)
  exact ⟨_, reaches.isSolvedBy finished (follows_engine p config strategy entries)
    (onlyFindings p config) loops reports⟩

/-- **Taint lasts.** What a finished run has found at a statement it has found at every statement to
which control can go from there, for each start of the function apart: the zero fact and every
tainted value, past calls, stores, and whatever else stands between. And for each tainted value that
a sink there takes there is a finding, unless the line is ignored. -/
theorem taint_lasts (p : Program) (ends : p.EndsAtReturns) (config : Config)
    (entries : List FunctionRef) (data : Solution Statement Fact)
    (outcome : IsOutcome p config entries data) :
    (∀ s, ∀ next ∈ p.successors s, ∀ fact ∈ data.factsAt s, fact ∈ data.factsAt next) ∧
    (∀ s later, p.LeadsTo s later → ∀ source fact, ⟨source, ⟨s, fact⟩⟩ ∈ data.edges →
      ⟨source, ⟨later, fact⟩⟩ ∈ data.edges) ∧
    ∀ s later, p.LeadsTo s later → ∀ fact ∈ data.factsAt s, fact ∈ data.factsAt later ∧
      ∀ call, p.call? later = some call → config.isSink (p.calleeId call) = true →
        isAmong fact call.allArgs = true → p.isIgnored (positionOf p later) = false →
          ⟨⟨later, fact⟩, rule,
              "tainted " ++ fact.name ++ " flows into " ++ (p.calleeId call).method⟩ ∈
            data.findings := by
  obtain ⟨seeds, solved⟩ := outcome.exists_isSolvedBy
  have edges : ∀ s later, p.LeadsTo s later → ∀ source fact, ⟨source, ⟨s, fact⟩⟩ ∈ data.edges →
      ⟨source, ⟨later, fact⟩⟩ ∈ data.edges :=
    fun _ _ path _ _ known => solved.lasts (keeps ends config) path known
  have arrives : ∀ s later, p.LeadsTo s later → ∀ fact ∈ data.factsAt s,
      ∃ edge ∈ data.edges, edge.target = ⟨later, fact⟩ := by
    intro s later path fact isFact
    rw [Solution.mem_factsAt, solved.facts] at isFact
    obtain ⟨⟨source, _⟩, known, rfl⟩ := isFact
    exact ⟨_, edges s later path source fact known, rfl⟩
  have facts : ∀ s later, p.LeadsTo s later → ∀ fact ∈ data.factsAt s, fact ∈ data.factsAt later := by
    intro s later path fact isFact
    rw [Solution.mem_factsAt, solved.facts]
    exact arrives s later path fact isFact
  refine ⟨fun s next follows => facts s next (.single follows), edges, ?_⟩
  refine fun s later path fact isFact => ⟨facts s later path fact isFact, ?_⟩
  intro call here isSink isArgument seen
  obtain ⟨edge, known, target⟩ := arrives s later path fact isFact
  refine (solved.findings _).mpr ⟨edge, known, List.mem_map_of_mem ?_⟩
  unfold findings
  rw [target, here]
  simp [isArgument, isSink, seen]

end Taint

namespace Sample

def courierMain : FunctionRef := ⟨0, "app.main"⟩

/-- A function of a package that is not analyzed. -/
def outside (text name : String) : Function where
  text
  name
  package := some "port"
  objectPackage := some "port"
  originPackage := none
  parent := none
  receiver := none
  isListed := true
  params := []
  freeVars := []
  blocks := []

def plain (action : Action) (operands : List Nat) (value : Option Nat) : Instruction :=
  { action, operands, value, position := {} }

/-- Reads a value, stores it, hands it to another function on one of two ways, and writes it. -/
def courier : Program where
  functions := #[
    { outside "app.main" "main" with
      package := some "app"
      blocks := [
        { successors := [1, 2]
          instructions := [
            plain (.call ⟨4, [], none, some 2⟩) [4] (some 0),
            plain (.store 1 0) [1, 0] none,
            plain .other [0] none] },
        { successors := [2]
          instructions := [
            plain (.call ⟨5, [0], none, some 1⟩) [5, 0] (some 2),
            plain .other [] none] },
        { successors := []
          instructions := [
            plain (.call ⟨6, [0], none, some 3⟩) [6, 0] (some 7),
            plain (.ret []) [] none] }] },
    { outside "app.keep" "keep" with
      package := some "app"
      params := [3]
      blocks := [{ successors := [], instructions := [plain (.ret []) [] none] }] },
    outside "port.read" "read",
    outside "port.write" "write"]
  values := #[⟨"t0", .other⟩, ⟨"box", .other⟩, ⟨"t2", .other⟩, ⟨"x", .other⟩, ⟨"read", .other⟩,
    ⟨"keep", .other⟩, ⟨"write", .other⟩, ⟨"t7", .other⟩]
  scope := ["app"]

def courierConfig : Config where
  options := { banned := [] }
  problems := [{
    sources := [{ id := { package := "port", method := "read" } }]
    sinks := [{ id := { package := "port", method := "write" } }] }]

end Sample

section Courier

open Ssa.Sample

/-- What was read is tainted when it is stored, and still is when it is written. -/
theorem Taint.taint_lasts_courier : ∃ data, courier.EndsAtReturns ∧
    Taint.IsOutcome courier courierConfig [courierMain] data ∧
    .value 0 "t0" ∈ data.factsAt ⟨courierMain, 0, 1⟩ ∧
    courier.LeadsTo ⟨courierMain, 0, 1⟩ ⟨courierMain, 2, 0⟩ ∧
    .value 0 "t0" ∈ data.factsAt ⟨courierMain, 2, 0⟩ ∧
    ⟨⟨⟨courierMain, 2, 0⟩, .value 0 "t0"⟩, Taint.rule, "tainted t0 flows into write"⟩ ∈
      data.findings := by
  obtain ⟨data, outcome, collected⟩ := Taint.exists_isOutcome_of_run courier courierConfig
    [courierMain] .byMethod 200 (by decide +kernel)
  have stored : .value 0 "t0" ∈ data.factsAt ⟨courierMain, 0, 1⟩ := by
    rw [Solution.mem_factsAt, Engine.mem_facts_of_collect collected]
    decide +kernel
  have path : courier.LeadsTo ⟨courierMain, 0, 1⟩ ⟨courierMain, 2, 0⟩ :=
    .head (by decide : ⟨courierMain, 0, 2⟩ ∈ _) <|
      .head (by decide : ⟨courierMain, 1, 0⟩ ∈ _) <|
      .head (by decide : ⟨courierMain, 1, 1⟩ ∈ _) (.single (by decide))
  obtain ⟨-, -, lasts⟩ := Taint.taint_lasts courier (by decide) courierConfig [courierMain] data
    outcome
  obtain ⟨written, reports⟩ := lasts _ _ path _ stored
  exact ⟨data, by decide, outcome, stored, path, written,
    reports _ rfl (by decide +kernel) (by decide) (by decide)⟩

end Courier

end Ssa

end Tabulation
