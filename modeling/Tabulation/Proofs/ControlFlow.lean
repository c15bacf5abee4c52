/-
The control flow of a loaded program, and the moves of rules along it.

Statements are places in bodies, so what a statement does is read off its instruction: a
call is entered and returned to, a return leaves, and every other instruction goes on to
its successors.
-/

import Tabulation.Program.Calls
import Tabulation.Proofs.Collection
import Tabulation.Proofs.Loading
import Tabulation.Proofs.RealizablePaths

namespace Tabulation

theorem Method.mem_entries {m : Method} {s : Statement} :
    s ∈ m.entries ↔ m.body ≠ [] ∧ s = ⟨m.id, 0⟩ := by
  unfold entries statements
  cases m.body with
  | nil => simp
  | cons first rest => simp [List.range_succ_eq_map]

theorem Method.mem_exits {m : Method} {s : Statement} :
    s ∈ m.exits ↔ s.method = m.id ∧ ∃ value, m.body[s.position]? = some (.ret value) := by
  unfold exits statements
  simp only [List.mem_map, List.mem_filter]
  constructor
  · rintro ⟨⟨place, instruction⟩, ⟨member, isReturn⟩, rfl⟩
    obtain ⟨index, found⟩ := List.mem_iff_getElem?.mp member
    obtain ⟨atIndex, inBody⟩ := List.getElem?_zip_eq_some.mp found
    rw [List.getElem?_map] at atIndex
    obtain ⟨position, inRange, rfl⟩ := Option.map_eq_some_iff.mp atIndex
    have same : index = position := by
      obtain ⟨_, same⟩ := List.getElem?_eq_some_iff.mp inRange
      rw [List.getElem_range] at same
      exact same
    subst same
    cases instruction with
    | ret value => exact ⟨rfl, value, inBody⟩
    | _ => cases isReturn
  · rintro ⟨method, value, inBody⟩
    obtain ⟨bound, _⟩ := List.getElem?_eq_some_iff.mp inBody
    refine ⟨(s, .ret value), ⟨List.mem_iff_getElem?.mpr ⟨s.position, ?_⟩, rfl⟩, rfl⟩
    refine List.getElem?_zip_eq_some.mpr ⟨?_, inBody⟩
    rw [List.getElem?_map, List.getElem?_range bound, Option.map_some, ← method]

namespace Dispatch

variable {S M : Type} {dispatch : Dispatch S M}

/-- A declared callee that is not left out stands for itself and, if the call is virtual, for its
overrides that are not left out and whose type is related to that of the receiver. -/
def StandsFor (dispatch : Dispatch S M) (site : CallSite M) (declared m : M) : Prop :=
  dispatch.bans declared = false ∧
    (m = declared ∨
      site.isVirtual = true ∧ m ∈ dispatch.overrides declared ∧ dispatch.bans m = false ∧
        (dispatch.isSubtype (dispatch.declaringType m) site.receiverType = true ∨
          dispatch.isSubtype site.receiverType (dispatch.declaringType m) = true))

theorem mem_targets {site : CallSite M} {declared m : M} :
    m ∈ dispatch.targets site declared ↔ dispatch.StandsFor site declared m := by
  unfold targets StandsFor
  cases dispatch.bans declared
  · cases site.isVirtual <;> simp [isCompatible]
  · simp

end Dispatch

namespace Program

variable {p : Program}

theorem mem_successors {s next : Statement} :
    next ∈ p.successors s ↔ ∃ instruction, p.instruction? s = some instruction ∧
      next.method = s.method ∧ next.position ∈ instruction.next s.position := by
  unfold successors
  cases p.instruction? s with
  | none => simp
  | some instruction =>
      simp only [List.mem_map, Option.some.injEq, exists_eq_left']
      constructor
      · rintro ⟨position, member, rfl⟩
        exact ⟨rfl, member⟩
      · rintro ⟨method, member⟩
        exact ⟨next.position, member, by rw [← method]⟩

theorem isCall_iff {s : Statement} :
    p.flowGraph.isCall s = true ↔ ∃ call, p.instruction? s = some (.call call) := by
  change (p.instruction? s).any Instruction.isCall = true ↔ _
  cases p.instruction? s with
  | none => simp
  | some instruction => cases instruction <;> simp [Instruction.isCall]

theorem mem_entries_iff {id : MethodName} {s : Statement} :
    s ∈ p.flowGraph.entries id ↔ ∃ m, p.method? id = some m ∧ s ∈ m.entries := by
  change s ∈ ((p.method? id).map Method.entries).getD [] ↔ _
  cases p.method? id <;> simp

/-! ### Callees -/

/-- What a call says of its callees, once its declared callee is found. -/
def siteOf (call : Call) (declared : Method) : CallSite MethodName where
  callees := [declared.id]
  isVirtual := call.isVirtual
  receiverType := call.receiverType

/-- The callees at a statement are those that the declared callee of its call stands for. -/
theorem mem_resolve {banned : List String} {descent : Hierarchy.Descent} {s : Statement}
    {id : MethodName} :
    id ∈ ((p.dispatch banned descent).resolve s).methods ↔
      ∃ call declared, p.instruction? s = some (.call call) ∧
        p.lookup call.calleeClass call.calleeName = some declared ∧
        id ∈ (p.dispatch banned descent).targets (siteOf call declared) declared.id := by
  have site : (p.dispatch banned descent).callSite s = p.callSite? s := rfl
  unfold Dispatch.resolve
  rw [site]
  cases here : p.instruction? s with
  | none => simp [callSite?, here, Dispatch.Resolution.methods]
  | some instruction =>
      cases instruction with
      | call call =>
          cases found : p.lookup call.calleeClass call.calleeName with
          | none =>
              simp [callSite?, here, found, Dispatch.Resolution.methods, Dispatch.callees,
                Text.mem_distinct]
          | some declared =>
              simp [callSite?, here, found, Dispatch.Resolution.methods, Dispatch.callees,
                Text.mem_distinct, siteOf]
      | _ => simp [callSite?, here, Dispatch.Resolution.methods]

/-! ### Moves -/

variable {F : Type} {rules : Rules Statement F MethodName}

theorem Loaded.isExit_iff (loaded : p.Loaded) (graph : rules.graph = p.flowGraph)
    {s : Statement} :
    rules.isExit s = true ↔ ∃ value, p.instruction? s = some (.ret value) := by
  unfold Rules.isExit
  rw [graph, List.contains_iff_mem]
  change s ∈ ((p.method? s.method).map Method.exits).getD [] ↔ _
  unfold instruction?
  cases found : p.method? s.method with
  | none => simp
  | some m =>
      obtain ⟨same, _⟩ := loaded.method?_eq_some found
      simp [Method.mem_exits, same]

/-- Whatever has a successor does not leave its method. -/
theorem Loaded.isExit_of_successor (loaded : p.Loaded) (graph : rules.graph = p.flowGraph)
    {s next : Statement} (successor : next ∈ p.successors s) : rules.isExit s = false := by
  rw [Bool.eq_false_iff, ne_eq, loaded.isExit_iff graph]
  rintro ⟨value, isReturn⟩
  obtain ⟨instruction, found, _, member⟩ := mem_successors.mp successor
  rw [isReturn] at found
  cases found
  cases member

section Moves

variable {dispatch : Dispatch Statement MethodName} {s next : Statement}
variable {fact found : F} {stack : List Statement}

theorem Loaded.moves_inside (loaded : p.Loaded) (graph : rules.graph = p.flowGraph)
    {instruction : Instruction} (here : p.instruction? s = some instruction)
    (plain : instruction.isCall = false) (successor : next ∈ p.successors s)
    (flows : found ∈ rules.flow.sequent s next fact) :
    rules.Moves dispatch ⟨⟨s, fact⟩, stack⟩ ⟨⟨next, found⟩, stack⟩ := by
  refine .flow ⟨?_, loaded.isExit_of_successor graph successor, graph ▸ successor, flows⟩
  rw [graph, Bool.eq_false_iff, ne_eq, isCall_iff]
  rintro ⟨call, isCall⟩
  rw [isCall] at here
  cases here
  cases plain

theorem moves_over (graph : rules.graph = p.flowGraph) {call : Call}
    (here : p.instruction? s = some (.call call)) (successor : next ∈ p.successors s)
    (flows : .toReturn found ∈ rules.flow.call s next fact) :
    rules.Moves dispatch ⟨⟨s, fact⟩, stack⟩ ⟨⟨next, found⟩, stack⟩ := by
  refine .bypass ⟨?_, graph ▸ successor, flows⟩
  rw [graph, isCall_iff]
  exact ⟨call, here⟩

/-- A callee is entered from a call, whose instruction has a successor. -/
theorem moves_into (graph : rules.graph = p.flowGraph) {call : Call}
    (here : p.instruction? s = some (.call call)) {passed : F}
    (passes : ∀ next, .toCallees passed ∈ rules.flow.call s next fact) {m : Method}
    (callee : m.id ∈ (dispatch.resolve s).methods) (known : p.method? m.id = some m)
    {entry : Statement} (isEntry : entry ∈ m.entries)
    (starts : found ∈ rules.flow.callToStart s entry passed) :
    rules.Moves dispatch ⟨⟨s, fact⟩, stack⟩ ⟨⟨entry, found⟩, s :: stack⟩ := by
  refine .enter ⟨⟨?_, ⟨s.method, s.position + 1⟩, ?_, passes _⟩, m.id, callee, ?_, starts⟩
  · rw [graph, isCall_iff]
    exact ⟨call, here⟩
  · rw [graph]
    exact mem_successors.mpr ⟨_, here, rfl, List.mem_singleton_self _⟩
  · rw [graph]
    exact mem_entries_iff.mpr ⟨m, known, isEntry⟩

theorem Loaded.moves_back (loaded : p.Loaded) (graph : rules.graph = p.flowGraph)
    {exit : Statement} {value : String} (leaves : p.instruction? exit = some (.ret value))
    (successor : next ∈ p.successors s)
    (flows : found ∈ rules.flow.exitToReturn s next exit fact) :
    rules.Moves dispatch ⟨⟨exit, fact⟩, s :: stack⟩ ⟨⟨next, found⟩, stack⟩ :=
  .leave ((loaded.isExit_iff graph).mpr ⟨value, leaves⟩) ⟨graph ▸ successor, flows⟩

end Moves

end Program

end Tabulation
