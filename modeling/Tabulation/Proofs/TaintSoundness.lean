/-
Taint analysis finds all taint.

In an execution, taint starts at sources and is handed on by assignments, arguments,
receivers and results; a sanitizer stops it, and a callee that the program does not have
hands it on to its result.  The flow functions track these marks, so that every tainted
variable is found wherever an execution may come, and every sink that uses one is
reported.
-/

import Tabulation.Proofs.Executions

namespace Tabulation

def Program.declaredCallees (p : Program) (s : Statement) : List MethodName :=
  ((p.callSite? s).map CallSite.callees).getD []

theorem Instruction.mem_uses_call {call : Call} {name : String} :
    name ∈ (Instruction.call call).uses ↔
      (name = call.receiver ∧ name ≠ "") ∨ name ∈ call.args := by
  by_cases none : call.receiver = ""
  · simp [uses, none]
  · simp only [uses, beq_iff_eq, none, if_false, List.mem_cons]
    refine or_congr ⟨fun same => ⟨same, same ▸ none⟩, And.left⟩ Iff.rfl

theorem Program.declaredCallees_ne_nil {p : Program} {banned : List String} {s : Statement}
    {m : Method} (target : m ∈ p.targets banned s) : p.declaredCallees s ≠ [] := by
  obtain ⟨resolved, _⟩ := target
  obtain ⟨call, declared, here, found, _⟩ := mem_resolve.mp resolved
  simp [declaredCallees, callSite?, here, found]

namespace Taint

variable {p : Program} {config : Config}

/-- How taint spreads in an execution. -/
def marking (p : Program) (config : Config) : Marking where
  initial m := {name | config.isSource (methodId m.id) = true ∧ name ∈ m.parameters}
  constant _ := False
  skips s call _ := config.isSanitizer (calleeId call) = true ∨
    p.targets config.options.banned s = ∅
  skipped s call marked := config.isSource (calleeId call) = true ∨
    (config.isSanitizer (calleeId call) = false ∧ p.declaredCallees s = [] ∧
      ∃ name ∈ (Instruction.call call).uses, name ∈ marked)
  enters call _ := config.isSanitizer (calleeId call) = false
  bound call m marked := {name |
    (name = receiverName ∧ call.receiver ∈ marked ∧ m.isStatic = false) ∨
    ∃ argument ∈ marked, (argument, name) ∈ call.args.zip m.params}
  returned call value := value ∨ config.isSource (calleeId call) = true

/-! ### What the flow functions do -/

theorem mem_boundParams {args params : List String} {fact name : String} :
    name ∈ boundParams args params fact ↔ (fact, name) ∈ args.zip params := by
  unfold boundParams
  simp only [List.mem_map, List.mem_filter, beq_iff_eq]
  constructor
  · rintro ⟨⟨argument, parameter⟩, ⟨member, rfl⟩, rfl⟩
    exact member
  · intro member
    exact ⟨(fact, name), ⟨member, rfl⟩, rfl⟩

private theorem mem_taintResult {call : Call} {action : CallAction String} :
    action ∈ taintResult call ↔ call.lhs ≠ "" ∧ action = .toReturn call.lhs := by
  unfold taintResult
  by_cases empty : call.lhs = "" <;> simp [empty]

theorem mem_call_zero {s : Statement} {call : Call}
    (here : p.instruction? s = some (.call call)) (next : Statement)
    {action : CallAction String} :
    action ∈ Taint.call p config s next "" ↔
      action = .toReturn "" ∨
      (config.isSanitizer (calleeId call) = false ∧ action = .toCallees "") ∨
      (config.isSource (calleeId call) = true ∧ call.lhs ≠ "" ∧
        action = .toReturn call.lhs) := by
  unfold Taint.call
  simp only [here, zero]
  cases config.isSanitizer (calleeId call) <;> cases config.isSource (calleeId call) <;>
    simp [mem_taintResult]

theorem mem_call {s : Statement} {call : Call} {fact : String}
    (here : p.instruction? s = some (.call call)) (isName : fact ≠ "") (next : Statement)
    {action : CallAction String} :
    action ∈ Taint.call p config s next fact ↔
      (fact ≠ call.lhs ∧ action = .toReturn fact) ∨
      (fact ∈ (Instruction.call call).uses ∧ config.isSanitizer (calleeId call) = false ∧
        ((p.declaredCallees s = [] ∧ call.lhs ≠ "" ∧ action = .toReturn call.lhs) ∨
          (p.declaredCallees s ≠ [] ∧ action = .toCallees fact))) := by
  have callees : ((p.callSite? s).map CallSite.callees).getD [] = p.declaredCallees s := rfl
  unfold Taint.call
  simp only [here, zero, beq_iff_eq, isName, if_false, callees]
  rw [List.mem_append]
  refine or_congr ?_ ?_
  · by_cases same : fact = call.lhs <;> simp [same]
  · by_cases used : fact ∈ (Instruction.call call).uses
    · cases config.isSanitizer (calleeId call) with
      | true => simp
      | false => by_cases none : p.declaredCallees s = [] <;> simp [used, none, mem_taintResult]
    · simp [used]

private theorem mem_callToStart {s entry : Statement} {call : Call} {m : Method}
    {fact name : String} (here : p.instruction? s = some (.call call))
    (known : p.method? entry.method = some m) (isName : fact ≠ "") :
    name ∈ callToStart p s entry fact ↔
      (name = receiverName ∧ fact = call.receiver ∧ m.isStatic = false) ∨
      (fact, name) ∈ call.args.zip m.params := by
  unfold callToStart
  simp only [here, known, zero, beq_iff_eq, isName, if_false, List.mem_append, mem_boundParams]
  refine or_congr ?_ Iff.rfl
  by_cases same : call.receiver = fact
  · cases m.isStatic <;> simp [same]
  · simp [same, Ne.symm same]

theorem mem_exitToReturn {s exit : Statement} {call : Call} {value name : String}
    (here : p.instruction? s = some (.call call))
    (leaves : p.instruction? exit = some (.ret value)) (isName : value ≠ "")
    (next : Statement) :
    name ∈ exitToReturn p s next exit value ↔ call.lhs ≠ "" ∧ name = call.lhs := by
  unfold exitToReturn
  by_cases empty : call.lhs = "" <;> simp [here, leaves, zero, isName, empty]

/-! ### Taint is tracked -/

private theorem tracks_inside {s : Statement} {instruction : Instruction}
    {marked : Set String} (nameless : "" ∉ marked)
    (here : p.instruction? s = some instruction) (next : Statement) :
    ∀ name ∈ insert "" ((marking p config).after marked instruction),
      ∃ fact ∈ insert "" marked, name ∈ sequent p s next fact := by
  intro name member
  rcases member with rfl | member
  · exact ⟨"", Set.mem_insert _ _, List.mem_singleton_self _⟩
  have isName : ∀ {fact}, fact ∈ marked → fact ≠ "" :=
    fun isMarked => ne_of_mem_of_not_mem isMarked nameless
  cases instruction with
  | assign lhs rhs =>
      obtain ⟨fact, isMarked, flows⟩ := exists_flow_of_assign member
      refine ⟨fact, Set.mem_insert_of_mem _ isMarked, ?_⟩
      simpa [sequent, here, zero, isName isMarked] using flows
  | const lhs value =>
      obtain ⟨⟨_, ⟨⟩⟩ | ⟨other, isMarked⟩, _⟩ := member
      refine ⟨name, Set.mem_insert_of_mem _ isMarked, ?_⟩
      simp [sequent, here, zero, isName isMarked, other]
  | _ =>
      refine ⟨name, Set.mem_insert_of_mem _ member, ?_⟩
      simp [sequent, here, zero, isName member]

private theorem tracks_skip {s : Statement} {call : Call} {marked : Set String}
    (nameless : "" ∉ marked) (here : p.instruction? s = some (.call call)) (next : Statement) :
    ∀ name ∈ insert "" (written marked call.lhs ((marking p config).skipped s call marked)),
      ∃ fact ∈ insert "" marked, .toReturn name ∈ Taint.call p config s next fact := by
  intro name member
  rcases member with rfl | ⟨⟨rfl, mark⟩ | ⟨other, isMarked⟩, isName⟩
  · exact ⟨"", Set.mem_insert _ _, (mem_call_zero here next).mpr (Or.inl rfl)⟩
  · rcases mark with isSource | ⟨clean, undeclared, used, uses, isMarked⟩
    · exact ⟨"", Set.mem_insert _ _,
        (mem_call_zero here next).mpr (Or.inr (Or.inr ⟨isSource, isName, rfl⟩))⟩
    · have usedName : used ≠ "" := ne_of_mem_of_not_mem isMarked nameless
      exact ⟨used, Set.mem_insert_of_mem _ isMarked, (mem_call here usedName next).mpr
        (Or.inr ⟨uses, clean, Or.inl ⟨undeclared, isName, rfl⟩⟩)⟩
  · exact ⟨name, Set.mem_insert_of_mem _ isMarked,
      (mem_call here isName next).mpr (Or.inl ⟨other, rfl⟩)⟩

private theorem tracks_enter {s entry : Statement} {call : Call} {m : Method}
    {marked : Set String} (nameless : "" ∉ marked) (here : p.instruction? s = some (.call call))
    (clean : config.isSanitizer (calleeId call) = false)
    (target : m ∈ p.targets config.options.banned s) (first : entry ∈ m.entries) :
    ∀ name ∈ insert "" (named ((marking p config).bound call m marked)),
      ∃ fact ∈ insert "" marked, (∀ next, .toCallees fact ∈ Taint.call p config s next fact) ∧
        name ∈ callToStart p s entry fact := by
  have known : p.method? entry.method = some m := Program.method?_of_entry target first
  have passes : ∀ {fact}, fact ≠ "" → fact ∈ (Instruction.call call).uses →
      ∀ next, .toCallees fact ∈ Taint.call p config s next fact := by
    intro fact isName used next
    exact (mem_call here isName next).mpr
      (Or.inr ⟨used, clean, Or.inr ⟨Program.declaredCallees_ne_nil target, rfl⟩⟩)
  intro name member
  rcases member with rfl | ⟨⟨rfl, isMarked, dynamic⟩ | ⟨argument, isMarked, pair⟩, _⟩
  · exact ⟨"", Set.mem_insert _ _,
      fun next => (mem_call_zero here next).mpr (Or.inr (Or.inl ⟨clean, rfl⟩)),
      List.mem_singleton_self _⟩
  · have isName := ne_of_mem_of_not_mem isMarked nameless
    exact ⟨call.receiver, Set.mem_insert_of_mem _ isMarked,
      passes isName (Instruction.mem_uses_call.mpr (Or.inl ⟨rfl, isName⟩)),
      (mem_callToStart here known isName).mpr (Or.inl ⟨rfl, rfl, dynamic⟩)⟩
  · have isName := ne_of_mem_of_not_mem isMarked nameless
    exact ⟨argument, Set.mem_insert_of_mem _ isMarked,
      passes isName (Instruction.mem_uses_call.mpr (Or.inr (List.of_mem_zip pair).1)),
      (mem_callToStart here known isName).mpr (Or.inr pair)⟩

private theorem tracks_back {exit s : Statement} {value : String} {call : Call}
    {inner marked : Set String} (innerNameless : "" ∉ inner)
    (leaves : p.instruction? exit = some (.ret value))
    (here : p.instruction? s = some (.call call)) (next : Statement) :
    ∀ name ∈ insert ""
        (written marked call.lhs ((marking p config).returned call (value ∈ inner))),
      (∃ fact ∈ insert "" marked, .toReturn name ∈ Taint.call p config s next fact) ∨
      (∃ fact ∈ insert "" inner, name ∈ exitToReturn p s next exit fact) := by
  intro name member
  rcases member with rfl | ⟨⟨rfl, mark⟩ | ⟨other, isMarked⟩, isName⟩
  · exact Or.inl ⟨"", Set.mem_insert _ _, (mem_call_zero here next).mpr (Or.inl rfl)⟩
  · rcases mark with isMarked | isSource
    · have valueName : value ≠ "" := ne_of_mem_of_not_mem isMarked innerNameless
      exact Or.inr ⟨value, Set.mem_insert_of_mem _ isMarked,
        (mem_exitToReturn here leaves valueName next).mpr ⟨isName, rfl⟩⟩
    · exact Or.inl ⟨"", Set.mem_insert _ _,
        (mem_call_zero here next).mpr (Or.inr (Or.inr ⟨isSource, isName, rfl⟩))⟩
  · exact Or.inl ⟨name, Set.mem_insert_of_mem _ isMarked,
      (mem_call here isName next).mpr (Or.inl ⟨other, rfl⟩)⟩

theorem tracks (p : Program) (config : Config) :
    p.Tracks config.options.banned (marking p config) (rules p config) where
  graph := rfl
  start := by
    intro m s known first name member
    rcases member with rfl | ⟨⟨isSource, isParameter⟩, _⟩
    · exact List.mem_cons_self
    · obtain ⟨_, rfl⟩ := Method.mem_entries.mp first
      change name ∈ startFacts p config ⟨m.id, 0⟩
      simp [startFacts, isSource, known, isParameter]
  inside := by
    intro s next instruction marked nameless here _
    exact tracks_inside nameless here next
  skip := by
    intro s next call marked nameless here _
    exact tracks_skip nameless here next
  enter := tracks_enter
  back := by
    intro exit s next value call inner marked innerNameless _ leaves here _
    exact tracks_back innerNameless leaves here next

/-- Wherever an execution comes, a finished run knows the tainted variables of its latest
method, and it has a finding for each of them that a call there passes to a sink. -/
theorem taint_sound (p : Program) (loaded : p.Loaded) (config : Config)
    (entries : List MethodName) (data : Solution Statement String)
    (outcome : p.IsOutcome config entries (rules p config) data)
    (s : Statement) (tainted : Set String) (callers : List Frame)
    (executes : p.Executes config.options.banned (marking p config) entries
      (⟨s, tainted⟩ :: callers)) :
    (∀ name ∈ tainted, name ∈ data.factsAt s) ∧
    ∀ call, p.instruction? s = some (.call call) → config.isSink (calleeId call) = true →
      ∀ name ∈ (Instruction.call call).uses, name ∈ tainted →
        ⟨⟨s, name⟩, rule, "tainted " ++ name ++ " flows into " ++ call.callee⟩ ∈
          data.findings := by
  have found := (tracks p config).mem_facts loaded (onlyFindings p config) outcome executes
  refine ⟨fun name isTainted => (data.mem_factsAt s name).mpr (found name isTainted).2, ?_⟩
  intro call here isSink name used isTainted
  obtain ⟨isName, isFact⟩ := found name isTainted
  refine outcome.mem_findings isFact fun edge target => List.mem_map_of_mem ?_
  simp [findings, target, here, zero, isName, used, isSink]

section Relay

open Sample

/-- What was read comes through the callee to the call that writes it. -/
private theorem relay_executes : ∃ tainted,
    relay.Executes [] (marking relay relayConfig) [relayMain] [⟨⟨relayMain, 3⟩, tainted⟩] ∧
      "y" ∈ tainted := by
  obtain ⟨tainted, read, isRead⟩ : ∃ tainted, relay.Executes [] (marking relay relayConfig)
      [relayMain] [⟨⟨relayMain, 1⟩, tainted⟩] ∧ "x" ∈ tainted := by
    have start : relay.Executes [] (marking relay relayConfig) [relayMain]
        [⟨⟨relayMain, 0⟩, _⟩] := .start (List.mem_singleton_self _) rfl (by decide)
    have absent : relay.targets [] ⟨relayMain, 0⟩ = ∅ :=
      Program.targets_eq_empty (by decide +kernel)
    refine ⟨_, start.step (.skip rfl (Or.inr absent) (by decide)), ?_⟩
    exact ⟨Or.inl ⟨rfl, Or.inl (by decide)⟩, by decide⟩
  obtain ⟨tainted, callers, passed, isPassed⟩ : ∃ inner outer,
      relay.Executes [] (marking relay relayConfig) [relayMain]
        [⟨⟨relayPass, 0⟩, inner⟩, ⟨⟨relayMain, 2⟩, outer⟩] ∧ "v" ∈ inner := by
    have target : relayPassBody ∈ relay.targets [] ⟨relayMain, 2⟩ :=
      ⟨by decide, by decide +kernel, by decide⟩
    have before := read.step (.inside rfl rfl (by decide : ⟨relayMain, 2⟩ ∈ _))
    refine ⟨_, _, before.step (.enter rfl rfl target (by decide)), ?_⟩
    exact ⟨Or.inr ⟨"x", ⟨Or.inr ⟨by decide, isRead⟩, by decide⟩, by decide⟩, by decide⟩
  have absent : relay.targets [] ⟨relayPass, 0⟩ = ∅ :=
    Program.targets_eq_empty (by decide +kernel)
  have used := passed.step (.skip rfl (Or.inr absent) (by decide : ⟨relayPass, 1⟩ ∈ _))
  refine ⟨_, used.step (.back rfl rfl (by decide)), ?_⟩
  exact ⟨Or.inl ⟨rfl, Or.inl ⟨Or.inr ⟨by decide, isPassed⟩, by decide⟩⟩, by decide⟩

theorem taint_sound_relay : ∃ data tainted,
    relay.IsOutcome relayConfig [relayMain] (rules relay relayConfig) data ∧
    relay.Executes [] (marking relay relayConfig) [relayMain]
      [⟨⟨relayMain, 3⟩, tainted⟩] ∧
    "y" ∈ data.factsAt ⟨relayMain, 3⟩ ∧
    ⟨⟨⟨relayMain, 3⟩, "y"⟩, rule, "tainted y flows into Output.write"⟩ ∈ data.findings := by
  obtain ⟨data, outcome, _⟩ := Program.exists_isOutcome_of_run relay relayConfig [relayMain]
    (rules relay relayConfig) .byClass 200 (by decide +kernel)
  obtain ⟨tainted, executes, isTainted⟩ := relay_executes
  obtain ⟨facts, sinks⟩ := taint_sound relay relay_loaded relayConfig [relayMain] data outcome
    ⟨relayMain, 3⟩ tainted [] executes
  exact ⟨data, tainted, outcome, executes, facts "y" isTainted,
    sinks _ rfl (by decide) "y" (by decide) isTainted⟩

end Relay

end Taint

end Tabulation
