/-
Nullness analysis finds all null variables, as far as no call overwrites an argument.

In an execution, null comes from the constant and is handed on by assignments, arguments
and results, and a call on a null receiver goes no further.  The flow functions track
this for every call whose result does not go to one of its own arguments.  Such an
argument is dropped before it reaches the callees: null may then be there unseen.
-/

import Tabulation.Proofs.TaintSoundness

namespace Tabulation

/-- The result of a call does not go to one of its own arguments. -/
def Instruction.KeepsArguments : Instruction → Prop
  | .call c => c.lhs ∈ c.args → c.lhs = ""
  | _ => True

instance (instruction : Instruction) : Decidable instruction.KeepsArguments :=
  match instruction with
  | .call call => inferInstanceAs (Decidable (call.lhs ∈ call.args → call.lhs = ""))
  | .assign .. | .const .. | .ret _ | .branch .. | .jump _ | .nop => .isTrue trivial

/-- No call of a program overwrites one of its own arguments. -/
def Program.KeepsArguments (p : Program) : Prop :=
  ∀ c ∈ p.classes, ∀ m ∈ c.methods, ∀ instruction ∈ m.body, instruction.KeepsArguments

instance (p : Program) : Decidable p.KeepsArguments :=
  inferInstanceAs (Decidable (∀ c ∈ p.classes, ∀ m ∈ c.methods, ∀ instruction ∈ m.body,
    instruction.KeepsArguments))

theorem Program.KeepsArguments.instruction {p : Program} (keeps : p.KeepsArguments)
    {s : Statement} {instruction : Instruction} (here : p.instruction? s = some instruction) :
    instruction.KeepsArguments := by
  unfold instruction? at here
  obtain ⟨m, foundMethod, atPosition⟩ := Option.bind_eq_some_iff.mp here
  obtain ⟨c, foundClass, found⟩ := Option.bind_eq_some_iff.mp foundMethod
  exact keeps c (class?_eq_some foundClass).1 m (List.mem_of_find?_eq_some found) instruction
    (List.mem_of_getElem? atPosition)

namespace Nullness

variable {p : Program} {banned : List String}

/-- How null spreads in an execution. -/
def marking (p : Program) (banned : List String) : Marking where
  initial _ := ∅
  constant value := value = null
  skips s call marked := call.receiver ∉ marked ∧ p.targets banned s = ∅
  skipped _ _ _ := False
  enters call marked := call.receiver ∉ marked
  bound call m marked := {name | ∃ argument ∈ marked, (argument, name) ∈ call.args.zip m.params}
  returned _ value := value

/-! ### What the flow functions do -/

private theorem mem_call_zero {s : Statement} {call : Call}
    (here : p.instruction? s = some (.call call)) (next : Statement)
    {action : CallAction String} :
    action ∈ Nullness.call p s next "" ↔ action = .toReturn "" ∨ action = .toCallees "" := by
  simp [Nullness.call, here, zero]

private theorem mem_call {s : Statement} {call : Call} {fact : String}
    (here : p.instruction? s = some (.call call)) (isName : fact ≠ "") (next : Statement)
    {action : CallAction String} :
    action ∈ Nullness.call p s next fact ↔
      (fact ≠ call.receiver ∧ fact ≠ call.lhs) ∧
        (action = .toReturn fact ∨ (fact ∈ call.args ∧ action = .toCallees fact)) := by
  by_cases dropped : fact = call.receiver ∨ fact = call.lhs
  · have none : ¬(fact ≠ call.receiver ∧ fact ≠ call.lhs) := by tauto
    simp only [none, false_and, iff_false]
    simp [Nullness.call, here, zero, isName, dropped]
  · have kept := not_or.mp dropped
    by_cases argument : fact ∈ call.args <;>
      simp [Nullness.call, here, zero, isName, kept, argument]

private theorem mem_callToStart {s entry : Statement} {call : Call} {m : Method}
    {fact name : String} (here : p.instruction? s = some (.call call))
    (known : p.method? entry.method = some m) (isName : fact ≠ "") :
    name ∈ callToStart p s entry fact ↔ (fact, name) ∈ call.args.zip m.params := by
  simp [callToStart, here, known, zero, isName, Taint.mem_boundParams]

/-! ### Null is tracked -/

private theorem tracks_inside {s : Statement} {instruction : Instruction}
    {marked : Set String} (nameless : "" ∉ marked)
    (here : p.instruction? s = some instruction) (next : Statement) :
    ∀ name ∈ insert "" ((marking p banned).after marked instruction),
      ∃ fact ∈ insert "" marked, name ∈ sequent p s next fact := by
  have isName : ∀ {fact}, fact ∈ marked → fact ≠ "" :=
    fun isMarked => ne_of_mem_of_not_mem isMarked nameless
  intro name member
  rcases member with rfl | member
  · refine ⟨"", Set.mem_insert _ _, ?_⟩
    cases instruction with
    | const lhs value => by_cases isNull : value = null <;> simp [sequent, here, zero, isNull]
    | _ => simp [sequent, here, zero]
  cases instruction with
  | assign lhs rhs =>
      obtain ⟨fact, isMarked, flows⟩ := exists_flow_of_assign member
      refine ⟨fact, Set.mem_insert_of_mem _ isMarked, ?_⟩
      simpa [sequent, here, zero, isName isMarked] using flows
  | const lhs value =>
      obtain ⟨⟨rfl, isNull⟩ | ⟨other, isMarked⟩, _⟩ := member
      · change value = null at isNull
        exact ⟨"", Set.mem_insert _ _, by simp [sequent, here, zero, isNull]⟩
      · refine ⟨name, Set.mem_insert_of_mem _ isMarked, ?_⟩
        simp [sequent, here, zero, isName isMarked, other]
  | _ => exact ⟨name, Set.mem_insert_of_mem _ member, by simp [sequent, here]⟩

/-- A null variable that takes no result stays null, as the receiver is not null. -/
private theorem toReturn_of_kept {s : Statement} {call : Call} {marked : Set String}
    {name : String} (here : p.instruction? s = some (.call call))
    (present : call.receiver ∉ marked) (other : name ≠ call.lhs) (isMarked : name ∈ marked)
    (isName : name ≠ "") (next : Statement) :
    ∃ fact ∈ insert "" marked, .toReturn name ∈ Nullness.call p s next fact := by
  refine ⟨name, Set.mem_insert_of_mem _ isMarked, (mem_call here isName next).mpr ?_⟩
  exact ⟨⟨ne_of_mem_of_not_mem isMarked present, other⟩, Or.inl rfl⟩

private theorem tracks_enter (keeps : p.KeepsArguments) {s entry : Statement} {call : Call}
    {m : Method} {marked : Set String} (nameless : "" ∉ marked)
    (here : p.instruction? s = some (.call call)) (present : call.receiver ∉ marked)
    (target : m ∈ p.targets banned s) (first : entry ∈ m.entries) :
    ∀ name ∈ insert "" (named ((marking p banned).bound call m marked)),
      ∃ fact ∈ insert "" marked, (∀ next, .toCallees fact ∈ Nullness.call p s next fact) ∧
        name ∈ callToStart p s entry fact := by
  intro name member
  rcases member with rfl | ⟨⟨argument, isMarked, pair⟩, _⟩
  · exact ⟨"", Set.mem_insert _ _, fun next => (mem_call_zero here next).mpr (Or.inr rfl),
      List.mem_singleton_self _⟩
  · have isName := ne_of_mem_of_not_mem isMarked nameless
    have isArgument : argument ∈ call.args := (List.of_mem_zip pair).1
    have kept : argument ≠ call.lhs := by
      intro same
      have overwritten : call.lhs ∈ call.args := same ▸ isArgument
      exact isName (same.trans (keeps.instruction here overwritten))
    have passes : ∀ next, .toCallees argument ∈ Nullness.call p s next argument := fun next =>
      (mem_call here isName next).mpr
        ⟨⟨ne_of_mem_of_not_mem isMarked present, kept⟩, Or.inr ⟨isArgument, rfl⟩⟩
    have known := Program.method?_of_entry target first
    exact ⟨argument, Set.mem_insert_of_mem _ isMarked, passes,
      (mem_callToStart here known isName).mpr pair⟩

theorem tracks (keeps : p.KeepsArguments) :
    p.Tracks banned (marking p banned) (rules p) where
  graph := rfl
  start := by
    intro m s _ _ name member
    rcases member with rfl | ⟨⟨⟩, _⟩
    exact List.mem_singleton_self _
  inside := by
    intro s next instruction marked nameless here _
    exact tracks_inside nameless here next
  skip := by
    intro s next call marked nameless here skips name member
    rcases member with rfl | ⟨⟨_, ⟨⟩⟩ | ⟨other, isMarked⟩, isName⟩
    · exact ⟨"", Set.mem_insert _ _, (mem_call_zero here next).mpr (Or.inl rfl)⟩
    · exact toReturn_of_kept here skips.1 other isMarked isName next
  enter := tracks_enter keeps
  back := by
    intro exit s next value call inner marked innerNameless _ leaves here present name member
    rcases member with rfl | ⟨⟨rfl, isMarked⟩ | ⟨other, isMarked⟩, isName⟩
    · exact Or.inl ⟨"", Set.mem_insert _ _, (mem_call_zero here next).mpr (Or.inl rfl)⟩
    · -- Results come back as in the analysis of taint.
      have valueName : value ≠ "" := ne_of_mem_of_not_mem isMarked innerNameless
      exact Or.inr ⟨value, Set.mem_insert_of_mem _ isMarked,
        (Taint.mem_exitToReturn here leaves valueName next).mpr ⟨isName, rfl⟩⟩
    · exact Or.inl (toReturn_of_kept here present other isMarked isName next)

/-- If no call overwrites an argument, then wherever an execution comes, a finished run
knows the null variables of its latest method, and it has a finding for a call that stops
there because its receiver is null. -/
theorem nullness_sound (p : Program) (loaded : p.Loaded) (keeps : p.KeepsArguments)
    (config : Config) (entries : List MethodName) (data : Solution Statement String)
    (outcome : p.IsOutcome config entries (rules p) data)
    (s : Statement) (nulls : Set String) (callers : List Frame)
    (executes : p.Executes config.options.banned (marking p config.options.banned) entries
      (⟨s, nulls⟩ :: callers)) :
    (∀ name ∈ nulls, name ∈ data.factsAt s) ∧
    ∀ call, p.instruction? s = some (.call call) → call.receiver ∈ nulls →
      ⟨⟨s, call.receiver⟩, rule, call.receiver ++ " may be null when calling " ++ call.callee⟩ ∈
        data.findings := by
  have found := (tracks keeps).mem_facts loaded (onlyFindings p) outcome executes
  refine ⟨fun name isNull => (data.mem_factsAt s name).mpr (found name isNull).2, ?_⟩
  intro call here isNull
  obtain ⟨isName, isFact⟩ := found call.receiver isNull
  refine outcome.mem_findings isFact fun edge target => List.mem_map_of_mem ?_
  simp [findings, target, here, zero, isName]

section Relay

open Sample

/-- Null is handed to the callee, which calls something on it. -/
private theorem relay_executes : ∃ nulls callers,
    relay.Executes [] (marking relay []) [relayMain] (⟨⟨relayPass, 0⟩, nulls⟩ :: callers) ∧
      "w" ∈ nulls := by
  have start : relay.Executes [] (marking relay []) [relayMain] [⟨⟨relayMain, 0⟩, _⟩] :=
    .start (List.mem_singleton_self _) rfl (by decide)
  have absent : relay.targets [] ⟨relayMain, 0⟩ = ∅ :=
    Program.targets_eq_empty (by decide +kernel)
  have read := start.step
    (.skip rfl ⟨fun isNull => isNull.1, absent⟩ (by decide : ⟨relayMain, 1⟩ ∈ _))
  have given := read.step (.inside rfl rfl (by decide : ⟨relayMain, 2⟩ ∈ _))
  have target : relayPassBody ∈ relay.targets [] ⟨relayMain, 2⟩ :=
    ⟨by decide, by decide +kernel, by decide⟩
  refine ⟨_, _, given.step (.enter rfl (fun isNull => isNull.2 rfl) target (by decide)), ?_⟩
  exact ⟨⟨"n", ⟨Or.inl ⟨rfl, rfl⟩, by decide⟩, by decide⟩, by decide⟩

theorem nullness_sound_relay : relay.KeepsArguments ∧ ∃ data nulls callers,
    relay.IsOutcome relayConfig [relayMain] (rules relay) data ∧
    relay.Executes [] (marking relay []) [relayMain] (⟨⟨relayPass, 0⟩, nulls⟩ :: callers) ∧
    "w" ∈ data.factsAt ⟨relayPass, 0⟩ ∧
    ⟨⟨⟨relayPass, 0⟩, "w"⟩, rule, "w may be null when calling Relay.use"⟩ ∈ data.findings := by
  have keeps : relay.KeepsArguments := by decide
  obtain ⟨data, outcome, _⟩ := Program.exists_isOutcome_of_run relay relayConfig [relayMain]
    (rules relay) .byClass 100 (by decide +kernel)
  obtain ⟨nulls, callers, executes, isNull⟩ := relay_executes
  obtain ⟨facts, stops⟩ := nullness_sound relay relay_loaded keeps relayConfig [relayMain] data
    outcome ⟨relayPass, 0⟩ nulls callers executes
  exact ⟨keeps, data, nulls, callers, outcome, executes, facts "w" isNull, stops _ rfl isNull⟩

end Relay

end Nullness

/-! ### Overwritten arguments -/

namespace Sample

def echoMain : MethodName := ⟨"Echo", "main"⟩

/-- Hands null over in a variable that takes the result. -/
def echoBody : Method where
  id := echoMain
  params := []
  isStatic := true
  isAbstract := false
  body := [.const "x" "null", .call ⟨"x", "Echo", "same", ["x"], false, "", ""⟩, .ret ""]

def echoSame : MethodName := ⟨"Echo", "same"⟩

/-- Calls something on its parameter and gives it back. -/
def echoSameBody : Method where
  id := echoSame
  params := ["v"]
  isStatic := true
  isAbstract := false
  body := [.call ⟨"", "Echo", "use", [], true, "v", "Echo"⟩, .ret "v"]

def echo : Program where
  name := "echo"
  classes := [{
    name := "Echo"
    super := ""
    interfaces := []
    methods := [echoBody, echoSameBody] }]

theorem echo_loaded : echo.Loaded := by
  refine ⟨_, Digraph.findsCondensation_components, "echo", [{
    name := "Echo"
    methods := [
      { name := "main"
        isStatic := true
        body := [
          { operation := "const", lhs := "x", value := "null" },
          { operation := "call", lhs := "x", callee := "Echo.same", args := ["x"] },
          { operation := "return" }] },
      { name := "same"
        params := ["v"]
        isStatic := true
        body := [
          { operation := "call", callee := "Echo.use", isVirtual := true, receiver := "v" },
          { operation := "return", rhs := "v" }] }] }], ?_⟩
  decide +kernel

end Sample

namespace Nullness

section Echo

open Sample

private theorem echo_executes : ∃ nulls callers,
    echo.Executes [] (marking echo []) [echoMain] (⟨⟨echoSame, 0⟩, nulls⟩ :: callers) ∧
      "v" ∈ nulls := by
  have start : echo.Executes [] (marking echo []) [echoMain] [⟨⟨echoMain, 0⟩, _⟩] :=
    .start (List.mem_singleton_self _) rfl (by decide)
  have given := start.step (.inside rfl rfl (by decide : ⟨echoMain, 1⟩ ∈ _))
  have target : echoSameBody ∈ echo.targets [] ⟨echoMain, 1⟩ :=
    ⟨by decide, by decide +kernel, by decide⟩
  refine ⟨_, _, given.step (.enter rfl (fun isNull => isNull.2 rfl) target (by decide)), ?_⟩
  exact ⟨⟨"x", ⟨Or.inl ⟨rfl, rfl⟩, by decide⟩, by decide⟩, by decide⟩

/-- The parameter is null where the callee calls something on it, but if the variable that
was handed over takes the result, a finished run does not have the fact. -/
theorem overwritten_argument_unseen :
    (∀ c ∈ echo.classes, ∀ m ∈ c.methods, "" ∉ m.params) ∧ echo.Loaded ∧
    (∃ nulls callers,
      echo.Executes [] (marking echo []) [echoMain] (⟨⟨echoSame, 0⟩, nulls⟩ :: callers) ∧
        "v" ∈ nulls) ∧
    (∃ data, echo.IsOutcome relayConfig [echoMain] (rules echo) data) ∧
    ∀ data, echo.IsOutcome relayConfig [echoMain] (rules echo) data →
      "v" ∉ data.factsAt ⟨echoSame, 0⟩ := by
  obtain ⟨other, reached, collected⟩ := Program.exists_isOutcome_of_run echo relayConfig
    [echoMain] (rules echo) .byClass 100 (by decide +kernel)
  refine ⟨by decide, echo_loaded, echo_executes, ⟨other, reached⟩, fun data outcome => ?_⟩
  -- All finished runs have the same facts, so one of them is enough.
  rw [data.mem_factsAt, outcome.mem_facts (onlyFindings echo),
    ← reached.mem_facts (onlyFindings echo), Engine.mem_facts_of_collect collected]
  decide +kernel

end Echo

end Nullness

end Tabulation
