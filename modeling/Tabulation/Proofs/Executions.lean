/-
Executions of a program that mark variables, and rules that keep up with them.

An execution is a stack of methods, each with the set of its variables that are marked:
tainted, say, or null.  Rules track the marks if at every instruction each variable that
is marked afterwards follows from one that was marked before, or from the empty name,
which holds wherever control is.  Then realizable paths lead to all marked variables, as
the calls of the path are the callers on the stack.
-/

import Tabulation.Proofs.ControlFlow
import Tabulation.Proofs.Outcomes

namespace Tabulation

/-- A method in execution: where it stands and which of its variables are marked. -/
structure Frame where
  statement : Statement
  marked : Set String

/-- What marks variables. -/
structure Marking where
  /-- The variables that are marked where an entry method starts. -/
  initial : Method → Set String
  /-- Whether the value of a constant is marked. -/
  constant : String → Prop
  /-- Whether a call may be stepped over, and whether its result is marked then. -/
  skips : Statement → Call → Set String → Prop
  skipped : Statement → Call → Set String → Prop
  /-- Whether the callees of a call may be entered. -/
  enters : Call → Set String → Prop
  /-- The variables that are marked where a callee starts. -/
  bound : Call → Method → Set String → Set String
  /-- Whether the result of a call is marked, from whether the returned value is. -/
  returned : Call → Prop → Prop

/-- The variables among names: the empty name stands for none. -/
def named (names : Set String) : Set String := {name ∈ names | name ≠ ""}

/-- The marked variables after one of them took a value. -/
def written (marked : Set String) (target : String) (mark : Prop) : Set String :=
  named {name | (name = target ∧ mark) ∨ (name ≠ target ∧ name ∈ marked)}

theorem empty_notMem_named (names : Set String) : "" ∉ named names := fun member => member.2 rfl

/-- What is marked behind an assignment flows there from what was marked: a copied value to
both variables, and the others to themselves. -/
theorem exists_flow_of_assign {marked : Set String} {lhs rhs name : String}
    (member : name ∈ written marked lhs (rhs ∈ marked)) :
    ∃ fact ∈ marked,
      name ∈ (if fact == rhs then [fact, lhs] else if fact == lhs then [] else [fact]) := by
  obtain ⟨assigned | ⟨other, isMarked⟩, _⟩ := member
  · obtain ⟨rfl, isMarked⟩ := assigned
    exact ⟨rhs, isMarked, by simp⟩
  · refine ⟨name, isMarked, ?_⟩
    by_cases copied : name = rhs
    · simp [copied]
    · simp [copied, other]

/-- The marked variables behind an instruction that is no call. -/
def Marking.after (marking : Marking) (marked : Set String) : Instruction → Set String
  | .assign lhs rhs => written marked lhs (rhs ∈ marked)
  | .const lhs value => written marked lhs (marking.constant value)
  | _ => marked

namespace Program

variable (p : Program) (banned : List String) (marking : Marking)

/-- The methods with a body among the callees of a call. -/
def targets (s : Statement) : Set Method :=
  {m | m.id ∈ ((p.dispatch banned).resolve s).methods ∧ p.method? m.id = some m ∧ m.body ≠ []}

variable {p banned} in
theorem targets_eq_empty {s : Statement}
    (none : ((p.dispatch banned).resolve s).methods = []) : p.targets banned s = ∅ := by
  ext m
  simp [targets, none]

variable {p banned} in
theorem method?_of_entry {s entry : Statement} {m : Method} (target : m ∈ p.targets banned s)
    (first : entry ∈ m.entries) : p.method? entry.method = some m := by
  obtain ⟨_, rfl⟩ := Method.mem_entries.mp first
  exact target.2.1

/-- One step of an execution.  The latest method comes first. -/
inductive Steps : List Frame → List Frame → Prop
  | inside {s next : Statement} {instruction : Instruction} {marked : Set String}
      {callers : List Frame} (here : p.instruction? s = some instruction)
      (plain : instruction.isCall = false) (successor : next ∈ p.successors s) :
      Steps (⟨s, marked⟩ :: callers) (⟨next, marking.after marked instruction⟩ :: callers)
  | skip {s next : Statement} {call : Call} {marked : Set String} {callers : List Frame}
      (here : p.instruction? s = some (.call call)) (skips : marking.skips s call marked)
      (successor : next ∈ p.successors s) :
      Steps (⟨s, marked⟩ :: callers)
        (⟨next, written marked call.lhs (marking.skipped s call marked)⟩ :: callers)
  | enter {s entry : Statement} {call : Call} {m : Method} {marked : Set String}
      {callers : List Frame} (here : p.instruction? s = some (.call call))
      (enters : marking.enters call marked) (target : m ∈ p.targets banned s)
      (first : entry ∈ m.entries) :
      Steps (⟨s, marked⟩ :: callers)
        (⟨entry, named (marking.bound call m marked)⟩ :: ⟨s, marked⟩ :: callers)
  | back {exit s next : Statement} {value : String} {call : Call} {inner marked : Set String}
      {callers : List Frame} (leaves : p.instruction? exit = some (.ret value))
      (here : p.instruction? s = some (.call call)) (successor : next ∈ p.successors s) :
      Steps (⟨exit, inner⟩ :: ⟨s, marked⟩ :: callers)
        (⟨next, written marked call.lhs (marking.returned call (value ∈ inner))⟩ :: callers)

/-- The stacks that an execution from an entry method comes to. -/
inductive Executes (entries : List MethodName) : List Frame → Prop
  | start {id : MethodName} {m : Method} {s : Statement} (isEntry : id ∈ entries)
      (known : p.method? id = some m) (first : s ∈ m.entries) :
      Executes entries [⟨s, named (marking.initial m)⟩]
  | step {before after : List Frame} (executes : Executes entries before)
      (steps : p.Steps banned marking before after) : Executes entries after

/-- At every instruction, what is marked afterwards follows from what was marked before. -/
structure Tracks (rules : Rules Statement String MethodName) : Prop where
  graph : rules.graph = p.flowGraph
  start : ∀ {m s}, p.method? m.id = some m → s ∈ m.entries →
    ∀ name ∈ insert "" (named (marking.initial m)), name ∈ rules.startFacts s
  inside : ∀ {s next instruction} {marked : Set String}, "" ∉ marked →
    p.instruction? s = some instruction → instruction.isCall = false →
    ∀ name ∈ insert "" (marking.after marked instruction),
      ∃ fact ∈ insert "" marked, name ∈ rules.flow.sequent s next fact
  skip : ∀ {s next call} {marked : Set String}, "" ∉ marked →
    p.instruction? s = some (.call call) → marking.skips s call marked →
    ∀ name ∈ insert "" (written marked call.lhs (marking.skipped s call marked)),
      ∃ fact ∈ insert "" marked, .toReturn name ∈ rules.flow.call s next fact
  enter : ∀ {s entry call m} {marked : Set String}, "" ∉ marked →
    p.instruction? s = some (.call call) → marking.enters call marked →
    m ∈ p.targets banned s → entry ∈ m.entries →
    ∀ name ∈ insert "" (named (marking.bound call m marked)),
      ∃ fact ∈ insert "" marked, (∀ next, .toCallees fact ∈ rules.flow.call s next fact) ∧
        name ∈ rules.flow.callToStart s entry fact
  back : ∀ {exit s next value call} {inner marked : Set String}, "" ∉ inner → "" ∉ marked →
    p.instruction? exit = some (.ret value) → p.instruction? s = some (.call call) →
    marking.enters call marked →
    ∀ name ∈ insert "" (written marked call.lhs (marking.returned call (value ∈ inner))),
      (∃ fact ∈ insert "" marked, .toReturn name ∈ rules.flow.call s next fact) ∨
      (∃ fact ∈ insert "" inner, name ∈ rules.flow.exitToReturn s next exit fact)

/-- Realizable paths lead to all that is marked in a method, through the calls at which its
callers stand. -/
structure Covers (rules : Rules Statement String MethodName) (entries : List MethodName)
    (frame : Frame) (callers : List Frame) : Prop where
  named : "" ∉ frame.marked
  reached : ∀ name ∈ insert "" frame.marked, ∃ start ∈ p.startVertices entries rules,
    Relation.ReflTransGen (rules.Moves (p.dispatch banned)) ⟨start, []⟩
      ⟨⟨frame.statement, name⟩, callers.map Frame.statement⟩

/-- A caller stands at a call that was entered. -/
def Waits (frame : Frame) : Prop :=
  ∃ call, p.instruction? frame.statement = some (.call call) ∧ marking.enters call frame.marked

/-- All methods of a stack are covered, and all but the latest wait. -/
def CoversAll (rules : Rules Statement String MethodName) (entries : List MethodName) :
    List Frame → Prop
  | [] => True
  | frame :: callers => p.Covers banned rules entries frame callers ∧
      (∀ caller ∈ callers, p.Waits marking caller) ∧ CoversAll rules entries callers

variable {p banned marking} {rules : Rules Statement String MethodName}
variable {entries : List MethodName}

private theorem Covers.move {frame : Frame} {callers : List Frame} {fact : String}
    {after : Configuration Statement String}
    (covers : p.Covers banned rules entries frame callers) (isFact : fact ∈ insert "" frame.marked)
    (move : rules.Moves (p.dispatch banned)
      ⟨⟨frame.statement, fact⟩, callers.map Frame.statement⟩ after) :
    ∃ start ∈ p.startVertices entries rules,
      Relation.ReflTransGen (rules.Moves (p.dispatch banned)) ⟨start, []⟩ after := by
  obtain ⟨start, isStart, run⟩ := covers.reached fact isFact
  exact ⟨start, isStart, run.tail move⟩

private theorem empty_notMem_after {marked : Set String} (named : "" ∉ marked)
    (instruction : Instruction) : "" ∉ marking.after marked instruction := by
  cases instruction with
  | assign | const => exact empty_notMem_named _
  | _ => exact named

theorem Tracks.step (loaded : p.Loaded) (tracks : p.Tracks banned marking rules)
    {before after : List Frame} (covered : p.CoversAll banned marking rules entries before)
    (steps : p.Steps banned marking before after) :
    p.CoversAll banned marking rules entries after := by
  cases steps with
  | inside here plain successor =>
      obtain ⟨covers, waits, rest⟩ := covered
      refine ⟨⟨empty_notMem_after covers.named _, fun name member => ?_⟩, waits, rest⟩
      obtain ⟨fact, isFact, flows⟩ := tracks.inside covers.named here plain name member
      exact covers.move isFact (loaded.moves_inside tracks.graph here plain successor flows)
  | skip here skips successor =>
      obtain ⟨covers, waits, rest⟩ := covered
      refine ⟨⟨empty_notMem_named _, fun name member => ?_⟩, waits, rest⟩
      obtain ⟨fact, isFact, flows⟩ := tracks.skip covers.named here skips name member
      exact covers.move isFact (moves_over tracks.graph here successor flows)
  | enter here enters target first =>
      obtain ⟨covers, waits, rest⟩ := covered
      refine ⟨⟨empty_notMem_named _, fun name member => ?_⟩, ?_, covers, waits, rest⟩
      · obtain ⟨fact, isFact, passes, starts⟩ :=
          tracks.enter covers.named here enters target first name member
        obtain ⟨resolved, known, _⟩ := target
        exact covers.move isFact
          (moves_into tracks.graph here passes resolved known first starts)
      · rw [List.forall_mem_cons]
        exact ⟨⟨_, here, enters⟩, waits⟩
  | @back exit s next value call inner marked callers leaves here successor =>
      obtain ⟨covers, waits, coversCaller, rest⟩ := covered
      -- The caller still stands at the call that it entered.
      obtain ⟨entered, found, enters⟩ := waits ⟨s, marked⟩ List.mem_cons_self
      have same : entered = call := by
        have equal := found.symm.trans here
        cases equal
        rfl
      subst same
      refine ⟨⟨empty_notMem_named _, fun name member => ?_⟩, rest⟩
      rcases tracks.back covers.named coversCaller.named leaves here enters name member with
        ⟨fact, isFact, flows⟩ | ⟨fact, isFact, flows⟩
      · exact coversCaller.move isFact (moves_over tracks.graph here successor flows)
      · exact covers.move isFact (loaded.moves_back tracks.graph leaves successor flows)

theorem Tracks.run (loaded : p.Loaded) (tracks : p.Tracks banned marking rules)
    {stack : List Frame} (executes : p.Executes banned marking entries stack) :
    p.CoversAll banned marking rules entries stack := by
  induction executes with
  | @start id m s isEntry known first =>
      obtain ⟨rfl, _⟩ := loaded.method?_eq_some known
      refine ⟨⟨empty_notMem_named _, fun name member => ?_⟩, by simp, trivial⟩
      refine ⟨⟨s, name⟩, ⟨⟨m.id, isEntry, ?_⟩, tracks.start known first name member⟩, .refl⟩
      exact mem_entries_iff.mpr ⟨m, known, first⟩
  | step _ steps inductionHypothesis => exact tracks.step loaded inductionHypothesis steps

/-- What is marked in the latest method of an execution is a fact of every finished run,
and it is a variable. -/
theorem Tracks.mem_facts (loaded : p.Loaded) {config : Config}
    (tracks : p.Tracks config.options.banned marking rules) (hook : rules.OnlyFindings)
    {data : Solution Statement String} (outcome : p.IsOutcome config entries rules data)
    {s : Statement} {marked : Set String} {callers : List Frame}
    (executes : p.Executes config.options.banned marking entries (⟨s, marked⟩ :: callers)) :
    ∀ name ∈ marked, name ≠ "" ∧ ⟨s, name⟩ ∈ data.facts := by
  intro name isMarked
  obtain ⟨covers, _⟩ := tracks.run loaded executes
  obtain ⟨start, isStart, run⟩ := covers.reached name (Set.mem_insert_of_mem "" isMarked)
  exact ⟨ne_of_mem_of_not_mem isMarked covers.named,
    (outcome.mem_facts hook _).mpr ⟨start, isStart, _, run⟩⟩

end Program

end Tabulation
