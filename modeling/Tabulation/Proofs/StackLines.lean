/-
The stacks of crashes in the log.

Code of an actor that crashes leaves a line with its stack to the thread of the actor, which writes it
before it goes on in its loop.  So whatever is said of the failure, to the actor or in the log, comes
after this line.
-/

import Tabulation.Proofs.ThreadSteps

namespace Tabulation.Mailbox

variable {M : Type}

def Failure.stack? : Failure → Option String
  | .failed _ => none
  | .crashed _ stack => some stack

/-- The stack of the code that an actor called last, if it crashed. -/
def Stage.stack? : Stage M → Option String
  | .starting failure => failure.bind Failure.stack?
  | .receiving _ failure => failure.bind Failure.stack?
  | .recovering _ failure => failure.bind Failure.stack?
  | _ => none

/-- The actor of which it is said that it crashed over a message, with the stack. -/
def Event.crash? : Event M → Option (Nat × String)
  | handed id _ failure => failure.stack?.map (id, ·)
  | noted id _ failure _ => failure.stack?.map (id, ·)
  | _ => none

/-- The line with a stack was written, or stands among the tasks of a thread. -/
def System.TellsStack (system : System M) (seen : List (Event M)) (todo : List (Task M)) (id : Nat)
    (stack : String) : Prop :=
  ∃ actor, system.actors[id]? = some actor ∧
    (.wrote .debug (stackLine actor.path stack) ∈ seen ∨
      .act (.write .debug (stackLine actor.path stack)) ∈ todo)

theorem System.TellsStack.mono {before after : System M} {seen more : List (Event M)}
    {todo later : List (Task M)} {id : Nat} {stack : String}
    (tells : before.TellsStack seen todo id stack)
    (keeps : before.Keeps after) (seenLater : seen ⊆ more)
    (remains : ∀ line, .act (.write .debug line) ∈ todo →
      .wrote .debug line ∈ more ∨ .act (.write .debug line) ∈ later) :
    after.TellsStack more later id stack := by
  obtain ⟨old, found, there⟩ := tells
  obtain ⟨actor, foundLater, path, -, -⟩ := keeps id old found
  refine ⟨actor, foundLater, ?_⟩
  rw [path]
  rcases there with written | waits
  · exact .inl (seenLater written)
  · exact remains _ waits

theorem mem_code {chance : Chance M} {path stack : String}
    (crashed : stack ∈ chance.failure.bind Failure.stack?) :
    .act (.write .debug (stackLine path stack)) ∈ tasksOf (chance.code path) := by
  obtain ⟨failure, failed, isStack⟩ := Option.bind_eq_some_iff.mp crashed
  cases failure with
  | failed text => cases isStack
  | crashed text found =>
      obtain rfl := Option.some.inj isStack
      unfold Chance.code
      rw [failed, tasksOf_append]
      exact List.mem_append_right _ (List.mem_singleton_self _)

namespace Shared

variable {shared after : Shared M} {chance : Chance M} {id : Nat} {stack : String}

/-- A thread that begins with code that crashed has the line before it. -/
theorem begun_tellsStack {held : Nat} {task : Task M} {effect : Effect M}
    (done : shared.perform? chance held task = some effect) {thread : Thread M}
    (member : thread ∈ effect.begun) {stage : Stage M} (position : thread.position = .inside id stage)
    (crashed : stack ∈ stage.stack?) (seen : List (Event M)) :
    effect.shared.system.TellsStack seen thread.todo id stack := by
  obtain ⟨other, actor, found, rfl⟩ := mem_begun done member
  unfold threadOf at position ⊢
  split at position
  next =>
    obtain ⟨rfl, rfl⟩ := Position.inside.inj position
    cases crashed
  next =>
    obtain ⟨rfl, rfl⟩ := Position.inside.inj position
    exact ⟨actor, found, .inr (mem_code crashed)⟩

variable [Letter M] {stage later : Stage M} {script : List (Act M)}

/-- A thread in its loop calls no code, code that does not crash, or what the choice says. -/
theorem proceed_stack? (went : shared.proceed? chance id stage = some (after, later, script)) :
    later.stack? = none ∨ (later.stack? = chance.failure.bind Failure.stack? ∧
      script = chance.code (shared.system.pathOf (some id))) := by
  cases stage with
  | starting failure =>
      cases failure <;> obtain ⟨rfl, rfl, rfl⟩ := Prod.mk.inj (Option.some.inj went) <;>
        exact .inl rfl
  | next =>
      simp only [proceed?] at went
      split at went <;> obtain ⟨rfl, rfl, rfl⟩ := Prod.mk.inj (Option.some.inj went) <;>
        exact .inl rfl
  | waiting =>
      simp only [proceed?] at went
      split at went <;> split at went <;> cases went <;> exact .inl rfl
  | taken message =>
      simp only [proceed?] at went
      split at went <;> obtain ⟨rfl, rfl, rfl⟩ := Prod.mk.inj (Option.some.inj went)
      · exact .inl rfl
      · exact .inr ⟨rfl, rfl⟩
  | receiving message failure =>
      cases failure with
      | none =>
          obtain ⟨rfl, rfl, rfl⟩ := Prod.mk.inj (Option.some.inj went)
          exact .inl rfl
      | some failure =>
          simp only [proceed?] at went
          split at went <;> obtain ⟨rfl, rfl, rfl⟩ := Prod.mk.inj (Option.some.inj went)
          · exact .inr ⟨rfl, rfl⟩
          · exact .inl rfl
  | recovering message failure =>
      cases failure <;> obtain ⟨rfl, rfl, rfl⟩ := Prod.mk.inj (Option.some.inj went) <;>
        exact .inl rfl
  | finishing message =>
      obtain ⟨rfl, rfl, rfl⟩ := Prod.mk.inj (Option.some.inj went)
      exact .inl rfl
  | between =>
      simp only [proceed?] at went
      split at went <;> obtain ⟨rfl, rfl, rfl⟩ := Prod.mk.inj (Option.some.inj went) <;>
        exact .inl rfl
  | ended => cases went

/-- Who calls code that crashes has the line before it. -/
theorem proceed_tellsStack (went : shared.proceed? chance id stage = some (after, later, script))
    (keeps : shared.system.Keeps after.system) (isActor : id < shared.system.actors.size)
    (crashed : stack ∈ later.stack?) (seen : List (Event M)) :
    after.system.TellsStack seen (tasksOf script) id stack := by
  have found : shared.system.actors[id]? = some shared.system.actors[id] :=
    Array.getElem?_eq_getElem isActor
  have path : shared.system.pathOf (some id) = shared.system.actors[id].path :=
    congrArg (Option.elim · "" Actor.path) found
  rcases proceed_stack? went with silent | ⟨same, rfl⟩
  · rw [silent] at crashed
    cases crashed
  · obtain ⟨actor, foundLater, samePath, -, -⟩ := keeps id _ found
    rw [path, ← samePath]
    exact ⟨actor, foundLater, .inr (mem_code (same ▸ crashed))⟩

end Shared

/-- What is said of a crash is said at the end of the code that crashed. -/
theorem Stage.crash_of_mem_events {system : System M} {id other : Nat} {stage later : Stage M}
    {event : Event M} {stack : String} (member : event ∈ stage.events system id later)
    (said : event.crash? = some (other, stack)) : other = id ∧ stack ∈ stage.stack? := by
  have of_map : ∀ failure : Failure, failure.stack?.map (id, ·) = some (other, stack) →
      other = id ∧ stack ∈ (some failure).bind Failure.stack? := by
    intro failure isCrash
    obtain ⟨found, isStack, same⟩ := Option.map_eq_some_iff.mp isCrash
    obtain ⟨rfl, rfl⟩ := Prod.mk.inj same
    exact ⟨rfl, isStack⟩
  unfold Stage.events at member
  split at member
  all_goals first
    | exact absurd member List.not_mem_nil
    | obtain rfl := List.mem_singleton.mp member
  all_goals first
    | cases said
    | exact of_map _ said

namespace Concurrent

variable {state after : Concurrent M} {seen : List (Event M)}

/-- Each thread whose code crashed wrote the line or is about to, and what is said of a crash comes
after its line. -/
structure TellsStacks (state : Concurrent M) (seen : List (Event M)) : Prop where
  due : ∀ thread ∈ state.threads, ∀ id stage, thread.position = .inside id stage →
    ∀ stack ∈ stage.stack?, state.shared.system.TellsStack seen thread.todo id stack
  said : ∀ front event back, seen = front ++ event :: back → ∀ id stack,
    event.crash? = some (id, stack) → state.shared.system.TellsStack front [] id stack

theorem tellsStacks_start (name : String) (role : Role M) (log : Log) :
    (start name role log).TellsStacks [] where
  due := List.forall_mem_nil _
  said := fun front _ _ same =>
    absurd same.symm (List.append_ne_nil_of_right_ne_nil front (List.cons_ne_nil _ _))

/-- What was said before stays said, and what is said now has its line before it. -/
theorem TellsStacks.said_append {more : List (Event M)} (tells : state.TellsStacks seen)
    (keeps : state.shared.system.Keeps after.shared.system)
    (now : ∀ event ∈ more, ∀ id stack, event.crash? = some (id, stack) →
      state.shared.system.TellsStack seen [] id stack) :
    ∀ front event back, seen ++ more = front ++ event :: back → ∀ id stack,
      event.crash? = some (id, stack) → after.shared.system.TellsStack front [] id stack := by
  intro front event back same id stack said
  rcases List.append_eq_append_iff.mp same with ⟨between, rfl, rest⟩ | ⟨between, rfl, rest⟩
  · have member : event ∈ more := rest ▸ List.mem_append_right _ List.mem_cons_self
    exact (now event member id stack said).mono keeps (List.subset_append_left _ _) fun _ => .inr
  · cases between with
    | nil =>
        obtain rfl : event :: back = more := rest
        have member : event ∈ event :: back := List.mem_cons_self
        rw [List.append_nil] at now
        exact (now event member id stack said).mono keeps (List.Subset.refl _) fun _ => .inr
    | cons first others =>
        obtain ⟨rfl, -⟩ := List.cons.inj rest
        exact (tells.said front event others rfl id stack said).mono keeps (List.Subset.refl _)
          fun _ => .inr

variable [Letter M]

theorem TellsStacks.step {choice : Choice M} (manned : state.IsManned) (tells : state.TellsStacks seen)
    (stepped : state.step? choice = some after) : after.TellsStacks (seen ++ state.events choice) := by
  rcases step_events stepped with ⟨program, nothing, rfl⟩ |
    ⟨chance, front, position, task, rest, held, back, effect, threads, done, events, rfl⟩ |
    ⟨chance, front, actor, stage, held, back, shared, later, script, threads, went, events, rfl⟩
  · rw [nothing, List.append_nil]
    refine ⟨fun thread member id stage position => ?_, tells.said⟩
    rcases List.mem_append.mp member with old | new
    · exact tells.due thread old id stage position
    · obtain rfl := List.mem_singleton.mp new
      cases position
  · obtain ⟨before, all⟩ := state
    obtain rfl : all = _ := threads
    rw [events]
    have keeps := (Shared.perform_yields done).keeps
    refine ⟨?_, tells.said_append keeps fun event member id stack said => ?_⟩
    · intro thread member id stage isInside stack crashed
      rcases List.mem_append.mp member with going | begun
      · rcases mem_apart.mp going with rfl | other
        · have due := tells.due _ (mem_apart.mpr (.inl rfl)) id stage isInside stack crashed
          refine due.mono keeps (List.subset_append_left _ _) fun line waits => ?_
          rcases List.mem_cons.mp waits with rfl | later
          · exact .inl (List.mem_append_right _ (List.mem_singleton_self _))
          · exact .inr (List.mem_append_right _ later)
        · have due := tells.due _ (mem_apart.mpr (.inr other)) id stage isInside stack crashed
          exact due.mono keeps (List.subset_append_left _ _) fun _ => .inr
      · exact Shared.begun_tellsStack done begun isInside crashed _
    · rcases Task.mem_events member with ⟨_, _, rfl⟩ | ⟨_, rfl⟩ | ⟨_, _, rfl⟩ <;> cases said
  · obtain ⟨before, all⟩ := state
    obtain rfl : all = _ := threads
    rw [events]
    have keeps := (Shared.proceed_yields went).keeps
    have isActor := (manned.not_mem (List.mem_append_left _ (Option.mem_toList.mpr rfl))).1
    refine ⟨?_, tells.said_append keeps fun event member id stack said => ?_⟩
    · intro thread member id stage isInside stack crashed
      rcases mem_apart.mp member with rfl | other
      · obtain ⟨rfl, rfl⟩ := Position.inside.inj isInside
        exact Shared.proceed_tellsStack went keeps isActor crashed _
      · have due := tells.due _ (mem_apart.mpr (.inr other)) id stage isInside stack crashed
        exact due.mono keeps (List.subset_append_left _ _) fun _ => .inr
    · obtain ⟨rfl, crashed⟩ := Stage.crash_of_mem_events member said
      exact tells.due _ (mem_apart.mpr (.inl rfl)) _ stage rfl stack crashed

theorem tellsStacks_run {choices : List (Choice M)} (manned : state.IsManned)
    (tells : state.TellsStacks seen) (ran : state.run? choices = some after) :
    after.TellsStacks (seen ++ state.timeline choices) := by
  unfold run? at ran
  induction choices generalizing state seen with
  | nil =>
      obtain rfl : state = after := Option.some.inj ran
      rw [timeline, List.append_nil]
      exact tells
  | cons choice rest inductionHypothesis =>
      rw [List.foldlM_cons] at ran
      obtain ⟨next, stepped, further⟩ := Option.bind_eq_some_iff.mp ran
      rw [timeline, stepped, ← List.append_assoc]
      exact inductionHypothesis (manned.step stepped) (tells.step manned stepped) further

/-- Whatever is said of a crash comes after the line with its stack. -/
theorem stack_before_crash {name : String} {role : Role M} {log : Log} {choices : List (Choice M)}
    (ran : (start name role log).run? choices = some state) {front back : List (Event M)}
    {event : Event M} (split : (start name role log).timeline choices = front ++ event :: back)
    {id : Nat} {stack : String} (said : event.crash? = some (id, stack)) :
    ∃ actor, state.shared.system.actors[id]? = some actor ∧
      .wrote .debug (stackLine actor.path stack) ∈ front := by
  have tells := tellsStacks_run (isManned_start name role log) (tellsStacks_start name role log) ran
  obtain ⟨actor, found, there⟩ := tells.said front event back split id stack said
  exact ⟨actor, found, there.resolve_right List.not_mem_nil⟩

end Concurrent

end Tabulation.Mailbox
