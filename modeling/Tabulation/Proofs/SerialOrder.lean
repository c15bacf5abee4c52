/-
A system that handles one message after the other takes one of the orders of the steps.

The running system lets an actor take a message and do all that follows, or somebody from outside
does something.  The thread of the actor, or one from outside, does the same while the others rest.
So what holds in every order of steps holds of the running system: it looks idle only if it has
nothing to do.
-/

import Tabulation.Proofs.ThreadCode

namespace Tabulation.Mailbox

variable {M : Type} [Letter M]

/-! ### Handling a message -/

section Handling

variable {shared : Shared M} {id : Nat} {actor : Actor M}

/-- The end of what an actor does after a failure. -/
theorem goes_recovered (shared : Shared M) (id : Nat) (message : M) (again : Option Failure) :
    ∃ next : Shared M,
      Thread.Goes ⟨.inside id (.recovering message again), [], 0⟩ shared next
        ⟨.inside id (.finishing message), [], 0⟩ [] ∧
      next.system =
        match again with
        | some again => shared.system.note id .error ("exception handler failed: " ++ again.message)
        | none => shared.system := by
  cases again with
  | none =>
      have ends : shared.proceed? {} id (.recovering message none) =
          some (shared, .finishing message, []) := rfl
      exact ⟨shared, Thread.goes_loop ends, rfl⟩
  | some again =>
      have ends : shared.proceed? {} id (.recovering message (some again)) =
          some (shared.on (·.note id .error ("exception handler failed: " ++ again.message)),
            .finishing message, []) := rfl
      exact ⟨_, Thread.goes_loop ends, rfl⟩

/-- After a failure the actor does what it has for this, or the failure is noted. -/
theorem goes_fail (found : shared.system.actors[id]? = some actor) (message : M)
    (failure : Failure) :
    ∃ (next : Shared M) (begun : List (Thread M)),
      Thread.Goes ⟨.inside id (.receiving message (some failure)), [], 0⟩ shared next
        ⟨.inside id (.finishing message), [], 0⟩ begun ∧
      Grows shared.system next.system begun ∧
      next.system = shared.system.fail id actor.role message failure := by
  let entered : Shared M := shared.enter (.failed id message failure)
  unfold System.fail
  cases isRecover : actor.role.recover with
  | none =>
      let noted : Shared M := entered.on (·.note id .warn
        ("exception while handling " ++ Letter.typeName message ++ ": " ++ failure.message))
      have went : shared.proceed? {} id (.receiving message (some failure)) =
          some (noted, .finishing message, []) := by
        unfold Shared.proceed?
        dsimp only [Shared.enter]
        rw [found, Option.bind_some, isRecover]
        rfl
      exact ⟨noted, [], Thread.goes_loop went, .of_actors rfl, rfl⟩
  | some recover =>
      let reaction := recover message failure
      obtain ⟨script, performs⟩ := byCode_performAll entered.system id reaction.deeds
      let chance : Chance M := { script, failure := reaction.failure }
      let path := shared.system.pathOf (some id)
      have does := does_code chance performs path
      have went : shared.proceed? chance id (.receiving message (some failure)) =
            some (entered, .recovering message reaction.failure, chance.code path) := by
        unfold Shared.proceed?
        dsimp only [Shared.enter]
        rw [found, Option.bind_some, isRecover]
        rfl
      obtain ⟨next, begun, same, grows, goes⟩ :=
        does entered (.inside id (.recovering message reaction.failure)) [] 0 rfl
      rw [List.append_nil] at goes
      obtain ⟨final, recovers, sameFinal⟩ := goes_recovered next id message reaction.failure
      have sameActors : final.system.actors = next.system.actors := by
        rw [sameFinal]
        split <;> rfl
      refine ⟨final, _, ((Thread.goes_loop went).trans goes).trans recovers, ?_, ?_⟩
      · exact (same ▸ grows).trans (.of_actors sameActors)
      · rw [sameFinal, same]
        rfl

/-- The thread of an actor that took a message goes on until the actor can take the next or waits. -/
def CanHandle (shared : Shared M) (id : Nat) (message : M) (after : System M) : Prop :=
  ∃ (next : Shared M) (later : Thread M) (begun : List (Thread M)) (middle : System M),
    Thread.Goes ⟨.inside id (.taken message), [], 0⟩ shared next later begun ∧
    Grows shared.system middle begun ∧ next.system = after ∧
    ((after.actors = middle.actors ∧
        (middle.isStopped (some id) = false → later = readyAt id)) ∨
      (after.actors = middle.actors.modify id (fun actor => { actor with isWaiting := true }) ∧
        later = pausedAt id message))

/-- At the end of a message an actor that is not stopped can take the next. -/
theorem goes_finish (shared : Shared M) (id : Nat) (message : M) :
    ∃ (next : Shared M) (later : Thread M),
      Thread.Goes ⟨.inside id (.finishing message), [], 0⟩ shared next later [] ∧
      next.system = shared.system.done ∧
      (shared.system.isStopped (some id) = false → later = readyAt id) := by
  let finished : Shared M := (shared.on .done).enter (.finished id message)
  have ends : shared.proceed? {} id (.finishing message) = some (finished, .between, []) := rfl
  cases live : shared.system.isStopped (some id) with
  | true => exact ⟨finished, _, Thread.goes_loop ends, rfl, nofun⟩
  | false =>
      have goesOn : finished.proceed? {} id .between = some (finished, .next, []) :=
        if_neg (Bool.eq_false_iff.mp live)
      exact ⟨finished, _, (Thread.goes_loop ends).trans (Thread.goes_loop goesOn), rfl, fun _ => rfl⟩

theorem canHandle_of_finishing {message : M} {done : Shared M} {begun : List (Thread M)}
    (goes : Thread.Goes ⟨.inside id (.taken message), [], 0⟩ shared done
      ⟨.inside id (.finishing message), [], 0⟩ begun)
    (grows : Grows shared.system done.system begun) :
    CanHandle shared id message done.system.done := by
  obtain ⟨next, later, finishes, same, ready⟩ := goes_finish done id message
  exact ⟨next, later, _, done.system, goes.trans finishes, grows.trans (.of_actors rfl), same,
    .inl ⟨rfl, ready⟩⟩

/-- The code of an actor for a message, up to where some acts are left. -/
theorem goes_receive {chance : Chance M} {front rest : List (Act M)} {after : System M} (message : M)
    (does : Does (tasksOf front) shared.system after)
    (code : chance.code (shared.system.pathOf (some id)) = front ++ rest)
    (passes : (shared.system.isHalted && !Letter.isControl message) = false) :
    ∃ (next : Shared M) (begun : List (Thread M)),
      Thread.Goes ⟨.inside id (.taken message), [], 0⟩ shared next
        ⟨.inside id (.receiving message chance.failure), tasksOf rest, 0⟩ begun ∧
      Grows shared.system next.system begun ∧ next.system = after := by
  let passed : Shared M := shared.enter (.passed id message)
  have went : shared.proceed? chance id (.taken message) =
      some (passed, .receiving message chance.failure, front ++ rest) :=
    code ▸ if_neg (Bool.eq_false_iff.mp passes)
  obtain ⟨next, begun, same, grows, goes⟩ :=
    does passed (.inside id (.receiving message chance.failure)) (tasksOf rest) 0 rfl
  rw [← tasksOf_append] at goes
  exact ⟨next, [] ++ begun, (Thread.goes_loop went).trans goes, same ▸ grows, same⟩

theorem canHandle (found : shared.system.actors[id]? = some actor) (message : M) :
    CanHandle shared id message (shared.system.handle id message) := by
  unfold System.handle
  simp only [found]
  cases passes : shared.system.isHalted && !Letter.isControl message with
  | true =>
      let dropped : Shared M := shared.enter (.dropped id message)
      have went : shared.proceed? {} id (.taken message) =
          some (dropped, .finishing message, []) := if_pos passes
      have same : Grows shared.system dropped.system [] := .of_actors rfl
      have handled := canHandle_of_finishing (Thread.goes_loop went) same
      exact handled
  | false =>
      let reaction := actor.role.receive message
      have path : shared.system.pathOf (some id) = actor.path :=
        congrArg (Option.elim · "" Actor.path) found
      obtain ⟨script, performs⟩ := byCode_performAll shared.system id reaction.deeds
      rw [if_neg Bool.false_ne_true]
      cases waits : reaction.waits with
      | true =>
          let chance : Chance M := { script := script ++ [.pause id true, .pause id false] }
          have code : chance.code (shared.system.pathOf (some id)) = script ++ _ := rfl
          obtain ⟨next, begun, goes, grows, same⟩ := goes_receive message performs code passes
          let paused : Shared M := next.on (·.update id fun actor => { actor with isWaiting := true })
          have pauses : next.perform? {} 0 (.act (.pause id true)) =
              some { shared := paused, held := 0 } := rfl
          rw [if_pos rfl, ← same]
          exact ⟨paused, _, _, next.system, goes.trans (Thread.goes_task pauses _),
            grows.trans (.of_actors rfl), rfl, .inr ⟨rfl, rfl⟩⟩
      | false =>
          rw [if_neg Bool.false_ne_true]
          let chance : Chance M := { script, failure := reaction.failure }
          have does := does_code chance performs actor.path
          have code : chance.code (shared.system.pathOf (some id)) = chance.code actor.path ++ [] := by
            rw [path, List.append_nil]
          obtain ⟨next, begun, goes, grows, same⟩ := goes_receive message does code passes
          change Thread.Goes _ _ _ ⟨.inside id (.receiving message reaction.failure), [], 0⟩ _ at goes
          rw [← same]
          cases isFailure : reaction.failure with
          | none =>
              rw [isFailure] at goes
              have ends : next.proceed? {} id (.receiving message none) =
                  some (next, .finishing message, []) := rfl
              exact canHandle_of_finishing (goes.trans (Thread.goes_loop ends))
                (grows.trans (.of_actors rfl))
          | some failure =>
              rw [isFailure] at goes
              obtain ⟨old, foundOld, sameRole, -⟩ := grows.stays id actor found
              obtain ⟨failed, more, fails, growsOn, sameFailed⟩ := goes_fail foundOld message failure
              dsimp only
              rw [← sameRole, ← sameFailed]
              exact canHandle_of_finishing (goes.trans fails) (grows.trans growsOn)

end Handling

/-! ### Following the running system -/

/-- The thread stands ready for an actor, or it waits in the code of the actor. -/
def Thread.Serves (thread : Thread M) (id : Nat) : Prop :=
  thread = readyAt id ∨ ∃ message, thread = pausedAt id message

/-- A thread that holds one piece of work and only has to take it away. -/
def Thread.isHolding (thread : Thread M) : Bool :=
  match thread.held, thread.todo with
  | 1, [.act .release] => true
  | _, _ => false

/-- An actor that can take a message has a thread that takes it, and one that waits has one that
goes on. -/
structure Served (threads : List (Thread M)) (id : Nat) (actor : Actor M) : Prop where
  ready : actor.isWaiting = false → actor.isStopped = false → readyAt id ∈ threads
  paused : actor.isWaiting = true → ∃ message, pausedAt id message ∈ threads

omit [Letter M] in
theorem Served.mono {threads more : List (Thread M)} {id : Nat} {old actor : Actor M}
    (served : Served threads id old) (wait : actor.isWaiting = old.isWaiting)
    (stops : old.isStopped = true → actor.isStopped = true)
    (keeps : ∀ thread ∈ threads, thread.Serves id → thread ∈ more) : Served more id actor where
  ready := by
    intro noWait live
    have oldLive : old.isStopped = false :=
      Bool.eq_false_iff.mpr fun stopped => nomatch (stops stopped).symm.trans live
    exact keeps _ (served.ready (wait.symm.trans noWait) oldLive) (.inl rfl)
  paused := by
    intro waits
    obtain ⟨message, member⟩ := served.paused (wait.symm.trans waits)
    exact ⟨message, keeps _ member (.inr ⟨message, rfl⟩)⟩

omit [Letter M] in
theorem Thread.eq_of_isHolding {thread : Thread M} (holds : thread.isHolding = true) :
    thread = ⟨thread.position, [.act .release], 1⟩ := by
  obtain ⟨position, todo, held⟩ := thread
  unfold isHolding at holds
  split at holds
  next one only =>
    obtain rfl : held = 1 := one
    obtain rfl : todo = [.act .release] := only
    rfl
  next => exact nomatch holds

private theorem mem_set_of_ne {α : Type} {items : List α} {number : Nat} {old new other : α}
    (here : items[number]? = some old) (member : other ∈ items) (different : other ≠ old) :
    other ∈ items.set number new := by
  obtain ⟨index, found⟩ := List.mem_iff_getElem?.mp member
  have apart : number ≠ index := by
    rintro rfl
    exact different (Option.some.inj (found.symm.trans here))
  refine List.mem_iff_getElem?.mpr ⟨index, ?_⟩
  rw [List.getElem?_set_ne apart, found]

private theorem countP_set_append {α : Type} {items : List α} {number : Nat} {old : α}
    (test : α → Bool) (here : items[number]? = some old) (new : α) (begun : List α) :
    items.countP test + (if test new then 1 else 0) ≤
      (items.set number new ++ begun).countP test + if test old then 1 else 0 := by
  obtain ⟨inside, rfl⟩ := List.getElem?_eq_some_iff.mp here
  have split : items = items.take number ++ items[number] :: items.drop (number + 1) := by
    rw [List.getElem_cons_drop, List.take_append_drop]
  have whole := congrArg (List.countP test) split
  rw [List.countP_append, List.countP_cons] at whole
  rw [List.set_eq_take_append_cons_drop, if_pos inside, List.countP_append, List.countP_append,
    List.countP_cons, whole]
  omega

namespace Concurrent

/-- The threads stand where the running system has come to, some with a piece of work from outside. -/
structure Follows (state : Concurrent M) (held : Nat) (system : System M) : Prop where
  same : state.shared.system = system
  holds : held ≤ state.threads.countP Thread.isHolding
  served : ∀ (id : Nat) (actor : Actor M), system.actors[id]? = some actor →
    Served state.threads id actor

variable {state : Concurrent M} {held : Nat} {system : System M}

/-- One thread goes on; what it does to the actor that it serves is shown apart. -/
theorem Follows.advance {number more : Nat} {thread later : Thread M} {begun : List (Thread M)}
    {next : Shared M} {middle : System M} (own : Nat → Prop)
    (follows : state.Follows held system) (here : state.threads[number]? = some thread)
    (goes : thread.Goes state.shared next later begun) (apart : ∀ id, thread.Serves id → own id)
    (grows : Grows system middle begun)
    (others : ∀ id, ¬own id → next.system.actors[id]? = middle.actors[id]?)
    (owned : ∀ id actor, own id → next.system.actors[id]? = some actor → Served [later] id actor)
    (count : more + (if thread.isHolding then 1 else 0) ≤ held + if later.isHolding then 1 else 0) :
    ∃ after : Concurrent M, state.Leads after ∧ after.Follows more next.system := by
  obtain ⟨inside, -⟩ := List.getElem?_eq_some_iff.mp here
  refine ⟨⟨next, state.threads.set number later ++ begun⟩, goes _ _ here, rfl, ?_, ?_⟩
  · have changed := countP_set_append Thread.isHolding here later begun
    have before := follows.holds
    dsimp only
    omega
  · intro id actor found
    by_cases isOwn : own id
    · refine (owned id actor isOwn found).mono rfl (fun stopped => stopped) fun other member _ => ?_
      obtain rfl := List.mem_singleton.mp member
      exact List.mem_append_left _ (List.mem_set inside _)
    · rw [others id isOwn] at found
      cases old : system.actors[id]? with
      | none =>
          obtain ⟨noWait, ready⟩ := grows.begins id actor found old
          exact ⟨fun _ live => List.mem_append_right _ (ready live),
            fun waits => nomatch noWait.symm.trans waits⟩
      | some before =>
          obtain ⟨same, foundSame, -, wait, stops⟩ := grows.stays id before old
          obtain rfl := Option.some.inj (foundSame.symm.trans found)
          refine (follows.served id before old).mono wait stops fun other member serves => ?_
          refine List.mem_append_left _ (mem_set_of_ne here member fun isThread => ?_)
          exact isOwn (apart id (isThread ▸ serves))

/-- Somebody comes from outside. -/
theorem Follows.enter (follows : state.Follows held system) (program : List (Act M)) :
    ∃ after : Concurrent M, state.Leads after ∧ after.Follows held system ∧
      after.threads[state.threads.length]? = some ⟨.outside program, tasksOf program, 0⟩ := by
  have entered : state.step? (.enter program) = some _ := rfl
  refine ⟨_, leads_of_step entered, ⟨follows.same, ?_, ?_⟩, ?_⟩
  · have before := follows.holds
    dsimp only
    rw [List.countP_append]
    omega
  · intro id actor found
    exact (follows.served id actor found).mono rfl (fun stopped => stopped)
      fun other member _ => List.mem_append_left _ member
  · exact List.getElem?_concat_length

omit [Letter M] in
/-- A thread from outside serves no actor. -/
theorem not_serves_outside {program : List (Act M)} {todo : List (Task M)} {id : Nat} :
    ¬Thread.Serves ⟨.outside program, todo, held⟩ id := by
  rintro (ready | ⟨message, paused⟩)
  · exact nomatch ready
  · exact nomatch paused

theorem Follows.byCode {after : System M} (follows : state.Follows held system)
    (code : ByCode system after) :
    ∃ next : Concurrent M, state.Leads next ∧ next.Follows held after := by
  obtain ⟨script, does⟩ := code
  obtain ⟨entered, enters, followsOn, here⟩ := follows.enter script
  obtain ⟨next, begun, rfl, grows, goes⟩ := does entered.shared (.outside script) [] 0 followsOn.same
  rw [List.append_nil] at goes
  obtain ⟨final, further, followsFinal⟩ := followsOn.advance (fun _ => False) here goes
    (fun id serves => not_serves_outside serves) grows (fun _ _ => rfl) (fun _ _ => False.elim)
    (Nat.le_refl _)
  exact ⟨final, enters.trans further, followsFinal⟩

theorem Follows.hold (follows : state.Follows held system) :
    ∃ next : Concurrent M, state.Leads next ∧ next.Follows (held + 1) system.hold := by
  obtain ⟨entered, enters, followsOn, here⟩ := follows.enter [.hold, .release]
  have holds : entered.shared.perform? {} 0 (.act .hold) =
      some { shared := entered.shared.on .hold, held := 1 } := rfl
  obtain ⟨final, further, followsFinal⟩ := followsOn.advance (fun _ => False) here
    (Thread.goes_task holds _) (fun id serves => not_serves_outside serves) (.of_actors rfl)
    (fun _ _ => congrArg (·.actors[_]?) followsOn.same) (fun _ _ => False.elim) (Nat.le_refl _)
  refine ⟨final, enters.trans further, ?_⟩
  rw [← followsOn.same]
  exact followsFinal

theorem Follows.release (follows : state.Follows (held + 1) system) :
    ∃ next : Concurrent M, state.Leads next ∧ next.Follows held system.release := by
  obtain ⟨thread, member, isHolding⟩ :=
    List.countP_pos_iff.mp (Nat.lt_of_lt_of_le held.succ_pos follows.holds)
  obtain ⟨number, here⟩ := List.mem_iff_getElem?.mp member
  rw [Thread.eq_of_isHolding isHolding] at here
  have releases : state.shared.perform? {} 1 (.act .release) =
      some { shared := state.shared.on .release, held := 0 } := rfl
  have apart : ∀ id, ¬Thread.Serves ⟨thread.position, [.act .release], 1⟩ id := by
    rintro id (ready | ⟨message, paused⟩)
    · exact Nat.one_ne_zero (congrArg Thread.held ready)
    · exact Nat.one_ne_zero (congrArg Thread.held paused)
  obtain ⟨final, further, followsFinal⟩ := follows.advance (fun _ => False) here
    (Thread.goes_task releases _) apart (.of_actors rfl)
    (fun _ _ => congrArg (·.actors[_]?) follows.same) (fun _ _ => False.elim) (Nat.le_refl _)
  refine ⟨final, further, ?_⟩
  rw [← follows.same]
  exact followsFinal

omit [Letter M] in
theorem exists_of_isReady {id : Nat} (ready : system.isReady id = true) :
    ∃ actor, system.actors[id]? = some actor ∧ actor.isStopped = false ∧ actor.isWaiting = false := by
  unfold System.isReady at ready
  cases found : system.actors[id]? with
  | none =>
      rw [found] at ready
      exact nomatch ready
  | some actor =>
      rw [found, Option.any_some, Bool.and_eq_true, Bool.not_eq_true', Bool.not_eq_true'] at ready
      exact ⟨actor, rfl, ready⟩

omit [Letter M] in
theorem eq_of_serves {id other : Nat} {stage : Stage M} {todo : List (Task M)}
    (serves : Thread.Serves ⟨.inside id stage, todo, held⟩ other) : other = id := by
  rcases serves with ready | ⟨message, paused⟩
  · exact (Position.inside.inj (congrArg Thread.position ready)).1.symm
  · exact (Position.inside.inj (congrArg Thread.position paused)).1.symm

/-- The actor takes its oldest message. -/
theorem Follows.deliver {id : Nat} {after : System M} (follows : state.Follows held system)
    (delivered : system.deliver? id = some after) :
    ∃ next : Concurrent M, state.Leads next ∧ next.Follows held after := by
  obtain rfl := follows.same
  unfold System.deliver? at delivered
  split at delivered
  next ready =>
    obtain ⟨⟨message, rest⟩, taken, rfl⟩ := Option.map_eq_some_iff.mp delivered
    obtain ⟨actor, found, live, noWait⟩ := exists_of_isReady ready
    obtain ⟨number, here⟩ :=
      List.mem_iff_getElem?.mp ((follows.served id actor found).ready noWait live)
    let took : Shared M := state.shared.on ({ · with pending := rest })
    have takes : state.shared.proceed? {} id .next = some (took, .taken message, []) := by
      unfold Shared.proceed?
      dsimp only
      rw [taken]
    have foundTook : took.system.actors[id]? = some actor := found
    obtain ⟨next, later, begun, middle, goes, grows, same, what⟩ := canHandle foundTook message
    obtain ⟨between, foundBetween, -, sameWait, -⟩ := grows.stays id actor foundTook
    have sameTook : Grows state.shared.system took.system [] := .of_actors rfl
    dsimp only
    change ∃ final : Concurrent M, state.Leads final ∧
      final.Follows held (took.system.handle id message)
    rw [← same] at what ⊢
    refine follows.advance (· = id) here ((Thread.goes_loop takes).trans goes)
      (fun other serves => eq_of_serves serves) (sameTook.trans grows) (fun other notOwn => ?_)
      (fun other actor' isOwn found' => ?_) (Nat.le_add_right held _)
    · rcases what with ⟨sameActors, -⟩ | ⟨waits, -⟩
      · rw [sameActors]
      · rw [waits, Array.getElem?_modify, if_neg (Ne.symm notOwn)]
    · obtain rfl := isOwn
      rcases what with ⟨sameActors, isReady⟩ | ⟨waits, rfl⟩
      · rw [sameActors, foundBetween] at found'
        obtain rfl := Option.some.inj found'
        refine ⟨fun _ stillLive => ?_, fun isWaiting => ?_⟩
        · have notStopped : middle.isStopped (some other) = false := by
            unfold System.isStopped
            dsimp only
            rw [foundBetween]
            exact stillLive
          rw [isReady notStopped]
          exact List.mem_singleton_self _
        · exact nomatch isWaiting.symm.trans (sameWait.trans noWait)
      · rw [waits, Array.getElem?_modify, if_pos rfl, foundBetween] at found'
        obtain rfl := Option.some.inj found'
        exact ⟨nofun, fun _ => ⟨message, List.mem_singleton_self _⟩⟩
  next => exact nomatch delivered

/-- An actor that waits goes on to the end of its message. -/
theorem Follows.goOn {id : Nat} {actor : Actor M} (follows : state.Follows held system)
    (found : system.actors[id]? = some actor) (waits : actor.isWaiting = true) :
    ∃ next : Concurrent M, state.Leads next ∧
      next.Follows held (system.update id fun actor => { actor with isWaiting := false }).done := by
  obtain rfl := follows.same
  obtain ⟨message, member⟩ := (follows.served id actor found).paused waits
  obtain ⟨number, here⟩ := List.mem_iff_getElem?.mp member
  let awake : Shared M :=
    state.shared.on (·.update id fun actor => { actor with isWaiting := false })
  have wakes : state.shared.perform? {} 0 (.act (.pause id false)) =
      some { shared := awake, held := 0 } := rfl
  have ends : awake.proceed? {} id (.receiving message none) =
      some (awake, .finishing message, []) := rfl
  obtain ⟨next, later, finishes, same, ready⟩ := goes_finish awake id message
  have foundAwake : awake.system.actors[id]? = some { actor with isWaiting := false } := by
    change (state.shared.system.actors.modify id _)[id]? = _
    rw [Array.getElem?_modify, if_pos rfl, found]
    rfl
  change ∃ final : Concurrent M, state.Leads final ∧ final.Follows held awake.system.done
  rw [← same]
  refine follows.advance (· = id) here
    (((Thread.goes_task wakes []).trans (Thread.goes_loop ends)).trans finishes)
    (fun other serves => eq_of_serves serves) (.of_actors rfl) (fun other notOwn => ?_)
    (fun other actor' isOwn found' => ?_) (Nat.le_add_right held _)
  · rw [same]
    change (state.shared.system.actors.modify id _)[other]? = _
    rw [Array.getElem?_modify, if_neg (Ne.symm notOwn)]
  · obtain rfl := isOwn
    rw [same] at found'
    obtain rfl := Option.some.inj (foundAwake.symm.trans found')
    refine ⟨fun _ live => ?_, nofun⟩
    have notStopped : awake.system.isStopped (some other) = false := by
      unfold System.isStopped
      dsimp only
      rw [foundAwake]
      exact live
    rw [ready notStopped]
    exact List.mem_singleton_self _

theorem Follows.openBarrier (follows : state.Follows held system) :
    ∃ next : Concurrent M, state.Leads next ∧ next.Follows held system.openBarrier := by
  unfold System.openBarrier
  refine List.foldlRecOn
    (motive := fun partly => ∃ next : Concurrent M, state.Leads next ∧ next.Follows held partly)
    _ _ ⟨state, .refl state, follows⟩ fun partly reached id _ => ?_
  obtain ⟨between, leads, followsState⟩ := reached
  split
  next isWaiting =>
    cases found : partly.actors[id]? with
    | none =>
        rw [found] at isWaiting
        exact nomatch isWaiting
    | some actor =>
        rw [found] at isWaiting
        obtain ⟨final, further, followsFinal⟩ := followsState.goOn found isWaiting
        exact ⟨final, leads.trans further, followsFinal⟩
  next => exact ⟨between, leads, followsState⟩

end Concurrent

/-! ### The running system -/

/-- One thing that the running system does. -/
inductive System.Moves (system : System M) : System M → Prop
  | send (address : String) (message : M) : Moves system (system.send address message)
  | post (id : Nat) (message : M) : Moves system (system.post id message)
  | spawn (parent : Option Nat) (name : String) (role : Role M) :
      Moves system (system.spawn parent name role).2
  | addPool (parent : Option Nat) (name : String) (strategy : PoolStrategy) (size : Nat) :
      Moves system (system.addPool parent name strategy size).2.2
  | addKeyed (parent : Option Nat) (address : String) (nameOf : String → String) :
      Moves system (system.addKeyed parent address nameOf).2
  | childAt (address key : String) : Moves system (system.childAt address key).2
  | deliver {id : Nat} {after : System M} (delivered : system.deliver? id = some after) :
      Moves system after
  | openBarrier : Moves system system.openBarrier
  | takeQuiet : Moves system system.takeQuiet.2
  | halt : Moves system { system with isHalted := true }
  | resume : Moves system { system with isHalted := false }
  | stop (id : Nat) : Moves system (system.stop id)
  | close : Moves system system.close

/-- What the running system comes to, with the number of pieces of work that were added from outside
and not taken away. -/
inductive System.Serial (name : String) (role : Role M) (log : Log) : Nat → System M → Prop
  | start : Serial name role log 0 { name, role, log }
  | move {held : Nat} {system after : System M} (serial : Serial name role log held system)
      (moves : system.Moves after) : Serial name role log held after
  | hold {held : Nat} {system : System M} (serial : Serial name role log held system) :
      Serial name role log (held + 1) system.hold
  | release {held : Nat} {system : System M} (serial : Serial name role log (held + 1) system) :
      Serial name role log held system.release

theorem byCode_childAt (system : System M) (address key : String) :
    ByCode system (system.childAt address key).2 := by
  unfold System.childAt
  split
  · exact byCode_child system _ key
  · exact .refl _

theorem Concurrent.Follows.move {state : Concurrent M} {held : Nat} {system after : System M}
    (follows : state.Follows held system) (moves : system.Moves after) :
    ∃ next : Concurrent M, state.Leads next ∧ next.Follows held after := by
  cases moves with
  | send address message => exact follows.byCode (byCode_send system address message)
  | post id message => exact follows.byCode (byCode_post system id message)
  | spawn parent name role => exact follows.byCode (byCode_spawn system parent name role)
  | addPool parent name strategy size =>
      exact follows.byCode (byCode_addPool system parent name strategy size)
  | addKeyed parent address nameOf =>
      exact follows.byCode (byCode_addKeyed system parent address nameOf)
  | childAt address key => exact follows.byCode (byCode_childAt system address key)
  | deliver delivered => exact follows.deliver delivered
  | openBarrier => exact follows.openBarrier
  | takeQuiet => exact follows.byCode (byCode_of_act .ask (.of_actors rfl) fun _ _ => rfl)
  | halt => exact follows.byCode (byCode_of_act .halt (.of_actors rfl) fun _ _ => rfl)
  | resume => exact follows.byCode (byCode_of_act .resume (.of_actors rfl) fun _ _ => rfl)
  | stop id => exact follows.byCode (byCode_stop system id)
  | close => exact follows.byCode (byCode_close system)

namespace System.Serial

variable {name : String} {role : Role M} {log : Log} {held : Nat} {system : System M}

theorem settle (serial : Serial name role log held system) (fuel : Nat) :
    Serial name role log held (system.settle fuel) := by
  induction fuel generalizing system with
  | zero => exact serial
  | succ fuel ih =>
      unfold System.settle
      split
      next after stepped =>
        obtain ⟨entry, -, delivered⟩ := Option.bind_eq_some_iff.mp stepped
        exact ih (serial.move (.deliver delivered))
      next => exact serial

/-- Each way of the running system is one order of the steps. -/
theorem exists_run (serial : Serial name role log held system) :
    ∃ (choices : List (Choice M)) (state : Concurrent M),
      (Concurrent.start name role log).run? choices = some state ∧ state.Follows held system := by
  suffices reached : ∃ state : Concurrent M,
      (Concurrent.start name role log).Leads state ∧ state.Follows held system by
    obtain ⟨state, ⟨choices, ran⟩, follows⟩ := reached
    exact ⟨choices, state, ran, follows⟩
  induction serial with
  | start => exact ⟨_, .refl _, rfl, Nat.le_refl 0, fun id actor found => nomatch found⟩
  | move serial moves ih =>
      obtain ⟨state, leads, follows⟩ := ih
      obtain ⟨next, further, followsNext⟩ := follows.move moves
      exact ⟨next, leads.trans further, followsNext⟩
  | hold serial ih =>
      obtain ⟨state, leads, follows⟩ := ih
      obtain ⟨next, further, followsNext⟩ := follows.hold
      exact ⟨next, leads.trans further, followsNext⟩
  | release serial ih =>
      obtain ⟨state, leads, follows⟩ := ih
      obtain ⟨next, further, followsNext⟩ := follows.release
      exact ⟨next, leads.trans further, followsNext⟩

/-- If the running system looks idle, no mailbox has a message, no actor waits in its code, and
nothing is held from outside. -/
theorem nothing_left (serial : Serial name role log held system) :
    0 ≤ system.inFlight ∧
    (system.inFlight = 0 →
      (∀ id, system.mailbox id = []) ∧
      (∀ (id : Nat) (actor : Actor M), system.actors[id]? = some actor → actor.isWaiting = false) ∧
      held = 0) := by
  obtain ⟨choices, state, ran, follows⟩ := serial.exists_run
  have balanced := Concurrent.isBalanced_of_run ran
  obtain rfl := follows.same
  refine ⟨balanced.nonneg, fun idle => ?_⟩
  · obtain ⟨noneHeld, nothing⟩ := balanced.isIdle_iff.mp (beq_iff_eq.mpr idle)
    obtain ⟨noPending, noLoad⟩ := List.append_eq_nil_iff.mp nothing
    refine ⟨fun id => ?_, fun id actor found => ?_, ?_⟩
    · unfold System.mailbox
      rw [noPending]
      rfl
    · refine Bool.eq_false_iff.mpr fun waits => ?_
      obtain ⟨message, member⟩ := (follows.served id actor found).paused waits
      exact nomatch List.flatMap_eq_nil_iff.mp noLoad _ member
    · have none : state.threads.countP Thread.isHolding = 0 := by
        refine List.countP_eq_zero.mpr fun thread member holds => ?_
        have one := congrArg Thread.held (Thread.eq_of_isHolding holds)
        exact Nat.one_ne_zero (one.symm.trans (Concurrent.held_of_mem noneHeld member))
      exact Nat.eq_zero_of_le_zero (none ▸ follows.holds)

end System.Serial

end Tabulation.Mailbox
