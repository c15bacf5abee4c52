/-
A system that looks idle has nothing to do.

What is in flight is what was added and not taken away, what lies in mailboxes, and what threads have in
hand: the messages that were counted on their way to a mailbox and those that are handled.  No
step of a thread changes this balance, whatever the other threads have, so it holds in every order of
steps.  Whoever seeds several messages holds a piece of work until the last is sent, so nobody sees the
system idle in between.
-/

import Mathlib.Algebra.GroupWithZero.Nat
import Mathlib.Data.List.Perm.Basic
import Mathlib.Data.List.Perm.Subperm
import Tabulation.Mailbox.Concurrent
import Tabulation.Mailbox.Script

namespace Tabulation.Mailbox

variable {M : Type}

/-! ### What is not finished -/

/-- The message that was counted and is on its way to a mailbox. -/
def Task.onTheWay : Task M → Option (Nat × M)
  | .enqueue receiver message => some (receiver, message)
  | _ => none

/-- The message that an actor took and is not done with. -/
def Stage.inHand (id : Nat) : Stage M → List (Nat × M)
  | .taken message => [(id, message)]
  | .receiving message _ => [(id, message)]
  | .recovering message _ => [(id, message)]
  | .finishing message => [(id, message)]
  | _ => []

def Position.inHand : Position M → List (Nat × M)
  | .outside _ => []
  | .inside id stage => stage.inHand id

/-- The messages that a thread has, whether on their way or in hand. -/
def Thread.load (thread : Thread M) : List (Nat × M) :=
  thread.todo.filterMap Task.onTheWay ++ thread.position.inHand

theorem tasksOf_append (script further : List (Act M)) :
    tasksOf (script ++ further) = tasksOf script ++ tasksOf further :=
  List.map_append

theorem onTheWay_tasksOf (script : List (Act M)) :
    (tasksOf script).filterMap Task.onTheWay = [] := by
  unfold tasksOf
  rw [List.filterMap_map]
  exact List.filterMap_eq_nil_iff.mpr fun _ _ => rfl

theorem Thread.load_append (position : Position M) (tasks rest : List (Task M)) (held : Nat) :
    load ⟨position, tasks ++ rest, held⟩ =
      tasks.filterMap Task.onTheWay ++ load ⟨position, rest, held⟩ := by
  unfold load
  rw [List.filterMap_append, List.append_assoc]

theorem Thread.load_cons (position : Position M) (task : Task M) (rest : List (Task M)) (held : Nat) :
    load ⟨position, task :: rest, held⟩ =
      task.onTheWay.toList ++ load ⟨position, rest, held⟩ := by
  rw [← List.singleton_append, load_append]
  cases task <;> rfl

def Entry.accepted? : Entry M → Option (Nat × M)
  | .accepted receiver message => some (receiver, message)
  | _ => none

def Entry.finished? : Entry M → Option (Nat × M)
  | .finished receiver message => some (receiver, message)
  | _ => none

namespace Shared

/-- The messages that were accepted so far, with their receivers. -/
def accepted (shared : Shared M) : List (Nat × M) := shared.journal.filterMap Entry.accepted?

/-- The messages that receivers were done with. -/
def finished (shared : Shared M) : List (Nat × M) := shared.journal.filterMap Entry.finished?

end Shared

namespace Concurrent

/-- How many pieces of work threads have to take away. -/
def heldBy (threads : List (Thread M)) : Nat := (threads.map Thread.held).sum

/-- How many pieces of work were added and not taken away. -/
def held (state : Concurrent M) : Nat := state.shared.entrusted + heldBy state.threads

/-- The messages that threads have. -/
def load (state : Concurrent M) : List (Nat × M) := state.threads.flatMap Thread.load

/-- The messages that are not finished: those in mailboxes and those that threads have. -/
def unfinished (state : Concurrent M) : List (Nat × M) :=
  state.shared.system.pending ++ state.load

end Concurrent

/-! ### The balance of a step -/

namespace Shared

variable {shared after : Shared M} {held : Nat} {load others : List (Nat × M)}

/-- The count is right, if threads hold some pieces of work and have some messages. -/
structure Counts (shared : Shared M) (held : Nat) (load : List (Nat × M)) : Prop where
  inFlight : shared.system.inFlight =
    (shared.entrusted + held + shared.system.pending.length + load.length : Nat)
  accepted : shared.accepted.Perm (shared.finished ++ (shared.system.pending ++ load))

theorem Counts.perm (counts : shared.Counts held load) (same : load.Perm others) :
    shared.Counts held others where
  inFlight := by rw [counts.inFlight, same.length_eq]
  accepted := counts.accepted.trans ((same.append_left _).append_left _)

/-- A change of something else. -/
theorem Counts.of_same (counts : shared.Counts held load)
    (inFlight : after.system.inFlight = shared.system.inFlight)
    (pending : after.system.pending = shared.system.pending)
    (entrusted : after.entrusted = shared.entrusted)
    (accepted : after.accepted = shared.accepted) (finished : after.finished = shared.finished) :
    after.Counts held load where
  inFlight := by rw [inFlight, pending, entrusted, counts.inFlight]
  accepted := by rw [accepted, finished, pending]; exact counts.accepted

theorem accepted_enter {entry : Entry M} (other : entry.accepted? = none) :
    (shared.enter entry).accepted = shared.accepted := by
  unfold accepted enter
  rw [List.filterMap_append, List.filterMap_cons_none other, List.filterMap_nil, List.append_nil]

theorem finished_enter {entry : Entry M} (other : entry.finished? = none) :
    (shared.enter entry).finished = shared.finished := by
  unfold finished enter
  rw [List.filterMap_append, List.filterMap_cons_none other, List.filterMap_nil, List.append_nil]

theorem Counts.count (counts : shared.Counts held load) (receiver : Nat) (message : M) :
    ((shared.on .hold).enter (.accepted receiver message)).Counts held
      ((receiver, message) :: load) where
  inFlight := by
    have before := counts.inFlight
    simp only [on, enter, System.hold, List.length_cons] at before ⊢
    omega
  accepted := by
    have split : ((shared.on .hold).enter (.accepted receiver message)).accepted =
        shared.accepted ++ [(receiver, message)] := List.filterMap_append
    rw [split, finished_enter rfl]
    have appended := counts.accepted.append_right [(receiver, message)]
    rw [List.append_assoc, List.append_assoc] at appended
    exact appended.trans (((List.perm_append_singleton _ _).append_left _).append_left _)

theorem Counts.enqueue {receiver : Nat} {message : M}
    (counts : shared.Counts held ((receiver, message) :: load)) :
    ((shared.on (·.enqueue receiver message)).enter (.enqueued receiver message)).Counts held
      load where
  inFlight := by
    have before := counts.inFlight
    simp only [on, enter, System.enqueue, List.length_append, List.length_cons,
      List.length_nil] at before ⊢
    omega
  accepted := by
    rw [accepted_enter rfl, finished_enter rfl]
    simp only [on, enter, System.enqueue, List.append_assoc, List.singleton_append]
    exact counts.accepted

theorem Counts.hold (counts : shared.Counts held load) :
    (shared.on .hold).Counts (held + 1) load where
  inFlight := by
    have before := counts.inFlight
    simp only [on, System.hold] at before ⊢
    omega
  accepted := counts.accepted

theorem Counts.release (counts : shared.Counts (held + 1) load) :
    (shared.on .release).Counts held load where
  inFlight := by
    have before := counts.inFlight
    simp only [on, System.release, System.done] at before ⊢
    omega
  accepted := counts.accepted

theorem Counts.entrust (counts : shared.Counts (held + 1) load) :
    Counts { shared with entrusted := shared.entrusted + 1 } held load where
  inFlight := by
    have before := counts.inFlight
    dsimp only
    omega
  accepted := counts.accepted

theorem Counts.takeOver {entrusted : Nat} (counts : shared.Counts held load)
    (more : shared.entrusted = entrusted + 1) :
    Counts { shared with entrusted } (held + 1) load where
  inFlight := by
    have before := counts.inFlight
    dsimp only
    omega
  accepted := counts.accepted

theorem Counts.finish {id : Nat} {message : M}
    (counts : shared.Counts held ((id, message) :: load)) :
    ((shared.on .done).enter (.finished id message)).Counts held load where
  inFlight := by
    have before := counts.inFlight
    simp only [on, enter, System.done, List.length_cons] at before ⊢
    omega
  accepted := by
    have split : ((shared.on .done).enter (.finished id message)).finished =
        shared.finished ++ [(id, message)] := List.filterMap_append
    rw [accepted_enter rfl, split, List.append_assoc, List.singleton_append]
    exact counts.accepted.trans (List.perm_middle.append_left _)

/-- A task keeps the count right, whatever other threads hold and have. -/
theorem Counts.perform {chance : Chance M} {task : Task M} {effect : Effect M} {more : Nat}
    (counts : shared.Counts (held + more) (task.onTheWay.toList ++ load))
    (done : shared.perform? chance held task = some effect) :
    effect.shared.Counts (effect.held + more) (effect.tasks.filterMap Task.onTheWay ++ load) := by
  cases task with
  | count receiver message =>
      obtain rfl := Option.some.inj done
      exact counts.count receiver message
  | enqueue receiver message =>
      obtain rfl := Option.some.inj done
      exact counts.enqueue
  | signal receiver =>
      obtain rfl := Option.some.inj done
      exact counts.of_same rfl rfl rfl rfl rfl
  | launch id =>
      obtain ⟨actor, -, rfl⟩ := Option.map_eq_some_iff.mp done
      exact counts
  | act act =>
      cases act with
      | send receiver message =>
          simp only [perform?] at done
          split at done
          · obtain rfl := Option.some.inj done
            exact counts
          · obtain rfl := Option.some.inj done
            exact counts
      | hold =>
          obtain rfl := Option.some.inj done
          rw [Nat.add_right_comm]
          exact counts.hold
      | release =>
          cases held with
          | zero => exact nomatch done
          | succ held =>
              obtain rfl := Option.some.inj done
              rw [Nat.add_right_comm] at counts
              exact counts.release
      | entrust =>
          cases held with
          | zero => exact nomatch done
          | succ held =>
              obtain rfl := Option.some.inj done
              rw [Nat.add_right_comm] at counts
              exact counts.entrust
      | takeOver =>
          simp only [perform?] at done
          split at done
          next => exact nomatch done
          next entrusted more =>
            obtain rfl := Option.some.inj done
            rw [Nat.add_right_comm]
            exact counts.takeOver more
      | spawn parent name role =>
          obtain rfl := Option.some.inj done
          rw [List.filterMap_append, onTheWay_tasksOf]
          exact counts.of_same rfl rfl rfl rfl rfl
      | halt | resume | stop | close | record | write | ask | arrange | pause =>
          obtain rfl := Option.some.inj done
          exact counts.of_same rfl rfl rfl rfl rfl

/-- Only actors that were made begin. -/
theorem mem_begun {chance : Chance M} {task : Task M} {effect : Effect M}
    (done : shared.perform? chance held task = some effect) {thread : Thread M}
    (member : thread ∈ effect.begun) :
    ∃ id actor, effect.shared.system.actors[id]? = some actor ∧ thread = threadOf chance id actor := by
  cases task with
  | launch id =>
      obtain ⟨actor, found, rfl⟩ := Option.map_eq_some_iff.mp done
      dsimp only at member
      split at member
      · exact absurd member List.not_mem_nil
      · exact ⟨id, actor, found, List.mem_singleton.mp member⟩
  | count | enqueue | signal =>
      obtain rfl := Option.some.inj done
      exact absurd member List.not_mem_nil
  | act act =>
      cases act with
      | send receiver message =>
          simp only [perform?] at done
          split at done <;> obtain rfl := Option.some.inj done <;>
            exact absurd member List.not_mem_nil
      | release | entrust =>
          cases held with
          | zero => exact nomatch done
          | succ held =>
              obtain rfl := Option.some.inj done
              exact absurd member List.not_mem_nil
      | takeOver =>
          simp only [perform?] at done
          split at done
          next => exact nomatch done
          next =>
            obtain rfl := Option.some.inj done
            exact absurd member List.not_mem_nil
      | hold | spawn | halt | resume | stop | close | record | write | ask | arrange | pause =>
          obtain rfl := Option.some.inj done
          exact absurd member List.not_mem_nil

/-- The threads that begin hold nothing and have no message. -/
theorem begun_empty {chance : Chance M} {task : Task M} {effect : Effect M}
    (done : shared.perform? chance held task = some effect) :
    ∀ thread ∈ effect.begun, thread.held = 0 ∧ thread.load = [] ∧
      ∃ id stage, thread.position = .inside id stage := by
  intro thread member
  obtain ⟨id, actor, -, rfl⟩ := mem_begun done member
  unfold threadOf
  split
  · exact ⟨rfl, rfl, _, _, rfl⟩
  · refine ⟨rfl, ?_, _, _, rfl⟩
    unfold Thread.load
    rw [onTheWay_tasksOf]
    rfl

theorem takeFrom_perm {id : Nat} {message : M} {pending rest : List (Nat × M)}
    (taken : System.takeFrom id pending = some (message, rest)) :
    pending.Perm ((id, message) :: rest) := by
  induction pending generalizing rest with
  | nil => exact nomatch taken
  | cons entry later ih =>
      unfold System.takeFrom at taken
      split at taken
      next own =>
        obtain ⟨rfl, rfl⟩ := Prod.mk.inj (Option.some.inj taken)
        rw [← beq_iff_eq.mp own]
      next other =>
        obtain ⟨⟨found, others⟩, further, same⟩ := Option.map_eq_some_iff.mp taken
        obtain ⟨rfl, rfl⟩ := Prod.mk.inj same
        exact ((ih further).cons entry).trans (List.Perm.swap _ _ _)

theorem Counts.take {id : Nat} {message : M} {rest : List (Nat × M)}
    (counts : shared.Counts held load)
    (taken : System.takeFrom id shared.system.pending = some (message, rest)) :
    (shared.on ({ · with pending := rest })).Counts held ((id, message) :: load) where
  inFlight := by
    have before := counts.inFlight
    have fewer := (takeFrom_perm taken).length_eq
    simp only [on, List.length_cons] at before fewer ⊢
    omega
  accepted := by
    have moved : (shared.system.pending ++ load).Perm (rest ++ (id, message) :: load) :=
      ((takeFrom_perm taken).append_right load).trans List.perm_middle.symm
    exact counts.accepted.trans (moved.append_left _)

variable [Letter M]

/-- A step in the loop of an actor keeps the count right. -/
theorem Counts.proceed {chance : Chance M} {id : Nat} {stage later : Stage M}
    {script : List (Act M)} (counts : shared.Counts held (stage.inHand id ++ load))
    (went : shared.proceed? chance id stage = some (after, later, script)) :
    after.Counts held (later.inHand id ++ load) := by
  cases stage with
  | starting failure =>
      cases failure <;> obtain ⟨rfl, rfl, rfl⟩ := Prod.mk.inj (Option.some.inj went)
      · exact counts
      · exact counts.of_same rfl rfl rfl rfl rfl
  | next =>
      simp only [proceed?] at went
      split at went
      next message rest taken =>
        obtain ⟨rfl, rfl, rfl⟩ := Prod.mk.inj (Option.some.inj went)
        exact counts.take taken
      next empty =>
        obtain ⟨rfl, rfl, rfl⟩ := Prod.mk.inj (Option.some.inj went)
        exact counts
  | waiting =>
      simp only [proceed?] at went
      split at went
      · split at went
        · obtain ⟨rfl, rfl, rfl⟩ := Prod.mk.inj (Option.some.inj went)
          exact counts.of_same rfl rfl rfl rfl rfl
        · exact nomatch went
      · split at went
        · obtain ⟨rfl, rfl, rfl⟩ := Prod.mk.inj (Option.some.inj went)
          exact counts.of_same rfl rfl rfl rfl rfl
        · exact nomatch went
  | taken message =>
      simp only [proceed?] at went
      split at went
      · obtain ⟨rfl, rfl, rfl⟩ := Prod.mk.inj (Option.some.inj went)
        exact counts.of_same rfl rfl rfl (accepted_enter rfl) (finished_enter rfl)
      · obtain ⟨rfl, rfl, rfl⟩ := Prod.mk.inj (Option.some.inj went)
        exact counts.of_same rfl rfl rfl (accepted_enter rfl) (finished_enter rfl)
  | receiving message failure =>
      cases failure with
      | none =>
          obtain ⟨rfl, rfl, rfl⟩ := Prod.mk.inj (Option.some.inj went)
          exact counts
      | some failure =>
          simp only [proceed?] at went
          split at went
          · obtain ⟨rfl, rfl, rfl⟩ := Prod.mk.inj (Option.some.inj went)
            exact counts.of_same rfl rfl rfl (accepted_enter rfl) (finished_enter rfl)
          · obtain ⟨rfl, rfl, rfl⟩ := Prod.mk.inj (Option.some.inj went)
            exact counts.of_same rfl rfl rfl (accepted_enter rfl) (finished_enter rfl)
  | recovering message failure =>
      cases failure <;> obtain ⟨rfl, rfl, rfl⟩ := Prod.mk.inj (Option.some.inj went)
      · exact counts
      · exact counts.of_same rfl rfl rfl rfl rfl
  | finishing message =>
      obtain ⟨rfl, rfl, rfl⟩ := Prod.mk.inj (Option.some.inj went)
      exact counts.finish
  | between =>
      simp only [proceed?] at went
      split at went
      · obtain ⟨rfl, rfl, rfl⟩ := Prod.mk.inj (Option.some.inj went)
        exact counts.of_same rfl rfl rfl rfl rfl
      · obtain ⟨rfl, rfl, rfl⟩ := Prod.mk.inj (Option.some.inj went)
        exact counts
  | ended => exact nomatch went

variable {chance : Chance M} {thread later : Thread M} {begun : List (Thread M)}

/-- A thread that has a task does it. -/
theorem move_task {position : Position M} {task : Task M} {rest : List (Task M)}
    (moved : shared.move? chance ⟨position, task :: rest, held⟩ = some (after, later, begun)) :
    ∃ effect, shared.perform? chance held task = some effect ∧ after = effect.shared ∧
      later = ⟨position, effect.tasks ++ rest, effect.held⟩ ∧ begun = effect.begun := by
  obtain ⟨effect, done, same⟩ := Option.map_eq_some_iff.mp moved
  obtain ⟨rfl, rfl, rfl⟩ := Prod.mk.inj same
  exact ⟨effect, done, rfl, rfl, rfl⟩

/-- A thread that has no task goes on in the loop of its actor. -/
theorem move_idle {position : Position M}
    (moved : shared.move? chance ⟨position, [], held⟩ = some (after, later, begun)) :
    ∃ id stage stage' script, position = .inside id stage ∧
      shared.proceed? chance id stage = some (after, stage', script) ∧
      later = ⟨.inside id stage', tasksOf script, held⟩ ∧ begun = [] := by
  cases position with
  | outside program => exact nomatch moved
  | inside id stage =>
      obtain ⟨⟨shared', stage', script⟩, went, same⟩ := Option.map_eq_some_iff.mp moved
      obtain ⟨rfl, rfl, rfl⟩ := Prod.mk.inj same
      exact ⟨id, stage, stage', script, rfl, went, rfl, rfl⟩

/-- A step of a thread keeps the count right, whatever other threads hold and have. -/
theorem Counts.move {more : Nat} (counts : shared.Counts (thread.held + more) (thread.load ++ load))
    (moved : shared.move? chance thread = some (after, later, begun)) :
    after.Counts (later.held + more) (later.load ++ load) ∧
      ∀ other ∈ begun, other.held = 0 ∧ other.load = [] := by
  obtain ⟨position, todo, had⟩ := thread
  cases todo with
  | cons task rest =>
      obtain ⟨effect, done, rfl, rfl, rfl⟩ := move_task moved
      refine ⟨?_, fun other member => ?_⟩
      · rw [Thread.load_cons, List.append_assoc] at counts
        rw [Thread.load_append, List.append_assoc]
        exact counts.perform done
      · exact ⟨(begun_empty done other member).1, (begun_empty done other member).2.1⟩
  | nil =>
      obtain ⟨id, stage, stage', script, rfl, went, rfl, rfl⟩ := move_idle moved
      have noTasks : Thread.load ⟨.inside id stage', tasksOf script, had⟩ = stage'.inHand id := by
        unfold Thread.load
        rw [onTheWay_tasksOf]
        rfl
      rw [noTasks]
      exact ⟨counts.proceed went, nofun⟩

end Shared

/-! ### The balance of a run -/

namespace Concurrent

variable {state after : Concurrent M}

/-- The count is right. -/
def IsBalanced (state : Concurrent M) : Prop :=
  state.shared.Counts (heldBy state.threads) state.load

theorem isBalanced_start (name : String) (role : Role M) (log : Log) :
    (start name role log).IsBalanced where
  inFlight := rfl
  accepted := .nil

theorem heldBy_append (front back : List (Thread M)) :
    heldBy (front ++ back) = heldBy front + heldBy back := by
  unfold heldBy
  rw [List.map_append, List.sum_append]

theorem load_append (shared : Shared M) (front back : List (Thread M)) :
    load ⟨shared, front ++ back⟩ = front.flatMap Thread.load ++ back.flatMap Thread.load :=
  List.flatMap_append

/-- The threads that hold nothing and have no message do not count. -/
theorem IsBalanced.append {shared : Shared M} {threads more : List (Thread M)}
    (balanced : IsBalanced ⟨shared, threads⟩)
    (empty : ∀ thread ∈ more, thread.held = 0 ∧ thread.load = []) :
    IsBalanced ⟨shared, threads ++ more⟩ := by
  have noLoad : more.flatMap Thread.load = [] :=
    List.flatMap_eq_nil_iff.mpr fun thread member => (empty thread member).2
  have noHeld : heldBy more = 0 := by
    refine List.sum_eq_zero_iff_forall_eq_nat.mpr fun count member => ?_
    obtain ⟨thread, isThread, rfl⟩ := List.mem_map.mp member
    exact (empty thread isThread).1
  unfold IsBalanced at *
  rw [heldBy_append, load_append, noLoad, noHeld, Nat.add_zero, List.append_nil]
  exact balanced

theorem isBalanced_iff_apart {shared : Shared M} {front back : List (Thread M)} {thread : Thread M} :
    IsBalanced ⟨shared, front ++ thread :: back⟩ ↔
      shared.Counts (thread.held + heldBy (front ++ back))
        (thread.load ++ load ⟨shared, front ++ back⟩) := by
  have sameHeld : heldBy (front ++ thread :: back) = thread.held + heldBy (front ++ back) := by
    have atFront : heldBy (thread :: back) = thread.held + heldBy back := List.sum_cons
    rw [heldBy_append, heldBy_append, atFront, Nat.add_left_comm]
  have sameLoad : (load ⟨shared, front ++ thread :: back⟩).Perm
      (thread.load ++ load ⟨shared, front ++ back⟩) := by
    rw [load_append, load_append, List.flatMap_cons, ← List.append_assoc, ← List.append_assoc]
    exact List.perm_append_comm.append_right _
  unfold IsBalanced
  rw [sameHeld]
  exact ⟨fun counts => counts.perm sameLoad, fun counts => counts.perm sameLoad.symm⟩

theorem IsBalanced.inFlight (balanced : state.IsBalanced) :
    state.shared.system.inFlight = (state.held + state.unfinished.length : Nat) := by
  rw [Shared.Counts.inFlight balanced, unfinished, List.length_append, Nat.add_assoc, held]

theorem IsBalanced.nonneg (balanced : state.IsBalanced) : 0 ≤ state.shared.system.inFlight := by
  rw [balanced.inFlight]
  exact Int.natCast_nonneg _

theorem IsBalanced.isIdle_iff (balanced : state.IsBalanced) :
    state.isIdle ↔ state.held = 0 ∧ state.unfinished = [] := by
  have count : state.isIdle ↔ state.held + state.unfinished.length = 0 := by
    rw [isIdle, beq_iff_eq, balanced.inFlight]
    exact Int.natCast_eq_zero
  rw [count, Nat.add_eq_zero_iff, List.length_eq_zero_iff]

/-- If nothing is held, no thread has anything to take away. -/
theorem held_of_mem {thread : Thread M} (nothing : state.held = 0)
    (member : thread ∈ state.threads) : thread.held = 0 :=
  List.sum_eq_zero_iff_forall_eq_nat.mp (Nat.add_eq_zero_iff.mp nothing).2 _
    (List.mem_map_of_mem member)

variable [Letter M]

theorem step_cases {choice : Choice M} (stepped : state.step? choice = some after) :
    (∃ program, after =
      { state with threads := state.threads ++ [⟨.outside program, tasksOf program, 0⟩] }) ∨
    ∃ chance front thread back shared later begun, state.threads = front ++ thread :: back ∧
      state.shared.move? chance thread = some (shared, later, begun) ∧
      after = ⟨shared, front ++ later :: back ++ begun⟩ := by
  cases choice with
  | enter program => exact .inl ⟨program, (Option.some.inj stepped).symm⟩
  | move number chance =>
      obtain ⟨thread, found, stepped⟩ := Option.bind_eq_some_iff.mp stepped
      obtain ⟨⟨shared, later, begun⟩, moved, same⟩ := Option.bind_eq_some_iff.mp stepped
      obtain ⟨inside, rfl⟩ := List.getElem?_eq_some_iff.mp found
      refine .inr ⟨chance, state.threads.take number, _, state.threads.drop (number + 1),
        shared, later, begun, ?_, moved, ?_⟩
      · rw [List.getElem_cons_drop, List.take_append_drop]
      · rw [← Option.some.inj same, List.set_eq_take_append_cons_drop, if_pos inside]

theorem IsBalanced.step {choice : Choice M} (balanced : state.IsBalanced)
    (stepped : state.step? choice = some after) : after.IsBalanced := by
  rcases step_cases stepped with
    ⟨program, rfl⟩ | ⟨chance, front, thread, back, shared, later, begun, split, moved, rfl⟩
  · refine balanced.append fun thread member => ?_
    obtain rfl := List.mem_singleton.mp member
    refine ⟨rfl, ?_⟩
    unfold Thread.load
    rw [onTheWay_tasksOf]
    rfl
  · obtain ⟨before, threads⟩ := state
    obtain rfl : threads = front ++ thread :: back := split
    obtain ⟨counts, empty⟩ := (isBalanced_iff_apart.mp balanced).move moved
    exact (isBalanced_iff_apart.mpr counts).append empty

/-- What every step keeps holds after any run. -/
theorem run_induction {Good : Concurrent M → Prop} {choices : List (Choice M)} (good : Good state)
    (step : ∀ state next choice, Good state → state.step? choice = some next → Good next)
    (ran : state.run? choices = some after) : Good after := by
  unfold run? at ran
  induction choices generalizing state with
  | nil =>
      obtain rfl : state = after := Option.some.inj ran
      exact good
  | cons choice rest ih =>
      rw [List.foldlM_cons] at ran
      obtain ⟨next, stepped, further⟩ := Option.bind_eq_some_iff.mp ran
      exact ih (step state next choice good stepped) further

theorem isBalanced_of_run {name : String} {role : Role M} {log : Log} {choices : List (Choice M)}
    (ran : (start name role log).run? choices = some state) : state.IsBalanced :=
  run_induction (isBalanced_start name role log) (fun _ _ _ good stepped => good.step stepped) ran

end Concurrent

/-! ### Seeding from outside -/

/-- A part of a send. -/
def Task.IsSend : Task M → Prop
  | .act (.send ..) => True
  | .count .. => True
  | .enqueue .. => True
  | .signal .. => True
  | _ => False

/-- How far a thread is that seeds messages: it did not begin, it holds a piece of work and sends,
or it is done. -/
inductive Thread.Seeds (root : Nat) (seeds : List M) : Thread M → Prop
  | before {position : Position M} : Seeds root seeds ⟨position, tasksOf (seeding root seeds), 0⟩
  | within {position : Position M} {sends : List (Task M)} (only : ∀ task ∈ sends, task.IsSend) :
      Seeds root seeds ⟨position, sends ++ [.act .release], 1⟩
  | done {position : Position M} : Seeds root seeds ⟨position, [], 0⟩

namespace Shared

variable {shared after : Shared M} {chance : Chance M}

/-- A part of a send leaves other parts of it. -/
theorem perform_send {held : Nat} {task : Task M} {effect : Effect M} (isSend : task.IsSend)
    (done : shared.perform? chance held task = some effect) :
    effect.held = held ∧ ∀ other ∈ effect.tasks, other.IsSend := by
  cases task with
  | count receiver message =>
      obtain rfl := Option.some.inj done
      exact ⟨rfl, List.forall_mem_singleton.mpr trivial⟩
  | enqueue receiver message =>
      obtain rfl := Option.some.inj done
      exact ⟨rfl, List.forall_mem_singleton.mpr trivial⟩
  | signal receiver =>
      obtain rfl := Option.some.inj done
      exact ⟨rfl, nofun⟩
  | launch id => exact isSend.elim
  | act act =>
      cases act with
      | send receiver message =>
          simp only [perform?] at done
          split at done
          · obtain rfl := Option.some.inj done
            exact ⟨rfl, nofun⟩
          · obtain rfl := Option.some.inj done
            exact ⟨rfl, List.forall_mem_singleton.mpr trivial⟩
      | _ => exact isSend.elim

variable [Letter M] {thread later : Thread M} {begun : List (Thread M)}

/-- A thread from outside stays where it is, and others do not get there. -/
theorem move_outside (program : List (Act M))
    (moved : shared.move? chance thread = some (after, later, begun)) :
    (later.position = .outside program ↔ thread.position = .outside program) ∧
      ∀ other ∈ begun, other.position ≠ .outside program := by
  obtain ⟨position, todo, had⟩ := thread
  cases todo with
  | cons task rest =>
      obtain ⟨effect, done, rfl, rfl, rfl⟩ := move_task moved
      refine ⟨Iff.rfl, fun other member isOutside => ?_⟩
      obtain ⟨-, -, id, stage, isInside⟩ := begun_empty done other member
      exact nomatch isInside.symm.trans isOutside
  | nil =>
      obtain ⟨id, stage, stage', script, rfl, went, rfl, rfl⟩ := move_idle moved
      exact ⟨⟨nofun, nofun⟩, nofun⟩

theorem move_seeds {root : Nat} {seeds : List M}
    (isOutside : thread.position = .outside (seeding root seeds)) (seeding : thread.Seeds root seeds)
    (moved : shared.move? chance thread = some (after, later, begun)) : later.Seeds root seeds := by
  cases seeding with
  | before =>
      obtain ⟨effect, done, rfl, rfl, rfl⟩ := move_task moved
      obtain rfl := Option.some.inj done
      change Thread.Seeds root seeds ⟨_, tasksOf (seeds.map (.send root) ++ [.release]), 1⟩
      rw [tasksOf_append]
      refine .within fun task member => ?_
      obtain ⟨act, isAct, rfl⟩ := List.mem_map.mp member
      obtain ⟨seed, -, rfl⟩ := List.mem_map.mp isAct
      trivial
  | @within position sends only =>
      cases sends with
      | nil =>
          obtain ⟨effect, done, rfl, rfl, rfl⟩ := move_task moved
          obtain rfl := Option.some.inj done
          exact .done
      | cons task rest =>
          rw [List.cons_append] at moved
          obtain ⟨effect, done, rfl, rfl, rfl⟩ := move_task moved
          obtain ⟨isTask, others⟩ := List.forall_mem_cons.mp only
          obtain ⟨sameHeld, parts⟩ := perform_send isTask done
          rw [sameHeld, ← List.append_assoc]
          exact .within (List.forall_mem_append.mpr ⟨parts, others⟩)
  | done =>
      obtain ⟨id, stage, stage', script, isInside, -⟩ := move_idle moved
      exact nomatch isInside.symm.trans isOutside

end Shared

namespace Concurrent

variable {state after : Concurrent M}

/-- Every thread that seeds messages is somewhere in its program. -/
def KeepsSeeding (state : Concurrent M) : Prop :=
  ∀ thread ∈ state.threads, ∀ root seeds,
    thread.position = .outside (seeding root seeds) → thread.Seeds root seeds

theorem keepsSeeding_start (name : String) (role : Role M) (log : Log) :
    (start name role log).KeepsSeeding :=
  fun _ member => absurd member List.not_mem_nil

variable [Letter M]

theorem KeepsSeeding.step {choice : Choice M} (keeps : state.KeepsSeeding)
    (stepped : state.step? choice = some after) : after.KeepsSeeding := by
  intro thread member root seeds isOutside
  rcases step_cases stepped with
    ⟨program, rfl⟩ | ⟨chance, front, moving, back, shared, later, begun, split, moved, rfl⟩
  · rcases List.mem_append.mp member with old | new
    · exact keeps thread old root seeds isOutside
    · obtain rfl := List.mem_singleton.mp new
      obtain rfl := Position.outside.inj isOutside
      exact .before
  · obtain ⟨stays, notNew⟩ := Shared.move_outside (seeding root seeds) moved
    rcases List.mem_append.mp member with old | new
    · rcases List.mem_append.mp old with inFront | rest
      · exact keeps thread (split ▸ List.mem_append_left _ inFront) root seeds isOutside
      · rcases List.mem_cons.mp rest with rfl | inBack
        · have here : moving ∈ state.threads := split ▸ List.mem_append_right _ List.mem_cons_self
          exact Shared.move_seeds (stays.mp isOutside)
            (keeps moving here root seeds (stays.mp isOutside)) moved
        · exact keeps thread (split ▸ List.mem_append_right _ (List.mem_cons_of_mem _ inBack))
            root seeds isOutside
    · exact absurd isOutside (notNew thread new)

/-- **No false quiescence.** Whatever threads do and in whatever order, what is in flight is never
less than nothing: it is what was added and not taken away, and the messages that were accepted and
are not finished, which are in mailboxes or in some thread. If the system looks idle, then no
mailbox has a message, no thread has one either, and every message that was accepted is finished. A
thread from outside that seeds messages and has begun is never seen idle before it is done. -/
theorem no_false_quiescence (name : String) (role : Role M) (log : Log) {choices : List (Choice M)}
    (ran : (start name role log).run? choices = some state) :
    0 ≤ state.shared.system.inFlight ∧
    state.shared.system.inFlight = (state.held + state.unfinished.length : Nat) ∧
    state.shared.accepted.Perm (state.shared.finished ++ state.unfinished) ∧
    (state.isIdle →
      (∀ id, state.shared.system.mailbox id = []) ∧
      (∀ thread ∈ state.threads, thread.load = []) ∧
      state.shared.accepted.Perm state.shared.finished) ∧
    ∀ root seeds, ∀ thread ∈ state.threads,
      thread.position = .outside (seeding root seeds) →
      thread.todo ≠ tasksOf (seeding root seeds) → thread.todo ≠ [] → ¬state.isIdle := by
  have balanced := isBalanced_of_run ran
  have keeps : state.KeepsSeeding :=
    run_induction (keepsSeeding_start name role log) (fun _ _ _ good stepped => good.step stepped) ran
  refine ⟨balanced.nonneg, balanced.inFlight, balanced.accepted, fun idle => ?_, ?_⟩
  · have nothing := (balanced.isIdle_iff.mp idle).2
    obtain ⟨noPending, noLoad⟩ := List.append_eq_nil_iff.mp nothing
    refine ⟨fun id => ?_, List.flatMap_eq_nil_iff.mp noLoad, ?_⟩
    · unfold System.mailbox
      rw [noPending]
      rfl
    · have all : state.shared.accepted.Perm (state.shared.finished ++ state.unfinished) :=
        balanced.accepted
      rwa [nothing, List.append_nil] at all
  · intro root seeds thread member isOutside begun notDone idle
    have noneHeld := held_of_mem (balanced.isIdle_iff.mp idle).1 member
    cases keeps thread member root seeds isOutside with
    | before => exact begun rfl
    | within => exact absurd noneHeld Nat.one_ne_zero
    | done => exact notDone rfl

private def firstSeed : Cue := .plain "note" "first" ""

private def secondSeed : Cue := .plain "note" "second" ""

/-- An actor is made, and a thread from outside seeds two messages. The first is finished before the
second is sent. -/
private def earlyFinish : List (Choice Cue) :=
  [.enter [.spawn none "root" (scripted "note" "" "")], .move 0 {}, .move 0 {},
    .enter (seeding 0 [firstSeed, secondSeed])] ++
  List.replicate 5 (.move 2 {}) ++ List.replicate 5 (.move 1 {})

private def afterFirst : Option (Concurrent Cue) :=
  (start "system" (scripted "note" "" "") { level := 3 }).run? earlyFinish

theorem not_idle_before_second_seed :
    ∃ state thread, afterFirst = some state ∧ thread ∈ state.threads ∧
      thread.position = .outside (seeding 0 [firstSeed, secondSeed]) ∧
      thread.todo = [.act (.send 0 secondSeed), .act .release] ∧
      state.shared.finished = [(0, firstSeed)] ∧ state.unfinished = [] ∧ ¬state.isIdle := by
  have isSome : afterFirst.isSome := by decide
  have ran : afterFirst = some (afterFirst.get isSome) := (Option.some_get isSome).symm
  have here : (afterFirst.get isSome).threads[2]? =
      some ⟨.outside (seeding 0 [firstSeed, secondSeed]),
        [.act (.send 0 secondSeed), .act .release], 1⟩ := rfl
  have member := List.mem_of_getElem? here
  refine ⟨_, _, ran, member, rfl, rfl, rfl, rfl, ?_⟩
  obtain ⟨-, -, -, -, notIdle⟩ := no_false_quiescence _ _ _ ran
  refine notIdle _ _ _ member rfl (fun same => ?_) (List.cons_ne_nil _ _)
  exact absurd (congrArg List.length same) (by decide)

end Concurrent

end Tabulation.Mailbox
