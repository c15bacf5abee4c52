/-
What is seen of a run in which all actors are at work at once.

A step of a thread is seen as an event if it puts a message into a mailbox, halts or resumes the system,
writes to the log, or takes an actor on its way from one message to the next.
-/

import Tabulation.Proofs.Quiescence

namespace Tabulation.Mailbox

variable {M : Type}

/-! ### Events -/

/-- What is seen of a step. An actor that takes a message or decides about it finds the system
halted or not. -/
inductive Event (M : Type) where
  | enqueued (receiver : Nat) (message : M)
  | switched (isHalted : Bool)
  | took (id : Nat) (message : M) (isHalted : Bool)
  /-- Calls the code of the actor, which ends in this way. -/
  | passed (id : Nat) (message : M) (isHalted : Bool) (failure : Option Failure)
  | dropped (id : Nat) (message : M) (isHalted : Bool)
  /-- Calls the code of the actor for failures. -/
  | handed (id : Nat) (message : M) (failure : Failure)
  | noted (id : Nat) (message : M) (failure : Failure) (path : String)
  /-- Something else is written to the log. -/
  | wrote (severity : Severity) (text : String)
deriving Repr, DecidableEq

def Task.events : Task M → List (Event M)
  | .enqueue receiver message => [.enqueued receiver message]
  | .act .halt => [.switched true]
  | .act .resume => [.switched false]
  | .act (.write severity text) => [.wrote severity text]
  | _ => []

/-- What is seen of the way of an actor in its loop. -/
def Stage.events (system : System M) (id : Nat) : (stage later : Stage M) → List (Event M)
  | .starting (some failure), _ =>
    [.wrote .error (system.pathOf (some id) ++ ": " ++ ("failed to start: " ++ failure.message))]
  | .next, .taken message => [.took id message system.isHalted]
  | .taken _, .receiving message failure => [.passed id message system.isHalted failure]
  | .taken _, .finishing message => [.dropped id message system.isHalted]
  | .receiving _ (some failure), .recovering message _ => [.handed id message failure]
  | .receiving _ (some failure), .finishing message =>
    [.noted id message failure (system.pathOf (some id))]
  | .recovering _ (some again), _ =>
    [.wrote .error (system.pathOf (some id) ++ ": " ++ ("exception handler failed: " ++ again.message))]
  | _, _ => []

def Thread.events (system : System M) (thread later : Thread M) : List (Event M) :=
  match thread.todo, thread.position, later.position with
  | task :: _, _, _ => task.events
  | [], .inside id stage, .inside _ stage' => stage.events system id stage'
  | _, _, _ => []

/-- The threads, with one set apart. -/
theorem mem_apart {α : Type} {front back : List α} {item other : α} :
    other ∈ front ++ item :: back ↔ other = item ∨ other ∈ front ++ back := by
  rw [List.mem_append, List.mem_cons, List.mem_append, or_left_comm]

namespace Concurrent

variable [Letter M]

/-- What is seen of a step. -/
def events (state : Concurrent M) : Choice M → List (Event M)
  | .enter _ => []
  | .move number chance =>
    match state.threads[number]? with
    | none => []
    | some thread =>
      match state.shared.move? chance thread with
      | none => []
      | some (_, later, _) => thread.events state.shared.system later

/-- What is seen of many steps, in order. -/
def timeline (state : Concurrent M) : List (Choice M) → List (Event M)
  | [] => []
  | choice :: rest =>
    match state.step? choice with
    | none => []
    | some next => state.events choice ++ timeline next rest

variable {state after : Concurrent M}

/-- A step brings a thread from outside, or a thread does a task, or goes on in the loop of its
actor. -/
theorem step_events {choice : Choice M} (stepped : state.step? choice = some after) :
    (∃ program, state.events choice = [] ∧ after =
      { state with threads := state.threads ++ [⟨.outside program, tasksOf program, 0⟩] }) ∨
    (∃ chance front position task rest held back effect,
      state.threads = front ++ ⟨position, task :: rest, held⟩ :: back ∧
      state.shared.perform? chance held task = some effect ∧ state.events choice = task.events ∧
      after = ⟨effect.shared,
        front ++ ⟨position, effect.tasks ++ rest, effect.held⟩ :: back ++ effect.begun⟩) ∨
    ∃ chance front id stage held back shared later script,
      state.threads = front ++ ⟨.inside id stage, [], held⟩ :: back ∧
      state.shared.proceed? chance id stage = some (shared, later, script) ∧
      state.events choice = stage.events state.shared.system id later ∧
      after = ⟨shared, front ++ ⟨.inside id later, tasksOf script, held⟩ :: back⟩ := by
  cases choice with
  | enter program => exact .inl ⟨program, rfl, (Option.some.inj stepped).symm⟩
  | move number chance =>
      obtain ⟨thread, found, stepped⟩ := Option.bind_eq_some_iff.mp stepped
      obtain ⟨⟨shared, later, begun⟩, moved, same⟩ := Option.bind_eq_some_iff.mp stepped
      have seen : state.events (.move number chance) = thread.events state.shared.system later := by
        simp only [events, found, moved]
      obtain ⟨inside, here⟩ := List.getElem?_eq_some_iff.mp found
      have threads : state.threads = state.threads.take number ++ thread :: state.threads.drop
          (number + 1) := by
        rw [← here, List.getElem_cons_drop, List.take_append_drop]
      have next : after =
          ⟨shared, state.threads.take number ++ later :: state.threads.drop (number + 1) ++ begun⟩ := by
        rw [← Option.some.inj same, List.set_eq_take_append_cons_drop, if_pos inside]
      obtain ⟨position, todo, held⟩ := thread
      cases todo with
      | cons task rest =>
          obtain ⟨effect, done, rfl, rfl, rfl⟩ := Shared.move_task moved
          exact .inr (.inl ⟨chance, _, position, task, rest, held, _, effect, threads, done,
            seen, next⟩)
      | nil =>
          obtain ⟨id, stage, stage', script, rfl, went, rfl, rfl⟩ := Shared.move_idle moved
          rw [List.append_nil] at next
          exact .inr (.inr ⟨chance, _, id, stage, held, _, shared, stage', script, threads, went,
            seen, next⟩)

end Concurrent

/-! ### What events say -/

namespace Event

/-- Whether something happened to a message of an actor. -/
def isAbout (id : Nat) : Event M → Bool
  | enqueued receiver _ => receiver == id
  | took actor .. => actor == id
  | passed actor .. => actor == id
  | dropped actor .. => actor == id
  | handed actor .. => actor == id
  | noted actor .. => actor == id
  | switched _ => false
  | wrote .. => false

def switched? : Event M → Option Bool
  | switched isHalted => some isHalted
  | _ => none

def enqueued? : Event M → Option M
  | enqueued _ message => some message
  | _ => none

def took? : Event M → Option M
  | took _ message _ => some message
  | _ => none

/-- A message that an actor took, with whether the system was halted then. -/
def taken? : Event M → Option (M × Bool)
  | took _ message isHalted => some (message, isHalted)
  | _ => none

/-- A message that an actor decided about, with whether the system was halted then. -/
def turn? : Event M → Option (M × Bool)
  | passed _ message isHalted _ => some (message, isHalted)
  | dropped _ message isHalted => some (message, isHalted)
  | _ => none

def tried? (event : Event M) : Option M := event.turn?.map Prod.fst

def passed? : Event M → Option M
  | passed _ message .. => some message
  | _ => none

def dropped? : Event M → Option M
  | dropped _ message _ => some message
  | _ => none

def failing? : Event M → Option (M × Failure)
  | passed _ message _ (some failure) => some (message, failure)
  | _ => none

/-- A failure that was reported, whether to the actor or in the log. -/
def report? : Event M → Option (M × Failure)
  | handed _ message failure => some (message, failure)
  | noted _ message failure _ => some (message, failure)
  | _ => none

/-- Whether the system was found halted. -/
def found? : Event M → Option Bool
  | took _ _ isHalted => some isHalted
  | passed _ _ isHalted _ => some isHalted
  | dropped _ _ isHalted => some isHalted
  | _ => none

/-- What is written to the log. -/
def line? [Letter M] : Event M → Option (Severity × String)
  | noted _ message failure path =>
    some (.warn,
      path ++ ": " ++ ("exception while handling " ++ Letter.typeName message ++ ": " ++ failure.message))
  | wrote severity text => some (severity, text)
  | _ => none

/-- A message is dropped if the system is found halted and it is no control message. -/
def IsLawful [Letter M] : Event M → Prop
  | passed _ message isHalted _ => (isHalted && !Letter.isControl message) = false
  | dropped _ message isHalted => (isHalted && !Letter.isControl message) = true
  | _ => True

/-- An actor is called for failures if it has code for them, and otherwise they are noted under its
path. -/
def Suits (system : System M) : Event M → Prop
  | handed id .. => ∃ actor, system.actors[id]? = some actor ∧ actor.role.recover.isSome
  | noted id _ _ path =>
    ∃ actor, system.actors[id]? = some actor ∧ actor.role.recover = none ∧ actor.path = path
  | _ => True

end Event

/-- What happened to the messages of an actor. -/
def about (id : Nat) (events : List (Event M)) : List (Event M) := events.filter (Event.isAbout id)

theorem about_append (id : Nat) (events more : List (Event M)) :
    about id (events ++ more) = about id events ++ about id more :=
  List.filter_append ..

/-- Whenever somebody halts or resumes the system, the actor has decided about all messages that it
took. -/
def IsCalm (id : Nat) (events : List (Event M)) : Prop :=
  ∀ before isHalted rest, events = before ++ .switched isHalted :: rest →
    (about id before).filterMap Event.took? = (about id before).filterMap Event.tried?

/-- Whether the system is halted after some events. -/
def haltedAfter (isHalted : Bool) (events : List (Event M)) : Bool :=
  events.foldl (fun isHalted event => event.switched?.getD isHalted) isHalted

/-- Each time that an actor looks, it finds the system as it was last halted or resumed. -/
def IsTrue : (isHalted : Bool) → List (Event M) → Prop
  | _, [] => True
  | isHalted, event :: rest =>
    (event.found? = none ∨ event.found? = some isHalted) ∧ IsTrue (event.switched?.getD isHalted) rest

theorem isTrue_append {isHalted : Bool} {events more : List (Event M)} :
    IsTrue isHalted (events ++ more) ↔
      IsTrue isHalted events ∧ IsTrue (haltedAfter isHalted events) more := by
  induction events generalizing isHalted with
  | nil => exact ⟨fun further => ⟨trivial, further⟩, And.right⟩
  | cons event rest inductionHypothesis =>
      rw [List.cons_append, IsTrue, IsTrue, inductionHypothesis, and_assoc]
      rfl

/-- Who finds the system in one way throughout finds it so with each message. -/
theorem filterMap_of_found {isHalted : Bool} {events : List (Event M)}
    (found : ∀ event ∈ events, event.found? = none ∨ event.found? = some isHalted) :
    events.filterMap Event.taken? = (events.filterMap Event.took?).map (·, isHalted) ∧
      events.filterMap Event.turn? = (events.filterMap Event.tried?).map (·, isHalted) := by
  have taken : ∀ event ∈ events, event.taken? = event.took?.map (·, isHalted) := by
    intro event member
    cases event with
    | took id message wasHalted =>
        obtain nothing | same := found _ member
        · cases nothing
        · exact congrArg some (congrArg (message, ·) (Option.some.inj same))
    | _ => rfl
  have turns : ∀ event ∈ events, event.turn? = event.tried?.map (·, isHalted) := by
    intro event member
    cases event with
    | passed id message wasHalted failure =>
        obtain nothing | same := found _ member
        · cases nothing
        · exact congrArg some (congrArg (message, ·) (Option.some.inj same))
    | dropped id message wasHalted =>
        obtain nothing | same := found _ member
        · cases nothing
        · exact congrArg some (congrArg (message, ·) (Option.some.inj same))
    | _ => rfl
  rw [List.map_filterMap, List.map_filterMap]
  exact ⟨List.filterMap_congr taken, List.filterMap_congr turns⟩

/-- Nobody halts or resumes the system. -/
theorem isTrue_of_steady {isHalted : Bool} {events : List (Event M)}
    (steady : ∀ event ∈ events, event.switched? = none)
    (found : ∀ event ∈ events, event.found? = none ∨ event.found? = some isHalted) :
    IsTrue isHalted events ∧ haltedAfter isHalted events = isHalted := by
  induction events with
  | nil => exact ⟨trivial, rfl⟩
  | cons event rest inductionHypothesis =>
      obtain ⟨here, others⟩ := List.forall_mem_cons.mp steady
      obtain ⟨foundHere, foundOthers⟩ := List.forall_mem_cons.mp found
      obtain ⟨isTrue, still⟩ := inductionHypothesis others foundOthers
      unfold IsTrue haltedAfter
      rw [List.foldl_cons, here]
      exact ⟨⟨foundHere, isTrue⟩, still⟩

end Tabulation.Mailbox
