/-
What the steps of threads do to mailboxes and actors.

A task of a thread puts messages into mailboxes, makes actors and gives them threads.  A step in the
loop of an actor takes a message, decides about it or reports its failure.  What each of them
changes is said here once.  Every actor has at most one thread, since it gets one when it is made
and at no other time.
-/

import Tabulation.Proofs.Timelines

namespace Tabulation.Mailbox

variable {M : Type}

/-! ### What becomes of the actors -/

/-- Actors keep their paths and their behaviour, and those that are stopped stay so. -/
def System.Keeps (before after : System M) : Prop :=
  ∀ (id : Nat) (old : Actor M), before.actors[id]? = some old →
    ∃ actor, after.actors[id]? = some actor ∧ actor.path = old.path ∧ actor.role = old.role ∧
      (old.isStopped = true → actor.isStopped = true)

theorem keeps_of_actors {before after : System M} (same : after.actors = before.actors) :
    before.Keeps after :=
  fun _ old found => ⟨old, by rw [same, found], rfl, rfl, id⟩

theorem System.Keeps.trans {before middle after : System M} (first : before.Keeps middle)
    (second : middle.Keeps after) : before.Keeps after := by
  intro id old found
  obtain ⟨between, foundBetween, path, role, stops⟩ := first id old found
  obtain ⟨actor, foundActor, pathLater, roleLater, stopsLater⟩ := second id between foundBetween
  exact ⟨actor, foundActor, pathLater.trans path, roleLater.trans role, stopsLater ∘ stops⟩

theorem keeps_update (system : System M) (id : Nat) {change : Actor M → Actor M}
    (mild : ∀ actor, (change actor).path = actor.path ∧ (change actor).role = actor.role ∧
      (actor.isStopped = true → (change actor).isStopped = true)) :
    system.Keeps (system.update id change) := by
  intro other old found
  unfold System.update
  dsimp only
  rw [Array.getElem?_modify, found]
  split
  · exact ⟨_, rfl, mild old⟩
  · exact ⟨_, rfl, rfl, rfl, fun stopped => stopped⟩

theorem keeps_add (system : System M) (parent : Option Nat) (name : String) (role : Role M) :
    system.Keeps (system.add parent name role).2 := by
  intro id old found
  have inside : id < system.actors.size := (Array.getElem?_eq_some_iff.mp found).1
  refine ⟨old, ?_, rfl, rfl, fun stopped => stopped⟩
  unfold System.add
  dsimp only
  rw [Array.getElem?_push, if_neg (Nat.ne_of_lt inside), found]

/-- Nothing differs that is seen of a system, apart from actors that are stopped. -/
structure System.Resembles (before after : System M) : Prop where
  keeps : before.Keeps after
  size : after.actors.size = before.actors.size
  isHalted : after.isHalted = before.isHalted
  log : after.log = before.log
  pending : after.pending = before.pending

theorem resembles_of_same {before after : System M} (actors : after.actors = before.actors)
    (isHalted : after.isHalted = before.isHalted) (log : after.log = before.log)
    (pending : after.pending = before.pending) : before.Resembles after :=
  ⟨keeps_of_actors actors, congrArg Array.size actors, isHalted, log, pending⟩

theorem resembles_update (system : System M) (id : Nat) {change : Actor M → Actor M}
    (mild : ∀ actor, (change actor).path = actor.path ∧ (change actor).role = actor.role ∧
      (actor.isStopped = true → (change actor).isStopped = true)) :
    system.Resembles (system.update id change) :=
  ⟨keeps_update system id mild, Array.size_modify, rfl, rfl, rfl⟩

theorem System.Resembles.mailbox {before after : System M} (resembles : before.Resembles after)
    (id : Nat) :
    after.mailbox id = before.mailbox id := by
  unfold System.mailbox
  rw [resembles.pending]

theorem mailbox_append (system : System M) (receiver : Nat) (message : M) (id : Nat) :
    (system.enqueue receiver message).mailbox id =
      system.mailbox id ++ if receiver = id then [message] else [] := by
  unfold System.enqueue System.mailbox
  dsimp only
  rw [List.filter_append, List.map_append]
  by_cases own : receiver = id <;> simp [own]

theorem mailbox_takeFrom {system : System M} {id : Nat} {message : M} {rest : List (Nat × M)}
    (taken : System.takeFrom id system.pending = some (message, rest)) (other : Nat) :
    system.mailbox other =
      (if id = other then [message] else []) ++ System.mailbox
        { system with pending := rest } other := by
  unfold System.mailbox
  dsimp only
  generalize system.pending = pending at taken
  induction pending generalizing rest with
  | nil => simp only [System.takeFrom, reduceCtorEq] at taken
  | cons entry later inductionHypothesis =>
      unfold System.takeFrom at taken
      split at taken
      next own =>
        obtain ⟨rfl, rfl⟩ := Prod.mk.inj (Option.some.inj taken)
        obtain rfl := beq_iff_eq.mp own
        by_cases same : entry.1 = other <;> simp [same]
      next foreign =>
        obtain ⟨⟨found, others⟩, further, same⟩ := Option.map_eq_some_iff.mp taken
        obtain ⟨rfl, rfl⟩ := Prod.mk.inj same
        have shorter := inductionHypothesis further
        have differs : entry.1 ≠ id := fun same => foreign (beq_iff_eq.mpr same)
        by_cases ofOther : entry.1 = other
        · have notTaken : id ≠ other := fun same => differs (ofOther.trans same.symm)
          rw [if_neg notTaken] at shorter ⊢
          simpa [ofOther] using shorter
        · simpa [ofOther] using shorter

theorem mailbox_of_takeFrom_eq_none {system : System M} {id : Nat}
    (nothing : System.takeFrom id system.pending = none) : system.mailbox id = [] := by
  unfold System.mailbox
  rw [List.map_eq_nil_iff]
  generalize system.pending = pending at nothing
  induction pending with
  | nil => rfl
  | cons entry rest inductionHypothesis =>
      unfold System.takeFrom at nothing
      split at nothing
      next => cases nothing
      next foreign =>
        have skipped : (entry :: rest).filter (fun entry => entry.1 == id) =
            rest.filter fun entry => entry.1 == id := List.filter_cons_of_neg foreign
        rw [skipped]
        exact inductionHypothesis (Option.map_eq_none_iff.mp nothing)

/-! ### Who has a thread -/

def Task.launched? : Task M → Option Nat
  | .launch id => some id
  | _ => none

def Position.actor? : Position M → Option Nat
  | .outside _ => none
  | .inside id _ => some id

/-- The actor whose thread this is, and those to which it gives threads. -/
def Thread.staff (thread : Thread M) : List Nat :=
  thread.position.actor?.toList ++ thread.todo.filterMap Task.launched?

theorem launched_tasksOf (script : List (Act M)) : (tasksOf script).filterMap Task.launched? = [] := by
  unfold tasksOf
  rw [List.filterMap_map]
  exact List.filterMap_eq_nil_iff.mpr fun _ _ => rfl

/-! ### What a task changes -/

/-- Writes several lines. -/
def Log.writeAll (log : Log) (lines : List (Severity × String)) : Log :=
  lines.foldl (fun log line => log.write line.1 line.2) log

theorem Task.mem_events {task : Task M} {event : Event M} (member : event ∈ task.events) :
    (∃ receiver message, event = .enqueued receiver message) ∨
      (∃ isHalted, event = .switched isHalted) ∨ ∃ severity text, event = .wrote severity text := by
  unfold Task.events at member
  split at member
  next receiver message => exact .inl ⟨receiver, message, List.mem_singleton.mp member⟩
  next => exact .inr (.inl ⟨true, List.mem_singleton.mp member⟩)
  next => exact .inr (.inl ⟨false, List.mem_singleton.mp member⟩)
  next severity text => exact .inr (.inr ⟨severity, text, List.mem_singleton.mp member⟩)
  next => exact absurd member List.not_mem_nil

/-- Nothing of it is what an actor does with a message. -/
structure Event.IsOutside [Letter M] (event : Event M) : Prop where
  took : event.took? = none
  tried : event.tried? = none
  failing : event.failing? = none
  report : event.report? = none
  found : event.found? = none
  lawful : event.IsLawful
  suits : ∀ system, event.Suits system

theorem Task.isOutside [Letter M] {task : Task M} {event : Event M} (member : event ∈ task.events) :
    event.IsOutside := by
  rcases Task.mem_events member with ⟨_, _, rfl⟩ | ⟨_, rfl⟩ | ⟨_, _, rfl⟩ <;>
    exact ⟨rfl, rfl, rfl, rfl, rfl, trivial, fun _ => trivial⟩

/-- If a task halts or resumes the system, nothing else is seen of it. -/
theorem Task.events_switched (task : Task M) :
    (∀ event ∈ task.events, event.switched? = none) ∨
      ∃ isHalted, task.events = [.switched isHalted] := by
  unfold Task.events
  split
  next => exact .inl (List.forall_mem_singleton.mpr rfl)
  next => exact .inr ⟨true, rfl⟩
  next => exact .inr ⟨false, rfl⟩
  next => exact .inl (List.forall_mem_singleton.mpr rfl)
  next => exact .inl (List.forall_mem_nil _)

/-- A thread that does a task does not look whether the system is halted. -/
theorem Task.isTrue_events (task : Task M) (isHalted : Bool) : IsTrue isHalted task.events := by
  unfold Task.events
  split
  next => exact ⟨.inl rfl, trivial⟩
  next => exact ⟨.inl rfl, trivial⟩
  next => exact ⟨.inl rfl, trivial⟩
  next => exact ⟨.inl rfl, trivial⟩
  next => trivial

def Task.signalled? : Task M → Option Nat
  | .signal id => some id
  | _ => none

/-- The stages in which an actor does not go on by itself. -/
def Stage.isResting : Stage M → Bool
  | .waiting => true
  | .ended => true
  | _ => false

/-- What comes of a task, apart from what the thread itself holds. Only an actor that is made gets a
thread, and who puts a message into a mailbox wakes the actor next. -/
structure Task.Yields [Letter M] (task : Task M) (shared : Shared M) (effect : Effect M) : Prop where
  keeps : shared.system.Keeps effect.shared.system
  isHalted : effect.shared.system.isHalted = haltedAfter shared.system.isHalted task.events
  log : effect.shared.system.log =
    Log.writeAll shared.system.log (task.events.filterMap Event.line?)
  mailbox : ∀ id, effect.shared.system.mailbox id =
    shared.system.mailbox id ++ (about id task.events).filterMap Event.enqueued?
  size : shared.system.actors.size ≤ effect.shared.system.actors.size
  staff : ∀ id, (effect.tasks.filterMap Task.launched?).count id +
    (effect.begun.flatMap Thread.staff).count id ≤ task.launched?.toList.count id +
      if shared.system.actors.size ≤ id ∧ id < effect.shared.system.actors.size then 1 else 0
  wakes : ∀ id, (about id task.events).filterMap Event.enqueued? ≠ [] → .signal id ∈ effect.tasks
  signals : shared.signals ++ task.signalled?.toList ⊆ effect.shared.signals
  fresh : ∀ thread ∈ effect.begun, ∀ id stage, thread.position = .inside id stage →
    stage.isResting = false

namespace Shared

variable [Letter M] {shared after : Shared M} {chance : Chance M} {held : Nat} {task : Task M}
  {effect : Effect M}

private theorem subset_of_append_nil (signals : List Nat) : signals ++ [] ⊆ signals := by
  rw [List.append_nil]
  exact List.Subset.refl signals

/-- A task that is not seen and gives no actor a thread. -/
private theorem yields_of_unseen {tasks : List (Task M)} (unseen : task.events = [])
    (resembles : shared.system.Resembles after.system) (noThread : tasks.filterMap Task.launched? = [])
    (signals : shared.signals ++ task.signalled?.toList ⊆ after.signals) :
    task.Yields shared { shared := after, tasks, held } where
  keeps := resembles.keeps
  isHalted := by
    rw [unseen]
    exact resembles.isHalted
  log := by
    rw [unseen]
    exact resembles.log
  mailbox := fun id => by
    rw [unseen]
    exact (resembles.mailbox id).trans (List.append_nil _).symm
  size := Nat.le_of_eq resembles.size.symm
  staff := fun id => by
    rw [noThread]
    exact Nat.zero_le _
  wakes := fun id sent => by
    rw [unseen] at sent
    exact absurd rfl sent
  signals := signals
  fresh := List.forall_mem_nil _

/-- The thread of an actor that is made. -/
private theorem launch_yields {id : Nat}
    (done : shared.perform? chance held (.launch id) = some effect) :
    Task.Yields (.launch id) shared effect := by
  obtain ⟨actor, -, rfl⟩ := Option.map_eq_some_iff.mp done
  exact
    { keeps := keeps_of_actors rfl
      isHalted := rfl
      log := rfl
      mailbox := fun _ => (List.append_nil _).symm
      size := Nat.le_refl _
      staff := fun other => by
        refine Nat.le_trans ?_ (Nat.le_add_right _ _)
        dsimp only
        split
        · exact Nat.zero_le _
        · unfold threadOf
          split <;> simp [Thread.staff, Position.actor?, launched_tasksOf, Task.launched?]
      wakes := fun _ sent => absurd rfl sent
      signals := subset_of_append_nil _
      fresh := fun thread member other stage position => by
        dsimp only at member
        split at member
        · exact absurd member List.not_mem_nil
        · obtain rfl := List.mem_singleton.mp member
          unfold threadOf at position
          split at position <;> obtain ⟨rfl, rfl⟩ := Position.inside.inj position <;> rfl }

private theorem spawn_yields {parent : Option Nat} {name : String} {role : Role M}
    (done : shared.perform? chance held (.act (.spawn parent name role)) = some effect) :
    Task.Yields (.act (.spawn parent name role)) shared effect := by
  obtain rfl := Option.some.inj done
  have size : (shared.system.add parent name role).2.actors.size = shared.system.actors.size + 1 :=
    Array.size_push _
  exact
    { keeps := keeps_add shared.system parent name role
      isHalted := rfl
      log := rfl
      mailbox := fun _ => (List.append_nil _).symm
      size := size ▸ Nat.le_succ _
      staff := fun id => by
        rw [List.filterMap_append, launched_tasksOf]
        change [shared.system.actors.size].count id + 0 ≤ 0 + if shared.system.actors.size ≤ id ∧
          id < (shared.system.add parent name role).2.actors.size then 1 else 0
        rw [size, List.count_singleton]
        split <;> split <;> simp_all
      wakes := fun _ sent => absurd rfl sent
      signals := subset_of_append_nil _
      fresh := List.forall_mem_nil _ }

theorem perform_yields (done : shared.perform? chance held task = some effect) :
    task.Yields shared effect := by
  have old : shared.signals ++ [] ⊆ shared.signals := subset_of_append_nil _
  have still : shared.system.Resembles shared.system := resembles_of_same rfl rfl rfl rfl
  cases task with
  | count receiver message =>
      obtain rfl := Option.some.inj done
      exact yields_of_unseen rfl (resembles_of_same rfl rfl rfl rfl) rfl old
  | enqueue receiver message =>
      obtain rfl := Option.some.inj done
      exact
        { keeps := keeps_of_actors rfl
          isHalted := rfl
          log := rfl
          mailbox := fun id => by
            refine (mailbox_append shared.system receiver message id).trans ?_
            by_cases own : receiver = id <;>
              simp [Task.events, about, Event.isAbout, Event.enqueued?, own]
          size := Nat.le_refl _
          staff := fun _ => Nat.zero_le _
          wakes := fun id => by
            by_cases own : receiver = id <;>
              simp [Task.events, about, Event.isAbout, Event.enqueued?, own]
          signals := old
          fresh := List.forall_mem_nil _ }
  | signal receiver =>
      obtain rfl := Option.some.inj done
      exact yields_of_unseen rfl still rfl (List.perm_append_singleton _ _).subset
  | launch id => exact launch_yields done
  | act act =>
      cases act with
      | send receiver message =>
          simp only [perform?] at done
          split at done
          all_goals
            obtain rfl := Option.some.inj done
            exact yields_of_unseen rfl still rfl old
      | release | entrust =>
          cases held with
          | zero => simp only [perform?, reduceCtorEq] at done
          | succ held =>
              obtain rfl := Option.some.inj done
              exact yields_of_unseen rfl (resembles_of_same rfl rfl rfl rfl) rfl old
      | takeOver =>
          simp only [perform?] at done
          split at done
          next => cases done
          next =>
            obtain rfl := Option.some.inj done
            exact yields_of_unseen rfl still rfl old
      | stop id =>
          obtain rfl := Option.some.inj done
          exact yields_of_unseen rfl (resembles_update _ id fun _ => ⟨rfl, rfl, fun _ => rfl⟩) rfl old
      | pause id waits =>
          obtain rfl := Option.some.inj done
          exact yields_of_unseen rfl
            (resembles_update _ id fun _ => ⟨rfl, rfl, fun same => same⟩) rfl old
      | spawn parent name role => exact spawn_yields done
      | halt | resume | write =>
          obtain rfl := Option.some.inj done
          exact
            { keeps := keeps_of_actors rfl
              isHalted := rfl
              log := rfl
              mailbox := fun _ => (List.append_nil _).symm
              size := Nat.le_refl _
              staff := fun _ => Nat.zero_le _
              wakes := fun _ sent => absurd rfl sent
              signals := old
              fresh := List.forall_mem_nil _ }
      | hold | close | record | ask | arrange =>
          obtain rfl := Option.some.inj done
          exact yields_of_unseen rfl (resembles_of_same rfl rfl rfl rfl) rfl old

end Shared

/-! ### What a step in the loop of an actor changes -/

/-- The message that an actor took and did not decide about. -/
def Stage.untried : Stage M → List M
  | .taken message => [message]
  | _ => []

/-- The failure that an actor did not report. -/
def Stage.unreported : Stage M → List (M × Failure)
  | .receiving message (some failure) => [(message, failure)]
  | _ => []

/-- Where an actor comes to rest. It only begins to wait when its mailbox is empty, and only ends
when it is stopped. -/
structure Stage.Rests (id : Nat) (later : Stage M) (after : Shared M) : Prop where
  waits : later = .waiting → after.system.mailbox id = []
  ends : later = .ended → ∀ actor, after.system.actors[id]? = some actor → actor.isStopped = true

theorem rests_of_going {id : Nat} {later : Stage M} {after : Shared M}
    (goes : later.isResting = false) :
    later.Rests id after := by
  constructor <;> rintro rfl <;> cases goes

/-- What comes of a step in the loop of an actor. -/
structure Stage.Yields [Letter M] (id : Nat) (stage later : Stage M) (before after : Shared M)
    (seen : List (Event M)) : Prop where
  keeps : before.system.Keeps after.system
  size : after.system.actors.size = before.system.actors.size
  isHalted : after.system.isHalted = before.system.isHalted
  log : after.system.log = Log.writeAll before.system.log (seen.filterMap Event.line?)
  mailbox : ∀ other, before.system.mailbox other =
    (about other seen).filterMap Event.took? ++ after.system.mailbox other
  untried : stage.untried ++ (about id seen).filterMap Event.took? =
    (about id seen).filterMap Event.tried? ++ later.untried
  unreported : stage.unreported ++ (about id seen).filterMap Event.failing? =
    (about id seen).filterMap Event.report? ++ later.unreported
  elsewhere : ∀ other, other ≠ id → about other seen = []
  inward : ∀ event ∈ seen, event.enqueued? = none ∧ event.switched? = none
  found : ∀ event ∈ seen, event.found? = none ∨ event.found? = some before.system.isHalted
  lawful : ∀ event ∈ seen, event.IsLawful
  suits : ∀ event ∈ seen, id < before.system.actors.size → event.Suits before.system
  rests : later.Rests id after
  signals : ∀ other, other ≠ id → other ∈ before.signals → other ∈ after.signals

namespace Shared

variable [Letter M] {shared after : Shared M} {chance : Chance M} {id : Nat} {stage later : Stage M}
  {script : List (Act M)}

/-- A step in the loop that is not seen. -/
private theorem loop_yields_of_unseen (resembles : shared.system.Resembles after.system)
    (signals : ∀ other, other ≠ id → other ∈ shared.signals → other ∈ after.signals)
    (untried : stage.untried = later.untried) (unreported : stage.unreported = later.unreported)
    (rests : later.Rests id after) : Stage.Yields id stage later shared after [] where
  keeps := resembles.keeps
  size := resembles.size
  isHalted := resembles.isHalted
  log := resembles.log
  mailbox := fun other => (resembles.mailbox other).symm
  untried := (List.append_nil _).trans untried
  unreported := (List.append_nil _).trans unreported
  elsewhere := fun _ _ => rfl
  inward := List.forall_mem_nil _
  found := List.forall_mem_nil _
  lawful := List.forall_mem_nil _
  suits := List.forall_mem_nil _
  rests := rests
  signals := signals

private theorem loop_yields_of_seen {event : Event M}
    (own : ∀ other, event.isAbout other = (id == other))
    (same : after.system.actors = shared.system.actors ∧
      after.system.isHalted = shared.system.isHalted ∧
      after.signals = shared.signals)
    (log : after.system.log = Log.writeAll shared.system.log event.line?.toList)
    (mailbox : ∀ other, shared.system.mailbox other =
      (if id = other then event.took?.toList else []) ++ after.system.mailbox other)
    (untried : stage.untried ++ event.took?.toList = event.tried?.toList ++ later.untried)
    (unreported : stage.unreported ++ event.failing?.toList = event.report?.toList ++ later.unreported)
    (inward : event.enqueued? = none ∧ event.switched? = none)
    (found : event.found? = none ∨ event.found? = some shared.system.isHalted) (lawful : event.IsLawful)
    (suits : id < shared.system.actors.size → event.Suits shared.system)
    (goes : later.isResting = false) : Stage.Yields id stage later shared after [event] := by
  have here : about id [event] = [event] :=
      List.filter_cons_of_pos ((own id).trans (beq_self_eq_true id))
  have elsewhere : ∀ other, other ≠ id → about other [event] = [] := fun other differs =>
    List.filter_cons_of_neg fun isAbout => differs (beq_iff_eq.mp ((own other).symm.trans isAbout)).symm
  have single : ∀ {β : Type} (part : Event M → Option β), [event].filterMap part =
      (part event).toList := by
    intro β part
    rw [List.filterMap_cons, List.filterMap_nil]
    cases part event <;> rfl
  obtain ⟨actors, isHalted, signals⟩ := same
  exact
    { keeps := keeps_of_actors actors
      size := congrArg Array.size actors
      isHalted
      log := by rw [log, single]
      mailbox := fun other => by
        rw [mailbox other]
        split
        next same => rw [← same, here, single]
        next differs => rw [elsewhere other fun same => differs same.symm, List.filterMap_nil]
      untried := by rw [here, single, single, untried]
      unreported := by rw [here, single, single, unreported]
      elsewhere
      inward := List.forall_mem_singleton.mpr inward
      found := List.forall_mem_singleton.mpr found
      lawful := List.forall_mem_singleton.mpr lawful
      suits := List.forall_mem_singleton.mpr suits
      rests := rests_of_going goes
      signals := fun other _ old => signals.symm ▸ old }

/-- A step in the loop that says in the log that other code of the actor failed. -/
private theorem loop_yields_of_line (text : String) (untried : stage.untried = later.untried)
    (unreported : stage.unreported = later.unreported) (goes : later.isResting = false) :
    Stage.Yields id stage later shared (shared.on (·.note id .error text))
      [.wrote .error (shared.system.pathOf (some id) ++ ": " ++ text)] where
  keeps := keeps_of_actors rfl
  size := rfl
  isHalted := rfl
  log := rfl
  mailbox := fun _ => rfl
  untried := (List.append_nil _).trans untried
  unreported := (List.append_nil _).trans unreported
  elsewhere := fun _ _ => rfl
  inward := List.forall_mem_singleton.mpr ⟨rfl, rfl⟩
  found := List.forall_mem_singleton.mpr (.inl rfl)
  lawful := List.forall_mem_singleton.mpr trivial
  suits := List.forall_mem_singleton.mpr fun _ => trivial
  rests := rests_of_going goes
  signals := fun _ _ old => old

/-- The thread of an actor that is stopped ends. -/
private theorem loop_yields_of_end (untried : stage.untried = []) (unreported : stage.unreported = []) :
    Stage.Yields id stage .ended shared (shared.on (·.mark id)) [] := by
  refine loop_yields_of_unseen (resembles_update _ id fun _ => ⟨rfl, rfl, fun _ => rfl⟩)
    (fun _ _ old => old) untried unreported ⟨(by rintro ⟨⟩), fun _ actor found => ?_⟩
  simp only [on, System.mark, System.update, Array.getElem?_modify, if_true] at found
  obtain ⟨old, -, rfl⟩ := Option.map_eq_some_iff.mp found
  rfl

theorem proceed_yields (went : shared.proceed? chance id stage = some (after, later, script)) :
    Stage.Yields id stage later shared after (stage.events shared.system id later) := by
  have still : shared.system.Resembles shared.system := resembles_of_same rfl rfl rfl rfl
  have sameMailbox : ∀ other, shared.system.mailbox other =
      (if id = other then [] else []) ++ shared.system.mailbox other := fun _ => by rw [ite_self]; rfl
  have old : ∀ other, other ≠ id → other ∈ shared.signals → other ∈ shared.signals := fun _ _ old => old
  cases stage with
  | starting failure =>
      cases failure <;> obtain ⟨rfl, rfl, rfl⟩ := Prod.mk.inj (Option.some.inj went)
      · exact loop_yields_of_unseen still old rfl rfl (rests_of_going rfl)
      · exact loop_yields_of_line _ rfl rfl rfl
  | next =>
      simp only [proceed?] at went
      split at went
      next message rest taken =>
        obtain ⟨rfl, rfl, rfl⟩ := Prod.mk.inj (Option.some.inj went)
        exact loop_yields_of_seen (fun _ => rfl) ⟨rfl, rfl, rfl⟩ rfl (mailbox_takeFrom taken) rfl rfl
          ⟨rfl, rfl⟩ (.inr rfl) trivial (fun _ => trivial) rfl
      next empty =>
        obtain ⟨rfl, rfl, rfl⟩ := Prod.mk.inj (Option.some.inj went)
        exact loop_yields_of_unseen still old rfl rfl
          ⟨fun _ => mailbox_of_takeFrom_eq_none empty, (by rintro ⟨⟩)⟩
  | waiting =>
      simp only [proceed?] at went
      split at went
      · split at went
        · obtain ⟨rfl, rfl, rfl⟩ := Prod.mk.inj (Option.some.inj went)
          exact loop_yields_of_end rfl rfl
        · cases went
      · split at went
        · obtain ⟨rfl, rfl, rfl⟩ := Prod.mk.inj (Option.some.inj went)
          exact loop_yields_of_unseen (resembles_of_same rfl rfl rfl rfl)
            (fun other differs old => List.mem_filter.mpr ⟨old, decide_eq_true differs⟩) rfl rfl
            (rests_of_going rfl)
        · cases went
  | taken message =>
      simp only [proceed?] at went
      split at went
      next drops =>
        obtain ⟨rfl, rfl, rfl⟩ := Prod.mk.inj (Option.some.inj went)
        exact loop_yields_of_seen (fun _ => rfl) ⟨rfl, rfl, rfl⟩ rfl sameMailbox rfl rfl ⟨rfl, rfl⟩
          (.inr rfl) drops (fun _ => trivial) rfl
      next passes =>
        obtain ⟨rfl, rfl, rfl⟩ := Prod.mk.inj (Option.some.inj went)
        refine loop_yields_of_seen (fun _ => rfl) ⟨rfl, rfl, rfl⟩ rfl sameMailbox rfl ?_ ⟨rfl, rfl⟩
          (.inr rfl) (Bool.eq_false_iff.mpr passes) (fun _ => trivial) rfl
        cases chance.failure <;> rfl
  | receiving message failure =>
      cases failure with
      | none =>
          obtain ⟨rfl, rfl, rfl⟩ := Prod.mk.inj (Option.some.inj went)
          exact loop_yields_of_unseen still old rfl rfl (rests_of_going rfl)
      | some failure =>
          simp only [proceed?] at went
          split at went
          next code found =>
            obtain ⟨rfl, rfl, rfl⟩ := Prod.mk.inj (Option.some.inj went)
            refine loop_yields_of_seen (fun _ => rfl) ⟨rfl, rfl, rfl⟩ rfl sameMailbox rfl rfl ⟨rfl, rfl⟩
              (.inl rfl) trivial (fun _ => ?_) rfl
            obtain ⟨actor, here, recover⟩ := Option.bind_eq_some_iff.mp found
            exact ⟨actor, here, Option.isSome_iff_exists.mpr ⟨code, recover⟩⟩
          next absent =>
            obtain ⟨rfl, rfl, rfl⟩ := Prod.mk.inj (Option.some.inj went)
            refine loop_yields_of_seen (fun _ => rfl) ⟨rfl, rfl, rfl⟩ rfl sameMailbox rfl rfl ⟨rfl, rfl⟩
              (.inl rfl) trivial (fun inside => ?_) rfl
            have here : shared.system.actors[id]? = some shared.system.actors[id] :=
              Array.getElem?_eq_getElem inside
            refine ⟨_, here, Option.bind_eq_none_iff.mp absent _ here, ?_⟩
            simp only [System.pathOf, here]
            rfl
  | recovering message failure =>
      cases failure <;> obtain ⟨rfl, rfl, rfl⟩ := Prod.mk.inj (Option.some.inj went)
      · exact loop_yields_of_unseen still old rfl rfl (rests_of_going rfl)
      · exact loop_yields_of_line _ rfl rfl rfl
  | finishing message =>
      obtain ⟨rfl, rfl, rfl⟩ := Prod.mk.inj (Option.some.inj went)
      exact loop_yields_of_unseen (resembles_of_same rfl rfl rfl rfl) old rfl rfl (rests_of_going rfl)
  | between =>
      simp only [proceed?] at went
      split at went
      · obtain ⟨rfl, rfl, rfl⟩ := Prod.mk.inj (Option.some.inj went)
        exact loop_yields_of_end rfl rfl
      · obtain ⟨rfl, rfl, rfl⟩ := Prod.mk.inj (Option.some.inj went)
        exact loop_yields_of_unseen still old rfl rfl (rests_of_going rfl)
  | ended => simp only [proceed?, reduceCtorEq] at went

end Shared

/-! ### One thread for each actor -/

namespace Concurrent

variable {state after : Concurrent M}

/-- Every actor has at most one thread or will be given one, and only what is an actor has one. -/
def IsManned (state : Concurrent M) : Prop :=
  ∀ id, (state.threads.flatMap Thread.staff).count id ≤
    if id < state.shared.system.actors.size then 1 else 0

theorem isManned_start (name : String) (role : Role M) (log : Log) : (start name role log).IsManned :=
  fun _ => Nat.zero_le _

theorem IsManned.not_mem {shared : Shared M} {front back : List (Thread M)}
    {thread : Thread M} {id : Nat}
    (manned : IsManned ⟨shared, front ++ thread :: back⟩) (isOwn : id ∈ thread.staff) :
    id < shared.system.actors.size ∧ ∀ other ∈ front ++ back, id ∉ other.staff := by
  have count := manned id
  have own := List.count_pos_iff.mpr isOwn
  rw [List.flatMap_append, List.flatMap_cons, List.count_append, List.count_append] at count
  dsimp only at count
  constructor
  · by_contra outside
    rw [if_neg outside] at count
    omega
  · intro other member isOther
    have several : 0 < (front.flatMap Thread.staff).count id +
        (back.flatMap Thread.staff).count id := by
      rw [← List.count_append, ← List.flatMap_append]
      exact List.count_pos_iff.mpr (List.mem_flatMap.mpr ⟨other, member, isOther⟩)
    split at count <;> omega

/-- The threads of actors, with one thread set apart. -/
private theorem count_staff (front back : List (Thread M)) (thread : Thread M) (id : Nat) :
    ((front ++ thread :: back).flatMap Thread.staff).count id =
      thread.staff.count id + ((front ++ back).flatMap Thread.staff).count id := by
  rw [List.flatMap_append, List.flatMap_cons, List.flatMap_append]
  simp only [List.count_append]
  omega

variable [Letter M]

theorem IsManned.step {choice : Choice M} (manned : state.IsManned)
    (stepped : state.step? choice = some after) : after.IsManned := by
  rcases step_events stepped with ⟨program, -, rfl⟩ |
    ⟨chance, front, position, task, rest, held, back, effect, threads, done, -, rfl⟩ |
    ⟨chance, front, id, stage, held, back, shared, later, script, threads, went, -, rfl⟩
  · intro id
    have new : Thread.staff ⟨.outside program, tasksOf program, 0⟩ = [] := launched_tasksOf program
    dsimp only
    rw [List.flatMap_append, List.flatMap_singleton, new, List.append_nil]
    exact manned id
  · intro id
    have before := manned id
    have yields := Shared.perform_yields done
    have size := yields.size
    have staff := yields.staff id
    rw [threads, count_staff] at before
    rw [List.flatMap_append, List.count_append, count_staff]
    have cons : Thread.staff ⟨position, task :: rest, held⟩ =
        position.actor?.toList ++ (task.launched?.toList ++ rest.filterMap Task.launched?) := by
      unfold Thread.staff
      cases task <;> rfl
    have append : Thread.staff ⟨position, effect.tasks ++ rest, effect.held⟩ = position.actor?.toList ++
        (effect.tasks.filterMap Task.launched? ++ rest.filterMap Task.launched?) := by
      unfold Thread.staff
      rw [List.filterMap_append]
    rw [cons] at before
    rw [append]
    simp only [List.count_append] at before ⊢
    split at before <;> split at staff <;> split <;> omega
  · intro id'
    have before := manned id'
    have same : Thread.staff ⟨.inside id later, tasksOf script, held⟩ =
        Thread.staff ⟨.inside id stage, [], held⟩ := by
      unfold Thread.staff
      rw [launched_tasksOf]
      rfl
    rw [threads, count_staff] at before
    rw [count_staff, same, (Shared.proceed_yields went).size]
    exact before

end Concurrent

end Tabulation.Mailbox
