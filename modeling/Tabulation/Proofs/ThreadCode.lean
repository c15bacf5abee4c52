/-
What code does, done step by step by one thread.

The running system does at once what code does: a send, a spawn, all deeds of an actor.  A thread
does it in many steps.  While the other threads rest, it comes to the same: the system is the same
afterwards, and every actor that was made has a thread of its own that is ready.
-/

import Tabulation.Proofs.Quiescence

namespace Tabulation.Mailbox

variable {M : Type}

/-! ### What becomes of the actors -/

/-- The thread of an actor that can take a message. -/
def readyAt (id : Nat) : Thread M := { position := .inside id .next }

/-- The thread of an actor that waits in its code. -/
def pausedAt (id : Nat) (message : M) : Thread M :=
  { position := .inside id (.receiving message none), todo := [.act (.pause id false)] }

/-- The actors stay what they are, apart from being stopped, and new ones have threads. -/
structure Grows (before after : System M) (begun : List (Thread M)) : Prop where
  stays : ∀ (id : Nat) (old : Actor M), before.actors[id]? = some old →
    ∃ actor, after.actors[id]? = some actor ∧ actor.role = old.role ∧
      actor.isWaiting = old.isWaiting ∧ (old.isStopped = true → actor.isStopped = true)
  begins : ∀ (id : Nat) (actor : Actor M), after.actors[id]? = some actor → before.actors[id]? = none →
    actor.isWaiting = false ∧ (actor.isStopped = false → readyAt id ∈ begun)

theorem Grows.of_actors {before after : System M} (same : after.actors = before.actors) :
    Grows before after [] where
  stays := fun _ old found => ⟨old, by rw [same, found], rfl, rfl, fun stopped => stopped⟩
  begins := fun _ _ found new => by
    rw [same, new] at found
    exact nomatch found

theorem Grows.trans {before middle after : System M} {begun more : List (Thread M)}
    (first : Grows before middle begun) (second : Grows middle after more) :
    Grows before after (begun ++ more) where
  stays := by
    intro id old found
    obtain ⟨between, foundBetween, sameRole, sameWait, stops⟩ := first.stays id old found
    obtain ⟨actor, foundActor, role, wait, stopsLater⟩ := second.stays id between foundBetween
    exact ⟨actor, foundActor, role.trans sameRole, wait.trans sameWait,
      fun stopped => stopsLater (stops stopped)⟩
  begins := by
    intro id actor found new
    cases between : middle.actors[id]? with
    | none =>
        obtain ⟨noWait, ready⟩ := second.begins id actor found between
        exact ⟨noWait, fun live => List.mem_append_right _ (ready live)⟩
    | some newer =>
        obtain ⟨noWait, ready⟩ := first.begins id newer between new
        obtain ⟨same, foundSame, -, wait, stops⟩ := second.stays id newer between
        obtain rfl := Option.some.inj (foundSame.symm.trans found)
        refine ⟨wait.trans noWait, fun live => List.mem_append_left _ (ready ?_)⟩
        cases stopped : newer.isStopped with
        | false => rfl
        | true => exact nomatch (stops stopped).symm.trans live

theorem grows_mark (system : System M) (id : Nat) : Grows system (system.mark id) [] where
  stays := by
    intro other old found
    unfold System.mark System.update
    dsimp only
    rw [Array.getElem?_modify, found]
    by_cases same : id = other
    · rw [if_pos same]
      exact ⟨_, rfl, rfl, rfl, fun _ => rfl⟩
    · rw [if_neg same]
      exact ⟨_, rfl, rfl, rfl, fun stopped => stopped⟩
  begins := by
    intro other actor found new
    unfold System.mark System.update at found
    dsimp only at found
    rw [Array.getElem?_modify, new] at found
    split at found <;> exact nomatch found

theorem grows_add (system : System M) (parent : Option Nat) (name : String) (role : Role M)
    {begun : List (Thread M)}
    (ready : system.isStopped parent = false → readyAt system.actors.size ∈ begun) :
    Grows system (system.add parent name role).2 begun where
  stays := by
    intro id old found
    have inside : id < system.actors.size := (Array.getElem?_eq_some_iff.mp found).1
    refine ⟨old, ?_, rfl, rfl, fun stopped => stopped⟩
    unfold System.add
    dsimp only
    rw [Array.getElem?_push, if_neg (Nat.ne_of_lt inside), found]
  begins := by
    intro id actor found new
    unfold System.add at found
    dsimp only at found
    rw [Array.getElem?_push, new] at found
    split at found
    next last =>
      obtain rfl := Option.some.inj found
      rw [last]
      exact ⟨rfl, ready⟩
    next => exact nomatch found

variable [Letter M]

/-! ### One thread goes on -/

namespace Concurrent

variable {state middle after : Concurrent M}

/-- Some steps lead from one state to another. -/
def Leads (state after : Concurrent M) : Prop := ∃ choices, state.run? choices = some after

theorem Leads.refl (state : Concurrent M) : state.Leads state := ⟨[], rfl⟩

theorem Leads.trans (first : state.Leads middle) (second : middle.Leads after) :
    state.Leads after := by
  obtain ⟨choices, ran⟩ := first
  obtain ⟨further, went⟩ := second
  refine ⟨choices ++ further, ?_⟩
  unfold run? at *
  rw [List.foldlM_append, ran]
  exact went

theorem leads_of_step {choice : Choice M} (stepped : state.step? choice = some after) :
    state.Leads after := by
  refine ⟨[choice], ?_⟩
  unfold run?
  rw [List.foldlM_cons, stepped]
  rfl

end Concurrent

private theorem set_of_getElem? {α : Type} {items : List α} {number : Nat} {item : α}
    (here : items[number]? = some item) : items.set number item = items := by
  obtain ⟨inside, rfl⟩ := List.getElem?_eq_some_iff.mp here
  exact List.set_getElem_self inside

namespace Thread

variable {thread between later newborn grown : Thread M} {begun more : List (Thread M)}
  {shared middle after : Shared M}

/-- A thread gets somewhere while the others rest, and some threads begin. -/
def Goes (thread : Thread M) (shared after : Shared M) (later : Thread M)
    (begun : List (Thread M)) : Prop :=
  ∀ (threads : List (Thread M)) (number : Nat), threads[number]? = some thread →
    Concurrent.Leads ⟨shared, threads⟩ ⟨after, threads.set number later ++ begun⟩

theorem Goes.refl (thread : Thread M) (shared : Shared M) : thread.Goes shared shared thread [] := by
  intro threads number here
  rw [set_of_getElem? here, List.append_nil]
  exact .refl _

theorem Goes.trans (first : thread.Goes shared middle between begun)
    (second : between.Goes middle after later more) :
    thread.Goes shared after later (begun ++ more) := by
  intro threads number here
  have inside : number < threads.length := (List.getElem?_eq_some_iff.mp here).1
  have still : number < (threads.set number between).length := by rwa [List.length_set]
  have there : (threads.set number between ++ begun)[number]? = some between := by
    rw [List.getElem?_append_left still, List.getElem?_set_self inside]
  have further := second _ number there
  rw [List.set_append_left number later still, List.set_set, List.append_assoc] at further
  exact (first threads number here).trans further

theorem Goes.begin (first : thread.Goes shared middle later [newborn])
    (second : newborn.Goes middle after grown more) :
    thread.Goes shared after later (grown :: more) := by
  intro threads number here
  have last : (threads.set number later ++ [newborn])[(threads.set number later).length]? =
      some newborn := List.getElem?_concat_length
  have further := second _ _ last
  rw [List.set_append_right _ _ (Nat.le_refl _), Nat.sub_self, List.append_assoc] at further
  exact (first threads number here).trans further

theorem goes_of_move {chance : Chance M}
    (moved : shared.move? chance thread = some (after, later, begun)) :
    thread.Goes shared after later begun := by
  intro threads number here
  have stepped : Concurrent.step? ⟨shared, threads⟩ (.move number chance) =
      some ⟨after, threads.set number later ++ begun⟩ :=
    Option.bind_eq_some_iff.mpr ⟨thread, here, Option.bind_eq_some_iff.mpr ⟨_, moved, rfl⟩⟩
  exact Concurrent.leads_of_step stepped

theorem goes_task {chance : Chance M} {position : Position M} {task : Task M} {held : Nat}
    {effect : Effect M} (done : shared.perform? chance held task = some effect)
    (rest : List (Task M)) :
    Goes ⟨position, task :: rest, held⟩ shared effect.shared
      ⟨position, effect.tasks ++ rest, effect.held⟩ effect.begun := by
  apply goes_of_move
  unfold Shared.move?
  dsimp only
  rw [done]
  rfl

theorem goes_loop {chance : Chance M} {id held : Nat} {stage stage' : Stage M}
    {script : List (Act M)}
    (went : shared.proceed? chance id stage = some (after, stage', script)) :
    Goes ⟨.inside id stage, [], held⟩ shared after ⟨.inside id stage', tasksOf script, held⟩ [] := by
  apply goes_of_move
  unfold Shared.move?
  dsimp only
  rw [went]
  rfl

end Thread

/-! ### What code does -/

/-- A thread that has some tasks to do can do them while the others rest, and this changes the
system. -/
def Does (tasks : List (Task M)) (before after : System M) : Prop :=
  ∀ (shared : Shared M) (position : Position M) (rest : List (Task M)) (held : Nat),
    shared.system = before →
    ∃ (next : Shared M) (begun : List (Thread M)), next.system = after ∧ Grows before after begun ∧
      Thread.Goes ⟨position, tasks ++ rest, held⟩ shared next ⟨position, rest, held⟩ begun

theorem does_nil (system : System M) : Does [] system system := by
  intro shared position rest held same
  exact ⟨shared, [], same, .of_actors rfl, .refl _ _⟩

theorem Does.append {before middle after : System M} {tasks further : List (Task M)}
    (first : Does tasks before middle) (second : Does further middle after) :
    Does (tasks ++ further) before after := by
  intro shared position rest held same
  obtain ⟨between, begun, sameMiddle, grows, goes⟩ := first shared position (further ++ rest) held same
  obtain ⟨next, more, sameAfter, growsOn, goesOn⟩ := second between position rest held sameMiddle
  rw [← List.append_assoc] at goes
  exact ⟨next, begun ++ more, sameAfter, grows.trans growsOn, goes.trans goesOn⟩

/-- A task changes the system, and the tasks in its place do the rest. -/
theorem does_task {before middle after : System M} {task : Task M} {tasks : List (Task M)}
    (further : Does tasks middle after) (grows : Grows before middle [])
    (done : ∀ (shared : Shared M) (held : Nat), shared.system = before →
      ∃ (chance : Chance M) (next : Shared M), next.system = middle ∧
        shared.perform? chance held task = some { shared := next, held, tasks }) :
    Does [task] before after := by
  intro shared position rest held same
  obtain ⟨chance, between, sameMiddle, performed⟩ := done shared held same
  obtain ⟨next, more, sameAfter, growsOn, goesOn⟩ := further between position rest held sameMiddle
  exact ⟨next, [] ++ more, sameAfter, grows.trans growsOn,
    (Thread.goes_task performed rest).trans goesOn⟩

/-- What code comes to, with the line that follows when it crashes. -/
theorem does_code (chance : Chance M) {before after : System M}
    (does : Does (tasksOf chance.script) before after) (path : String) :
    Does (tasksOf (chance.code path)) before (after.noteStack path chance.failure) := by
  obtain ⟨script, failure, ends⟩ := chance
  cases failure with
  | none => exact does
  | some failure =>
      cases failure with
      | failed text => exact does
      | crashed text stack =>
          have code : Chance.code ⟨script, some (.crashed text stack), ends⟩ path =
              script ++ [.write .debug (stackLine path stack)] := rfl
          rw [code, tasksOf_append]
          refine does.append (does_task (does_nil _) (.of_actors rfl) fun shared held same => ?_)
          exact ⟨{}, _, congrArg (·.write .debug (stackLine path stack)) same, rfl⟩

/-- Some code leads from one system to another. -/
def ByCode (before after : System M) : Prop :=
  ∃ script : List (Act M), Does (tasksOf script) before after

theorem ByCode.refl (system : System M) : ByCode system system := ⟨[], does_nil system⟩

theorem ByCode.trans {before middle after : System M} (first : ByCode before middle)
    (second : ByCode middle after) : ByCode before after := by
  obtain ⟨script, does⟩ := first
  obtain ⟨further, doesOn⟩ := second
  refine ⟨script ++ further, ?_⟩
  rw [tasksOf_append]
  exact does.append doesOn

theorem byCode_of_act {system : System M} {change : System M → System M} (act : Act M)
    (grows : Grows system (change system) [])
    (done : ∀ (shared : Shared M) (held : Nat),
      shared.perform? {} held (.act act) = some { shared := shared.on change, held }) :
    ByCode system (change system) := by
  refine ⟨[act], does_task (does_nil _) grows fun shared held same => ?_⟩
  exact ⟨{}, shared.on change, congrArg change same, done shared held⟩

/-- What some code does again and again is done by code. -/
theorem byCode_foldl {α β : Type} {step : β → α → β} (systemOf : β → System M)
    (each : ∀ state item, ByCode (systemOf state) (systemOf (step state item)))
    (items : List α) (state : β) :
    ByCode (systemOf state) (systemOf (items.foldl step state)) := by
  induction items generalizing state with
  | nil => exact .refl _
  | cons item rest ih => exact (each state item).trans (ih (step state item))

/-! ### Sending -/

theorem byCode_post (system : System M) (id : Nat) (message : M) :
    ByCode system (system.post id message) := by
  unfold System.post
  cases stopped : system.isStopped (some id) with
  | true =>
      rw [if_pos rfl]
      refine ⟨[.send id message],
        does_task (does_nil system) (.of_actors rfl) fun shared held same => ⟨{}, shared, same, ?_⟩⟩
      unfold Shared.perform?
      dsimp only
      rw [same, stopped]
      rfl
  | false =>
      rw [if_neg Bool.false_ne_true]
      let posted : System M := system.hold.enqueue id message
      have signals : Does [.signal id] posted posted :=
        does_task (does_nil posted) (.of_actors rfl) fun shared held same =>
          ⟨{}, { shared with signals := id :: shared.signals }, same, rfl⟩
      have enqueues : Does [.enqueue id message] system.hold posted :=
        does_task signals (.of_actors rfl) fun shared held same =>
          ⟨{}, _, congrArg (·.enqueue id message) same, rfl⟩
      have counts : Does [.count id message] system posted :=
        does_task enqueues (.of_actors rfl) fun shared held same =>
          ⟨{}, _, congrArg System.hold same, rfl⟩
      refine ⟨[.send id message], does_task counts (.of_actors rfl) fun shared held same => ?_⟩
      refine ⟨{}, shared, same, ?_⟩
      unfold Shared.perform?
      dsimp only
      rw [same, stopped]
      rfl

/-! ### Making actors -/

omit [Letter M] in
theorem getElem?_add (system : System M) (parent : Option Nat) (name : String) (role : Role M) :
    (system.add parent name role).2.actors[system.actors.size]? =
      some ⟨system.pathOf parent ++ "/" ++ name, parent, role, system.isStopped parent, false⟩ :=
  Array.getElem?_push_size

/-- The thread that makes an actor, up to where the actor's own thread begins. -/
theorem goes_spawn (chance : Chance M) (shared : Shared M) (parent : Option Nat) (name : String)
    (role : Role M) (position : Position M) (rest : List (Task M)) (held : Nat) :
    Thread.Goes ⟨position, tasksOf [.spawn parent name role] ++ rest, held⟩ shared
      { shared with system := (shared.system.add parent name role).2 } ⟨position, rest, held⟩
      (if shared.system.isStopped parent then []
        else [Shared.threadOf chance shared.system.actors.size
          ⟨shared.system.pathOf parent ++ "/" ++ name, parent, role,
            shared.system.isStopped parent, false⟩]) := by
  have makes : shared.perform? {} held (.act (.spawn parent name role)) =
      some
        { shared := { shared with system := (shared.system.add parent name role).2 }, held
          tasks := [.launch shared.system.actors.size] } := rfl
  have launches : Shared.perform? chance
      { shared with system := (shared.system.add parent name role).2 } held
      (.launch shared.system.actors.size) = some _ :=
    congrArg (Option.map _) (getElem?_add shared.system parent name role)
  exact (Thread.goes_task makes rest).trans (Thread.goes_task launches rest)

/-- Where an actor is made that has something to do at its start, its thread does it. -/
theorem byCode_start {system started : System M} {parent : Option Nat} {role : Role M}
    {name : String} (failure : Option Failure) (hasStart : role.start.isSome)
    (live : system.isStopped parent = false)
    (code : ByCode (system.add parent name role).2 started) :
    ByCode system
      (match failure with
        | none => started.noteStack (system.pathOf parent ++ "/" ++ name) failure
        | some cause =>
          (started.noteStack (system.pathOf parent ++ "/" ++ name) failure).note system.actors.size .error
            ("failed to start: " ++ cause.message)) := by
  obtain ⟨script, does⟩ := code
  have called := does_code { script, failure } does (system.pathOf parent ++ "/" ++ name)
  refine ⟨[.spawn parent name role], ?_⟩
  rintro shared position rest held rfl
  obtain ⟨reaction, isStart⟩ := Option.isSome_iff_exists.mp hasStart
  have made := goes_spawn { script, failure } shared parent name role position rest held
  rw [if_neg (Bool.eq_false_iff.mp live)] at made
  unfold Shared.threadOf at made
  simp only [isStart] at made
  obtain ⟨next, begun, same, grows, goes⟩ :=
    called { shared with system := (shared.system.add parent name role).2 }
      (.inside shared.system.actors.size (.starting failure)) [] 0 rfl
  rw [List.append_nil] at goes
  dsimp only at same
  rw [← same] at grows ⊢
  have added : Grows shared.system _ [readyAt shared.system.actors.size] :=
    grows_add shared.system parent name role fun _ => List.mem_singleton_self _
  cases failure with
  | none =>
      have went : next.proceed? {} shared.system.actors.size (.starting none) =
          some (next, .next, []) := rfl
      have same : Grows next.system next.system [] := .of_actors rfl
      exact ⟨next, readyAt shared.system.actors.size :: (begun ++ []), rfl,
        added.trans (grows.trans same), made.begin (goes.trans (Thread.goes_loop went))⟩
  | some failure =>
      let noted : Shared M :=
        next.on (·.note shared.system.actors.size .error ("failed to start: " ++ failure.message))
      have went : next.proceed? {} shared.system.actors.size (.starting (some failure)) =
          some (noted, .next, []) := rfl
      have same : Grows next.system noted.system [] := .of_actors rfl
      exact ⟨noted, readyAt shared.system.actors.size :: (begun ++ []), rfl,
        added.trans (grows.trans same), made.begin (goes.trans (Thread.goes_loop went))⟩

theorem byCode_add (system : System M) (parent : Option Nat) (name : String) (role : Role M) :
    ByCode system (system.add parent name role).2 := by
  have direct : (system.isStopped parent = true ∨ role.start = none) →
      ByCode system (system.add parent name role).2 := by
    intro plain
    refine ⟨[.spawn parent name role], ?_⟩
    rintro shared position rest held rfl
    refine ⟨_, _, rfl, ?_, goes_spawn {} shared parent name role position rest held⟩
    refine grows_add _ parent name role fun live => ?_
    rw [if_neg (Bool.eq_false_iff.mp live)]
    rcases plain with stopped | noStart
    · exact nomatch stopped.symm.trans live
    · unfold Shared.threadOf
      simp only [noStart]
      exact List.mem_singleton_self _
  cases live : system.isStopped parent with
  | true => exact direct (.inl live)
  | false =>
      cases isStart : role.start with
      | none => exact direct (.inr isStart)
      | some reaction => exact byCode_start none (Option.isSome_of_eq_some isStart) live (.refl _)

/-! ### What the running system does -/

theorem byCode_arrange (system : System M) (routers : Array Router)
    (addresses : List (String × Ref)) : ByCode system { system with routers, addresses } :=
  byCode_of_act (.arrange routers addresses) (.of_actors rfl) fun _ _ => rfl

theorem byCode_child (system : System M) (router : Nat) (key : String) :
    ByCode system (system.child router key).2 := by
  unfold System.child
  split
  next parent nameOf children _ =>
    split
    · exact .refl _
    · exact (byCode_add system parent (nameOf key) system.role).trans (byCode_arrange _ _ _)
  next => exact .refl _

theorem byCode_route (system : System M) (router : Nat) (message : M) :
    ByCode system (system.route router message) := by
  unfold System.route
  split
  · exact .refl _
  · have child := byCode_child system router (Letter.key message)
    split
    next id made same =>
      rw [same] at child
      exact child.trans (byCode_post made id message)
    next made same =>
      rw [same] at child
      exact child
  · split
    · exact byCode_post system _ message
    · exact .refl _
  next workers turn _ =>
    let routers := system.routers.modify router fun _ => .pool .roundRobin workers (turn + 1)
    refine (byCode_arrange system routers system.addresses).trans ?_
    dsimp only
    split
    · exact byCode_post _ _ message
    · exact .refl _

theorem byCode_send (system : System M) (address : String) (message : M) :
    ByCode system (system.send address message) := by
  unfold System.send
  split
  · exact byCode_post system _ message
  · exact byCode_route system _ message
  · exact .refl _

theorem byCode_stop (system : System M) (id : Nat) : ByCode system (system.stop id) := by
  refine byCode_foldl (fun state => state) (fun state other => ?_) _ system
  split
  · exact byCode_of_act (.stop other) (grows_mark state other) fun _ _ => rfl
  · exact .refl _

theorem byCode_perform (system : System M) (id : Nat) (deed : Deed M) :
    ByCode system (system.perform id deed) := by
  cases deed with
  | record event => exact byCode_of_act (.record id event) (.of_actors rfl) fun _ _ => rfl
  | send address message => exact byCode_send system address message
  | sendSelf message => exact byCode_post system id message
  | stop => exact byCode_stop system id
  | spawn name => exact byCode_add system (some id) name system.role

theorem byCode_performAll (system : System M) (id : Nat) (deeds : List (Deed M)) :
    ByCode system (system.performAll id deeds) :=
  byCode_foldl (fun state => state) (fun state deed => byCode_perform state id deed) deeds system

theorem byCode_spawn (system : System M) (parent : Option Nat) (name : String) (role : Role M) :
    ByCode system (system.spawn parent name role).2 := by
  have path : (system.add parent name role).2.pathOf (some (system.add parent name role).1) =
      system.pathOf parent ++ "/" ++ name :=
    congrArg (Option.elim · "" Actor.path) (getElem?_add system parent name role)
  have added := byCode_add system parent name role
  have sameStop : (system.add parent name role).2.isStopped (some system.actors.size) =
      system.isStopped parent := by
    unfold System.isStopped
    dsimp only
    rw [getElem?_add]
    rfl
  unfold System.spawn
  dsimp only
  split
  · exact added
  next reaction isStart =>
    split
    · exact added
    next live =>
      have performs := byCode_performAll (system.add parent name role).2 system.actors.size
        reaction.deeds
      have started := byCode_start reaction.failure (Option.isSome_of_eq_some isStart)
        (sameStop ▸ Bool.eq_false_iff.mpr live) performs
      rw [path]
      split
      next failure isFailure =>
        rw [isFailure] at started ⊢
        exact started
      next noFailure =>
        rw [noFailure] at started ⊢
        exact started

theorem byCode_addPool (system : System M) (parent : Option Nat) (name : String)
    (strategy : PoolStrategy) (size : Nat) :
    ByCode system (system.addPool parent name strategy size).2.2 := by
  unfold System.addPool
  dsimp only
  refine .trans ?_ (byCode_arrange _ _ _)
  exact byCode_foldl (fun state : List Nat × System M => state.2)
    (fun state number => byCode_spawn state.2 parent _ state.2.role) (List.range (max size 1))
    ([], system)

theorem byCode_addKeyed (system : System M) (parent : Option Nat) (address : String)
    (nameOf : String → String) : ByCode system (system.addKeyed parent address nameOf).2 :=
  byCode_arrange system _ _

omit [Letter M] in
/-- Stopping some actors one after the other stops these. -/
theorem foldl_mark (ids : List Nat) (system : System M) :
    ids.foldl System.mark system = { system with actors := (ids.foldl System.mark system).actors } ∧
    ∀ id, (ids.foldl System.mark system).actors[id]? =
      (system.actors[id]?).map fun actor =>
        if id ∈ ids then { actor with isStopped := true } else actor := by
  induction ids generalizing system with
  | nil => exact ⟨rfl, fun id => by simp⟩
  | cons first rest ih =>
      obtain ⟨others, actors⟩ := ih (system.mark first)
      refine ⟨others, fun id => ?_⟩
      rw [List.foldl_cons, actors]
      change Option.map _ (system.actors.modify first _)[id]? = _
      rw [Array.getElem?_modify]
      by_cases same : first = id
      · rw [if_pos same, Option.map_map]
        simp [same, Function.comp_def]
      · rw [if_neg same]
        simp [Ne.symm same]

theorem byCode_close (system : System M) : ByCode system system.close := by
  let closed : System M := { system with isClosed := true }
  have closes : ByCode system closed := byCode_of_act .close (.of_actors rfl) fun _ _ => rfl
  have stops : ByCode closed ((List.range system.actors.size).foldl System.mark closed) :=
    byCode_foldl (fun state => state)
      (fun state id => byCode_of_act (.stop id) (grows_mark state id) fun _ _ => rfl) _ closed
  obtain ⟨others, actors⟩ := foldl_mark (List.range system.actors.size) closed
  have sameActors : ((List.range system.actors.size).foldl System.mark closed).actors =
      system.close.actors := by
    refine Array.ext_getElem? fun id => ?_
    rw [actors]
    unfold System.close
    dsimp only
    rw [Array.getElem?_map]
    cases found : system.actors[id]? with
    | none => rfl
    | some actor =>
        have inside : id ∈ List.range system.actors.size :=
          List.mem_range.mpr (Array.getElem?_eq_some_iff.mp found).1
        simp [inside]
  rw [others, sameActors] at stops
  exact closes.trans stops

end Tabulation.Mailbox
