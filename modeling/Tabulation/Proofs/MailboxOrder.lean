/-
The order in which an actor gets its messages.

What goes into a mailbox comes out in the same order, and the one thread of the actor decides about
each message before it takes the next.  It looks then whether the system is halted, so a message
that is dropped is gone for good, and one that waits is not touched.  A failure is reported before
the thread goes on, and changes nothing else.
-/

import Tabulation.Proofs.StackLines

namespace Tabulation.Mailbox

variable {M : Type} {β : Type}

/-! ### What the thread of an actor has in hand -/

/-- What a thread has in hand for an actor, by the stage that it is in. -/
def Thread.part (part : Stage M → List β) (id : Nat) (thread : Thread M) : List β :=
  match thread.position with
  | .outside _ => []
  | .inside other stage => if other = id then part stage else []

/-- What threads have in hand for an actor. -/
def Concurrent.parts (part : Stage M → List β) (id : Nat) (state : Concurrent M) : List β :=
  state.threads.flatMap (Thread.part part id)

theorem Thread.part_eq_nil {part : Stage M → List β} {id : Nat} {thread : Thread M}
    (foreign : id ∉ thread.staff) : thread.part part id = [] := by
  obtain ⟨position, todo, held⟩ := thread
  cases position with
  | outside program => rfl
  | inside other stage =>
      refine if_neg fun same => foreign ?_
      exact List.mem_append_left _ (Option.mem_toList.mpr (congrArg some same))

/-- Only who has a message in hand has a part in anything. -/
def IsPart (part : Stage M → List β) : Prop :=
  ∀ (id : Nat) (stage : Stage M), stage.inHand id = [] → part stage = []

theorem isPart_untried : IsPart (Stage.untried (M := M)) := by
  intro id stage nothing
  cases stage with
  | taken message => exact absurd nothing (List.cons_ne_nil _ _)
  | _ => rfl

theorem isPart_unreported : IsPart (Stage.unreported (M := M)) := by
  intro id stage nothing
  cases stage with
  | receiving message failure => exact absurd nothing (List.cons_ne_nil _ _)
  | _ => rfl

theorem IsPart.eq_nil {part : Stage M → List β} (isPart : IsPart part) {thread : Thread M}
    (nothing : thread.load = []) (id : Nat) : thread.part part id = [] := by
  obtain ⟨position, todo, held⟩ := thread
  cases position with
  | outside program => rfl
  | inside other stage =>
      unfold Thread.part
      dsimp only
      rw [isPart other stage (List.append_eq_nil_iff.mp nothing).2, ite_self]

namespace Concurrent

variable {state after : Concurrent M} {part : Stage M → List β} {came left : Event M → Option β}

/-- A thread that does a task keeps what it has in hand, and threads that begin have nothing. -/
theorem parts_task (isPart : IsPart part) {shared later : Shared M} {front back begun : List (Thread M)}
    {position : Position M} {todo rest : List (Task M)} {held still : Nat}
    (empty : ∀ thread ∈ begun, thread.load = []) (id : Nat) :
    parts part id ⟨later, front ++ ⟨position, rest, still⟩ :: back ++ begun⟩ =
      parts part id ⟨shared, front ++ ⟨position, todo, held⟩ :: back⟩ := by
  have nothing : begun.flatMap (Thread.part part id) = [] :=
    List.flatMap_eq_nil_iff.mpr fun thread member => isPart.eq_nil (empty thread member) id
  unfold parts
  dsimp only
  rw [List.flatMap_append, nothing, List.append_nil, List.flatMap_append, List.flatMap_append,
    List.flatMap_cons, List.flatMap_cons]
  rfl

/-- What is in hand for an actor is what its only thread has. -/
theorem IsManned.parts_own {shared : Shared M} {front back : List (Thread M)} {id held : Nat}
    {stage : Stage M} {todo : List (Task M)}
    (manned : IsManned ⟨shared, front ++ ⟨.inside id stage, todo, held⟩ :: back⟩) :
    parts part id ⟨shared, front ++ ⟨.inside id stage, todo, held⟩ :: back⟩ = part stage := by
  have isOwn : id ∈ Thread.staff ⟨.inside id stage, todo, held⟩ :=
    List.mem_append_left _ (Option.mem_toList.mpr rfl)
  have foreign : ∀ other ∈ front ++ back, other.part part id = [] := fun other member =>
    Thread.part_eq_nil ((manned.not_mem isOwn).2 other member)
  obtain ⟨inFront, inBack⟩ := List.forall_mem_append.mp foreign
  unfold parts
  dsimp only
  rw [List.flatMap_append, List.flatMap_cons, List.flatMap_eq_nil_iff.mpr inFront,
    List.flatMap_eq_nil_iff.mpr inBack, List.nil_append, List.append_nil]
  exact if_pos rfl

/-- An actor has at most one message in hand, which it has not decided about or whose failure it has not
reported. -/
theorem IsManned.length_parts_le (manned : state.IsManned) (id : Nat) :
    (state.parts Stage.untried id).length + (state.parts Stage.unreported id).length ≤ 1 := by
  obtain ⟨shared, threads⟩ := state
  by_cases served : ∃ stage todo held, ⟨.inside id stage, todo, held⟩ ∈ threads
  · obtain ⟨stage, todo, held, member⟩ := served
    obtain ⟨front, back, rfl⟩ := List.append_of_mem member
    rw [manned.parts_own, manned.parts_own]
    cases stage with
    | receiving message failure => cases failure <;> simp [Stage.untried, Stage.unreported]
    | _ => simp [Stage.untried, Stage.unreported]
  · have nothing : ∀ {β : Type} (part : Stage M → List β), parts part id ⟨shared, threads⟩ = [] := by
      intro β part
      refine List.flatMap_eq_nil_iff.mpr ?_
      rintro ⟨position, todo, held⟩ member
      cases position with
      | outside program => rfl
      | inside other stage =>
          refine if_neg ?_
          rintro rfl
          exact served ⟨stage, todo, held, member⟩
    rw [nothing, nothing]
    exact Nat.zero_le _

/-- What is in hand for another actor stays. -/
theorem parts_other {shared later : Shared M} {front back : List (Thread M)} {id other held still : Nat}
    {stage stage' : Stage M} {todo rest : List (Task M)} (differs : other ≠ id) :
    parts part other ⟨later, front ++ ⟨.inside id stage', rest, still⟩ :: back⟩ =
      parts part other ⟨shared, front ++ ⟨.inside id stage, todo, held⟩ :: back⟩ := by
  have nothing : ∀ (stage : Stage M) (todo : List (Task M)) (held : Nat),
      Thread.part part other ⟨.inside id stage, todo, held⟩ = [] :=
    fun _ _ _ => if_neg differs.symm
  unfold parts
  dsimp only
  rw [List.flatMap_append, List.flatMap_append, List.flatMap_cons, List.flatMap_cons, nothing, nothing]

theorem suits_of_keeps {before after : System M} (keeps : before.Keeps after) {event : Event M}
    (suits : event.Suits before) : event.Suits after := by
  cases event with
  | handed id message failure =>
      obtain ⟨actor, found, code⟩ := suits
      obtain ⟨later, foundLater, -, role, -⟩ := keeps id actor found
      exact ⟨later, foundLater, role ▸ code⟩
  | noted id message failure path =>
      obtain ⟨actor, found, noCode, isPath⟩ := suits
      obtain ⟨later, foundLater, samePath, role, -⟩ := keeps id actor found
      exact ⟨later, foundLater, role ▸ noCode, samePath.trans isPath⟩
  | _ => trivial

/-- What comes and goes on two ways, one after the other. -/
private theorem conserved_append {id : Nat} (first : List β) {second third : List β}
    {seen more : List (Event M)}
    (before : first ++ (about id seen).filterMap came = (about id seen).filterMap left ++ second)
    (further : second ++ (about id more).filterMap came = (about id more).filterMap left ++ third) :
    first ++ (about id (seen ++ more)).filterMap came =
      (about id (seen ++ more)).filterMap left ++ third := by
  rw [about_append, List.filterMap_append, List.filterMap_append, ← List.append_assoc, before,
    List.append_assoc, further, List.append_assoc]

variable [Letter M]

/-- A step of the loop that exchanges what comes for what goes keeps the account of the actor. -/
theorem parts_step {choice : Choice M} (isPart : IsPart part) (manned : state.IsManned)
    (unseen : ∀ task : Task M, ∀ event ∈ task.events, came event = none ∧ left event = none)
    (own : ∀ {id : Nat} {stage later : Stage M} {before after : Shared M} {seen : List (Event M)},
      Stage.Yields id stage later before after seen →
      part stage ++ (about id seen).filterMap came = (about id seen).filterMap left ++ part later)
    (stepped : state.step? choice = some after) (id : Nat) :
    state.parts part id ++ (about id (state.events choice)).filterMap came =
      (about id (state.events choice)).filterMap left ++ after.parts part id := by
  have manned' := manned.step stepped
  rcases step_events stepped with ⟨program, seen, rfl⟩ |
    ⟨chance, front, position, task, rest, held, back, effect, threads, done, seen, rfl⟩ |
    ⟨chance, front, actor, stage, held, back, shared, later, script, threads, went, seen, rfl⟩
  · rw [seen]
    refine (List.append_nil _).trans ?_
    unfold parts
    dsimp only
    rw [List.flatMap_append, List.flatMap_singleton]
    exact (List.append_nil _).symm
  · obtain ⟨before, all⟩ := state
    obtain rfl : all = _ := threads
    have none_came : (about id task.events).filterMap came = [] :=
      List.filterMap_eq_nil_iff.mpr fun event member =>
        (unseen task event (List.mem_filter.mp member).1).1
    have none_left : (about id task.events).filterMap left = [] :=
      List.filterMap_eq_nil_iff.mpr fun event member =>
        (unseen task event (List.mem_filter.mp member).1).2
    have empty : ∀ thread ∈ effect.begun, thread.load = [] := fun thread member =>
      (Shared.begun_empty done thread member).2.1
    rw [seen, none_came, none_left, List.append_nil]
    exact (parts_task isPart empty id).symm
  · obtain ⟨before, all⟩ := state
    obtain rfl : all = _ := threads
    have yields := Shared.proceed_yields went
    rw [seen]
    by_cases same : id = actor
    · subst same
      rw [manned.parts_own, manned'.parts_own]
      exact own yields
    · rw [yields.elsewhere id same, parts_other same]
      exact List.append_nil _

/-! ### What is seen accounts for what is there -/

/-- What is seen on the way from one state to another accounts for what an actor has in its mailbox
and in hand, and for what is in the log. -/
structure Shows (state after : Concurrent M) (seen : List (Event M)) : Prop where
  keeps : state.shared.system.Keeps after.shared.system
  isTrue : IsTrue state.shared.system.isHalted seen
  isHalted : after.shared.system.isHalted = haltedAfter state.shared.system.isHalted seen
  log : after.shared.system.log = Log.writeAll state.shared.system.log (seen.filterMap Event.line?)
  lawful : ∀ event ∈ seen, event.IsLawful
  suits : ∀ event ∈ seen, event.Suits after.shared.system
  mailbox : ∀ id, state.shared.system.mailbox id ++ (about id seen).filterMap Event.enqueued? =
    (about id seen).filterMap Event.took? ++ after.shared.system.mailbox id
  untried : ∀ id, state.parts Stage.untried id ++ (about id seen).filterMap Event.took? =
    (about id seen).filterMap Event.tried? ++ after.parts Stage.untried id
  unreported : ∀ id, state.parts Stage.unreported id ++ (about id seen).filterMap Event.failing? =
    (about id seen).filterMap Event.report? ++ after.parts Stage.unreported id

theorem shows_nil (state : Concurrent M) : state.Shows state [] where
  keeps := keeps_of_actors rfl
  isTrue := trivial
  isHalted := rfl
  log := rfl
  lawful := List.forall_mem_nil _
  suits := List.forall_mem_nil _
  mailbox := fun _ => List.append_nil _
  untried := fun _ => List.append_nil _
  unreported := fun _ => List.append_nil _

theorem Shows.trans {middle : Concurrent M} {seen more : List (Event M)}
    (first : state.Shows middle seen)
    (second : middle.Shows after more) : state.Shows after (seen ++ more) where
  keeps := first.keeps.trans second.keeps
  isTrue := isTrue_append.mpr ⟨first.isTrue, first.isHalted ▸ second.isTrue⟩
  isHalted := by
    rw [second.isHalted, first.isHalted]
    exact List.foldl_append.symm
  log := by
    rw [second.log, first.log, List.filterMap_append]
    exact List.foldl_append.symm
  lawful := List.forall_mem_append.mpr ⟨first.lawful, second.lawful⟩
  suits := List.forall_mem_append.mpr
    ⟨fun event member => suits_of_keeps second.keeps (first.suits event member), second.suits⟩
  mailbox := fun id => conserved_append _ (first.mailbox id) (second.mailbox id)
  untried := fun id => conserved_append _ (first.untried id) (second.untried id)
  unreported := fun id => conserved_append _ (first.unreported id) (second.unreported id)

theorem shows_step {choice : Choice M} (manned : state.IsManned)
    (stepped : state.step? choice = some after) : state.Shows after (state.events choice) := by
  have untried := fun id => parts_step isPart_untried manned
    (fun _ _ member => ⟨(Task.isOutside member).took, (Task.isOutside member).tried⟩)
    (fun yields => yields.untried) stepped id
  have unreported := fun id => parts_step isPart_unreported manned
    (fun _ _ member => ⟨(Task.isOutside member).failing, (Task.isOutside member).report⟩)
    (fun yields => yields.unreported) stepped id
  rcases step_events stepped with ⟨program, seen, rfl⟩ |
    ⟨chance, front, position, task, rest, held, back, effect, threads, done, seen, rfl⟩ |
    ⟨chance, front, actor, stage, held, back, shared, later, script, threads, went, seen, rfl⟩
  · rw [seen] at *
    exact { shows_nil state with untried, unreported }
  · have yields := Shared.perform_yields done
    rw [seen] at *
    exact
      { keeps := yields.keeps
        isTrue := task.isTrue_events _
        isHalted := yields.isHalted
        log := yields.log
        lawful := fun _ member => (Task.isOutside member).lawful
        suits := fun _ member => (Task.isOutside member).suits _
        mailbox := fun id => by
          have noneTaken : (about id task.events).filterMap Event.took? = [] :=
            List.filterMap_eq_nil_iff.mpr fun _ member =>
              (Task.isOutside (List.mem_filter.mp member).1).took
          rw [noneTaken]
          exact (yields.mailbox id).symm
        untried
        unreported }
  · have yields := Shared.proceed_yields went
    have isActor : actor < state.shared.system.actors.size := by
      obtain ⟨before, all⟩ := state
      obtain rfl : all = _ := threads
      exact (manned.not_mem (List.mem_append_left _ (Option.mem_toList.mpr rfl))).1
    obtain ⟨isTrue, still⟩ := isTrue_of_steady
      (fun event member => (yields.inward event member).2) yields.found
    rw [seen] at *
    exact
      { keeps := yields.keeps
        isTrue
        isHalted := yields.isHalted.trans still.symm
        log := yields.log
        lawful := yields.lawful
        suits := fun event member => suits_of_keeps yields.keeps (yields.suits event member isActor)
        mailbox := fun id => by
          have noneCame : (about id (stage.events state.shared.system actor later)).filterMap
              Event.enqueued? = [] := List.filterMap_eq_nil_iff.mpr fun event member =>
            (yields.inward event (List.mem_filter.mp member).1).1
          rw [noneCame, List.append_nil]
          exact yields.mailbox id
        untried
        unreported }

theorem shows_run {choices : List (Choice M)} (manned : state.IsManned)
    (ran : state.run? choices = some after) : state.Shows after (state.timeline choices) := by
  unfold run? at ran
  induction choices generalizing state with
  | nil =>
      obtain rfl : state = after := Option.some.inj ran
      exact shows_nil state
  | cons choice rest inductionHypothesis =>
      rw [List.foldlM_cons] at ran
      obtain ⟨next, stepped, further⟩ := Option.bind_eq_some_iff.mp ran
      rw [timeline, stepped]
      exact (shows_step manned stepped).trans (inductionHypothesis (manned.step stepped) further)

/-! ### The system as an actor finds it -/

/-- The message that an actor has taken and not decided about, with whether the system is halted. -/
def pendingTurns (state : Concurrent M) (id : Nat) : List (M × Bool) :=
  (state.parts Stage.untried id).map (·, state.shared.system.isHalted)

/-- An actor that has no message in hand while the system is halted or resumed decides about each
message as it found the system when it took it. -/
theorem pendingTurns_step {choice : Choice M} (manned : state.IsManned) {id : Nat}
    (calm : ∀ isHalted, state.events choice = [.switched isHalted] → state.parts Stage.untried id = [])
    (stepped : state.step? choice = some after) :
    state.pendingTurns id ++ (about id (state.events choice)).filterMap Event.taken? =
      (about id (state.events choice)).filterMap Event.turn? ++ after.pendingTurns id := by
  have untried := (shows_step manned stepped).untried id
  have ⟨found, same⟩ : (∀ event ∈ state.events choice,
        event.found? = none ∨ event.found? = some state.shared.system.isHalted) ∧
      (after.shared.system.isHalted = state.shared.system.isHalted ∨
        after.parts Stage.untried id = []) := by
    rcases step_events stepped with ⟨program, seen, rfl⟩ |
      ⟨chance, front, position, task, rest, held, back, effect, threads, done, seen, rfl⟩ |
      ⟨chance, front, actor, stage, held, back, shared, later, script, threads, went, seen, rfl⟩
    · rw [seen]
      exact ⟨List.forall_mem_nil _, .inl rfl⟩
    · have notFound : ∀ event ∈ task.events,
          event.found? = none ∨ event.found? = some state.shared.system.isHalted :=
        fun _ member => .inl (Task.isOutside member).found
      rw [seen] at calm untried ⊢
      refine ⟨notFound, ?_⟩
      rcases task.events_switched with steady | ⟨isHalted, switches⟩
      · refine .inl ?_
        rw [(Shared.perform_yields done).isHalted]
        exact (isTrue_of_steady steady notFound).2
      · refine .inr ?_
        rw [calm isHalted switches, switches] at untried
        exact untried.symm
    · have yields := Shared.proceed_yields went
      rw [seen]
      exact ⟨yields.found, .inl yields.isHalted⟩
  have foundAbout : ∀ event ∈ about id (state.events choice),
      event.found? = none ∨ event.found? = some state.shared.system.isHalted :=
    fun event member => found event (List.mem_filter.mp member).1
  obtain ⟨taken, turns⟩ := filterMap_of_found foundAbout
  have later : after.pendingTurns id =
      (after.parts Stage.untried id).map (·, state.shared.system.isHalted) := by
    unfold pendingTurns
    rcases same with same | nothing
    · rw [same]
    · rw [nothing]
      rfl
  rw [taken, turns, later, pendingTurns, ← List.map_append, ← List.map_append, untried]

theorem pendingTurns_run (past : List (Event M)) {choices : List (Choice M)} {id : Nat}
    (manned : state.IsManned)
    (counted : (about id past).filterMap Event.took? =
      (about id past).filterMap Event.tried? ++ state.parts Stage.untried id)
    (turns : (about id past).filterMap Event.taken? =
      (about id past).filterMap Event.turn? ++ state.pendingTurns id)
    (calm : IsCalm id (past ++ state.timeline choices)) (ran : state.run? choices = some after) :
    (about id (past ++ state.timeline choices)).filterMap Event.taken? =
      (about id (past ++ state.timeline choices)).filterMap Event.turn? ++ after.pendingTurns id := by
  unfold run? at ran
  induction choices generalizing state past with
  | nil =>
      obtain rfl : state = after := Option.some.inj ran
      rw [timeline, List.append_nil]
      exact turns
  | cons choice rest inductionHypothesis =>
      rw [List.foldlM_cons] at ran
      obtain ⟨next, stepped, further⟩ := Option.bind_eq_some_iff.mp ran
      have split : state.timeline (choice :: rest) = state.events choice ++ next.timeline rest := by
        rw [timeline, stepped]
      rw [split] at calm ⊢
      have calmNow : ∀ isHalted, state.events choice = [.switched isHalted] →
          state.parts Stage.untried id = [] := by
        intro isHalted switches
        rw [switches] at calm
        have decided := calm past isHalted (next.timeline rest) rfl
        exact List.append_cancel_left (counted.symm.trans (decided.trans (List.append_nil _).symm))
      rw [← List.append_assoc] at calm ⊢
      exact inductionHypothesis _ (manned.step stepped)
        (conserved_append [] counted ((shows_step manned stepped).untried id))
        (conserved_append [] turns (pendingTurns_step manned calmNow stepped)) calm further

/-! ### An actor goes on -/

/-- The thread of an actor only ends if the actor is stopped. While it waits and there is a message
for it, the actor was woken, or some thread will wake it. -/
structure GoesOn (state : Concurrent M) : Prop where
  ended : ∀ thread ∈ state.threads, ∀ id, thread.position = .inside id .ended →
    ∃ actor, state.shared.system.actors[id]? = some actor ∧ actor.isStopped = true
  woken : ∀ thread ∈ state.threads, ∀ id, thread.position = .inside id .waiting →
    state.shared.system.mailbox id ≠ [] →
    id ∈ state.shared.signals ∨ ∃ other ∈ state.threads, .signal id ∈ other.todo

omit [Letter M] in
theorem goesOn_start (name : String) (role : Role M) (log : Log) : (start name role log).GoesOn where
  ended := List.forall_mem_nil _
  woken := List.forall_mem_nil _

omit [Letter M] in
theorem GoesOn.enter (goesOn : state.GoesOn) (program : List (Act M)) :
    GoesOn { state with threads := state.threads ++ [⟨.outside program, tasksOf program, 0⟩] } where
  ended := by
    intro thread member id position
    rcases List.mem_append.mp member with old | new
    · exact goesOn.ended thread old id position
    · obtain rfl := List.mem_singleton.mp new
      cases position
  woken := by
    intro thread member id position waits
    rcases List.mem_append.mp member with old | new
    · refine (goesOn.woken thread old id position waits).imp_right ?_
      exact fun ⟨other, isThread, wakes⟩ => ⟨other, List.mem_append_left _ isThread, wakes⟩
    · obtain rfl := List.mem_singleton.mp new
      cases position

/-- Who has the same position as before goes on if the message that came is announced to the actor. -/
theorem GoesOn.task {shared : Shared M} {chance : Chance M} {front back : List (Thread M)}
    {position : Position M} {task : Task M} {rest : List (Task M)} {held : Nat} {effect : Effect M}
    (goesOn : GoesOn ⟨shared, front ++ ⟨position, task :: rest, held⟩ :: back⟩)
    (done : shared.perform? chance held task = some effect) :
    GoesOn ⟨effect.shared,
      front ++ ⟨position, effect.tasks ++ rest, effect.held⟩ :: back ++ effect.begun⟩ := by
  have yields := Shared.perform_yields done
  have before : ∀ thread ∈ front ++ ⟨position, effect.tasks ++ rest, effect.held⟩ :: back ++
      effect.begun,
      thread ∈ effect.begun ∨
      ∃ old ∈ front ++ ⟨position, task :: rest, held⟩ :: back, old.position = thread.position := by
    intro thread member
    rcases List.mem_append.mp member with rest | begun
    · rcases mem_apart.mp rest with rfl | other
      · exact .inr ⟨_, mem_apart.mpr (.inl rfl), rfl⟩
      · exact .inr ⟨thread, mem_apart.mpr (.inr other), rfl⟩
    · exact .inl begun
  constructor
  · intro thread member id isEnded
    rcases before thread member with begun | ⟨old, isOld, same⟩
    · cases yields.fresh thread begun id _ isEnded
    · obtain ⟨actor, found, stopped⟩ := goesOn.ended old isOld id (same.trans isEnded)
      obtain ⟨later, foundLater, -, -, stops⟩ := yields.keeps id actor found
      exact ⟨later, foundLater, stops stopped⟩
  · intro thread member id isWaiting hasMail
    rcases before thread member with begun | ⟨old, isOld, same⟩
    · cases yields.fresh thread begun id _ isWaiting
    · have inMiddle : ⟨position, effect.tasks ++ rest, effect.held⟩ ∈
          front ++ ⟨position, effect.tasks ++ rest, effect.held⟩ :: back ++ effect.begun :=
        List.mem_append_left _ (mem_apart.mpr (.inl rfl))
      by_cases sent : (about id task.events).filterMap Event.enqueued? = []
      · have hadMail : shared.system.mailbox id ≠ [] := by
          have mailbox := yields.mailbox id
          rw [sent, List.append_nil] at mailbox
          exact mailbox ▸ hasMail
        rcases goesOn.woken old isOld id (same.trans isWaiting) hadMail with signalled |
            ⟨other, isThread, wakes⟩
        · exact .inl (yields.signals (List.mem_append_left _ signalled))
        · rcases mem_apart.mp isThread with rfl | elsewhere
          · rcases List.mem_cons.mp wakes with now | later
            · subst now
              exact .inl (yields.signals (List.mem_append_right _ (List.mem_singleton_self id)))
            · exact .inr ⟨_, inMiddle, List.mem_append_right _ later⟩
          · exact .inr ⟨other, List.mem_append_left _ (mem_apart.mpr (.inr elsewhere)), wakes⟩
      · exact .inr ⟨_, inMiddle, List.mem_append_left _ (yields.wakes id sent)⟩

theorem GoesOn.proceed {shared later : Shared M} {chance : Chance M} {front back : List (Thread M)}
    {id held : Nat} {stage stage' : Stage M} {script : List (Act M)}
    (manned : IsManned ⟨shared, front ++ ⟨.inside id stage, [], held⟩ :: back⟩)
    (goesOn : GoesOn ⟨shared, front ++ ⟨.inside id stage, [], held⟩ :: back⟩)
    (went : shared.proceed? chance id stage = some (later, stage', script)) :
    GoesOn ⟨later, front ++ ⟨.inside id stage', tasksOf script, held⟩ :: back⟩ := by
  have yields := Shared.proceed_yields went
  obtain ⟨isActor, alone⟩ := manned.not_mem (List.mem_append_left _ (Option.mem_toList.mpr rfl))
  have foreign : ∀ thread ∈ front ++ back, ∀ other stage, thread.position = .inside other stage →
      other ≠ id := by
    rintro ⟨position, todo, held⟩ member other stage position rfl
    obtain rfl := position
    exact alone _ member (List.mem_append_left _ (Option.mem_toList.mpr rfl))
  constructor
  · intro thread member other isEnded
    rcases mem_apart.mp member with rfl | elsewhere
    · obtain ⟨rfl, rfl⟩ := Position.inside.inj isEnded
      have inside : id < later.system.actors.size := yields.size.symm ▸ isActor
      exact ⟨_, Array.getElem?_eq_getElem inside,
        yields.rests.ends rfl _ (Array.getElem?_eq_getElem inside)⟩
    · obtain ⟨actor, found, stopped⟩ :=
        goesOn.ended thread (mem_apart.mpr (.inr elsewhere)) other isEnded
      obtain ⟨after, foundAfter, -, -, stops⟩ := yields.keeps other actor found
      exact ⟨after, foundAfter, stops stopped⟩
  · intro thread member other isWaiting hasMail
    rcases mem_apart.mp member with rfl | elsewhere
    · obtain ⟨rfl, rfl⟩ := Position.inside.inj isWaiting
      exact absurd (yields.rests.waits rfl) hasMail
    · have differs := foreign thread elsewhere other _ isWaiting
      have mailbox := yields.mailbox other
      rw [yields.elsewhere other differs] at mailbox
      have hadMail : shared.system.mailbox other ≠ [] :=
          fun nothing => hasMail (mailbox.symm.trans nothing)
      rcases goesOn.woken thread (mem_apart.mpr (.inr elsewhere)) other isWaiting hadMail with
        signalled | ⟨waker, isThread, wakes⟩
      · exact .inl (yields.signals other differs signalled)
      · rcases mem_apart.mp isThread with rfl | another
        · exact absurd wakes List.not_mem_nil
        · exact .inr ⟨waker, mem_apart.mpr (.inr another), wakes⟩

theorem GoesOn.step {choice : Choice M} (manned : state.IsManned) (goesOn : state.GoesOn)
    (stepped : state.step? choice = some after) : after.GoesOn := by
  rcases step_events stepped with ⟨program, -, rfl⟩ |
    ⟨chance, front, position, task, rest, held, back, effect, threads, done, -, rfl⟩ |
    ⟨chance, front, actor, stage, held, back, shared, later, script, threads, went, -, rfl⟩
  · exact goesOn.enter program
  · obtain ⟨before, all⟩ := state
    obtain rfl : all = _ := threads
    exact goesOn.task done
  · obtain ⟨before, all⟩ := state
    obtain rfl : all = _ := threads
    exact goesOn.proceed manned went

/-- Every actor has at most one thread, which goes on. -/
def IsLive (state : Concurrent M) : Prop := state.IsManned ∧ state.GoesOn

theorem isLive_of_run {name : String} {role : Role M} {log : Log} {choices : List (Choice M)}
    (ran : (start name role log).run? choices = some state) : state.IsLive := by
  have live : (start name role log).IsLive := ⟨isManned_start name role log, goesOn_start name role log⟩
  exact run_induction live
    (fun _ _ _ good stepped => ⟨good.1.step stepped, good.2.step good.1 stepped⟩) ran

/-! ### The order of messages -/

/-- A halted system turns down what is no control message. -/
def isTurnedDown (turn : M × Bool) : Bool := turn.2 && !Letter.isControl turn.1

omit [Letter M] in
theorem filterMap_tried (events : List (Event M)) :
    events.filterMap Event.tried? = (events.filterMap Event.turn?).map Prod.fst :=
  List.map_filterMap.symm

theorem filterMap_passed {events : List (Event M)} (lawful : ∀ event ∈ events, event.IsLawful) :
    events.filterMap Event.passed? =
        ((events.filterMap Event.turn?).filter fun turn => !isTurnedDown turn).map Prod.fst ∧
      events.filterMap Event.dropped? =
        ((events.filterMap Event.turn?).filter isTurnedDown).map Prod.fst := by
  induction events with
  | nil => exact ⟨rfl, rfl⟩
  | cons event rest inductionHypothesis =>
      obtain ⟨here, others⟩ := List.forall_mem_cons.mp lawful
      obtain ⟨passed, dropped⟩ := inductionHypothesis others
      cases event with
      | passed id message isHalted failure =>
          have kept : isTurnedDown (message, isHalted) = false := here
          have turns : (Event.passed id message isHalted failure :: rest).filterMap Event.turn? =
              (message, isHalted) :: rest.filterMap Event.turn? := rfl
          simp only [turns, List.filter_cons, kept, Bool.not_false, Bool.false_eq_true,
            if_true, if_false, List.map_cons, ← passed, ← dropped]
          exact ⟨rfl, rfl⟩
      | dropped id message isHalted =>
          have lost : isTurnedDown (message, isHalted) = true := here
          have turns : (Event.dropped id message isHalted :: rest).filterMap Event.turn? =
              (message, isHalted) :: rest.filterMap Event.turn? := rfl
          simp only [turns, List.filter_cons, lost, Bool.not_true, Bool.false_eq_true,
            if_true, if_false, List.map_cons, ← passed, ← dropped]
          exact ⟨rfl, rfl⟩
      | _ => exact ⟨passed, dropped⟩

/-- How an actor is served, by what is seen of a run.

The messages that were put into its mailbox are, in this order, those that it decided about, at most
one that it took and has not decided about, and those in the mailbox. It takes each of them before
it decides about it. The messages for which its code is called are those that it decided about,
without those that it turns down because it finds the system halted when it decides, and these are
dropped. If the system is not halted or resumed between the two, it decides as it found the system
when it took the message. Each failure is reported, in the order of the messages, before anything
else happens to the actor: to the code for failures if it has such code, and otherwise in the log.
If it was a crash, the stack is in the log before. When the system looks idle, the actor decided
about all messages and reported all failures. It is there as long as it is not stopped, and does not
sleep while it has messages. -/
structure Serves (state : Concurrent M) (seen : List (Event M)) (id : Nat) : Prop where
  order : (about id seen).filterMap Event.enqueued? =
    ((about id seen).filterMap Event.turn?).map Prod.fst ++
      (state.parts Stage.untried id ++ state.shared.system.mailbox id)
  took : (about id seen).filterMap Event.took? =
    ((about id seen).filterMap Event.turn?).map Prod.fst ++ state.parts Stage.untried id
  asTaken : IsCalm id seen → (about id seen).filterMap Event.taken? =
    (about id seen).filterMap Event.turn? ++ state.pendingTurns id
  passed : (about id seen).filterMap Event.passed? =
    (((about id seen).filterMap Event.turn?).filter fun turn => !isTurnedDown turn).map Prod.fst
  dropped : (about id seen).filterMap Event.dropped? =
    (((about id seen).filterMap Event.turn?).filter isTurnedDown).map Prod.fst
  reported : (about id seen).filterMap Event.failing? =
    (about id seen).filterMap Event.report? ++ state.parts Stage.unreported id
  inHand : (state.parts Stage.untried id).length + (state.parts Stage.unreported id).length ≤ 1
  handed : ∀ message failure, .handed id message failure ∈ seen →
    ∃ actor, state.shared.system.actors[id]? = some actor ∧ actor.role.recover.isSome
  noted : ∀ message failure path, .noted id message failure path ∈ seen →
    ∃ actor, state.shared.system.actors[id]? = some actor ∧ actor.role.recover = none ∧
      actor.path = path
  crashes : ∀ front event back, seen = front ++ event :: back →
    ∀ stack, event.crash? = some (id, stack) →
      ∃ actor, state.shared.system.actors[id]? = some actor ∧
        .wrote .debug (stackLine actor.path stack) ∈ front
  settled : state.isIdle → state.parts Stage.untried id = [] ∧ state.parts Stage.unreported id = [] ∧
    state.shared.system.mailbox id = []
  goesOn : ∀ thread ∈ state.threads,
    (thread.position = .inside id .ended → state.shared.system.isStopped (some id) = true) ∧
    (thread.position = .inside id .waiting → state.shared.system.mailbox id ≠ [] →
      id ∈ state.shared.signals ∨ ∃ other ∈ state.threads, .signal id ∈ other.todo)

/-- **Order of messages.** Whatever threads do and in whatever order, and whichever code fails: each
actor is served in the order in which messages are put into its mailbox. An actor finds the system
as it was last halted or resumed. The log has a line for each failure over a message that was not
reported to an actor, those that code writes, and those of crashes and of other code that failed. -/
theorem served_in_order (name : String) (role : Role M) (log : Log) {choices : List (Choice M)}
    (ran : (start name role log).run? choices = some state) :
    IsTrue false ((start name role log).timeline choices) ∧
    state.shared.system.log =
      Log.writeAll log (((start name role log).timeline choices).filterMap Event.line?) ∧
    ∀ id, state.Serves ((start name role log).timeline choices) id := by
  have shows := shows_run (isManned_start name role log) ran
  have balanced := isBalanced_of_run ran
  obtain ⟨manned, goesOn⟩ := isLive_of_run ran
  refine ⟨shows.isTrue, shows.log, fun id => ?_⟩
  have took := shows.untried id
  rw [filterMap_tried] at took
  have aboutLawful : ∀ event ∈ about id ((start name role log).timeline choices), event.IsLawful :=
    fun event member => shows.lawful event (List.mem_filter.mp member).1
  exact
    { order := by
        have mailbox := shows.mailbox id
        rw [← List.append_assoc, ← took]
        exact mailbox
      took
      asTaken := fun calm =>
        pendingTurns_run [] (isManned_start name role log) rfl rfl calm ran
      passed := (filterMap_passed aboutLawful).1
      dropped := (filterMap_passed aboutLawful).2
      reported := shows.unreported id
      inHand := manned.length_parts_le id
      handed := fun message failure member => shows.suits _ member
      noted := fun message failure path member => shows.suits _ member
      crashes := fun front event back split stack said => stack_before_crash ran split said
      settled := fun idle => by
        obtain ⟨noPending, noLoad⟩ := List.append_eq_nil_iff.mp (balanced.isIdle_iff.mp idle).2
        have empty := List.flatMap_eq_nil_iff.mp noLoad
        refine ⟨?_, ?_, ?_⟩
        · exact List.flatMap_eq_nil_iff.mpr fun thread member =>
            isPart_untried.eq_nil (empty thread member) id
        · exact List.flatMap_eq_nil_iff.mpr fun thread member =>
            isPart_unreported.eq_nil (empty thread member) id
        · unfold System.mailbox
          rw [noPending]
          rfl
      goesOn := fun thread member => by
        refine ⟨fun isEnded => ?_, goesOn.woken thread member id⟩
        obtain ⟨actor, found, stopped⟩ := goesOn.ended thread member id isEnded
        unfold System.isStopped
        dsimp only
        rw [found]
        exact stopped }

private def early : Cue := .plain "note" "early" ""

private def urgent : Cue := { early with name := "panic", text := "urgent", isControl := true }

private def late : Cue := .plain "note" "late" ""

private def fresh : Concurrent Cue := start "system" (scripted "note" "" "") { level := 4 }

private def moves (number count : Nat) : List (Choice Cue) := List.replicate count (.move number {})

/-- An actor is made, and a thread from outside sends two messages while the system is halted and a
third one after it resumed. The code of the actor crashes over the second one. -/
private def haltedFirst : List (Choice Cue) :=
  List.flatten
    [[.enter [.spawn none "root" (scripted "note" "" "")]], moves 0 2,
      [.enter [.halt, .send 0 early, .send 0 urgent, .resume, .send 0 late]], moves 2 9, moves 1 5,
      [.move 1 { failure := some (.crashed "broken" "main") }], moves 2 5, moves 1 9]

private def afterThree : Option (Concurrent Cue) := fresh.run? haltedFirst

theorem served_late_after_halt :
    ∃ state, afterThree = some state ∧ state.isIdle ∧ state.Serves (fresh.timeline haltedFirst) 0 ∧
      (about 0 (fresh.timeline haltedFirst)).filterMap Event.enqueued? = [early, urgent, late] ∧
      (about 0 (fresh.timeline haltedFirst)).filterMap Event.turn? =
        [(early, true), (urgent, true), (late, false)] ∧
      (about 0 (fresh.timeline haltedFirst)).filterMap Event.passed? = [urgent, late] ∧
      (about 0 (fresh.timeline haltedFirst)).filterMap Event.report? =
        [(urgent, .crashed "broken" "main")] ∧
      state.shared.system.log.output = "[DEBUG] system/root: panic stack:\nmain\n" ++
        "[WARN] system/root: exception while handling note: panic: broken\n" := by
  have result : afterThree.map (fun state => (state.isIdle, state.shared.system.log.output)) =
      some (true, "[DEBUG] system/root: panic stack:\nmain\n" ++
        "[WARN] system/root: exception while handling note: panic: broken\n") := by
    decide +kernel
  obtain ⟨state, ran, same⟩ := Option.map_eq_some_iff.mp result
  obtain ⟨idle, output⟩ := Prod.mk.inj same
  obtain ⟨-, -, serves⟩ := served_in_order _ _ _ ran
  exact ⟨state, ran, idle, serves 0, by decide, by decide, by decide, by decide, output⟩

/-- The system is halted after the actor took a first message, and resumed after it took a second
one. While it handles this, a third one comes, and then it stops itself. -/
private def haltedBetween : List (Choice Cue) :=
  List.flatten
    [[.enter [.spawn none "root" (scripted "note" "" "")]], moves 0 2,
      [.enter [.send 0 early, .halt, .send 0 late, .resume, .send 0 urgent]], moves 2 4, moves 1 1,
      moves 2 1, moves 1 3, moves 2 4, moves 1 1, moves 2 1, [.move 1 { script := [.stop 0] }],
      moves 2 4, moves 1 4]

/-- A message that was taken before the system was halted is dropped, one that was taken while it
was halted is passed after it resumed, and one in the mailbox of a stopped actor stays there. -/
theorem not_served_as_taken :
    ∃ state, fresh.run? haltedBetween = some state ∧
      (about 0 (fresh.timeline haltedBetween)).filterMap Event.enqueued? = [early, late, urgent] ∧
      (about 0 (fresh.timeline haltedBetween)).filterMap Event.taken? =
        [(early, false), (late, true)] ∧
      (about 0 (fresh.timeline haltedBetween)).filterMap Event.dropped? = [early] ∧
      (about 0 (fresh.timeline haltedBetween)).filterMap Event.passed? = [late] ∧
      (about 0 (fresh.timeline haltedBetween)).filterMap Event.passed? ≠
        (((about 0 (fresh.timeline haltedBetween)).filterMap Event.taken?).filter
          fun turn => !isTurnedDown turn).map Prod.fst ∧
      state.shared.system.mailbox 0 = [urgent] ∧ ∀ chance, state.step? (.move 1 chance) = none := by
  have isSome : (fresh.run? haltedBetween).isSome := by decide
  have ended : ((fresh.run? haltedBetween).get isSome).threads[1]? =
      some ⟨.inside 0 .ended, [], 0⟩ := rfl
  refine ⟨_, (Option.some_get isSome).symm, by decide, by decide, by decide, by decide, by decide,
    rfl, ?_⟩
  intro chance
  unfold step?
  dsimp only
  rw [ended]
  rfl

end Concurrent

end Tabulation.Mailbox
