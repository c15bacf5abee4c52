/-
Where messages end, and what handling one of them changes.

The way of a message through the managers ends at the same place wherever it starts. So handling a
message lets one store react to it, sends the answers of that store and the replies of the analyzer
or the resolver, and leaves all other stores as they are.
-/

import Tabulation.Engine.Session
import Tabulation.Proofs.Routes
import Tabulation.Proofs.StoreHistory

namespace Tabulation

variable {S F M : Type}

/-! ### The end of the way -/

section Way

variable {message : Message S F M} {s : S}

private theorem chunkOf_of_home (strategy : S → String) (home : message.home? = some s) :
    message.chunkOf strategy = some (strategy s) := by
  cases message <;> simp_all [Message.chunkOf, Message.home?]

private theorem category_of_home (home : message.home? = some s) :
    message.category = .storage ∨ message.category = .analyzer ∨
      ∃ runner edge, message = .unresolvedCall runner edge := by
  cases message <;> simp_all [Message.home?, Message.category]

/-- While no unit comes into being, a message ends where it rightly ends. -/
private theorem destination_ends (strategy : S → String) (hasUnit : String → String → Bool)
    (place : Place) (message : Message S F M) : ∃ path,
    message.Ends strategy (fun _ => hasUnit) path
      (place.destination strategy hasUnit message) := by
  obtain ⟨path, destination, delivers, _⟩ := place.delivers strategy (fun _ => hasUnit) message
  rw [delivers.destination_eq]
  exact ⟨path, delivers.ends⟩

/-- A message with a home ends in the unit of its home, wherever it starts. -/
theorem Place.destination_of_home (strategy : S → String) (hasUnit : String → String → Bool)
    (place : Place) (home : message.home? = some s) :
    place.destination strategy hasUnit message = message.destinationIn (strategy s) := by
  have owner := chunkOf_of_home strategy home
  have here {chunk runner : String} (owned : message.isOwnedBy strategy chunk runner = true) :
      strategy s = chunk ∧ message.runner = runner := by
    rw [message.isOwnedBy_iff, owner] at owned
    exact ⟨Option.some.inj owned.1, owned.2⟩
  obtain ⟨path, ends⟩ := destination_ends strategy hasUnit place message
  generalize place.destination strategy hasUnit message = destination at ends ⊢
  unfold Message.destinationIn
  cases destination with
  | storage chunk runner =>
      obtain ⟨owned, category, _⟩ := ends
      rw [category, (here owned).1, (here owned).2]
  | workers chunk runner =>
      obtain ⟨owned, category, _⟩ := ends
      rw [category, (here owned).1, (here owned).2]
  | indirection chunk runner =>
      obtain ⟨owned, category, _⟩ := ends
      rw [category, (here owned).1, (here owned).2]
  | project => cases owner.symm.trans (Message.chunkOf_of_isForProject ends.1)
  | dropped => cases owner.symm.trans ends.1
  | noData chunk =>
      obtain ⟨_, runner, rfl, _⟩ := ends
      cases home

end Way

/-! ### Stores of a state -/

namespace EngineState

/-- The store of a unit. The store of a unit that did not come into being yet is new. -/
def storeOf (state : EngineState S F M) (chunk runner : String) : Store S F :=
  (state.store? chunk runner).getD { runner }

private theorem lookup_cons_eq {α β : Type} [BEq α] [LawfulBEq α] [DecidableEq α]
    (name key : α) (value : β)
    (rest : List (α × β)) :
    ((key, value) :: rest).lookup name = if name = key then some value else rest.lookup name := by
  rw [List.lookup_cons]
  by_cases same : name = key
  · simp [same]
  · simp [same, beq_eq_false_iff_ne.mpr same]

private theorem lookup_replace (units : List ((String × String) × Store S F))
    (owner other : String × String) (store : Store S F) :
    (units.map fun unit => if unit.1 == owner then (unit.1, store) else unit).lookup other =
      if other = owner then (units.lookup other).map fun _ => store else units.lookup other := by
  induction units with
  | nil => simp
  | cons unit rest ih =>
      obtain ⟨key, kept⟩ := unit
      rw [List.map_cons, lookup_cons_eq other key kept]
      by_cases here : key = owner
      · subst here
        rw [if_pos (beq_self_eq_true key), lookup_cons_eq, ih]
        by_cases there : other = key <;> simp [there]
      · rw [if_neg (fun same => here (eq_of_beq same)), lookup_cons_eq, ih]
        by_cases there : other = key
        · subst there
          simp [here]
        · simp [there]

theorem storeOf_putStore (state : EngineState S F M) (owner : String × String)
    (present : state.hasUnit owner.1 owner.2 = true) (store : Store S F) (chunk runner : String) :
    (state.putStore owner.1 owner.2 store).storeOf chunk runner =
      if (chunk, runner) = owner then store else state.storeOf chunk runner := by
  unfold storeOf store? putStore
  rw [lookup_replace]
  by_cases same : (chunk, runner) = owner
  · subst same
    obtain ⟨kept, found⟩ := Option.isSome_iff_exists.mp present
    unfold store? at found
    simp [found]
  · simp [same]

theorem hasUnit_putStore (state : EngineState S F M) (owner : String × String) (store : Store S F)
    (chunk runner : String) :
    (state.putStore owner.1 owner.2 store).hasUnit chunk runner = state.hasUnit chunk runner := by
  unfold hasUnit store? putStore
  rw [lookup_replace]
  by_cases same : (chunk, runner) = owner
  · simp [same]
  · simp [same]

/-- The chunks of all units were announced. -/
def Announced (state : EngineState S F M) : Prop :=
  ∀ chunk runner, state.hasUnit chunk runner = true → chunk ∈ state.chunks

/-- What no handling of a message changes. -/
structure Keeps (state next : EngineState S F M) : Prop where
  pending : next.pending = state.pending
  barrierOpen : next.barrierOpen = state.barrierOpen
  halted : next.halted = state.halted
  closed : next.closed = state.closed
  announced : state.Announced → next.Announced

theorem Keeps.trans {first second third : EngineState S F M} (before : first.Keeps second)
    (after : second.Keeps third) : first.Keeps third where
  pending := after.pending.trans before.pending
  barrierOpen := after.barrierOpen.trans before.barrierOpen
  halted := after.halted.trans before.halted
  closed := after.closed.trans before.closed
  announced := fun announced => after.announced (before.announced announced)

theorem keeps_log (state : EngineState S F M) (log : Log) : state.Keeps { state with log } :=
  ⟨rfl, rfl, rfl, rfl, id⟩

theorem keeps_putStore (state : EngineState S F M) (owner : String × String) (store : Store S F) :
    state.Keeps (state.putStore owner.1 owner.2 store) where
  pending := rfl
  barrierOpen := rfl
  halted := rfl
  closed := rfl
  announced := fun announced chunk runner present =>
    announced chunk runner ((state.hasUnit_putStore owner store chunk runner).symm.trans present)

theorem mem_chunks_announce (state : EngineState S F M) (chunk other : String) :
    other ∈ (state.announce chunk).chunks ↔ other = chunk ∨ other ∈ state.chunks := by
  unfold announce
  split
  · rename_i present
    have known : chunk ∈ state.chunks := List.contains_iff_mem.mp present
    constructor
    · exact Or.inr
    · rintro (rfl | member)
      · exact known
      · exact member
  · simp [or_comm]

theorem announce_eq (state : EngineState S F M) (chunk : String) :
    ∃ chunks, state.announce chunk = { state with chunks } := by
  unfold announce
  split
  · exact ⟨state.chunks, rfl⟩
  · exact ⟨state.chunks ++ [chunk], rfl⟩

theorem storeOf_announce (state : EngineState S F M) (chunk other runner : String) :
    (state.announce chunk).storeOf other runner = state.storeOf other runner := by
  obtain ⟨chunks, same⟩ := state.announce_eq chunk
  rw [same]
  rfl

theorem held_announce (state : EngineState S F M) (chunk : String) :
    (state.announce chunk).held = state.held := by
  obtain ⟨chunks, same⟩ := state.announce_eq chunk
  rw [same]

theorem keeps_announce (state : EngineState S F M) (chunk : String) :
    state.Keeps (state.announce chunk) := by
  have members := state.mem_chunks_announce chunk
  obtain ⟨chunks, same⟩ := state.announce_eq chunk
  rw [same] at members ⊢
  exact ⟨rfl, rfl, rfl, rfl, fun announced other runner present =>
    (members other).mpr (Or.inr (announced other runner present))⟩

end EngineState

namespace Engine

private theorem reportLack_eq (engine : Engine S F M) (state : EngineState S F M) (place : Place)
    {α : Type} (found : Except RegistryError α) :
    ∃ log, engine.reportLack state place found = { state with log } := by
  unfold reportLack
  split
  · exact ⟨state.log, rfl⟩
  · exact ⟨_, rfl⟩

theorem openUnit_eq (engine : Engine S F M) (state : EngineState S F M)
    (chunk runner : String) (absent : ¬state.hasUnit chunk runner = true) :
    ∃ log, engine.openUnit state chunk runner =
      { state.announce chunk with
        log
        units := state.units ++ [((chunk, runner), { runner })] } := by
  unfold openUnit
  rw [if_neg absent]
  obtain ⟨chunks, announced⟩ := state.announce_eq chunk
  obtain ⟨first, analyzed⟩ := engine.reportLack_eq (state.announce chunk) (.unit chunk runner)
    (engine.registry.analyzer runner)
  obtain ⟨second, resolved⟩ := engine.reportLack_eq { state.announce chunk with log := first }
    (.unit chunk runner) (engine.registry.resolverOf runner)
  refine ⟨second, ?_⟩
  simp only [analyzed, resolved]
  rw [announced]

theorem openUnit_of_hasUnit (engine : Engine S F M) {state : EngineState S F M}
    {chunk runner : String} (present : state.hasUnit chunk runner = true) :
    engine.openUnit state chunk runner = state := if_pos present

theorem storeOf_openUnit (engine : Engine S F M) (state : EngineState S F M)
    (chunk runner other name : String) :
    (engine.openUnit state chunk runner).storeOf other name = state.storeOf other name := by
  by_cases present : state.hasUnit chunk runner = true
  · rw [engine.openUnit_of_hasUnit present]
  · obtain ⟨log, opened⟩ := engine.openUnit_eq state chunk runner present
    rw [opened]
    unfold EngineState.storeOf EngineState.store?
    rw [List.lookup_append]
    cases found : state.units.lookup (other, name) with
    | some store => rfl
    | none =>
        by_cases same : (other, name) = (chunk, runner)
        · cases same
          simp
        · simp [List.lookup_cons, beq_eq_false_iff_ne.mpr same]

theorem hasUnit_openUnit (engine : Engine S F M) (state : EngineState S F M)
    (chunk runner : String) : (engine.openUnit state chunk runner).hasUnit chunk runner = true := by
  by_cases present : state.hasUnit chunk runner = true
  · rw [engine.openUnit_of_hasUnit present]
    exact present
  · obtain ⟨log, opened⟩ := engine.openUnit_eq state chunk runner present
    rw [opened]
    unfold EngineState.hasUnit EngineState.store?
    rw [List.lookup_append]
    simp

private theorem held_openUnit (engine : Engine S F M) (state : EngineState S F M)
    (chunk runner : String) : (engine.openUnit state chunk runner).held = state.held := by
  by_cases present : state.hasUnit chunk runner = true
  · rw [engine.openUnit_of_hasUnit present]
  · obtain ⟨log, opened⟩ := engine.openUnit_eq state chunk runner present
    rw [opened]
    exact state.held_announce chunk

theorem keeps_openUnit (engine : Engine S F M) (state : EngineState S F M)
    (chunk runner : String) : state.Keeps (engine.openUnit state chunk runner) := by
  by_cases present : state.hasUnit chunk runner = true
  · rw [engine.openUnit_of_hasUnit present]
    exact ⟨rfl, rfl, rfl, rfl, id⟩
  · obtain ⟨log, opened⟩ := engine.openUnit_eq state chunk runner present
    have kept := state.keeps_announce chunk
    refine ⟨?_, ?_, ?_, ?_, ?_⟩
    · rw [opened]; exact kept.pending
    · rw [opened]; exact kept.barrierOpen
    · rw [opened]; exact kept.halted
    · rw [opened]; exact kept.closed
    · intro announced other name unit
      have members := state.mem_chunks_announce chunk other
      rw [opened] at unit ⊢
      apply members.mpr
      unfold EngineState.hasUnit EngineState.store? at unit
      rw [List.lookup_append] at unit
      cases found : state.units.lookup (other, name) with
      | some store =>
          refine Or.inr (announced other name ?_)
          unfold EngineState.hasUnit EngineState.store?
          rw [found, Option.isSome_some]
      | none =>
          by_cases same : (other, name) = (chunk, runner)
          · cases same
            exact Or.inl rfl
          · simp [found, List.lookup_cons, beq_eq_false_iff_ne.mpr same] at unit

/-! ### The effect of a message -/

/-- What the analyzer or the resolver of a unit sends for a message. A step that waits for a closed
barrier sends nothing. -/
def reply (engine : Engine S F M) (barrierOpen : Bool) (message : Message S F M) :
    List (Message S F M) :=
  match message with
  | .edgeAdded .. | .resolvedCall .. | .startNotice .. | .endNotice .. =>
      match engine.registry.analyzer message.runner with
      | .error _ => []
      | .ok analyzer =>
          if (analyzer.step message).waits && !barrierOpen then []
          else (analyzer.step message).messages
  | .unresolvedCall runner edge =>
      match engine.registry.resolverOf runner with
      | .ok (some indirection) =>
          match indirection.resolve runner edge with
          | .ok messages => messages
          | .error _ => []
      | _ => []
  | _ => []

/-- The analyzer of a message, if there is one, does not let it wait for the barrier. -/
def IsPrompt (engine : Engine S F M) (message : Message S F M) : Prop :=
  ∀ analyzer, engine.registry.analyzer message.runner = .ok analyzer →
    (analyzer.step message).waits = false

theorem reply_homeless (engine : Engine S F M) {message : Message S F M}
    (homeless : message.home? = none) (barrierOpen : Bool) :
    engine.reply barrierOpen message = [] := by
  cases message <;> first | rfl | cases homeless

private theorem reply_storage (engine : Engine S F M) {message : Message S F M}
    (category : message.category = .storage) (barrierOpen : Bool) :
    engine.reply barrierOpen message = [] := by
  cases message <;> first | rfl | cases category

private theorem reply_analyzer (engine : Engine S F M) {message : Message S F M}
    (category : message.category = .analyzer) {s : S} (home : message.home? = some s)
    (barrierOpen : Bool) :
    engine.reply barrierOpen message =
      match engine.registry.analyzer message.runner with
      | .error _ => []
      | .ok analyzer =>
          if (analyzer.step message).waits && !barrierOpen then []
          else (analyzer.step message).messages := by
  cases message <;> first | rfl | cases category | cases home

private theorem category_of_homeless (strategy : S → String) {message : Message S F M}
    (homeless : message.home? = none) {chunk runner : String}
    (owned : message.isOwnedBy strategy chunk runner = true) : message.category = .storage := by
  rw [message.isOwnedBy_iff] at owned
  cases message with
  | collectData => rfl
  | newChunk => cases owned.1
  | collectAll => cases owned.1
  | foreign => cases owned.1
  | _ => cases homeless

private theorem map_snd_sentBy (chunk runner : String) (messages : List (Message S F M)) :
    (sentBy chunk runner messages).map Prod.snd = messages := by
  unfold sentBy
  rw [List.map_map]
  exact List.map_id messages

variable [Shown S] [Shown F] [Shown M]

theorem finishStep_eq (engine : Engine S F M) (state : EngineState S F M)
    (chunk runner : String) (message : Message S F M) (result : StepResult S F M) :
    ∃ log, engine.finishStep state chunk runner message result =
      ({ state with log }, sentBy chunk runner result.messages) := by
  unfold finishStep
  split
  · exact ⟨state.log, rfl⟩
  · exact ⟨_, rfl⟩
  · exact ⟨_, rfl⟩

variable [DecidableEq S] [DecidableEq F]

/-- What the store that owns a message answers. -/
def answers (engine : Engine S F M) (state : EngineState S F M) (message : Message S F M) :
    List (Message S F M) :=
  match message.chunkOf engine.strategy with
  | some chunk => ((state.storeOf chunk message.runner).react message).2
  | none => []

/-- One store reacts to a message, and what is sent are its answers and the reply. -/
structure Effect (engine : Engine S F M) (state : EngineState S F M) (message : Message S F M)
    (next : EngineState S F M) (sent : List (Place × Message S F M)) : Prop where
  keeps : state.Keeps next
  stores : ∀ chunk runner, next.storeOf chunk runner =
    if message.isOwnedBy engine.strategy chunk runner = true then
      ((state.storeOf chunk runner).react message).1
    else state.storeOf chunk runner
  sent : sent.map Prod.snd = engine.answers state message ++ engine.reply state.barrierOpen message
  held : engine.IsPrompt message → next.held = state.held

private theorem answers_of_owned (engine : Engine S F M) (state : EngineState S F M)
    {chunk runner : String} {message : Message S F M}
    (owned : message.isOwnedBy engine.strategy chunk runner = true) :
    engine.answers state message = ((state.storeOf chunk runner).react message).2 := by
  obtain ⟨place, name⟩ := (message.isOwnedBy_iff engine.strategy chunk runner).mp owned
  unfold answers
  rw [place, name]

theorem react_homeless {message : Message S F M} (homeless : message.home? = none)
    (store : Store S F) : store.react message = (store, []) := by
  cases message <;> first | rfl | cases homeless

private theorem react_inert {message : Message S F M} (category : message.category ≠ .storage)
    (store : Store S F) : store.react message = (store, []) := by
  cases message <;> first | rfl | exact absurd rfl category

theorem effect_of_inert (engine : Engine S F M) {state next : EngineState S F M}
    {message : Message S F M} {sent : List (Place × Message S F M)} (keeps : state.Keeps next)
    (held : engine.IsPrompt message → next.held = state.held)
    (inert : ∀ store : Store S F, store.react message = (store, []))
    (stores : ∀ chunk runner, next.storeOf chunk runner = state.storeOf chunk runner)
    (sends : sent.map Prod.snd = engine.reply state.barrierOpen message) :
    engine.Effect state message next sent where
  keeps := keeps
  stores := fun chunk runner => by
    rw [inert, stores]
    exact (ite_self _).symm
  sent := by
    have silent : engine.answers state message = [] := by
      unfold answers
      split
      · rw [inert]
      · rfl
    rw [silent, List.nil_append]
    exact sends
  held := held

theorem record_effect (engine : Engine S F M) (state : EngineState S F M)
    {chunk runner : String} {message : Message S F M}
    (owned : message.isOwnedBy engine.strategy chunk runner = true)
    (category : message.category = .storage) :
    engine.Effect state message
      (engine.record (engine.openUnit state chunk runner) chunk runner message).1
      (engine.record (engine.openUnit state chunk runner) chunk runner message).2 := by
  have opened := engine.keeps_openUnit state chunk runner
  have present := engine.hasUnit_openUnit state chunk runner
  have stores := engine.storeOf_openUnit state chunk runner
  have held := engine.held_openUnit state chunk runner
  generalize engine.openUnit state chunk runner = middle at opened present stores held ⊢
  cases handled : (middle.storeOf chunk runner).handle message with
  | ok result =>
      have reacted : (state.storeOf chunk runner).react message = result := by
        unfold Store.react
        rw [← stores, handled]
      have recorded : engine.record middle chunk runner message =
          (middle.putStore chunk runner result.1, sentBy chunk runner result.2) := by
        unfold record
        unfold EngineState.storeOf at handled
        rw [handled]
      rw [recorded]
      refine ⟨opened.trans (middle.keeps_putStore (chunk, runner) result.1), ?_, ?_, fun _ => held⟩
      · intro other name
        rw [middle.storeOf_putStore (chunk, runner) present, stores]
        by_cases same : (other, name) = (chunk, runner)
        · cases same
          rw [if_pos rfl, if_pos owned, reacted]
        · rw [if_neg same, if_neg]
          intro elsewhere
          rw [message.isOwnedBy_iff] at owned elsewhere
          refine same (Prod.ext ?_ (elsewhere.2.symm.trans owned.2))
          exact Option.some.inj (elsewhere.1.symm.trans owned.1)
      · rw [map_snd_sentBy, engine.answers_of_owned state owned, reacted,
          engine.reply_storage category, List.append_nil]
  | error error =>
      have unchanged (store : Store S F) : store.react message = (store, []) := by
        cases message <;> first | rfl | cases handled
      have recorded : engine.record middle chunk runner message =
          (engine.reportFailure middle chunk runner "storage" message error.message, []) := by
        unfold record
        unfold EngineState.storeOf at handled
        rw [handled]
      rw [recorded]
      refine engine.effect_of_inert (opened.trans (middle.keeps_log _)) (fun _ => held)
        unchanged stores ?_
      rw [engine.reply_storage category]
      rfl

theorem work_effect (engine : Engine S F M) (state : EngineState S F M)
    {message : Message S F M} {s : S} (home : message.home? = some s)
    (category : message.category = .analyzer) (chunk : String) :
    engine.Effect state message
      (engine.work (engine.openUnit state chunk message.runner) chunk message.runner message).1
      (engine.work (engine.openUnit state chunk message.runner) chunk message.runner message).2 := by
  have opened := engine.keeps_openUnit state chunk message.runner
  have stores := engine.storeOf_openUnit state chunk message.runner
  have held := engine.held_openUnit state chunk message.runner
  have inert := react_inert (fun storage => by cases category.symm.trans storage)
  have replied := engine.reply_analyzer category home state.barrierOpen
  generalize engine.openUnit state chunk message.runner = middle at opened stores held ⊢
  unfold work
  cases found : engine.registry.analyzer message.runner with
  | error error =>
      refine engine.effect_of_inert (opened.trans (middle.keeps_log _)) (fun _ => held)
        inert stores ?_
      rw [replied, found]
      rfl
  | ok analyzer =>
      rw [found] at replied
      simp only
      rw [opened.barrierOpen]
      by_cases waits : ((analyzer.step message).waits && !state.barrierOpen) = true
      · rw [if_pos waits]
        refine engine.effect_of_inert ?_ (fun prompt => ?_) inert stores ?_
        · exact opened.trans ⟨rfl, opened.barrierOpen.symm, rfl, rfl, id⟩
        · simp [prompt analyzer found] at waits
        · simp only [replied, if_pos waits, List.map_nil]
      · rw [if_neg waits]
        obtain ⟨log, finished⟩ :=
          engine.finishStep_eq middle chunk message.runner message (analyzer.step message)
        rw [finished]
        refine engine.effect_of_inert (opened.trans (middle.keeps_log log)) (fun _ => held)
          inert stores ?_
        simp only [replied, if_neg waits, map_snd_sentBy]

theorem resolve_effect (engine : Engine S F M) (state : EngineState S F M)
    (runner : String) (edge : Edge S F) (chunk : String) :
    engine.Effect state (.unresolvedCall runner edge)
      (engine.resolve (engine.openUnit state chunk runner) chunk runner (.unresolvedCall runner edge)).1
      (engine.resolve (engine.openUnit state chunk runner) chunk runner
        (.unresolvedCall runner edge)).2 := by
  have opened := engine.keeps_openUnit state chunk runner
  have stores := engine.storeOf_openUnit state chunk runner
  have held := engine.held_openUnit state chunk runner
  generalize engine.openUnit state chunk runner = middle at opened stores held ⊢
  unfold resolve
  simp only
  split
  · rename_i indirection found
    split
    · rename_i messages resolved
      refine engine.effect_of_inert opened (fun _ => held) (fun _ => rfl) stores ?_
      simp only [reply, found, resolved, map_snd_sentBy]
    · rename_i cause failed
      refine engine.effect_of_inert (opened.trans (middle.keeps_log _)) (fun _ => held)
        (fun _ => rfl) stores ?_
      simp only [reply, found, failed, List.map_nil]
  · rename_i missing
    refine engine.effect_of_inert opened (fun _ => held) (fun _ => rfl) stores ?_
    simp only [reply, List.map_nil]

/-- The effect of handling a message while the engine is not halted, whichever manager it was given
to. -/
theorem handle_effect (engine : Engine S F M) (state : EngineState S F M)
    (running : state.halted = false) (place : Place) (message : Message S F M) :
    engine.Effect state message (engine.handle state place message).1
      (engine.handle state place message).2 := by
  obtain ⟨path, ends⟩ := destination_ends engine.strategy state.hasUnit place message
  unfold handle
  simp only [running, Bool.false_and, Bool.false_eq_true, if_false]
  cases home : message.home? with
  | some s =>
      rw [place.destination_of_home engine.strategy state.hasUnit home]
      have owned : message.isOwnedBy engine.strategy (engine.strategy s) message.runner = true :=
        (message.isOwnedBy_iff _ _ _).mpr ⟨chunkOf_of_home engine.strategy home, rfl⟩
      unfold Message.destinationIn
      rcases category_of_home home with category | category | ⟨runner, edge, rfl⟩
      · rw [category]
        exact engine.record_effect state owned category
      · rw [category]
        exact engine.work_effect state home category _
      · exact engine.resolve_effect state runner edge _
  | none =>
      have inert := react_homeless home
      have silent := (engine.reply_homeless home state.barrierOpen).symm
      cases found : place.destination engine.strategy state.hasUnit message with
      | storage chunk runner =>
          rw [found] at ends
          exact engine.record_effect state ends.1 ends.2.1
      | workers chunk runner =>
          rw [found] at ends
          cases ends.2.1.symm.trans (category_of_homeless engine.strategy home ends.1)
      | indirection chunk runner =>
          rw [found] at ends
          cases ends.2.1.symm.trans (category_of_homeless engine.strategy home ends.1)
      | project =>
          simp only
          split
          · rename_i chunk
            exact engine.effect_of_inert (state.keeps_announce chunk)
              (fun _ => state.held_announce chunk) inert
              (state.storeOf_announce chunk) silent
          · exact engine.effect_of_inert ⟨rfl, rfl, rfl, rfl, id⟩ (fun _ => rfl) inert
              (fun _ _ => rfl) silent
      | dropped =>
          exact engine.effect_of_inert (state.keeps_log _) (fun _ => rfl) inert
            (fun _ _ => rfl) silent
      | noData chunk =>
          exact engine.effect_of_inert (state.keeps_announce chunk)
              (fun _ => state.held_announce chunk) inert
            (state.storeOf_announce chunk) silent

end Engine

end Tabulation
