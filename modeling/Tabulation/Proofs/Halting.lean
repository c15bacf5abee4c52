/-
What a wait that ends at rest says of the messages.

A wait that is cut off halts the engine, and a halted engine drops what drives the analysis.
Dropped messages are no longer pending, so a later wait may end at rest although they were
never handled: rest alone does not make a result complete.  It does so if no message was
dropped, and none is dropped as long as no wait is cut off.
-/

import Tabulation.Proofs.Outcomes

namespace Tabulation

variable {S F M : Type}

namespace EngineState

def marked (state : EngineState S F M) (halted : Bool) : EngineState S F M := { state with halted }

/-- The state with another mark whether the engine is halted, and with other messages that wait. -/
def refit (state : EngineState S F M) (halted : Bool) (pending : List (Place × Message S F M)) :
    EngineState S F M :=
  { state with halted, pending }

theorem announce_refit (state : EngineState S F M) (chunk : String) (mark : Bool)
    (waiting : List (Place × Message S F M)) :
    (state.announce chunk).refit mark waiting = (state.refit mark waiting).announce chunk := by
  by_cases known : state.chunks.contains chunk = true
  · have same : (state.refit mark waiting).chunks.contains chunk = true := known
    unfold announce
    rw [if_pos known, if_pos same]
  · have same : ¬(state.refit mark waiting).chunks.contains chunk = true := known
    unfold announce
    rw [if_neg known, if_neg same]
    rfl

end EngineState

namespace Engine

/-! ### Only the decision to drop looks at the mark, and nothing at the messages that wait -/

variable (engine : Engine S F M) (state : EngineState S F M) (mark : Bool)
variable (waiting : List (Place × Message S F M))

private theorem reportLack_refit (place : Place) {α : Type} (found : Except RegistryError α) :
    (engine.reportLack state place found).refit mark waiting =
      engine.reportLack (state.refit mark waiting) place found := by
  cases found <;> rfl

private theorem openUnit_refit (chunk runner : String) :
    (engine.openUnit state chunk runner).refit mark waiting =
      engine.openUnit (state.refit mark waiting) chunk runner := by
  by_cases present : state.hasUnit chunk runner = true
  · have same : (state.refit mark waiting).hasUnit chunk runner = true := present
    unfold openUnit
    rw [if_pos present, if_pos same]
  · have same : ¬(state.refit mark waiting).hasUnit chunk runner = true := present
    unfold openUnit
    rw [if_neg present, if_neg same, ← EngineState.announce_refit]
    simp only [← reportLack_refit]
    rfl

variable [Shown S] [Shown F] [Shown M]

private theorem finishStep_refit (chunk runner : String) (message : Message S F M)
    (result : StepResult S F M) :
    (engine.finishStep state chunk runner message result).map (·.refit mark waiting) id =
      engine.finishStep (state.refit mark waiting) chunk runner message result := by
  unfold finishStep
  split <;> rfl

private theorem work_refit (chunk runner : String) (message : Message S F M) :
    (engine.work state chunk runner message).map (·.refit mark waiting) id =
      engine.work (state.refit mark waiting) chunk runner message := by
  unfold work
  cases engine.registry.analyzer runner with
  | error cause => rfl
  | ok analyzer =>
      have barrier : (state.refit mark waiting).barrierOpen = state.barrierOpen := rfl
      dsimp only
      rw [barrier]
      by_cases waits : ((analyzer.step message).waits && !state.barrierOpen) = true
      · rw [if_pos waits, if_pos waits]
        rfl
      · rw [if_neg waits, if_neg waits]
        exact engine.finishStep_refit state mark waiting chunk runner message _

private theorem resolve_refit (chunk runner : String) (message : Message S F M) :
    (engine.resolve state chunk runner message).map (·.refit mark waiting) id =
      engine.resolve (state.refit mark waiting) chunk runner message := by
  unfold resolve
  cases message with
  | unresolvedCall caller edge =>
      rcases engine.registry.resolverOf runner with cause | none | indirection
      · rfl
      · rfl
      · dsimp only
        cases indirection.resolve caller edge <;> rfl
  | _ => rfl

variable [DecidableEq S] [DecidableEq F]

private theorem record_refit (chunk runner : String) (message : Message S F M) :
    (engine.record state chunk runner message).map (·.refit mark waiting) id =
      engine.record (state.refit mark waiting) chunk runner message := by
  have store : (state.refit mark waiting).store? chunk runner = state.store? chunk runner := rfl
  unfold record
  rw [store]
  cases ((state.store? chunk runner).getD { runner }).handle message <;> rfl

/-- Whether an engine drops a message. -/
def Drops (halted : Bool) (message : Message S F M) : Prop :=
  halted = true ∧ message.isControl = false

variable {state mark waiting} {message : Message S F M}

omit [Shown S] [Shown F] [Shown M] [DecidableEq S] [DecidableEq F] in
theorem drops_iff {halted : Bool} :
    Drops halted message ↔ (halted && !message.isControl) = true := by
  simp [Drops]

private theorem handle_refit (place : Place) (kept : ¬Drops state.halted message)
    (keptMark : ¬Drops mark message) :
    (engine.handle state place message).map (·.refit mark waiting) id =
      engine.handle (state.refit mark waiting) place message := by
  have units : (state.refit mark waiting).hasUnit = state.hasUnit := rfl
  have flag : (state.refit mark waiting).halted = mark := rfl
  unfold handle
  rw [flag, if_neg (drops_iff.not.mp kept), if_neg (drops_iff.not.mp keptMark), units]
  generalize place.destination engine.strategy state.hasUnit message = destination
  cases destination with
  | project =>
      cases message with
      | newChunk chunk => exact Prod.ext (state.announce_refit chunk mark waiting) rfl
      | _ => rfl
  | dropped => rfl
  | noData chunk => exact Prod.ext (state.announce_refit chunk mark waiting) rfl
  | storage chunk runner =>
      dsimp only
      rw [record_refit, openUnit_refit]
  | workers chunk runner =>
      dsimp only
      rw [work_refit, openUnit_refit]
  | indirection chunk runner =>
      dsimp only
      rw [resolve_refit, openUnit_refit]

/-- What is sent for a message that is taken does not depend on the mark or on what waits. -/
theorem exists_take_refit (state : EngineState S F M) (rest : List (Place × Message S F M))
    (place : Place) (kept : ¬Drops state.halted message) :
    ∃ sent, (engine.take state rest place message).pending = rest ++ sent ∧
      ∀ mark before others, ¬Drops mark message →
        engine.take (state.refit mark before) others place message =
          (engine.take state rest place message).refit mark (others ++ sent) := by
  refine ⟨(engine.handle { state with pending := rest } place message).2, rfl, ?_⟩
  intro mark before others keptMark
  have handled : (engine.handle { state with pending := rest } place message).map
      (·.refit mark others) id =
      engine.handle (({ state with pending := rest } : EngineState S F M).refit mark others) place
        message :=
    engine.handle_refit place kept keptMark
  have same : ({ state.refit mark before with pending := others } : EngineState S F M) =
      ({ state with pending := rest } : EngineState S F M).refit mark others := rfl
  unfold take
  rw [same, ← handled]
  rfl

private theorem take_marked (rest : List (Place × Message S F M)) (place : Place)
    (kept : ¬Drops state.halted message) (keptMarked : ¬Drops mark message) :
    (engine.take state rest place message).marked mark =
      engine.take (state.marked mark) rest place message := by
  obtain ⟨sent, waits, same⟩ := engine.exists_take_refit state rest place kept
  refine Eq.trans ?_ (same mark state.pending rest keptMarked).symm
  rw [← waits]
  rfl

theorem take_of_drops (rest : List (Place × Message S F M)) (place : Place)
    (lost : Drops state.halted message) :
    engine.take state rest place message = { state with pending := rest } := by
  unfold take handle
  dsimp only
  rw [if_pos (drops_iff.mp lost), List.append_nil]

/-- Neither handling nor dropping a message changes whether the engine is halted or closed. -/
theorem halted_take (state : EngineState S F M) (rest : List (Place × Message S F M))
    (place : Place) (message : Message S F M) :
    (engine.take state rest place message).halted = state.halted ∧
      (engine.take state rest place message).closed = state.closed := by
  by_cases lost : Drops state.halted message
  · rw [engine.take_of_drops rest place lost]
    exact ⟨rfl, rfl⟩
  · have same := engine.take_marked rest place lost lost
    have running : ¬Drops false message := fun drops => Bool.false_ne_true drops.1
    have effect := engine.handle_effect ({ state with pending := rest }.marked false) rfl place
      message
    have closed := congrArg EngineState.closed
      (engine.take_marked rest place lost running)
    exact ⟨(congrArg EngineState.halted same).symm, closed.trans effect.keeps.closed⟩

end Engine

/-! ### Sessions -/

/-- What happened to an engine since it came into being: what was sent, handled and dropped, how
the waits ended, and the state. -/
structure Session (S F M : Type) extends History S F M where
  dropped : List (Message S F M)
  answers : List (Except EngineError Status)

namespace Session

/-- The session of an engine that did nothing yet. -/
def initial (log : Log) : Session S F M := ⟨.initial log, [], []⟩

/-- The history of the session, as if the engine had never been halted. -/
def unhalted (session : Session S F M) : History S F M :=
  ⟨session.sent, session.handled, session.state.marked false⟩

end Session

namespace Engine

private theorem mem_pending_of_taken {pending before rest : List (Place × Message S F M)}
    {place : Place} {message other : Message S F M}
    (waiting : pending = before ++ (place, message) :: rest)
    (member : other ∈ pending.map Prod.snd) :
    other = message ∨ other ∈ (before ++ rest).map Prod.snd := by
  rw [waiting] at member
  simp only [List.map_append, List.map_cons, List.mem_append, List.mem_cons] at member ⊢
  tauto

variable [DecidableEq S] [DecidableEq F] [Shown S] [Shown F] [Shown M]

/-- The engine takes some pending message, and handles or drops it. -/
inductive Takes (engine : Engine S F M) : Session S F M → Session S F M → Prop
  | handle {session : Session S F M} {before after : List (Place × Message S F M)} {place : Place}
      {message : Message S F M}
      (waiting : session.state.pending = before ++ (place, message) :: after)
      (kept : ¬Drops session.state.halted message) :
      Takes engine session { session with
        handled := message :: session.handled
        state := engine.take session.state (before ++ after) place message }
  | drop {session : Session S F M} {before after : List (Place × Message S F M)} {place : Place}
      {message : Message S F M}
      (waiting : session.state.pending = before ++ (place, message) :: after)
      (lost : Drops session.state.halted message) :
      Takes engine session { session with
        dropped := message :: session.dropped
        state := engine.take session.state (before ++ after) place message }

/-- A wait during which the engine takes messages in any order. It ends at rest, or it is cut off at
any moment and halts the engine. -/
inductive Waits (engine : Engine S F M) (session : Session S F M) :
    Except EngineError Status → Session S F M → Prop
  | atRest {after : Session S F M} (takes : Relation.ReflTransGen engine.Takes session after)
      (idle : after.state.isIdle = true) : Waits engine session (.ok .quiesced) after
  | timedOut {after : Session S F M} (takes : Relation.ReflTransGen engine.Takes session after) :
      Waits engine session (.ok .timedOut) { after with state.halted := true }
  | cancelled {after : Session S F M} (takes : Relation.ReflTransGen engine.Takes session after) :
      Waits engine session (.error .cancelled) { after with state.halted := true }

/-! ### What holds in every session -/

/-- What the operations of a session leave true. -/
structure Keeps (engine : Engine S F M) (log : Log) (session : Session S F M) : Prop where
  opened : session.state.closed = false
  conserved : ∀ message ∈ session.sent,
    message ∈ session.pending ∨ message ∈ session.handled ∨ message ∈ session.dropped
  /-- Without a loss the session is an ordinary run. -/
  lossless : session.dropped = [] → engine.Reaches log session.unhalted
  /-- Whatever halted the engine was the end of a wait. -/
  cutOff : session.state.halted = true ∨ session.dropped ≠ [] →
    ∃ answer ∈ session.answers, answer ≠ .ok .quiesced

variable {engine : Engine S F M} {log : Log} {session after : Session S F M}

private theorem Keeps.handle (keeps : engine.Keeps log session)
    {before rest : List (Place × Message S F M)} {place : Place} {message : Message S F M}
    (waiting : session.state.pending = before ++ (place, message) :: rest)
    (kept : ¬Drops session.state.halted message) :
    engine.Keeps log { session with
      handled := message :: session.handled
      state := engine.take session.state (before ++ rest) place message } := by
  obtain ⟨halted, closed⟩ := engine.halted_take session.state (before ++ rest) place message
  refine ⟨closed.trans keeps.opened, ?_, ?_, ?_⟩
  · intro other sent
    rcases keeps.conserved other sent with pending | handled | dropped
    · rcases mem_pending_of_taken waiting pending with same | left
      · exact Or.inr (Or.inl (same ▸ List.mem_cons_self))
      · refine Or.inl ?_
        unfold History.pending take
        rw [List.map_append]
        exact List.mem_append_left _ left
    · exact Or.inr (Or.inl (List.mem_cons_of_mem _ handled))
    · exact Or.inr (Or.inr dropped)
  · intro whole
    have running : ¬Drops false message := fun drops => Bool.false_ne_true drops.1
    have taken := engine.take_marked (before ++ rest) place kept running
    have next := (keeps.lossless whole).tail (Move.handle waiting)
    change engine.Reaches log ⟨session.sent, message :: session.handled,
      (engine.take session.state (before ++ rest) place message).marked false⟩
    rw [taken]
    exact next
  · rw [halted]
    exact keeps.cutOff

private theorem Keeps.drop (keeps : engine.Keeps log session)
    {before rest : List (Place × Message S F M)} {place : Place} {message : Message S F M}
    (waiting : session.state.pending = before ++ (place, message) :: rest)
    (lost : Drops session.state.halted message) :
    engine.Keeps log { session with
      dropped := message :: session.dropped
      state := engine.take session.state (before ++ rest) place message } := by
  rw [engine.take_of_drops (before ++ rest) place lost]
  refine ⟨keeps.opened, ?_, ?_, fun _ => keeps.cutOff (Or.inl lost.1)⟩
  · intro other sent
    rcases keeps.conserved other sent with pending | handled | dropped
    · rcases mem_pending_of_taken waiting pending with same | left
      · exact Or.inr (Or.inr (same ▸ List.mem_cons_self))
      · exact Or.inl left
    · exact Or.inr (Or.inl handled)
    · exact Or.inr (Or.inr (List.mem_cons_of_mem _ dropped))
  · intro whole
    cases whole

private theorem Keeps.takesAll (keeps : engine.Keeps log session)
    (takes : Relation.ReflTransGen engine.Takes session after) : engine.Keeps log after := by
  induction takes with
  | refl => exact keeps
  | tail _ taken ih =>
      cases taken with
      | handle waiting kept => exact ih.handle waiting kept
      | drop waiting lost => exact ih.drop waiting lost

private theorem log_of_takes (takes : Relation.ReflTransGen engine.Takes session after) :
    after.answers = session.answers ∧ after.sent = session.sent := by
  induction takes with
  | refl => exact ⟨rfl, rfl⟩
  | tail _ taken ih => cases taken <;> exact ih

private theorem Keeps.waits (keeps : engine.Keeps log session)
    {answer : Except EngineError Status} (waits : engine.Waits session answer after) :
    engine.Keeps log { after with answers := answer :: after.answers } := by
  cases waits with
  | atRest takes idle =>
      have kept := keeps.takesAll takes
      refine ⟨kept.opened, kept.conserved, kept.lossless, fun stopped => ?_⟩
      obtain ⟨cut, member, different⟩ := kept.cutOff stopped
      exact ⟨cut, List.mem_cons_of_mem _ member, different⟩
  | timedOut takes =>
      have kept := keeps.takesAll takes
      exact ⟨kept.opened, kept.conserved, kept.lossless, fun _ =>
        ⟨_, List.mem_cons_self, by decide⟩⟩
  | cancelled takes =>
      have kept := keeps.takesAll takes
      exact ⟨kept.opened, kept.conserved, kept.lossless, fun _ =>
        ⟨_, List.mem_cons_self, by decide⟩⟩

private theorem Keeps.sendAll (keeps : engine.Keeps log session)
    (messages : List (Message S F M)) :
    engine.Keeps log { session with
      sent := messages.reverse ++ session.sent
      state.pending := session.state.pending ++ messages.map (Place.project, ·) } := by
  refine ⟨keeps.opened, ?_, ?_, keeps.cutOff⟩
  · intro other sent
    unfold History.pending
    dsimp only
    rw [List.map_append, List.map_map]
    rcases List.mem_append.mp sent with new | old
    · refine Or.inl (List.mem_append_right _ ?_)
      exact List.mem_map.mpr ⟨other, List.mem_reverse.mp new, rfl⟩
    · rcases keeps.conserved other old with pending | done
      · exact Or.inl (List.mem_append_left _ pending)
      · exact Or.inr done
  · intro whole
    exact (keeps.lossless whole).sendAll messages

variable [Inhabited S] [Inhabited F]

/-- An operation from outside, or a step of the engine between two of them. Collecting does not
change anything. -/
inductive Operates (engine : Engine S F M) : Session S F M → Session S F M → Prop
  | takes {session after : Session S F M} (takes : engine.Takes session after) :
      Operates engine session after
  | send {session : Session S F M} {message : Message S F M} {next : EngineState S F M}
      (accepted : Engine.send session.state message = .ok next) :
      Operates engine session { session with sent := message :: session.sent, state := next }
  | start {session : Session S F M} {runner : String} {analyzer : Analyzer S F M} {method : M}
      {next : EngineState S F M} (found : engine.registry.analyzer runner = .ok analyzer)
      (started : engine.start session.state runner method = .ok next) :
      Operates engine session { session with
        sent := (engine.seeds analyzer runner method).reverse ++ session.sent
        state := next }
  | wait {session after : Session S F M} {answer : Except EngineError Status}
      (waits : engine.Waits session answer after) :
      Operates engine session { after with answers := answer :: after.answers }
  | resume {session : Session S F M} :
      Operates engine session { session with state := Engine.resume session.state }

/-- Some operations from the beginning lead to this session. -/
def Attains (engine : Engine S F M) (log : Log) (session : Session S F M) : Prop :=
  Relation.ReflTransGen engine.Operates (.initial log) session

theorem Attains.keeps (attains : engine.Attains log session) : engine.Keeps log session := by
  induction attains with
  | refl =>
      refine ⟨rfl, ?_, fun _ => Relation.ReflTransGen.refl, ?_⟩
      · intro message sent
        cases sent
      · rintro (halted | lost)
        · cases halted
        · exact absurd rfl lost
  | @tail before after _ operates ih =>
      cases operates with
      | takes taken => exact ih.takesAll (.single taken)
      | @send message next accepted =>
          unfold Engine.send at accepted
          rw [if_neg (ne_true_of_eq_false ih.opened)] at accepted
          cases accepted
          exact ih.sendAll [message]
      | @start runner analyzer method next found started =>
          unfold Engine.start at started
          rw [if_neg (ne_true_of_eq_false ih.opened), found] at started
          cases started
          exact ih.sendAll (engine.seeds analyzer runner method)
      | wait waits => exact ih.waits waits
      | resume => exact ⟨ih.opened, ih.conserved, ih.lossless, fun stopped =>
          ih.cutOff (stopped.imp (fun halted => absurd halted Bool.false_ne_true) id)⟩

/-! ### The waits of the engine -/

omit [Inhabited S] [Inhabited F] in
private theorem takes_run (engine : Engine S F M) (limit : ℕ) (session : Session S F M) :
    ∃ after, Relation.ReflTransGen engine.Takes session after ∧
      after.state = engine.run limit session.state := by
  induction limit generalizing session with
  | zero => exact ⟨session, .refl, rfl⟩
  | succ limit ih =>
      unfold Engine.run
      cases waiting : session.state.pending with
      | nil => exact ⟨session, .refl, rfl⟩
      | cons first rest =>
          obtain ⟨place, message⟩ := first
          have oldest : session.state.pending = [] ++ (place, message) :: rest := waiting
          rw [engine.step_eq_take waiting]
          by_cases lost : Drops session.state.halted message
          · obtain ⟨after, takes, same⟩ := ih _
            exact ⟨after, .head (.drop oldest lost) takes, same⟩
          · obtain ⟨after, takes, same⟩ := ih _
            exact ⟨after, .head (.handle oldest lost) takes, same⟩

theorem Attains.await (attains : engine.Attains log session) :
    ∃ after, engine.Waits session (engine.await session.state).1 after ∧
      after.state = (engine.await session.state).2 := by
  obtain ⟨after, takes, same⟩ := engine.takes_run engine.patience session
  change after.state = engine.settle session.state at same
  unfold Engine.await
  rw [if_neg (ne_true_of_eq_false attains.keeps.opened), ← same]
  dsimp only
  by_cases idle : after.state.isIdle = true
  · rw [if_pos idle]
    exact ⟨after, .atRest takes idle, rfl⟩
  · rw [if_neg idle]
    exact ⟨_, .timedOut takes, rfl⟩

theorem Attains.giveUp (attains : engine.Attains log session) :
    ∃ after, engine.Waits session (engine.giveUp session.state).1 after ∧
      after.state = (engine.giveUp session.state).2 := by
  obtain ⟨after, takes, same⟩ := engine.takes_run engine.patience session
  change after.state = engine.settle session.state at same
  unfold Engine.giveUp
  rw [if_neg (ne_true_of_eq_false attains.keeps.opened), ← same]
  dsimp only
  by_cases idle : after.state.isIdle = true
  · rw [if_pos idle]
    exact ⟨after, .atRest takes idle, rfl⟩
  · rw [if_neg idle]
    exact ⟨_, .cancelled takes, rfl⟩

/-! ### Rest and completeness -/

variable [DecidableEq M] [Hashable S] [Hashable F]

/-- At the end of a wait at rest every message that was sent has been handled or dropped.  None was
dropped if no wait before was cut off, and if none was dropped the result is complete: all that
was called for is handled, and the collected data is the least solution from all seeds. -/
theorem rest_is_complete_unless_dropped (engine : Engine S F M) (rules : Rules S F M)
    (dispatch : Dispatch S M) (follows : engine.Follows rules dispatch)
    (hook : rules.OnlyFindings) (log : Log) (session after : Session S F M)
    (attains : engine.Attains log session) (waits : engine.Waits session (.ok .quiesced) after) :
    (∀ message ∈ after.sent, message ∈ after.handled ∨ message ∈ after.dropped) ∧
    ((∀ answer ∈ session.answers, answer = .ok .quiesced) → after.dropped = []) ∧
    (after.dropped = [] →
      (∀ message, message ∈ after.handled ↔
        message ∈ after.sent ∨
        Due engine.strategy {other | other ∈ after.handled} message ∨
        ∃ other ∈ after.handled, message ∈ engine.reply false other) ∧
      ((∀ message ∈ after.sent, ∃ runner edge reason, message = .newEdge runner edge reason) →
        ∃ data, Engine.collect after.state rules.runner = .ok data ∧
          rules.IsSolvedBy dispatch (after.seeds rules.runner) data)) := by
  cases waits with
  | atRest takes idle =>
      have keeps := attains.keeps.takesAll takes
      unfold EngineState.isIdle at idle
      rw [Bool.and_eq_true, List.isEmpty_iff, List.isEmpty_iff] at idle
      have finished : after.pending = [] := by
        unfold History.pending
        rw [idle.1, List.map_nil]
      refine ⟨?_, ?_, ?_⟩
      · intro message sent
        have origin := keeps.conserved message sent
        rw [finished] at origin
        exact origin.resolve_left List.not_mem_nil
      · intro allAtRest
        by_contra lost
        obtain ⟨answer, member, cutOff⟩ := keeps.cutOff (Or.inr lost)
        rw [(log_of_takes takes).1] at member
        exact cutOff (allAtRest answer member)
      · intro whole
        have reaches := keeps.lossless whole
        have accounts := Reaches.accounts reaches
        refine ⟨accounts.mem_handled_iff finished, fun edges => ?_⟩
        obtain ⟨data, collected, reports⟩ := accounts.collect rules.runner
        exact ⟨data, collected, reaches.isSolvedBy finished follows hook edges reports⟩

end Engine

theorem Engine.rest_is_complete_unless_dropped_sample : ∃ session after data,
    (Sample.engine Sample.graph.methodOf).Attains Sample.log session ∧
    (Sample.engine Sample.graph.methodOf).Waits session (.ok .quiesced) after ∧
    after.dropped = [] ∧ Engine.collect after.state "sample" = .ok data ∧
    Sample.rules.IsSolvedBy Sample.dispatch (after.seeds "sample") data := by
  let engine := Sample.engine Sample.graph.methodOf
  let started : EngineState String String String :=
    { Engine.initial Sample.log with pending := [(Place.project, Sample.seed)] }
  have known : engine.registry.analyzer "sample" = .ok Sample.rules.analyzer := rfl
  have begun : engine.start (Session.initial Sample.log).state "sample" "caller" =
      .ok started := rfl
  have attains : engine.Attains Sample.log ⟨⟨[Sample.seed], [], started⟩, [], []⟩ :=
    .single (.start known begun)
  obtain ⟨after, waits, same⟩ := attains.await
  have quiesced : (engine.await started).1 = .ok .quiesced := by decide
  rw [quiesced] at waits
  obtain ⟨_, whole, complete⟩ := Engine.rest_is_complete_unless_dropped engine Sample.rules
    Sample.dispatch (Sample.follows _) Sample.onlyFindings Sample.log _ after attains waits
  have kept := whole fun answer member => absurd member List.not_mem_nil
  obtain ⟨data, collected, solved⟩ := (complete kept).2 (by
    cases waits with
    | atRest takes _ =>
        rw [(Engine.log_of_takes takes).2]
        exact Sample.isNewEdge_of_mem_seed)
  exact ⟨_, after, data, attains, waits, kept, collected, solved⟩

namespace Sample

/-- An engine that loses patience after one message. -/
def hasty : Engine String String String := { engine graph.methodOf with patience := 1 }

end Sample

/-- A wait is cut off, and the next one ends at rest: the engine dropped what was left of the
analysis, so the callee was never entered. -/
theorem Engine.rest_after_drop : ∃ first second third data,
    Sample.hasty.start (Engine.initial Sample.log) "sample" "caller" = .ok first ∧
    Sample.hasty.await first = (.ok .timedOut, second) ∧
    Sample.hasty.await second = (.ok .quiesced, third) ∧
    Engine.collect third "sample" = .ok data ∧
    ¬Sample.rules.IsSolvedBy Sample.dispatch {(.loop ⟨"call", "fact"⟩, .initial)} data := by
  let first : EngineState String String String :=
    { Engine.initial Sample.log with pending := [(Place.project, Sample.seed)] }
  let second := (Sample.hasty.await first).2
  let third := (Sample.hasty.await second).2
  have cutOff : (Sample.hasty.await first).1 = .ok .timedOut := by decide
  have atRest : (Sample.hasty.await second).1 = .ok .quiesced := by decide
  obtain ⟨data, collected⟩ : ∃ data, Engine.collect third "sample" = .ok data := ⟨_, rfl⟩
  have unseen : ⟨"body", "fact"⟩ ∉ data.facts := by
    rw [Engine.mem_facts_of_collect collected]
    decide
  refine ⟨first, second, third, data, rfl, Prod.ext cutOff rfl, Prod.ext atRest rfl,
    collected, fun solved => unseen ?_⟩
  have enters : Sample.rules.Enters Sample.dispatch ⟨"call", "fact"⟩ "fact" ⟨"body", "fact"⟩ :=
    ⟨⟨rfl, "return", by decide, by decide⟩, "callee", by decide, by decide, by decide⟩
  have called : Edge.loop ⟨"call", "fact"⟩ ∈ {edge | edge ∈ data.edges} :=
    solved.edges.1.1 _ rfl
  have entered := solved.edges.1.2 _ _ (Rules.Infers.callToStart called enters)
  exact (solved.facts _).mpr ⟨_, entered, rfl⟩

end Tabulation
