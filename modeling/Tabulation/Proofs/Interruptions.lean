/-
What is left of an interrupted run.

A halted engine drops what drives the analysis, and may go on later.  To drop a message is to
leave it where it is: an interrupted session has handled what an ordinary run has handled in
which the dropped messages still wait.  So all that holds of every moment of a run holds of partial
results too.  They are sound, and since stores only grow, they are only added to.
-/

import Mathlib.Order.Bounds.Defs
import Tabulation.Proofs.Halting

namespace Tabulation

variable {S F M : Type}

namespace Engine

/-- What a session has is part of what a later one has. -/
structure Grows (session later : Session S F M) : Prop where
  stores : ∀ chunk runner,
    (session.state.storeOf chunk runner).IsPartOf (later.state.storeOf chunk runner)
  handled : session.handled <:+ later.handled

theorem Grows.refl (session : Session S F M) : Grows session session :=
  ⟨fun _ _ => .refl _, List.suffix_rfl⟩

theorem Grows.trans {first second third : Session S F M} (before : Grows first second)
    (after : Grows second third) : Grows first third :=
  ⟨fun chunk runner => (before.stores chunk runner).trans (after.stores chunk runner),
    before.handled.trans after.handled⟩

section Interruptions

variable [DecidableEq S] [DecidableEq F] [Shown S] [Shown F] [Shown M]

/-- What may happen in a session. The engine takes messages in any order, and it may be halted and
may go on at any time, so any of the messages that drive the analysis may be dropped. -/
inductive Interrupts (engine : Engine S F M) : Session S F M → Session S F M → Prop
  | takes {session after : Session S F M} (takes : engine.Takes session after) :
      Interrupts engine session after
  | send {session : Session S F M} {message : Message S F M} {next : EngineState S F M}
      (accepted : Engine.send session.state message = .ok next) :
      Interrupts engine session { session with sent := message :: session.sent, state := next }
  | halt {session : Session S F M} :
      Interrupts engine session { session with state.halted := true }
  | resume {session : Session S F M} :
      Interrupts engine session { session with state := Engine.resume session.state }

/-- Some interrupted run from the beginning leads to this session. -/
def Interrupted (engine : Engine S F M) (log : Log) (session : Session S F M) : Prop :=
  Relation.ReflTransGen engine.Interrupts (.initial log) session

/-! ### Dropped messages still wait -/

variable {engine : Engine S F M} {log : Log} {session after later : Session S F M}

/-- The messages that wait in an ordinary run that has handled the same: those that are pending
and those that were dropped. -/
structure Postpones (session : Session S F M) (waiting lost : List (Place × Message S F M)) :
    Prop where
  waits : waiting.Perm (session.state.pending ++ lost)
  lost : lost.map Prod.snd = session.dropped

private theorem append_right_comm {α : Type} (first second third : List α) :
    (first ++ second ++ third).Perm (first ++ third ++ second) := by
  rw [List.append_assoc, List.append_assoc]
  exact List.perm_append_comm.append_left first

private theorem Postpones.handle {waiting lost before rest : List (Place × Message S F M)}
    {place : Place} {message : Message S F M} (postpones : Postpones session waiting lost)
    (reaches : engine.Reaches log
      ⟨session.sent, session.handled, session.state.refit false waiting⟩)
    (pending : session.state.pending = before ++ (place, message) :: rest)
    (kept : ¬Drops session.state.halted message) :
    ∃ later, engine.Reaches log ⟨session.sent, message :: session.handled,
        (engine.take session.state (before ++ rest) place message).refit false later⟩ ∧
      later.Perm
        ((engine.take session.state (before ++ rest) place message).pending ++ lost) := by
  have waits := postpones.waits
  rw [pending, List.append_assoc, List.cons_append] at waits
  obtain ⟨first, second, rfl⟩ := List.append_of_mem
    (waits.mem_iff.mpr (List.mem_append_right before List.mem_cons_self))
  obtain ⟨sent, waitsAfter, same⟩ :=
    engine.exists_take_refit session.state (before ++ rest) place kept
  have running : ¬Drops false message := fun drops => Bool.false_ne_true drops.1
  refine ⟨(first ++ second) ++ sent, ?_, ?_⟩
  · have next := reaches.tail (Move.handle rfl)
    dsimp only at next
    rw [same false _ _ running] at next
    exact next
  · -- the same message leaves both lists, and the same messages come behind
    have left : (first ++ second).Perm ((before ++ rest) ++ lost) := by
      rw [List.append_assoc]
      exact (List.perm_middle.symm.trans (waits.trans List.perm_middle)).cons_inv
    rw [waitsAfter]
    exact (left.append_right sent).trans (append_right_comm _ lost sent)

theorem Interrupted.exists_reaches (interrupted : engine.Interrupted log session) :
    ∃ waiting lost, Postpones session waiting lost ∧
      engine.Reaches log ⟨session.sent, session.handled, session.state.refit false waiting⟩ := by
  induction interrupted with
  | refl => exact ⟨[], [], ⟨.refl _, rfl⟩, .refl⟩
  | @tail session after _ interrupts inductionHypothesis =>
      obtain ⟨waiting, lost, postpones, reaches⟩ := inductionHypothesis
      cases interrupts with
      | takes takes =>
          cases takes with
          | handle pending kept =>
              obtain ⟨next, reached, waits⟩ := postpones.handle reaches pending kept
              exact ⟨next, lost, ⟨waits, postpones.lost⟩, reached⟩
          | @drop before rest place message pending dropped =>
              rw [engine.take_of_drops _ _ dropped]
              refine ⟨waiting, (place, message) :: lost, ⟨postpones.waits.trans ?_, ?_⟩, reaches⟩
              · rw [pending, List.append_assoc, List.cons_append]
                refine List.perm_middle.trans ?_
                rw [← List.append_assoc]
                exact List.perm_middle.symm
              · rw [List.map_cons, postpones.lost]
      | @send message next accepted =>
          unfold Engine.send at accepted
          split at accepted
          · cases accepted
          · rename_i opened
            cases accepted
            refine ⟨waiting ++ [(Place.project, message)], lost, ⟨?_, postpones.lost⟩,
              reaches.tail (Move.send (if_neg opened))⟩
            exact (postpones.waits.append_right _).trans (append_right_comm _ lost _)
      | halt => exact ⟨waiting, lost, ⟨postpones.waits, postpones.lost⟩, reaches⟩
      | resume => exact ⟨waiting, lost, ⟨postpones.waits, postpones.lost⟩, reaches⟩

/-! ### Partial results only grow -/

theorem Interrupts.grows (interrupts : engine.Interrupts session after) :
    Grows session after := by
  have same := Grows.refl session
  cases interrupts with
  | takes takes =>
      cases takes with
      | @handle before rest place message pending kept =>
          refine ⟨fun chunk runner => ?_, List.suffix_cons message session.handled⟩
          obtain ⟨sent, _, refits⟩ :=
            engine.exists_take_refit session.state (before ++ rest) place kept
          have running : ¬Drops false message := fun drops => Bool.false_ne_true drops.1
          have unhalted : (session.state.refit false []).halted = false := rfl
          have stores := engine.storeOf_take unhalted (before ++ rest) place message chunk runner
          rw [refits false [] _ running] at stores
          change (engine.take session.state (before ++ rest) place message).storeOf chunk runner =
            _ at stores
          dsimp only
          rw [stores]
          split
          · exact Store.isPartOf_react _ message
          · exact .refl _
      | drop pending dropped =>
          rw [engine.take_of_drops _ _ dropped]
          exact ⟨same.stores, same.handled⟩
  | send accepted =>
      unfold Engine.send at accepted
      split at accepted
      · cases accepted
      · cases accepted
        exact ⟨same.stores, same.handled⟩
  | halt => exact ⟨same.stores, same.handled⟩
  | resume => exact ⟨same.stores, same.handled⟩

theorem grows_of_interrupts (further : Relation.ReflTransGen engine.Interrupts session later) :
    Grows session later := by
  induction further with
  | refl => exact .refl _
  | tail _ interrupts inductionHypothesis => exact inductionHypothesis.trans interrupts.grows

end Interruptions

/-! ### The complete fixpoint -/

/-- The messages that some messages call for, be it through the stores, an analyzer or a resolver. -/
inductive Called (engine : Engine S F M) (sent : Set (Message S F M)) : Message S F M → Prop
  | sent {message : Message S F M} (member : message ∈ sent) : Called engine sent message
  | due {known : Set (Message S F M)} {answer : Message S F M}
      (called : ∀ message ∈ known, Called engine sent message)
      (due : Due engine.strategy known answer) : Called engine sent answer
  | replied {message other : Message S F M} (called : Called engine sent message)
      (replied : other ∈ engine.reply false message) : Called engine sent other

/-- All messages that a list of messages calls for, if none is dropped. -/
def calledBy (engine : Engine S F M) (sent : List (Message S F M)) : Set (Message S F M) :=
  {message | engine.Called {other | other ∈ sent} message}

theorem calledBy_reverse (engine : Engine S F M) (sent : List (Message S F M)) :
    engine.calledBy sent.reverse = engine.calledBy sent := by
  unfold calledBy
  simp only [List.mem_reverse]

variable [DecidableEq S] [DecidableEq F] [Shown S] [Shown F] [Shown M]
variable {engine : Engine S F M} {log : Log} {history : History S F M}

theorem Reaches.called (reaches : engine.Reaches log history) :
    ∀ message ∈ history.handled, message ∈ engine.calledBy history.sent :=
  Reaches.forall_handled reaches (fun _ member => .sent member)
    (fun _ called _ due => .due called due) (fun _ called _ replied => .replied called replied)

/-- A finished run has handled just the messages that it calls for. -/
theorem Reaches.mem_handled_iff_called (reaches : engine.Reaches log history)
    (finished : history.pending = []) (message : Message S F M) :
    message ∈ history.handled ↔ message ∈ engine.calledBy history.sent := by
  have accounts := Reaches.accounts reaches
  constructor
  · exact Reaches.called reaches message
  · intro called
    induction called with
    | sent member => exact accounts.mem_of_sent finished member
    | due _ due inductionHypothesis =>
        exact accounts.mem_of_due finished (due.mono inductionHypothesis)
    | replied _ replied inductionHypothesis =>
        exact accounts.mem_of_reply finished inductionHypothesis replied

end Engine

/-! ### Data within a fixpoint -/

/-- All items of the data of a runner were asked for by some messages. -/
structure Solution.IsWithin (data : Solution S F) (runner : String)
    (messages : Set (Message S F M)) : Prop where
  edges : ∀ edge ∈ data.edges, ∃ reason, .newEdge runner edge reason ∈ messages
  reasons : ∀ edge reason, (edge, reason) ∈ data.reasons → .newEdge runner edge reason ∈ messages
  facts : ∀ vertex ∈ data.facts, ∃ edge reason,
    edge.target = vertex ∧ .newEdge runner edge reason ∈ messages
  summaries : ∀ edge ∈ data.summaries, .newSummary runner edge ∈ messages
  findings : ∀ finding ∈ data.findings, .newFinding runner finding ∈ messages

/-- All items of some data are items of other data. -/
structure Solution.IsPartOf (data more : Solution S F) : Prop where
  edges : data.edges ⊆ more.edges
  reasons : data.reasons ⊆ more.reasons
  facts : data.facts ⊆ more.facts
  summaries : data.summaries ⊆ more.summaries
  findings : data.findings ⊆ more.findings

namespace Solution.Reports

variable {data more : Solution S F} {runner : String} {few many : Set (Message S F M)}

theorem isWithin (reports : data.Reports runner few) (subset : few ⊆ many) :
    data.IsWithin runner many where
  edges := fun edge member =>
    ((reports.edges edge).mp member).imp fun _ asked => subset asked
  reasons := fun edge reason member => subset ((reports.reasons edge reason).mp member)
  facts := fun vertex member => by
    obtain ⟨edge, reason, target, asked⟩ := (reports.facts vertex).mp member
    exact ⟨edge, reason, target, subset asked⟩
  summaries := fun edge member => subset ((reports.summaries edge).mp member)
  findings := fun finding member => subset ((reports.findings finding).mp member)

theorem isPartOf (reports : data.Reports runner few) (later : more.Reports runner many)
    (subset : few ⊆ many) : data.IsPartOf more := by
  have within := reports.isWithin subset
  refine ⟨?_, ?_, ?_, ?_, ?_⟩
  · exact fun edge member => (later.edges edge).mpr (within.edges edge member)
  · exact fun pair member => (later.reasons _ _).mpr (within.reasons pair.1 pair.2 member)
  · exact fun vertex member => (later.facts vertex).mpr (within.facts vertex member)
  · exact fun edge member => (later.summaries edge).mpr (within.summaries edge member)
  · exact fun finding member => (later.findings finding).mpr (within.findings finding member)

end Solution.Reports

section Rules

variable [DecidableEq S] [DecidableEq M] [Inhabited S] [Inhabited F]

namespace Rules

variable (rules : Rules S F M) (dispatch : Dispatch S M) (seeds : Set (Edge S F × Reason S F))

/-- The edges that are in every set that has the seeds and all conclusions. -/
def leastEdges : Set (Edge S F) :=
  {edge | ∀ known : Set (Edge S F), (∀ seed ∈ seeds, seed.1 ∈ known) →
    rules.Closed dispatch known → edge ∈ known}

theorem isLeast_leastEdges :
    IsLeast {known | (∀ seed ∈ seeds, seed.1 ∈ known) ∧ rules.Closed dispatch known}
      (rules.leastEdges dispatch seeds) := by
  refine ⟨⟨?_, ?_⟩, ?_⟩
  · exact fun seed isSeed known seeded _ => seeded seed isSeed
  · intro edge reason infers known seeded closed
    have within : rules.leastEdges dispatch seeds ⊆ known :=
      fun _ member => member known seeded closed
    exact closed edge reason (infers.mono within)
  · exact fun known solves edge member => member known solves.1 solves.2

/-- The data has nothing besides the least solution of the rules: edges of the least set, reasons
that are seeds or conclusions, their targets, summaries at exits, and findings of the hook. -/
structure Bounds (data : Solution S F) : Prop where
  edges : ∀ edge ∈ data.edges, edge ∈ rules.leastEdges dispatch seeds
  reasons : ∀ edge reason, (edge, reason) ∈ data.reasons →
    (edge, reason) ∈ seeds ∨ rules.Infers dispatch (rules.leastEdges dispatch seeds) edge reason
  facts : ∀ vertex ∈ data.facts, ∃ edge ∈ rules.leastEdges dispatch seeds, edge.target = vertex
  summaries : ∀ edge ∈ data.summaries,
    edge ∈ rules.leastEdges dispatch seeds ∧ rules.isExit edge.target.statement = true
  findings : ∀ finding ∈ data.findings, ∃ edge ∈ rules.leastEdges dispatch seeds,
    .newFinding rules.runner finding ∈ rules.onNewEdge edge

variable {rules dispatch seeds}

theorem Bounds.of_reports {data : Solution S F} {handled : Set (Message S F M)}
    (reports : data.Reports rules.runner handled)
    (justified : ∀ message ∈ handled,
      rules.Justifies dispatch seeds (rules.leastEdges dispatch seeds) message) :
    rules.Bounds dispatch seeds data := by
  have least := (rules.isLeast_leastEdges dispatch seeds).1
  have known {edge : Edge S F} {reason : Reason S F}
      (asked : .newEdge rules.runner edge reason ∈ handled) :
      edge ∈ rules.leastEdges dispatch seeds := by
    rcases justified _ asked rfl with seed | infers
    · exact least.1 (edge, reason) seed
    · exact least.2 edge reason infers
  refine ⟨?_, ?_, ?_, ?_, ?_⟩
  · intro edge member
    obtain ⟨reason, asked⟩ := (reports.edges edge).mp member
    exact known asked
  · exact fun edge reason member => justified _ ((reports.reasons edge reason).mp member) rfl
  · intro vertex member
    obtain ⟨edge, reason, target, asked⟩ := (reports.facts vertex).mp member
    exact ⟨edge, known asked, target⟩
  · exact fun edge member => justified _ ((reports.summaries edge).mp member)
  · exact fun finding member => justified _ ((reports.findings finding).mp member)

end Rules

end Rules

/-! ### Partial results are sound -/

variable [DecidableEq S] [DecidableEq F] [DecidableEq M] [Inhabited S] [Inhabited F]
variable [Shown S] [Shown F] [Shown M] [Hashable S] [Hashable F]

/-- Whatever was handled in whatever order, and whatever was dropped on the way: the data of every
runner is within what a complete run finds, and every later session has all of it.  Where the
analyzer follows rules, it is within their least solution.  No operation of a store removes anything. -/
theorem partial_results_sound (engine : Engine S F M) (log : Log) (session later : Session S F M)
    (interrupted : engine.Interrupted log session)
    (further : Relation.ReflTransGen engine.Interrupts session later) :
    (∀ runner, ∃ data more, Engine.collect session.state runner = .ok data ∧
      Engine.collect later.state runner = .ok more ∧ data.IsPartOf more ∧
      data.IsWithin runner (engine.calledBy session.sent)) ∧
    (∀ complete, engine.Reaches log complete → complete.pending = [] →
      complete.sent = session.sent →
        ∀ message, message ∈ complete.handled ↔ message ∈ engine.calledBy session.sent) ∧
    (∀ (rules : Rules S F M) (dispatch : Dispatch S M), engine.Follows rules dispatch →
      rules.OnlyFindings →
      (∀ message ∈ session.sent, ∃ runner edge reason, message = .newEdge runner edge reason) →
      ∃ data, Engine.collect session.state rules.runner = .ok data ∧
        rules.Bounds dispatch (session.seeds rules.runner) data) ∧
    (∀ chunk runner,
      (session.state.storeOf chunk runner).IsPartOf (later.state.storeOf chunk runner)) ∧
    ∀ (store next : Store S F) (message : Message S F M) (answers : List (Message S F M)),
      store.handle message = .ok (next, answers) → store.IsPartOf next := by
  have grows := Engine.grows_of_interrupts further
  obtain ⟨waiting, lost, _, reaches⟩ := interrupted.exists_reaches
  obtain ⟨waitingLater, lostLater, _, reachesLater⟩ :=
    Engine.Interrupted.exists_reaches (interrupted.trans further)
  have called := Engine.Reaches.called reaches
  -- collecting does not look at the mark or at what waits
  have collects (runner : String) : ∃ data, Engine.collect session.state runner = .ok data ∧
      data.Reports runner {message | message ∈ session.handled} :=
    (Engine.Reaches.accounts reaches).collect runner
  have collectsLater (runner : String) : ∃ more, Engine.collect later.state runner = .ok more ∧
      more.Reports runner {message | message ∈ later.handled} :=
    (Engine.Reaches.accounts reachesLater).collect runner
  refine ⟨fun runner => ?_, ?_, ?_, grows.stores, ?_⟩
  · obtain ⟨data, collected, reports⟩ := collects runner
    obtain ⟨more, collectedLater, reportsLater⟩ := collectsLater runner
    exact ⟨data, more, collected, collectedLater,
      reports.isPartOf reportsLater fun _ member => grows.handled.subset member,
      reports.isWithin called⟩
  · intro complete reached finished sent
    rw [← sent]
    exact Engine.Reaches.mem_handled_iff_called reached finished
  · intro rules dispatch follows hook edges
    obtain ⟨data, collected, reports⟩ := collects rules.runner
    have least := (rules.isLeast_leastEdges dispatch (session.seeds rules.runner)).1
    have justified := Engine.Reaches.justifies reaches follows hook edges least.1 least.2
    exact ⟨data, collected, Rules.Bounds.of_reports reports justified⟩
  · intro store next message answers handled
    have part := store.isPartOf_react message
    unfold Store.react at part
    rw [handled] at part
    exact part

/-- The engine is halted after the first message, drops the second and goes on: the data of the
start is there, and it is within the least solution. -/
theorem partial_results_sound_sample : ∃ (session later : Session String String String)
    (data more : Solution String String),
    (Sample.engine Sample.graph.methodOf).Interrupted Sample.log session ∧
    session.dropped = [.edgeAdded "sample" (.loop ⟨"call", "fact"⟩)] ∧
    later.state.halted = false ∧
    Engine.collect session.state "sample" = .ok data ∧
    Engine.collect later.state "sample" = .ok more ∧ data.IsPartOf more ∧
    Sample.rules.Bounds Sample.dispatch (session.seeds "sample") data := by
  let engine := Sample.engine Sample.graph.methodOf
  let started : EngineState String String String :=
    { Engine.initial Sample.log with pending := [(Place.project, Sample.seed)] }
  let announced := engine.take started [] .project Sample.seed
  have waiting : announced.pending = [] ++
      (.unit "caller" "sample", .edgeAdded "sample" (.loop ⟨"call", "fact"⟩)) :: [] := by
    decide
  have first : engine.Interrupted Sample.log ⟨⟨[Sample.seed], [], started⟩, [], []⟩ :=
    .single (.send rfl)
  have oldest : started.pending = [] ++ (Place.project, Sample.seed) :: [] := rfl
  have kept : ¬Engine.Drops started.halted Sample.seed :=
    fun drops => Bool.false_ne_true drops.1
  have second := first.tail (.takes (.handle oldest kept))
  have third := second.tail .halt
  have fourth := third.tail (.takes (.drop waiting ⟨rfl, rfl⟩))
  obtain ⟨grow, _, bounded, _, _⟩ :=
    partial_results_sound engine Sample.log _ _ fourth (.single .resume)
  obtain ⟨data, more, collected, collectedLater, part, _⟩ := grow "sample"
  obtain ⟨same, again, within⟩ := bounded Sample.rules Sample.dispatch (Sample.follows _)
    Sample.onlyFindings Sample.isNewEdge_of_mem_seed
  obtain rfl : data = same := Except.ok.inj (collected.symm.trans again)
  exact ⟨_, _, data, more, fourth, rfl, rfl, collected, collectedLater, part, within⟩

end Tabulation
