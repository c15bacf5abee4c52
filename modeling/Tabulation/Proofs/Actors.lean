/-
What the actors of the network do.

An actor takes mail and either passes the message on, or is the part of a unit that the message
is for and handles it, or knows something about the chunks.  The letters are the messages
that wait for an actor or that an actor is about to send; each step changes a few of them.
-/

import Mathlib.Logic.Relation
import Tabulation.Engine.Network
import Tabulation.Proofs.Halting
import Tabulation.Proofs.Ownership

namespace Tabulation

variable {S F M : Type}

/-! ### What the parts of a unit leave as it is -/

/-- No chunk, no unit and no mark changes. -/
structure EngineState.Retains (state next : EngineState S F M) : Prop where
  chunks : next.chunks = state.chunks
  unitNames : next.unitNames = state.unitNames
  halted : next.halted = state.halted
  closed : next.closed = state.closed

theorem EngineState.retains_log (state : EngineState S F M) (log : Log) :
    state.Retains { state with log } := ⟨rfl, rfl, rfl, rfl⟩

/-- What analyzers and resolvers send is of some kind. -/
structure Engine.SendsOnly (engine : Engine S F M) (kind : Message S F M → Prop) : Prop where
  analyzers : ∀ runner analyzer, engine.registry.analyzer runner = .ok analyzer →
    ∀ message, ∀ sent ∈ (analyzer.step message).messages, kind sent
  resolvers : ∀ runner indirection, engine.registry.resolverOf runner = .ok (some indirection) →
    ∀ caller edge messages, indirection.resolve caller edge = .ok messages →
      ∀ sent ∈ messages, kind sent

/-- No analyzer and no resolver tells the project of a chunk. -/
def Engine.TellsNoChunks (engine : Engine S F M) : Prop :=
  engine.SendsOnly fun message => ∀ chunk, message ≠ .newChunk chunk

/-- All that analyzers and resolvers send drives the analysis. -/
def Engine.OnlyDrives (engine : Engine S F M) : Prop :=
  engine.SendsOnly fun message => message.isControl = false

theorem Engine.OnlyDrives.tellsNoChunks {engine : Engine S F M} (onlyDrives : engine.OnlyDrives) :
    engine.TellsNoChunks := by
  have noNews {message : Message S F M} (drives : message.isControl = false) (chunk : String) :
      message ≠ .newChunk chunk := by
    rintro rfl
    cases drives
  refine ⟨fun runner analyzer found message sent member => ?_,
    fun runner indirection found caller edge messages resolved sent member => ?_⟩
  · exact noNews (onlyDrives.analyzers runner analyzer found message sent member)
  · exact noNews (onlyDrives.resolvers runner indirection found caller edge messages resolved
      sent member)

section Following

variable [DecidableEq S] [DecidableEq F] [Inhabited S] [Inhabited F]
variable [Shown S] [Shown F] [Shown M]
variable {rules : Rules S F M}

/-- Only a hook of the rules could send something that does not drive the analysis. -/
theorem Rules.isControl_of_mem_step (onlyFindings : rules.OnlyFindings)
    (ends : ∀ summary edge, ∀ message ∈ rules.onEnd summary edge, message.isControl = false)
    {message sent : Message S F M} (member : sent ∈ (rules.step message).messages) :
    sent.isControl = false := by
  cases message with
  | edgeAdded runner edge =>
      rcases (rules.mem_edgeStep edge _).mp member with
        ⟨_, rfl⟩ | hooked | ⟨_, _, rfl⟩ | ⟨_, _, rfl⟩ | ⟨_, _, rfl⟩
      · rfl
      · obtain ⟨_, _, rfl⟩ := onlyFindings edge _ hooked
        rfl
      · rfl
      · rfl
      · rfl
  | resolvedCall runner edge callee =>
      obtain ⟨_, _, rfl | rfl⟩ := (rules.mem_calleeStep edge callee _).mp member
      · rfl
      · rfl
  | startNotice runner caller summary edge =>
      obtain ⟨_, _, rfl⟩ := (rules.mem_returnStep edge summary _).mp member
      rfl
  | endNotice runner caller summary edge => exact ends summary edge _ member
  | _ => exact absurd member List.not_mem_nil

theorem Engine.Follows.onlyDrives [DecidableEq M] {engine : Engine S F M} {dispatch : Dispatch S M}
    (follows : engine.Follows rules dispatch) (onlyFindings : rules.OnlyFindings)
    (ends : ∀ summary edge, ∀ message ∈ rules.onEnd summary edge, message.isControl = false) :
    engine.OnlyDrives where
  analyzers := fun runner analyzer found message sent member => by
    by_cases own : runner = rules.runner
    · rw [own, follows.analyzer_eq] at found
      cases found
      exact Rules.isControl_of_mem_step onlyFindings ends member
    · rw [follows.analyzer_of_ne own] at found
      cases found
  resolvers := fun runner indirection found caller edge messages resolved sent member => by
    unfold Registry.resolverOf at found
    rw [follows.shared] at found
    split at found
    · cases found
    · cases found
      cases resolved
      obtain ⟨callee, _, rfl⟩ := List.mem_map.mp member
      rfl

end Following

namespace Engine

variable (engine : Engine S F M) (state : EngineState S F M)

theorem chunks_openUnit {chunk : String} (known : chunk ∈ state.chunks) (runner : String) :
    (engine.openUnit state chunk runner).chunks = state.chunks := by
  by_cases present : state.hasUnit chunk runner = true
  · rw [engine.openUnit_of_hasUnit present]
  · obtain ⟨log, opened⟩ := engine.openUnit_eq state chunk runner present
    have same : state.announce chunk = state := by
      unfold EngineState.announce
      rw [if_pos (List.contains_iff_mem.mpr known)]
    rw [opened, same]

/-- What a part of a unit leaves behind: the same chunks and units, and messages for the manager of
the unit, none of which tells of a chunk. -/
def Tends (state : EngineState S F M) (chunk runner : String)
    (result : EngineState S F M × List (Place × Message S F M)) : Prop :=
  state.Retains result.1 ∧ ∃ messages, result.2 = sentBy chunk runner messages ∧
    ∀ message ∈ messages, ∀ other, message ≠ .newChunk other

variable [Shown S] [Shown F] [Shown M]

theorem tends_work (silent : engine.TellsNoChunks) (chunk runner : String)
    (message : Message S F M) :
    Tends state chunk runner (engine.work state chunk runner message) := by
  unfold work
  cases found : engine.registry.analyzer runner with
  | error cause => exact ⟨state.retains_log _, [], rfl, fun _ member => by cases member⟩
  | ok analyzer =>
      dsimp only
      split
      · exact ⟨⟨rfl, rfl, rfl, rfl⟩, [], rfl, fun _ member => by cases member⟩
      · obtain ⟨log, finished⟩ :=
          engine.finishStep_eq state chunk runner message (analyzer.step message)
        rw [finished]
        exact ⟨state.retains_log log, _, rfl, silent.analyzers runner analyzer found message⟩

theorem tends_resolve (silent : engine.TellsNoChunks) (chunk runner : String)
    (message : Message S F M) :
    Tends state chunk runner (engine.resolve state chunk runner message) := by
  have nothing (log : Log) :
      Tends state chunk runner ({ state with log }, sentBy chunk runner []) :=
    ⟨state.retains_log log, [], rfl, fun _ member => by cases member⟩
  unfold resolve
  split
  · rename_i caller edge
    split
    · rename_i indirection found
      split
      · rename_i messages resolved
        exact ⟨state.retains_log _, messages, rfl,
          silent.resolvers runner indirection found caller edge messages resolved⟩
      · exact nothing _
    · exact nothing state.log
  · exact nothing _

variable [DecidableEq S] [DecidableEq F]

theorem tends_record (chunk runner : String) (message : Message S F M) :
    Tends state chunk runner (engine.record state chunk runner message) := by
  unfold record
  split
  · rename_i store out handled
    refine ⟨⟨rfl, state.unitNames_putStore chunk runner store, rfl, rfl⟩, out, rfl, ?_⟩
    intro answer member other same
    subst same
    have answers := Store.mem_react_answers ((state.store? chunk runner).getD { runner }) message
      (.newChunk other)
    unfold Store.react at answers
    rw [handled] at answers
    exact (answers.mp member).1
  · exact ⟨state.retains_log _, [], rfl, fun _ member => by cases member⟩

end Engine

/-! ### What an actor does with its mail -/

/-- The unit that an actor belongs to. -/
def Party.unit? : Party → Option (String × String)
  | .manager (.unit chunk runner) | .storage chunk runner | .worker chunk runner _
  | .indirection chunk runner => some (chunk, runner)
  | .manager _ => none

/-- A part of a unit is for the messages of its category that the unit owns. -/
def Party.IsFor (strategy : S → String) (message : Message S F M) : Party → Prop
  | .manager _ => True
  | .storage chunk runner =>
      message.isOwnedBy strategy chunk runner = true ∧ message.category = .storage
  | .worker chunk runner _ =>
      message.isOwnedBy strategy chunk runner = true ∧ message.category = .analyzer
  | .indirection chunk runner =>
      message.isOwnedBy strategy chunk runner = true ∧ message.category = .indirection

/-- A message may be at an actor: its unit is there, and the actor is for the message. -/
structure Party.Suits (strategy : S → String) (state : EngineState S F M)
    (message : Message S F M) (party : Party) : Prop where
  present : ∀ chunk runner, party.unit? = some (chunk, runner) → state.hasUnit chunk runner = true
  isFor : party.IsFor strategy message

theorem Party.IsFor.exists_chunkOf {strategy : S → String} {message : Message S F M}
    {party : Party} (isFor : party.IsFor strategy message)
    (inner : ∀ place, party ≠ .manager place) :
    ∃ chunk, message.chunkOf strategy = some chunk := by
  cases party with
  | manager place => exact absurd rfl (inner place)
  | storage chunk runner => exact ⟨chunk, ((message.isOwnedBy_iff _ _ _).mp isFor.1).1⟩
  | worker chunk runner => exact ⟨chunk, ((message.isOwnedBy_iff _ _ _).mp isFor.1).1⟩
  | indirection chunk runner => exact ⟨chunk, ((message.isOwnedBy_iff _ _ _).mp isFor.1).1⟩

/-- What a chunk owns drives the analysis, unless it asks for data. -/
theorem Message.drives_of_owned {strategy : S → String} {message : Message S F M}
    {chunk runner : String} (owned : message.isOwnedBy strategy chunk runner = true)
    (noQuestion : ∀ name home, message ≠ .collectData name home) :
    message.isControl = false ∧ ∃ s, message.home? = some s := by
  have owner := ((message.isOwnedBy_iff strategy chunk runner).mp owned).1
  cases message with
  | collectData name home => exact absurd rfl (noQuestion name home)
  | newChunk | collectAll | foreign => cases owner
  | _ => exact ⟨rfl, _, rfl⟩

namespace Network

/-- Whether mail is the news of some chunk that has come to the project. -/
def IsNews (party : Party) (mail : Mail S F M) : Prop :=
  party = .manager .project ∧ ∃ chunk, mail.message = .newChunk chunk

section Receiving

variable [DecidableEq S] [DecidableEq F] [Shown S] [Shown F] [Shown M]

/-- What may come of mail that an actor takes. -/
inductive Receives (engine : Engine S F M) (network : Network S F M) (mail : Mail S F M) :
    Party → Network S F M × List (Party × Mail S F M) → Prop
  | drop {party : Party} (lost : Engine.Drops network.state.halted mail.message) :
      Receives engine network mail party (network, [])
  /-- A manager passes the mail on to another one, which is made if needed. -/
  | forward {place next : Place}
      (hop : place.hop engine.strategy network.state.hasUnit mail.message = .forward next) :
      Receives engine network mail (.manager place)
        (network.make engine next, [(.manager next, mail)])
  /-- The manager of a unit hands the mail to a part of the unit. -/
  | handOver {place : Place} {part : Party} (inner : ∀ other, part ≠ .manager other)
      (below : part.unit? = (Party.manager place).unit?)
      (isFor : part.IsFor engine.strategy mail.message) :
      Receives engine network mail (.manager place) (network, [(part, mail)])
  | learn {chunk : String} (news : mail.message = .newChunk chunk) :
      Receives engine network mail (.manager .project) (network.learn chunk, [])
  | scatter {runner : String} (question : mail.message = .collectAll runner) :
      Receives engine network mail (.manager .project) (network.scatter mail runner)
  | reply {party : Party} {chunk runner home : String} {data : Solution S F}
      (question : mail.message = .collectData runner home) :
      Receives engine network mail party (network.reply mail chunk data, [])
  /-- Only a unit changes, and as it does when the engine handles the message. -/
  | settle {party : Party} {chunk runner : String}
      {result : EngineState S F M × List (Place × Message S F M)} (noNews : ¬IsNews party mail)
      (tends : Engine.Tends network.state chunk runner result)
      (ours : party.unit? = some (chunk, runner) ∨ result.2 = [])
      (effect : party.Suits engine.strategy network.state mail.message →
        mail.message.isControl = false ∧
          engine.Effect network.state mail.message result.1 result.2) :
      Receives engine network mail party (network.settle result)

private theorem receives_arrive (engine : Engine S F M) (network : Network S F M)
    (worker : ℕ) (mail : Mail S F M) {place : Place} {destination : Destination}
    (hop : place.hop engine.strategy network.state.hasUnit mail.message = .arrive destination) :
    network.Receives engine mail (.manager place)
      (network.arrive engine worker mail destination) := by
  have ends := Place.ends_of_arrive hop
  cases destination with
  | storage chunk runner =>
      obtain ⟨owned, category, here, _⟩ := ends
      obtain rfl : place = .unit chunk runner := Option.some.inj here
      exact .handOver (fun _ same => by cases same) rfl ⟨owned, category⟩
  | workers chunk runner =>
      obtain ⟨owned, category, here⟩ := ends
      obtain rfl : place = .unit chunk runner := Option.some.inj here
      exact .handOver (fun _ same => by cases same) rfl ⟨owned, category⟩
  | indirection chunk runner =>
      obtain ⟨owned, category, here⟩ := ends
      obtain rfl : place = .unit chunk runner := Option.some.inj here
      exact .handOver (fun _ same => by cases same) rfl ⟨owned, category⟩
  | project =>
      obtain ⟨own, here⟩ := ends
      obtain rfl : place = .project := Option.some.inj here
      unfold arrive
      obtain ⟨chunk, news⟩ | ⟨runner, question⟩ := own
      · rw [news]
        exact .learn news
      · rw [question]
        exact .scatter question
  | dropped =>
      obtain ⟨ownerless, notOurs, _⟩ := ends
      have nothing (text path : String) :
          Engine.Tends network.state "" "" (network.state.report .warn path text, []) :=
        ⟨network.state.retains_log _, [], rfl, fun _ member => by cases member⟩
      refine .settle (fun news => notOurs (Or.inl news.2)) (nothing _ _) (Or.inr rfl) fun _ => ?_
      obtain ⟨message, question⟩ := mail
      cases message with
      | foreign =>
          exact ⟨rfl, engine.effect_of_inert (network.state.keeps_log _) (fun _ => rfl)
            (Engine.react_homeless rfl) (fun _ _ => rfl) (engine.reply_homeless rfl _).symm⟩
      | newChunk chunk => exact absurd (Or.inl ⟨chunk, rfl⟩) notOurs
      | collectAll runner => exact absurd (Or.inr ⟨runner, rfl⟩) notOurs
      | _ => cases ownerless
  | noData chunk =>
      obtain ⟨_, runner, question, _⟩ := ends
      exact .reply question

private theorem receives_storage (engine : Engine S F M) (network : Network S F M)
    (chunk runner : String) {mail : Mail S F M}
    (noQuestion : ∀ name home, mail.message ≠ .collectData name home) :
    network.Receives engine mail (.storage chunk runner)
      (network.settle (engine.record network.state chunk runner mail.message)) := by
  refine .settle (fun news => by cases news.1) (engine.tends_record network.state chunk runner _)
    (Or.inl rfl) fun suits => ⟨(Message.drives_of_owned suits.isFor.1 noQuestion).1, ?_⟩
  have effect := engine.record_effect network.state suits.isFor.1 suits.isFor.2
  rw [engine.openUnit_of_hasUnit (suits.present chunk runner rfl)] at effect
  exact effect

private theorem receives_worker (engine : Engine S F M) (silent : engine.TellsNoChunks)
    (network : Network S F M) (chunk runner : String) (number : ℕ) (mail : Mail S F M) :
    network.Receives engine mail (.worker chunk runner number)
      (network.settle (engine.work network.state chunk runner mail.message)) := by
  refine .settle (fun news => by cases news.1)
    (engine.tends_work network.state silent chunk runner mail.message) (Or.inl rfl) fun suits => ?_
  obtain ⟨owned, category⟩ := suits.isFor
  obtain ⟨drives, s, home⟩ := Message.drives_of_owned owned fun name other question => by
    rw [question] at category
    cases category
  have effect := engine.work_effect network.state home category chunk
  rw [((mail.message.isOwnedBy_iff _ _ _).mp owned).2,
    engine.openUnit_of_hasUnit (suits.present chunk runner rfl)] at effect
  exact ⟨drives, effect⟩

private theorem receives_indirection (engine : Engine S F M) (silent : engine.TellsNoChunks)
    (network : Network S F M) (chunk runner : String) (mail : Mail S F M) :
    network.Receives engine mail (.indirection chunk runner)
      (network.settle (engine.resolve network.state chunk runner mail.message)) := by
  refine .settle (fun news => by cases news.1)
    (engine.tends_resolve network.state silent chunk runner mail.message) (Or.inl rfl)
    fun suits => ?_
  obtain ⟨message, question⟩ := mail
  obtain ⟨owned, category⟩ := suits.isFor
  cases message with
  | unresolvedCall caller edge =>
      obtain rfl : caller = runner := ((Message.isOwnedBy_iff _ _ _ _).mp owned).2
      have effect := engine.resolve_effect network.state caller edge chunk
      rw [engine.openUnit_of_hasUnit (suits.present chunk caller rfl)] at effect
      exact ⟨rfl, effect⟩
  | foreign => cases ((Message.isOwnedBy_iff _ _ _ _).mp owned).1
  | _ => cases category

variable [Hashable S] [Hashable F]

theorem receives (engine : Engine S F M) (silent : engine.TellsNoChunks)
    (network : Network S F M) (worker : ℕ) (party : Party) (mail : Mail S F M) :
    network.Receives engine mail party (network.receive engine worker party mail) := by
  cases party with
  | manager place =>
      unfold receive
      cases hop : place.hop engine.strategy network.state.hasUnit mail.message with
      | forward next =>
          dsimp only
          rw [hop]
          exact .forward hop
      | arrive destination =>
          dsimp only
          rw [hop]
          exact receives_arrive engine network worker mail hop
  | storage chunk runner =>
      unfold receive
      dsimp only
      split
      · rename_i name home question
        exact .reply question
      · rename_i noQuestion
        exact receives_storage engine network chunk runner noQuestion
  | worker chunk runner number =>
      exact receives_worker engine silent network chunk runner number mail
  | indirection chunk runner => exact receives_indirection engine silent network chunk runner mail

/-- A halted engine that drops mail only lets go of it. -/
theorem exists_receives_take (engine : Engine S F M) (silent : engine.TellsNoChunks)
    (network : Network S F M) (worker : ℕ) (rest : List (Party × Mail S F M)) (party : Party)
    (mail : Mail S F M) : ∃ result, network.Receives engine mail party result ∧
      (Engine.Drops network.state.halted mail.message → result = (network, [])) ∧
      network.take engine worker rest party mail =
        { result.1 with mail := rest, atWork := result.1.atWork ++ [(party, result.2)] } := by
  unfold take
  by_cases lost : Engine.Drops network.state.halted mail.message
  · refine ⟨_, .drop lost, fun _ => rfl, ?_⟩
    rw [if_pos (Engine.drops_iff.mp lost)]
  · refine ⟨_, receives engine silent network worker party mail, fun drops => absurd drops lost, ?_⟩
    rw [if_neg (Engine.drops_iff.not.mp lost)]

end Receiving

/-! ### The letters -/

/-- The mail that waits or is about to be sent. -/
def letters (network : Network S F M) : List (Party × Mail S F M) :=
  network.mail ++ network.atWork.flatMap Prod.snd

variable {engine : Engine S F M} {network next : Network S F M}

theorem mem_letters (item : Party × Mail S F M) :
    item ∈ network.letters ↔
      item ∈ network.mail ∨ ∃ work ∈ network.atWork, item ∈ work.2 := by
  unfold letters
  rw [List.mem_append, List.mem_flatMap]

theorem mem_letters_of_waiting {before after : List (Party × Mail S F M)}
    {item : Party × Mail S F M} (waiting : network.mail = before ++ item :: after) :
    item ∈ network.letters := by
  rw [mem_letters, waiting]
  exact Or.inl (List.mem_append_right _ List.mem_cons_self)

theorem perm_letters_post (network : Network S F M) (party : Party) (mail : Mail S F M) :
    (network.post party mail).letters.Perm ((party, mail) :: network.letters) := by
  unfold letters post
  rw [List.append_assoc]
  exact List.perm_middle

theorem mem_letters_post (network : Network S F M) (party : Party) (mail : Mail S F M)
    (item : Party × Mail S F M) :
    item ∈ (network.post party mail).letters ↔ item ∈ network.letters ∨ item = (party, mail) := by
  rw [(network.perm_letters_post party mail).mem_iff, List.mem_cons, or_comm]

/-- Mail that is taken leaves the letters, and what is about to be sent for it joins them. -/
theorem perm_letters_take {before after : List (Party × Mail S F M)} {party : Party}
    {mail : Mail S F M} (waiting : network.mail = before ++ (party, mail) :: after)
    (result : Network S F M × List (Party × Mail S F M))
    (same : result.1.atWork = network.atWork) :
    ∃ others, network.letters.Perm ((party, mail) :: others) ∧ letters { result.1 with
      mail := before ++ after, atWork := result.1.atWork ++ [(party, result.2)] } =
        others ++ result.2 := by
  refine ⟨before ++ after ++ network.atWork.flatMap Prod.snd, ?_, ?_⟩
  · unfold letters
    rw [waiting, List.append_assoc, List.append_assoc, List.cons_append]
    exact List.perm_middle
  · unfold letters
    dsimp only
    rw [same, List.flatMap_append, List.flatMap_singleton, ← List.append_assoc]

theorem mem_letters_take {before after : List (Party × Mail S F M)} {party : Party}
    {mail : Mail S F M} (waiting : network.mail = before ++ (party, mail) :: after)
    (result : Network S F M × List (Party × Mail S F M))
    (same : result.1.atWork = network.atWork) (item : Party × Mail S F M) :
    (item ∈ letters { result.1 with
        mail := before ++ after, atWork := result.1.atWork ++ [(party, result.2)] } →
      item ∈ network.letters ∨ item ∈ result.2) ∧
    (item ∈ network.letters → item = (party, mail) ∨
      item ∈ letters { result.1 with
        mail := before ++ after, atWork := result.1.atWork ++ [(party, result.2)] }) ∧
    (item ∈ result.2 → item ∈ letters { result.1 with
        mail := before ++ after, atWork := result.1.atWork ++ [(party, result.2)] }) := by
  obtain ⟨others, perm, taken⟩ := perm_letters_take waiting result same
  rw [taken, perm.mem_iff, List.mem_cons, List.mem_append]
  tauto

/-- An actor sends the next of what it has to send: a letter moves from the actor to the mail. -/
theorem perm_letters_send {before after : List (Party × List (Party × Mail S F M))} {party : Party}
    {first : Party × Mail S F M} {rest : List (Party × Mail S F M)}
    (working : network.atWork = before ++ (party, first :: rest) :: after) :
    (letters { network.post first.1 first.2 with
      atWork := before ++ (party, rest) :: after }).Perm network.letters := by
  unfold letters post
  rw [working]
  simp only [List.flatMap_append, List.flatMap_cons, List.append_assoc, List.cons_append,
    List.nil_append]
  exact List.perm_middle.symm.append_left network.mail

theorem mem_letters_send {before after : List (Party × List (Party × Mail S F M))} {party : Party}
    {first : Party × Mail S F M} {rest : List (Party × Mail S F M)}
    (working : network.atWork = before ++ (party, first :: rest) :: after)
    (item : Party × Mail S F M) :
    item ∈ letters { network.post first.1 first.2 with
        atWork := before ++ (party, rest) :: after } ↔ item ∈ network.letters :=
  (perm_letters_send working).mem_iff

theorem letters_finish {before after : List (Party × List (Party × Mail S F M))}
    {party : Party} (working : network.atWork = before ++ (party, []) :: after) :
    letters { network with atWork := before ++ after, inFlight := network.inFlight - 1 } =
      network.letters := by
  unfold letters
  rw [working]
  simp only [List.flatMap_append, List.flatMap_cons, List.nil_append]

theorem mem_letters_finish {before after : List (Party × List (Party × Mail S F M))}
    {party : Party} (working : network.atWork = before ++ (party, []) :: after)
    (item : Party × Mail S F M) :
    item ∈ letters { network with
        atWork := before ++ after, inFlight := network.inFlight - 1 } ↔
      item ∈ network.letters := by
  rw [letters_finish working]

/-! ### Runs -/

variable [DecidableEq S] [DecidableEq F] [Hashable S] [Hashable F] [Shown S] [Shown F] [Shown M]

/-- Some run of the network leads to this state. -/
def Runs (engine : Engine S F M) (log : Log) (network : Network S F M) : Prop :=
  Relation.ReflTransGen (fun before after => before.Acts engine after ∨ before.Disturbs after)
    (.initial log) network

theorem Runs.of_acts {log : Log} (runs : network.Runs engine log)
    (acts : Relation.ReflTransGen (Acts engine) network next) : next.Runs engine log := by
  induction acts with
  | refl => exact runs
  | tail _ step inductionHypothesis => exact inductionHypothesis.tail (Or.inl step)

theorem acts_of_advance (advances : network.advance? engine = some next) :
    network.Acts engine next := by
  unfold advance? at advances
  split at advances
  · rename_i party first rest others working
    cases advances
    have foremost : network.atWork = [] ++ (party, first :: rest) :: others := working
    exact .send foremost
  · rename_i party others working
    cases advances
    have foremost : network.atWork = [] ++ (party, []) :: others := working
    exact .finish foremost
  · rename_i idle
    split at advances
    · cases advances
    · rename_i party mail rest waiting
      split at advances
      · rename_i ready
        cases advances
        have foremost : network.mail = [] ++ (party, mail) :: rest := waiting
        refine .take foremost ?_ ?_ ready
        · exact fun _ member => absurd member List.not_mem_nil
        · rw [idle]
          exact fun _ member => absurd member List.not_mem_nil
      · obtain ⟨chunk, found, rfl⟩ := Option.map_eq_some_iff.mp advances
        refine .start (List.mem_of_find?_eq_some found) ?_
        have waits := List.find?_some found
        simpa using waits

theorem acts_drain (engine : Engine S F M) (limit : ℕ) (network : Network S F M) :
    Relation.ReflTransGen (Acts engine) network (network.drain engine limit) := by
  induction limit generalizing network with
  | zero => exact .refl
  | succ limit inductionHypothesis =>
      unfold drain
      split
      · rename_i next advances
        exact .head (acts_of_advance advances) (inductionHypothesis next)
      · exact .refl

end Network

end Tabulation
