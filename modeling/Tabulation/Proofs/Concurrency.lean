/-
Runs of the network are runs of the engine.

The engine takes a message that waits and brings it to its end at once.  The network takes many
steps for that, and in between it does other things.  But only the last of these steps, in a
part of a unit, changes a store, and it does what the engine does.  So for every run of the
network there is a session of the engine that handles the same messages in the same order.
-/

import Tabulation.Proofs.Gathering
import Tabulation.Proofs.Interruptions

namespace Tabulation

variable {S F M : Type}

/-! ### Messages are where they belong -/

theorem Party.Suits.mono {strategy : S → String} {state next : EngineState S F M}
    {message : Message S F M} {party : Party} (suits : party.Suits strategy state message)
    (more : ∀ chunk runner, state.hasUnit chunk runner = true →
      next.hasUnit chunk runner = true) : party.Suits strategy next message :=
  ⟨fun chunk runner ours => more chunk runner (suits.present chunk runner ours), suits.isFor⟩

/-- Every message may be at the managers of the project and of the chunks. -/
theorem Party.suits_of_unit?_eq_none {strategy : S → String} {state : EngineState S F M}
    {message : Message S F M} {place : Place} (above : (Party.manager place).unit? = none) :
    (Party.manager place).Suits strategy state message where
  present := fun chunk runner ours => by cases above.symm.trans ours
  isFor := trivial

namespace Network

variable {engine : Engine S F M} {network next : Network S F M}

theorem hasUnit_make (place : Place) {chunk runner : String}
    (present : network.state.hasUnit chunk runner = true) :
    (network.make engine place).state.hasUnit chunk runner = true := by
  rw [EngineState.hasUnit_iff] at present ⊢
  cases place with
  | project => exact present
  | chunk other =>
      unfold make
      rw [EngineState.unitNames_announce]
      exact present
  | unit other name =>
      unfold make
      rw [Engine.unitNames_openUnit]
      split
      · exact present
      · exact List.mem_append_left _ present

theorem hasUnit_make_self {place : Place} {chunk runner : String}
    (ours : (Party.manager place).unit? = some (chunk, runner)) :
    (network.make engine place).state.hasUnit chunk runner = true := by
  cases place with
  | project => cases ours
  | chunk other => cases ours
  | unit =>
      cases ours
      exact engine.hasUnit_openUnit network.state chunk runner

/-- The messages are where they belong. -/
def Suited (engine : Engine S F M) (network : Network S F M) : Prop :=
  ∀ item ∈ network.letters, item.1.Suits engine.strategy network.state item.2.message

private theorem Suited.post (suited : network.Suited engine) {mail : Mail S F M} :
    (network.post (.manager .project) mail).Suited engine := by
  intro item member
  rcases (network.mem_letters_post _ _ item).mp member with old | rfl
  · exact suited item old
  · exact Party.suits_of_unit?_eq_none rfl

private theorem Suited.disturbs (suited : network.Suited engine)
    (disturbs : network.Disturbs next) : next.Suited engine := by
  cases disturbs with
  | ask => exact Suited.post suited
  | halt => exact fun item member => (suited item member).mono fun _ _ => id
  | resume => exact fun item member => (suited item member).mono fun _ _ => id

section Serving

variable [DecidableEq S] [DecidableEq F] [Shown S] [Shown F] [Shown M]
variable {party : Party} {mail : Mail S F M}
variable {result : Network S F M × List (Party × Mail S F M)}

/-- Where an actor sends something, it belongs. -/
theorem Receives.suits (receives : network.Receives engine mail party result)
    (suits : party.Suits engine.strategy network.state mail.message) :
    (∀ chunk runner, network.state.hasUnit chunk runner = true →
      result.1.state.hasUnit chunk runner = true) ∧
    ∀ item ∈ result.2, item.1.Suits engine.strategy result.1.state item.2.message := by
  have nothing {property : Party × Mail S F M → Prop} : ∀ item ∈ [], property item :=
    fun _ member => absurd member List.not_mem_nil
  cases receives with
  | drop => exact ⟨fun _ _ => id, nothing⟩
  | @forward place receiver hop =>
      refine ⟨fun _ _ => hasUnit_make receiver, fun item member => ?_⟩
      rw [List.mem_singleton.mp member]
      exact ⟨fun _ _ => hasUnit_make_self, trivial⟩
  | @handOver place part _ below isFor =>
      refine ⟨fun _ _ => id, fun item member => ?_⟩
      rw [List.mem_singleton.mp member]
      exact ⟨fun chunk runner ours => suits.present chunk runner (below ▸ ours), isFor⟩
  | learn =>
      unfold Network.learn
      split
      · exact ⟨fun _ _ => id, nothing⟩
      · exact ⟨fun _ _ => id, nothing⟩
  | scatter =>
      unfold Network.scatter
      refine ⟨?_, fun item member => ?_⟩
      · cases mail.question <;> exact fun _ _ => id
      · obtain ⟨chunk, _, rfl⟩ := List.mem_map.mp member
        exact Party.suits_of_unit?_eq_none rfl
  | reply =>
      unfold Network.reply
      refine ⟨?_, nothing⟩
      cases mail.question <;> exact fun _ _ => id
  | @settle _ chunk runner after _ tends ours _ =>
      obtain ⟨retains, messages, sent, _⟩ := tends
      have same (other name : String) :
          after.1.hasUnit other name = true ↔ network.state.hasUnit other name = true := by
        rw [EngineState.hasUnit_iff, EngineState.hasUnit_iff, retains.unitNames]
      refine ⟨fun other name => (same other name).mpr, fun item member => ?_⟩
      obtain ⟨⟨place, message⟩, written, rfl⟩ := List.mem_map.mp member
      rcases ours with ours | none
      · rw [sent] at written
        obtain ⟨_, _, rfl, rfl⟩ := List.mem_map.mp written
        refine ⟨fun other name here => (same other name).mpr ?_, trivial⟩
        cases here
        exact suits.present chunk runner ours
      · rw [none] at written
        cases written

/-! ### Only the parts of units change stores -/

/-- The messages of letters that drive the analysis. -/
def drives (letters : List (Party × Mail S F M)) : List (Message S F M) :=
  (letters.map fun item => item.2.message).filter fun message => !message.isControl

/-- What an actor does for the dataflow with a message: it passes the message on, or it handles
it as the engine does. -/
inductive Serves (engine : Engine S F M) (network : Network S F M) (party : Party)
    (mail : Mail S F M) (result : Network S F M × List (Party × Mail S F M)) : Prop
  | passesOn (stores : ∀ chunk runner,
        result.1.state.storeOf chunk runner = network.state.storeOf chunk runner)
      (letters : drives result.2 = drives [(party, mail)])
  | handles {sent : List (Place × Message S F M)} (flows : mail.message.isControl = false)
      (effect : engine.Effect network.state mail.message result.1.state sent)
      (letters : result.2.map (fun item => item.2.message) = sent.map Prod.snd)

theorem Receives.halted_eq (receives : network.Receives engine mail party result) :
    result.1.state.halted = network.state.halted := by
  cases receives with
  | drop => rfl
  | @forward place receiver hop =>
      cases receiver with
      | project => rfl
      | chunk chunk => exact (network.state.keeps_announce chunk).halted
      | unit chunk runner => exact (engine.keeps_openUnit network.state chunk runner).halted
  | handOver => rfl
  | learn =>
      unfold Network.learn
      split <;> rfl
  | scatter =>
      unfold Network.scatter
      cases mail.question <;> rfl
  | reply =>
      unfold Network.reply
      cases mail.question <;> rfl
  | settle _ tends => exact tends.1.halted

theorem Receives.serves (receives : network.Receives engine mail party result)
    (suits : party.Suits engine.strategy network.state mail.message)
    (kept : ¬Engine.Drops network.state.halted mail.message) :
    network.Serves engine party mail result := by
  have control {message : Message S F M} (here : mail.message = message)
      (asks : message.isControl = true) : drives [(party, mail)] = [] := by
    unfold drives
    rw [List.map_singleton, here, List.filter_singleton, asks, Bool.not_true]
    rfl
  cases receives with
  | drop lost => exact absurd lost kept
  | @forward place receiver hop =>
      cases receiver with
      | project => exact .passesOn (fun _ _ => rfl) rfl
      | chunk chunk => exact .passesOn (network.state.storeOf_announce chunk) rfl
      | unit chunk runner =>
          exact .passesOn (engine.storeOf_openUnit network.state chunk runner) rfl
  | handOver => exact .passesOn (fun _ _ => rfl) rfl
  | learn news =>
      unfold Network.learn
      split
      · exact .passesOn (fun _ _ => rfl) (control news rfl).symm
      · exact .passesOn (fun _ _ => rfl) (control news rfl).symm
  | @scatter runner question =>
      have asked : drives (network.scatter mail runner).2 = [] := by
        unfold drives Network.scatter
        rw [List.filter_eq_nil_iff]
        intro message member
        simp only [List.map_map, List.mem_map, Function.comp_apply] at member
        obtain ⟨chunk, _, rfl⟩ := member
        exact Bool.false_ne_true
      refine .passesOn ?_ (asked.trans (control question rfl).symm)
      unfold Network.scatter
      cases mail.question <;> exact fun _ _ => rfl
  | reply question =>
      refine .passesOn ?_ (control question rfl).symm
      unfold Network.reply
      cases mail.question <;> exact fun _ _ => rfl
  | settle _ tends _ effect =>
      obtain ⟨flows, changes⟩ := effect suits
      refine .handles flows changes ?_
      rw [Network.settle, List.map_map]
      rfl

end Serving

/-! ### The session of a run -/

/-- What came from outside and drives the analysis. -/
def driven (network : Network S F M) : List (Message S F M) :=
  network.questions.filter fun message => !message.isControl

/-- A session of the engine has come as far as the network: its stores are the same, and the same
messages came from outside and wait. -/
structure Refines (network : Network S F M) (session : Session S F M) : Prop where
  stores : ∀ chunk runner,
    session.state.storeOf chunk runner = network.state.storeOf chunk runner
  halted : session.state.halted = network.state.halted
  opened : session.state.closed = false
  sent : session.sent = network.driven.reverse
  waits : session.pending.Perm (drives network.letters)

theorem drives_append (first second : List (Party × Mail S F M)) :
    drives (first ++ second) = drives first ++ drives second := by
  unfold drives
  rw [List.map_append, List.filter_append]

theorem drives_perm {first second : List (Party × Mail S F M)} (perm : first.Perm second) :
    (drives first).Perm (drives second) := (perm.map _).filter _

theorem drives_cons_of_flows {party : Party} {mail : Mail S F M}
    (flows : mail.message.isControl = false) (others : List (Party × Mail S F M)) :
    drives ((party, mail) :: others) = mail.message :: drives others := by
  unfold drives
  rw [List.map_cons, List.filter_cons_of_pos (by rw [flows, Bool.not_false])]

theorem drives_cons_of_control {party : Party} {mail : Mail S F M}
    (asks : mail.message.isControl = true) (others : List (Party × Mail S F M)) :
    drives ((party, mail) :: others) = drives others := by
  unfold drives
  rw [List.map_cons, List.filter_cons_of_neg (by rw [asks, Bool.not_true]; exact Bool.false_ne_true)]

theorem drives_of_flows {letters : List (Party × Mail S F M)}
    (flows : ∀ item ∈ letters, item.2.message.isControl = false) :
    drives letters = letters.map fun item => item.2.message := by
  unfold drives
  rw [List.filter_eq_self]
  intro message member
  obtain ⟨item, isLetter, rfl⟩ := List.mem_map.mp member
  rw [flows item isLetter, Bool.not_false]

variable {session : Session S F M}

/-- The session goes along with a step of the network, and drops nothing unless it is halted. -/
def GoesAlong (engine : Engine S F M) [DecidableEq S] [DecidableEq F] [Shown S] [Shown F] [Shown M]
    (network next : Network S F M) (session : Session S F M) : Prop :=
  ∃ later, (later = session ∨ engine.Interrupts session later) ∧ next.Refines later ∧
    (network.state.halted = false → later.dropped = session.dropped)

theorem refines_initial (log : Log) :
    (initial log : Network S F M).Refines (Session.initial log) :=
  ⟨fun _ _ => rfl, rfl, rfl, rfl, .refl []⟩

/-- Nothing changes but where messages are, and what does not drive the analysis. -/
theorem Refines.of_same (refines : network.Refines session)
    (stores : ∀ chunk runner,
      next.state.storeOf chunk runner = network.state.storeOf chunk runner)
    (halted : next.state.halted = network.state.halted) (sent : next.driven = network.driven)
    (letters : (drives network.letters).Perm (drives next.letters)) : next.Refines session where
  stores := fun chunk runner => (refines.stores chunk runner).trans (stores chunk runner).symm
  halted := refines.halted.trans halted.symm
  opened := refines.opened
  sent := refines.sent.trans (congrArg List.reverse sent.symm)
  waits := refines.waits.trans letters

theorem Refines.exists_waiting (refines : network.Refines session) {party : Party}
    {mail : Mail S F M} {others : List (Party × Mail S F M)}
    (waiting : network.letters.Perm ((party, mail) :: others))
    (flows : mail.message.isControl = false) :
    ∃ before place after, session.state.pending = before ++ (place, mail.message) :: after ∧
      ((before ++ after).map Prod.snd).Perm (drives others) := by
  have waits := refines.waits.trans (drives_perm waiting)
  rw [drives_cons_of_flows flows] at waits
  obtain ⟨⟨place, message⟩, member, same⟩ :=
    List.mem_map.mp (waits.mem_iff.mpr List.mem_cons_self)
  obtain rfl : message = mail.message := same
  obtain ⟨before, after, split⟩ := List.append_of_mem member
  refine ⟨before, place, after, split, ?_⟩
  unfold History.pending at waits
  rw [split, List.map_append, List.map_cons] at waits
  rw [List.map_append]
  exact (List.perm_middle.symm.trans waits).cons_inv

private theorem reply_of_prompt {message : Message S F M} (prompt : engine.IsPrompt message)
    (barrierOpen other : Bool) :
    engine.reply barrierOpen message = engine.reply other message := by
  cases message with
  | edgeAdded | resolvedCall | startNotice | endNotice =>
      unfold Engine.reply
      dsimp only
      split
      · rfl
      · rename_i analyzer found
        rw [prompt analyzer found, Bool.false_and, Bool.false_and]
  | _ => rfl

theorem isControl_of_mem_reply (onlyDrives : engine.OnlyDrives) {barrierOpen : Bool}
    {message other : Message S F M} (member : other ∈ engine.reply barrierOpen message) :
    other.isControl = false := by
  cases message with
  | edgeAdded | resolvedCall | startNotice | endNotice =>
      unfold Engine.reply at member
      dsimp only at member
      split at member
      · cases member
      · rename_i analyzer found
        split at member
        · cases member
        · exact onlyDrives.analyzers _ analyzer found _ other member
  | unresolvedCall caller edge =>
      unfold Engine.reply at member
      dsimp only at member
      split at member
      · rename_i indirection found
        split at member
        · rename_i messages resolved
          exact onlyDrives.resolvers _ indirection found caller edge messages resolved other member
        · cases member
      · cases member
  | _ => cases member

section Simulation

variable [DecidableEq S] [DecidableEq F] [Shown S] [Shown F] [Shown M]

private theorem answers_congr {state other : EngineState S F M}
    (stores : ∀ chunk runner, state.storeOf chunk runner = other.storeOf chunk runner)
    (message : Message S F M) : engine.answers state message = engine.answers other message := by
  unfold Engine.answers
  split
  · rw [stores]
  · rfl

theorem isControl_of_mem_answers {state : EngineState S F M} {message answer : Message S F M}
    (member : answer ∈ engine.answers state message) : answer.isControl = false := by
  unfold Engine.answers at member
  split at member
  · have entailed := ((Store.mem_react_answers _ _ _).mp member).1
    cases answer with
    | edgeAdded | startNotice | endNotice => rfl
    | _ => exact entailed.elim
  · cases member

/-- What an actor does as the engine does, the session does too. -/
private theorem Refines.handle (refines : network.Refines session)
    (onlyDrives : engine.OnlyDrives) (prompt : ∀ message, engine.IsPrompt message)
    {party : Party} {mail : Mail S F M} {others letters : List (Party × Mail S F M)}
    (waiting : network.letters.Perm ((party, mail) :: others))
    (flows : mail.message.isControl = false)
    (kept : ¬Engine.Drops network.state.halted mail.message)
    {sent : List (Place × Message S F M)}
    (effect : engine.Effect network.state mail.message next.state sent)
    (halted : next.state.halted = network.state.halted) (driven : next.driven = network.driven)
    (after : next.letters = others ++ letters)
    (same : letters.map (fun item => item.2.message) = sent.map Prod.snd) :
    GoesAlong engine network next session := by
  obtain ⟨before, place, rest, split, waits⟩ := refines.exists_waiting waiting flows
  have running : session.state.halted = false :=
    eq_false_of_ne_true fun stopped => kept ⟨refines.halted.symm.trans stopped, flows⟩
  have taken := engine.halted_take session.state (before ++ rest) place mail.message
  refine ⟨_, Or.inr (.takes (.handle split (refines.halted ▸ kept))),
    ⟨fun chunk runner => ?_, ?_, ?_, ?_, ?_⟩, fun _ => rfl⟩
  · refine (engine.storeOf_take running (before ++ rest) place mail.message chunk runner).trans ?_
    rw [effect.stores, refines.stores]
  · exact taken.1.trans (refines.halted.trans halted.symm)
  · exact taken.2.trans refines.opened
  · exact refines.sent.trans (congrArg List.reverse driven.symm)
  · -- what is sent drives the analysis, so it waits in the session as well
    have new : drives letters = engine.answers network.state mail.message ++
        engine.reply network.state.barrierOpen mail.message := by
      rw [drives_of_flows, same, effect.sent]
      intro item member
      have written : item.2.message ∈ letters.map fun item => item.2.message :=
        List.mem_map.mpr ⟨item, member, rfl⟩
      rw [same, effect.sent] at written
      rcases List.mem_append.mp written with answer | reply
      · exact isControl_of_mem_answers answer
      · exact isControl_of_mem_reply onlyDrives reply
    have handled := engine.handle_effect { session.state with pending := before ++ rest } running
      place mail.message
    have answered : engine.answers { session.state with pending := before ++ rest } mail.message =
        engine.answers network.state mail.message := answers_congr refines.stores mail.message
    have pending : (engine.take session.state (before ++ rest) place mail.message).pending.map
        Prod.snd = (before ++ rest).map Prod.snd ++ drives letters := by
      unfold Engine.take
      rw [List.map_append, handled.sent, answered, new,
        reply_of_prompt (prompt mail.message) _ network.state.barrierOpen]
    unfold History.pending
    dsimp only
    rw [pending, after, drives_append]
    exact waits.append_right _

private theorem Refines.drop (refines : network.Refines session)
    {party : Party} {mail : Mail S F M} {others : List (Party × Mail S F M)}
    (waiting : network.letters.Perm ((party, mail) :: others))
    (lost : Engine.Drops network.state.halted mail.message) (state : next.state = network.state)
    (driven : next.driven = network.driven) (after : next.letters = others) :
    GoesAlong engine network next session := by
  obtain ⟨before, place, rest, split, waits⟩ := refines.exists_waiting waiting lost.2
  have dropped : Engine.Drops session.state.halted mail.message := refines.halted ▸ lost
  refine ⟨_, Or.inr (.takes (.drop split dropped)), ?_, fun running => ?_⟩
  · rw [engine.take_of_drops (before ++ rest) place dropped]
    refine ⟨fun chunk runner => ?_, ?_, refines.opened, ?_, ?_⟩
    · rw [state]
      exact refines.stores chunk runner
    · rw [state]
      exact refines.halted
    · exact refines.sent.trans (congrArg List.reverse driven.symm)
    · rw [after]
      exact waits
  · cases running.symm.trans lost.1

variable [Hashable S] [Hashable F]

theorem Suited.acts (suited : network.Suited engine) (silent : engine.TellsNoChunks)
    (acts : network.Acts engine next) : next.Suited engine := by
  cases acts with
  | start => exact Suited.post suited
  | @take before after party mail worker waiting oldest free ready =>
      obtain ⟨result, receives, _, taken⟩ := network.exists_receives_take engine silent worker
        (before ++ after) party mail
      have letters := mem_letters_take waiting result receives.carries.atWork
      have isLetter : (party, mail) ∈ network.letters :=
        mem_letters_of_waiting waiting
      obtain ⟨more, new⟩ := receives.suits (suited _ isLetter)
      rw [taken]
      intro item member
      rcases (letters item).1 member with old | sent
      · exact (suited item old).mono more
      · exact new item sent
  | send working => exact fun item member => suited item ((mem_letters_send working item).mp member)
  | finish working =>
      exact fun item member => suited item ((mem_letters_finish working item).mp member)

theorem Refines.acts (refines : network.Refines session) (suited : network.Suited engine)
    (onlyDrives : engine.OnlyDrives) (prompt : ∀ message, engine.IsPrompt message)
    (acts : network.Acts engine next) : GoesAlong engine network next session := by
  cases acts with
  | @start chunk made waits =>
      have letters := drives_perm (network.perm_letters_post (.manager .project)
        ⟨.newChunk chunk, none⟩)
      rw [drives_cons_of_control rfl] at letters
      exact ⟨session, Or.inl rfl, refines.of_same (fun _ _ => rfl) rfl rfl letters.symm,
        fun _ => rfl⟩
  | @take before after party mail worker waiting oldest free ready =>
      obtain ⟨result, receives, loses, taken⟩ := network.exists_receives_take engine
        onlyDrives.tellsNoChunks worker (before ++ after) party mail
      have carries := receives.carries
      have halted := receives.halted_eq
      have driven : result.1.driven = network.driven := by
        unfold Network.driven
        rw [carries.questions]
      obtain ⟨others, letters, left⟩ := perm_letters_take waiting result carries.atWork
      have suits := suited (party, mail) (letters.mem_iff.mpr List.mem_cons_self)
      rw [taken]
      by_cases lost : Engine.Drops network.state.halted mail.message
      · obtain rfl := loses lost
        rw [List.append_nil] at left
        exact refines.drop letters lost rfl driven left
      · cases receives.serves suits lost with
        | passesOn stores same =>
            refine ⟨session, Or.inl rfl, refines.of_same stores halted driven ?_, fun _ => rfl⟩
            rw [left, drives_append, same]
            exact (drives_perm letters).trans
              ((drives_append [(party, mail)] others).symm ▸ List.perm_append_comm)
        | handles flows effect same =>
            exact refines.handle onlyDrives prompt letters flows lost effect halted driven left same
  | send working =>
      exact ⟨session, Or.inl rfl, refines.of_same (fun _ _ => rfl) rfl rfl
        (drives_perm (perm_letters_send working)).symm, fun _ => rfl⟩
  | finish working =>
      refine ⟨session, Or.inl rfl, refines.of_same (fun _ _ => rfl) rfl rfl ?_, fun _ => rfl⟩
      rw [letters_finish working]

end Simulation

section Outside

variable [DecidableEq S] [DecidableEq F] [Shown S] [Shown F] [Shown M]

theorem Refines.ask (refines : network.Refines session) (message : Message S F M) :
    GoesAlong engine network (network.ask message) session := by
  have letters := drives_perm (network.perm_letters_post (.manager .project)
    ⟨message, some network.asked⟩)
  cases flows : message.isControl with
  | true =>
      have driven : (network.ask message).driven = network.driven := by
        unfold Network.driven Network.ask
        rw [List.filter_append, List.filter_cons_of_neg, List.filter_nil, List.append_nil]
        rw [flows, Bool.not_true]
        exact Bool.false_ne_true
      rw [drives_cons_of_control flows] at letters
      exact ⟨session, Or.inl rfl, refines.of_same (fun _ _ => rfl) rfl driven letters.symm,
        fun _ => rfl⟩
  | false =>
      have accepted : Engine.send session.state message = .ok { session.state with
          pending := session.state.pending ++ [(Place.project, message)] } :=
        if_neg (ne_true_of_eq_false refines.opened)
      refine ⟨_, Or.inr (.send accepted), ⟨refines.stores, refines.halted, refines.opened, ?_, ?_⟩,
        fun _ => rfl⟩
      · unfold Network.driven Network.ask
        rw [List.filter_append, List.filter_cons_of_pos (by rw [flows, Bool.not_false]),
          List.filter_nil, List.reverse_append]
        exact congrArg (message :: ·) refines.sent
      · rw [drives_cons_of_flows flows] at letters
        refine List.Perm.trans ?_ letters.symm
        unfold History.pending
        rw [List.map_append]
        exact (List.perm_append_singleton _ _).trans (refines.waits.cons message)

theorem Refines.disturbs (refines : network.Refines session) (disturbs : network.Disturbs next) :
    GoesAlong engine network next session := by
  cases disturbs with
  | ask => exact refines.ask _
  | halt =>
      exact ⟨_, Or.inr .halt, ⟨refines.stores, rfl, refines.opened, refines.sent, refines.waits⟩,
        fun _ => rfl⟩
  | resume =>
      exact ⟨_, Or.inr .resume, ⟨refines.stores, rfl, refines.opened, refines.sent, refines.waits⟩,
        fun _ => rfl⟩

theorem GoesAlong.interrupted (goesAlong : GoesAlong engine network next session)
    {log : Log} (interrupted : engine.Interrupted log session) :
    ∃ later, engine.Interrupted log later ∧ next.Refines later ∧
      (network.state.halted = false → later.dropped = session.dropped) := by
  obtain ⟨later, same | interrupts, rest⟩ := goesAlong
  · exact ⟨later, same ▸ interrupted, rest⟩
  · exact ⟨later, interrupted.tail interrupts, rest⟩

end Outside

section Runs

variable [DecidableEq S] [DecidableEq F] [Hashable S] [Hashable F] [Shown S] [Shown F] [Shown M]
variable {log : Log}

/-- Every run of the network is a run of the engine, which takes the messages in some order. -/
theorem Runs.exists_interrupted (runs : network.Runs engine log) (onlyDrives : engine.OnlyDrives)
    (prompt : ∀ message, engine.IsPrompt message) : network.Suited engine ∧
      ∃ session, engine.Interrupted log session ∧ network.Refines session := by
  induction runs with
  | refl =>
      exact ⟨fun item member => absurd member List.not_mem_nil, .initial log, .refl,
        refines_initial log⟩
  | tail _ step inductionHypothesis =>
      obtain ⟨suited, session, interrupted, refines⟩ := inductionHypothesis
      rcases step with acts | disturbs
      · obtain ⟨later, reached, refined, _⟩ :=
          (refines.acts suited onlyDrives prompt acts).interrupted interrupted
        exact ⟨suited.acts onlyDrives.tellsNoChunks acts, later, reached, refined⟩
      · obtain ⟨later, reached, refined, _⟩ := (refines.disturbs disturbs).interrupted interrupted
        exact ⟨suited.disturbs disturbs, later, reached, refined⟩

/-- Some run in which the engine was never halted leads to this state. -/
def RunsFreely (engine : Engine S F M) (log : Log) (network : Network S F M) : Prop :=
  Relation.ReflTransGen (fun before after => before.Acts engine after ∨
    ∃ message, (∀ chunk, message ≠ .newChunk chunk) ∧ after = before.ask message)
    (.initial log) network

theorem RunsFreely.runs (free : network.RunsFreely engine log) : network.Runs engine log := by
  induction free with
  | refl => exact .refl
  | tail _ step inductionHypothesis =>
      refine inductionHypothesis.tail (step.imp_right ?_)
      rintro ⟨message, ours, rfl⟩
      exact .ask ours

theorem Acts.halted_eq (acts : network.Acts engine next) (silent : engine.TellsNoChunks) :
    next.state.halted = network.state.halted := by
  cases acts with
  | start => rfl
  | @take before after party mail worker waiting oldest free ready =>
      obtain ⟨result, receives, _, taken⟩ := network.exists_receives_take engine silent worker
        (before ++ after) party mail
      rw [taken]
      exact receives.halted_eq
  | send => rfl
  | finish => rfl

theorem RunsFreely.exists_interrupted (free : network.RunsFreely engine log)
    (onlyDrives : engine.OnlyDrives) (prompt : ∀ message, engine.IsPrompt message) :
    network.state.halted = false ∧ ∃ session, engine.Interrupted log session ∧
      network.Refines session ∧ session.dropped = [] := by
  induction free with
  | refl => exact ⟨rfl, .initial log, .refl, refines_initial log, rfl⟩
  | tail earlier step inductionHypothesis =>
      obtain ⟨running, session, interrupted, refines, whole⟩ := inductionHypothesis
      rcases step with acts | ⟨message, _, rfl⟩
      · have suited := (Runs.exists_interrupted (RunsFreely.runs earlier) onlyDrives prompt).1
        obtain ⟨later, reached, refined, same⟩ :=
          (refines.acts suited onlyDrives prompt acts).interrupted interrupted
        exact ⟨(acts.halted_eq onlyDrives.tellsNoChunks).trans running, later, reached, refined,
          (same running).trans whole⟩
      · obtain ⟨later, reached, refined, same⟩ := (refines.ask message).interrupted interrupted
        exact ⟨running, later, reached, refined, (same running).trans whole⟩

/-! ### What the network answers -/

variable {later : Network S F M} {runner : String} {parts : List (String × Solution S F)}

/-- The answer at rest has what the session has handled. -/
private theorem Refines.reports (refines : network.Refines session)
    (interrupted : engine.Interrupted log session)
    (holds : (Solution.merge (parts.map Prod.snd)).Holds network.state runner) :
    (Solution.merge (parts.map Prod.snd)).Reports runner
      {message | message ∈ session.handled} := by
  obtain ⟨_, _, _, reaches⟩ := interrupted.exists_reaches
  have accounts := Engine.Reaches.accounts reaches
  have records (chunk : String) : (network.state.storeOf chunk runner).Records
      (ownedIn engine.strategy {message | message ∈ session.handled} chunk runner) := by
    rw [← refines.stores]
    exact accounts.records chunk runner
  exact holds.reports records

/-- Whatever was dropped while the engine was halted, the answer at rest is within what the messages
from outside call for. -/
theorem Runs.answer_isWithin (runs : network.Runs engine log) (onlyDrives : engine.OnlyDrives)
    (prompt : ∀ message, engine.IsPrompt message) (rest : network.inFlight = 0)
    (acts : Relation.ReflTransGen (Acts engine) (network.ask (.collectAll runner)) later)
    (answered : later.answer? network.asked = some parts) :
    (Solution.merge (parts.map Prod.snd)).IsWithin runner (engine.calledBy network.driven) := by
  obtain ⟨_, session, interrupted, refines⟩ := runs.exists_interrupted onlyDrives prompt
  have holds := (runs.answer onlyDrives.tellsNoChunks rest acts answered).2 parts (.refl parts)
  obtain ⟨_, _, _, reaches⟩ := interrupted.exists_reaches
  have called := Engine.Reaches.called reaches
  rw [refines.sent, engine.calledBy_reverse] at called
  exact (refines.reports interrupted holds).isWithin called

/-- If the engine was never halted, a network at rest has come to the end of a run of the engine. -/
theorem RunsFreely.exists_finished (free : network.RunsFreely engine log)
    (onlyDrives : engine.OnlyDrives) (prompt : ∀ message, engine.IsPrompt message)
    (rest : network.inFlight = 0) :
    ∃ history, engine.Reaches log history ∧ history.pending = [] ∧
      history.sent = network.driven.reverse ∧
      ∀ runner later parts,
        Relation.ReflTransGen (Acts engine) (network.ask (.collectAll runner)) later →
        later.answer? network.asked = some parts →
          (Solution.merge (parts.map Prod.snd)).Reports runner
            {message | message ∈ history.handled} := by
  have silent := onlyDrives.tellsNoChunks
  have runs := RunsFreely.runs free
  obtain ⟨_, session, interrupted, refines, whole⟩ :=
    RunsFreely.exists_interrupted free onlyDrives prompt
  obtain ⟨waiting, lost, postpones, reaches⟩ := interrupted.exists_reaches
  refine ⟨_, reaches, ?_, refines.sent, fun runner later parts acts answered => ?_⟩
  · -- nothing waits in the network, and nothing was lost in the session
    have waits := refines.waits
    rw [(runs.coherent silent).letters_eq_nil rest] at waits
    have perm := postpones.waits.map Prod.snd
    rw [List.map_append, postpones.lost, whole, List.append_nil] at perm
    exact (perm.trans waits).eq_nil
  · have holds := (runs.answer silent rest acts answered).2 parts (.refl parts)
    exact refines.reports interrupted holds

/-- Then the answer is all that the messages from outside call for, whatever the actors did. -/
theorem RunsFreely.answer_reports (free : network.RunsFreely engine log)
    (onlyDrives : engine.OnlyDrives) (prompt : ∀ message, engine.IsPrompt message)
    (rest : network.inFlight = 0)
    (acts : Relation.ReflTransGen (Acts engine) (network.ask (.collectAll runner)) later)
    (answered : later.answer? network.asked = some parts) :
    (Solution.merge (parts.map Prod.snd)).Reports runner (engine.calledBy network.driven) := by
  obtain ⟨history, reaches, finished, sent, reports⟩ :=
    RunsFreely.exists_finished free onlyDrives prompt rest
  have all := Engine.Reaches.mem_handled_iff_called reaches finished
  have same : {message | message ∈ history.handled} = engine.calledBy network.driven := by
    rw [← engine.calledBy_reverse, ← sent]
    exact Set.ext all
  rw [← same]
  exact reports runner later parts acts answered

/-- If the analyzer follows rules, the answer is their least solution from the edges that came
from outside. -/
theorem RunsFreely.answer_isSolvedBy [DecidableEq M] [Inhabited S] [Inhabited F]
    {rules : Rules S F M} {dispatch : Dispatch S M} (free : network.RunsFreely engine log)
    (follows : engine.Follows rules dispatch) (onlyFindings : rules.OnlyFindings)
    (ends : ∀ summary edge, ∀ message ∈ rules.onEnd summary edge, message.isControl = false)
    (edges : ∀ message ∈ network.driven, ∃ runner edge reason, message = .newEdge runner edge reason)
    (rest : network.inFlight = 0)
    (acts : Relation.ReflTransGen (Acts engine) (network.ask (.collectAll rules.runner)) later)
    (answered : later.answer? network.asked = some parts) :
    rules.IsSolvedBy dispatch {seed | .newEdge rules.runner seed.1 seed.2 ∈ network.driven}
      (Solution.merge (parts.map Prod.snd)) := by
  obtain ⟨history, reaches, finished, sent, reports⟩ := RunsFreely.exists_finished free
    (follows.onlyDrives onlyFindings ends) follows.isPrompt rest
  have members (message : Message S F M) : message ∈ history.sent ↔ message ∈ network.driven := by
    rw [sent, List.mem_reverse]
  have seeds : history.seeds rules.runner =
      {seed | .newEdge rules.runner seed.1 seed.2 ∈ network.driven} :=
    Set.ext fun seed => members _
  rw [← seeds]
  exact Engine.Reaches.isSolvedBy reaches finished follows onlyFindings
    (fun message member => edges message ((members message).mp member))
    (reports rules.runner later parts acts answered)

end Runs

end Network

end Tabulation
