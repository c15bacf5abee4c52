/-
What the network answers to a question for the data of a runner.

With nothing in flight the project knows all chunks, and no store changes any more unless
something new is sent.  So the question is passed on to every chunk, every chunk answers with
the data of its store, and the answers together are all that was recorded.
-/

import Tabulation.Proofs.Announcements

namespace Tabulation

variable {S F M : Type}

/-- How many steps a letter that waits for an actor causes at most, if it is part of a question. -/
def Party.toil (chunks : ℕ) : Party → ℕ
  | .manager .project => 9 * chunks + 2
  | .manager (.chunk _) => 8
  | .manager (.unit _ _) => 5
  | _ => 2

namespace Network

/-! ### Every question has a number of its own -/

/-- The numbers of questions are used up one after the other. -/
structure Numbered (network : Network S F M) : Prop where
  letters : ∀ item ∈ network.letters, ∀ number, item.2.question = some number →
    number < network.asked
  scattered : ∀ item ∈ network.scattered, item.1 < network.asked
  replies : ∀ item ∈ network.replies, item.1.1 < network.asked

/-- What is sent for mail, passed on or answered has the number of the mail, if any. -/
structure Carries (network : Network S F M) (mail : Mail S F M)
    (result : Network S F M × List (Party × Mail S F M)) : Prop where
  atWork : result.1.atWork = network.atWork
  questions : result.1.questions = network.questions
  sent : ∀ item ∈ result.2, ∀ number, item.2.question = some number →
    mail.question = some number
  scattered : ∀ item ∈ result.1.scattered,
    item ∈ network.scattered ∨ mail.question = some item.1
  replies : ∀ item ∈ result.1.replies, item ∈ network.replies ∨ mail.question = some item.1.1

variable {engine : Engine S F M} {network next : Network S F M}

theorem asked_ask (network : Network S F M) (message : Message S F M) :
    (network.ask message).asked = network.asked + 1 := List.length_append

theorem Carries.asked {mail : Mail S F M} {result : Network S F M × List (Party × Mail S F M)}
    (carries : network.Carries mail result) : result.1.asked = network.asked :=
  congrArg List.length carries.questions

theorem Receives.carries [DecidableEq S] [DecidableEq F] [Shown S] [Shown F] [Shown M]
    {party : Party} {mail : Mail S F M}
    {result : Network S F M × List (Party × Mail S F M)}
    (receives : network.Receives engine mail party result) : network.Carries mail result := by
  have alone {receiver : Party} : ∀ item ∈ [(receiver, mail)], ∀ number,
      item.2.question = some number → mail.question = some number := by
    intro item member number question
    rw [List.mem_singleton.mp member] at question
    exact question
  have nothing : ∀ item ∈ ([] : List (Party × Mail S F M)), ∀ number,
      item.2.question = some number → mail.question = some number :=
    fun _ member => absurd member List.not_mem_nil
  cases receives with
  | drop => exact ⟨rfl, rfl, nothing, fun _ => Or.inl, fun _ => Or.inl⟩
  | @forward place next hop =>
      cases next with
      | project => exact ⟨rfl, rfl, alone, fun _ => Or.inl, fun _ => Or.inl⟩
      | chunk chunk => exact ⟨rfl, rfl, alone, fun _ => Or.inl, fun _ => Or.inl⟩
      | unit chunk runner => exact ⟨rfl, rfl, alone, fun _ => Or.inl, fun _ => Or.inl⟩
  | handOver => exact ⟨rfl, rfl, alone, fun _ => Or.inl, fun _ => Or.inl⟩
  | learn =>
      unfold Network.learn
      split
      · exact ⟨rfl, rfl, nothing, fun _ => Or.inl, fun _ => Or.inl⟩
      · exact ⟨rfl, rfl, nothing, fun _ => Or.inl, fun _ => Or.inl⟩
  | @scatter runner =>
      have sent : ∀ item ∈ (network.scatter mail runner).2, ∀ number,
          item.2.question = some number → mail.question = some number := by
        intro item member number question
        obtain ⟨chunk, _, rfl⟩ := List.mem_map.mp member
        exact question
      obtain ⟨message, _ | number⟩ := mail
      · exact ⟨rfl, rfl, sent, fun _ => Or.inl, fun _ => Or.inl⟩
      · refine ⟨rfl, rfl, sent, fun item member => ?_, fun _ => Or.inl⟩
        refine (List.mem_append.mp member).imp_right fun new => ?_
        rw [List.mem_singleton.mp new]
  | reply =>
      obtain ⟨message, _ | number⟩ := mail
      · exact ⟨rfl, rfl, nothing, fun _ => Or.inl, fun _ => Or.inl⟩
      · refine ⟨rfl, rfl, nothing, fun _ => Or.inl, fun item member => ?_⟩
        refine (List.mem_append.mp member).imp_right fun new => ?_
        rw [List.mem_singleton.mp new]
  | settle noNews tends =>
      refine ⟨rfl, rfl, fun item member number question => ?_, fun _ => Or.inl, fun _ => Or.inl⟩
      obtain ⟨⟨place, message⟩, _, rfl⟩ := List.mem_map.mp member
      cases question

private theorem Numbered.disturbs (numbered : network.Numbered)
    (disturbs : network.Disturbs next) : next.Numbered := by
  cases disturbs with
  | @ask message ours =>
      have more {number : ℕ} (older : number < network.asked) :
          number < (network.ask message).asked := by
        rw [asked_ask]
        exact Nat.lt_succ_of_lt older
      refine ⟨fun item member number question => ?_,
        fun item member => more (numbered.scattered item member),
        fun item member => more (numbered.replies item member)⟩
      rcases (network.mem_letters_post _ _ item).mp member with old | rfl
      · exact more (numbered.letters item old number question)
      · rw [asked_ask]
        exact Option.some.inj question ▸ Nat.lt_succ_self _
  | halt => exact { numbered with }
  | resume => exact { numbered with }

section Numbers

variable [DecidableEq S] [DecidableEq F] [Hashable S] [Hashable F] [Shown S] [Shown F] [Shown M]

private theorem Numbered.acts (numbered : network.Numbered) (silent : engine.TellsNoChunks)
    (acts : network.Acts engine next) : next.Numbered := by
  cases acts with
  | @start chunk made waits =>
      refine ⟨fun item member number question => ?_, numbered.scattered, numbered.replies⟩
      rcases (network.mem_letters_post _ _ item).mp member with old | rfl
      · exact numbered.letters item old number question
      · cases question
  | @take before after party mail worker waiting oldest free ready =>
      obtain ⟨result, receives, _, taken⟩ :=
        network.exists_receives_take engine silent worker (before ++ after) party mail
      have carries := receives.carries
      have letters := mem_letters_take waiting result carries.atWork
      have isLetter : (party, mail) ∈ network.letters :=
        mem_letters_of_waiting waiting
      have bound {number : ℕ} (question : mail.question = some number) :
          number < result.1.asked := by
        rw [carries.asked]
        exact numbered.letters _ isLetter number question
      rw [taken]
      refine ⟨fun item member number question => ?_, fun item member => ?_,
        fun item member => ?_⟩
      · rcases (letters item).1 member with old | sent
        · exact carries.asked.symm ▸ numbered.letters item old number question
        · exact bound (carries.sent item sent number question)
      · rcases carries.scattered item member with old | new
        · exact carries.asked.symm ▸ numbered.scattered item old
        · exact bound new
      · rcases carries.replies item member with old | new
        · exact carries.asked.symm ▸ numbered.replies item old
        · exact bound new
  | send working =>
      exact ⟨fun item member => numbered.letters item ((mem_letters_send working item).mp member),
        numbered.scattered, numbered.replies⟩
  | finish working =>
      exact ⟨fun item member => numbered.letters item ((mem_letters_finish working item).mp member),
        numbered.scattered, numbered.replies⟩

theorem Runs.numbered {log : Log} (runs : network.Runs engine log)
    (silent : engine.TellsNoChunks) : network.Numbered := by
  induction runs with
  | refl => constructor <;> simp [initial, letters]
  | tail _ step inductionHypothesis =>
      rcases step with acts | disturbs
      · exact inductionHypothesis.acts silent acts
      · exact inductionHypothesis.disturbs disturbs

end Numbers

/-! ### A question that is asked when nothing is in flight -/

section Question

variable (base : Network S F M) (runner : String)

/-- The question for the data of a runner. -/
def whole : Mail S F M := ⟨.collectAll runner, some base.asked⟩

def part (chunk : String) : Mail S F M := ⟨.collectData runner chunk, some base.asked⟩

/-- Where the part for a chunk may be: at the manager of the chunk, or in the unit of the runner. -/
def MayHold (chunk : String) : Party → Prop
  | .manager (.chunk other) => other = chunk
  | .manager (.unit other name) | .storage other name =>
      other = chunk ∧ name = runner ∧ base.state.hasUnit chunk runner = true
  | _ => False

/-- The chunk has answered its part, or the part is on its way. -/
def HasPart (network : Network S F M) (chunk : String) : Prop :=
  (∃ data, ((base.asked, chunk), data) ∈ network.replies) ∨
    ∃ party, (party, base.part runner chunk) ∈ network.letters

variable [DecidableEq S] [DecidableEq F] [Hashable S] [Hashable F]

/-- What holds from when a question is asked until nothing is in flight again. -/
structure Gathers (network : Network S F M) : Prop where
  state : network.state = base.state
  known : network.known = base.known
  begun : network.begun = base.begun
  letters : ∀ item ∈ network.letters, item = (.manager .project, base.whole runner) ∨
    ∃ chunk ∈ base.known, item.2 = base.part runner chunk ∧ base.MayHold runner chunk item.1
  replies : ∀ chunk data, ((base.asked, chunk), data) ∈ network.replies →
    data = dataOf base.state chunk runner
  waits : network.scattered.lookup base.asked = none →
    (.manager .project, base.whole runner) ∈ network.letters
  scattered : ∀ chunks, network.scattered.lookup base.asked = some chunks →
    chunks = base.known ∧ ∀ chunk ∈ base.known, base.HasPart runner network chunk

/-- What an actor does with a question. -/
inductive Answers (network : Network S F M) :
    Party → Mail S F M → Network S F M × List (Party × Mail S F M) → Prop
  | scatter : Answers network (.manager .project) (base.whole runner)
      (network.scatter (base.whole runner) runner)
  | descend {chunk : String} (present : base.state.hasUnit chunk runner = true) :
      Answers network (.manager (.chunk chunk)) (base.part runner chunk)
        (network, [(.manager (.unit chunk runner), base.part runner chunk)])
  | handOver {chunk : String} (present : base.state.hasUnit chunk runner = true) :
      Answers network (.manager (.unit chunk runner)) (base.part runner chunk)
        (network, [(.storage chunk runner, base.part runner chunk)])
  | reply {party : Party} {chunk : String} (holds : base.MayHold runner chunk party) :
      Answers network party (base.part runner chunk)
        (network.reply (base.part runner chunk) chunk (dataOf base.state chunk runner), [])

variable {base runner}

/-- Nothing changes but where the parts of the question are. -/
private theorem Gathers.of_letters (gathers : base.Gathers runner network)
    (state : next.state = network.state) (known : next.known = network.known)
    (begun : next.begun = network.begun) (scattered : next.scattered = network.scattered)
    (letters : ∀ item ∈ next.letters, item ∈ network.letters ∨
      ∃ chunk ∈ base.known, item.2 = base.part runner chunk ∧ base.MayHold runner chunk item.1)
    (replies : ∀ chunk data, ((base.asked, chunk), data) ∈ next.replies →
      data = dataOf base.state chunk runner)
    (stays : (.manager .project, base.whole runner) ∈ network.letters →
      (.manager .project, base.whole runner) ∈ next.letters)
    (parts : ∀ chunk ∈ base.known, base.HasPart runner network chunk →
      base.HasPart runner next chunk) : base.Gathers runner next where
  state := state.trans gathers.state
  known := known.trans gathers.known
  begun := begun.trans gathers.begun
  letters := fun item member => (letters item member).elim (gathers.letters item) Or.inr
  replies := replies
  waits := fun absent => stays (gathers.waits (scattered ▸ absent))
  scattered := fun chunks found => by
    obtain ⟨same, all⟩ := gathers.scattered chunks (scattered ▸ found)
    exact ⟨same, fun chunk member => parts chunk member (all chunk member)⟩

private theorem Gathers.scatter (gathers : base.Gathers runner network)
    {before after : List (Party × Mail S F M)}
    (waiting : network.mail = before ++ (.manager .project, base.whole runner) :: after) :
    base.Gathers runner { (network.scatter (base.whole runner) runner).1 with
      mail := before ++ after
      atWork := (network.scatter (base.whole runner) runner).1.atWork ++
        [(.manager .project, (network.scatter (base.whole runner) runner).2)] } := by
  have letters := mem_letters_take waiting (network.scatter (base.whole runner) runner) rfl
  refine ⟨gathers.state, gathers.known, gathers.begun, fun item member => ?_, gathers.replies,
    fun absent => ?_, fun chunks found => ?_⟩
  · rcases (letters item).1 member with old | sent
    · exact gathers.letters item old
    · obtain ⟨chunk, isKnown, rfl⟩ := List.mem_map.mp sent
      exact Or.inr ⟨chunk, gathers.known ▸ isKnown, rfl, rfl⟩
  · change (network.scattered ++ [(base.asked, network.known)]).lookup base.asked = none at absent
    rw [List.lookup_append, Option.or_eq_none_iff, List.lookup_cons, beq_self_eq_true] at absent
    cases absent.2
  · change (network.scattered ++ [(base.asked, network.known)]).lookup base.asked =
      some chunks at found
    rw [List.lookup_append, List.lookup_cons, beq_self_eq_true] at found
    cases old : network.scattered.lookup base.asked with
    | none =>
        rw [old] at found
        obtain rfl : network.known = chunks := Option.some.inj found
        refine ⟨gathers.known, fun chunk isKnown => Or.inr ⟨.manager (.chunk chunk), ?_⟩⟩
        have sent : (Party.manager (.chunk chunk), base.part runner chunk) ∈
            (network.scatter (base.whole runner) runner).2 :=
          List.mem_map.mpr ⟨chunk, gathers.known ▸ isKnown, rfl⟩
        exact (letters _).2.2 sent
    | some earlier =>
        rw [old] at found
        obtain ⟨same, all⟩ := gathers.scattered earlier old
        refine ⟨(Option.some.inj found).symm.trans same, fun chunk isKnown => ?_⟩
        refine (all chunk isKnown).imp_right ?_
        rintro ⟨party, member⟩
        exact ⟨party, ((letters _).2.1 member).resolve_left fun same => by cases same⟩

private theorem Gathers.passOn (gathers : base.Gathers runner network)
    {before after : List (Party × Mail S F M)} {party receiver : Party} {chunk : String}
    (waiting : network.mail = before ++ (party, base.part runner chunk) :: after)
    (isKnown : chunk ∈ base.known) (holds : base.MayHold runner chunk receiver) :
    base.Gathers runner { network with
      mail := before ++ after
      atWork := network.atWork ++ [(party, [(receiver, base.part runner chunk)])] } := by
  have letters :=
    mem_letters_take waiting (network, [(receiver, base.part runner chunk)]) rfl
  refine gathers.of_letters rfl rfl rfl rfl (fun item member => ?_) gathers.replies
    (fun member => ?_) fun other _ => Or.imp_right ?_
  · refine ((letters item).1 member).imp_right fun sent => ?_
    rw [List.mem_singleton.mp sent]
    exact ⟨chunk, isKnown, rfl, holds⟩
  · exact ((letters _).2.1 member).resolve_left fun same => by cases same
  · rintro ⟨holder, member⟩
    rcases (letters _).2.1 member with same | left
    · -- this part was taken, and what is sent for it has it
      obtain rfl : other = chunk := (Message.collectData.inj
        (congrArg (fun item : Party × Mail S F M => item.2.message) same)).2
      exact ⟨receiver, (letters _).2.2 (List.mem_singleton_self _)⟩
    · exact ⟨holder, left⟩

private theorem Gathers.reply (gathers : base.Gathers runner network)
    {before after : List (Party × Mail S F M)} {party : Party} {chunk : String}
    (waiting : network.mail = before ++ (party, base.part runner chunk) :: after) :
    base.Gathers runner { network.reply (base.part runner chunk) chunk
        (dataOf base.state chunk runner) with
      mail := before ++ after
      atWork := network.atWork ++ [(party, [])] } := by
  have letters := mem_letters_take waiting
    (network.reply (base.part runner chunk) chunk (dataOf base.state chunk runner), []) rfl
  refine gathers.of_letters rfl rfl rfl rfl (fun item member => ?_)
    (fun other data member => ?_) (fun member => ?_) fun other _ has => ?_
  · exact ((letters item).1 member).imp_right fun sent => absurd sent List.not_mem_nil
  · rcases List.mem_append.mp member with old | new
    · exact gathers.replies other data old
    · cases List.mem_singleton.mp new
      rfl
  · exact ((letters _).2.1 member).resolve_left fun same => by cases same
  · rcases has with ⟨data, replied⟩ | ⟨holder, member⟩
    · exact Or.inl ⟨data, List.mem_append_left _ replied⟩
    · rcases (letters _).2.1 member with same | left
      · obtain rfl : other = chunk := (Message.collectData.inj
          (congrArg (fun item : Party × Mail S F M => item.2.message) same)).2
        exact Or.inl ⟨_, List.mem_append_right _ (List.mem_singleton_self _)⟩
      · exact Or.inr ⟨holder, left⟩

theorem Coherent.gathers_ask (coherent : base.Coherent) (numbered : base.Numbered)
    (rest : base.inFlight = 0) (runner : String) :
    base.Gathers runner (base.ask (.collectAll runner)) := by
  have letters := base.mem_letters_post (.manager .project) (base.whole runner)
  rw [coherent.letters_eq_nil rest] at letters
  have unasked : base.scattered.lookup base.asked = none := by
    rw [List.lookup_eq_none_iff]
    intro item member
    have before := numbered.scattered item member
    simp only [bne_iff_ne]
    omega
  refine ⟨rfl, rfl, rfl, fun item member => ?_, fun chunk data member => ?_, fun _ => ?_,
    fun chunks found => ?_⟩
  · exact Or.inl (((letters item).mp member).resolve_left List.not_mem_nil)
  · exact absurd (numbered.replies _ member) (Nat.lt_irrefl _)
  · exact (letters _).mpr (Or.inr rfl)
  · cases unasked.symm.trans found

private theorem exists_mapM {α β : Type} {items : List α} {attempt : α → Option β}
    (succeeds : ∀ item ∈ items, ∃ result, attempt item = some result) :
    ∃ results, items.mapM attempt = some results := by
  induction items with
  | nil => exact ⟨[], rfl⟩
  | cons first rest inductionHypothesis =>
      obtain ⟨result, now⟩ := succeeds first List.mem_cons_self
      obtain ⟨results, later⟩ := inductionHypothesis fun item member =>
        succeeds item (List.mem_cons_of_mem _ member)
      refine ⟨result :: results, ?_⟩
      rw [List.mapM_cons, now, later]
      rfl

private theorem eq_map_of_mapM {α β : Type} {attempt : α → Option β} {result : α → β}
    (only : ∀ item other, attempt item = some other → other = result item) {items : List α}
    {results : List β} (all : items.mapM attempt = some results) :
    results = items.map result := by
  induction items generalizing results with
  | nil =>
      cases all
      rfl
  | cons first rest inductionHypothesis =>
      rw [List.mapM_cons] at all
      obtain ⟨value, now, later⟩ := Option.bind_eq_some_iff.mp all
      obtain ⟨values, others, same⟩ := Option.bind_eq_some_iff.mp later
      cases same
      rw [only first value now, inductionHypothesis others]
      rfl

/-- Whenever the question is answered, the data of all chunks is there. -/
theorem Gathers.eq_of_answer (gathers : base.Gathers runner network)
    {parts : List (String × Solution S F)}
    (answered : network.answer? base.asked = some parts) :
    parts = base.known.map fun chunk => (chunk, dataOf base.state chunk runner) := by
  unfold answer? at answered
  obtain ⟨chunks, found, all⟩ := Option.bind_eq_some_iff.mp answered
  rw [(gathers.scattered chunks found).1] at all
  refine eq_map_of_mapM (fun chunk part replied => ?_) all
  obtain ⟨data, first, rfl⟩ := Option.map_eq_some_iff.mp replied
  obtain ⟨before, after, split, _⟩ := List.lookup_eq_some_iff.mp first
  rw [gathers.replies chunk data (split ▸ List.mem_append_right _ List.mem_cons_self)]

/-- When nothing is in flight any more, the question is answered. -/
theorem Gathers.exists_answer (gathers : base.Gathers runner network)
    (empty : network.letters = []) : ∃ parts, network.answer? base.asked = some parts := by
  cases found : network.scattered.lookup base.asked with
  | none =>
      have letter := gathers.waits found
      rw [empty] at letter
      cases letter
  | some chunks =>
      obtain ⟨rfl, all⟩ := gathers.scattered chunks found
      unfold answer?
      rw [found, Option.bind_some]
      refine exists_mapM fun chunk isKnown => ?_
      rcases all chunk isKnown with ⟨data, replied⟩ | ⟨party, letter⟩
      · have known : (network.replies.lookup (base.asked, chunk)).isSome = true :=
          List.lookup_isSome_iff.mpr ⟨_, replied, beq_self_eq_true (base.asked, chunk)⟩
        obtain ⟨first, first_eq⟩ := Option.isSome_iff_exists.mp known
        rw [first_eq]
        exact ⟨_, rfl⟩
      · rw [empty] at letter
        cases letter

/-! ### The question comes to an end -/

/-- How many steps of actors may follow at most. -/
def toil (chunks : ℕ) (network : Network S F M) : ℕ :=
  (network.mail.map fun item => item.1.toil chunks).sum +
    (network.atWork.map fun work =>
      1 + (work.2.map fun item => item.1.toil chunks + 1).sum).sum

private theorem Answers.toil_lt (gathers : base.Gathers runner network) {party : Party}
    {mail : Mail S F M} {result : Network S F M × List (Party × Mail S F M)}
    (answers : base.Answers runner network party mail result) :
    1 + (result.2.map fun item => item.1.toil base.known.length + 1).sum <
      party.toil base.known.length := by
  cases answers with
  | scatter =>
      have each : (network.scatter (base.whole runner) runner).2.map
          (fun item => item.1.toil base.known.length + 1) = network.known.map fun _ => 9 :=
        List.map_map
      rw [each, gathers.known, List.map_const', List.sum_replicate_nat]
      change 1 + base.known.length * 9 < 9 * base.known.length + 2
      omega
  | descend => simp [Party.toil]
  | handOver => simp [Party.toil]
  | reply holds =>
      rw [List.map_nil, List.sum_nil]
      unfold Party.toil
      split <;> omega

variable [Shown S] [Shown F] [Shown M]

theorem Gathers.answers (gathers : base.Gathers runner network) {party : Party}
    {mail : Mail S F M} (member : (party, mail) ∈ network.letters) (engine : Engine S F M)
    (worker : ℕ) :
    base.Answers runner network party mail (network.receive engine worker party mail) := by
  rcases gathers.letters _ member with same | ⟨chunk, _, same, place⟩
  · obtain ⟨rfl, rfl⟩ := Prod.mk.inj same
    exact .scatter
  · dsimp only at same place
    subst same
    have units : network.state.hasUnit = base.state.hasUnit := by rw [gathers.state]
    have owned : (base.part runner chunk).message.chunkOf engine.strategy = some chunk := rfl
    cases party with
    | manager manager =>
        cases manager with
        | project => exact place.elim
        | chunk other =>
            obtain rfl : other = chunk := place
            have hop : Place.hop engine.strategy network.state.hasUnit (.chunk other)
                (base.part runner other).message =
                if base.state.hasUnit other runner then .forward (.unit other runner)
                else .arrive (.noData other) := by
              rw [units]
              exact chunkHop_collectData base.state.hasUnit runner
            unfold receive
            dsimp only
            by_cases present : base.state.hasUnit other runner = true
            · have opened : engine.openUnit network.state other runner = network.state :=
                engine.openUnit_of_hasUnit (units ▸ present)
              have made : network.make engine (.unit other runner) = network := by
                change { network with state := engine.openUnit network.state other runner } = network
                rw [opened]
              rw [hop, if_pos present]
              dsimp only
              rw [made]
              exact .descend present
            · have empty : dataOf base.state other runner = {} := by
                unfold EngineState.hasUnit at present
                unfold dataOf
                rw [Option.not_isSome_iff_eq_none.mp present]
                rfl
              rw [hop, if_neg present]
              dsimp only [arrive]
              rw [← empty]
              exact .reply rfl
        | unit other name =>
            obtain ⟨rfl, rfl, present⟩ := place
            have hop : Place.hop engine.strategy network.state.hasUnit (.unit other name)
                (base.part name other).message = .arrive (.storage other name) :=
              unitHop_of_owned owned
            unfold receive
            dsimp only
            rw [hop]
            exact .handOver present
    | storage other name =>
        obtain ⟨rfl, rfl, present⟩ := place
        change base.Answers name network (.storage other name) (base.part name other)
          (network.reply (base.part name other) other (dataOf network.state other name), [])
        rw [gathers.state]
        exact .reply ⟨rfl, rfl, present⟩
    | worker => exact place.elim
    | indirection => exact place.elim

/-- A question is about the state, so a halted engine takes it too. -/
private theorem Gathers.take_eq (gathers : base.Gathers runner network) {party : Party}
    {mail : Mail S F M} (member : (party, mail) ∈ network.letters) (engine : Engine S F M)
    (worker : ℕ) (rest : List (Party × Mail S F M)) :
    network.take engine worker rest party mail =
      { (network.receive engine worker party mail).1 with
        mail := rest
        atWork := (network.receive engine worker party mail).1.atWork ++
          [(party, (network.receive engine worker party mail).2)] } := by
  have control : mail.message.isControl = true := by
    rcases gathers.letters _ member with same | ⟨chunk, _, same, _⟩
    · obtain ⟨rfl, rfl⟩ := Prod.mk.inj same
      rfl
    · dsimp only at same
      rw [same]
      rfl
  unfold take
  rw [control, Bool.not_true, Bool.and_false, if_neg Bool.false_ne_true]

private theorem Gathers.take (gathers : base.Gathers runner network) {engine : Engine S F M}
    {before after : List (Party × Mail S F M)} {party : Party} {mail : Mail S F M}
    (waiting : network.mail = before ++ (party, mail) :: after) (worker : ℕ) :
    base.Gathers runner (network.take engine worker (before ++ after) party mail) := by
  have isLetter : (party, mail) ∈ network.letters :=
    mem_letters_of_waiting waiting
  have answers := gathers.answers isLetter engine worker
  have holder := gathers.letters _ isLetter
  rw [gathers.take_eq isLetter engine worker]
  generalize network.receive engine worker party mail = result at answers ⊢
  have isKnown {chunk : String} (same : mail = base.part runner chunk) : chunk ∈ base.known := by
    subst same
    rcases holder with same | ⟨other, member, same, _⟩
    · cases same
    · cases same
      exact member
  cases answers with
  | scatter => exact gathers.scatter waiting
  | descend present => exact gathers.passOn waiting (isKnown rfl) ⟨rfl, rfl, present⟩
  | handOver present => exact gathers.passOn waiting (isKnown rfl) ⟨rfl, rfl, present⟩
  | reply holds => exact gathers.reply waiting

theorem Gathers.acts (gathers : base.Gathers runner network)
    (started : ∀ chunk ∈ base.state.chunks, chunk ∈ base.begun) {engine : Engine S F M}
    (acts : network.Acts engine next) :
    base.Gathers runner next ∧ next.toil base.known.length < network.toil base.known.length := by
  cases acts with
  | @start chunk made waits =>
      rw [gathers.state] at made
      rw [gathers.begun] at waits
      exact absurd (started chunk made) waits
  | @take before after party mail worker waiting oldest free ready =>
      refine ⟨gathers.take waiting worker, ?_⟩
      have isLetter : (party, mail) ∈ network.letters :=
        mem_letters_of_waiting waiting
      have answers := gathers.answers isLetter engine worker
      have less := Answers.toil_lt gathers answers
      rw [gathers.take_eq isLetter engine worker]
      generalize network.receive engine worker party mail = result at answers less ⊢
      have atWork : result.1.atWork = network.atWork := by
        cases answers <;> rfl
      unfold toil
      dsimp only
      rw [waiting, atWork]
      simp only [List.map_append, List.map_cons, List.map_nil, List.sum_append, List.sum_cons,
        List.sum_nil]
      omega
  | send working =>
      refine ⟨gathers.of_letters rfl rfl rfl rfl
        (fun item member => Or.inl ((mem_letters_send working item).mp member)) gathers.replies
        (mem_letters_send working _).mpr fun chunk _ => Or.imp_right ?_, ?_⟩
      · rintro ⟨party, member⟩
        exact ⟨party, (mem_letters_send working _).mpr member⟩
      · unfold toil post
        dsimp only
        rw [working]
        simp only [List.map_append, List.map_cons, List.map_nil, List.sum_append, List.sum_cons,
          List.sum_nil]
        omega
  | finish working =>
      refine ⟨gathers.of_letters rfl rfl rfl rfl
        (fun item member => Or.inl ((mem_letters_finish working item).mp member)) gathers.replies
        (mem_letters_finish working _).mpr fun chunk _ => Or.imp_right ?_, ?_⟩
      · rintro ⟨party, member⟩
        exact ⟨party, (mem_letters_finish working _).mpr member⟩
      · unfold toil
        dsimp only
        rw [working]
        simp only [List.map_append, List.map_cons, List.map_nil, List.sum_append, List.sum_cons,
          List.sum_nil]
        omega

/-- No actor can go on forever. -/
theorem Gathers.ends (started : ∀ chunk ∈ base.state.chunks, chunk ∈ base.begun)
    {engine : Engine S F M} (run : ℕ → Network S F M) (gathers : base.Gathers runner (run 0)) :
    ∃ time, ¬(run time).Acts engine (run (time + 1)) := by
  by_contra endless
  have goesOn (time : ℕ) : (run time).Acts engine (run (time + 1)) := by
    by_contra stops
    exact endless ⟨time, stops⟩
  -- each step uses up some of the toil that there is at the start
  have uses (time : ℕ) : base.Gathers runner (run time) ∧
      (run time).toil base.known.length + time ≤ (run 0).toil base.known.length := by
    induction time with
    | zero => exact ⟨gathers, Nat.le_refl _⟩
    | succ time inductionHypothesis =>
        obtain ⟨next, less⟩ := inductionHypothesis.1.acts started (goesOn time)
        have bound := inductionHypothesis.2
        exact ⟨next, by omega⟩
  have bound := (uses ((run 0).toil base.known.length + 1)).2
  omega

/-- The steps of the actors keep to the question until all is answered. -/
theorem Gathers.acts_all (gathers : base.Gathers runner network)
    (started : ∀ chunk ∈ base.state.chunks, chunk ∈ base.begun) {engine : Engine S F M}
    (acts : Relation.ReflTransGen (Acts engine) network next) : base.Gathers runner next := by
  induction acts with
  | refl => exact gathers
  | tail _ step inductionHypothesis => exact (inductionHypothesis.acts started step).1

end Question

end Network

/-- The parts of the data of a runner, merged in whatever order, have what its stores have. -/
theorem EngineState.holds_merge_perm [DecidableEq S] [DecidableEq F] [Hashable S] [Hashable F]
    {state : EngineState S F M} {chunks : List String}
    (complete : ∀ chunk runner, state.hasUnit chunk runner = true → chunk ∈ chunks)
    (runner : String) {parts : List (String × Solution S F)}
    (order : parts.Perm (chunks.map fun chunk => (chunk, Network.dataOf state chunk runner))) :
    (Solution.merge (parts.map Prod.snd)).Holds state runner := by
  have ofChunk : ∀ part ∈ parts, part = (part.1, Network.dataOf state part.1 runner) := by
    intro part member
    obtain ⟨chunk, _, rfl⟩ := List.mem_map.mp (order.mem_iff.mp member)
    rfl
  have same : parts = (parts.map Prod.fst).map fun chunk =>
      (chunk, Network.dataOf state chunk runner) := by
    rw [List.map_map]
    exact (List.map_id parts).symm.trans (List.map_congr_left ofChunk)
  rw [same]
  refine EngineState.holds_merge (fun chunk other present => ?_) runner
  have member := complete chunk other present
  exact List.mem_map.mpr ⟨_, order.mem_iff.mpr (List.mem_map.mpr ⟨chunk, member, rfl⟩), rfl⟩

namespace Network

variable [DecidableEq S] [DecidableEq F] [Hashable S] [Hashable F] [Shown S] [Shown F] [Shown M]

section Rest

variable {engine : Engine S F M} {log : Log} {network later : Network S F M}

theorem Runs.gathers (runs : network.Runs engine log) (silent : engine.TellsNoChunks)
    (rest : network.inFlight = 0) (runner : String)
    (acts : Relation.ReflTransGen (Acts engine) (network.ask (.collectAll runner)) later) :
    network.Gathers runner later := by
  have coherent := runs.coherent silent
  have asked := coherent.gathers_ask (runs.numbered silent) rest runner
  refine asked.acts_all (fun chunk made => ?_) acts
  exact coherent.known chunk ((coherent.known_iff rest chunk).mpr made)

/-- A question that is asked at rest is answered with the data of all chunks. -/
theorem Runs.answer (runs : network.Runs engine log) (silent : engine.TellsNoChunks)
    (rest : network.inFlight = 0) {runner : String}
    (acts : Relation.ReflTransGen (Acts engine) (network.ask (.collectAll runner)) later)
    {parts : List (String × Solution S F)} (answered : later.answer? network.asked = some parts) :
    parts = network.known.map (fun chunk => (chunk, dataOf network.state chunk runner)) ∧
      ∀ order : List (String × Solution S F), order.Perm parts →
        (Solution.merge (order.map Prod.snd)).Holds network.state runner := by
  have coherent := runs.coherent silent
  obtain rfl := (runs.gathers silent rest runner acts).eq_of_answer answered
  refine ⟨rfl, fun order same => ?_⟩
  refine EngineState.holds_merge_perm (fun chunk other present => ?_) runner same
  exact (coherent.known_iff rest chunk).mpr (coherent.announced chunk other present)

end Rest

/-- With nothing in flight, the project knows exactly the chunks whose managers were made.  So a
question for the data of a runner comes to an end, and the answer is the data of every chunk. -/
theorem collection_misses_nothing (engine : Engine S F M) (silent : engine.TellsNoChunks)
    (log : Log) (network : Network S F M) (runs : network.Runs engine log)
    (rest : network.inFlight = 0) :
    network.known.Nodup ∧ network.known.Perm network.state.chunks ∧
    ∀ runner,
      (∀ run : ℕ → Network S F M, run 0 = network.ask (.collectAll runner) →
        ∃ time, ¬(run time).Acts engine (run (time + 1))) ∧
      ∀ later, Relation.ReflTransGen (Acts engine) (network.ask (.collectAll runner)) later →
        later.state = network.state ∧
        (later.inFlight ≠ 0 → ∃ next, later.Acts engine next) ∧
        (later.inFlight = 0 → ∃ parts, later.answer? network.asked = some parts) ∧
        ∀ parts, later.answer? network.asked = some parts →
          parts = network.known.map (fun chunk => (chunk, dataOf network.state chunk runner)) ∧
          ∀ order : List (String × Solution S F), order.Perm parts →
            (Solution.merge (order.map Prod.snd)).Holds network.state runner := by
  have coherent := runs.coherent silent
  have known := coherent.known_iff rest
  have perm := (List.perm_ext_iff_of_nodup coherent.knownOnce coherent.madeOnce).mpr known
  refine ⟨coherent.knownOnce, perm, fun runner => ⟨fun run first => ?_, fun later acts => ?_⟩⟩
  · have asked := runs.gathers silent rest runner .refl
    exact Gathers.ends (fun chunk made => coherent.known chunk ((known chunk).mpr made)) run
      (first ▸ asked)
  · have gathers := runs.gathers silent rest runner acts
    have put : (network.ask (.collectAll runner)).Runs engine log :=
      runs.tail (Or.inr (.ask fun chunk same => by cases same))
    have after := (put.of_acts acts).coherent silent
    refine ⟨gathers.state, fun busy => ?_, fun idle => ?_, fun parts answered => ?_⟩
    · obtain ⟨next, advances⟩ := after.exists_advance busy engine
      exact ⟨next, acts_of_advance advances⟩
    · exact gathers.exists_answer (after.letters_eq_nil idle)
    · exact runs.answer silent rest acts answered

end Network

namespace Sample

theorem onlyDrives (strategy : String → String) : (engine strategy).OnlyDrives :=
  (follows strategy).onlyDrives onlyFindings fun _ _ _ member => absurd member List.not_mem_nil

/-- The network where the seed was sent and everything that came of it is done. -/
def settled : Network String String String :=
  ((Network.initial log).ask seed).drain (engine graph.methodOf) 400

/-- The network where the data of the runner was asked for then. -/
def gathered : Network String String String :=
  (settled.ask (.collectAll "sample")).drain (engine graph.methodOf) 100

theorem runs_settled : settled.Runs (engine graph.methodOf) log := by
  have asked : ((Network.initial log).ask seed).Runs (engine graph.methodOf) log :=
    .single (Or.inr (.ask fun chunk same => by cases same))
  exact asked.of_acts (Network.acts_drain _ 400 _)

end Sample

theorem Network.collection_misses_nothing_sample :
    Sample.settled.known = ["caller", "callee"] ∧
    Sample.settled.known.Perm Sample.settled.state.chunks ∧
    ∃ parts, Sample.gathered.answer? Sample.settled.asked = some parts ∧
      (Solution.merge (parts.map Prod.snd)).Holds Sample.settled.state "sample" ∧
      ⟨⟨"return", "fact"⟩, "reach", "the fact comes back"⟩ ∈
        (Solution.merge (parts.map Prod.snd)).findings := by
  have rest : Sample.settled.inFlight = 0 := by decide
  obtain ⟨_, perm, collects⟩ := collection_misses_nothing (Sample.engine Sample.graph.methodOf)
    (Sample.onlyDrives _).tellsNoChunks Sample.log Sample.settled Sample.runs_settled rest
  obtain ⟨_, _, answers, complete⟩ :=
    (collects "sample").2 Sample.gathered (acts_drain _ 100 _)
  obtain ⟨parts, answered⟩ := answers (by decide)
  have data := (complete parts answered).2 parts (.refl parts)
  refine ⟨by decide, perm, parts, answered, data, (data.findings _).mpr ⟨"caller", ?_⟩⟩
  decide

end Tabulation
