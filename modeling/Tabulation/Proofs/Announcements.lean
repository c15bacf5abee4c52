/-
What the project knows of its chunks.

The manager of a chunk is made by the project, and tells the project of its chunk by a message of
its own, some time later.  In between the project does not know the chunk.  But something is in
flight all the while: the message for which the manager was made waits until the manager
has started, and then its news is on the way.  So when nothing is in flight the project knows all.
-/

import Tabulation.Proofs.Actors

namespace Tabulation

variable {S F M : Type}

namespace Network

/-! ### What comes of it for the chunks -/

/-- What mail that is taken changes of the chunks and of what the project knows, and what stays. -/
structure Informs (network : Network S F M) (party : Party) (mail : Mail S F M)
    (result : Network S F M × List (Party × Mail S F M)) : Prop where
  atWork : result.1.atWork = network.atWork
  inFlight : result.1.inFlight = network.inFlight
  begun : result.1.begun = network.begun
  closed : result.1.state.closed = network.state.closed
  known : ∀ chunk, chunk ∈ result.1.known ↔
    chunk ∈ network.known ∨ party = .manager .project ∧ mail.message = .newChunk chunk
  knownOnce : network.known.Nodup → result.1.known.Nodup
  made : ∀ chunk, chunk ∈ result.1.state.chunks ↔
    chunk ∈ network.state.chunks ∨ ∃ item ∈ result.2, item.1 = .manager (.chunk chunk)
  madeOnce : network.state.chunks.Nodup → result.1.state.chunks.Nodup
  announced : network.state.Announced → result.1.state.Announced
  silent : ∀ item ∈ result.2, ∀ chunk, item.2.message ≠ .newChunk chunk

private theorem Informs.of_same {network next : Network S F M} {party : Party} {mail : Mail S F M}
    {sent : List (Party × Mail S F M)} (atWork : next.atWork = network.atWork)
    (inFlight : next.inFlight = network.inFlight) (begun : next.begun = network.begun)
    (known : next.known = network.known) (state : network.state.Retains next.state)
    (noNews : ¬IsNews party mail)
    (inside : ∀ item ∈ sent, ∀ chunk, item.1 = .manager (.chunk chunk) →
      chunk ∈ network.state.chunks)
    (silent : ∀ item ∈ sent, ∀ chunk, item.2.message ≠ .newChunk chunk) :
    network.Informs party mail (next, sent) where
  atWork := atWork
  inFlight := inFlight
  begun := begun
  closed := state.closed
  known := fun chunk => by
    rw [known]
    exact (or_iff_left fun news => noNews ⟨news.1, chunk, news.2⟩).symm
  knownOnce := fun once => known ▸ once
  made := fun chunk => by
    rw [state.chunks]
    refine (or_iff_left_of_imp ?_).symm
    rintro ⟨item, member, here⟩
    exact inside item member chunk here
  madeOnce := fun once => state.chunks ▸ once
  announced := fun announced chunk runner present => by
    rw [EngineState.hasUnit_iff, state.unitNames, ← EngineState.hasUnit_iff] at present
    rw [state.chunks]
    exact announced chunk runner present
  silent := silent

private theorem informs_chunk (network : Network S F M) {party : Party} {mail : Mail S F M}
    (noNews : ∀ chunk, mail.message ≠ .newChunk chunk) (chunk : String) :
    network.Informs party mail
      ({ network with state := network.state.announce chunk },
        [(.manager (.chunk chunk), mail)]) where
  atWork := rfl
  inFlight := rfl
  begun := rfl
  closed := (network.state.keeps_announce chunk).closed
  known := fun other => (or_iff_left fun news => noNews other news.2).symm
  knownOnce := id
  made := fun other => by
    rw [network.state.mem_chunks_announce, or_comm]
    refine or_congr_right ⟨?_, ?_⟩
    · rintro rfl
      exact ⟨_, List.mem_singleton_self _, rfl⟩
    · rintro ⟨item, member, here⟩
      rw [List.mem_singleton.mp member] at here
      cases here
      rfl
  madeOnce := fun once => by
    unfold EngineState.announce
    split
    · exact once
    · rename_i absent
      refine once.append (List.nodup_singleton _) (List.disjoint_singleton.mpr ?_)
      exact fun member => absent (List.contains_iff_mem.mpr member)
  announced := (network.state.keeps_announce chunk).announced
  silent := fun item member other => by
    rw [List.mem_singleton.mp member]
    exact noNews other

private theorem informs_unit (engine : Engine S F M) (network : Network S F M) {party : Party}
    {mail : Mail S F M} (noNews : ∀ chunk, mail.message ≠ .newChunk chunk) {chunk : String}
    (made : chunk ∈ network.state.chunks) (runner : String) :
    network.Informs party mail
      ({ network with state := engine.openUnit network.state chunk runner },
        [(.manager (.unit chunk runner), mail)]) := by
  have chunks := engine.chunks_openUnit network.state made runner
  have keeps := engine.keeps_openUnit network.state chunk runner
  exact
    { atWork := rfl
      inFlight := rfl
      begun := rfl
      closed := keeps.closed
      known := fun other => (or_iff_left fun news => noNews other news.2).symm
      knownOnce := id
      made := fun other => by
        rw [chunks]
        refine (or_iff_left ?_).symm
        rintro ⟨item, member, here⟩
        rw [List.mem_singleton.mp member] at here
        cases here
      madeOnce := fun once => by
        rw [chunks]
        exact once
      announced := keeps.announced
      silent := fun item member other => by
        rw [List.mem_singleton.mp member]
        exact noNews other }

private theorem informs_learn (network : Network S F M) {mail : Mail S F M} {chunk : String}
    (news : mail.message = .newChunk chunk) :
    network.Informs (.manager .project) mail (network.learn chunk, []) := by
  have nothing {property : Party × Mail S F M → Prop} : ∀ item ∈ [], property item :=
    fun _ member => absurd member List.not_mem_nil
  have none (other : String) : other ∈ network.state.chunks ↔ other ∈ network.state.chunks ∨
      ∃ item ∈ ([] : List (Party × Mail S F M)), item.1 = .manager (.chunk other) :=
    (or_iff_left (by simp)).symm
  have same (other : String) : mail.message = .newChunk other ↔ other = chunk := by
    rw [news, Message.newChunk.injEq, eq_comm]
  unfold learn
  split
  · rename_i present
    have member : chunk ∈ network.known := List.contains_iff_mem.mp present
    refine ⟨rfl, rfl, rfl, rfl, fun other => ?_, id, none, id, id, nothing⟩
    rw [same]
    exact (or_iff_left_of_imp fun here => here.2 ▸ member).symm
  · rename_i absent
    refine ⟨rfl, rfl, rfl, rfl, fun other => ?_, fun once => ?_, none, id, id, nothing⟩
    · rw [same, List.mem_append, List.mem_singleton]
      exact or_congr_right (and_iff_right rfl).symm
    · refine once.append (List.nodup_singleton _) (List.disjoint_singleton.mpr ?_)
      exact fun member => absent (List.contains_iff_mem.mpr member)

private theorem not_isNews_of_chunkOf {strategy : S → String} {chunk : String} {party : Party}
    {mail : Mail S F M} (owned : mail.message.chunkOf strategy = some chunk) :
    ¬IsNews party mail := by
  rintro ⟨_, other, news⟩
  rw [news] at owned
  cases owned

theorem Receives.informs [DecidableEq S] [DecidableEq F] [Shown S] [Shown F] [Shown M]
    {engine : Engine S F M} {network : Network S F M} {party : Party}
    {mail : Mail S F M} {result : Network S F M × List (Party × Mail S F M)}
    (receives : network.Receives engine mail party result)
    (ready : ∀ chunk, party = .manager (.chunk chunk) → chunk ∈ network.state.chunks)
    (informed : ∀ chunk ∈ network.known, chunk ∈ network.state.chunks)
    (news : ∀ chunk, mail.message = .newChunk chunk → party = .manager .project) :
    network.Informs party mail result := by
  have same : network.state.Retains network.state := network.state.retains_log network.state.log
  have silent (noNews : ¬IsNews party mail) (chunk : String) :
      mail.message ≠ .newChunk chunk :=
    fun isNews => noNews ⟨news chunk isNews, chunk, isNews⟩
  have notNews {message : Message S F M} (here : mail.message = message)
      (other : ∀ chunk, message ≠ .newChunk chunk) : ¬IsNews party mail := by
    rintro ⟨_, chunk, isNews⟩
    exact other chunk (here.symm.trans isNews)
  have nothing {property : Party × Mail S F M → Prop} : ∀ item ∈ [], property item :=
    fun _ member => absurd member List.not_mem_nil
  cases receives with
  | drop lost =>
      refine .of_same rfl rfl rfl rfl same ?_ nothing nothing
      rintro ⟨_, chunk, isNews⟩
      have drives := lost.2
      rw [isNews] at drives
      cases drives
  | @forward place next hop =>
      -- the project keeps the news, so what is passed on is none
      have noNews (chunk : String) : mail.message ≠ .newChunk chunk := by
        intro isNews
        cases news chunk isNews
        rw [isNews] at hop
        cases hop
      cases next with
      | project =>
          refine .of_same rfl rfl rfl rfl same (fun isNews => ?_) ?_ ?_
          · obtain ⟨_, chunk, isNews⟩ := isNews
            exact noNews chunk isNews
          · intro item member chunk here
            rw [List.mem_singleton.mp member] at here
            cases here
          · intro item member chunk
            rw [List.mem_singleton.mp member]
            exact noNews chunk
      | chunk chunk => exact network.informs_chunk noNews chunk
      | unit chunk runner =>
          obtain rfl := Place.eq_chunk_of_forward hop
          exact informs_unit engine network noNews (ready chunk rfl) runner
  | @handOver place part inner _ isFor =>
      obtain ⟨chunk, owned⟩ := isFor.exists_chunkOf inner
      have noNews : ¬IsNews (.manager place) mail := not_isNews_of_chunkOf owned
      refine .of_same rfl rfl rfl rfl same noNews ?_ ?_
      · intro item member chunk here
        rw [List.mem_singleton.mp member] at here
        exact absurd here (inner _)
      · intro item member chunk
        rw [List.mem_singleton.mp member]
        exact silent noNews chunk
  | learn isNews => exact network.informs_learn isNews
  | scatter question =>
      unfold Network.scatter
      refine .of_same ?_ ?_ ?_ ?_ ?_ (notNews question fun _ isNews => by cases isNews) ?_ ?_
      · cases mail.question <;> rfl
      · cases mail.question <;> rfl
      · cases mail.question <;> rfl
      · cases mail.question <;> rfl
      · cases mail.question <;> exact same
      · intro item member chunk here
        obtain ⟨other, known, rfl⟩ := List.mem_map.mp member
        cases here
        exact informed _ known
      · intro item member chunk isNews
        obtain ⟨other, known, rfl⟩ := List.mem_map.mp member
        cases isNews
  | reply question =>
      unfold Network.reply
      refine .of_same ?_ ?_ ?_ ?_ ?_ (notNews question fun _ isNews => by cases isNews)
        nothing nothing
      · cases mail.question <;> rfl
      · cases mail.question <;> rfl
      · cases mail.question <;> rfl
      · cases mail.question <;> rfl
      · cases mail.question <;> exact same
  | settle noNews tends =>
      obtain ⟨retains, messages, sent, others⟩ := tends
      refine .of_same rfl rfl rfl rfl retains noNews ?_ ?_
      · intro item member chunk here
        rw [sent] at member
        simp only [Engine.sentBy, List.map_map, List.mem_map, Function.comp_apply] at member
        obtain ⟨message, _, rfl⟩ := member
        cases here
      · intro item member chunk
        rw [sent] at member
        simp only [Engine.sentBy, List.map_map, List.mem_map, Function.comp_apply] at member
        obtain ⟨message, written, rfl⟩ := member
        exact others message written chunk

/-! ### What holds in every state -/

/-- What holds of the chunks in every state that a run leads to. -/
structure Coherent (network : Network S F M) : Prop where
  opened : network.state.closed = false
  counted : network.inFlight = network.mail.length + network.atWork.length
  announced : network.state.Announced
  madeOnce : network.state.chunks.Nodup
  knownOnce : network.known.Nodup
  known : ∀ chunk ∈ network.known, chunk ∈ network.begun
  begun : ∀ chunk ∈ network.begun, chunk ∈ network.state.chunks
  /-- A manager that has started has its news on the way until the project knows. -/
  told : ∀ chunk ∈ network.begun, chunk ∈ network.known ∨
    ∃ mail, (.manager .project, mail) ∈ network.mail ∧ mail.message = .newChunk chunk
  news : ∀ item ∈ network.letters, ∀ chunk, item.2.message = .newChunk chunk →
    item.1 = .manager .project ∧ chunk ∈ network.begun
  /-- A manager that has not started is awaited by some message. -/
  awaited : ∀ chunk ∈ network.state.chunks, chunk ∈ network.begun ∨
    ∃ item ∈ network.letters, item.1 = .manager (.chunk chunk)
  addressed : ∀ item ∈ network.letters, ∀ chunk, item.1 = .manager (.chunk chunk) →
    chunk ∈ network.state.chunks

theorem coherent_initial (log : Log) : (initial log : Network S F M).Coherent := by
  constructor <;> simp [initial, letters, EngineState.Announced, EngineState.hasUnit,
    EngineState.store?]

variable {engine : Engine S F M} {network next : Network S F M}

theorem Coherent.letters_eq_nil (coherent : network.Coherent) (rest : network.inFlight = 0) :
    network.letters = [] := by
  have counted := coherent.counted
  have noMail : network.mail = [] := List.eq_nil_of_length_eq_zero (by omega)
  have noWork : network.atWork = [] := List.eq_nil_of_length_eq_zero (by omega)
  unfold letters
  rw [noMail, noWork]
  rfl

/-- With nothing in flight the project knows the chunks whose managers were made, each once. -/
theorem Coherent.known_iff (coherent : network.Coherent) (rest : network.inFlight = 0)
    (chunk : String) : chunk ∈ network.known ↔ chunk ∈ network.state.chunks := by
  have noLetter (item : Party × Mail S F M) : item ∉ network.letters := by
    rw [coherent.letters_eq_nil rest]
    exact List.not_mem_nil
  constructor
  · exact fun known => coherent.begun chunk (coherent.known chunk known)
  · intro made
    rcases coherent.awaited chunk made with begun | ⟨item, member, _⟩
    · rcases coherent.told chunk begun with known | ⟨mail, waiting, _⟩
      · exact known
      · exact absurd ((mem_letters _).mpr (Or.inl waiting)) (noLetter _)
    · exact absurd member (noLetter item)

private theorem Coherent.start (coherent : network.Coherent) {chunk : String}
    (made : chunk ∈ network.state.chunks) : (network.start chunk).Coherent := by
  have letters := network.mem_letters_post (.manager .project) ⟨.newChunk chunk, none⟩
  have older {other : String} (begun : other ∈ network.begun) :
      other ∈ (network.start chunk).begun := List.mem_append_left [chunk] begun
  refine ⟨coherent.opened, ?_, coherent.announced, coherent.madeOnce, coherent.knownOnce,
    fun other known => older (coherent.known other known), ?_, ?_, ?_, ?_, ?_⟩
  · have counted := coherent.counted
    simp only [Network.start, post, List.length_append, List.length_singleton]
    omega
  · intro other begun
    rcases List.mem_append.mp begun with old | new
    · exact coherent.begun other old
    · exact List.mem_singleton.mp new ▸ made
  · intro other begun
    rcases List.mem_append.mp begun with old | new
    · refine (coherent.told other old).imp_right ?_
      rintro ⟨mail, waiting, news⟩
      exact ⟨mail, List.mem_append_left _ waiting, news⟩
    · obtain rfl := List.mem_singleton.mp new
      exact Or.inr ⟨_, List.mem_append_right _ (List.mem_singleton_self _), rfl⟩
  · intro item member other news
    rcases (letters item).mp member with old | rfl
    · exact (coherent.news item old other news).imp_right older
    · obtain rfl : chunk = other := Message.newChunk.inj news
      exact ⟨rfl, List.mem_append_right _ (List.mem_singleton_self _)⟩
  · intro other isMade
    refine (coherent.awaited other isMade).imp older ?_
    rintro ⟨item, member, here⟩
    exact ⟨item, (letters item).mpr (Or.inl member), here⟩
  · intro item member other here
    rcases (letters item).mp member with old | rfl
    · exact coherent.addressed item old other here
    · cases here

private theorem Coherent.ask (coherent : network.Coherent) {message : Message S F M}
    (ours : ∀ chunk, message ≠ .newChunk chunk) : (network.ask message).Coherent := by
  have letters := network.mem_letters_post (.manager .project) ⟨message, some network.asked⟩
  refine ⟨coherent.opened, ?_, coherent.announced, coherent.madeOnce, coherent.knownOnce,
    coherent.known, coherent.begun, ?_, ?_, ?_, ?_⟩
  · have counted := coherent.counted
    simp only [Network.ask, post, List.length_append, List.length_singleton]
    omega
  · intro chunk begun
    refine (coherent.told chunk begun).imp_right ?_
    rintro ⟨mail, waiting, news⟩
    exact ⟨mail, List.mem_append_left _ waiting, news⟩
  · intro item member chunk news
    rcases (letters item).mp member with old | rfl
    · exact coherent.news item old chunk news
    · exact absurd news (ours chunk)
  · intro chunk made
    refine (coherent.awaited chunk made).imp_right ?_
    rintro ⟨item, member, here⟩
    exact ⟨item, (letters item).mpr (Or.inl member), here⟩
  · intro item member chunk here
    rcases (letters item).mp member with old | rfl
    · exact coherent.addressed item old chunk here
    · cases here

private theorem Coherent.take (coherent : network.Coherent) (silent : engine.TellsNoChunks)
    [DecidableEq S] [DecidableEq F] [Hashable S] [Hashable F] [Shown S] [Shown F] [Shown M]
    {before after : List (Party × Mail S F M)} {party : Party} {mail : Mail S F M}
    (waiting : network.mail = before ++ (party, mail) :: after)
    (ready : network.isReady party = true) (worker : ℕ) :
    (network.take engine worker (before ++ after) party mail).Coherent := by
  obtain ⟨result, receives, _, taken⟩ :=
    network.exists_receives_take engine silent worker (before ++ after) party mail
  have isLetter : (party, mail) ∈ network.letters :=
    mem_letters_of_waiting waiting
  have started (chunk : String) (here : party = .manager (.chunk chunk)) :
      chunk ∈ network.begun := by
    rw [here] at ready
    exact List.contains_iff_mem.mp ready
  have informs := receives.informs (fun chunk here => coherent.begun chunk (started chunk here))
    (fun chunk known => coherent.begun chunk (coherent.known chunk known))
    (fun chunk news => (coherent.news _ isLetter chunk news).1)
  have letters := mem_letters_take waiting result informs.atWork
  rw [taken]
  refine ⟨informs.closed.trans coherent.opened, ?_, informs.announced coherent.announced,
    informs.madeOnce coherent.madeOnce, informs.knownOnce coherent.knownOnce, ?_, ?_, ?_, ?_, ?_, ?_⟩
  · have counted := coherent.counted
    rw [waiting] at counted
    simp only [List.length_append, List.length_cons] at counted
    dsimp only
    rw [informs.inFlight, informs.atWork, counted]
    simp only [List.length_append, List.length_singleton]
    omega
  · intro chunk known
    rw [informs.begun]
    rcases (informs.known chunk).mp known with old | ⟨here, news⟩
    · exact coherent.known chunk old
    · exact (coherent.news _ isLetter chunk news).2
  · intro chunk begun
    rw [informs.begun] at begun
    exact (informs.made chunk).mpr (Or.inl (coherent.begun chunk begun))
  · intro chunk begun
    rw [informs.begun] at begun
    rcases coherent.told chunk begun with known | ⟨told, there, news⟩
    · exact Or.inl ((informs.known chunk).mpr (Or.inl known))
    · rw [waiting, List.mem_append, List.mem_cons] at there
      rcases there with early | same | late
      · exact Or.inr ⟨told, List.mem_append_left _ early, news⟩
      · -- the project takes the news of the chunk
        cases same
        exact Or.inl ((informs.known chunk).mpr (Or.inr ⟨rfl, news⟩))
      · exact Or.inr ⟨told, List.mem_append_right _ late, news⟩
  · intro item member chunk news
    rw [informs.begun]
    rcases (letters item).1 member with old | sent
    · exact coherent.news item old chunk news
    · exact absurd news (informs.silent item sent chunk)
  · intro chunk made
    rw [informs.begun]
    rcases (informs.made chunk).mp made with old | ⟨item, sent, here⟩
    · rcases coherent.awaited chunk old with begun | ⟨item, member, here⟩
      · exact Or.inl begun
      · rcases (letters item).2.1 member with rfl | left
        · -- a manager takes mail only after it has started
          exact Or.inl (started chunk here)
        · exact Or.inr ⟨item, left, here⟩
    · exact Or.inr ⟨item, (letters item).2.2 sent, here⟩
  · intro item member chunk here
    apply (informs.made chunk).mpr
    rcases (letters item).1 member with old | sent
    · exact Or.inl (coherent.addressed item old chunk here)
    · exact Or.inr ⟨item, sent, here⟩

/-- Nothing changes but where letters are. -/
private theorem Coherent.of_letters (coherent : network.Coherent)
    (state : next.state = network.state) (known : next.known = network.known)
    (begun : next.begun = network.begun)
    (counted : next.inFlight = next.mail.length + next.atWork.length)
    (letters : ∀ item, item ∈ next.letters ↔ item ∈ network.letters)
    (kept : ∀ item ∈ network.mail, item ∈ next.mail) : next.Coherent := by
  refine ⟨?_, counted, ?_, ?_, ?_, ?_, ?_, ?_, ?_, ?_, ?_⟩
  · rw [state]
    exact coherent.opened
  · rw [state]
    exact coherent.announced
  · rw [state]
    exact coherent.madeOnce
  · rw [known]
    exact coherent.knownOnce
  · rw [known, begun]
    exact coherent.known
  · rw [begun, state]
    exact coherent.begun
  · rw [begun, known]
    intro chunk isBegun
    refine (coherent.told chunk isBegun).imp_right ?_
    rintro ⟨mail, waiting, news⟩
    exact ⟨mail, kept _ waiting, news⟩
  · rw [begun]
    exact fun item member => coherent.news item ((letters item).mp member)
  · rw [state, begun]
    intro chunk made
    refine (coherent.awaited chunk made).imp_right ?_
    rintro ⟨item, member, here⟩
    exact ⟨item, (letters item).mpr member, here⟩
  · rw [state]
    exact fun item member => coherent.addressed item ((letters item).mp member)

theorem Coherent.disturbs (coherent : network.Coherent) (disturbs : network.Disturbs next) :
    next.Coherent := by
  cases disturbs with
  | ask ours => exact coherent.ask ours
  | halt => exact { coherent with }
  | resume => exact { coherent with }

variable [DecidableEq S] [DecidableEq F] [Hashable S] [Hashable F] [Shown S] [Shown F] [Shown M]

theorem Coherent.acts (coherent : network.Coherent) (silent : engine.TellsNoChunks)
    (acts : network.Acts engine next) : next.Coherent := by
  have counted := coherent.counted
  cases acts with
  | start made _ => exact coherent.start made
  | @take before after party mail worker waiting _ _ ready =>
      exact coherent.take silent waiting ready worker
  | send working =>
      refine coherent.of_letters rfl rfl rfl ?_ (mem_letters_send working)
        fun _ member => List.mem_append_left _ member
      rw [working] at counted
      simp only [post, List.length_append, List.length_cons, List.length_nil] at counted ⊢
      omega
  | finish working =>
      refine coherent.of_letters rfl rfl rfl ?_ (mem_letters_finish working) fun _ member => member
      rw [working] at counted
      simp only [List.length_append, List.length_cons] at counted ⊢
      omega

theorem Runs.coherent {log : Log} (runs : network.Runs engine log)
    (silent : engine.TellsNoChunks) : network.Coherent := by
  induction runs with
  | refl => exact coherent_initial log
  | tail _ step inductionHypothesis =>
      rcases step with acts | disturbs
      · exact inductionHypothesis.acts silent acts
      · exact inductionHypothesis.disturbs disturbs

/-- While something is in flight, somebody can go on. -/
theorem Coherent.exists_advance (coherent : network.Coherent) (busy : network.inFlight ≠ 0)
    (engine : Engine S F M) : ∃ next, network.advance? engine = some next := by
  have counted := coherent.counted
  unfold advance?
  cases working : network.atWork with
  | cons work others =>
      obtain ⟨party, _ | ⟨first, rest⟩⟩ := work
      · exact ⟨_, rfl⟩
      · exact ⟨_, rfl⟩
  | nil =>
      cases waiting : network.mail with
      | nil =>
          rw [working, waiting] at counted
          exact absurd counted busy
      | cons item rest =>
          obtain ⟨party, mail⟩ := item
          dsimp only
          by_cases ready : network.isReady party = true
          · rw [if_pos ready]
            exact ⟨_, rfl⟩
          · rw [if_neg ready]
            -- only the manager of a chunk may have to wait, and it was made but has not started
            have isLetter : (party, mail) ∈ network.letters := by
              rw [mem_letters, waiting]
              exact Or.inl List.mem_cons_self
            unfold isReady at ready
            split at ready
            · rename_i chunk
              have made := coherent.addressed _ isLetter chunk rfl
              have waits : (!network.begun.contains chunk) = true := by
                rw [eq_false_of_ne_true ready, Bool.not_false]
              have exist : (network.state.chunks.find? fun other =>
                  !network.begun.contains other).isSome = true :=
                List.find?_isSome.mpr ⟨chunk, made, waits⟩
              obtain ⟨first, found⟩ := Option.isSome_iff_exists.mp exist
              rw [found]
              exact ⟨_, rfl⟩
            · exact absurd rfl ready

end Network

end Tabulation
