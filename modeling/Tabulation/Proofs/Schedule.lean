/-
Runs of an engine in any order.

A run sends messages from outside and handles pending ones, each at any time and in any
order. Its history lists the messages that were sent and those that were handled. The
stores depend on the set of the handled messages only, and every message that is pending
or handled has one origin: it was sent, or it is the answer of a store that the handled
messages call for, or it is part of the reply to one of them.
-/

import Mathlib.Data.Multiset.Bind
import Mathlib.Logic.Relation
import Mathlib.Tactic.Abel
import Tabulation.Proofs.Delivery

namespace Tabulation

variable {S F M : Type}

/-- The messages that were sent from outside so far, those that were handled, and the state. -/
structure History (S F M : Type) where
  sent : List (Message S F M)
  handled : List (Message S F M)
  state : EngineState S F M

/-- The history of an engine that did nothing yet. -/
def History.initial (log : Log) : History S F M := ⟨[], [], Engine.initial log⟩

/-- The messages of a history that wait. -/
def History.pending (history : History S F M) : List (Message S F M) :=
  history.state.pending.map Prod.snd

theorem History.mem_pending {history : History S F M} {before after : List (Place × Message S F M)}
    {place : Place} {message : Message S F M}
    (waiting : history.state.pending = before ++ (place, message) :: after) :
    message ∈ history.pending := by
  unfold pending
  rw [waiting]
  exact List.mem_map.mpr ⟨(place, message), by simp, rfl⟩

/-- Whether the messages handled in all units call for an answer of a store. A summary is kept where it
starts, so a subscription at its end must be kept there too. -/
def Due (strategy : S → String) (handled : Set (Message S F M)) : Message S F M → Prop
  | .edgeAdded runner edge => ∃ reason, .newEdge runner edge reason ∈ handled
  | .startNotice subscriber author summary edge =>
      .subscribeStart author summary.source subscriber edge ∈ handled ∧
        .newSummary author summary ∈ handled
  | .endNotice subscriber author summary edge =>
      .subscribeEnd author summary.target subscriber edge ∈ handled ∧
        .newSummary author summary ∈ handled ∧
        strategy summary.target.statement = strategy summary.source.statement
  | _ => False

theorem Due.mono {strategy : S → String} {few many : Set (Message S F M)} (subset : few ⊆ many)
    {message : Message S F M} (due : Due strategy few message) : Due strategy many message := by
  cases message with
  | edgeAdded runner edge =>
      obtain ⟨reason, member⟩ := due
      exact ⟨reason, subset member⟩
  | startNotice subscriber author summary edge => exact ⟨subset due.1, subset due.2⟩
  | endNotice subscriber author summary edge => exact ⟨subset due.1, subset due.2.1, due.2.2⟩
  | _ => exact due

def ownedIn (strategy : S → String) (handled : Set (Message S F M)) (chunk runner : String) :
    Set (Message S F M) :=
  {message | message ∈ handled ∧ message.isOwnedBy strategy chunk runner = true}

/-- The unit whose store gives an answer. -/
def Message.origin? (strategy : S → String) : Message S F M → Option (String × String)
  | .edgeAdded runner edge => some (strategy edge.target.statement, runner)
  | .startNotice _ author summary _ => some (strategy summary.source.statement, author)
  | .endNotice _ author summary _ => some (strategy summary.source.statement, author)
  | _ => none

theorem Store.Records.entails_iff {strategy : S → String} {handled : Set (Message S F M)}
    {store : Store S F} {chunk : String}
    (records : store.Records (ownedIn strategy handled chunk store.runner))
    (answer : Message S F M) :
    store.Entails answer ↔
      answer.origin? strategy = some (chunk, store.runner) ∧ Due strategy handled answer := by
  cases answer with
  | edgeAdded runner edge =>
      simp [Store.Entails, records.reasons, ownedIn, Message.isOwnedBy, Message.chunkOf,
        Message.home?, Message.runner, Message.origin?, Due]
      grind
  | startNotice subscriber author summary edge =>
      simp [Store.Entails, records.onStart, records.summaries, ownedIn, Message.isOwnedBy,
        Message.chunkOf, Message.home?, Message.runner, Message.origin?, Due]
      grind
  | endNotice subscriber author summary edge =>
      simp [Store.Entails, records.onEnd, records.summaries, ownedIn, Message.isOwnedBy,
        Message.chunkOf, Message.home?, Message.runner, Message.origin?, Due]
      grind
  | _ => simp [Store.Entails, Due]

theorem isOwnedBy_origin {strategy : S → String} {handled : Set (Message S F M)}
    {message answer : Message S F M} (due : Due strategy (insert message handled) answer)
    (new : ¬Due strategy handled answer) :
    ∃ chunk runner, answer.origin? strategy = some (chunk, runner) ∧
      message.isOwnedBy strategy chunk runner = true := by
  cases answer with
  | edgeAdded runner edge =>
      refine ⟨_, _, rfl, ?_⟩
      simp only [Due, Set.mem_insert_iff, not_exists] at due new
      obtain ⟨reason, rfl | member⟩ := due
      · simp [Message.isOwnedBy, Message.chunkOf, Message.home?, Message.runner]
      · exact absurd member (new reason)
  | startNotice subscriber author summary edge =>
      refine ⟨_, _, rfl, ?_⟩
      simp only [Due, Set.mem_insert_iff] at due new
      obtain ⟨rfl | wished, second⟩ := due
      · simp [Message.isOwnedBy, Message.chunkOf, Message.home?, Message.runner]
      · rcases second with rfl | recorded
        · simp [Message.isOwnedBy, Message.chunkOf, Message.home?, Message.runner]
        · exact absurd ⟨wished, recorded⟩ new
  | endNotice subscriber author summary edge =>
      refine ⟨_, _, rfl, ?_⟩
      simp only [Due, Set.mem_insert_iff] at due new
      obtain ⟨rfl | wished, second, together⟩ := due
      · simp [Message.isOwnedBy, Message.chunkOf, Message.home?, Message.runner, together]
      · rcases second with rfl | recorded
        · simp [Message.isOwnedBy, Message.chunkOf, Message.home?, Message.runner]
        · exact absurd ⟨wished, recorded, together⟩ new
  | _ => exact absurd due id

private theorem setOf_mem_cons {α : Type} (item : α) (items : List α) :
    {other | other ∈ item :: items} = insert item {other | other ∈ items} :=
  Set.ext fun _ => List.mem_cons

private theorem ownedIn_insert_of_owned {strategy : S → String} {handled : Set (Message S F M)}
    {chunk runner : String} {message : Message S F M}
    (owned : message.isOwnedBy strategy chunk runner = true) :
    ownedIn strategy (insert message handled) chunk runner =
      insert message (ownedIn strategy handled chunk runner) := by
  ext other
  simp only [ownedIn, Set.mem_ofPred_eq, Set.mem_insert_iff]
  constructor
  · rintro ⟨same | member, mine⟩
    · exact Or.inl same
    · exact Or.inr ⟨member, mine⟩
  · rintro (rfl | ⟨member, mine⟩)
    · exact ⟨Or.inl rfl, owned⟩
    · exact ⟨Or.inr member, mine⟩

private theorem ownedIn_insert_of_not_owned {strategy : S → String}
    {handled : Set (Message S F M)} {chunk runner : String} {message : Message S F M}
    (foreign : ¬message.isOwnedBy strategy chunk runner = true) :
    ownedIn strategy (insert message handled) chunk runner = ownedIn strategy handled chunk runner := by
  ext other
  simp only [ownedIn, Set.mem_ofPred_eq, Set.mem_insert_iff]
  constructor
  · rintro ⟨rfl | member, mine⟩
    · exact absurd mine foreign
    · exact ⟨member, mine⟩
  · rintro ⟨member, mine⟩
    exact ⟨Or.inr member, mine⟩

namespace Engine

/-- What holds after every run. -/
structure Accounts (engine : Engine S F M) (history : History S F M) : Prop where
  running : history.state.halted = false
  opened : history.state.closed = false
  barrier : history.state.barrierOpen = false
  announced : history.state.Announced
  held : (∀ message, engine.IsPrompt message) → history.state.held = []
  owner : ∀ chunk runner, (history.state.storeOf chunk runner).runner = runner
  records : ∀ chunk runner, (history.state.storeOf chunk runner).Records
    (ownedIn engine.strategy {message | message ∈ history.handled} chunk runner)
  /-- Every message has one origin. -/
  balance : ∃ answered : List (Message S F M), answered.Nodup ∧
    (∀ answer, answer ∈ answered ↔
      Due engine.strategy {message | message ∈ history.handled} answer) ∧
    (history.pending : Multiset (Message S F M)) + history.handled =
      history.sent + answered + history.handled.flatMap (engine.reply false)

theorem accounts_initial (engine : Engine S F M) (log : Log) :
    engine.Accounts (History.initial log : History S F M) where
  running := rfl
  opened := rfl
  barrier := rfl
  announced := fun _ _ present => by cases present
  held := fun _ => rfl
  owner := fun _ _ => rfl
  records := fun chunk runner => by
    have nothing : ownedIn engine.strategy
        {message | message ∈ (History.initial log : History S F M).handled} chunk runner = ∅ := by
      simp [ownedIn, History.initial]
    rw [nothing]
    exact Store.records_empty runner
  balance := by
    refine ⟨[], List.nodup_nil, fun answer => ?_, rfl⟩
    cases answer <;> simp [Due, History.initial]

variable {engine : Engine S F M} {history : History S F M}

theorem Accounts.send (accounts : engine.Accounts history) {message : Message S F M}
    {next : EngineState S F M} (accepted : Engine.send history.state message = .ok next) :
    engine.Accounts ⟨message :: history.sent, history.handled, next⟩ := by
  unfold Engine.send at accepted
  split at accepted
  · cases accepted
  · cases accepted
    obtain ⟨answered, nodup, due, balance⟩ := accounts.balance
    refine ⟨accounts.running, accounts.opened, accounts.barrier, accounts.announced,
      accounts.held, accounts.owner, accounts.records, answered, nodup, due, ?_⟩
    have moved : History.pending ⟨message :: history.sent, history.handled,
        { history.state with pending := history.state.pending ++ [(Place.project, message)] }⟩ =
        history.pending ++ [message] := by
      unfold History.pending
      rw [List.map_append]
      rfl
    rw [moved, ← Multiset.coe_add, ← Multiset.cons_coe, ← Multiset.singleton_add]
    calc ((history.pending : Multiset (Message S F M)) + ([message] : List (Message S F M))) +
          history.handled
        = {message} + (history.pending + history.handled) := by
          rw [Multiset.coe_singleton]
          abel
      _ = {message} + (history.sent + answered + history.handled.flatMap (engine.reply false)) := by
          rw [balance]
      _ = {message} + history.sent + answered + history.handled.flatMap (engine.reply false) := by
          abel

private theorem Accounts.balance_take (accounts : engine.Accounts history)
    {rest : List (Message S F M)} {message : Message S F M} {answers : List (Message S F M)}
    (waiting : (history.pending : Multiset (Message S F M)) = {message} + rest)
    (distinct : answers.Nodup)
    (members : ∀ answer, answer ∈ answers ↔
      Due engine.strategy (insert message {other | other ∈ history.handled}) answer ∧
        ¬Due engine.strategy {other | other ∈ history.handled} answer) :
    ∃ answered : List (Message S F M), answered.Nodup ∧
      (∀ answer, answer ∈ answered ↔
        Due engine.strategy (insert message {other | other ∈ history.handled}) answer) ∧
      (rest + (answers + engine.reply false message) : Multiset (Message S F M)) +
          ({message} + history.handled) =
        history.sent + answered +
          (engine.reply false message + history.handled.flatMap (engine.reply false)) := by
  obtain ⟨answered, nodup, due, balance⟩ := accounts.balance
  refine ⟨answers ++ answered, ?_, ?_, ?_⟩
  · rw [List.nodup_append]
    refine ⟨distinct, nodup, ?_⟩
    rintro answer new _ old rfl
    exact ((members answer).mp new).2 ((due answer).mp old)
  · intro answer
    rw [List.mem_append, members, due]
    constructor
    · rintro (⟨made, _⟩ | known)
      · exact made
      · exact known.mono (Set.subset_insert _ _)
    · intro made
      by_cases known : Due engine.strategy {other | other ∈ history.handled} answer
      · exact Or.inr known
      · exact Or.inl ⟨made, known⟩
  · rw [waiting] at balance
    rw [← Multiset.coe_add]
    calc (rest + (answers + engine.reply false message) : Multiset (Message S F M)) +
          ({message} + history.handled)
        = {message} + rest + history.handled + (answers + engine.reply false message) := by abel
      _ = history.sent + answered + history.handled.flatMap (engine.reply false) +
            (answers + engine.reply false message) := by rw [balance]
      _ = history.sent + (answers + answered) +
            (engine.reply false message + history.handled.flatMap (engine.reply false)) := by abel

/-- Whatever is pending or handled was sent, is due, or is part of a reply. -/
theorem Accounts.mem_iff (accounts : engine.Accounts history) (message : Message S F M) :
    message ∈ history.pending ∨ message ∈ history.handled ↔
      message ∈ history.sent ∨ Due engine.strategy {other | other ∈ history.handled} message ∨
        ∃ other ∈ history.handled, message ∈ engine.reply false other := by
  obtain ⟨answered, _, due, balance⟩ := accounts.balance
  have members := congrArg (message ∈ ·) balance
  simp only [Multiset.mem_add, Multiset.mem_coe, List.mem_flatMap, due, eq_iff_iff, or_assoc] at members
  exact members

theorem Accounts.mem_handled_iff (accounts : engine.Accounts history)
    (finished : history.pending = []) (message : Message S F M) :
    message ∈ history.handled ↔
      message ∈ history.sent ∨ Due engine.strategy {other | other ∈ history.handled} message ∨
        ∃ other ∈ history.handled, message ∈ engine.reply false other := by
  rw [← accounts.mem_iff, finished]
  simp

section Finished

variable (accounts : engine.Accounts history) (finished : history.pending = [])
variable {message : Message S F M}

include accounts finished

theorem Accounts.mem_of_sent (sent : message ∈ history.sent) : message ∈ history.handled :=
  (accounts.mem_handled_iff finished message).mpr (Or.inl sent)

theorem Accounts.mem_of_due
    (due : Due engine.strategy {other | other ∈ history.handled} message) :
    message ∈ history.handled :=
  (accounts.mem_handled_iff finished message).mpr (Or.inr (Or.inl due))

theorem Accounts.mem_of_reply {other : Message S F M} (handled : other ∈ history.handled)
    (replied : message ∈ engine.reply false other) : message ∈ history.handled :=
  (accounts.mem_handled_iff finished message).mpr (Or.inr (Or.inr ⟨other, handled, replied⟩))

end Finished

variable [DecidableEq S] [DecidableEq F] [Shown S] [Shown F] [Shown M]

/-- Handles a message taken from the pending ones, of which `rest` are left. -/
def take (engine : Engine S F M) (state : EngineState S F M) (rest : List (Place × Message S F M))
    (place : Place) (message : Message S F M) : EngineState S F M :=
  let (next, sent) := engine.handle { state with pending := rest } place message
  { next with pending := rest ++ sent }

theorem storeOf_take (engine : Engine S F M) {state : EngineState S F M}
    (running : state.halted = false)
    (rest : List (Place × Message S F M)) (place : Place) (message : Message S F M)
    (chunk runner : String) :
    (engine.take state rest place message).storeOf chunk runner =
      if message.isOwnedBy engine.strategy chunk runner = true then
        ((state.storeOf chunk runner).react message).1
      else state.storeOf chunk runner :=
  (engine.handle_effect { state with pending := rest } running place message).stores chunk runner

theorem step_eq_take (engine : Engine S F M) {state : EngineState S F M}
    {rest : List (Place × Message S F M)} {place : Place} {message : Message S F M}
    (first : state.pending = (place, message) :: rest) :
    engine.step state = engine.take state rest place message := by
  unfold step take
  rw [first]

/-- One move of a run: a message is sent from outside, or some pending message is handled. -/
inductive Move (engine : Engine S F M) : History S F M → History S F M → Prop
  | send {history : History S F M} {message : Message S F M} {next : EngineState S F M}
      (accepted : Engine.send history.state message = .ok next) :
      Move engine history ⟨message :: history.sent, history.handled, next⟩
  | handle {history : History S F M} {before after : List (Place × Message S F M)} {place : Place}
      {message : Message S F M}
      (waiting : history.state.pending = before ++ (place, message) :: after) :
      Move engine history ⟨history.sent, message :: history.handled,
        engine.take history.state (before ++ after) place message⟩

/-- Some run from the beginning has this history. -/
def Reaches (engine : Engine S F M) (log : Log) (history : History S F M) : Prop :=
  Relation.ReflTransGen engine.Move (.initial log) history

private theorem Accounts.mem_answers_iff (accounts : engine.Accounts history)
    (state : EngineState S F M)
    (stores : ∀ chunk runner, state.storeOf chunk runner = history.state.storeOf chunk runner)
    (message answer : Message S F M) :
    answer ∈ engine.answers state message ↔
      Due engine.strategy (insert message {other | other ∈ history.handled}) answer ∧
        ¬Due engine.strategy {other | other ∈ history.handled} answer := by
  unfold answers
  split
  · rename_i chunk found
    have owned : message.isOwnedBy engine.strategy chunk message.runner = true := by
      simp [Message.isOwnedBy, found]
    have owner := accounts.owner chunk message.runner
    have before := accounts.records chunk message.runner
    have after := before.react message
    rw [← ownedIn_insert_of_owned owned] at after
    rw [stores, Store.mem_react_answers]
    generalize history.state.storeOf chunk message.runner = store at owner before after
    rw [← owner] at before
    rw [← owner, ← store.react_runner message] at after
    rw [after.entails_iff, before.entails_iff, store.react_runner, owner]
    constructor
    · rintro ⟨⟨origin, due⟩, old⟩
      exact ⟨due, fun known => old ⟨origin, known⟩⟩
    · rintro ⟨due, new⟩
      obtain ⟨place, runner, origin, mine⟩ := isOwnedBy_origin due new
      have same : (place, runner) = (chunk, message.runner) := by
        simp only [Message.isOwnedBy, found, Bool.and_eq_true, beq_iff_eq, Option.some.injEq] at mine
        exact Prod.ext mine.1.symm mine.2.symm
      exact ⟨⟨origin.trans (congrArg some same), due⟩, fun old => new old.2⟩
  · rename_i found
    constructor
    · intro member
      cases member
    · rintro ⟨due, new⟩
      obtain ⟨place, runner, _, mine⟩ := isOwnedBy_origin due new
      simp [Message.isOwnedBy, found] at mine

theorem Accounts.take (accounts : engine.Accounts history)
    {before after : List (Place × Message S F M)} {place : Place} {message : Message S F M}
    (waiting : history.state.pending = before ++ (place, message) :: after) :
    engine.Accounts ⟨history.sent, message :: history.handled,
      engine.take history.state (before ++ after) place message⟩ := by
  have effect := engine.handle_effect { history.state with pending := before ++ after }
    accounts.running place message
  have members := accounts.mem_answers_iff { history.state with pending := before ++ after }
    (fun _ _ => rfl) message
  have distinct : (engine.answers { history.state with pending := before ++ after } message).Nodup := by
    unfold answers
    split
    · exact (accounts.records _ _).nodup_react_answers message
    · exact List.nodup_nil
  unfold Engine.take
  generalize engine.handle { history.state with pending := before ++ after } place message = result
    at effect ⊢
  obtain ⟨next, sent⟩ := result
  refine ⟨effect.keeps.halted.trans accounts.running, effect.keeps.closed.trans accounts.opened,
    effect.keeps.barrierOpen.trans accounts.barrier, effect.keeps.announced accounts.announced,
    fun prompt => (effect.held (prompt message)).trans (accounts.held prompt), ?_, ?_, ?_⟩
  · intro chunk runner
    change (next.storeOf chunk runner).runner = runner
    rw [effect.stores]
    split
    · rw [Store.react_runner]
      exact accounts.owner chunk runner
    · exact accounts.owner chunk runner
  · intro chunk runner
    change (next.storeOf chunk runner).Records _
    rw [effect.stores, setOf_mem_cons]
    split
    · rename_i owned
      rw [ownedIn_insert_of_owned owned]
      exact (accounts.records chunk runner).react message
    · rename_i foreign
      rw [ownedIn_insert_of_not_owned foreign]
      exact accounts.records chunk runner
  · have split : (history.pending : Multiset (Message S F M)) =
        {message} + ((before ++ after).map Prod.snd : List (Message S F M)) := by
      unfold History.pending
      rw [waiting, Multiset.singleton_add, Multiset.cons_coe, Multiset.coe_eq_coe]
      exact List.perm_middle.map Prod.snd
    have sends := effect.sent
    rw [show ({ history.state with pending := before ++ after } : EngineState S F M).barrierOpen =
      false from accounts.barrier] at sends
    obtain ⟨answered, nodup, due, balance⟩ := accounts.balance_take split distinct members
    refine ⟨answered, nodup, ?_, ?_⟩
    · rw [setOf_mem_cons]
      exact due
    · unfold History.pending
      rw [List.map_append, sends, ← Multiset.cons_coe, ← Multiset.singleton_add,
        ← Multiset.coe_add, ← Multiset.coe_add, List.flatMap_cons, ← Multiset.coe_add]
      exact balance

theorem Reaches.accounts {log : Log} (reaches : engine.Reaches log history) :
    engine.Accounts history := by
  induction reaches with
  | refl => exact engine.accounts_initial log
  | tail _ move ih =>
      cases move with
      | send accepted => exact ih.send accepted
      | handle waiting => exact ih.take waiting

/-- A property that passes from what was sent, through stores, analyzers and resolvers, holds of
everything that is ever handled. -/
theorem Reaches.forall_handled {log : Log} (reaches : engine.Reaches log history)
    {property : Message S F M → Prop} (sent : ∀ message ∈ history.sent, property message)
    (due : ∀ handled : Set (Message S F M), (∀ message ∈ handled, property message) →
      ∀ answer, Due engine.strategy handled answer → property answer)
    (replied : ∀ message, property message →
      ∀ other ∈ engine.reply false message, property other) :
    ∀ message ∈ history.handled, property message := by
  induction reaches with
  | refl => intro message member; cases member
  | tail before move ih =>
      cases move with
      | send accepted =>
          exact ih fun message member => sent message (List.mem_cons_of_mem _ member)
      | handle waiting =>
          have known := ih sent
          intro message member
          rcases List.mem_cons.mp member with same | old
          · subst same
            rcases ((Reaches.accounts before).mem_iff message).mp
                (Or.inl (History.mem_pending waiting)) with
              origin | origin | ⟨other, member, origin⟩
            · exact sent message origin
            · exact due _ known message origin
            · exact replied other (known other member) message origin
          · exact known message old

/-! ### The order of the engine itself -/

/-- A run in the order of the engine handles all pending messages, unless there are too many of them. -/
theorem Reaches.run {log : Log} (reaches : engine.Reaches log history) (limit : Nat) :
    ∃ handled, engine.Reaches log ⟨history.sent, handled, engine.run limit history.state⟩ ∧
      handled.length ≤ history.handled.length + limit ∧
      ((engine.run limit history.state).pending ≠ [] →
        handled.length = history.handled.length + limit) := by
  induction limit generalizing history with
  | zero => exact ⟨history.handled, reaches, le_refl _, fun _ => rfl⟩
  | succ limit ih =>
      unfold Engine.run
      cases waiting : history.state.pending with
      | nil =>
          refine ⟨history.handled, reaches, Nat.le_add_right _ _, fun more => ?_⟩
          exact absurd waiting more
      | cons first rest =>
          obtain ⟨place, message⟩ := first
          have oldest : history.state.pending = [] ++ (place, message) :: rest := waiting
          have taken : engine.Reaches log ⟨history.sent, message :: history.handled,
              engine.take history.state rest place message⟩ :=
            Relation.ReflTransGen.tail reaches (Move.handle oldest)
          obtain ⟨handled, reached, bound, exact⟩ := ih taken
          rw [List.length_cons] at bound exact
          rw [engine.step_eq_take waiting]
          refine ⟨handled, reached, ?_, fun more => ?_⟩
          · omega
          · have total := exact more
            omega

theorem Reaches.sendAll {log : Log} (reaches : engine.Reaches log history)
    (messages : List (Message S F M)) :
    engine.Reaches log ⟨messages.reverse ++ history.sent, history.handled,
      { history.state with
        pending := history.state.pending ++ messages.map (Place.project, ·) }⟩ := by
  induction messages generalizing history with
  | nil => simpa using reaches
  | cons message rest ih =>
      have opened := (Reaches.accounts reaches).opened
      have accepted : Engine.send history.state message =
          .ok { history.state with
            pending := history.state.pending ++ [(Place.project, message)] } := by
        unfold Engine.send
        exact if_neg (ne_true_of_eq_false opened)
      have more := ih (Relation.ReflTransGen.tail reaches (Move.send accepted))
      simpa using more

end Engine

/-! ### A small program -/

namespace Sample

/-- A caller with a call and its return site, and a callee with one statement. -/
def graph : FlowGraph String String where
  methodOf s := if s = "body" then "callee" else "caller"
  successors s := if s = "call" then ["return"] else []
  entries method := if method = "callee" then ["body"] else ["call"]
  exits method := if method = "callee" then ["body"] else ["return"]
  isCall s := s == "call"

/-- Facts pass through the callee, and what comes back is a finding. -/
def rules : Rules String String String where
  runner := "sample"
  graph
  flow :=
    { sequent _ _ fact := [fact]
      call _ _ fact := [.toCallees fact, .ignored]
      callToStart _ _ fact := [fact]
      exitToReturn _ _ _ fact := [fact] }
  startFacts _ := ["fact"]
  onNewEdge edge :=
    if edge.target.statement = "return" then
      [.newFinding "sample" ⟨edge.target, "reach", "the fact comes back"⟩]
    else []

def dispatch : Dispatch String String where
  callSite s := if s = "call" then some { callees := ["callee"] } else none
  overrides _ := []
  declaringType _ := ""
  isSubtype _ _ := false

def engine (strategy : String → String) : Engine String String String where
  name := "sample"
  registry := { analyzers := [("sample", rules.analyzer)], resolver := some dispatch.indirection }
  strategy
  graph
  runner := "sample"
  patience := 100

def log : Log := { level := 0 }

def seed : Message String String String := .newEdge "sample" (.loop ⟨"call", "fact"⟩) .initial

private def seeded : EngineState String String String :=
  { Engine.initial log with pending := [(Place.project, seed)] }

private theorem finishes_of_run {strategy : String → String}
    (empty : ((engine strategy).run 100 seeded).pending = []) :
    ∃ history, (engine strategy).Reaches log history ∧ history.pending = [] ∧
      history.sent = [seed] := by
  have sent : (engine strategy).Reaches log ⟨[seed], [], seeded⟩ :=
    Engine.Reaches.sendAll Relation.ReflTransGen.refl [seed]
  obtain ⟨handled, reaches, _⟩ := sent.run 100
  refine ⟨_, reaches, ?_, rfl⟩
  unfold History.pending
  rw [empty, List.map_nil]

theorem finishes_by_method : ∃ history, (engine graph.methodOf).Reaches log history ∧
    history.pending = [] ∧ history.sent = [seed] :=
  finishes_of_run (by decide)

theorem finishes_together : ∃ history, (engine fun _ => "all").Reaches log history ∧
    history.pending = [] ∧ history.sent = [seed] :=
  finishes_of_run (by decide)

end Sample

end Tabulation
