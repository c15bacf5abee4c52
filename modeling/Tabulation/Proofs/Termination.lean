/-
Every run comes to an end if the rules stay among finitely many statements and facts.

A store announces an edge once and gives a notice once, so only finitely many answers are ever
due.  All other messages are replies, and a reply calls for fewer replies than the message it
replies to.  So each message has a cost, the number of messages that come of it, and a run
handles no more than what the messages from outside and the answers cost together.
-/

import Mathlib.Algebra.BigOperators.Group.List.Lemmas
import Mathlib.Algebra.Order.BigOperators.Group.Finset
import Mathlib.Data.Finite.Prod
import Mathlib.Data.Set.Finite.Lattice
import Tabulation.Proofs.Confluence
import Tabulation.Proofs.LeastSolution

namespace Tabulation

variable {S F M : Type}

/-- How many replies may follow a message one after the other. -/
def Message.rank : Message S F M → ℕ
  | .edgeAdded .. => 3
  | .unresolvedCall .. => 2
  | .resolvedCall .. | .startNotice .. | .endNotice .. => 1
  | _ => 0

namespace Engine

/-! ### What a message costs -/

/-- How many messages come of one, if at most `depth` replies follow each other. -/
def cost (engine : Engine S F M) : (depth : ℕ) → Message S F M → ℕ
  | 0, _ => 1
  | depth + 1, message => 1 + ((engine.reply false message).map (engine.cost depth)).sum

/-- Replies have the property and call for fewer replies. -/
def Descends (engine : Engine S F M) (property : Message S F M → Prop) : Prop :=
  ∀ message, property message →
    ∀ other ∈ engine.reply false message, property other ∧ other.rank < message.rank

variable {engine : Engine S F M} {property : Message S F M → Prop}

theorem Descends.cost_succ (descends : engine.Descends property) (depth : ℕ)
    (message : Message S F M) (has : property message) (bound : message.rank ≤ depth) :
    engine.cost (depth + 1) message = engine.cost depth message := by
  induction depth generalizing message with
  | zero =>
      have silent : engine.reply false message = [] := by
        rw [List.eq_nil_iff_forall_not_mem]
        intro other sent
        have lower := (descends message has other sent).2
        omega
      simp only [cost, silent, List.map_nil, List.sum_nil, Nat.add_zero]
  | succ depth ih =>
      have same : (engine.reply false message).map (engine.cost (depth + 1)) =
          (engine.reply false message).map (engine.cost depth) := by
        apply List.map_congr_left
        intro other sent
        obtain ⟨otherHas, lower⟩ := descends message has other sent
        exact ih other otherHas (by omega)
      calc engine.cost (depth + 1 + 1) message
          = 1 + ((engine.reply false message).map (engine.cost (depth + 1))).sum := rfl
        _ = 1 + ((engine.reply false message).map (engine.cost depth)).sum := by rw [same]
        _ = engine.cost (depth + 1) message := rfl

theorem rank_le (message : Message S F M) : message.rank ≤ 3 := by
  cases message <;> simp [Message.rank]

theorem Descends.cost_eq (descends : engine.Descends property) (message : Message S F M)
    (has : property message) :
    engine.cost 3 message = 1 + ((engine.reply false message).map (engine.cost 3)).sum :=
  (descends.cost_succ 3 message has (rank_le message)).symm

private theorem Descends.sum_replies (descends : engine.Descends property)
    (messages : List (Message S F M)) (all : ∀ message ∈ messages, property message) :
    ((messages.flatMap (engine.reply false)).map (engine.cost 3)).sum + messages.length =
      (messages.map (engine.cost 3)).sum := by
  induction messages with
  | nil => rfl
  | cons message rest ih =>
      have later := ih fun other member => all other (List.mem_cons_of_mem _ member)
      have here := descends.cost_eq message (all message List.mem_cons_self)
      rw [List.flatMap_cons, List.map_append, List.sum_append, List.length_cons, List.map_cons,
        List.sum_cons, here, ← later]
      omega

variable {history : History S F M}

/-- What was handled and what the pending messages cost is what the messages from outside and
the answers cost. -/
theorem Accounts.cost_balance (accounts : engine.Accounts history)
    (descends : engine.Descends property)
    (handled : ∀ message ∈ history.handled, property message) :
    ∃ answered : List (Message S F M), answered.Nodup ∧
      (∀ answer ∈ answered, Due engine.strategy {message | message ∈ history.handled} answer) ∧
      (history.pending.map (engine.cost 3)).sum + history.handled.length =
        (history.sent.map (engine.cost 3)).sum + (answered.map (engine.cost 3)).sum := by
  obtain ⟨answered, nodup, due, balance⟩ := accounts.balance
  refine ⟨answered, nodup, fun answer member => (due answer).mp member, ?_⟩
  have total := congrArg (fun messages => (messages.map (engine.cost 3)).sum) balance
  simp only [Multiset.map_add, Multiset.sum_add, Multiset.map_coe, Multiset.sum_coe] at total
  have replies := descends.sum_replies history.handled handled
  omega

private theorem sum_map_le_of_subset {α : Type} {items : List α} (nodup : items.Nodup)
    {bounds : Set α} (finite : bounds.Finite) (within : ∀ item ∈ items, item ∈ bounds)
    (weight : α → ℕ) : (items.map weight).sum ≤ ∑ item ∈ finite.toFinset, weight item := by
  classical
  rw [← List.sum_toFinset weight nodup]
  apply Finset.sum_le_sum_of_subset
  intro item member
  exact finite.mem_toFinset.mpr (within item (List.mem_toFinset.mp member))

end Engine

/-! ### Rules that stay among some statements and facts -/

/-- From some statements and facts the rules lead to these only. -/
structure Rules.StaysWithin [DecidableEq M] (rules : Rules S F M) (dispatch : Dispatch S M)
    (statements : Set S) (facts : Set F) : Prop where
  successor : ∀ s ∈ statements, ∀ next ∈ rules.graph.successors s, next ∈ statements
  entry : ∀ s ∈ statements, ∀ callee ∈ (dispatch.resolve s).methods,
    ∀ start ∈ rules.graph.entries callee, start ∈ statements
  sequent : ∀ s ∈ statements, ∀ next ∈ rules.graph.successors s, ∀ fact ∈ facts,
    ∀ found ∈ rules.flow.sequent s next fact, found ∈ facts
  toReturn : ∀ s ∈ statements, ∀ next ∈ rules.graph.successors s, ∀ fact ∈ facts, ∀ found,
    .toReturn found ∈ rules.flow.call s next fact → found ∈ facts
  toCallees : ∀ s ∈ statements, ∀ next ∈ rules.graph.successors s, ∀ fact ∈ facts, ∀ passed,
    .toCallees passed ∈ rules.flow.call s next fact → passed ∈ facts
  callToStart : ∀ s ∈ statements, ∀ callee ∈ (dispatch.resolve s).methods,
    ∀ start ∈ rules.graph.entries callee, ∀ fact ∈ facts,
    ∀ found ∈ rules.flow.callToStart s start fact, found ∈ facts
  exitToReturn : ∀ s ∈ statements, ∀ next ∈ rules.graph.successors s, ∀ exit ∈ statements,
    ∀ fact ∈ facts, ∀ found ∈ rules.flow.exitToReturn s next exit fact, found ∈ facts

def Vertex.IsAmong (vertex : Vertex S F) (statements : Set S) (facts : Set F) : Prop :=
  vertex.statement ∈ statements ∧ vertex.fact ∈ facts

def Edge.IsAmong (edge : Edge S F) (statements : Set S) (facts : Set F) : Prop :=
  edge.source.IsAmong statements facts ∧ edge.target.IsAmong statements facts

theorem Edge.finite_isAmong {statements : Set S} {facts : Set F} (finite : statements.Finite)
    (factsFinite : facts.Finite) : {edge : Edge S F | edge.IsAmong statements facts}.Finite := by
  have vertices : {vertex : Vertex S F | vertex.IsAmong statements facts}.Finite := by
    apply (finite.image2 Vertex.mk factsFinite).subset
    intro vertex member
    exact ⟨vertex.statement, member.1, vertex.fact, member.2, rfl⟩
  apply (vertices.image2 Edge.mk vertices).subset
  intro edge member
  exact ⟨edge.source, member.1, edge.target, member.2, rfl⟩

section Domain

variable [DecidableEq M] {rules : Rules S F M} {dispatch : Dispatch S M}
variable {statements : Set S} {facts : Set F} {runners : Set String}

namespace Rules.StaysWithin

variable (stays : rules.StaysWithin dispatch statements facts)
variable {vertex next : Vertex S F} {passed : F}

include stays

theorem bypasses (among : vertex.IsAmong statements facts)
    (bypasses : rules.Bypasses vertex next) : next.IsAmong statements facts := by
  obtain ⟨_, successor, flow⟩ := bypasses
  exact ⟨stays.successor _ among.1 _ successor,
    stays.toReturn _ among.1 _ successor _ among.2 _ flow⟩

theorem passes (among : vertex.IsAmong statements facts) (passes : rules.Passes vertex passed) :
    passed ∈ facts := by
  obtain ⟨_, next, successor, flow⟩ := passes
  exact stays.toCallees _ among.1 _ successor _ among.2 _ flow

theorem starts {call : S} {callee : M} {start : Vertex S F} (place : call ∈ statements)
    (fact : passed ∈ facts) (resolved : callee ∈ (dispatch.resolve call).methods)
    (starts : rules.Starts call passed callee start) : start.IsAmong statements facts := by
  obtain ⟨isEntry, flow⟩ := starts
  exact ⟨stays.entry _ place _ resolved _ isEntry,
    stays.callToStart _ place _ resolved _ isEntry _ fact _ flow⟩

theorem reenters {call : S} {exit : Vertex S F} (place : call ∈ statements)
    (among : exit.IsAmong statements facts) (reenters : rules.Reenters call exit next) :
    next.IsAmong statements facts := by
  obtain ⟨successor, flow⟩ := reenters
  exact ⟨stays.successor _ place _ successor,
    stays.exitToReturn _ place _ successor _ among.1 _ among.2 _ flow⟩

theorem flows [DecidableEq S] (among : vertex.IsAmong statements facts)
    (flows : rules.Flows vertex next) : next.IsAmong statements facts := by
  obtain ⟨_, _, successor, flow⟩ := flows
  exact ⟨stays.successor _ among.1 _ successor,
    stays.sequent _ among.1 _ successor _ among.2 _ flow⟩

end Rules.StaysWithin

/-- A message of a run that stays among some statements and facts. -/
def Rules.Admits (rules : Rules S F M) (dispatch : Dispatch S M) (statements : Set S)
    (facts : Set F) (runners : Set String) : Message S F M → Prop
  | .newEdge runner edge _ => runner ∈ runners ∧ edge.IsAmong statements facts
  | .edgeAdded runner edge => runner ∈ runners ∧ edge.IsAmong statements facts
  | .newSummary runner edge => runner = rules.runner ∧ edge.IsAmong statements facts
  | .newFinding .. => True
  | .subscribeStart runner _ subscriber edge =>
      runner = rules.runner ∧ subscriber = rules.runner ∧ edge.IsAmong statements facts
  | .unresolvedCall _ edge => edge.IsAmong statements facts
  | .resolvedCall _ edge callee => edge.IsAmong statements facts ∧
      callee ∈ (dispatch.resolve edge.target.statement).methods
  | .startNotice subscriber author summary edge =>
      subscriber = rules.runner ∧ author = rules.runner ∧
        summary.IsAmong statements facts ∧ edge.IsAmong statements facts
  | _ => False

private theorem Rules.admits_due {strategy : S → String} {handled : Set (Message S F M)}
    (admitted : ∀ message ∈ handled, rules.Admits dispatch statements facts runners message)
    (answer : Message S F M) (due : Due strategy handled answer) :
    rules.Admits dispatch statements facts runners answer := by
  cases answer with
  | edgeAdded runner edge =>
      obtain ⟨reason, member⟩ := due
      have known := admitted _ member
      exact known
  | startNotice subscriber author summary edge =>
      obtain ⟨subscribed, summarized⟩ := due
      obtain ⟨author, subscriber, edgeAmong⟩ := admitted _ subscribed
      exact ⟨subscriber, author, (admitted _ summarized).2, edgeAmong⟩
  | endNotice subscriber author summary edge => exact absurd (admitted _ due.1) id
  | _ => exact absurd due id

private theorem Rules.finite_due (finite : statements.Finite) (factsFinite : facts.Finite)
    (runnersFinite : runners.Finite) {strategy : S → String} :
    {answer : Message S F M | rules.Admits dispatch statements facts runners answer ∧
      ∃ handled, Due strategy handled answer}.Finite := by
  have edges := Edge.finite_isAmong finite factsFinite
  have announced := runnersFinite.image2 (Message.edgeAdded (M := M)) edges
  have noticed := edges.image2 (Message.startNotice (M := M) rules.runner rules.runner) edges
  apply (announced.union noticed).subset
  rintro answer ⟨admitted, handled, due⟩
  cases answer with
  | edgeAdded runner edge => exact Or.inl ⟨runner, admitted.1, edge, admitted.2, rfl⟩
  | startNotice subscriber author summary edge =>
      obtain ⟨rfl, rfl, summaryAmong, edgeAmong⟩ := admitted
      exact Or.inr ⟨summary, summaryAmong, edge, edgeAmong, rfl⟩
  | endNotice => exact absurd admitted id
  | _ => exact absurd due id

variable [DecidableEq S] [DecidableEq F] [Inhabited S] [Inhabited F]
variable [Shown S] [Shown F] [Shown M] {engine : Engine S F M}

private theorem Rules.StaysWithin.descends (stays : rules.StaysWithin dispatch statements facts)
    (follows : engine.Follows rules dispatch) (hook : rules.OnlyFindings)
    (own : rules.runner ∈ runners) :
    engine.Descends (rules.Admits dispatch statements facts runners) := by
  intro message admitted other sent
  cases message with
  | edgeAdded runner edge =>
      have same : runner = rules.runner := follows.runner_eq_of_reply rfl sent
      subst same
      obtain ⟨_, source, target⟩ := admitted
      rw [follows.reply_edgeAdded, rules.mem_edgeStep] at sent
      rcases sent with ⟨exit, rfl⟩ | hooked | ⟨next, flows, rfl⟩ |
        ⟨next, bypasses, rfl⟩ | ⟨passed, passes, rfl⟩
      · exact ⟨⟨rfl, source, target⟩, by simp [Message.rank]⟩
      · obtain ⟨runner, finding, rfl⟩ := hook edge other hooked
        exact ⟨trivial, by simp [Message.rank]⟩
      · exact ⟨⟨own, source, stays.flows target flows⟩, by simp [Message.rank]⟩
      · exact ⟨⟨own, source, stays.bypasses target bypasses⟩, by simp [Message.rank]⟩
      · exact ⟨⟨source, target.1, stays.passes target passes⟩, by simp [Message.rank]⟩
  | unresolvedCall runner edge =>
      obtain ⟨callee, resolved, rfl⟩ := follows.isResolved_of_reply sent
      exact ⟨⟨admitted, resolved⟩, by simp [Message.rank]⟩
  | resolvedCall runner edge callee =>
      have same : runner = rules.runner := follows.runner_eq_of_reply rfl sent
      subst same
      obtain ⟨⟨source, target⟩, resolved⟩ := admitted
      rw [follows.reply_resolvedCall, rules.mem_calleeStep] at sent
      obtain ⟨start, starts, rfl | rfl⟩ := sent
      · exact ⟨⟨rfl, rfl, source, target⟩, by simp [Message.rank]⟩
      · have among := stays.starts target.1 target.2 resolved starts
        exact ⟨⟨own, among, among⟩, by simp [Message.rank]⟩
  | startNotice runner author summary edge =>
      have same : runner = rules.runner := follows.runner_eq_of_reply rfl sent
      subst same
      obtain ⟨_, _, ⟨_, exit⟩, source, target⟩ := admitted
      rw [follows.reply_startNotice, rules.mem_returnStep] at sent
      obtain ⟨next, reenters, rfl⟩ := sent
      exact ⟨⟨own, source, stays.reenters target.1 exit reenters⟩, by simp [Message.rank]⟩
  | endNotice => exact absurd admitted id
  | _ => cases sent

end Domain

/-! ### Runs come to an end -/

section Ends

variable [DecidableEq S] [DecidableEq F] [Shown S] [Shown F] [Shown M]

/-- With these messages from outside, each sent at any moment and not more often than listed, no
run goes on for ever, and after every run the pending messages can be handled to the end. -/
structure Engine.Quiesces (engine : Engine S F M) (seeds : List (Message S F M)) : Prop where
  noInfiniteRun : ∀ (log : Log) (run : ℕ → History S F M), run 0 = .initial log →
    (∀ n, engine.Move (run n) (run (n + 1))) → ¬∀ n, (run n).sent.Subperm seeds
  comesToEnd : ∀ (log : Log) (history : History S F M), engine.Reaches log history →
    history.sent.Subperm seeds → ∃ steps, (engine.run steps history.state).pending = []

variable {engine : Engine S F M} {seeds : List (Message S F M)}

theorem Engine.Quiesces.of_bound (bound : ℕ)
    (bounded : ∀ (log : Log) (history : History S F M), engine.Reaches log history →
      history.sent.Subperm seeds → history.handled.length ≤ bound) :
    engine.Quiesces seeds where
  noInfiniteRun := by
    intro log run begins moves within
    let steps := seeds.length + bound + 1
    have handled := bounded log _ (reaches_of_moves begins moves steps) (within steps)
    have sent := (within steps).length_le
    have total := length_of_moves moves steps
    rw [begins] at total
    simp only [History.initial, List.length_nil] at total
    omega
  comesToEnd := by
    intro log history reaches within
    obtain ⟨handled, later, _, exact⟩ := reaches.run (bound + 1)
    refine ⟨bound + 1, ?_⟩
    by_contra more
    have length := exact more
    have limit := bounded log _ later within
    change handled.length ≤ bound at limit
    omega

variable [DecidableEq M] [Inhabited S] [Inhabited F] {rules : Rules S F M}
variable {dispatch : Dispatch S M} {statements : Set S} {facts : Set F}

theorem Rules.StaysWithin.quiesces (stays : rules.StaysWithin dispatch statements facts)
    (finite : statements.Finite) (factsFinite : facts.Finite)
    (follows : engine.Follows rules dispatch) (hook : rules.OnlyFindings)
    (seeded : ∀ message ∈ seeds, ∃ runner edge reason,
      message = .newEdge runner edge reason ∧ edge.IsAmong statements facts) :
    engine.Quiesces seeds := by
  let runners : Set String := {rules.runner} ∪ {runner | runner ∈ seeds.map Message.runner}
  have runnersFinite : runners.Finite :=
    (Set.finite_singleton _).union (List.finite_toSet _)
  have descends : engine.Descends (rules.Admits dispatch statements facts runners) :=
    stays.descends follows hook (Or.inl rfl)
  have dueFinite : {answer : Message S F M |
      rules.Admits dispatch statements facts runners answer ∧
        ∃ handled, Due engine.strategy handled answer}.Finite :=
    Rules.finite_due finite factsFinite runnersFinite
  refine .of_bound ((seeds.map (engine.cost 3)).sum +
    ∑ answer ∈ dueFinite.toFinset, engine.cost 3 answer) fun log history reaches within => ?_
  have sentAdmitted : ∀ message ∈ history.sent,
      rules.Admits dispatch statements facts runners message := by
    intro message member
    have isSeed := within.subset member
    obtain ⟨runner, edge, reason, rfl, among⟩ := seeded message isSeed
    exact ⟨Or.inr (List.mem_map.mpr ⟨_, isSeed, rfl⟩), among⟩
  have admitted := Engine.Reaches.forall_handled reaches sentAdmitted
    (fun handled known answer due => Rules.admits_due known answer due)
    (fun message known other sent => (descends message known other sent).1)
  obtain ⟨answered, nodup, due, balance⟩ :=
    (Engine.Reaches.accounts reaches).cost_balance descends admitted
  have answers := Engine.sum_map_le_of_subset nodup dueFinite
    (fun answer member =>
      ⟨Rules.admits_due admitted answer (due answer member), _, due answer member⟩)
    (engine.cost 3)
  have sent : (history.sent.map (engine.cost 3)).sum ≤ (seeds.map (engine.cost 3)).sum := by
    obtain ⟨part, perm, sublist⟩ := within
    rw [← (perm.map _).sum_eq]
    exact (sublist.map _).sum_le_sum fun _ _ => Nat.zero_le _
  omega

end Ends

end Tabulation
