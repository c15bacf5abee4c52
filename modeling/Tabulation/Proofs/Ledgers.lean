/-
What a ledger has recorded.

Every group of a ledger is determined by what the messages handled so far asked for.  So the groups
stay in agreement with each other, and a ledger gives the answers of a store that handled the same
messages.
-/

import Tabulation.Proofs.Grouping
import Tabulation.Proofs.StoreHistory

namespace Tabulation

variable {S F M : Type}

/-- What messages ask a store to record. -/
@[ext] structure Requests (S F : Type) where
  reasons : Edge S F → Reason S F → Prop
  summaries : Edge S F → Prop
  onStart : Vertex S F → String × Edge S F → Prop
  onEnd : Vertex S F → String × Edge S F → Prop
  findings : Finding S F → Prop

namespace Requests

/-- Whoever sent the messages, they ask for the same. -/
def of (messages : Set (Message S F M)) : Requests S F where
  reasons := fun edge reason => ∃ sender, .newEdge sender edge reason ∈ messages
  summaries := fun edge => ∃ sender, .newSummary sender edge ∈ messages
  onStart := fun vertex wish => ∃ sender, .subscribeStart sender vertex wish.1 wish.2 ∈ messages
  onEnd := fun vertex wish => ∃ sender, .subscribeEnd sender vertex wish.1 wish.2 ∈ messages
  findings := fun finding => ∃ sender, .newFinding sender finding ∈ messages

/-- The edges with a reason. -/
def edges (requests : Requests S F) (edge : Edge S F) : Prop :=
  ∃ reason, requests.reasons edge reason

/-- What is asked for with one more message. -/
def join (requests : Requests S F) : Message S F M → Requests S F
  | .newEdge _ edge reason =>
    { requests with
      reasons := fun other because =>
        requests.reasons other because ∨ (other = edge ∧ because = reason) }
  | .newSummary _ edge =>
    { requests with summaries := fun other => requests.summaries other ∨ other = edge }
  | .subscribeStart _ vertex subscriber edge =>
    { requests with
      onStart := fun other wish =>
        requests.onStart other wish ∨ (other = vertex ∧ wish = (subscriber, edge)) }
  | .subscribeEnd _ vertex subscriber edge =>
    { requests with
      onEnd := fun other wish =>
        requests.onEnd other wish ∨ (other = vertex ∧ wish = (subscriber, edge)) }
  | .newFinding _ finding =>
    { requests with findings := fun other => requests.findings other ∨ other = finding }
  | _ => requests

theorem of_insert (message : Message S F M) (messages : Set (Message S F M)) :
    of (insert message messages) = (of messages).join message := by
  cases message <;> ext <;>
    simp only [of, join, Set.mem_insert_iff, Message.newEdge.injEq, Message.newSummary.injEq,
      Message.newFinding.injEq, Message.subscribeStart.injEq, Message.subscribeEnd.injEq,
      reduceCtorEq, false_or, exists_or, exists_eq_left, or_comm, Prod.ext_iff]

end Requests

namespace Ledger

variable [DecidableEq S] [DecidableEq F]

/-- The content of a ledger is what was asked for, each item once and under its keys. -/
structure Records (ledger : Ledger S F) (requests : Requests S F) : Prop where
  reasons : ledger.reasons.Holds requests.reasons
  summaries : ∀ edge, edge ∈ ledger.summaries ↔ requests.summaries edge
  summariesByStart : ledger.summariesByStart.Holds fun vertex summary =>
    summary.source = vertex ∧ requests.summaries summary
  summariesByEnd : ledger.summariesByEnd.Holds fun vertex summary =>
    summary.target = vertex ∧ requests.summaries summary
  onStart : ledger.onStart.Holds requests.onStart
  onEnd : ledger.onEnd.Holds requests.onEnd
  findings : ∀ finding, finding ∈ ledger.findings ↔ requests.findings finding
  summariesNodup : ledger.summaries.Nodup
  findingsNodup : ledger.findings.Nodup

theorem records_empty (runner : String) :
    ({ runner } : Ledger S F).Records (.of (∅ : Set (Message S F M))) where
  reasons := Groups.Holds.empty.congr fun _ _ => by simp [Requests.of]
  summaries := by simp [Requests.of]
  summariesByStart := Groups.Holds.empty.congr fun _ _ => by simp [Requests.of]
  summariesByEnd := Groups.Holds.empty.congr fun _ _ => by simp [Requests.of]
  onStart := Groups.Holds.empty.congr fun _ _ => by simp [Requests.of]
  onEnd := Groups.Holds.empty.congr fun _ _ => by simp [Requests.of]
  findings := by simp [Requests.of]
  summariesNodup := List.nodup_nil
  findingsNodup := List.nodup_nil

/-! ### The ledger after each message -/

section Recording

variable {ledger : Ledger S F} {requests : Requests S F}

private theorem Records.addSummary (records : ledger.Records requests) (sender : String)
    (summary : Edge S F) :
    (ledger.addSummary (M := M) summary).1.Records
      (requests.join (.newSummary sender summary : Message S F M)) := by
  unfold Ledger.addSummary
  split
  · rename_i present
    have known := (records.summaries summary).mp (List.contains_iff_mem.mp present)
    have same : requests.join (.newSummary sender summary : Message S F M) = requests := by
      ext other
      case summaries => exact or_iff_left_of_imp fun equal => equal ▸ known
      all_goals rfl
    rwa [same]
  · rename_i absent
    have new : summary ∉ ledger.summaries := fun member =>
      absent (List.contains_iff_mem.mpr member)
    exact
      { records with
        summaries := fun other => by
          rw [List.mem_append, List.mem_singleton, records.summaries]
          rfl
        summariesByStart := (records.summariesByStart.add _ _).congr fun vertex other => by
          simp only [Requests.join]
          grind
        summariesByEnd := (records.summariesByEnd.add _ _).congr fun vertex other => by
          simp only [Requests.join]
          grind
        summariesNodup := List.nodup_append.mpr ⟨records.summariesNodup, List.nodup_singleton _,
          fun other member single here same =>
            new ((same.trans (List.mem_singleton.mp here)) ▸ member)⟩ }

private theorem subscribe_fst (wishes : Groups (Vertex S F) (String × Edge S F))
    (index : Groups (Vertex S F) (Edge S F)) (vertex : Vertex S F) (wish : String × Edge S F)
    (notice : String × Edge S F → Edge S F → Message S F M) :
    (subscribe wishes index vertex wish notice).1 = wishes.add vertex wish := by
  unfold subscribe
  by_cases present : (wishes.values vertex).contains wish
  · rw [if_pos present, Groups.add_of_mem (List.contains_iff_mem.mp present)]
  · rw [if_neg present]

variable [Shown S] [Shown F] [Shown M]

/-- What a ledger makes of any message. A message that is not for a store changes nothing. -/
def react (ledger : Ledger S F) (message : Message S F M) : Ledger S F × List (Message S F M) :=
  (ledger.handle message).toOption.getD (ledger, [])

theorem Records.react (records : ledger.Records requests) (message : Message S F M) :
    (ledger.react message).1.Records (requests.join message) := by
  cases message with
  | newEdge sender edge reason =>
      exact { records with reasons := records.reasons.add edge reason }
  | newSummary sender summary => exact records.addSummary sender summary
  | subscribeStart sender vertex subscriber edge =>
      have added := records.onStart.add vertex (subscriber, edge)
      rw [← subscribe_fst _ ledger.summariesByStart _ _ (ledger.startNotice (M := M))] at added
      exact { records with onStart := added }
  | subscribeEnd sender vertex subscriber edge =>
      have added := records.onEnd.add vertex (subscriber, edge)
      rw [← subscribe_fst _ ledger.summariesByEnd _ _ (ledger.endNotice (M := M))] at added
      exact { records with onEnd := added }
  | newFinding sender finding =>
      exact
        { records with
          findings := fun other => by
            refine (Store.mem_insertNew finding other ledger.findings).trans ?_
            rw [records.findings, or_comm]
            rfl
          findingsNodup := Store.nodup_insertNew _ records.findingsNodup }
  | _ => exact records

@[simp] theorem react_runner (ledger : Ledger S F) (message : Message S F M) :
    (ledger.react message).1.runner = ledger.runner := by
  cases message with
  | newSummary _ summary =>
      change (ledger.addSummary (M := M) summary).1.runner = ledger.runner
      unfold addSummary
      split <;> rfl
  | _ => rfl

end Recording

/-! ### The answers

A ledger and a store that recorded the same find the same wishes and summaries at a vertex. -/

section Answering

/-- Wishes found under a vertex are those that a search through all wishes finds. -/
private theorem perm_wishes {wishes : List (Subscription S F)} (nodup : wishes.Nodup)
    {groups : Groups (Vertex S F) (String × Edge S F)}
    {related : Vertex S F → String × Edge S F → Prop} (holds : groups.Holds related)
    (same : ∀ vertex subscriber edge,
      ⟨vertex, subscriber, edge⟩ ∈ wishes ↔ related vertex (subscriber, edge))
    (vertex : Vertex S F) :
    (groups.values vertex).Perm ((wishes.filter fun wish => wish.vertex == vertex).map
      fun wish => (wish.subscriber, wish.edge)) := by
  refine holds.perm_filter nodup ?_ ?_ vertex
  · rintro ⟨_, _, _⟩ ⟨_, _, _⟩ equal
    simpa using equal
  · rintro other ⟨subscriber, edge⟩
    rw [← same]
    constructor
    · intro member
      exact ⟨_, member, rfl⟩
    · rintro ⟨⟨_, _, _⟩, member, equal⟩
      cases equal
      exact member

/-- A new wish is told of the summaries that a search through all summaries finds. -/
private theorem perm_subscribe {wishes : Groups (Vertex S F) (String × Edge S F)}
    {related : Vertex S F → String × Edge S F → Prop} (asked : wishes.Holds related)
    {others : List (Subscription S F)}
    (sameWishes : ∀ vertex subscriber edge,
      ⟨vertex, subscriber, edge⟩ ∈ others ↔ related vertex (subscriber, edge))
    {index : Groups (Vertex S F) (Edge S F)} {found : Edge S F → Prop}
    {keyOf : Edge S F → Vertex S F}
    (indexed : index.Holds fun vertex summary => keyOf summary = vertex ∧ found summary)
    {summaries : List (Edge S F)} (nodup : summaries.Nodup)
    (sameSummaries : ∀ summary, summary ∈ summaries ↔ found summary) (wish : Subscription S F)
    (notice : String × Edge S F → Edge S F → Message S F M) :
    (subscribe wishes index wish.vertex (wish.subscriber, wish.edge) notice).2.Perm
      (if others.contains wish then []
        else (summaries.filter fun summary => keyOf summary == wish.vertex).map
          (notice (wish.subscriber, wish.edge))) := by
  have known : (wish.subscriber, wish.edge) ∈ wishes.values wish.vertex ↔ wish ∈ others := by
    rw [asked.mem_values, ← sameWishes]
  unfold subscribe
  by_cases old : wish ∈ others
  · rw [if_pos (List.contains_iff_mem.mpr (known.mpr old)),
      if_pos (List.contains_iff_mem.mpr old)]
  · rw [if_neg fun present => old (known.mp (List.contains_iff_mem.mp present)),
      if_neg fun present => old (List.contains_iff_mem.mp present)]
    exact (indexed.perm_filter_self nodup sameSummaries wish.vertex).map _

variable {ledger : Ledger S F} {store : Store S F} {handled : Set (Message S F M)}

private theorem perm_addEdge (records : ledger.Records (.of handled))
    (mirrored : store.Records handled) (owner : ledger.runner = store.runner) (edge : Edge S F)
    (reason : Reason S F) :
    (ledger.addEdge (M := M) edge reason).2.Perm (store.addEdge edge reason).2 := by
  have known : edge ∈ ledger.reasons.keys ↔ store.hasEdge edge = true := by
    rw [records.reasons.mem_keys, Store.hasEdge_iff]
    simp only [mirrored.reasons, Requests.of]
  unfold addEdge Store.addEdge
  by_cases old : store.hasEdge edge
  · rw [if_pos (List.contains_iff_mem.mpr (known.mpr old)), if_pos old]
  · rw [if_neg fun present => old (known.mp (List.contains_iff_mem.mp present)), if_neg old, owner]

private theorem perm_addSummary (records : ledger.Records (.of handled))
    (mirrored : store.Records handled) (owner : ledger.runner = store.runner)
    (summary : Edge S F) :
    (ledger.addSummary (M := M) summary).2.Perm (store.addSummary summary).2 := by
  have known : summary ∈ ledger.summaries ↔ summary ∈ store.summaries := by
    rw [records.summaries, mirrored.summaries]
    rfl
  unfold addSummary Store.addSummary
  by_cases old : summary ∈ store.summaries
  · rw [if_pos (List.contains_iff_mem.mpr (known.mpr old)),
      if_pos (List.contains_iff_mem.mpr old)]
  · rw [if_neg fun present => old (known.mp (List.contains_iff_mem.mp present)),
      if_neg fun present => old (List.contains_iff_mem.mp present)]
    have atStart := (perm_wishes mirrored.onStartNodup records.onStart mirrored.onStart
      summary.source).map (ledger.startNotice (M := M) · summary)
    have atEnd := (perm_wishes mirrored.onEndNodup records.onEnd mirrored.onEnd
      summary.target).map (ledger.endNotice (M := M) · summary)
    rw [List.map_map] at atStart atEnd
    refine (atStart.append atEnd).trans ?_
    unfold Function.comp startNotice endNotice
    rw [owner]
    rfl

private theorem perm_subscribeStart (records : ledger.Records (.of handled))
    (mirrored : store.Records handled) (owner : ledger.runner = store.runner)
    (wish : Subscription S F) :
    (subscribe ledger.onStart ledger.summariesByStart wish.vertex (wish.subscriber, wish.edge)
      (ledger.startNotice (M := M))).2.Perm (store.subscribeStart wish).2 := by
  refine (perm_subscribe records.onStart mirrored.onStart records.summariesByStart
    mirrored.summariesNodup mirrored.summaries wish _).trans ?_
  unfold Store.subscribeStart startNotice
  rw [owner]
  split <;> exact .refl _

private theorem perm_subscribeEnd (records : ledger.Records (.of handled))
    (mirrored : store.Records handled) (owner : ledger.runner = store.runner)
    (wish : Subscription S F) :
    (subscribe ledger.onEnd ledger.summariesByEnd wish.vertex (wish.subscriber, wish.edge)
      (ledger.endNotice (M := M))).2.Perm (store.subscribeEnd wish).2 := by
  refine (perm_subscribe records.onEnd mirrored.onEnd records.summariesByEnd
    mirrored.summariesNodup mirrored.summaries wish _).trans ?_
  unfold Store.subscribeEnd endNotice
  rw [owner]
  split <;> exact .refl _

variable [Shown S] [Shown F] [Shown M]

theorem Records.perm_answers (records : ledger.Records (.of handled))
    (mirrored : store.Records handled) (owner : ledger.runner = store.runner)
    (message : Message S F M) : (ledger.react message).2.Perm (store.react message).2 := by
  cases message with
  | newEdge _ edge reason => exact perm_addEdge records mirrored owner edge reason
  | newSummary _ summary => exact perm_addSummary records mirrored owner summary
  | subscribeStart _ vertex subscriber edge =>
      exact perm_subscribeStart records mirrored owner ⟨vertex, subscriber, edge⟩
  | subscribeEnd _ vertex subscriber edge =>
      exact perm_subscribeEnd records mirrored owner ⟨vertex, subscriber, edge⟩
  | _ => exact .nil

end Answering

end Ledger

end Tabulation
