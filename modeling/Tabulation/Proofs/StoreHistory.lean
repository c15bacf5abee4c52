/-
What a store has made of the messages it handled.

The content of a store depends on the set of its messages only, whatever their order and number, and so
does the set of all answers it gave. An answer is given once, by the message that makes it due.
-/

import Mathlib.Data.List.Nodup
import Mathlib.Data.Set.Insert
import Tabulation.Solver.Store

namespace Tabulation.Store

variable {S F M : Type}

/-- Whether the content of a store calls for an answer: an edge is announced, and a summary is told to
those who subscribed at one of its ends. -/
def Entails (store : Store S F) : Message S F M → Prop
  | .edgeAdded runner edge => runner = store.runner ∧ ∃ reason, (edge, reason) ∈ store.reasons
  | .startNotice subscriber author summary edge =>
      author = store.runner ∧ ⟨summary.source, subscriber, edge⟩ ∈ store.onStart ∧
        summary ∈ store.summaries
  | .endNotice subscriber author summary edge =>
      author = store.runner ∧ ⟨summary.target, subscriber, edge⟩ ∈ store.onEnd ∧
        summary ∈ store.summaries
  | _ => False

/-- The content of a store is what its messages asked for, each item once. -/
structure Records (store : Store S F) (handled : Set (Message S F M)) : Prop where
  reasons : ∀ edge reason, (edge, reason) ∈ store.reasons ↔
    ∃ sender, .newEdge sender edge reason ∈ handled
  summaries : ∀ edge, edge ∈ store.summaries ↔ ∃ sender, .newSummary sender edge ∈ handled
  onStart : ∀ vertex subscriber edge, ⟨vertex, subscriber, edge⟩ ∈ store.onStart ↔
    ∃ sender, .subscribeStart sender vertex subscriber edge ∈ handled
  onEnd : ∀ vertex subscriber edge, ⟨vertex, subscriber, edge⟩ ∈ store.onEnd ↔
    ∃ sender, .subscribeEnd sender vertex subscriber edge ∈ handled
  findings : ∀ finding, finding ∈ store.findings ↔
    ∃ sender, .newFinding sender finding ∈ handled
  reasonsNodup : store.reasons.Nodup
  summariesNodup : store.summaries.Nodup
  onStartNodup : store.onStart.Nodup
  onEndNodup : store.onEnd.Nodup
  findingsNodup : store.findings.Nodup

theorem records_empty (runner : String) :
    ({ runner } : Store S F).Records (∅ : Set (Message S F M)) := by
  constructor <;> simp

variable [DecidableEq S] [DecidableEq F]

theorem mem_insertNew {α : Type} [DecidableEq α] (item other : α) (items : List α) :
    other ∈ insertNew item items ↔ other = item ∨ other ∈ items := by
  unfold insertNew
  split
  · rename_i present
    constructor
    · exact Or.inr
    · rintro (same | member)
      · subst other
        exact List.contains_iff_mem.mp present
      · exact member
  · exact List.mem_cons

theorem nodup_insertNew {α : Type} [DecidableEq α] (item : α) {items : List α}
    (nodup : items.Nodup) : (insertNew item items).Nodup := by
  unfold insertNew
  split
  · exact nodup
  · rename_i absent
    exact List.nodup_cons.mpr ⟨fun member => absent (List.contains_iff_mem.mpr member), nodup⟩

private theorem insertNew_of_mem {α : Type} [DecidableEq α] {item : α} {items : List α}
    (present : item ∈ items) : insertNew item items = items :=
  if_pos (List.contains_iff_mem.mpr present)

private theorem insertNew_of_not_mem {α : Type} [DecidableEq α] {item : α} {items : List α}
    (absent : item ∉ items) : insertNew item items = item :: items :=
  if_neg fun present => absent (List.contains_iff_mem.mp present)

/-- Adds an element behind a list that does not have it. -/
def appendNew {α : Type} [DecidableEq α] (item : α) (items : List α) : List α :=
  if items.contains item then items else items ++ [item]

private theorem appendNew_perm {α : Type} [DecidableEq α] (item : α) (items : List α) :
    (appendNew item items).Perm (insertNew item items) := by
  unfold appendNew insertNew
  split
  · exact List.Perm.refl _
  · exact List.perm_append_singleton item items

private theorem mem_appendNew {α : Type} [DecidableEq α] (item other : α) (items : List α) :
    other ∈ appendNew item items ↔ other = item ∨ other ∈ items := by
  rw [(appendNew_perm item items).mem_iff, mem_insertNew]

private theorem nodup_appendNew {α : Type} [DecidableEq α] (item : α) {items : List α}
    (nodup : items.Nodup) : (appendNew item items).Nodup :=
  (appendNew_perm item items).nodup_iff.mpr (nodup_insertNew item nodup)

theorem hasEdge_iff (store : Store S F) (edge : Edge S F) :
    store.hasEdge edge = true ↔ ∃ reason, (edge, reason) ∈ store.reasons := by
  unfold hasEdge
  rw [List.any_eq_true]
  constructor
  · rintro ⟨⟨other, reason⟩, member, same⟩
    have equal := (Edge.isSame_iff other edge).mp same
    subst equal
    exact ⟨reason, member⟩
  · rintro ⟨reason, member⟩
    exact ⟨(edge, reason), member, (Edge.isSame_iff edge edge).mpr rfl⟩

/-! ### The store after each operation -/

section Recording

variable (store : Store S F)

private theorem addEdge_store (edge : Edge S F) (reason : Reason S F) :
    (store.addEdge (M := M) edge reason).1 =
      { store with reasons := insertNew (edge, reason) store.reasons } := by
  unfold addEdge
  split
  · rfl
  · rename_i absent
    have missing : (edge, reason) ∉ store.reasons := fun member =>
      absent ((store.hasEdge_iff edge).mpr ⟨reason, member⟩)
    rw [insertNew_of_not_mem missing]

private theorem addSummary_store (summary : Edge S F) :
    (store.addSummary (M := M) summary).1 =
      { store with summaries := appendNew summary store.summaries } := by
  unfold addSummary appendNew
  split <;> rfl

private theorem subscribeStart_store (wish : Subscription S F) :
    (store.subscribeStart (M := M) wish).1 =
      { store with onStart := appendNew wish store.onStart } := by
  unfold subscribeStart appendNew
  split <;> rfl

private theorem subscribeEnd_store (wish : Subscription S F) :
    (store.subscribeEnd (M := M) wish).1 =
      { store with onEnd := appendNew wish store.onEnd } := by
  unfold subscribeEnd appendNew
  split <;> rfl

end Recording

/-! ### The answers of each operation

An operation answers with what the store entails after it and did not entail before. -/

section Answering

variable {store : Store S F}

private theorem mem_addEdge (edge : Edge S F) (reason : Reason S F) (answer : Message S F M) :
    answer ∈ (store.addEdge edge reason).2 ↔
      (store.addEdge (M := M) edge reason).1.Entails answer ∧ ¬store.Entails answer := by
  have answered : answer ∈ (store.addEdge edge reason).2 ↔
      ¬store.hasEdge edge = true ∧ answer = .edgeAdded store.runner edge := by
    unfold addEdge
    split
    · simp_all
    · simp_all
  rw [answered, hasEdge_iff, addEdge_store]
  cases answer <;> simp [Entails, mem_insertNew]
  grind

private theorem mem_notices_of_summary {wishes : List (Subscription S F)} (vertex : Vertex S F)
    (notice : Subscription S F → Message S F M) (answer : Message S F M) :
    answer ∈ (wishes.filter fun wish => wish.vertex == vertex).map notice ↔
      ∃ subscriber edge, ⟨vertex, subscriber, edge⟩ ∈ wishes ∧
        notice ⟨vertex, subscriber, edge⟩ = answer := by
  simp only [List.mem_map, List.mem_filter, beq_iff_eq]
  constructor
  · rintro ⟨⟨_, subscriber, edge⟩, ⟨member, rfl⟩, same⟩
    exact ⟨subscriber, edge, member, same⟩
  · rintro ⟨subscriber, edge, member, same⟩
    exact ⟨⟨vertex, subscriber, edge⟩, ⟨member, rfl⟩, same⟩

private theorem mem_addSummary (summary : Edge S F) (answer : Message S F M) :
    answer ∈ (store.addSummary summary).2 ↔
      (store.addSummary (M := M) summary).1.Entails answer ∧ ¬store.Entails answer := by
  rw [addSummary_store]
  unfold addSummary
  split
  · rename_i present
    have known : summary ∈ store.summaries := List.contains_iff_mem.mp present
    cases answer <;> simp [Entails, mem_appendNew] <;> grind
  · rename_i absent
    have unknown : summary ∉ store.summaries := fun member =>
      absent (List.contains_iff_mem.mpr member)
    simp only [List.mem_append, mem_notices_of_summary]
    cases answer <;> simp [Entails, mem_appendNew, startNotice, endNotice] <;> grind

private theorem mem_subscribeStart (wish : Subscription S F) (answer : Message S F M) :
    answer ∈ (store.subscribeStart wish).2 ↔
      (store.subscribeStart (M := M) wish).1.Entails answer ∧ ¬store.Entails answer := by
  rw [subscribeStart_store]
  unfold subscribeStart
  split
  · rename_i present
    have known : wish ∈ store.onStart := List.contains_iff_mem.mp present
    cases answer <;> simp [Entails, mem_appendNew]
    grind
  · rename_i absent
    have unknown : wish ∉ store.onStart := fun member =>
      absent (List.contains_iff_mem.mpr member)
    obtain ⟨vertex, subscriber, edge⟩ := wish
    simp only [List.mem_map, List.mem_filter, beq_iff_eq]
    cases answer <;> simp [Entails, mem_appendNew, startNotice]
    grind

private theorem mem_subscribeEnd (wish : Subscription S F) (answer : Message S F M) :
    answer ∈ (store.subscribeEnd wish).2 ↔
      (store.subscribeEnd (M := M) wish).1.Entails answer ∧ ¬store.Entails answer := by
  rw [subscribeEnd_store]
  unfold subscribeEnd
  split
  · rename_i present
    have known : wish ∈ store.onEnd := List.contains_iff_mem.mp present
    cases answer <;> simp [Entails, mem_appendNew]
    grind
  · rename_i absent
    have unknown : wish ∉ store.onEnd := fun member =>
      absent (List.contains_iff_mem.mpr member)
    obtain ⟨vertex, subscriber, edge⟩ := wish
    simp only [List.mem_map, List.mem_filter, beq_iff_eq]
    cases answer <;> simp [Entails, mem_appendNew, endNotice]
    grind

private theorem nodup_notices_of_summary {wishes : List (Subscription S F)} (vertex : Vertex S F)
    {notice : Subscription S F → Message S F M} (nodup : wishes.Nodup)
    (injective : ∀ left right, left.vertex = right.vertex → notice left = notice right →
      left = right) :
    ((wishes.filter fun wish => wish.vertex == vertex).map notice).Nodup := by
  refine List.Nodup.map_on ?_ (nodup.filter _)
  intro left leftMember right rightMember same
  have leftVertex := (List.mem_filter.mp leftMember).2
  have rightVertex := (List.mem_filter.mp rightMember).2
  rw [beq_iff_eq] at leftVertex rightVertex
  exact injective left right (leftVertex.trans rightVertex.symm) same

private theorem nodup_addSummary (summary : Edge S F) (onStart : store.onStart.Nodup)
    (onEnd : store.onEnd.Nodup) : (store.addSummary (M := M) summary).2.Nodup := by
  unfold addSummary
  split
  · exact List.nodup_nil
  · rw [List.nodup_append]
    refine ⟨nodup_notices_of_summary _ onStart ?_, nodup_notices_of_summary _ onEnd ?_, ?_⟩
    · rintro ⟨vertex, subscriber, edge⟩ ⟨_, _, _⟩ rfl same
      simp only [startNotice, Message.startNotice.injEq, true_and] at same
      simp only [same]
    · rintro ⟨vertex, subscriber, edge⟩ ⟨_, _, _⟩ rfl same
      simp only [endNotice, Message.endNotice.injEq, true_and] at same
      simp only [same]
    · intro left leftMember right rightMember same
      obtain ⟨_, _, _, rfl⟩ := (mem_notices_of_summary _ _ _).mp leftMember
      obtain ⟨_, _, _, rfl⟩ := (mem_notices_of_summary _ _ _).mp rightMember
      cases same

private theorem nodup_subscribeStart (wish : Subscription S F) (summaries : store.summaries.Nodup) :
    (store.subscribeStart (M := M) wish).2.Nodup := by
  unfold subscribeStart
  split
  · exact List.nodup_nil
  · refine (summaries.filter _).map fun left right same => ?_
    simp only [startNotice, Message.startNotice.injEq, true_and, and_true] at same
    exact same

private theorem nodup_subscribeEnd (wish : Subscription S F) (summaries : store.summaries.Nodup) :
    (store.subscribeEnd (M := M) wish).2.Nodup := by
  unfold subscribeEnd
  split
  · exact List.nodup_nil
  · refine (summaries.filter _).map fun left right same => ?_
    simp only [endNotice, Message.endNotice.injEq, true_and, and_true] at same
    exact same

end Answering

/-! ### One message -/

section Reaction

variable [Shown S] [Shown F] [Shown M]

/-- What a store makes of any message. A message that is not for a store changes nothing. -/
def react (store : Store S F) (message : Message S F M) : Store S F × List (Message S F M) :=
  match store.handle message with
  | .ok result => result
  | .error _ => (store, [])

@[simp] theorem react_runner (store : Store S F) (message : Message S F M) :
    (store.react message).1.runner = store.runner := by
  cases message with
  | newEdge _ edge reason =>
      exact (congrArg Store.runner (store.addEdge_store edge reason)).trans rfl
  | newSummary _ edge =>
      exact (congrArg Store.runner (store.addSummary_store edge)).trans rfl
  | subscribeStart _ vertex subscriber edge =>
      exact (congrArg Store.runner (store.subscribeStart_store _)).trans rfl
  | subscribeEnd _ vertex subscriber edge =>
      exact (congrArg Store.runner (store.subscribeEnd_store _)).trans rfl
  | _ => rfl

theorem react_of_mem {store : Store S F} {edge : Edge S F} {reason : Reason S F}
    (known : (edge, reason) ∈ store.reasons) (runner : String) :
    (store.react (.newEdge runner edge reason : Message S F M)).1 = store := by
  have recorded : (store.react (.newEdge runner edge reason : Message S F M)).1 =
      { store with reasons := insertNew (edge, reason) store.reasons } :=
    store.addEdge_store edge reason
  rw [recorded, insertNew_of_mem known]

/-- The answers to a message are those that it makes due. -/
theorem mem_react_answers (store : Store S F) (message answer : Message S F M) :
    answer ∈ (store.react message).2 ↔
      (store.react message).1.Entails answer ∧ ¬store.Entails answer := by
  cases message with
  | newEdge _ edge reason => exact mem_addEdge edge reason answer
  | newSummary _ edge =>
      exact mem_addSummary edge answer
  | subscribeStart _ vertex subscriber edge =>
      exact mem_subscribeStart _ answer
  | subscribeEnd _ vertex subscriber edge =>
      exact mem_subscribeEnd _ answer
  | newFinding _ finding => cases answer <;> simp [react, handle, Entails]
  | _ => simp [react, handle]

variable {store : Store S F} {handled : Set (Message S F M)}

theorem Records.nodup_react_answers (records : store.Records handled) (message : Message S F M) :
    (store.react message).2.Nodup := by
  cases message with
  | newEdge _ edge reason =>
      change (store.addEdge edge reason).2.Nodup
      unfold addEdge
      split
      · exact List.nodup_nil
      · exact List.nodup_singleton _
  | newSummary _ edge =>
      exact nodup_addSummary edge records.onStartNodup records.onEndNodup
  | subscribeStart _ vertex subscriber edge =>
      exact nodup_subscribeStart _ records.summariesNodup
  | subscribeEnd _ vertex subscriber edge =>
      exact nodup_subscribeEnd _ records.summariesNodup
  | _ => exact List.nodup_nil

theorem Records.react (records : store.Records handled) (message : Message S F M) :
    (store.react message).1.Records (insert message handled) := by
  cases message with
  | newEdge sender edge reason =>
      change (store.addEdge (M := M) edge reason).1.Records _
      rw [addEdge_store]
      exact
        { records with
          reasons := fun other because => by
            simp [mem_insertNew, records.reasons, exists_or]
          summaries := by simpa using records.summaries
          onStart := by simpa using records.onStart
          onEnd := by simpa using records.onEnd
          findings := by simpa using records.findings
          reasonsNodup := nodup_insertNew _ records.reasonsNodup }
  | newSummary sender summary =>
      change (store.addSummary (M := M) summary).1.Records _
      rw [addSummary_store]
      exact
        { records with
          reasons := by simpa using records.reasons
          summaries := fun other => by
            simp [mem_appendNew, records.summaries, exists_or]
          onStart := by simpa using records.onStart
          onEnd := by simpa using records.onEnd
          findings := by simpa using records.findings
          summariesNodup := nodup_appendNew _ records.summariesNodup }
  | subscribeStart sender vertex subscriber edge =>
      change (store.subscribeStart (M := M) ⟨vertex, subscriber, edge⟩).1.Records _
      rw [subscribeStart_store]
      exact
        { records with
          reasons := by simpa using records.reasons
          summaries := by simpa using records.summaries
          onStart := fun other name because => by
            simp [mem_appendNew, records.onStart, exists_or]
          onEnd := by simpa using records.onEnd
          findings := by simpa using records.findings
          onStartNodup := nodup_appendNew _ records.onStartNodup }
  | subscribeEnd sender vertex subscriber edge =>
      change (store.subscribeEnd (M := M) ⟨vertex, subscriber, edge⟩).1.Records _
      rw [subscribeEnd_store]
      exact
        { records with
          reasons := by simpa using records.reasons
          summaries := by simpa using records.summaries
          onStart := by simpa using records.onStart
          onEnd := fun other name because => by
            simp [mem_appendNew, records.onEnd, exists_or]
          findings := by simpa using records.findings
          onEndNodup := nodup_appendNew _ records.onEndNodup }
  | newFinding sender finding =>
      change ({ store with findings := insertNew finding store.findings } : Store S F).Records _
      exact
        { records with
          reasons := by simpa using records.reasons
          summaries := by simpa using records.summaries
          onStart := by simpa using records.onStart
          onEnd := by simpa using records.onEnd
          findings := fun other => by
            simp [mem_insertNew, records.findings, exists_or]
          findingsNodup := nodup_insertNew _ records.findingsNodup }
  | _ =>
      change store.Records _
      exact
        { records with
          reasons := by simpa using records.reasons
          summaries := by simpa using records.summaries
          onStart := by simpa using records.onStart
          onEnd := by simpa using records.onEnd
          findings := by simpa using records.findings }

/-! ### Nothing is ever removed -/

/-- A store has whatever an earlier one had, where it was.  What is new stands before the earlier
reasons and findings, and behind the rest. -/
structure IsPartOf (early late : Store S F) : Prop where
  runner : late.runner = early.runner
  reasons : early.reasons <:+ late.reasons
  summaries : early.summaries <+: late.summaries
  onStart : early.onStart <+: late.onStart
  onEnd : early.onEnd <+: late.onEnd
  findings : early.findings <:+ late.findings

omit [DecidableEq S] [DecidableEq F] [Shown S] [Shown F] in
theorem IsPartOf.refl (store : Store S F) : store.IsPartOf store :=
  ⟨rfl, List.suffix_rfl, List.prefix_rfl, List.prefix_rfl, List.prefix_rfl, List.suffix_rfl⟩

omit [DecidableEq S] [DecidableEq F] [Shown S] [Shown F] in
theorem IsPartOf.trans {first second third : Store S F} (before : first.IsPartOf second)
    (after : second.IsPartOf third) : first.IsPartOf third where
  runner := after.runner.trans before.runner
  reasons := before.reasons.trans after.reasons
  summaries := before.summaries.trans after.summaries
  onStart := before.onStart.trans after.onStart
  onEnd := before.onEnd.trans after.onEnd
  findings := before.findings.trans after.findings

private theorem suffix_insertNew {α : Type} [DecidableEq α] (item : α) (items : List α) :
    items <:+ insertNew item items := by
  unfold insertNew
  split
  · exact List.suffix_rfl
  · exact List.suffix_cons item items

private theorem prefix_appendNew {α : Type} [DecidableEq α] (item : α) (items : List α) :
    items <+: appendNew item items := by
  unfold appendNew
  split
  · exact List.prefix_rfl
  · exact List.prefix_append items [item]

theorem isPartOf_react (store : Store S F) (message : Message S F M) :
    store.IsPartOf (store.react message).1 := by
  have same := IsPartOf.refl store
  cases message with
  | newEdge _ edge reason =>
      change store.IsPartOf (store.addEdge (M := M) edge reason).1
      rw [addEdge_store]
      exact { same with reasons := suffix_insertNew _ _ }
  | newSummary _ summary =>
      change store.IsPartOf (store.addSummary (M := M) summary).1
      rw [addSummary_store]
      exact { same with summaries := prefix_appendNew _ _ }
  | subscribeStart _ vertex subscriber edge =>
      change store.IsPartOf (store.subscribeStart (M := M) ⟨vertex, subscriber, edge⟩).1
      rw [subscribeStart_store]
      exact { same with onStart := prefix_appendNew _ _ }
  | subscribeEnd _ vertex subscriber edge =>
      change store.IsPartOf (store.subscribeEnd (M := M) ⟨vertex, subscriber, edge⟩).1
      rw [subscribeEnd_store]
      exact { same with onEnd := prefix_appendNew _ _ }
  | newFinding _ finding => exact { same with findings := suffix_insertNew _ _ }
  | _ => exact same

end Reaction

end Tabulation.Store
