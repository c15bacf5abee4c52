/-
What is collected of a run.

The data of a runner has an item for every handled message of the runner that asked for it, and nothing
else. How the program is divided into chunks does not matter.
-/

import Tabulation.Proofs.Schedule

namespace Tabulation

variable {S F M : Type}

namespace Text

private theorem foldl_distinct {α : Type} [DecidableEq α] (items kept : List α) (nodup : kept.Nodup) :
    (items.foldl (fun kept item => if kept.contains item then kept else item :: kept) kept).Nodup ∧
      ∀ item, item ∈ items.foldl
        (fun kept item => if kept.contains item then kept else item :: kept) kept ↔
        item ∈ kept ∨ item ∈ items := by
  induction items generalizing kept with
  | nil => exact ⟨nodup, fun item => by simp⟩
  | cons head rest ih =>
      rw [List.foldl_cons]
      by_cases known : head ∈ kept
      · rw [if_pos (List.contains_iff_mem.mpr known)]
        obtain ⟨distinct, members⟩ := ih kept nodup
        refine ⟨distinct, fun item => ?_⟩
        rw [members, List.mem_cons]
        constructor
        · rintro (old | new)
          · exact Or.inl old
          · exact Or.inr (Or.inr new)
        · rintro (old | rfl | new)
          · exact Or.inl old
          · exact Or.inl known
          · exact Or.inr new
      · rw [if_neg fun present => known (List.contains_iff_mem.mp present)]
        obtain ⟨distinct, members⟩ := ih (head :: kept) (List.nodup_cons.mpr ⟨known, nodup⟩)
        refine ⟨distinct, fun item => ?_⟩
        rw [members, List.mem_cons, List.mem_cons, or_assoc, or_left_comm]

theorem mem_distinct {α : Type} [DecidableEq α] (item : α) (items : List α) :
    item ∈ distinct items ↔ item ∈ items := by
  unfold distinct
  rw [List.mem_reverse, (foldl_distinct items [] List.nodup_nil).2]
  simp

theorem nodup_distinct {α : Type} [DecidableEq α] (items : List α) : (distinct items).Nodup := by
  unfold distinct
  exact List.nodup_reverse.mpr (foldl_distinct items [] List.nodup_nil).1

/-- Where nothing comes twice, nothing is dropped. -/
theorem distinct_of_nodup {α : Type} [DecidableEq α] {items : List α} (nodup : items.Nodup) :
    distinct items = items := by
  have folded : ∀ (items kept : List α), (kept.reverse ++ items).Nodup →
      items.foldl (fun kept item => if kept.contains item then kept else item :: kept) kept =
        items.reverse ++ kept := by
    intro items
    induction items with
    | nil => exact fun _ _ => rfl
    | cons item rest inductionHypothesis =>
        intro kept nodup
        have isNew : item ∉ kept := fun known =>
          (List.nodup_append.mp nodup).2.2 item (List.mem_reverse.mpr known) item
            List.mem_cons_self rfl
        rw [List.foldl_cons, if_neg (mt List.contains_iff_mem.mp isNew),
          inductionHypothesis (item :: kept) (by simpa using nodup)]
        simp
  unfold distinct
  rw [folded items [] nodup, List.append_nil, List.reverse_reverse]

theorem length_distinct_le {α : Type} [DecidableEq α] (items : List α) :
    (distinct items).length ≤ items.length :=
  (List.subperm_of_subset (nodup_distinct items) fun item => (mem_distinct item items).mp).length_le

theorem mem_distinctByHash {α : Type} [DecidableEq α] [Hashable α] (item : α) (items : List α) :
    item ∈ distinctByHash items ↔ item ∈ items := by
  rw [distinctByHash_eq_distinct, mem_distinct]

theorem nodup_distinctByHash {α : Type} [DecidableEq α] [Hashable α] (items : List α) :
    (distinctByHash items).Nodup := by
  rw [distinctByHash_eq_distinct]
  exact nodup_distinct items

end Text

/-- The data of a runner holds what the handled messages of the runner asked for. -/
structure Solution.Reports (data : Solution S F) (runner : String) (handled : Set (Message S F M)) :
    Prop where
  edges : ∀ edge, edge ∈ data.edges ↔ ∃ reason, .newEdge runner edge reason ∈ handled
  reasons : ∀ edge reason, (edge, reason) ∈ data.reasons ↔ .newEdge runner edge reason ∈ handled
  facts : ∀ vertex, vertex ∈ data.facts ↔
    ∃ edge reason, edge.target = vertex ∧ .newEdge runner edge reason ∈ handled
  summaries : ∀ edge, edge ∈ data.summaries ↔ .newSummary runner edge ∈ handled
  findings : ∀ finding, finding ∈ data.findings ↔ .newFinding runner finding ∈ handled
  edgesNodup : data.edges.Nodup
  reasonsNodup : data.reasons.Nodup
  factsNodup : data.facts.Nodup
  summariesNodup : data.summaries.Nodup
  findingsNodup : data.findings.Nodup

/-- Two contents have the same items, in whatever order. -/
structure Solution.SameContent (left right : Solution S F) : Prop where
  edges : left.edges.Perm right.edges
  reasons : left.reasons.Perm right.reasons
  facts : left.facts.Perm right.facts
  summaries : left.summaries.Perm right.summaries
  findings : left.findings.Perm right.findings

theorem Solution.Reports.sameContent {left right : Solution S F} {runner : String}
    {handled : Set (Message S F M)} (first : left.Reports runner handled)
    (second : right.Reports runner handled) : left.SameContent right where
  edges := (List.perm_ext_iff_of_nodup first.edgesNodup second.edgesNodup).mpr
    fun edge => (first.edges edge).trans (second.edges edge).symm
  reasons := (List.perm_ext_iff_of_nodup first.reasonsNodup second.reasonsNodup).mpr
    fun pair => (first.reasons pair.1 pair.2).trans (second.reasons pair.1 pair.2).symm
  facts := (List.perm_ext_iff_of_nodup first.factsNodup second.factsNodup).mpr
    fun vertex => (first.facts vertex).trans (second.facts vertex).symm
  summaries := (List.perm_ext_iff_of_nodup first.summariesNodup second.summariesNodup).mpr
    fun edge => (first.summaries edge).trans (second.summaries edge).symm
  findings := (List.perm_ext_iff_of_nodup first.findingsNodup second.findingsNodup).mpr
    fun finding => (first.findings finding).trans (second.findings finding).symm

/-- The data of a runner is what its stores have. -/
structure Solution.Holds (data : Solution S F) (state : EngineState S F M) (runner : String) :
    Prop where
  edges : ∀ edge, edge ∈ data.edges ↔
    ∃ chunk reason, (edge, reason) ∈ (state.storeOf chunk runner).reasons
  reasons : ∀ edge reason, (edge, reason) ∈ data.reasons ↔
    ∃ chunk, (edge, reason) ∈ (state.storeOf chunk runner).reasons
  facts : ∀ vertex, vertex ∈ data.facts ↔
    ∃ chunk edge reason, edge.target = vertex ∧
      (edge, reason) ∈ (state.storeOf chunk runner).reasons
  summaries : ∀ edge, edge ∈ data.summaries ↔
    ∃ chunk, edge ∈ (state.storeOf chunk runner).summaries
  findings : ∀ finding, finding ∈ data.findings ↔
    ∃ chunk, finding ∈ (state.storeOf chunk runner).findings

namespace EngineState

variable [DecidableEq S] [DecidableEq F] [Hashable S] [Hashable F]

private theorem snapshot_getD (state : EngineState S F M) (chunk runner : String) :
    ((state.store? chunk runner).map Store.snapshot).getD {} =
      (state.storeOf chunk runner).snapshot := by
  unfold storeOf
  cases state.store? chunk runner with
  | some store => rfl
  | none =>
      simp [Store.snapshot, Store.edges, Text.distinctByHash_eq_distinct, Text.distinct]

private theorem mem_collected {α : Type} {state : EngineState S F M} {chunks : List String}
    (complete : ∀ chunk runner, state.hasUnit chunk runner = true → chunk ∈ chunks)
    (runner : String) (part : Solution S F → List α) (empty : part {} = []) (item : α) :
    item ∈ ((chunks.map fun chunk =>
        (chunk, ((state.store? chunk runner).map Store.snapshot).getD {})).map Prod.snd).flatMap part ↔
      ∃ chunk, item ∈ part (state.storeOf chunk runner).snapshot := by
  simp only [List.mem_flatMap, List.mem_map, exists_exists_and_eq_and, snapshot_getD]
  constructor
  · rintro ⟨chunk, _, member⟩
    exact ⟨chunk, member⟩
  · rintro ⟨chunk, member⟩
    refine ⟨chunk, complete chunk runner ?_, member⟩
    unfold hasUnit
    rw [← snapshot_getD] at member
    cases found : state.store? chunk runner with
    | some store => rfl
    | none =>
        rw [found, Option.map_none, Option.getD_none, empty] at member
        cases member

end EngineState

variable [DecidableEq S] [DecidableEq F] [Hashable S] [Hashable F]

theorem Store.mem_edges (store : Store S F) (edge : Edge S F) :
    edge ∈ store.edges ↔ ∃ reason, (edge, reason) ∈ store.reasons := by
  unfold edges
  rw [Text.mem_distinctByHash]
  simp

/-- The snapshots of all chunks with a unit, merged, have what the stores of the runner have. -/
theorem EngineState.holds_merge {state : EngineState S F M} {chunks : List String}
    (complete : ∀ chunk runner, state.hasUnit chunk runner = true → chunk ∈ chunks)
    (runner : String) :
    (Solution.merge ((chunks.map fun chunk =>
        (chunk, ((state.store? chunk runner).map Store.snapshot).getD {})).map
      Prod.snd)).Holds state runner where
  edges := fun edge => by
    simp only [Solution.merge, Text.mem_distinctByHash]
    rw [mem_collected complete runner Solution.edges rfl]
    simp only [Store.snapshot, Store.mem_edges]
  reasons := fun edge reason => by
    simp only [Solution.merge, Text.mem_distinctByHash]
    rw [mem_collected complete runner Solution.reasons rfl]
    simp only [Store.snapshot, List.mem_reverse]
  facts := fun vertex => by
    simp only [Solution.merge, Text.mem_distinctByHash]
    rw [mem_collected complete runner Solution.facts rfl]
    simp only [Store.snapshot, Text.mem_distinctByHash, List.mem_map, Store.mem_edges]
    refine exists_congr fun chunk => exists_congr fun edge => ?_
    rw [exists_and_right.symm]
    exact exists_congr fun _ => and_comm
  summaries := fun edge => by
    simp only [Solution.merge, Text.mem_distinctByHash]
    exact mem_collected complete runner Solution.summaries rfl edge
  findings := fun finding => by
    simp only [Solution.merge, Text.mem_distinctByHash]
    rw [mem_collected complete runner Solution.findings rfl]
    simp only [Store.snapshot, List.mem_reverse]

/-- Where the stores record what was handled, merged data of them reports it. -/
theorem Solution.Holds.reports {parts : List (Solution S F)} {state : EngineState S F M}
    {strategy : S → String} {runner : String} {handled : Set (Message S F M)}
    (holds : (Solution.merge parts).Holds state runner)
    (records : ∀ chunk,
      (state.storeOf chunk runner).Records (ownedIn strategy handled chunk runner)) :
    (Solution.merge parts).Reports runner handled := by
  refine ⟨?_, ?_, ?_, ?_, ?_, Text.nodup_distinctByHash _, Text.nodup_distinctByHash _,
    Text.nodup_distinctByHash _, Text.nodup_distinctByHash _, Text.nodup_distinctByHash _⟩
  · intro edge
    refine (holds.edges edge).trans ?_
    simp [(records _).reasons, ownedIn, Message.isOwnedBy, Message.chunkOf, Message.home?,
      Message.runner]
  · intro edge reason
    refine (holds.reasons edge reason).trans ?_
    simp [(records _).reasons, ownedIn, Message.isOwnedBy, Message.chunkOf, Message.home?,
      Message.runner]
  · intro vertex
    refine (holds.facts vertex).trans ?_
    simp [(records _).reasons, ownedIn, Message.isOwnedBy, Message.chunkOf, Message.home?,
      Message.runner]
  · intro edge
    refine (holds.summaries edge).trans ?_
    simp [(records _).summaries, ownedIn, Message.isOwnedBy, Message.chunkOf, Message.home?,
      Message.runner]
  · intro finding
    refine (holds.findings finding).trans ?_
    simp [(records _).findings, ownedIn, Message.isOwnedBy, Message.chunkOf, Message.home?,
      Message.runner]

/-- Collecting a runner of an open engine gives what the handled messages of the runner asked for. -/
theorem Engine.Accounts.collect {engine : Engine S F M} {history : History S F M}
    (accounts : engine.Accounts history) (runner : String) :
    ∃ data, Engine.collect history.state runner = .ok data ∧
      data.Reports runner {message | message ∈ history.handled} := by
  unfold Engine.collect collectByChunk
  rw [if_neg (ne_true_of_eq_false accounts.opened)]
  exact ⟨_, rfl, (EngineState.holds_merge accounts.announced runner).reports
    fun chunk => accounts.records chunk runner⟩

end Tabulation
