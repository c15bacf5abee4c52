/-
Snapshots of ledgers.

A snapshot is the projection of what was asked for: each group of it has what the requests determine
and nothing else, and so have the snapshots of several ledgers when they are merged.  All counts
follow.  A store that handled the same messages has the same content.
-/

import Tabulation.Proofs.Contents
import Tabulation.Proofs.Ledgers
import Tabulation.Proofs.Notifications

namespace Tabulation

variable {S F M : Type}

/-- What any of several senders asks for. -/
def Requests.any {ι : Type} (items : List ι) (requests : ι → Requests S F) : Requests S F where
  reasons := fun edge reason => ∃ item ∈ items, (requests item).reasons edge reason
  summaries := fun edge => ∃ item ∈ items, (requests item).summaries edge
  onStart := fun vertex wish => ∃ item ∈ items, (requests item).onStart vertex wish
  onEnd := fun vertex wish => ∃ item ∈ items, (requests item).onEnd vertex wish
  findings := fun finding => ∃ item ∈ items, (requests item).findings finding

theorem Requests.of_any {ι : Type} (items : List ι) (messages : ι → List (Message S F M)) :
    Requests.of {message | ∃ item ∈ items, message ∈ messages item} =
      .any items fun item => .of {message | message ∈ messages item} := by
  ext <;> simp only [of, any, Set.mem_ofPred_eq] <;> grind

theorem Requests.edges_any {ι : Type} (items : List ι) (requests : ι → Requests S F)
    (edge : Edge S F) :
    (Requests.any items requests).edges edge ↔ ∃ item ∈ items, (requests item).edges edge := by
  simp only [edges, any]
  grind

/-- The items that were asked for. -/
def Requests.Asks (requests : Requests S F) : Item S F → Prop
  | .edge edge | .entry edge => requests.edges edge
  | .fact statement fact => ∃ edge, edge.target = ⟨statement, fact⟩ ∧ requests.edges edge
  | .reason edge reason => requests.reasons edge reason
  | .summary edge => requests.summaries edge
  | .finding finding => requests.findings finding

theorem Requests.asks_any {ι : Type} (items : List ι) (requests : ι → Requests S F)
    (asked : Item S F) :
    (Requests.any items requests).Asks asked ↔ ∃ item ∈ items, (requests item).Asks asked := by
  cases asked with
  | edge edge | entry edge => exact Requests.edges_any items requests edge
  | fact statement fact =>
      simp only [Asks, Requests.edges_any]
      grind
  | _ => rfl

/-! ### Ledgers over a sequence of messages -/

section Serving

variable [DecidableEq S] [DecidableEq F] [Shown S] [Shown F] [Shown M]

/-- Whether a message is of a kind that stores handle. -/
def Message.isForStore : Message S F M → Bool
  | .newEdge .. | .newSummary .. | .newFinding .. => true
  | .subscribeStart .. | .subscribeEnd .. | .collectData .. => true
  | _ => false

namespace Ledger

theorem handle_eq (ledger : Ledger S F) (message : Message S F M) :
    ledger.handle message =
      if message.isForStore then .ok (ledger.react message)
      else .error (.inStore ledger.runner message.typeName) := by
  cases message <;> rfl

theorem serve_cons (ledger : Ledger S F) (message : Message S F M) (rest : List (Message S F M)) :
    ledger.serve (message :: rest) = (((ledger.react message).1.serve rest).1,
      (ledger.react message).2 ++ ((ledger.react message).1.serve rest).2) :=
  rfl

@[simp] theorem serve_runner (ledger : Ledger S F) (messages : List (Message S F M)) :
    (ledger.serve messages).1.runner = ledger.runner := by
  induction messages generalizing ledger with
  | nil => rfl
  | cons message rest inductionHypothesis =>
      rw [serve_cons, inductionHypothesis, react_runner]

/-- Messages that are not for a store can as well be left out. -/
theorem serve_filter (ledger : Ledger S F) (messages : List (Message S F M)) :
    ledger.serve (messages.filter Message.isForStore) = ledger.serve messages := by
  induction messages generalizing ledger with
  | nil => rfl
  | cons message rest inductionHypothesis =>
      rw [serve_cons]
      by_cases own : message.isForStore
      · rw [List.filter_cons_of_pos own, serve_cons, inductionHypothesis]
      · have ignored : ledger.react message = (ledger, []) := by
          unfold react
          rw [handle_eq, if_neg own]
          rfl
        rw [List.filter_cons_of_neg own, inductionHypothesis, ignored]
        rfl

theorem Records.serve {ledger : Ledger S F} {handled : Set (Message S F M)}
    (records : ledger.Records (.of handled)) (messages : List (Message S F M)) :
    (ledger.serve messages).1.Records (.of ({message | message ∈ messages} ∪ handled)) := by
  induction messages generalizing ledger handled with
  | nil =>
      change ledger.Records _
      simpa using records
  | cons message rest inductionHypothesis =>
      have all : {other | other ∈ message :: rest} ∪ handled =
          {other | other ∈ rest} ∪ insert message handled := by
        ext other
        simp [or_assoc]
      rw [serve_cons, all]
      refine inductionHypothesis ?_
      rw [Requests.of_insert]
      exact records.react message

/-- A fresh ledger that handled a sequence of messages. -/
theorem records_serve (runner : String) (messages : List (Message S F M)) :
    (({ runner } : Ledger S F).serve messages).1.Records (.of {message | message ∈ messages}) := by
  have records := (records_empty (S := S) (F := F) (M := M) runner).serve messages
  rwa [Set.union_empty] at records

theorem Records.perm_serve {ledger : Ledger S F} {store : Store S F}
    {handled : Set (Message S F M)} (records : ledger.Records (.of handled))
    (mirrored : store.Records handled) (owner : ledger.runner = store.runner)
    (messages : List (Message S F M)) :
    (ledger.serve messages).2.Perm (store.serve messages).2 := by
  induction messages generalizing ledger store handled with
  | nil => exact .nil
  | cons message rest inductionHypothesis =>
      rw [serve_cons, Store.serve_cons]
      have next : (ledger.react message).1.Records (.of (insert message handled)) := by
        rw [Requests.of_insert]
        exact records.react message
      exact (records.perm_answers mirrored owner message).append
        (inductionHypothesis next (mirrored.react message) (by simpa using owner))

end Ledger

end Serving

/-! ### The projection of requests -/

variable [DecidableEq S] [DecidableEq F]

/-- A content in groups is what was asked for: edges under their ends, reasons under their edges,
and facts under the statements where some edge ends with them. -/
structure GroupedSolution.Projects (data : GroupedSolution S F) (requests : Requests S F) :
    Prop where
  edgesByEnd : data.edgesByEnd.Holds fun vertex edge =>
    edge.target = vertex ∧ requests.edges edge
  factsByStatement : data.factsByStatement.Holds fun statement fact =>
    ∃ edge, edge.target = ⟨statement, fact⟩ ∧ requests.edges edge
  reasons : data.reasons.Holds requests.reasons
  summaries : ∀ edge, edge ∈ data.summaries ↔ requests.summaries edge
  findings : ∀ finding, finding ∈ data.findings ↔ requests.findings finding
  summariesNodup : data.summaries.Nodup
  findingsNodup : data.findings.Nodup

theorem Ledger.Records.snapshot {ledger : Ledger S F} {requests : Requests S F}
    (records : ledger.Records requests) : ledger.snapshot.Projects requests where
  edgesByEnd := by
    have distinct : (ledger.reasons.keys.map fun edge => (edge.target, edge)).Nodup :=
      records.reasons.keysNodup.map fun left right same => (Prod.mk.inj same).2
    have holds := Groups.Holds.empty.foldl_push distinct fun _ _ => id
    rw [List.foldl_map] at holds
    refine holds.congr fun vertex edge => ?_
    rw [false_or, List.mem_map]
    constructor
    · rintro ⟨other, member, same⟩
      obtain ⟨rfl, rfl⟩ := Prod.mk.inj same
      exact ⟨rfl, (records.reasons.mem_keys other).mp member⟩
    · rintro ⟨rfl, known⟩
      exact ⟨edge, (records.reasons.mem_keys edge).mpr known, rfl⟩
  factsByStatement := by
    have holds := Groups.Holds.empty.foldl_add
      (ledger.reasons.keys.map fun edge => (edge.target.statement, edge.target.fact))
    rw [List.foldl_map] at holds
    refine holds.congr fun statement fact => ?_
    rw [false_or, List.mem_map]
    refine exists_congr fun edge => ?_
    rw [and_comm, records.reasons.mem_keys, Prod.mk.injEq]
    exact and_congr_left fun _ => (iff_of_eq (Vertex.mk.injEq ..)).symm
  reasons := records.reasons
  summaries := records.summaries
  findings := records.findings
  summariesNodup := records.summariesNodup
  findingsNodup := records.findingsNodup

namespace GroupedSolution

variable {data : GroupedSolution S F} {requests : Requests S F}

theorem Projects.mem_edges (projects : data.Projects requests) (edge : Edge S F) :
    edge ∈ data.edgesByEnd.flatMap (·.2) ↔ requests.edges edge := by
  rw [projects.edgesByEnd.mem_flatMap]
  constructor
  · rintro ⟨vertex, _, known⟩
    exact known
  · intro known
    exact ⟨edge.target, rfl, known⟩

theorem Projects.mem_edgeSet (projects : data.Projects requests) (edge : Edge S F) :
    edge ∈ data.edgeSet ↔ requests.edges edge := by
  unfold edgeSet
  rw [Text.mem_distinct, projects.mem_edges]

theorem Projects.isTidy_and_has (projects : data.Projects requests) :
    data.IsTidy ∧ ∀ item, data.Has item ↔ requests.Asks item := by
  have has : ∀ item, data.Has item ↔ requests.Asks item := by
    intro item
    cases item with
    | edge edge => exact projects.mem_edges edge
    | fact statement fact => exact projects.factsByStatement.mem_pairs statement fact
    | entry edge => exact projects.reasons.mem_keys edge
    | reason edge reason => exact projects.reasons.mem_pairs edge reason
    | summary edge => exact projects.summaries edge
    | finding finding => exact projects.findings finding
  refine ⟨⟨?_, ?_, ?_, projects.findingsNodup, projects.summariesNodup⟩, has⟩
  · exact projects.edgesByEnd.congr fun _ edge => and_congr_right fun _ => (has (.edge edge)).symm
  · exact projects.factsByStatement.congr fun statement fact => (has (.fact statement fact)).symm
  · exact projects.reasons.lists.congr (fun edge => (has (.entry edge)).symm)
      fun edge reason => (has (.reason edge reason)).symm

theorem IsTidy.projects (isTidy : data.IsTidy)
    (has : ∀ item, data.Has item ↔ requests.Asks item) : data.Projects requests where
  edgesByEnd := isTidy.edgesByEnd.congr fun _ edge => and_congr_right fun _ => has (.edge edge)
  factsByStatement := isTidy.factsByStatement.congr fun statement fact =>
    has (.fact statement fact)
  reasons := (isTidy.reasons.congr (fun edge => has (.entry edge))
    fun edge reason => has (.reason edge reason)).holds fun _ => Iff.rfl
  summaries := fun edge => has (.summary edge)
  findings := fun finding => has (.finding finding)
  summariesNodup := isTidy.summariesNodup
  findingsNodup := isTidy.findingsNodup

theorem Projects.merge {ι : Type} {items : List ι} {data : ι → GroupedSolution S F}
    {requests : ι → Requests S F} (each : ∀ item ∈ items, (data item).Projects (requests item)) :
    (GroupedSolution.merge (items.map data)).Projects (.any items requests) := by
  refine (isTidy_merge _).projects fun asked => ?_
  rw [has_merge, Requests.asks_any]
  simp only [List.mem_map, exists_exists_and_eq_and]
  exact exists_congr fun item => and_congr_right fun member =>
    (each item member).isTidy_and_has.2 asked

/-- The counts of a content: edges, and vertices where an edge ends. -/
structure Counted (data : GroupedSolution S F) : Prop where
  edges : data.stats.edges = data.edgeSet.length
  facts : data.stats.facts = (Text.distinct (data.edgeSet.map (·.target))).length
  statements_le_facts : data.stats.statements ≤ data.stats.facts
  facts_le_edges : data.stats.facts ≤ data.stats.edges

theorem Projects.length_reasons (projects : data.Projects requests) :
    data.reasons.length = data.edgeSet.length :=
  projects.reasons.length_eq (Text.nodup_distinct _) projects.mem_edgeSet

/-- There are as many facts as vertices where an edge ends. -/
theorem Projects.size_facts (projects : data.Projects requests) {ends : List (Vertex S F)}
    (nodup : ends.Nodup)
    (members : ∀ vertex, vertex ∈ ends ↔ ∃ edge, edge.target = vertex ∧ requests.edges edge) :
    data.factsByStatement.size = ends.length := by
  refine projects.factsByStatement.size_eq (fun vertex => (vertex.statement, vertex.fact))
    (nodup.map ?_) fun statement fact => ?_
  · rintro ⟨_, _⟩ ⟨_, _⟩ same
    exact congrArg₂ Vertex.mk (Prod.mk.inj same).1 (Prod.mk.inj same).2
  · rw [List.mem_map, ← members]
    constructor
    · rintro ⟨vertex, member, same⟩
      obtain ⟨rfl, rfl⟩ := Prod.mk.inj same
      exact member
    · intro member
      exact ⟨_, member, rfl⟩

theorem Projects.counted (projects : data.Projects requests) : data.Counted := by
  have edges := projects.length_reasons
  have facts : data.factsByStatement.size =
      (Text.distinct (data.edgeSet.map (·.target))).length := by
    refine projects.size_facts (Text.nodup_distinct _) fun vertex => ?_
    rw [Text.mem_distinct, List.mem_map]
    refine exists_congr fun edge => ?_
    rw [and_comm, projects.mem_edgeSet]
  constructor
  · exact congrArg Int.ofNat edges
  · exact congrArg Int.ofNat facts
  · exact Int.ofNat_le.mpr projects.factsByStatement.length_le_size
  · refine Int.ofNat_le.mpr ?_
    calc data.factsByStatement.size
      _ = (Text.distinct (data.edgeSet.map (·.target))).length := facts
      _ ≤ (data.edgeSet.map (·.target)).length := Text.length_distinct_le _
      _ = data.edgeSet.length := List.length_map _
      _ = data.reasons.length := edges.symm

end GroupedSolution

/-! ### The content of a store -/

/-- A content without groups is what was asked for. -/
structure Solution.Projects (solution : Solution S F) (requests : Requests S F) : Prop where
  edges : ∀ edge, edge ∈ solution.edges ↔ requests.edges edge
  reasons : ∀ edge reason, (edge, reason) ∈ solution.reasons ↔ requests.reasons edge reason
  facts : ∀ vertex, vertex ∈ solution.facts ↔ ∃ edge, edge.target = vertex ∧ requests.edges edge
  summaries : ∀ edge, edge ∈ solution.summaries ↔ requests.summaries edge
  findings : ∀ finding, finding ∈ solution.findings ↔ requests.findings finding
  edgesNodup : solution.edges.Nodup
  reasonsNodup : solution.reasons.Nodup
  factsNodup : solution.facts.Nodup
  summariesNodup : solution.summaries.Nodup
  findingsNodup : solution.findings.Nodup

theorem Store.Records.snapshot [Hashable S] [Hashable F] {store : Store S F}
    {handled : Set (Message S F M)} (records : store.Records handled) :
    store.snapshot.Projects (.of handled) where
  edges := fun edge => by
    rw [Store.snapshot, Store.mem_edges]
    simp only [records.reasons]
    rfl
  reasons := fun edge reason => by
    rw [Store.snapshot, List.mem_reverse, records.reasons]
    rfl
  facts := fun vertex => by
    rw [Store.snapshot, Text.mem_distinctByHash, List.mem_map]
    refine exists_congr fun edge => ?_
    rw [and_comm, Store.mem_edges]
    simp only [records.reasons]
    rfl
  summaries := records.summaries
  findings := fun finding => by
    rw [Store.snapshot, List.mem_reverse, records.findings]
    rfl
  edgesNodup := Text.nodup_distinctByHash _
  reasonsNodup := List.nodup_reverse.mpr records.reasonsNodup
  factsNodup := Text.nodup_distinctByHash _
  summariesNodup := records.summariesNodup
  findingsNodup := List.nodup_reverse.mpr records.findingsNodup

omit [DecidableEq S] [DecidableEq F] in
theorem Solution.Projects.isTidy_and_has {solution : Solution S F} {requests : Requests S F}
    (projects : solution.Projects requests) :
    solution.IsTidy ∧ ∀ item, solution.Has item ↔ requests.Asks item := by
  refine ⟨⟨projects.edgesNodup, projects.reasonsNodup, projects.factsNodup,
    projects.summariesNodup, projects.findingsNodup⟩, fun item => ?_⟩
  cases item with
  | edge edge | entry edge => exact projects.edges edge
  | fact statement fact => exact projects.facts ⟨statement, fact⟩
  | reason edge reason => exact projects.reasons edge reason
  | summary edge => exact projects.summaries edge
  | finding finding => exact projects.findings finding

theorem Solution.Projects.merge [Hashable S] [Hashable F] {ι : Type} {items : List ι}
    {data : ι → Solution S F} {requests : ι → Requests S F}
    (each : ∀ item ∈ items, (data item).Projects (requests item)) :
    (Solution.merge (items.map data)).Projects (.any items requests) := by
  have has : ∀ asked, (Solution.merge (items.map data)).Has asked ↔
      (Requests.any items requests).Asks asked := by
    intro asked
    rw [Solution.has_merge, Requests.asks_any]
    simp only [List.mem_map, exists_exists_and_eq_and]
    exact exists_congr fun item => and_congr_right fun member =>
      (each item member).isTidy_and_has.2 asked
  have isTidy := Solution.isTidy_merge (items.map data)
  exact
    { edges := fun edge => has (.edge edge)
      reasons := fun edge reason => has (.reason edge reason)
      facts := fun vertex => has (.fact vertex.statement vertex.fact)
      summaries := fun edge => has (.summary edge)
      findings := fun finding => has (.finding finding)
      edgesNodup := isTidy.edges
      reasonsNodup := isTidy.reasons
      factsNodup := isTidy.facts
      summariesNodup := isTidy.summaries
      findingsNodup := isTidy.findings }

/-- Groups have what a content lists. -/
structure GroupedSolution.Regroups (data : GroupedSolution S F) (solution : Solution S F) :
    Prop where
  edges : data.edgeSet.Perm solution.edges
  edgesByEnd : ∀ vertex, (data.edgesByEnd.values vertex).Perm (solution.edgesEndingAt vertex)
  facts : ∀ statement, (data.factsAt statement).Perm (solution.factsAt statement)
  reasons : ∀ edge, (data.reasons.values edge).Perm (solution.reasonsOf edge)
  summaries : data.summaries.Perm solution.summaries
  findings : data.findings.Perm solution.findings
  stats : data.stats = solution.stats

namespace GroupedSolution

variable {data : GroupedSolution S F} {solution : Solution S F} {requests : Requests S F}

private theorem Projects.perm_summaries (projects : data.Projects requests)
    (listed : solution.Projects requests) : data.summaries.Perm solution.summaries :=
  (List.perm_ext_iff_of_nodup projects.summariesNodup listed.summariesNodup).mpr
    fun edge => (projects.summaries edge).trans (listed.summaries edge).symm

private theorem Projects.perm_findings (projects : data.Projects requests)
    (listed : solution.Projects requests) : data.findings.Perm solution.findings :=
  (List.perm_ext_iff_of_nodup projects.findingsNodup listed.findingsNodup).mpr
    fun finding => (projects.findings finding).trans (listed.findings finding).symm

theorem Projects.regroups (projects : data.Projects requests)
    (listed : solution.Projects requests) : data.Regroups solution where
  edges := (List.perm_ext_iff_of_nodup (Text.nodup_distinct _) listed.edgesNodup).mpr
    fun edge => (projects.mem_edgeSet edge).trans (listed.edges edge).symm
  edgesByEnd := projects.edgesByEnd.perm_filter_self listed.edgesNodup listed.edges
  facts := fun statement => by
    refine projects.factsByStatement.perm_filter listed.factsNodup ?_ ?_ statement
    · rintro ⟨_, _⟩ ⟨_, _⟩ same
      simpa using same
    · intro other fact
      rw [← listed.facts]
      constructor
      · intro member
        exact ⟨_, member, rfl⟩
      · rintro ⟨⟨_, _⟩, member, same⟩
        cases same
        exact member
  reasons := fun edge => by
    refine projects.reasons.perm_filter listed.reasonsNodup (fun left right same => same) ?_ edge
    intro other reason
    rw [← listed.reasons]
    simp
  summaries := projects.perm_summaries listed
  findings := projects.perm_findings listed
  stats := by
    have edges : data.reasons.length = solution.edges.length :=
      projects.reasons.length_eq listed.edgesNodup listed.edges
    have statements : data.factsByStatement.length =
        (Text.distinct (solution.facts.map (·.statement))).length := by
      refine projects.factsByStatement.length_eq (Text.nodup_distinct _) fun statement => ?_
      simp only [← listed.facts]
      rw [Text.mem_distinct, List.mem_map]
      constructor
      · rintro ⟨⟨_, fact⟩, member, rfl⟩
        exact ⟨fact, member⟩
      · rintro ⟨fact, member⟩
        exact ⟨_, member, rfl⟩
    have facts := projects.size_facts listed.factsNodup listed.facts
    have summaries := (projects.perm_summaries listed).length_eq
    have findings := (projects.perm_findings listed).length_eq
    unfold stats Solution.stats
    rw [edges, statements, facts, summaries, findings]

end GroupedSolution

/-! ### Coherence -/

namespace Ledger

variable [Hashable S] [Hashable F] [Shown S] [Shown F] [Shown M]

/-- Of a fresh ledger that handled any messages: those not meant for a store were refused and
changed nothing; the snapshot is the projection of the others; the summaries under either end are
those of the snapshot; and the counts are of edges and of the vertices where they end.  The snapshots
of several such ledgers, merged, are the projection of all their messages and counted in the same way.
Stores that handled the messages gave the same answers and have the same content. -/
theorem snapshot_coherent (runner : String) (messages : List (Message S F M))
    (histories : List (String × List (Message S F M))) :
    let fresh : Ledger S F := { runner }
    let ledger := (fresh.serve messages).1
    let store := (({ runner } : Store S F).serve messages).1
    let merged := GroupedSolution.merge (histories.map fun history =>
      (({ runner := history.1 } : Ledger S F).serve history.2).1.snapshot)
    (∀ (current : Ledger S F) (message : Message S F M), current.handle message =
      if message.isForStore then .ok (current.react message)
      else .error (.inStore current.runner message.typeName)) ∧
    fresh.serve messages = fresh.serve (messages.filter Message.isForStore) ∧
    ledger.snapshot.Projects (.of {message | message ∈ messages}) ∧
    (ledger.summariesByStart.Holds fun vertex summary =>
      summary.source = vertex ∧ summary ∈ ledger.snapshot.summaries) ∧
    (ledger.summariesByEnd.Holds fun vertex summary =>
      summary.target = vertex ∧ summary ∈ ledger.snapshot.summaries) ∧
    ledger.numEdges = ledger.snapshot.edgeSet.length ∧
    ledger.snapshot.Counted ∧
    merged.Projects (.of {message | ∃ history ∈ histories, message ∈ history.2}) ∧
    merged.Counted ∧
    (fresh.serve messages).2.Perm (({ runner } : Store S F).serve messages).2 ∧
    ledger.snapshot.Regroups store.snapshot ∧
    merged.Regroups (Solution.merge (histories.map fun history =>
      (({ runner := history.1 } : Store S F).serve history.2).1.snapshot)) := by
  have records := records_serve (S := S) (F := F) runner messages
  have projects := records.snapshot
  have merges : (GroupedSolution.merge (histories.map fun history =>
      (({ runner := history.1 } : Ledger S F).serve history.2).1.snapshot)).Projects
        (.of {message | ∃ history ∈ histories, message ∈ history.2}) := by
    rw [Requests.of_any]
    exact GroupedSolution.Projects.merge fun history _ =>
      (records_serve history.1 history.2).snapshot
  refine ⟨handle_eq, (serve_filter _ messages).symm, projects, ?_, ?_, projects.length_reasons,
    projects.counted, merges, merges.counted, ?_, ?_, ?_⟩
  · exact records.summariesByStart.congr fun vertex summary =>
      and_congr_right fun _ => (projects.summaries summary).symm
  · exact records.summariesByEnd.congr fun vertex summary =>
      and_congr_right fun _ => (projects.summaries summary).symm
  · exact (records_empty runner).perm_serve (Store.records_empty runner) rfl messages
  · exact projects.regroups (Store.records_serve runner messages).snapshot
  · refine merges.regroups ?_
    rw [Requests.of_any]
    exact Solution.Projects.merge fun history _ =>
      (Store.records_serve history.1 history.2).snapshot

end Ledger

end Tabulation
