/-
Several stores, merged.

What several stores have recorded between them is what their messages asked for.  So it does not
matter how messages are spread over stores, in which order each store handles its own, or which of
them are handled more than once: the union of the contents is the content of one store that handled
all messages.
-/

import Tabulation.Proofs.Snapshots

namespace Tabulation

variable {S F M : Type}

/-- Between them, the histories that are there have the given messages, each at least once. -/
def Spreads (messages : List (Message S F M))
    (histories : List (Option (String × List (Message S F M)))) : Prop :=
  ∀ message, message ∈ messages ↔
    ∃ history, some history ∈ histories ∧ message ∈ history.2

/-- Each history names a store and lists the messages that it handled. -/
theorem Spreads.requests_eq {messages : List (Message S F M)}
    {histories : List (Option (String × List (Message S F M)))}
    (spreads : Spreads messages histories) :
    Requests.of {message | message ∈ messages} =
      .any (histories.filterMap id) fun history => .of {message | message ∈ history.2} := by
  rw [← Requests.of_any]
  congr 1
  ext message
  simpa [Set.mem_ofPred_eq] using spreads message

variable [DecidableEq S] [DecidableEq F] [Shown S] [Shown F] [Shown M]

namespace Ledger

/-- The content of a fresh ledger after its messages. -/
def contentOf (history : String × List (Message S F M)) : GroupedSolution S F :=
  (({ runner := history.1 } : Ledger S F).serve history.2).1.snapshot

theorem projects_contentOf (history : String × List (Message S F M)) :
    (contentOf history).Projects (.of {message | message ∈ history.2}) :=
  (records_serve history.1 history.2).snapshot

variable {messages : List (Message S F M)} {histories : List (Option (String × List (Message S F M)))}

/-- The merged contents are what all messages asked for. -/
theorem projects_merge (spreads : Spreads messages histories) :
    (GroupedSolution.mergePresent (histories.map (Option.map contentOf))).Projects
      (.of {message | message ∈ messages}) := by
  have parts : (histories.map (Option.map contentOf)).filterMap id =
      (histories.filterMap id).map (contentOf (S := S) (F := F)) := by
    rw [List.filterMap_map, List.map_filterMap]
    rfl
  unfold GroupedSolution.mergePresent
  rw [parts, spreads.requests_eq]
  exact .merge fun history _ => projects_contentOf history

theorem merge_contents (spreads : Spreads messages histories) (runner : String) :
    (GroupedSolution.mergePresent (histories.map (Option.map contentOf))).SameContent
      (contentOf (runner, messages)) := by
  obtain ⟨mergedTidy, mergedHas⟩ := (projects_merge spreads).isTidy_and_has
  obtain ⟨tidy, has⟩ := (projects_contentOf (runner, messages)).isTidy_and_has
  exact mergedTidy.sameContent tidy fun item => (mergedHas item).trans (has item).symm

end Ledger

namespace Store

variable [Hashable S] [Hashable F]

/-- The content of a fresh store after its messages. -/
def contentOf (history : String × List (Message S F M)) : Solution S F :=
  (({ runner := history.1 } : Store S F).serve history.2).1.snapshot

theorem projects_contentOf (history : String × List (Message S F M)) :
    (contentOf history).Projects (.of {message | message ∈ history.2}) :=
  (records_serve history.1 history.2).snapshot

variable {messages : List (Message S F M)} {histories : List (Option (String × List (Message S F M)))}

/-- The merged contents are what all messages asked for. -/
theorem projects_merge (spreads : Spreads messages histories) :
    (Solution.merge ((histories.filterMap id).map contentOf)).Projects
      (.of {message | message ∈ messages}) := by
  rw [spreads.requests_eq]
  exact .merge fun history _ => projects_contentOf history

theorem merge_contents (spreads : Spreads messages histories) (runner : String) :
    (Solution.merge ((histories.filterMap id).map contentOf)).SameContent
      (contentOf (runner, messages)) := by
  obtain ⟨mergedTidy, mergedHas⟩ := (projects_merge spreads).isTidy_and_has
  obtain ⟨tidy, has⟩ := (projects_contentOf (runner, messages)).isTidy_and_has
  exact mergedTidy.sameContent tidy fun item => (mergedHas item).trans (has item).symm

end Store

variable [Hashable S] [Hashable F]

/-- Messages spread over several stores, some of them missing: merged, the contents are up to the
order inside lists the content of one store that handled all messages, for ledgers with their groups
and for stores with their lists, and they are what the messages asked for. Of any contents
whatsoever the union does not depend on the order of the parts, their grouping or their repetition,
and it lists nothing twice. -/
theorem merge_is_union_of_histories {messages : List (Message S F M)}
    {histories : List (Option (String × List (Message S F M)))}
    (spreads : Spreads messages histories) (runner : String) :
    (GroupedSolution.mergePresent (histories.map (Option.map Ledger.contentOf))).SameContent
      (Ledger.contentOf (runner, messages)) ∧
    (Solution.merge ((histories.filterMap id).map Store.contentOf)).SameContent
      (Store.contentOf (runner, messages)) ∧
    (GroupedSolution.mergePresent (histories.map (Option.map Ledger.contentOf))).Projects
      (.of {message | message ∈ messages}) ∧
    (Solution.merge ((histories.filterMap id).map Store.contentOf)).Projects
      (.of {message | message ∈ messages}) ∧
    IsUnion (GroupedSolution.mergePresent (S := S) (F := F)) GroupedSolution.SameContent ∧
    (∀ all : List (Option (GroupedSolution S F)), (GroupedSolution.mergePresent all).IsTidy) ∧
    IsUnion (fun all : List (Option (Solution S F)) => Solution.merge (all.filterMap id))
      Solution.SameContent ∧
    ∀ all : List (Solution S F), (Solution.merge all).IsTidy :=
  ⟨Ledger.merge_contents spreads runner, Store.merge_contents spreads runner,
    Ledger.projects_merge spreads, Store.projects_merge spreads,
    GroupedSolution.isUnion_mergePresent, fun _ => GroupedSolution.isTidy_merge _,
    Solution.isUnion_merge, Solution.isTidy_merge⟩

/-- One edge with one reason in both stores, another edge with two reasons in the second one. -/
theorem merge_is_union_of_histories_sample :
    let first : Edge String String := .loop ⟨"start", "x"⟩
    let second : Edge String String := ⟨⟨"start", "x"⟩, ⟨"end", "y"⟩⟩
    let seed : Message String String String := .newEdge "a" first .initial
    let flow : Message String String String := .newEdge "a" second (.derived .sequent first)
    let loop : Message String String String := .newEdge "b" second (.derived .sequent second)
    let summary : Message String String String := .newSummary "a" second
    let finding : Message String String String := .newFinding "b" ⟨⟨"end", "y"⟩, "rule", "found"⟩
    let histories := [some ("a", [seed, summary]), none, some ("b", [flow, seed, finding, flow, loop])]
    let messages := [finding, flow, loop, summary, seed]
    Spreads messages histories ∧
    (GroupedSolution.mergePresent (histories.map (Option.map Ledger.contentOf))).SameContent
      (Ledger.contentOf ("c", messages)) ∧
    (Solution.merge ((histories.filterMap id).map Store.contentOf)).SameContent
      (Store.contentOf ("c", messages)) := by
  intro first second seed flow loop summary finding histories messages
  have spreads : Spreads messages histories := by
    intro message
    simp only [messages, histories, List.mem_cons, List.not_mem_nil, Option.some.injEq,
      reduceCtorEq, or_false, false_or, or_and_right, exists_or, exists_eq_left]
    tauto
  have merged := merge_is_union_of_histories spreads "c"
  exact ⟨spreads, merged.1, merged.2.1⟩

end Tabulation
