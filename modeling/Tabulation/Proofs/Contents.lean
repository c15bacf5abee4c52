/-
Contents as sets of items.

A content has items, and a union has the items of its parts, each listed once under its key.  So
nothing matters of the parts but what they have between them: not their order, not how they are
grouped, and not how often one of them is given.
-/

import Tabulation.Proofs.Collection
import Tabulation.Proofs.Grouping

namespace Tabulation

variable {S F : Type}

/-- What a content can have. -/
inductive Item (S F : Type) where
  | edge (edge : Edge S F)
  | fact (statement : S) (fact : F)
  /-- There is a list of reasons for the edge, be it empty. -/
  | entry (edge : Edge S F)
  | reason (edge : Edge S F) (reason : Reason S F)
  | summary (edge : Edge S F)
  | finding (finding : Finding S F)

/-! ### Unions in general -/

/-- A union does not depend on the order of its parts, on how they are grouped, or on how often one
of them is given, and what is missing counts for nothing. -/
structure IsUnion {D : Type} (union : List (Option D) → D) (same : D → D → Prop) : Prop where
  comm : ∀ left right, left.Perm right → same (union left) (union right)
  assoc : ∀ groups : List (List (Option D)),
    same (union (groups.map fun group => some (union group))) (union groups.flatten)
  idem : ∀ all, same (union (all ++ all)) (union all)
  again : ∀ all, same (union [some (union all), some (union all)]) (union all)
  absent : ∀ before after, same (union (before ++ none :: after)) (union (before ++ after))

theorem IsUnion.of_items {D I : Type} {union : List (Option D) → D} {same : D → D → Prop}
    {has : D → I → Prop}
    (has_union : ∀ all item, has (union all) item ↔ ∃ data, some data ∈ all ∧ has data item)
    (same_of_has : ∀ left right, (∀ item, has (union left) item ↔ has (union right) item) →
      same (union left) (union right)) : IsUnion union same := by
  have by_members : ∀ left right : List (Option D),
      (∀ data, some data ∈ left ↔ some data ∈ right) → same (union left) (union right) := by
    intro left right members
    refine same_of_has left right fun item => ?_
    simp only [has_union, members]
  constructor
  case comm => exact fun left right perm => by_members left right fun data => perm.mem_iff
  case idem => exact fun all => by_members _ _ fun data => by simp
  case absent => exact fun before after => by_members _ _ fun data => by simp
  case assoc =>
    intro groups
    refine same_of_has _ _ fun item => ?_
    simp only [has_union, List.mem_map, Option.some.injEq, List.mem_flatten]
    constructor
    · rintro ⟨_, ⟨group, isGroup, rfl⟩, inUnion⟩
      obtain ⟨data, member, here⟩ := (has_union group item).mp inUnion
      exact ⟨data, ⟨group, isGroup, member⟩, here⟩
    · rintro ⟨data, ⟨group, isGroup, member⟩, here⟩
      exact ⟨_, ⟨group, isGroup, rfl⟩, (has_union group item).mpr ⟨data, member, here⟩⟩
  case again =>
    intro all
    refine same_of_has _ _ fun item => ?_
    rw [has_union]
    simp

/-! ### Contents in groups -/

namespace Groups

variable {K V : Type} [DecidableEq K]

/-- The same keys, and under each of them the same values in whatever order. -/
structure SameGroups (left right : Groups K V) : Prop where
  keys : left.keys.Perm right.keys
  values : ∀ key, (left.values key).Perm (right.values key)

theorem Lists.sameGroups {left right : Groups K V} {known among : K → Prop}
    {related other : K → V → Prop} (isLeft : left.Lists known related)
    (isRight : right.Lists among other) (sameKeys : ∀ key, known key ↔ among key)
    (same : ∀ key value, related key value ↔ other key value) : left.SameGroups right where
  keys := (List.perm_ext_iff_of_nodup isLeft.keysNodup isRight.keysNodup).mpr fun key =>
    (isLeft.mem_keys key).trans ((sameKeys key).trans (isRight.mem_keys key).symm)
  values := fun key =>
    (List.perm_ext_iff_of_nodup (isLeft.valuesNodup key) (isRight.valuesNodup key)).mpr fun value =>
      (isLeft.mem_values key value).trans
        ((same key value).trans (isRight.mem_values key value).symm)

theorem Holds.sameGroups {left right : Groups K V} {related other : K → V → Prop}
    (isLeft : left.Holds related) (isRight : right.Holds other)
    (same : ∀ key value, related key value ↔ other key value) : left.SameGroups right :=
  isLeft.lists.sameGroups isRight.lists (fun key => exists_congr (same key)) same

end Groups

namespace GroupedSolution

/-- The items of a content, wherever they are listed. -/
def Has (data : GroupedSolution S F) : Item S F → Prop
  | .edge edge => edge ∈ data.edgesByEnd.flatMap (·.2)
  | .fact statement fact => (statement, fact) ∈ data.factsByStatement.pairs
  | .entry edge => edge ∈ data.reasons.keys
  | .reason edge reason => (edge, reason) ∈ data.reasons.pairs
  | .summary edge => edge ∈ data.summaries
  | .finding finding => finding ∈ data.findings

variable [DecidableEq S] [DecidableEq F]

/-- Equal up to the order inside lists. -/
structure SameContent (left right : GroupedSolution S F) : Prop where
  edgesByEnd : left.edgesByEnd.SameGroups right.edgesByEnd
  factsByStatement : left.factsByStatement.SameGroups right.factsByStatement
  reasons : left.reasons.SameGroups right.reasons
  findings : left.findings.Perm right.findings
  summaries : left.summaries.Perm right.summaries

/-- No list has duplicates, edges stand under their ends, and only reasons may be missing. -/
structure IsTidy (data : GroupedSolution S F) : Prop where
  edgesByEnd : data.edgesByEnd.Holds fun vertex edge =>
    edge.target = vertex ∧ data.Has (.edge edge)
  factsByStatement : data.factsByStatement.Holds fun statement fact =>
    data.Has (.fact statement fact)
  reasons : data.reasons.Lists (fun edge => data.Has (.entry edge)) fun edge reason =>
    data.Has (.reason edge reason)
  findingsNodup : data.findings.Nodup
  summariesNodup : data.summaries.Nodup

/-- Without duplicates nothing but the items and their order can differ. -/
theorem IsTidy.sameContent {left right : GroupedSolution S F} (isLeft : left.IsTidy)
    (isRight : right.IsTidy) (same : ∀ item, left.Has item ↔ right.Has item) :
    left.SameContent right where
  edgesByEnd := isLeft.edgesByEnd.sameGroups isRight.edgesByEnd fun _ edge =>
    and_congr_right fun _ => same (.edge edge)
  factsByStatement := isLeft.factsByStatement.sameGroups isRight.factsByStatement
    fun statement fact => same (.fact statement fact)
  reasons := isLeft.reasons.sameGroups isRight.reasons (fun edge => same (.entry edge))
    fun edge reason => same (.reason edge reason)
  findings := (List.perm_ext_iff_of_nodup isLeft.findingsNodup isRight.findingsNodup).mpr
    fun finding => same (.finding finding)
  summaries := (List.perm_ext_iff_of_nodup isLeft.summariesNodup isRight.summariesNodup).mpr
    fun edge => same (.summary edge)

/-! ### Their union -/

section Merging

variable (all : List (GroupedSolution S F))

private theorem holds_edges :
    (merge all).edgesByEnd.Holds fun vertex edge =>
      edge.target = vertex ∧ ∃ data ∈ all, data.Has (.edge edge) := by
  have distinct : ((Text.distinct (all.flatMap fun data =>
      data.edgesByEnd.flatMap (·.2))).map fun edge => (edge.target, edge)).Nodup :=
    (Text.nodup_distinct _).map fun left right same => (Prod.mk.inj same).2
  have holds := Groups.Holds.empty.foldl_push distinct fun _ _ => id
  rw [List.foldl_map] at holds
  refine holds.congr fun vertex edge => ?_
  rw [false_or, List.mem_map]
  constructor
  · rintro ⟨other, member, same⟩
    obtain ⟨rfl, rfl⟩ := Prod.mk.inj same
    exact ⟨rfl, List.mem_flatMap.mp ((Text.mem_distinct _ _).mp member)⟩
  · rintro ⟨rfl, parts⟩
    exact ⟨edge, (Text.mem_distinct _ _).mpr (List.mem_flatMap.mpr parts), rfl⟩

private theorem holds_facts :
    (merge all).factsByStatement.Holds fun statement fact =>
      ∃ data ∈ all, data.Has (.fact statement fact) :=
  (Groups.Holds.empty.foldl_add _).congr fun statement fact => by
    rw [false_or, List.mem_flatMap]
    rfl

private theorem lists_reasons :
    (merge all).reasons.Lists (fun edge => ∃ data ∈ all, data.Has (.entry edge))
      fun edge reason => ∃ data ∈ all, data.Has (.reason edge reason) :=
  (Groups.Lists.empty.foldl_addAll _).congr
    (fun edge => by
      rw [false_or, Groups.mem_keys_flatMap]
      rfl)
    fun edge reason => by
      rw [false_or, Groups.mem_pairs_flatMap]
      rfl

/-- A union has the items of its parts. -/
theorem has_merge (item : Item S F) :
    (merge all).Has item ↔ ∃ data ∈ all, data.Has item := by
  cases item with
  | edge edge =>
      refine ((holds_edges all).mem_flatMap edge).trans ⟨?_, ?_⟩
      · rintro ⟨vertex, _, parts⟩
        exact parts
      · exact fun parts => ⟨edge.target, rfl, parts⟩
  | fact statement fact => exact (holds_facts all).mem_pairs statement fact
  | entry edge => exact (lists_reasons all).mem_keys edge
  | reason edge reason => exact (lists_reasons all).mem_pairs edge reason
  | summary edge => exact (Text.mem_distinct edge _).trans List.mem_flatMap
  | finding finding => exact (Text.mem_distinct finding _).trans List.mem_flatMap

theorem isTidy_merge : (merge all).IsTidy where
  edgesByEnd := (holds_edges all).congr fun _ edge =>
    and_congr_right fun _ => (has_merge all (.edge edge)).symm
  factsByStatement := (holds_facts all).congr fun statement fact =>
    (has_merge all (.fact statement fact)).symm
  reasons := (lists_reasons all).congr (fun edge => (has_merge all (.entry edge)).symm)
    fun edge reason => (has_merge all (.reason edge reason)).symm
  findingsNodup := Text.nodup_distinct _
  summariesNodup := Text.nodup_distinct _

end Merging

theorem has_mergePresent (all : List (Option (GroupedSolution S F))) (item : Item S F) :
    (mergePresent all).Has item ↔ ∃ data, some data ∈ all ∧ data.Has item := by
  unfold mergePresent
  rw [has_merge]
  simp

theorem isUnion_mergePresent :
    IsUnion (mergePresent (S := S) (F := F)) SameContent :=
  .of_items has_mergePresent fun _ _ same =>
    (isTidy_merge _).sameContent (isTidy_merge _) same

end GroupedSolution

/-! ### Contents as lists -/

namespace Solution

/-- The items of a content. Every edge stands for its list of reasons as well. -/
def Has (data : Solution S F) : Item S F → Prop
  | .edge edge | .entry edge => edge ∈ data.edges
  | .fact statement fact => ⟨statement, fact⟩ ∈ data.facts
  | .reason edge reason => (edge, reason) ∈ data.reasons
  | .summary edge => edge ∈ data.summaries
  | .finding finding => finding ∈ data.findings

/-- No list has duplicates. -/
structure IsTidy (data : Solution S F) : Prop where
  edges : data.edges.Nodup
  reasons : data.reasons.Nodup
  facts : data.facts.Nodup
  summaries : data.summaries.Nodup
  findings : data.findings.Nodup

theorem IsTidy.sameContent {left right : Solution S F} (isLeft : left.IsTidy)
    (isRight : right.IsTidy) (same : ∀ item, left.Has item ↔ right.Has item) :
    left.SameContent right where
  edges := (List.perm_ext_iff_of_nodup isLeft.edges isRight.edges).mpr fun edge =>
    same (.edge edge)
  reasons := (List.perm_ext_iff_of_nodup isLeft.reasons isRight.reasons).mpr fun pair =>
    same (.reason pair.1 pair.2)
  facts := (List.perm_ext_iff_of_nodup isLeft.facts isRight.facts).mpr fun vertex =>
    same (.fact vertex.statement vertex.fact)
  summaries := (List.perm_ext_iff_of_nodup isLeft.summaries isRight.summaries).mpr fun edge =>
    same (.summary edge)
  findings := (List.perm_ext_iff_of_nodup isLeft.findings isRight.findings).mpr fun finding =>
    same (.finding finding)

variable [DecidableEq S] [DecidableEq F] [Hashable S] [Hashable F]

theorem has_merge (all : List (Solution S F)) (item : Item S F) :
    (merge all).Has item ↔ ∃ data ∈ all, data.Has item := by
  cases item <;> simp [Has, merge, Text.mem_distinctByHash, List.mem_flatMap]

theorem isTidy_merge (all : List (Solution S F)) : (merge all).IsTidy where
  edges := Text.nodup_distinctByHash _
  reasons := Text.nodup_distinctByHash _
  facts := Text.nodup_distinctByHash _
  summaries := Text.nodup_distinctByHash _
  findings := Text.nodup_distinctByHash _

theorem isUnion_merge :
    IsUnion (fun all : List (Option (Solution S F)) => merge (all.filterMap id)) SameContent :=
  .of_items (fun all item => by simp [has_merge]) fun _ _ same =>
    (isTidy_merge _).sameContent (isTidy_merge _) same

end Solution

end Tabulation
