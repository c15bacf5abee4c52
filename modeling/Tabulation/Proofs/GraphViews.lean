/-
What the tables of a graph say about its edges.

A graph is made of a list and its successors, and parts of it are taken any number of times.  Each
view of the edges reads the same groups of ids, so it is enough that these list each edge once, and
that the ids at both of its ends have their nodes.  Taking a part only leaves edges out.
-/

import Mathlib.Data.List.Sort
import Mathlib.Data.Set.Finite.Basic
import Tabulation.Proofs.GrowingGraphs

namespace Tabulation

namespace Digraph.Tables

variable {α : Type} {g : Tables α}

theorem hasEdge_iff {i j : Int} : g.hasEdge i j = true ↔ j ∈ g.edges.values i := List.contains_iff_mem

/-! ### Parts of a graph -/

theorem lists_subgraph (g : Tables α) (included : List Int) :
    (g.subgraph included).edges.Lists (· ∈ included) fun i j =>
      g.hasEdge i j = true ∧ i ∈ included ∧ j ∈ included := by
  have parts : ∀ i j, (i, j) ∈ Groups.pairs (included.map fun id =>
      (id, (g.edges.values id).filter included.contains)) ↔
        g.hasEdge i j = true ∧ i ∈ included ∧ j ∈ included := by
    intro i j
    simp only [Groups.pairs, List.mem_flatMap, List.mem_map, hasEdge_iff]
    constructor
    · rintro ⟨_, ⟨id, member, rfl⟩, k, found, same⟩
      obtain ⟨edge, inside⟩ := List.mem_filter.mp found
      cases same
      exact ⟨edge, member, List.contains_iff_mem.mp inside⟩
    · rintro ⟨edge, source, target⟩
      exact ⟨_, ⟨i, source, rfl⟩, j,
        List.mem_filter.mpr ⟨edge, List.contains_iff_mem.mpr target⟩, rfl⟩
  refine (Groups.Lists.empty.foldl_addAll _).congr (fun i => ?_) fun i j => ?_
  · rw [false_or, Groups.keys, List.map_map]
    exact Eq.to_iff (congrArg (i ∈ ·) (List.map_id included))
  · rw [false_or]
    exact parts i j

/-- The edges of a part are those between the ids that it includes. -/
theorem hasEdge_subgraph {included : List Int} {i j : Int} :
    (g.subgraph included).hasEdge i j = true ↔ g.hasEdge i j = true ∧ i ∈ included ∧ j ∈ included :=
  hasEdge_iff.trans ((lists_subgraph g included).mem_values i j)

/-- A graph, a part of it, a part of this part, and so on. -/
inductive PartOf (g : Tables α) : Tables α → Prop where
  | whole : PartOf g g
  | subgraph {part : Tables α} (included : List Int) : PartOf g part → PartOf g (part.subgraph included)

/-! ### Views of the edges -/

/-- Each edge is listed once, under an id of the graph, and both of its ends have their nodes. -/
structure IsSound (g : Tables α) : Prop where
  nodup : ∀ i, (g.edges.values i).Nodup
  listed : ∀ {i j}, g.hasEdge i j = true → i ∈ g.keys
  numbered : ∀ {i j}, g.hasEdge i j = true →
    (∃ node, g.nodes.lookup i = some node ∧ node.id = i) ∧
      ∃ node, g.nodes.lookup j = some node ∧ node.id = j

theorem IsSound.subgraph (isSound : g.IsSound) (included : List Int) :
    (g.subgraph included).IsSound where
  nodup := (lists_subgraph g included).valuesNodup
  listed := fun edge => (hasEdge_subgraph.mp edge).2.1
  numbered := fun edge => isSound.numbered (hasEdge_subgraph.mp edge).1

theorem PartOf.isSound {part : Tables α} (isPart : g.PartOf part) (isSound : g.IsSound) :
    part.IsSound := by
  induction isPart with
  | whole => exact isSound
  | subgraph included _ inductionHypothesis => exact inductionHypothesis.subgraph included

theorem mem_row {i j : Int} : j ∈ g.row i ↔ g.hasEdge i j = true := by
  rw [row, List.mem_mergeSort, hasEdge_iff]

theorem IsSound.pairwise_row (isSound : g.IsSound) (i : Int) : (g.row i).Pairwise (· < ·) := by
  have sorted := @List.pairwise_mergeSort Int (fun a b => decide (a ≤ b))
    (fun a b c first second => by simp only [decide_eq_true_eq] at *; exact Int.le_trans first second)
    (fun a b => by simpa using Int.le_total a b) (g.edges.values i)
  have distinct : (g.row i).Nodup := (List.mergeSort_perm _ _).nodup_iff.mpr (isSound.nodup i)
  refine sorted.imp₂ (fun a b atMost different => ?_) distinct
  exact lt_of_le_of_ne (of_decide_eq_true atMost) different

/-- The ids that an id leads to, in increasing order, are its row. -/
theorem IsSound.row_eq (isSound : g.IsSound) {i : Int} {ids : List Int} (sorted : ids.Pairwise (· < ·))
    (same : ∀ j, j ∈ ids ↔ g.hasEdge i j = true) : g.row i = ids :=
  (isSound.pairwise_row i).eq_of_mem_iff sorted fun j => mem_row.trans (same j).symm

/-- Code that keeps the ids that it is called for with their costs, up to one that it accepts. -/
def keeping (stop : Int → Bool) (seen : List (Int × Int)) (id cost : Int) : Bool × List (Int × Int) :=
  (stop id, seen ++ [(id, cost)])

/-- What is visited of some ids in increasing order: those with no accepted id before them. -/
theorem exists_visitEach (stop : Int → Bool) {ids : List Int} (sorted : ids.Pairwise (· < ·))
    (seen : List (Int × Int)) :
    ∃ visited, (visitEach (keeping stop) ids seen).2 = seen ++ visited.map (·, 1) ∧
      visited <+: ids ∧
      (∀ j, j ∈ visited ↔ j ∈ ids ∧ ∀ k ∈ ids, k < j → stop k = false) ∧
      ((visitEach (keeping stop) ids seen).1 = true ↔ ∃ j ∈ ids, stop j = true) := by
  induction ids generalizing seen with
  | nil => exact ⟨[], by simp [visitEach]⟩
  | cons id rest inductionHypothesis =>
      obtain ⟨first, sorted⟩ := List.pairwise_cons.mp sorted
      rw [visitEach, keeping]
      cases accepted : stop id with
      | true =>
          refine ⟨[id], rfl, ⟨rest, rfl⟩, fun j => ?_, fun _ => ⟨id, List.mem_cons_self, accepted⟩,
            fun _ => rfl⟩
          constructor
          · intro member
            obtain rfl := List.mem_singleton.mp member
            refine ⟨List.mem_cons_self,
              List.forall_mem_cons.mpr ⟨fun less => ?_, fun k member less => ?_⟩⟩
            · exact absurd less (Int.lt_irrefl _)
            · exact absurd (Int.lt_trans less (first k member)) (Int.lt_irrefl _)
          · rintro ⟨member, before⟩
            rcases List.mem_cons.mp member with rfl | later
            · exact List.mem_singleton_self _
            · exact nomatch accepted.symm.trans (before id List.mem_cons_self (first j later))
      | false =>
          obtain ⟨visited, seenThen, front, members, aborted⟩ :=
            inductionHypothesis sorted (seen ++ [(id, 1)])
          refine ⟨id :: visited, ?_, (List.prefix_cons_inj id).mpr front, fun j => ?_, ?_⟩
          · exact seenThen.trans (List.append_assoc _ _ _)
          · rw [List.mem_cons, List.mem_cons, members, List.forall_mem_cons]
            constructor
            · rintro (rfl | ⟨member, before⟩)
              · refine ⟨.inl rfl, fun _ => accepted, fun k member less => ?_⟩
                exact absurd (Int.lt_trans less (first k member)) (Int.lt_irrefl _)
              · exact ⟨.inr member, fun _ => accepted, before⟩
            · rintro ⟨same | member, -, before⟩
              · exact .inl same
              · exact .inr ⟨member, before⟩
          · rw [List.exists_mem_cons_iff, accepted]
            exact aborted.trans (or_iff_right Bool.false_ne_true).symm

/-- All views of the edges show one and the same relation. Both ends of an edge have nodes. The
nodes that an id leads to are listed in increasing order, those that lead to it are found, and a
visit goes through the ids that an id leads to up to the first one that is accepted, each for a cost
of one. -/
structure ShowsEdges [Inhabited α] (g : Tables α) : Prop where
  ends : ∀ i j, g.hasEdge i j = true → (∃ node, g.nodes.lookup i = some node ∧ node.id = i) ∧
    ∃ node, g.nodes.lookup j = some node ∧ node.id = j
  successors : ∀ i node, node ∈ g.successors i ↔
    g.nodes.lookup node.id = some node ∧ g.hasEdge i node.id = true
  sorted : ∀ i, ((g.successors i).map Node.id).Pairwise (· < ·)
  predecessors : ∀ j node, node ∈ g.predecessors j ↔
    g.nodes.lookup node.id = some node ∧ g.hasEdge node.id j = true
  visit : ∀ i stop, ∃ visited : List Int,
    (g.visit i (keeping stop) []).2 = visited.map (·, 1) ∧ visited.Pairwise (· < ·) ∧
    (∀ j, j ∈ visited ↔ g.hasEdge i j = true ∧ ∀ k, g.hasEdge i k = true → k < j → stop k = false) ∧
    ((g.visit i (keeping stop) []).1 = true ↔ ∃ j, g.hasEdge i j = true ∧ stop j = true)

private theorem mem_map_node [Inhabited α] {ids : List Int} {node : Node α}
    (numbered : ∀ i ∈ ids, ∃ node, g.nodes.lookup i = some node ∧ node.id = i) :
    node ∈ ids.map g.node ↔ g.nodes.lookup node.id = some node ∧ node.id ∈ ids := by
  rw [List.mem_map]
  constructor
  · rintro ⟨i, member, rfl⟩
    obtain ⟨node, found, rfl⟩ := numbered i member
    rw [Tables.node, found, Option.getD_some]
    exact ⟨found, member⟩
  · rintro ⟨found, member⟩
    exact ⟨node.id, member, by rw [Tables.node, found, Option.getD_some]⟩

theorem IsSound.showsEdges [Inhabited α] (isSound : g.IsSound) : g.ShowsEdges where
  ends := fun _ _ edge => isSound.numbered edge
  successors := fun i node => by
    rw [Tables.successors, mem_map_node fun j member =>
      (isSound.numbered (mem_row.mp member)).2, mem_row]
  sorted := fun i => by
    have ids : (g.successors i).map Node.id = g.row i := by
      rw [Tables.successors, List.map_map]
      refine (List.map_congr_left fun j member => ?_).trans (List.map_id _)
      obtain ⟨node, found, same⟩ := (isSound.numbered (mem_row.mp member)).2
      rw [Function.comp_apply, Tables.node, found, Option.getD_some, same, id_eq]
    rw [ids]
    exact isSound.pairwise_row i
  predecessors := fun j node => by
    rw [Tables.predecessors,
      mem_map_node fun i member => (isSound.numbered (List.mem_filter.mp member).2).1, List.mem_filter]
    exact and_congr_right fun _ => and_iff_right_of_imp isSound.listed
  visit := fun i stop => by
    obtain ⟨visited, seen, front, members, aborted⟩ :=
      exists_visitEach stop (isSound.pairwise_row i) []
    simp only [mem_row] at members aborted
    exact ⟨visited, seen, (isSound.pairwise_row i).sublist front.sublist, members, aborted⟩

/-! ### The graph that is explored -/

/-- Tables with the same ids, values and edges as a graph over dense ids. -/
structure Renders (g : Tables α) (dense : Digraph α) : Prop where
  order : g.order = dense.order
  keys : g.keys = dense.keys.map Int.ofNat
  value : ∀ id : Nat, (g.nodes.lookup (id : Int)).map Node.value = dense.value? id
  row : ∀ id : Nat, g.row id = (dense.successors id).map Int.ofNat

theorem Renders.hasEdge_iff {dense : Digraph α} (renders : g.Renders dense) {i : Nat} {j : Int} :
    g.hasEdge i j = true ↔ ∃ id : Nat, j = id ∧ dense.Links i id := by
  rw [← mem_row, renders.row, List.mem_map]
  exact exists_congr fun id => and_comm.trans (and_congr_left' eq_comm)

private theorem sublist_subgraph {dense : Digraph α} (included : List Nat) (id : Nat) :
    ((dense.subgraph included).successors id).Sublist (dense.successors id) := by
  unfold Digraph.successors Digraph.subgraph
  rw [Array.getElem?_mapIdx]
  cases dense.rows[id]? with
  | none => exact List.Sublist.refl _
  | some row =>
      rw [Option.map_some, Option.getD_some, Option.getD_some]
      split
      · exact List.filter_sublist
      · exact List.nil_sublist row

/-- Parts between ids from zero on have the same ids, values and edges, too. -/
theorem Renders.subgraph {dense : Digraph α} (renders : g.Renders dense) (isSound : g.IsSound)
    (included : List Nat) :
      (g.subgraph (included.map Int.ofNat)).Renders (dense.subgraph included) where
  order := renders.order
  keys := rfl
  value := renders.value
  row := fun i => by
    have mem_included : ∀ id : Nat, (id : Int) ∈ included.map Int.ofNat ↔ id ∈ included := fun id =>
      List.mem_map_of_injective fun _ _ => Int.ofNat.inj
    refine (isSound.subgraph _).row_eq ?_ fun j => ?_
    · have sorted := isSound.pairwise_row i
      rw [renders.row] at sorted
      exact sorted.sublist ((sublist_subgraph included i).map _)
    · rw [hasEdge_subgraph, renders.hasEdge_iff, mem_included, List.mem_map]
      constructor
      · rintro ⟨id, link, rfl⟩
        obtain ⟨source, target, link⟩ := links_subgraph.mp link
        exact ⟨⟨id, rfl, link⟩, source, (mem_included id).mpr target⟩
      · rintro ⟨⟨id, rfl, link⟩, source, target⟩
        exact ⟨id, links_subgraph.mpr ⟨source, (mem_included id).mp target, link⟩, rfl⟩

section Constructing

variable [DecidableEq α] {nodes values : List α} {successors : α → List α}

/-- An edge leads from the id of a value to that of a successor. -/
theorem Numbers.hasEdge_iff (numbers : g.Numbers values (Linked successors values values.length))
    {i j : Int} : g.hasEdge i j = true ↔
      ∃ a b, IsId values a i ∧ IsId values b j ∧ b ∈ successors a := by
  rw [Tables.hasEdge_iff, numbers.edges.mem_values, Linked, List.take_length]

theorem Numbers.mem_keys {edge : Int → Int → Prop} (numbers : g.Numbers values edge) {i : Int} :
    i ∈ g.keys ↔ ∃ a, IsId values a i := by
  rw [numbers.keys, List.mem_map]
  constructor
  · rintro ⟨place, inside, rfl⟩
    exact ⟨_, place, List.getElem?_eq_getElem (List.mem_range.mp inside), rfl⟩
  · rintro ⟨a, place, here, rfl⟩
    exact ⟨place, List.mem_range.mpr (List.getElem?_eq_some_iff.mp here).1, rfl⟩

theorem Numbers.isSound (numbers : g.Numbers values (Linked successors values values.length)) :
    g.IsSound where
  nodup := numbers.edges.valuesNodup
  listed := fun edge => by
    obtain ⟨a, _, source, -⟩ := numbers.hasEdge_iff.mp edge
    exact numbers.mem_keys.mpr ⟨a, source⟩
  numbered := fun {i j} edge => by
    obtain ⟨a, b, source, target, -⟩ := numbers.hasEdge_iff.mp edge
    exact ⟨⟨⟨i, a⟩, (numbers.nodes i _).mpr ⟨source, rfl⟩, rfl⟩,
      ⟨⟨j, b⟩, (numbers.nodes j _).mpr ⟨target, rfl⟩, rfl⟩⟩

variable {closure : List α} {bound : Nat}

/-- Tables that number what a search finds have the graph that is explored. -/
theorem Numbers.renders (isClosure : IsClosure nodes successors closure)
    (enough : closure.length ≤ bound)
    (order : g.order = (explore bound nodes successors).order)
    (numbers : g.Numbers (explore bound nodes successors).values (Linked successors
      (explore bound nodes successors).values (explore bound nodes successors).order)) :
    g.Renders (explore bound nodes successors) where
  order := order
  keys := numbers.keys
  value := fun i => by
    refine Option.ext fun a => ?_
    rw [Option.map_eq_some_iff]
    constructor
    · rintro ⟨node, found, rfl⟩
      obtain ⟨⟨place, here, same⟩, -⟩ := (numbers.nodes _ _).mp found
      rwa [Int.ofNat.inj same]
    · intro here
      exact ⟨⟨i, a⟩, (numbers.nodes _ _).mpr ⟨⟨i, here, rfl⟩, rfl⟩, rfl⟩
  row := fun i => by
    refine numbers.isSound.row_eq ?_ fun j => ?_
    · exact (pairwise_successors_explore i).map _ fun _ _ => Int.ofNat_lt.mpr
    · rw [numbers.hasEdge_iff, List.mem_map]
      constructor
      · rintro ⟨id, link, rfl⟩
        obtain ⟨a, b, source, target, next⟩ := (links_explore isClosure enough).mp link
        exact ⟨a, b, ⟨i, source, rfl⟩, ⟨id, target, rfl⟩, next⟩
      · rintro ⟨a, b, ⟨place, source, same⟩, ⟨id, target, rfl⟩, next⟩
        obtain rfl := Int.ofNat.inj same
        exact ⟨id, (links_explore isClosure enough).mpr ⟨a, b, source, target, next⟩, rfl⟩

variable [Inhabited α]

/-- The ids are gone through to their end, and what they number then is what a search finds. -/
theorem exists_construct? (isClosure : IsClosure nodes successors closure)
    (enough : closure.length ≤ bound) : ∃ g : Tables α,
      (∀ rounds, g.order < rounds → construct? rounds nodes successors = some g) ∧
      g.order = (explore bound nodes successors).order ∧
      g.Numbers (explore bound nodes successors).values (Linked successors
        (explore bound nodes successors).values (explore bound nodes successors).order) := by
  have nodup : (explore bound nodes successors).values.Nodup :=
      Search.nodup_reach bound successors nodes
  have bounded : (explore bound nodes successors).values.length ≤ bound := by
    refine (nodup.length_le_of_subset fun a member => ?_).trans enough
    obtain ⟨start, isStart, path⟩ := (mem_values_explore isClosure enough).mp member
    exact isClosure.mem_of_reaches (isClosure.nodes start isStart) path
  have listed := numbers_empty.foldl_add nodes
  rw [foldl_meet_nil] at listed
  have noEdge : ∀ i j, False ↔ Linked successors (explore bound nodes successors).values 0 i j :=
    fun _ _ => ⟨False.elim, fun ⟨_, _, isId, _⟩ => not_isId_nil isId⟩
  have start := listed.congr noEdge
  obtain ⟨g, grown, numbers, order⟩ := start.grow nodup (Nat.zero_le _) rfl bounded
    (Nat.lt_of_lt_of_eq (Nat.lt_succ_self _) (Nat.zero_add _).symm)
  exact ⟨g, fun rounds more => grow_of_le (order ▸ more) grown, order, numbers⟩

/-- The tables of the graph of a list. The ids go from zero up to the order. They belong to what the
successors lead to from the list, and the nodes have the values of their ids. A value of the list
has a smaller id than another value if it comes first in the list earlier than that one, which may
not be listed at all. There is an edge between two ids where the value of the second one is a
successor of the value of the first one. -/
structure IsGraphOf (g : Tables α) (nodes : List α) (successors : α → List α) : Prop where
  keys : g.keys = (List.range g.order).map Int.ofNat
  values : ∀ a, (∃ i, g.ids.lookup a = some i) ↔ ∃ start ∈ nodes, Reaches successors start a
  known : ∀ i, (∃ node, g.nodes.lookup i = some node) ↔ i ∈ g.keys
  inverse : ∀ a i, g.ids.lookup a = some i ↔ g.nodes.lookup i = some ⟨i, a⟩
  node_id : ∀ i node, g.nodes.lookup i = some node → node.id = i
  first : ∀ a ∈ nodes, ∀ b i j, g.ids.lookup a = some i → g.ids.lookup b = some j →
    (i < j ↔ nodes.idxOf a < nodes.idxOf b)
  edges : ∀ i j, g.hasEdge i j = true ↔ i ∈ g.keys ∧ j ∈ g.keys ∧ g.value j ∈ successors (g.value i)

omit [Inhabited α] in
/-- What stands in front comes before all the rest. -/
private theorem idxOf_append_lt_iff {front more : List α} {a : α} (member : a ∈ front) (b : α) :
    (front ++ more).idxOf a < (front ++ more).idxOf b ↔ front.idxOf a < front.idxOf b := by
  have inside := List.idxOf_lt_length_of_mem member
  rw [List.idxOf_append_of_mem member]
  by_cases other : b ∈ front
  · rw [List.idxOf_append_of_mem other]
  · rw [List.idxOf_append_of_notMem other, List.idxOf_eq_length other]
    omega

theorem Numbers.isGraphOf (isClosure : IsClosure nodes successors closure)
    (enough : closure.length ≤ bound)
    (order : g.order = (explore bound nodes successors).order)
    (numbers : g.Numbers (explore bound nodes successors).values (Linked successors
      (explore bound nodes successors).values (explore bound nodes successors).order)) :
    g.IsGraphOf nodes successors where
  keys := by rw [numbers.keys, order, Digraph.order]
  values := fun a => by
    rw [← mem_values_explore isClosure enough]
    constructor
    · rintro ⟨i, found⟩
      exact ((numbers.ids a i).mp found).mem
    · intro known
      obtain ⟨i, isId⟩ := exists_isId known
      exact ⟨i, (numbers.ids a i).mpr isId⟩
  known := fun i => by
    rw [numbers.mem_keys]
    constructor
    · rintro ⟨node, found⟩
      exact ⟨node.value, ((numbers.nodes i node).mp found).1⟩
    · rintro ⟨a, isId⟩
      exact ⟨⟨i, a⟩, (numbers.nodes i _).mpr ⟨isId, rfl⟩⟩
  inverse := fun a i => by rw [numbers.ids, numbers.nodes, and_iff_left rfl]
  node_id := fun i node found => ((numbers.nodes i node).mp found).2
  first := fun a listed b i j source target => by
    obtain ⟨-, rfl⟩ := (isId_iff_idxOf numbers.nodup).mp ((numbers.ids a i).mp source)
    obtain ⟨-, rfl⟩ := (isId_iff_idxOf numbers.nodup).mp ((numbers.ids b j).mp target)
    obtain ⟨more, values⟩ : Text.distinct nodes <+: (explore bound nodes successors).values :=
      prefix_expand successors bound _ _
    rw [Int.ofNat_lt, ← values, idxOf_append_lt_iff ((Text.mem_distinct a nodes).mpr listed),
      ← foldl_meet_nil, idxOf_foldl_meet_lt_iff, List.nil_append]
  edges := fun i j => by
    rw [numbers.hasEdge_iff, numbers.mem_keys, numbers.mem_keys]
    constructor
    · rintro ⟨a, b, source, target, next⟩
      rw [numbers.value_eq source, numbers.value_eq target]
      exact ⟨⟨a, source⟩, ⟨b, target⟩, next⟩
    · rintro ⟨⟨a, source⟩, ⟨b, target⟩, next⟩
      rw [numbers.value_eq source, numbers.value_eq target] at next
      exact ⟨a, b, source, target, next⟩

/-- The tables of a list with finitely many values behind it are made in as many rounds as there are
values. They have the graph of the list, which is the one that is explored. In the graph and in all
of its parts every view of the edges shows the same ones, and a part keeps the ids, the nodes and
the order, and those edges that have both ends in it. -/
theorem exists_isGraphOf (finite : {a | ∃ start ∈ nodes, Reaches successors start a}.Finite) :
    ∃ g : Tables α,
      (∀ rounds, g.order < rounds → construct? rounds nodes successors = some g) ∧
      g.IsGraphOf nodes successors ∧
      (∀ bound, g.order ≤ bound → g.Renders (explore bound nodes successors) ∧
        ∀ included : List Nat, (g.subgraph (included.map Int.ofNat)).Renders
          ((explore bound nodes successors).subgraph included)) ∧
      ∀ part, g.PartOf part → part.ShowsEdges ∧ ∀ included : List Int,
        (part.subgraph included).ids = part.ids ∧ (part.subgraph included).nodes = part.nodes ∧
        (part.subgraph included).order = part.order ∧ (part.subgraph included).keys = included ∧
        ∀ i j, (part.subgraph included).hasEdge i j = true ↔
          part.hasEdge i j = true ∧ i ∈ included ∧ j ∈ included := by
  obtain ⟨closure, members⟩ := finite.exists_finset
  have isClosure : IsClosure nodes successors closure.toList := by
    constructor
    · intro a listed
      exact Finset.mem_toList.mpr ((members a).mpr ⟨a, listed, .refl⟩)
    · intro a member b next
      obtain ⟨start, isStart, path⟩ := (members a).mp (Finset.mem_toList.mp member)
      exact Finset.mem_toList.mpr ((members b).mpr ⟨start, isStart, path.tail next⟩)
  obtain ⟨g, constructed, order, numbers⟩ := exists_construct? isClosure (Nat.le_refl _)
  refine ⟨g, constructed, numbers.isGraphOf isClosure (Nat.le_refl _) order, fun bound enough => ?_,
    fun part isPart => ⟨(isPart.isSound numbers.isSound).showsEdges, fun included =>
      ⟨rfl, rfl, rfl, rfl, fun i j => hasEdge_subgraph⟩⟩⟩
  -- The values themselves are a closure, so any bound that they fit in finds them, too.
  have isTight : IsClosure nodes successors
      (explore closure.toList.length nodes successors).values := by
    constructor
    · intro a listed
      exact (mem_values_explore isClosure (Nat.le_refl _)).mpr ⟨a, listed, .refl⟩
    · intro a known b next
      exact successor_mem_values isClosure (Nat.le_refl _) known next
  have fits := order.symm.trans_le enough
  obtain ⟨again, constructedAgain, orderAgain, numbersAgain⟩ := exists_construct? isTight fits
  have same : again = g := by
    have one := constructedAgain (max again.order g.order + 1) (by omega)
    rw [constructed (max again.order g.order + 1) (by omega)] at one
    exact (Option.some.inj one).symm
  subst same
  have renders := numbersAgain.renders isTight fits orderAgain
  exact ⟨renders, fun included => renders.subgraph numbersAgain.isSound included⟩

end Constructing

section Sample

/-- Three tasks that wait for each other in turn. -/
private def waiting : String → List String
  | "load" => ["check"]
  | "check" => ["store", "store"]
  | "store" => ["load"]
  | _ => []

/-- The listed tasks come in the order of the list, and the third one after them. -/
theorem exists_isGraphOf_waiting :
    {a | ∃ start ∈ ["check", "load", "check"], Reaches waiting start a}.Finite ∧
    ∃ g : Tables String, construct? 4 ["check", "load", "check"] waiting = some g ∧
      g.nodes.lookup 2 = some ⟨2, "store"⟩ ∧ g.IsGraphOf ["check", "load", "check"] waiting ∧
      (g.subgraph [1, 2]).ShowsEdges ∧ (g.subgraph [1, 2]).hasEdge 2 1 = true ∧
      (g.subgraph [1, 2]).hasEdge 1 0 = false := by
  have finite : {a | ∃ start ∈ ["check", "load", "check"], Reaches waiting start a}.Finite := by
    have isClosure : IsClosure ["check", "load", "check"] waiting ["check", "load", "store"] :=
      ⟨by decide, by decide⟩
    refine (List.finite_toSet ["check", "load", "store"]).subset ?_
    rintro a ⟨start, isStart, path⟩
    exact isClosure.mem_of_reaches (isClosure.nodes start isStart) path
  obtain ⟨g, constructed, isGraph, -, parts⟩ := exists_isGraphOf finite
  obtain ⟨sample, made, third, inside, outside⟩ : ∃ sample,
      construct? 4 ["check", "load", "check"] waiting = some sample ∧
      sample.nodes.lookup 2 = some ⟨2, "store"⟩ ∧ (sample.subgraph [1, 2]).hasEdge 2 1 = true ∧
      (sample.subgraph [1, 2]).hasEdge 1 0 = false := by
    exact ⟨_, rfl, by decide⟩
  have same : g = sample := by
    have one := constructed (max 4 (g.order + 1)) (by omega)
    exact Option.some.inj (one.symm.trans (grow_of_le (Nat.le_max_left _ _) made))
  subst same
  exact ⟨finite, g, made, third, isGraph, (parts _ (.subgraph [1, 2] .whole)).1, inside, outside⟩

end Sample

end Digraph.Tables

end Tabulation
