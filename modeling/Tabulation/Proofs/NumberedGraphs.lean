/-
Graphs over ids and the relations that they were explored from.

The graph of listed values and their successors numbers everything that can be reached from the list,
each value once.  Its edges are the successors, so what an id reaches in the graph is what its value
reaches through successors.
-/

import Tabulation.Digraph.Cycles
import Tabulation.Proofs.Searching

namespace Tabulation

/-- A value is reached from another one through any number of successors. -/
def Reaches {α : Type} (successors : α → List α) : α → α → Prop :=
  Relation.ReflTransGen fun a b => b ∈ successors a

/-- A value is reached from another one through at least one successor. -/
def ReachesOn {α : Type} (successors : α → List α) : α → α → Prop :=
  Relation.TransGen fun a b => b ∈ successors a

/-- A list that holds the given nodes and whatever their successors lead to. -/
structure IsClosure {α : Type} (nodes : List α) (successors : α → List α) (closure : List α) :
    Prop where
  nodes : ∀ a ∈ nodes, a ∈ closure
  successors : ∀ a ∈ closure, ∀ b ∈ successors a, b ∈ closure

theorem reachesOn_iff {α : Type} {successors : α → List α} {a b : α} :
    ReachesOn successors a b ↔ ∃ c ∈ successors a, Reaches successors c b := by
  unfold ReachesOn Reaches
  exact Relation.TransGen.head'_iff

theorem IsClosure.mem_of_reaches {α : Type} {nodes : List α} {successors : α → List α}
    {closure : List α} (isClosure : IsClosure nodes successors closure) {a b : α}
    (known : a ∈ closure) (path : Reaches successors a b) : b ∈ closure := by
  induction path with
  | refl => exact known
  | tail _ next inductionHypothesis => exact isClosure.successors _ inductionHypothesis _ next

namespace Search

variable {α : Type} [DecidableEq α]

/-- Where nothing leads out of the starts, nothing else is found. -/
theorem reach_of_closed (bound : Nat) {next : α → List α} {starts : List α} (nodup : starts.Nodup)
    (closed : ∀ a ∈ starts, ∀ b ∈ next a, b ∈ starts) : reach bound next starts = starts := by
  have expanded : ∀ (fuel : Nat) (frontier : List α), (∀ a ∈ frontier, a ∈ starts) →
      expand next fuel starts frontier = starts := by
    intro fuel
    induction fuel with
    | zero => exact fun _ _ => rfl
    | succ fuel inductionHypothesis =>
        intro frontier inside
        cases frontier with
        | nil => rfl
        | cons item rest =>
            obtain ⟨isStart, others⟩ := List.forall_mem_cons.mp inside
            have none : (Text.distinct (next item)).filter (fun b => !starts.contains b) = [] := by
              refine List.filter_eq_nil_iff.mpr fun b member => ?_
              have known := closed item isStart b ((Text.mem_distinct b _).mp member)
              rw [List.contains_iff_mem.mpr known]
              exact Bool.false_ne_true
            rw [expand, none, List.append_nil, List.append_nil]
            exact inductionHypothesis rest others
  unfold reach
  rw [Text.distinct_of_nodup nodup]
  exact expanded bound starts fun _ member => member

end Search

namespace Digraph

variable {α : Type}

theorem mem_sortedIds (ids : List Nat) (id : Nat) : id ∈ sortedIds ids ↔ id ∈ ids := by
  unfold sortedIds
  rw [List.mem_mergeSort, Text.mem_distinct]

theorem nodup_sortedIds (ids : List Nat) : (sortedIds ids).Nodup := by
  unfold sortedIds
  exact (List.mergeSort_perm _ _).nodup_iff.mpr (Text.nodup_distinct _)

theorem pairwise_sortedIds (ids : List Nat) : (sortedIds ids).Pairwise (· < ·) := by
  have sorted := @List.pairwise_mergeSort Nat (fun a b => Nat.ble a b)
    (fun a b c first second => by simp only [Nat.ble_eq] at *; exact Nat.le_trans first second)
    (fun a b => by simpa using Nat.le_total a b) (Text.distinct ids)
  refine sorted.imp₂ (fun a b atMost different => ?_) (nodup_sortedIds ids)
  exact Nat.lt_of_le_of_ne (Nat.ble_eq.mp atMost) different

def Links (g : Digraph α) (source target : Nat) : Prop := target ∈ g.successors source

theorem hasEdge_iff {g : Digraph α} {source target : Nat} :
    g.hasEdge source target = true ↔ g.Links source target :=
  List.contains_iff_mem

/-- Edges lead to ids only, and none is listed twice. -/
structure IsNumbered (g : Digraph α) : Prop where
  bounded : ∀ {source target}, g.Links source target → target < g.order
  nodup : ∀ source, (g.successors source).Nodup

/-- There are at most as many ids as the order says. -/
theorem length_le_order {g : Digraph α} {ids : List Nat} (nodup : ids.Nodup)
    (bounded : ∀ id ∈ ids, id < g.order) : ids.length ≤ g.order := by
  have fewer := nodup.length_le_of_subset fun id member => List.mem_range.mpr (bounded id member)
  rw [List.length_range] at fewer
  exact fewer

theorem onCycle_iff {g : Digraph α} (isNumbered : g.IsNumbered) {id : Nat} :
    g.onCycle id = true ↔ Relation.TransGen g.Links id id := by
  have inside : ∀ {source target : Nat}, g.Links source target → target ∈ List.range g.order :=
    fun link => List.mem_range.mpr (isNumbered.bounded link)
  unfold onCycle
  rw [List.contains_iff_mem, Search.mem_reach (List.range g.order) (fun _ link => inside link)
    (fun _ _ _ link => inside link) (by rw [List.length_range]; exact Nat.le_succ _)]
  exact (Relation.TransGen.head'_iff (r := g.Links)).symm

/-- What tells whether a graph has a cycle. -/
def TellsCycles (isAcyclic : Digraph α → Bool) : Prop :=
  ∀ g : Digraph α, g.IsNumbered →
    (isAcyclic g = false ↔ ∃ id < g.order, Relation.TransGen g.Links id id)

theorem tellsCycles_isAcyclic : TellsCycles (isAcyclic : Digraph α → Bool) := by
  intro g isNumbered
  unfold isAcyclic
  rw [List.all_eq_false]
  constructor
  · rintro ⟨id, inside, cyclic⟩
    rw [Bool.not_eq_true, Bool.not_eq_false'] at cyclic
    exact ⟨id, List.mem_range.mp inside, (onCycle_iff isNumbered).mp cyclic⟩
  · rintro ⟨id, inside, cyclic⟩
    refine ⟨id, List.mem_range.mpr inside, ?_⟩
    rw [(onCycle_iff isNumbered).mpr cyclic]
    exact Bool.false_ne_true

section Exploring

variable [DecidableEq α] {nodes : List α} {successors : α → List α} {closure : List α} {bound : Nat}

private theorem nodup_values : (explore bound nodes successors).values.Nodup :=
  Search.nodup_reach bound successors nodes

theorem keys_explore :
    (explore bound nodes successors).keys = List.range (explore bound nodes successors).order :=
  rfl

theorem value?_explore {i : Nat} {a : α} :
    (explore bound nodes successors).value? i = some a ↔
      a ∈ (explore bound nodes successors).values ∧
        i = (explore bound nodes successors).values.idxOf a := by
  unfold value?
  constructor
  · intro found
    obtain ⟨inside, rfl⟩ := List.getElem?_eq_some_iff.mp found
    exact ⟨List.getElem_mem inside, (nodup_values.idxOf_getElem i inside).symm⟩
  · rintro ⟨member, rfl⟩
    exact List.getElem?_idxOf member

theorem value?_explore_injective {i j : Nat} {a : α}
    (first : (explore bound nodes successors).value? i = some a)
    (second : (explore bound nodes successors).value? j = some a) : i = j :=
  (value?_explore.mp first).2.trans (value?_explore.mp second).2.symm

/-- The row of an id; what has no value has no row. -/
private theorem successors_explore (i : Nat) :
    (explore bound nodes successors).successors i =
      (((explore bound nodes successors).value? i).map fun a => sortedIds
        ((successors a).map (explore bound nodes successors).values.idxOf)).getD [] := by
  change (((_ : List (List Nat)).toArray)[i]?).getD [] = _
  rw [List.getElem?_toArray, List.getElem?_map]
  rfl

theorem pairwise_successors_explore (i : Nat) :
    ((explore bound nodes successors).successors i).Pairwise (· < ·) := by
  rw [successors_explore]
  cases (explore bound nodes successors).value? i with
  | none => exact List.Pairwise.nil
  | some a => exact pairwise_sortedIds _

variable (isClosure : IsClosure nodes successors closure) (enough : closure.length ≤ bound)

include isClosure enough

/-- What is numbered is what can be reached from the list. -/
theorem mem_values_explore {a : α} :
    a ∈ (explore bound nodes successors).values ↔ ∃ start ∈ nodes, Reaches successors start a :=
  Search.mem_reach closure isClosure.nodes isClosure.successors enough a

theorem successor_mem_values {a b : α} (known : a ∈ (explore bound nodes successors).values)
    (next : b ∈ successors a) : b ∈ (explore bound nodes successors).values := by
  rw [mem_values_explore isClosure enough] at known ⊢
  obtain ⟨start, isStart, path⟩ := known
  exact ⟨start, isStart, path.tail next⟩

/-- The edges of an id are the successors of its value. -/
theorem links_explore {i j : Nat} :
    (explore bound nodes successors).Links i j ↔
      ∃ a b, (explore bound nodes successors).value? i = some a ∧
        (explore bound nodes successors).value? j = some b ∧ b ∈ successors a := by
  constructor
  · intro link
    cases found : (explore bound nodes successors).value? i with
    | none =>
        unfold Links at link
        rw [successors_explore, found] at link
        cases link
    | some a =>
        unfold Links at link
        rw [successors_explore, found, Option.map_some, Option.getD_some, mem_sortedIds] at link
        obtain ⟨b, next, rfl⟩ := List.mem_map.mp link
        have known := successor_mem_values isClosure enough (value?_explore.mp found).1 next
        exact ⟨a, b, rfl, value?_explore.mpr ⟨known, rfl⟩, next⟩
  · rintro ⟨a, b, source, target, next⟩
    unfold Links
    rw [successors_explore, source, Option.map_some, Option.getD_some, mem_sortedIds]
    exact List.mem_map.mpr ⟨b, next, (value?_explore.mp target).2.symm⟩

theorem isNumbered_explore : (explore bound nodes successors).IsNumbered where
  bounded := fun link => by
    obtain ⟨_, b, _, target, _⟩ := (links_explore isClosure enough).mp link
    exact (List.getElem?_eq_some_iff.mp target).1
  nodup := fun source => by
    rw [successors_explore]
    cases (explore bound nodes successors).value? source with
    | none => exact List.nodup_nil
    | some a => exact nodup_sortedIds _

theorem reaches_explore {i : Nat} {a : α}
    (source : (explore bound nodes successors).value? i = some a) {j : Nat} :
    Relation.ReflTransGen (explore bound nodes successors).Links i j ↔
      ∃ b, (explore bound nodes successors).value? j = some b ∧ Reaches successors a b := by
  constructor
  · intro path
    induction path with
    | refl => exact ⟨a, source, .refl⟩
    | tail _ link inductionHypothesis =>
        obtain ⟨b, value, path⟩ := inductionHypothesis
        obtain ⟨c, d, here, target, next⟩ := (links_explore isClosure enough).mp link
        rw [value] at here
        cases here
        exact ⟨d, target, path.tail next⟩
  · rintro ⟨b, target, path⟩
    induction path generalizing j with
    | refl => exact value?_explore_injective source target ▸ .refl
    | @tail c d path next inductionHypothesis =>
        -- What can be reached is numbered, so every value on the way has an id.
        have known : c ∈ (explore bound nodes successors).values := by
          have first := (value?_explore.mp source).1
          rw [mem_values_explore isClosure enough] at first ⊢
          obtain ⟨start, isStart, before⟩ := first
          exact ⟨start, isStart, before.trans path⟩
        have value := value?_explore.mpr ⟨known, rfl⟩
        exact (inductionHypothesis value).tail
          ((links_explore isClosure enough).mpr ⟨c, d, value, target, next⟩)

/-- What an id reaches through at least one edge is what its value reaches through a successor. -/
theorem reachesOn_explore {i : Nat} {a : α}
    (source : (explore bound nodes successors).value? i = some a) {j : Nat} :
    Relation.TransGen (explore bound nodes successors).Links i j ↔
      ∃ b, (explore bound nodes successors).value? j = some b ∧ ReachesOn successors a b := by
  rw [Relation.TransGen.head'_iff]
  constructor
  · rintro ⟨k, link, path⟩
    obtain ⟨c, d, here, target, next⟩ := (links_explore isClosure enough).mp link
    rw [source] at here
    cases here
    obtain ⟨b, value, onward⟩ := (reaches_explore isClosure enough target).mp path
    exact ⟨b, value, reachesOn_iff.mpr ⟨d, next, onward⟩⟩
  · rintro ⟨b, value, path⟩
    obtain ⟨d, next, onward⟩ := reachesOn_iff.mp path
    have known := successor_mem_values isClosure enough (value?_explore.mp source).1 next
    have target := value?_explore.mpr ⟨known, rfl⟩
    exact ⟨_, (links_explore isClosure enough).mpr ⟨a, d, source, target, next⟩,
      (reaches_explore isClosure enough target).mpr ⟨b, value, onward⟩⟩

/-- An explored graph has a cycle if and only if something that can be reached reaches itself. -/
theorem TellsCycles.explore_iff {isAcyclic : Digraph α → Bool} (tells : TellsCycles isAcyclic) :
    isAcyclic (explore bound nodes successors) = false ↔
      ∃ a, (∃ start ∈ nodes, Reaches successors start a) ∧ ReachesOn successors a a := by
  rw [tells _ (isNumbered_explore isClosure enough)]
  constructor
  · rintro ⟨i, inside, cyclic⟩
    have value := List.getElem?_eq_getElem inside
    rw [reachesOn_explore isClosure enough value] at cyclic
    obtain ⟨b, same, path⟩ := cyclic
    cases Option.some.inj (value.symm.trans same)
    exact ⟨_, (mem_values_explore isClosure enough).mp (value?_explore.mp value).1, path⟩
  · rintro ⟨a, reached, path⟩
    have value := value?_explore.mpr ⟨(mem_values_explore isClosure enough).mpr reached, rfl⟩
    exact ⟨_, (List.getElem?_eq_some_iff.mp value).1,
      (reachesOn_explore isClosure enough value).mpr ⟨a, value, path⟩⟩

end Exploring

end Digraph

end Tabulation
