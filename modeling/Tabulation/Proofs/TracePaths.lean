/-
Traces are found wherever the sink can be reached.

Whatever leads from one vertex to another can be cut short to a path without repetition, and
such a path is no longer than the graph has links.  So the traces are not cut off: if a source
leads to the sink, there is a trace.
-/

import Mathlib.Data.List.Chain
import Mathlib.Data.List.Nodup
import Mathlib.Data.List.Perm.Subperm
import Mathlib.Logic.Relation
import Tabulation.Solver.Trace

namespace Tabulation.TraceGraph

variable {S F : Type} {g : TraceGraph S F} {u v w : Vertex S F}

/-- Whether a link of the graph goes from one vertex to another. -/
def Links (g : TraceGraph S F) (u v : Vertex S F) : Prop := (u, v) ∈ g.edges

def Leads (g : TraceGraph S F) : Vertex S F → Vertex S F → Prop := Relation.ReflTransGen g.Links

/-- A path without repetition, given by its first vertex and the later ones. -/
structure IsPath (g : TraceGraph S F) (first : Vertex S F) (later : List (Vertex S F))
    (last : Vertex S F) : Prop where
  chain : (first :: later).IsChain g.Links
  nodup : (first :: later).Nodup
  ends : (first :: later).getLast? = some last

theorem IsPath.singleton (v : Vertex S F) : g.IsPath v [] v :=
  ⟨List.isChain_singleton v, List.nodup_singleton v, rfl⟩

/-- From each vertex of a path on there is a path. -/
theorem IsPath.suffix {later front back : List (Vertex S F)} (path : g.IsPath u later w)
    (split : u :: later = front ++ v :: back) : g.IsPath v back w := by
  obtain ⟨chain, nodup, ends⟩ := path
  rw [split] at chain nodup ends
  refine ⟨chain.right_of_append, (List.nodup_append.mp nodup).2.1, ?_⟩
  rw [List.getLast?_append_of_ne_nil _ (List.cons_ne_nil v back)] at ends
  exact ends

theorem IsPath.cons {later : List (Vertex S F)} (path : g.IsPath v later w) (link : g.Links u v)
    (new : u ∉ v :: later) : g.IsPath u (v :: later) w where
  chain := List.isChain_cons_cons.mpr ⟨link, path.chain⟩
  nodup := List.nodup_cons.mpr ⟨new, path.nodup⟩
  ends := path.ends

theorem Leads.exists_path (leads : g.Leads v w) : ∃ later, g.IsPath v later w := by
  induction leads using Relation.ReflTransGen.head_induction_on with
  | refl => exact ⟨[], .singleton w⟩
  | @head u v link _ ih =>
      obtain ⟨later, path⟩ := ih
      by_cases again : u ∈ v :: later
      · obtain ⟨front, back, split⟩ := List.append_of_mem again
        exact ⟨back, path.suffix split⟩
      · exact ⟨v :: later, path.cons link again⟩

private theorem exists_link_of_mem {later : List (Vertex S F)}
    (chain : (v :: later).IsChain g.Links) : ∀ w ∈ later, ∃ u, (u, w) ∈ g.edges := by
  induction later generalizing v with
  | nil => exact fun _ member => absurd member List.not_mem_nil
  | cons next rest ih =>
      obtain ⟨link, others⟩ := List.isChain_cons_cons.mp chain
      intro w member
      rcases List.mem_cons.mp member with rfl | further
      · exact ⟨v, link⟩
      · exact ih others w further

/-- A path has no more links than the graph, as they end at different vertices. -/
theorem IsPath.length_le {later : List (Vertex S F)} (path : g.IsPath v later w) :
    later.length ≤ g.edges.length := by
  have targets : later ⊆ g.edges.map Prod.snd := by
    intro vertex member
    obtain ⟨before, link⟩ := exists_link_of_mem path.chain vertex member
    exact List.mem_map.mpr ⟨_, link, rfl⟩
  have bounded := (List.subperm_of_subset (List.nodup_cons.mp path.nodup).2 targets).length_le
  rwa [List.length_map] at bounded

variable [DecidableEq S] [DecidableEq F]

theorem IsPath.pathsFrom_ne_nil {later : List (Vertex S F)} (path : g.IsPath v later g.sink)
    {fuel : ℕ} (enough : later.length < fuel) {before : List (Vertex S F)}
    (apart : ∀ w ∈ later, w ∉ before) : g.pathsFrom fuel before v ≠ [] := by
  induction later generalizing v fuel before with
  | nil =>
      have atSink : v = g.sink := Option.some.inj path.ends
      obtain ⟨fuel, rfl⟩ := Nat.exists_eq_succ_of_ne_zero (Nat.ne_of_gt enough)
      unfold pathsFrom
      rw [if_pos (beq_iff_eq.mpr atSink)]
      exact List.cons_ne_nil _ _
  | cons next rest ih =>
      obtain ⟨fuel, rfl⟩ := Nat.exists_eq_succ_of_ne_zero (Nat.ne_of_gt (Nat.zero_lt_of_lt enough))
      unfold pathsFrom
      by_cases atSink : v = g.sink
      · rw [if_pos (beq_iff_eq.mpr atSink)]
        exact List.cons_ne_nil _ _
      · rw [if_neg (mt beq_iff_eq.mp atSink)]
        have split : v :: next :: rest = [v] ++ next :: rest := rfl
        have tail : g.IsPath next rest g.sink := path.suffix split
        have link : g.Links v next := (List.isChain_cons_cons.mp path.chain).1
        have new : next ∉ v :: before := by
          intro member
          rcases List.mem_cons.mp member with rfl | old
          · exact (List.nodup_cons.mp path.nodup).1 List.mem_cons_self
          · exact apart next List.mem_cons_self old
        have step : next ∈ (g.successors v).filter fun u => !(v :: before).contains u := by
          have fresh : (!(v :: before).contains next) = true := by
            rw [Bool.not_eq_true', Bool.eq_false_iff]
            exact fun present => new (List.contains_iff_mem.mp present)
          refine List.mem_filter.mpr ⟨?_, fresh⟩
          exact List.mem_map.mpr ⟨(v, next), List.mem_filter.mpr ⟨link, beq_self_eq_true v⟩, rfl⟩
        have further : g.pathsFrom fuel (v :: before) next ≠ [] := by
          refine ih tail (Nat.lt_of_succ_lt_succ enough) fun w member known => ?_
          rcases List.mem_cons.mp known with rfl | old
          · exact (List.nodup_cons.mp path.nodup).1 (List.mem_cons_of_mem _ member)
          · exact apart w (List.mem_cons_of_mem _ member) old
        intro nothing
        exact further (List.flatMap_eq_nil_iff.mp nothing next step)

/-- If a source leads to the sink, there is a trace. -/
theorem Leads.traces_ne_nil (leads : g.Leads v g.sink) (source : v ∈ g.sources) :
    g.traces ≠ [] := by
  obtain ⟨later, path⟩ := leads.exists_path
  have found : g.pathsFrom (g.edges.length + 1) [] v ≠ [] :=
    path.pathsFrom_ne_nil (Nat.lt_succ_of_le path.length_le) fun _ _ => List.not_mem_nil
  intro nothing
  exact found (List.flatMap_eq_nil_iff.mp nothing v source)

end Tabulation.TraceGraph
