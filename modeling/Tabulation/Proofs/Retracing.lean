/-
The search through groups and the search through lists find the same graph.

The one goes on from a reason before it looks at the next, the other first takes all visits of an edge
and then goes on from each.  Either way the visits are followed in one order, since what was added to
the graph decides nothing.  So the graphs differ at most in the order in which things were added.
-/

import Tabulation.Proofs.Derivations

namespace Tabulation

open Relation (TransGen)

variable {S F : Type}

namespace TraceGraph

variable {first second third fourth : TraceGraph S F} {links more : List (Vertex S F × Vertex S F)}
  {origins others : List (Vertex S F)}

/-- What was added later may have been added first. -/
theorem Grows.swap (grows : first.Grows links origins third) (early : first.Grows more others second)
    (late : third.Grows more others fourth) : second.Grows links origins fourth where
  sink := late.sink.trans (grows.sink.trans early.sink.symm)
  edges u v := by
    rw [late.edges, grows.edges, early.edges]
    exact or_right_comm
  sources v := by
    rw [late.sources, grows.sources, early.sources]
    exact or_right_comm

/-- What was added before may have been added later. -/
theorem Grows.after (late : third.Grows more others fourth) (grows : first.Grows links origins third) :
    first.Grows (more ++ links) (others ++ origins) fourth where
  sink := late.sink.trans grows.sink
  edges u v := by
    rw [late.edges, grows.edges, List.mem_append, or_and_right, or_assoc]
    exact or_congr_right or_comm
  sources v := by
    rw [late.sources, grows.sources, List.mem_append, or_assoc]
    exact or_congr_right or_comm

/-- What was added together may have been added one part after the other. -/
theorem Grows.rest (grows : first.Grows (more ++ links) (others ++ origins) third)
    (early : first.Grows more others second) : second.Grows links origins third where
  sink := grows.sink.trans early.sink.symm
  edges u v := by rw [grows.edges, early.edges, List.mem_append, or_and_right, or_assoc]
  sources v := by rw [grows.sources, early.sources, List.mem_append, or_assoc]

end TraceGraph

variable [DecidableEq S] [DecidableEq F]

/-- Groups that stand for lists: under each edge its reasons, and under each vertex the edges that end
there. -/
structure GroupedSolution.Indexes (data : GroupedSolution S F) (flat : Solution S F) : Prop where
  reasons : ∀ edge, data.reasons.values edge = flat.reasonsOf edge
  ends : ∀ v, data.edgesByEnd.values v = flat.edgesEndingAt v

namespace Solution

variable (flat : Solution S F) (zero : F)

/-- The search through lists takes some visits to come from one state to another. Its graph may already
have more. -/
def Takes (state after : Retraced S F) (visits : List (TraceVisit S F)) : Prop :=
  ∀ rest links origins g, state.graph.Grows links origins g →
    ∃ g' steps, after.graph.Grows links origins g' ∧
      ∀ fuel, flat.search zero (fuel + steps) state.visited (visits ++ rest) g =
        flat.search zero fuel after.visited rest g'

variable {flat zero} {state between after : Retraced S F} {visits : List (TraceVisit S F)}

theorem Takes.nil (state : Retraced S F) : flat.Takes zero state state [] :=
  fun _ _ _ g grows => ⟨g, 0, grows, fun _ => rfl⟩

theorem Takes.append {others : List (TraceVisit S F)} (first : flat.Takes zero state between visits)
    (second : flat.Takes zero between after others) :
    flat.Takes zero state after (visits ++ others) := by
  intro rest links origins g grows
  obtain ⟨next, steps, grown, searched⟩ := first (others ++ rest) links origins g grows
  obtain ⟨last, more, grownMore, searchedMore⟩ := second rest links origins next grown
  refine ⟨last, more + steps, grownMore, fun fuel => ?_⟩
  rw [← Nat.add_assoc, List.append_assoc, searched, searchedMore]

theorem takes_foldlM {f : Retraced S F → TraceVisit S F → Option (Retraced S F)}
    (takes : ∀ state visit after, f state visit = some after → flat.Takes zero state after [visit])
    (folded : visits.foldlM f state = some after) : flat.Takes zero state after visits := by
  induction visits generalizing state with
  | nil =>
      obtain rfl : state = after := Option.some.inj folded
      exact .nil state
  | cons visit rest ih =>
      rw [List.foldlM_cons] at folded
      obtain ⟨between, first, further⟩ := Option.bind_eq_some_iff.mp folded
      exact (takes _ _ _ first).append (ih further)

theorem takes_reasons {search : Retraced S F → TraceVisit S F → Option (Retraced S F)}
    (takes : ∀ state visit after, search state visit = some after →
      flat.Takes zero state after [visit])
    {visit : TraceVisit S F} {reasons : List (Reason S F)}
    (folded : reasons.foldlM (Retraced.follow search visit) state = some after)
    (rest : List (TraceVisit S F)) {links : List (Vertex S F × Vertex S F)}
    {origins : List (Vertex S F)} {g : TraceGraph S F}
    (grows : state.graph.Grows ((reasonSteps visit reasons).links ++ links)
      ((reasonSteps visit reasons).origins ++ origins) g) :
    ∃ g' steps, after.graph.Grows links origins g' ∧
      ∀ fuel, flat.search zero (fuel + steps) state.visited
          ((reasonSteps visit reasons).next ++ rest) g =
        flat.search zero fuel after.visited rest g' := by
  induction reasons generalizing state g with
  | nil =>
      obtain rfl : state = after := Option.some.inj folded
      exact ⟨g, 0, grows, fun _ => rfl⟩
  | cons reason others ih =>
      rw [List.foldlM_cons] at folded
      obtain ⟨between, followed, further⟩ := Option.bind_eq_some_iff.mp folded
      obtain ⟨early, next⟩ := followReason_grows visit state.graph reason
      have taken : flat.Takes zero { state with graph := (followReason visit state.graph reason).1 }
          between (followReason visit state.graph reason).2 := takes_foldlM takes followed
      rw [next] at taken
      have split : reasonSteps visit (reason :: others) =
          { links := (reasonStep visit reason).links ++ (reasonSteps visit others).links
            origins := (reasonStep visit reason).origins ++ (reasonSteps visit others).origins
            next := (reasonStep visit reason).next ++ (reasonSteps visit others).next } := rfl
      rw [split, List.append_assoc, List.append_assoc] at grows
      obtain ⟨here, steps, grown, searched⟩ := taken ((reasonSteps visit others).next ++ rest)
        _ _ g (grows.rest early)
      obtain ⟨last, more, grownMore, searchedMore⟩ := ih further grown
      refine ⟨last, more + steps, grownMore, fun fuel => ?_⟩
      rw [split, List.append_assoc, ← Nat.add_assoc, searched, searchedMore]

theorem takes_retrace {data : GroupedSolution S F}
    (reasons : ∀ edge, data.reasons.values edge = flat.reasonsOf edge) {depth : ℕ}
    {visit : TraceVisit S F} (retraced : data.retrace zero depth state visit = some after) :
    flat.Takes zero state after [visit] := by
  induction depth generalizing state visit after with
  | zero => exact nomatch retraced
  | succ depth ih =>
      unfold GroupedSolution.retrace at retraced
      dsimp only at retraced
      intro rest links origins g grows
      split at retraced
      next visited =>
        obtain rfl : state = after := Option.some.inj retraced
        exact ⟨g, 1, grows, fun fuel =>
          flat.search_skip zero fuel (List.contains_iff_mem.mp visited) rest g⟩
      next new =>
        have unvisited : visit.key ∉ state.visited := mt List.contains_iff_mem.mpr new
        obtain ⟨late, next⟩ := flat.follow_grows zero visit g
        have step (fuel : ℕ) : flat.search zero (fuel + 1) state.visited ([visit] ++ rest) g =
            flat.search zero fuel (visit.key :: state.visited)
              ((flat.stepOf zero visit).next ++ rest) (flat.follow zero visit g).1 := by
          rw [← next]
          exact flat.search_follow zero fuel unvisited rest g
        split at retraced
        next stops =>
          obtain rfl := Option.some.inj retraced
          have atStart : AtStart visit := by simpa [AtStart] using stops
          rw [stepOf_of_atStart atStart] at late step
          exact ⟨_, 1, grows.swap (TraceGraph.grows_addEdge _ _ _) late, step⟩
        next inside =>
          have goesOn : ¬AtStart visit := by simpa [AtStart] using inside
          split at retraced
          next isZero =>
            obtain rfl := Option.some.inj retraced
            rw [stepOf_of_zero goesOn (beq_iff_eq.mp isZero)] at late step
            exact ⟨_, 1, grows.swap ((TraceGraph.grows_addEdge _ _ _).trans
              (TraceGraph.grows_addSource _ _)) late, step⟩
          next named =>
            rw [stepOf_of_goesOn goesOn (mt beq_iff_eq.mpr named), ← reasons] at late step
            obtain ⟨g', steps, grown, searched⟩ := takes_reasons (fun _ _ _ => ih) retraced
              rest (late.after grows)
            refine ⟨g', steps + 1, grown, fun fuel => ?_⟩
            rw [← Nat.add_assoc, step, ← searched]
            rfl

theorem listsOnce_search {fuel : ℕ} {visited : List (Edge S F × Vertex S F)} {g : TraceGraph S F}
    (listsOnce : g.ListsOnce) : (flat.search zero fuel visited visits g).ListsOnce := by
  induction fuel generalizing visited visits g with
  | zero => exact listsOnce
  | succ fuel ih =>
      cases visits with
      | nil => exact listsOnce
      | cons visit rest =>
          by_cases known : visit.key ∈ visited
          · rw [flat.search_skip zero fuel known]
            exact ih listsOnce
          · rw [flat.search_follow zero fuel known]
            exact ih (listsOnce.follow flat zero visit)

theorem indexes_grouped (flat : Solution S F) : flat.grouped.Indexes flat where
  reasons edge := Groups.values_foldl_push Prod.fst Prod.snd flat.reasons [] edge
  ends v := (Groups.values_foldl_push Edge.target id flat.edges [] v).trans (List.map_id _)

/-- However deep the search through groups may go, it finds the graph of the search through lists. -/
theorem perm_traceGraph {data : GroupedSolution S F} (indexes : data.Indexes flat)
    {sink : Vertex S F} {graph : TraceGraph S F} {depth : ℕ} (listsOnce : graph.ListsOnce)
    (found : data.traceGraph? sink zero depth = some graph) :
    (flat.traceGraph sink zero).sources.Perm graph.sources ∧
      (flat.traceGraph sink zero).edges.Perm graph.edges := by
  obtain ⟨after, folded, rfl⟩ := Option.map_eq_some_iff.mp found
  have roots : (flat.traceRoots sink).foldlM (data.retrace zero depth) { graph := { sink } } =
      some after := by
    rw [indexes.ends] at folded
    unfold traceRoots
    rwa [List.foldlM_map]
  have taken := takes_foldlM (fun _ _ _ => takes_retrace indexes.reasons) roots
  obtain ⟨g, steps, grows, searched⟩ := taken [] [] [] { sink } (.refl _)
  have same : flat.traceGraph sink zero = g := by
    rw [← flat.search_add_eq_traceGraph sink zero steps]
    have ended := searched flat.searchBound
    rw [List.append_nil, flat.search_nil] at ended
    exact ended
  have once : (flat.traceGraph sink zero).ListsOnce :=
    listsOnce_search ⟨List.nodup_nil, List.nodup_nil⟩
  rw [same] at once ⊢
  constructor
  · exact (List.perm_ext_iff_of_nodup once.sources listsOnce.sources).mpr fun v => by
      simp [grows.sources v]
  · exact (List.perm_ext_iff_of_nodup once.edges listsOnce.edges).mpr fun e => by
      simp [grows.edges e.1 e.2]

end Solution

/-! ### Every graph of derivations -/

namespace GroupedSolution

/-- A trace that begins at an origin, ends at a vertex, and goes from each vertex to the next by
derivations. -/
structure IsDerivation (data : GroupedSolution S F) (zero : F) (sink : Vertex S F)
    (trace : List (Vertex S F)) : Prop where
  begins : ∃ source ∈ trace.head?, data.IsOrigin zero source
  ends : trace.getLast? = some sink
  derives : trace.IsChain (TransGen data.Derives)

/-- Whatever a content is like, the search for the derivations of a vertex ends, and its graph has only
derivations of the vertex. -/
theorem trace_graph_invents_nothing (data : GroupedSolution S F) (sink : Vertex S F) (zero : F) :
    ∃ graph bound, (∀ depth ≥ bound, data.traceGraph? sink zero depth = some graph) ∧
      graph.sink = sink ∧
      (∀ v ∈ graph.sources, data.IsOrigin zero v) ∧
      (∀ u w, (u, w) ∈ graph.edges → TransGen data.Derives u w) ∧
      (∀ trace ∈ graph.traces, data.IsDerivation zero sink trace) ∧
      ∀ flat : Solution S F, data.Indexes flat →
        (flat.traceGraph sink zero).sources.Perm graph.sources ∧
          (flat.traceGraph sink zero).edges.Perm graph.edges := by
  obtain ⟨graph, ends, isSink, justifies, listsOnce⟩ := data.exists_traceGraph sink zero
  have traces := TraceGraph.areSimplePaths_traces listsOnce.edges listsOnce.sources
  refine ⟨graph, _, ends, isSink, justifies.sources, justifies.edges, fun trace member => ?_,
    fun flat indexes => ?_⟩
  · obtain ⟨source, later, rfl, isSource, path⟩ := (traces.mem_iff trace).mp member
    exact ⟨⟨source, rfl, justifies.sources source isSource⟩, isSink ▸ path.ends,
      path.chain.imp justifies.edges⟩
  · exact Solution.perm_traceGraph indexes listsOnce (ends _ (Nat.lt_succ_self _))

/-- A fact that a callee returns: a call at statement 1 and a sink at 2, where the callee starts at
10 and returns at 11. -/
private def returned : Solution Nat Nat where
  edges := [⟨⟨0, 0⟩, ⟨2, 2⟩⟩]
  reasons :=
    [(⟨⟨0, 0⟩, ⟨2, 2⟩⟩, .applied ⟨⟨0, 0⟩, ⟨1, 0⟩⟩ ⟨⟨10, 0⟩, ⟨11, 1⟩⟩),
      (⟨⟨10, 0⟩, ⟨11, 1⟩⟩, .derived .sequent ⟨⟨10, 0⟩, ⟨10, 0⟩⟩),
      (⟨⟨10, 0⟩, ⟨10, 0⟩⟩, .derived .callToStart ⟨⟨0, 0⟩, ⟨1, 0⟩⟩)]

example : (returned.grouped.traceGraph? ⟨2, 2⟩ 0 4).map (·.traces) =
    some [[⟨1, 0⟩, ⟨10, 0⟩, ⟨11, 1⟩, ⟨2, 2⟩]] := by decide

end GroupedSolution

end Tabulation
