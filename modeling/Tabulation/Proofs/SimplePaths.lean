/-
The traces are the paths without repetition from the sources to the sink, each once.

Which traces a search finds from a path on does not depend on what else is in the memory: it is a list
that follows the search, and this list has the continuations of the path to the sink.  Continuations
through different vertices differ where they part.  A path without repetition is no longer than the
graph has edges, so the search comes to its end whatever the graph is.
-/

import Tabulation.Proofs.Backtracking
import Tabulation.Proofs.Collection
import Tabulation.Proofs.TracePaths

namespace Tabulation.TraceGraph

/-! ### Paths -/

section Paths

variable {S F : Type} {g : TraceGraph S F} {u v : Vertex S F} {later : List (Vertex S F)}

/-- A path that goes on from its last vertex would come back to it. -/
theorem IsPath.eq_nil (path : g.IsPath v later v) : later = [] := by
  cases later with
  | nil => rfl
  | cons first rest =>
      have ends := path.ends
      rw [List.getLast?_cons_cons] at ends
      exact absurd (List.mem_of_getLast? ends) (List.nodup_cons.mp path.nodup).1

theorem IsPath.snoc {source : Vertex S F} (path : g.IsPath source later v) (link : g.Links v u)
    (new : u ∉ source :: later) : g.IsPath source (later ++ [u]) u := by
  obtain ⟨chain, nodup, ends⟩ := path
  refine ⟨?_, ?_, ?_⟩
  · rw [← List.cons_append, List.isChain_append]
    refine ⟨chain, List.isChain_singleton u, ?_⟩
    rintro last isLast first isFirst
    obtain rfl : v = last := Option.some.inj (ends.symm.trans isLast)
    obtain rfl : u = first := Option.some.inj isFirst
    exact link
  · rw [← List.cons_append]
    exact nodup.append (List.nodup_singleton u) (List.disjoint_singleton.mpr new)
  · rw [← List.cons_append, List.getLast?_append_of_ne_nil _ (List.cons_ne_nil u [])]
    rfl

/-- Some traces are the paths without repetition from a source to the sink, each once. The sink comes
only at the end, and a source that is the sink is a trace, the only one from there. -/
structure AreSimplePaths (g : TraceGraph S F) (traces : List (List (Vertex S F))) : Prop where
  nodup : traces.Nodup
  mem_iff : ∀ trace, trace ∈ traces ↔
    ∃ source later, trace = source :: later ∧ source ∈ g.sources ∧ g.IsPath source later g.sink
  sink_last : ∀ trace ∈ traces, ∃ before, trace = before ++ [g.sink] ∧ g.sink ∉ before
  from_sink : g.sink ∈ g.sources →
    ∀ trace, trace ∈ traces ∧ trace.head? = some g.sink ↔ trace = [g.sink]

theorem areSimplePaths_of_mem_iff {traces : List (List (Vertex S F))} (nodup : traces.Nodup)
    (mem : ∀ trace, trace ∈ traces ↔ ∃ source later, trace = source :: later ∧
      source ∈ g.sources ∧ g.IsPath source later g.sink) : g.AreSimplePaths traces := by
  refine ⟨nodup, mem, fun trace member => ?_, fun isSource trace => ⟨?_, ?_⟩⟩
  · obtain ⟨source, later, rfl, -, path⟩ := (mem trace).mp member
    obtain ⟨before, split⟩ := List.getLast?_eq_some_iff.mp path.ends
    refine ⟨before, split, fun again => ?_⟩
    have apart := path.nodup
    rw [split] at apart
    exact List.disjoint_of_nodup_append apart again (List.mem_singleton_self g.sink)
  · rintro ⟨member, starts⟩
    obtain ⟨source, later, rfl, -, path⟩ := (mem trace).mp member
    obtain rfl : source = g.sink := Option.some.inj starts
    rw [path.eq_nil]
  · rintro rfl
    exact ⟨(mem _).mpr ⟨g.sink, [], rfl, isSource, .singleton g.sink⟩, rfl⟩

/-- There are no two such lists but for the order. -/
theorem AreSimplePaths.perm {traces others : List (List (Vertex S F))}
    (first : g.AreSimplePaths traces) (second : g.AreSimplePaths others) : traces.Perm others :=
  (List.perm_ext_iff_of_nodup first.nodup second.nodup).mpr fun trace => by
    rw [first.mem_iff, second.mem_iff]

end Paths

variable {S F : Type} [DecidableEq S] [DecidableEq F] {g : TraceGraph S F}
  {u v w : Vertex S F} {before later : List (Vertex S F)}

/-! ### Continuations of a path -/

/-- The continuations of a path to the sink, in the order in which a search comes to them. -/
def continuations (g : TraceGraph S F) (next : List (Vertex S F) → List (Vertex S F)) :
    (depth : ℕ) → (before : List (Vertex S F)) → Vertex S F → List (List (Vertex S F))
  | 0, _, _ => []
  | depth + 1, before, v =>
    if v = g.sink then [before ++ [v]]
    else ((next (before ++ [v])).filter fun u => u ∉ before ++ [v]).flatMap
      (g.continuations next depth (before ++ [v]))

variable (enumeration : g.Enumeration)

theorem mem_continuations {depth : ℕ} {trace : List (Vertex S F)} :
    trace ∈ g.continuations enumeration.next depth before v ↔
      ∃ later, trace = before ++ v :: later ∧ g.IsPath v later g.sink ∧
        (∀ w ∈ later, w ∉ before) ∧ later.length < depth := by
  induction depth generalizing before v with
  | zero => simp [continuations]
  | succ depth ih =>
      unfold continuations
      by_cases atSink : v = g.sink
      · rw [if_pos atSink, List.mem_singleton]
        constructor
        · rintro rfl
          exact ⟨[], rfl, atSink ▸ .singleton v, nofun, Nat.succ_pos depth⟩
        · rintro ⟨later, rfl, path, -, -⟩
          rw [atSink] at path
          rw [path.eq_nil]
      · rw [if_neg atSink, List.mem_flatMap]
        constructor
        · rintro ⟨u, member, continued⟩
          obtain ⟨step, new⟩ := List.mem_filter.mp member
          obtain ⟨later, rfl, path, apart, short⟩ := ih.mp continued
          have link : g.Links v u := (enumeration.mem_next before v u).mp step
          have onPath : u ∉ before ∧ u ≠ v := by simpa using new
          have apartLater : ∀ w ∈ later, w ∉ before ∧ w ≠ v := by simpa using apart
          refine ⟨u :: later, by simp, path.cons link ?_, ?_, by simpa using short⟩
          · rw [List.mem_cons, not_or]
            exact ⟨onPath.2.symm, fun back => (apartLater v back).2 rfl⟩
          · exact List.forall_mem_cons.mpr ⟨onPath.1, fun w member => (apartLater w member).1⟩
        · rintro ⟨later, rfl, path, apart, short⟩
          cases later with
          | nil => exact absurd (Option.some.inj path.ends) atSink
          | cons u rest =>
              obtain ⟨new, -⟩ := List.nodup_cons.mp path.nodup
              have split : v :: u :: rest = [v] ++ u :: rest := rfl
              have tail : g.IsPath u rest g.sink := path.suffix split
              have fresh : ∀ w ∈ u :: rest, w ∉ before ++ [v] := by
                intro w member back
                rcases List.mem_append.mp back with old | same
                · exact apart w member old
                · exact new (List.mem_singleton.mp same ▸ member)
              refine ⟨u, List.mem_filter.mpr ⟨?_, ?_⟩, ih.mpr ⟨rest, by simp, tail, ?_, ?_⟩⟩
              · exact (enumeration.mem_next before v u).mpr (List.isChain_cons_cons.mp path.chain).1
              · exact decide_eq_true (fresh u List.mem_cons_self)
              · exact fun w member => fresh w (List.mem_cons_of_mem u member)
              · exact Nat.lt_of_succ_lt_succ short

theorem nodup_continuations {depth : ℕ} :
    (g.continuations enumeration.next depth before v).Nodup := by
  induction depth generalizing before v with
  | zero => exact List.nodup_nil
  | succ depth ih =>
      unfold continuations
      split
      · exact List.nodup_singleton _
      · refine List.nodup_flatMap.mpr ⟨fun u _ => ih, ?_⟩
        refine ((enumeration.nodup_next _).filter _).imp fun {u w} differ => ?_
        intro trace throughFirst throughSecond
        obtain ⟨_, rfl, -⟩ := (mem_continuations enumeration).mp throughFirst
        obtain ⟨_, same, -⟩ := (mem_continuations enumeration).mp throughSecond
        exact differ (List.cons.inj (List.append_cancel_left same)).1

/-- All continuations of the sources are all paths from them to the sink, if the search may go deep
enough. -/
theorem mem_flatMap_continuations {depth : ℕ} (enough : g.edges.length < depth)
    {trace : List (Vertex S F)} :
    trace ∈ enumeration.sources.flatMap (g.continuations enumeration.next depth []) ↔
      ∃ source later, trace = source :: later ∧ source ∈ g.sources ∧
        g.IsPath source later g.sink := by
  rw [List.mem_flatMap]
  constructor
  · rintro ⟨source, member, continued⟩
    obtain ⟨later, rfl, path, -, -⟩ := (mem_continuations enumeration).mp continued
    exact ⟨source, later, rfl, (enumeration.mem_sources source).mp member, path⟩
  · rintro ⟨source, later, rfl, member, path⟩
    refine ⟨source, (enumeration.mem_sources source).mpr member,
      (mem_continuations enumeration).mpr ⟨later, rfl, path, ?_, ?_⟩⟩
    · exact fun _ _ => List.not_mem_nil
    · exact path.length_le.trans_lt enough

theorem nodup_flatMap_continuations {depth : ℕ} :
    (enumeration.sources.flatMap (g.continuations enumeration.next depth [])).Nodup := by
  refine List.nodup_flatMap.mpr ⟨fun source _ => nodup_continuations enumeration, ?_⟩
  refine enumeration.nodup_sources.imp fun {u w} differ => ?_
  intro trace fromFirst fromSecond
  obtain ⟨_, rfl, -⟩ := (mem_continuations enumeration).mp fromFirst
  obtain ⟨_, same, -⟩ := (mem_continuations enumeration).mp fromSecond
  exact differ (List.cons.inj same).1

/-! ### The search finds the continuations -/

open Backtrack in
/-- The search from a path comes back to it and finds its continuations. The depth is enough, since a
path is no longer than the graph has edges. -/
theorem walk_finds (spare : ℕ → ℕ) (depth : ℕ) {source : Vertex S F} {trace : Slice}
    {state : Backtrack (Vertex S F)}
    (isAt : state.IsAt trace (before ++ [v])) (onTheWay : before ++ [v] = source :: later)
    (path : g.IsPath source later v) (enough : g.edges.length < before.length + depth) :
    ∃ after, walk spare enumeration.next g.sink depth trace state = some after ∧
      Finds trace state after (g.continuations enumeration.next depth before v) := by
  induction depth generalizing before v later trace state with
  | zero =>
      have sameLength := congrArg List.length onTheWay
      have short := path.length_le
      simp only [List.length_append, List.length_cons, List.length_nil] at sameLength
      omega
  | succ depth ih =>
      unfold walk continuations
      simp only [isAt.holds.read, List.getLast?_concat, Option.bind_eq_bind, Option.bind_some]
      by_cases atSink : v = g.sink
      · rw [if_pos atSink, if_pos atSink]
        exact ⟨_, rfl, isAt.emit⟩
      · rw [if_neg atSink, if_neg atSink]
        refine isAt.foldlM_enter spare fun u member new longer start isAtLonger => ?_
        have link : g.Links v u := (enumeration.mem_next before v u).mp member
        refine ih isAtLonger ?_ (path.snoc link (onTheWay ▸ new)) ?_
        · rw [onTheWay, List.cons_append]
        · rw [List.length_append, List.length_singleton]
          omega

/-- The search ends with all continuations of the sources. -/
theorem exists_backtrack (spare : ℕ → ℕ) :
    ∃ state, (∀ depth > g.edges.length, g.backtrack spare enumeration depth = some state) ∧
      state.found =
        enumeration.sources.flatMap (g.continuations enumeration.next (g.edges.length + 1) []) := by
  have all := Backtrack.isAt_start.foldlM_enter spare fun source (_ : source ∈ enumeration.sources)
      _ longer start isAt =>
    walk_finds enumeration spare (g.edges.length + 1) isAt rfl (.singleton source) (by simp)
  obtain ⟨state, folded, finds⟩ := all
  refine ⟨state, fun depth deep => ?_, ?_⟩
  · exact (Backtrack.refines_walk spare enumeration.next g.sink deep).foldlM_enter folded
  · have found := finds.found_eq Backtrack.isAt_start
    rwa [List.filter_eq_self.mpr fun source _ => decide_eq_true List.not_mem_nil] at found

/-! ### The enumeration in the order of the lists -/

/-- Sources and edges in the order in which the graph lists them. -/
def listing (g : TraceGraph S F) : g.Enumeration where
  sources := Text.distinct g.sources
  next path := match path.getLast? with
    | none => []
    | some v => Text.distinct (g.successors v)
  nodup_sources := Text.nodup_distinct g.sources
  mem_sources v := Text.mem_distinct v g.sources
  nodup_next path := by
    split
    · exact List.nodup_nil
    · exact Text.nodup_distinct _
  mem_next before v u := by
    simp only [List.getLast?_concat, Text.mem_distinct, successors, List.mem_map, List.mem_filter]
    constructor
    · rintro ⟨⟨first, second⟩, ⟨member, same⟩, rfl⟩
      exact beq_iff_eq.mp same ▸ member
    · exact fun member => ⟨(v, u), ⟨member, beq_self_eq_true v⟩, rfl⟩

/-- Where no edge is listed twice, the paths from a vertex are its continuations. -/
theorem pathsFrom_eq (nodup : g.edges.Nodup) (fuel : ℕ) (before : List (Vertex S F))
    (v : Vertex S F) :
    g.pathsFrom fuel before v = g.continuations g.listing.next fuel before.reverse v := by
  induction fuel generalizing before v with
  | zero => rfl
  | succ fuel ih =>
      have listed : g.listing.next (before.reverse ++ [v]) = g.successors v := by
        have each : (g.successors v).Nodup := by
          refine List.Nodup.map_on (fun e member e' member' same => ?_) (nodup.filter _)
          have starts := beq_iff_eq.mp (List.mem_filter.mp member).2
          have starts' := beq_iff_eq.mp (List.mem_filter.mp member').2
          exact Prod.ext (starts.trans starts'.symm) same
        simp only [listing, List.getLast?_concat, Text.distinct_of_nodup each]
      unfold pathsFrom continuations
      simp only [beq_iff_eq, List.reverse_cons, listed]
      split
      · rfl
      · have sameStep : (g.successors v).filter (fun u => !(v :: before).contains u) =
            (g.successors v).filter fun u => u ∉ before.reverse ++ [v] :=
          List.filter_congr fun u _ => by simp [and_comm]
        rw [sameStep]
        refine List.flatMap_congr fun u _ => ?_
        rw [ih, List.reverse_cons]

/-- Where nothing is listed twice, the listed traces are the paths without repetition. -/
theorem areSimplePaths_traces (edges : g.edges.Nodup) (sources : g.sources.Nodup) :
    g.AreSimplePaths g.traces := by
  have listed : g.traces =
      g.listing.sources.flatMap (g.continuations g.listing.next (g.edges.length + 1) []) := by
    have ordered : g.listing.sources = g.sources := Text.distinct_of_nodup sources
    unfold traces
    rw [ordered]
    exact List.flatMap_congr fun source _ => pathsFrom_eq edges _ [] source
  rw [listed]
  exact areSimplePaths_of_mem_iff (nodup_flatMap_continuations g.listing) fun trace =>
    mem_flatMap_continuations g.listing (Nat.lt_succ_self _)

/-! ### The traces of every graph -/

/-- Wherever the search is at a path from a source, it comes back to it: the marks are what they
were, the path is in its slice, and the traces that were found before are followed by those found
meanwhile. -/
def ComesBack (g : TraceGraph S F) (spare : ℕ → ℕ) (enumeration : g.Enumeration) : Prop :=
  ∀ (source v : Vertex S F) (later : List (Vertex S F)) (depth : ℕ) (trace : Slice)
    (state : Backtrack (Vertex S F)), source ∈ g.sources → g.IsPath source later v →
    g.edges.length < later.length + depth → state.IsAt trace (source :: later) →
      ∃ after more, Backtrack.walk spare enumeration.next g.sink depth trace state = some after ∧
        after.onTrace = state.onTrace ∧ after.memory.read trace = source :: later ∧
        after.found = state.found ++ more

theorem comesBack (spare : ℕ → ℕ) : g.ComesBack spare enumeration := by
  intro source v later depth trace state _ path enough isAt
  obtain ⟨before, split⟩ := List.getLast?_eq_some_iff.mp path.ends
  have sameLength : before.length = later.length := by simpa using (congrArg List.length split).symm
  obtain ⟨after, walked, finds⟩ := walk_finds enumeration spare depth
    (split ▸ isAt) split.symm path (sameLength ▸ enough)
  exact ⟨after, _, walked, finds.marks, (finds.isAt isAt).holds.read, finds.found_eq isAt⟩

/-- For every graph, and whatever comes first where several vertices come next, the search ends and
finds the paths without repetition from the sources to the sink. -/
theorem traces_are_simple_paths (g : TraceGraph S F) (spare : ℕ → ℕ) (enumeration : g.Enumeration) :
    ∃ state, (∀ depth > g.edges.length, g.backtrack spare enumeration depth = some state) ∧
      g.AreSimplePaths state.found ∧ g.ComesBack spare enumeration ∧
      (g.edges.Nodup → g.sources.Nodup → state.found.Perm g.traces) := by
  obtain ⟨state, ends, found⟩ := exists_backtrack enumeration spare
  have nodup : state.found.Nodup := found ▸ nodup_flatMap_continuations enumeration
  have mem : ∀ trace, trace ∈ state.found ↔ ∃ source later, trace = source :: later ∧
      source ∈ g.sources ∧ g.IsPath source later g.sink := fun trace => by
    rw [found, mem_flatMap_continuations enumeration (Nat.lt_succ_self _)]
  have are : g.AreSimplePaths state.found := areSimplePaths_of_mem_iff nodup mem
  exact ⟨state, ends, are, comesBack enumeration spare,
    fun edges sources => are.perm (areSimplePaths_traces edges sources)⟩

/-- Two ways that cross, with a circle between them. -/
private def crossing : TraceGraph Nat Nat where
  sink := ⟨3, 0⟩
  sources := [⟨0, 0⟩, ⟨3, 0⟩]
  edges := [(⟨0, 0⟩, ⟨1, 0⟩), (⟨0, 0⟩, ⟨2, 0⟩), (⟨1, 0⟩, ⟨2, 0⟩), (⟨2, 0⟩, ⟨1, 0⟩),
    (⟨1, 0⟩, ⟨3, 0⟩), (⟨2, 0⟩, ⟨3, 0⟩), (⟨3, 0⟩, ⟨0, 0⟩)]

theorem traces_are_simple_paths_crossing :
    ∃ state, crossing.backtrack (fun _ => 2) crossing.listing 8 = some state ∧
      state.found.map (·.map (·.statement)) = [[0, 1, 2, 3], [0, 1, 3], [0, 2, 1, 3], [0, 2, 3], [3]] ∧
      crossing.AreSimplePaths state.found := by
  obtain ⟨state, ends, are, -⟩ :=
    traces_are_simple_paths crossing (fun _ => 2) crossing.listing
  have found := ends 8 (by decide)
  refine ⟨state, found, ?_, are⟩
  have computed : (crossing.backtrack (fun _ => 2) crossing.listing 8).map
      (fun state => state.found.map (·.map (·.statement))) =
        some [[0, 1, 2, 3], [0, 1, 3], [0, 2, 1, 3], [0, 2, 3], [3]] := by decide
  rw [found] at computed
  exact Option.some.inj computed

end Tabulation.TraceGraph
