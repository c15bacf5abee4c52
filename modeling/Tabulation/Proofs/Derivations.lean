/-
What the graph of a vertex says about its derivations.

The edges of the graph are the links of visits, and a visit is at an edge from whose end derivations
lead to the vertex it remembers.  So every edge of the graph stands for derivations, one after the
other, whatever the content is.  Each pair is visited once and every visit that goes on marks a pair,
so the search is no deeper than there are pairs to come to.
-/

import Mathlib.Logic.Relation
import Tabulation.Proofs.Grouping
import Tabulation.Proofs.SimplePaths
import Tabulation.Proofs.TraceSearch
import Tabulation.Solver.Retrace

namespace Tabulation

open Relation (ReflTransGen TransGen)

variable {S F : Type}

/-! ### Nothing is listed twice -/

/-- Neither a source nor an edge of the graph is listed twice. -/
structure TraceGraph.ListsOnce (g : TraceGraph S F) : Prop where
  sources : g.sources.Nodup
  edges : g.edges.Nodup

namespace TraceGraph

variable [DecidableEq S] [DecidableEq F] {g : TraceGraph S F}

theorem ListsOnce.addSource (listsOnce : g.ListsOnce) (v : Vertex S F) :
    (g.addSource v).ListsOnce := by
  unfold TraceGraph.addSource
  split
  next known => exact listsOnce
  next new =>
    exact ⟨List.nodup_cons.mpr ⟨mt List.contains_iff_mem.mpr new, listsOnce.sources⟩,
      listsOnce.edges⟩

theorem ListsOnce.addEdge (listsOnce : g.ListsOnce) (u v : Vertex S F) :
    (g.addEdge u v).ListsOnce := by
  unfold TraceGraph.addEdge
  split
  next known => exact listsOnce
  next new =>
    have absent : (u, v) ∉ g.edges := fun member =>
      new (Bool.or_eq_true_iff.mpr (.inr (List.contains_iff_mem.mpr member)))
    exact ⟨listsOnce.sources, List.nodup_cons.mpr ⟨absent, listsOnce.edges⟩⟩

theorem ListsOnce.followReason (listsOnce : g.ListsOnce) (visit : TraceVisit S F)
    (reason : Reason S F) : (Solution.followReason visit g reason).1.ListsOnce := by
  unfold Solution.followReason
  dsimp only
  split
  case h_1 | h_2 => exact (listsOnce.addSource _).addEdge _ _
  case h_3 | h_4 =>
    split
    · exact listsOnce
    · exact listsOnce.addEdge _ _
  case h_5 =>
    split
    · exact listsOnce
    · exact listsOnce.addEdge _ _
  case h_6 => exact (listsOnce.addEdge _ _).addEdge _ _
  case h_7 => exact listsOnce

theorem ListsOnce.follow (listsOnce : g.ListsOnce) (data : Solution S F) (zero : F)
    (visit : TraceVisit S F) : (data.follow zero visit g).1.ListsOnce := by
  unfold Solution.follow
  dsimp only
  split
  · exact listsOnce.addEdge _ _
  · split
    · exact (listsOnce.addEdge _ _).addSource _
    · generalize data.reasonsOf visit.edge = reasons
      generalize ([] : List (TraceVisit S F)) = next
      induction reasons generalizing g next with
      | nil => exact listsOnce
      | cons reason rest ih => exact ih (listsOnce.followReason visit reason) _

end TraceGraph

namespace GroupedSolution

variable [DecidableEq S] [DecidableEq F]

/-! ### Derivations -/

/-- One vertex was derived from another: the end of an edge from the end of the edge before it or of the
summary applied there, and the start of a callee from the call. -/
inductive Derives (data : GroupedSolution S F) : Vertex S F → Vertex S F → Prop
  | flow {edge : Edge S F} {reason : Reason S F} (recorded : reason ∈ data.reasons.values edge)
      (kind : reason.kind = .sequent ∨ reason.kind = .callToReturn ∨ reason.kind = .callToStart) :
      Derives data reason.edge.target edge.target
  | back {edge : Edge S F} {reason : Reason S F} (recorded : reason ∈ data.reasons.values edge)
      (kind : reason.kind = .exitToReturn) : Derives data reason.summary.target edge.target
  | into {edge : Edge S F} {reason : Reason S F} (recorded : reason ∈ data.reasons.values edge)
      (kind : reason.kind = .exitToReturn) : Derives data reason.edge.target reason.summary.source

/-- Where derivations begin: at the zero fact, and at the end of an edge that was seeded or sent. -/
def IsOrigin (data : GroupedSolution S F) (zero : F) (v : Vertex S F) : Prop :=
  v.fact = zero ∨ ∃ edge reason, reason ∈ data.reasons.values edge ∧
    (reason.kind = .initial ∨ reason.kind = .fromOtherRunner) ∧ edge.target = v

/-- A graph whose sources are origins and whose edges are derivations. -/
structure Justifies (data : GroupedSolution S F) (zero : F) (g : TraceGraph S F) : Prop where
  sources : ∀ v ∈ g.sources, data.IsOrigin zero v
  edges : ∀ u w, (u, w) ∈ g.edges → TransGen data.Derives u w

variable {data : GroupedSolution S F} {zero : F}

theorem justifies_empty (sink : Vertex S F) : data.Justifies zero { sink } where
  sources := nofun
  edges := nofun

theorem Justifies.grows {g after : TraceGraph S F} {links : List (Vertex S F × Vertex S F)}
    {origins : List (Vertex S F)} (justifies : data.Justifies zero g)
    (grows : g.Grows links origins after)
    (derived : ∀ u w, (u, w) ∈ links → ReflTransGen data.Derives u w)
    (begun : ∀ v ∈ origins, data.IsOrigin zero v) : data.Justifies zero after where
  sources v member := by
    rcases (grows.sources v).mp member with old | new
    · exact justifies.sources v old
    · exact begun v new
  edges u w member := by
    rcases (grows.edges u w).mp member with old | ⟨new, differ⟩
    · exact justifies.edges u w old
    · rcases Relation.reflTransGen_iff_eq_or_transGen.mp (derived u w new) with same | derives
      · exact absurd same.symm differ
      · exact derives

/-- Derivations lead from the end of a visited edge to the vertex that the visit remembers. -/
def IsBefore (data : GroupedSolution S F) (visit : TraceVisit S F) : Prop :=
  ReflTransGen data.Derives visit.edge.target visit.last

variable {visit : TraceVisit S F} {reason : Reason S F}

/-- What a reason adds are derivations, and so is what the next visits lead to. -/
theorem IsBefore.step (zero : F) (isBefore : data.IsBefore visit)
    (recorded : reason ∈ data.reasons.values visit.edge) :
    (∀ u w, (u, w) ∈ (Solution.reasonStep visit reason).links → ReflTransGen data.Derives u w) ∧
      (∀ v ∈ (Solution.reasonStep visit reason).origins, data.IsOrigin zero v) ∧
      ∀ other ∈ (Solution.reasonStep visit reason).next, data.IsBefore other := by
  unfold Solution.reasonStep IsBefore
  cases kind : reason.kind with
  | initial | fromOtherRunner =>
      refine ⟨?_, ?_, nofun⟩
      · intro u w member
        obtain ⟨rfl, rfl⟩ := Prod.mk.inj (List.mem_singleton.mp member)
        exact isBefore
      · intro v member
        obtain rfl := List.mem_singleton.mp member
        exact .inr ⟨visit.edge, reason, recorded, by simp [kind], rfl⟩
  | sequent | callToReturn =>
      have derives : data.Derives reason.edge.target visit.edge.target :=
        .flow recorded (by simp [kind])
      dsimp only
      split
      · refine ⟨nofun, nofun, fun other member => ?_⟩
        obtain rfl := List.mem_singleton.mp member
        exact isBefore.head derives
      · refine ⟨?_, nofun, fun other member => ?_⟩
        · intro u w member
          obtain ⟨rfl, rfl⟩ := Prod.mk.inj (List.mem_singleton.mp member)
          exact isBefore.head derives
        · obtain rfl := List.mem_singleton.mp member
          exact .refl
  | callToStart =>
      dsimp only
      split
      · exact ⟨nofun, nofun, nofun⟩
      · refine ⟨?_, nofun, fun other member => ?_⟩
        · intro u w member
          obtain ⟨rfl, rfl⟩ := Prod.mk.inj (List.mem_singleton.mp member)
          exact isBefore.head (.flow recorded (by simp [kind]))
        · obtain rfl := List.mem_singleton.mp member
          exact .refl
  | exitToReturn =>
      refine ⟨?_, nofun, ?_⟩
      · intro u w member
        rcases List.mem_pair.mp member with same | same <;> obtain ⟨rfl, rfl⟩ := Prod.mk.inj same
        · exact isBefore.head (.back recorded kind)
        · exact .single (.into recorded kind)
      · intro other member
        rcases List.mem_pair.mp member with rfl | rfl
        · exact .refl
        · exact .refl
  | other code => exact ⟨nofun, nofun, nofun⟩

/-! ### The search comes to its end -/

/-- What part of a search has done: it visited more, and what it found are derivations. -/
structure GoesOn (data : GroupedSolution S F) (zero : F) (state after : Retraced S F) : Prop where
  visited : state.visited ⊆ after.visited
  sink : after.graph.sink = state.graph.sink
  justifies : data.Justifies zero state.graph → data.Justifies zero after.graph
  listsOnce : state.graph.ListsOnce → after.graph.ListsOnce

theorem GoesOn.refl (data : GroupedSolution S F) (zero : F) (state : Retraced S F) :
    data.GoesOn zero state state :=
  ⟨List.Subset.refl _, rfl, id, id⟩

theorem GoesOn.trans {state between after : Retraced S F} (first : data.GoesOn zero state between)
    (second : data.GoesOn zero between after) : data.GoesOn zero state after where
  visited := List.Subset.trans first.visited second.visited
  sink := second.sink.trans first.sink
  justifies before := second.justifies (first.justifies before)
  listsOnce before := second.listsOnce (first.listsOnce before)

/-- A visit that adds to the graph. -/
theorem GoesOn.of_grows {state : Retraced S F} {links : List (Vertex S F × Vertex S F)}
    {origins : List (Vertex S F)} {visited : List (Edge S F × Vertex S F)} {graph : TraceGraph S F}
    (more : state.visited ⊆ visited) (grows : state.graph.Grows links origins graph)
    (derived : ∀ u w, (u, w) ∈ links → ReflTransGen data.Derives u w)
    (begun : ∀ v ∈ origins, data.IsOrigin zero v)
    (listsOnce : state.graph.ListsOnce → graph.ListsOnce) :
    data.GoesOn zero state ⟨visited, graph⟩ where
  visited := more
  sink := grows.sink
  justifies before := before.grows grows derived begun
  listsOnce := listsOnce

/-- Where every step keeps to what is good, so does the whole. -/
theorem exists_foldlM {σ α : Type} {f : σ → α → Option σ} {items : List α} (Good : σ → Prop)
    {start : σ} (good : Good start)
    (step : ∀ item ∈ items, ∀ state, Good state → ∃ after, f state item = some after ∧ Good after) :
    ∃ after, items.foldlM f start = some after ∧ Good after := by
  induction items generalizing start with
  | nil => exact ⟨start, rfl, good⟩
  | cons item rest ih =>
      obtain ⟨next, taken, goodNext⟩ := step item List.mem_cons_self start good
      obtain ⟨after, folded, goodAfter⟩ := ih goodNext fun other member =>
        step other (List.mem_cons_of_mem item member)
      exact ⟨after, by rw [List.foldlM_cons, taken]; exact folded, goodAfter⟩

/-- Following a reason goes on if the search goes on from every visit that comes next. -/
theorem GoesOn.exists_follow {search : Retraced S F → TraceVisit S F → Option (Retraced S F)}
    {start state : Retraced S F} (goesOn : data.GoesOn zero start state)
    (isBefore : data.IsBefore visit) (recorded : reason ∈ data.reasons.values visit.edge)
    (further : ∀ other ∈ (Solution.reasonStep visit reason).next, data.IsBefore other →
      ∀ here, data.GoesOn zero start here →
        ∃ after, search here other = some after ∧ data.GoesOn zero here after) :
    ∃ after, Retraced.follow search visit state reason = some after ∧ data.GoesOn zero start after := by
  obtain ⟨derived, begun, before⟩ := isBefore.step zero recorded
  obtain ⟨grows, next⟩ := Solution.followReason_grows visit state.graph reason
  have followed := GoesOn.of_grows (List.Subset.refl _) grows derived begun
    (·.followReason visit reason)
  refine exists_foldlM _ (goesOn.trans followed) fun other member here goesOnHere => ?_
  have follows : other ∈ (Solution.reasonStep visit reason).next := next ▸ member
  obtain ⟨after, searched, goesOnAfter⟩ := further other follows (before other follows) here goesOnHere
  exact ⟨after, searched, goesOnHere.trans goesOnAfter⟩

section Bounded

variable {keys : List (Edge S F × Vertex S F)}

/-- How many pairs are left to visit. -/
def left (keys visited : List (Edge S F × Vertex S F)) : ℕ :=
  (keys.filter fun key => key ∉ visited).length

theorem left_le (keys : List (Edge S F × Vertex S F))
    {visited visited' : List (Edge S F × Vertex S F)} (more : visited ⊆ visited') :
    left keys visited' ≤ left keys visited := by
  unfold left
  refine (List.monotone_filter_right keys fun key => ?_).length_le
  simp only [decide_eq_true_eq]
  exact fun new old => new (more old)

theorem left_cons_lt {visited : List (Edge S F × Vertex S F)} {key : Edge S F × Vertex S F}
    (known : key ∈ keys) (new : key ∉ visited) : left keys (key :: visited) < left keys visited := by
  have others : keys.filter (fun other => other ∉ key :: visited) =
      (keys.filter fun other => other ∉ visited).filter fun other => other ≠ key := by
    rw [List.filter_filter]
    exact List.filter_congr fun other _ => by simp
  unfold left
  rw [others]
  refine List.length_filter_lt_length_iff_exists.mpr ⟨key, ?_, by simp⟩
  exact List.mem_filter.mpr ⟨known, decide_eq_true new⟩

variable (closed : ∀ (visit : TraceVisit S F) (reason : Reason S F), visit.key ∈ keys →
  reason ∈ data.reasons.values visit.edge →
    ∀ other ∈ (Solution.reasonStep visit reason).next, other.key ∈ keys)

include closed in
/-- A visit has an outcome if the search may go as deep as there are pairs left. -/
theorem exists_retrace {depth : ℕ} {state : Retraced S F} (known : visit.key ∈ keys)
    (isBefore : data.IsBefore visit) (enough : left keys state.visited < depth) :
    ∃ after, data.retrace zero depth state visit = some after ∧ data.GoesOn zero state after := by
  induction depth generalizing state visit with
  | zero => exact absurd enough (Nat.not_lt_zero _)
  | succ depth ih =>
      unfold retrace
      dsimp only
      by_cases visited : (visit.edge, visit.last) ∈ state.visited
      · rw [if_pos (List.contains_iff_mem.mpr visited)]
        exact ⟨state, rfl, .refl data zero state⟩
      rw [if_neg (mt List.contains_iff_mem.mp visited)]
      have more : state.visited ⊆ (visit.edge, visit.last) :: state.visited :=
        List.subset_cons_self _ _
      have single : ∀ u w, (u, w) ∈ [(visit.edge.target, visit.last)] →
          ReflTransGen data.Derives u w := fun u w member => by
        obtain ⟨rfl, rfl⟩ := Prod.mk.inj (List.mem_singleton.mp member)
        exact isBefore
      split
      next atStart =>
        have same : visit.edge.source = visit.edge.target :=
          beq_iff_eq.mp ((Bool.and_eq_true _ _).mp atStart).2
        exact ⟨_, rfl, .of_grows more (TraceGraph.grows_addEdge _ _ _) (same ▸ single) nofun
          (·.addEdge _ _)⟩
      next inside =>
        split
        next isZero =>
          refine ⟨_, rfl, .of_grows more ((TraceGraph.grows_addEdge _ _ _).trans
            (TraceGraph.grows_addSource _ _)) single (fun v member => ?_)
            fun listsOnce => (listsOnce.addEdge _ _).addSource _⟩
          obtain rfl := List.mem_singleton.mp member
          exact .inl (beq_iff_eq.mp isZero)
        next named =>
          -- the pair of the visit is marked before its reasons are followed, so fewer are left for them
          have fewer := left_cons_lt known visited
          let start : Retraced S F := ⟨(visit.edge, visit.last) :: state.visited, state.graph⟩
          have begins : data.GoesOn zero state start := ⟨more, rfl, id, id⟩
          have followed : ∃ after, (data.reasons.values visit.edge).foldlM
              (Retraced.follow (data.retrace zero depth) visit) start = some after ∧
                data.GoesOn zero start after := by
            refine exists_foldlM _ (.refl data zero start) fun reason recorded between goesOn => ?_
            refine goesOn.exists_follow isBefore recorded fun other follows before here goesOnHere => ?_
            have few := left_le keys goesOnHere.visited
            exact ih (closed visit reason known recorded other follows) before
              (few.trans_lt (fewer.trans_le (Nat.le_of_lt_succ enough)))
          obtain ⟨after, folded, goesOn⟩ := followed
          exact ⟨after, folded, begins.trans goesOn⟩

end Bounded

/-! ### Going deeper -/

theorem follow_of_refines {search search' : Retraced S F → TraceVisit S F → Option (Retraced S F)}
    (refines : ∀ state visit after, search state visit = some after → search' state visit = some after)
    {state after : Retraced S F} (followed : Retraced.follow search visit state reason = some after) :
    Retraced.follow search' visit state reason = some after :=
  foldlM_of_refines refines followed

/-- A search that may go deeper has the same outcome. -/
theorem retrace_of_le {depth depth' : ℕ} (deeper : depth ≤ depth') {state after : Retraced S F}
    (retraced : data.retrace zero depth state visit = some after) :
    data.retrace zero depth' state visit = some after := by
  induction depth generalizing depth' state visit after with
  | zero => exact nomatch retraced
  | succ depth ih =>
      obtain ⟨depth', rfl⟩ := Nat.exists_eq_add_of_le' (Nat.zero_lt_of_lt deeper)
      unfold retrace at retraced ⊢
      dsimp only at retraced ⊢
      split at retraced
      next visited => rwa [if_pos visited]
      next new =>
        rw [if_neg new]
        split at retraced
        next atStart => rwa [if_pos atStart]
        next inside =>
          rw [if_neg inside]
          split at retraced
          next isZero => rwa [if_pos isZero]
          next named =>
            rw [if_neg named]
            refine foldlM_of_refines (fun _ _ _ => follow_of_refines ?_) retraced
            exact fun state visit after => ih (Nat.le_of_succ_le_succ deeper)

/-! ### The graph of a vertex -/

/-- The edges that a search can come to. -/
def retraceEdges (data : GroupedSolution S F) (sink : Vertex S F) : List (Edge S F) :=
  data.edgesByEnd.values sink ++ data.reasons.pairs.map (·.2.edge) ++
    data.reasons.pairs.map (·.2.summary)

/-- The pairs that a search can come to. -/
def retraceKeys (data : GroupedSolution S F) (sink : Vertex S F) : List (Edge S F × Vertex S F) :=
  data.retraceEdges sink ×ˢ (data.retraceEdges sink).map Edge.target

private theorem retraceKeys_closed {sink : Vertex S F} (visit : TraceVisit S F) (reason : Reason S F)
    (known : visit.key ∈ data.retraceKeys sink) (recorded : reason ∈ data.reasons.values visit.edge) :
    ∀ other ∈ (Solution.reasonStep visit reason).next, other.key ∈ data.retraceKeys sink := by
  intro other follows
  obtain ⟨edge, last⟩ := Solution.next_among follows
  have pair := Groups.mem_pairs_of_mem_values recorded
  have reached : other.edge ∈ data.retraceEdges sink := by
    unfold retraceEdges
    simp only [List.mem_append, List.mem_map]
    rcases edge with same | same
    · exact .inl (.inr ⟨_, pair, same.symm⟩)
    · exact .inr ⟨_, pair, same.symm⟩
  refine List.mem_product.mpr ⟨reached, ?_⟩
  rcases last with same | same
  · exact same ▸ (List.mem_product.mp known).2
  · exact same ▸ List.mem_map_of_mem reached

/-- The search ends, whatever the content is, and what it finds are derivations. -/
theorem exists_traceGraph (data : GroupedSolution S F) (sink : Vertex S F) (zero : F) :
    ∃ graph, (∀ depth > (data.retraceKeys sink).length,
        data.traceGraph? sink zero depth = some graph) ∧
      graph.sink = sink ∧ data.Justifies zero graph ∧ graph.ListsOnce := by
  let start : Retraced S F := { graph := { sink } }
  have all : ∃ after, (data.edgesByEnd.values sink).foldlM (fun state edge =>
      data.retrace zero ((data.retraceKeys sink).length + 1) state ⟨edge, edge.target, false⟩)
        start = some after ∧ data.GoesOn zero start after := by
    refine exists_foldlM _ (.refl data zero start) fun edge root state goesOn => ?_
    have known : edge ∈ data.retraceEdges sink :=
      List.mem_append_left _ (List.mem_append_left _ root)
    have key : TraceVisit.key ⟨edge, edge.target, false⟩ ∈ data.retraceKeys sink :=
      List.mem_product.mpr ⟨known, List.mem_map_of_mem known⟩
    obtain ⟨after, retraced, further⟩ := exists_retrace retraceKeys_closed key .refl
      (Nat.lt_succ_of_le (List.length_filter_le _ _))
    exact ⟨after, retraced, goesOn.trans further⟩
  obtain ⟨after, folded, goesOn⟩ := all
  refine ⟨after.graph, fun depth deep => ?_, goesOn.sink, goesOn.justifies (justifies_empty sink),
    goesOn.listsOnce ⟨List.nodup_nil, List.nodup_nil⟩⟩
  unfold traceGraph?
  rw [foldlM_of_refines (fun _ _ _ => retrace_of_le deep) folded]
  rfl

end GroupedSolution

end Tabulation
