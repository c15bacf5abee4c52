/-
What the backward search for derivations explores.

A visit adds links and origins to the graph, and further visits follow.  The search takes them
one by one and skips those whose edge and last vertex were followed before, in whatever mode.
There are finitely many pairs to follow, so it ends with nothing left to take: what follows a
followed visit was itself followed, up to the mode.
-/

import Mathlib.Data.List.Perm.Subperm
import Mathlib.Data.List.ProdSigma
import Tabulation.Solver.Trace

namespace Tabulation

variable {S F : Type}

/-- By what the search remembers a visit. -/
def TraceVisit.key (visit : TraceVisit S F) : Edge S F × Vertex S F := (visit.edge, visit.last)

/-- What a visit adds to the graph, and the visits that follow. -/
structure TraceStep (S F : Type) where
  links : List (Vertex S F × Vertex S F) := []
  origins : List (Vertex S F) := []
  next : List (TraceVisit S F) := []

/-- The graph after some links and origins were added. A link from a vertex to itself is not. -/
structure TraceGraph.Grows (before : TraceGraph S F) (links : List (Vertex S F × Vertex S F))
    (origins : List (Vertex S F)) (after : TraceGraph S F) : Prop where
  sink : after.sink = before.sink
  edges : ∀ u v, (u, v) ∈ after.edges ↔ (u, v) ∈ before.edges ∨ (u, v) ∈ links ∧ u ≠ v
  sources : ∀ v, v ∈ after.sources ↔ v ∈ before.sources ∨ v ∈ origins

namespace TraceGraph

variable {first second third : TraceGraph S F}
variable {links moreLinks : List (Vertex S F × Vertex S F)}
variable {origins moreOrigins : List (Vertex S F)}

theorem Grows.refl (g : TraceGraph S F) : g.Grows [] [] g where
  sink := rfl
  edges _ _ := by simp
  sources _ := by simp

theorem Grows.trans (early : first.Grows links origins second)
    (late : second.Grows moreLinks moreOrigins third) :
    first.Grows (links ++ moreLinks) (origins ++ moreOrigins) third where
  sink := late.sink.trans early.sink
  edges u v := by rw [late.edges, early.edges, List.mem_append, or_and_right, or_assoc]
  sources v := by rw [late.sources, early.sources, List.mem_append, or_assoc]

variable [DecidableEq S] [DecidableEq F]

theorem grows_addEdge (g : TraceGraph S F) (u v : Vertex S F) :
    g.Grows [(u, v)] [] (g.addEdge u v) := by
  unfold addEdge
  by_cases same : u = v
  · rw [if_pos (by simp [same])]
    refine ⟨rfl, fun w x => ⟨Or.inl, ?_⟩, by simp⟩
    rintro (old | ⟨link, different⟩)
    · exact old
    · obtain ⟨rfl, rfl⟩ := Prod.mk.inj (List.mem_singleton.mp link)
      exact absurd same different
  · by_cases known : (u, v) ∈ g.edges
    · rw [if_pos (by simp [known])]
      refine ⟨rfl, fun w x => ⟨Or.inl, ?_⟩, by simp⟩
      rintro (old | ⟨link, _⟩)
      · exact old
      · rw [List.mem_singleton.mp link]
        exact known
    · rw [if_neg (by simp [same, known])]
      refine ⟨rfl, fun w x => ?_, by simp⟩
      rw [List.mem_cons, List.mem_singleton]
      constructor
      · rintro (link | old)
        · obtain ⟨rfl, rfl⟩ := Prod.mk.inj link
          exact Or.inr ⟨rfl, same⟩
        · exact Or.inl old
      · rintro (old | ⟨link, _⟩)
        · exact Or.inr old
        · exact Or.inl link

theorem grows_addSource (g : TraceGraph S F) (v : Vertex S F) :
    g.Grows [] [v] (g.addSource v) := by
  unfold addSource
  by_cases known : v ∈ g.sources
  · rw [if_pos (List.contains_iff_mem.mpr known)]
    refine ⟨rfl, by simp, fun w => ⟨Or.inl, ?_⟩⟩
    rintro (old | same)
    · exact old
    · rw [List.mem_singleton.mp same]
      exact known
  · rw [if_neg fun present => known (List.contains_iff_mem.mp present)]
    refine ⟨rfl, by simp, fun w => ?_⟩
    rw [List.mem_cons, List.mem_singleton, or_comm]

end TraceGraph

namespace Solution

variable [DecidableEq F]

/-! ### The step of a visit -/

/-- What a reason of a visited edge adds, and the visits that follow. -/
def reasonStep (visit : TraceVisit S F) (reason : Reason S F) : TraceStep S F :=
  match reason.kind with
  | .initial | .fromOtherRunner =>
    { links := [(visit.edge.target, visit.last)], origins := [visit.edge.target] }
  | .sequent | .callToReturn =>
    if reason.edge.target.fact = visit.edge.target.fact then
      { next := [⟨reason.edge, visit.last, visit.inCallee⟩] }
    else
      { links := [(reason.edge.target, visit.last)]
        next := [⟨reason.edge, reason.edge.target, visit.inCallee⟩] }
  | .callToStart =>
    if visit.inCallee then {}
    else
      { links := [(reason.edge.target, visit.last)]
        next := [⟨reason.edge, reason.edge.target, false⟩] }
  | .exitToReturn =>
    { links := [(reason.summary.target, visit.last), (reason.edge.target, reason.summary.source)]
      next := [⟨reason.summary, reason.summary.target, true⟩,
        ⟨reason.edge, reason.edge.target, visit.inCallee⟩] }
  | .other _ => {}

theorem reasonStep_initial (visit : TraceVisit S F) (reason : Reason S F)
    (kind : reason.kind = .initial) :
    reasonStep visit reason =
      { links := [(visit.edge.target, visit.last)], origins := [visit.edge.target] } := by
  unfold reasonStep
  rw [kind]

/-- Inside a method the search goes on with the edge before, and with a link if the fact changed. -/
theorem reasonStep_inside (visit : TraceVisit S F) (reason : Reason S F)
    (kind : reason.kind = .sequent ∨ reason.kind = .callToReturn) :
    ∃ last, (reasonStep visit reason).next = [⟨reason.edge, last, visit.inCallee⟩] ∧
      (last = visit.last ∨ (last, visit.last) ∈ (reasonStep visit reason).links) := by
  have step : reasonStep visit reason =
      if reason.edge.target.fact = visit.edge.target.fact then
        { next := [⟨reason.edge, visit.last, visit.inCallee⟩] }
      else
        { links := [(reason.edge.target, visit.last)]
          next := [⟨reason.edge, reason.edge.target, visit.inCallee⟩] } := by
    unfold reasonStep
    rcases kind with kind | kind <;> rw [kind]
  rw [step]
  split
  · exact ⟨_, rfl, Or.inl rfl⟩
  · exact ⟨_, rfl, Or.inr (List.mem_singleton_self _)⟩

/-- From the start of a method the search goes on to the callers, but not inside a callee. -/
theorem reasonStep_call (visit : TraceVisit S F) (reason : Reason S F)
    (kind : reason.kind = .callToStart) :
    reasonStep visit reason =
      if visit.inCallee then {}
      else
        { links := [(reason.edge.target, visit.last)]
          next := [⟨reason.edge, reason.edge.target, false⟩] } := by
  unfold reasonStep
  rw [kind]

/-- At a return site the search goes on in the callee and with the caller. -/
theorem reasonStep_exit (visit : TraceVisit S F) (reason : Reason S F)
    (kind : reason.kind = .exitToReturn) :
    reasonStep visit reason =
      { links := [(reason.summary.target, visit.last), (reason.edge.target, reason.summary.source)]
        next := [⟨reason.summary, reason.summary.target, true⟩,
          ⟨reason.edge, reason.edge.target, visit.inCallee⟩] } := by
  unfold reasonStep
  rw [kind]

/-- What some reasons add one after the other. -/
def reasonSteps (visit : TraceVisit S F) (reasons : List (Reason S F)) : TraceStep S F where
  links := reasons.flatMap fun reason => (reasonStep visit reason).links
  origins := reasons.flatMap fun reason => (reasonStep visit reason).origins
  next := reasons.flatMap fun reason => (reasonStep visit reason).next

variable [DecidableEq S]

/-- Whether a visit is at the start of a callee, where the search ends. -/
def AtStart (visit : TraceVisit S F) : Prop :=
  visit.inCallee = true ∧ visit.edge.source = visit.edge.target

instance (visit : TraceVisit S F) : Decidable (AtStart visit) :=
  inferInstanceAs (Decidable (_ ∧ _))

/-- What a visit adds, and the visits that follow. -/
def stepOf (data : Solution S F) (zero : F) (visit : TraceVisit S F) : TraceStep S F :=
  if AtStart visit then { links := [(visit.edge.source, visit.last)] }
  else if visit.edge.target.fact = zero then
    { links := [(visit.edge.target, visit.last)], origins := [visit.edge.target] }
  else reasonSteps visit (data.reasonsOf visit.edge)

theorem followReason_grows (visit : TraceVisit S F) (g : TraceGraph S F)
    (reason : Reason S F) :
    g.Grows (reasonStep visit reason).links (reasonStep visit reason).origins
        (followReason visit g reason).1 ∧
      (followReason visit g reason).2 = (reasonStep visit reason).next := by
  unfold followReason reasonStep
  cases reason.kind with
  | initial => exact ⟨(g.grows_addSource _).trans (TraceGraph.grows_addEdge _ _ _), rfl⟩
  | fromOtherRunner => exact ⟨(g.grows_addSource _).trans (TraceGraph.grows_addEdge _ _ _), rfl⟩
  | sequent | callToReturn =>
      dsimp only
      by_cases same : reason.edge.target.fact = visit.edge.target.fact
      · rw [if_pos same, if_pos (beq_iff_eq.mpr same)]
        exact ⟨.refl g, rfl⟩
      · rw [if_neg same, if_neg (mt beq_iff_eq.mp same)]
        exact ⟨g.grows_addEdge _ _, rfl⟩
  | callToStart =>
      dsimp only
      cases visit.inCallee with
      | true => exact ⟨.refl g, rfl⟩
      | false => exact ⟨g.grows_addEdge _ _, rfl⟩
  | exitToReturn => exact ⟨(g.grows_addEdge _ _).trans (TraceGraph.grows_addEdge _ _ _), rfl⟩
  | other code => exact ⟨.refl g, rfl⟩

private theorem followReasons_grows (visit : TraceVisit S F) (reasons : List (Reason S F))
    (g : TraceGraph S F) (before : List (TraceVisit S F)) :
    let followed := reasons.foldl (fun acc reason =>
      ((followReason visit acc.1 reason).1, acc.2 ++ (followReason visit acc.1 reason).2))
      (g, before)
    g.Grows (reasonSteps visit reasons).links (reasonSteps visit reasons).origins followed.1 ∧
      followed.2 = before ++ (reasonSteps visit reasons).next := by
  induction reasons generalizing g before with
  | nil => exact ⟨.refl g, (List.append_nil before).symm⟩
  | cons reason rest ih =>
      obtain ⟨grows, next⟩ := followReason_grows visit g reason
      obtain ⟨later, all⟩ := ih (followReason visit g reason).1
        (before ++ (followReason visit g reason).2)
      refine ⟨grows.trans later, all.trans ?_⟩
      rw [next, List.append_assoc]
      rfl

theorem follow_grows (data : Solution S F) (zero : F) (visit : TraceVisit S F)
    (g : TraceGraph S F) :
    g.Grows (data.stepOf zero visit).links (data.stepOf zero visit).origins
        (data.follow zero visit g).1 ∧
      (data.follow zero visit g).2 = (data.stepOf zero visit).next := by
  unfold follow stepOf
  dsimp only
  by_cases atStart : AtStart visit
  · have stops : (visit.inCallee && visit.edge.source == visit.edge.target) = true := by
      simpa [AtStart] using atStart
    rw [if_pos atStart, if_pos stops]
    exact ⟨g.grows_addEdge _ _, rfl⟩
  · have goesOn : ¬(visit.inCallee && visit.edge.source == visit.edge.target) = true := by
      simpa [AtStart] using atStart
    rw [if_neg atStart, if_neg goesOn]
    by_cases isZero : visit.edge.target.fact = zero
    · rw [if_pos isZero, if_pos (beq_iff_eq.mpr isZero)]
      exact ⟨(g.grows_addEdge _ _).trans (TraceGraph.grows_addSource _ _), rfl⟩
    · rw [if_neg isZero, if_neg (mt beq_iff_eq.mp isZero)]
      exact followReasons_grows visit (data.reasonsOf visit.edge) g []

/-! ### The order of the search -/

variable (data : Solution S F) (zero : F) (roots : List (TraceVisit S F))

/-- Visits in the order in which a search follows them, the latest first. -/
inductive Follows : List (TraceVisit S F) → Prop
  | none : Follows []
  | more {visit : TraceVisit S F} {followed : List (TraceVisit S F)} (before : Follows followed)
      (origin : visit ∈ roots ∨ ∃ earlier ∈ followed, visit ∈ (data.stepOf zero earlier).next)
      (new : visit.key ∉ followed.map TraceVisit.key) : Follows (visit :: followed)

/-- What a search has followed when `waiting` is still to be taken, and its graph. -/
structure Explores (followed waiting : List (TraceVisit S F)) (g : TraceGraph S F) : Prop where
  order : data.Follows zero roots followed
  origin : ∀ visit ∈ waiting,
    visit ∈ roots ∨ ∃ earlier ∈ followed, visit ∈ (data.stepOf zero earlier).next
  roots : ∀ visit ∈ roots, visit ∈ waiting ∨ visit.key ∈ followed.map TraceVisit.key
  next : ∀ visit ∈ followed, ∀ other ∈ (data.stepOf zero visit).next,
    other ∈ waiting ∨ other.key ∈ followed.map TraceVisit.key
  edges : ∀ u v, (u, v) ∈ g.edges ↔
    u ≠ v ∧ ∃ visit ∈ followed, (u, v) ∈ (data.stepOf zero visit).links
  sources : ∀ v, v ∈ g.sources ↔ ∃ visit ∈ followed, v ∈ (data.stepOf zero visit).origins

variable {data zero roots} {followed waiting : List (TraceVisit S F)} {visit : TraceVisit S F}
variable {g : TraceGraph S F}

theorem explores_start (sink : Vertex S F) : data.Explores zero roots [] roots { sink } where
  order := .none
  origin _ member := Or.inl member
  roots _ member := Or.inl member
  next _ member := absurd member List.not_mem_nil
  edges _ _ := by simp
  sources _ := by simp

theorem Explores.skip (explores : data.Explores zero roots followed (visit :: waiting) g)
    (known : visit.key ∈ followed.map TraceVisit.key) :
    data.Explores zero roots followed waiting g := by
  have covers : ∀ other, other ∈ visit :: waiting ∨ other.key ∈ followed.map TraceVisit.key →
      other ∈ waiting ∨ other.key ∈ followed.map TraceVisit.key := by
    rintro other (taken | old)
    · rcases List.mem_cons.mp taken with rfl | left
      · exact Or.inr known
      · exact Or.inl left
    · exact Or.inr old
  exact { explores with
    origin := fun other left => explores.origin other (List.mem_cons_of_mem _ left)
    roots := fun other isRoot => covers other (explores.roots other isRoot)
    next := fun earlier member other follows =>
      covers other (explores.next earlier member other follows) }

theorem Explores.follow (explores : data.Explores zero roots followed (visit :: waiting) g)
    (new : visit.key ∉ followed.map TraceVisit.key) :
    data.Explores zero roots (visit :: followed)
      ((data.follow zero visit g).2 ++ waiting) (data.follow zero visit g).1 := by
  obtain ⟨grows, next⟩ := data.follow_grows zero visit g
  rw [next]
  have covers : ∀ other, other ∈ visit :: waiting ∨ other.key ∈ followed.map TraceVisit.key →
      other ∈ (data.stepOf zero visit).next ++ waiting ∨
        other.key ∈ (visit :: followed).map TraceVisit.key := by
    rintro other (taken | old)
    · rcases List.mem_cons.mp taken with rfl | left
      · exact Or.inr List.mem_cons_self
      · exact Or.inl (List.mem_append_right _ left)
    · exact Or.inr (List.mem_cons_of_mem _ old)
  refine ⟨?_, ?_, ?_, ?_, ?_, ?_⟩
  · exact .more explores.order (explores.origin visit List.mem_cons_self) new
  · intro other member
    rcases List.mem_append.mp member with child | left
    · exact Or.inr ⟨visit, List.mem_cons_self, child⟩
    · rcases explores.origin other (List.mem_cons_of_mem _ left) with root | ⟨earlier, old, child⟩
      · exact Or.inl root
      · exact Or.inr ⟨earlier, List.mem_cons_of_mem _ old, child⟩
  · intro other isRoot
    exact covers other (explores.roots other isRoot)
  · intro earlier member other child
    rcases List.mem_cons.mp member with rfl | old
    · exact Or.inl (List.mem_append_left _ child)
    · exact covers other (explores.next earlier old other child)
  · intro u v
    rw [grows.edges, explores.edges]
    simp only [List.mem_cons, exists_eq_or_imp]
    rw [and_comm, ← or_and_right, or_comm, and_comm]
  · intro v
    rw [grows.sources, explores.sources]
    simp only [List.mem_cons, exists_eq_or_imp]
    exact or_comm

/-- At the end, what follows a followed visit was followed, with the same edge and last vertex. -/
theorem Explores.exists_followed (explores : data.Explores zero roots followed [] g)
    (member : visit ∈ followed) {other : TraceVisit S F}
    (follows : other ∈ (data.stepOf zero visit).next) :
    ∃ again ∈ followed, again.edge = other.edge ∧ again.last = other.last := by
  have seen := (explores.next visit member other follows).resolve_left List.not_mem_nil
  obtain ⟨again, isFollowed, same⟩ := List.mem_map.mp seen
  exact ⟨again, isFollowed, congrArg Prod.fst same, congrArg Prod.snd same⟩

theorem search_sink (fuel : ℕ) (visited : List (Edge S F × Vertex S F)) :
    (data.search zero fuel visited waiting g).sink = g.sink := by
  induction fuel generalizing visited waiting g with
  | zero => rfl
  | succ fuel ih =>
      cases waiting with
      | nil => rfl
      | cons visit waiting =>
          unfold Solution.search
          split
          · exact ih visited
          · exact (ih _).trans (data.follow_grows zero visit g).1.sink

/-! ### The search comes to its end -/

theorem Follows.nodup (follows : data.Follows zero roots followed) :
    (followed.map TraceVisit.key).Nodup := by
  induction follows with
  | none => exact List.nodup_nil
  | more _ _ new ih => exact List.nodup_cons.mpr ⟨new, ih⟩

theorem search_nil (data : Solution S F) (zero : F) (fuel : ℕ)
    (visited : List (Edge S F × Vertex S F)) (g : TraceGraph S F) :
    data.search zero fuel visited [] g = g := by
  cases fuel with
  | zero => rfl
  | succ fuel => rfl

theorem search_skip (data : Solution S F) (zero : F) (fuel : ℕ)
    {visited : List (Edge S F × Vertex S F)} (known : visit.key ∈ visited)
    (waiting : List (TraceVisit S F)) (g : TraceGraph S F) :
    data.search zero (fuel + 1) visited (visit :: waiting) g =
      data.search zero fuel visited waiting g := by
  have seen : visited.contains (visit.edge, visit.last) = true := List.contains_iff_mem.mpr known
  rw [Solution.search, if_pos seen]

theorem search_follow (data : Solution S F) (zero : F) (fuel : ℕ)
    {visited : List (Edge S F × Vertex S F)} (new : visit.key ∉ visited)
    (waiting : List (TraceVisit S F)) (g : TraceGraph S F) :
    data.search zero (fuel + 1) visited (visit :: waiting) g =
      data.search zero fuel (visit.key :: visited) ((data.follow zero visit g).2 ++ waiting)
        (data.follow zero visit g).1 := by
  have unseen : ¬visited.contains (visit.edge, visit.last) = true :=
    fun present => new (List.contains_iff_mem.mp present)
  rw [Solution.search, if_neg unseen]
  rfl

section Bounded

variable {keys : List (Edge S F × Vertex S F)} {width : ℕ}
variable (rootKeys : ∀ visit ∈ roots, visit.key ∈ keys)
variable (nextKeys : ∀ visit : TraceVisit S F, visit.key ∈ keys →
  ∀ other ∈ (data.stepOf zero visit).next, other.key ∈ keys)

include rootKeys nextKeys

theorem Follows.subset (follows : data.Follows zero roots followed) :
    followed.map TraceVisit.key ⊆ keys := by
  induction follows with
  | none => exact List.nil_subset _
  | @more visit followed before origin new ih =>
      refine List.cons_subset.mpr ⟨?_, ih⟩
      rcases origin with root | ⟨earlier, old, child⟩
      · exact rootKeys visit root
      · exact nextKeys earlier (ih (List.mem_map.mpr ⟨earlier, old, rfl⟩)) visit child

theorem Follows.length_le (follows : data.Follows zero roots followed) :
    followed.length ≤ keys.length := by
  have bounded := (List.subperm_of_subset follows.nodup
    (follows.subset rootKeys nextKeys)).length_le
  rwa [List.length_map] at bounded

/-- With enough fuel the search ends with nothing left, and more fuel changes nothing. -/
theorem Explores.search (narrow : ∀ visit : TraceVisit S F,
      (data.stepOf zero visit).next.length ≤ width) (fuel : ℕ)
    (explores : data.Explores zero roots followed waiting g)
    (enough : waiting.length + (keys.length - followed.length) * width ≤ fuel) :
    (∃ all, data.Explores zero roots all []
      (data.search zero fuel (followed.map TraceVisit.key) waiting g)) ∧
    ∀ more, data.search zero (fuel + more) (followed.map TraceVisit.key) waiting g =
      data.search zero fuel (followed.map TraceVisit.key) waiting g := by
  induction fuel generalizing followed waiting g with
  | zero =>
      have empty : waiting = [] := List.eq_nil_of_length_eq_zero (by omega)
      subst empty
      exact ⟨⟨followed, explores⟩, fun more => data.search_nil zero _ _ g⟩
  | succ fuel ih =>
      cases waiting with
      | nil => exact ⟨⟨followed, explores⟩, fun more => data.search_nil zero _ _ g⟩
      | cons visit waiting =>
          have more : ∀ more, fuel + 1 + more = fuel + more + 1 := fun more => by omega
          rw [List.length_cons] at enough
          by_cases known : visit.key ∈ followed.map TraceVisit.key
          · simp only [more, data.search_skip zero _ known]
            exact ih (explores.skip known) (by omega)
          · simp only [more, data.search_follow zero _ known]
            have later := explores.follow known
            have limit := later.order.length_le rootKeys nextKeys
            rw [List.length_cons] at limit
            have few := narrow visit
            rw [← (data.follow_grows zero visit g).2] at few
            -- One more pair was followed, which pays for the visits that it adds.
            have paid : (keys.length - followed.length) * width =
                (keys.length - (followed.length + 1)) * width + width := by
              rw [← Nat.succ_mul]
              congr 1
              omega
            refine ih later ?_
            rw [List.length_append, List.length_cons]
            omega

end Bounded

/-! ### The graph of a vertex -/

/-- The edges that a search can come to. -/
def derivationEdges (data : Solution S F) : List (Edge S F) :=
  data.edges ++ data.reasons.map (·.2.edge) ++ data.reasons.map (·.2.summary)

/-- The pairs that a search can follow. -/
def traceKeys (data : Solution S F) : List (Edge S F × Vertex S F) :=
  data.derivationEdges ×ˢ data.derivationEdges.map Edge.target

/-- The visits with which the search for the derivations of a vertex begins. -/
def traceRoots (data : Solution S F) (sink : Vertex S F) : List (TraceVisit S F) :=
  (data.edgesEndingAt sink).map fun edge => ⟨edge, edge.target, false⟩

omit [DecidableEq S] [DecidableEq F] in
theorem mem_traceKeys {edge : Edge S F} {last : Vertex S F} :
    (edge, last) ∈ data.traceKeys ↔
      edge ∈ data.derivationEdges ∧ ∃ other ∈ data.derivationEdges, other.target = last := by
  unfold traceKeys
  rw [List.mem_product, List.mem_map]

theorem mem_reasonsOf {edge : Edge S F} {reason : Reason S F} :
    reason ∈ data.reasonsOf edge ↔ (edge, reason) ∈ data.reasons := by
  unfold reasonsOf
  simp only [List.mem_map, List.mem_filter, beq_iff_eq]
  constructor
  · rintro ⟨⟨other, _⟩, ⟨member, rfl⟩, rfl⟩
    exact member
  · intro member
    exact ⟨(edge, reason), ⟨member, rfl⟩, rfl⟩

/-- What follows a visit follows it for one of the reasons of its edge. -/
theorem mem_next {other : TraceVisit S F} :
    other ∈ (data.stepOf zero visit).next ↔
      ¬AtStart visit ∧ visit.edge.target.fact ≠ zero ∧
        ∃ reason, (visit.edge, reason) ∈ data.reasons ∧
          other ∈ (reasonStep visit reason).next := by
  unfold stepOf
  by_cases atStart : AtStart visit
  · simp [atStart]
  · by_cases isZero : visit.edge.target.fact = zero
    · simp [atStart, isZero]
    · simp [atStart, isZero, reasonSteps, mem_reasonsOf]

theorem stepOf_of_goesOn (goesOn : ¬AtStart visit) (named : visit.edge.target.fact ≠ zero) :
    data.stepOf zero visit = reasonSteps visit (data.reasonsOf visit.edge) := by
  unfold stepOf
  rw [if_neg goesOn, if_neg named]

theorem stepOf_of_zero (goesOn : ¬AtStart visit) (isZero : visit.edge.target.fact = zero) :
    data.stepOf zero visit = { links := [(visit.edge.target, visit.last)]
                               origins := [visit.edge.target] } := by
  unfold stepOf
  rw [if_neg goesOn, if_pos isZero]

theorem stepOf_of_atStart (atStart : AtStart visit) :
    data.stepOf zero visit = { links := [(visit.edge.source, visit.last)] } := by
  unfold stepOf
  rw [if_pos atStart]

omit [DecidableEq S] in
theorem next_among {reason : Reason S F} {other : TraceVisit S F}
    (member : other ∈ (reasonStep visit reason).next) :
    (other.edge = reason.edge ∨ other.edge = reason.summary) ∧
      (other.last = visit.last ∨ other.last = other.edge.target) := by
  unfold reasonStep at member
  grind

private theorem nextKeys (visit : TraceVisit S F) (known : visit.key ∈ data.traceKeys) :
    ∀ other ∈ (data.stepOf zero visit).next, other.key ∈ data.traceKeys := by
  intro other member
  obtain ⟨_, last⟩ := mem_traceKeys.mp known
  obtain ⟨_, _, reason, recorded, follows⟩ := mem_next.mp member
  obtain ⟨edge, lastOf⟩ := next_among follows
  have reached : other.edge ∈ data.derivationEdges := by
    unfold derivationEdges
    simp only [List.mem_append, List.mem_map]
    rcases edge with same | same
    · exact Or.inl (Or.inr ⟨_, recorded, same.symm⟩)
    · exact Or.inr ⟨_, recorded, same.symm⟩
  refine mem_traceKeys.mpr ⟨reached, ?_⟩
  rcases lastOf with same | same
  · rw [same]
    exact last
  · exact ⟨other.edge, reached, same.symm⟩

omit [DecidableEq S] in
private theorem length_reasonSteps_le (visit : TraceVisit S F) (reasons : List (Reason S F)) :
    (reasonSteps visit reasons).next.length ≤ 2 * reasons.length := by
  induction reasons with
  | nil => exact Nat.le_refl _
  | cons reason rest ih =>
      have few : (reasonStep visit reason).next.length ≤ 2 := by
        unfold reasonStep
        split
        case h_3 | h_4 => split <;> exact Nat.le_succ 1
        case h_5 => split <;> simp
        all_goals simp
      unfold reasonSteps at ih ⊢
      dsimp only at ih ⊢
      rw [List.flatMap_cons, List.length_append, List.length_cons]
      omega

private theorem length_next_le (visit : TraceVisit S F) :
    (data.stepOf zero visit).next.length ≤ 2 * data.reasons.length := by
  unfold stepOf
  split
  · exact Nat.zero_le _
  · split
    · exact Nat.zero_le _
    · have own : (data.reasonsOf visit.edge).length ≤ data.reasons.length := by
        unfold reasonsOf
        rw [List.length_map]
        exact List.length_filter_le _ _
      have total := length_reasonSteps_le visit (data.reasonsOf visit.edge)
      omega

theorem traceGraph_sink (data : Solution S F) (sink : Vertex S F) (zero : F) :
    (data.traceGraph sink zero).sink = sink := search_sink _ _

/-- The bound on the length of the search is enough. -/
private theorem search_searchBound (data : Solution S F) (sink : Vertex S F) (zero : F) :
    (∃ followed, data.Explores zero (data.traceRoots sink) followed []
      (data.traceGraph sink zero)) ∧
    ∀ more, data.search zero (data.searchBound + more) [] (data.traceRoots sink) { sink } =
      data.traceGraph sink zero := by
  have rootKeys : ∀ visit ∈ data.traceRoots sink, visit.key ∈ data.traceKeys := by
    intro visit member
    obtain ⟨edge, ends, rfl⟩ := List.mem_map.mp member
    have known : edge ∈ data.derivationEdges := by
      unfold derivationEdges
      rw [List.append_assoc]
      exact List.mem_append_left _ (List.mem_of_mem_filter ends)
    exact mem_traceKeys.mpr ⟨known, edge, known, rfl⟩
  refine (explores_start sink).search rootKeys nextKeys length_next_le _ ?_
  have roots : (data.traceRoots sink).length ≤ data.edges.length := by
    unfold traceRoots edgesEndingAt
    rw [List.length_map]
    exact List.length_filter_le _ _
  have edges : data.derivationEdges.length = data.edges.length + 2 * data.reasons.length := by
    unfold derivationEdges
    simp only [List.length_append, List.length_map]
    omega
  have pairs : data.traceKeys.length =
      data.derivationEdges.length * data.derivationEdges.length := by
    unfold traceKeys
    rw [List.length_product, List.length_map]
  have cube : data.traceKeys.length * (2 * data.reasons.length) ≤
      data.derivationEdges.length * data.derivationEdges.length *
        data.derivationEdges.length := by
    rw [pairs]
    exact Nat.mul_le_mul_left _ (by omega)
  have larger := Nat.mul_le_mul (Nat.mul_le_mul (Nat.le_succ data.derivationEdges.length)
    (Nat.le_succ data.derivationEdges.length)) (Nat.le_succ data.derivationEdges.length)
  unfold searchBound
  rw [← edges]
  simp only [List.length_nil, Nat.sub_zero, Nat.succ_eq_add_one] at larger ⊢
  omega

/-- Whatever the data is, the search for the derivations of a vertex ends with nothing left. -/
theorem traceGraph_explores (data : Solution S F) (sink : Vertex S F) (zero : F) :
    ∃ followed, data.Explores zero (data.traceRoots sink) followed []
      (data.traceGraph sink zero) :=
  (data.search_searchBound sink zero).1

/-- And it finds nothing else if it may go on for longer. -/
theorem search_add_eq_traceGraph (data : Solution S F) (sink : Vertex S F) (zero : F) (more : ℕ) :
    data.search zero (data.searchBound + more) [] (data.traceRoots sink) { sink } =
      data.traceGraph sink zero :=
  (data.search_searchBound sink zero).2 more

end Solution

end Tabulation
