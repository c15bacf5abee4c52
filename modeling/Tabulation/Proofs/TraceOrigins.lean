/-
Where the search for derivations leads.

The search follows a pair of an edge and a last vertex in one mode only: inside a callee it ends at
the start of the method, and a later visit that would go on to the callers is skipped.  If no start
on the way to the sink takes a result from a call that leads back to it, some visit that goes on to
the callers is never preceded by one inside a callee, and a source is found.  Whatever was followed
leads to the sink, because the ways through the callees are in the graph.
-/

import Mathlib.Order.Preorder.Finite
import Tabulation.Proofs.ControlFlow
import Tabulation.Proofs.FiniteFlow
import Tabulation.Proofs.Outcomes
import Tabulation.Proofs.TracePaths
import Tabulation.Proofs.TraceSearch

namespace Tabulation

namespace Solution

/-! ### Facts that go through calls -/

section Exchanges

variable {S F : Type} [Inhabited S] [Inhabited F]

/-- A call on the way from one start passes a fact on to another start. -/
def PassesTo (data : Solution S F) (zero : F) (caller start : Vertex S F) : Prop :=
  start.fact ≠ zero ∧ ∃ edge : Edge S F, edge.source = caller ∧
    (Edge.loop start, .derived .callToStart edge) ∈ data.reasons

/-- A call on the way from one start takes a fact back from what was entered at another start. -/
def TakesFrom (data : Solution S F) (zero : F) (caller start : Vertex S F) : Prop :=
  ∃ edge call summary : Edge S F, edge.target.fact ≠ zero ∧ edge.source = caller ∧
    summary.source = start ∧ (edge, .applied call summary) ∈ data.reasons

def Exchanges (data : Solution S F) (zero : F) (caller start : Vertex S F) : Prop :=
  data.PassesTo zero caller start ∨ data.TakesFrom zero caller start

/-- A vertex has its fact from a start, by way of the calls that pass it on. -/
def ComesFrom (data : Solution S F) (zero : F) (sink start : Vertex S F) : Prop :=
  ∃ edge ∈ data.edges, edge.target = sink ∧
    Relation.ReflTransGen (data.PassesTo zero) start edge.source

/-- No start on the way to a vertex takes a result from a call that leads back to it. Recursive calls
may pass facts on, and calls that do not come back may return them. -/
def IsUntangled (data : Solution S F) (zero : F) (sink : Vertex S F) : Prop :=
  ∀ start, data.ComesFrom zero sink start → ∀ callee, data.TakesFrom zero start callee →
    ¬Relation.ReflTransGen (data.Exchanges zero) callee start

theorem IsUntangled.of_sameContent {data other : Solution S F} {zero : F} {sink : Vertex S F}
    (untangled : data.IsUntangled zero sink) (same : other.SameContent data) :
    other.IsUntangled zero sink := by
  have passesTo : other.PassesTo zero = data.PassesTo zero := by
    unfold PassesTo
    simp only [same.reasons.mem_iff]
  have takesFrom : other.TakesFrom zero = data.TakesFrom zero := by
    unfold TakesFrom
    simp only [same.reasons.mem_iff]
  unfold IsUntangled ComesFrom Exchanges at untangled ⊢
  simp only [same.edges.mem_iff, passesTo, takesFrom]
  exact untangled

/-- The way is untangled if whatever a result is taken from goes through no calls itself. -/
theorem IsUntangled.of_leaves {data : Solution S F} {zero : F}
    (leaves : ∀ caller callee next, data.TakesFrom zero caller callee →
      ¬data.Exchanges zero callee next) (sink : Vertex S F) : data.IsUntangled zero sink := by
  intro start _ callee takes returns
  rcases Relation.ReflTransGen.cases_head returns with rfl | ⟨next, exchange, _⟩
  · exact leaves callee callee callee takes (.inr takes)
  · exact leaves start callee next takes exchange

end Exchanges

end Solution

namespace Program

/-! ### Calls between methods -/

/-- Some call of one method is resolved to another. -/
def Calls (p : Program) (banned : List String) (caller callee : MethodName) : Prop :=
  ∃ s : Statement, s.method = caller ∧ callee ∈ ((p.dispatch banned).resolve s).methods

/-- No method that leads to a method by calls is recursive. -/
def AcyclicAbove (p : Program) (banned : List String) (callee : MethodName) : Prop :=
  ∀ caller, Relation.ReflTransGen (p.Calls banned) caller callee →
    ¬Relation.TransGen (p.Calls banned) caller caller

/-- The method of an edge: where it starts. -/
def methodOf {F : Type} (edge : Edge Statement F) : MethodName := edge.source.statement.method

/-- Rules of a program whose calls pass facts on as they are. -/
structure Passing {F : Type} (p : Program) (rules : Rules Statement F MethodName) : Prop where
  graph : rules.graph = p.flowGraph
  passed : ∀ {s next fact passed},
    .toCallees passed ∈ rules.flow.call s next fact → passed = fact

theorem Passing.callEdge_eq {F : Type} {p : Program} {rules : Rules Statement F MethodName}
    (passing : p.Passing rules) {edge : Edge Statement F} {passed : F}
    (passes : rules.Passes edge.target passed) : Rules.callEdge edge passed = edge := by
  obtain ⟨_, next, _, flow⟩ := passes
  rw [passing.passed flow]
  rfl

section Solved

variable {F : Type} [Inhabited F] {p : Program} {banned : List String}
variable {rules : Rules Statement F MethodName} {entries : List MethodName}
variable {data : Solution Statement F} {edge : Edge Statement F} {reason : Reason Statement F}
variable (passing : p.Passing rules)
variable (solved : rules.IsSolvedBy (p.dispatch banned) (p.startSeeds entries rules) data)

include passing solved

/-- Edges do not leave their method. -/
theorem Passing.method_target : ∀ edge ∈ data.edges,
    edge.target.statement.method = methodOf edge := by
  refine solved.induction ?_ ?_
  · rintro edge reason ⟨_, start, _, same⟩
    change edge = .loop start at same
    rw [same]
    rfl
  · intro edge reason _ infers
    have stays : ∀ {s next}, next ∈ rules.graph.successors s → next.method = s.method := by
      intro s next successor
      rw [passing.graph] at successor
      obtain ⟨_, _, same, _⟩ := mem_successors.mp successor
      exact same
    cases infers with
    | sequent member flows => exact (stays flows.2.2.1).trans member.2
    | callToReturn member bypasses => exact (stays bypasses.2.1).trans member.2
    | callToStart => rfl
    | exitToReturn member _ _ _ reenters => exact (stays reenters.1).trans member.2

theorem Passing.calls_of_enters (loaded : p.Loaded) (member : edge ∈ data.edges) {passed : F}
    {start : Vertex Statement F}
    (enters : rules.Enters (p.dispatch banned) edge.target passed start) :
    p.Calls banned (methodOf edge) start.statement.method := by
  obtain ⟨_, callee, resolved, isEntry, _⟩ := enters
  refine ⟨edge.target.statement, passing.method_target solved edge member, ?_⟩
  rw [passing.graph] at isEntry
  obtain ⟨m, found, first⟩ := mem_entries_iff.mp isEntry
  obtain ⟨_, same⟩ := Method.mem_entries.mp first
  obtain ⟨named, _⟩ := loaded.method?_eq_some found
  rw [same]
  exact named ▸ resolved

theorem Passing.calls_of_passesTo (loaded : p.Loaded) {zero : F} {caller start : Vertex Statement F}
    (passes : data.PassesTo zero caller start) :
    p.Calls banned caller.statement.method start.statement.method := by
  obtain ⟨_, edge, rfl, recorded⟩ := passes
  rcases (solved.reasons _ _).mp recorded with ⟨isInitial, _⟩ | infers
  · cases isInitial
  · generalize isLoop : Edge.loop start = loop at infers
    generalize isReason : Reason.derived .callToStart edge = reason at infers
    cases infers with
    | callToStart member enters =>
        cases isReason
        cases isLoop
        exact passing.calls_of_enters solved loaded member enters
    | _ => cases isReason

theorem Passing.calls_of_takesFrom (loaded : p.Loaded) {zero : F} {caller start : Vertex Statement F}
    (takes : data.TakesFrom zero caller start) :
    p.Calls banned caller.statement.method start.statement.method := by
  obtain ⟨edge, call, summary, _, rfl, rfl, recorded⟩ := takes
  rcases (solved.reasons _ _).mp recorded with ⟨isInitial, _⟩ | infers
  · cases isInitial
  · generalize isReason : Reason.applied call summary = reason at infers
    cases infers with
    | exitToReturn member enters summaryMember exit reenters =>
        cases isReason
        exact passing.calls_of_enters solved loaded member enters
    | _ => cases isReason

/-- Without recursive methods that lead to its method the way to a vertex is untangled. -/
theorem Passing.isUntangled (loaded : p.Loaded) {zero : F} {sink : Vertex Statement F}
    (acyclic : p.AcyclicAbove banned sink.statement.method) : data.IsUntangled zero sink := by
  rintro start ⟨edge, known, rfl, leads⟩ callee takes returns
  have methods : ∀ {first last : Vertex Statement F},
      Relation.ReflTransGen (data.Exchanges zero) first last →
        Relation.ReflTransGen (p.Calls banned) first.statement.method last.statement.method := by
    intro first last exchanges
    refine exchanges.lift (fun vertex => vertex.statement.method) fun _ _ exchange => ?_
    exact exchange.elim (passing.calls_of_passesTo solved loaded)
      (passing.calls_of_takesFrom solved loaded)
  rw [passing.method_target solved edge known] at acyclic
  refine acyclic start.statement.method ?_ ?_
  · exact methods (Relation.ReflTransGen.mono (fun _ _ passes => Or.inl passes) _ _ leads)
  · exact .head' (passing.calls_of_takesFrom solved loaded takes) (methods returns)

end Solved

end Program

/-! ### Followed visits -/

namespace Solution.Explores

variable {S F : Type} [DecidableEq S] [DecidableEq F] {data : Solution S F} {zero : F}
variable {roots followed : List (TraceVisit S F)} {g : TraceGraph S F} {visit : TraceVisit S F}
variable {reason : Reason S F} {v : Vertex S F}
variable (explores : data.Explores zero roots followed [] g) (member : visit ∈ followed)

include explores member

theorem leads {u w : Vertex S F} (link : (u, w) ∈ (data.stepOf zero visit).links)
    (onward : g.Leads w v) : g.Leads u v := by
  by_cases same : u = w
  · exact same ▸ onward
  · exact .head ((explores.edges u w).mpr ⟨same, visit, member, link⟩) onward

/-- If no source leads to the sink, a visit whose last vertex does so ends at the start of a callee,
or all reasons of its edge are looked at. -/
theorem atStart_or_goesOn (sourceless : ∀ source ∈ g.sources, ¬g.Leads source g.sink)
    (onward : g.Leads visit.last g.sink) :
    (AtStart visit ∧ g.Leads visit.edge.source g.sink) ∨
      (¬AtStart visit ∧ visit.edge.target.fact ≠ zero) := by
  by_cases atStart : AtStart visit
  · refine Or.inl ⟨atStart, explores.leads member ?_ onward⟩
    rw [stepOf_of_atStart atStart]
    exact List.mem_singleton_self _
  · refine Or.inr ⟨atStart, fun isZero => ?_⟩
    have step : data.stepOf zero visit = _ := stepOf_of_zero atStart isZero
    have source : visit.edge.target ∈ g.sources := by
      refine (explores.sources _).mpr ⟨visit, member, ?_⟩
      rw [step]
      exact List.mem_singleton_self _
    refine sourceless _ source (explores.leads member ?_ onward)
    rw [step]
    exact List.mem_singleton_self _

section Reasons

variable (goesOn : ¬AtStart visit ∧ visit.edge.target.fact ≠ zero)
variable (recorded : (visit.edge, reason) ∈ data.reasons)

include goesOn recorded

theorem leads_of_reason {u w : Vertex S F} (link : (u, w) ∈ (reasonStep visit reason).links)
    (onward : g.Leads w v) : g.Leads u v := by
  refine explores.leads member ?_ onward
  rw [stepOf_of_goesOn goesOn.1 goesOn.2]
  exact List.mem_flatMap.mpr ⟨reason, mem_reasonsOf.mpr recorded, link⟩

theorem exists_of_reason {other : TraceVisit S F}
    (follows : other ∈ (reasonStep visit reason).next) :
    ∃ again ∈ followed, again.edge = other.edge ∧ again.last = other.last := by
  refine explores.exists_followed member ?_
  rw [stepOf_of_goesOn goesOn.1 goesOn.2]
  exact List.mem_flatMap.mpr ⟨reason, mem_reasonsOf.mpr recorded, follows⟩

theorem source_of_reason (origin : v ∈ (reasonStep visit reason).origins) : v ∈ g.sources := by
  refine (explores.sources v).mpr ⟨visit, member, ?_⟩
  rw [stepOf_of_goesOn goesOn.1 goesOn.2]
  exact List.mem_flatMap.mpr ⟨reason, mem_reasonsOf.mpr recorded, origin⟩

theorem not_initial [Inhabited S] [Inhabited F]
    (sourceless : ∀ source ∈ g.sources, ¬g.Leads source g.sink)
    (onward : g.Leads visit.last g.sink) : reason ≠ .initial := by
  intro isInitial
  have step := reasonStep_initial visit reason (congrArg Reason.kind isInitial)
  have source : visit.edge.target ∈ g.sources := by
    refine explores.source_of_reason member goesOn recorded ?_
    rw [step]
    exact List.mem_singleton_self _
  refine sourceless _ source (explores.leads_of_reason member goesOn recorded ?_ onward)
  rw [step]
  exact List.mem_singleton_self _

theorem inside_leads (kind : reason.kind = .sequent ∨ reason.kind = .callToReturn)
    (onward : g.Leads visit.last v) :
    ∃ last, (reasonStep visit reason).next = [⟨reason.edge, last, visit.inCallee⟩] ∧
      g.Leads last v := by
  obtain ⟨last, next, same | link⟩ := reasonStep_inside visit reason kind
  · exact ⟨last, next, same ▸ onward⟩
  · exact ⟨last, next, explores.leads_of_reason member goesOn recorded link onward⟩

theorem exists_inside (kind : reason.kind = .sequent ∨ reason.kind = .callToReturn)
    (onward : g.Leads visit.last v) :
    ∃ again ∈ followed, again.edge = reason.edge ∧ g.Leads again.last v := by
  obtain ⟨last, next, leads⟩ := explores.inside_leads member goesOn recorded kind onward
  obtain ⟨again, isAgain, sameEdge, sameLast⟩ := explores.exists_of_reason member goesOn recorded
    (next ▸ List.mem_singleton_self _)
  exact ⟨again, isAgain, sameEdge, sameLast ▸ leads⟩

theorem exists_call (kind : reason.kind = .exitToReturn) :
    ∃ again ∈ followed, again.edge = reason.edge ∧ again.last = reason.edge.target := by
  have caller : ⟨reason.edge, reason.edge.target, visit.inCallee⟩ ∈
      (reasonStep visit reason).next := by
    rw [reasonStep_exit visit reason kind]
    exact List.mem_cons_of_mem _ List.mem_cons_self
  exact explores.exists_of_reason member goesOn recorded caller

end Reasons

end Solution.Explores

/-! ### Where the search leads -/

namespace Program

/-- Some item leads back to all items that lead to it. -/
private theorem exists_first {α : Type} (relation : α → α → Prop) {items : List α}
    (nonempty : items ≠ []) :
    ∃ first ∈ items, ∀ item ∈ items, Relation.ReflTransGen relation item first →
      Relation.ReflTransGen relation first item := by
  let order : Preorder α :=
    { le := Relation.ReflTransGen relation
      le_refl := fun _ => .refl
      le_trans := fun _ _ _ => .trans }
  obtain ⟨first, isFirst, least⟩ :=
    (List.finite_toSet items).exists_minimal (List.exists_mem_of_ne_nil items nonempty)
  exact ⟨first, isFirst, fun item member => least member⟩

/-- What leads to a start by calls is followed outside callees. -/
def IsTop {F : Type} [Inhabited F] (data : Solution Statement F) (zero : F)
    (followed : List (TraceVisit Statement F)) (top : Vertex Statement F) : Prop :=
  ∀ visit ∈ followed, Relation.ReflTransGen (data.Exchanges zero) visit.edge.source top →
    visit.inCallee = false

section Search

variable {F : Type} [DecidableEq F] [Inhabited F] {p : Program} {banned : List String}
variable {rules : Rules Statement F MethodName} {entries : List MethodName}
variable {data : Solution Statement F} {zero : F} {g : TraceGraph Statement F}
variable {followed : List (TraceVisit Statement F)} {visit other : TraceVisit Statement F}
variable {reason : Reason Statement F}

variable (passing : p.Passing rules)
variable (solved : rules.IsSolvedBy (p.dispatch banned) (p.startSeeds entries rules) data)

include passing solved

/-- A visit keeps the start of the one that it follows, or enters a callee, or goes on to a
caller. -/
private theorem Passing.next_cases (named : visit.edge.target.fact ≠ zero)
    (recorded : (visit.edge, reason) ∈ data.reasons)
    (follows : other ∈ (Solution.reasonStep visit reason).next) :
    other.edge ∈ data.edges ∧
      ((other.edge.source = visit.edge.source ∧ other.inCallee = visit.inCallee) ∨
        (other.inCallee = true ∧ data.TakesFrom zero visit.edge.source other.edge.source) ∨
        (visit.inCallee = false ∧ other.inCallee = false ∧
          data.PassesTo zero other.edge.source visit.edge.source)) := by
  rcases (solved.reasons _ _).mp recorded with ⟨isInitial, _⟩ | infers
  · rw [Solution.reasonStep_initial visit reason (congrArg Reason.kind isInitial)] at follows
    cases follows
  · generalize same : visit.edge = edge at infers named recorded
    cases infers with
    | @sequent before next member flows =>
        obtain ⟨last, single, _⟩ := Solution.reasonStep_inside visit (.derived .sequent before)
          (Or.inl rfl)
        rw [single] at follows
        rw [List.mem_singleton.mp follows]
        exact ⟨member, Or.inl ⟨rfl, rfl⟩⟩
    | @callToReturn before next member bypasses =>
        obtain ⟨last, single, _⟩ := Solution.reasonStep_inside visit (.derived .callToReturn before)
          (Or.inr rfl)
        rw [single] at follows
        rw [List.mem_singleton.mp follows]
        exact ⟨member, Or.inl ⟨rfl, rfl⟩⟩
    | @callToStart before passed start member enters =>
        rw [Solution.reasonStep_call visit _ rfl] at follows
        cases outside : visit.inCallee with
        | true =>
            rw [outside] at follows
            cases follows
        | false =>
            rw [outside] at follows
            rw [List.mem_singleton.mp follows]
            change Rules.callEdge before passed ∈ data.edges ∧ _
            rw [passing.callEdge_eq enters.1] at recorded ⊢
            exact ⟨member, Or.inr (Or.inr ⟨rfl, rfl, named, before, rfl, recorded⟩)⟩
    | @exitToReturn before summary passed next member enters summaryMember exit reenters =>
        rw [Solution.reasonStep_exit visit _ rfl] at follows
        rcases List.mem_cons.mp follows with rfl | follows
        · exact ⟨summaryMember, Or.inr (Or.inl ⟨rfl, _, _, summary, named, rfl, rfl, recorded⟩)⟩
        · rw [List.mem_singleton.mp follows]
          change Rules.callEdge before passed ∈ data.edges ∧ _
          rw [passing.callEdge_eq enters.1]
          exact ⟨member, Or.inl ⟨rfl, rfl⟩⟩

/-- What is known of a visit that was followed: a visit inside a callee came from one outside, by
results that are taken, and the sink comes from the start of a visit outside. -/
private theorem Passing.origins {sink : Vertex Statement F}
    (order : data.Follows zero (data.traceRoots sink) followed) :
    ∀ visit ∈ followed, visit.edge ∈ data.edges ∧
      (visit.inCallee = true → ∃ outer ∈ followed, outer.inCallee = false ∧
        Relation.TransGen (data.TakesFrom zero) outer.edge.source visit.edge.source) ∧
      (visit.inCallee = false → data.ComesFrom zero sink visit.edge.source) := by
  induction order with
  | none => exact fun _ member => absurd member List.not_mem_nil
  | @more visit followed before origin new ih =>
      intro other member
      rcases List.mem_cons.mp member with rfl | old
      · rcases origin with root | ⟨earlier, earlierMember, follows⟩
        · obtain ⟨edge, ends, rfl⟩ := List.mem_map.mp root
          obtain ⟨known, target⟩ := List.mem_filter.mp ends
          exact ⟨known, nofun, fun _ => ⟨edge, known, eq_of_beq target, .refl⟩⟩
        · obtain ⟨_, named, reason, recorded, child⟩ := Solution.mem_next.mp follows
          obtain ⟨_, inside, outside⟩ := ih earlier earlierMember
          obtain ⟨known, step⟩ := passing.next_cases solved named recorded child
          refine ⟨known, ?_, ?_⟩
          · intro isInside
            rcases step with ⟨same, mode⟩ | ⟨_, takes⟩ | ⟨_, isOutside, _⟩
            · obtain ⟨outer, outerMember, outerMode, leads⟩ := inside (mode ▸ isInside)
              exact ⟨outer, List.mem_cons_of_mem _ outerMember, outerMode, same ▸ leads⟩
            · cases mode : earlier.inCallee with
              | false =>
                  exact ⟨earlier, List.mem_cons_of_mem _ earlierMember, mode, .single takes⟩
              | true =>
                  obtain ⟨outer, outerMember, outerMode, leads⟩ := inside mode
                  exact ⟨outer, List.mem_cons_of_mem _ outerMember, outerMode, leads.tail takes⟩
            · rw [isOutside] at isInside
              cases isInside
          · intro isOutside
            rcases step with ⟨same, mode⟩ | ⟨isInside, _⟩ | ⟨mode, _, passes⟩
            · exact same ▸ outside (mode ▸ isOutside)
            · rw [isInside] at isOutside
              cases isOutside
            · obtain ⟨edge, known, ends, leads⟩ := outside mode
              exact ⟨edge, known, ends, .head passes leads⟩
      · obtain ⟨known, inside, outside⟩ := ih other old
        refine ⟨known, fun isInside => ?_, outside⟩
        obtain ⟨outer, outerMember, found⟩ := inside isInside
        exact ⟨outer, List.mem_cons_of_mem _ outerMember, found⟩

/-- If the search followed something, it came to a top start: the first one among those of the
visits outside callees. -/
private theorem Passing.exists_top {sink : Vertex Statement F}
    (order : data.Follows zero (data.traceRoots sink) followed)
    (untangled : data.IsUntangled zero sink) (nonempty : followed ≠ []) :
    ∃ visit ∈ followed, IsTop data zero followed visit.edge.source := by
  have origins := passing.origins solved order
  let outside := (followed.filter fun visit => !visit.inCallee).map fun visit => visit.edge.source
  have mem_outside : ∀ visit ∈ followed, visit.inCallee = false →
      visit.edge.source ∈ outside := by
    intro visit isFollowed mode
    exact List.mem_map.mpr ⟨visit, List.mem_filter.mpr ⟨isFollowed, by rw [mode]; rfl⟩, rfl⟩
  have some_outside : outside ≠ [] := by
    obtain ⟨visit, isFollowed⟩ := List.exists_mem_of_ne_nil followed nonempty
    cases mode : visit.inCallee with
    | false => exact List.ne_nil_of_mem (mem_outside visit isFollowed mode)
    | true =>
        obtain ⟨outer, isOuter, outerMode, _⟩ := (origins visit isFollowed).2.1 mode
        exact List.ne_nil_of_mem (mem_outside outer isOuter outerMode)
  obtain ⟨top, isOutside, first⟩ := exists_first (data.Exchanges zero) some_outside
  obtain ⟨topVisit, kept, rfl⟩ := List.mem_map.mp isOutside
  refine ⟨topVisit, List.mem_of_mem_filter kept, fun visit isFollowed leads => ?_⟩
  rw [Bool.eq_false_iff]
  intro mode
  obtain ⟨outer, isOuter, outerMode, takes⟩ := (origins visit isFollowed).2.1 mode
  obtain ⟨callee, takesHere, further⟩ := Relation.TransGen.head'_iff.mp takes
  have returns : Relation.ReflTransGen (data.Exchanges zero) callee topVisit.edge.source :=
    (Relation.ReflTransGen.mono (fun _ _ taken => Or.inr taken) _ _ further).trans leads
  have back := first outer.edge.source (mem_outside outer isOuter outerMode)
    (.head (.inr takesHere) returns)
  exact untangled _ ((origins outer isOuter).2.2 outerMode) callee takesHere (returns.trans back)

section Sourceless

variable {roots : List (TraceVisit Statement F)}
variable (explores : data.Explores zero roots followed [] g)
variable (sourceless : ∀ source ∈ g.sources, ¬g.Leads source g.sink)

/-- The start of an edge leads to the sink, or the search went on from there to the callers. -/
def StartLeads (followed : List (TraceVisit Statement F)) (g : TraceGraph Statement F)
    (start : Vertex Statement F) : Prop :=
  g.Leads start g.sink ∨ ∃ visit ∈ followed, visit.inCallee = false ∧
    visit.edge = .loop start ∧ g.Leads visit.last g.sink

include explores sourceless

omit passing in
/-- If the start of a summary leads to the sink in one of the two ways, so does the call. -/
private theorem Passing.call_leads {edge summary : Edge Statement F} (member : edge ∈ data.edges)
    {passed : F}
    (enters : rules.Enters (p.dispatch banned) edge.target passed summary.source)
    (starts : StartLeads followed g summary.source)
    (link : g.Leads summary.source g.sink → g.Leads (Rules.callEdge edge passed).target g.sink) :
    g.Leads (Rules.callEdge edge passed).target g.sink := by
  rcases starts with leads | ⟨visit, isFollowed, outside, isLoop, onward⟩
  · exact link leads
  · rcases explores.atStart_or_goesOn isFollowed sourceless onward with ⟨⟨inside, _⟩, _⟩ | goesOn
    · rw [outside] at inside
      cases inside
    · have recorded : (visit.edge, .derived .callToStart (Rules.callEdge edge passed)) ∈
          data.reasons := by
        rw [isLoop]
        exact (solved.reasons _ _).mpr (Or.inr (.callToStart member enters))
      have step := Solution.reasonStep_call visit
        (.derived .callToStart (Rules.callEdge edge passed)) rfl
      rw [outside] at step
      refine explores.leads_of_reason isFollowed goesOn recorded ?_ onward
      rw [step]
      exact List.mem_singleton_self _

omit passing in
/-- At a return site the end of the summary leads to the sink and, once its start does, the call. -/
private theorem Passing.exit_leads {edge summary : Edge Statement F} {passed : F}
    (isFollowed : visit ∈ followed)
    (goesOn : ¬Solution.AtStart visit ∧ visit.edge.target.fact ≠ zero)
    (recorded : (visit.edge, .applied (Rules.callEdge edge passed) summary) ∈ data.reasons)
    (onward : g.Leads visit.last g.sink) (member : edge ∈ data.edges)
    (enters : rules.Enters (p.dispatch banned) edge.target passed summary.source)
    (starts : ∀ again ∈ followed, again.edge = summary → g.Leads again.last g.sink →
      StartLeads followed g summary.source) :
    g.Leads summary.target g.sink ∧ g.Leads (Rules.callEdge edge passed).target g.sink := by
  have step := Solution.reasonStep_exit visit (.applied (Rules.callEdge edge passed) summary) rfl
  have summaryLeads : g.Leads summary.target g.sink := by
    refine explores.leads_of_reason isFollowed goesOn recorded ?_ onward
    rw [step]
    exact List.mem_cons_self
  have link : g.Leads summary.source g.sink →
      g.Leads (Rules.callEdge edge passed).target g.sink := by
    refine explores.leads_of_reason isFollowed goesOn recorded ?_
    rw [step]
    exact List.mem_cons_of_mem _ List.mem_cons_self
  have entered : ⟨summary, summary.target, true⟩ ∈ (Solution.reasonStep visit
      (.applied (Rules.callEdge edge passed) summary)).next := by
    rw [step]
    exact List.mem_cons_self
  obtain ⟨again, isAgain, sameEdge, sameLast⟩ :=
    explores.exists_of_reason isFollowed goesOn recorded entered
  have start := starts again isAgain sameEdge (sameLast ▸ summaryLeads)
  exact ⟨summaryLeads, Passing.call_leads solved explores sourceless member enters start link⟩

/-- Whatever is followed and leads to the sink with its last vertex does so with its start. The
induction is on how the edge was derived. -/
private theorem Passing.start_leads : ∀ edge ∈ data.edges, ∀ visit ∈ followed,
    visit.edge = edge → g.Leads visit.last g.sink → StartLeads followed g edge.source := by
  refine solved.induction ?_ ?_
  · rintro edge reason isSeed visit isFollowed same onward
    have recorded : (visit.edge, reason) ∈ data.reasons :=
      same ▸ (solved.reasons _ _).mpr (Or.inl isSeed)
    rcases explores.atStart_or_goesOn isFollowed sourceless onward with ⟨_, leads⟩ | goesOn
    · exact Or.inl (same ▸ leads)
    · exact absurd isSeed.1 (explores.not_initial isFollowed goesOn recorded sourceless onward)
  · intro edge reason known infers visit isFollowed same onward
    have recorded : (visit.edge, reason) ∈ data.reasons := same ▸ known
    rcases explores.atStart_or_goesOn isFollowed sourceless onward with ⟨_, leads⟩ | goesOn
    · exact Or.inl (same ▸ leads)
    cases infers with
    | sequent member flows =>
        obtain ⟨again, isAgain, before, leads⟩ :=
          explores.exists_inside isFollowed goesOn recorded (Or.inl rfl) onward
        exact member.2 again isAgain before leads
    | callToReturn member bypasses =>
        obtain ⟨again, isAgain, before, leads⟩ :=
          explores.exists_inside isFollowed goesOn recorded (Or.inr rfl) onward
        exact member.2 again isAgain before leads
    | @callToStart before passed start member enters =>
        have outside : visit.inCallee = false := by
          rw [Bool.eq_false_iff]
          intro inside
          exact goesOn.1 ⟨inside, by rw [same]; rfl⟩
        exact Or.inr ⟨visit, isFollowed, outside, same, onward⟩
    | @exitToReturn before summary passed next member enters summaryMember exit reenters =>
        obtain ⟨_, callLeads⟩ := Passing.exit_leads solved explores sourceless isFollowed goesOn
          recorded onward member.1 enters summaryMember.2
        obtain ⟨again, isAgain, sameEdge, sameLast⟩ :=
          explores.exists_call isFollowed goesOn recorded rfl
        exact member.2 again isAgain (sameEdge.trans (passing.callEdge_eq enters.1))
          (sameLast ▸ callLeads)

/-- What follows a visit leads to the sink if the visit does. -/
private theorem Passing.next_leads (isFollowed : visit ∈ followed)
    (goesOn : ¬Solution.AtStart visit ∧ visit.edge.target.fact ≠ zero)
    (recorded : (visit.edge, reason) ∈ data.reasons) (onward : g.Leads visit.last g.sink)
    (follows : other ∈ (Solution.reasonStep visit reason).next) : g.Leads other.last g.sink := by
  rcases (solved.reasons _ _).mp recorded with ⟨isInitial, _⟩ | infers
  · exact absurd isInitial (explores.not_initial isFollowed goesOn recorded sourceless onward)
  · generalize same : visit.edge = edge at infers
    cases infers with
    | sequent member flows =>
        obtain ⟨last, next, leads⟩ := explores.inside_leads isFollowed goesOn recorded
          (Or.inl rfl) onward
        rw [next] at follows
        rw [List.mem_singleton.mp follows]
        exact leads
    | callToReturn member bypasses =>
        obtain ⟨last, next, leads⟩ := explores.inside_leads isFollowed goesOn recorded
          (Or.inr rfl) onward
        rw [next] at follows
        rw [List.mem_singleton.mp follows]
        exact leads
    | @callToStart before passed start member enters =>
        have step := Solution.reasonStep_call visit
          (.derived .callToStart (Rules.callEdge before passed)) rfl
        cases outside : visit.inCallee with
        | true =>
            rw [step, outside] at follows
            cases follows
        | false =>
            rw [outside] at step
            rw [step] at follows
            rw [List.mem_singleton.mp follows]
            refine explores.leads_of_reason isFollowed goesOn recorded ?_ onward
            rw [step]
            exact List.mem_singleton_self _
    | @exitToReturn before summary passed next member enters summaryMember exit reenters =>
        have starts := passing.start_leads solved explores sourceless summary summaryMember
        obtain ⟨summaryLeads, callLeads⟩ := Passing.exit_leads solved explores sourceless
          isFollowed goesOn recorded onward member enters starts
        rw [Solution.reasonStep_exit visit _ rfl] at follows
        rcases List.mem_cons.mp follows with rfl | follows
        · exact summaryLeads
        · rw [List.mem_singleton.mp follows]
          exact callLeads

end Sourceless

section Sourceless

variable (explores : data.Explores zero (data.traceRoots g.sink) followed [] g)
variable (sourceless : ∀ source ∈ g.sources, ¬g.Leads source g.sink)

include explores sourceless

/-- The last vertex of everything that was followed leads to the sink. -/
private theorem Passing.last_leads : ∀ visit ∈ followed, g.Leads visit.last g.sink := by
  -- The induction is on a part of the order, but the links are those of the whole search.
  have all : ∀ part, data.Follows zero (data.traceRoots g.sink) part → part ⊆ followed →
      ∀ visit ∈ part, g.Leads visit.last g.sink := by
    intro part order
    induction order with
    | none => exact fun _ _ member => absurd member List.not_mem_nil
    | @more visit part before origin new ih =>
        intro subset other member
        have within := List.subset_of_cons_subset subset
        rcases List.mem_cons.mp member with rfl | old
        · rcases origin with root | ⟨earlier, earlierMember, follows⟩
          · obtain ⟨edge, ends, rfl⟩ := List.mem_map.mp root
            rw [← eq_of_beq (List.mem_filter.mp ends).2]
            exact .refl
          · have onward := ih within earlier earlierMember
            obtain ⟨notStart, named, reason, recorded, child⟩ := Solution.mem_next.mp follows
            exact passing.next_leads solved explores sourceless (within earlierMember)
              ⟨notStart, named⟩ recorded onward child
        · exact ih within other old
  exact all followed explores.order (List.Subset.refl _)

private theorem Passing.goesOn_at_top {top : Vertex Statement F}
    (isTop : IsTop data zero followed top) (isFollowed : visit ∈ followed)
    (leads : Relation.ReflTransGen (data.Exchanges zero) visit.edge.source top) :
    ¬Solution.AtStart visit ∧ visit.edge.target.fact ≠ zero := by
  have onward := passing.last_leads solved explores sourceless visit isFollowed
  rcases explores.atStart_or_goesOn isFollowed sourceless onward with ⟨⟨inside, _⟩, _⟩ | goesOn
  · rw [isTop visit isFollowed leads] at inside
    cases inside
  · exact goesOn

/-- No edge that leads to a top start was followed.  The induction is on how the edge was derived:
what the edge was derived from has the same start, or one that passes a fact on to it. -/
private theorem Passing.none_at_top {top : Vertex Statement F}
    (isTop : IsTop data zero followed top) :
    ∀ edge ∈ data.edges, Relation.ReflTransGen (data.Exchanges zero) edge.source top →
      ∀ visit ∈ followed, visit.edge ≠ edge := by
  have onward := passing.last_leads solved explores sourceless
  refine solved.induction ?_ ?_
  · rintro edge reason isSeed leads visit isFollowed rfl
    have goesOn := passing.goesOn_at_top solved explores sourceless isTop isFollowed leads
    have recorded := (solved.reasons _ _).mpr (Or.inl isSeed)
    exact explores.not_initial isFollowed goesOn recorded sourceless (onward visit isFollowed)
      isSeed.1
  · intro edge reason known infers leads visit isFollowed same
    have goesOn := passing.goesOn_at_top solved explores sourceless isTop isFollowed
      (same ▸ leads)
    have recorded : (visit.edge, reason) ∈ data.reasons := same ▸ known
    cases infers with
    | sequent member flows =>
        obtain ⟨again, isAgain, before, _⟩ := explores.exists_inside isFollowed goesOn recorded
          (Or.inl rfl) (onward visit isFollowed)
        exact member.2 leads again isAgain before
    | callToReturn member bypasses =>
        obtain ⟨again, isAgain, before, _⟩ := explores.exists_inside isFollowed goesOn recorded
          (Or.inr rfl) (onward visit isFollowed)
        exact member.2 leads again isAgain before
    | @callToStart before passed start member enters =>
        have step := Solution.reasonStep_call visit
          (.derived .callToStart (Rules.callEdge before passed)) rfl
        rw [isTop visit isFollowed (same ▸ leads)] at step
        obtain ⟨again, isAgain, sameEdge, _⟩ :=
          explores.exists_of_reason isFollowed goesOn recorded (by
            rw [step]
            exact List.mem_singleton_self _)
        have caller : again.edge = before := sameEdge.trans (passing.callEdge_eq enters.1)
        have passes : data.PassesTo zero before.source start := by
          rw [same] at goesOn
          rw [passing.callEdge_eq enters.1] at known
          exact ⟨goesOn.2, before, rfl, known⟩
        exact member.2 (.head (.inl passes) leads) again isAgain caller
    | @exitToReturn before summary passed next member enters summaryMember exit reenters =>
        obtain ⟨again, isAgain, sameEdge, _⟩ :=
          explores.exists_call isFollowed goesOn recorded rfl
        exact member.2 leads again isAgain (sameEdge.trans (passing.callEdge_eq enters.1))

end Sourceless

/-- If the way to a vertex with a fact is untangled, the vertex has a trace. -/
theorem Passing.traces_ne_nil (zero : F) {sink : Vertex Statement F} (known : sink ∈ data.facts)
    (untangled : data.IsUntangled zero sink) : (data.traceGraph sink zero).traces ≠ [] := by
  obtain ⟨followed, explores⟩ := data.traceGraph_explores sink zero
  have sinkSame := data.traceGraph_sink sink zero
  generalize data.traceGraph sink zero = g at explores sinkSame
  subst sinkSame
  intro nothing
  have sourceless : ∀ source ∈ g.sources, ¬g.Leads source g.sink :=
    fun _ isSource leads => leads.traces_ne_nil isSource nothing
  obtain ⟨edge, isEdge, ends⟩ := (solved.facts _).mp known
  have root : ⟨edge, edge.target, false⟩ ∈ data.traceRoots g.sink :=
    List.mem_map.mpr ⟨edge, List.mem_filter.mpr ⟨isEdge, beq_iff_eq.mpr ends⟩, rfl⟩
  have nonempty : followed ≠ [] := by
    rintro rfl
    rcases explores.roots _ root with waiting | seen
    · exact absurd waiting List.not_mem_nil
    · exact absurd seen List.not_mem_nil
  obtain ⟨visit, isFollowed, isTop⟩ := passing.exists_top solved explores.order untangled nonempty
  have isEdge := (passing.origins solved explores.order visit isFollowed).1
  exact passing.none_at_top solved explores sourceless isTop visit.edge isEdge .refl visit
    isFollowed rfl

end Search

end Program

end Tabulation
