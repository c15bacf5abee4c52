/-
Entry methods do not influence each other.

An edge says what a method makes of a fact at its start, and this does not depend on where the
method was started from.  So a summary that was found for one entry is a summary for all of them,
and the solution from joint entries is the union of the solutions from the parts.
-/

import Tabulation.Proofs.DeadDefinitions
import Tabulation.Proofs.Deployment

namespace Tabulation

namespace Rules

variable {S F M : Type} [DecidableEq S] [DecidableEq M] [Inhabited S] [Inhabited F]
variable {rules : Rules S F M} {dispatch : Dispatch S M}

/-- What follows from edges whose starts are known is known, once its own start is. -/
theorem Closed.started {known : Set (Edge S F)} (closed : rules.Closed dispatch known) :
    rules.Closed dispatch {edge | .loop edge.source ∈ known → edge ∈ known} := by
  intro edge reason infers
  cases infers with
  | sequent member flows =>
      intro started
      exact closed _ _ (.sequent (member started) flows)
  | callToReturn member bypasses =>
      intro started
      exact closed _ _ (.callToReturn (member started) bypasses)
  | callToStart => exact id
  | @exitToReturn caller summary passed next member enters summaryMember exit reenters =>
      intro started
      have callerKnown : caller ∈ known := member started
      have entered : Edge.loop summary.source ∈ known :=
        closed _ _ (.callToStart callerKnown enters)
      have summaryKnown : summary ∈ known := summaryMember entered
      exact closed _ _ (.exitToReturn callerKnown enters summaryKnown exit reenters)

/-- All seeds are starts of methods. -/
def AreLoops (seeds : Set (Edge S F × Reason S F)) : Prop :=
  ∀ seed ∈ seeds, seed.1 = .loop seed.1.source

/-- The least set of edges that has the seeds and all conclusions. -/
def IsLeastFrom (rules : Rules S F M) (dispatch : Dispatch S M)
    (seeds : Set (Edge S F × Reason S F)) (known : Set (Edge S F)) : Prop :=
  IsLeast {known | (∀ seed ∈ seeds, seed.1 ∈ known) ∧ rules.Closed dispatch known} known

variable {left right : Set (Edge S F × Reason S F)} {first second : Set (Edge S F)}

theorem IsLeastFrom.mem_of_started (least : rules.IsLeastFrom dispatch left first)
    (loops : AreLoops left) (closed : rules.Closed dispatch second) {edge : Edge S F}
    (member : edge ∈ first) (started : .loop edge.source ∈ second) : edge ∈ second := by
  have within : first ⊆ {edge | .loop edge.source ∈ second → edge ∈ second} := by
    apply least.2
    refine ⟨fun seed isSeed start => ?_, closed.started⟩
    rw [loops seed isSeed]
    exact start
  exact within member started

/-- A summary is known wherever its start is, so no conclusion needs edges of both sides. -/
theorem IsLeastFrom.infers_union_iff (leftLeast : rules.IsLeastFrom dispatch left first)
    (rightLeast : rules.IsLeastFrom dispatch right second) (leftLoops : AreLoops left)
    (rightLoops : AreLoops right) (edge : Edge S F) (reason : Reason S F) :
    rules.Infers dispatch (first ∪ second) edge reason ↔
      rules.Infers dispatch first edge reason ∨ rules.Infers dispatch second edge reason := by
  constructor
  · intro infers
    cases infers with
    | sequent member flows =>
        rcases member with member | member
        · exact Or.inl (.sequent member flows)
        · exact Or.inr (.sequent member flows)
    | callToReturn member bypasses =>
        rcases member with member | member
        · exact Or.inl (.callToReturn member bypasses)
        · exact Or.inr (.callToReturn member bypasses)
    | callToStart member enters =>
        rcases member with member | member
        · exact Or.inl (.callToStart member enters)
        · exact Or.inr (.callToStart member enters)
    | @exitToReturn caller summary passed next member enters summaryMember exit reenters =>
        rcases member with member | member
        · have entered : Edge.loop summary.source ∈ first :=
            leftLeast.1.2 _ _ (.callToStart member enters)
          have known : summary ∈ first := by
            rcases summaryMember with here | there
            · exact here
            · exact rightLeast.mem_of_started rightLoops leftLeast.1.2 there entered
          exact Or.inl (.exitToReturn member enters known exit reenters)
        · have entered : Edge.loop summary.source ∈ second :=
            rightLeast.1.2 _ _ (.callToStart member enters)
          have known : summary ∈ second := by
            rcases summaryMember with there | here
            · exact leftLeast.mem_of_started leftLoops rightLeast.1.2 there entered
            · exact here
          exact Or.inr (.exitToReturn member enters known exit reenters)
  · rintro (infers | infers)
    · exact infers.mono Set.subset_union_left
    · exact infers.mono Set.subset_union_right

theorem IsLeastFrom.union (leftLeast : rules.IsLeastFrom dispatch left first)
    (rightLeast : rules.IsLeastFrom dispatch right second) (leftLoops : AreLoops left)
    (rightLoops : AreLoops right) :
    rules.IsLeastFrom dispatch (left ∪ right) (first ∪ second) := by
  refine ⟨⟨?_, ?_⟩, ?_⟩
  · rintro seed (isLeft | isRight)
    · exact Or.inl (leftLeast.1.1 seed isLeft)
    · exact Or.inr (rightLeast.1.1 seed isRight)
  · intro edge reason infers
    rw [leftLeast.infers_union_iff rightLeast leftLoops rightLoops] at infers
    rcases infers with infers | infers
    · exact Or.inl (leftLeast.1.2 edge reason infers)
    · exact Or.inr (rightLeast.1.2 edge reason infers)
  · rintro known ⟨seeded, closed⟩
    apply Set.union_subset
    · exact leftLeast.2 ⟨fun seed isSeed => seeded seed (Or.inl isSeed), closed⟩
    · exact rightLeast.2 ⟨fun seed isSeed => seeded seed (Or.inr isSeed), closed⟩

end Rules

namespace Program

variable {F : Type} [Inhabited F]

theorem areLoops_startSeeds (p : Program) (entries : List MethodName)
    (rules : Rules Statement F MethodName) : Rules.AreLoops (p.startSeeds entries rules) := by
  rintro ⟨edge, reason⟩ ⟨_, vertex, _, same⟩
  change edge = .loop vertex at same
  subst same
  rfl

theorem startSeeds_append (p : Program) (left right : List MethodName)
    (rules : Rules Statement F MethodName) :
    p.startSeeds (left ++ right) rules = p.startSeeds left rules ∪ p.startSeeds right rules := by
  ext seed
  constructor
  · rintro ⟨initial, vertex, ⟨⟨id, isEntry, first⟩, isFact⟩, same⟩
    rcases List.mem_append.mp isEntry with isLeft | isRight
    · exact Or.inl ⟨initial, vertex, ⟨⟨id, isLeft, first⟩, isFact⟩, same⟩
    · exact Or.inr ⟨initial, vertex, ⟨⟨id, isRight, first⟩, isFact⟩, same⟩
  · rintro (⟨initial, vertex, ⟨⟨id, isEntry, first⟩, isFact⟩, same⟩ |
      ⟨initial, vertex, ⟨⟨id, isEntry, first⟩, isFact⟩, same⟩)
    · exact ⟨initial, vertex, ⟨⟨id, List.mem_append_left _ isEntry, first⟩, isFact⟩, same⟩
    · exact ⟨initial, vertex, ⟨⟨id, List.mem_append_right _ isEntry, first⟩, isFact⟩, same⟩

theorem Reachable.mono {p : Program} {banned : List String} {few many : List MethodName}
    (subset : few ⊆ many) {s : Statement} (reachable : p.Reachable banned few s) :
    p.Reachable banned many s := by
  induction reachable with
  | entry isEntry first => exact .entry (subset isEntry) first
  | next _ successor ih => exact ih.next successor
  | callee _ resolved first ih => exact ih.callee resolved first

theorem reachable_append_iff {p : Program} {banned : List String} {left right : List MethodName}
    {s : Statement} :
    p.Reachable banned (left ++ right) s ↔
      p.Reachable banned left s ∨ p.Reachable banned right s := by
  constructor
  · intro reachable
    induction reachable with
    | entry isEntry first =>
        rcases List.mem_append.mp isEntry with isLeft | isRight
        · exact Or.inl (.entry isLeft first)
        · exact Or.inr (.entry isRight first)
    | next _ successor ih => exact ih.imp (·.next successor) (·.next successor)
    | callee _ resolved first ih =>
        exact ih.imp (·.callee resolved first) (·.callee resolved first)
  · rintro (reachable | reachable)
    · exact reachable.mono (List.subset_append_left left right)
    · exact reachable.mono (List.subset_append_right left right)

private theorem perm_merged {α F : Type} [DecidableEq α] [Hashable α]
    {data first second : Solution Statement F} (part : Solution Statement F → List α)
    (nodup : (part data).Nodup)
    (members : ∀ item, item ∈ part data ↔ item ∈ part first ∨ item ∈ part second) :
    (part data).Perm (Text.distinctByHash ([first, second].flatMap part)) := by
  rw [List.perm_ext_iff_of_nodup nodup (Text.nodup_distinctByHash _)]
  intro item
  rw [Text.mem_distinctByHash, members]
  simp

variable [DecidableEq F] [Shown F] [Hashable F]
variable {p : Program} {config : Config} {left right : List MethodName}
variable {rules : Rules Statement F MethodName} {data first second : Solution Statement F}

theorem IsOutcome.exists_reports (outcome : p.IsOutcome config left rules data) :
    ∃ handled : Set (Message Statement F MethodName), data.Reports rules.runner handled := by
  obtain ⟨strategy, log, history, reaches, _, _, collected⟩ := outcome
  obtain ⟨found, same, reports⟩ := (Engine.Reaches.accounts reaches).collect rules.runner
  rw [collected] at same
  cases same
  exact ⟨_, reports⟩

theorem IsOutcome.sameContent_merge (hook : rules.OnlyFindings)
    (joint : p.IsOutcome config (left ++ right) rules data)
    (one : p.IsOutcome config left rules first)
    (other : p.IsOutcome config right rules second) :
    data.SameContent (Solution.merge [first, second]) := by
  obtain ⟨_, reports⟩ := joint.exists_reports
  have solved := joint.isSolvedBy hook
  have firstSolved := one.isSolvedBy hook
  have secondSolved := other.isSolvedBy hook
  rw [p.startSeeds_append] at solved
  have firstLeast : rules.IsLeastFrom _ _ {edge | edge ∈ first.edges} := firstSolved.edges
  have secondLeast : rules.IsLeastFrom _ _ {edge | edge ∈ second.edges} := secondSolved.edges
  have leftLoops := p.areLoops_startSeeds left rules
  have rightLoops := p.areLoops_startSeeds right rules
  have known : {edge | edge ∈ data.edges} =
      {edge | edge ∈ first.edges} ∪ {edge | edge ∈ second.edges} := by
    have union := firstLeast.union secondLeast leftLoops rightLoops
    exact Set.Subset.antisymm (solved.edges.2 union.1) (union.2 solved.edges.1)
  have edges : ∀ edge, edge ∈ data.edges ↔ edge ∈ first.edges ∨ edge ∈ second.edges :=
    fun edge => Set.ext_iff.mp known edge
  -- The items of all other parts come from edges, one edge for each item.
  have ofEdge : ∀ property : Edge Statement F → Prop,
      (∃ edge ∈ data.edges, property edge) ↔
        (∃ edge ∈ first.edges, property edge) ∨ ∃ edge ∈ second.edges, property edge := by
    intro property
    simp only [edges, or_and_right, exists_or]
  refine ⟨perm_merged _ reports.edgesNodup edges, perm_merged _ reports.reasonsNodup ?_,
    perm_merged _ reports.factsNodup ?_, perm_merged _ reports.summariesNodup ?_,
    perm_merged _ reports.findingsNodup ?_⟩
  · rintro ⟨edge, reason⟩
    rw [solved.reasons, firstSolved.reasons, secondSolved.reasons, known,
      firstLeast.infers_union_iff secondLeast leftLoops rightLoops, Set.mem_union,
      or_or_or_comm]
  · intro vertex
    rw [solved.facts, firstSolved.facts, secondSolved.facts, ofEdge]
  · intro edge
    rw [solved.summaries, firstSolved.summaries, secondSolved.summaries, edges, or_and_right]
  · intro finding
    rw [solved.findings, firstSolved.findings, secondSolved.findings, ofEdge]

end Program

theorem DeadStore.isDead_append_iff {p : Program} {banned : List String}
    {left right : List MethodName} {name : String} {site : Statement} :
    IsDead p banned (left ++ right) name site ↔
      IsDead p banned left name site ∨ IsDead p banned right name site := by
  constructor
  · rintro ⟨reachable, defined, named, unread⟩
    rcases Program.reachable_append_iff.mp reachable with isLeft | isRight
    · exact Or.inl ⟨isLeft, defined, named, unread⟩
    · exact Or.inr ⟨isRight, defined, named, unread⟩
  · rintro (⟨reachable, defined, named, unread⟩ | ⟨reachable, defined, named, unread⟩)
    · exact ⟨Program.reachable_append_iff.mpr (Or.inl reachable), defined, named, unread⟩
    · exact ⟨Program.reachable_append_iff.mpr (Or.inr reachable), defined, named, unread⟩

/-! ### The analyses -/

/-- From joint entries an analysis finds what it finds from the parts: its data is the merged
data, and its report has the findings of both reports. -/
def Program.Distributes (p : Program) (config : Config) (left right : List MethodName) {F : Type}
    [DecidableEq F] [Inhabited F] [Hashable F] [Shown F] (rules : Rules Statement F MethodName)
    (report : Solution Statement F → List (Finding Statement F)) : Prop :=
  ∀ data first second, p.IsOutcome config (left ++ right) rules data →
    p.IsOutcome config left rules first → p.IsOutcome config right rules second →
      data.SameContent (Solution.merge [first, second]) ∧
      first.facts ⊆ data.facts ∧
      ∀ finding, finding ∈ report data ↔ finding ∈ report first ∨ finding ∈ report second

namespace Solution.SameContent

variable {S F : Type} [DecidableEq S] [DecidableEq F] [Hashable S] [Hashable F]
variable {data first second : Solution S F}

theorem facts_subset_left (same : data.SameContent (merge [first, second])) :
    first.facts ⊆ data.facts := by
  intro vertex member
  rw [same.facts.mem_iff, merge, Text.mem_distinctByHash]
  exact List.mem_append_left _ member

theorem mem_findings_iff (same : data.SameContent (merge [first, second]))
    (finding : Finding S F) :
    finding ∈ data.findings ↔ finding ∈ first.findings ∨ finding ∈ second.findings := by
  rw [same.findings.mem_iff, merge, Text.mem_distinctByHash]
  simp

end Solution.SameContent

private theorem Program.distributes_of_sorted {p : Program} {config : Config}
    {left right : List MethodName} {rules : Rules Statement String MethodName}
    (hook : rules.OnlyFindings) :
    p.Distributes config left right rules fun data => sortFindings data.findings := by
  intro data first second joint one other
  have same := joint.sameContent_merge hook one other
  refine ⟨same, same.facts_subset_left, fun finding => ?_⟩
  rw [(sortFindings_perm _).mem_iff, (sortFindings_perm _).mem_iff,
    (sortFindings_perm _).mem_iff]
  exact same.mem_findings_iff finding

/-- Every analysis distributes over its entry methods.  Adding entries takes neither a fact nor
a finding away. -/
theorem analyses_distribute (p : Program) (loaded : p.Loaded) (config : Config)
    (left right : List MethodName) :
    p.Distributes config left right (Taint.rules p config)
        (fun data => sortFindings data.findings) ∧
      p.Distributes config left right (Nullness.rules p)
        (fun data => sortFindings data.findings) ∧
      p.Distributes config left right (DeadStore.rules p) (DeadStore.deadStores p) := by
  refine ⟨Program.distributes_of_sorted (Taint.onlyFindings p config),
    Program.distributes_of_sorted (Nullness.onlyFindings p), ?_⟩
  intro data first second joint one other
  have same := joint.sameContent_merge (DeadStore.onlyFindings p) one other
  refine ⟨same, same.facts_subset_left, fun finding => ?_⟩
  rw [DeadStore.mem_deadStores_iff loaded joint, DeadStore.mem_deadStores_iff loaded one,
    DeadStore.mem_deadStores_iff loaded other, ← exists_or]
  apply exists_congr
  intro definition
  rw [DeadStore.isDead_append_iff, or_and_right]

/-- The callee is also an entry of its own: what it adds to the data of its caller. -/
theorem analyses_distribute_relay : ∃ data first second,
    Sample.relay.IsOutcome Sample.relayConfig [Sample.relayMain, Sample.relayPass]
      (Taint.rules Sample.relay Sample.relayConfig) data ∧
    Sample.relay.IsOutcome Sample.relayConfig [Sample.relayMain]
      (Taint.rules Sample.relay Sample.relayConfig) first ∧
    Sample.relay.IsOutcome Sample.relayConfig [Sample.relayPass]
      (Taint.rules Sample.relay Sample.relayConfig) second ∧
    data.SameContent (Solution.merge [first, second]) := by
  let rules := Taint.rules Sample.relay Sample.relayConfig
  obtain ⟨data, joint, _⟩ := Program.exists_isOutcome_of_run Sample.relay Sample.relayConfig
    [Sample.relayMain, Sample.relayPass] rules .byClass 100 (by decide +kernel)
  obtain ⟨first, one, _⟩ := Program.exists_isOutcome_of_run Sample.relay Sample.relayConfig
    [Sample.relayMain] rules .byClass 100 (by decide +kernel)
  obtain ⟨second, other, _⟩ := Program.exists_isOutcome_of_run Sample.relay Sample.relayConfig
    [Sample.relayPass] rules .byClass 100 (by decide +kernel)
  have distributes := (analyses_distribute Sample.relay Sample.relay_loaded Sample.relayConfig
    [Sample.relayMain] [Sample.relayPass]).1
  exact ⟨data, first, second, joint, one, other, (distributes data first second joint one other).1⟩

end Tabulation
