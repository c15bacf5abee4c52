/-
A finished run has found the least solution of the rules.

The engine has one analyzer, which follows the rules and whose hook for new edges sends
findings only.  Every message of a run is justified by edges in any set that has the
seeds and is closed under the rules.  At the end the recorded edges are such a set.
-/

import Mathlib.Order.Bounds.Defs
import Tabulation.Proofs.Collection
import Tabulation.Proofs.FlowRules

namespace Tabulation

variable {S F M : Type}

/-- The edges of a runner that were sent from outside, with their reasons. -/
def History.seeds (history : History S F M) (runner : String) :
    Set (Edge S F × Reason S F) :=
  {seed | .newEdge runner seed.1 seed.2 ∈ history.sent}

/-- The edges of a runner that were recorded. -/
def History.knownEdges (history : History S F M) (runner : String) :
    Set (Edge S F) :=
  {edge | ∃ reason, .newEdge runner edge reason ∈ history.handled}

/-- The hook for new edges sends findings only. -/
def Rules.OnlyFindings (rules : Rules S F M) : Prop :=
  ∀ edge, ∀ message ∈ rules.onNewEdge edge,
    ∃ runner finding, message = .newFinding runner finding

variable [DecidableEq S] [DecidableEq M] [Inhabited S] [Inhabited F]

/-- What a message says holds in a set of known edges. -/
def Rules.Justifies (rules : Rules S F M) (dispatch : Dispatch S M)
    (seeds : Set (Edge S F × Reason S F)) (known : Set (Edge S F)) :
    Message S F M → Prop
  | .newEdge runner edge reason => runner = rules.runner →
      (edge, reason) ∈ seeds ∨ rules.Infers dispatch known edge reason
  | .newSummary _ edge => edge ∈ known ∧ rules.isExit edge.target.statement = true
  | .newFinding runner finding =>
      ∃ edge ∈ known, .newFinding runner finding ∈ rules.onNewEdge edge
  | .subscribeStart _ vertex _ edge =>
      ∃ origin ∈ known, ∃ passed, rules.Enters dispatch origin.target passed vertex ∧
        edge = Rules.callEdge origin passed
  | .edgeAdded runner edge => runner = rules.runner → edge ∈ known
  | .resolvedCall _ edge callee =>
      ∃ origin ∈ known, ∃ passed, rules.Passes origin.target passed ∧
        callee ∈ (dispatch.resolve origin.target.statement).methods ∧
        edge = Rules.callEdge origin passed
  | .startNotice _ _ summary edge =>
      summary ∈ known ∧ rules.isExit summary.target.statement = true ∧
        ∃ origin ∈ known, ∃ passed,
          rules.Enters dispatch origin.target passed summary.source ∧
          edge = Rules.callEdge origin passed
  | .unresolvedCall runner edge => runner = rules.runner ∧
      ∃ origin ∈ known, ∃ passed, rules.Passes origin.target passed ∧
        edge = Rules.callEdge origin passed
  | _ => False

private theorem Rules.justifies_due {engine : Engine S F M} {rules : Rules S F M}
    {dispatch : Dispatch S M} {seeds : Set (Edge S F × Reason S F)}
    {known : Set (Edge S F)} (closed : rules.Closed dispatch known)
    (seeded : ∀ seed ∈ seeds, seed.1 ∈ known) (handled : Set (Message S F M))
    (justified : ∀ message ∈ handled, rules.Justifies dispatch seeds known message)
    (answer : Message S F M) (due : Due engine.strategy handled answer) :
    rules.Justifies dispatch seeds known answer := by
  cases answer with
  | edgeAdded runner edge =>
      intro same
      obtain ⟨reason, member⟩ := due
      rcases justified _ member same with seed | infers
      · exact seeded _ seed
      · exact closed edge reason infers
  | startNotice subscriber author summary edge =>
      obtain ⟨subscribed, summarized⟩ := due
      obtain ⟨summaryKnown, exit⟩ := justified _ summarized
      exact ⟨summaryKnown, exit, justified _ subscribed⟩
  | endNotice subscriber author summary edge => exact absurd (justified _ due.1) id
  | _ => exact absurd due id

variable [DecidableEq F] [Shown S] [Shown F] [Shown M]

namespace Engine

/-- The only analyzer follows the rules, and calls are resolved with the dispatch. -/
structure Follows (engine : Engine S F M) (rules : Rules S F M)
    (dispatch : Dispatch S M) : Prop where
  analyzers : engine.registry.analyzers = [(rules.runner, rules.analyzer)]
  resolver : engine.registry.resolverOf rules.runner = .ok (some dispatch.indirection)

variable {engine : Engine S F M} {rules : Rules S F M} {dispatch : Dispatch S M}
variable {history : History S F M}

namespace Follows

theorem analyzer_eq (follows : engine.Follows rules dispatch) :
    engine.registry.analyzer rules.runner = .ok rules.analyzer := by
  unfold Registry.analyzer
  rw [follows.analyzers]
  simp

theorem reply_edgeAdded (follows : engine.Follows rules dispatch)
    (edge : Edge S F) :
    engine.reply false (.edgeAdded rules.runner edge) = rules.edgeStep edge := by
  simp only [reply, Message.runner, follows.analyzer_eq]
  rfl

theorem reply_resolvedCall (follows : engine.Follows rules dispatch)
    (edge : Edge S F) (callee : M) :
    engine.reply false (.resolvedCall rules.runner edge callee) =
      rules.calleeStep edge callee := by
  simp only [reply, Message.runner, follows.analyzer_eq]
  rfl

theorem reply_startNotice (follows : engine.Follows rules dispatch)
    (author : String) (summary edge : Edge S F) :
    engine.reply false (.startNotice rules.runner author summary edge) =
      rules.returnStep edge summary := by
  simp only [reply, Message.runner, follows.analyzer_eq]
  rfl

theorem reply_unresolvedCall (follows : engine.Follows rules dispatch)
    (edge : Edge S F) :
    engine.reply false (.unresolvedCall rules.runner edge) =
      (dispatch.resolve edge.target.statement).methods.map
        (.resolvedCall rules.runner edge) := by
  simp only [reply, follows.resolver]
  rfl

theorem analyzer_of_ne (follows : engine.Follows rules dispatch)
    {runner : String} (other : runner ≠ rules.runner) :
    engine.registry.analyzer runner = .error (.unknownRunner runner) := by
  have different : (runner == rules.runner) = false := beq_false_of_ne other
  unfold Registry.analyzer
  rw [follows.analyzers, List.lookup_cons, different, List.lookup_nil]

theorem isPrompt (follows : engine.Follows rules dispatch) (message : Message S F M) :
    engine.IsPrompt message := by
  intro analyzer found
  by_cases own : message.runner = rules.runner
  · rw [own, follows.analyzer_eq] at found
    cases found
    cases message <;> rfl
  · rw [follows.analyzer_of_ne own] at found
    cases found

theorem shared (follows : engine.Follows rules dispatch) :
    engine.registry.resolver = some dispatch.indirection := by
  have known := follows.resolver
  unfold Registry.resolverOf at known
  split at known
  · cases known
  · exact Except.ok.inj known

/-- Whoever asks, the answers to a question for callees are callees. -/
theorem isResolved_of_reply (follows : engine.Follows rules dispatch)
    {runner : String} {edge : Edge S F} {message : Message S F M}
    (sent : message ∈ engine.reply false (.unresolvedCall runner edge)) :
    ∃ callee ∈ (dispatch.resolve edge.target.statement).methods,
      message = .resolvedCall runner edge callee := by
  simp only [reply, Registry.resolverOf, follows.shared] at sent
  split at sent
  · rename_i indirection found
    split at found
    · cases found
    · cases found
      obtain ⟨callee, resolved, same⟩ := List.mem_map.mp sent
      exact ⟨callee, resolved, same.symm⟩
  · cases sent

theorem runner_eq_of_reply (follows : engine.Follows rules dispatch)
    {message other : Message S F M} (analyzed : message.category = .analyzer)
    (sent : other ∈ engine.reply false message) : message.runner = rules.runner := by
  by_contra foreign
  have unknown := follows.analyzer_of_ne foreign
  cases message with
  | edgeAdded | resolvedCall | startNotice | endNotice =>
      simp only [reply, unknown] at sent
      cases sent
  | unresolvedCall => cases analyzed
  | _ => cases sent

end Follows

/-! ### All conclusions are drawn -/

section Complete

variable (accounts : engine.Accounts history) (finished : history.pending = [])
variable (follows : engine.Follows rules dispatch)

include accounts finished follows

theorem Accounts.mem_of_edgeStep {edge : Edge S F}
    (known : edge ∈ history.knownEdges rules.runner) {message : Message S F M}
    (sent : message ∈ rules.edgeStep edge) : message ∈ history.handled := by
  have announced : .edgeAdded rules.runner edge ∈ history.handled :=
    accounts.mem_of_due finished known
  refine accounts.mem_of_reply finished announced ?_
  rw [follows.reply_edgeAdded]
  exact sent

private theorem Accounts.mem_of_enters {edge : Edge S F}
    (known : edge ∈ history.knownEdges rules.runner) {passed : F} {start : Vertex S F}
    (enters : rules.Enters dispatch edge.target passed start) {message : Message S F M}
    (sent : message =
        .subscribeStart rules.runner start rules.runner (Rules.callEdge edge passed) ∨
      message = .newEdge rules.runner (.loop start)
        (.derived .callToStart (Rules.callEdge edge passed))) :
    message ∈ history.handled := by
  obtain ⟨passes, callee, resolved, starts⟩ := enters
  have asked : .unresolvedCall rules.runner (Rules.callEdge edge passed) ∈
      history.handled := by
    refine accounts.mem_of_edgeStep finished follows known ?_
    rw [rules.mem_edgeStep]
    exact Or.inr (Or.inr (Or.inr (Or.inr ⟨passed, passes, rfl⟩)))
  have answered : .resolvedCall rules.runner (Rules.callEdge edge passed) callee ∈
      history.handled := by
    refine accounts.mem_of_reply finished asked ?_
    rw [follows.reply_unresolvedCall]
    exact List.mem_map_of_mem resolved
  refine accounts.mem_of_reply finished answered ?_
  rw [follows.reply_resolvedCall, rules.mem_calleeStep]
  exact ⟨start, starts, sent⟩

theorem Accounts.newEdge_of_infers {edge : Edge S F} {reason : Reason S F}
    (infers : rules.Infers dispatch (history.knownEdges rules.runner) edge reason) :
    .newEdge rules.runner edge reason ∈ history.handled := by
  cases infers with
  | sequent known flows =>
      refine accounts.mem_of_edgeStep finished follows known ?_
      rw [rules.mem_edgeStep]
      exact Or.inr (Or.inr (Or.inl ⟨_, flows, rfl⟩))
  | callToReturn known bypasses =>
      refine accounts.mem_of_edgeStep finished follows known ?_
      rw [rules.mem_edgeStep]
      exact Or.inr (Or.inr (Or.inr (Or.inl ⟨_, bypasses, rfl⟩)))
  | callToStart known enters =>
      exact accounts.mem_of_enters finished follows known enters (Or.inr rfl)
  | @exitToReturn edge summary passed next known enters summaryKnown exit reenters =>
      have subscribed : .subscribeStart rules.runner summary.source rules.runner
          (Rules.callEdge edge passed) ∈ history.handled :=
        accounts.mem_of_enters finished follows known enters (Or.inl rfl)
      have summarized : .newSummary rules.runner summary ∈ history.handled := by
        refine accounts.mem_of_edgeStep finished follows summaryKnown ?_
        rw [rules.mem_edgeStep]
        exact Or.inl ⟨exit, rfl⟩
      have noticed : .startNotice rules.runner rules.runner summary
          (Rules.callEdge edge passed) ∈ history.handled :=
        accounts.mem_of_due finished ⟨subscribed, summarized⟩
      refine accounts.mem_of_reply finished noticed ?_
      rw [follows.reply_startNotice, rules.mem_returnStep]
      exact ⟨next, reenters, rfl⟩

end Complete

/-! ### Nothing else is concluded -/

variable {seeds : Set (Edge S F × Reason S F)} {known : Set (Edge S F)}

private theorem justifies_reply (follows : engine.Follows rules dispatch)
    (hook : rules.OnlyFindings) (message : Message S F M)
    (justified : rules.Justifies dispatch seeds known message) :
    ∀ other ∈ engine.reply false message,
      rules.Justifies dispatch seeds known other := by
  intro other sent
  cases message with
  | edgeAdded runner edge =>
      have same : runner = rules.runner := follows.runner_eq_of_reply rfl sent
      subst same
      have member : edge ∈ known := justified rfl
      rw [follows.reply_edgeAdded, rules.mem_edgeStep] at sent
      rcases sent with ⟨exit, rfl⟩ | hooked | ⟨next, flows, rfl⟩ |
        ⟨next, bypasses, rfl⟩ | ⟨passed, passes, rfl⟩
      · exact ⟨member, exit⟩
      · obtain ⟨runner, finding, rfl⟩ := hook edge other hooked
        exact ⟨edge, member, hooked⟩
      · exact fun _ => Or.inr (.sequent member flows)
      · exact fun _ => Or.inr (.callToReturn member bypasses)
      · exact ⟨rfl, edge, member, passed, passes, rfl⟩
  | resolvedCall runner edge callee =>
      have same : runner = rules.runner := follows.runner_eq_of_reply rfl sent
      subst same
      obtain ⟨origin, member, passed, passes, resolved, rfl⟩ := justified
      rw [follows.reply_resolvedCall, rules.mem_calleeStep] at sent
      obtain ⟨start, starts, rfl | rfl⟩ := sent
      · exact ⟨origin, member, passed, ⟨passes, callee, resolved, starts⟩, rfl⟩
      · exact fun _ => Or.inr (.callToStart member ⟨passes, callee, resolved, starts⟩)
  | startNotice runner author summary edge =>
      have same : runner = rules.runner := follows.runner_eq_of_reply rfl sent
      subst same
      obtain ⟨summaryMember, exit, origin, member, passed, enters, rfl⟩ := justified
      rw [follows.reply_startNotice, rules.mem_returnStep] at sent
      obtain ⟨next, reenters, rfl⟩ := sent
      have infers : rules.Infers dispatch known ⟨origin.source, next⟩
          (.applied (Rules.callEdge origin passed) summary) :=
        .exitToReturn member enters summaryMember exit reenters
      exact fun _ => Or.inr infers
  | unresolvedCall runner edge =>
      obtain ⟨rfl, origin, member, passed, passes, rfl⟩ := justified
      rw [follows.reply_unresolvedCall, List.mem_map] at sent
      obtain ⟨callee, resolved, rfl⟩ := sent
      exact ⟨origin, member, passed, passes, resolved, rfl⟩
  | endNotice => exact absurd justified id
  | _ => cases sent

/-! ### The least solution -/

variable {log : Log}

theorem Reaches.justifies (reaches : engine.Reaches log history)
    (follows : engine.Follows rules dispatch) (hook : rules.OnlyFindings)
    (sent : ∀ message ∈ history.sent,
      ∃ runner edge reason, message = .newEdge runner edge reason)
    (seeded : ∀ seed ∈ history.seeds rules.runner, seed.1 ∈ known)
    (closed : rules.Closed dispatch known) :
    ∀ message ∈ history.handled,
      rules.Justifies dispatch (history.seeds rules.runner) known message := by
  refine Reaches.forall_handled reaches ?_ (Rules.justifies_due closed seeded)
    (justifies_reply follows hook)
  intro message member
  obtain ⟨runner, edge, reason, rfl⟩ := sent message member
  intro same
  subst same
  exact Or.inl member

private theorem Accounts.closed (accounts : engine.Accounts history)
    (finished : history.pending = []) (follows : engine.Follows rules dispatch) :
    rules.Closed dispatch (history.knownEdges rules.runner) :=
  fun _ reason infers =>
    ⟨reason, accounts.newEdge_of_infers finished follows infers⟩

theorem Reaches.isLeast_knownEdges (reaches : engine.Reaches log history)
    (finished : history.pending = []) (follows : engine.Follows rules dispatch)
    (hook : rules.OnlyFindings)
    (sent : ∀ message ∈ history.sent,
      ∃ runner edge reason, message = .newEdge runner edge reason) :
    IsLeast {known | (∀ seed ∈ history.seeds rules.runner, seed.1 ∈ known) ∧
        rules.Closed dispatch known}
      (history.knownEdges rules.runner) := by
  have accounts := Reaches.accounts reaches
  refine ⟨⟨?_, accounts.closed finished follows⟩, ?_⟩
  · rintro ⟨edge, reason⟩ seed
    exact ⟨reason, accounts.mem_of_sent finished seed⟩
  · rintro known ⟨seeded, closed⟩ edge ⟨reason, member⟩
    rcases Reaches.justifies reaches follows hook sent seeded closed _ member rfl with
      seed | infers
    · exact seeded (edge, reason) seed
    · exact closed edge reason infers

section Handled

variable (reaches : engine.Reaches log history) (finished : history.pending = [])
variable (follows : engine.Follows rules dispatch) (hook : rules.OnlyFindings)
variable (sent : ∀ message ∈ history.sent,
  ∃ runner edge reason, message = .newEdge runner edge reason)

include reaches finished follows hook sent

private theorem Reaches.justifies_knownEdges : ∀ message ∈ history.handled,
    rules.Justifies dispatch (history.seeds rules.runner)
      (history.knownEdges rules.runner) message := by
  have least := Reaches.isLeast_knownEdges reaches finished follows hook sent
  exact Reaches.justifies reaches follows hook sent least.1.1 least.1.2

theorem Reaches.newEdge_mem_iff (edge : Edge S F) (reason : Reason S F) :
    .newEdge rules.runner edge reason ∈ history.handled ↔
      (edge, reason) ∈ history.seeds rules.runner ∨
        rules.Infers dispatch (history.knownEdges rules.runner) edge reason := by
  have accounts := Reaches.accounts reaches
  constructor
  · intro member
    exact Reaches.justifies_knownEdges reaches finished follows hook sent _ member rfl
  · rintro (seed | infers)
    · exact accounts.mem_of_sent finished seed
    · exact accounts.newEdge_of_infers finished follows infers

theorem Reaches.newSummary_mem_iff (edge : Edge S F) :
    .newSummary rules.runner edge ∈ history.handled ↔
      edge ∈ history.knownEdges rules.runner ∧
        rules.isExit edge.target.statement = true := by
  have accounts := Reaches.accounts reaches
  constructor
  · intro member
    exact Reaches.justifies_knownEdges reaches finished follows hook sent _ member
  · rintro ⟨known, exit⟩
    apply accounts.mem_of_edgeStep finished follows known
    rw [rules.mem_edgeStep]
    exact Or.inl ⟨exit, rfl⟩

theorem Reaches.newFinding_mem_iff (finding : Finding S F) :
    .newFinding rules.runner finding ∈ history.handled ↔
      ∃ edge ∈ history.knownEdges rules.runner,
        .newFinding rules.runner finding ∈ rules.onNewEdge edge := by
  have accounts := Reaches.accounts reaches
  constructor
  · intro member
    exact Reaches.justifies_knownEdges reaches finished follows hook sent _ member
  · rintro ⟨edge, known, hooked⟩
    apply accounts.mem_of_edgeStep finished follows known
    rw [rules.mem_edgeStep]
    exact Or.inr (Or.inl hooked)

end Handled

end Engine

/-- The data is the least solution of the rules from some seeds: the least set of edges
that has the seeds and all conclusions, all reasons for them, their targets, those that
end at exits, and the findings of the hook. -/
structure Rules.IsSolvedBy (rules : Rules S F M) (dispatch : Dispatch S M)
    (seeds : Set (Edge S F × Reason S F)) (data : Solution S F) : Prop where
  edges : IsLeast {known | (∀ seed ∈ seeds, seed.1 ∈ known) ∧ rules.Closed dispatch known}
    {edge | edge ∈ data.edges}
  reasons : ∀ edge reason, (edge, reason) ∈ data.reasons ↔
    (edge, reason) ∈ seeds ∨
      rules.Infers dispatch {known | known ∈ data.edges} edge reason
  facts : ∀ vertex, vertex ∈ data.facts ↔ ∃ edge ∈ data.edges, edge.target = vertex
  summaries : ∀ edge, edge ∈ data.summaries ↔
    edge ∈ data.edges ∧ rules.isExit edge.target.statement = true
  findings : ∀ finding, finding ∈ data.findings ↔
    ∃ edge ∈ data.edges, .newFinding rules.runner finding ∈ rules.onNewEdge edge

namespace Rules.IsSolvedBy

omit [DecidableEq F] [Shown S] [Shown F] [Shown M]

variable {rules : Rules S F M} {dispatch : Dispatch S M}
variable {seeds : Set (Edge S F × Reason S F)} {data other : Solution S F}

/-- What holds of the seeds and passes to every recorded conclusion holds of all edges. -/
theorem induction (solved : rules.IsSolvedBy dispatch seeds data) {property : Edge S F → Prop}
    (seeded : ∀ edge reason, (edge, reason) ∈ seeds → property edge)
    (inferred : ∀ edge reason, (edge, reason) ∈ data.reasons →
      rules.Infers dispatch {known | known ∈ data.edges ∧ property known} edge reason →
      property edge) :
    ∀ edge ∈ data.edges, property edge := by
  have least := solved.edges
  have all : {edge | edge ∈ data.edges} ⊆ {edge | edge ∈ data.edges ∧ property edge} := by
    apply least.2
    refine ⟨fun seed isSeed => ⟨least.1.1 seed isSeed, seeded _ _ isSeed⟩, ?_⟩
    intro edge reason infers
    have known : rules.Infers dispatch {known | known ∈ data.edges} edge reason :=
      infers.mono fun _ member => member.1
    exact ⟨least.1.2 edge reason known,
      inferred edge reason ((solved.reasons edge reason).mpr (Or.inr known)) infers⟩
  exact fun edge member => (all member).2

/-- The order of the lists does not matter. -/
theorem of_sameContent (solved : rules.IsSolvedBy dispatch seeds data)
    (same : other.SameContent data) : rules.IsSolvedBy dispatch seeds other := by
  have edges : {edge | edge ∈ other.edges} = {edge | edge ∈ data.edges} :=
    Set.ext fun _ => same.edges.mem_iff
  refine ⟨?_, ?_, ?_, ?_, ?_⟩
  · rw [edges]
    exact solved.edges
  · intro edge reason
    rw [edges, same.reasons.mem_iff]
    exact solved.reasons edge reason
  · intro vertex
    simp only [same.facts.mem_iff, same.edges.mem_iff]
    exact solved.facts vertex
  · intro edge
    rw [same.summaries.mem_iff, same.edges.mem_iff]
    exact solved.summaries edge
  · intro finding
    simp only [same.findings.mem_iff, same.edges.mem_iff]
    exact solved.findings finding

end Rules.IsSolvedBy

/-- What reports a finished run is the least solution of the rules from what was sent. -/
theorem Engine.Reaches.isSolvedBy {engine : Engine S F M} {rules : Rules S F M}
    {dispatch : Dispatch S M} {log : Log} {history : History S F M}
    (reaches : engine.Reaches log history) (finished : history.pending = [])
    (follows : engine.Follows rules dispatch) (hook : rules.OnlyFindings)
    (sent : ∀ message ∈ history.sent,
      ∃ runner edge reason, message = .newEdge runner edge reason)
    {data : Solution S F}
    (reports : data.Reports rules.runner {message | message ∈ history.handled}) :
    rules.IsSolvedBy dispatch (history.seeds rules.runner) data := by
  have known : {edge | edge ∈ data.edges} = history.knownEdges rules.runner :=
    Set.ext reports.edges
  refine ⟨?_, ?_, ?_, ?_, ?_⟩
  · rw [known]
    exact Reaches.isLeast_knownEdges reaches finished follows hook sent
  · intro edge reason
    rw [reports.reasons, known]
    exact Reaches.newEdge_mem_iff reaches finished follows hook sent edge reason
  · intro vertex
    rw [reports.facts]
    constructor
    · rintro ⟨edge, reason, target, member⟩
      exact ⟨edge, (reports.edges edge).mpr ⟨reason, member⟩, target⟩
    · rintro ⟨edge, member, target⟩
      obtain ⟨reason, recorded⟩ := (reports.edges edge).mp member
      exact ⟨edge, reason, target, recorded⟩
  · intro edge
    rw [reports.summaries, reports.edges]
    exact Reaches.newSummary_mem_iff reaches finished follows hook sent edge
  · intro finding
    have hooked := Reaches.newFinding_mem_iff reaches finished follows hook sent finding
    rw [← known] at hooked
    rw [reports.findings]
    exact hooked

/-- Whatever the order of messages was, at the end the collected data is the least
solution of the rules from the edges that were sent. -/
theorem Engine.collect_isSolvedBy [Hashable S] [Hashable F] (engine : Engine S F M)
    (rules : Rules S F M) (dispatch : Dispatch S M)
    (follows : engine.Follows rules dispatch) (hook : rules.OnlyFindings)
    (log : Log) (history : History S F M) (reaches : engine.Reaches log history)
    (sent : ∀ message ∈ history.sent,
      ∃ runner edge reason, message = .newEdge runner edge reason)
    (finished : history.pending = []) :
    ∃ data, Engine.collect history.state rules.runner = .ok data ∧
      rules.IsSolvedBy dispatch (history.seeds rules.runner) data := by
  obtain ⟨data, collected, reports⟩ := (Reaches.accounts reaches).collect rules.runner
  exact ⟨data, collected, Reaches.isSolvedBy reaches finished follows hook sent reports⟩

namespace Sample

theorem follows (strategy : String → String) :
    (engine strategy).Follows rules dispatch := ⟨rfl, rfl⟩

theorem onlyFindings : rules.OnlyFindings := by
  intro edge message member
  by_cases back : edge.target.statement = "return"
  · have sent : rules.onNewEdge edge =
        [.newFinding "sample" ⟨edge.target, "reach", "the fact comes back"⟩] := if_pos back
    rw [sent] at member
    exact ⟨_, _, List.mem_singleton.mp member⟩
  · have sent : rules.onNewEdge edge = [] := if_neg back
    rw [sent] at member
    cases member

theorem isNewEdge_of_mem_seed : ∀ message ∈ [seed],
    ∃ runner edge reason, message = .newEdge runner edge reason := by
  intro message member
  exact ⟨_, _, _, List.mem_singleton.mp member⟩

end Sample

theorem Engine.collect_isSolvedBy_sample : ∃ history data,
    (Sample.engine Sample.graph.methodOf).Reaches Sample.log history ∧
    history.pending = [] ∧ Engine.collect history.state "sample" = .ok data ∧
    Sample.rules.IsSolvedBy Sample.dispatch (history.seeds "sample") data := by
  obtain ⟨history, reaches, finished, sent⟩ := Sample.finishes_by_method
  obtain ⟨data, collected, solved⟩ := Engine.collect_isSolvedBy
    (Sample.engine Sample.graph.methodOf) Sample.rules Sample.dispatch
    (Sample.follows _) Sample.onlyFindings Sample.log history reaches
    (sent ▸ Sample.isNewEdge_of_mem_seed) finished
  exact ⟨history, data, reaches, finished, collected, solved⟩

end Tabulation
