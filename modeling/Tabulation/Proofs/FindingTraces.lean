/-
The findings of taint and nullness runs have traces, unless a start on the way to them takes a
result from a call that leads back to it.

In such a method the search can come to an edge inside a callee before it comes to it on the way to
the callers.  The edge is not followed again then, and the callers are never found.
-/

import Tabulation.Proofs.FiniteFlow
import Tabulation.Proofs.TraceOrigins

namespace Tabulation

namespace Program

variable {p : Program} {config : Config} {entries : List MethodName}
variable {rules : Rules Statement String MethodName}

/-- Every finding of a finished run has a trace, in whatever order the data is listed, if the way
to it is untangled. -/
def Explains (p : Program) (config : Config) (entries : List MethodName)
    (rules : Rules Statement String MethodName) : Prop :=
  ∀ data, p.IsOutcome config entries rules data →
    ∀ ordered : Solution Statement String, ordered.SameContent data →
      ∀ finding ∈ data.findings,
        data.IsUntangled "" finding.vertex → (ordered.traceGraph finding.vertex "").traces ≠ []

private theorem Passing.explains (passing : p.Passing rules) (hook : rules.OnlyFindings)
    (located : ∀ edge finding, .newFinding rules.runner finding ∈ rules.onNewEdge edge →
      finding.vertex = edge.target) :
    p.Explains config entries rules := by
  intro data outcome ordered same finding isFinding untangled
  have solved := (outcome.isSolvedBy hook).of_sameContent same
  obtain ⟨edge, isEdge, reported⟩ :=
    (solved.findings finding).mp (same.findings.mem_iff.mpr isFinding)
  have known : finding.vertex ∈ ordered.facts :=
    (solved.facts _).mpr ⟨edge, isEdge, (located edge finding reported).symm⟩
  exact passing.traces_ne_nil solved "" known (untangled.of_sameContent same)

/-- A finding has a trace if no recursive method leads to its method by calls. -/
theorem Passing.traces_ne_nil_of_acyclic (passing : p.Passing rules) (loaded : p.Loaded)
    (hook : rules.OnlyFindings)
    (located : ∀ edge finding, .newFinding rules.runner finding ∈ rules.onNewEdge edge →
      finding.vertex = edge.target)
    {data : Solution Statement String} (outcome : p.IsOutcome config entries rules data)
    {finding : Finding Statement String} (isFinding : finding ∈ data.findings)
    (acyclic : p.AcyclicAbove config.options.banned finding.vertex.statement.method) :
    (data.traceGraph finding.vertex "").traces ≠ [] :=
  passing.explains hook located data outcome data
    ⟨.refl _, .refl _, .refl _, .refl _, .refl _⟩ finding isFinding
    (passing.isUntangled (outcome.isSolvedBy hook) loaded acyclic)

end Program

/-! ### Taint and nullness -/

theorem Taint.passing (p : Program) (config : Config) : p.Passing (Taint.rules p config) where
  graph := rfl
  passed {_ next _ _} flow := Taint.passed_eq next flow

theorem Nullness.passing (p : Program) : p.Passing (Nullness.rules p) where
  graph := rfl
  passed {_ next _ _} flow := Nullness.passed_eq next flow

theorem Taint.vertex_of_mem_onNewEdge {p : Program} {config : Config}
    (edge : Edge Statement String) (finding : Finding Statement String)
    (reported : .newFinding Taint.runner finding ∈ (Taint.rules p config).onNewEdge edge) :
    finding.vertex = edge.target := by
  obtain ⟨_, found, same⟩ := List.mem_map.mp reported
  cases same
  unfold findings at found
  grind

theorem Nullness.vertex_of_mem_onNewEdge {p : Program} (edge : Edge Statement String)
    (finding : Finding Statement String)
    (reported : .newFinding Nullness.runner finding ∈ (Nullness.rules p).onNewEdge edge) :
    finding.vertex = edge.target := by
  obtain ⟨_, found, same⟩ := List.mem_map.mp reported
  cases same
  unfold findings at found
  grind

/-- In every finished taint or nullness run, every finding that facts come to on an untangled way
can be explained. -/
theorem findings_have_traces (p : Program) (config : Config) (entries : List MethodName) :
    p.Explains config entries (Taint.rules p config) ∧
      p.Explains config entries (Nullness.rules p) :=
  ⟨(Taint.passing p config).explains (Taint.onlyFindings p config) Taint.vertex_of_mem_onNewEdge,
    (Nullness.passing p).explains (Nullness.onlyFindings p) Nullness.vertex_of_mem_onNewEdge⟩

namespace Sample

def spiralMain : MethodName := ⟨"Spiral", "main"⟩

/-- Hands on what it gets back for null. -/
def spiralBody : Method where
  id := spiralMain
  params := []
  isStatic := true
  isAbstract := false
  body := [.const "x" "null", .call ⟨"y", "Spiral", "same", ["x"], false, "", ""⟩,
    .call ⟨"", "Spiral", "again", ["y"], false, "", ""⟩, .ret ""]

def spiralSame : MethodName := ⟨"Spiral", "same"⟩

def spiralSameBody : Method where
  id := spiralSame
  params := ["a"]
  isStatic := true
  isAbstract := false
  body := [.ret "a"]

def spiralAgain : MethodName := ⟨"Spiral", "again"⟩

/-- Hands its parameter to itself, or calls something on it. -/
def spiralAgainBody : Method where
  id := spiralAgain
  params := ["v"]
  isStatic := true
  isAbstract := false
  body := [
    .branch "v" [2],
    .call ⟨"", "Spiral", "again", ["v"], false, "", ""⟩,
    .call ⟨"", "Spiral", "use", [], true, "v", "Spiral"⟩,
    .ret ""]

def spiral : Program where
  name := "spiral"
  classes := [{
    name := "Spiral"
    super := ""
    interfaces := []
    methods := [spiralBody, spiralSameBody, spiralAgainBody] }]

theorem spiral_loaded : spiral.Loaded := by
  refine ⟨_, Digraph.findsCondensation_components, "spiral", [{
    name := "Spiral"
    methods := [
      { name := "main"
        isStatic := true
        body := [
          { operation := "const", lhs := "x", value := "null" },
          { operation := "call", lhs := "y", callee := "Spiral.same", args := ["x"] },
          { operation := "call", callee := "Spiral.again", args := ["y"] },
          { operation := "return" }] },
      { name := "same"
        params := ["a"]
        isStatic := true
        body := [{ operation := "return", rhs := "a" }] },
      { name := "again"
        params := ["v"]
        isStatic := true
        body := [
          { operation := "if", condition := "v", targets := [2] },
          { operation := "call", callee := "Spiral.again", args := ["v"] },
          { operation := "call", callee := "Spiral.use", isVirtual := true, receiver := "v" },
          { operation := "return" }] }] }], ?_⟩
  decide +kernel

end Sample

section Spiral

open Sample

theorem findings_have_traces_spiral : spiral.Loaded ∧ ∃ data,
    spiral.IsOutcome relayConfig [spiralMain] (Nullness.rules spiral) data ∧
    ⟨⟨⟨spiralAgain, 2⟩, "v"⟩, Nullness.rule, "v may be null when calling Spiral.use"⟩ ∈
      data.findings ∧
    data.PassesTo "" ⟨⟨spiralAgain, 0⟩, "v"⟩ ⟨⟨spiralAgain, 0⟩, "v"⟩ ∧
    data.IsUntangled "" ⟨⟨spiralAgain, 2⟩, "v"⟩ ∧
    (data.traceGraph ⟨⟨spiralAgain, 2⟩, "v"⟩ "").traces ≠ [] := by
  obtain ⟨data, outcome, collected⟩ := Program.exists_isOutcome_of_run spiral relayConfig
    [spiralMain] (Nullness.rules spiral) .byClass 200 (by decide +kernel)
  have known : ⟨⟨spiralAgain, 2⟩, "v"⟩ ∈ data.facts :=
    (Engine.mem_facts_of_collect collected _).mpr (by decide +kernel)
  have finding : ⟨⟨⟨spiralAgain, 2⟩, "v"⟩, Nullness.rule,
      "v may be null when calling Spiral.use"⟩ ∈ data.findings :=
    outcome.mem_findings known fun edge target =>
      List.mem_map_of_mem (by rw [target]; decide)
  have evaluated := congrArg (Except.map fun data : Solution Statement String =>
    decide ((Edge.loop ⟨⟨spiralAgain, 0⟩, "v"⟩, Reason.derived .callToStart
        ⟨⟨⟨spiralAgain, 0⟩, "v"⟩, ⟨⟨spiralAgain, 1⟩, "v"⟩⟩) ∈ data.reasons ∧
      ∀ pair ∈ data.reasons, pair.1.target.fact ≠ "" →
        (pair.2.kind = .callToStart → pair.2.edge.source.statement.method ≠ spiralSame) ∧
        (pair.2.kind = .exitToReturn → pair.1.source.statement.method ≠ spiralSame ∧
          pair.2.summary.source.statement.method = spiralSame))) collected
  unfold Engine.collect Engine.collectByChunk Solution.merge Store.snapshot Store.edges at evaluated
  simp only [Text.distinctByHash_eq_distinct] at evaluated
  obtain ⟨again, leaves⟩ := of_decide_eq_true
    (Except.ok.inj (evaluated.symm.trans (by decide +kernel : _ = Except.ok true)))
  have untangled : data.IsUntangled "" ⟨⟨spiralAgain, 2⟩, "v"⟩ := by
    refine .of_leaves ?_ _
    rintro _ _ next ⟨edge, call, summary, named, rfl, rfl, recorded⟩ exchange
    have isSame := ((leaves _ recorded named).2 rfl).2
    rcases exchange with ⟨isFact, before, source, passes⟩ |
      ⟨later, _, _, isFact, source, _, takes⟩
    · exact (leaves _ passes isFact).1 rfl (source ▸ isSame)
    · exact ((leaves _ takes isFact).2 rfl).1 (source ▸ isSame)
  have explained := (findings_have_traces spiral relayConfig [spiralMain]).2 data
    outcome data ⟨.refl _, .refl _, .refl _, .refl _, .refl _⟩ _ finding untangled
  exact ⟨spiral_loaded, data, outcome, finding, ⟨by decide, _, rfl, again⟩, untangled, explained⟩

end Spiral

/-! ### Results that lead back -/

namespace Sample

def descentMain : MethodName := ⟨"Descent", "main"⟩

/-- Hands null over. -/
def descentBody : Method where
  id := descentMain
  params := []
  isStatic := true
  isAbstract := false
  body := [.const "x" "null", .call ⟨"", "Descent", "again", ["x"], false, "", ""⟩, .ret ""]

def descentAgain : MethodName := ⟨"Descent", "again"⟩

/-- Gives its parameter back, at once or after it calls something on what it gets from itself. -/
def descentAgainBody : Method where
  id := descentAgain
  params := ["v"]
  isStatic := true
  isAbstract := false
  body := [
    .assign "w" "v",
    .branch "w" [4],
    .call ⟨"r", "Descent", "again", ["w"], false, "", ""⟩,
    .call ⟨"", "Descent", "use", [], true, "r", "Descent"⟩,
    .ret "w"]

def descent : Program where
  name := "descent"
  classes := [{
    name := "Descent"
    super := ""
    interfaces := []
    methods := [descentBody, descentAgainBody] }]

theorem descent_loaded : descent.Loaded := by
  refine ⟨_, Digraph.findsCondensation_components, "descent", [{
    name := "Descent"
    methods := [
      { name := "main"
        isStatic := true
        body := [
          { operation := "const", lhs := "x", value := "null" },
          { operation := "call", callee := "Descent.again", args := ["x"] },
          { operation := "return" }] },
      { name := "again"
        params := ["v"]
        isStatic := true
        body := [
          { operation := "assign", lhs := "w", rhs := "v" },
          { operation := "if", condition := "w", targets := [4] },
          { operation := "call", lhs := "r", callee := "Descent.again", args := ["w"] },
          { operation := "call", callee := "Descent.use", isVirtual := true, receiver := "r" },
          { operation := "return", rhs := "w" }] }] }], ?_⟩
  decide +kernel

end Sample

section Descent

open Sample

/-- The call finds null, but its finding has no trace: when the search would go on from the start
of the method to the caller, it was there before, inside the callee. -/
theorem recursive_finding_without_trace : descent.Loaded ∧ ∃ data,
    descent.IsOutcome relayConfig [descentMain] (Nullness.rules descent) data ∧
    ⟨⟨⟨descentAgain, 3⟩, "r"⟩, Nullness.rule, "r may be null when calling Descent.use"⟩ ∈
      data.findings ∧
    (data.traceGraph ⟨⟨descentAgain, 3⟩, "r"⟩ "").traces = [] := by
  obtain ⟨data, outcome, collected⟩ := Program.exists_isOutcome_of_run descent relayConfig
    [descentMain] (Nullness.rules descent) .byClass 200 (by decide +kernel)
  have known : ⟨⟨descentAgain, 3⟩, "r"⟩ ∈ data.facts :=
    (Engine.mem_facts_of_collect collected _).mpr (by decide +kernel)
  have finding : ⟨⟨⟨descentAgain, 3⟩, "r"⟩, Nullness.rule,
      "r may be null when calling Descent.use"⟩ ∈ data.findings :=
    outcome.mem_findings known fun edge target =>
      List.mem_map_of_mem (by rw [target]; decide)
  have evaluated := congrArg (Except.map fun data : Solution Statement String =>
    (data.traceGraph ⟨⟨descentAgain, 3⟩, "r"⟩ "").traces) collected
  unfold Engine.collect Engine.collectByChunk Solution.merge Store.snapshot Store.edges at evaluated
  simp only [Text.distinctByHash_eq_distinct] at evaluated
  have traceless : (data.traceGraph ⟨⟨descentAgain, 3⟩, "r"⟩ "").traces = [] :=
    Except.ok.inj (evaluated.symm.trans (by decide +kernel))
  exact ⟨descent_loaded, data, outcome, finding, traceless⟩

end Descent

end Tabulation
