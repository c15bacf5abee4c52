/-
Richer rules find more, and so taint grows with the configuration.

A run finds the vertices to which realizable paths lead, so it cannot lose one when every flow
of its rules is kept and every callee still resolved.  A configuration with more sources, fewer
sanitizers and fewer banned types keeps all flows of taint: the flow functions add flows for a
source, leave them out for a sanitizer, and kill a variable whatever the configuration says.
-/

import Tabulation.Proofs.TaintSoundness

namespace Tabulation

namespace Rules

variable {S F M : Type} [DecidableEq S] [DecidableEq M]

/-- Over the same graph, every flow of the first rules is one of the second, and every callee of
the first dispatch one of the second. -/
structure FlowsWithin (few many : Rules S F M) (fewCalls manyCalls : Dispatch S M) : Prop where
  graph : few.graph = many.graph
  sequent : ∀ s next fact, few.flow.sequent s next fact ⊆ many.flow.sequent s next fact
  call : ∀ s next fact, few.flow.call s next fact ⊆ many.flow.call s next fact
  callToStart : ∀ s entry fact,
    few.flow.callToStart s entry fact ⊆ many.flow.callToStart s entry fact
  exitToReturn : ∀ s next exit fact,
    few.flow.exitToReturn s next exit fact ⊆ many.flow.exitToReturn s next exit fact
  callees : ∀ s, (fewCalls.resolve s).methods ⊆ (manyCalls.resolve s).methods

namespace FlowsWithin

variable {few many : Rules S F M} {fewCalls manyCalls : Dispatch S M}

omit [DecidableEq S] in
private theorem enters (within : few.FlowsWithin many fewCalls manyCalls) {vertex start : Vertex S F}
    {passed : F} (enters : few.Enters fewCalls vertex passed start) :
    many.Enters manyCalls vertex passed start := by
  obtain ⟨⟨isCall, next, successor, passes⟩, callee, resolved, first, starts⟩ := enters
  rw [within.graph] at isCall successor first
  exact ⟨⟨isCall, next, successor, within.call _ _ _ passes⟩, callee,
    within.callees _ resolved, first, within.callToStart _ _ _ starts⟩

theorem moves (within : few.FlowsWithin many fewCalls manyCalls)
    {before after : Configuration S F} (move : few.Moves fewCalls before after) :
    many.Moves manyCalls before after := by
  have exits : ∀ s, few.isExit s = many.isExit s := by
    intro s
    unfold isExit
    rw [within.graph]
  cases move with
  | flow flows =>
      obtain ⟨plain, inside, successor, flows⟩ := flows
      rw [within.graph] at plain successor
      rw [exits] at inside
      exact .flow ⟨plain, inside, successor, within.sequent _ _ _ flows⟩
  | bypass bypasses =>
      obtain ⟨isCall, successor, bypasses⟩ := bypasses
      rw [within.graph] at isCall successor
      exact .bypass ⟨isCall, successor, within.call _ _ _ bypasses⟩
  | enter enters => exact .enter (within.enters enters)
  | leave exit reenters =>
      obtain ⟨successor, reenters⟩ := reenters
      rw [within.graph] at successor
      rw [exits] at exit
      exact .leave exit ⟨successor, within.exitToReturn _ _ _ _ reenters⟩

/-- Realizable paths stay realizable. -/
theorem realizable (within : few.FlowsWithin many fewCalls manyCalls)
    {fewStarts manyStarts : Set (Vertex S F)} (starts : fewStarts ⊆ manyStarts)
    {vertex : Vertex S F} (reached : few.Realizable fewCalls fewStarts vertex) :
    many.Realizable manyCalls manyStarts vertex := by
  obtain ⟨start, isStart, stack, run⟩ := reached
  exact ⟨start, starts isStart, stack, Relation.ReflTransGen.mono (fun _ _ => within.moves) _ _ run⟩

end FlowsWithin

end Rules

/-! ### Callees and banned types -/

theorem isBanned_mono {few many : List String} (subset : few ⊆ many) {typeName : String}
    (banned : isBanned few typeName = true) : isBanned many typeName = true := by
  unfold isBanned at banned ⊢
  rw [List.any_eq_true] at banned ⊢
  obtain ⟨start, member, starts⟩ := banned
  exact ⟨start, subset member, starts⟩

theorem Dispatch.targets_mono {S M : Type} (dispatch : Dispatch S M) {banned : List String}
    (fewer : banned ⊆ dispatch.banned) (site : CallSite M) (declared : M) :
    dispatch.targets site declared ⊆ { dispatch with banned }.targets site declared := by
  have kept : ∀ method, dispatch.bans method = false →
      { dispatch with banned }.bans method = false := by
    intro method allowed
    rw [Bool.eq_false_iff] at allowed ⊢
    exact fun bans => allowed (isBanned_mono fewer bans)
  intro method target
  rw [mem_targets] at target ⊢
  obtain ⟨allowed, same | ⟨isVirtual, overrides, allowedToo, compatible⟩⟩ := target
  · exact ⟨kept declared allowed, Or.inl same⟩
  · exact ⟨kept declared allowed, Or.inr ⟨isVirtual, overrides, kept method allowedToo, compatible⟩⟩

theorem Program.resolve_mono (p : Program) {few many : List String} (subset : few ⊆ many)
    (s : Statement) :
    ((p.dispatch many).resolve s).methods ⊆ ((p.dispatch few).resolve s).methods := by
  intro id resolved
  obtain ⟨call, declared, here, found, target⟩ := mem_resolve.mp resolved
  exact mem_resolve.mpr ⟨call, declared, here, found,
    (p.dispatch many).targets_mono subset _ _ target⟩

/-! ### Taint -/

/-- The second configuration asks for all that the first asks for: it has the sources and sinks
of the first, and no sanitizers and banned types but those of the first. -/
structure Config.AsksWithin (first second : Config) : Prop where
  sources : ∀ id, first.isSource id = true → second.isSource id = true
  sinks : ∀ id, first.isSink id = true → second.isSink id = true
  sanitizers : ∀ id, second.isSanitizer id = true → first.isSanitizer id = true
  banned : second.options.banned ⊆ first.options.banned

namespace Taint

variable {p : Program} {first second : Config}

private theorem startFacts_mono (within : first.AsksWithin second) (entry : Statement) :
    startFacts p first entry ⊆ startFacts p second entry := by
  unfold startFacts
  apply List.cons_subset_cons
  by_cases isSource : first.isSource (methodId entry.method) = true
  · rw [if_pos isSource, if_pos (within.sources _ isSource)]
    exact List.Subset.refl _
  · rw [if_neg isSource]
    exact List.nil_subset _

private theorem call_mono (within : first.AsksWithin second) (s next : Statement)
    (fact : String) : Taint.call p first s next fact ⊆ Taint.call p second s next fact := by
  have clean : ∀ id, first.isSanitizer id = false → second.isSanitizer id = false := by
    intro id noSanitizer
    rw [Bool.eq_false_iff] at noSanitizer ⊢
    exact fun sanitizes => noSanitizer (within.sanitizers id sanitizes)
  intro action member
  cases here : p.instruction? s with
  | none => simp [Taint.call, here] at member
  | some instruction =>
      cases instruction with
      | call call =>
          by_cases isZero : fact = ""
          · subst isZero
            rw [mem_call_zero here] at member ⊢
            rcases member with same | ⟨noSanitizer, same⟩ | ⟨isSource, hasResult, same⟩
            · exact Or.inl same
            · exact Or.inr (Or.inl ⟨clean _ noSanitizer, same⟩)
            · exact Or.inr (Or.inr ⟨within.sources _ isSource, hasResult, same⟩)
          · rw [mem_call here isZero] at member ⊢
            rcases member with kept | ⟨used, noSanitizer, passed⟩
            · exact Or.inl kept
            · exact Or.inr ⟨used, clean _ noSanitizer, passed⟩
      | _ => simp [Taint.call, here] at member

private theorem findings_mono (within : first.AsksWithin second)
    (vertex : Vertex Statement String) :
    findings p first vertex ⊆ findings p second vertex := by
  intro finding member
  unfold findings at member ⊢
  split
  · rename_i call here
    simp only [here] at member
    split at member
    · rename_i passed
      simp only [Bool.and_eq_true] at passed ⊢
      rw [if_pos ⟨passed.1, within.sinks _ passed.2⟩]
      exact member
    · cases member
  · rename_i noCall
    split at member
    · rename_i call here
      exact absurd here (noCall call)
    · cases member

theorem flowsWithin (p : Program) (within : first.AsksWithin second) :
    (rules p first).FlowsWithin (rules p second) (p.dispatch first.options.banned)
      (p.dispatch second.options.banned) where
  graph := rfl
  sequent _ _ _ := List.Subset.refl _
  call := call_mono within
  callToStart _ _ _ := List.Subset.refl _
  exitToReturn _ _ _ _ := List.Subset.refl _
  callees := p.resolve_mono within.banned

/-- What a finished run knows and finds under the first configuration, a finished run knows and
finds under the second. -/
theorem taint_mono (p : Program) (entries : List MethodName) (first second : Config)
    (within : first.AsksWithin second) (data more : Solution Statement String)
    (outcome : p.IsOutcome first entries (rules p first) data)
    (richer : p.IsOutcome second entries (rules p second) more) :
    (∀ s, data.factsAt s ⊆ more.factsAt s) ∧ data.findings ⊆ more.findings := by
  have starts : p.startVertices entries (rules p first) ⊆
      p.startVertices entries (rules p second) :=
    fun vertex isStart => ⟨isStart.1, startFacts_mono within _ isStart.2⟩
  have facts : ∀ vertex ∈ data.facts, vertex ∈ more.facts := by
    intro vertex known
    rw [outcome.mem_facts (onlyFindings p first)] at known
    rw [richer.mem_facts (onlyFindings p second)]
    exact (flowsWithin p within).realizable starts known
  refine ⟨fun s fact member => ?_, fun finding member => ?_⟩
  · rw [Solution.mem_factsAt] at member ⊢
    exact facts _ member
  · have solved := outcome.isSolvedBy (onlyFindings p first)
    obtain ⟨edge, known, hooked⟩ := (solved.findings finding).mp member
    have isFact := (solved.facts edge.target).mpr ⟨edge, known, rfl⟩
    refine richer.mem_findings (facts _ isFact) fun other target => ?_
    obtain ⟨found, isFound, same⟩ := List.mem_map.mp hooked
    refine List.mem_map.mpr ⟨found, findings_mono within _ ?_, same⟩
    rw [target]
    exact isFound

end Taint

namespace Sample

/-- As for the relay, but its second method sanitizes and whatever belongs to it is banned. -/
def guardedConfig : Config where
  options := { banned := ["Relay"] }
  problems := [{
    sources := [{ id := { type := "Input", method := "read" } }]
    sinks := [{ id := { type := "Output", method := "write" } }]
    sanitizers := [{ id := { type := "Relay", method := "pass" } }] }]

theorem guardedConfig_asksWithin : guardedConfig.AsksWithin relayConfig where
  sources _ isSource := isSource
  sinks _ isSink := isSink
  sanitizers id sanitizes := by
    simp [Config.isSanitizer, TaintProblem.isSanitizer, relayConfig] at sanitizes
  banned := List.nil_subset _

end Sample

theorem Taint.taint_mono_relay : ∃ data more,
    Sample.relay.IsOutcome Sample.guardedConfig [Sample.relayMain]
      (rules Sample.relay Sample.guardedConfig) data ∧
    Sample.relay.IsOutcome Sample.relayConfig [Sample.relayMain]
      (rules Sample.relay Sample.relayConfig) more ∧
    (∀ s, data.factsAt s ⊆ more.factsAt s) ∧ data.findings ⊆ more.findings := by
  obtain ⟨data, outcome, _⟩ := Program.exists_isOutcome_of_run Sample.relay Sample.guardedConfig
    [Sample.relayMain] (rules Sample.relay Sample.guardedConfig) .byClass 200 (by decide +kernel)
  obtain ⟨more, richer, _⟩ := Program.exists_isOutcome_of_run Sample.relay Sample.relayConfig
    [Sample.relayMain] (rules Sample.relay Sample.relayConfig) .byClass 200 (by decide +kernel)
  exact ⟨data, more, outcome, richer, taint_mono Sample.relay [Sample.relayMain]
    Sample.guardedConfig Sample.relayConfig Sample.guardedConfig_asksWithin data more outcome
    richer⟩

end Tabulation
