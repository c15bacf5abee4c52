/-
How a program is divided into chunks does not matter.

Only a subscription at the end of summaries depends on the chunks, since summaries are
kept where they start.  Runs without such subscriptions handle the same messages under
all chunk strategies, and what is collected is the same.
-/

import Tabulation.Proofs.Analyses
import Tabulation.Proofs.Confluence

namespace Tabulation

variable {S F M : Type}

def Message.IsAtEnd : Message S F M → Prop
  | .subscribeEnd .. | .endNotice .. => True
  | _ => False

/-- The hook for new edges sends no message that has to do with the end of summaries. -/
def Rules.SubscribesAtStarts (rules : Rules S F M) : Prop :=
  ∀ edge, ∀ message ∈ rules.onNewEdge edge, ¬message.IsAtEnd

theorem Rules.OnlyFindings.subscribesAtStarts {rules : Rules S F M}
    (hook : rules.OnlyFindings) : rules.SubscribesAtStarts := by
  intro edge message member
  obtain ⟨runner, finding, same⟩ := hook edge message member
  subst same
  exact id

namespace Engine

variable {engine : Engine S F M} {strategy : S → String}

/-- Without subscriptions at the end of summaries every strategy gives the same answers. -/
private theorem due_of_due {handled : Set (Message S F M)} {other : S → String}
    (atStarts : ∀ message ∈ handled, ¬message.IsAtEnd) (answer : Message S F M)
    (due : Due strategy handled answer) : Due other handled answer := by
  cases answer with
  | endNotice subscriber author summary edge => exact absurd trivial (atStarts _ due.1)
  | _ => exact due

variable [DecidableEq S] [DecidableEq F] [Shown S] [Shown F] [Shown M]
variable {log : Log} {history : History S F M}

theorem Reaches.not_isAtEnd (reaches : engine.Reaches log history)
    (sent : ∀ message ∈ history.sent, ¬message.IsAtEnd)
    (replied : ∀ message, ¬message.IsAtEnd →
      ∀ other ∈ engine.reply false message, ¬other.IsAtEnd) :
    ∀ message ∈ history.handled, ¬message.IsAtEnd := by
  refine Reaches.forall_handled reaches sent ?_ replied
  intro handled atStarts answer due
  cases answer with
  | endNotice subscriber author summary edge => exact absurd trivial (atStarts _ due.1)
  | subscribeEnd => exact absurd due id
  | _ => exact id

variable {other : Engine S F M} {otherLog : Log} {first second : History S F M}

theorem Reaches.handled_le_of_registry (reaches : engine.Reaches log first)
    (finished : first.pending = []) (registry : other.registry = engine.registry)
    (otherReaches : other.Reaches otherLog second) (sent : second.sent.Perm first.sent)
    (atStarts : ∀ message ∈ first.handled, ¬message.IsAtEnd) :
    (second.handled : Multiset (Message S F M)) ≤ first.handled ∧
      (second.pending ≠ [] → second.handled.length + 1 ≤ first.handled.length) := by
  have accounts := Reaches.accounts reaches
  have covers : ∀ answer : Message S F M,
      Due other.strategy {message | message ∈ first.handled} answer →
        Due engine.strategy {message | message ∈ first.handled} answer :=
    fun answer => due_of_due atStarts answer
  have sentLe := (Multiset.coe_eq_coe.mpr sent).le
  have within := accounts.handled_le finished registry covers otherReaches sentLe
  refine ⟨within, fun more => ?_⟩
  obtain ⟨message, waiting⟩ := List.exists_mem_of_ne_nil _ more
  have next := accounts.cons_handled_le finished (Reaches.accounts otherReaches) registry
    covers sentLe within waiting
  have length := Multiset.card_le_card next
  rw [Multiset.coe_card, Multiset.coe_card, List.length_cons] at length
  exact length

theorem Reaches.handled_perm_of_registry (reaches : engine.Reaches log first)
    (finished : first.pending = []) (registry : other.registry = engine.registry)
    (otherReaches : other.Reaches otherLog second) (otherFinished : second.pending = [])
    (sent : second.sent.Perm first.sent)
    (atStarts : ∀ message ∈ first.handled, ¬message.IsAtEnd) :
    second.handled.Perm first.handled := by
  have down :=
    (handled_le_of_registry reaches finished registry otherReaches sent atStarts).1
  have otherAtStarts : ∀ message ∈ second.handled, ¬message.IsAtEnd :=
    fun message member => atStarts message (Multiset.mem_of_le down member)
  have up := (handled_le_of_registry otherReaches otherFinished registry.symm reaches
    sent.symm otherAtStarts).1
  exact Multiset.coe_eq_coe.mp (le_antisymm down up)

variable [DecidableEq M] [Inhabited S] [Inhabited F]
variable {rules : Rules S F M} {dispatch : Dispatch S M}

theorem not_isAtEnd_of_reply (follows : engine.Follows rules dispatch)
    (hook : rules.SubscribesAtStarts) (message : Message S F M)
    (atStart : ¬message.IsAtEnd) :
    ∀ other ∈ engine.reply false message, ¬other.IsAtEnd := by
  intro other sent
  cases message with
  | edgeAdded runner edge =>
      have same : runner = rules.runner := follows.runner_eq_of_reply rfl sent
      subst same
      rw [follows.reply_edgeAdded, rules.mem_edgeStep] at sent
      rcases sent with ⟨_, same⟩ | hooked | ⟨next, _, same⟩ | ⟨next, _, same⟩ |
        ⟨passed, _, same⟩
      · subst same
        exact id
      · exact hook edge other hooked
      · subst same
        exact id
      · subst same
        exact id
      · subst same
        exact id
  | resolvedCall runner edge callee =>
      have same : runner = rules.runner := follows.runner_eq_of_reply rfl sent
      subst same
      rw [follows.reply_resolvedCall, rules.mem_calleeStep] at sent
      obtain ⟨start, _, same | same⟩ := sent
      · subst same
        exact id
      · subst same
        exact id
  | startNotice runner author summary edge =>
      have same : runner = rules.runner := follows.runner_eq_of_reply rfl sent
      subst same
      rw [follows.reply_startNotice, rules.mem_returnStep] at sent
      obtain ⟨next, _, same⟩ := sent
      subst same
      exact id
  | unresolvedCall runner edge =>
      obtain ⟨callee, _, same⟩ := follows.isResolved_of_reply sent
      subst same
      exact id
  | endNotice => exact absurd trivial atStart
  | _ => cases sent

end Engine

/-! ### The analyses of a program -/

def Config.withChunks (config : Config) (strategy : String) (buckets : Int) : Config :=
  { config with
    options := { config.options with chunkStrategy := strategy, chunkBuckets := buckets } }

/-- Two results of an analysis say the same. -/
structure AnalysisResult.Agrees {F : Type} (left right : AnalysisResult F) : Prop where
  status : left.status = right.status
  findings : left.findings.Perm right.findings
  data : left.data.SameContent right.data

/-- An analysis that comes to its end does so under every known chunk strategy, with the
same result. -/
def IgnoresChunks {F : Type}
    (analyze : Config → Except AnalysisError (AnalysisResult F)) : Prop :=
  ∀ config name buckets, (∃ strategy, ChunkStrategy.ofName name buckets = .ok strategy) →
    ∀ result, analyze config = .ok result → result.status = .quiesced →
      ∃ other, analyze (config.withChunks name buckets) = .ok other ∧ result.Agrees other

theorem sortFindings_perm (findings : List (Finding Statement String)) :
    (sortFindings findings).Perm findings := by
  unfold sortFindings sortByKey
  have sorted := (List.mergeSort_perm (findings.map fun item => (item.vertex.key, item))
    fun a b => !Text.textsBefore b.1 a.1).map Prod.snd
  refine sorted.trans (List.Perm.of_eq ?_)
  rw [List.map_map]
  exact List.map_id findings

namespace Program

variable [DecidableEq F] [Hashable F] [Inhabited F] [Shown F]

theorem analyze_withChunks (p : Program) (config : Config) (entries : List MethodName)
    (rules : Rules Statement F MethodName) (hook : rules.SubscribesAtStarts)
    (name : String) (buckets : Int)
    (known : ∃ strategy, ChunkStrategy.ofName name buckets = .ok strategy)
    (data : Solution Statement F)
    (analyzed : p.analyze config entries rules = .ok (.quiesced, data)) :
    ∃ other, p.analyze (config.withChunks name buckets) entries rules =
      .ok (.quiesced, other) ∧ data.SameContent other := by
  obtain ⟨strategy, first⟩ : ∃ strategy, config.strategy = .ok strategy := by
    cases found : config.strategy with
    | ok strategy => exact ⟨strategy, rfl⟩
    | error cause =>
        unfold analyze at analyzed
        rw [found] at analyzed
        cases analyzed
  obtain ⟨otherStrategy, second⟩ := known
  obtain ⟨history, found, reaches, sent, bound, reports, ends⟩ :=
    p.analyze_reaches config first entries rules
  obtain ⟨otherHistory, other, otherReaches, otherSent, _, otherReports, otherEnds⟩ :=
    p.analyze_reaches (config.withChunks name buckets) second entries rules
  rw [analyzed] at ends
  rcases ends with ⟨finished, same⟩ | ⟨_, _, impossible⟩
  · cases same
    have atStarts := Engine.Reaches.not_isAtEnd reaches
      (by
        rw [sent]
        intro message member
        obtain ⟨vertex, same⟩ := Engine.isLoop_of_mem_seeds (List.mem_reverse.mp member)
        subst same
        exact id)
      (Engine.not_isAtEnd_of_reply (p.follows_engine config strategy entries rules) hook)
    have seeds : otherHistory.sent.Perm history.sent := by
      rw [sent, otherSent]
      exact List.Perm.refl _
    have registry : (p.engine (config.withChunks name buckets) otherStrategy entries
        rules).registry = (p.engine config strategy entries rules).registry := rfl
    have bounded := (Engine.Reaches.handled_le_of_registry reaches finished registry
      otherReaches seeds atStarts).2
    rcases otherEnds with ⟨otherFinished, otherAnalyzed⟩ | ⟨more, full, _⟩
    · have handled := Engine.Reaches.handled_perm_of_registry reaches finished registry
        otherReaches otherFinished seeds atStarts
      have sets : {message | message ∈ otherHistory.handled} =
          {message | message ∈ history.handled} := Set.ext fun _ => handled.mem_iff
      rw [sets] at otherReports
      exact ⟨other, otherAnalyzed, reports.sameContent otherReports⟩
    · have length := bounded more
      omega
  · cases impossible

theorem ignoresChunks (p : Program) (entries : List MethodName)
    (rules : Config → Rules Statement F MethodName)
    (report : Solution Statement F → List (Finding Statement F))
    (constant : ∀ config name buckets,
      rules (Config.withChunks config name buckets) = rules config)
    (hook : ∀ config, (rules config).SubscribesAtStarts)
    (reported : ∀ left right, left.SameContent right → (report left).Perm (report right))
    {analyze : Config → Except AnalysisError (AnalysisResult F)}
    (runs : ∀ config, analyze config = (p.analyze config entries (rules config)).map
      fun ended => { status := ended.1, findings := report ended.2, data := ended.2 }) :
    IgnoresChunks analyze := by
  intro config name buckets known result analyzed quiesced
  rw [runs] at analyzed
  cases ended : p.analyze config entries (rules config) with
  | error cause =>
      rw [ended] at analyzed
      cases analyzed
  | ok pair =>
      obtain ⟨status, data⟩ := pair
      rw [ended] at analyzed
      cases analyzed
      change status = .quiesced at quiesced
      subst quiesced
      obtain ⟨other, otherEnded, same⟩ := p.analyze_withChunks config entries
        (rules config) (hook config) name buckets known data ended
      rw [← constant config name buckets] at otherEnded
      refine ⟨⟨.quiesced, report other, other⟩, ?_, rfl, reported data other same, same⟩
      rw [runs, otherEnded]
      rfl

end Program

/-! ### The report of dead stores -/

namespace DeadStore

private theorem isRead_congr (p : Program) {left right : Solution Statement Definition}
    (same : left.SameContent right) : isRead p left = isRead p right := by
  funext name site
  unfold isRead
  rw [Bool.eq_iff_iff, List.any_eq_true, List.any_eq_true]
  simp only [same.facts.mem_iff]

theorem deadStores_perm (p : Program) {left right : Solution Statement Definition}
    (same : left.SameContent right) : (deadStores p left).Perm (deadStores p right) := by
  have defined : (definitions left).Perm (definitions right) := by
    unfold definitions
    rw [List.perm_ext_iff_of_nodup (Text.nodup_distinct _) (Text.nodup_distinct _)]
    intro definition
    rw [Text.mem_distinct, Text.mem_distinct]
    exact (same.facts.filterMap _).mem_iff
  unfold deadStores
  rw [isRead_congr p same]
  refine List.Perm.map _ ?_
  unfold Text.sortBy
  exact ((List.mergeSort_perm _ _).trans (defined.filter _)).trans
    (List.mergeSort_perm _ _).symm

end DeadStore

private theorem sortFindings_congr {left right : Solution Statement String}
    (same : left.SameContent right) :
    (sortFindings left.findings).Perm (sortFindings right.findings) :=
  ((sortFindings_perm _).trans same.findings).trans (sortFindings_perm _).symm

theorem Taint.ignoresChunks_analyze (p : Program) (entries : List MethodName) :
    IgnoresChunks fun config => Taint.analyze p config entries := by
  have constant : ∀ config name buckets,
      Taint.rules p (Config.withChunks config name buckets) = Taint.rules p config :=
    fun _ _ _ => rfl
  refine p.ignoresChunks entries (Taint.rules p) (fun data => sortFindings data.findings)
    constant (fun config => (Taint.onlyFindings p config).subscribesAtStarts)
    (fun left right same => sortFindings_congr same) ?_
  intro config
  unfold Taint.analyze
  cases p.analyze config entries (Taint.rules p config) <;> rfl

theorem Nullness.ignoresChunks_analyze (p : Program) (entries : List MethodName) :
    IgnoresChunks fun config => Nullness.analyze p config entries := by
  refine p.ignoresChunks entries (fun _ => Nullness.rules p)
    (fun data => sortFindings data.findings) (fun _ _ _ => rfl)
    (fun _ => (Nullness.onlyFindings p).subscribesAtStarts)
    (fun _ _ => sortFindings_congr) ?_
  intro config
  unfold Nullness.analyze
  cases p.analyze config entries (Nullness.rules p) <;> rfl

theorem DeadStore.ignoresChunks_analyze (p : Program) (entries : List MethodName) :
    IgnoresChunks fun config => DeadStore.analyze p config entries := by
  refine p.ignoresChunks entries (fun _ => DeadStore.rules p) (DeadStore.deadStores p)
    (fun _ _ _ => rfl) (fun _ => (DeadStore.onlyFindings p).subscribesAtStarts)
    (fun _ _ => DeadStore.deadStores_perm p) ?_
  intro config
  unfold DeadStore.analyze
  cases p.analyze config entries (DeadStore.rules p) <;> rfl

/-- Under any two chunk strategies and in any two orders of messages, finished runs of
the same rules collect the same data.  So the results of the analyses of a program do
not depend on the options for chunks. -/
theorem data_independent_of_chunks :
    (∀ (S F M : Type) [DecidableEq S] [DecidableEq F] [DecidableEq M] [Inhabited S]
      [Inhabited F] [Hashable S] [Hashable F] [Shown S] [Shown F] [Shown M]
      (engine : Engine S F M) (rules : Rules S F M) (dispatch : Dispatch S M)
      (strategy : S → String) (log otherLog : Log) (first second : History S F M),
      engine.Follows rules dispatch → rules.SubscribesAtStarts →
      engine.Reaches log first →
      ({ engine with strategy } : Engine S F M).Reaches otherLog second →
      (∀ message ∈ first.sent, ¬message.IsAtEnd) → second.sent.Perm first.sent →
      first.pending = [] → second.pending = [] →
      ∃ data other, Engine.collect first.state rules.runner = .ok data ∧
        Engine.collect second.state rules.runner = .ok other ∧ data.SameContent other) ∧
    ∀ (p : Program) (entries : List MethodName),
      IgnoresChunks (fun config => Taint.analyze p config entries) ∧
      IgnoresChunks (fun config => Nullness.analyze p config entries) ∧
      IgnoresChunks (fun config => DeadStore.analyze p config entries) := by
  refine ⟨?_, fun p entries => ⟨Taint.ignoresChunks_analyze p entries,
    Nullness.ignoresChunks_analyze p entries, DeadStore.ignoresChunks_analyze p entries⟩⟩
  intro S F M _ _ _ _ _ _ _ _ _ _ engine rules dispatch strategy log otherLog first second
    follows hook reaches otherReaches sent same finished otherFinished
  have atStarts := Engine.Reaches.not_isAtEnd reaches sent
    (Engine.not_isAtEnd_of_reply follows hook)
  have registry : ({ engine with strategy } : Engine S F M).registry = engine.registry := rfl
  have handled := Engine.Reaches.handled_perm_of_registry reaches finished registry
    otherReaches otherFinished same atStarts
  have sets : {message | message ∈ second.handled} = {message | message ∈ first.handled} :=
    Set.ext fun _ => handled.mem_iff
  obtain ⟨data, collected, reports⟩ := (Engine.Reaches.accounts reaches).collect rules.runner
  obtain ⟨other, otherCollected, otherReports⟩ :=
    (Engine.Reaches.accounts otherReaches).collect rules.runner
  rw [sets] at otherReports
  exact ⟨data, other, collected, otherCollected, reports.sameContent otherReports⟩

namespace Sample

def main : MethodName := ⟨"Main", "main"⟩

/-- A method that calls something on a receiver that is null. -/
def program : Program where
  name := "sample"
  classes := [{
    name := "Main"
    super := ""
    interfaces := []
    methods := [{
      id := main
      params := []
      isStatic := true
      isAbstract := false
      body := [.const "x" "null", .call ⟨"", "Main", "use", [], true, "x", "Main"⟩, .ret ""] }] }]

private theorem quiesces :
    ∃ result, Nullness.analyze program {} [main] = .ok result ∧ result.status = .quiesced := by
  have status : (Nullness.analyze program {} [main]).map (·.status) = .ok .quiesced := by
    decide +kernel
  cases analyzed : Nullness.analyze program {} [main] with
  | error cause =>
      rw [analyzed] at status
      cases status
  | ok result =>
      rw [analyzed] at status
      exact ⟨result, rfl, Except.ok.inj status⟩

end Sample

theorem data_independent_of_chunks_sample :
    (∃ first second data other,
      (Sample.engine Sample.graph.methodOf).Reaches Sample.log first ∧
      (Sample.engine fun _ => "all").Reaches Sample.log second ∧
      Engine.collect first.state "sample" = .ok data ∧
      Engine.collect second.state "sample" = .ok other ∧ data.SameContent other) ∧
    ∃ result other, Nullness.analyze Sample.program {} [Sample.main] = .ok result ∧
      Nullness.analyze Sample.program (Config.withChunks {} "hashed" 3) [Sample.main] =
        .ok other ∧ result.Agrees other := by
  constructor
  · obtain ⟨first, reaches, finished, sent⟩ := Sample.finishes_by_method
    obtain ⟨second, otherReaches, otherFinished, otherSent⟩ := Sample.finishes_together
    have atStarts : ∀ message ∈ first.sent, ¬message.IsAtEnd := by
      rw [sent]
      intro message member
      rw [List.mem_singleton.mp member]
      exact id
    obtain ⟨data, other, collected, otherCollected, same⟩ :=
      data_independent_of_chunks.1 String String String
        (Sample.engine Sample.graph.methodOf) Sample.rules Sample.dispatch (fun _ => "all")
        Sample.log Sample.log first second (Sample.follows _)
        Sample.onlyFindings.subscribesAtStarts reaches otherReaches atStarts
        (by rw [sent, otherSent]) finished otherFinished
    exact ⟨first, second, data, other, reaches, otherReaches, collected, otherCollected, same⟩
  · obtain ⟨result, analyzed, quiesced⟩ := Sample.quiesces
    obtain ⟨other, otherAnalyzed, agrees⟩ :=
      (data_independent_of_chunks.2 Sample.program [Sample.main]).2.1 {} "hashed" 3
        ⟨_, rfl⟩ result analyzed quiesced
    exact ⟨result, other, analyzed, otherAnalyzed, agrees⟩

end Tabulation
