/-
Runners do not disturb each other.

All runners share the chunks, the managers and the way to resolve calls.  Still, where nobody else
writes to a runner or subscribes in its name, only messages of the runner call for messages of the
runner.  So two engines that treat the runner alike handle the same messages of it, whatever the
other runners do, and collect the same data for it.
-/

import Tabulation.Proofs.Confluence
import Tabulation.Proofs.Interruptions

namespace Tabulation

variable {S F M : Type}

/-! ### Who has to do with a runner -/

/-- The runner in whose name a message subscribes. -/
def Message.subscriber? : Message S F M → Option String
  | .subscribeStart _ _ subscriber _ | .subscribeEnd _ _ subscriber _ => some subscriber
  | _ => none

/-- A message is addressed to a runner, or subscribes in its name. -/
def Message.Concerns (message : Message S F M) (runner : String) : Prop :=
  message.runner = runner ∨ message.subscriber? = some runner

/-- Whoever asks for callees is answered, and nobody else is. -/
def Indirection.AnswersAsker (indirection : Indirection S F M) : Prop :=
  ∀ asker edge answers, indirection.resolve asker edge = .ok answers →
    ∀ answer ∈ answers, ∀ runner, answer.Concerns runner → runner = asker

theorem Dispatch.indirection_answersAsker [DecidableEq M] (dispatch : Dispatch S M) :
    (dispatch.indirection : Indirection S F M).AnswersAsker := by
  intro asker edge answers resolved answer member runner concerns
  cases resolved
  obtain ⟨callee, _, rfl⟩ := List.mem_map.mp member
  rcases concerns with addressed | subscribes
  · exact addressed.symm
  · cases subscribes

/-- An analyzer that follows rules writes to its own runner, and subscribes in the name of its own
runner, except in what its hooks send. -/
theorem Rules.concerns_of_mem_step [DecidableEq S] [DecidableEq F] [Inhabited S] [Inhabited F]
    [Shown S] [Shown F] [Shown M] (rules : Rules S F M) {message answer : Message S F M}
    {runner : String} (sent : answer ∈ (rules.step message).messages)
    (concerns : answer.Concerns runner) :
    runner = rules.runner ∧ answer.runner = rules.runner ∨
      (∃ edge, answer ∈ rules.onNewEdge edge) ∨
      ∃ summary edge, answer ∈ rules.onEnd summary edge := by
  have own (addressed : answer.runner = rules.runner)
      (named : answer.subscriber? = none ∨ answer.subscriber? = some rules.runner) :
      runner = rules.runner ∧ answer.runner = rules.runner := by
    refine ⟨?_, addressed⟩
    rcases concerns with same | subscribes
    · exact same.symm.trans addressed
    · rcases named with nobody | itself
      · cases nobody.symm.trans subscribes
      · exact Option.some.inj (subscribes.symm.trans itself)
  cases message with
  | edgeAdded _ edge =>
      rcases (rules.mem_edgeStep edge answer).mp sent with ⟨_, rfl⟩ | hooked | ⟨_, _, rfl⟩ |
        ⟨_, _, rfl⟩ | ⟨_, _, rfl⟩
      · exact .inl (own rfl (.inl rfl))
      · exact .inr (.inl ⟨edge, hooked⟩)
      · exact .inl (own rfl (.inl rfl))
      · exact .inl (own rfl (.inl rfl))
      · exact .inl (own rfl (.inl rfl))
  | resolvedCall _ edge callee =>
      obtain ⟨_, _, rfl | rfl⟩ := (rules.mem_calleeStep edge callee answer).mp sent
      · exact .inl (own rfl (.inr rfl))
      · exact .inl (own rfl (.inl rfl))
  | startNotice _ _ summary edge =>
      obtain ⟨_, _, rfl⟩ := (rules.mem_returnStep edge summary answer).mp sent
      exact .inl (own rfl (.inl rfl))
  | endNotice _ _ summary edge => exact .inr (.inr ⟨summary, edge, sent⟩)
  | _ => cases sent

namespace Engine

/-- Two engines treat a runner alike.  Of the other runners nothing is said. -/
structure AgreesOn (engine other : Engine S F M) (runner : String) : Prop where
  strategy : other.strategy = engine.strategy
  analyzer : other.registry.analyzer runner = engine.registry.analyzer runner
  resolver : other.registry.resolverOf runner = engine.registry.resolverOf runner

theorem AgreesOn.symm {engine other : Engine S F M} {runner : String}
    (agrees : engine.AgreesOn other runner) : other.AgreesOn engine runner :=
  ⟨agrees.strategy.symm, agrees.analyzer.symm, agrees.resolver.symm⟩

/-- In all that some messages call for, nobody else writes to a runner or subscribes in its name,
and the runner itself sends its own subscriptions to itself. Questions for callees are answered to
whoever asks, as by any dispatch. -/
structure Isolates (engine : Engine S F M) (runner : String) (sent : List (Message S F M)) :
    Prop where
  seeds : ∀ message ∈ sent, message.Concerns runner → message.runner = runner
  others : ∀ message ∈ engine.calledBy sent, message.runner ≠ runner →
    ∀ analyzer, engine.registry.analyzer message.runner = .ok analyzer →
      ∀ answer ∈ (analyzer.step message).messages, ¬answer.Concerns runner
  own : ∀ message ∈ engine.calledBy sent, message.runner = runner →
    ∀ analyzer, engine.registry.analyzer message.runner = .ok analyzer →
      ∀ answer ∈ (analyzer.step message).messages,
        answer.subscriber? = some runner → answer.runner = runner
  resolver : ∀ indirection, engine.registry.resolver = some indirection → indirection.AnswersAsker

/-! ### Where messages come from -/

section Origin

variable {engine other : Engine S F M} {runner : String}

private theorem mem_reply {barrierOpen : Bool} {message answer : Message S F M}
    (replied : answer ∈ engine.reply barrierOpen message) :
    (∃ analyzer, engine.registry.analyzer message.runner = .ok analyzer ∧
      answer ∈ (analyzer.step message).messages) ∨
    ∃ asker edge indirection answers, message = .unresolvedCall asker edge ∧
      engine.registry.resolver = some indirection ∧
      indirection.resolve asker edge = .ok answers ∧ answer ∈ answers := by
  cases message with
  | edgeAdded | resolvedCall | startNotice | endNotice =>
      left
      unfold reply at replied
      simp only at replied
      split at replied
      · cases replied
      · rename_i analyzer found
        split at replied
        · cases replied
        · exact ⟨analyzer, found, replied⟩
  | unresolvedCall asker edge =>
      right
      unfold reply Registry.resolverOf at replied
      simp only at replied
      split at replied
      · rename_i indirection found
        split at found
        · cases found
        · split at replied
          · rename_i answers resolved
            exact ⟨asker, edge, indirection, answers, rfl, Except.ok.inj found, resolved, replied⟩
          · cases replied
      · cases replied
  | _ => cases replied

private theorem AgreesOn.reply_eq (agrees : engine.AgreesOn other runner) (barrierOpen : Bool)
    {message : Message S F M} (own : message.runner = runner) :
    other.reply barrierOpen message = engine.reply barrierOpen message := by
  subst own
  have analyzer := agrees.analyzer
  have resolver := agrees.resolver
  cases message with
  | edgeAdded | resolvedCall | startNotice | endNotice => simp only [reply, analyzer]
  | unresolvedCall asker edge =>
      simp only [Message.runner] at resolver
      simp only [reply, resolver]
  | _ => rfl

variable {sent otherSent : List (Message S F M)}

/-- A reply has to do with a runner only if it answers the runner. -/
private theorem Isolates.of_reply (isolates : engine.Isolates runner sent)
    {message answer : Message S F M} (called : message ∈ engine.calledBy sent)
    (replied : answer ∈ engine.reply false message) (concerns : answer.Concerns runner) :
    message.runner = runner ∧ answer.runner = runner := by
  rcases mem_reply replied with ⟨analyzer, found, member⟩ |
    ⟨asker, edge, indirection, answers, rfl, shared, resolved, member⟩
  · by_cases own : message.runner = runner
    · refine ⟨own, ?_⟩
      rcases concerns with addressed | subscribes
      · exact addressed
      · exact isolates.own message called own analyzer found answer member subscribes
    · exact absurd concerns (isolates.others message called own analyzer found answer member)
  · have answers := isolates.resolver indirection shared asker edge answers resolved answer member
    have asked := answers runner concerns
    exact ⟨asked.symm, (answers answer.runner (.inl rfl)).trans asked.symm⟩

/-- What an engine is called for a runner, another one that treats the runner alike is called for
too. -/
private theorem Isolates.called (isolates : engine.Isolates runner sent)
    (agrees : engine.AgreesOn other runner)
    (seeds : ∀ message ∈ sent, message.runner = runner → message ∈ otherSent)
    {message : Message S F M} (called : message ∈ engine.calledBy sent)
    (concerns : message.Concerns runner) :
    message.runner = runner ∧ message ∈ other.calledBy otherSent := by
  have due {answer : Message S F M} (due : Due other.strategy (other.calledBy otherSent) answer) :
      answer ∈ other.calledBy otherSent := .due (fun _ known => known) due
  induction called with
  | @sent message member =>
      have own := isolates.seeds message member concerns
      exact ⟨own, .sent (seeds message member own)⟩
  | @due known answer _ calls inductionHypothesis =>
      cases answer with
      | edgeAdded owner edge =>
          obtain ⟨reason, member⟩ := calls
          have own : owner = runner := concerns.resolve_right nofun
          exact ⟨own, due ⟨reason, (inductionHypothesis _ member (.inl own)).2⟩⟩
      | startNotice subscriber author summary edge =>
          obtain ⟨subscribed, summarized⟩ := calls
          have named : subscriber = runner := concerns.resolve_right nofun
          -- the subscription is in the name of the runner, so its store is the runner's own
          obtain ⟨own, subscribed⟩ :=
            inductionHypothesis _ subscribed (.inr (congrArg some named))
          exact ⟨named, due ⟨subscribed, (inductionHypothesis _ summarized (.inl own)).2⟩⟩
      | endNotice subscriber author summary edge =>
          obtain ⟨subscribed, summarized, together⟩ := calls
          have named : subscriber = runner := concerns.resolve_right nofun
          obtain ⟨own, subscribed⟩ :=
            inductionHypothesis _ subscribed (.inr (congrArg some named))
          refine ⟨named, due ⟨subscribed, (inductionHypothesis _ summarized (.inl own)).2, ?_⟩⟩
          rw [agrees.strategy]
          exact together
      | _ => exact absurd calls id
  | @replied message answer called replied inductionHypothesis =>
      obtain ⟨asked, own⟩ := isolates.of_reply called replied concerns
      refine ⟨own, .replied (inductionHypothesis (.inl asked)).2 ?_⟩
      rw [agrees.reply_eq false asked]
      exact replied

end Origin

end Engine

/-! ### The data of a runner -/

theorem Solution.Reports.congr {data : Solution S F} {runner : String}
    {handled others : Set (Message S F M)} (reports : data.Reports runner handled)
    (same : ∀ message, message.runner = runner → (message ∈ handled ↔ message ∈ others)) :
    data.Reports runner others where
  edges := fun edge =>
    (reports.edges edge).trans (exists_congr fun _ => same _ rfl)
  reasons := fun edge reason => (reports.reasons edge reason).trans (same _ rfl)
  facts := fun vertex => (reports.facts vertex).trans
    (exists_congr fun _ => exists_congr fun _ => and_congr_right fun _ => same _ rfl)
  summaries := fun edge => (reports.summaries edge).trans (same _ rfl)
  findings := fun finding => (reports.findings finding).trans (same _ rfl)
  edgesNodup := reports.edgesNodup
  reasonsNodup := reports.reasonsNodup
  factsNodup := reports.factsNodup
  summariesNodup := reports.summariesNodup
  findingsNodup := reports.findingsNodup

private theorem ownedIn_congr {strategy : S → String} {handled others : Set (Message S F M)}
    {runner : String} (same : ∀ message, message.runner = runner →
      (message ∈ handled ↔ message ∈ others)) (chunk : String) :
    ownedIn strategy handled chunk runner = ownedIn strategy others chunk runner := by
  ext message
  refine and_congr_left fun owned => same message ?_
  exact ((message.isOwnedBy_iff strategy chunk runner).mp owned).2

variable [DecidableEq S] [DecidableEq F] [Shown S] [Shown F] [Shown M] [Hashable S] [Hashable F]

/-- Two engines that treat a runner alike may have any other runners, with any analyzers and any
messages from outside for them.  As long as nobody else writes to the runner or subscribes in its
name, and the runner gets the same messages from outside, any two finished runs collect the same data
for it, and its stores have the same content in every chunk. -/
theorem Engine.runner_isolated (engine other : Engine S F M) (runner : String)
    (agrees : engine.AgreesOn other runner) (log otherLog : Log) (first second : History S F M)
    (reaches : engine.Reaches log first) (otherReaches : other.Reaches otherLog second)
    (finished : first.pending = []) (otherFinished : second.pending = [])
    (isolates : engine.Isolates runner first.sent)
    (otherIsolates : other.Isolates runner second.sent)
    (seeds : ∀ message, message.runner = runner →
      (message ∈ first.sent ↔ message ∈ second.sent)) :
    (∃ data otherData, Engine.collect first.state runner = .ok data ∧
      Engine.collect second.state runner = .ok otherData ∧ data.SameContent otherData) ∧
    ∀ chunk, (first.state.storeOf chunk runner).SameContent
      (second.state.storeOf chunk runner) := by
  have accounts := Reaches.accounts reaches
  have otherAccounts := Reaches.accounts otherReaches
  have same (message : Message S F M) (own : message.runner = runner) :
      message ∈ first.handled ↔ message ∈ second.handled := by
    rw [Reaches.mem_handled_iff_called reaches finished,
      Reaches.mem_handled_iff_called otherReaches otherFinished]
    constructor
    · intro called
      exact (isolates.called agrees (fun message member own => (seeds message own).mp member)
        called (.inl own)).2
    · intro called
      exact (otherIsolates.called agrees.symm
        (fun message member own => (seeds message own).mpr member) called (.inl own)).2
  constructor
  · obtain ⟨data, collected, reports⟩ := accounts.collect runner
    obtain ⟨otherData, otherCollected, otherReports⟩ := otherAccounts.collect runner
    exact ⟨data, otherData, collected, otherCollected,
      (reports.congr same).sameContent otherReports⟩
  · intro chunk
    have records := accounts.records chunk runner
    have sets : ownedIn engine.strategy {message | message ∈ first.handled} chunk runner =
        ownedIn other.strategy {message | message ∈ second.handled} chunk runner := by
      rw [agrees.strategy]
      exact ownedIn_congr same chunk
    rw [sets] at records
    exact records.sameContent (otherAccounts.records chunk runner)
      ((accounts.owner chunk runner).trans (otherAccounts.owner chunk runner).symm)

/-! ### A guest beside the runner -/

namespace Sample

/-- The small analysis, which hands what comes back over to a guest. -/
def generous : Rules String String String :=
  { rules with
    onNewEdge := fun edge =>
      if edge.target.statement = "return" then
        rules.onNewEdge edge ++
          [.handOver "guest" "sample" (.loop ⟨"call", edge.target.fact⟩)]
      else [] }

/-- An analysis that starts from what it is given. -/
def guest : Rules String String String :=
  { rules with
    runner := "guest"
    onNewEdge := fun edge => [.newFinding "guest" ⟨edge.target, "seen", "a fact came by"⟩] }

/-- An engine with more analyzers besides the one of the sample. -/
def engineWith (guests : List (String × Analyzer String String String)) :
    Engine String String String :=
  { engine graph.methodOf with
    registry := {
      analyzers := ("sample", generous.analyzer) :: guests
      resolver := some dispatch.indirection } }

def request : Message String String String := .newEdge "guest" (.loop ⟨"body", "other"⟩) .initial

private def loaded (seeds : List (Message String String String)) :
    EngineState String String String :=
  { Engine.initial log with pending := seeds.map (Place.project, ·) }

private theorem finishes_with (guests : List (String × Analyzer String String String))
    (seeds : List (Message String String String))
    (empty : ((engineWith guests).run 100 (loaded seeds)).pending = []) :
    ∃ history, (engineWith guests).Reaches log history ∧ history.pending = [] ∧
      history.sent = seeds.reverse := by
  have sent : (engineWith guests).Reaches log ⟨seeds.reverse ++ [], [], loaded seeds⟩ :=
    Engine.Reaches.sendAll Relation.ReflTransGen.refl seeds
  obtain ⟨handled, reaches, _⟩ := sent.run 100
  refine ⟨_, reaches, ?_, List.append_nil _⟩
  unfold History.pending
  rw [empty, List.map_nil]

private theorem isolates {guests : List (String × Analyzer String String String)}
    (known : ∀ name analyzer, guests.lookup name = some analyzer → analyzer = guest.analyzer)
    (seeds : List (Message String String String))
    (edges : ∀ message ∈ seeds, message.subscriber? = none) :
    (engineWith guests).Isolates "sample" seeds where
  seeds := fun message member concerns => by
    rcases concerns with addressed | subscribes
    · exact addressed
    · cases (edges message member).symm.trans subscribes
  others := fun message _ foreign analyzer found answer sent concerns => by
    have other : (message.runner == "sample") = false := beq_false_of_ne foreign
    unfold Registry.analyzer engineWith at found
    simp only [List.lookup_cons, other] at found
    split at found
    · rename_i visitor looked
      cases found
      obtain rfl := known _ _ looked
      rcases guest.concerns_of_mem_step sent concerns with ⟨same, _⟩ | ⟨edge, hooked⟩ |
        ⟨summary, edge, hooked⟩
      · exact absurd same (by decide)
      · obtain rfl := List.mem_singleton.mp hooked
        rcases concerns with addressed | subscribes
        · have named : "guest" = "sample" := addressed
          exact absurd named (by decide)
        · cases subscribes
      · cases hooked
    · cases found
  own := fun message _ own analyzer found answer sent subscribes => by
    rw [own] at found
    cases found
    rcases generous.concerns_of_mem_step sent (.inr subscribes) with ⟨_, addressed⟩ |
      ⟨edge, hooked⟩ | ⟨summary, edge, hooked⟩
    · exact addressed
    · -- the hook sends a finding and an edge, and no subscription
      by_cases back : edge.target.statement = "return"
      · have sends : generous.onNewEdge edge =
            [.newFinding "sample" ⟨edge.target, "reach", "the fact comes back"⟩,
              .handOver "guest" "sample" (.loop ⟨"call", edge.target.fact⟩)] := by
          simp only [generous, rules, if_pos back, List.cons_append, List.nil_append]
        rw [sends] at hooked
        rcases List.mem_cons.mp hooked with rfl | hooked
        · cases subscribes
        · obtain rfl := List.mem_singleton.mp hooked
          cases subscribes
      · have sends : generous.onNewEdge edge = [] := if_neg back
        rw [sends] at hooked
        cases hooked
    · cases hooked
  resolver := fun indirection shared => by
    cases shared
    exact dispatch.indirection_answersAsker

end Sample

/-- With a guest that has an analyzer and gets edges from outside and from the sample, and without
it, the data of the sample is the same. -/
theorem Engine.runner_isolated_sample : ∃ alone visited data otherData,
    (Sample.engineWith []).Reaches Sample.log alone ∧
    (Sample.engineWith [("guest", Sample.guest.analyzer)]).Reaches Sample.log visited ∧
    alone.sent = [Sample.seed] ∧ visited.sent = [Sample.request, Sample.seed] ∧
    Engine.collect alone.state "sample" = .ok data ∧
    Engine.collect visited.state "sample" = .ok otherData ∧ data.SameContent otherData := by
  obtain ⟨alone, reaches, finished, sent⟩ :=
    Sample.finishes_with [] [Sample.seed] (by decide)
  obtain ⟨visited, otherReaches, otherFinished, otherSent⟩ :=
    Sample.finishes_with [("guest", Sample.guest.analyzer)] [Sample.seed, Sample.request]
      (by decide)
  have known (name : String) (analyzer : Analyzer String String String)
      (found : [("guest", Sample.guest.analyzer)].lookup name = some analyzer) :
      analyzer = Sample.guest.analyzer := by
    rw [List.lookup_cons] at found
    split at found
    · exact (Option.some.inj found).symm
    · cases found
  have seeds (message : Message String String String) (own : message.runner = "sample") :
      message ∈ alone.sent ↔ message ∈ visited.sent := by
    have foreign : message ≠ Sample.request := by
      rintro rfl
      exact absurd own (by decide)
    simp [sent, otherSent, foreign]
  obtain ⟨⟨data, otherData, collected, otherCollected, same⟩, _⟩ :=
    Engine.runner_isolated (Sample.engineWith [])
      (Sample.engineWith [("guest", Sample.guest.analyzer)]) "sample" ⟨rfl, rfl, rfl⟩
      Sample.log Sample.log alone visited reaches otherReaches finished otherFinished
      (Sample.isolates (fun _ _ found => by cases found) _ (by rw [sent]; decide))
      (Sample.isolates known _ (by rw [otherSent]; decide)) seeds
  exact ⟨alone, visited, data, otherData, reaches, otherReaches, sent, otherSent, collected,
    otherCollected, same⟩

end Tabulation
