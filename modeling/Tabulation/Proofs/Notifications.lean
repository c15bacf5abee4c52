/-
All answers of a store, counted.

A store that handles a sequence of messages announces every edge once and brings every summary
together with every subscription at one of its ends once, in whatever order they come and however
often they are repeated.  It sends nothing else.
-/

import Tabulation.Proofs.StoreHistory

namespace Tabulation.Store

variable {S F M : Type} [DecidableEq S] [DecidableEq F] [Shown S] [Shown F] [Shown M]

theorem serve_cons (store : Store S F) (message : Message S F M) (rest : List (Message S F M)) :
    store.serve (message :: rest) = (((store.react message).1.serve rest).1,
      (store.react message).2 ++ ((store.react message).1.serve rest).2) := by
  unfold serve react
  rw [serveAll]
  cases store.handle message <;> rfl

@[simp] theorem serve_runner (store : Store S F) (messages : List (Message S F M)) :
    (store.serve messages).1.runner = store.runner := by
  induction messages generalizing store with
  | nil => rfl
  | cons message rest inductionHypothesis =>
      rw [serve_cons, inductionHypothesis, react_runner]

omit [DecidableEq S] [DecidableEq F] [Shown S] [Shown F] [Shown M] in
/-- What a store has given an answer for, it calls for ever after. -/
theorem IsPartOf.entails {early late : Store S F} (part : early.IsPartOf late)
    {answer : Message S F M} (entails : early.Entails answer) : late.Entails answer := by
  cases answer with
  | edgeAdded runner edge =>
      obtain ⟨own, reason, member⟩ := entails
      exact ⟨own.trans part.runner.symm, reason, part.reasons.subset member⟩
  | startNotice subscriber author summary edge =>
      obtain ⟨own, wish, member⟩ := entails
      exact ⟨own.trans part.runner.symm, part.onStart.subset wish, part.summaries.subset member⟩
  | endNotice subscriber author summary edge =>
      obtain ⟨own, wish, member⟩ := entails
      exact ⟨own.trans part.runner.symm, part.onEnd.subset wish, part.summaries.subset member⟩
  | _ => exact absurd entails id

theorem isPartOf_serve (store : Store S F) (messages : List (Message S F M)) :
    store.IsPartOf (store.serve messages).1 := by
  induction messages generalizing store with
  | nil => exact .refl store
  | cons message rest inductionHypothesis =>
      rw [serve_cons]
      exact (store.isPartOf_react message).trans (inductionHypothesis _)

/-- The answers to a sequence are those that it makes due. -/
theorem mem_serve_answers (store : Store S F) (messages : List (Message S F M))
    (answer : Message S F M) :
    answer ∈ (store.serve messages).2 ↔
      (store.serve messages).1.Entails answer ∧ ¬store.Entails answer := by
  induction messages generalizing store with
  | nil =>
      constructor
      · intro member
        cases member
      · rintro ⟨due, new⟩
        exact absurd due new
  | cons message rest inductionHypothesis =>
      rw [serve_cons, List.mem_append, mem_react_answers, inductionHypothesis]
      have grows := store.isPartOf_react message
      have goesOn := (store.react message).1.isPartOf_serve rest
      constructor
      · rintro (⟨due, new⟩ | ⟨due, new⟩)
        · exact ⟨goesOn.entails due, new⟩
        · exact ⟨due, fun old => new (grows.entails old)⟩
      · rintro ⟨due, new⟩
        by_cases now : (store.react message).1.Entails answer
        · exact Or.inl ⟨now, new⟩
        · exact Or.inr ⟨due, now⟩

theorem Records.serve {store : Store S F} {handled : Set (Message S F M)}
    (records : store.Records handled) (messages : List (Message S F M)) :
    (store.serve messages).1.Records ({message | message ∈ messages} ∪ handled) := by
  induction messages generalizing store handled with
  | nil =>
      change store.Records _
      simpa using records
  | cons message rest inductionHypothesis =>
      have all : {other | other ∈ message :: rest} ∪ handled =
          {other | other ∈ rest} ∪ insert message handled := by
        ext other
        simp [or_assoc]
      rw [serve_cons, all]
      exact inductionHypothesis (records.react message)

theorem Records.nodup_serve_answers {store : Store S F} {handled : Set (Message S F M)}
    (records : store.Records handled) (messages : List (Message S F M)) :
    (store.serve messages).2.Nodup := by
  induction messages generalizing store handled with
  | nil => exact List.nodup_nil
  | cons message rest inductionHypothesis =>
      rw [serve_cons, List.nodup_append]
      refine ⟨records.nodup_react_answers message,
        inductionHypothesis (records.react message), ?_⟩
      rintro answer given _ later rfl
      have due := ((store.mem_react_answers message answer).mp given).1
      exact ((mem_serve_answers _ rest answer).mp later).2 due

/-- A fresh store that handled a sequence of messages. -/
theorem records_serve (runner : String) (messages : List (Message S F M)) :
    (({ runner } : Store S F).serve messages).1.Records {message | message ∈ messages} := by
  have records := (records_empty (S := S) (F := F) (M := M) runner).serve messages
  rwa [Set.union_empty] at records

variable [DecidableEq M]

/-- An item is given exactly once if something holds, and never otherwise. -/
def GivenOnceIff (items : List (Message S F M)) (item : Message S F M) (due : Prop) : Prop :=
  (due → items.count item = 1) ∧ (¬due → items.count item = 0)

omit [Shown S] [Shown F] [Shown M] in
private theorem givenOnceIff_of_nodup {items : List (Message S F M)} (nodup : items.Nodup)
    {item : Message S F M} {due : Prop} (member : item ∈ items ↔ due) :
    GivenOnceIff items item due :=
  ⟨fun holds => List.count_eq_one_of_mem nodup (member.mpr holds),
    fun fails => List.count_eq_zero.mpr fun given => fails (member.mp given)⟩

/-- Over any sequence of messages to a fresh store: an edge is announced once if the store was asked
to record it; a summary is told once to whoever subscribed at its start, and once to whoever
subscribed at its end, with the edge of the subscription; and the store sends nothing else. -/
theorem answers_given_once (runner : String) (messages : List (Message S F M)) :
    let answers := (({ runner } : Store S F).serve messages).2
    (∀ owner edge, GivenOnceIff answers (.edgeAdded owner edge)
      (owner = runner ∧ ∃ sender reason, .newEdge sender edge reason ∈ messages)) ∧
    (∀ subscriber author summary edge,
      GivenOnceIff answers (.startNotice subscriber author summary edge)
        (author = runner ∧ ∃ vertex, summary.source = vertex ∧
          (∃ sender, .subscribeStart sender vertex subscriber edge ∈ messages) ∧
          ∃ sender, .newSummary sender summary ∈ messages)) ∧
    (∀ subscriber author summary edge,
      GivenOnceIff answers (.endNotice subscriber author summary edge)
        (author = runner ∧ ∃ vertex, summary.target = vertex ∧
          (∃ sender, .subscribeEnd sender vertex subscriber edge ∈ messages) ∧
          ∃ sender, .newSummary sender summary ∈ messages)) ∧
    ∀ answer ∈ answers, (∃ owner edge, answer = .edgeAdded owner edge) ∨
      (∃ subscriber author summary edge, answer = .startNotice subscriber author summary edge) ∨
      ∃ subscriber author summary edge, answer = .endNotice subscriber author summary edge := by
  have nodup := (records_empty (S := S) (F := F) (M := M) runner).nodup_serve_answers messages
  have records := records_serve (S := S) (F := F) runner messages
  have owner := serve_runner ({ runner } : Store S F) messages
  -- a fresh store calls for nothing
  have given (answer : Message S F M) :
      answer ∈ (({ runner } : Store S F).serve messages).2 ↔
        (({ runner } : Store S F).serve messages).1.Entails answer := by
    rw [mem_serve_answers, and_iff_left]
    cases answer <;> simp [Entails]
  refine ⟨?_, ?_, ?_, ?_⟩
  · intro author edge
    refine givenOnceIff_of_nodup nodup ?_
    rw [given]
    simp only [Entails, records.reasons, owner, Set.mem_ofPred_eq]
    exact and_congr_right fun _ => exists_comm
  · intro subscriber author summary edge
    refine givenOnceIff_of_nodup nodup ?_
    rw [given]
    simp only [Entails, records.onStart, records.summaries, owner, Set.mem_ofPred_eq,
      exists_eq_left']
  · intro subscriber author summary edge
    refine givenOnceIff_of_nodup nodup ?_
    rw [given]
    simp only [Entails, records.onEnd, records.summaries, owner, Set.mem_ofPred_eq,
      exists_eq_left']
  · intro answer member
    have entails := (given answer).mp member
    cases answer with
    | edgeAdded author edge => exact .inl ⟨author, edge, rfl⟩
    | startNotice subscriber author summary edge =>
        exact .inr (.inl ⟨subscriber, author, summary, edge, rfl⟩)
    | endNotice subscriber author summary edge =>
        exact .inr (.inr ⟨subscriber, author, summary, edge, rfl⟩)
    | _ => exact absurd entails id

end Tabulation.Store
