/-
What a call is resolved to, when overrides are remembered.

Whatever was asked before, the remembered overrides are those that a new look at the types would
give.  So an answer does not depend on the questions before it: it names each callee once, and which
methods are callees is said by the call, the types and the methods that are left out.  In a loaded
program the overrides are the methods of a name and a number of parameters that the classes below
declare.
-/

import Tabulation.Proofs.Ancestry
import Tabulation.Proofs.Declarations
import Tabulation.Proofs.DynamicDispatch
import Tabulation.Solver.Recall

namespace Tabulation

namespace Dispatch

variable {S F M : Type} [DecidableEq M] {dispatch : Dispatch S M} {known : Overrides M}

/-- Something was worked out, and every override that is known after it is one. -/
structure Recalls {α : Type} (dispatch : Dispatch S M) (outcome : α × Overrides M) (value : α) :
    Prop where
  value_eq : outcome.1 = value
  tells : outcome.2.Tells dispatch.overrides

/-! ### A question -/

private theorem recallTargets_spec (tells : known.Tells dispatch.overrides) (site : CallSite M)
    (declared : M) :
    dispatch.Recalls (dispatch.recallTargets site known declared) (dispatch.targets site declared) := by
  unfold recallTargets targets
  split
  · exact ⟨rfl, tells⟩
  split
  · exact ⟨rfl, tells⟩
  · refine ⟨?_, tells.ask_snd declared⟩
    dsimp only
    rw [tells.ask_fst]

private theorem recallAll_spec (tells : known.Tells dispatch.overrides) (site : CallSite M)
    (callees : List M) :
    dispatch.Recalls (dispatch.recallAll site known callees)
      (callees.flatMap (dispatch.targets site)) := by
  induction callees generalizing known with
  | nil => exact ⟨rfl, tells⟩
  | cons declared rest inductionHypothesis =>
      have first := recallTargets_spec tells site declared
      have later := inductionHypothesis first.tells
      refine ⟨?_, later.tells⟩
      rw [recallAll]
      dsimp only
      rw [first.value_eq, later.value_eq, List.flatMap_cons]

private theorem recallCallees_spec (tells : known.Tells dispatch.overrides) (site : CallSite M) :
    dispatch.Recalls (dispatch.recallCallees known site) (dispatch.callees site) := by
  have all := recallAll_spec tells site site.callees
  exact ⟨congrArg Text.distinct all.value_eq, all.tells⟩

private theorem recallAt_spec (tells : known.Tells dispatch.overrides) (s : S) :
    dispatch.Recalls (dispatch.recallAt known s) (dispatch.resolve s) := by
  unfold recallAt resolve
  cases dispatch.callSite s with
  | none => exact ⟨rfl, tells⟩
  | some site =>
      have callees := recallCallees_spec tells site
      exact ⟨congrArg Resolution.callees callees.value_eq, callees.tells⟩

private theorem recallAnswer_spec (tells : known.Tells dispatch.overrides) (runner : String)
    (edge : Edge S F) :
    dispatch.Recalls (dispatch.recallAnswer known runner edge) (dispatch.answer runner edge) := by
  have resolved := recallAt_spec tells edge.target.statement
  exact ⟨congrArg (fun resolution => resolution.methods.map (Message.resolvedCall runner edge))
    resolved.value_eq, resolved.tells⟩

/-! ### A history of questions -/

private theorem tells_learn (tells : known.Tells dispatch.overrides) (question : Question S F M) :
    (dispatch.learn known question).Tells dispatch.overrides := by
  cases question with
  | callees site => exact (recallCallees_spec tells site).tells
  | answer runner edge => exact (recallAnswer_spec tells runner edge).tells

private theorem tells_learned (dispatch : Dispatch S M) (questions : List (Question S F M)) :
    (dispatch.learned questions).Tells dispatch.overrides := by
  have run : ∀ (questions : List (Question S F M)) (known : Overrides M),
      known.Tells dispatch.overrides →
        (questions.foldl dispatch.learn known).Tells dispatch.overrides := by
    intro questions
    induction questions with
    | nil => exact fun _ tells => tells
    | cons question rest inductionHypothesis =>
        exact fun _ tells => inductionHypothesis _ (tells_learn tells question)
  exact run questions {} (Memo.tells_empty _)

/-! ### Callees -/

/-- A method is a callee of a call if a declared callee stands for it. -/
def IsCallee (dispatch : Dispatch S M) (site : CallSite M) (m : M) : Prop :=
  ∃ declared ∈ site.callees, dispatch.StandsFor site declared m

private theorem mem_callees {site : CallSite M} {m : M} :
    m ∈ dispatch.callees site ↔ dispatch.IsCallee site m := by
  unfold callees IsCallee
  simp only [Text.mem_distinct, List.mem_flatMap, mem_targets]

private theorem mem_answer {runner : String} {edge : Edge S F} {message : Message S F M} :
    message ∈ dispatch.answer runner edge ↔
      ∃ site m, dispatch.callSite edge.target.statement = some site ∧ dispatch.IsCallee site m ∧
        message = .resolvedCall runner edge m := by
  unfold answer resolve
  cases dispatch.callSite edge.target.statement with
  | none => simp [Resolution.methods]
  | some site => simp [Resolution.methods, mem_callees, eq_comm]

private theorem nodup_answer (dispatch : Dispatch S M) (runner : String) (edge : Edge S F) :
    (dispatch.answer runner edge).Nodup := by
  have methods : (dispatch.resolve edge.target.statement).methods.Nodup := by
    unfold resolve
    split
    · exact List.nodup_nil
    · exact Text.nodup_distinct _
  refine methods.map fun first second same => ?_
  cases same
  rfl

/-- What a dispatch answers when some overrides are known. -/
structure IsExact (F : Type) (dispatch : Dispatch S M) (known : Overrides M) : Prop where
  nodup_callees : ∀ site, (dispatch.recallCallees known site).1.Nodup
  mem_callees_iff : ∀ site m, m ∈ (dispatch.recallCallees known site).1 ↔ dispatch.IsCallee site m
  /-- There is one message for every callee, with the runner and the edge of the question. -/
  nodup_answer : ∀ runner (edge : Edge S F), (dispatch.recallAnswer known runner edge).1.Nodup
  mem_answer_iff : ∀ runner (edge : Edge S F) message,
    message ∈ (dispatch.recallAnswer known runner edge).1 ↔
      ∃ site m, dispatch.callSite edge.target.statement = some site ∧ dispatch.IsCallee site m ∧
        message = .resolvedCall runner edge m
  /-- Nothing changes by what is known, not even the order. -/
  same_callees : ∀ site, (dispatch.recallCallees known site).1 = (dispatch.recallCallees {} site).1
  same_answer : ∀ runner (edge : Edge S F),
    (dispatch.recallAnswer known runner edge).1 = (dispatch.recallAnswer {} runner edge).1

private theorem isExact_of_tells (tells : known.Tells dispatch.overrides) :
    dispatch.IsExact F known where
  nodup_callees := fun site => by
    rw [(recallCallees_spec tells site).value_eq]
    exact Text.nodup_distinct _
  mem_callees_iff := fun site m => by
    rw [(recallCallees_spec tells site).value_eq]
    exact mem_callees
  nodup_answer := fun runner edge => by
    rw [(recallAnswer_spec tells runner edge).value_eq]
    exact Dispatch.nodup_answer dispatch runner edge
  mem_answer_iff := fun runner edge message => by
    rw [(recallAnswer_spec tells runner edge).value_eq]
    exact mem_answer
  same_callees := fun site => by
    rw [(recallCallees_spec tells site).value_eq,
      (recallCallees_spec (Memo.tells_empty _) site).value_eq]
  same_answer := fun runner edge => by
    rw [(recallAnswer_spec tells runner edge).value_eq,
      (recallAnswer_spec (Memo.tells_empty _) runner edge).value_eq]

end Dispatch

namespace Program

variable {p : Program} {descent : Hierarchy.Descent}

/-- A method overrides a declared one: it is declared in a class below, with the same name and as many
parameters. -/
structure Overrides (p : Program) (declared m : Method) : Prop where
  isMethod : m ∈ p.methods
  name_eq : m.id.name = declared.id.name
  arity_eq : m.params.length = declared.params.length
  below : Relation.ReflTransGen p.Extends m.id.owner declared.id.owner
  owner_ne : m.id.owner ≠ declared.id.owner

private theorem Loaded.mem_overrides (loaded : p.Loaded) (sound : descent.IsSound) {declared : Method}
    (isMethod : declared ∈ p.methods) {id : MethodName} :
    id ∈ p.overrides declared.id descent ↔ ∃ m, p.Overrides declared m ∧ m.id = id := by
  obtain ⟨c, isClass, inClass⟩ := mem_methods.mp isMethod
  have owner := ((loaded.wellFormed c isClass).methods declared inClass).owner_eq
  unfold overrides
  rw [loaded.mem_overridesIn (loaded.method?_iff.mpr ⟨isMethod, rfl⟩),
    Hierarchy.mem_subtypes sound p.closed_hierarchy, owner, ← loaded.extends_iff isClass]
  constructor
  · rintro ⟨⟨below, differ⟩, name, m, found, arity⟩
    obtain ⟨isOverride, rfl⟩ := loaded.method?_iff.mp found
    exact ⟨m, ⟨isOverride, name, arity, owner ▸ below, owner ▸ differ⟩, rfl⟩
  · rintro ⟨m, overrides, rfl⟩
    exact ⟨⟨owner ▸ overrides.below, owner ▸ overrides.owner_ne⟩, overrides.name_eq, m,
      loaded.method?_iff.mpr ⟨overrides.isMethod, rfl⟩, overrides.arity_eq⟩

/-- A call at a statement may run the method that a look-up finds, unless its class is left out. If
the call is virtual, it may run those overrides of it as well whose class is related to the type of
the receiver and is not left out. -/
def MayRun (p : Program) (descent : Hierarchy.Descent) (banned : List String) (s : Statement)
    (m : Method) : Prop :=
  ∃ call declared, p.instruction? s = some (.call call) ∧
    p.lookup call.calleeClass call.calleeName = some declared ∧
    isBanned banned declared.id.owner = false ∧
    (m = declared ∨
      call.isVirtual = true ∧ p.Overrides declared m ∧ isBanned banned m.id.owner = false ∧
        (p.hierarchy.isSubtype m.id.owner call.receiverType descent = true ∨
          p.hierarchy.isSubtype call.receiverType m.id.owner descent = true))

private theorem Loaded.mem_resolve_iff (loaded : p.Loaded) (sound : descent.IsSound)
    {banned : List String} {s : Statement} {id : MethodName} :
    id ∈ ((p.dispatch banned descent).resolve s).methods ↔
      ∃ m, p.MayRun descent banned s m ∧ m.id = id := by
  rw [mem_resolve]
  simp only [Dispatch.mem_targets]
  constructor
  · rintro ⟨call, declared, here, found, allowed, rfl | ⟨isVirtual, isOverride, rest⟩⟩
    · exact ⟨declared, ⟨call, declared, here, found, allowed, Or.inl rfl⟩, rfl⟩
    · have isMethod := (loaded.method?_iff.mp (loaded.inherits_of_lookup found).declared).1
      obtain ⟨m, overrides, rfl⟩ := (loaded.mem_overrides sound isMethod).mp isOverride
      exact ⟨m, ⟨call, declared, here, found, allowed, Or.inr ⟨isVirtual, overrides, rest⟩⟩, rfl⟩
  · rintro ⟨m, ⟨call, declared, here, found, allowed, rfl | ⟨isVirtual, overrides, rest⟩⟩, rfl⟩
    · exact ⟨call, m, here, found, allowed, Or.inl rfl⟩
    · have isMethod := (loaded.method?_iff.mp (loaded.inherits_of_lookup found).declared).1
      exact ⟨call, declared, here, found, allowed, Or.inr
        ⟨isVirtual, (loaded.mem_overrides sound isMethod).mpr ⟨m, overrides, rfl⟩, rest⟩⟩

end Program

namespace Dispatch

variable {S F M : Type} [DecidableEq M]

/-- After whatever questions, a dispatch answers exactly. In a loaded program the overrides of a
method are declared below its class, with its name and as many parameters, so that the program alone
decides which methods a call may run. -/
theorem resolution_is_exact (dispatch : Dispatch S M) (questions : List (Question S F M)) :
    dispatch.IsExact F (dispatch.learned questions) ∧
    ∀ (p : Program), p.Loaded → ∀ (descent : Hierarchy.Descent), descent.IsSound →
      ∀ (banned : List String),
      (∀ declared ∈ p.methods, ((p.dispatch banned descent).overrides declared.id).Nodup ∧
        ∀ id, id ∈ (p.dispatch banned descent).overrides declared.id ↔
          ∃ m, p.Overrides declared m ∧ m.id = id) ∧
      ∀ (asked : List (Question Statement F MethodName)) (runner : String) (edge : Edge Statement F)
        (message : Message Statement F MethodName),
        message ∈ ((p.dispatch banned descent).recallAnswer
            ((p.dispatch banned descent).learned asked) runner edge).1 ↔
          ∃ m, p.MayRun descent banned edge.target.statement m ∧
            message = .resolvedCall runner edge m.id := by
  refine ⟨isExact_of_tells (tells_learned dispatch questions), fun p loaded descent sound banned =>
    ⟨fun declared isMethod => ⟨loaded.nodup_overridesIn sound declared.id, fun _ =>
      loaded.mem_overrides sound isMethod⟩, fun asked runner edge message => ?_⟩⟩
  rw [(recallAnswer_spec (tells_learned _ asked) runner edge).value_eq, answer, List.mem_map]
  simp only [loaded.mem_resolve_iff sound]
  constructor
  · rintro ⟨_, ⟨m, mayRun, rfl⟩, rfl⟩
    exact ⟨m, mayRun, rfl⟩
  · rintro ⟨m, mayRun, rfl⟩
    exact ⟨m.id, ⟨m, mayRun, rfl⟩, rfl⟩

open Sample in
/-- A clerk overrides what a task is declared to run, so a task may run as the clerk does. -/
theorem resolution_is_exact_crew :
    crew.Loaded ∧ (∃ m, crew.Overrides (runMethod "Task" []) m ∧ m.id = ⟨"Clerk", "run"⟩) ∧
    ∃ m, crew.MayRun .breadthFirst [] ⟨taskMain, 0⟩ m ∧ m.id = ⟨"Clerk", "run"⟩ := by
  obtain ⟨overrides, answers⟩ :=
    (resolution_is_exact (F := Unit) (crew.dispatch []) []).2 crew crew_loaded .breadthFirst
      Hierarchy.Descent.isSound_breadthFirst []
  have isMethod : runMethod "Task" [] ∈ crew.methods :=
    (crew_loaded.method?_iff.mp (show crew.method? ⟨"Task", "run"⟩ = some _ by decide)).1
  let vertex : Vertex Statement Unit := ⟨⟨taskMain, 0⟩, ()⟩
  let edge : Edge Statement Unit := ⟨vertex, vertex⟩
  -- The second runner gets its answer from what was kept for the first.
  have answered : .resolvedCall "second" edge ⟨"Clerk", "run"⟩ ∈
      ((crew.dispatch []).recallAnswer
        ((crew.dispatch []).learned [.answer "first" edge]) "second" edge).1 := by
    decide +kernel
  obtain ⟨m, mayRun, same⟩ := (answers [.answer "first" edge] "second" edge _).mp answered
  exact ⟨crew_loaded, ((overrides _ isMethod).2 _).mp (by decide +kernel), m, mayRun,
    (Message.resolvedCall.inj same).2.2.symm⟩

end Dispatch

end Tabulation
