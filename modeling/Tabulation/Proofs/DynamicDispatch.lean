/-
What the receiver of a virtual call chooses, and what the call is resolved to.

At run time the class of the receiver is looked up: it declares the method or inherits it.
The solver takes the declared callee and those of its overrides whose class is related to
the type of the receiver.  The two agree on a method that the class declares itself.  They
part where a class inherits a method from a super class and only the class, but not the
super class, has the type of the receiver.
-/

import Tabulation.Proofs.ConnectedComponents
import Tabulation.Proofs.ControlFlow
import Tabulation.Proofs.Subtypes

namespace Tabulation

namespace Program

variable {p : Program} {descent : Hierarchy.Descent}

/-- What a subtype contributes to the overrides of a method. -/
private theorem Loaded.override_iff (loaded : p.Loaded) {sub name : String} {arity : Nat}
    {id : MethodName} :
    (match (p.class? sub).bind (·.method? name) with
      | some override => if override.params.length == arity then some override.id else none
      | none => none) = some id ↔
      id = ⟨sub, name⟩ ∧ ∃ m, p.method? ⟨sub, name⟩ = some m ∧ m.params.length = arity := by
  change (match p.method? ⟨sub, name⟩ with
    | some override => if override.params.length == arity then some override.id else none
    | none => none) = some id ↔ _
  cases found : p.method? ⟨sub, name⟩ with
  | none => simp
  | some m =>
      obtain ⟨same, _⟩ := loaded.method?_eq_some found
      by_cases hasArity : m.params.length = arity
      · simp [same, hasArity, eq_comm (a := id)]
      · simp [hasArity]

/-- The overrides of a method are declared in types below its class, with its name and as many
parameters. -/
theorem Loaded.mem_overridesIn (loaded : p.Loaded) {declared : Method}
    (known : p.method? declared.id = some declared) {id : MethodName} :
    id ∈ p.overridesIn p.hierarchy declared.id descent ↔
      id.owner ∈ p.hierarchy.subtypes declared.id.owner descent ∧ id.name = declared.id.name ∧
        ∃ m, p.method? id = some m ∧ m.params.length = declared.params.length := by
  unfold overridesIn
  simp only [known, List.mem_filterMap]
  constructor
  · rintro ⟨sub, member, contributed⟩
    obtain ⟨rfl, declares⟩ := loaded.override_iff.mp contributed
    exact ⟨member, rfl, declares⟩
  · rintro ⟨member, name, declares⟩
    have same : id = ⟨id.owner, declared.id.name⟩ := name ▸ rfl
    exact ⟨id.owner, member, loaded.override_iff.mpr ⟨same, same ▸ declares⟩⟩

theorem Loaded.nodup_overridesIn (loaded : p.Loaded) (sound : descent.IsSound) (id : MethodName) :
    (p.overridesIn p.hierarchy id descent).Nodup := by
  unfold overridesIn
  split
  · exact List.nodup_nil
  · refine (Hierarchy.nodup_subtypes sound p.closed_hierarchy _).filterMap
      fun first second override isFirst isSecond => ?_
    have same := (loaded.override_iff.mp isFirst).1.symm.trans (loaded.override_iff.mp isSecond).1
    exact congrArg MethodName.owner same

private theorem mem_targets_virtual (sound : descent.IsSound) {call : Call}
    (isVirtual : call.isVirtual = true) {declared : Method} {id : MethodName} :
    id ∈ (p.dispatch [] descent).targets (siteOf call declared) declared.id ↔
      id = declared.id ∨ (id ∈ p.overridesIn p.hierarchy declared.id descent ∧
        (p.hierarchy.Below id.owner call.receiverType ∨
          p.hierarchy.Below call.receiverType id.owner)) := by
  simp [Dispatch.mem_targets, Dispatch.StandsFor, Dispatch.bans, dispatch, isBanned, siteOf,
    isVirtual, Hierarchy.isSubtype_iff sound p.closed_hierarchy]

/-- A method is among those that a virtual call is resolved to if it is the declared callee,
or if its class is below that of the declared callee and related to the receiver. -/
private theorem Loaded.mem_resolve_virtual (loaded : p.Loaded) (sound : descent.IsSound)
    {s : Statement} {call : Call} (here : p.instruction? s = some (.call call))
    (isVirtual : call.isVirtual = true)
    {declared m : Method} (found : p.lookup call.calleeClass call.calleeName = some declared)
    (known : p.method? m.id = some m) (name : m.id.name = call.calleeName)
    (arity : m.params.length = declared.params.length) :
    m.id ∈ ((p.dispatch [] descent).resolve s).methods ↔ m.id = declared.id ∨
      (p.hierarchy.Below m.id.owner declared.id.owner ∧
        (p.hierarchy.Below m.id.owner call.receiverType ∨
          p.hierarchy.Below call.receiverType m.id.owner)) := by
  have inherits := loaded.inherits_of_lookup found
  have sameName : m.id.name = declared.id.name := name.trans inherits.name_eq.symm
  have resolved : m.id ∈ ((p.dispatch [] descent).resolve s).methods ↔
      m.id ∈ (p.dispatch [] descent).targets (siteOf call declared) declared.id := by
    rw [mem_resolve]
    constructor
    · rintro ⟨other, callee, there, foundThere, member⟩
      rw [here] at there
      cases there
      rw [found] at foundThere
      cases foundThere
      exact member
    · exact fun member => ⟨call, declared, here, found, member⟩
  have overrides : m.id ∈ p.overridesIn p.hierarchy declared.id descent ↔
      m.id.owner ∈ p.hierarchy.subtypes declared.id.owner descent := by
    rw [loaded.mem_overridesIn inherits.declared]
    exact ⟨And.left, fun member => ⟨member, sameName, m, known, arity⟩⟩
  rw [resolved, mem_targets_virtual sound isVirtual, overrides,
    Hierarchy.mem_subtypes sound p.closed_hierarchy]
  constructor
  · rintro (same | ⟨⟨below, _⟩, related⟩)
    · exact Or.inl same
    · exact Or.inr ⟨below, related⟩
  · rintro (same | ⟨below, related⟩)
    · exact Or.inl same
    · by_cases owner : m.id.owner = declared.id.owner
      · -- One class has one method of a name.
        exact Or.inl (by rw [MethodName.mk.injEq]; exact ⟨owner, sameName⟩)
      · exact Or.inr ⟨⟨below, owner⟩, related⟩

/-- What the class of the receiver chooses is a callee of a virtual call exactly if it is the
declared callee, or its class is below that of the declared callee and related to the
type of the receiver; it is one if the class of the receiver declares it itself. -/
theorem dispatched_mem_callees_iff (p : Program) (loaded : p.Loaded) (descent : Hierarchy.Descent)
    (sound : descent.IsSound) (s : Statement) (call : Call)
    (here : p.instruction? s = some (.call call))
    (isVirtual : call.isVirtual = true) (declared : Method)
    (found : p.lookup call.calleeClass call.calleeName = some declared) (receiver : String)
    (isReceiver : p.hierarchy.isSubtype receiver call.receiverType descent = true)
    (hasCallee : p.hierarchy.isSubtype receiver call.calleeClass descent = true) (m : Method)
    (chosen : p.lookup receiver call.calleeName = some m)
    (arity : m.params.length = declared.params.length) :
    (m.id ∈ ((p.dispatch [] descent).resolve s).methods ↔ m.id = declared.id ∨
      (p.hierarchy.isSubtype m.id.owner declared.id.owner descent = true ∧
        (p.hierarchy.isSubtype m.id.owner call.receiverType descent = true ∨
          p.hierarchy.isSubtype call.receiverType m.id.owner descent = true))) ∧
    (m.id.owner = receiver → m.id ∈ ((p.dispatch [] descent).resolve s).methods) := by
  have inherits := loaded.inherits_of_lookup chosen
  have resolved := loaded.mem_resolve_virtual sound here isVirtual found inherits.declared
    inherits.name_eq arity
  simp only [Hierarchy.isSubtype_iff sound p.closed_hierarchy] at isReceiver hasCallee ⊢
  refine ⟨resolved, fun own => resolved.mpr (Or.inr ⟨?_, Or.inl (own ▸ isReceiver)⟩)⟩
  rw [own]
  exact hasCallee.trans (loaded.inherits_of_lookup found).below

end Program

namespace Sample

def runMethod (owner : String) (body : List Instruction) : Method where
  id := ⟨owner, "run"⟩
  params := []
  isStatic := false
  isAbstract := body.isEmpty
  body

def taskMain : MethodName := ⟨"Task", "main"⟩

/-- A virtual call through an interface. -/
def taskCall : Call := ⟨"", "Task", "run", [], true, "t", "Task"⟩

/-- A clerk has its own method for a task, and a worker inherits one from a class that is
not for tasks. -/
def crew : Program where
  name := "crew"
  classes := [
    ⟨"Base", "", [], [runMethod "Base" [.ret ""]]⟩,
    ⟨"Clerk", "", ["Task"], [runMethod "Clerk" [.ret ""]]⟩,
    ⟨"Task", "", [], [
      runMethod "Task" [],
      ⟨taskMain, ["t"], true, false, [.call taskCall, .ret ""]⟩]⟩,
    ⟨"Worker", "Base", ["Task"], []⟩]

private theorem sortTexts_of_pairwise {texts : List String}
    (sorted : texts.Pairwise fun a b => (!Text.textBefore b a) = true) :
    Text.sortTexts texts = texts := List.mergeSort_of_pairwise sorted

private def crewTypes : List String := ["Base", "Clerk", "Task", "Worker"]

private theorem crew_names : crew.hierarchy.names = crewTypes := by decide

private theorem crew_types : crew.hierarchy.types = crewTypes := by
  unfold Hierarchy.types
  rw [crew_names]
  exact sortTexts_of_pairwise (by decide)

private def crewSupers (name : String) : List String :=
  if name = "Worker" then ["Base", "Task"] else if name = "Clerk" then ["Task"] else []

private theorem crew_supers : crew.hierarchy.supers = crewSupers := by
  have links : crew.hierarchy.links =
      [("Clerk", "Task"), ("Worker", "Base"), ("Worker", "Task")] := by decide
  funext name
  unfold Hierarchy.supers crewSupers
  rw [links]
  by_cases worker : name = "Worker"
  · subst worker
    exact sortTexts_of_pairwise (by decide)
  by_cases clerk : name = "Clerk"
  · subst clerk
    exact sortTexts_of_pairwise (by decide)
  · simp [worker, clerk, Ne.symm worker, Ne.symm clerk, Text.sortTexts, Text.sortBy]

private theorem crew_explored : Digraph.explore 5 crewTypes crewSupers =
    ⟨crewTypes, [0, 1, 2, 3], #[[], [2], [], [0, 2]]⟩ := by
  have found : Search.reach 5 crewSupers crewTypes = crewTypes := by decide
  have sorted : ∀ name ∈ crewTypes,
      (Text.distinct ((crewSupers name).map crewTypes.idxOf)).Pairwise
        fun a b => Nat.ble a b = true := by decide
  have rows : (crewTypes.map fun name =>
      Digraph.sortedIds ((crewSupers name).map crewTypes.idxOf)) = [[], [2], [], [0, 2]] := by
    calc _ = crewTypes.map fun name =>
          Text.distinct ((crewSupers name).map crewTypes.idxOf) :=
          List.map_congr_left fun name member => List.mergeSort_of_pairwise (sorted name member)
      _ = _ := by decide
  unfold Digraph.explore
  simp only [found, rows]
  rfl

private theorem crew_acyclic : Program.cycle? crew.hierarchy Digraph.components = none := by
  unfold Program.cycle? Digraph.componentsOf
  rw [crew_types, crew_supers, crew_names]
  change ((Digraph.explore 5 crewTypes crewSupers).components.map fun ids =>
    ids.filterMap (Digraph.explore 5 crewTypes crewSupers).value?).find? _ = none
  rw [crew_explored]
  decide

/-- The crew as it is written down. -/
def crewTexts : List Program.ClassText := [
  { name := "Base", methods := [{ name := "run", body := [{ operation := "return" }] }] },
  { name := "Clerk"
    interfaces := ["Task"]
    methods := [{ name := "run", body := [{ operation := "return" }] }] },
  { name := "Task"
    methods := [
      { name := "run", isAbstract := true },
      { name := "main"
        params := ["t"]
        isStatic := true
        body := [
          { operation := "call", callee := "Task.run", isVirtual := true, receiver := "t" },
          { operation := "return" }] }] },
  { name := "Worker", super := "Base", interfaces := ["Task"] }]

theorem crew_checked : Program.ofText "crew" crewTexts = .ok crew :=
  Program.ofText_eq_ok.mpr ⟨by decide, crew_acyclic, rfl⟩

theorem crew_loaded : crew.Loaded :=
  ⟨_, Digraph.findsCondensation_components, _, _, crew_checked⟩

end Sample

namespace Program

open Sample

theorem dispatched_mem_callees_iff_crew :
    crew.lookup "Clerk" "run" = some (runMethod "Clerk" [.ret ""]) ∧
    ⟨"Clerk", "run"⟩ ∈ ((crew.dispatch []).resolve ⟨taskMain, 0⟩).methods := by
  have chosen : crew.lookup "Clerk" "run" = some (runMethod "Clerk" [.ret ""]) := by
    decide
  exact ⟨chosen, (dispatched_mem_callees_iff crew crew_loaded .breadthFirst
    Hierarchy.Descent.isSound_breadthFirst ⟨taskMain, 0⟩ taskCall
    (by decide) rfl (runMethod "Task" []) (by decide +kernel) "Clerk"
    (by decide) (by decide +kernel) (runMethod "Clerk" [.ret ""]) chosen rfl).2 rfl⟩

/-- The method that a worker inherits is chosen for a task, and it is no callee of the call. -/
theorem inherited_method_unresolved :
    crew.Loaded ∧ crew.instruction? ⟨taskMain, 0⟩ = some (.call taskCall) ∧
    taskCall.isVirtual = true ∧
    crew.lookup taskCall.calleeClass taskCall.calleeName = some (runMethod "Task" []) ∧
    (crew.class? "Worker").isSome = true ∧
    crew.hierarchy.isSubtype "Worker" taskCall.receiverType = true ∧
    crew.hierarchy.isSubtype "Worker" taskCall.calleeClass = true ∧
    crew.lookup "Worker" taskCall.calleeName = some (runMethod "Base" [.ret ""]) ∧
    (runMethod "Base" [.ret ""]).params.length = (runMethod "Task" []).params.length ∧
    (runMethod "Base" [.ret ""]).id ∉ ((crew.dispatch []).resolve ⟨taskMain, 0⟩).methods := by
  refine ⟨crew_loaded, ?_⟩
  decide

end Program

end Tabulation
