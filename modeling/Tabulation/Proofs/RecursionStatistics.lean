/-
The statistics on recursion agree.

The recursive methods are taken from the components of the call graph, and the cycles are searched for
one by one.  Both find the methods that can come back to themselves by calls.  The methods are numbered
in the order of their names, so the smallest id of a cycle has the least name.
-/

import Tabulation.Program.Stats
import Tabulation.Proofs.Declarations
import Tabulation.Proofs.ElementaryCycles
import Tabulation.Proofs.Loading

namespace Tabulation

namespace Program

variable {p : Program}

/-- What is asked of the algorithms for statistics: they meet the contracts of their libraries. -/
structure Algorithms.AreCorrect (algorithms : Algorithms) : Prop where
  components : Digraph.FindsCondensation algorithms.components
  strongComponents : Digraph.FindsComponents algorithms.strongComponents
  isAcyclic : Digraph.TellsCycles algorithms.isAcyclic

theorem areCorrect_default : ({} : Algorithms).AreCorrect where
  components := Digraph.findsCondensation_components
  strongComponents := Digraph.findsComponents_strongComponents
  isAcyclic := Digraph.tellsCycles_isAcyclic

/-- Texts name those methods of a program that are chosen. -/
structure Names (p : Program) (texts : List String) (chosen : Method → Prop) : Prop where
  declared : ∀ text ∈ texts, ∃ m ∈ p.methods, m.id.text = text
  listed : ∀ m ∈ p.methods, m.id.text ∈ texts ↔ chosen m

/-- A method comes back to itself by calls. -/
def CallsItself (p : Program) (descent : Hierarchy.Descent) (m : Method) : Prop :=
  ReachesOn (p.callees · descent) m.id m.id

/-- A statement of a method comes back to itself. -/
def RunsAround (p : Program) (m : Method) : Prop :=
  ∃ s ∈ m.statements, ReachesOn p.successors s s

/-! ### Recursive methods -/

private theorem isRecursive_iff {algorithms : Algorithms} {component : List MethodName} :
    p.isRecursive algorithms component = true ↔ 1 < component.length ∨
      ∃ first, component.head? = some first ∧ first ∈ p.callees first algorithms.descent := by
  unfold isRecursive
  rw [Bool.or_eq_true, Nat.blt_eq, Option.any_eq_true]
  simp only [List.contains_iff_mem]

private theorem length_ids_le : (p.methods.map Method.id).length ≤ p.methods.length + 1 := by
  rw [List.length_map]
  exact Nat.le_succ _

namespace Loaded

variable {algorithms : Algorithms} (correct : algorithms.AreCorrect) (loaded : p.Loaded)

include loaded

private theorem names_of_mem {texts : List String} {chosen : Method → Prop}
    (mem : ∀ text, text ∈ texts ↔ ∃ m ∈ p.methods, m.id.text = text ∧ chosen m) :
    p.Names texts chosen where
  declared := fun text listed => by
    obtain ⟨m, isMethod, same, _⟩ := (mem text).mp listed
    exact ⟨m, isMethod, same⟩
  listed := fun m isMethod => by
    rw [mem]
    constructor
    · rintro ⟨other, isOther, same, isChosen⟩
      exact loaded.eq_of_text_eq isOther isMethod same ▸ isChosen
    · exact fun isChosen => ⟨m, isMethod, rfl, isChosen⟩

include correct in
private theorem areComponents :
    AreComponents (fun id callee => callee ∈ p.callees id algorithms.descent)
      (p.methods.map Method.id)
      (Digraph.componentsOf (p.methods.length + 1) (p.methods.map Method.id)
        (p.callees · algorithms.descent) algorithms.components) :=
  (correct.components.componentsOf (loaded.isClosure_callees _) length_ids_le).toAreComponents

include correct in
private theorem mem_components {id : MethodName} :
    id ∈ (Digraph.componentsOf (p.methods.length + 1) (p.methods.map Method.id)
        (p.callees · algorithms.descent) algorithms.components).flatten ↔
      ∃ m ∈ p.methods, m.id = id := by
  rw [(loaded.areComponents correct).mem, ← List.mem_map]
  constructor
  · rintro ⟨root, isRoot, path⟩
    exact (loaded.isClosure_callees _).mem_of_reaches isRoot path
  · exact fun isMethod => ⟨id, isMethod, .refl⟩

include correct in
/-- The members of the recursive components. -/
private theorem mem_flatten_filter {id : MethodName} :
    id ∈ ((Digraph.componentsOf (p.methods.length + 1) (p.methods.map Method.id)
        (p.callees · algorithms.descent) algorithms.components).filter
          (p.isRecursive algorithms)).flatten ↔
      ∃ m ∈ p.methods, m.id = id ∧ p.CallsItself algorithms.descent m := by
  simp only [List.mem_flatten, List.mem_filter, isRecursive_iff]
  constructor
  · rintro ⟨component, ⟨isComponent, recursive⟩, member⟩
    have listed := List.mem_flatten.mpr ⟨component, isComponent, member⟩
    obtain ⟨m, isMethod, rfl⟩ := (loaded.mem_components correct).mp listed
    exact ⟨m, isMethod, rfl,
      ((loaded.areComponents correct).reaches_itself_iff isComponent member).mpr recursive⟩
  · rintro ⟨m, isMethod, rfl, path⟩
    obtain ⟨component, isComponent, member⟩ :=
      List.mem_flatten.mp ((loaded.mem_components correct).mpr ⟨m, isMethod, rfl⟩)
    have recursive := ((loaded.areComponents correct).reaches_itself_iff isComponent member).mp path
    exact ⟨component, ⟨isComponent, recursive⟩, member⟩

include correct in
private theorem names_recursiveMethods :
    p.Names (p.recursiveMethods algorithms) (p.CallsItself algorithms.descent) := by
  refine loaded.names_of_mem fun text => ?_
  unfold recursiveMethods Text.sortTexts Text.sortBy
  rw [(List.mergeSort_perm _ _).mem_iff, List.mem_map]
  constructor
  · rintro ⟨id, listed, same⟩
    obtain ⟨m, isMethod, rfl, path⟩ := (loaded.mem_flatten_filter correct).mp listed
    exact ⟨m, isMethod, same, path⟩
  · rintro ⟨m, isMethod, same, path⟩
    exact ⟨m.id, (loaded.mem_flatten_filter correct).mpr ⟨m, isMethod, rfl, path⟩, same⟩

include correct in
private theorem nodup_recursiveMethods : (p.recursiveMethods algorithms).Nodup := by
  unfold recursiveMethods Text.sortTexts Text.sortBy
  rw [(List.mergeSort_perm _ _).nodup_iff]
  obtain ⟨each, apart⟩ := List.nodup_flatten.mp (loaded.areComponents correct).nodup
  have nodup := List.nodup_flatten.mpr
    ⟨fun component member => each component (List.mem_filter.mp member).1,
      apart.filter (p.isRecursive algorithms)⟩
  refine nodup.map_on fun id listed other otherListed same => ?_
  obtain ⟨m, isMethod, rfl, _⟩ := (loaded.mem_flatten_filter correct).mp listed
  obtain ⟨n, isOther, rfl, _⟩ := (loaded.mem_flatten_filter correct).mp otherListed
  exact congrArg Method.id (loaded.eq_of_text_eq isMethod isOther same)

/-! ### Cycles of the call graph -/

private theorem values_callGraph {descent : Hierarchy.Descent} :
    (p.callGraph descent).values = p.methods.map Method.id :=
  Search.reach_of_closed _ loaded.nodup_ids (loaded.isClosure_callees descent).successors

private theorem isNumbered_callGraph {descent : Hierarchy.Descent} :
    (p.callGraph descent).IsNumbered :=
  Digraph.isNumbered_explore (loaded.isClosure_callees descent) length_ids_le

private theorem reachesOn_callGraph {descent : Hierarchy.Descent} {i : Nat} {id : MethodName}
    (value : (p.callGraph descent).value? i = some id) :
    Relation.TransGen (p.callGraph descent).Links i i ↔ ReachesOn (p.callees · descent) id id := by
  have isClosure := loaded.isClosure_callees descent
  refine (Digraph.reachesOn_explore isClosure length_ids_le value).trans ?_
  constructor
  · rintro ⟨other, same, path⟩
    exact Option.some.inj (value.symm.trans same) ▸ path
  · exact fun path => ⟨id, value, path⟩

omit loaded in
private theorem mem_cycles {cycle : List String} : cycle ∈ (p.stats algorithms).cycles ↔
    ∃ ids ∈ (p.callGraph algorithms.descent).elementaryCycles algorithms.strongComponents,
      (ids.filterMap fun i =>
        ((p.callGraph algorithms.descent).value? i).map MethodName.text) = cycle := by
  change cycle ∈ callCycles algorithms (p.callGraph algorithms.descent) ↔ _
  unfold callCycles Text.sortBy
  rw [(List.mergeSort_perm _ _).mem_iff, List.mem_map]

include correct in
private theorem names_cycles :
    p.Names (p.stats algorithms).cycles.flatten (p.CallsItself algorithms.descent) := by
  refine loaded.names_of_mem fun text => ?_
  have onCycle : ∀ i,
      i ∈ ((p.callGraph algorithms.descent).elementaryCycles algorithms.strongComponents).flatten ↔
        Relation.TransGen (p.callGraph algorithms.descent).Links i i := fun i =>
    Digraph.mem_flatten_elementaryCycles correct.strongComponents loaded.isNumbered_callGraph
      Digraph.keys_explore
  constructor
  · intro member
    obtain ⟨cycle, listed, inCycle⟩ := List.mem_flatten.mp member
    obtain ⟨ids, isCycle, rfl⟩ := mem_cycles.mp listed
    obtain ⟨i, isMember, named⟩ := List.mem_filterMap.mp inCycle
    obtain ⟨id, value, same⟩ := Option.map_eq_some_iff.mp named
    have path := (onCycle i).mp (List.mem_flatten.mpr ⟨ids, isCycle, isMember⟩)
    have isMethod : id ∈ p.methods.map Method.id := by
      rw [← loaded.values_callGraph]
      exact (Digraph.value?_explore.mp value).1
    obtain ⟨m, declared, rfl⟩ := List.mem_map.mp isMethod
    exact ⟨m, declared, same, (loaded.reachesOn_callGraph value).mp path⟩
  · rintro ⟨m, isMethod, same, path⟩
    have known : m.id ∈ (p.callGraph algorithms.descent).values := by
      rw [loaded.values_callGraph]
      exact List.mem_map.mpr ⟨m, isMethod, rfl⟩
    have value := Digraph.value?_explore.mpr ⟨known, rfl⟩
    have listed := (onCycle _).mpr ((loaded.reachesOn_callGraph value).mpr path)
    obtain ⟨ids, isCycle, isMember⟩ := List.mem_flatten.mp listed
    refine List.mem_flatten.mpr ⟨_, mem_cycles.mpr ⟨ids, isCycle, rfl⟩, ?_⟩
    refine List.mem_filterMap.mpr ⟨_, isMember, ?_⟩
    exact (congrArg (Option.map MethodName.text) value).trans (congrArg some same)

/-- Methods with greater ids do not have lesser names. -/
private theorem textBefore_of_lt {descent : Hierarchy.Descent} {i j : Nat} (less : i < j)
    {id other : MethodName} (first : (p.callGraph descent).value? i = some id)
    (second : (p.callGraph descent).value? j = some other) :
    Text.textBefore other.text id.text = false := by
  unfold Digraph.value? at first second
  rw [loaded.values_callGraph, List.getElem?_map] at first second
  obtain ⟨m, here, rfl⟩ := Option.map_eq_some_iff.mp first
  obtain ⟨n, there, rfl⟩ := Option.map_eq_some_iff.mp second
  obtain ⟨inside, rfl⟩ := List.getElem?_eq_some_iff.mp here
  obtain ⟨insideThere, rfl⟩ := List.getElem?_eq_some_iff.mp there
  rw [Text.textBefore_eq_false_iff]
  exact List.pairwise_iff_getElem.mp p.pairwise_methods i j inside insideThere less

include correct in
/-- A cycle goes from the least of its names back to it. -/
private theorem cycle_from_least {cycle : List String}
    (listed : cycle ∈ (p.stats algorithms).cycles) :
    ∃ first inner, cycle = first :: inner ++ [first] ∧
      ∀ name ∈ inner, Text.textBefore name first = false := by
  obtain ⟨ids, isCycle, rfl⟩ := mem_cycles.mp listed
  obtain ⟨start, inner, rfl, around, least⟩ := (Digraph.mem_elementaryCycles
    correct.strongComponents loaded.isNumbered_callGraph Digraph.keys_explore).mp isCycle
  have inside := around.lt_order loaded.isNumbered_callGraph List.mem_cons_self
  obtain ⟨head, value⟩ : ∃ id, (p.callGraph algorithms.descent).value? start = some id :=
    ⟨_, List.getElem?_eq_getElem inside⟩
  refine ⟨head.text, inner.filterMap fun i =>
    ((p.callGraph algorithms.descent).value? i).map MethodName.text, ?_, ?_⟩
  · simp [value]
  · intro name member
    obtain ⟨i, isInner, found⟩ := List.mem_filterMap.mp member
    obtain ⟨id, valueThere, rfl⟩ := Option.map_eq_some_iff.mp found
    exact loaded.textBefore_of_lt (least i isInner) value valueThere

/-! ### Loops -/

include correct in
private theorem hasLoop_iff {m : Method} (isMethod : m ∈ p.methods) :
    p.hasLoop algorithms m = true ↔ p.RunsAround m := by
  have isClosure := loaded.isClosure_successors isMethod
  have enough : m.statements.length ≤ m.body.length + 1 := by simp [Method.statements]
  unfold hasLoop flowOf
  rw [Bool.and_eq_true, Bool.not_eq_true', Bool.not_eq_true',
    correct.isAcyclic.explore_iff isClosure enough]
  constructor
  · rintro ⟨_, s, ⟨start, isStart, path⟩, loop⟩
    exact ⟨s, isClosure.mem_of_reaches (isClosure.nodes start isStart) path, loop⟩
  · rintro ⟨s, isStatement, loop⟩
    refine ⟨?_, s, ⟨s, isStatement, .refl⟩, loop⟩
    by_contra bodiless
    rw [Bool.not_eq_false, List.isEmpty_iff] at bodiless
    simp [Method.statements, bodiless] at isStatement

include correct in
private theorem names_loops : p.Names (p.stats algorithms).loops p.RunsAround := by
  refine loaded.names_of_mem fun text => ?_
  change text ∈ (p.methods.filter (p.hasLoop algorithms)).map (fun m => m.id.text) ↔ _
  simp only [List.mem_map, List.mem_filter]
  constructor
  · rintro ⟨m, ⟨isMethod, loops⟩, same⟩
    exact ⟨m, isMethod, same, (loaded.hasLoop_iff correct isMethod).mp loops⟩
  · rintro ⟨m, isMethod, same, around⟩
    exact ⟨m, ⟨isMethod, (loaded.hasLoop_iff correct isMethod).mpr around⟩, same⟩

private theorem nodup_loops : (p.stats algorithms).loops.Nodup := by
  change ((p.methods.filter (p.hasLoop algorithms)).map fun m => m.id.text).Nodup
  refine ((List.Nodup.of_map _ loaded.nodup_ids).filter _).map_on fun m isMethod n isOther same => ?_
  exact loaded.eq_of_text_eq (List.mem_filter.mp isMethod).1 (List.mem_filter.mp isOther).1 same

end Loaded

/-- What the statistics of a program say of recursion and loops. -/
structure StatesRecursion (p : Program) (descent : Hierarchy.Descent) (stats : ProgramStats) :
    Prop where
  recursive : p.Names stats.recursive (p.CallsItself descent)
  cycles : p.Names stats.cycles.flatten (p.CallsItself descent)
  loops : p.Names stats.loops p.RunsAround
  sorted : stats.recursive.Pairwise fun a b => Text.textBefore b a = false
  nodup : stats.recursive.Nodup
  nodup_loops : stats.loops.Nodup
  least : ∀ cycle ∈ stats.cycles, ∃ first inner, cycle = first :: inner ++ [first] ∧
    ∀ name ∈ inner, Text.textBefore name first = false

/-- The statistics of a loaded program say of recursion and loops what there is. -/
theorem stats_agree_on_recursion {algorithms : Algorithms} (correct : algorithms.AreCorrect)
    (loaded : p.Loaded) : p.StatesRecursion algorithms.descent (p.stats algorithms) where
  recursive := loaded.names_recursiveMethods correct
  cycles := loaded.names_cycles correct
  loops := loaded.names_loops correct
  sorted := Text.pairwise_sortTexts _
  nodup := loaded.nodup_recursiveMethods correct
  nodup_loops := loaded.nodup_loops
  least := fun _ listed => loaded.cycle_from_least correct listed

end Program

namespace Sample

def parityMain : MethodName := ⟨"Parity", "main"⟩

def parityEven : MethodName := ⟨"Parity", "even"⟩

def parityOdd : MethodName := ⟨"Parity", "odd"⟩

/-- Asks for the parity of a number. -/
def parityMainBody : Method where
  id := parityMain
  params := []
  isStatic := true
  isAbstract := false
  body := [.call ⟨"", "Parity", "even", ["n"], false, "", ""⟩, .ret ""]

/-- Calls the other method, unless the number is zero. -/
def parityEvenBody : Method where
  id := parityEven
  params := ["n"]
  isStatic := true
  isAbstract := false
  body := [.branch "n" [2], .call ⟨"", "Parity", "odd", ["n"], false, "", ""⟩, .ret ""]

/-- Waits before it calls the other method back. -/
def parityOddBody : Method where
  id := parityOdd
  params := ["n"]
  isStatic := true
  isAbstract := false
  body := [.branch "n" [0], .call ⟨"", "Parity", "even", ["n"], false, "", ""⟩, .ret ""]

def parity : Program where
  name := "parity"
  classes := [{
    name := "Parity"
    super := ""
    interfaces := []
    methods := [parityEvenBody, parityMainBody, parityOddBody] }]

theorem parity_loaded : parity.Loaded := by
  refine ⟨_, Digraph.findsCondensation_components, "parity", [{
    name := "Parity"
    methods := [
      { name := "even"
        params := ["n"]
        isStatic := true
        body := [
          { operation := "if", condition := "n", targets := [2] },
          { operation := "call", callee := "Parity.odd", args := ["n"] },
          { operation := "return" }] },
      { name := "main"
        isStatic := true
        body := [
          { operation := "call", callee := "Parity.even", args := ["n"] },
          { operation := "return" }] },
      { name := "odd"
        params := ["n"]
        isStatic := true
        body := [
          { operation := "if", condition := "n", targets := [0] },
          { operation := "call", callee := "Parity.even", args := ["n"] },
          { operation := "return" }] }] }], ?_⟩
  decide +kernel

end Sample

namespace Program

open Sample in
/-- Two methods that call each other are recursive and on a cycle; who calls them is neither. -/
theorem stats_agree_on_recursion_parity :
    parity.StatesRecursion .breadthFirst parity.stats ∧
      (∀ text ∈ ["Parity.even", "Parity.odd"],
        text ∈ parity.stats.recursive ∧ text ∈ parity.stats.cycles.flatten) ∧
      "Parity.main" ∉ parity.stats.recursive ∧ "Parity.odd" ∈ parity.stats.loops := by
  have states := stats_agree_on_recursion areCorrect_default parity_loaded
  have declared : ∀ m ∈ [parityEvenBody, parityMainBody, parityOddBody], m ∈ parity.methods :=
    fun m member => mem_methods.mpr ⟨_, List.mem_singleton_self _, member⟩
  have evenCalls : parity.callees parityEven = [parityOdd] := by cbv
  have oddCalls : parity.callees parityOdd = [parityEven] := by cbv
  have mainCalls : parity.callees parityMain = [parityEven] := by cbv
  have toOdd : parityOdd ∈ parity.callees parityEven :=
    evenCalls ▸ List.mem_singleton_self parityOdd
  have toEven : parityEven ∈ parity.callees parityOdd :=
    oddCalls ▸ List.mem_singleton_self parityEven
  have even : parity.CallsItself .breadthFirst parityEvenBody := .tail (.single toOdd) toEven
  have odd : parity.CallsItself .breadthFirst parityOddBody := .tail (.single toEven) toOdd
  have main : ¬parity.CallsItself .breadthFirst parityMainBody := by
    -- Main calls one of the two, and neither of them calls main.
    have between : IsClosure [parityEven] parity.callees [parityEven, parityOdd] := by
      refine ⟨by decide, ?_⟩
      simp [evenCalls, oddCalls]
    intro path
    obtain ⟨called, isCalled, back⟩ := reachesOn_iff.mp path
    rw [show parityMainBody.id = parityMain from rfl, mainCalls, List.mem_singleton] at isCalled
    have reached := between.mem_of_reaches (isCalled ▸ List.mem_cons_self) back
    exact absurd reached (by decide)
  have around : parity.RunsAround parityOddBody :=
    ⟨⟨parityOdd, 0⟩, by decide, .single (by decide)⟩
  refine ⟨states, ?_, ?_, ?_⟩
  · refine List.forall_mem_cons.mpr ⟨⟨?_, ?_⟩, List.forall_mem_singleton.mpr ⟨?_, ?_⟩⟩
    · exact (states.recursive.listed parityEvenBody (declared _ (by simp))).mpr even
    · exact (states.cycles.listed parityEvenBody (declared _ (by simp))).mpr even
    · exact (states.recursive.listed parityOddBody (declared _ (by simp))).mpr odd
    · exact (states.cycles.listed parityOddBody (declared _ (by simp))).mpr odd
  · exact fun listed =>
      main ((states.recursive.listed parityMainBody (declared _ (by simp))).mp listed)
  · exact (states.loops.listed parityOddBody (declared _ (by simp))).mpr around

end Program

end Tabulation
