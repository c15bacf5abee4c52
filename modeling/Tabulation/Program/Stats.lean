/-
Statistics on the shape of a program: its size, its loops and its recursion.
-/

import Tabulation.Digraph.Cycles
import Tabulation.Program.Calls

namespace Tabulation

/-- Statistics on the shape of a program. -/
structure ProgramStats where
  classes : Int := 0
  methods : Int := 0
  instructions : Int := 0
  calls : Int := 0
  /-- The number of edges of the call graph, overrides included. -/
  callEdges : Int := 0
  /-- The methods whose control flow has a cycle. -/
  loops : List String := []
  /-- The methods that can call themselves, directly or not. -/
  recursive : List String := []
  /-- The elementary cycles of the call graph. -/
  cycles : List (List String) := []
deriving Repr, DecidableEq, Inhabited

namespace Program

/-- The algorithms on graphs that statistics rest on. -/
structure Algorithms where
  /-- The components of a graph, each after those that it reaches. -/
  components : Digraph MethodName → List (List Nat) := Digraph.components
  /-- The components of a part of a graph, in any order. -/
  strongComponents : Digraph MethodName → List (List Nat) := Digraph.strongComponents
  isAcyclic : Digraph Statement → Bool := Digraph.isAcyclic
  /-- The number of edges. -/
  size : Digraph MethodName → Nat := Digraph.size
  descent : Hierarchy.Descent := .breadthFirst

def flowOf (p : Program) (m : Method) : Digraph Statement :=
  Digraph.explore (m.body.length + 1) m.statements p.successors

def callGraph (p : Program) (descent : Hierarchy.Descent) : Digraph MethodName :=
  let methods := p.methods
  Digraph.explore (methods.length + 1) (methods.map Method.id) (p.callees · descent)

/-- The order of cycles: by their first method, then by their length, then by their methods. -/
def cycleBefore (a b : List String) : Bool :=
  let first := fun (cycle : List String) => cycle.headD ""
  if first a != first b then Text.textBefore (first a) (first b)
  else if a.length != b.length then Nat.blt a.length b.length
  else Text.textsBefore a b

section Statistics

variable (algorithms : Algorithms)

def hasLoop (p : Program) (m : Method) : Bool :=
  !m.body.isEmpty && !algorithms.isAcyclic (p.flowOf m)

def callCycles (g : Digraph MethodName) : List (List String) :=
  Text.sortBy cycleBefore
    ((g.elementaryCycles algorithms.strongComponents).map fun cycle =>
      cycle.filterMap fun id => (g.value? id).map MethodName.text)

/-- Whether the methods of a component of the call graph are recursive: there are several of them, or
there is one that calls itself. -/
def isRecursive (p : Program) (component : List MethodName) : Bool :=
  Nat.blt 1 component.length ||
    component.head?.any fun id => (p.callees id algorithms.descent).contains id

def recursiveMethods (p : Program) : List String :=
  let methods := p.methods
  let components := Digraph.componentsOf (methods.length + 1) (methods.map Method.id)
    (p.callees · algorithms.descent) algorithms.components
  Text.sortTexts ((components.filter (p.isRecursive algorithms)).flatten.map MethodName.text)

end Statistics

def stats (p : Program) (algorithms : Algorithms := {}) : ProgramStats :=
  let methods := p.methods
  let g := p.callGraph algorithms.descent
  { classes := p.classes.length
    methods := methods.length
    instructions := (methods.flatMap Method.body).length
    calls := ((methods.flatMap Method.body).filter Instruction.isCall).length
    callEdges := algorithms.size g
    loops := (methods.filter (p.hasLoop algorithms)).map fun m => m.id.text
    recursive := p.recursiveMethods algorithms
    cycles := callCycles algorithms g }

end Program

end Tabulation
