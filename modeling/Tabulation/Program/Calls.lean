/-
The graphs of a program: its control flow, the methods a call may reach, and the call graph.
-/

import Tabulation.Program.Document
import Tabulation.Solver.Dispatch

namespace Tabulation

namespace Program

def successors (p : Program) (s : Statement) : List Statement :=
  match p.instruction? s with
  | none => []
  | some instruction => (instruction.next s.position).map fun position => ⟨s.method, position⟩

def flowGraph (p : Program) : FlowGraph Statement MethodName where
  methodOf s := s.method
  successors := p.successors
  entries id := ((p.method? id).map Method.entries).getD []
  exits id := ((p.method? id).map Method.exits).getD []
  isCall s := (p.instruction? s).any Instruction.isCall

/-! ### Lookup -/

/-- The method with a name in a class or the nearest of its super classes. `fuel` bounds the length
of the chain of super classes. -/
def lookupInSupers (p : Program) (name : String) : (fuel : Nat) → (start : String) → Option Method
  | 0, _ => none
  | fuel + 1, start =>
    match p.class? start with
    | none => none
    | some c =>
      match c.method? name with
      | some m => some m
      | none => p.lookupInSupers name fuel c.super

/-- The method with a name that a class declares or inherits: first along the super classes, then, depth
first, from all direct super types in the order of their names. `fuel` bounds the depth. -/
def lookupFrom (p : Program) (h : Hierarchy) (name : String) :
    (fuel : Nat) → (start : String) → Option Method
  | 0, _ => none
  | fuel + 1, start =>
    match p.lookupInSupers name (p.classes.length + 1) start with
    | some m => some m
    | none => (h.supers start).findSome? (p.lookupFrom h name fuel)

/-- The method with a name that a class declares or inherits. In a hierarchy without cycles no path is
longer than the number of types. -/
def lookup (p : Program) (start name : String) : Option Method :=
  let h := p.hierarchy
  p.lookupFrom h name (h.names.length + 1) start

/-! ### Calls -/

/-- The call at a statement: the declared callee is looked up from the class that the call names. -/
def callSite? (p : Program) (s : Statement) : Option (CallSite MethodName) :=
  match p.instruction? s with
  | some (.call call) => some
      { callees := ((p.lookup call.calleeClass call.calleeName).map Method.id).toList
        isVirtual := call.isVirtual
        receiverType := call.receiverType }
  | _ => none

/-- The methods of subtypes that override a method: same name and same number of parameters. -/
def overridesIn (p : Program) (h : Hierarchy) (id : MethodName)
    (descent : Hierarchy.Descent := .breadthFirst) : List MethodName :=
  match p.method? id with
  | none => []
  | some m =>
    (h.subtypes id.owner descent).filterMap fun sub =>
      match (p.class? sub).bind (·.method? id.name) with
      | some override =>
        if override.params.length == m.params.length then some override.id else none
      | none => none

def overrides (p : Program) (id : MethodName) (descent : Hierarchy.Descent := .breadthFirst) :
    List MethodName :=
  p.overridesIn p.hierarchy id descent

/-- What the solver needs to know of the calls of a program. -/
def dispatch (p : Program) (banned : List String) (descent : Hierarchy.Descent := .breadthFirst) :
    Dispatch Statement MethodName :=
  let h := p.hierarchy
  { callSite := p.callSite?
    overrides := fun id => p.overridesIn h id descent
    declaringType := fun id => id.owner
    isSubtype := fun sub super => h.isSubtype sub super descent
    banned }

/-- The methods that a method may call: the declared callees, and the overrides of those of virtual
calls. -/
def callees (p : Program) (id : MethodName) (descent : Hierarchy.Descent := .breadthFirst) :
    List MethodName :=
  match p.method? id with
  | none => []
  | some m =>
    let h := p.hierarchy
    Text.distinct (m.statements.flatMap fun s =>
      match p.callSite? s with
      | none => []
      | some site =>
        site.callees.flatMap fun callee =>
          callee :: if site.isVirtual then p.overridesIn h callee descent else [])

/-! ### Entries -/

/-- There is no such method. -/
structure UnknownMethod where
  name : String
deriving Repr, DecidableEq

def UnknownMethod.message (error : UnknownMethod) : String :=
  Text.quoted error.name ++ ": unknown method"

def method (p : Program) (qualified : String) : Except UnknownMethod Method :=
  match p.find? qualified with
  | some m => .ok m
  | none => .error ⟨qualified⟩

/-- The methods with the given names; without names every method called `main` that has a body. -/
def entryMethods (p : Program) (names : List String) : Except UnknownMethod (List Method) :=
  if names.isEmpty then .ok (p.methods.filter fun m => m.id.name == "main" && !m.isAbstract)
  else names.mapM p.method

end Program

end Tabulation
