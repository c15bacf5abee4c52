/-
The graphs of a program in static single assignment form: control flow, the methods that implement an
interface, and the methods that shadow a method of an embedded type.
-/

import Tabulation.Program.Partition
import Tabulation.Solver.Dispatch
import Tabulation.Ssa.Basic

namespace Tabulation.Ssa

namespace Program

/-! ### Control flow -/

/-- The statements that may come next: the next one of the block, or the first ones of the blocks after
it. -/
def successors (p : Program) (s : Statement) : List Statement :=
  match p.function? s.function.id with
  | none => []
  | some f =>
    match f.blocks[s.block]? with
    | none => []
    | some block =>
      if Nat.blt (s.position + 1) block.instructions.length then [{ s with position := s.position + 1 }]
      else
        (Text.distinct block.successors).filterMap fun next =>
          match f.blocks[next]? with
          | some target => if target.instructions.isEmpty then none else some ⟨s.function, next, 0⟩
          | none => none

def entries (p : Program) (ref : FunctionRef) : List Statement :=
  match (p.function? ref.id).bind fun f => f.blocks[0]? with
  | some block => if block.instructions.isEmpty then [] else [⟨ref, 0, 0⟩]
  | none => []

def isReturn (p : Program) (s : Statement) : Bool :=
  match (p.instruction? s).map Instruction.action with
  | some (.ret _) => true
  | _ => false

def flowGraph (p : Program) : FlowGraph Statement FunctionRef where
  methodOf s := s.function
  successors := p.successors
  entries := p.entries
  exits ref := (p.statements ref).filter p.isReturn
  isCall s := (p.call? s).isSome

/-! ### Types -/

/-- The types that embed a type, directly or not, in breadth-first order. -/
def embedders (p : Program) (base : String) : List NamedType :=
  let names := Text.sortTexts (p.types.map NamedType.text)
  let next := fun (name : String) => names.filter fun candidate =>
    p.types.any fun t => t.text == candidate && t.embeds.contains name
  ((Search.reach (names.length + 1) next [base]).filter (· != base)).filterMap fun name =>
    p.types.find? fun t => t.text == name

def implementersOf (p : Program) (interface : String) : List String :=
  (p.implementers.lookup interface).getD []

/-- The function that a type, or a pointer to it, has for the method of an interface. -/
def methodOf? (p : Program) (typeText method : String) : Option Nat :=
  let isPointer := typeText.startsWith "*"
  let name := if isPointer then (typeText.drop 1).toString else typeText
  ((p.types.find? fun t => t.text == name).bind fun t =>
    (if isPointer then t.pointerMethods else t.methods).find? fun entry => entry.name == method).bind
      MethodEntry.function

/-- The functions that implement a method of an interface, in the order of the types. -/
def implementations (p : Program) (interface method : String) : List Nat :=
  let concrete := Text.sortTexts (p.types.flatMap fun t => [t.text, "*" ++ t.text])
  let implementing := concrete.filter fun t => (p.implementersOf interface).contains t
  Text.distinct (implementing.filterMap fun t => p.methodOf? t method)

/-- The methods of the same name that types declare which embed the type of a method. -/
def shadowing (p : Program) (f : Function) : List Nat :=
  match f.receiver with
  | none => []
  | some receiver =>
    if !receiver.isDeclared || receiver.type == "" then []
    else
      Text.distinct ((p.embedders receiver.type).filterMap fun t =>
        (t.pointerMethods.find? fun entry => entry.name == f.name && entry.depth == 1).bind
          MethodEntry.function)

/-- Whether `sub` is `super`, embeds it, or implements it as one of the known interfaces. -/
def isSubtypeAmong (p : Program) (interfaces : List String) (sub super : String) : Bool :=
  let isNamed := fun (name : String) => p.types.any fun t => t.text == name
  sub == super ||
    (isNamed sub &&
      if isNamed super then (p.embedders super).any fun t => t.text == sub
      else interfaces.contains super &&
        ((p.implementersOf super).contains sub || (p.implementersOf super).contains ("*" ++ sub)))

/-- Whether `sub` is `super`, embeds it or implements it. -/
def isSubtype (p : Program) (sub super : String) : Bool :=
  p.isSubtypeAmong (p.implementers.map Prod.fst) sub super

/-! ### Calls -/

def analyzedOf (p : Program) (ids : List Nat) : List FunctionRef :=
  (ids.filter p.isAnalyzed).filterMap p.ref?

/-- The analyzed functions that a call may reach, overrides apart. -/
def callees (p : Program) (call : CallInstruction) : List FunctionRef :=
  p.analyzedOf
    (match call.invocation with
      | some invocation => p.implementations invocation.interface invocation.method
      | none => call.callee.toList)

/-- The call at a statement. A call through an interface is virtual. -/
def callSite? (p : Program) (s : Statement) : Option (CallSite FunctionRef) :=
  (p.call? s).map fun call =>
    { callees := p.callees call
      isVirtual := call.invocation.isSome
      receiverType := (call.invocation.map Invocation.interface).getD "" }

def overrides (p : Program) (ref : FunctionRef) : List FunctionRef :=
  match p.function? ref.id with
  | some f => p.analyzedOf (p.shadowing f)
  | none => []

/-- What the solver needs to know of the calls of a program. -/
def dispatch (p : Program) (banned : List String) : Dispatch Statement FunctionRef where
  callSite := p.callSite?
  overrides := p.overrides
  declaringType ref := ((p.function? ref.id).map Function.declaringType).getD ""
  isSubtype := p.isSubtype
  banned := banned

/-- The methods of interfaces that are looked up when the call sites at some statements are asked for:
the interface and the method. -/
def lookups (p : Program) (statements : List Statement) : List (String × String) :=
  Text.distinct (statements.filterMap fun s =>
    ((p.call? s).bind CallInstruction.invocation).map fun i => (i.interface, i.method))

/-! ### Chunks -/

/-- The chunk of a statement. An anonymous function is in the chunk of the function around it. -/
def chunkOf (p : Program) (strategy : ChunkStrategy) (s : Statement) : String :=
  match (p.function? s.function.id).map p.outermost with
  | none => ""
  | some f =>
    match strategy with
    | .byClass => f.declaringType
    | .byPackage => f.packageName
    | .byMethod => f.text
    | .hashed buckets => ChunkStrategy.bucket buckets f.declaringType

/-! ### Functions by name -/

/-- There is no such function among the analyzed ones. -/
structure UnknownFunction where
  name : String
deriving Repr, DecidableEq

def UnknownFunction.message (error : UnknownFunction) : String :=
  "function " ++ Text.quoted error.name ++ " not found in the analyzed packages"

def functionNamed (p : Program) (name : String) : Except UnknownFunction FunctionRef :=
  match p.analyzed.find? fun ref => ref.text == name with
  | some ref => .ok ref
  | none => .error ⟨name⟩

end Program

end Tabulation.Ssa
