/-
Programs in static single assignment form. A function is a list of blocks of instructions, an
instruction may define a value, and values never change once defined. Functions and values are named
by their positions in the program.
-/

import Tabulation.Config.Identifier
import Tabulation.Solver.Edge

namespace Tabulation.Ssa

/-- What a value was made from, as far as the analysis looks through it. -/
inductive ValueOrigin where
  /-- The address of a part of what another value points to. -/
  | address (base : Nat)
  /-- A function with values for its free variables. -/
  | closure (function : Nat) (bindings : List Nat)
  | other
deriving Repr, DecidableEq, Inhabited

structure Value where
  name : String
  origin : ValueOrigin
deriving Repr, DecidableEq, Inhabited

/-- A call through an interface. -/
structure Invocation where
  /-- The interface type of the receiver, written out. -/
  interface : String
  /-- The name of the interface; empty if it has none. -/
  interfaceName : String
  method : String
  /-- The package of the method, if it has one. -/
  package : Option String
deriving Repr, DecidableEq, Inhabited

structure CallInstruction where
  /-- The function that is called, or the receiver of a call through an interface. -/
  target : Nat
  args : List Nat
  invocation : Option Invocation
  /-- The function that is called, if it is known without running the program. -/
  callee : Option Nat
deriving Repr, DecidableEq, Inhabited

/-- What an instruction does beside defining a value. -/
inductive Action where
  | call (call : CallInstruction)
  | store (address value : Nat)
  | mapUpdate (map key value : Nat)
  | send (channel value : Nat)
  | ret (results : List Nat)
  | other
deriving Repr, DecidableEq, Inhabited

/-- A place in a source file. Lines are counted from one; line zero means that it is not known. -/
structure Position where
  file : String := ""
  line : Nat := 0
  column : Nat := 0
deriving Repr, DecidableEq, Inhabited

def Position.text (p : Position) : String :=
  if p.line == 0 then (if p.file == "" then "-" else p.file)
  else
    let column := if p.column == 0 then "" else ":" ++ toString p.column
    (if p.file == "" then "" else p.file ++ ":") ++ toString p.line ++ column

structure Instruction where
  action : Action
  operands : List Nat
  /-- The value that the instruction defines. -/
  value : Option Nat
  position : Position
deriving Repr, DecidableEq, Inhabited

/-- A block: instructions in order, and the blocks that may come next. -/
structure Block where
  successors : List Nat
  instructions : List Instruction
deriving Repr, DecidableEq, Inhabited

structure Receiver where
  /-- The name of its type; empty if it has none. -/
  name : String
  /-- Its type written out; empty if it has no name. -/
  type : String
  /-- Whether the method is declared in the sources. -/
  isDeclared : Bool
deriving Repr, DecidableEq, Inhabited

structure Function where
  /-- The qualified name. -/
  text : String
  name : String
  package : Option String
  /-- The package of what was declared in the sources. -/
  objectPackage : Option String
  /-- The package of the generic function that this one is an instance of. -/
  originPackage : Option String
  /-- The function around an anonymous one. -/
  parent : Option Nat
  receiver : Option Receiver
  /-- Whether the function can be reached in the program. -/
  isListed : Bool
  params : List Nat
  freeVars : List Nat
  blocks : List Block
deriving Repr, DecidableEq, Inhabited

/-- A method of a type: the function, if there is one, and how deep it lies in embedded types. -/
structure MethodEntry where
  name : String
  function : Option Nat
  depth : Nat
deriving Repr, DecidableEq, Inhabited

structure NamedType where
  text : String
  /-- The named types that it embeds. -/
  embeds : List String
  methods : List MethodEntry
  /-- The methods of pointers to it. -/
  pointerMethods : List MethodEntry
deriving Repr, DecidableEq, Inhabited

structure Comment where
  position : Position
  text : String
deriving Repr, DecidableEq, Inhabited

structure Program where
  functions : Array Function := #[]
  values : Array Value := #[]
  types : List NamedType := []
  /-- The types, and pointers to types, that implement an interface. -/
  implementers : List (String × List String) := []
  /-- The packages that are analyzed. -/
  scope : List String := []
  comments : List Comment := []
deriving Repr, Inhabited

/-- A function of a program by its position and qualified name. -/
structure FunctionRef where
  id : Nat
  text : String
deriving Repr, DecidableEq, Inhabited, Hashable

instance : Shown FunctionRef where
  text := FunctionRef.text
  typeName := "function"

/-- A place in a program. -/
structure Statement where
  function : FunctionRef
  block : Nat
  position : Nat
deriving Repr, DecidableEq, Inhabited, Hashable

def Statement.text (s : Statement) : String :=
  s.function.text ++ "#" ++ toString s.block ++ "." ++ toString s.position

instance : Shown Statement where
  text := Statement.text
  typeName := "instruction"

/-- A fact: a tainted value by its position and name, or the fact that holds wherever a function is
reachable. -/
inductive Fact where
  | zero
  | value (id : Nat) (name : String)
deriving Repr, DecidableEq, Inhabited, Hashable

def Fact.name : Fact → String
  | .zero => "0"
  | .value _ name => name

instance : Shown Fact where
  text
    | .zero => "0"
    | .value id name => name ++ "@" ++ toString id
  typeName := "value"

/-! ### Names and packages -/

/-- The package in the name of a made-up function such as `(pkg.T).Error`; empty for other names. -/
def packageOfErrorMethod (text : String) : String :=
  if text.endsWith ").Error" then
    let inner := ((text.dropEnd 7).toString.dropPrefix "(").toString
    let inner := (inner.dropPrefix "*").toString
    let parts := inner.splitOn "."
    ".".intercalate parts.dropLast
  else ""

/-- The package of a function: its own, or the one of what was declared. -/
def Function.packageName (f : Function) : String :=
  (f.package.or f.objectPackage).getD (packageOfErrorMethod f.text)

/-- The name of the type of the receiver; empty if there is none. -/
def Function.receiverName (f : Function) : String := (f.receiver.map Receiver.name).getD ""

/-- The package with the type of the receiver, if there is one. -/
def Function.declaringType (f : Function) : String :=
  if f.receiverName == "" then f.packageName else f.packageName ++ "." ++ f.receiverName

def Function.codeId (f : Function) : CodeId :=
  { package := f.packageName, type := f.receiverName, method := f.name }

namespace Program

def function? (p : Program) (id : Nat) : Option Function := p.functions[id]?

def ref? (p : Program) (id : Nat) : Option FunctionRef :=
  (p.function? id).map fun f => ⟨id, f.text⟩

def fact (p : Program) (id : Nat) : Fact := .value id ((p.values[id]?).map Value.name |>.getD "")

/-- The function around all functions in which one is declared. `fuel` bounds the depth. -/
def outermostFrom (p : Program) : (fuel : Nat) → Function → Function
  | 0, f => f
  | fuel + 1, f =>
    match f.parent.bind p.function? with
    | some outer => p.outermostFrom fuel outer
    | none => f

def outermost (p : Program) (f : Function) : Function := p.outermostFrom p.functions.size f

/-- Whether a function has a body and belongs to the packages that are analyzed. -/
def isAnalyzed (p : Program) (id : Nat) : Bool :=
  match p.function? id with
  | none => false
  | some f =>
    !f.blocks.isEmpty &&
      (((p.outermost f).package.or f.originPackage).any fun package => p.scope.contains package)

/-- The analyzed functions in the order of their qualified names. -/
def analyzed (p : Program) : List FunctionRef :=
  Text.sortBy (fun a b => Text.textBefore a.text b.text)
    ((List.range p.functions.size).filterMap fun id =>
      match p.function? id with
      | some f => if f.isListed && p.isAnalyzed id then some ⟨id, f.text⟩ else none
      | none => none)

def instruction? (p : Program) (s : Statement) : Option Instruction :=
  ((p.function? s.function.id).bind fun f => f.blocks[s.block]?).bind fun block =>
    block.instructions[s.position]?

def statements (p : Program) (ref : FunctionRef) : List Statement :=
  match p.function? ref.id with
  | none => []
  | some f =>
    f.blocks.zipIdx.flatMap fun (block, number) =>
      (List.range block.instructions.length).map fun position => ⟨ref, number, position⟩

def call? (p : Program) (s : Statement) : Option CallInstruction :=
  match (p.instruction? s).map Instruction.action with
  | some (.call call) => some call
  | _ => none

/-- The package of the callee of a call, if it is known. -/
def calleePackage? (p : Program) (call : CallInstruction) : Option String :=
  match call.invocation with
  | some invocation => invocation.package
  | none =>
    match call.callee.bind p.function? with
    | some f => if f.packageName == "" then none else some f.packageName
    | none => none

/-- The identifier of the callee of a call. The type of a call through an interface is the
interface; of a call of some other value only its name is known. -/
def calleeId (p : Program) (call : CallInstruction) : CodeId :=
  match call.invocation with
  | some invocation =>
    { package := invocation.package.getD "", type := invocation.interfaceName
      method := invocation.method }
  | none =>
    match call.callee.bind p.function? with
    | some f => f.codeId
    | none =>
      { package := (p.calleePackage? call).getD "", type := ""
        method := ((p.values[call.target]?).map Value.name).getD "" }

end Program

/-- The arguments of a call; the receiver of a call through an interface comes first. -/
def CallInstruction.allArgs (call : CallInstruction) : List Nat :=
  if call.invocation.isSome then call.target :: call.args else call.args

end Tabulation.Ssa
