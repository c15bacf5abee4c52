/-
Programs made of classes. A class has at most one super class, any number of interfaces, and methods
whose bodies are lists of instructions over local variables. Variables hold values: no instruction
changes a variable of another method.
-/

import Tabulation.Hierarchy
import Tabulation.Solver.Edge

namespace Tabulation

/-- Splits a text at its last dot. Without a dot the first part is empty. -/
def splitAtLastDot (text : String) : String × String :=
  let last := text.toList.reverse.takeWhile (· != '.')
  let rest := (text.toList.reverse.drop last.length).drop 1
  (String.ofList rest.reverse, String.ofList last.reverse)

/-- A call. The empty name stands for none. -/
structure Call where
  /-- The variable that takes the result. -/
  lhs : String
  /-- The class of the declared callee and its name in the class. -/
  calleeClass : String
  calleeName : String
  args : List String
  /-- Whether the class of the receiver at run time chooses the callee. -/
  isVirtual : Bool
  receiver : String
  receiverType : String
deriving Repr, DecidableEq, Inhabited

def Call.callee (call : Call) : String := call.calleeClass ++ "." ++ call.calleeName

/-- An instruction. Targets are positions in the body. -/
inductive Instruction where
  | assign (lhs rhs : String)
  | const (lhs value : String)
  | call (call : Call)
  /-- The empty name stands for a return without a value. -/
  | ret (value : String)
  /-- Goes on behind the instruction or to one of the targets. -/
  | branch (condition : String) (targets : List Nat)
  | jump (targets : List Nat)
  | nop
deriving Repr, DecidableEq, Inhabited

namespace Instruction

def operation : Instruction → String
  | .assign .. => "assign"
  | .const .. => "const"
  | .call _ => "call"
  | .ret _ => "return"
  | .branch .. => "if"
  | .jump _ => "goto"
  | .nop => "nop"

def uses : Instruction → List String
  | .assign _ rhs => [rhs]
  | .ret value => if value == "" then [] else [value]
  | .call c => if c.receiver == "" then c.args else c.receiver :: c.args
  | .branch condition _ => [condition]
  | .const .. | .jump _ | .nop => []

/-- The variable that is written. The empty name stands for none. -/
def defines : Instruction → String
  | .assign lhs _ | .const lhs _ => lhs
  | .call c => c.lhs
  | .ret _ | .branch .. | .jump _ | .nop => ""

def next (position : Nat) : Instruction → List Nat
  | .ret _ => []
  | .jump targets => targets
  | .branch _ targets => (position + 1) :: targets.filter (· != position + 1)
  | .assign .. | .const .. | .call _ | .nop => [position + 1]

def isCall : Instruction → Bool
  | .call _ => true
  | _ => false

def isReturn : Instruction → Bool
  | .ret _ => true
  | _ => false

end Instruction

/-- The name of a method: the class that declares it and its name there. -/
structure MethodName where
  owner : String
  name : String
deriving Repr, DecidableEq, Inhabited, Hashable

def MethodName.text (id : MethodName) : String := id.owner ++ "." ++ id.name

instance : Shown MethodName where
  text := MethodName.text
  typeName := "method"

/-- A place in a program: a position in the body of a method. -/
structure Statement where
  method : MethodName
  position : Nat
deriving Repr, DecidableEq, Inhabited, Hashable

def Statement.text (s : Statement) : String := s.method.text ++ ":" ++ toString s.position

instance : Shown Statement where
  text := Statement.text
  typeName := "statement"

def receiverName : String := "this"

/-- A method. An abstract method has no body. -/
structure Method where
  id : MethodName
  params : List String
  isStatic : Bool
  isAbstract : Bool
  body : List Instruction
deriving Repr, DecidableEq, Inhabited

namespace Method

/-- All parameters; the receiver of a method that is not static comes first. -/
def parameters (m : Method) : List String :=
  if m.isStatic then m.params else receiverName :: m.params

def statements (m : Method) : List Statement :=
  (List.range m.body.length).map fun position => ⟨m.id, position⟩

/-- The first statement. An abstract method has none. -/
def entries (m : Method) : List Statement := m.statements.take 1

def exits (m : Method) : List Statement :=
  ((m.statements.zip m.body).filter fun place => place.2.isReturn).map (·.1)

end Method

structure Class where
  /-- The qualified name of the class. -/
  name : String
  super : String
  interfaces : List String
  methods : List Method
deriving Repr, DecidableEq, Inhabited

namespace Class

def package (c : Class) : String := (splitAtLastDot c.name).1

def simpleName (c : Class) : String := (splitAtLastDot c.name).2

def method? (c : Class) (name : String) : Option Method := c.methods.find? (·.id.name == name)

end Class

/-- A program. `name` says where it was read from. -/
structure Program where
  name : String
  classes : List Class
deriving Repr, DecidableEq, Inhabited

namespace Program

def class? (p : Program) (name : String) : Option Class := p.classes.find? (·.name == name)

def sortedClasses (p : Program) : List Class :=
  Text.sortBy (fun a b => Text.textBefore a.name b.name) p.classes

/-- The methods in the order of their qualified names. -/
def methods (p : Program) : List Method :=
  Text.sortBy (fun a b => Text.textBefore a.id.text b.id.text) (p.classes.flatMap (·.methods))

def method? (p : Program) (id : MethodName) : Option Method :=
  (p.class? id.owner).bind (·.method? id.name)

def find? (p : Program) (qualified : String) : Option Method :=
  let (owner, name) := splitAtLastDot qualified
  if owner == "" then none else p.method? ⟨owner, name⟩

def instruction? (p : Program) (s : Statement) : Option Instruction :=
  (p.method? s.method).bind fun m => m.body[s.position]?

def hierarchy (p : Program) : Hierarchy :=
  p.classes.foldl (fun h c => h.addType c.name (c.super :: c.interfaces)) .empty

end Program

end Tabulation
