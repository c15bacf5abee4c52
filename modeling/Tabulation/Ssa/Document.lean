/-
Reading a program in static single assignment form from a document.
-/

import Tabulation.Ssa.Basic
import Tabulation.Yaml.Decode

namespace Tabulation.Ssa

open Tabulation.Yaml (Decode ReadError)

structure InvocationText where
  interface : String := ""
  interfaceName : String := ""
  method : String := ""
  package : Option String := none
deriving Repr

structure CallText where
  target : Int := 0
  args : List Int := []
  invocation : Option InvocationText := none
  callee : Option Int := none
deriving Repr

structure InstructionText where
  kind : String := ""
  operands : List Int := []
  value : Option Int := none
  position : List String := []
  call : CallText := {}
  address : Int := 0
  stored : Int := 0
  map : Int := 0
  key : Int := 0
  channel : Int := 0
  sent : Int := 0
  results : List Int := []
deriving Repr

structure ValueText where
  name : String := ""
  kind : String := ""
  base : Int := 0
  function : Int := 0
  bindings : List Int := []
deriving Repr

def numbers : Decode.Reader (List Int) := Decode.list Decode.int

def texts : Decode.Reader (List String) := Decode.list Decode.string

def positions (numbers : List Int) : List Nat := numbers.map Int.toNat

def positionOf : List String → Position
  | [file, line, column] => ⟨file, (line.toNat?).getD 0, (column.toNat?).getD 0⟩
  | _ => {}

def invocationFields : Decode.Fields InvocationText
  | "iface" => some (Decode.field Decode.string fun i v => { i with interface := v })
  | "iface_name" => some (Decode.field Decode.string fun i v => { i with interfaceName := v })
  | "method" => some (Decode.field Decode.string fun i v => { i with method := v })
  | "method_package" => some (Decode.field Decode.string fun i v => { i with package := some v })
  | _ => none

def callFields : Decode.Fields CallText
  | "value" => some (Decode.field Decode.int fun c v => { c with target := v })
  | "args" => some (Decode.field numbers fun c v => { c with args := v })
  | "invoke" => some
      (Decode.field (Decode.record invocationFields {}) fun c v => { c with invocation := some v })
  | "static" => some (Decode.field Decode.int fun c v => { c with callee := some v })
  | _ => none

def instructionFields : Decode.Fields InstructionText
  | "kind" => some (Decode.field Decode.string fun i v => { i with kind := v })
  | "operands" => some (Decode.field numbers fun i v => { i with operands := v })
  | "value" => some (Decode.field Decode.int fun i v => { i with value := some v })
  | "pos" => some (Decode.field texts fun i v => { i with position := v })
  | "call" => some (Decode.field (Decode.record callFields {}) fun i v => { i with call := v })
  | "addr" => some (Decode.field Decode.int fun i v => { i with address := v })
  | "val" => some (Decode.field Decode.int fun i v => { i with stored := v })
  | "map" => some (Decode.field Decode.int fun i v => { i with map := v })
  | "key" => some (Decode.field Decode.int fun i v => { i with key := v })
  | "chan" => some (Decode.field Decode.int fun i v => { i with channel := v })
  | "x" => some (Decode.field Decode.int fun i v => { i with sent := v })
  | "results" => some (Decode.field numbers fun i v => { i with results := v })
  | _ => none

def callOf (text : CallText) : CallInstruction where
  target := text.target.toNat
  args := positions text.args
  invocation := text.invocation.map fun i => ⟨i.interface, i.interfaceName, i.method, i.package⟩
  callee := text.callee.map Int.toNat

def actionOf (text : InstructionText) : Action :=
  match text.kind with
  | "Call" => .call (callOf text.call)
  | "Store" => .store text.address.toNat text.stored.toNat
  | "MapUpdate" => .mapUpdate text.map.toNat text.key.toNat text.stored.toNat
  | "Send" => .send text.channel.toNat text.sent.toNat
  | "Return" => .ret (positions text.results)
  | _ => .other

def instructionOf (text : InstructionText) : Instruction where
  action := actionOf text
  operands := positions text.operands
  value := text.value.map Int.toNat
  position := positionOf text.position

def blockFields : Decode.Fields Block
  | "succs" => some (Decode.field numbers fun b v => { b with successors := positions v })
  | "instrs" => some
      (Decode.field (Decode.list (Decode.record instructionFields {})) fun b v =>
        { b with instructions := v.map instructionOf })
  | _ => none

def receiverFields : Decode.Fields Receiver
  | "name" => some (Decode.field Decode.string fun r v => { r with name := v })
  | "type" => some (Decode.field Decode.string fun r v => { r with type := v })
  | "method" => some (Decode.field Decode.bool fun r v => { r with isDeclared := v })
  | _ => none

def functionFields : Decode.Fields Function
  | "str" => some (Decode.field Decode.string fun f v => { f with text := v })
  | "name" => some (Decode.field Decode.string fun f v => { f with name := v })
  | "package" => some (Decode.field Decode.string fun f v => { f with package := some v })
  | "object_package" => some
      (Decode.field Decode.string fun f v => { f with objectPackage := some v })
  | "origin_package" => some
      (Decode.field Decode.string fun f v => { f with originPackage := some v })
  | "parent" => some (Decode.field Decode.int fun f v => { f with parent := some v.toNat })
  | "recv" => some
      (Decode.field (Decode.record receiverFields ⟨"", "", false⟩) fun f v =>
        { f with receiver := some v })
  | "listed" => some (Decode.field Decode.bool fun f v => { f with isListed := v })
  | "params" => some (Decode.field numbers fun f v => { f with params := positions v })
  | "free_vars" => some (Decode.field numbers fun f v => { f with freeVars := positions v })
  | "blocks" => some
      (Decode.field (Decode.list (Decode.record blockFields ⟨[], []⟩)) fun f v =>
        { f with blocks := v })
  | _ => none

def blankFunction : Function := ⟨"", "", none, none, none, none, none, false, [], [], []⟩

def valueFields : Decode.Fields ValueText
  | "name" => some (Decode.field Decode.string fun v x => { v with name := x })
  | "kind" => some (Decode.field Decode.string fun v x => { v with kind := x })
  | "x" => some (Decode.field Decode.int fun v x => { v with base := x })
  | "function" => some (Decode.field Decode.int fun v x => { v with function := x })
  | "bindings" => some (Decode.field numbers fun v x => { v with bindings := x })
  | _ => none

def valueOf (text : ValueText) : Value where
  name := text.name
  origin :=
    match text.kind with
    | "FieldAddr" | "IndexAddr" => .address text.base.toNat
    | "MakeClosure" => .closure text.function.toNat (positions text.bindings)
    | _ => .other

/-- The method with a name and its numbers: the function, which may be missing, and the depth. -/
def methodEntry (name : String) : List Int → MethodEntry
  | [function, depth] => ⟨name, some function.toNat, depth.toNat⟩
  | [depth] => ⟨name, none, depth.toNat⟩
  | _ => ⟨name, none, 0⟩

/-- The fields of a set of methods: every name is one. -/
def methodSetFields : Decode.Fields (List MethodEntry) := fun name =>
  some (Decode.field numbers fun entries v => entries ++ [methodEntry name v])

def typeFields : Decode.Fields NamedType
  | "str" => some (Decode.field Decode.string fun t v => { t with text := v })
  | "embeds" => some (Decode.field texts fun t v => { t with embeds := v })
  | "methods" => some
      (Decode.field (Decode.record methodSetFields []) fun t v => { t with methods := v })
  | "pointer_methods" => some
      (Decode.field (Decode.record methodSetFields []) fun t v => { t with pointerMethods := v })
  | _ => none

/-- The fields of the table of implementers: every name is an interface. -/
def implementerFields : Decode.Fields (List (String × List String)) := fun name =>
  some (Decode.field texts fun rows v => rows ++ [(name, v)])

def commentOf : List String → Comment
  | [file, line, text] => ⟨⟨file, (line.toNat?).getD 0, 0⟩, text⟩
  | _ => ⟨{}, ""⟩

def programFields : Decode.Fields Program
  | "functions" => some
      (Decode.field (Decode.list (Decode.record functionFields blankFunction)) fun p v =>
        { p with functions := v.toArray })
  | "values" => some
      (Decode.field (Decode.list (Decode.record valueFields {})) fun p v =>
        { p with values := (v.map valueOf).toArray })
  | "types" => some
      (Decode.field (Decode.list (Decode.record typeFields ⟨"", [], [], []⟩)) fun p v =>
        { p with types := v })
  | "implements" => some
      (Decode.field (Decode.record implementerFields []) fun p v => { p with implementers := v })
  | "scope" => some (Decode.field texts fun p v => { p with scope := v })
  | "comments" => some
      (Decode.field (Decode.list texts) fun p v => { p with comments := v.map commentOf })
  | _ => none

def Program.ofDocument (document : Yaml.Document) : Except ReadError Program :=
  document.decode programFields {}

end Tabulation.Ssa
