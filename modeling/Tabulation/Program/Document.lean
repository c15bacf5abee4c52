/-
Reading a program: its document, the checks of each class in the order of the document, and the check of
the class hierarchy.
-/

import Tabulation.Digraph.Components
import Tabulation.Files
import Tabulation.Program.Basic
import Tabulation.Text.Quoted
import Tabulation.Yaml.Decode

namespace Tabulation

open Tabulation.Yaml (Decode ReadError)
open Tabulation.Text (Bytes quoted)

inductive InstructionFault where
  | assignOperands
  | constOperand
  | calleeForm (callee : String)
  | virtualReceiver
  | branchOperands
  | jumpTargets
  | unknownOperation (name : String)
  | strayTargets
  | targetRange (target : Int)
  | notLast
deriving Repr, DecidableEq

inductive ProgramFault where
  | namelessClass
  | classTwice (name : String)
  | ownSuper (name : String)
  | methodTwice (id : MethodName)
  | methodName (name owner : String)
  | abstractBody (id : MethodName)
  | noBody (id : MethodName)
  | instruction (place : Statement) (fault : InstructionFault)
  | cycle (classes : List String)
deriving Repr, DecidableEq

def InstructionFault.message : InstructionFault → String
  | .assignOperands => "assign needs lhs and rhs"
  | .constOperand => "const needs lhs"
  | .calleeForm callee => "callee " ++ quoted callee ++ " is not of the form Class.method"
  | .virtualReceiver => "virtual call without receiver"
  | .branchOperands => "if needs cond and targets"
  | .jumpTargets => "goto needs targets"
  | .unknownOperation name => "unknown op " ++ quoted name
  | .strayTargets => "only if and goto have targets"
  | .targetRange target => "target " ++ toString target ++ " out of range"
  | .notLast => "the last instruction must be a return or a goto"

def ProgramFault.message : ProgramFault → String
  | .namelessClass => "class without a name"
  | .classTwice name => "class " ++ name ++ " is declared twice"
  | .ownSuper name => "class " ++ name ++ " extends itself"
  | .methodTwice id => "method " ++ id.text ++ " is declared twice"
  | .methodName name owner => "invalid method name " ++ quoted name ++ " in class " ++ owner
  | .abstractBody id => "abstract method " ++ id.text ++ " has a body"
  | .noBody id => "method " ++ id.text ++ " has no instructions"
  | .instruction place fault => place.text ++ ": " ++ fault.message
  | .cycle classes => "cyclic class hierarchy through " ++ ", ".intercalate classes

/-- Why a program could not be read. -/
inductive ProgramError where
  | unreadable (cause : ReadError)
  | invalid (program : String) (fault : ProgramFault)
  | file (cause : FileError)
  /-- The file behind an address could not be read. -/
  | address (address : String) (cause : FileError)
deriving Repr, DecidableEq

def ProgramError.message : ProgramError → String
  | .unreadable _ => "could not unmarshal program file: yaml"
  | .invalid program fault => program ++ ": " ++ fault.message ++ ": invalid program"
  | .file cause => "could not read program file: " ++ cause.message
  | .address name cause => "could not download program " ++ name ++ ": " ++ cause.message

namespace Program

/-! ### The document -/

/-- An instruction as it is written down. -/
structure InstructionText where
  operation : String := ""
  lhs : String := ""
  rhs : String := ""
  value : String := ""
  callee : String := ""
  args : List String := []
  isVirtual : Bool := false
  receiver : String := ""
  receiverType : String := ""
  condition : String := ""
  targets : List Int := []
deriving Repr, DecidableEq

/-- A method as it is written down. -/
structure MethodText where
  name : String := ""
  params : List String := []
  isStatic : Bool := false
  isAbstract : Bool := false
  body : List InstructionText := []
deriving Repr, DecidableEq

/-- A class as it is written down. -/
structure ClassText where
  name : String := ""
  super : String := ""
  interfaces : List String := []
  methods : List MethodText := []
deriving Repr, DecidableEq

def textList : Decode.Reader (List String) := Decode.list Decode.string

def instructionFields : Decode.Fields InstructionText
  | "op" => some (Decode.field Decode.string fun i v => { i with operation := v })
  | "lhs" => some (Decode.field Decode.string fun i v => { i with lhs := v })
  | "rhs" => some (Decode.field Decode.string fun i v => { i with rhs := v })
  | "value" => some (Decode.field Decode.string fun i v => { i with value := v })
  | "callee" => some (Decode.field Decode.string fun i v => { i with callee := v })
  | "args" => some (Decode.field textList fun i v => { i with args := v })
  | "virtual" => some (Decode.field Decode.bool fun i v => { i with isVirtual := v })
  | "receiver" => some (Decode.field Decode.string fun i v => { i with receiver := v })
  | "receiver-type" => some (Decode.field Decode.string fun i v => { i with receiverType := v })
  | "cond" => some (Decode.field Decode.string fun i v => { i with condition := v })
  | "targets" => some (Decode.field (Decode.list Decode.int) fun i v => { i with targets := v })
  | _ => none

def methodFields : Decode.Fields MethodText
  | "name" => some (Decode.field Decode.string fun m v => { m with name := v })
  | "params" => some (Decode.field textList fun m v => { m with params := v })
  | "static" => some (Decode.field Decode.bool fun m v => { m with isStatic := v })
  | "abstract" => some (Decode.field Decode.bool fun m v => { m with isAbstract := v })
  | "body" => some
      (Decode.field (Decode.list (Decode.record instructionFields {})) fun m v => { m with body := v })
  | _ => none

def classFields : Decode.Fields ClassText
  | "name" => some (Decode.field Decode.string fun c v => { c with name := v })
  | "super" => some (Decode.field Decode.string fun c v => { c with super := v })
  | "interfaces" => some (Decode.field textList fun c v => { c with interfaces := v })
  | "methods" => some
      (Decode.field (Decode.list (Decode.record methodFields {})) fun c v => { c with methods := v })
  | _ => none

def programFields : Decode.Fields (List ClassText)
  | "classes" => some (Decode.field (Decode.list (Decode.record classFields {})) fun _ v => v)
  | _ => none

/-! ### Checks -/

/-- The instruction that is meant, without its targets. -/
def instructionOf (text : InstructionText) : Except InstructionFault Instruction :=
  let targets := text.targets.map Int.toNat
  match text.operation with
  | "assign" =>
    if text.lhs == "" || text.rhs == "" then .error .assignOperands
    else .ok (.assign text.lhs text.rhs)
  | "const" => if text.lhs == "" then .error .constOperand else .ok (.const text.lhs text.value)
  | "call" =>
    let (calleeClass, calleeName) := splitAtLastDot text.callee
    if !text.callee.toList.contains '.' then .error (.calleeForm text.callee)
    else if text.isVirtual && text.receiver == "" then .error .virtualReceiver
    else
      .ok (.call
        { lhs := text.lhs, calleeClass, calleeName, args := text.args, isVirtual := text.isVirtual
          receiver := text.receiver
          receiverType :=
            if text.isVirtual && text.receiverType == "" then calleeClass else text.receiverType })
  | "if" =>
    if text.condition == "" || targets.isEmpty then .error .branchOperands
    else .ok (.branch text.condition targets)
  | "goto" => if targets.isEmpty then .error .jumpTargets else .ok (.jump targets)
  | "return" => .ok (.ret text.rhs)
  | "nop" => .ok .nop
  | other => .error (.unknownOperation other)

def takesTargets : Instruction → Bool
  | .branch .. | .jump _ => true
  | _ => false

def checkInstruction (size : Nat) (text : InstructionText) :
    Except InstructionFault Instruction := do
  let instruction ← instructionOf text
  if !text.targets.isEmpty && !takesTargets instruction then throw .strayTargets
  match text.targets.find? fun target => target < 0 || (size : Int) ≤ target with
  | some target => throw (.targetRange target)
  | none => return instruction

def mayEnd : Instruction → Bool
  | .ret _ | .jump _ => true
  | _ => false

def checkBody (id : MethodName) (size : Nat) :
    (position : Nat) → List InstructionText → Except ProgramFault (List Instruction)
  | _, [] => .ok []
  | position, text :: rest => do
    let instruction ←
      (checkInstruction size text).mapError (.instruction ⟨id, position⟩)
    let others ← checkBody id size (position + 1) rest
    return instruction :: others

def checkMethod (owner : String) (text : MethodText) : Except ProgramFault Method := do
  let id : MethodName := ⟨owner, text.name⟩
  if text.name == "" || text.name.toList.contains '.' then throw (.methodName text.name owner)
  if text.isAbstract then
    if !text.body.isEmpty then throw (.abstractBody id)
  else if text.body.isEmpty then throw (.noBody id)
  let body ← checkBody id text.body.length 0 text.body
  match body.getLast? with
  | some last => if !mayEnd last then throw (.instruction ⟨id, body.length - 1⟩ .notLast)
  | none => pure ()
  return { id, params := text.params, isStatic := text.isStatic, isAbstract := text.isAbstract, body }

/-- Checks methods of a class one after the other; `known` are those before. -/
def checkMethods (owner : String) : (known : List Method) → List MethodText →
    Except ProgramFault (List Method)
  | known, [] => .ok known
  | known, text :: rest => do
    let m ← checkMethod owner text
    if known.any (·.id == m.id) then throw (.methodTwice m.id)
    checkMethods owner (known ++ [m]) rest

/-- Checks a class; `known` are those before. -/
def checkClass (known : List Class) (text : ClassText) : Except ProgramFault Class := do
  if text.name == "" then throw .namelessClass
  if known.any (·.name == text.name) then throw (.classTwice text.name)
  if text.super == text.name then throw (.ownSuper text.name)
  let methods ← checkMethods text.name [] text.methods
  return { name := text.name, super := text.super, interfaces := text.interfaces, methods }

/-- Checks classes one after the other; `known` are those before. -/
def checkClasses : (known : List Class) → List ClassText → Except ProgramFault (List Class)
  | known, [] => .ok known
  | known, text :: rest => do
    let c ← checkClass known text
    checkClasses (known ++ [c]) rest

/-- The first cycle of the hierarchy, if there is one, when `find` gives the components of a graph. -/
def cycle? (h : Hierarchy) (find : Digraph String → List (List Nat)) : Option (List String) :=
  (Digraph.componentsOf (h.names.length + 1) h.types h.supers find).find? fun component =>
    Nat.blt 1 component.length

/-! ### Loading -/

def ofText (name : String) (classes : List ClassText)
    (find : Digraph String → List (List Nat) := Digraph.components) :
    Except ProgramFault Program := do
  let program : Program := { name, classes := ← checkClasses [] classes }
  match cycle? program.hierarchy find with
  | some classes => throw (.cycle classes)
  | none => return program

def loadContent (name : String) (content : Bytes)
    (find : Digraph String → List (List Nat) := Digraph.components) :
    Except ProgramError Program := do
  let classes ← (Yaml.read programFields [] content).mapError .unreadable
  (ofText name classes find).mapError (.invalid name)

def addressPath (address : String) : String :=
  let scheme := "file://"
  if address.startsWith scheme then Text.Path.clean (address.drop scheme.length).toString
  else address

def isAddress (name : String) : Bool := Nat.blt 1 (name.splitOn "://").length

def load {m : Type → Type} [Monad m] (files : Files m) (name : String) :
    m (Except ProgramError Program) := do
  if isAddress name then
    match ← files.read (addressPath name) with
    | .error cause => return .error (.address name cause)
    | .ok content => return loadContent name content
  else
    match ← files.read name with
    | .error cause => return .error (.file cause)
    | .ok content => return loadContent name content

end Program

end Tabulation
