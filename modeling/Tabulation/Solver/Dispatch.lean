/-
The callees of a call. A call names the methods it was declared with; a virtual call may reach their
overrides as well.
-/

import Tabulation.Config.Basic
import Tabulation.Solver.Flow

namespace Tabulation

variable {S F M : Type}

/-- A call as it stands in the program. -/
structure CallSite (M : Type) where
  /-- The declared callees. -/
  callees : List M := []
  /-- Whether the type of the receiver at run time chooses the callee. -/
  isVirtual : Bool := false
  receiverType : String := ""
deriving Repr, DecidableEq

/-- What is known of the calls and the types of a program. -/
structure Dispatch (S M : Type) where
  callSite : S → Option (CallSite M)
  /-- The methods that override a method. -/
  overrides : M → List M
  /-- The name of the type that declares a method. -/
  declaringType : M → String
  isSubtype : (sub super : String) → Bool
  /-- The starts of the names of types whose methods are left out. -/
  banned : List String := []

namespace Dispatch

def bans (dispatch : Dispatch S M) (method : M) : Bool :=
  isBanned dispatch.banned (dispatch.declaringType method)

/-- Whether an override can be reached through a receiver: the types must be related. -/
def isCompatible (dispatch : Dispatch S M) (receiverType : String) (method : M) : Bool :=
  let declaring := dispatch.declaringType method
  dispatch.isSubtype declaring receiverType || dispatch.isSubtype receiverType declaring

/-- The methods that a declared callee stands for. -/
def targets (dispatch : Dispatch S M) (site : CallSite M) (declared : M) : List M :=
  if dispatch.bans declared then []
  else if !site.isVirtual then [declared]
  else
    declared :: (dispatch.overrides declared).filter fun method =>
      !dispatch.bans method && dispatch.isCompatible site.receiverType method

/-- The callees of a call, each once. -/
def callees [DecidableEq M] (dispatch : Dispatch S M) (site : CallSite M) : List M :=
  Text.distinct (site.callees.flatMap (dispatch.targets site))

/-- What a question for callees came to. -/
inductive Resolution (M : Type) where
  | noCallSite
  | callees (methods : List M)
deriving Repr, DecidableEq

def resolve [DecidableEq M] (dispatch : Dispatch S M) (s : S) : Resolution M :=
  match dispatch.callSite s with
  | none => .noCallSite
  | some site => .callees (dispatch.callees site)

def Resolution.methods : Resolution M → List M
  | .noCallSite => []
  | .callees methods => methods

/-- What is worth a line in the most detailed log. -/
def Resolution.note? [Shown S] (s : S) : Resolution M → Option String
  | .noCallSite => some ("no call site at " ++ Shown.text s)
  | .callees [] => some ("no callee for call at " ++ Shown.text s)
  | .callees (_ :: _) => none

/-- The answer to the question for the callees of the call at the target of an edge: one message for
each callee. -/
def answer [DecidableEq M] (dispatch : Dispatch S M) (runner : String) (edge : Edge S F) :
    List (Message S F M) :=
  (dispatch.resolve edge.target.statement).methods.map (.resolvedCall runner edge)

end Dispatch

end Tabulation
