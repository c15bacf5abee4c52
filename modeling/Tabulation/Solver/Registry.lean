/-
The analyzers and resolvers of the runners, made on first use.
-/

import Tabulation.Solver.Dispatch
import Tabulation.Text.Quoted

namespace Tabulation

variable {S F M : Type}

/-- Why a runner has no analyzer or no resolver. -/
inductive RegistryError where
  /-- No analyzer is known for the runner. -/
  | unknownRunner (runner : String)
  /-- The resolver of the runner could not be made. -/
  | resolver (runner cause : String)
deriving Repr, DecidableEq

def RegistryError.message : RegistryError → String
  | .unknownRunner runner => "analyzer for runner " ++ Text.quoted runner ++ ": unknown runner"
  | .resolver runner cause => "indirection resolver for runner " ++ Text.quoted runner ++ ": " ++ cause

/-- The policy that answers the questions for callees: a pure function of the runner and the edge of a
question. -/
structure Indirection (S F M : Type) where
  resolve : (runner : String) → Edge S F → Except String (List (Message S F M))

/-- The policy that answers with a dispatch, and never fails. -/
def Dispatch.indirection [DecidableEq M] (dispatch : Dispatch S M) : Indirection S F M where
  resolve runner edge := .ok (dispatch.answer runner edge)

/-- The way to answer questions for callees: with a policy, or not at all. -/
abbrev Resolver (S F M : Type) := Option (Indirection S F M)

/-- The analyzers and resolvers of all runners. -/
structure Registry (S F M : Type) where
  analyzers : List (String × Analyzer S F M)
  /-- The resolver that all runners share. -/
  resolver : Resolver S F M
  /-- The runners whose resolver cannot be made, with the cause. -/
  withoutResolver : List (String × String) := []

namespace Registry

def analyzer (registry : Registry S F M) (runner : String) : Except RegistryError (Analyzer S F M) :=
  match registry.analyzers.lookup runner with
  | some analyzer => .ok analyzer
  | none => .error (.unknownRunner runner)

def resolverOf (registry : Registry S F M) (runner : String) : Except RegistryError (Resolver S F M) :=
  match registry.withoutResolver.lookup runner with
  | some cause => .error (.resolver runner cause)
  | none => .ok registry.resolver

end Registry

/-- How often things were made under a name. What was made once is kept; a failure is not, and the next
use tries again. -/
structure FirstUse where
  attempts : List (String × Nat) := []
  made : List String := []
deriving Repr, DecidableEq

/-- Uses the thing with a name, which making gives or not; the result counts the attempts. -/
def FirstUse.use (uses : FirstUse) (name : String) (canBeMade : Bool) : Nat × FirstUse :=
  let before := (uses.attempts.lookup name).getD 0
  if uses.made.contains name then (before, uses)
  else
    (before + 1,
      { attempts := (name, before + 1) :: uses.attempts
        made := if canBeMade then name :: uses.made else uses.made })

end Tabulation
