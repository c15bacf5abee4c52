/-
Code identifiers name methods by package, type and method. A reference identifier matches by
patterns once they are compiled, and by equality before; its empty fields match everything.
-/

import Tabulation.Pattern.Parser
import Tabulation.Text.Quoted

namespace Tabulation

/-- The name of a code element. -/
structure CodeId where
  package : String := ""
  type : String := ""
  method : String := ""
deriving Repr, DecidableEq, Inhabited

/-- The compiled fields of a reference identifier. -/
structure CodePatterns where
  package : Pattern.Machine
  type : Pattern.Machine
  method : Pattern.Machine
deriving Repr, DecidableEq

/-- A reference identifier: what a source, sink or sanitizer looks like. -/
structure CodeSpec where
  id : CodeId := {}
  patterns : Option CodePatterns := none
deriving Repr, DecidableEq, Inhabited

/-- A field of an identifier that is no pattern. -/
structure PatternError where
  field : String
  cause : Pattern.Error
deriving Repr, DecidableEq

namespace CodeSpec

def compileField (field : String) : Except PatternError Pattern.Machine :=
  match Pattern.Machine.ofText field with
  | .ok machine => .ok machine
  | .error cause => .error { field, cause }

/-- Compiles the fields of an identifier; the first field that is no pattern is the error. -/
def compile (id : CodeId) : Except PatternError CodeSpec := do
  let package ← compileField id.package
  let type ← compileField id.type
  let method ← compileField id.method
  return { id, patterns := some { package, type, method } }

def fieldMatches (machine : Option Pattern.Machine) (reference field : String) : Bool :=
  reference == "" ||
    match machine with
    | some machine => machine.isMatch field
    | none => field == reference

/-- Whether an identifier is matched by a reference identifier. -/
def covers (spec : CodeSpec) (id : CodeId) : Bool :=
  fieldMatches (spec.patterns.map CodePatterns.package) spec.id.package id.package &&
    fieldMatches (spec.patterns.map CodePatterns.method) spec.id.method id.method &&
    fieldMatches (spec.patterns.map CodePatterns.type) spec.id.type id.type

end CodeSpec

/-- A taint problem: its sources, sinks and sanitizers. -/
structure TaintProblem where
  sanitizers : List CodeSpec := []
  sinks : List CodeSpec := []
  sources : List CodeSpec := []
deriving Repr, DecidableEq, Inhabited

namespace TaintProblem

def isSource (problem : TaintProblem) (id : CodeId) : Bool := problem.sources.any (·.covers id)

def isSink (problem : TaintProblem) (id : CodeId) : Bool := problem.sinks.any (·.covers id)

def isSanitizer (problem : TaintProblem) (id : CodeId) : Bool := problem.sanitizers.any (·.covers id)

end TaintProblem

end Tabulation
