/-
Matching by a machine. A text is read once from the left with the set of all instructions that wait
for its next character, unless the program can be read in a single pass.
-/

import Tabulation.Pattern.SinglePass

namespace Tabulation.Pattern

/-- A machine: its program, and the reading in a single pass if there is one. -/
structure Machine where
  program : Program
  singlePass : Option SinglePass
deriving Repr, DecidableEq

namespace Machine

def ofPattern (pattern : Pattern) : Machine :=
  let program := Program.ofPattern pattern
  { program, singlePass := SinglePass.ofProgram? program }

/-- The instructions reached at one place of the text: the last place at which each was reached,
those that wait for a character, and whether the text matches. -/
structure Reached where
  lastSeen : Array Nat
  waiting : List Instruction := []
  accepted : Bool := false

/-- Reaches the instructions on a stack and all that follow them without a character, each once at
a place. Every instruction is taken at most once and puts at most two on the stack, which bounds the
steps by `fuel`. -/
def reach (code : Code) (place : Nat) (previous next : Option Nat) :
    Nat → List Nat → Reached → Reached
  | 0, _, reached => reached
  | _, [], reached => reached
  | fuel + 1, number :: stack, reached =>
    if reached.lastSeen[number]? == some place then reach code place previous next fuel stack reached
    else
      let { lastSeen, waiting, accepted } := reached
      let lastSeen := lastSeen.setIfInBounds number place
      match (code[number]?).getD .fail with
      | .fail => reach code place previous next fuel stack { lastSeen, waiting, accepted }
      | .accept => { lastSeen, waiting, accepted := true }
      | .char char after =>
        reach code place previous next fuel stack
          { lastSeen, waiting := .char char after :: waiting, accepted }
      | .oneOf members after =>
        reach code place previous next fuel stack
          { lastSeen, waiting := .oneOf members after :: waiting, accepted }
      | .anchor condition after =>
        reach code place previous next fuel
          (if condition.holdsBetween previous next then after :: stack else stack)
          { lastSeen, waiting, accepted }
      | .fork first second =>
        reach code place previous next fuel (first :: second :: stack)
          { lastSeen, waiting, accepted }
      | .pass after | .mark after =>
        reach code place previous next fuel (after :: stack) { lastSeen, waiting, accepted }

/-- The instruction behind one that takes a character, if it takes this one. -/
def after? (code : Nat) : Instruction → Option Nat
  | .char char next => if char == code then some next else none
  | .oneOf members next => if members.contains code then some next else none
  | _ => none

/-- Reads a text from a place on. `stack` holds the instructions that the last character led to; a
match may also start here. -/
def run (program : Program) : (place : Nat) → (previous : Option Nat) → (stack : List Nat) →
    (lastSeen : Array Nat) → List Nat → Bool
  | place, previous, stack, lastSeen, text =>
    let fuel := 2 * program.code.size + stack.length + 2
    let { lastSeen, waiting, accepted } :=
      reach program.code place previous text.head? fuel (stack ++ [program.start]) { lastSeen }
    if accepted then true
    else
      match text with
      | [] => false
      | code :: rest =>
        run program (place + 1) (some code) (waiting.filterMap (after? code)) lastSeen rest

def isMatch (machine : Machine) (text : String) : Bool :=
  match machine.singlePass with
  | some pass => pass.isMatch text
  | none =>
    run machine.program 1 none [] (Array.replicate machine.program.code.size 0)
      ((Text.scalars text).map Char.toNat)

end Machine

end Tabulation.Pattern
