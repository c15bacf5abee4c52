/-
Programs that read a text in a single pass. A program that matches whole texts only is read without
looking ahead when the next character decides at every fork which way to go.

Such a program compares the fixed characters at its start in their written form, where a code point
that cannot be written stands for the replacement character.
-/

import Tabulation.Pattern.Program
import Tabulation.Text.Bytes

namespace Tabulation.Pattern

/-- The characters that lead to an instruction: all from the first to the last one. -/
structure Branch where
  first : Nat
  last : Nat
  target : Nat
deriving Repr, DecidableEq

/-- The ways out of a fork: by the next character, in increasing order, and without one. -/
structure Choice where
  branches : List Branch := []
  otherwise : Option Nat := none
deriving Repr, DecidableEq, Inhabited

def Choice.next? (choice : Choice) (code : Nat) : Option Nat :=
  (choice.branches.find? fun branch => branch.first ≤ code && code ≤ branch.last).map Branch.target

/-- The branches of two instructions together, unless a character leads to both. `above` is the
lowest code that may come next. -/
def mergedBranches (above : Nat) : (left right : List Branch) → Option (List Branch)
  | [], [] => some []
  | a :: left, [] => take a (mergedBranches (a.last + 1) left [])
  | [], b :: right => take b (mergedBranches (b.last + 1) [] right)
  | a :: left, b :: right =>
    if b.first < a.first then take b (mergedBranches (b.last + 1) (a :: left) right)
    else take a (mergedBranches (a.last + 1) left (b :: right))
termination_by left right => left.length + right.length
where
  /-- Puts a branch before others, if it is not below them. -/
  take (branch : Branch) (rest : Option (List Branch)) : Option (List Branch) :=
    if above ≤ branch.first then rest.map (branch :: ·) else none

/-! ### Which programs can be read so -/

namespace Program

def isAccept (program : Program) (number : Nat) : Bool :=
  program.code[number]? == some .accept

/-- The instruction after the start of the text, if a program tests for it first. -/
def afterTextStart? (program : Program) : Option Nat :=
  match program.code[program.start]? with
  | some (.anchor .textStart next) => some next
  | _ => none

/-- Whether a program matches whole texts only: it starts at the start of the text, and it accepts at
its end. Without a fork it may also accept after a character. -/
def isWhole (program : Program) : Bool :=
  let hasFork := program.code.any fun instruction =>
    match instruction with
    | .fork _ _ => true
    | _ => false
  program.afterTextStart?.isSome && program.code.all fun instruction =>
    match instruction with
    | .fork first second => !(program.isAccept first || program.isAccept second)
    | .anchor condition next => !program.isAccept next || condition == .textEnd
    | _ => !(hasFork && program.isAccept instruction.next)

end Program

/-- The ways of the forks, by the number of the instruction. -/
abbrev Forks := Array (Option (Nat × Nat))

namespace Forks

def ofProgram (program : Program) : Forks :=
  program.code.map fun instruction =>
    match instruction with
    | .fork first second => some (first, second)
    | _ => none

/-- The ways of an instruction, if it is a fork. -/
def ways? (forks : Forks) (number : Nat) : Option (Nat × Nat) := (forks[number]?).getD none

/-- The way of a fork that is a fork too, the other one, and whether the fork is the second way. A
fork with two forks behind it has none. -/
def innerFork? (forks : Forks) (number : Nat) : Option (Nat × Nat × Bool) := do
  let (first, second) ← forks.ways? number
  match forks.ways? first, forks.ways? second with
  | none, some _ => some (second, first, true)
  | some _, none => some (first, second, false)
  | _, _ => none

/-- Shortens the ways of a fork through the fork behind it: where that one leads back, it leaves
instead, and where both leave to the same place, the outer fork goes to the rest. -/
def shorten (forks : Forks) (number : Nat) : Forks :=
  match forks.innerFork? number with
  | none => forks
  | some (inner, other, isSecond) =>
    match forks.ways? inner with
    | none => forks
    | some (first, second) =>
      let leadTo := fun (forks : Forks) (target : Nat) =>
        forks.setIfInBounds number (some (if isSecond then (other, target) else (target, other)))
      if first == number then leadTo (forks.setIfInBounds inner (some (other, second))) second
      else if second == number then leadTo (forks.setIfInBounds inner (some (first, other))) first
      else if other == first then leadTo forks second
      else forks

def shortened (forks : Forks) : Forks := (List.range forks.size).foldl shorten forks

end Forks

/-- What is known of the instructions while a program is looked through: whether they were seen since
the last character, whether they accept without a further character, the characters that can come
next, and the choices of the forks. `waiting` are the instructions after a character that are not
looked at yet, and `noticed` says which were put there. -/
structure Survey where
  forks : Forks
  seen : Array Bool
  accepting : Array Bool
  leads : Array (List (Nat × Nat))
  choices : Array Choice
  known : Array Bool
  waiting : List Nat
  noticed : Array Bool

namespace Survey

/-- The survey of a program that was not looked at yet. -/
def start (program : Program) : Survey :=
  let no := Array.replicate program.code.size false
  { forks := (Forks.ofProgram program).shortened
    seen := no
    accepting := no
    leads := Array.replicate program.code.size []
    choices := Array.replicate program.code.size {}
    known := no
    waiting := [program.start]
    noticed := no.setIfInBounds program.start true }

/-- Whether an instruction accepts without a further character. -/
def accepts (survey : Survey) (number : Nat) : Bool := (survey.accepting[number]?).getD false

def branchesTo (survey : Survey) (number : Nat) : List Branch :=
  ((survey.leads[number]?).getD []).map fun range => ⟨range.1, range.2, number⟩

/-- An instruction that goes on without a character does what the next one does. -/
def follow (survey : Survey) (number next : Nat) : Survey :=
  { survey with
    accepting := survey.accepting.setIfInBounds number (survey.accepts next)
    leads := survey.leads.setIfInBounds number ((survey.leads[next]?).getD []) }

/-- An instruction that takes a character; the one behind it has to be looked at later. -/
def take (survey : Survey) (number next : Nat) (ranges : List (Nat × Nat)) : Survey :=
  if (survey.known[number]?).getD true then survey
  else
    { survey with
      known := survey.known.setIfInBounds number true
      leads := survey.leads.setIfInBounds number ranges
      waiting :=
        if (survey.noticed[next]?).getD true then survey.waiting else survey.waiting ++ [next]
      noticed := survey.noticed.setIfInBounds next true }

/-- A fork whose ways were looked at. At most one of them accepts, which then comes first, and no
character leads both ways. -/
def decide? (survey : Survey) (number first second : Nat) : Option Survey := do
  if survey.accepts first && survey.accepts second then none
  let (first, second) := if survey.accepts second then (second, first) else (first, second)
  let accepts := survey.accepts first
  let branches ← mergedBranches 0 (survey.branchesTo first) (survey.branchesTo second)
  some { survey with
    forks := survey.forks.setIfInBounds number (some (first, second))
    accepting :=
      if accepts then survey.accepting.setIfInBounds number true else survey.accepting
    leads := survey.leads.setIfInBounds number
      (branches.map fun branch => (branch.first, branch.last))
    choices := survey.choices.setIfInBounds number
      { branches, otherwise := if accepts then some first else none } }

/-- Looks at an instruction and at all that follow it without a character, each of them once; so
their number bounds the depth `fuel`. -/
def visit? (code : Code) : (fuel number : Nat) → Survey → Option Survey
  | 0, _, survey => some survey
  | fuel + 1, number, survey =>
    if (survey.seen[number]?).getD true then some survey
    else do
      let survey := { survey with seen := survey.seen.setIfInBounds number true }
      match (code[number]?).getD .fail with
      | .fork _ _ =>
        let (first, second) := (survey.forks.ways? number).getD (0, 0)
        let survey ← visit? code fuel first survey
        let survey ← visit? code fuel second survey
        survey.decide? number first second
      | .anchor _ next | .pass next | .mark next =>
        let survey ← visit? code fuel next survey
        some (survey.follow number next)
      | .accept => some { survey with accepting := survey.accepting.setIfInBounds number true }
      | .fail => some survey
      | .char char next => some (survey.take number next [(char, char)])
      | .oneOf members next => some (survey.take number next members.ranges.toList)

/-- Looks at all instructions that wait. Each is noticed once, which bounds the steps by `fuel`. -/
def complete? (code : Code) : Nat → Survey → Option Survey
  | 0, survey => some survey
  | fuel + 1, survey =>
    match survey.waiting with
    | [] => some survey
    | number :: waiting => do
      let fresh := { survey with waiting, seen := Array.replicate code.size false }
      complete? code fuel (← visit? code (code.size + 1) number fresh)

end Survey

/-! ### Reading -/

def replacementCode : Nat := 0xFFFD

/-- Whether a code point is half of a pair and cannot be written alone. -/
def isSurrogate (code : Nat) : Bool := Nat.ble 0xD800 code && Nat.ble code 0xDFFF

/-- A program that is read in a single pass: its instructions, the choices of the forks, the
characters that have to come first, and the instruction behind them. -/
structure SinglePass where
  code : Code
  choices : Array Choice
  opening : List Nat
  afterOpening : Nat
deriving Repr, DecidableEq

namespace SinglePass

/-- Steps over instructions that do nothing. -/
def skipPasses (code : Code) : Nat → Nat → Nat
  | 0, number => number
  | fuel + 1, number =>
    match code[number]? with
    | some (.pass next) => skipPasses code fuel next
    | _ => number

/-- The fixed characters from an instruction on in their written form, and the instruction behind
them. The replacement character itself is not among them. -/
def fixedFrom (code : Code) : Nat → Nat → List Nat × Nat
  | 0, number => ([], number)
  | fuel + 1, number =>
    match code[number]? with
    | some (.char char next) =>
      if char == replacementCode then ([], number)
      else
        let (chars, last) := fixedFrom code fuel next
        ((if isSurrogate char then replacementCode else char) :: chars, last)
    | _ => ([], number)

/-- The largest number of instructions that is looked through. -/
def maxInstructions : Nat := 1000

/-- The reading of a program in a single pass, if there is one. -/
def ofProgram? (program : Program) : Option SinglePass := do
  if !program.isWhole || maxInstructions ≤ program.code.size then none
  let code := program.code
  let survey ← Survey.complete? code (code.size + 1) (.start program)
  let next ← program.afterTextStart?
  let (chars, last) := fixedFrom code code.size (skipPasses code code.size next)
  some
    { code
      choices := survey.choices
      opening := chars
      afterOpening := if chars.isEmpty then program.start else last }

/-- Reads a text from an instruction on. Between two characters no instruction comes twice, which
bounds the steps by `fuel`. -/
def run (pass : SinglePass) : (fuel number : Nat) → (previous : Option Nat) → List Nat → Bool
  | 0, _, _, _ => false
  | fuel + 1, number, previous, text =>
    let onChar := fun (takes : Nat → Bool) (next : Nat) =>
      match text with
      | c :: rest => takes c && pass.run fuel next (some c) rest
      | [] => false
    match (pass.code[number]?).getD .fail with
    | .accept => true
    | .fail => false
    | .char char next => onChar (· == char) next
    | .oneOf members next => onChar members.contains next
    | .anchor condition next =>
      condition.holdsBetween previous text.head? && pass.run fuel next previous text
    | .pass next | .mark next => pass.run fuel next previous text
    | .fork _ _ =>
      let choice := (pass.choices[number]?).getD {}
      match (text.head?.bind choice.next?).or choice.otherwise with
      | some next => pass.run fuel next previous text
      | none => false

def isMatch (pass : SinglePass) (text : String) : Bool :=
  let units := Text.units text
  let opening := pass.opening.map fun code => Text.TextUnit.scalar (Char.ofNat code)
  let rest := (units.drop opening.length).map fun unit => unit.toChar.toNat
  opening.isPrefixOf units &&
    pass.run ((pass.code.size + 1) * (rest.length + 1)) pass.afterOpening pass.opening.getLast? rest

end SinglePass

end Tabulation.Pattern
