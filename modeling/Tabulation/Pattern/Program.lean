/-
Programs of patterns. A pattern becomes a list of numbered instructions, each of which names the ones
that follow it. The first instruction of every program fails, so that number zero leads nowhere.
-/

import Tabulation.Pattern.Basic

namespace Tabulation.Pattern

/-- One instruction; the instructions that follow it are given by their numbers. -/
inductive Instruction where
  | fail
  /-- The text matches. -/
  | accept
  /-- Takes one fixed character. -/
  | char (code next : Nat)
  /-- Takes one character of a set. -/
  | oneOf (members : CharSet) (next : Nat)
  /-- Goes on where a condition holds. -/
  | anchor (condition : Anchor) (next : Nat)
  /-- Goes on both ways. -/
  | fork (first second : Nat)
  /-- Goes on. -/
  | pass (next : Nat)
  /-- Goes on where a group starts or ends. -/
  | mark (next : Nat)
deriving Repr, DecidableEq, Inhabited

/-- The instruction with another follower: the second one of a fork, or the first one. -/
def Instruction.leadingTo (target : Nat) (isSecond : Bool) : Instruction → Instruction
  | .char code _ => .char code target
  | .oneOf members _ => .oneOf members target
  | .anchor condition _ => .anchor condition target
  | .fork first second => if isSecond then .fork first target else .fork target second
  | .pass _ => .pass target
  | .mark _ => .mark target
  | instruction => instruction

/-- The instruction that follows, the first one of a fork. -/
def Instruction.next : Instruction → Nat
  | .char _ next | .oneOf _ next | .anchor _ next | .fork next _ | .pass next | .mark next => next
  | .fail | .accept => 0

/-- The instructions so far. -/
abbrev Code := Array Instruction

/-- A piece of a program: where it starts, the followers that are still open (the instruction, and
whether it is the second follower), and whether it can be passed without a character. -/
structure Fragment where
  entry : Nat
  exits : List (Nat × Bool)
  nullable : Bool
deriving Repr

namespace Fragment

def single (code : Code) (instruction : Instruction) (nullable : Bool) : Fragment × Code :=
  (⟨code.size, [(code.size, false)], nullable⟩, code.push instruction)

def close (exits : List (Nat × Bool)) (target : Nat) (code : Code) : Code :=
  exits.foldl (fun code exit => code.modify exit.1 (Instruction.leadingTo target exit.2)) code

def andThen (first second : Fragment) (code : Code) : Fragment × Code :=
  (⟨first.entry, second.exits, first.nullable && second.nullable⟩,
    close first.exits second.entry code)

def orElse (first second : Fragment) (code : Code) : Fragment × Code :=
  (⟨code.size, second.exits ++ first.exits, first.nullable || second.nullable⟩,
    code.push (.fork first.entry second.entry))

/-- A fork between a piece and what follows it; a lazy one prefers to leave. -/
def branch (lazy : Bool) (entry : Nat) : Instruction := if lazy then .fork 0 entry else .fork entry 0

/-- A piece or nothing. -/
def optional (lazy : Bool) (body : Fragment) (code : Code) : Fragment × Code :=
  (⟨code.size, (code.size, !lazy) :: body.exits, true⟩, code.push (branch lazy body.entry))

/-- A piece any number of times, which may be left before it starts. -/
def around (lazy : Bool) (body : Fragment) (code : Code) : Fragment × Code :=
  let fork := code.size
  (⟨fork, [(fork, !lazy)], true⟩, close body.exits fork (code.push (branch lazy body.entry)))

def plus (lazy : Bool) (body : Fragment) (code : Code) : Fragment × Code :=
  let (rounds, code) := around lazy body code
  (⟨body.entry, rounds.exits, body.nullable⟩, code)

/-- A piece any number of times. One that can be passed without a character is entered at least
once, or not at all. -/
def star (lazy : Bool) (body : Fragment) (code : Code) : Fragment × Code :=
  if body.nullable then
    let (rounds, code) := plus lazy body code
    optional lazy rounds code
  else around lazy body code

def loop (operator : Loop) (lazy : Bool) (body : Fragment) (code : Code) : Fragment × Code :=
  match operator with
  | .star => star lazy body code
  | .plus => plus lazy body code
  | .optional => optional lazy body code

end Fragment

/-- The instruction that takes a character, or one that is equal to it up to case. -/
def charInstruction (ignoreCase : Bool) (code : Nat) : Instruction :=
  let equals := if ignoreCase then Text.Fold.orbit code else [code]
  if Nat.ble equals.length 1 then .char code 0
  else .oneOf (.ofRanges (equals.map fun c => (c, c))) 0

/-- Compiles the characters after those of a piece. -/
def compileCodes (ignoreCase : Bool) : List Nat → Fragment → Code → Fragment × Code
  | [], before, code => (before, code)
  | c :: rest, before, code =>
    let (char, code) := Fragment.single code (charInstruction ignoreCase c) false
    let (joined, code) := before.andThen char code
    compileCodes ignoreCase rest joined code

mutual

/-- Compiles a pattern without counts. -/
def compile : Pattern → Code → Fragment × Code
  | .literal ignoreCase (c :: rest), code =>
    let (char, code) := Fragment.single code (charInstruction ignoreCase c) false
    compileCodes ignoreCase rest char code
  | .oneOf members, code => Fragment.single code (.oneOf members 0) false
  | .anchor condition, code => Fragment.single code (.anchor condition 0) true
  | .group body, code =>
    let (first, code) := Fragment.single code (.mark 0) true
    let (inner, code) := compile body code
    let (last, code) := Fragment.single code (.mark 0) true
    let (joined, code) := first.andThen inner code
    joined.andThen last code
  | .sequence (part :: rest), code =>
    let (first, code) := compile part code
    compileSequence rest first code
  | .choice (part :: rest), code =>
    let (first, code) := compile part code
    compileChoice rest first code
  | .loop operator lazy body, code =>
    let (inner, code) := compile body code
    Fragment.loop operator lazy inner code
  | _, code => Fragment.single code (.pass 0) true

def compileSequence : List Pattern → Fragment → Code → Fragment × Code
  | [], before, code => (before, code)
  | part :: rest, before, code =>
    let (next, code) := compile part code
    let (joined, code) := before.andThen next code
    compileSequence rest joined code

def compileChoice : List Pattern → Fragment → Code → Fragment × Code
  | [], before, code => (before, code)
  | part :: rest, before, code =>
    let (next, code) := compile part code
    let (joined, code) := before.orElse next code
    compileChoice rest joined code

end

/-- A compiled pattern: its instructions and the number of the first one. -/
structure Program where
  code : Code
  start : Nat
deriving Repr, DecidableEq

def Program.ofPattern (pattern : Pattern) : Program :=
  let (whole, code) := compile pattern.simplified #[.fail]
  { code := Fragment.close whole.exits code.size (code.push .accept), start := whole.entry }

end Tabulation.Pattern
