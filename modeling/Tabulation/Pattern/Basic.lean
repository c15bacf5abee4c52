/-
Patterns: what can stand in a text, one character, condition, sequence, choice or repetition at a
time.
-/

import Tabulation.Pattern.CharSet

namespace Tabulation

/-- A condition on a place in a text. -/
inductive Anchor where
  | textStart
  | textEnd
  | lineStart
  | lineEnd
  | wordBoundary
  | insideWord
deriving Repr, DecidableEq

/-- Whether a condition holds between two neighbours; there is none past the ends of the text. -/
def Anchor.holdsBetween (previous next : Option Nat) : Anchor → Bool
  | .textStart => previous.isNone
  | .textEnd => next.isNone
  | .lineStart => previous.all (· == 0x0A)
  | .lineEnd => next.all (· == 0x0A)
  | .wordBoundary => isBoundary
  | .insideWord => !isBoundary
where
  /-- Whether exactly one of the neighbours is a word character. -/
  isBoundary : Bool :=
    previous.any Pattern.wordChars.contains != next.any Pattern.wordChars.contains

/-- A repetition without counts. -/
inductive Loop where
  | star
  | plus
  | optional
deriving Repr, DecidableEq

/-- A pattern. A repetition that is lazy prefers fewer rounds. -/
inductive Pattern where
  | empty
  | literal (ignoreCase : Bool) (codes : List Nat)
  | oneOf (members : Pattern.CharSet)
  | anchor (condition : Anchor)
  /-- A group that a reader could refer to. -/
  | group (body : Pattern)
  | sequence (parts : List Pattern)
  | choice (parts : List Pattern)
  | loop (operator : Loop) (lazy : Bool) (body : Pattern)
  | counted (lazy : Bool) (body : Pattern) (least : Nat) (most : Option Nat)
deriving Repr, Inhabited

namespace Pattern

/-! ### Patterns without counts -/

/-- Repeats a pattern. Nothing stays nothing, and the same loop twice is one loop. -/
def looped (operator : Loop) (lazy : Bool) (body : Pattern) : Pattern :=
  match body with
  | .empty => body
  | .loop inner innerLazy _ =>
    if inner = operator ∧ innerLazy = lazy then body else .loop operator lazy body
  | _ => .loop operator lazy body

/-- Up to `count + 1` rounds of a body, each within the one before. -/
def upTo (lazy : Bool) (body : Pattern) : Nat → Pattern
  | 0 => looped .optional lazy body
  | count + 1 => looped .optional lazy (.sequence [body, upTo lazy body count])

def writtenOut (lazy : Bool) (body : Pattern) (least : Nat) (most : Option Nat) : Pattern :=
  match most with
  | none =>
    if least = 0 then looped .star lazy body
    else if least = 1 then looped .plus lazy body
    else .sequence (List.replicate (least - 1) body ++ [looped .plus lazy body])
  | some most =>
    if most = 0 then .empty
    else if least = 1 ∧ most = 1 then body
    else if most ≤ least then .sequence (List.replicate least body)
    else if least = 0 then upTo lazy body (most - 1)
    else .sequence (List.replicate least body ++ [upTo lazy body (most - least - 1)])

mutual

def simplified : Pattern → Pattern
  | .group body => .group (simplified body)
  | .sequence parts => .sequence (simplifiedAll parts)
  | .choice parts => .choice (simplifiedAll parts)
  | .loop operator lazy body => looped operator lazy (simplified body)
  | .counted lazy body least most => writtenOut lazy (simplified body) least most
  | pattern => pattern

/-- Some patterns with all their counts written out. -/
def simplifiedAll : List Pattern → List Pattern
  | [] => []
  | part :: rest => simplified part :: simplifiedAll rest

end

end Pattern

end Tabulation
