/-
Drafts: patterns while they are put together. A node of a draft may have its size and its height
noted, and a note stays as it is when the node changes later, until it is taken anew.
-/

import Tabulation.Pattern.Basic

namespace Tabulation.Pattern

/-- The options that a pattern can switch. -/
structure Flags where
  ignoreCase : Bool := false
  manyLines : Bool := false
  dotAll : Bool := false
  /-- Whether repetitions are lazy unless they say otherwise. -/
  lazy : Bool := false
deriving Repr, DecidableEq

/-- What a node of a draft is. -/
inductive Form where
  | empty
  /-- Fixed characters; their codes are listed last first. -/
  | literal (reversed : List Nat)
  /-- A set, as the union of some sets. -/
  | set (pieces : List CharSet)
  | notLineEnd
  | anyChar
  | anchor (condition : Anchor)
  | group
  | loop (operator : Loop)
  | counted (least : Nat) (most : Option Nat)
  | sequence
  | choice
  /-- A bar behind the alternatives so far. -/
  | bar
  /-- The opening of a group. -/
  | opening (captures : Bool)
deriving Repr, DecidableEq

/-- A node of a draft with the nodes below it and what was noted of it. -/
structure Draft where
  form : Form
  flags : Flags := {}
  parts : List Draft := []
  size? : Option Nat := none
  height? : Option Nat := none
deriving Repr

/-! ### Forms -/

namespace Form

def isMarker : Form → Bool
  | .bar | .opening _ => true
  | _ => false

/-- Whether the node takes exactly one character. -/
def isOneChar : Form → Bool
  | .literal [_] => true
  | .set _ | .notLineEnd | .anyChar => true
  | _ => false

/-- Of two nodes that take one character, the one with the higher rank takes in the other. -/
def rank : Form → Nat
  | .set _ => 1
  | .notLineEnd => 2
  | .anyChar => 3
  | _ => 0

/-- The number of bounds that a node keeps for its characters. -/
def bounds : Form → Nat
  | .literal reversed => reversed.length
  | .set pieces => pieces.foldl (fun total piece => total + 2 * piece.ranges.size) 0
  | _ => 0

/-- The number of instructions that a node takes, with those of its parts. -/
def size (form : Form) (parts : List Nat) : Nat :=
  let total := parts.foldl (· + ·) 0
  max 1 <|
    match form with
    | .literal reversed => reversed.length
    | .group => total + 2
    | .loop .star => total + 2
    | .loop .plus => total + 1
    | .loop .optional => total + 1
    | .sequence => total
    | .choice => total + (parts.length - 1)
    | .counted least none => if least = 0 then total + 2 else least * total + 1
    | .counted least (some most) => most * total + (most - least)
    | _ => 1

end Form

namespace Draft

/-- The characters that a node takes which takes one. -/
def members (draft : Draft) : List CharSet :=
  match draft.form with
  | .literal reversed => reversed.map (CharSet.ofCode draft.flags.ignoreCase)
  | .set pieces => pieces
  | .notLineEnd => [.notLineEnd]
  | .anyChar => [.all]
  | _ => []

/-- A set as one piece; the sets of all characters and of all but the line end have forms of their
own. -/
def cleaned (draft : Draft) : Draft :=
  match draft.form with
  | .set pieces =>
    let members := CharSet.union pieces
    if members == .all then { draft with form := .anyChar }
    else if members == .notLineEnd then { draft with form := .notLineEnd }
    else { draft with form := .set [members] }
  | _ => draft

/-- A node that takes one character, taking in others whose rank is not higher. Literals that are all
the same stay a literal. -/
def absorbing (draft : Draft) (others : List Draft) : Draft :=
  let joined := { draft with form := .set (draft.members ++ others.flatMap members) }
  match draft.form with
  | .literal _ =>
    if others.all fun other => other.form == draft.form && other.flags == draft.flags then draft
    else joined
  | .set _ => joined
  | .notLineEnd =>
    if others.any fun other => other.members.any fun piece => piece.contains 0x0A then
      { draft with form := .anyChar }
    else draft
  | _ => draft

/-- Whether two nodes count as the same start of alternatives: both take the same characters, or
repeat the same characters in the same way. Literals are compared without their options. -/
def isSameStart (a b : Draft) : Bool :=
  match a.form, a.parts, b.parts with
  | .counted least most, [inner], [other] =>
    most == some least && a.form == b.form && a.flags.lazy == b.flags.lazy &&
      inner.form.isOneChar && inner.form == other.form
  | _, _, _ => a.form.isOneChar && a.form == b.form

/-! ### Literals at the start -/

/-- The codes of the literal that a node starts with, and whether it ignores case. -/
def leadingCodes (draft : Draft) : List Nat × Bool :=
  let first :=
    match draft.form, draft.parts with
    | .sequence, first :: _ => first
    | _, _ => draft
  match first.form with
  | .literal reversed => (reversed.reverse, first.flags.ignoreCase)
  | _ => ([], false)

/-- The literal without its first codes. -/
def withoutCodes (count : Nat) (draft : Draft) : Draft :=
  match draft.form with
  | .literal reversed =>
    match reversed.take (reversed.length - count) with
    | [] => { draft with form := .empty }
    | left => { draft with form := .literal left }
  | _ => draft

def leading? (draft : Draft) : Option Draft :=
  match draft.form, draft.parts with
  | .empty, _ => none
  | .sequence, first :: _ => if first.form == .empty then none else some first
  | _, _ => some draft

/-! ### Notes -/

mutual

/-- Notes the size of a node, and of every node below it that has none noted. -/
def noteSize : Draft → Draft
  | ⟨form, flags, parts, _, height?⟩ =>
    let parts := noteSizes parts
    ⟨form, flags, parts, some (form.size (parts.map fun part => part.size?.getD 1)), height?⟩

/-- Notes the sizes of some nodes that have none noted. -/
def noteSizes : List Draft → List Draft
  | [] => []
  | part :: rest => (if part.size?.isSome then part else noteSize part) :: noteSizes rest

end

mutual

/-- Notes the number of levels of a node, and of every node below it that has none noted. -/
def noteHeight : Draft → Draft
  | ⟨form, flags, parts, size?, _⟩ =>
    let parts := noteHeights parts
    let highest := parts.foldl (fun highest part => max highest (part.height?.getD 1 + 1)) 1
    ⟨form, flags, parts, size?, some highest⟩

/-- Notes the heights of some nodes that have none noted. -/
def noteHeights : List Draft → List Draft
  | [] => []
  | part :: rest => (if part.height?.isSome then part else noteHeight part) :: noteHeights rest

end

mutual

/-- Whether counted repetitions inside each other multiply to at most `limit`. -/
def repeatsWithin : Nat → Draft → Bool
  | limit, ⟨form, _, parts, _, _⟩ =>
    match form with
    | .counted least most =>
      let factor := most.getD least
      if most == some 0 then true
      else if factor > limit then false
      else allRepeatWithin (if factor == 0 then limit else limit / factor) parts
    | _ => allRepeatWithin limit parts

/-- Whether counted repetitions inside each other multiply to at most `limit` in some nodes. -/
def allRepeatWithin : Nat → List Draft → Bool
  | _, [] => true
  | limit, part :: rest => repeatsWithin limit part && allRepeatWithin limit rest

end

/-! ### The finished pattern -/

mutual

def pattern : Draft → Pattern
  | ⟨form, flags, parts, _, _⟩ =>
    let parts := patterns parts
    let body := parts.head?.getD .empty
    match form with
    | .literal reversed => .literal flags.ignoreCase reversed.reverse
    | .set pieces => .oneOf (.union pieces)
    | .notLineEnd => .oneOf .notLineEnd
    | .anyChar => .oneOf .all
    | .anchor condition => .anchor condition
    | .group => .group body
    | .loop operator => .loop operator flags.lazy body
    | .counted least most => .counted flags.lazy body least most
    | .sequence => .sequence parts
    | .choice => .choice parts
    | _ => .empty

def patterns : List Draft → List Pattern
  | [] => []
  | part :: rest => pattern part :: patterns rest

end

end Draft

end Tabulation.Pattern
