/-
Sets of code points as increasing ranges. Every set of a pattern is built from ranges by union,
complement and closing under equality up to case; a set is asked by bisection.
-/

import Tabulation.Text.Category
import Tabulation.Text.Script
import Tabulation.Text.Fold

namespace Tabulation.Pattern

open Tabulation.Text

def lastCode : Nat := 0x10FFFF

/-- A set of code points: its ranges in increasing order, with a gap between any two. -/
structure CharSet where
  ranges : Array (Nat × Nat)
deriving Repr, DecidableEq

namespace CharSet

def contains (set : CharSet) (code : Nat) : Bool :=
  let place := lastWhere (fun i => set.ranges[i]?.any fun range => range.1 ≤ code) 0
    (set.ranges.size - 1)
  set.ranges[place]?.any fun range => range.1 ≤ code && code ≤ range.2

/-- Adds a range that does not start before the last one; it may continue that one. -/
def extend (ranges : Array (Nat × Nat)) (range : Nat × Nat) : Array (Nat × Nat) :=
  match ranges.back? with
  | some last =>
    if range.1 ≤ last.2 + 1 then ranges.pop.push (last.1, max last.2 range.2)
    else ranges.push range
  | none => #[range]

def ofSorted (ranges : List (Nat × Nat)) : CharSet := ⟨ranges.foldl extend #[]⟩

def ofRanges (ranges : List (Nat × Nat)) : CharSet :=
  ofSorted (ranges.mergeSort fun a b => Nat.ble a.1 b.1)

def single (code : Nat) : CharSet := ⟨#[(code, code)]⟩

def all : CharSet := ⟨#[(0, lastCode)]⟩

def union (sets : List CharSet) : CharSet :=
  match sets with
  | [set] => set
  | _ => ofRanges (sets.flatMap fun set => set.ranges.toList)

/-- The code points outside a set. -/
def complement (set : CharSet) : CharSet :=
  let (gaps, next) := set.ranges.foldl
    (fun (acc : Array (Nat × Nat) × Nat) range =>
      (if acc.2 < range.1 then acc.1.push (acc.2, range.1 - 1) else acc.1, range.2 + 1))
    (#[], 0)
  ⟨if next ≤ lastCode then gaps.push (next, lastCode) else gaps⟩

/-- The set with every code point that is equal up to case to one of its members. -/
def folded (set : CharSet) : CharSet :=
  let added := Fold.groups.filter fun group => group.any set.contains
  if added.isEmpty then set
  else ofRanges (set.ranges.toList ++ added.flatMap fun group => group.map fun code => (code, code))

/-- The complement if asked for. -/
def negatedIf (negated : Bool) (set : CharSet) : CharSet := if negated then set.complement else set

/-- The closure under case if asked for. -/
def foldedIf (ignoreCase : Bool) (set : CharSet) : CharSet := if ignoreCase then set.folded else set

def ofCode (ignoreCase : Bool) (code : Nat) : CharSet :=
  if ignoreCase then ofRanges ((Fold.orbit code).map fun c => (c, c)) else single code

def notLineEnd : CharSet := (single 0x0A).complement

def only? (set : CharSet) : Option Nat :=
  match set.ranges.toList with
  | [(first, last)] => if first == last then some first else none
  | _ => none

/-- The lower one of two code points that differ in case, if a set holds just these. -/
def casePair? (set : CharSet) : Option Nat :=
  let members :=
    match set.ranges.toList with
    | [(a, b), (c, d)] => if a == b && c == d then [a, c] else []
    | [(a, b)] => if a + 1 == b then [a, b] else []
    | _ => []
  match members with
  | [low, high] => if Fold.orbit low == [low, high] then some low else none
  | _ => none

end CharSet

/-! ### Sets with a name -/

def digits : CharSet := ⟨#[(0x30, 0x39)]⟩

/-- Blanks of a line, line ends and form feeds. -/
def spaces : CharSet := ⟨#[(0x09, 0x0A), (0x0C, 0x0D), (0x20, 0x20)]⟩

/-- Word characters: letters, digits and the underscore. -/
def wordChars : CharSet := ⟨#[(0x30, 0x39), (0x41, 0x5A), (0x5F, 0x5F), (0x61, 0x7A)]⟩

/-- A set by its name, to be taken as it is or negated. -/
structure NamedSet where
  set : CharSet
  negated : Bool := false
deriving Repr, DecidableEq

/-- The code points of a named set. Case is ignored before the set is negated. -/
def NamedSet.resolve (ignoreCase : Bool) (named : NamedSet) : CharSet :=
  (named.set.foldedIf ignoreCase).negatedIf named.negated

def letterSet? (letter : Char) : Option NamedSet :=
  match letter with
  | 'd' => some { set := digits }
  | 'D' => some { set := digits, negated := true }
  | 's' => some { set := spaces }
  | 'S' => some { set := spaces, negated := true }
  | 'w' => some { set := wordChars }
  | 'W' => some { set := wordChars, negated := true }
  | _ => none

/-- The set of a name between `[:` and `:]`. -/
def bracketSet? (name : String) : Option CharSet :=
  match name with
  | "alnum" => some ⟨#[(0x30, 0x39), (0x41, 0x5A), (0x61, 0x7A)]⟩
  | "alpha" => some ⟨#[(0x41, 0x5A), (0x61, 0x7A)]⟩
  | "ascii" => some ⟨#[(0x00, 0x7F)]⟩
  | "blank" => some ⟨#[(0x09, 0x09), (0x20, 0x20)]⟩
  | "cntrl" => some ⟨#[(0x00, 0x1F), (0x7F, 0x7F)]⟩
  | "digit" => some digits
  | "graph" => some ⟨#[(0x21, 0x7E)]⟩
  | "lower" => some ⟨#[(0x61, 0x7A)]⟩
  | "print" => some ⟨#[(0x20, 0x7E)]⟩
  | "punct" => some ⟨#[(0x21, 0x2F), (0x3A, 0x40), (0x5B, 0x60), (0x7B, 0x7E)]⟩
  | "space" => some ⟨#[(0x09, 0x0D), (0x20, 0x20)]⟩
  | "upper" => some ⟨#[(0x41, 0x5A)]⟩
  | "word" => some wordChars
  | "xdigit" => some ⟨#[(0x30, 0x39), (0x41, 0x46), (0x61, 0x66)]⟩
  | _ => none

/-- The set that a name between `[:` and `:]` denotes; a leading `^` negates it. -/
def bracketNamed? (name : List Char) : Option NamedSet :=
  match name with
  | '^' :: rest => (bracketSet? (String.ofList rest)).map fun set => { set, negated := true }
  | _ => (bracketSet? (String.ofList name)).map fun set => { set }

/-- A Unicode name in its normal form: without underscores, hyphens and blanks, the first letter in
upper case and the others in lower case. -/
def normalName (name : String) : String :=
  match name.toList.filter fun c => !(c == '_' || c == '-' || c == ' ') with
  | first :: rest => String.ofList (first.toUpper :: rest.map Char.toLower)
  | [] => ""

/-- The code points under every short name of general categories. -/
def categorySets : List (String × CharSet) :=
  (Category.names ++ ["C", "L", "LC", "M", "N", "P", "S", "Z"]).map fun short =>
    (short, .ofSorted (Run.ranges Category.runs (Category.group short)))

/-- The set with a Unicode name: a general category by its short or long name, a script, the cased
letters, or one of the names for all code points, the assigned ones and the first 128. -/
def unicodeSet? (written : String) : Option NamedSet :=
  let name := normalName written
  let category := fun (short : String) (negated : Bool) =>
    (categorySets.lookup short).map fun set => ({ set, negated } : NamedSet)
  if name == "Any" then some { set := .all }
  else if name == "Assigned" then category "Cn" true
  else if name == "Ascii" then some { set := ⟨#[(0x00, 0x7F)]⟩ }
  else if name == "Lc" then category "LC" false
  else
    match category name false with
    | some named => some named
    | none =>
      match Script.names.find? fun script => normalName script == name with
      | some script => some { set := .ofSorted (Run.ranges Script.runs [script]) }
      | none =>
        match Category.longNames.find? fun entry => normalName entry.1 == name with
        | some (_, short) => category short false
        | none => none

end Tabulation.Pattern
