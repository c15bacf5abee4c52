/-
Directives: comments that tell the analysis to leave a line alone.
-/

import Tabulation.Ssa.Basic

namespace Tabulation

def Text.isBlank (c : Char) : Bool :=
  let n := c.toNat
  (Nat.ble 0x09 n && Nat.ble n 0x0d) || (Nat.ble 0x2000 n && Nat.ble n 0x200a) ||
    [0x20, 0x85, 0xa0, 0x1680, 0x2028, 0x2029, 0x202f, 0x205f, 0x3000].contains n

/-- A text without white space at its ends. -/
def Text.trimBlank (text : String) : String :=
  String.ofList ((text.toList.dropWhile Text.isBlank).reverse.dropWhile Text.isBlank).reverse

namespace Ssa

inductive Directive where
  /-- No finding is reported on the line. -/
  | ignore
deriving Repr, DecidableEq

def Directive.text : Directive → String
  | .ignore => "ignore"

/-- The directive in a comment: what follows the first mark must be its name. -/
def Directive.parse? (comment : String) : Option Directive :=
  match comment.splitOn "ifds:" with
  | _ :: after :: more =>
    if Text.trimBlank ("ifds:".intercalate (after :: more)) == Directive.ignore.text then some .ignore
    else none
  | _ => none

/-- The directive on a line of a file. The last one counts. -/
def Program.directiveAt? (p : Program) (file : String) (line : Nat) : Option Directive :=
  (p.comments.filterMap fun comment =>
    if comment.position.file == file && comment.position.line == line && line != 0 then
      Directive.parse? comment.text
    else none).getLast?

def Program.isIgnored (p : Program) (position : Position) : Bool :=
  position.line != 0 && p.directiveAt? position.file position.line == some .ignore

end Ssa

end Tabulation
