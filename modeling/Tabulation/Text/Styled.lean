/-
Styled text: escape sequences around a text when styles are on, and the text alone otherwise.
-/

namespace Tabulation.Text

/-- The styles of the reports. -/
inductive Style where
  | bold
  | faint
  | red
  | green
  | yellow
  | cyan
deriving Repr, DecidableEq

/-- The escape sequence that turns a style on. -/
def Style.code : Style → String
  | .bold => "\x1b[1m"
  | .faint => "\x1b[2m"
  | .red => "\x1b[1;31m"
  | .green => "\x1b[1;32m"
  | .yellow => "\x1b[1;33m"
  | .cyan => "\x1b[1;36m"

/-- A text in a style, or as it is when styles are off. -/
def Style.apply (on : Bool) (style : Style) (text : String) : String :=
  if on then style.code ++ text ++ "\x1b[0m" else text

/-- An operand of a styled text. -/
inductive Operand where
  | text (value : String)
  | number (value : Int)
deriving Repr, DecidableEq

def Operand.render : Operand → String
  | .text value => value
  | .number value => toString value

/-- Two neighbours are kept apart by a blank only when both are numbers. -/
def Operand.isNumber : Operand → Bool
  | .text _ => false
  | .number _ => true

/-- Joins operands, with a blank between two numbers. -/
def Operand.joined : List Operand → String
  | [] => ""
  | [last] => last.render
  | a :: b :: rest =>
    a.render ++ (if a.isNumber && b.isNumber then " " else "") ++ Operand.joined (b :: rest)

end Tabulation.Text
