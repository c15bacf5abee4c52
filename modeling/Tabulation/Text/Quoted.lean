/-
Quoted text, as error messages show it: printable characters stand for themselves, all others and
the quote are written as escapes.
-/

import Tabulation.Text.Bytes
import Tabulation.Text.Category

namespace Tabulation.Text

/-- The lower-case hexadecimal numeral of `value`, filled with zeros to `width` digits. -/
def hexNumeral (width value : Nat) : String :=
  let digits := Nat.toDigits 16 value
  String.ofList (List.replicate (width - digits.length) '0' ++ digits)

/-- The written form of a character between double quotes. -/
def quotedChar (char : Char) : String :=
  let code := char.toNat
  if char == '"' || char == '\\' then String.ofList ['\\', char]
  else if Category.isPrintable code then String.singleton char
  else
    match code with
    | 0x07 => "\\a"
    | 0x08 => "\\b"
    | 0x0C => "\\f"
    | 0x0A => "\\n"
    | 0x0D => "\\r"
    | 0x09 => "\\t"
    | 0x0B => "\\v"
    | _ =>
      if code < 0x20 || code == 0x7F then "\\x" ++ hexNumeral 2 code
      else if code < 0x10000 then "\\u" ++ hexNumeral 4 code
      else "\\U" ++ hexNumeral 8 code

/-- The written form of a unit: a stray byte is written in hexadecimal. -/
def quotedUnit : TextUnit → String
  | .scalar char => quotedChar char
  | .stray byte => "\\x" ++ hexNumeral 2 byte.toNat

/-- The escaped form of a byte string, without the quotes around it. -/
def escapedBytes (bytes : Bytes) : String :=
  String.join ((TextUnit.ofBytes bytes).map quotedUnit)

/-- The escaped form of a text, without the quotes around it. -/
def escaped (text : String) : String := String.join ((units text).map quotedUnit)

def quoted (text : String) : String := "\"" ++ escaped text ++ "\""

end Tabulation.Text
