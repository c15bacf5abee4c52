/-
The values of scalars. A plain scalar reads as null, a truth value, an integer, a float or a string;
a tag asks for one of them.
-/

import Tabulation.Yaml.Node

namespace Tabulation.Yaml

inductive Value where
  | null
  | bool (value : Bool)
  | int (value : Int)
  | float (value : Float)
  | text (value : String)
deriving Repr, Inhabited

def Value.tag : Value → String
  | .null => "!!null"
  | .bool _ => "!!bool"
  | .int _ => "!!int"
  | .float _ => "!!float"
  | .text _ => "!!str"

def timestampTag : String := "!!timestamp"

/-- The values of the words with a meaning of their own. -/
def wordValue? (text : String) : Option Value :=
  match text with
  | "true" | "True" | "TRUE" => some (.bool true)
  | "false" | "False" | "FALSE" => some (.bool false)
  | "" | "~" | "null" | "Null" | "NULL" => some .null
  | ".nan" | ".NaN" | ".NAN" => some (.float (0.0 / 0.0))
  | ".inf" | ".Inf" | ".INF" | "+.inf" | "+.Inf" | "+.INF" => some (.float (1.0 / 0.0))
  | "-.inf" | "-.Inf" | "-.INF" => some (.float (-1.0 / 0.0))
  | _ => none

def digitIn? (base : Nat) (c : Char) : Option Nat :=
  (Text.hexDigit? c).bind fun digit => if digit < base then some digit else none

/-- The value of a numeral in a base; an empty one has none. -/
def numeral? (base : Nat) (digits : List Char) : Option Nat :=
  if digits.isEmpty then none
  else digits.foldl (fun acc c => acc.bind fun n => (digitIn? base c).map fun d => base * n + d)
    (some 0)

/-- The value of a numeral whose first characters tell its base; a leading zero means octal. -/
def basedNumeral? (digits : List Char) : Option Nat :=
  match digits with
  | '0' :: 'x' :: rest | '0' :: 'X' :: rest => numeral? 16 rest
  | '0' :: 'o' :: rest | '0' :: 'O' :: rest => numeral? 8 rest
  | '0' :: 'b' :: rest | '0' :: 'B' :: rest => numeral? 2 rest
  | '0' :: c :: rest => numeral? 8 (c :: rest)
  | _ => numeral? 10 digits

/-- A text without its sign: whether there is one, whether it is a minus, and the rest. -/
def splitSign (text : List Char) : Bool × Bool × List Char :=
  match text with
  | '-' :: rest => (true, true, rest)
  | '+' :: rest => (true, false, rest)
  | _ => (false, false, text)

/-- An integer between the least signed and the largest unsigned number of 64 bits, whose numeral is
read by `read?`. Only signed numbers have a sign. -/
def integerBy? (read? : List Char → Option Nat) (text : List Char) : Option Int := do
  let (signed, negative, digits) := splitSign text
  let amount ← read? digits
  if negative then (if amount ≤ 9223372036854775808 then some (-(amount : Int)) else none)
  else if amount < (if signed then 9223372036854775808 else 18446744073709551616) then some amount
  else none

/-- An integer whose base is told before its sign: `0b` for two and `0o` for eight. A minus may also
stand before the base. -/
def prefixedInteger? : List Char → Option Int
  | '0' :: 'b' :: rest => integerBy? (numeral? 2) rest
  | '0' :: 'o' :: rest => integerBy? (numeral? 8) rest
  | '-' :: '0' :: 'b' :: rest => integerBy? (numeral? 2) ('-' :: rest)
  | '-' :: '0' :: 'o' :: rest => integerBy? (numeral? 8) ('-' :: rest)
  | _ => none

/-- The parts of a decimal number: the digits without the point, and the power of ten. -/
def decimalParts? (text : List Char) : Option (Bool × List Char × Int) :=
  let (_, negative, body) := splitSign text
  let whole := body.takeWhile Char.isDigit
  let afterWhole := body.dropWhile Char.isDigit
  let (decimals, afterDecimals) :=
    match afterWhole with
    | '.' :: rest => (rest.takeWhile Char.isDigit, rest.dropWhile Char.isDigit)
    | _ => ([], afterWhole)
  if whole.isEmpty && decimals.isEmpty then none
  else
    let digits := whole ++ decimals
    let point := -(decimals.length : Int)
    match afterDecimals with
    | [] => some (negative, digits, point)
    | c :: rest =>
      if c != 'e' && c != 'E' then none
      else
        let (minus, exponent) :=
          match rest with
          | '-' :: more => (true, more)
          | '+' :: more => (false, more)
          | _ => (false, rest)
        match numeral? 10 exponent with
        | none => none
        | some power =>
          if exponent.all Char.isDigit then
            some (negative, digits, point + (if minus then -(power : Int) else power))
          else none

/-- The float nearest to a decimal number; there is none beyond the largest. -/
def float? (text : List Char) : Option Float := do
  let (negative, digits, power) ← decimalParts? text
  let mantissa := (numeral? 10 digits).getD 0
  let magnitude := (digits.dropWhile (· == '0')).length + power
  let value :=
    if mantissa == 0 || magnitude < -400 then 0.0
    else if magnitude > 400 then 1.0 / 0.0
    else Float.ofScientific mantissa (power < 0) power.natAbs
  if value.isInf then none else some (if negative then -value else value)

/-- Whether every underscore of a text stands between two digits. -/
def underscoresSeparate : List Char → Bool
  | [] => true
  | '_' :: _ => false
  | a :: '_' :: b :: rest => a.isDigit && b.isDigit && underscoresSeparate (b :: rest)
  | [_, '_'] => false
  | _ :: rest => underscoresSeparate rest

def plainValue (text : String) : Value :=
  match wordValue? text with
  | some value => value
  | none =>
    let chars := text.toList
    let plain := chars.filter (· != '_')
    match chars with
    | [] => .null
    | c :: _ =>
      let number :=
        if c == '.' then
          if underscoresSeparate chars then (float? plain).map .float else none
        else if c.isDigit || c == '+' || c == '-' then
          ((integerBy? basedNumeral? plain).map Value.int).or
            (((float? plain).map .float).or ((prefixedInteger? plain).map .int))
        else none
      number.getD (.text text)

/-! ### Timestamps -/

def shortNumber? : List Char → Option (Nat × List Char)
  | a :: rest =>
    if a.isDigit then
      match rest with
      | b :: more =>
        if b.isDigit then some (10 * (a.toNat - 48) + (b.toNat - 48), more)
        else some (a.toNat - 48, rest)
      | [] => some (a.toNat - 48, [])
    else none
  | [] => none

def expect? (c : Char) : List Char → Option (List Char)
  | d :: rest => if c == d then some rest else none
  | [] => none

def daysIn (year month : Nat) : Nat :=
  if month == 2 then
    if year % 4 == 0 && (year % 100 != 0 || year % 400 == 0) then 29 else 28
  else if [4, 6, 9, 11].contains month then 30
  else 31

/-- Reads a date: a year of four digits, a month and a day. -/
def afterDate? (text : List Char) : Option (List Char) := do
  let digits := text.takeWhile Char.isDigit
  if digits.length != 4 then none
  let year ← numeral? 10 digits
  let (month, rest) ← shortNumber? (← expect? '-' (text.drop 4))
  let (day, rest) ← shortNumber? (← expect? '-' rest)
  if month == 0 || 12 < month || day == 0 || daysIn year month < day then none
  some rest

/-- Reads a time of day with a fraction of a second of any length. -/
def afterTime? (text : List Char) : Option (List Char) := do
  let (hour, rest) ← shortNumber? text
  let (minute, rest) ← shortNumber? (← expect? ':' rest)
  let (second, rest) ← shortNumber? (← expect? ':' rest)
  if 24 ≤ hour || 60 ≤ minute || 60 ≤ second then none
  match rest with
  | point :: digit :: more =>
    if (point == '.' || point == ',') && digit.isDigit then some (more.dropWhile Char.isDigit)
    else some rest
  | _ => some rest

/-- Whether a text is an offset from universal time: `Z`, or hours and minutes with a sign. -/
def isOffset : List Char → Bool
  | ['Z'] => true
  | [sign, a, b, ':', c, d] =>
    (sign == '+' || sign == '-') &&
      ((numeral? 10 [a, b]).any (· ≤ 24)) && ((numeral? 10 [c, d]).any (· ≤ 60))
  | _ => false

/-- Whether a text is a timestamp: a date, a date and a time with an offset, or a date and a time
after a blank. -/
def isTimestamp (text : List Char) : Bool :=
  match afterDate? text with
  | none => false
  | some [] => true
  | some (c :: rest) =>
    if c == 'T' || c == 't' then (afterTime? rest).any isOffset
    else if c == ' ' then (afterTime? (rest.dropWhile (· == ' '))).any List.isEmpty
    else false

/-! ### Binary values -/

def base64Digit? (c : Char) : Option Nat :=
  if 'A' ≤ c ∧ c ≤ 'Z' then some (c.toNat - 65)
  else if 'a' ≤ c ∧ c ≤ 'z' then some (c.toNat - 97 + 26)
  else if '0' ≤ c ∧ c ≤ '9' then some (c.toNat - 48 + 52)
  else if c == '+' then some 62
  else if c == '/' then some 63
  else none

/-- The bytes of a base-64 text; line ends do not count. -/
def base64? (text : List Char) : Option (List UInt8) :=
  go (text.filter fun c => c != '\n' && c != '\r')
where
  /-- Decodes four characters at a time. -/
  go : List Char → Option (List UInt8)
    | [] => some []
    | [a, b, '=', '='] => do
      let x ← base64Digit? a
      let y ← base64Digit? b
      some [(4 * x + y / 16).toUInt8]
    | [a, b, c, '='] => do
      let x ← base64Digit? a
      let y ← base64Digit? b
      let z ← base64Digit? c
      some [(4 * x + y / 16).toUInt8, (16 * (y % 16) + z / 4).toUInt8]
    | a :: b :: c :: d :: rest => do
      let x ← base64Digit? a
      let y ← base64Digit? b
      let z ← base64Digit? c
      let w ← base64Digit? d
      let more ← go rest
      some ((4 * x + y / 16).toUInt8 :: (16 * (y % 16) + z / 4).toUInt8 ::
        (64 * (z % 4) + w).toUInt8 :: more)
    | _ => none

/-- Whether a tag asks for one of the values of plain scalars. -/
def asksForValue (tag : String) : Bool :=
  ["", "!!str", "!!bool", "!!int", "!!float", "!!null", timestampTag].contains tag

end Tabulation.Yaml
