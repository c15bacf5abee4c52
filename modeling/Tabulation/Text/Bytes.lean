/-
Byte strings and their reading as text. A byte string is read as UTF-8 one unit at a time: a unit is
a scalar value or a stray byte that starts no well-formed sequence.

A text keeps its stray bytes: each one is written as one of the last 128 code points, and a scalar
value from that block is written as the four bytes of its sequence. So every byte string has one
text, and a text without stray bytes is the plain string of its scalar values.
-/

namespace Tabulation.Text

abbrev Bytes := List UInt8

/-- One unit of a byte string that is read as UTF-8. -/
inductive TextUnit where
  | scalar (char : Char)
  | stray (byte : UInt8)
deriving Repr, DecidableEq

namespace TextUnit

/-- The last six bits of a continuation byte. -/
def continuation? (byte : UInt8) : Option Nat :=
  if 0x80 ≤ byte ∧ byte < 0xC0 then some (byte.toNat - 0x80) else none

/-- A scalar value that needs at least `least` as its code, surrogates apart. -/
def scalar? (least code : Nat) : Option Char :=
  if code < least ∨ 0x10FFFF < code ∨ (0xD800 ≤ code ∧ code < 0xE000) then none
  else some (Char.ofNat code)

/-- The scalar value that starts with byte `lead`, and how many of the following bytes it takes. -/
def first? (lead : UInt8) (following : Bytes) : Option (Char × Nat) :=
  let code := lead.toNat
  if code < 0x80 then some (Char.ofNat code, 0)
  else if code < 0xC0 then none
  else if code < 0xE0 then
    match following with
    | b :: _ => do
      let low ← continuation? b
      let char ← scalar? 0x80 (64 * (code - 0xC0) + low)
      some (char, 1)
    | _ => none
  else if code < 0xF0 then
    match following with
    | b :: c :: _ => do
      let middle ← continuation? b
      let low ← continuation? c
      let char ← scalar? 0x800 (4096 * (code - 0xE0) + 64 * middle + low)
      some (char, 2)
    | _ => none
  else if code < 0xF8 then
    match following with
    | b :: c :: d :: _ => do
      let high ← continuation? b
      let middle ← continuation? c
      let low ← continuation? d
      let char ← scalar? 0x10000 (262144 * (code - 0xF0) + 4096 * high + 64 * middle + low)
      some (char, 3)
    | _ => none
  else none

/-- The units of a byte string, from left to right. -/
def ofBytes : Bytes → List TextUnit
  | [] => []
  | lead :: following =>
    match first? lead following with
    | some (char, width) => .scalar char :: ofBytes (following.drop width)
    | none => .stray lead :: ofBytes following
termination_by bytes => bytes.length
decreasing_by
  all_goals simp only [List.length_cons, List.length_drop]
  all_goals omega

/-- The character that stands for a unit: a stray byte reads as the replacement character. -/
def toChar : TextUnit → Char
  | .scalar char => char
  | .stray _ => Char.ofNat 0xFFFD

end TextUnit

/-! ### Texts that keep stray bytes -/

def isStray (char : Char) : Bool := Nat.ble 0x10FF80 char.toNat

def strayChar (byte : UInt8) : Char := Char.ofNat (0x10FF00 + byte.toNat)

/-- The stray byte that a character of a text stands for. -/
def strayByte (char : Char) : UInt8 := (char.toNat - 0x10FF00).toUInt8

def charBytes (char : Char) : Bytes := (String.singleton char).toUTF8.toList

def bytesOfChar (char : Char) : Bytes :=
  if isStray char then [strayByte char] else charBytes char

def bytesOf (text : String) : Bytes :=
  if text.any isStray then text.toList.flatMap bytesOfChar else text.toUTF8.toList

def unitChars : TextUnit → List Char
  | .scalar char => if isStray char then (charBytes char).map strayChar else [char]
  | .stray byte => [strayChar byte]

def ofBytes (bytes : Bytes) : String :=
  String.ofList ((TextUnit.ofBytes bytes).flatMap unitChars)

def ofScalars (string : String) : String :=
  if string.any isStray then String.ofList (string.toList.flatMap fun c => unitChars (.scalar c))
  else string

def units (text : String) : List TextUnit :=
  if text.any isStray then TextUnit.ofBytes (bytesOf text) else text.toList.map .scalar

/-- The scalar values of a byte string, with the replacement character for every stray byte. -/
def textOf (bytes : Bytes) : String :=
  String.ofList ((TextUnit.ofBytes bytes).map TextUnit.toChar)

/-- The scalar values of a text, with the replacement character for every stray byte. -/
def scalars (text : String) : List Char :=
  if text.any isStray then (units text).map TextUnit.toChar else text.toList

/-- What a text shows: its scalar values as a string. -/
def shown (text : String) : String :=
  if text.any isStray then String.ofList (scalars text) else text

def hasStart (text start : String) : Bool :=
  if start.any isStray then (bytesOf start).isPrefixOf (bytesOf text) else text.startsWith start

end Tabulation.Text
