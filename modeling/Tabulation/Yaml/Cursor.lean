/-
A place in a text that is decoded on the way: the characters that are decoded and not yet read, the
chunks behind them, and the index, line and column of the place.

A reader asks for the characters it wants to look at before it looks at them. What lies behind the
end of the text reads as nothing.
-/

import Tabulation.Yaml.Chunk

namespace Tabulation.Yaml

def isBlank (c : Char) : Bool := c == ' ' || c == '\t'

def isBreak (c : Char) : Bool :=
  c == '\n' || c == '\r' || c.toNat == 0x85 || c.toNat == 0x2028 || c.toNat == 0x2029

/-- Whether a text starts with a blank or a line end, or is empty. -/
def startsBlankOrEnds (text : List Char) : Bool := text.head?.all fun c => isBlank c || isBreak c

/-- Whether a text starts with a line end, or is empty. -/
def startsBreakOrEnds (text : List Char) : Bool := text.head?.all isBreak

/-- Letters, digits, the underscore and the dash. -/
def isWordChar (c : Char) : Bool := c.isAlphanum || c == '_' || c == '-'

/-- The mark that may start a text to tell its encoding. -/
def byteOrderMark : Char := Char.ofNat 0xFEFF

/-- A place in a text. `unread` counts the decoded characters, and also the places behind the end of
the text that were asked for. `newLines` counts the line ends since the last character that is no
blank. `markFirst` says whether a byte order mark stood here when characters were last decoded.
`limit` is more than the number of characters of the text. -/
structure Cursor where
  ahead : List Char := []
  unread : Nat := 0
  pending : List Chunk := []
  index : Nat := 0
  line : Nat := 0
  column : Nat := 0
  newLines : Nat := 0
  markFirst : Bool := false
  limit : Nat := 0
deriving Repr

namespace Cursor

/-- Decodes chunks until `count` characters are unread or the text ends. A malformed chunk fails. -/
def decodeTo (count : Nat) :
    List Chunk → List Char → Nat → Option (List Char × Nat × List Chunk)
  | [], ahead, unread => some (ahead, unread + 1, [])
  | none :: _, _, _ => none
  | some chars :: rest, ahead, unread =>
    let ahead := ahead ++ chars
    let unread := unread + chars.length
    if count ≤ unread then some (ahead, unread, rest) else decodeTo count rest ahead unread

/-- Makes sure that `count` characters can be looked at. -/
def fill (cursor : Cursor) (count : Nat) : Option Cursor :=
  if count ≤ cursor.unread then some cursor
  else do
    let (ahead, unread, pending) ← decodeTo count cursor.pending cursor.ahead cursor.unread
    some { cursor with ahead, unread, pending, markFirst := ahead.head? == some byteOrderMark }

def step (cursor : Cursor) : Cursor :=
  { cursor with
    ahead := cursor.ahead.drop 1
    unread := cursor.unread - 1
    index := cursor.index + 1
    column := cursor.column + 1
    newLines := if cursor.ahead.head?.any isBlank then cursor.newLines else 0 }

/-- Steps over `count` characters that end a line. -/
def stepLine (cursor : Cursor) (count : Nat) : Cursor :=
  { cursor with
    ahead := cursor.ahead.drop count
    unread := cursor.unread - count
    index := cursor.index + count
    line := cursor.line + 1
    column := 0
    newLines := cursor.newLines + 1 }

/-- Steps over a line end, if there is one here. The result says how it reads: two separator
characters stand for themselves, all others for a line feed. -/
def readBreak (cursor : Cursor) : List Char × Cursor :=
  match cursor.ahead with
  | '\r' :: '\n' :: _ => (['\n'], cursor.stepLine 2)
  | c :: _ =>
    if isBreak c then
      ((if c.toNat == 0x2028 || c.toNat == 0x2029 then [c] else ['\n']), cursor.stepLine 1)
    else ([], cursor)
  | [] => ([], cursor)

/-- Whether a document marker stands here: three equal signs at the start of a line. -/
def atMarker (cursor : Cursor) : Bool :=
  cursor.column == 0 &&
    match cursor.ahead with
    | '-' :: '-' :: '-' :: rest => startsBlankOrEnds rest
    | '.' :: '.' :: '.' :: rest => startsBlankOrEnds rest
    | _ => false

def ofBytes (bytes : Text.Bytes) : Cursor := { pending := chunksOf bytes, limit := bytes.length + 8 }

end Cursor

/-- Reading from a cursor; malformed text fails. -/
abbrev Scan := StateT Cursor Option

namespace Scan

def fail {α : Type} : Scan α := fun _ => none

/-- Fails unless a condition holds. -/
def check (condition : Bool) : Scan Unit := if condition then pure () else fail

/-- Asks for `count` characters. -/
def need (count : Nat) : Scan Unit := fun cursor => (cursor.fill count).map fun next => ((), next)

def ahead : Scan (List Char) := fun cursor => some (cursor.ahead, cursor)

def next : Scan (Option Char) := fun cursor => some (cursor.ahead.head?, cursor)

/-- Whether the next character satisfies a condition; there is none at the end. -/
def nextIs (condition : Char → Bool) : Scan Bool := fun cursor =>
  some (cursor.ahead.head?.any condition, cursor)

def skip : Scan Unit := fun cursor => some ((), cursor.step)

/-- Steps over the next character and asks for `count` characters after it. -/
def skipAndNeed (count : Nat) : Scan Unit := fun cursor =>
  (cursor.step.fill count).map fun next => ((), next)

def readBreak : Scan (List Char) := do
  need 2
  modifyGet Cursor.readBreak

/-- Steps over a line end without reading it. -/
def skipBreak : Scan Unit := do
  let _ ← readBreak

/-- Reads characters while a condition holds, last first. `fuel` bounds their number. -/
def readWhileFrom (condition : Char → Bool) : Nat → List Char → Scan (List Char)
  | 0, _ => fail
  | fuel + 1, chars => do
    match ← next with
    | some c =>
      if condition c then do
        skipAndNeed 1
        readWhileFrom condition fuel (c :: chars)
      else return chars
    | none => return chars

/-- Reads the characters that satisfy a condition, none of which ends a line. One character has to
be asked for before. -/
def readWhile (condition : Char → Bool) : Scan (List Char) := do
  return (← readWhileFrom condition (← get).limit []).reverse

def skipWhile (condition : Char → Bool) : Scan Unit := do
  let _ ← readWhileFrom condition (← get).limit []

def skipLine : Scan Unit := skipWhile fun c => !isBreak c

/-! ### Comments -/

/-- How far a reader looks for a comment. -/
def commentReach : Nat := 512

/-- The place of the next comment sign, if only characters that may be passed stand before it. -/
def commentAt? (mayPass : Char → Bool) : (fuel place : Nat) → Scan (Option Nat)
  | 0, _ => return none
  | fuel + 1, place => do
    need (place + 1)
    match (← ahead)[place]? with
    | some c =>
      if mayPass c then commentAt? mayPass fuel (place + 1)
      else return if c == '#' then some place else none
    | none => return none

/-- Steps over blanks and line ends up to an index. -/
def skipToIndex (index : Nat) : Nat → Scan Unit
  | 0 => fail
  | fuel + 1 => do
    need 1
    if (← get).index < index then do
      if ← nextIs isBreak then skipBreak else skip
      skipToIndex index fuel
    else return ()

/-- Steps over a comment that stands `place` characters ahead. -/
def skipComment (place : Nat) : Scan Unit := do
  let cursor ← get
  skipToIndex (cursor.index + place) cursor.limit
  skipLine

/-- Steps over a comment in the line of the last token. After a line end there is none. -/
def skipLineComment : Scan Unit := do
  if (← get).newLines == 0 then
    match ← commentAt? isBlank commentReach 0 with
    | some place => skipComment place
    | none => return ()

/-- Whether a character may stand between two lines of a comment. -/
def mayPassComment (c : Char) : Bool := isBlank c || c == '\n' || c == '\r'

/-- Steps over a comment that starts here, and over all that follow it with only blanks and line
ends between them. -/
def skipComments : Nat → Scan Unit
  | 0 => fail
  | fuel + 1 => do
    skipLine
    need 2
    if ← nextIs (fun c => c != '\n' && c != '\r') then return ()
    match ← commentAt? mayPassComment (commentReach - 1) 1 with
    | some place => do
      skipComment place
      skipComments fuel
    | none => return ()

end Scan

end Tabulation.Yaml
