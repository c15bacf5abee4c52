/-
Fields separated by commas. A field may stand in quotes; then it may hold commas and line ends, and
a quote is written twice. Columns are counted in bytes.
-/

import Tabulation.Text.Bytes

namespace Tabulation.Text

/-- What can be wrong with a record of fields. -/
inductive FieldsFault where
  /-- A quote in a field that does not start with one. -/
  | bareQuote
  /-- A quoted field that does not end where it should. -/
  | openQuote
deriving Repr, DecidableEq

/-- Why there is no record. -/
inductive FieldsError where
  | empty
  | malformed (startLine line column : Nat) (fault : FieldsFault)
deriving Repr, DecidableEq

def FieldsFault.words : FieldsFault → String
  | .bareQuote => "bare \" in non-quoted-field"
  | .openQuote => "extraneous or missing \" in quoted-field"

def FieldsError.message : FieldsError → String
  | .empty => "EOF"
  | .malformed startLine line column fault =>
    (if startLine == line then "" else "record on line " ++ toString startLine ++ "; ") ++
      "parse error on line " ++ toString line ++ ", column " ++ toString column ++ ": " ++ fault.words

namespace Fields

/-- Where in a record the reader is. -/
inductive Place where
  | fieldStart
  | plain
  | quoted
  /-- Behind a quote in a quoted field. -/
  | afterQuote
deriving Repr, DecidableEq

/-- What was read: the fields before, and the field that is being read, backwards. -/
structure Reading where
  fields : List Bytes := []
  field : Bytes := []
  line : Nat
  column : Nat := 1
deriving Repr, DecidableEq

def Reading.push (r : Reading) (byte : UInt8) : Reading :=
  { r with field := byte :: r.field, column := r.column + 1 }

def Reading.skip (r : Reading) : Reading := { r with column := r.column + 1 }

def Reading.endField (r : Reading) : Reading :=
  { r with fields := r.fields ++ [r.field.reverse], field := [], column := r.column + 1 }

def quote : UInt8 := 34

def comma : UInt8 := 44

def lineEnd : UInt8 := 10

def read (startLine : Nat) : Place → Reading → Bytes → Except FieldsError (List Bytes)
  | .quoted, r, [] => .error (.malformed startLine r.line r.column .openQuote)
  | _, r, [] => .ok r.endField.fields
  | .quoted, r, byte :: rest =>
    if byte == quote then read startLine .afterQuote r.skip rest
    else
      let next := r.push byte
      if byte == lineEnd && !rest.isEmpty then
        read startLine .quoted { next with line := r.line + 1, column := 1 } rest
      else read startLine .quoted next rest
  | .afterQuote, r, byte :: rest =>
    if byte == quote then read startLine .quoted (r.push byte) rest
    else if byte == comma then read startLine .fieldStart r.endField rest
    else if byte == lineEnd then .ok r.endField.fields
    else .error (.malformed startLine r.line (r.column - 1) .openQuote)
  | .fieldStart, r, byte :: rest =>
    if byte == quote then read startLine .quoted r.skip rest
    else if byte == comma then read startLine .fieldStart r.endField rest
    else if byte == lineEnd then .ok r.endField.fields
    else read startLine .plain (r.push byte) rest
  | .plain, r, byte :: rest =>
    if byte == quote then .error (.malformed startLine r.line r.column .bareQuote)
    else if byte == comma then read startLine .fieldStart r.endField rest
    else if byte == lineEnd then .ok r.endField.fields
    else read startLine .plain (r.push byte) rest

/-- The bytes with a plain line end for each carriage return before one; a carriage return at the
very end is dropped. -/
def plainLines : Bytes → Bytes
  | [] => []
  | [byte] => if byte == 13 then [] else [byte]
  | byte :: next :: rest =>
    if byte == 13 && next == lineEnd then plainLines (next :: rest)
    else byte :: plainLines (next :: rest)

/-- Passes over empty lines; the result has the number of the line after them. -/
def skipEmpty : (line : Nat) → Bytes → Nat × Bytes
  | line, [] => (line, [])
  | line, byte :: rest => if byte == lineEnd then skipEmpty (line + 1) rest else (line, byte :: rest)

end Fields

/-- The fields of the first record in some bytes. Empty lines before it do not count. -/
def firstRecord (bytes : Bytes) : Except FieldsError (List Bytes) :=
  match Fields.skipEmpty 1 (Fields.plainLines bytes) with
  | (_, []) => .error .empty
  | (line, rest) => Fields.read line .fieldStart { line } rest

end Tabulation.Text
