/-
The characters of a byte string, in chunks. A text is decoded one piece of 512 bytes at a time, and
only when the reader comes to it: a malformed piece that nobody looks at does no harm. A mark at the
very start of the text tells its encoding.
-/

import Tabulation.Text.Bytes

namespace Tabulation.Yaml

open Tabulation.Text (Bytes)

inductive Encoding where
  | utf8
  | utf16Little
  | utf16Big
deriving Repr, DecidableEq

def isAllowed (c : Char) : Bool :=
  let code := c.toNat
  code == 0x09 || code == 0x0A || code == 0x0D || (0x20 ≤ code && code ≤ 0x7E) || code == 0x85 ||
    (0xA0 ≤ code && code ≤ 0xD7FF) || (0xE000 ≤ code && code ≤ 0xFFFD) || 0x10000 ≤ code

/-- What stands at the start of some bytes. -/
inductive Piece where
  /-- A character and the number of its bytes. -/
  | char (char : Char) (width : Nat)
  /-- The start of a character whose other bytes are missing. -/
  | cut
  | bad

/-- The number of bytes of the UTF-8 sequence that a byte starts. -/
def sequenceWidth (lead : UInt8) : Nat :=
  if lead < 0x80 then 1
  else if lead < 0xC0 then 0
  else if lead < 0xE0 then 2
  else if lead < 0xF0 then 3
  else if lead < 0xF8 then 4
  else 0

/-- The first character in UTF-8. -/
def utf8Piece (lead : UInt8) (following : Bytes) : Piece :=
  let width := sequenceWidth lead
  if width == 0 then .bad
  else if (following.take (width - 1)).length + 1 < width then .cut
  else
    match Text.TextUnit.first? lead following with
    | some (char, _) => .char char width
    | none => .bad

/-- The first character in UTF-16, whose units are read by `unit`. -/
def utf16Piece (unit : UInt8 → UInt8 → Nat) : Bytes → Piece
  | a :: b :: rest =>
    let code := unit a b
    if 0xDC00 ≤ code && code < 0xE000 then .bad
    else if 0xD800 ≤ code && code < 0xDC00 then
      match rest with
      | c :: d :: _ =>
        let low := unit c d
        if 0xDC00 ≤ low && low < 0xE000 then
          .char (Char.ofNat (0x10000 + 1024 * (code - 0xD800) + (low - 0xDC00))) 4
        else .bad
      | _ => .cut
    else .char (Char.ofNat code) 2
  | _ => .cut

/-- What stands at the start of some bytes, of which there is at least one. -/
def Encoding.piece (encoding : Encoding) (lead : UInt8) (following : Bytes) : Piece :=
  match encoding with
  | .utf8 => utf8Piece lead following
  | .utf16Little => utf16Piece (fun a b => a.toNat + 256 * b.toNat) (lead :: following)
  | .utf16Big => utf16Piece (fun a b => 256 * a.toNat + b.toNat) (lead :: following)

/-- Decodes as many characters as there are, last first, and gives the bytes of a cut one at the
end. -/
def Encoding.decode (encoding : Encoding) : List Char → Bytes → Option (List Char × Bytes)
  | chars, [] => some (chars, [])
  | chars, lead :: following =>
    match encoding.piece lead following with
    | .bad => none
    | .cut => some (chars, lead :: following)
    | .char char width =>
      if isAllowed char then encoding.decode (char :: chars) (following.drop (width - 1)) else none
termination_by _ bytes => bytes.length
decreasing_by
  simp only [List.length_cons, List.length_drop]
  omega

/-- A chunk of characters; `none` when it is malformed. -/
abbrev Chunk := Option (List Char)

def chunkSize : Nat := 512

/-- The chunks of a text. `left` are the bytes of a character that the chunk before cut in two, and
`size` is the room for further bytes. The chunks end after a malformed one. -/
def Encoding.chunks (encoding : Encoding) : (fuel size : Nat) → (left bytes : Bytes) → List Chunk
  | 0, _, _, _ => []
  | fuel + 1, size, left, bytes =>
    if bytes.isEmpty then (if left.isEmpty then [] else [none])
    else
      match encoding.decode [] (left ++ bytes.take size) with
      | none => [none]
      | some (chars, left) =>
        some chars.reverse :: encoding.chunks fuel (chunkSize - left.length) left (bytes.drop size)

/-- The chunks of a byte string. The mark of its encoding counts for the size of the first chunk. An
empty text reads as a line end. -/
def chunksOf (bytes : Bytes) : List Chunk :=
  let fuel := bytes.length + 2
  match bytes with
  | [] => [some ['\n']]
  | 0xFF :: 0xFE :: rest => Encoding.utf16Little.chunks fuel (chunkSize - 2) [] rest
  | 0xFE :: 0xFF :: rest => Encoding.utf16Big.chunks fuel (chunkSize - 2) [] rest
  | 0xEF :: 0xBB :: 0xBF :: rest => Encoding.utf8.chunks fuel (chunkSize - 3) [] rest
  | _ => Encoding.utf8.chunks fuel chunkSize [] bytes

end Tabulation.Yaml
