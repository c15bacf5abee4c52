/-
A compact binary format for integers, texts, lists and records. Every value starts with a code that
gives its kind and, for short values, its length or the value itself; longer lengths follow in
big-endian order. Writers take the shortest form; readers take any.
-/

import Tabulation.Text.Bytes

namespace Tabulation.Packed

open Tabulation.Text (Bytes)

/-! ### Writing -/

/-- The lowest bytes of a number, the highest of them first. -/
def bigEndian : (width : Nat) → Nat → Bytes
  | 0, _ => []
  | width + 1, n => bigEndian width (n / 256) ++ [n.toUInt8]

/-- The value that stands for nothing. -/
def nothing : Bytes := [(0xc0 : UInt8)]

def int (n : Int) : Bytes :=
  if 0 ≤ n then
    let m := n.toNat
    if Nat.blt m 0x80 then [m.toUInt8]
    else if Nat.blt m 0x100 then (0xcc : UInt8) :: bigEndian 1 m
    else if Nat.blt m 0x10000 then (0xcd : UInt8) :: bigEndian 2 m
    else if Nat.blt m 0x100000000 then (0xce : UInt8) :: bigEndian 4 m
    else (0xcf : UInt8) :: bigEndian 8 m
  else
    let below := fun (width : Nat) => (n + Nat.pow 256 width).toNat
    if -0x20 ≤ n then [(below 1).toUInt8]
    else if -0x80 ≤ n then (0xd0 : UInt8) :: bigEndian 1 (below 1)
    else if -0x8000 ≤ n then (0xd1 : UInt8) :: bigEndian 2 (below 2)
    else if -0x80000000 ≤ n then (0xd2 : UInt8) :: bigEndian 4 (below 4)
    else (0xd3 : UInt8) :: bigEndian 8 (below 8)

def text (bytes : Bytes) : Bytes :=
  let n := bytes.length
  (if Nat.blt n 0x20 then [(0xa0 : UInt8) + n.toUInt8]
    else if Nat.blt n 0x100 then (0xd9 : UInt8) :: bigEndian 1 n
    else if Nat.blt n 0x10000 then (0xda : UInt8) :: bigEndian 2 n
    else (0xdb : UInt8) :: bigEndian 4 n) ++ bytes

def listHeader (n : Nat) : Bytes :=
  if Nat.blt n 0x10 then [(0x90 : UInt8) + n.toUInt8]
  else if Nat.blt n 0x10000 then (0xdc : UInt8) :: bigEndian 2 n
  else (0xdd : UInt8) :: bigEndian 4 n

/-- A list, which may be absent. -/
def list {α : Type} (item : α → Bytes) : Option (List α) → Bytes
  | none => nothing
  | some items => listHeader items.length ++ items.flatMap item

/-- A record of fewer than sixteen named fields, whose values are written already. -/
def record (fields : List (String × Bytes)) : Bytes :=
  ((0x80 : UInt8) + fields.length.toUInt8) ::
    fields.flatMap fun field => text (Text.bytesOf field.1) ++ field.2

/-! ### Reading -/

/-- A reader takes a value from the front of the bytes and leaves the rest. -/
abbrev Read := StateT Bytes Option

def refuse {α : Type} : Read α := fun _ => none

def byte : Read UInt8
  | [] => none
  | b :: rest => some (b, rest)

def take (n : Nat) : Read Bytes := fun bytes =>
  let front := bytes.take n
  if front.length == n then some (front, bytes.drop n) else none

def readNat (width : Nat) : Read Nat := do
  return (← take width).foldl (fun n b => n * 256 + b.toNat) 0

/-- A number in big-endian order, read as a signed one. -/
def readSigned (width : Nat) : Read Int := do
  return Int.bmod (← readNat width) (Nat.pow 256 width)

/-- The code as a number, for comparisons. -/
def code : Read Nat := do return (← byte).toNat

def between (low high n : Nat) : Bool := Nat.ble low n && Nat.ble n high

/-- An integer of 64 bits in any form. Larger unsigned numbers wrap around; nothing stands for zero. -/
def readInt : Read Int := do
  let c ← code
  if Nat.ble c 0x7f then return c
  else if Nat.ble 0xe0 c then return (c : Int) - 256
  else
    match c with
    | 0xc0 => return 0
    | 0xcc => return (← readNat 1)
    | 0xcd => return (← readNat 2)
    | 0xce => return (← readNat 4)
    | 0xd0 => readSigned 1
    | 0xd1 => readSigned 2
    | 0xd2 => readSigned 4
    | 0xcf | 0xd3 => readSigned 8
    | _ => refuse

/-- The length of a text or of plain bytes with a code; nothing has none. -/
def textLength (c : Nat) : Read (Option Nat) :=
  if between 0xa0 0xbf c then pure (some (c - 0xa0))
  else
    match c with
    | 0xc0 => pure none
    | 0xd9 | 0xc4 => some <$> readNat 1
    | 0xda | 0xc5 => some <$> readNat 2
    | 0xdb | 0xc6 => some <$> readNat 4
    | _ => refuse

/-- A text. Nothing stands for the empty one. -/
def readText : Read Bytes := do
  match ← textLength (← code) with
  | none => return []
  | some n => take n

/-- The length of a list with a code, if it is one. -/
def listLength? (c : Nat) : Option (Read Nat) :=
  if between 0x90 0x9f c then some (pure (c - 0x90))
  else
    match c with
    | 0xdc => some (readNat 2)
    | 0xdd => some (readNat 4)
    | _ => none

/-- The number of fields of a record with a code, if it is one. -/
def recordLength? (c : Nat) : Option (Read Nat) :=
  if between 0x80 0x8f c then some (pure (c - 0x80))
  else
    match c with
    | 0xde => some (readNat 2)
    | 0xdf => some (readNat 4)
    | _ => none

/-- The length of a list; nothing has none. -/
def readListLength : Read (Option Nat) := do
  let c ← code
  if c == 0xc0 then return none
  else
    match listLength? c with
    | some length => some <$> length
    | none => refuse

def readItems {α : Type} (item : α → Read α) (fresh : α) : (n : Nat) → List α → Read (List α)
  | 0, _ => pure []
  | n + 1, before => do
    let first ← item (before.headD fresh)
    let rest ← readItems item fresh n before.tail
    return first :: rest

/-- A list that is read over and over: the items of all readings so far, and how many of them the
last reading left in the list, if it is there at all. Items past its end wait for a longer list. -/
structure Slots (α : Type) where
  items : List α := []
  size? : Option Nat := none
deriving Repr, DecidableEq

/-- The list as the last reading left it. -/
def Slots.toList? {α : Type} (slots : Slots α) : Option (List α) := slots.size?.map slots.items.take

/-- A list, read over the items of those before it. An absent list forgets them. -/
def readList {α : Type} (item : α → Read α) (fresh : α) (before : Slots α) : Read (Slots α) := do
  match ← readListLength with
  | none => return {}
  | some n =>
    let items ← readItems item fresh n before.items
    return { items := items ++ before.items.drop n, size? := some n }

/-- A list of texts. Nothing leaves what was there before. -/
def readTexts (before : Option (List Bytes)) : Read (Option (List Bytes)) := do
  match ← readListLength with
  | none => return before
  | some n => some <$> readItems (fun _ => readText) [] n []

/-- What follows the code of a value: a number of plain bytes, and a number of further values. -/
def follows (c : Nat) : Read (Nat × Nat) :=
  let plain := fun (n : Nat) => (pure (n, 0) : Read (Nat × Nat))
  if Nat.ble c 0x7f || Nat.ble 0xe0 c then plain 0
  else if between 0xa0 0xbf c || between 0xd9 0xdb c || between 0xc4 0xc6 c then do
    return ((← textLength c).getD 0, 0)
  else
    match listLength? c, recordLength? c with
    | some length, _ => do return (0, ← length)
    | _, some length => do return (0, 2 * (← length))
    | _, _ =>
      match c with
      | 0xc0 | 0xc2 | 0xc3 => plain 0
      | 0xcc | 0xd0 => plain 1
      | 0xcd | 0xd1 | 0xd4 => plain 2
      | 0xd5 => plain 3
      | 0xca | 0xce | 0xd2 => plain 4
      | 0xd6 => plain 5
      | 0xcb | 0xcf | 0xd3 => plain 8
      | 0xd7 => plain 9
      | 0xd8 => plain 17
      | 0xc7 => do return ((← readNat 1) + 1, 0)
      | 0xc8 => do return ((← readNat 2) + 1, 0)
      | 0xc9 => do return ((← readNat 4) + 1, 0)
      | _ => refuse

/-- Skips values, with all that is in them. Each takes a byte at least, so `fuel` is the number of
bytes. -/
def skipValues : (fuel : Nat) → (values : Nat) → Read Unit
  | _, 0 => pure ()
  | 0, _ + 1 => refuse
  | fuel + 1, values + 1 => do
    let (plain, more) ← follows (← code)
    let _ ← take plain
    skipValues fuel (values + more)

def skip : Read Unit := fun bytes => skipValues (bytes.length + 1) 1 bytes

/-- The fields of a record: their names and how each is read over the record. -/
abbrev Fields (ρ : Type) := List (String × (ρ → Read ρ))

/-- Reads named fields in any order. Unknown names are skipped, and of two with one name the later
counts. -/
def readNamed {ρ : Type} (fields : Fields ρ) : (n : Nat) → ρ → Read ρ
  | 0, before => pure before
  | n + 1, before => do
    let name ← readText
    match fields.find? fun field => Text.bytesOf field.1 == name with
    | some (_, read) => readNamed fields n (← read before)
    | none =>
      skip
      readNamed fields n before

/-- Reads fields that stand in their order without names. -/
def readInOrder {ρ : Type} : Fields ρ → ρ → Read ρ
  | [], before => pure before
  | (_, read) :: rest, before => do readInOrder rest (← read before)

/-- A record, read over the one that was there before. It may be written with names or as a list of all
fields; nothing and the empty list stand for the fresh record. -/
def readRecord {ρ : Type} (fields : Fields ρ) (fresh before : ρ) : Read ρ := do
  let c ← code
  if c == 0xc0 then return fresh
  else
    match recordLength? c, listLength? c with
    | some length, _ => readNamed fields (← length) before
    | _, some length =>
      let n ← length
      if n == 0 then return fresh
      else if n == fields.length then readInOrder fields before
      else refuse
    | _, _ => refuse

/-- A record that may be absent, read over the one that was there before. -/
def readOptional {ρ : Type} (read : ρ → Read ρ) (fresh : ρ) (before : Option ρ) :
    Read (Option ρ) := fun bytes =>
  if bytes.head? == some (0xc0 : UInt8) then some (none, bytes.tail)
  else ((fun value => some value) <$> read (before.getD fresh)) bytes

/-! ### Codecs -/

/-- What writes and reads integers, texts, lists and records. Lists are read over what was read before,
and so are records. -/
structure Codec where
  int : Int → Bytes
  text : Bytes → Bytes
  list : {α : Type} → (α → Bytes) → Option (List α) → Bytes
  record : List (String × Bytes) → Bytes
  readInt : Read Int
  readText : Read Bytes
  readTexts : Option (List Bytes) → Read (Option (List Bytes))
  readList : {α : Type} → (α → Read α) → α → Slots α → Read (Slots α)
  readRecord : {ρ : Type} → Fields ρ → (fresh before : ρ) → Read ρ
  readOptional : {ρ : Type} → (ρ → Read ρ) → ρ → Option ρ → Read (Option ρ)

def Codec.compact : Codec where
  int := Packed.int
  text := Packed.text
  list := Packed.list
  record := Packed.record
  readInt := Packed.readInt
  readText := Packed.readText
  readTexts := Packed.readTexts
  readList := Packed.readList
  readRecord := Packed.readRecord
  readOptional := Packed.readOptional

end Tabulation.Packed
