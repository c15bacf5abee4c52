/-
A keyed 64-bit hash of byte strings: four lanes of state, mixed by 32-byte packets. It spreads names
over a fixed number of buckets, the same way in every run.
-/

import Tabulation.Text.Bytes

namespace Tabulation.Hash

open Tabulation.Text (Bytes)

/-- Four 64-bit lanes. -/
structure Lanes where
  a : UInt64
  b : UInt64
  c : UInt64
  d : UInt64
deriving Repr, DecidableEq

namespace Lanes

def map (f : UInt64 → UInt64) (x : Lanes) : Lanes := ⟨f x.a, f x.b, f x.c, f x.d⟩

/-- Combines two quadruples lane by lane. -/
def zipWith (f : UInt64 → UInt64 → UInt64) (x y : Lanes) : Lanes :=
  ⟨f x.a y.a, f x.b y.b, f x.c y.c, f x.d y.d⟩

end Lanes

structure State where
  v0 : Lanes
  v1 : Lanes
  mul0 : Lanes
  mul1 : Lanes
deriving Repr, DecidableEq

def swapHalves (x : UInt64) : UInt64 := (x >>> 32) ||| (x <<< 32)

/-- The product of the low half of `x` and the high half of `y`. -/
def crossProduct (x y : UInt64) : UInt64 := (x &&& (0xFFFFFFFF : UInt64)) * (y >>> 32)

/-- Byte number `i` of a word, from the lowest. -/
def byteOf (x : UInt64) (i : UInt64) : UInt64 := (x >>> (8 * i)) &&& (0xFF : UInt64)

/-- The word with the given bytes, from the lowest. -/
def wordOf (bytes : List UInt64) : UInt64 := bytes.foldr (fun byte word => (word <<< 8) ||| byte) 0

/-- Interleaves the bytes of two words into the first of two mixed words. -/
def zipFirst (a b : UInt64) : UInt64 :=
  wordOf [byteOf a 3, byteOf b 4, byteOf a 2, byteOf a 5, byteOf b 6, byteOf a 1, byteOf b 7,
    byteOf a 0]

/-- Interleaves the bytes of two words into the second of two mixed words. -/
def zipSecond (a b : UInt64) : UInt64 :=
  wordOf [byteOf b 3, byteOf a 4, byteOf b 2, byteOf b 5, byteOf b 1, byteOf a 6, byteOf b 0,
    byteOf a 7]

/-- Adds the interleaved bytes of `source` to `target`, pair by pair. -/
def addZipped (target source : Lanes) : Lanes :=
  ⟨target.a + zipFirst source.a source.b, target.b + zipSecond source.a source.b,
    target.c + zipFirst source.c source.d, target.d + zipSecond source.c source.d⟩

def State.update (s : State) (packet : Lanes) : State :=
  let v1 := s.v1.zipWith (· + ·) (packet.zipWith (· + ·) s.mul0)
  let mul0 := s.mul0.zipWith (· ^^^ ·) (v1.zipWith crossProduct s.v0)
  let v0 := s.v0.zipWith (· + ·) s.mul1
  let mul1 := s.mul1.zipWith (· ^^^ ·) (v0.zipWith crossProduct v1)
  let v0 := addZipped v0 v1
  let v1 := addZipped v1 v0
  ⟨v0, v1, mul0, mul1⟩

def littleWord (bytes : Bytes) : UInt64 := wordOf ((bytes.take 8).map UInt8.toUInt64)

/-- The packet at the start of a byte string. -/
def packetOf (bytes : Bytes) : Lanes :=
  ⟨littleWord bytes, littleWord (bytes.drop 8), littleWord (bytes.drop 16),
    littleWord (bytes.drop 24)⟩

/-- The key of the buckets: it only has to be the same in every run. -/
def bucketKey : Lanes := packetOf (Tabulation.Text.bytesOf "ifds-chunks-0123456789ABCDEF0123")

/-- The state before the first packet. -/
def State.start (key : Lanes) : State :=
  let init0 : Lanes := ⟨0xdbe6d5d5fe4cce2f, 0xa4093822299f31d0, 0x13198a2e03707344, 0x243f6a8885a308d3⟩
  let init1 : Lanes := ⟨0x3bd39e10cb0ef593, 0xc0acf169b5f18a8c, 0xbe5466cf34e90c6c, 0x452821e638d01377⟩
  ⟨init0.zipWith (· ^^^ ·) key, init1.zipWith (· ^^^ ·) (key.map swapHalves), init0, init1⟩

/-- Rotates each half of a word left by `n` bits, `0 < n < 32`. -/
def rotateHalves (n : UInt64) (x : UInt64) : UInt64 :=
  let rotate := fun (half : UInt64) => ((half <<< n) ||| (half >>> (32 - n))) &&& 0xFFFFFFFF
  rotate (x &&& (0xFFFFFFFF : UInt64)) ||| (rotate (x >>> 32) <<< 32)

/-- The packet of a remainder shorter than 32 bytes: its whole words first, then its last bytes in a
place that depends on the length. -/
def remainderBlock (rest : Bytes) : Bytes :=
  let n := rest.length
  let k := n % 4
  let body := rest.take (n - k)
  let byteAt := fun i => (rest[i]?).getD 0
  let filled := body ++ List.replicate (32 - body.length) 0
  if 16 ≤ n then filled.take 28 ++ rest.drop (n - 4)
  else if k = 0 then filled
  else filled.take 16 ++ [byteAt (n - k), byteAt (n - k + k / 2), byteAt (n - 1)] ++ filled.drop 19

/-- Mixes a remainder of `1` to `31` bytes into the state. -/
def State.updateRemainder (s : State) (rest : Bytes) : State :=
  let n := rest.length.toUInt64
  let longer : State :=
    { s with v0 := s.v0.map (· + ((n <<< 32) + n)), v1 := s.v1.map (rotateHalves n) }
  longer.update (packetOf (remainderBlock rest))

def State.absorb (s : State) (bytes : Bytes) : State :=
  if _h : 32 ≤ bytes.length then (s.update (packetOf bytes)).absorb (bytes.drop 32)
  else if bytes.isEmpty then s
  else s.updateRemainder bytes
termination_by bytes.length
decreasing_by
  simp only [List.length_drop]
  omega

def State.stir (s : State) : State :=
  s.update ⟨swapHalves s.v0.c, swapHalves s.v0.d, swapHalves s.v0.a, swapHalves s.v0.b⟩

/-- The hash of a byte string under a key. -/
def sum64 (key : Lanes) (bytes : Bytes) : UInt64 :=
  let s := ((State.start key).absorb bytes).stir.stir.stir.stir
  s.v0.a + s.v1.a + s.mul0.a + s.mul1.a

/-- The bucket of a name among `buckets`, a signed 64-bit number read as unsigned. The result is
read as signed; there is none when `buckets` is zero. -/
def bucket? (name : Bytes) (buckets : Int) : Option Int :=
  let count := (buckets % (18446744073709551616 : Int)).toNat
  if count = 0 then none
  else
    let index := (sum64 bucketKey name).toNat % count
    some (if index < 9223372036854775808 then (index : Int) else (index : Int) - 18446744073709551616)

end Tabulation.Hash
