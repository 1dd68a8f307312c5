/-
Bits of a byte stream.

Bits leave a byte lowest first. A field of `n` bits is a number whose lowest
bit comes first; the code words of `Compression.Huffman` come the other way
round, one bit at a time.
-/
import RemoteCall.Bytes.Utf8

namespace RemoteCall.Compression

/-- A stream of bits. -/
abbrev Bits := List Bool

namespace Bits

/-- The lowest `n` bits of a number, lowest first. -/
def ofNat : Nat → Nat → Bits
  | 0, _ => []
  | n + 1, value => (value % 2 == 1) :: ofNat n (value / 2)

/-- The number whose bits are given, lowest first. -/
def toNat : Bits → Nat
  | [] => 0
  | b :: rest => (if b then 1 else 0) + 2 * toNat rest

/-- The bits of bytes. -/
def ofBytes (bytes : Bytes) : Bits :=
  bytes.flatMap fun b => ofNat 8 b.toNat

/-- Packs bits into bytes behind `out`, the last byte filled up with zeros. -/
def packOnto (out : Array UInt8) : Bits → Array UInt8
  | a :: b :: c :: d :: e :: f :: g :: h :: rest =>
    packOnto (out.push (UInt8.ofNat (toNat [a, b, c, d, e, f, g, h]))) rest
  | [] => out
  | rest => out.push (UInt8.ofNat (toNat rest))

/-- The bytes that hold the bits, the last one filled up with zeros. -/
def toBytes (bits : Bits) : Bytes :=
  (packOnto #[] bits).toList

/-- Takes a field of `n` bits off the front. -/
def field? (n : Nat) (bits : Bits) : Option (Nat × Bits) :=
  let taken := bits.take n
  if taken.length = n then some (toNat taken, bits.drop n) else none

/-- Drops what is left of the byte in progress, for a stream that ends with a byte. -/
def align (bits : Bits) : Bits :=
  bits.drop (bits.length % 8)

end Bits

end RemoteCall.Compression
