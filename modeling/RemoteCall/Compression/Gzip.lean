/-
The gzip format: a header, a deflate stream and a trailer with the checksum and
the length of the data.

Only the first member is read; what follows it is ignored. The optional parts of
the header are skipped, a header checksum has to match, and reserved flags are
refused.
-/
import RemoteCall.Compression.Deflate

namespace RemoteCall.Compression

/-! ## The checksum -/

/-- One bit of the checksum's polynomial division. -/
def crcBit (crc : UInt32) : UInt32 :=
  if crc &&& 1 = 1 then (crc >>> 1) ^^^ 0xEDB88320 else crc >>> 1

/-- Takes one byte into the running checksum. -/
def crcByte (crc : UInt32) (byte : UInt8) : UInt32 :=
  (List.range 8).foldl (fun crc _ => crcBit crc) (crc ^^^ byte.toUInt32)

/-- The CRC-32 checksum of bytes. -/
def crc32 (bytes : Bytes) : UInt32 :=
  bytes.foldl crcByte 0xFFFFFFFF ^^^ 0xFFFFFFFF

/-! ## The header -/

/-- Drops bytes up to and with the first zero byte. -/
def dropText? : Bytes → Option Bytes
  | [] => none
  | b :: rest => if b = 0 then some rest else dropText? rest

/-- Drops a part that starts with its length in two bytes, lowest first. -/
def dropExtra? : Bytes → Option Bytes
  | low :: high :: rest =>
    let length := low.toNat + 256 * high.toNat
    if length ≤ rest.length then some (rest.drop length) else none
  | _ => none

/-- Bit `n` of the flags is set. -/
def hasFlag (flags : UInt8) (n : Nat) : Bool :=
  flags.toNat.testBit n

/-- Drops the checksum of the header and compares it; `whole` is the text that starts with the
header. -/
def checkHeader? (whole : Bytes) : Bytes → Option Bytes
  | low :: high :: rest =>
    let header := whole.take (whole.length - (rest.length + 2))
    if (crc32 header).toNat % UInt16.size = low.toNat + 256 * high.toNat then some rest else none
  | _ => none

/-- What follows the header. -/
def dropHeader? (bytes : Bytes) : Option Bytes :=
  match bytes with
  | 0x1F :: 0x8B :: 8 :: flags :: _ :: _ :: _ :: _ :: _ :: _ :: rest =>
    if 32 ≤ flags then none
    else do
      let rest ← if hasFlag flags 2 then dropExtra? rest else some rest
      let rest ← if hasFlag flags 3 then dropText? rest else some rest
      let rest ← if hasFlag flags 4 then dropText? rest else some rest
      if hasFlag flags 1 then checkHeader? bytes rest else some rest
  | _ => none

/-! ## Members -/

/-- The four bytes of a number, lowest first. -/
def littleEndian (n : Nat) : Bytes :=
  [UInt8.ofNat n, UInt8.ofNat (n / 256), UInt8.ofNat (n / 65536), UInt8.ofNat (n / 16777216)]

/-- The checksum and the length modulo 2^32 that close a member. -/
def trailer (data : Bytes) : Bytes :=
  littleEndian (crc32 data).toNat ++ littleEndian data.length

/-- The data of the first member. -/
def gunzip? (bytes : Bytes) : Option Bytes := do
  let stream ← dropHeader? bytes
  let (data, rest) ← inflate? stream
  if rest.take 8 = trailer data then some data else none

/-- A single member that holds the data. -/
def gzip (data : Bytes) : Bytes :=
  [0x1F, 0x8B, 8, 0, 0, 0, 0, 0, 0, 0xFF] ++ deflate data ++ trailer data

end RemoteCall.Compression
