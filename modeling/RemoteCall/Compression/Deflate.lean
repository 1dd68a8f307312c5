/-
The deflate format: blocks of literals and of copies from what was written
before.

`inflate?` reads the three kinds of blocks up to the final one and gives back
what follows. A copy may reach behind the start of the data; what lies there
counts as zero bytes. `deflate` writes a single block with the fixed codes, in
which each copy goes back to the latest place that starts with the same three
bytes.
-/
import Std.Data.HashMap
import RemoteCall.Compression.Huffman

namespace RemoteCall.Compression

/-! ## Lengths, distances and codes of the format -/

/-- Base and number of extra bits of the length symbols from 257 on. -/
def lengthSymbols : List (Nat × Nat) :=
  [(3, 0), (4, 0), (5, 0), (6, 0), (7, 0), (8, 0), (9, 0), (10, 0), (11, 1), (13, 1), (15, 1),
   (17, 1), (19, 2), (23, 2), (27, 2), (31, 2), (35, 3), (43, 3), (51, 3), (59, 3), (67, 4),
   (83, 4), (99, 4), (115, 4), (131, 5), (163, 5), (195, 5), (227, 5), (258, 0)]

/-- Base and number of extra bits of the distance symbols. -/
def distanceSymbols : List (Nat × Nat) :=
  [(1, 0), (2, 0), (3, 0), (4, 0), (5, 1), (7, 1), (9, 2), (13, 2), (17, 3), (25, 3), (33, 4),
   (49, 4), (65, 5), (97, 5), (129, 6), (193, 6), (257, 7), (385, 7), (513, 8), (769, 8),
   (1025, 9), (1537, 9), (2049, 10), (3073, 10), (4097, 11), (6145, 11), (8193, 12), (12289, 12),
   (16385, 13), (24577, 13)]

/-- The order in which the lengths of the code for code lengths are sent. -/
def lengthOrder : List Nat :=
  [16, 17, 18, 0, 8, 7, 9, 6, 10, 5, 11, 4, 12, 3, 13, 2, 14, 1, 15]

/-- Lengths of the fixed code for literals and lengths. -/
def fixedLengths : List Nat :=
  List.replicate 144 8 ++ List.replicate 112 9 ++ List.replicate 24 7 ++ List.replicate 8 8

/-- Lengths of the fixed code for distances. -/
def fixedDistanceLengths : List Nat :=
  List.replicate 32 5

/-- The symbol that ends a block. -/
def endOfBlock : Nat := 256

/-! ## Reading -/

/-- Copies `length` bytes from `distance` bytes back; zero bytes stand before the start. -/
def copyBack (distance : Nat) : Nat → Array UInt8 → Array UInt8
  | 0, out => out
  | length + 1, out =>
    let byte := if distance ≤ out.size then out[out.size - distance]?.getD 0 else 0
    copyBack distance length (out.push byte)

/-- A base with its extra bits. -/
def extended? (table : List (Nat × Nat)) (index : Nat) (bits : Bits) : Option (Nat × Bits) := do
  let (base, extra) ← table[index]?
  let (more, bits) ← Bits.field? extra bits
  return (base + more, bits)

/-- Reads symbols up to the end of the block; `fuel` bounds their number. -/
def inflateSymbols (literals distances : Tree) : Nat → Array UInt8 → Bits →
    Option (Array UInt8 × Bits)
  | 0, _, _ => none
  | fuel + 1, out, bits => do
    let (symbol, bits) ← literals.symbol? bits
    if symbol < endOfBlock then
      inflateSymbols literals distances fuel (out.push (UInt8.ofNat symbol)) bits
    else if symbol = endOfBlock then return (out, bits)
    else
      let (length, bits) ← extended? lengthSymbols (symbol - 257) bits
      let (symbol, bits) ← distances.symbol? bits
      let (distance, bits) ← extended? distanceSymbols symbol bits
      inflateSymbols literals distances fuel (copyBack distance length out) bits

/-- Reads `count` code lengths, latest first in `seen`; `fuel` bounds the symbols. -/
def readLengths (tree : Tree) (count : Nat) : Nat → List Nat → Bits → Option (List Nat × Bits)
  | 0, _, _ => none
  | fuel + 1, seen, bits =>
    if seen.length = count then some (seen.reverse, bits)
    else if count < seen.length then none
    else do
      let (symbol, bits) ← tree.symbol? bits
      if symbol < 16 then readLengths tree count fuel (symbol :: seen) bits
      else if symbol = 16 then
        let previous ← seen.head?
        let (more, bits) ← Bits.field? 2 bits
        readLengths tree count fuel (List.replicate (3 + more) previous ++ seen) bits
      else
        let (base, extra) := if symbol = 17 then (3, 3) else (11, 7)
        let (more, bits) ← Bits.field? extra bits
        readLengths tree count fuel (List.replicate (base + more) 0 ++ seen) bits

/-- Reads `n` fields of three bits. -/
def readTriples : Nat → Bits → Option (List Nat × Bits)
  | 0, bits => some ([], bits)
  | n + 1, bits => do
    let (value, bits) ← Bits.field? 3 bits
    let (rest, bits) ← readTriples n bits
    return (value :: rest, bits)

/-- Reads the two codes that a block brings with it. -/
def readCodes (bits : Bits) : Option (Tree × Tree × Bits) := do
  let (literalCount, bits) ← Bits.field? 5 bits
  let (distanceCount, bits) ← Bits.field? 5 bits
  let (lengthCount, bits) ← Bits.field? 4 bits
  let literalCount := literalCount + 257
  let distanceCount := distanceCount + 1
  if 286 < literalCount ∨ 30 < distanceCount then none
  else
    let (sent, bits) ← readTriples (lengthCount + 4) bits
    let ordered := lengthOrder.zip sent
    let tree ← Tree.ofLengths? ((List.range 19).map fun n => (ordered.lookup n).getD 0)
    let (lengths, bits) ← readLengths tree (literalCount + distanceCount) 400 [] bits
    let literals ← Tree.ofLengths? (lengths.take literalCount)
    let distances ← Tree.ofLengths? (lengths.drop literalCount)
    return (literals, distances, bits)

/-- Reads a block whose bytes stand as they are. -/
def readStored (out : Array UInt8) (bits : Bits) : Option (Array UInt8 × Bits) := do
  let (length, bits) ← Bits.field? 16 (Bits.align bits)
  let (complement, bits) ← Bits.field? 16 bits
  if length + complement ≠ 0xFFFF then none
  else
    let body := bits.take (8 * length)
    if body.length = 8 * length then return (Bits.packOnto out body, bits.drop (8 * length))
    else none

/-- Reads blocks up to the final one; `fuel` bounds their number. -/
def inflateBlocks : Nat → Array UInt8 → Bits → Option (Array UInt8 × Bits)
  | 0, _, _ => none
  | fuel + 1, out, bits => do
    let (final, bits) ← Bits.field? 1 bits
    let (kind, bits) ← Bits.field? 2 bits
    let (out, bits) ←
      if kind = 0 then readStored out bits
      else if kind = 1 then do
        let literals ← Tree.ofLengths? fixedLengths
        let distances ← Tree.ofLengths? fixedDistanceLengths
        inflateSymbols literals distances (bits.length + 1) out bits
      else if kind = 2 then do
        let (literals, distances, bits) ← readCodes bits
        inflateSymbols literals distances (bits.length + 1) out bits
      else none
    if final = 1 then return (out, bits) else inflateBlocks fuel out bits

/-- The data of a deflate stream and the bytes that follow the stream. -/
def inflate? (bytes : Bytes) : Option (Bytes × Bytes) := do
  let (out, rest) ← inflateBlocks (8 * bytes.length + 1) #[] (Bits.ofBytes bytes)
  return (out.toList, Bits.toBytes (Bits.align rest))

/-! ## Writing -/

/-- What a block is made of. -/
inductive Token where
  | literal (byte : UInt8)
  | copy (length distance : Nat)
deriving DecidableEq, Repr

/-- How many bytes from `i` on equal those from `j` on, at most `limit`. -/
def commonLength (data : Array UInt8) (i j : Nat) : Nat → Nat
  | 0 => 0
  | limit + 1 =>
    match data[i]?, data[j]? with
    | some a, some b => if a = b then commonLength data (i + 1) (j + 1) limit + 1 else 0
    | _, _ => 0

/-- The three bytes at a place as one number. -/
def tripleAt? (data : Array UInt8) (i : Nat) : Option Nat := do
  let a ← data[i]?
  let b ← data[i + 1]?
  let c ← data[i + 2]?
  return (a.toNat * 256 + b.toNat) * 256 + c.toNat

/-- How far back a copy may reach. -/
def maxDistance : Nat := 32768

/-- How many bytes one copy may bring. -/
def maxCopy : Nat := 258

/-- The tokens of the data from `i` on, behind `seen`. `latest` holds the latest place of each
triple; `fuel` bounds the number of tokens. -/
def tokensFrom (data : Array UInt8) : Nat → Nat → Std.HashMap Nat Nat → Array Token → Array Token
  | 0, _, _, seen => seen
  | fuel + 1, i, latest, seen =>
    match data[i]? with
    | none => seen
    | some byte =>
      match tripleAt? data i with
      | none => tokensFrom data fuel (i + 1) latest (seen.push (.literal byte))
      | some triple =>
        let length := match latest[triple]? with
          | some j => if i ≤ j + maxDistance then commonLength data j i maxCopy else 0
          | none => 0
        if 3 ≤ length then
          let distance := i - latest[triple]?.getD 0
          tokensFrom data fuel (i + length) (latest.insert triple i)
            (seen.push (.copy length distance))
        else
          tokensFrom data fuel (i + 1) (latest.insert triple i) (seen.push (.literal byte))

/-- The last entry of a table whose base is at most `value`: its index, base and extra bits. -/
def entryFor (table : List (Nat × Nat)) (value : Nat) : Nat × Nat × Nat :=
  table.zipIdx.foldl
    (fun best ((base, extra), index) => if base ≤ value then (index, base, extra) else best)
    (0, 0, 0)

/-- The bits of a token under the given code words. -/
def tokenBits (literals distances : Array (List Bool)) : Token → Bits
  | .literal byte => literals[byte.toNat]?.getD []
  | .copy length distance =>
    let (index, base, extra) := entryFor lengthSymbols length
    let (far, farBase, farExtra) := entryFor distanceSymbols distance
    (literals[257 + index]?.getD [] ++ Bits.ofNat extra (length - base))
      ++ (distances[far]?.getD [] ++ Bits.ofNat farExtra (distance - farBase))

/-- The deflate stream of the data. -/
def deflate (bytes : Bytes) : Bytes :=
  let data := bytes.toArray
  let literals := (codeWords fixedLengths).toArray
  let distances := (codeWords fixedDistanceLengths).toArray
  let tokens := tokensFrom data data.size 0 Std.HashMap.emptyWithCapacity #[]
  Bits.toBytes ([true, true, false]
    ++ tokens.toList.flatMap (tokenBits literals distances) ++ literals[endOfBlock]?.getD [])

end RemoteCall.Compression
