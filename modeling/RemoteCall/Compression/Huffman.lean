/-
Prefix codes given by the lengths of their code words.

Shorter code words come first, and among equally long ones the order is that of
the symbols. `Tree.ofLengths?` refuses lengths that ask for more code words than
there are, and lengths that leave some unused, unless at most one symbol has a
code word at all.
-/
import RemoteCall.Compression.Bits

namespace RemoteCall.Compression

/-- A prefix code as a binary tree: left for a zero, right for a one. -/
inductive Tree where
  | empty
  | leaf (symbol : Nat)
  | node (zero one : Tree)
deriving Inhabited

namespace Tree

/-- Puts a symbol at the end of a path. -/
def insert (symbol : Nat) : List Bool → Tree → Tree
  | [], _ => .leaf symbol
  | false :: path, .node zero one => .node (insert symbol path zero) one
  | true :: path, .node zero one => .node zero (insert symbol path one)
  | false :: path, _ => .node (insert symbol path .empty) .empty
  | true :: path, _ => .node .empty (insert symbol path .empty)

/-- The symbol whose code word is at the front of the bits. -/
def symbol? : Tree → Bits → Option (Nat × Bits)
  | .leaf s, bits => some (s, bits)
  | .node zero one, b :: rest => if b then one.symbol? rest else zero.symbol? rest
  | _, _ => none

end Tree

/-- A code word of `length` bits, highest bit first. -/
def codeWord (length code : Nat) : List Bool :=
  (Bits.ofNat length code).reverse

/-- The first code word of each length from 1 on, given how many there are of each length. -/
def firstCodes : Nat → List Nat → List Nat
  | _, [] => []
  | code, count :: counts => code :: firstCodes ((code + count) * 2) counts

/-- The longest code word. -/
def maxLength : Nat := 15

/-- How many symbols have code words of each length from 1 to 15. -/
def lengthCounts (lengths : List Nat) : List Nat :=
  (List.range maxLength).map fun n => lengths.count (n + 1)

/-- The lengths fill the code exactly, or at most one symbol is used. -/
def lengthsFit (lengths : List Nat) : Bool :=
  let counts := lengthCounts lengths
  let used := counts.foldl (· + ·) 0
  used ≤ 1 || counts.foldl (fun total count => (total + count) * 2) 0 == Nat.pow 2 (maxLength + 1)

/-- The code words of the symbols 0, 1, …, in order; a symbol of length zero has the empty one. -/
def codeWords (lengths : List Nat) : List (List Bool) :=
  (lengths.foldl (fun (next, words) length =>
    if length = 0 then (next, [] :: words)
    else
      let code := next[length - 1]?.getD 0
      (next.set (length - 1) (code + 1), codeWord length code :: words))
    (firstCodes 0 (lengthCounts lengths), [])).2.reverse

/-- The code with the given lengths. -/
def Tree.ofLengths? (lengths : List Nat) : Option Tree :=
  if lengthsFit lengths then
    some ((codeWords lengths).zipIdx.foldl
      (fun tree (word, symbol) => if word = [] then tree else tree.insert symbol word) .empty)
  else none

end RemoteCall.Compression
