/-
Places in a YAML text.

A `Cursor` is what is left of a text together with the line, the column and the
number of characters before it. Lines end with a line feed, a carriage return,
both, or one of the three Unicode line ends.
-/

namespace RemoteCall.Yaml

/-! ## Classes of characters -/

/-- A character that may stand in a text at all. -/
def isAllowed (c : Char) : Bool :=
  let n := c.toNat
  n == 0x09 || n == 0x0A || n == 0x0D || (0x20 ≤ n && n ≤ 0x7E) || n == 0x85
    || (0xA0 ≤ n && n ≤ 0xFFFD) || 0x10000 ≤ n

/-- A character that ends a line. -/
def isBreak (c : Char) : Bool :=
  c == '\n' || c == '\r' || c.toNat == 0x85 || c.toNat == 0x2028 || c.toNat == 0x2029

/-- A space or a tab. -/
def isBlank (c : Char) : Bool :=
  c == ' ' || c == '\t'

/-- A character of the names of anchors, handles and directives. -/
def isWordChar (c : Char) : Bool :=
  c.isAlphanum || c == '_' || c == '-'

/-! ## Places -/

/-- What is left of a text, and where it stands. -/
structure Cursor where
  rest : List Char
  index : Nat := 0
  line : Nat := 0
  column : Nat := 0

namespace Cursor

/-- The character `n` places ahead. -/
def peek? (c : Cursor) (n : Nat) : Option Char := c.rest[n]?

/-- The character `n` places ahead is `x`. -/
def sees (c : Cursor) (n : Nat) (x : Char) : Bool := c.peek? n == some x

/-- A blank stands `n` places ahead. -/
def seesBlank (c : Cursor) (n : Nat) : Bool := (c.peek? n).any isBlank

/-- A line ends `n` places ahead. -/
def seesBreak (c : Cursor) (n : Nat) : Bool := (c.peek? n).any isBreak

/-- A line or the text ends `n` places ahead. -/
def seesEnd (c : Cursor) (n : Nat) : Bool := (c.peek? n).all isBreak

/-- A blank, or the end of a line or of the text, stands `n` places ahead. -/
def seesGap (c : Cursor) (n : Nat) : Bool := (c.peek? n).all fun x => isBlank x || isBreak x

/-- Nothing is left. -/
def atEnd (c : Cursor) : Bool := c.rest.isEmpty

/-- Moves over `n` characters of one line. -/
def skip (c : Cursor) (n : Nat) : Cursor :=
  { c with rest := c.rest.drop n, index := c.index + n, column := c.column + n }

/-- The characters of one line up to the first that does not satisfy `p`, and the place there. -/
def span (c : Cursor) (p : Char → Bool) : List Char × Cursor :=
  let taken := c.rest.takeWhile p
  (taken, c.skip taken.length)

/-- Moves over the characters of one line that satisfy `p`. -/
def skipWhile (c : Cursor) (p : Char → Bool) : Cursor := (c.span p).2

/-- Moves over the end of a line; also the text that it stands for. -/
def takeBreak (c : Cursor) : List Char × Cursor :=
  let next (n : Nat) : Cursor :=
    { rest := c.rest.drop n, index := c.index + n, line := c.line + 1, column := 0 }
  match c.rest with
  | '\r' :: '\n' :: _ => (['\n'], next 2)
  | x :: _ =>
    if x.toNat == 0x2028 || x.toNat == 0x2029 then ([x], next 1)
    else if isBreak x then (['\n'], next 1)
    else ([], c)
  | [] => ([], c)

/-- Three equal marks that start a line and stand alone: the limits of documents. -/
def seesLimit (c : Cursor) (mark : Char) : Bool :=
  c.column == 0 && c.sees 0 mark && c.sees 1 mark && c.sees 2 mark && c.seesGap 3

/-- Either limit of a document. -/
def seesAnyLimit (c : Cursor) : Bool := c.seesLimit '-' || c.seesLimit '.'

/-- Moves over a comment, if there is one, up to the end of the line. -/
def skipComment (c : Cursor) : Cursor :=
  if c.sees 0 '#' then c.skipWhile fun x => !isBreak x else c

end Cursor

end RemoteCall.Yaml
