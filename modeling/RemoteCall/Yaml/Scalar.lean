/-
Reading the scalars of a YAML text.

A line end within a scalar is folded: a single one becomes a space, of several
the first is dropped. Blanks around it go away. Double quotes know escapes, single
quotes are written twice, a plain scalar ends at what could not be part of it, and
block scalars keep the shape that their indentation gives them.
-/
import RemoteCall.Bytes.Utf8
import RemoteCall.Yaml.Cursor

namespace RemoteCall.Yaml

/-- The white space behind a piece of a scalar: blanks, or line ends once there is one. -/
structure Gap where
  blanks : List Char := []
  /-- There was a line end, also one that was escaped. -/
  broken : Bool := false
  /-- The text of the first line end. -/
  first : List Char := []
  /-- The texts of the further ones. -/
  more : List Char := []

namespace Gap

/-- What the gap stands for. -/
def text (gap : Gap) : List Char :=
  if gap.broken then
    if gap.first.head? = some '\n' then
      if gap.more.isEmpty then [' '] else gap.more
    else gap.first ++ gap.more
  else gap.blanks

/-- The gap with one more line end. -/
def withBreak (gap : Gap) (mark : List Char) : Gap :=
  if gap.broken then { gap with more := gap.more ++ mark }
  else { blanks := [], broken := true, first := mark, more := [] }

end Gap

/-- Reads the white space that a scalar may have inside, at most `fuel` characters. Tabs are
refused on a continued line left of column `indent`. -/
def readGap (indent : Nat) : Nat → Gap → Cursor → Option (Gap × Cursor)
  | 0, gap, c => some (gap, c)
  | fuel + 1, gap, c =>
    match c.peek? 0 with
    | none => some (gap, c)
    | some x =>
      if isBlank x then
        if gap.broken then
          if c.column < indent && x == '\t' then none
          else readGap indent fuel gap (c.skip 1)
        else readGap indent fuel { gap with blanks := gap.blanks ++ [x] } (c.skip 1)
      else if isBreak x then
        let (mark, c) := c.takeBreak
        readGap indent fuel (gap.withBreak mark) c
      else some (gap, c)

/-! ## Quoted scalars -/

/-- The character that a one-letter escape stands for. -/
def simpleEscape? (c : Char) : Option Char :=
  match c with
  | '0' => some (Char.ofNat 0x00)
  | 'a' => some (Char.ofNat 0x07)
  | 'b' => some (Char.ofNat 0x08)
  | 't' => some '\t'
  | '\t' => some '\t'
  | 'n' => some '\n'
  | 'v' => some (Char.ofNat 0x0B)
  | 'f' => some (Char.ofNat 0x0C)
  | 'r' => some '\r'
  | 'e' => some (Char.ofNat 0x1B)
  | ' ' => some ' '
  | '"' => some '"'
  | '/' => some '/'
  | '\\' => some '\\'
  | 'N' => some (Char.ofNat 0x85)
  | '_' => some (Char.ofNat 0xA0)
  | 'L' => some (Char.ofNat 0x2028)
  | 'P' => some (Char.ofNat 0x2029)
  | _ => none

/-- How many hexadecimal digits follow the letter of an escape. -/
def escapeLength? (c : Char) : Option Nat :=
  match c with
  | 'x' => some 2
  | 'u' => some 4
  | 'U' => some 8
  | _ => none

/-- The value of exactly `count` hexadecimal digits. -/
def hexValue? : Nat → Nat → List Char → Option Nat
  | 0, seen, _ => some seen
  | _ + 1, _, [] => none
  | count + 1, seen, c :: rest =>
    match Hex.value? c with
    | none => none
    | some d => hexValue? count (seen * 16 + d) rest

/-- The character of a code point; surrogates and what lies above U+10FFFF have none. -/
def charOf? (n : Nat) : Option Char :=
  if (n < 0xD800 || 0xDFFF < n) && n ≤ 0x10FFFF then some (Char.ofNat n) else none

/-- Reads the escape at a backslash. -/
def readEscape? (c : Cursor) : Option (Char × Cursor) := do
  let letter ← c.peek? 1
  match simpleEscape? letter with
  | some x => return (x, c.skip 2)
  | none =>
    let count ← escapeLength? letter
    let n ← hexValue? count 0 (c.rest.drop 2)
    let x ← charOf? n
    return (x, c.skip (2 + count))

/-- Reads the characters of a quoted scalar up to white space or the closing quote, behind
`seen`; also whether an escaped line end was met. -/
def readQuotedRun (single : Bool) : Nat → List Char → Cursor → Option (List Char × Bool × Cursor)
  | 0, seen, c => some (seen, false, c)
  | fuel + 1, seen, c =>
    match c.peek? 0 with
    | none => some (seen, false, c)
    | some x =>
      if isBlank x || isBreak x then some (seen, false, c)
      else if single then
        if x == '\'' then
          if c.sees 1 '\'' then readQuotedRun single fuel (seen ++ ['\'']) (c.skip 2)
          else some (seen, false, c)
        else readQuotedRun single fuel (seen ++ [x]) (c.skip 1)
      else if x == '"' then some (seen, false, c)
      else if x == '\\' then
        if c.seesBreak 1 then some (seen, true, (c.skip 1).takeBreak.2)
        else match readEscape? c with
          | none => none
          | some (y, c) => readQuotedRun single fuel (seen ++ [y]) c
      else readQuotedRun single fuel (seen ++ [x]) (c.skip 1)

/-- Reads a quoted scalar behind its opening quote and the text `seen`. -/
def readQuotedOnto (single : Bool) : Nat → List Char → Cursor → Option (List Char × Cursor)
  | 0, _, _ => none
  | fuel + 1, seen, c => do
    if c.seesAnyLimit || c.atEnd then none
    let (seen, broken, c) ← readQuotedRun single fuel seen c
    if c.sees 0 (if single then '\'' else '"') then return (seen, c.skip 1)
    let (gap, c) ← readGap 0 fuel { broken := broken } c
    readQuotedOnto single fuel (seen ++ gap.text) c

/-- Reads a quoted scalar at its opening quote. -/
def readQuoted (single : Bool) (c : Cursor) : Option (String × Cursor) := do
  let (text, c) ← readQuotedOnto single (2 * c.rest.length + 1) [] (c.skip 1)
  return (String.ofList text, c)

/-! ## Plain scalars -/

/-- Marks that have a meaning of their own between brackets. -/
def isFlowMark (c : Char) : Bool :=
  c == ',' || c == '[' || c == ']' || c == '\x7b' || c == '\x7d'

/-- A colon that ends a plain scalar for the mark behind it is refused between brackets. -/
def seesStrayColon (c : Cursor) : Bool :=
  c.sees 0 ':' && (c.peek? 1).any fun x => isFlowMark x || x == '?'

/-- A plain scalar cannot go on here. -/
def endsPlain (inFlow : Bool) (c : Cursor) : Bool :=
  c.seesGap 0 || (c.sees 0 ':' && c.seesGap 1) || (inFlow && (c.peek? 0).any isFlowMark)

/-- The characters of a plain scalar up to white space or what ends it. -/
def readPlainRun (inFlow : Bool) : Nat → List Char → Cursor → Option (List Char × Cursor)
  | 0, seen, c => some (seen, c)
  | fuel + 1, seen, c =>
    if c.seesGap 0 then some (seen, c)
    else if inFlow && seesStrayColon c then none
    else if endsPlain inFlow c then some (seen, c)
    else match c.peek? 0 with
      | none => some (seen, c)
      | some x => readPlainRun inFlow fuel (seen ++ [x]) (c.skip 1)

/-- Reads a plain scalar behind the text `seen` and the gap that follows it, with its lines
indented to column `indent` at least. Also whether it ended behind a line end. -/
def readPlainOnto (inFlow : Bool) (indent : Nat) :
    Nat → List Char → Gap → Cursor → Option (List Char × Bool × Cursor)
  | 0, seen, gap, c => some (seen, gap.broken, c)
  | fuel + 1, seen, gap, c => do
    if c.seesAnyLimit || c.sees 0 '#' then return (seen, gap.broken, c)
    let (run, after) ← readPlainRun inFlow c.rest.length [] c
    let (seen, gap) := if run.isEmpty then (seen, gap) else (seen ++ gap.text ++ run, {})
    if !(after.seesBlank 0 || after.seesBreak 0) then return (seen, gap.broken, after)
    let (gap, after) ← readGap indent after.rest.length gap after
    if !inFlow && after.column < indent then return (seen, gap.broken, after)
    readPlainOnto inFlow indent fuel seen gap after

/-- Reads a plain scalar; also whether it ended behind a line end. -/
def readPlain (inFlow : Bool) (indent : Nat) (c : Cursor) : Option (String × Bool × Cursor) := do
  let (text, broken, c) ← readPlainOnto inFlow indent (c.rest.length + 1) [] {} c
  return (String.ofList text, broken, c)

/-! ## Block scalars -/

/-- What becomes of the line ends at the end of a block scalar. -/
inductive Chomping where
  | strip
  | clip
  | keep
deriving DecidableEq, Repr

/-- The chomping that a mark asks for. -/
def chomping? (c : Cursor) : Option Chomping :=
  if c.sees 0 '+' then some .keep else if c.sees 0 '-' then some .strip else none

/-- The indentation that a digit asks for: none without a digit, and zero is refused. -/
def increment? (c : Cursor) : Option (Option Nat) :=
  match c.peek? 0 with
  | none => some none
  | some x =>
    if x.isDigit then (if x == '0' then none else some (some (x.toNat - 48))) else some none

/-- Reads the two marks behind the start of a block scalar, in either order. -/
def readBlockMarks (c : Cursor) : Option (Chomping × Option Nat × Cursor) :=
  match chomping? c with
  | some chomping => do
    let c := c.skip 1
    let increment ← increment? c
    return (chomping, increment, if increment.isSome then c.skip 1 else c)
  | none => do
    match ← increment? c with
    | none => return (.clip, none, c)
    | some increment =>
      let c := c.skip 1
      match chomping? c with
      | some chomping => return (chomping, some increment, c.skip 1)
      | none => return (.clip, some increment, c)

/-- Moves over indentation and empty lines. Behind `seen` there are the line ends passed, and
`deepest` becomes the largest column reached. Without an indentation yet any column goes. -/
def readEmptyLines (indent : Option Nat) :
    Nat → List Char → Nat → Cursor → Option (List Char × Nat × Cursor)
  | 0, seen, deepest, c => some (seen, deepest, c)
  | fuel + 1, seen, deepest, c =>
    let spaces := (c.rest.takeWhile (· == ' ')).length
    let c := c.skip (match indent with
      | none => spaces
      | some n => min spaces (n - c.column))
    let deepest := max deepest c.column
    if c.sees 0 '\t' && (match indent with
        | none => true
        | some n => decide (c.column < n)) then none
    else if c.seesBreak 0 then
      let (mark, c) := c.takeBreak
      readEmptyLines indent fuel (seen ++ mark) deepest c
    else some (seen, deepest, c)

/-- The lines of a block scalar read so far. -/
structure BlockText where
  text : List Char := []
  /-- The end of the latest line. -/
  lineEnd : List Char := []
  /-- The ends of the empty lines behind it. -/
  emptyLines : List Char
  /-- The latest line starts with a blank. -/
  indented : Bool := false

/-- Reads the lines that are indented to column `indent`. -/
def readBlockLines (folded : Bool) (indent : Nat) :
    Nat → BlockText → Cursor → Option (BlockText × Cursor)
  | 0, b, c => some (b, c)
  | fuel + 1, b, c => do
    if c.column != indent || c.atEnd then return (b, c)
    let blank := c.seesBlank 0
    let joined := folded && b.lineEnd.head? == some '\n' && !b.indented && !blank
    let joint := if joined then (if b.emptyLines.isEmpty then [' '] else []) else b.lineEnd
    let (line, c) := c.span fun x => !isBreak x
    let (lineEnd, c) := c.takeBreak
    let (emptyLines, _, c) ← readEmptyLines (some indent) c.rest.length [] 0 c
    readBlockLines folded indent fuel
      { text := b.text ++ joint ++ b.emptyLines ++ line, lineEnd := lineEnd,
        emptyLines := emptyLines, indented := blank } c

/-- Reads a block scalar at its first mark, within a block indented to `parent`, if any. -/
def readBlock (folded : Bool) (parent : Option Nat) (c : Cursor) : Option (String × Cursor) := do
  let (chomping, increment, c) ← readBlockMarks (c.skip 1)
  let c := (c.skipWhile isBlank).skipComment
  if !c.seesEnd 0 then none
  let c := c.takeBreak.2
  let given := increment.map fun n => n + parent.getD 0
  let (emptyLines, deepest, c) ← readEmptyLines given (c.rest.length + 1) [] 0 c
  let least := match parent with
    | none => 1
    | some n => n + 1
  let indent := given.getD (max deepest least)
  let (b, c) ← readBlockLines folded indent (c.rest.length + 1) { emptyLines := emptyLines } c
  let tail := match chomping with
    | .strip => []
    | .clip => b.lineEnd
    | .keep => b.lineEnd ++ b.emptyLines
  return (String.ofList (b.text ++ tail), c)

end RemoteCall.Yaml
