/-
From a YAML text to its tokens.

A key is known as such only at its colon, so the lexer remembers, for the block
context and for every open bracket, where a key may have started; the tokens that
mark the key go in there once the colon comes. Such a key lies on one line and
takes at most 1024 characters. Where a key has to stand, a missing colon is an
error.
-/
import RemoteCall.Yaml.Property
import RemoteCall.Yaml.Scalar

namespace RemoteCall.Yaml

/-- A place where a key may have started. -/
structure KeyStart where
  /-- How many tokens stand before it. -/
  behind : Nat
  /-- Nothing but a key can stand here. -/
  required : Bool
  index : Nat
  line : Nat
  column : Nat

/-- The state of the lexer. -/
structure Lexer where
  cursor : Cursor
  /-- The tokens so far, latest first. -/
  tokens : List Token := []
  /-- The column of the innermost block collection, and of those around it. -/
  columns : List Nat := []
  /-- The possible key of the block context, under those of the open brackets. -/
  keys : List (Option KeyStart) := [none]
  /-- A key may start here. -/
  keyAllowed : Bool := true

namespace Lexer

/-- The lexer is between brackets. -/
def inFlow (l : Lexer) : Bool := 1 < l.keys.length

/-- The lexer behind `n` more characters. -/
def skip (l : Lexer) (n : Nat) : Lexer := { l with cursor := l.cursor.skip n }

/-- The lexer with one more token. -/
def emit (l : Lexer) (t : Token) : Lexer := { l with tokens := t :: l.tokens }

/-- The lexer with a token behind the first `behind` ones. -/
def insert (l : Lexer) (behind : Nat) (t : Token) : Lexer :=
  { l with tokens := l.tokens.insertIdx (l.tokens.length - behind) t }

/-- The lexer with another answer to whether a key may start. -/
def allowKey (l : Lexer) (allowed : Bool) : Lexer := { l with keyAllowed := allowed }

/-! ## Indentation -/

/-- The column is further right than that of every block collection. -/
def isDeeper (l : Lexer) (column : Nat) : Bool := l.columns.head?.all (· < column)

/-- Opens a block collection at a column that is further right; its token goes behind the first
`behind` ones. -/
def roll (l : Lexer) (column behind : Nat) (start : Token) : Lexer :=
  if l.inFlow || !l.isDeeper column then l
  else { l.insert behind start with columns := column :: l.columns }

/-- Closes the block collections of the given columns. -/
def closeAll (l : Lexer) : List Nat → Lexer
  | [] => l
  | _ :: rest => closeAll (l.emit .blockEnd) rest

/-- Closes the block collections that are further right than a column. -/
def unroll (l : Lexer) (column : Nat) : Lexer :=
  if l.inFlow then l
  else { l.closeAll (l.columns.takeWhile (column < ·)) with
    columns := l.columns.dropWhile (column < ·) }

/-- Closes all block collections. -/
def unrollAll (l : Lexer) : Lexer :=
  if l.inFlow then l else { l.closeAll l.columns with columns := [] }

/-! ## Keys -/

/-- Gives up the possible key of the current context, unless there has to be one. -/
def dropKey (l : Lexer) : Option Lexer :=
  match l.keys with
  | some key :: rest => if key.required then none else some { l with keys := Option.none :: rest }
  | _ => some l

/-- A key that starts here. -/
def keyHere (l : Lexer) : KeyStart where
  behind := l.tokens.length
  required := !l.inFlow && l.columns.head? == some l.cursor.column
  index := l.cursor.index
  line := l.cursor.line
  column := l.cursor.column

/-- Remembers that a key may start here. -/
def saveKey (l : Lexer) : Option Lexer :=
  if l.keyAllowed then do
    let l ← l.dropKey
    return { l with keys := some l.keyHere :: l.keys.drop 1 }
  else some l

/-- A possible key that is left behind: on an earlier line, or too far away. -/
def isStale (c : Cursor) (key : KeyStart) : Bool :=
  key.line < c.line || key.index + 1024 < c.index

/-- Gives up the possible keys that are left behind. -/
def dropStale (l : Lexer) : Option Lexer := do
  let keys ← l.keys.mapM fun key =>
    match key with
    | none => some none
    | some k =>
      if isStale l.cursor k then (if k.required then none else some none) else some (some k)
  return { l with keys := keys }

/-! ## White space -/

/-- Moves to the next token over at most `fuel` lines. -/
def toNextToken : Nat → Lexer → Lexer
  | 0, l => l
  | fuel + 1, l =>
    let c := if l.cursor.index == 0 && (l.cursor.peek? 0).any (·.toNat == 0xFEFF)
      then l.cursor.skip 1 else l.cursor
    let tabs := l.inFlow || !l.keyAllowed
    let c := (c.skipWhile fun x => x == ' ' || (tabs && x == '\t')).skipComment
    if c.seesBreak 0 then
      toNextToken fuel { l with
        cursor := c.takeBreak.2
        keyAllowed := l.keyAllowed || !l.inFlow }
    else { l with cursor := c }

/-! ## Tokens -/

/-- The end of the text. -/
def finish (l : Lexer) : Option Lexer := l.unrollAll.dropKey

/-- A directive. -/
def directive (l : Lexer) : Option Lexer := do
  let l ← l.unrollAll.dropKey
  let (token, c) ← readDirective l.cursor
  return { (l.allowKey false).emit token with cursor := c }

/-- The limit of a document. -/
def limit (l : Lexer) (token : Token) : Option Lexer := do
  let l ← l.unrollAll.dropKey
  return ((l.allowKey false).emit token).skip 3

/-- An opening bracket. -/
def openFlow (l : Lexer) (token : Token) : Option Lexer := do
  let l ← l.saveKey
  return { (l.emit token).skip 1 with keys := none :: l.keys, keyAllowed := true }

/-- A closing bracket. -/
def closeFlow (l : Lexer) (token : Token) : Option Lexer := do
  let l ← l.dropKey
  let keys := if l.inFlow then l.keys.drop 1 else l.keys
  return { (l.emit token).skip 1 with keys := keys, keyAllowed := false }

/-- A comma between brackets. -/
def flowEntry (l : Lexer) : Option Lexer := do
  let l ← l.dropKey
  return ((l.allowKey true).emit .flowEntry).skip 1

/-- Opens a block collection here, where one may start. -/
def rollHere (l : Lexer) (start : Token) : Option Lexer :=
  if l.inFlow then some l
  else if l.keyAllowed then some (l.roll l.cursor.column l.tokens.length start)
  else none

/-- The dash of a sequence. -/
def blockEntry (l : Lexer) : Option Lexer := do
  let l ← l.rollHere .blockSequenceStart
  let l ← l.dropKey
  return ((l.allowKey true).emit .blockEntry).skip 1

/-- The mark of a key that is given as such. -/
def explicitKey (l : Lexer) : Option Lexer := do
  let l ← l.rollHere .blockMappingStart
  let l ← l.dropKey
  return ((l.allowKey !l.inFlow).emit .key).skip 1

/-- The colon behind a key. -/
def value (l : Lexer) : Option Lexer :=
  match l.keys with
  | some key :: rest =>
    let marked := (l.insert key.behind .key).roll key.column key.behind .blockMappingStart
    some (({ marked with keys := none :: rest, keyAllowed := false }.emit .value).skip 1)
  | _ => do
    let l ← l.rollHere .blockMappingStart
    return ((l.allowKey !l.inFlow).emit .value).skip 1

/-- An anchor or an alias. -/
def name (l : Lexer) (make : String → Token) : Option Lexer := do
  let l ← l.saveKey
  let (text, c) ← readName l.cursor
  return { (l.allowKey false).emit (make text) with cursor := c }

/-- A tag. -/
def tag (l : Lexer) : Option Lexer := do
  let l ← l.saveKey
  let (token, c) ← readTag l.inFlow l.cursor
  return { (l.allowKey false).emit token with cursor := c }

/-- A block scalar. -/
def blockScalar (l : Lexer) (folded : Bool) : Option Lexer := do
  let l ← l.dropKey
  let (text, c) ← readBlock folded l.columns.head? l.cursor
  let style := if folded then ScalarStyle.folded else .literal
  return { (l.allowKey true).emit (.scalar text style) with cursor := c }

/-- A quoted scalar. -/
def quotedScalar (l : Lexer) (single : Bool) : Option Lexer := do
  let l ← l.saveKey
  let (text, c) ← readQuoted single l.cursor
  let style := if single then ScalarStyle.singleQuoted else .doubleQuoted
  return { (l.allowKey false).emit (.scalar text style) with cursor := c }

/-- A plain scalar. -/
def plainScalar (l : Lexer) : Option Lexer := do
  let l ← l.saveKey
  let indent := match l.columns.head? with
    | none => 0
    | some n => n + 1
  let (text, broken, c) ← readPlain l.inFlow indent l.cursor
  return { (l.allowKey broken).emit (.scalar text .plain) with cursor := c }

/-- Marks that cannot start a plain scalar. -/
def isIndicator (x : Char) : Bool :=
  "-?:,[]\x7b\x7d#&*!|>'\"%@\x60".toList.contains x

/-- A plain scalar starts here. -/
def startsPlain (inFlow : Bool) (c : Cursor) (x : Char) : Bool :=
  !(isBlank x || isBreak x || isIndicator x)
    || (x == '-' && !c.seesBlank 1)
    || (!inFlow && (x == '?' || x == ':') && !c.seesGap 1)

/-- Reads the token at the character `x`. -/
def token (l : Lexer) (x : Char) : Option Lexer :=
  let c := l.cursor
  if c.column == 0 && x == '%' then l.directive
  else if c.seesLimit '-' then l.limit .documentStart
  else if c.seesLimit '.' then l.limit .documentEnd
  else if x == '[' then l.openFlow .flowSequenceStart
  else if x == '\x7b' then l.openFlow .flowMappingStart
  else if x == ']' then l.closeFlow .flowSequenceEnd
  else if x == '\x7d' then l.closeFlow .flowMappingEnd
  else if x == ',' then l.flowEntry
  else if x == '-' && c.seesGap 1 then l.blockEntry
  else if x == '?' && (l.inFlow || c.seesGap 1) then l.explicitKey
  else if x == ':' && (l.inFlow || c.seesGap 1) then l.value
  else if x == '*' then l.name .alias
  else if x == '&' then l.name .anchor
  else if x == '!' then l.tag
  else if x == '|' && !l.inFlow then l.blockScalar false
  else if x == '>' && !l.inFlow then l.blockScalar true
  else if x == '\'' then l.quotedScalar true
  else if x == '"' then l.quotedScalar false
  else if startsPlain l.inFlow c x then l.plainScalar
  else none

/-- Reads at most `fuel` tokens, up to the end of the text. -/
def run : Nat → Lexer → Option Lexer
  | 0, _ => none
  | fuel + 1, l => do
    let l ← (toNextToken (l.cursor.rest.length + 1) l).dropStale
    let l := l.unroll l.cursor.column
    match l.cursor.peek? 0 with
    | none => l.finish
    | some x =>
      let l ← l.token x
      run fuel l

end Lexer

/-- The tokens of a text, if it has any reading. -/
def tokens? (text : List Char) : Option (List Token) :=
  if text.all isAllowed then do
    let l ← Lexer.run (text.length + 2) { cursor := { rest := text } }
    return l.tokens.reverse
  else none

end RemoteCall.Yaml
