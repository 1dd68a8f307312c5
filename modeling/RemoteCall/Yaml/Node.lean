/-
The nodes of a YAML document.

A document has one root node, or none if the text is empty. Nodes with anchors are
kept apart as well, so that an alias is no more than the number of an anchor; a
node may hold an alias of itself. A text with more than one document is refused.
-/
import RemoteCall.Yaml.Token

namespace RemoteCall.Yaml

/-- A node. -/
inductive Node where
  | scalar (text : String) (style : ScalarStyle) (tag : Option String)
  | sequence (tag : Option String) (items : List Node)
  | mapping (tag : Option String) (entries : List (Node × Node))
  | alias (anchor : Nat)
deriving Inhabited

/-- A plain scalar without text: what a missing value is. -/
def Node.missing (tag : Option String) : Node := .scalar "" .plain tag

mutual

/-- The size of a node: a collection counts twice, besides what it holds. -/
def Node.size : Node → Nat
  | .scalar .. => 1
  | .alias _ => 1
  | .sequence _ items => itemsSize items + 2
  | .mapping _ entries => entriesSize entries + 2

/-- The size of the items of a sequence. -/
def itemsSize : List Node → Nat
  | [] => 0
  | n :: rest => n.size + itemsSize rest

/-- The size of the entries of a mapping. -/
def entriesSize : List (Node × Node) → Nat
  | [] => 0
  | (k, v) :: rest => k.size + v.size + entriesSize rest

end

/-- A document. -/
structure Document where
  root : Option Node
  /-- The nodes with anchors, by their numbers. -/
  anchored : List (Nat × Node)

namespace Document

/-- The node of an anchor. -/
def node? (d : Document) (anchor : Nat) : Option Node := d.anchored.lookup anchor

/-- The size of the document. -/
def size (d : Document) : Nat :=
  match d.root with
  | none => 1
  | some n => n.size

end Document

/-! ## From tokens to nodes -/

/-- What is left of the tokens, and what is known about tags and anchors. -/
structure Stream where
  tokens : List Token
  /-- What tags with a handle start with. -/
  handles : List (String × String) := []
  /-- The numbers of the anchors so far, latest first. -/
  names : List (String × Nat) := []
  /-- The nodes of the anchors so far. -/
  anchored : List (Nat × Node) := []

/-- Reads off a stream; failing means that the text has no reading. -/
abbrev Assembly := StateT Stream Option

namespace Assembly

/-- The next token; none at the end. -/
def peek : Assembly (Option Token) := do
  return (← get).tokens.head?

/-- Moves over the next token. -/
def advance : Assembly Unit :=
  modify fun s => { s with tokens := s.tokens.drop 1 }

/-- The whole tag of a handle and a suffix. -/
def resolveTag (handle suffix : String) : Assembly String := do
  if handle = "" then return suffix
  match (← get).handles.lookup handle with
  | some start => return start ++ suffix
  | none => failure

/-- Reads an anchor, if there is one. -/
def anchor : Assembly (Option String) := do
  match ← peek with
  | some (.anchor name) => do
    advance
    return some name
  | _ => return none

/-- Reads a tag, if there is one. -/
def tag : Assembly (Option String) := do
  match ← peek with
  | some (.tag handle suffix) => do
    advance
    return some (← resolveTag handle suffix)
  | _ => return none

/-- Reads an anchor and a tag in either order, as far as they are there. -/
def properties : Assembly (Option String × Option String) := do
  match ← anchor with
  | some name => return (some name, ← tag)
  | none =>
    let t ← tag
    return (← anchor, t)

/-- Gives an anchor a number. -/
def openAnchor (name : Option String) : Assembly (Option Nat) := do
  match name with
  | none => return none
  | some name =>
    let s ← get
    let number := s.names.length
    set { s with names := (name, number) :: s.names }
    return some number

/-- Keeps the node of an anchor. -/
def closeAnchor (number : Option Nat) (n : Node) : Assembly Unit :=
  match number with
  | none => return
  | some number => modify fun s => { s with anchored := (number, n) :: s.anchored }

/-- The node of an alias. -/
def aliasOf (name : String) : Assembly Node := do
  match (← get).names.lookup name with
  | some number => return .alias number
  | none => failure

/-- The tag of a scalar; the bare mark is no tag. -/
def scalarTag (tag : Option String) : Option String :=
  if tag = some "!" then none else tag

mutual

/-- Reads a node. Block collections are welcome only with `block`, and a sequence without an
indentation of its own only with `indentless`. -/
def node (block indentless : Bool) : Nat → Assembly Node
  | 0 => failure
  | fuel + 1 => do
    match ← peek with
    | some (.alias name) =>
      advance
      aliasOf name
    | _ =>
      let (name, tag) ← properties
      let number ← openAnchor name
      let n ← content block indentless tag (name.isSome || tag.isSome) fuel
      closeAnchor number n
      return n

/-- Reads what stands behind the anchor and the tag of a node; with either of them it may be
missing. -/
def content (block indentless : Bool) (tag : Option String) (optional : Bool) : Nat → Assembly Node
  | 0 => failure
  | fuel + 1 => do
    match ← peek with
    | some (.scalar text style) =>
      advance
      return .scalar text style (scalarTag tag)
    | some .flowSequenceStart =>
      advance
      return .sequence tag (← flowItems true fuel)
    | some .flowMappingStart =>
      advance
      return .mapping tag (← flowEntries true fuel)
    | some .blockEntry =>
      if indentless then return .sequence tag (← indentlessItems fuel)
      else if optional then return .missing tag
      else failure
    | some .blockSequenceStart =>
      if block then
        advance
        return .sequence tag (← blockItems fuel)
      else if optional then return .missing tag
      else failure
    | some .blockMappingStart =>
      if block then
        advance
        return .mapping tag (← blockEntries fuel)
      else if optional then return .missing tag
      else failure
    | _ => if optional then return .missing tag else failure

/-- Reads the items of a block sequence. -/
def blockItems : Nat → Assembly (List Node)
  | 0 => failure
  | fuel + 1 => do
    match ← peek with
    | some .blockEntry =>
      advance
      let item ← (do
        match ← peek with
        | some .blockEntry | some .blockEnd => return .missing none
        | _ => node true false fuel)
      return item :: (← blockItems fuel)
    | some .blockEnd =>
      advance
      return []
    | _ => failure

/-- Reads the items of a sequence that is indented like the mapping around it. -/
def indentlessItems : Nat → Assembly (List Node)
  | 0 => failure
  | fuel + 1 => do
    match ← peek with
    | some .blockEntry =>
      advance
      let item ← (do
        match ← peek with
        | some .blockEntry | some .key | some .value | some .blockEnd => return .missing none
        | _ => node true false fuel)
      return item :: (← indentlessItems fuel)
    | _ => return []

/-- Reads a key or a value of a block mapping. -/
def blockPart : Nat → Assembly Node
  | 0 => failure
  | fuel + 1 => do
    match ← peek with
    | some .key | some .value | some .blockEnd => return .missing none
    | _ => node true true fuel

/-- Reads the entries of a block mapping. -/
def blockEntries : Nat → Assembly (List (Node × Node))
  | 0 => failure
  | fuel + 1 => do
    match ← peek with
    | some .key =>
      advance
      let k ← blockPart fuel
      let v ← (do
        match ← peek with
        | some .value =>
          advance
          blockPart fuel
        | _ => return .missing none)
      return (k, v) :: (← blockEntries fuel)
    | some .blockEnd =>
      advance
      return []
    | _ => failure

/-- Reads the items of a sequence between brackets; a key makes an item a mapping of one
entry. -/
def flowItems (first : Bool) : Nat → Assembly (List Node)
  | 0 => failure
  | fuel + 1 => do
    match ← peek with
    | some .flowSequenceEnd =>
      advance
      return []
    | other =>
      if !first then
        if other = some .flowEntry then advance else failure
      match ← peek with
      | some .flowSequenceEnd =>
        advance
        return []
      | some .key =>
        advance
        let pair ← flowPair fuel
        return .mapping none [pair] :: (← flowItems false fuel)
      | _ =>
        let item ← node false false fuel
        return item :: (← flowItems false fuel)

/-- Reads the only entry of a mapping within a sequence between brackets. -/
def flowPair : Nat → Assembly (Node × Node)
  | 0 => failure
  | fuel + 1 => do
    let k ← (do
      match ← peek with
      | some .value | some .flowEntry | some .flowSequenceEnd =>
        advance
        return .missing none
      | _ => node false false fuel)
    match ← peek with
    | some .value =>
      advance
      match ← peek with
      | some .flowEntry | some .flowSequenceEnd => return (k, .missing none)
      | _ => return (k, ← node false false fuel)
    | _ => return (k, .missing none)

/-- Reads the entries of a mapping between brackets. -/
def flowEntries (first : Bool) : Nat → Assembly (List (Node × Node))
  | 0 => failure
  | fuel + 1 => do
    match ← peek with
    | some .flowMappingEnd =>
      advance
      return []
    | other =>
      if !first then
        if other = some .flowEntry then advance else failure
      match ← peek with
      | some .flowMappingEnd =>
        advance
        return []
      | some .key =>
        advance
        let k ← (do
          match ← peek with
          | some .value | some .flowEntry | some .flowMappingEnd => return .missing none
          | _ => node false false fuel)
        let v ← (do
          match ← peek with
          | some .value =>
            advance
            match ← peek with
            | some .flowEntry | some .flowMappingEnd => return .missing none
            | _ => node false false fuel
          | _ => return .missing none)
        return (k, v) :: (← flowEntries false fuel)
      | _ =>
        let k ← node false false fuel
        return (k, .missing none) :: (← flowEntries false fuel)

end

/-- What tags start with unless a directive says otherwise. -/
def defaultHandles : List (String × String) :=
  [("!", "!"), ("!!", "tag:yaml.org,2002:")]

/-- Reads the directives of a document: at most one version, which has to be known, and no
handle twice. -/
def directives (versioned : Bool) : Nat → Assembly Unit
  | 0 => failure
  | fuel + 1 => do
    match ← peek with
    | some (.versionDirective major minor) =>
      if versioned || major != 1 || (minor != 1 && minor != 2) then failure
      advance
      directives true fuel
    | some (.tagDirective handle start) =>
      if ((← get).handles.lookup handle).isSome then failure
      advance
      modify fun s => { s with handles := s.handles ++ [(handle, start)] }
      directives versioned fuel
    | _ => modify fun s => { s with handles := s.handles ++ defaultHandles }

/-- Moves over marks that end a document. -/
def skipEnds : Nat → Assembly Unit
  | 0 => return
  | fuel + 1 => do
    match ← peek with
    | some .documentEnd =>
      advance
      skipEnds fuel
    | _ => return

/-- Reads the only document of a stream. -/
def document (fuel : Nat) : Assembly (Option Node) := do
  match ← peek with
  | none => return none
  | some (.versionDirective ..) | some (.tagDirective ..) | some .documentStart =>
    directives false fuel
    if (← peek) != some .documentStart then failure
    advance
    match ← peek with
    | none | some (.versionDirective ..) | some (.tagDirective ..) | some .documentStart
    | some .documentEnd => return some (.missing none)
    | _ => return some (← node true false fuel)
  | _ =>
    directives false fuel
    return some (← node true false fuel)

/-- Reads a stream with one document, or an empty one. -/
def stream (fuel : Nat) : Assembly (Option Node) := do
  let root ← document fuel
  skipEnds fuel
  match ← peek with
  | none => return root
  | some _ => failure

end Assembly

/-- The document that tokens stand for. -/
def Document.ofTokens? (tokens : List Token) : Option Document := do
  let (root, s) ← (Assembly.stream (4 * tokens.length + 8)).run { tokens := tokens }
  return { root := root, anchored := s.anchored }

end RemoteCall.Yaml
