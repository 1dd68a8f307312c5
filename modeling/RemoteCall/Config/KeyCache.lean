/-
Looking up single values of YAML files.

A key names nested mappings with dots in between. The value of a file is read once,
in the format that the files have, and kept under its path; a file that has no value
leaves nothing behind. Every look-up needs the file to be there, also when its value
is kept.
-/
import RemoteCall.Config.FileTree
import RemoteCall.Config.Root
import RemoteCall.Yaml.Value

namespace RemoteCall

/-- The values of files by their paths. -/
abbrev KeyCache := Table Yaml.Value

/-- Why a look-up fails. -/
inductive KeyFault where
  | load (cause : LoadFault)
  | notAScalar (key : String)

/-- The fault in words. -/
def KeyFault.message? : KeyFault → Option String
  | .load cause => cause.message?
  | .notAScalar key => some (key ++ " is not a scalar")

namespace KeyCache

/-- The value of what a file holds. -/
def parse (format : Yaml.Format) : Option Bytes → Except LoadFault Yaml.Value
  | none => .error .unreadable
  | some bytes =>
    match format.value? bytes with
    | none => .error .yaml
    | some value => .ok value

/-- The value of the file at a path, which is kept from now on. -/
def load (cache : KeyCache) (format : Yaml.Format) (files : FileTree) (path : String) :
    Except KeyFault Yaml.Value × KeyCache :=
  match files.file? path with
  | none => (.error (.load (.notAFile path)), cache)
  | some content =>
    match cache[Path.key path]? with
    | some value => (.ok value, cache)
    | none =>
      match parse format content with
      | .error cause => (.error (.load cause), cache)
      | .ok value => (.ok value, cache.insert (Path.key path) value)

/-- The pieces of a dotted key. -/
def pieces (key : String) : List String :=
  (Text.splitOn '.' key.toList).map String.ofList

/-- The text of the scalar under a dotted key; none for null and for what is not there. -/
def lookUp (format : Yaml.Format) (value : Yaml.Value) (key : String) :
    Except KeyFault (Option String) :=
  match format.scalarText? ((pieces key).foldl Yaml.Value.get value) with
  | some text => .ok text
  | none => .error (.notAScalar key)

/-- Looks a key up in the file at a path. -/
def read (cache : KeyCache) (format : Yaml.Format) (files : FileTree) (path key : String) :
    Except KeyFault (Option String) × KeyCache :=
  let (value, cache) := cache.load format files path
  (value.bind fun v => lookUp format v key, cache)

end KeyCache

end RemoteCall
