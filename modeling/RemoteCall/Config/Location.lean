/-
Where the configuration of a process comes from.

Two variables of the environment name a directory and a file; a blank one counts
as unset. Without them the file `kestrel.yaml` in the default directory is meant.
-/
import RemoteCall.Config.FileTree
import RemoteCall.Config.Root
import RemoteCall.Text.Numeral
import RemoteCall.Yaml.Untyped

namespace RemoteCall

/-- The variables of a process. -/
abbrev Environment := Table String

namespace Environment

/-- The value of a variable that is not blank. -/
def value? (e : Environment) (name : String) : Option String :=
  e[name]?.filter fun text => !Text.isBlank text

/-- The number that a variable holds, white space around it aside. -/
def number? (e : Environment) (name : String) : Option Int64 :=
  (e.value? name).bind fun text => Text.int64? (Text.trimChars text.toList)

/-- The variable that names the directory. -/
def directoryVariable : String := "KESTREL_CONFIG_PATH"

/-- The variable that names the file. -/
def fileVariable : String := "KESTREL_CONFIG_FILE"

/-- The file that is meant when none is named. -/
def defaultFile : String := "kestrel.yaml"

/-- The environment with another directory. -/
def withDirectory (e : Environment) (directory : String) : Environment :=
  e.insert directoryVariable directory

/-- Where the configuration is, with the directory that is meant when none is named. -/
def location (e : Environment) (defaultDirectory : String) : String :=
  Path.join ((e.value? directoryVariable).getD defaultDirectory)
    ((e.value? fileVariable).getD defaultFile)

end Environment

/-- Reads the configuration of the file at a path. -/
def RootConfig.load (files : FileTree) (path : String) : Except LoadFault RootConfig :=
  match files.file? path with
  | none => .error (.notAFile path)
  | some none => .error .unreadable
  | some (some bytes) => ofBytes bytes

/-- The top level keys of the file at a path, in ascending order. -/
def topLevelKeys (files : FileTree) (path : String) : Except LoadFault (List String) :=
  match files.file? path with
  | none => .error (.notAFile path)
  | some none => .error .unreadable
  | some (some bytes) =>
    match (Yaml.Document.ofBytes? bytes).bind keysOf with
    | none => .error .yaml
    | some names => .ok names
where
  /-- The top level keys of a document. -/
  keysOf (d : Yaml.Document) : Option (List String) :=
    match d.root with
    | none => some []
    | some node =>
      ((Yaml.Shape.table (Yaml.Value.ofNode (Yaml.Value.depthLimit - 1)) node).run? d).map (·.keys)

end RemoteCall
