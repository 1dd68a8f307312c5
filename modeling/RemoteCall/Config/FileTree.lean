/-
Files by their paths.

A path is a text whose parts stand between slashes. An empty part and a single dot
stay where they are, two dots go up, and each of them, like every part but the
last, needs a directory. The directories are those that hold a file, the working
directory, and those above it. A path that does not start with a slash leads from
the working directory.
-/
import RemoteCall.Attributes
import RemoteCall.Bytes.Utf8
import RemoteCall.Text.Trim

namespace RemoteCall

namespace Path

/-- The parts of a path, empty ones included. -/
def parts (path : String) : List String :=
  (Text.splitOn '/' path.toList).map String.ofList

/-- A path that does not depend on where it is used. -/
def isAbsolute (path : String) : Bool :=
  path.toList.head? == some '/'

/-- A path behind another one; an absolute one stands for itself. -/
def join (base path : String) : String :=
  if isAbsolute path || base = "" then path
  else if base.toList.getLast? == some '/' then base ++ path
  else base ++ "/" ++ path

/-- A path that names the working directory first, by a single dot. -/
def isDotted (path : String) : Bool :=
  (parts path).head? == some "."

/-- The parts of a path that say where it leads. -/
def steps (path : String) : List String :=
  (parts path).filter fun part => part ≠ "" && part ≠ "."

/-- What identifies a path: how it starts, and its steps. Two paths with the same key are the same,
and a single dot makes a difference only at the start. -/
def key (path : String) : String :=
  let start := if isAbsolute path then "/" else if isDotted path then "./" else ""
  start ++ "/".intercalate (steps path)

end Path

/-- The files of a process. -/
structure FileTree where
  /-- What the files hold, each under its place; one that cannot be read holds nothing. -/
  files : List (List String × Option Bytes) := []
  /-- The place of the working directory. -/
  here : List String := []

namespace FileTree

/-- A place is a directory: the working directory, or a place above it or above a file. -/
def isDirectory (t : FileTree) (place : List String) : Bool :=
  place.isPrefixOf t.here || t.files.any fun (file, _) => place.isPrefixOf file && place != file

/-- The place that a path leads from. -/
def start (t : FileTree) (path : String) : List String :=
  if Path.isAbsolute path then [] else t.here

/-- Where the parts of a path lead from a place, if everything they pass is a directory. -/
def walk? (t : FileTree) : List String → List String → Option (List String)
  | place, [] => some place
  | place, part :: rest =>
    if t.isDirectory place then
      if part = "" ∨ part = "." then walk? t place rest
      else if part = ".." then walk? t place.dropLast rest
      else walk? t (place ++ [part]) rest
    else none

/-- What the file at a path holds, if there is a file; nothing if it cannot be read. -/
def file? (t : FileTree) (path : String) : Option (Option Bytes) :=
  (t.walk? (t.start path) (Path.parts path)).bind fun place => t.files.lookup place

/-- The place of a path, whether or not anything is there. -/
def placeOf (t : FileTree) (path : String) : List String :=
  (Path.steps path).foldl (fun place part =>
    if part = ".." then place.dropLast else place ++ [part]) (t.start path)

/-- Removes a file. -/
def remove (t : FileTree) (path : String) : FileTree :=
  { t with files := t.files.filter fun (file, _) => file != t.placeOf path }

/-- Writes a file, with the directories that it needs. -/
def write (t : FileTree) (path : String) (bytes : Bytes) : FileTree :=
  { t with files := (t.placeOf path, some bytes) :: (t.remove path).files }

end FileTree

end RemoteCall
