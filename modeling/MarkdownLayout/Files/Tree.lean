import MarkdownLayout.Files

/-!
Files held in memory. A directory is there if it leads to a file or to the working directory.
-/

namespace MarkdownLayout

structure FileTree where
  workingDirectory : List String := []
  files : List (List String × ByteArray) := []
  deriving Inhabited

namespace FileTree

inductive Entry where
  | file (content : ByteArray)
  | directory
  deriving Inhabited

def names (path : String) : List String :=
  path.splitOn "/"

def entry? (tree : FileTree) (place : List String) : Option Entry :=
  match tree.files.lookup place with
  | some content => some (.file content)
  | none =>
    if place.isPrefixOf tree.workingDirectory || tree.files.any fun (other, _) => place.isPrefixOf other then
      some .directory
    else none

/-- The place that names lead to from a place. Every name but the last has to lead to a directory. -/
def walk (tree : FileTree) (place : List String) : List String → Except FileError (List String)
  | [] => .ok place
  | name :: rest =>
    match tree.entry? place with
    | none => .error .missing
    | some (.file _) => .error .isNotDirectory
    | some .directory =>
      if name = "" || name = "." then tree.walk place rest
      else if name = ".." then tree.walk place.dropLast rest
      else tree.walk (place ++ [name]) rest

def locate (tree : FileTree) (path : String) : Except FileError (List String) :=
  match names path with
  | [""] => .error .missing
  | "" :: rest => tree.walk [] rest
  | parts => tree.walk tree.workingDirectory parts

def read (tree : FileTree) (path : String) : Except FileError ByteArray := do
  match tree.entry? (← tree.locate path) with
  | some (.file content) => .ok content
  | some .directory => .error .isDirectory
  | none => .error .missing

def directoryOf? (tree : FileTree) (path : String) : Option String :=
  match tree.locate path with
  | .ok place => some ("/" ++ String.intercalate "/" place.dropLast)
  | .error _ => none

def access (tree : FileTree) : FileAccess Id where
  read := tree.read
  directoryOf? := tree.directoryOf?

end FileTree

end MarkdownLayout
