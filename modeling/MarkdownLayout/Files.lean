/-!
Access to files by path, as a few operations in some monad.
-/

namespace MarkdownLayout

inductive FileError where
  | missing
  | isDirectory
  | isNotDirectory
  | nulInName
  | other (reason : String)
  deriving DecidableEq, Repr, Inhabited

namespace FileError

def message : FileError → String
  | missing => "No such file or directory (os error 2)"
  | isDirectory => "Is a directory (os error 21)"
  | isNotDirectory => "Not a directory (os error 20)"
  | nulInName => "file name contained an unexpected NUL byte"
  | other reason => reason

end FileError

structure FileAccess (m : Type → Type) where
  read : String → m (Except FileError ByteArray)
  /-- The absolute path, free of detours, of the directory that holds an existing file. -/
  directoryOf? : String → m (Option String)

namespace FileAccess

def readText {m : Type → Type} [Monad m] (files : FileAccess m) (path : String) : m (Except String String) := do
  match ← files.read path with
  | .error e => pure (.error e.message)
  | .ok bytes =>
    match String.fromUTF8? bytes with
    | some text => pure (.ok text)
    | none => pure (.error "stream did not contain valid UTF-8")

end FileAccess

end MarkdownLayout
