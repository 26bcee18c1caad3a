import MarkdownLayout.Files
import MarkdownLayout.Loading.Outcome
import MarkdownLayout.Url.LocalFile

/-!
Loading images from files of this machine.
-/

namespace MarkdownLayout.FileAccess

/-- Paths are text; bytes that are none name no file. -/
def readBytePath {m : Type → Type} [Monad m] (files : FileAccess m) (path : List UInt8) :
    m (Except FileError ByteArray) :=
  if path.contains 0 then pure (.error .nulInName)
  else
    match String.fromUTF8? (ByteArray.mk path.toArray) with
    | some text => files.read text
    | none => pure (.error .missing)

def loadImage {m : Type → Type} [Monad m] (files : FileAccess m) (url : Url) : m LoadOutcome := do
  if url.scheme ≠ "file" then pure (.error (.unsupportedScheme url.scheme))
  else
    match url.localPath? with
    | none => pure (.error (.other (url.text ++ " is not a local path")))
    | some path =>
      match ← files.readBytePath path with
      | .ok bytes => pure (.ok ⟨url, bytes⟩)
      | .error e => pure (.error (.unreadable url e.message))

end MarkdownLayout.FileAccess
