import MarkdownLayout.CommandLine

/-!
The program: the command line run on the files of this machine.
-/

namespace MarkdownLayout

/-- Errors of the system are numbered, by some of its calls in the negative. -/
def hasNumber (code number : UInt32) : Bool :=
  code == number || 0 - code == number

def FileError.ofSystem : IO.Error → FileError
  | .noFileOrDirectory .. => .missing
  | .inappropriateType _ code details =>
    if hasNumber code 21 then .isDirectory
    else if hasNumber code 20 then .isNotDirectory
    else .other details
  | e => .other (toString e)

def systemFiles : FileAccess IO where
  read path := do
    try
      return .ok (← IO.FS.readBinFile path)
    catch e =>
      return .error (.ofSystem e)
  directoryOf? path := do
    try
      return (← IO.FS.realPath path).parent.map toString
    catch _ =>
      return none

end MarkdownLayout

def main (words : List String) : IO UInt32 := do
  let outcome ← MarkdownLayout.CommandLine.run MarkdownLayout.systemFiles words
  IO.print outcome.output
  IO.eprint outcome.errors
  return outcome.exitCode.toUInt32
