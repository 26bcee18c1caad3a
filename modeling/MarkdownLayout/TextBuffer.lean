import MarkdownLayout.Node

/-!
Text waiting to become a node. The buffer never holds an empty run, and neighbouring runs whose attributes
agree are one run.
-/

namespace MarkdownLayout

structure TextBuffer where
  runs : List TextRun := []
  deriving DecidableEq, Repr, Inhabited

namespace TextBuffer

def empty : TextBuffer := {}

def isEmpty (buffer : TextBuffer) : Bool :=
  buffer.runs.isEmpty

/-- Adds text after the last run, or to it when the attributes agree; the run's own attributes stay. -/
def appendRun (text : String) (attributes : Option TextAttributes) : List TextRun → List TextRun
  | [] => [⟨text, attributes⟩]
  | [last] =>
    if TextRun.attributesAgree last.attributes attributes then [{ last with text := last.text ++ text }]
    else [last, ⟨text, attributes⟩]
  | run :: next :: rest => run :: appendRun text attributes (next :: rest)

def append (buffer : TextBuffer) (text : String) (attributes : Option TextAttributes) : TextBuffer :=
  if text.isEmpty then buffer else ⟨appendRun text attributes buffer.runs⟩

def appendLineBreak (buffer : TextBuffer) : TextBuffer :=
  buffer.append "\n" none

def withoutNewline? (text : String) : Option String :=
  match text.toList.getLast? with
  | some '\n' => some (String.ofList text.toList.dropLast)
  | _ => none

/-- The runs without the newline that ends the last one, if it does; a run that becomes empty is dropped. -/
def trimRuns? : List TextRun → Option (List TextRun)
  | [] => none
  | [last] =>
    (withoutNewline? last.text).map fun text => if text.isEmpty then [] else [{ last with text := text }]
  | run :: next :: rest => (trimRuns? (next :: rest)).map (run :: ·)

def trimNewline (buffer : TextBuffer) : TextBuffer × Bool :=
  match trimRuns? buffer.runs with
  | some runs => (⟨runs⟩, true)
  | none => (buffer, false)

def flush (buffer : TextBuffer) : Option Node :=
  if buffer.isEmpty then none else some (.text ⟨buffer.runs⟩)

def flushInto (buffer : TextBuffer) (nodes : List Node) : List Node :=
  nodes ++ buffer.flush.toList

end TextBuffer

end MarkdownLayout
