import MarkdownLayout.Markdown.Source

/-!
The white space at the head of a line, taken column by column. A tab reaches to the next multiple of four
columns and may be used up in parts.
-/

namespace MarkdownLayout.Markdown

/-- A place at the head of a line. Columns of tabs are counted from `origin`, and `pending` columns of the tab
before `pos` are still to be taken. -/
structure Margin where
  pos : Nat
  origin : Nat
  pending : Nat := 0
  deriving DecidableEq, Repr, Inhabited

namespace Margin

def atPlace (pos : Nat) : Margin :=
  { pos, origin := pos }

def takeFresh (s : Source) : Nat → Margin → Nat × Margin
  | 0, m => (0, m)
  | n + 1, m =>
    match s[m.pos]? with
    | some ' ' => takeFresh s n { m with pos := m.pos + 1 }
    | some '\t' =>
      let width := 4 - (m.pos - m.origin) % 4
      let used := min width (n + 1)
      takeFresh s (n + 1 - used) { pos := m.pos + 1, origin := m.pos + 1, pending := width - used }
    | _ => (n + 1, m)
termination_by n => n

/-- Takes up to `columns` columns; the first result is how many of them were not there. -/
def take (s : Source) (columns : Nat) (m : Margin) : Nat × Margin :=
  let used := min m.pending columns
  takeFresh s (columns - used) { m with pending := m.pending - used }

def indent (s : Source) (columns : Nat) (m : Margin) : Nat × Margin :=
  let (missing, rest) := m.take s columns
  (columns - missing, rest)

def skipBlank (s : Source) (m : Margin) : Margin :=
  { m with pos := s.skip (fun c => c == ' ' || c == '\t') m.pos, pending := 0 }

def atLineEnd (s : Source) (m : Margin) : Bool :=
  s.atLineEnd m.pos

end Margin

end MarkdownLayout.Markdown
