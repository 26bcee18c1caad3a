import MarkdownLayout.Markdown.Block
import MarkdownLayout.Markdown.BlockStart
import MarkdownLayout.Markdown.Html

/-!
Blocks that are taken line by line as they are: code and markup. The columns of a tab that belong to the
content of a line are spaces there.
-/

namespace MarkdownLayout.Markdown.Blocks

structure VerbatimReading where
  pieces : List Token
  stop : Nat
  next : Nat

def spaces (columns : Nat) : String :=
  String.ofList (List.replicate columns ' ')

def pushSpaces (pieces : List Token) (columns i : Nat) : List Token :=
  if columns = 0 then pieces else ⟨.entity (spaces columns), ⟨i, i⟩⟩ :: pieces

/-- A line that ends with a carriage return and one more character loses the carriage return. -/
def hasReturn (s : Source) (stop : Nat) : Bool :=
  2 ≤ stop && s.holds (stop - 2) '\r' && s[stop - 1]?.any (·.utf8Size == 1)

def pushCodeLine (s : Source) (pieces : List Token) (columns start stop : Nat) : List Token :=
  let pieces := pushSpaces pieces columns start
  if hasReturn s stop then
    Token.pushText (Token.pushText pieces start (stop - 2)) (stop - 1) stop
  else Token.pushText pieces start stop

def pushMarkupLine (s : Source) (pieces : List Token) (columns start stop : Nat) : List Token :=
  let pieces := pushSpaces pieces columns start
  if hasReturn s stop then ⟨.text, ⟨stop - 1, stop⟩⟩ :: ⟨.text, ⟨start, stop - 2⟩⟩ :: pieces
  else ⟨.text, ⟨start, stop⟩⟩ :: pieces

def readFenced (b : Blocks) (s : Source) (mark : Char) (length indent : Nat) :
    Nat → List Token → Nat → VerbatimReading
  | 0, pieces, i => ⟨pieces, i, i⟩
  | fuel + 1, pieces, i =>
    let (count, m) := b.continuationAt s i
    if count < b.depth then ⟨pieces, i, i⟩
    else
      let (_, m) := m.indent s indent
      let (columns, closing) := m.indent s (4 - indent)
      let closed := if columns < 4 - indent then s.closingFence? mark length closing.pos else none
      match closed with
      | some stop => ⟨pieces, stop, (s.blankRest? stop).getD stop⟩
      | none =>
        let next := s.afterLine m.pos
        b.readFenced s mark length indent fuel (pushCodeLine s pieces m.pending m.pos next) next

def readFence (b : Blocks) (s : Source) (i indent : Nat) (mark : Char) (marksStop : Nat) : Blocks × Nat :=
  let reading := b.readFenced s mark (marksStop - i) indent (s.size + 1) [] (s.afterLine (s.skipLineBlank marksStop))
  (b.push (.code ⟨i, reading.stop⟩ reading.pieces.reverse), reading.next)

/-- The lines of an indented block. Blank lines at its end are no part of it, so `kept` and `stop` are those of
its last line that is not blank. -/
def readIndented (b : Blocks) (s : Source) (kept : VerbatimReading) :
    Nat → List Token → Bool → Nat → Nat → VerbatimReading × Bool
  | 0, _, blank, _, _ => (kept, blank)
  | fuel + 1, pieces, blank, columns, i =>
    let next := s.afterLine i
    let pieces := pushCodeLine s pieces columns i next
    let kept : VerbatimReading := if blank then { kept with next } else ⟨pieces, next, next⟩
    let (count, m) := b.continuationAt s next
    let (columns, m) := m.indent s 4
    if count < b.depth || !(columns == 4 || m.atLineEnd s) || s.size ≤ m.pos then (kept, blank)
    else b.readIndented s kept fuel pieces (s.blankRest? m.pos).isSome m.pending m.pos

def readIndentedCode (b : Blocks) (s : Source) (i columns : Nat) : Blocks × Nat :=
  let (reading, blank) := b.readIndented s ⟨[], i, i⟩ (s.size + 1) [] false columns i
  ({ b with lastLineBlank := blank }.push (.code ⟨i, reading.stop⟩ reading.pieces.reverse), reading.next)

/-- The lines of a block of markup. With a `closer` the block ends behind the line that holds it, else before
the next blank line. -/
def readMarkupLines (b : Blocks) (s : Source) (closer : Option (List Char)) :
    Nat → List Token → Nat → Nat → VerbatimReading
  | 0, pieces, _, i => ⟨pieces, i, i⟩
  | fuel + 1, pieces, columns, i =>
    let next := s.afterLine i
    let pieces := pushMarkupLine s pieces columns i next
    let (count, m) := b.continuationAt s next
    let closed := match closer with
      | some closer => (s.behind? closer i).any (· ≤ next)
      | none => m.atLineEnd s
    if count < b.depth || closed then ⟨pieces, next, next⟩
    else if s.size ≤ m.pos || closer.isNone && (s.blankRest? m.pos).isSome then ⟨pieces, m.pos, next⟩
    else b.readMarkupLines s closer fuel pieces m.pending m.pos

def readMarkup (b : Blocks) (s : Source) (i columns : Nat) (closer : Option (List Char)) : Blocks × Nat :=
  let reading := b.readMarkupLines s closer (s.size + 1) [] columns i
  (b.push (.html ⟨i, reading.stop⟩ reading.pieces.reverse), reading.next)

def markup? (b : Blocks) (s : Source) (i columns : Nat) : Option (Blocks × Nat) :=
  if s.holds i '<' then
    match s.markupCloser? i with
    | some closer => some (b.readMarkup s i columns (some closer))
    | none => if s.isBlockTag i || s.isLoneTag i then some (b.readMarkup s i columns none) else none
  else none

end MarkdownLayout.Markdown.Blocks
