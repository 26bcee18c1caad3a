import MarkdownLayout.Markdown.CodeBlock
import MarkdownLayout.Markdown.Paragraph
import MarkdownLayout.Text.CaseFold

/-!
The blocks of a whole text. Each step takes a line: it closes the containers that the line does not continue,
opens those that it begins, and reads the block of its content.
-/

namespace MarkdownLayout.Markdown.Blocks

inductive LineHead where
  | content (b : Blocks) (start : Nat) (m : Margin)
  | consumed (b : Blocks) (next : Nat)

/-- The width of an item, and the margin behind its mark. White space of five columns or more behind the mark
belongs to the content, but for one column. -/
def itemWidth (s : Source) (outer : Nat) (mark : Source.ItemMark) (m : Margin) : Nat × Margin :=
  let width := outer + (mark.stop - m.pos) + 1
  let behind := ({ m with pos := mark.stop }.take s 1).2
  if (s.blankRest? behind.pos).isSome then (width, behind)
  else
    let (columns, content) := behind.indent s 4
    if columns < 4 then (width + columns, content) else (width, behind)

/-- A list item begins unless the line is a thematic break. -/
def newItem? (s : Source) (i : Nat) : Option Source.ItemMark :=
  match s.itemMark? i with
  | some mark => if Source.isBullet mark.delimiter && (s.thematicBreak? i).isSome then none else some mark
  | none => none

def openItem (b : Blocks) (s : Source) (start outer : Nat) (m : Margin) (mark : Source.ItemMark) : LineHead :=
  let (width, behind) := itemWidth s outer mark m
  let place := m.pos - outer
  let b := (b.continueList place mark.delimiter mark.number).openAt (.item width) place
  match s.blankRest? behind.pos with
  | some next => .consumed { b with emptyItem := some next } next
  | none =>
    let (_, box) := behind.indent s 3
    match s.taskBox? box.pos with
    | none => .content b start behind
    | some stop =>
      let b := b.push (.taskBox ⟨behind.pos, stop⟩)
      match s.blankRest? stop with
      | some next => .consumed { b with emptyItem := some next } next
      | none => .content b start { box with pos := stop, pending := 0 }

def openContainer? (b : Blocks) (s : Source) (start : Nat) (m : Margin) : Option LineHead :=
  let (outer, m) := m.indent s 4
  if outer < 4 then
    match footnoteMark? s m.pos with
    | some (label, stop) =>
      let content := s.skipLineBlank stop
      let b := (b.finishList m.pos).openAt .footnote m.pos
      some (.content { b with footnotes := Text.caseFold label :: b.footnotes } content (.atPlace content))
    | none =>
      match newItem? s m.pos with
      | some mark => some (b.openItem s start outer m mark)
      | none =>
        if s.holds m.pos '>' then
          some (.content ((b.finishList start).openAt .blockquote m.pos) start
            ({ m with pos := m.pos + 1 }.take s 1).2)
        else none
  else none

def openContainers (s : Source) : Nat → LineHead → LineHead
  | 0, head => head
  | _, .consumed b next => .consumed b next
  | fuel + 1, .content b start m =>
    match b.openContainer? s start m with
    | some head => openContainers s fuel head
    | none => .content b start m

def readLeaf (b : Blocks) (s : Source) (indent i : Nat) : Blocks × Nat :=
  match b.markup? s i indent with
  | some read => read
  | none =>
    match s.thematicBreak? i with
    | some next => (b.push (.rule ⟨i, next⟩), next)
    | none =>
      match s.headingLevel? i with
      | some level => b.readHeading s i level
      | none =>
        match s.fence? i with
        | some (mark, stop) => b.readFence s i indent mark stop
        | none =>
          match b.definition? s i with
          | some (label, destination, stop) =>
            (b.define (Text.caseFold label) destination, (s.blankRest? stop).getD stop)
          | none => b.readParagraph s i

def readBlock (b : Blocks) (s : Source) (start : Nat) : Blocks × Nat :=
  let (count, m) := b.continuationAt s start
  match openContainers s (s.size + 1) (.content (b.closeBeyond count start) start m) with
  | .consumed b next => (b, next)
  | .content b start m =>
    match s.blankRest? m.pos with
    | some next => (b.passBlankLine, next)
    | none =>
      let b := b.finishList start
      let (columns, content) := m.indent s 4
      if columns = 4 then b.readIndentedCode s content.pos content.pending
      else b.readLeaf s columns content.pos

def readFrom (s : Source) : Nat → Blocks → Nat → Blocks
  | 0, b, _ => b
  | fuel + 1, b, i =>
    if i < s.size then
      let (b, next) := b.readBlock s i
      readFrom s fuel b next
    else b

def ofSource (s : Source) : Blocks :=
  (readFrom s (s.size + 1) {} 0).closeBeyond 0 s.size

end MarkdownLayout.Markdown.Blocks
