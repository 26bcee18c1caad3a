import MarkdownLayout.Markdown.Block
import MarkdownLayout.Markdown.BlockStart
import MarkdownLayout.Markdown.Html
import MarkdownLayout.Markdown.Link

/-!
Paragraphs and what they may turn into: headings with an underline, tables, and definitions of link
destinations. A paragraph goes on line by line, even outside the containers of its first line, until something
interrupts it.
-/

namespace MarkdownLayout.Markdown.Blocks

def footnoteMark? (s : Source) (i : Nat) : Option (String × Nat) :=
  if s.reads i ['[', '^'] then
    (s.label? (fun _ => none) false (i + 2)).bind fun (label, stop) =>
      if s.holds stop ':' then some (label, stop + 1) else none
  else none

/-- Whether an item at `i` interrupts text: any item does outside the current containers and in tables, else
only one with content whose number, if it has one, is one. -/
def interruptsAsItem (s : Source) (i : Nat) (inContainers inTable : Bool) : Bool :=
  match s.itemMark? i with
  | some mark =>
    !inContainers || inTable ||
      (Source.isBullet mark.delimiter || mark.number == 1) && (s.blankRest? mark.stop).isNone
  | none => false

def interrupts (s : Source) (i : Nat) (inContainers inTable : Bool) : Bool :=
  s.atLineEnd i || (s.thematicBreak? i).isSome || (s.headingLevel? i).isSome || (s.fence? i).isSome ||
    s.holds i '>' || interruptsAsItem s i inContainers inTable ||
    s.holds i '<' && ((s.markupCloser? i).isSome || s.isBlockTag i) || (footnoteMark? s i).isSome

def tableAt? (b : Blocks) (s : Source) (hidden : Nat → Bool) (i : Nat) : Option (Nat × Nat) :=
  let (pipes, last) := s.pipes hidden 0 i i
  let stop := s.skip (!isLineBreak ·) i
  if pipes = 0 ∨ s.size ≤ stop then none
  else
    let next := (s.lineEnd? stop).getD stop
    let (count, m) := b.continuationAt s next
    if count = b.depth then
      (s.delimiterRow? m.pos).bind fun (columns, behind) =>
        if columns = s.headerColumns i pipes last then some (columns, behind) else none
    else none

/-- As `interrupts`, where a table whose header begins with a pipe interrupts as well. -/
def interruptsParagraph (b : Blocks) (s : Source) (i : Nat) (inContainers : Bool) : Bool :=
  interrupts s i inContainers false ||
    s.holds i '|' && (b.tableAt? s (fun j => s.holds j '\\') i).isSome

/-! Definitions -/

def labelResume? (b : Blocks) (s : Source) (i : Nat) : Option Nat :=
  let (count, m) := b.continuationAt s i
  let inContainers := count == b.depth
  if b.interruptsParagraph s m.pos inContainers || inContainers && (s.underline? m.pos).isSome then none
  else some m.pos

def definitionResume? (b : Blocks) (s : Source) (i : Nat) : Option Nat :=
  let (count, m) := b.continuationAt s i
  let (columns, m) := m.indent s 4
  if columns < 4 && (b.interruptsParagraph s m.pos (count == b.depth) || (s.underline? m.pos).isSome) then none
  else some m.pos

def definitionGap? (b : Blocks) (s : Source) (i : Nat) : Option (Nat × Bool) :=
  let first := s.skipLineBlank i
  match s.lineEnd? first with
  | none => some (first, false)
  | some next =>
    (b.definitionResume? s next).bind fun resumed =>
      let second := s.skipLineBlank resumed
      if (s.lineEnd? second).isSome then none else some (second, true)

/-- The end of a definition whose destination ends at `i`. A title has to be the last thing on its line; without
one, the destination has to be. -/
def definitionEnd? (b : Blocks) (s : Source) (i : Nat) : Option Nat :=
  match b.definitionGap? s i with
  | none => some i
  | some (next, broken) =>
    let untitled := if broken then some i else none
    if next = i then none
    else
      match s.title? (b.definitionResume? s) next with
      | some stop => if (s.blankRest? stop).isSome then some stop else untitled
      | none => untitled

def definition? (b : Blocks) (s : Source) (i : Nat) : Option (String × String × Nat) :=
  if s.holds i '[' then do
    let (label, colon) ← s.label? (b.labelResume? s) false (i + 1)
    if s.holds colon ':' then
      let (start, _) ← b.definitionGap? s (colon + 1)
      let (destination, stop) ← s.destination? false 1 start
      if stop = start then none
      else
        let stop ← b.definitionEnd? s stop
        pure (label, destination, stop)
    else none
  else none

/-! Tables -/

def readCells (s : Source) : Nat → Nat → List Cell × Nat
  | 0, i => ([], i)
  | fuel + 1, i =>
    let start := if s.holds i '|' then i + 1 else i
    let content := s.skipLineBlank start
    match s.lineEnd? content with
    | some next => ([], next)
    | none =>
      let line := s.readLine .cell content
      let cell : Cell := ⟨⟨start, line.next⟩, ⟨line.tokens.reverse, line.next, []⟩⟩
      let (cells, next) := readCells s fuel line.next
      (cell :: cells, next)

/-- A row has as many cells as the header has columns: missing cells are empty, others are dropped. -/
def readRow (s : Source) (columns i : Nat) : Row :=
  let (cells, next) := readCells s (s.size + 1) i
  let empty : Cell := ⟨⟨next, next⟩, ⟨[], next, []⟩⟩
  ⟨⟨i, next⟩, cells.take columns ++ List.replicate (columns - cells.length) empty⟩

def readRows (b : Blocks) (s : Source) (columns : Nat) : Nat → Nat → List Row × Nat
  | 0, i => ([], i)
  | fuel + 1, i =>
    let (count, m) := b.continuationAt s i
    let start := (m.skipBlank s).pos
    if count < b.depth || interrupts s start true true then ([], i)
    else
      let row := readRow s columns start
      let (rows, stop) := b.readRows s columns fuel row.span.stop
      (row :: rows, stop)

def readTable (b : Blocks) (s : Source) (start columns body : Nat) : Blocks × Nat :=
  let (rows, stop) := b.readRows s columns (s.size + 1) body
  (b.push (.table ⟨start, stop⟩ (readRow s columns start :: rows)), stop)

/-! Paragraphs -/

structure TextBlockReading where
  heading : Option Nat
  tokens : List Token
  lineStarts : List Nat
  next : Nat

def keepBackslash (lineBreak : Option Token) (tokens : List Token) : List Token :=
  match lineBreak with
  | some ⟨.hardBreak true, span⟩ => Token.pushText tokens span.start (span.start + 1)
  | _ => tokens

def readLines (b : Blocks) (s : Source) : Nat → List Token → List Nat → Nat → TextBlockReading
  | 0, tokens, starts, i => ⟨none, tokens, starts, i⟩
  | fuel + 1, tokens, starts, i =>
    let line := s.readLine .block i
    let tokens := line.tokens ++ tokens
    let starts := i :: starts
    let ended (heading : Option Nat) (next : Nat) : TextBlockReading :=
      ⟨heading, keepBackslash line.lineBreak tokens, starts, next⟩
    let (count, m) := b.continuationAt s line.next
    let inContainers := count == b.depth
    let (columns, m) := m.indent s 4
    let underline := if columns < 4 && inContainers then s.underline? m.pos else none
    match underline with
    | some (level, stop) => ended (some level) stop
    | none =>
      let content := m.skipBlank s
      if columns < 4 && b.interruptsParagraph s m.pos inContainers || content.atLineEnd s then
        ended none line.next
      else b.readLines s fuel (line.lineBreak.toList ++ tokens) starts content.pos

def readParagraph (b : Blocks) (s : Source) (i : Nat) : Blocks × Nat :=
  match b.tableAt? s (fun j => s.escapes j) i with
  | some (columns, body) => b.readTable s i columns body
  | none =>
    let reading := b.readLines s (s.size + 1) [] [] i
    let content : InlineText := ⟨reading.tokens.reverse, reading.next, reading.lineStarts.reverse⟩
    let span : Span := ⟨i, reading.next⟩
    let block := match reading.heading with
      | some level => .heading level span content
      | none => .paragraph span content
    (b.push block, reading.next)

/-! Headings with number signs -/

/-- The end of a heading's text: number signs at its end count only if they are set off by a space. -/
def headingStop (s : Source) (start next : Nat) : Nat :=
  let stop := s.skipBack (fun c => c == '\n' || c == '\r' || c == ' ') start next
  let marks := s.skipBack (· == '#') start stop
  if marks = start then start
  else
    let spaces := s.skipBack (· == ' ') start marks
    if spaces < marks then spaces else stop

def cutHeading (start stop : Nat) : List Token → List Token
  | [] => []
  | last :: rest =>
    if stop = start then rest
    else
      match last.mark with
      | .text => ⟨.text, ⟨last.span.start, stop⟩⟩ :: rest
      | _ => last :: rest

def readHeading (b : Blocks) (s : Source) (i level : Nat) : Blocks × Nat :=
  let mark := i + level
  match s.lineEnd? mark with
  | some next => (b.push (.heading level ⟨i, next⟩ ⟨[], next, []⟩), next)
  | none =>
    let start := s.skipLineBlank mark
    let line := s.readLine .block start
    let tokens := match line.lineBreak with
      | some ⟨.hardBreak true, span⟩ => Token.pushText line.tokens span.start span.stop
      | _ => line.tokens
    let tokens := cutHeading start (headingStop s start line.next) tokens
    (b.push (.heading level ⟨i, line.next⟩ ⟨tokens.reverse, line.next, [start]⟩), line.next)

end MarkdownLayout.Markdown.Blocks
