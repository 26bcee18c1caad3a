import MarkdownLayout.Markdown.Margin
import MarkdownLayout.Markdown.Token

/-!
The blocks of a Markdown text, and the containers that are open while its lines are read. Each new line first
has to continue the open containers, from the outermost on; those it does not continue are closed.
-/

namespace MarkdownLayout.Markdown

structure InlineText where
  tokens : List Token
  stop : Nat
  lineStarts : List Nat := []
  deriving Repr, Inhabited

structure Cell where
  span : Span
  content : InlineText
  deriving Repr, Inhabited

structure Row where
  span : Span
  cells : List Cell
  deriving Repr, Inhabited

inductive Block where
  | paragraph (span : Span) (content : InlineText)
  | heading (level : Nat) (span : Span) (content : InlineText)
  | rule (span : Span)
  | code (span : Span) (pieces : List Token)
  | html (span : Span) (pieces : List Token)
  | table (span : Span) (rows : List Row)
  | taskBox (span : Span)
  | blockquote (span : Span) (blocks : List Block)
  | list (start : Option Nat) (isTight : Bool) (span : Span) (items : List Block)
  | item (span : Span) (blocks : List Block)
  | footnote (span : Span) (blocks : List Block)
  deriving Repr, Inhabited

inductive Container where
  | list (delimiter : Char) (number : Nat) (isTight : Bool)
  | item (width : Nat)
  | blockquote
  | footnote
  deriving DecidableEq, Repr, Inhabited

structure Frame where
  container : Container
  start : Nat
  blocks : List Block := []
  deriving Repr, Inhabited

namespace Frame

def isList (frame : Frame) : Bool :=
  match frame.container with
  | .list .. => true
  | _ => false

def isItem (frame : Frame) : Bool :=
  match frame.container with
  | .item _ => true
  | _ => false

def loosen (frame : Frame) : Frame :=
  match frame.container with
  | .list delimiter number _ => { frame with container := .list delimiter number false }
  | _ => frame

def block (frame : Frame) (stop : Nat) : Block :=
  let span : Span := ⟨frame.start, stop⟩
  let blocks := frame.blocks.reverse
  match frame.container with
  | .list delimiter number isTight =>
    .list (if delimiter == '.' || delimiter == ')' then some number else none) isTight span blocks
  | .item _ => .item span blocks
  | .blockquote => .blockquote span blocks
  | .footnote => .footnote span blocks

end Frame

namespace Container

def continued? (s : Source) (m : Margin) : Container → Option Margin
  | list .. => some m
  | item width => indented width
  | footnote => indented 4
  | blockquote =>
    let behind := (m.take s 3).2
    if s.holds behind.pos '>' then some ({ behind with pos := behind.pos + 1 }.take s 1).2 else none
where
  indented (width : Nat) : Option Margin :=
    let (missing, behind) := m.take s width
    if missing = 0 || behind.atLineEnd s then some behind else none

end Container

def continuation (s : Source) : List Container → Margin → Nat × Margin
  | [], m => (0, m)
  | container :: rest, m =>
    match container.continued? s m with
    | some behind =>
      let (count, behind) := continuation s rest behind
      (count + 1, behind)
    | none => (0, m)

/-- What is known of a text while its blocks are read. The innermost open container comes first; finished
blocks and definitions, the last first. `emptyItem` is the place behind the mark of an item that has had no
content yet. -/
structure Blocks where
  frames : List Frame := []
  finished : List Block := []
  definitions : List (String × String) := []
  footnotes : List String := []
  lastLineBlank : Bool := false
  emptyItem : Option Nat := none
  deriving Repr, Inhabited

namespace Blocks

def depth (b : Blocks) : Nat :=
  b.frames.length

def push (b : Blocks) (block : Block) : Blocks :=
  match b.frames with
  | frame :: rest => { b with frames := { frame with blocks := block :: frame.blocks } :: rest }
  | [] => { b with finished := block :: b.finished }

def openAt (b : Blocks) (container : Container) (start : Nat) : Blocks :=
  { b with frames := { container, start } :: b.frames }

def close (b : Blocks) (stop : Nat) : Blocks :=
  match b.frames with
  | [] => b
  | frame :: rest =>
    let emptyItem := match frame.container with
      | .list _ _ true => none
      | _ => b.emptyItem
    { b with frames := rest, emptyItem }.push (frame.block stop)

def closeMany (b : Blocks) (stop : Nat) : Nat → Blocks
  | 0 => b
  | n + 1 => (b.close stop).closeMany stop n

def closeBeyond (b : Blocks) (depth stop : Nat) : Blocks :=
  b.closeMany stop (b.depth - depth)

def continuationAt (b : Blocks) (s : Source) (i : Nat) : Nat × Margin :=
  continuation s (b.frames.reverse.map Frame.container) (.atPlace i)

/-- An item begins with at most one blank line: one with nothing behind it ends there. -/
def finishEmptyItem (b : Blocks) : Blocks :=
  let b' := match b.emptyItem, b.frames with
    | some stop, frame :: _ => if b.lastLineBlank && frame.isItem then b.close stop else b
    | _, _ => b
  { b' with emptyItem := none }

def loosenAfterBlank (b : Blocks) : Blocks :=
  if b.lastLineBlank then
    let frames := match b.frames with
      | inner :: outer :: rest => inner :: outer.loosen :: rest
      | frames => frames
    { b with frames, lastLineBlank := false }
  else b

def finishList (b : Blocks) (stop : Nat) : Blocks :=
  let b := b.finishEmptyItem
  let b := match b.frames with
    | frame :: _ => if frame.isList then b.close stop else b
    | [] => b
  b.loosenAfterBlank

def waitsForItem (b : Blocks) (delimiter : Char) : Bool :=
  match b.frames with
  | ⟨.list other _ _, _, _⟩ :: _ => other == delimiter
  | _ => false

/-- An item follows: it goes on with the open list if that has the same delimiter, or begins a new list. -/
def continueList (b : Blocks) (start : Nat) (delimiter : Char) (number : Nat) : Blocks :=
  let b := b.finishEmptyItem
  if b.waitsForItem delimiter then
    if b.lastLineBlank then
      let frames := match b.frames with
        | list :: rest => list.loosen :: rest
        | [] => []
      { b with frames, lastLineBlank := false }
    else b
  else
    { (b.finishList start).openAt (.list delimiter number true) start with lastLineBlank := false }

def passBlankLine (b : Blocks) : Blocks :=
  match b.frames with
  | [] => { b with lastLineBlank := true }
  | frame :: rest =>
    match frame.container with
    | .blockquote => b
    | .item _ =>
      if b.emptyItem.isSome then
        { b with frames := { frame with container := .item 0 } :: rest, lastLineBlank := true }
      else { b with lastLineBlank := true }
    | _ => { b with lastLineBlank := true }

def define (b : Blocks) (label destination : String) : Blocks :=
  { b with definitions := (label, destination) :: b.definitions }

/-- The destination that a label stands for: the first definition counts. -/
def destination? (b : Blocks) (label : String) : Option String :=
  b.definitions.reverse.lookup label

end Blocks

end MarkdownLayout.Markdown
