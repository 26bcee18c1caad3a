import MarkdownLayout.Markdown.Inline
import MarkdownLayout.Markdown.Piece

/-!
Emphasis, strong emphasis and strikethrough. A run that may close looks for the nearest run before it that may
open and goes with it; runs in between are text.
-/

namespace MarkdownLayout.Markdown

structure Opener where
  mark : Char
  start : Nat
  count : Nat
  length : Nat
  isBoth : Bool
  isLive : Bool := true
  pieces : List Piece := []
  deriving Repr, Inhabited

structure Emphasis where
  pieces : List Piece := []
  opened : List Opener := []
  deriving Repr, Inhabited

namespace Emphasis

def plainMarks (mark : Char) (start : Nat) : Nat → List Piece
  | 0 => []
  | n + 1 =>
    .single (.text (String.singleton mark)) ⟨start + n, start + n + 1⟩ :: plainMarks mark start n

def Opener.flatten (opener : Opener) : List Piece :=
  opener.pieces ++ plainMarks opener.mark opener.start opener.count

def pushAll (e : Emphasis) (pieces : List Piece) : Emphasis :=
  match e.opened with
  | opener :: rest => { e with opened := { opener with pieces := pieces ++ opener.pieces } :: rest }
  | [] => { e with pieces := pieces ++ e.pieces }

def push (e : Emphasis) (piece : Piece) : Emphasis :=
  e.pushAll [piece]

def collapse (e : Emphasis) : Emphasis :=
  match e.opened with
  | opener :: rest => { e with opened := rest }.pushAll (Opener.flatten opener)
  | [] => e

def collapseMany (e : Emphasis) : Nat → Emphasis
  | 0 => e
  | n + 1 => e.collapse.collapseMany n

/-- Whether a closing run goes with an open one. Tildes need runs of the same length. Where one of the runs could
both open and close, their lengths may not add up to a multiple of three, unless both are multiples of three. -/
def matched (mark : Char) (length : Nat) (isBoth : Bool) (opener : Opener) : Bool :=
  opener.isLive && opener.mark == mark && (mark != '~' || length == opener.length) &&
    (!isBoth && !opener.isBoth || (length + opener.length) % 3 != 0 || length % 3 == 0)

def tagOf (mark : Char) (width : Nat) : Tag :=
  if mark = '~' then .strikethrough else if width = 2 then .strong else .emphasis

/-- Wraps pieces into `marks` marks on either side, two at a time from the inside out. The pieces lie between
`start` and `stop`. -/
def wrap (mark : Char) (start stop : Nat) (inside : List Piece) : Nat → List Piece
  | 0 => inside
  | 1 => [.nested (tagOf mark 1) ⟨start - 1, stop + 1⟩ inside]
  | n + 2 => wrap mark (start - 2) (stop + 2) [.nested (tagOf mark 2) ⟨start - 2, stop + 2⟩ inside] n

def closeInnermost (e : Emphasis) (place count : Nat) : Emphasis :=
  match e.opened with
  | [] => e
  | opener :: rest =>
    let used := min count opener.count
    let wrapped := wrap opener.mark (opener.start + opener.count) place opener.pieces.reverse used
    if used < opener.count then
      { e with opened := { opener with count := opener.count - used, pieces := wrapped.reverse } :: rest }
    else { e with opened := rest }.pushAll wrapped.reverse

/-- Tildes before a closing run of tildes that found no match will not go with a later one. -/
def retireTildes (e : Emphasis) : Emphasis :=
  { e with opened := e.opened.map fun opener =>
      if opener.mark = '~' then { opener with isLive := false } else opener }

def readClosing (e : Emphasis) (mark : Char) (length : Nat) (isBoth : Bool) :
    Nat → Nat → Nat → Emphasis × Nat × Nat
  | 0, place, count => (e, place, count)
  | fuel + 1, place, count =>
    match e.opened.findIdx? (matched mark length isBoth) with
    | none => (if mark = '~' then e.retireTildes else e, place, count)
    | some depth =>
      let e := e.collapseMany depth
      let used := min count ((e.opened.head?.map Opener.count).getD 0)
      let e := e.closeInnermost place count
      if used < count then e.readClosing mark length isBoth fuel (place + used) (count - used)
      else (e, place + used, 0)

def readRun (e : Emphasis) (mark : Char) (canOpen canClose : Bool) (span : Span) : Emphasis :=
  let length := span.stop - span.start
  let isBoth := canOpen && canClose
  let (e, place, count) :=
    if canClose then e.readClosing mark length isBoth length span.start length else (e, span.start, length)
  if count = 0 then e
  else if canOpen then
    { e with opened := { mark, start := place, count, length, isBoth } :: e.opened }
  else e.pushAll (plainMarks mark place count)

def finish (e : Emphasis) : List Piece :=
  (e.collapseMany e.opened.length).pieces.reverse

def resolve (e : Emphasis) : List Inline → List Piece
  | [] => e.finish
  | .leaf event span :: rest => resolve (e.push (.single event span)) rest
  | .run mark canOpen canClose span :: rest => resolve (e.readRun mark canOpen canClose span) rest
  | .hardBreak isBackslash span :: rest =>
    let event : Event := if isBackslash && rest.isEmpty then .text "\\" else .hardBreak
    resolve (e.push (.single event span)) rest
  | .link tag span inside :: rest => resolve (e.push (.nested tag span (resolve {} inside))) rest

end Emphasis

end MarkdownLayout.Markdown
