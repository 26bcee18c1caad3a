/-!
Stretches of a text. Places are byte offsets of its UTF-8 form, and a span cuts out a slice only if both of its
ends fall between two characters.
-/

namespace MarkdownLayout

/-- The units from `start` up to, and without, `stop`: bytes, unless the text is held as an array of characters. -/
structure Span where
  start : Nat
  stop : Nat
  deriving DecidableEq, Repr, Inhabited

namespace Span

def isEmpty (span : Span) : Bool :=
  span.stop ≤ span.start

end Span

namespace Text

def byteLength (cs : List Char) : Nat :=
  cs.foldr (fun c length => c.utf8Size + length) 0

/-- What is left after the first `n` bytes, or nothing when the cut does not fall between two characters. -/
def dropBytes? : Nat → List Char → Option (List Char)
  | 0, cs => some cs
  | _ + 1, [] => none
  | n + 1, c :: cs => if c.utf8Size ≤ n + 1 then dropBytes? (n + 1 - c.utf8Size) cs else none

def takeBytes? : Nat → List Char → Option (List Char)
  | 0, _ => some []
  | _ + 1, [] => none
  | n + 1, c :: cs =>
    if c.utf8Size ≤ n + 1 then (takeBytes? (n + 1 - c.utf8Size) cs).map (c :: ·) else none

def slice? (s : String) (span : Span) : Option String :=
  if span.start ≤ span.stop then
    (dropBytes? span.start s.toList).bind fun rest =>
      (takeBytes? (span.stop - span.start) rest).map String.ofList
  else none

/-- The slice of `s` covered by `span`; a span that cuts nothing out gives the empty text. -/
def slice (s : String) (span : Span) : String :=
  (slice? s span).getD ""

def findBytes? (needle : List Char) : List Char → Option Nat
  | [] => if needle.isEmpty then some 0 else none
  | c :: cs =>
    if needle.isPrefixOf (c :: cs) then some 0 else (findBytes? needle cs).map (· + c.utf8Size)

end Text

end MarkdownLayout
