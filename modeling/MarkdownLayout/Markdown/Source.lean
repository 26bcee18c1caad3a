/-!
Markdown text as it is read: an array of characters. Places are character counts, and a place behind the end
is the end. Scanners take a place and answer with a later one.
-/

namespace MarkdownLayout.Markdown

abbrev Source := Array Char

def isLineBlank (c : Char) : Bool :=
  c == ' ' || c == '\t' || c == '\x0b' || c == '\x0c'

def isLineBreak (c : Char) : Bool :=
  c == '\n' || c == '\r'

def isAsciiBlank (c : Char) : Bool :=
  isLineBlank c || isLineBreak c

namespace Source

def ofString (s : String) : Source :=
  s.toList.toArray

def skip (s : Source) (p : Char → Bool) (i : Nat) : Nat :=
  if h : i < s.size then if p s[i] then skip s p (i + 1) else i else i
termination_by s.size - i

def skipBack (s : Source) (p : Char → Bool) (floor : Nat) : Nat → Nat
  | 0 => 0
  | i + 1 => if floor ≤ i && (s[i]?.any p) then skipBack s p floor i else i + 1

def find? (s : Source) (found : Nat → Bool) (i : Nat) : Option Nat :=
  if i < s.size then if found i then some i else find? s found (i + 1) else none
termination_by s.size - i

def holds (s : Source) (i : Nat) (c : Char) : Bool :=
  s[i]? == some c

def reads (s : Source) (i : Nat) : List Char → Bool
  | [] => true
  | c :: cs => s.holds i c && reads s (i + 1) cs

def text (s : Source) (start stop : Nat) : String :=
  String.ofList (Array.extract s start stop).toList

def atLineEnd (s : Source) (i : Nat) : Bool :=
  s[i]?.all isLineBreak

def lineEnd? (s : Source) (i : Nat) : Option Nat :=
  match s[i]? with
  | none => some i
  | some '\n' => some (i + 1)
  | some '\r' => some (if s.holds (i + 1) '\n' then i + 2 else i + 1)
  | _ => none

def skipLineBlank (s : Source) (i : Nat) : Nat :=
  s.skip isLineBlank i

def blankRest? (s : Source) (i : Nat) : Option Nat :=
  s.lineEnd? (s.skipLineBlank i)

/-- The place behind the next newline; a carriage return alone ends no line here. -/
def afterLine (s : Source) (i : Nat) : Nat :=
  min s.size (s.skip (· != '\n') i + 1)

def byteOffsets (s : Source) : Array Nat :=
  s.foldl (fun offsets c => offsets.push (offsets.back?.getD 0 + c.utf8Size)) #[0]

end Source

end MarkdownLayout.Markdown
