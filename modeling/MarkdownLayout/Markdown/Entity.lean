import MarkdownLayout.Markdown.EntityNames
import MarkdownLayout.Markdown.Source
import MarkdownLayout.Text.Punctuation

/-!
Character references and backslash escapes.
-/

namespace MarkdownLayout.Markdown

/-- The character with a code point; zero and surrogates give the replacement character. -/
def referenced (code : Nat) : String :=
  if code = 0 ∨ ¬ code.isValidChar then "\ufffd" else String.singleton (Char.ofNat code)

namespace Source

def number (s : Source) (base : Nat) (digit? : Char → Option Nat) : Nat → Nat → Nat → Nat × Nat
  | 0, value, i => (value, i)
  | limit + 1, value, i =>
    match s[i]?.bind digit? with
    | some d => number s base digit? limit (base * value + d) (i + 1)
    | none => (value, i)

def decimalDigit? (c : Char) : Option Nat :=
  if c.isDigit then some (c.toNat - '0'.toNat) else none

def codeReference? (s : Source) (start : Nat) (value stop : Nat) : Option (String × Nat) :=
  if start < stop ∧ s.holds stop ';' then some (referenced value, stop + 1) else none

def entity? (s : Source) (i : Nat) : Option (String × Nat) :=
  if s.holds i '&' then
    if s.holds (i + 1) '#' then
      if s.holds (i + 2) 'x' || s.holds (i + 2) 'X' then
        let (value, stop) := s.number 16 Text.hexValue? 6 0 (i + 3)
        s.codeReference? (i + 3) value stop
      else
        let (value, stop) := s.number 10 decimalDigit? 7 0 (i + 2)
        s.codeReference? (i + 2) value stop
    else
      let stop := s.skip Char.isAlphanum (i + 1)
      if s.holds stop ';' then (namedEntity? (s.text (i + 1) stop)).map fun value => (value, stop + 1)
      else none
  else none

def escapes (s : Source) (i : Nat) : Bool :=
  s.holds i '\\' && s[i + 1]?.any Text.isAsciiPunctuation

/-- The meaning of the text from `i` on: escapes and references replaced, carriage returns dropped. In a table
two backslashes before a pipe are dropped. -/
def unescape (s : Source) (inTable : Bool) (i : Nat) : List Char :=
  if h : i < s.size then
    if inTable && s.reads i ['\\', '\\', '|'] then '|' :: unescape s inTable (i + 3)
    else if s.escapes i then (s[i + 1]?).toList ++ unescape s inTable (i + 2)
    else if s[i] = '\r' then unescape s inTable (i + 1)
    else
      match s.entity? i with
      | some (value, stop) =>
        if i < stop then value.toList ++ unescape s inTable stop else s[i] :: unescape s inTable (i + 1)
      | none => s[i] :: unescape s inTable (i + 1)
  else []
termination_by s.size - i

end Source

def Source.meaning (s : Source) (inTable : Bool) (start stop : Nat) : String :=
  String.ofList (Source.unescape (Array.extract s start stop) inTable 0)

end MarkdownLayout.Markdown
