import MarkdownLayout.Markdown.Entity
import MarkdownLayout.Text.Character
import MarkdownLayout.Text.Span

/-!
The tokens of a line of inline text: stretches of plain text, references, line breaks, and marks that may turn
out to delimit something.
-/

namespace MarkdownLayout.Markdown

inductive Mark where
  | text
  | entity (content : String)
  | run (mark : Char) (canOpen canClose : Bool)
  | backticks (isEscaped : Bool)
  | angle
  | linkOpen
  | imageOpen
  | bracketClose (mayRefer : Bool)
  | softBreak
  | hardBreak (isBackslash : Bool)
  deriving DecidableEq, Repr, Inhabited

structure Token where
  mark : Mark
  span : Span
  deriving DecidableEq, Repr, Inhabited

namespace Token

def pushText (tokens : List Token) (start stop : Nat) : List Token :=
  if start < stop then
    match tokens with
    | ⟨.text, span⟩ :: rest =>
      if span.stop = start then ⟨.text, ⟨span.start, stop⟩⟩ :: rest else ⟨.text, ⟨start, stop⟩⟩ :: tokens
    | _ => ⟨.text, ⟨start, stop⟩⟩ :: tokens
  else tokens

end Token

inductive LineContext where
  | block
  | cell
  deriving DecidableEq, Repr

namespace Source

def charBefore? (s : Source) (i : Nat) : Option Char :=
  if i = 0 then none else s[i - 1]?

def behindPipe (s : Source) (start i : Nat) : Bool :=
  start < i && s.holds (i - 1) '|' && !(start + 1 < i && s.holds (i - 2) '\\')

/-- Whether a run of `mark` from `i` to `stop` may open emphasis: no white space follows, and either the run may
stand inside a word or it follows white space or punctuation. -/
def runCanOpen (s : Source) (context : LineContext) (start : Nat) (mark : Char) (i stop : Nat) : Bool :=
  match s[stop]? with
  | none => false
  | some next =>
    if Text.isBlank next then false
    else if i = start then true
    else if context = .cell ∧ s.behindPipe start i then true
    else if context = .cell ∧ next = '|' then false
    else if mark = '*' ∧ ¬ Text.isPunctuation next then true
    else if mark = '~' ∧ i + 1 < stop then true
    else
      match s.charBefore? i with
      | none => true
      | some before =>
        mark == '~' && before == '~' && !Text.isPunctuation next || Text.isBlank before ||
          Text.isPunctuation before

def runCanClose (s : Source) (context : LineContext) (start : Nat) (mark : Char) (i stop : Nat) : Bool :=
  if i = start then false
  else
    match s.charBefore? i with
    | none => false
    | some before =>
      if Text.isBlank before then false
      else
        match s[stop]? with
        | none => true
        | some next =>
          if context = .cell ∧ s.behindPipe start i then false
          else if context = .cell ∧ next = '|' then true
          else if (mark = '*' ∨ mark = '~' ∧ i + 1 < stop) ∧ ¬ Text.isPunctuation before then true
          else if mark = '~' ∧ before = '~' then true
          else Text.isBlank next || Text.isPunctuation next

/-- What stands at a place of a line: plain text that goes on behind `extra` more characters; tokens, with text
beginning again at `resume`; or the end of a cell. -/
inductive LinePart where
  | plain (extra : Nat)
  | marks (tokens : List Token) (resume extra : Nat)
  | cellEnd

def escapePart (s : Source) (context : LineContext) (i : Nat) : LinePart :=
  if s.escapes i then
    if s.holds (i + 1) '\x60' then
      let stop := s.skip (· == '\x60') (i + 1)
      .marks [⟨.backticks true, ⟨i + 1, stop⟩⟩] stop (stop - i - 1)
    else if context = .cell ∧ s.reads (i + 1) ['\\', '|'] then .marks [] (i + 2) 2
    else .marks [] (i + 1) 1
  else .plain 0

def runPart (s : Source) (context : LineContext) (start i : Nat) (mark : Char) : LinePart :=
  let stop := s.skip (· == mark) i
  let canOpen := s.runCanOpen context start mark i stop
  let canClose := s.runCanClose context start mark i stop
  if (canOpen || canClose) && (mark != '~' || stop ≤ i + 2) then
    .marks [⟨.run mark canOpen canClose, ⟨i, stop⟩⟩] stop (stop - i - 1)
  else .plain (stop - i - 1)

def linePart (s : Source) (context : LineContext) (start i : Nat) (c : Char) : LinePart :=
  let single (mark : Mark) (stop : Nat) : LinePart := .marks [⟨mark, ⟨i, stop⟩⟩] stop (stop - i - 1)
  if c = '\\' then s.escapePart context i
  else if c = '*' ∨ c = '_' ∨ c = '~' then s.runPart context start i c
  else if c = '\x60' then single (.backticks false) (s.skip (· == '\x60') i)
  else if c = '<' ∧ ¬ s.holds (i + 1) '\\' then single .angle (i + 1)
  else if c = '!' ∧ s.holds (i + 1) '[' then single .imageOpen (i + 2)
  else if c = '[' then single .linkOpen (i + 1)
  else if c = ']' then single (.bracketClose true) (i + 1)
  else if c = '|' ∧ context = .cell then .cellEnd
  else if c = '&' then
    match s.entity? i with
    | some (content, stop) => single (.entity content) stop
    | none => .plain 0
  else .plain 0

end Source

structure LineReading where
  tokens : List Token
  next : Nat
  lineBreak : Option Token
  deriving Repr, Inhabited

namespace Source

/-- The end of a line of text that has no line break of its own: white space before the end is dropped. -/
def endText (s : Source) (tokens : List Token) (text i : Nat) : LineReading :=
  ⟨Token.pushText tokens text (s.skipBack isLineBlank text i), i, none⟩

/-- The line break at `i`: hard behind a backslash or two blanks. -/
def breakLine (s : Source) (tokens : List Token) (text i next : Nat) : LineReading :=
  let backslashes := i - s.skipBack (· == '\\') 0 i
  let blank := s.skipBack isLineBlank 0 i
  if backslashes % 2 = 1 ∧ next < s.size then
    ⟨Token.pushText tokens text (i - 1), next, some ⟨.hardBreak true, ⟨i - 1, next⟩⟩⟩
  else if blank + 2 ≤ i then
    ⟨Token.pushText tokens text blank, next, some ⟨.hardBreak false, ⟨blank, next⟩⟩⟩
  else ⟨Token.pushText tokens text blank, next, some ⟨.softBreak, ⟨i, next⟩⟩⟩

def readLineFrom (s : Source) (context : LineContext) (start : Nat) (tokens : List Token) (text i : Nat) :
    LineReading :=
  if h : i < s.size then
    match s.lineEnd? i with
    | some next =>
      if context = .cell then s.endText tokens text i else s.breakLine tokens text i next
    | none =>
      match s.linePart context start i s[i] with
      | .plain extra => readLineFrom s context start tokens text (i + 1 + extra)
      | .marks found resume extra =>
        readLineFrom s context start (found.reverse ++ Token.pushText tokens text i) resume (i + 1 + extra)
      | .cellEnd => s.endText tokens text i
  else s.endText tokens text i
termination_by s.size - i

def readLine (s : Source) (context : LineContext) (start : Nat) : LineReading :=
  s.readLineFrom context start [] start start

end Source

end MarkdownLayout.Markdown
