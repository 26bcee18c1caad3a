import MarkdownLayout.Markdown.Margin

/-!
How the blocks of a Markdown text begin and end: each function looks at one place of a line, behind its margin.
-/

namespace MarkdownLayout.Markdown.Source

def thematicBreak? (s : Source) (i : Nat) : Option Nat :=
  match s[i]? with
  | some mark =>
    if mark == '*' || mark == '-' || mark == '_' then
      let stop := s.skip (fun c => c == mark || c == ' ' || c == '\t') i
      if 3 ≤ (Array.extract s i stop).count mark then s.lineEnd? stop else none
    else none
  | none => none

def headingLevel? (s : Source) (i : Nat) : Option Nat :=
  let stop := s.skip (· == '#') i
  if 1 ≤ stop - i ∧ stop - i ≤ 6 ∧ s[stop]?.all isAsciiBlank then some (stop - i) else none

def underline? (s : Source) (i : Nat) : Option (Nat × Nat) :=
  match s[i]? with
  | some '=' => (s.blankRest? (s.skip (· == '=') i)).map fun stop => (1, stop)
  | some '-' => (s.blankRest? (s.skip (· == '-') i)).map fun stop => (2, stop)
  | _ => none

/-- The mark of a code fence and the place behind its marks. The rest of a line of backticks holds none. -/
def fence? (s : Source) (i : Nat) : Option (Char × Nat) :=
  match s[i]? with
  | some mark =>
    if mark == '\x60' || mark == '~' then
      let stop := s.skip (· == mark) i
      let line := s.skip (fun c => c != '\n' && c != '\x60') stop
      if 3 ≤ stop - i && !(mark == '\x60' && s.holds line '\x60') then some (mark, stop) else none
    else none
  | none => none

/-- The place behind the marks that close a fence, and behind the spaces after them. The end of the text closes
every fence. -/
def closingFence? (s : Source) (mark : Char) (length : Nat) (i : Nat) : Option Nat :=
  if s.size ≤ i then some i
  else
    let stop := s.skip (· == mark) i
    let rest := s.skip (· == ' ') stop
    if length ≤ stop - i && s.atLineEnd rest then some rest else none

structure ItemMark where
  delimiter : Char
  number : Nat
  stop : Nat
  deriving DecidableEq, Repr

def isBullet (c : Char) : Bool :=
  c == '-' || c == '+' || c == '*'

def decimal (s : Source) (start stop : Nat) : Nat :=
  Array.foldl (fun n c => 10 * n + (c.toNat - '0'.toNat)) 0 (Array.extract s start stop)

def itemMark? (s : Source) (i : Nat) : Option ItemMark :=
  let spaced (stop : Nat) : Bool := s.holds stop ' ' || s.holds stop '\t' || s.atLineEnd stop
  match s[i]? with
  | some c =>
    if isBullet c then
      if spaced (i + 1) then some ⟨c, 0, i + 1⟩ else none
    else
      let stop := s.skip Char.isDigit i
      match s[stop]? with
      | some d =>
        if i < stop && stop ≤ i + 9 && (d == '.' || d == ')') && spaced (stop + 1) then
          some ⟨d, s.decimal i stop, stop + 1⟩
        else none
      | none => none
  | none => none

def taskBox? (s : Source) (i : Nat) : Option Nat :=
  let mark := s[i + 1]?.any fun c => isLineBlank c || c == 'x' || c == 'X'
  if s.holds i '[' && mark && s.holds (i + 2) ']' && s[i + 3]?.any isLineBlank then some (i + 3) else none

/-! Tables -/

structure DelimiterRow where
  columns : Nat := 0
  freshColumn : Bool := true
  dashInColumn : Bool := false
  pipe : Bool := false
  dash : Bool := false

def delimiterCells? (s : Source) (row : DelimiterRow) (i : Nat) : Option (Nat × Nat) :=
  if h : i < s.size then
    match s.lineEnd? i with
    | some stop => finish row stop
    | none =>
      if s[i] = ' ' then delimiterCells? s row (i + 1)
      else if s[i] = ':' then delimiterCells? s { row with freshColumn := false } (i + 1)
      else if s[i] = '-' then
        delimiterCells? s { row with freshColumn := false, dash := true, dashInColumn := true } (i + 1)
      else if s[i] = '|' then
        if row.dashInColumn then
          delimiterCells? s
            { row with columns := row.columns + 1, freshColumn := true, dashInColumn := false, pipe := true } (i + 1)
        else none
      else none
  else finish row i
termination_by s.size - i
where
  finish (row : DelimiterRow) (stop : Nat) : Option (Nat × Nat) :=
    if row.pipe && row.dash then some (if row.freshColumn then row.columns else row.columns + 1, stop) else none

def delimiterRow? (s : Source) (i : Nat) : Option (Nat × Nat) :=
  let (columns, m) := (Margin.atPlace i).indent s 4
  if columns < 4 then
    if s.holds m.pos '|' then s.delimiterCells? { pipe := true } (m.pos + 1) else s.delimiterCells? {} m.pos
  else none

/-- The number of pipes in the line at `i`, on top of `count`, and the place of the last. A place where `hidden`
holds is passed over together with the character behind it. -/
def pipes (s : Source) (hidden : Nat → Bool) (count last : Nat) (i : Nat) : Nat × Nat :=
  if h : i < s.size then
    if isLineBreak s[i] then (count, last)
    else if hidden i then pipes s hidden count last (i + 2)
    else if s[i] = '|' then pipes s hidden (count + 1) i (i + 1)
    else pipes s hidden count last (i + 1)
  else (count, last)
termination_by s.size - i

/-- The number of columns of a header row: pipes at its two ends delimit no column of their own. -/
def headerColumns (s : Source) (start pipes last : Nat) : Nat :=
  let inner := if s.holds (s.skipLineBlank start) '|' then pipes - 1 else pipes
  if (s.blankRest? (last + 1)).isSome then inner else inner + 1

end MarkdownLayout.Markdown.Source
