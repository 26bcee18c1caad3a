import MarkdownLayout.Markdown.Entity

/-!
The parts of links: destinations, titles, labels, and addresses in angle brackets. As in markup, a line break
goes on at `resume` of the place behind it.
-/

namespace MarkdownLayout.Markdown.Source

def angledDestination? (s : Source) (i : Nat) : Option Nat :=
  if h : i < s.size then
    if isLineBreak s[i] || s[i] = '<' then none
    else if s[i] = '>' then some (i + 1)
    else if s.escapes i then angledDestination? s (i + 2)
    else angledDestination? s (i + 1)
  else none
termination_by s.size - i

/-- The place behind a bare destination: its parentheses are balanced and at most `limit + 1` deep. -/
def bareDestination? (s : Source) (limit depth : Nat) (i : Nat) : Option Nat :=
  if h : i < s.size then
    if s[i].toNat ≤ 0x20 then finish
    else if s[i] = '(' then if limit < depth then none else bareDestination? s limit (depth + 1) (i + 1)
    else if s[i] = ')' then if depth = 0 then finish else bareDestination? s limit (depth - 1) (i + 1)
    else if s.escapes i then bareDestination? s limit depth (i + 2)
    else bareDestination? s limit depth (i + 1)
  else finish
termination_by s.size - i
where
  finish : Option Nat := if depth = 0 then some i else none

def destination? (s : Source) (inTable : Bool) (limit : Nat) (i : Nat) : Option (String × Nat) :=
  if s.holds i '<' then
    (s.angledDestination? (i + 1)).map fun stop => (s.meaning inTable (i + 1) (stop - 1), stop)
  else (s.bareDestination? limit 0 i).map fun stop => (s.meaning inTable i stop, stop)

def titleEnd? (s : Source) (resume : Nat → Option Nat) (opener closer : Char) : Nat → Nat → Option Nat
  | 0, _ => none
  | fuel + 1, i =>
    match s[i]? with
    | none => none
    | some c =>
      if c = closer then some (i + 1)
      else if c = opener then none
      else if isLineBreak c then
        ((s.lineEnd? i).bind resume).bind fun next => titleEnd? s resume opener closer fuel next
      else titleEnd? s resume opener closer fuel (if s.escapes i then i + 2 else i + 1)

def title? (s : Source) (resume : Nat → Option Nat) (i : Nat) : Option Nat :=
  match s[i]? with
  | some '(' => s.titleEnd? resume '(' ')' s.size (i + 1)
  | some c => if c = '\x27' ∨ c = '\x22' then s.titleEnd? resume c c s.size (i + 1) else none
  | none => none

def skipSeparator (s : Source) (resume : Nat → Option Nat) (i : Nat) : Nat :=
  let first := s.skipLineBlank i
  match s.lineEnd? first with
  | some next => s.skipLineBlank ((resume next).getD next)
  | none => first

def inlineTarget? (s : Source) (resume : Nat → Option Nat) (inTable : Bool) (i : Nat) : Option (String × Nat) :=
  if s.holds i '(' then do
    let (destination, next) ← s.destination? inTable 32 (s.skipSeparator resume (i + 1))
    let next := s.skipSeparator resume next
    let stop := match s.title? resume next with
      | some behind => s.skipSeparator resume behind
      | none => next
    if s.holds stop ')' then some (destination, stop + 1) else none
  else none

/-! Labels -/

structure LabelReading where
  content : List Char := []
  length : Nat := 0
  onlyBlank : Bool := true

def skipGap? (s : Source) (resume : Nat → Option Nat) (mayBreak : Bool) : Nat → Nat → Option Nat
  | 0, i => some i
  | fuel + 1, i =>
    match s[i]? with
    | none => some i
    | some c =>
      if isLineBreak c then
        if mayBreak then
          ((s.lineEnd? i).bind resume).bind fun next => skipGap? s resume false fuel next
        else none
      else if isLineBlank c then skipGap? s resume mayBreak fuel (i + 1)
      else some i

def labelFrom? (s : Source) (resume : Nat → Option Nat) (inTable : Bool) :
    Nat → LabelReading → Nat → Option (String × Nat)
  | 0, _, _ => none
  | fuel + 1, reading, i =>
    if 1000 ≤ reading.length then none
    else
      match s[i]? with
      | none | some '[' => none
      | some ']' =>
        if reading.onlyBlank then none
        else
          let trim (cs : List Char) := cs.dropWhile isAsciiBlank
          some (String.ofList (trim (trim reading.content).reverse), i + 1)
      | some c =>
        let grow (cs : List Char) (length : Nat) : LabelReading :=
          { content := cs.reverse ++ reading.content, length := reading.length + length, onlyBlank := false }
        if c = '\\' then
          if inTable && s.reads i ['\\', '\\', '|'] then labelFrom? s resume inTable fuel (grow ['|'] 3) (i + 3)
          else labelFrom? s resume inTable fuel (grow ('\\' :: (s[i + 1]?).toList) 2) (i + 2)
        else if isAsciiBlank c then
          (s.skipGap? resume true s.size i).bind fun next =>
            labelFrom? s resume inTable fuel
              { reading with content := ' ' :: reading.content, length := reading.length + (next - i) } next
        else labelFrom? s resume inTable fuel (grow [c] 1) (i + 1)

def label? (s : Source) (resume : Nat → Option Nat) (inTable : Bool) (i : Nat) : Option (String × Nat) :=
  s.labelFrom? resume inTable (s.size + 1) {} i

/-! Addresses in angle brackets -/

def isSchemeChar (c : Char) : Bool :=
  c.isAlphanum || c == '.' || c == '-' || c == '+'

def addressEnd? (s : Source) (i : Nat) : Option Nat :=
  let colon := s.skip isSchemeChar i
  if s[i]?.any Char.isAlpha && s.holds colon ':' && 2 ≤ colon - i && colon - i ≤ 32 then
    let stop := s.skip (fun c => 0x20 < c.toNat && c != '<' && c != '>') (colon + 1)
    if s.holds stop '>' then some stop else none
  else none

def isMailboxChar (c : Char) : Bool :=
  c.isAlphanum || ".!#$%&\x27*+/=?^_\x60\x7b|\x7d~-".toList.contains c

/-- The place behind the labels of a host name: none is empty, longer than 63, or has a hyphen at an end. -/
def hostEnd? (s : Source) : Nat → Nat → Option Nat
  | 0, _ => none
  | fuel + 1, i =>
    let stop := s.skip (fun c => c.isAlphanum || c == '-') i
    if i < stop ∧ stop ≤ i + 63 ∧ s.holds i '-' = false ∧ s.holds (stop - 1) '-' = false then
      if s.holds stop '.' then hostEnd? s fuel (stop + 1) else some stop
    else none

def mailEnd? (s : Source) (i : Nat) : Option Nat :=
  let mark := s.skip isMailboxChar i
  if i < mark ∧ s.holds mark '@' then
    (s.hostEnd? s.size (mark + 1)).bind fun stop => if s.holds stop '>' then some stop else none
  else none

end MarkdownLayout.Markdown.Source
