import MarkdownLayout.Event
import MarkdownLayout.Markdown.Block
import MarkdownLayout.Markdown.Html
import MarkdownLayout.Markdown.Link
import MarkdownLayout.Text.CaseFold

/-!
Links, images, code spans, addresses and markup inside text. Tokens are read from left to right; brackets wait
on a stack until a closing bracket tells whether they make a link.
-/

namespace MarkdownLayout.Markdown

inductive Inline where
  | leaf (event : Event) (span : Span)
  | run (mark : Char) (canOpen canClose : Bool) (span : Span)
  | hardBreak (isBackslash : Bool) (span : Span)
  | link (tag : Tag) (span : Span) (inside : List Inline)
  deriving Repr, Inhabited

structure InlineContext where
  source : Source
  lineStarts : List Nat
  inTable : Bool
  destination? : String → Option String
  isFootnote : String → Bool

namespace InlineContext

def resume (context : InlineContext) (i : Nat) : Option Nat :=
  some ((context.lineStarts.find? (i ≤ ·)).getD i)

def textOf (context : InlineContext) (span : Span) : Inline :=
  .leaf (.text (context.source.text span.start span.stop)) span

end InlineContext

inductive BracketKind where
  | link
  | image
  | disabled
  deriving DecidableEq, Repr, Inhabited

structure Bracket where
  kind : BracketKind
  span : Span
  items : List Inline := []
  deriving Repr, Inhabited

structure Brackets where
  items : List Inline := []
  opened : List Bracket := []
  deriving Repr, Inhabited

namespace Brackets

def pushAll (b : Brackets) (items : List Inline) : Brackets :=
  match b.opened with
  | bracket :: rest => { b with opened := { bracket with items := items ++ bracket.items } :: rest }
  | [] => { b with items := items ++ b.items }

def push (b : Brackets) (item : Inline) : Brackets :=
  b.pushAll [item]

def collapse (b : Brackets) (context : InlineContext) : Brackets :=
  match b.opened with
  | bracket :: rest =>
    { b with opened := rest }.pushAll (bracket.items ++ [context.textOf bracket.span])
  | [] => b

def collapseMany (b : Brackets) (context : InlineContext) : Nat → Brackets
  | 0 => b
  | n + 1 => (b.collapse context).collapseMany context n

def collapseAll (b : Brackets) (context : InlineContext) : Brackets :=
  b.collapseMany context b.opened.length

/-- Links may not hold links: brackets around one can make images only. -/
def disableLinks (b : Brackets) : Brackets :=
  { b with opened := b.opened.map fun bracket =>
      if bracket.kind = .link then { bracket with kind := .disabled } else bracket }

def closeLink (b : Brackets) (bracket : Bracket) (destination : String) (stop : Nat) : Brackets :=
  let b := { b with opened := b.opened.drop 1 }
  let span : Span := ⟨bracket.span.start, stop⟩
  let inside := bracket.items.reverse
  if bracket.kind = .image then b.push (.link (.image destination) span inside)
  else (b.push (.link (.link destination false) span inside)).disableLinks

end Brackets

namespace Token

def behind (i : Nat) (tokens : List Token) : List Token :=
  match tokens.dropWhile (·.span.stop ≤ i) with
  | token :: rest => { token with span := ⟨max token.span.start i, token.span.stop⟩ } :: rest
  | [] => []

/-- The closing bracket at `i` failed as the end of a reference, and will not be tried again. -/
def refuseReference (i : Nat) : List Token → List Token
  | [] => []
  | token :: rest =>
    if token.span.stop ≤ i then token :: refuseReference i rest
    else { token with mark := .bracketClose false } :: rest

def closingBackticks? (length : Nat) : List Token → Option (Span × List Token)
  | [] => none
  | ⟨.backticks _, span⟩ :: rest =>
    if span.stop - span.start = length then some (span, rest) else closingBackticks? length rest
  | _ :: rest => closingBackticks? length rest

end Token

namespace InlineContext

/-! Code -/

def codeText (context : InlineContext) (stop : Nat) : Nat → Nat → List Char
  | 0, _ => []
  | fuel + 1, i =>
    if i < stop then
      match context.source[i]? with
      | none => []
      | some c =>
        if isLineBreak c then
          let next := (context.source.lineEnd? i).getD (i + 1)
          ' ' :: context.codeText stop fuel ((context.resume next).getD next)
        else if context.inTable && context.source.reads i ['\\', '|'] then
          '|' :: context.codeText stop fuel (i + 2)
        else c :: context.codeText stop fuel (i + 1)
    else []

/-- The content of a code span: one space is dropped at each end, if there is one at both and something else in
between. -/
def codeContent (context : InlineContext) (start stop : Nat) : String :=
  let s := context.source
  let isEdge (i : Nat) : Bool := s[i]?.any fun c => c == ' ' || isLineBreak c
  let isBlank := stop ≤ s.skip (· == ' ') start
  let (start, stop) :=
    if !isBlank && isEdge start && isEdge (stop - 1) then
      (start + 1, if start + 1 < stop then stop - 1 else stop)
    else (start, stop)
  String.ofList (context.codeText stop (stop - start) start)

def readBackticks (context : InlineContext) (b : Brackets) (isEscaped : Bool) (span : Span) (rest : List Token) :
    Brackets × List Token :=
  let length := span.stop - span.start - (if isEscaped then 1 else 0)
  if length = 0 then (b.push (context.textOf span), rest)
  else
    match Token.closingBackticks? length rest with
    | none => (b.push (context.textOf span), rest)
    | some (closing, rest) =>
      let content := context.codeContent span.stop closing.start
      if isEscaped then
        let escaped : Span := ⟨span.start, span.start + 1⟩
        ((b.push (context.textOf escaped)).push (.leaf (.code content) ⟨span.start + 1, closing.stop⟩), rest)
      else (b.push (.leaf (.code content) ⟨span.start, closing.stop⟩), rest)

/-! Angle brackets -/

def readAngle (context : InlineContext) (b : Brackets) (span : Span) (rest : List Token) :
    Brackets × List Token :=
  let s := context.source
  let address (stop : Nat) (isEmail : Bool) : Brackets × List Token :=
    let inside : Span := ⟨span.stop, stop⟩
    let tag : Tag := .link (s.text span.stop stop) isEmail
    (b.push (.link tag ⟨span.start, stop + 1⟩ [context.textOf inside]), Token.behind (stop + 1) rest)
  match s.addressEnd? span.stop with
  | some stop => address stop false
  | none =>
    match s.mailEnd? span.stop with
    | some stop => address stop true
    | none =>
      match s.markupEnd? context.resume span.start with
      | some stop => (b.push (.leaf .markup ⟨span.start, stop⟩), Token.behind stop rest)
      | none => (b.push (context.textOf span), rest)

/-! Links -/

inductive ReferenceLabel where
  | link (label : String)
  | footnote (label : String)
  deriving DecidableEq, Repr

def reference? (context : InlineContext) (i : Nat) : Option (ReferenceLabel × Nat) :=
  let s := context.source
  if s.holds i '[' then
    let link : Option (ReferenceLabel × Nat) :=
      (s.label? context.resume context.inTable (i + 1)).map fun (label, stop) => (.link label, stop)
    if s.holds (i + 1) '^' && !s.holds (i + 2) ']' then
      match s.label? (fun _ => none) context.inTable (i + 2) with
      | some (label, stop) => some (.footnote label, stop)
      | none => link
    else link
  else none

inductive ReferenceTail where
  | label (label : String) (stop : Nat)
  | empty
  | absent

def referenceTail (context : InlineContext) (rest : List Token) : ReferenceTail :=
  match rest with
  | [] => .absent
  | token :: _ =>
    if context.source.reads token.span.start ['[', ']'] then .empty
    else
      match context.reference? token.span.start with
      | some (.link label, stop) => .label label stop
      | _ => .absent

def ownLabel? (context : InlineContext) (bracket : Bracket) (stop : Nat) : Option ReferenceLabel :=
  match { context with source := Array.extract context.source 0 stop }.reference? (bracket.span.stop - 1) with
  | some (label, labelStop) => if labelStop = stop then some label else none
  | none => none

def readLabel (context : InlineContext) (b : Brackets) (bracket : Bracket) (close : Span) (label : ReferenceLabel)
    (stop : Nat) (failed linked footnoted : List Token) : Brackets × List Token :=
  let asText := ((b.collapse context).push (context.textOf close), failed)
  match label with
  | .link label =>
    match context.destination? (Text.caseFold label) with
    | some destination => (b.closeLink bracket destination stop, linked)
    | none => asText
  | .footnote label =>
    if context.isFootnote (Text.caseFold label) then
      let outer := { b with opened := b.opened.drop 1 }.collapseAll context
      let start := bracket.span.start
      if bracket.kind = .image then
        let mark : Span := ⟨start, start + 1⟩
        ((outer.push (context.textOf mark)).push (.leaf .other ⟨start + 1, stop⟩), footnoted)
      else (outer.push (.leaf .other ⟨start, stop⟩), footnoted)
    else asText

/-- A closing bracket: the innermost opening bracket becomes a link if a destination or a label that is defined
follows, or if its own content is such a label. -/
def readClose (context : InlineContext) (b : Brackets) (mayRefer : Bool) (close : Span) (rest : List Token) :
    Brackets × List Token :=
  match b.opened with
  | [] => (b.push (context.textOf close), rest)
  | bracket :: _ =>
    let asText := ((b.collapse context).push (context.textOf close), rest)
    if bracket.kind = .disabled then asText
    else
      match context.source.inlineTarget? context.resume context.inTable close.stop with
      | some (destination, stop) => (b.closeLink bracket destination stop, Token.behind stop rest)
      | none =>
        let own (linked : List Token) : Brackets × List Token :=
          match if mayRefer then context.ownLabel? bracket close.stop else none with
          | some label => context.readLabel b bracket close label close.stop rest linked rest
          | none => asText
        match context.referenceTail rest with
        | .label label stop =>
          let refused := Token.refuseReference (stop - 1) rest
          let linked := (rest.dropWhile (·.span.stop ≤ stop - 1)).drop 1
          context.readLabel b bracket close (.link label) stop refused linked refused
        | .empty => own (rest.drop 2)
        | .absent => own rest

def readToken (context : InlineContext) (b : Brackets) (token : Token) (rest : List Token) :
    Brackets × List Token :=
  match token.mark with
  | .text => (b.push (context.textOf token.span), rest)
  | .entity content => (b.push (.leaf (.text content) token.span), rest)
  | .run mark canOpen canClose => (b.push (.run mark canOpen canClose token.span), rest)
  | .backticks isEscaped => context.readBackticks b isEscaped token.span rest
  | .angle => context.readAngle b token.span rest
  | .linkOpen => ({ b with opened := ⟨.link, token.span, []⟩ :: b.opened }, rest)
  | .imageOpen => ({ b with opened := ⟨.image, token.span, []⟩ :: b.opened }, rest)
  | .bracketClose mayRefer => context.readClose b mayRefer token.span rest
  | .softBreak => (b.push (.leaf .softBreak token.span), rest)
  | .hardBreak isBackslash => (b.push (.hardBreak isBackslash token.span), rest)

def readTokens (context : InlineContext) : Nat → Brackets → List Token → List Inline
  | _, b, [] => (b.collapseAll context).items.reverse
  | 0, b, _ => (b.collapseAll context).items.reverse
  | fuel + 1, b, token :: rest =>
    let (b, rest) := context.readToken b token rest
    context.readTokens fuel b rest

def inlines (context : InlineContext) (tokens : List Token) : List Inline :=
  context.readTokens tokens.length {} tokens

end InlineContext

end MarkdownLayout.Markdown
