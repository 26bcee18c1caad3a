import MarkdownLayout.Markdown.Source

/-!
Raw HTML: tags, comments and other markup inside text, and the lines that begin a block of markup. A line
break inside a tag goes on at `resume` of the place behind it, where that gives a place.
-/

namespace MarkdownLayout.Markdown.Source

def isTagNameChar (c : Char) : Bool :=
  c.isAlphanum || c == '-'

def isAttributeNameStart (c : Char) : Bool :=
  c.isAlpha || c == '_' || c == ':'

def isAttributeNameChar (c : Char) : Bool :=
  c.isAlphanum || c == '_' || c == '.' || c == ':' || c == '-'

def isUnquotedValueChar (c : Char) : Bool :=
  !(c == '\x27' || c == '\x22' || c == ' ' || c == '=' || c == '>' || c == '<' || c == '\x60' || isLineBreak c)

def skipTagBlank? (s : Source) (resume : Nat → Option Nat) : Nat → Nat → Option Nat
  | 0, i => some i
  | fuel + 1, i =>
    match s[i]? with
    | none => some i
    | some c =>
      if isLineBreak c then
        ((s.lineEnd? i).bind resume).bind fun next => skipTagBlank? s resume fuel next
      else if isLineBlank c then skipTagBlank? s resume fuel (i + 1)
      else some i

def quotedValue? (s : Source) (resume : Nat → Option Nat) (quote : Char) : Nat → Nat → Option Nat
  | 0, _ => none
  | fuel + 1, i =>
    match s[i]? with
    | none => none
    | some c =>
      if c = quote then some (i + 1)
      else if isLineBreak c then
        ((s.lineEnd? i).bind resume).bind fun next => quotedValue? s resume quote fuel next
      else quotedValue? s resume quote fuel (i + 1)

def attributeValue? (s : Source) (resume : Nat → Option Nat) (i : Nat) : Option Nat :=
  match s[i]? with
  | none => none
  | some c =>
    if c = '\x22' ∨ c = '\x27' then s.quotedValue? resume c s.size (i + 1)
    else if isUnquotedValueChar c then some (s.skip isUnquotedValueChar i)
    else none

def attribute? (s : Source) (resume : Nat → Option Nat) (i : Nat) : Option Nat :=
  if s[i]?.any isAttributeNameStart then do
    let name := s.skip isAttributeNameChar i
    let behind ← s.skipTagBlank? resume s.size name
    if s.holds behind '=' then s.attributeValue? resume (← s.skipTagBlank? resume s.size (behind + 1))
    else some name
  else none

def attributes? (s : Source) (resume : Nat → Option Nat) : Nat → Nat → Option Nat
  | 0, _ => none
  | fuel + 1, i => do
    let next ← s.skipTagBlank? resume s.size i
    if s.size ≤ next then none
    else if s.holds next '/' || s.holds next '>' then some next
    else if next = i then none
    else attributes? s resume fuel (← s.attribute? resume next)

def tagEnd? (s : Source) (resume : Nat → Option Nat) (i : Nat) : Option Nat :=
  let isClosing := s.holds (i + 1) '/'
  let name := if isClosing then i + 2 else i + 1
  if s[name]?.any Char.isAlpha then do
    let stop := s.skip isTagNameChar name
    let stop ← if isClosing then some stop else s.attributes? resume s.size stop
    let stop := s.skipLineBlank stop
    let stop := if !isClosing && s.holds stop '/' then stop + 1 else stop
    if s.holds stop '>' then some (stop + 1) else none
  else none

def behind? (s : Source) (closer : List Char) (i : Nat) : Option Nat :=
  (s.find? (fun j => s.reads j closer) i).map (· + closer.length)

/-- The place behind a section of character data inside text. The first square brackets in it have to end it. -/
def characterDataEnd? (s : Source) (i : Nat) : Option Nat :=
  let brackets := s.skip (· != ']') i
  let stop := s.skip (· == ']') brackets
  if brackets < stop && s.holds stop '>' then some (stop + 1) else none

def declarationEnd? (s : Source) (i : Nat) : Option Nat :=
  if s.reads i ['-', '-'] then
    if s.holds (i + 2) '>' then some (i + 3)
    else if s.reads (i + 2) ['-', '>'] then some (i + 4)
    else s.behind? ['-', '-', '>'] (i + 2)
  else if s.reads i "[CDATA[".toList then s.characterDataEnd? (i + 7)
  else if s[i]?.any Char.isAlpha then s.behind? ['>'] i
  else none

def markupEnd? (s : Source) (resume : Nat → Option Nat) (i : Nat) : Option Nat :=
  if s.holds (i + 1) '!' then s.declarationEnd? (i + 2)
  else if s.holds (i + 1) '?' then s.behind? ['?', '>'] (i + 2)
  else s.tagEnd? resume i

/-! Blocks of markup -/

/-- Elements whose tag alone begins a block of markup, which then runs to a blank line. -/
def blockElements : List String :=
  ["address", "article", "aside", "base", "basefont", "blockquote", "body", "caption", "center", "col",
    "colgroup", "dd", "details", "dialog", "dir", "div", "dl", "dt", "fieldset", "figcaption", "figure",
    "footer", "form", "frame", "frameset", "h1", "h2", "h3", "h4", "h5", "h6", "head", "header", "hr", "html",
    "iframe", "legend", "li", "link", "main", "menu", "menuitem", "nav", "noframes", "ol", "optgroup",
    "option", "p", "param", "search", "section", "summary", "table", "tbody", "td", "tfoot", "th", "thead",
    "title", "tr", "track", "ul"]

def lowerText (s : Source) (start stop : Nat) : String :=
  String.ofList ((Array.extract s start stop).toList.map Char.toLower)

def isBlockTag (s : Source) (i : Nat) : Bool :=
  let name := if s.holds (i + 1) '/' then i + 2 else i + 1
  let stop := s.skip Char.isAlphanum name
  let ended := s.atLineEnd stop || s.holds stop ' ' || s.holds stop '\t' || s.holds stop '>' ||
    s.reads stop ['/', '>']
  ended && blockElements.contains (s.lowerText name stop)

/-- Elements whose content is raw text: the block runs to their closing tag. -/
def rawElements : List String :=
  ["pre", "style", "script", "textarea"]

def markupCloser? (s : Source) (i : Nat) : Option (List Char) :=
  let opens (name : String) : Bool :=
    let stop := i + 1 + name.length
    s.lowerText (i + 1) stop == name && s[stop]?.all fun c => isAsciiBlank c || c == '>'
  match rawElements.find? opens with
  | some name => some ("</" ++ name ++ ">").toList
  | none =>
    if s.reads (i + 1) ['!', '-', '-'] then some ['-', '-', '>']
    else if s.holds (i + 1) '?' then some ['?', '>']
    else if s.reads (i + 1) "![CDATA[".toList then some [']', ']', '>']
    else if s.holds (i + 1) '!' && s[i + 2]?.any Char.isAlpha then some ['>']
    else none

def isLoneTag (s : Source) (i : Nat) : Bool :=
  ((s.tagEnd? (fun _ => none) i).bind s.blankRest?).isSome

end MarkdownLayout.Markdown.Source
