import MarkdownLayout.Document
import MarkdownLayout.Event

/-!
Assembling the element tree of a document out of its events. Elements wait, innermost first, until their tag
closes; the tags may not nest deeper than a limit.
-/

namespace MarkdownLayout

inductive AssemblyError where
  | nestingTooDeep (limit : Nat)
  | unbalanced (opened : Nat)
  | unexpectedEnd
  deriving DecidableEq, Repr, Inhabited

namespace AssemblyError

def message : AssemblyError → String
  | nestingTooDeep limit => "elements nested deeper than " ++ toString limit ++ " levels"
  | unbalanced opened => "event stream left " ++ toString opened ++ " element(s) open"
  | unexpectedEnd => "event stream closed an element that was never opened"

end AssemblyError

namespace Text

def locate? (source content : String) (span : Span) : Option Span :=
  (findBytes? content.toList (slice source span).toList).map fun offset =>
    ⟨span.start + offset, span.start + offset + content.utf8ByteSize⟩

def insideBackticks (source : String) (span : Span) : Span :=
  let cs := (slice source span).toList
  let start := span.start + byteLength (cs.takeWhile (· = '\x60'))
  let stop := span.start + byteLength (cs.reverse.dropWhile (· = '\x60'))
  ⟨start, max stop start⟩

end Text

namespace Tag

def mailScheme : String := "mailto:"

def isMail (destination : String) : Bool :=
  mailScheme.toList.isPrefixOf destination.toList

/-- The element that a tag opens inside `parent`. Cells directly in a table's header are header cells, and
links to a mail address get the scheme for mail if they lack it. -/
def element (tag : Tag) (range : Span) (parent : Option ElementKind) : Element :=
  match tag with
  | paragraph => { kind := .paragraph, range }
  | heading level => { kind := .header, range, level }
  | blockquote => { kind := .blockquote, range }
  | codeBlock => { kind := .codeBlock, range }
  | htmlBlock => { kind := .html, range }
  | list (some _) => { kind := .numberedList, range }
  | list none => { kind := .bulletedList, range }
  | item => { kind := .listItem, range }
  | emphasis => { kind := .em, range }
  | strong => { kind := .strong, range }
  | strikethrough => { kind := .strikethrough, range }
  | link destination isEmail =>
    if isMail destination then { kind := .mailTo, range, href := some destination }
    else if isEmail then { kind := .mailTo, range, href := some (mailScheme ++ destination) }
    else { kind := .link, range, href := some destination }
  | image destination => { kind := .image, range, href := some destination }
  | table => { kind := .table, range }
  | tableHead => { kind := .tableHeader, range }
  | tableRow => { kind := .tableRow, range }
  | tableCell =>
    if parent = some .tableHeader then { kind := .tableHeaderCell, range } else { kind := .tableRowCell, range }
  | other => { kind := .unknown, range }

end Tag

namespace Event

/-- Text that can be found in its place narrows to it; other text was spelled as an entity. -/
def textElement (source content : String) (range : Span) : Element :=
  match Text.locate? source content range with
  | some found => { kind := .plainRun, range := found }
  | none => { kind := .entity, range }

def codeElement (source content : String) (range : Span) : Element :=
  let inner := Text.insideBackticks source range
  let found := (Text.locate? source content inner).getD inner
  { kind := .codeSpan, range, children := [{ kind := .plainRun, range := found }] }

end Event

namespace Element

/-- A finished element. An image keeps the source text under its children as alternative text. -/
def finished (element : Element) (source : String) : Element :=
  if element.kind = .image then
    let alt := String.join (element.children.map fun child => Text.slice source child.range)
    { element with children := [], alt := if alt.isEmpty then none else some alt }
  else element

end Element

structure Assembly where
  source : String
  limit : Nat
  opened : List Element := []
  elements : List Element := []
  deriving Repr, Inhabited

namespace Assembly

def push (assembly : Assembly) (element : Element) : Assembly :=
  match assembly.opened with
  | parent :: rest =>
    { assembly with opened := { parent with children := parent.children ++ [element] } :: rest }
  | [] => { assembly with elements := assembly.elements ++ [element] }

def start (assembly : Assembly) (element : Element) : Except AssemblyError Assembly :=
  if assembly.limit ≤ assembly.opened.length then .error (.nestingTooDeep assembly.limit)
  else .ok { assembly with opened := element :: assembly.opened }

def close (assembly : Assembly) : Except AssemblyError Assembly :=
  match assembly.opened with
  | [] => .error .unexpectedEnd
  | element :: rest => .ok ({ assembly with opened := rest }.push (element.finished assembly.source))

def parentKind (assembly : Assembly) : Option ElementKind :=
  assembly.opened.head?.map Element.kind

def step (assembly : Assembly) : LocatedEvent → Except AssemblyError Assembly
  | ⟨.opening tag, span⟩ => assembly.start (tag.element span assembly.parentKind)
  | ⟨.closing, _⟩ => assembly.close
  | ⟨.text content, span⟩ => .ok (assembly.push (Event.textElement assembly.source content span))
  | ⟨.code content, span⟩ => .ok (assembly.push (Event.codeElement assembly.source content span))
  | ⟨.markup, span⟩ => .ok (assembly.push { kind := .html, range := span })
  | ⟨.softBreak, span⟩ => .ok (assembly.push { kind := .plainRun, range := span })
  | ⟨.hardBreak, span⟩ => .ok (assembly.push { kind := .lineBreak, range := ⟨span.start, span.start⟩ })
  | ⟨.rule, span⟩ => .ok (assembly.push { kind := .horizontalRule, range := span })
  | ⟨.other, span⟩ => .ok (assembly.push { kind := .unknown, range := span })

def run (assembly : Assembly) : List LocatedEvent → Except AssemblyError Assembly
  | [] => .ok assembly
  | event :: rest =>
    match assembly.step event with
    | .ok next => next.run rest
    | .error e => .error e

def finish (assembly : Assembly) : Except AssemblyError Document :=
  if assembly.opened.isEmpty then .ok { source := assembly.source, elements := assembly.elements }
  else .error (.unbalanced assembly.opened.length)

end Assembly

namespace Document

def ofEvents? (source : String) (limit : Nat) (events : List LocatedEvent) : Except AssemblyError Document :=
  match Assembly.run { source, limit } events with
  | .ok assembly => assembly.finish
  | .error e => .error e

end Document

end MarkdownLayout
