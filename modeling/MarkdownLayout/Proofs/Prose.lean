import MarkdownLayout.Proofs.EventTree
import MarkdownLayout.Proofs.InlineText
import MarkdownLayout.Proofs.Slices

/-!
# Prose keeps its wording

An assembly stores places in the source, and rendering reads the source again at those places. For a stream of blocks
that hold text, code, line breaks and inline tags around them, the two agree: every event hands on the text that it
was decoded to, however deep it stands, and each block shows the words of its own events.
-/

namespace MarkdownLayout

namespace Tag

def proseFormat? (profile : Profile) : Tag → Option BlockFormat
  | paragraph => some profile.paragraph
  | heading level => some (profile.header level)
  | blockquote => some profile.quote
  | codeBlock => some profile.codeBlock
  | _ => none

def holdsProse : Tag → Bool
  | paragraph | heading _ | blockquote | codeBlock => true
  | _ => false

def isInline : Tag → Bool
  | emphasis | strong | strikethrough | link .. => true
  | _ => false

theorem element_of_isInline {tag : Tag} (h : tag.isInline = true) (range : Span) (parent : Option ElementKind) :
    (tag.element range parent).kind.isInline = true := by
  cases tag with
  | link destination isEmail =>
    unfold element
    dsimp only
    split_ifs <;> rfl
  | emphasis | strong | strikethrough => rfl
  | _ => cases h

/-- A block tag for prose opens an element with its format. -/
theorem element_of_holdsProse {tag : Tag} (h : tag.holdsProse = true) (range : Span) (parent : Option ElementKind)
    (profile : Profile) : profile.blockFormat? (tag.element range parent) = tag.proseFormat? profile := by
  cases tag with
  | paragraph | heading | blockquote | codeBlock => rfl
  | _ => cases h

theorem kind_of_holdsProse {tag : Tag} (h : tag.holdsProse = true) (range : Span) (parent : Option ElementKind) :
    (tag.element range parent).kind.isBoundary = true ∧ (tag.element range parent).kind ≠ .listItem := by
  cases tag with
  | paragraph | heading | blockquote | codeBlock => exact ⟨rfl, nofun⟩
  | _ => cases h

end Tag

namespace LocatedEvent

def wording (source : String) : LocatedEvent → String
  | ⟨.text content, _⟩ => content
  | ⟨.code content, _⟩ => content
  | ⟨.softBreak, span⟩ => Text.slice source span
  | ⟨.hardBreak, _⟩ => "\n"
  | _ => ""

/-- The source spells what the event was decoded to, so that the place of an event is enough to know its wording. -/
inductive Legible (source : String) : LocatedEvent → Prop
  | text {content : String} {span : Span} (hcontent : content ≠ "")
      (hspelled : content.toList <:+: (Text.slice source span).toList) : Legible source ⟨.text content, span⟩
  | code {content : String} {span : Span} (hcontent : content ≠ "")
      (hspelled : content.toList <:+: (Text.withoutBackticks (Text.slice source span)).toList) :
      Legible source ⟨.code content, span⟩
  | softBreak {span : Span} (hspan : span.isEmpty = false) : Legible source ⟨.softBreak, span⟩
  | hardBreak (span : Span) : Legible source ⟨.hardBreak, span⟩

end LocatedEvent

inductive Prose (source : String) : List LocatedEvent → Prop
  | nil : Prose source []
  | word {located : LocatedEvent} {rest : List LocatedEvent} (hlegible : located.Legible source)
      (hrest : Prose source rest) : Prose source (located :: rest)
  | enclose {tag : Tag} {span : Span} {closing : LocatedEvent} {inner rest : List LocatedEvent}
      (htag : tag.isInline = true) (hinner : Prose source inner) (hcloses : closing.event = .closing)
      (hrest : Prose source rest) : Prose source (⟨.opening tag, span⟩ :: (inner ++ closing :: rest))

def wordingOf (source : String) (events : List LocatedEvent) : String :=
  String.join (events.map (LocatedEvent.wording source))

section Wording

variable {source : String} {located : LocatedEvent} {front back rest : List LocatedEvent}

theorem wordingOf_cons : wordingOf source (located :: rest) = located.wording source ++ wordingOf source rest := by
  rw [wordingOf, List.map_cons, String.join_cons, wordingOf]

theorem wordingOf_enclosed {opening closing : LocatedEvent} (hopening : opening.wording source = "")
    (hcloses : closing.event = .closing) (inner : List LocatedEvent) :
    wordingOf source (opening :: (inner ++ closing :: rest)) = wordingOf source inner ++ wordingOf source rest := by
  obtain ⟨event, span⟩ := closing
  cases hcloses
  rw [wordingOf_cons, hopening, String.empty_append, wordingOf, List.map_append, String.join_append, List.map_cons,
    String.join_cons, wordingOf, wordingOf]
  exact congrArg _ String.empty_append

end Wording

/-- A walk through the elements adds `text` to the waiting text, and nothing else. -/
structure Builder.Spells (builder : Builder) (elements : List Element) (text : String) : Prop where
  handsOn : builder.handsOnBelow elements = true
  printed : builder.printedBelow elements = text

namespace Builder.Spells

variable {builder : Builder} {element : Element} {elements : List Element} {text first second : String}

theorem nil : builder.Spells [] "" :=
  ⟨rfl, rfl⟩

/-- Elements side by side spell their texts one after the other. -/
theorem cons (h : builder.Spells [element] first) (h' : builder.Spells elements second) :
    builder.Spells (element :: elements) (first ++ second) where
  handsOn := by
    have hfirst := h.handsOn
    rw [Builder.handsOnBelow, Builder.handsOnBelow, Bool.and_true] at hfirst
    rw [Builder.handsOnBelow, hfirst, h'.handsOn, Bool.true_and]
  printed := by
    have hfirst := h.printed
    rw [Builder.printedBelow, Builder.printedBelow, String.append_empty] at hfirst
    rw [Builder.printedBelow, hfirst, h'.printed]

theorem leaf (builder : Builder) (element : Element) (h : element.kind.isLeaf = true) :
    builder.Spells [element] (builder.leafText element) where
  handsOn := by simp [Builder.handsOnBelow, h]
  printed := by simp [Builder.printedBelow, h]

/-- An inline element spells what is inside it. -/
theorem enclosed (hinline : element.kind.isInline = true) (h : builder.Spells element.children text) :
    builder.Spells [element] text := by
  obtain ⟨kind, range, children, href, alt, level⟩ := element
  have hvisited : ¬builder.passesOver ⟨kind, range, children, href, alt, level⟩ = true :=
    Builder.not_passesOver_of_opening (Builder.opening_of_isInline {} hinline)
  have hleaf : ¬kind.isLeaf = true := by
    cases kind <;> simp_all [ElementKind.isInline, ElementKind.isLeaf]
  constructor
  · simp [Builder.handsOnBelow, Builder.handsOn, hinline, h.handsOn]
  · rw [Builder.printedBelow, if_neg hleaf, Builder.printed, if_neg hvisited, Builder.printedBelow,
      String.append_empty, h.printed]

end Builder.Spells

section Parsing

variable {source : String} {builder : Builder}

theorem Builder.spells_located {found : Span} {content : String} (hsource : builder.document.source = source)
    (hfound : found.isEmpty = false) (hslice : Text.slice source found = content) :
    builder.Spells [{ kind := .plainRun, range := found }] content := by
  have hspells := Spells.leaf builder { kind := .plainRun, range := found } rfl
  rw [leafText, hfound, if_neg Bool.false_ne_true, Document.text, hsource, hslice] at hspells
  exact hspells

/-- A legible event comes back from its place in the source. -/
theorem LocatedEvent.Legible.exists_element {located : LocatedEvent} (h : located.Legible source)
    (parent : Option ElementKind) : ∃ element, located.role source parent = .adds element ∧
      ∀ builder : Builder, builder.document.source = source → builder.Spells [element] (located.wording source) := by
  cases h with
  | @text content span hcontent hspelled =>
    obtain ⟨found, hfound, hsome, hslice⟩ := Text.exists_locate?_of_infix hcontent hspelled
    refine ⟨{ kind := .plainRun, range := found }, ?_, fun builder hsource =>
      builder.spells_located hsource hsome hslice⟩
    rw [role, Event.textElement, hfound]
  | @code content span hcontent hspelled =>
    obtain ⟨found, hfound, hsome, hslice⟩ := Text.exists_locate?_insideBackticks hcontent hspelled
    refine ⟨{ kind := .codeSpan, range := span, children := [{ kind := .plainRun, range := found }] }, ?_,
      fun builder hsource => .enclosed rfl (builder.spells_located hsource hsome hslice)⟩
    rw [role, Event.codeElement, hfound, Option.getD_some]
  | @softBreak span hspan =>
    exact ⟨_, rfl, fun builder hsource => builder.spells_located hsource hspan rfl⟩
  | hardBreak span =>
    refine ⟨_, rfl, fun builder _ => ?_⟩
    have hspells := Builder.Spells.leaf builder { kind := .lineBreak, range := ⟨span.start, span.start⟩ } rfl
    rw [Builder.leafText, if_pos (by simp [Span.isEmpty])] at hspells
    exact hspells

/-- Prose stands for elements that spell its wording, under any profile. -/
theorem Prose.exists_elements {events : List LocatedEvent} (h : Prose source events) (parent : Option ElementKind) :
    ∃ elements, Encodes source parent events elements ∧
      ∀ builder : Builder, builder.document.source = source → builder.Spells elements (wordingOf source events) := by
  induction h generalizing parent with
  | nil => exact ⟨[], .nil parent, fun _ _ => .nil⟩
  | word hlegible hrest ih =>
    obtain ⟨element, hrole, hfirst⟩ := hlegible.exists_element parent
    obtain ⟨elements, hencodes, hspells⟩ := ih parent
    refine ⟨element :: elements, .add hrole hencodes, fun builder hsource => ?_⟩
    rw [wordingOf_cons]
    exact (hfirst builder hsource).cons (hspells builder hsource)
  | @enclose tag span closing inner rest htag hinner hcloses hrest ihinner ihrest =>
    have hopens : LocatedEvent.role source parent ⟨.opening tag, span⟩ = .opens (tag.element span parent) := rfl
    have hinline := Tag.element_of_isInline htag span parent
    obtain ⟨children, hinside, hfirst⟩ := ihinner (some (tag.element span parent).kind)
    obtain ⟨elements, hencodes, hspells⟩ := ihrest parent
    refine ⟨_, .enclose hopens hinside hcloses hencodes, fun builder hsource => ?_⟩
    have himage : (tag.element span parent).kind ≠ .image := ElementKind.ne_of_isInline hinline rfl
    rw [wordingOf_enclosed rfl hcloses, Element.finished, if_neg himage]
    exact Builder.Spells.cons (.enclosed hinline (hfirst builder hsource)) (hspells builder hsource)

end Parsing

structure ProseBlock (source : String) where
  tag : Tag
  span : Span
  inner : List LocatedEvent
  closing : LocatedEvent
  holdsProse : tag.holdsProse = true
  prose : Prose source inner
  closes : closing.event = .closing

namespace ProseBlock

variable {source : String}

def events (block : ProseBlock source) : List LocatedEvent :=
  ⟨.opening block.tag, block.span⟩ :: (block.inner ++ [block.closing])

def text (block : ProseBlock source) : String :=
  Text.withoutFinalBreak (wordingOf source block.inner)

/-- The node shows the text of the block and nothing else, inside the block's own style. -/
def ShownAs (profile : Profile) (block : ProseBlock source) (node : Node) : Prop :=
  ∃ shown : TextBlock, shown.text = block.text ∧
    decorate (some (.text shown)) ((block.tag.proseFormat? profile).map BlockFormat.block) = some node

structure StandsAs (block : ProseBlock source) (element : Element) : Prop where
  isBoundary : element.kind.isBoundary = true
  ne_listItem : element.kind ≠ .listItem
  format_eq : ∀ profile : Profile, profile.blockStyle? element =
    (block.tag.proseFormat? profile).map BlockFormat.block
  spells : ∀ builder : Builder, builder.document.source = source →
    builder.Spells element.children (wordingOf source block.inner)

/-- A block of prose stands for one element. -/
theorem exists_element (block : ProseBlock source) :
    ∃ element, Encodes source none block.events [element] ∧ block.StandsAs element := by
  obtain ⟨tag, span, inner, closing, hblock, hprose, hcloses⟩ := block
  obtain ⟨hboundary, hitem⟩ := Tag.kind_of_holdsProse hblock span none
  obtain ⟨children, hinside, hspells⟩ := hprose.exists_elements (some (tag.element span none).kind)
  have himage : (tag.element span none).kind ≠ .image := ElementKind.ne_of_isBoundary hboundary rfl
  refine ⟨{ tag.element span none with children := children }, ?_, hboundary, hitem, ?_, hspells⟩
  · have hopens : LocatedEvent.role source none ⟨.opening tag, span⟩ = .opens (tag.element span none) := rfl
    have hencodes := Encodes.enclose hopens hinside hcloses (.nil none)
    rw [Element.finished, if_neg himage] at hencodes
    exact hencodes
  · intro profile
    have hformat := Tag.element_of_holdsProse hblock span none profile
    rw [← hformat]
    unfold Profile.blockStyle?
    split
    · next hkind => exact absurd hkind himage
    · rfl

/-- Blocks in a row stand for as many elements. -/
theorem exists_elements (blocks : List (ProseBlock source)) :
    ∃ elements, Encodes source none (blocks.flatMap events) elements ∧ List.Forall₂ StandsAs blocks elements := by
  induction blocks with
  | nil => exact ⟨[], .nil none, .nil⟩
  | cons block rest ih =>
    obtain ⟨element, hfirst, hstands⟩ := block.exists_element
    obtain ⟨elements, hrest, hall⟩ := ih
    exact ⟨element :: elements, hfirst.append hrest, .cons hstands hall⟩

end ProseBlock

namespace Builder

variable {source : String}

/-- The blocks are shown one after the other, and leave nothing behind. -/
theorem renderElements_prose (builder : Builder) {blocks : List (ProseBlock source)} {elements : List Element}
    (hsource : builder.document.source = source) (h : List.Forall₂ ProseBlock.StandsAs blocks elements)
    (index : Nat) (nodes : List Node) (images : List PendingImage) :
    ∃ shown, builder.renderElements elements index nodes ⟨.empty, images⟩ = (nodes ++ shown, ⟨.empty, images⟩) ∧
      List.Forall₂ (ProseBlock.ShownAs builder.profile) (blocks.filter (·.text ≠ "")) shown := by
  induction h generalizing index nodes with
  | nil => exact ⟨[], rfl, .nil⟩
  | @cons block element blocks elements hstands hrest ih =>
    have hspells := hstands.spells builder hsource
    have hhtml : element.kind ≠ .html := ElementKind.ne_of_isBoundary hstands.isBoundary rfl
    obtain ⟨hafter, hshown⟩ := build_block hstands.isBoundary hstands.ne_listItem hspells.handsOn ⟨none, index⟩ none
      images
    have htext : Text.withoutFinalBreak (wordingOf source block.inner) = block.text := rfl
    rw [hspells.printed, hstands.format_eq, htext] at hshown
    rw [renderElements_cons, if_neg hhtml]
    dsimp only
    rw [hafter]
    by_cases hempty : block.text = ""
    · rw [if_pos hempty] at hshown
      obtain ⟨shown, hrendered, hall⟩ := ih (index + 1) nodes
      rw [hshown, Option.elim_none, List.filter_cons_of_neg (by simpa using hempty)]
      exact ⟨shown, hrendered, hall⟩
    · rw [if_neg hempty] at hshown
      obtain ⟨shown, hwording, hnode⟩ := hshown
      obtain ⟨node, hdecorated⟩ : ∃ node, decorate (some (.text shown))
          ((block.tag.proseFormat? builder.profile).map BlockFormat.block) = some node := by
        cases block.tag.proseFormat? builder.profile <;> exact ⟨_, rfl⟩
      obtain ⟨more, hrendered, hall⟩ := ih (index + 1) (nodes ++ [node])
      rw [hnode, hdecorated, Option.elim_some, List.filter_cons_of_pos (by simpa using hempty), Progress.push_empty]
      refine ⟨node :: more, ?_, .cons ⟨shown, hwording, hdecorated⟩ hall⟩
      rw [hrendered, List.append_assoc, List.singleton_append]

end Builder

namespace Document

/-- Prose is shown in its own words: one text node for every block that has any, in the order of the blocks. -/
theorem render_prose {source : String} {limit : Nat} {blocks : List (ProseBlock source)} {document : Document}
    (h : ofEvents? source limit (blocks.flatMap ProseBlock.events) = .ok document) (profile : Profile)
    (base : Option Url) :
    List.Forall₂ (ProseBlock.ShownAs profile) (blocks.filter (·.text ≠ "")) (document.render profile base).nodes ∧
      (document.render profile base).images = [] := by
  obtain ⟨elements, hencodes, hstands⟩ := ProseBlock.exists_elements blocks
  rw [elements_eq_of_encodes h hencodes]
  obtain ⟨shown, hrendered, hall⟩ := Builder.renderElements_prose
    { document := { source, elements }, profile, base } rfl hstands 0 [] []
  rw [List.nil_append] at hrendered
  have hnodes : (render { source, elements } profile base).nodes = shown := congrArg Prod.fst hrendered
  have himages : (render { source, elements } profile base).images = [] :=
    congrArg (fun rendered => rendered.2.images) hrendered
  rw [hnodes]
  exact ⟨hall, himages⟩

end Document

def note : String := "Go *on `x`*  \nnow\n\n```\n\n```\n\na\nb"

def noteHeading : ProseBlock note where
  tag := .heading 2
  span := ⟨0, 18⟩
  inner := [
    ⟨.text "Go ", ⟨0, 3⟩⟩, ⟨.opening .emphasis, ⟨3, 11⟩⟩, ⟨.text "on ", ⟨4, 7⟩⟩, ⟨.code "x", ⟨7, 10⟩⟩,
    ⟨.closing, ⟨3, 11⟩⟩, ⟨.hardBreak, ⟨11, 14⟩⟩, ⟨.text "now", ⟨14, 17⟩⟩]
  closing := ⟨.closing, ⟨0, 18⟩⟩
  holdsProse := rfl
  prose :=
    .word (.text (by decide) (by decide)) <|
      .enclose rfl (.word (.text (by decide) (by decide)) <| .word (.code (by decide) (by decide)) .nil) rfl <|
        .word (.hardBreak _) <| .word (.text (by decide) (by decide)) .nil
  closes := rfl

def noteCode : ProseBlock note where
  tag := .codeBlock
  span := ⟨19, 27⟩
  inner := [⟨.text "\n", ⟨23, 24⟩⟩]
  closing := ⟨.closing, ⟨19, 27⟩⟩
  holdsProse := rfl
  prose := .word (.text (by decide) (by decide)) .nil
  closes := rfl

def noteParagraph : ProseBlock note where
  tag := .paragraph
  span := ⟨29, 32⟩
  inner := [⟨.text "a", ⟨29, 30⟩⟩, ⟨.softBreak, ⟨30, 31⟩⟩, ⟨.text "b", ⟨31, 32⟩⟩]
  closing := ⟨.closing, ⟨29, 32⟩⟩
  holdsProse := rfl
  prose :=
    .word (.text (by decide) (by decide)) <| .word (.softBreak rfl) <| .word (.text (by decide) (by decide)) .nil
  closes := rfl

/-- Of a heading, a code block with only a line break and a paragraph, two are shown. -/
theorem Document.render_note : ∃ document,
    ofEvents? note 2 ([noteHeading, noteCode, noteParagraph].flatMap ProseBlock.events) = .ok document ∧
      noteHeading.text = "Go on x\nnow" ∧ noteCode.text = "" ∧ noteParagraph.text = "a\nb" ∧
      List.Forall₂ (ProseBlock.ShownAs .standard) [noteHeading, noteParagraph]
        (document.render .standard none).nodes ∧
      (document.render .standard none).images = [] := by
  obtain ⟨document, h⟩ : ∃ document,
      ofEvents? note 2 ([noteHeading, noteCode, noteParagraph].flatMap ProseBlock.events) = .ok document := ⟨_, rfl⟩
  have hheading : noteHeading.text = "Go on x\nnow" := by decide
  have hcode : noteCode.text = "" := by decide
  have hparagraph : noteParagraph.text = "a\nb" := by decide
  obtain ⟨hshown, himages⟩ := render_prose h .standard none
  rw [List.filter_cons_of_pos (by simp [hheading]), List.filter_cons_of_neg (by simp [hcode]),
    List.filter_cons_of_pos (by simp [hparagraph]), List.filter_nil] at hshown
  exact ⟨document, h, hheading, hcode, hparagraph, hshown, himages⟩

end MarkdownLayout
