import MarkdownLayout.Proofs.SourceRanges

/-!
# Alternative text

An image keeps no children: when its tag closes, the source under whatever stood directly inside it becomes its
alternative text. Tags that open and close further in have come together to one element each by then, and give the
source from one of their ends to the other. So the images of a document and their texts can be read off the events
with nothing but a count of the open tags, and what happens inside an image shows nowhere else.
-/

namespace MarkdownLayout

theorem Tag.exists_image {tag : Tag} {range : Span} {parent : Option ElementKind}
    (h : (tag.element range parent).kind = .image) : ∃ destination, tag = .image destination := by
  unfold element at h
  repeat' split at h
  all_goals simp_all

namespace LocatedEvent

/-- The range of the element that an event stands for: text is narrowed to where it is spelled, and a hard break
takes no room. -/
def covered? (source : String) : LocatedEvent → Option Span
  | ⟨.closing, _⟩ => none
  | ⟨.text content, span⟩ => some ((Text.locate? source content span).getD span)
  | ⟨.hardBreak, span⟩ => some ⟨span.start, span.start⟩
  | ⟨_, span⟩ => some span

def imageDestination? : LocatedEvent → Option String
  | ⟨.opening (.image destination), _⟩ => some destination
  | _ => none

variable {source : String} {parent : Option ElementKind} {located : LocatedEvent} {element : Element}

/-- An opening tag covers the range of its element, and so does an event that adds one. -/
theorem covered?_of_opens (h : located.role source parent = .opens element) :
    located.covered? source = some element.range := by
  obtain ⟨tag, hevent, rfl⟩ := opening_of_role h
  obtain ⟨event, span⟩ := located
  cases hevent
  rw [tag.range_element]
  rfl

theorem covered?_of_adds (h : located.role source parent = .adds element) :
    located.covered? source = some element.range := by
  obtain ⟨event, span⟩ := located
  cases event with
  | opening | closing => cases h
  | text content =>
    rw [← EventRole.adds.inj h, covered?, Event.textElement]
    cases Text.locate? source content span <;> rfl
  | _ =>
    rw [← EventRole.adds.inj h]
    rfl

theorem imageDestination?_of_not_isOpening (h : located.isOpening = false) : located.imageDestination? = none := by
  obtain ⟨event, span⟩ := located
  cases event with
  | opening => cases h
  | _ => rfl

theorem imageDestination?_eq_none (h : located.role source parent = .opens element) (hkind : element.kind ≠ .image) :
    located.imageDestination? = none := by
  obtain ⟨tag, hevent, rfl⟩ := opening_of_role h
  obtain ⟨event, span⟩ := located
  cases hevent
  cases tag with
  | image destination => exact absurd rfl hkind
  | _ => rfl

/-- Only the tag of an image opens one. -/
theorem exists_image_of_opens (h : located.role source parent = .opens element) (hkind : element.kind = .image) :
    ∃ destination, located.imageDestination? = some destination ∧
      element = { kind := .image, range := located.span, href := some destination } := by
  obtain ⟨tag, hevent, rfl⟩ := opening_of_role h
  obtain ⟨destination, rfl⟩ := Tag.exists_image hkind
  obtain ⟨event, span⟩ := located
  cases hevent
  exact ⟨destination, rfl, rfl⟩

theorem isClosing_of_closing (h : located.event = .closing) : located.isOpening = false ∧ located.isClosing = true := by
  simp [isOpening, isClosing, h]

/-- Images come by their tags only. -/
theorem kind_ne_image_of_adds (h : located.role source parent = .adds element) : element.kind ≠ .image := by
  obtain ⟨event, span⟩ := located
  cases event with
  | opening | closing => cases h
  | text content =>
    rw [← EventRole.adds.inj h, Event.textElement]
    split <;> simp
  | _ =>
    rw [← EventRole.adds.inj h]
    simp [Event.codeElement]

end LocatedEvent

/-! ## Images by their tags -/

structure ImageTag where
  span : Span
  destination : String
  inside : List Span
  deriving DecidableEq, Repr

/-- The ranges of the elements directly under a tag, read from the events behind it. `depth` tags are open further
in, and the tag's own end ends the list. -/
def spansUnder (source : String) : Nat → List LocatedEvent → List Span
  | _, [] => []
  | depth, located :: rest =>
    let here := if depth = 0 then (located.covered? source).toList else []
    if located.isOpening then here ++ spansUnder source (depth + 1) rest
    else if located.isClosing then
      match depth with
      | 0 => []
      | depth + 1 => spansUnder source depth rest
    else here ++ spansUnder source depth rest

/-- The tags of images that lie in no other image, in their order. `depth` tags are open since the tag of an image;
with none there is no image around. -/
def imageTags (source : String) : Nat → List LocatedEvent → List ImageTag
  | _, [] => []
  | 0, located :: rest =>
    match located.imageDestination? with
    | some destination => ⟨located.span, destination, spansUnder source 0 rest⟩ :: imageTags source 1 rest
    | none => imageTags source 0 rest
  | depth + 1, located :: rest =>
    if located.isOpening then imageTags source (depth + 2) rest
    else if located.isClosing then imageTags source depth rest
    else imageTags source (depth + 1) rest

def ImageTag.text (tag : ImageTag) (source : String) : String :=
  String.join (tag.inside.map (Text.slice source))

namespace Element

mutual

def walk : Element → List Element
  | ⟨kind, range, children, href, alt, level⟩ => ⟨kind, range, children, href, alt, level⟩ :: walkAll children

def walkAll : List Element → List Element
  | [] => []
  | element :: rest => walk element ++ walkAll rest

end

def imagesIn (elements : List Element) : List Element :=
  (walkAll elements).filter (·.kind = .image)

/-- The element made of an image's tag. Its text is missing exactly when it would be empty. -/
structure Describes (source : String) (tag : ImageTag) (image : Element) : Prop where
  kind_eq : image.kind = .image
  range_eq : image.range = tag.span
  href_eq : image.href = some tag.destination
  children_eq : image.children = []
  alt_eq : image.alt.getD "" = tag.text source
  alt_eq_none_iff : image.alt = none ↔ tag.text source = ""
  inside_cuts : ∀ span ∈ tag.inside, Text.Cuts source span

variable {source : String} {element : Element}

theorem walk_eq (element : Element) : element.walk = element :: walkAll element.children := by
  obtain ⟨kind, range, children, href, alt, level⟩ := element
  rw [walk]

theorem imagesIn_cons (element : Element) (rest : List Element) :
    imagesIn (element :: rest) =
      (if element.kind = .image then [element] else []) ++ imagesIn element.children ++ imagesIn rest := by
  simp only [imagesIn, walkAll, walk_eq, List.filter_append, List.filter_cons, decide_eq_true_eq]
  split <;> rfl

/-- Finishing an image joins what its children cut out of the source. -/
theorem describes_finished {tag : ImageTag} {children : List Element}
    (hinside : tag.inside = children.map Element.range) (hcuts : ∀ child ∈ children, Text.Cuts source child.range) :
    Describes source tag
      (finished { kind := .image, range := tag.span, href := some tag.destination, children } source) := by
  have htext : tag.text source = String.join (children.map fun child => Text.slice source child.range) := by
    rw [ImageTag.text, hinside, List.map_map]
    rfl
  have hspans : ∀ span ∈ tag.inside, Text.Cuts source span := by
    rw [hinside]
    simpa using hcuts
  unfold finished
  rw [if_pos rfl, ← htext]
  refine ⟨rfl, rfl, rfl, rfl, ?_, ?_, hspans⟩
  · by_cases hempty : tag.text source = "" <;> simp [hempty]
  · simp

end Element

section Reading

variable {source : String} {parent : Option ElementKind} {events rest : List LocatedEvent} {elements : List Element}

/-- Further in than directly under a tag nothing is noted. -/
theorem Encodes.spansUnder_deep (h : Encodes source parent events elements) (depth : Nat) (rest : List LocatedEvent) :
    spansUnder source (depth + 1) (events ++ rest) = spansUnder source (depth + 1) rest := by
  induction h generalizing depth rest with
  | nil => rfl
  | add hrole hrest ih =>
    obtain ⟨hopening, hclosing⟩ := LocatedEvent.isInner_of_role hrole
    simp [spansUnder, hopening, hclosing, ih]
  | enclose hopens hinner hcloses hrest ihinner ihrest =>
    obtain ⟨hopening, -⟩ := LocatedEvent.isOpening_of_role hopens
    obtain ⟨hinside, hclosing⟩ := LocatedEvent.isClosing_of_closing hcloses
    simp [spansUnder, hopening, ihinner, hinside, hclosing, ihrest]

/-- Read from the events, the spans under a tag are the ranges of the elements that the events stand for. -/
theorem Encodes.spansUnder_eq (h : Encodes source parent events elements) (rest : List LocatedEvent) :
    spansUnder source 0 (events ++ rest) = elements.map Element.range ++ spansUnder source 0 rest := by
  induction h generalizing rest with
  | nil => rfl
  | add hrole hrest ih =>
    obtain ⟨hopening, hclosing⟩ := LocatedEvent.isInner_of_role hrole
    simp [spansUnder, hopening, hclosing, ih, LocatedEvent.covered?_of_adds hrole]
  | enclose hopens hinner hcloses hrest ihinner ihrest =>
    obtain ⟨hopening, -⟩ := LocatedEvent.isOpening_of_role hopens
    obtain ⟨hinside, hclosing⟩ := LocatedEvent.isClosing_of_closing hcloses
    simp [spansUnder, hopening, hinner.spansUnder_deep, hinside, hclosing, ihrest,
      LocatedEvent.covered?_of_opens hopens, Element.range_finished]

/-- Inside an image there are no tags of images to be found. -/
theorem Encodes.imageTags_deep (h : Encodes source parent events elements) (depth : Nat) (rest : List LocatedEvent) :
    imageTags source (depth + 1) (events ++ rest) = imageTags source (depth + 1) rest := by
  induction h generalizing depth rest with
  | nil => rfl
  | add hrole hrest ih =>
    obtain ⟨hopening, hclosing⟩ := LocatedEvent.isInner_of_role hrole
    simp [imageTags, hopening, hclosing, ih]
  | enclose hopens hinner hcloses hrest ihinner ihrest =>
    obtain ⟨hopening, -⟩ := LocatedEvent.isOpening_of_role hopens
    obtain ⟨hinside, hclosing⟩ := LocatedEvent.isClosing_of_closing hcloses
    simp [imageTags, hopening, ihinner, hinside, hclosing, ihrest]

/-- All ranges of the elements can be cut out if those of the events can. -/
theorem Encodes.cuts_range (h : Encodes source parent events elements)
    (hspans : ∀ located ∈ events, Text.Cuts source located.span) :
    ∀ element ∈ elements, Text.Cuts source element.range := by
  induction h with
  | nil => exact nofun
  | add hrole hrest ih =>
    rw [List.forall_mem_cons] at hspans ⊢
    exact ⟨(LocatedEvent.covers_of_role_adds hspans.1 hrole).range.cuts, ih hspans.2⟩
  | enclose hopens hinner hcloses hrest ihinner ihrest =>
    simp only [List.mem_cons, List.mem_append, or_imp, forall_and, forall_eq] at hspans
    rw [List.forall_mem_cons, Element.range_finished]
    exact ⟨(LocatedEvent.covers_of_role_opens hspans.1 hopens rfl).range.cuts, ihrest hspans.2.2.2⟩

/-- A closed stretch of events shows the images that its elements hold, and reading goes on behind it. -/
theorem Encodes.imageTags_eq (h : Encodes source parent events elements)
    (hspans : ∀ located ∈ events, Text.Cuts source located.span) :
    ∃ tags, List.Forall₂ (Element.Describes source) tags (Element.imagesIn elements) ∧
      ∀ rest, imageTags source 0 (events ++ rest) = tags ++ imageTags source 0 rest := by
  induction h with
  | nil => exact ⟨[], .nil, fun _ => rfl⟩
  | @add parent located element rest elements hrole hrest ih =>
    rw [List.forall_mem_cons] at hspans
    obtain ⟨tags, hdescribes, hread⟩ := ih hspans.2
    obtain ⟨hopening, -⟩ := LocatedEvent.isInner_of_role hrole
    have hdestination := LocatedEvent.imageDestination?_of_not_isOpening hopening
    have hnone : Element.imagesIn element.children = [] := by
      obtain ⟨-, hchildren⟩ | ⟨-, range, hchildren⟩ := LocatedEvent.children_of_role_adds hrole
      all_goals simp [hchildren, Element.imagesIn, Element.walkAll, Element.walk]
    refine ⟨tags, ?_, fun rest => ?_⟩
    · rw [Element.imagesIn_cons, if_neg (LocatedEvent.kind_ne_image_of_adds hrole), hnone]
      exact hdescribes
    · rw [List.cons_append, imageTags, hdestination]
      exact hread rest
  | @enclose parent opening closing element inner rest children elements hopens hinner hcloses hrest ihinner ihrest =>
    simp only [List.mem_cons, List.mem_append, or_imp, forall_and, forall_eq] at hspans
    obtain ⟨-, hinside, -, hbehind⟩ := hspans
    obtain ⟨tags, hdescribes, hread⟩ := ihrest hbehind
    obtain ⟨hcloseopening, hclosing⟩ := LocatedEvent.isClosing_of_closing hcloses
    by_cases himage : element.kind = .image
    · -- the tag of an image: what stands inside it is passed over, and gives the text
      obtain ⟨destination, hdestination, rfl⟩ := LocatedEvent.exists_image_of_opens hopens himage
      refine ⟨⟨opening.span, destination, children.map Element.range⟩ :: tags, ?_, fun rest => ?_⟩
      · have hfirst : Element.Describes source ⟨opening.span, destination, children.map Element.range⟩ _ :=
          Element.describes_finished rfl (hinner.cuts_range hinside)
        rw [Element.imagesIn_cons, if_pos hfirst.kind_eq, hfirst.children_eq]
        exact .cons hfirst hdescribes
      · rw [List.cons_append, imageTags, hdestination]
        simp [hinner.spansUnder_eq, hinner.imageTags_deep, spansUnder, imageTags, hcloseopening, hclosing, hread]
    · -- any other tag: its element holds the images that are read inside
      obtain ⟨within, hwithin, hreadinner⟩ := ihinner hinside
      have hdestination := LocatedEvent.imageDestination?_eq_none hopens himage
      have hclose := LocatedEvent.imageDestination?_of_not_isOpening hcloseopening
      refine ⟨within ++ tags, ?_, fun rest => ?_⟩
      · rw [Element.imagesIn_cons, Element.finished, if_neg himage, if_neg himage]
        exact List.rel_append hwithin hdescribes
      · rw [List.cons_append, imageTags, hdestination]
        simp [hreadinner, imageTags, hclose, hread]

end Reading

namespace Document

/-- The images of a document are those that its events show outside other images, in the same order. Each has the
source directly inside its tag as its text, and nothing inside. -/
theorem images_described {source : String} {limit : Nat} {events : List LocatedEvent} {document : Document}
    (hspans : ∀ located ∈ events, Text.Cuts source located.span)
    (h : ofEvents? source limit events = .ok document) :
    List.Forall₂ (Element.Describes source) (imageTags source 0 events) (Element.imagesIn document.elements) ∧
      ∀ image ∈ Element.walkAll document.elements, image.kind = .image →
        image.children = [] ∧ ∀ inner ∈ Element.walkAll image.children, inner.kind ≠ .image := by
  obtain ⟨tags, hdescribes, hread⟩ := (encodes_of_ofEvents? h).imageTags_eq hspans
  have htags : imageTags source 0 events = tags := by
    have hend := hread []
    rwa [List.append_nil, imageTags, List.append_nil] at hend
  have hchildless : ∀ image ∈ Element.imagesIn document.elements, image.children = [] :=
    ((List.forall₂_and_left _ _).1 (hdescribes.flip.imp fun _ _ hdescribed => ⟨hdescribed.children_eq, hdescribed⟩)).1
  refine ⟨htags ▸ hdescribes, fun image hmem hkind => ?_⟩
  have hnone : image.children = [] := hchildless image (List.mem_filter.2 ⟨hmem, by simpa using hkind⟩)
  refine ⟨hnone, fun inner hinner => ?_⟩
  rw [hnone, Element.walkAll] at hinner
  cases hinner

def nestedSource : String := "![é![b](v)`d`](u) ![](w)"

def nestedImages : List LocatedEvent := [
  ⟨.opening .paragraph, ⟨0, 25⟩⟩,
  ⟨.opening (.image "u"), ⟨0, 18⟩⟩, ⟨.text "é", ⟨2, 4⟩⟩,
  ⟨.opening (.image "v"), ⟨4, 11⟩⟩, ⟨.opening .emphasis, ⟨6, 7⟩⟩, ⟨.text "b", ⟨6, 7⟩⟩, ⟨.closing, ⟨6, 7⟩⟩,
  ⟨.closing, ⟨4, 11⟩⟩, ⟨.code "d", ⟨11, 14⟩⟩, ⟨.hardBreak, ⟨14, 15⟩⟩, ⟨.closing, ⟨0, 18⟩⟩,
  ⟨.text " ", ⟨18, 19⟩⟩, ⟨.opening (.image "w"), ⟨19, 25⟩⟩, ⟨.closing, ⟨19, 25⟩⟩, ⟨.closing, ⟨0, 25⟩⟩]

/-- An image inside another one is only part of its text. -/
theorem images_described_nestedImages : ∃ document, ofEvents? nestedSource 4 nestedImages = .ok document ∧
    (∀ located ∈ nestedImages, Text.Cuts nestedSource located.span) ∧
    (imageTags nestedSource 0 nestedImages).map (fun tag => (tag.destination, tag.text nestedSource)) =
      [("u", "é![b](v)`d`"), ("w", "")] ∧
    List.Forall₂ (Element.Describes nestedSource) (imageTags nestedSource 0 nestedImages)
      (Element.imagesIn document.elements) := by
  have hspans : ∀ located ∈ nestedImages, Text.Cuts nestedSource located.span := by decide
  obtain ⟨document, h⟩ : ∃ document, ofEvents? nestedSource 4 nestedImages = .ok document := ⟨_, rfl⟩
  exact ⟨document, h, hspans, by decide, (images_described hspans h).1⟩

end Document

end MarkdownLayout
