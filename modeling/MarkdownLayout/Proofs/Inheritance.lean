import MarkdownLayout.Proofs.Provenance

/-!
# What text inherits

On the way down to a leaf every element lays its style over the attributes that it was given. The outcome can be read
off the elements around the leaf: each part comes from the innermost element that sets it. A recorded walk builds the
same nodes as the walk itself and notes for each leaf the waiting text before and after it. Between the two stands the
text of the leaf with these attributes, whatever stands beside a leaf, whatever text waits, and wherever it is shown.
-/

namespace MarkdownLayout

namespace ElementKind

def isLink : ElementKind → Bool
  | link | mailTo => true
  | _ => false

end ElementKind

def innermost {α : Type} (f : Element → Option α) (elements : List Element) : Option α :=
  (elements.filterMap f).getLast?

theorem innermost_concat {α : Type} (f : Element → Option α) (elements : List Element) (element : Element) :
    innermost f (elements ++ [element]) = (f element).or (innermost f elements) := by
  unfold innermost
  rw [List.filterMap_append, List.getLast?_append, List.filterMap_cons, List.filterMap_nil]
  cases f element <;> rfl

theorem innermost_eq_none_iff {α : Type} {f : Element → Option α} {elements : List Element} :
    innermost f elements = none ↔ ∀ element ∈ elements, f element = none := by
  rw [innermost, List.getLast?_eq_none_iff, List.filterMap_eq_nil_iff]

namespace Profile

def color? (profile : Profile) (element : Element) : Option Color :=
  (profile.textStyle? element).bind TextStyle.color

def background? (profile : Profile) (element : Element) : Option Color :=
  (profile.textStyle? element).bind TextStyle.background

def strikes (profile : Profile) (element : Element) : Bool :=
  (profile.textStyle? element).any TextStyle.strikethrough || element.kind = .strikethrough

/-- The destination that an element gives to its text. A link without one gives it nothing to go to. -/
def destination? (element : Element) : Option (Option String) :=
  if element.kind.isLink then some element.href else none

def attributesWithin (profile : Profile) (elements : List Element) : Option TextAttributes :=
  (innermost profile.textStyle? elements).map fun style =>
    { font := style.font
      color := innermost profile.color? elements
      background := innermost profile.background? elements
      strikethrough := elements.any profile.strikes
      link := (innermost destination? elements).join }

variable {profile : Profile} {elements : List Element} {element : Element}

/-- What strikes text through or links it has a style of its own. -/
theorem unmarked_of_textStyle? (h : profile.textStyle? element = none) :
    profile.color? element = none ∧ profile.background? element = none ∧ profile.strikes element = false ∧
      destination? element = none := by
  refine ⟨by rw [color?, h, Option.bind_none], by rw [background?, h, Option.bind_none], ?_, ?_⟩
  · rw [strikes, h]
    unfold textStyle? at h
    cases hkind : element.kind <;> simp_all
  · unfold destination?
    unfold textStyle? at h
    cases hkind : element.kind <;> simp_all [ElementKind.isLink]

theorem unmarked_of_innermost (h : innermost profile.textStyle? elements = none) :
    innermost profile.color? elements = none ∧ innermost profile.background? elements = none ∧
      elements.any profile.strikes = false ∧ innermost destination? elements = none := by
  have hunmarked := fun element hmem => unmarked_of_textStyle? (innermost_eq_none_iff.1 h element hmem)
  refine ⟨innermost_eq_none_iff.2 fun element hmem => (hunmarked element hmem).1,
    innermost_eq_none_iff.2 fun element hmem => (hunmarked element hmem).2.1, ?_,
    innermost_eq_none_iff.2 fun element hmem => (hunmarked element hmem).2.2.2⟩
  rw [List.any_eq_false]
  exact fun element hmem => by simp [(hunmarked element hmem).2.2.1]

end Profile

/-- A style over inherited attributes, part by part. -/
theorem TextAttributes.overlay_eq (inherited : Option TextAttributes) (style : TextStyle) :
    overlay inherited style =
      { font := style.font
        color := style.color.or (inherited.bind color)
        background := style.background.or (inherited.bind background)
        strikethrough := inherited.any strikethrough || style.strikethrough
        link := inherited.bind link } := by
  cases inherited with
  | none => simp [overlay, ofStyle]
  | some base => simp [overlay, Bool.or_comm]

namespace Builder

variable {builder : Builder}

/-- Without a style of its own an element hands on what it inherits. -/
theorem attributes_of_textStyle? {element : Element} (h : builder.profile.textStyle? element = none)
    (inherited : Option TextAttributes) : builder.attributes element inherited = inherited := by
  unfold attributes
  rw [h]
  unfold Profile.textStyle? at h
  cases hkind : element.kind <;> simp_all

/-- Each part of the attributes comes from the style, or is inherited. -/
theorem attributes_eq {element : Element} {style : TextStyle} (h : builder.profile.textStyle? element = some style)
    (inherited : Option TextAttributes) :
    builder.attributes element inherited = some
      { font := style.font
        color := (builder.profile.color? element).or (inherited.bind TextAttributes.color)
        background := (builder.profile.background? element).or (inherited.bind TextAttributes.background)
        strikethrough := inherited.any TextAttributes.strikethrough || builder.profile.strikes element
        link := (Profile.destination? element).getD (inherited.bind TextAttributes.link) } := by
  unfold attributes Profile.color? Profile.background? Profile.strikes Profile.destination?
  rw [h]
  dsimp only
  rw [TextAttributes.overlay_eq]
  split
  · next hkind => simp [hkind, ElementKind.isLink]
  · next hkind => simp [hkind, ElementKind.isLink]
  · next hkind => simp [hkind, ElementKind.isLink]
  · next hstrike hlink hmail =>
    have hstruck : element.kind ≠ .strikethrough := hstrike
    have hlinked : element.kind.isLink = false := by
      unfold ElementKind.isLink
      split
      · next hkind => exact absurd hkind hlink
      · next hkind => exact absurd hkind hmail
      · rfl
    simp [hstruck, hlinked]

/-- One element more around the text: its style comes on top. -/
theorem attributes_attributesWithin (builder : Builder) (elements : List Element) (element : Element) :
    builder.attributes element (builder.profile.attributesWithin elements) =
      builder.profile.attributesWithin (elements ++ [element]) := by
  unfold Profile.attributesWithin
  simp only [innermost_concat, List.any_append, List.any_cons, List.any_nil, Bool.or_false]
  cases hstyle : builder.profile.textStyle? element with
  | none =>
    obtain ⟨hcolor, hbackground, hstrikes, hlink⟩ := Profile.unmarked_of_textStyle? hstyle
    rw [attributes_of_textStyle? hstyle, hcolor, hbackground, hstrikes, hlink]
    simp only [Option.none_or, Bool.or_false]
  | some style =>
    rw [attributes_eq hstyle]
    cases hinner : innermost builder.profile.textStyle? elements with
    | none =>
      obtain ⟨hcolor, hbackground, hstrikes, hlink⟩ := Profile.unmarked_of_innermost hinner
      rw [hcolor, hbackground, hstrikes, hlink]
      cases Profile.destination? element <;> simp
    | some inner =>
      cases Profile.destination? element <;> simp

end Builder

/-! ## The recorded walk -/

/-- What a walk does at a leaf that is no line break: the waiting text before the leaf and after it, and the elements
around the leaf, the outermost first. -/
structure Addition where
  around : List Element
  leaf : Element
  before : TextBuffer
  after : TextBuffer

def Addition.place (added : Addition) : List Element × Element :=
  (added.around, added.leaf)

structure Recording where
  progress : Progress := {}
  additions : List Addition := []

namespace Recording

def note (recording : Recording) (around : List Element) (leaf : Element) (progress : Progress) : Recording where
  progress := progress
  additions := recording.additions ++ [⟨around, leaf, recording.progress.buffer, progress.buffer⟩]

def erase {α : Type} (recorded : α × Recording) : α × Progress :=
  (recorded.1, recorded.2.progress)

end Recording

namespace Builder

def recordLeaf (builder : Builder) (around : List Element) (leaf : Element) (attributes : Option TextAttributes)
    (recording : Recording) : Recording :=
  let progress := builder.appendLeaf leaf attributes recording.progress
  if leaf.range.isEmpty then { recording with progress } else recording.note around leaf progress

mutual

def recordBuild (builder : Builder) :
    Element → Position → List Element → Option TextAttributes → Recording → Option Node × Recording
  | ⟨kind, range, children, href, alt, level⟩, position, around, inherited, recording =>
    let element : Element := ⟨kind, range, children, href, alt, level⟩
    match builder.opening element recording.progress with
    | none => (none, recording)
    | some (nodes, progress) =>
      let attributes := builder.attributes element inherited
      let (nodes, recording) :=
        recordChildren builder kind (around ++ [element]) attributes children 0 nodes { recording with progress }
      let (nodes, progress) := flushBoundary kind nodes recording.progress
      (builder.closing element position attributes nodes, { recording with progress })

def recordChildren (builder : Builder) (parent : ElementKind) (around : List Element)
    (attributes : Option TextAttributes) : List Element → Nat → List Node → Recording → List Node × Recording
  | [], _, nodes, recording => (nodes, recording)
  | child :: rest, index, nodes, recording =>
    if child.kind.isLeaf then
      recordChildren builder parent around attributes rest (index + 1) nodes
        (builder.recordLeaf around child attributes recording)
    else
      match recordBuild builder child ⟨some parent, index⟩ around attributes recording with
      | (none, recording) => recordChildren builder parent around attributes rest (index + 1) nodes recording
      | (some node, recording) =>
        let (nodes, progress) := recording.progress.push nodes node
        recordChildren builder parent around attributes rest (index + 1) nodes { recording with progress }

end

def recordElements (builder : Builder) : List Element → Nat → List Node → Recording → List Node × Recording
  | [], _, nodes, recording =>
    let (nodes, progress) := recording.progress.flushInto nodes
    (nodes, { recording with progress })
  | element :: rest, index, nodes, recording =>
    if element.kind = .html then
      let buffer := recording.progress.buffer.append (builder.document.text element) none
      recordElements builder rest (index + 1) nodes
        (recording.note [] element { recording.progress with buffer })
    else
      match builder.recordBuild element ⟨none, index⟩ [] none recording with
      | (none, recording) => recordElements builder rest (index + 1) nodes recording
      | (some node, recording) =>
        let (nodes, progress) := recording.progress.push nodes node
        recordElements builder rest (index + 1) nodes { recording with progress }

variable {builder : Builder}

theorem progress_recordLeaf (around : List Element) (leaf : Element) (attributes : Option TextAttributes)
    (recording : Recording) : (builder.recordLeaf around leaf attributes recording).progress =
      builder.appendLeaf leaf attributes recording.progress := by
  unfold recordLeaf
  split <;> rfl

theorem recordChildren_cons (parent : ElementKind) (around : List Element) (attributes : Option TextAttributes)
    (child : Element) (rest : List Element) (index : Nat) (nodes : List Node) (recording : Recording) :
    builder.recordChildren parent around attributes (child :: rest) index nodes recording =
      if child.kind.isLeaf then
        builder.recordChildren parent around attributes rest (index + 1) nodes
          (builder.recordLeaf around child attributes recording)
      else
        let built := builder.recordBuild child ⟨some parent, index⟩ around attributes recording
        let next := built.1.elim (nodes, built.2.progress) (built.2.progress.push nodes)
        builder.recordChildren parent around attributes rest (index + 1) next.1
          { built.2 with progress := next.2 } := by
  rw [recordChildren]
  split
  · rfl
  · rcases builder.recordBuild child ⟨some parent, index⟩ around attributes recording with ⟨_ | node, after⟩ <;> rfl

theorem recordElements_cons (element : Element) (rest : List Element) (index : Nat) (nodes : List Node)
    (recording : Recording) :
    builder.recordElements (element :: rest) index nodes recording =
      if element.kind = .html then
        let buffer := recording.progress.buffer.append (builder.document.text element) none
        builder.recordElements rest (index + 1) nodes (recording.note [] element { recording.progress with buffer })
      else
        let built := builder.recordBuild element ⟨none, index⟩ [] none recording
        let next := built.1.elim (nodes, built.2.progress) (built.2.progress.push nodes)
        builder.recordElements rest (index + 1) next.1 { built.2 with progress := next.2 } := by
  rw [recordElements]
  split
  · rfl
  · rcases builder.recordBuild element ⟨none, index⟩ [] none recording with ⟨_ | node, after⟩ <;> rfl

mutual

/-- Taking notes changes nothing in what is built. -/
theorem erase_recordBuild (builder : Builder) :
    ∀ (element : Element) (position : Position) (around : List Element) (inherited : Option TextAttributes)
      (recording : Recording),
      Recording.erase (builder.recordBuild element position around inherited recording) =
        builder.build element position inherited recording.progress
  | ⟨kind, range, children, href, alt, level⟩, position, around, inherited, recording => by
    rw [recordBuild, build]
    cases hopening : builder.opening ⟨kind, range, children, href, alt, level⟩ recording.progress with
    | none => rfl
    | some opened =>
      -- after the children both walks flush and close alike
      have hchildren := erase_recordChildren builder kind (around ++ [⟨kind, range, children, href, alt, level⟩])
        (builder.attributes ⟨kind, range, children, href, alt, level⟩ inherited) children 0 opened.1
        { recording with progress := opened.2 }
      dsimp only
      rw [← hchildren]
      rfl

theorem erase_recordChildren (builder : Builder) (parent : ElementKind) (around : List Element)
    (attributes : Option TextAttributes) :
    ∀ (children : List Element) (index : Nat) (nodes : List Node) (recording : Recording),
      Recording.erase (builder.recordChildren parent around attributes children index nodes recording) =
        builder.buildChildren parent attributes children index nodes recording.progress
  | [], _, _, _ => by
    rw [recordChildren, buildChildren]
    rfl
  | child :: rest, index, nodes, recording => by
    rw [recordChildren_cons, buildChildren_cons]
    split
    · rw [erase_recordChildren builder parent around attributes rest, progress_recordLeaf]
    · have hchild := erase_recordBuild builder child ⟨some parent, index⟩ around attributes recording
      dsimp only
      rw [erase_recordChildren builder parent around attributes rest, ← hchild]
      rfl

end

theorem erase_recordElements (builder : Builder) (elements : List Element) (index : Nat) (nodes : List Node)
    (recording : Recording) :
    Recording.erase (builder.recordElements elements index nodes recording) =
      builder.renderElements elements index nodes recording.progress := by
  induction elements generalizing index nodes recording with
  | nil => rfl
  | cons element rest ih =>
    rw [recordElements_cons, renderElements_cons]
    split
    · exact ih ..
    · have hbuilt := erase_recordBuild builder element ⟨none, index⟩ [] none recording
      dsimp only
      rw [ih, ← hbuilt]
      rfl

end Builder

/-! ## The leaves of a walk -/

namespace Builder

mutual

/-- The leaves that are visited inside an element, each behind the elements around it. Line breaks are left out. -/
def leaves (builder : Builder) (around : List Element) : Element → List (List Element × Element)
  | ⟨kind, range, children, href, alt, level⟩ =>
    let element : Element := ⟨kind, range, children, href, alt, level⟩
    if builder.passesOver element then [] else leavesBelow builder (around ++ [element]) children

def leavesBelow (builder : Builder) (around : List Element) : List Element → List (List Element × Element)
  | [] => []
  | child :: rest =>
    (if child.kind.isLeaf then if child.range.isEmpty then [] else [(around, child)]
      else leaves builder around child) ++ leavesBelow builder around rest

end

def leavesOf (builder : Builder) (elements : List Element) : List (List Element × Element) :=
  elements.flatMap fun element => if element.kind = .html then [([], element)] else builder.leaves [] element

variable {builder : Builder}

/-- The text of the leaf has joined the waiting text with the attributes that the elements around it determine. -/
structure Inherits (builder : Builder) (added : Addition) : Prop where
  buffer_eq : added.after =
    added.before.append (builder.document.text added.leaf) (builder.profile.attributesWithin added.around)
  glyphs_eq : added.after.glyphs = added.before.glyphs ++
    Glyph.ofText (builder.document.text added.leaf) (builder.profile.attributesWithin added.around)

theorem Inherits.of_append {added : Addition} (h : added.after =
    added.before.append (builder.document.text added.leaf) (builder.profile.attributesWithin added.around)) :
    builder.Inherits added :=
  ⟨h, by rw [h, TextBuffer.glyphs_append]⟩

/-- What a walk appends at a leaf is the text under it with the attributes that it is handed. -/
theorem buffer_appendLeaf {leaf : Element} (h : leaf.range.isEmpty = false) (attributes : Option TextAttributes)
    (progress : Progress) : (builder.appendLeaf leaf attributes progress).buffer =
      progress.buffer.append (builder.document.text leaf) attributes := by
  simp [appendLeaf, h]

/-- From one moment of a recorded walk to a later one these leaves are noted, in this order, and all inherit. -/
def Adds (builder : Builder) (leaves : List (List Element × Element)) (first last : Recording) : Prop :=
  ∃ additions, last.additions = first.additions ++ additions ∧ additions.map Addition.place = leaves ∧
    ∀ added ∈ additions, builder.Inherits added

namespace Adds

variable {first middle last : Recording} {leaves more : List (List Element × Element)}

/-- The waiting text may change hands between leaves. -/
theorem of_additions_eq (h : last.additions = first.additions) : builder.Adds [] first last :=
  ⟨[], by rw [h, List.append_nil], rfl, by simp⟩

theorem trans (h : builder.Adds leaves first middle) (h' : builder.Adds more middle last) :
    builder.Adds (leaves ++ more) first last := by
  obtain ⟨additions, hadditions, hplaces, hinherit⟩ := h
  obtain ⟨additions', hadditions', hplaces', hinherit'⟩ := h'
  refine ⟨additions ++ additions', ?_, ?_, ?_⟩
  · rw [hadditions', hadditions, List.append_assoc]
  · rw [List.map_append, hplaces, hplaces']
  · exact List.forall_mem_append.2 ⟨hinherit, hinherit'⟩

theorem note {around : List Element} {leaf : Element} {progress : Progress}
    (h : progress.buffer =
      first.progress.buffer.append (builder.document.text leaf) (builder.profile.attributesWithin around)) :
    builder.Adds [(around, leaf)] first (first.note around leaf progress) :=
  ⟨[⟨around, leaf, first.progress.buffer, progress.buffer⟩], rfl, rfl, by simpa using Inherits.of_append h⟩

end Adds

/-- At a leaf: a line break leaves no note. -/
theorem adds_recordLeaf (builder : Builder) (around : List Element) (leaf : Element) (recording : Recording) :
    builder.Adds (if leaf.range.isEmpty then [] else [(around, leaf)]) recording
      (builder.recordLeaf around leaf (builder.profile.attributesWithin around) recording) := by
  unfold recordLeaf
  split
  · exact .of_additions_eq rfl
  · next htext => exact .note (buffer_appendLeaf (Bool.eq_false_iff.2 htext) _ recording.progress)

mutual

/-- A walk notes the leaves that it visits. On the way down the elements around a leaf grow with the attributes. -/
theorem adds_recordBuild (builder : Builder) :
    ∀ (element : Element) (position : Position) (around : List Element) (recording : Recording),
      builder.Adds (builder.leaves around element) recording
        (builder.recordBuild element position around (builder.profile.attributesWithin around) recording).2
  | ⟨kind, range, children, href, alt, level⟩, position, around, recording => by
    rw [recordBuild, leaves]
    cases hopening : builder.opening ⟨kind, range, children, href, alt, level⟩ recording.progress with
    | none =>
      rw [if_pos (opening_eq_none_iff.1 hopening)]
      exact .of_additions_eq rfl
    | some opened =>
      rw [if_neg (not_passesOver_of_opening hopening), attributes_attributesWithin]
      exact adds_recordChildren builder kind (around ++ [⟨kind, range, children, href, alt, level⟩]) children 0
        opened.1 { recording with progress := opened.2 }

theorem adds_recordChildren (builder : Builder) (parent : ElementKind) (around : List Element) :
    ∀ (children : List Element) (index : Nat) (nodes : List Node) (recording : Recording),
      builder.Adds (builder.leavesBelow around children) recording
        (builder.recordChildren parent around (builder.profile.attributesWithin around) children index nodes
          recording).2
  | [], _, _, _ => by
    rw [recordChildren, leavesBelow]
    exact .of_additions_eq rfl
  | child :: rest, index, nodes, recording => by
    rw [recordChildren_cons, leavesBelow]
    split
    · exact (builder.adds_recordLeaf around child recording).trans (adds_recordChildren builder parent around rest ..)
    · have hchild := adds_recordBuild builder child ⟨some parent, index⟩ around recording
      exact hchild.trans (adds_recordChildren builder parent around rest ..)

end

/-- At the top level nothing is around an element, and text there has no attributes. -/
theorem adds_recordElements (builder : Builder) (elements : List Element) (index : Nat) (nodes : List Node)
    (recording : Recording) :
    builder.Adds (builder.leavesOf elements) recording (builder.recordElements elements index nodes recording).2 := by
  induction elements generalizing index nodes recording with
  | nil => exact .of_additions_eq rfl
  | cons element rest ih =>
    rw [recordElements_cons, leavesOf, List.flatMap_cons]
    split
    · exact (Adds.note rfl).trans (ih ..)
    · have hbuilt := adds_recordBuild builder element ⟨none, index⟩ [] recording
      exact hbuilt.trans (ih ..)

end Builder

namespace Element

def childless (element : Element) : Element :=
  { element with children := [] }

end Element

/-- What stands beside a leaf has no part in its attributes. -/
theorem Profile.attributesWithin_childless (profile : Profile) (elements : List Element) :
    profile.attributesWithin (elements.map Element.childless) = profile.attributesWithin elements := by
  have hinnermost {α : Type} (f : Element → Option α) (hf : f ∘ Element.childless = f) :
      innermost f (elements.map Element.childless) = innermost f elements := by
    rw [innermost, List.filterMap_map, hf, innermost]
  have hstrikes : profile.strikes ∘ Element.childless = profile.strikes := rfl
  unfold attributesWithin
  rw [hinnermost profile.textStyle? rfl, hinnermost profile.color? rfl, hinnermost profile.background? rfl,
    hinnermost destination? rfl, List.any_map, hstrikes]

namespace Document

def recordRender (document : Document) (profile : Profile) (base : Option Url) : Rendering × List Addition :=
  let (nodes, recording) := Builder.recordElements { document, profile, base } document.elements 0 [] {}
  ({ nodes, images := recording.progress.images, itemSpacing := profile.itemSpacing }, recording.additions)

def leaves (document : Document) (profile : Profile) (base : Option Url) : List (List Element × Element) :=
  Builder.leavesOf { document, profile, base } document.elements

/-- A recorded rendering is the rendering itself, and so is a recorded walk of any element. The text of every visited
leaf is added to the waiting text once, in document order, with the attributes that the elements around the leaf
determine. What else these elements hold makes no difference, nor does the place of an element or what the walk has
come to before it. -/
theorem leaves_inherit (document : Document) (profile : Profile) (base : Option Url) :
    let builder : Builder := { document, profile, base }
    (document.recordRender profile base).1 = document.render profile base ∧
      (document.recordRender profile base).2.map Addition.place = document.leaves profile base ∧
      (∀ added ∈ (document.recordRender profile base).2,
        added.after = added.before.append (document.text added.leaf) (profile.attributesWithin added.around) ∧
          added.after.glyphs = added.before.glyphs ++
            Glyph.ofText (document.text added.leaf) (profile.attributesWithin added.around)) ∧
      (∀ around : List Element,
        profile.attributesWithin (around.map Element.childless) = profile.attributesWithin around) ∧
      ∀ (element : Element) (position : Position) (around : List Element) (recording : Recording),
        let inherited := profile.attributesWithin around
        let recorded := builder.recordBuild element position around inherited recording
        Recording.erase recorded = builder.build element position inherited recording.progress ∧
          builder.Adds (builder.leaves around element) recording recorded.2 := by
  intro builder
  have herased := builder.erase_recordElements document.elements 0 [] {}
  obtain ⟨additions, hadditions, hplaces, hinherit⟩ := builder.adds_recordElements document.elements 0 [] {}
  obtain rfl : additions = (document.recordRender profile base).2 := hadditions.symm
  refine ⟨?_, hplaces, fun added hadded => ?_, profile.attributesWithin_childless, ?_⟩
  · rw [recordRender, render, ← herased]
    rfl
  · exact ⟨(hinherit added hadded).buffer_eq, (hinherit added hadded).glyphs_eq⟩
  · intro element position around recording
    exact ⟨builder.erase_recordBuild element position around _ recording,
      builder.adds_recordBuild element position around recording⟩

def nestedLinks : Document where
  source := "abc"
  elements := [{ kind := .paragraph, range := ⟨0, 3⟩, children := [
    { kind := .plainRun, range := ⟨0, 1⟩ },
    { kind := .link, range := ⟨1, 3⟩, href := some "a", children := [
      { kind := .strikethrough, range := ⟨1, 3⟩, children := [
        { kind := .mailTo, range := ⟨1, 2⟩, children := [
          { kind := .em, range := ⟨1, 2⟩, children := [{ kind := .plainRun, range := ⟨1, 2⟩ }] }] },
        { kind := .plainRun, range := ⟨2, 3⟩ }] }] }] }]

/-- The inner link hides the destination of the one around it, and the inner style sets no colour of its own. -/
theorem nestedLinks_inherit :
    ∃ added ∈ (nestedLinks.recordRender .standard none).2,
      added.leaf.range = ⟨1, 2⟩ ∧ added.before.runs.map TextRun.text = ["a"] ∧
        added.after.glyphs = added.before.glyphs ++ Glyph.ofText "b" (some
          { font := { italic := true }, color := some (.opaqueColor 0x1a 0x4f 0x8b), strikethrough := true }) := by
  obtain ⟨-, -, hinherit, -⟩ := nestedLinks.leaves_inherit .standard none
  let added := (nestedLinks.recordRender .standard none).2.get ⟨1, by decide +kernel⟩
  have hadded : added ∈ (nestedLinks.recordRender .standard none).2 := List.get_mem ..
  have hrange : added.leaf.range = ⟨1, 2⟩ := by decide +kernel
  have hbefore : added.before.runs.map TextRun.text = ["a"] := by decide +kernel
  have htext : nestedLinks.text added.leaf = "b" := by decide +kernel
  have hattributes : Profile.standard.attributesWithin added.around = some
      { font := { italic := true }, color := some (.opaqueColor 0x1a 0x4f 0x8b), strikethrough := true } := by
    decide +kernel
  have hglyphs := (hinherit added hadded).2
  rw [htext, hattributes] at hglyphs
  exact ⟨added, hadded, hrange, hbefore, hglyphs⟩

end Document

end MarkdownLayout
