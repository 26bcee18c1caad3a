import MarkdownLayout.Proofs.Provenance

/-!
# The visits of a walk

Every element that is built is visited once, with some text waiting that elements before it have left. A visit
holds what building and tracing the element start from. The marks of a document are what its visited elements
contribute, in the order of a depth-first traversal, whatever the walk then makes of them.
-/

namespace MarkdownLayout

/-- An element about to be built: where it stands, what it inherits, and what waits before it, as a buffer and as
marks. -/
structure Visit where
  element : Element
  position : Position
  path : List Nat
  inherited : Option TextAttributes
  progress : Progress
  waiting : List Mark

namespace Visit

def built (visit : Visit) (builder : Builder) : Option Node × Progress :=
  builder.build visit.element visit.position visit.inherited visit.progress

def traced (visit : Visit) (builder : Builder) : Trace :=
  builder.trace visit.element visit.position visit.path visit.inherited visit.waiting

def progressAfter (visit : Visit) (builder : Builder) : Progress :=
  if (visit.built builder).1.isSome then { (visit.built builder).2 with buffer := .empty }
  else (visit.built builder).2

def waitingAfter (visit : Visit) (builder : Builder) : List Mark :=
  if (visit.traced builder).shown.isEmpty then (visit.traced builder).waiting else []

def Accounted (visit : Visit) : Prop :=
  Tracks [] visit.progress ⟨[], visit.waiting⟩

end Visit

namespace Builder

mutual

def visits (builder : Builder) :
    Element → Position → List Nat → Option TextAttributes → Progress → List Mark → List Visit
  | ⟨kind, range, children, href, alt, level⟩, position, path, inherited, progress, waiting =>
    let element : Element := ⟨kind, range, children, href, alt, level⟩
    ⟨element, position, path, inherited, progress, waiting⟩ ::
      match builder.opening element progress with
      | none => []
      | some (_, opened) =>
        visitsBelow builder kind path (builder.attributes element inherited) children 0 opened
          (Trace.opened (Mark.stamp .content path (builder.ownGlyphs element)) waiting).waiting

def visitsBelow (builder : Builder) (parent : ElementKind) (path : List Nat)
    (attributes : Option TextAttributes) : List Element → Nat → Progress → List Mark → List Visit
  | [], _, _, _ => []
  | child :: rest, index, progress, waiting =>
    if child.kind.isLeaf then
      visitsBelow builder parent path attributes rest (index + 1)
        (builder.appendLeaf child attributes progress)
        (waiting ++ Mark.stamp .content (path ++ [index]) (builder.leafGlyphs child attributes))
    else
      let visit : Visit := ⟨child, ⟨some parent, index⟩, path ++ [index], attributes, progress, waiting⟩
      visits builder child ⟨some parent, index⟩ (path ++ [index]) attributes progress waiting ++
        visitsBelow builder parent path attributes rest (index + 1) (visit.progressAfter builder)
          (visit.waitingAfter builder)

end

def visitsOf (builder : Builder) : List Element → Nat → Progress → List Mark → List Visit
  | [], _, _, _ => []
  | element :: rest, index, progress, waiting =>
    if element.kind = .html then
      builder.visitsOf rest (index + 1)
        { progress with buffer := progress.buffer.append (builder.document.text element) none }
        (waiting ++ Mark.stamp .content [index] (Glyph.ofText (builder.document.text element) none))
    else
      let visit : Visit := ⟨element, ⟨none, index⟩, [index], none, progress, waiting⟩
      builder.visits element ⟨none, index⟩ [index] none progress waiting ++
        builder.visitsOf rest (index + 1) (visit.progressAfter builder) (visit.waitingAfter builder)

mutual

def marks (builder : Builder) : Element → List Nat → Option TextAttributes → List Mark
  | ⟨kind, range, children, href, alt, level⟩, path, inherited =>
    let element : Element := ⟨kind, range, children, href, alt, level⟩
    if builder.passesOver element then []
    else
      Mark.stamp .content path (builder.ownGlyphs element) ++
        marksBelow builder path (builder.attributes element inherited) children 0

def marksBelow (builder : Builder) (path : List Nat) (attributes : Option TextAttributes) :
    List Element → Nat → List Mark
  | [], _ => []
  | child :: rest, index =>
    (if child.kind.isLeaf then
      Mark.stamp .content (path ++ [index]) (builder.leafGlyphs child attributes)
    else marks builder child (path ++ [index]) attributes) ++
      marksBelow builder path attributes rest (index + 1)

end

def marksOf (builder : Builder) : List Element → Nat → List Mark
  | [], _ => []
  | element :: rest, index =>
    (if element.kind = .html then
      Mark.stamp .content [index] (Glyph.ofText (builder.document.text element) none)
    else builder.marks element [index] none) ++
      builder.marksOf rest (index + 1)

end Builder

namespace Builder

variable {builder : Builder}

/-- The visits of a child come before those of the children behind it, which find the text that it leaves waiting. -/
theorem visitsBelow_cons (parent : ElementKind) (path : List Nat) (attributes : Option TextAttributes)
    (child : Element) (rest : List Element) (index : Nat) (progress : Progress) (trace : Trace) :
    builder.visitsBelow parent path attributes (child :: rest) index progress trace.waiting =
      if child.kind.isLeaf then
        builder.visitsBelow parent path attributes rest (index + 1)
          (builder.appendLeaf child attributes progress)
          (trace.append (Mark.stamp .content (path ++ [index])
            (builder.leafGlyphs child attributes))).waiting
      else
        let visit : Visit :=
          ⟨child, ⟨some parent, index⟩, path ++ [index], attributes, progress, trace.waiting⟩
        builder.visits child ⟨some parent, index⟩ (path ++ [index]) attributes progress trace.waiting ++
          builder.visitsBelow parent path attributes rest (index + 1) (visit.progressAfter builder)
            (trace.take (visit.traced builder)).waiting := by
  simp only [Trace.waiting_take]
  rw [visitsBelow]
  rfl

theorem visitsOf_cons (element : Element) (rest : List Element) (index : Nat) (progress : Progress)
    (trace : Trace) :
    builder.visitsOf (element :: rest) index progress trace.waiting =
      if element.kind = .html then
        builder.visitsOf rest (index + 1)
          { progress with buffer := progress.buffer.append (builder.document.text element) none }
          (trace.append (Mark.stamp .content [index]
            (Glyph.ofText (builder.document.text element) none))).waiting
      else
        let visit : Visit := ⟨element, ⟨none, index⟩, [index], none, progress, trace.waiting⟩
        builder.visits element ⟨none, index⟩ [index] none progress trace.waiting ++
          builder.visitsOf rest (index + 1) (visit.progressAfter builder)
            (trace.take (visit.traced builder)).waiting := by
  simp only [Trace.waiting_take]
  rw [visitsOf]
  rfl

end Builder

namespace Document

def visits (document : Document) (profile : Profile) (base : Option Url) : List Visit :=
  Builder.visitsOf { document, profile, base } document.elements 0 {} []

def marks (document : Document) (profile : Profile) (base : Option Url) : List Mark :=
  Builder.marksOf { document, profile, base } document.elements 0

end Document

namespace Visit

theorem images_progressAfter (visit : Visit) (builder : Builder) :
    (visit.progressAfter builder).images = (visit.built builder).2.images := by
  unfold progressAfter
  split <;> rfl

/-- The walk goes on from a visit as it does from the node that was built. -/
theorem take_eq_progressAfter (visit : Visit) (builder : Builder) (nodes : List Node) :
    ((visit.built builder).1.elim (nodes, (visit.built builder).2) ((visit.built builder).2.push nodes)).2 =
      visit.progressAfter builder := by
  unfold progressAfter
  cases (visit.built builder).1 <;> rfl

variable {visit : Visit}

theorem Accounted.tracks (h : visit.Accounted) (builder : Builder) :
    Tracks (visit.built builder).1.toList (visit.built builder).2 (visit.traced builder) :=
  builder.build_tracks visit.element visit.position visit.path visit.inherited _ _ h

theorem Accounted.isSome_iff (h : visit.Accounted) (builder : Builder) :
    (visit.built builder).1.isSome = true ↔ (visit.traced builder).shown ≠ [] := by
  have hnil := (h.tracks builder).nil_iff
  cases hnode : (visit.built builder).1 <;> simp_all

theorem Accounted.after (h : visit.Accounted) (builder : Builder) :
    Tracks [] (visit.progressAfter builder) ⟨[], visit.waitingAfter builder⟩ := by
  have htracks := h.tracks builder
  unfold progressAfter waitingAfter
  by_cases hsome : (visit.built builder).1.isSome = true
  · have hshown := (h.isSome_iff builder).1 hsome
    rw [if_pos hsome, if_neg (by simpa using hshown)]
    exact ⟨rfl, rfl, TextBuffer.noEmptyRun_empty, by simp⟩
  · have hshown : (visit.traced builder).shown = [] := by
      by_contra hne
      exact hsome ((h.isSome_iff builder).2 hne)
    rw [if_neg hsome, if_pos (by simp [hshown])]
    exact htracks.pending

end Visit

namespace Builder

mutual

theorem accounted_of_mem_visits (builder : Builder) :
    ∀ (element : Element) (position : Position) (path : List Nat) (inherited : Option TextAttributes)
      (progress : Progress) (waiting : List Mark), Tracks [] progress ⟨[], waiting⟩ →
      ∀ visit ∈ builder.visits element position path inherited progress waiting, visit.Accounted
  | ⟨kind, range, children, href, alt, level⟩, position, path, inherited, progress, waiting, h,
      visit, hvisit => by
    rw [visits] at hvisit
    rcases List.mem_cons.1 hvisit with rfl | hbelow
    · exact h
    · split at hbelow
      · cases hbelow
      · next hopening =>
        exact accounted_of_mem_visitsBelow builder kind path _ children 0 _ _
          (opening_tracks path h hopening).pending visit hbelow

theorem accounted_of_mem_visitsBelow (builder : Builder) (parent : ElementKind) (path : List Nat)
    (attributes : Option TextAttributes) :
    ∀ (children : List Element) (index : Nat) (progress : Progress) (waiting : List Mark),
      Tracks [] progress ⟨[], waiting⟩ →
      ∀ visit ∈ builder.visitsBelow parent path attributes children index progress waiting,
        visit.Accounted
  | [], _, _, _, _, visit, hvisit => by
    rw [visitsBelow] at hvisit
    cases hvisit
  | child :: rest, index, progress, waiting, h, visit, hvisit => by
    rw [visitsBelow] at hvisit
    split at hvisit
    · exact accounted_of_mem_visitsBelow builder parent path attributes rest (index + 1) _ _
        (h.appendLeaf child attributes (path ++ [index])) visit hvisit
    · have hchild : (⟨child, ⟨some parent, index⟩, path ++ [index], attributes, progress,
          waiting⟩ : Visit).Accounted := h
      rcases List.mem_append.1 hvisit with hinside | hlater
      · exact accounted_of_mem_visits builder child _ _ _ _ _ h visit hinside
      · exact accounted_of_mem_visitsBelow builder parent path attributes rest (index + 1) _ _
          (hchild.after builder) visit hlater

end

theorem accounted_of_mem_visitsOf {builder : Builder} {elements : List Element} {index : Nat}
    {progress : Progress} {waiting : List Mark} (h : Tracks [] progress ⟨[], waiting⟩) {visit : Visit}
    (hvisit : visit ∈ builder.visitsOf elements index progress waiting) : visit.Accounted := by
  induction elements generalizing index progress waiting with
  | nil => cases hvisit
  | cons element rest ih =>
    rw [visitsOf] at hvisit
    split at hvisit
    · exact ih (h.append (Mark.map_glyph_stamp ..)) hvisit
    · have hfirst : (⟨element, ⟨none, index⟩, [index], none, progress, waiting⟩ : Visit).Accounted := h
      rcases List.mem_append.1 hvisit with hinside | hlater
      · exact builder.accounted_of_mem_visits element _ _ _ _ _ h visit hinside
      · exact ih (hfirst.after builder) hlater

end Builder

namespace Document

/-- Every visit of a document finds its waiting text accounted for. -/
theorem accounted_of_mem_visits {document : Document} {profile : Profile} {base : Option Url}
    {visit : Visit} (h : visit ∈ document.visits profile base) : visit.Accounted :=
  Builder.accounted_of_mem_visitsOf Tracks.start h

end Document

end MarkdownLayout
