import MarkdownLayout.Proofs.Visit

/-!
# Nothing is lost or added

Every step of a walk keeps all marks, adds those of the element it is at, and drops at most one line break where
a block ends. Over a whole document the rendered text is what the visited leaves contribute, with the delimiters
of the list items shown and without some final line breaks.
-/

namespace MarkdownLayout

/-- The marks afterwards are those before and the added ones, apart from `count` line breaks at most. -/
def Balanced (before added after : List Mark) (count : Nat) : Prop :=
  ∃ dropped : List Mark, (∀ mark ∈ dropped, mark.isBreak = true) ∧ dropped.length ≤ count ∧
    (after ++ dropped).Perm (before ++ added)

namespace Balanced

variable {before added middle more after : List Mark} {first second : Nat}

theorem of_perm (h : after.Perm (before ++ added)) : Balanced before added after 0 :=
  ⟨[], by simp, by simp, by simpa using h⟩

/-- Two stretches of a walk: what they add and what they lose adds up. -/
theorem trans (h : Balanced before added middle first) (h' : Balanced middle more after second) :
    Balanced before (added ++ more) after (first + second) := by
  obtain ⟨dropped, hbreak, hlength, hperm⟩ := h
  obtain ⟨dropped', hbreak', hlength', hperm'⟩ := h'
  refine ⟨dropped ++ dropped', ?_, ?_, ?_⟩
  · intro mark hmark
    rcases List.mem_append.1 hmark with hfirst | hsecond
    · exact hbreak mark hfirst
    · exact hbreak' mark hsecond
  · rw [List.length_append]
    omega
  · rw [List.perm_iff_count] at hperm hperm' ⊢
    intro mark
    have hcount := hperm mark
    have hcount' := hperm' mark
    simp only [List.count_append] at hcount hcount' ⊢
    omega

/-- A child is handed what waits, so that the marks shown before it stay out of its balance. -/
theorem take {trace child : Trace} (h : Balanced trace.waiting added child.all first) :
    Balanced trace.all added (trace.take child).all first := by
  obtain ⟨dropped, hbreak, hlength, hperm⟩ := h
  refine ⟨dropped, hbreak, hlength, ?_⟩
  calc ((trace.take child).all ++ dropped).Perm (trace.shown ++ child.all ++ dropped) :=
        (Trace.all_take_perm trace child).append_right dropped
    _ = trace.shown ++ (child.all ++ dropped) := List.append_assoc ..
    _ |>.Perm (trace.shown ++ (trace.waiting ++ added)) := hperm.append_left trace.shown
    _ = trace.all ++ added := (List.append_assoc ..).symm

theorem opened (own waiting : List Mark) : Balanced waiting own (Trace.opened own waiting).all 0 :=
  .of_perm (by rw [Trace.all_opened])

theorem append (trace : Trace) (marks : List Mark) :
    Balanced trace.all marks (trace.append marks).all 0 :=
  .of_perm (by rw [Trace.all_append])

theorem frame (trace : Trace) (front back : List Mark) :
    Balanced trace.all (if trace.shown.isEmpty then [] else front ++ back) (trace.frame front back).all 0 :=
  .of_perm (trace.all_frame_perm front back)

/-- At most one line break is lost, and only at the end of a block. -/
theorem close (kind : ElementKind) (trace : Trace) :
    Balanced trace.all [] (trace.close kind).all (if kind.isBoundary then 1 else 0) := by
  obtain ⟨dropped, hbreak, hlength, hall⟩ := trace.exists_all_close_eq kind
  exact ⟨dropped, hbreak, hlength, by rw [hall, List.append_nil]⟩

theorem mono (h : Balanced before added after first) (hle : first ≤ second) :
    Balanced before added after second := by
  obtain ⟨dropped, hbreak, hlength, hperm⟩ := h
  exact ⟨dropped, hbreak, Nat.le_trans hlength hle, hperm⟩

theorem added_perm (h : Balanced before added after first) (hperm : added.Perm more) :
    Balanced before more after first := by
  obtain ⟨dropped, hbreak, hlength, hall⟩ := h
  exact ⟨dropped, hbreak, hlength, hall.trans (hperm.append_left before)⟩

/-- Two steps one after the other, with what each contributes kept apart from its frames. -/
theorem interleave {frames later : List Mark} (h : Balanced before (added ++ frames) middle first)
    (h' : Balanced middle (more ++ later) after second) :
    Balanced before (added ++ more ++ (frames ++ later)) after (first + second) := by
  refine (h.trans h').added_perm ?_
  rw [List.perm_iff_count]
  intro mark
  simp only [List.count_append]
  omega

end Balanced

namespace Visit

def frame (visit : Visit) (builder : Builder) : List Mark :=
  if (visit.traced builder).shown.isEmpty then []
  else
    builder.front visit.element visit.position visit.path
        (builder.attributes visit.element visit.inherited) ++
      builder.back visit.element visit.path

theorem isContent_of_mem_frame {visit : Visit} {builder : Builder} {mark : Mark}
    (h : mark ∈ visit.frame builder) : mark.isContent = false := by
  unfold frame at h
  split at h
  · cases h
  · rcases List.mem_append.1 h with hfront | hback
    · exact (Builder.path_of_mem_front hfront).2
    · exact (Builder.path_of_mem_back hback).2

def isBlock (visit : Visit) : Bool :=
  visit.element.kind.isBoundary

end Visit

namespace Builder

mutual

/-- An element keeps what was waiting and adds what it and the elements inside it contribute, and their frames. -/
theorem trace_balanced (builder : Builder) :
    ∀ (element : Element) (position : Position) (path : List Nat) (inherited : Option TextAttributes)
      (progress : Progress) (waiting : List Mark),
      Balanced waiting
        (builder.marks element path inherited ++
          (builder.visits element position path inherited progress waiting).flatMap (Visit.frame · builder))
        (builder.trace element position path inherited waiting).all
        ((builder.visits element position path inherited progress waiting).countP Visit.isBlock)
  | ⟨kind, range, children, href, alt, level⟩, position, path, inherited, progress, waiting => by
    have htrace := trace_eq builder ⟨kind, range, children, href, alt, level⟩ position path inherited waiting
    rw [marks, visits, List.flatMap_cons, List.countP_cons, Visit.frame, Visit.traced]
    cases hopening : builder.opening ⟨kind, range, children, href, alt, level⟩ progress with
    | none =>
      rw [if_pos (opening_eq_none_iff.1 hopening)] at htrace ⊢
      rw [htrace]
      exact ⟨[], by simp, by simp, by simp [Trace.all]⟩
    | some opened =>
      rw [if_neg (not_passesOver_of_opening hopening)] at htrace ⊢
      have hopen := Balanced.opened
        (Mark.stamp .content path (builder.ownGlyphs ⟨kind, range, children, href, alt, level⟩)) waiting
      have hchildren := hopen.trans (traceChildren_balanced builder kind path
        (builder.attributes ⟨kind, range, children, href, alt, level⟩ inherited) children 0 opened.2 _)
      have hclosed := (hchildren.trans (.close kind _)).trans (.frame _
        (builder.front ⟨kind, range, children, href, alt, level⟩ position path
          (builder.attributes ⟨kind, range, children, href, alt, level⟩ inherited))
        (builder.back ⟨kind, range, children, href, alt, level⟩ path))
      rw [htrace, Trace.shown_frame_isEmpty]
      refine (hclosed.added_perm ?_).mono ?_
      · rw [List.perm_iff_count]
        intro mark
        simp only [List.count_append, List.count_nil]
        omega
      · rw [Nat.zero_add, Nat.add_zero]
        exact Nat.le_refl _

theorem traceChildren_balanced (builder : Builder) (parent : ElementKind) (path : List Nat)
    (attributes : Option TextAttributes) :
    ∀ (children : List Element) (index : Nat) (progress : Progress) (trace : Trace),
      Balanced trace.all
        (builder.marksBelow path attributes children index ++
          (builder.visitsBelow parent path attributes children index progress trace.waiting).flatMap
            (Visit.frame · builder))
        (builder.traceChildren parent path attributes children index trace).all
        ((builder.visitsBelow parent path attributes children index progress trace.waiting).countP
          Visit.isBlock)
  | [], index, progress, trace => by
    rw [traceChildren, visitsBelow, marksBelow]
    exact .of_perm (by simp)
  | child :: rest, index, progress, trace => by
    rw [traceChildren, visitsBelow_cons, marksBelow]
    split
    · have hleaf := Balanced.append trace
        (Mark.stamp .content (path ++ [index]) (builder.leafGlyphs child attributes))
      have hrest := traceChildren_balanced builder parent path attributes rest (index + 1)
        (builder.appendLeaf child attributes progress) (trace.append
          (Mark.stamp .content (path ++ [index]) (builder.leafGlyphs child attributes)))
      rw [List.append_assoc]
      simpa only [Nat.zero_add] using hleaf.trans hrest
    · have hchild := trace_balanced builder child ⟨some parent, index⟩ (path ++ [index]) attributes
        progress trace.waiting
      have hrest := traceChildren_balanced builder parent path attributes rest (index + 1)
        (Visit.progressAfter ⟨child, ⟨some parent, index⟩, path ++ [index], attributes, progress,
          trace.waiting⟩ builder)
        (trace.take (builder.trace child ⟨some parent, index⟩ (path ++ [index]) attributes trace.waiting))
      rw [List.countP_append, List.flatMap_append]
      exact hchild.take.interleave hrest

end

/-- The top level loses nothing beside what its elements lose. -/
theorem traceElements_balanced (builder : Builder) (elements : List Element) (index : Nat)
    (progress : Progress) (trace : Trace) :
    Balanced trace.all
      (builder.marksOf elements index ++
        (builder.visitsOf elements index progress trace.waiting).flatMap (Visit.frame · builder))
      (builder.traceElements elements index trace).all
      ((builder.visitsOf elements index progress trace.waiting).countP Visit.isBlock) := by
  induction elements generalizing index progress trace with
  | nil =>
    rw [traceElements, visitsOf, marksOf, Trace.all_flush]
    exact .of_perm (by simp)
  | cons element rest ih =>
    rw [traceElements, visitsOf_cons, marksOf]
    split
    · have hmarkup := Balanced.append trace
        (Mark.stamp .content [index] (Glyph.ofText (builder.document.text element) none))
      have hrest := ih (index + 1)
        { progress with buffer := progress.buffer.append (builder.document.text element) none }
        (trace.append (Mark.stamp .content [index] (Glyph.ofText (builder.document.text element) none)))
      rw [List.append_assoc]
      simpa only [Nat.zero_add] using hmarkup.trans hrest
    · have hfirst := trace_balanced builder element ⟨none, index⟩ [index] none progress trace.waiting
      have hrest := ih (index + 1)
        (Visit.progressAfter ⟨element, ⟨none, index⟩, [index], none, progress, trace.waiting⟩ builder)
        (trace.take (builder.trace element ⟨none, index⟩ [index] none trace.waiting))
      rw [List.countP_append, List.flatMap_append]
      exact hfirst.take.interleave hrest

theorem waiting_traceElements (builder : Builder) (elements : List Element) (index : Nat) (trace : Trace) :
    (builder.traceElements elements index trace).waiting = [] := by
  induction elements generalizing index trace with
  | nil => rfl
  | cons element rest ih => exact ih (index + 1) _

end Builder

/-! ## The letters of a document -/

namespace Glyph

def isPrinted (glyph : Glyph) : Bool :=
  glyph.isLetter && !glyph.isBreak

theorem isLetter_of_isBreak {glyph : Glyph} (h : glyph.isBreak = true) : glyph.isLetter = true := by
  cases glyph <;> simp_all [isLetter, isBreak]

theorem filter_isPrinted_eq (glyphs : List Glyph) :
    glyphs.filter isPrinted = (glyphs.filter isLetter).filter (!·.isBreak) := by
  rw [List.filter_filter]
  exact List.filter_congr fun glyph _ => Bool.and_comm ..

theorem countP_isBreak_eq (glyphs : List Glyph) :
    glyphs.countP isBreak = (glyphs.filter isLetter).countP isBreak := by
  rw [List.countP_filter]
  refine List.countP_congr fun glyph _ => ?_
  have h := @isLetter_of_isBreak glyph
  simpa using h

end Glyph

theorem marker_noBreak (position : Position) : '\n' ∉ (Builder.marker position).toList := by
  have hdigits (n : Nat) : '\n' ∉ (toString n).toList := by
    intro hmem
    have hdigits : '\n' ∈ Nat.toDigits 10 n := by simpa using hmem
    exact absurd (Nat.isDigit_of_mem_toDigits (by decide) (by decide) hdigits) (by decide)
  unfold Builder.marker
  split
  · simpa using hdigits (position.index + 1)
  · decide

namespace Visit

/-- The delimiter that a list item shows ahead of its contents, unless it shows nothing. -/
def delimiter (visit : Visit) (builder : Builder) : List Glyph :=
  if visit.element.kind = .listItem ∧ (visit.built builder).1.isSome then
    Glyph.ofText (Builder.marker visit.position) (builder.attributes visit.element visit.inherited)
  else []

end Visit

namespace Node

/-- Nodes without text show no letters. -/
theorem filter_isLetter_reading_eq_nil {nodes : List Node} (h : ∀ node ∈ walkAll nodes, node.asText = none) :
    (reading nodes).filter Glyph.isLetter = [] := by
  refine List.filter_eq_nil_iff.2 fun glyph hglyph => ?_
  obtain ⟨node, hnode, hmem⟩ := List.mem_flatMap.1 hglyph
  cases node with
  | text block => exact absurd (h _ hnode) (by simp [asText])
  | image placeholder => simp [List.mem_singleton.1 hmem, Glyph.isLetter]
  | divider width height color => simp [List.mem_singleton.1 hmem, Glyph.isLetter]
  | container axis spacing children => cases hmem
  | decorated inner decoration => cases hmem

end Node

namespace Visit

variable {visit : Visit} {builder : Builder}

theorem isBreak_of_mem_delimiter {glyph : Glyph} (h : glyph ∈ visit.delimiter builder) :
    glyph.isBreak = false := by
  unfold delimiter at h
  split at h
  · obtain ⟨char, hchar, rfl⟩ := List.mem_map.1 h
    have hne : char ≠ '\n' := fun heq => marker_noBreak visit.position (heq ▸ hchar)
    simp [Glyph.isBreak, hne]
  · cases h

/-- Of what a visit puts around its node, only the delimiter is text. -/
theorem Accounted.filter_frame (h : visit.Accounted)
    (haccessories : ∀ node ∈ Node.walkAll builder.profile.accessories, node.asText = none) :
    ((visit.frame builder).map Mark.glyph).filter Glyph.isLetter = visit.delimiter builder := by
  obtain ⟨hfront, hback⟩ := Profile.forall_mem_accessories haccessories visit.element
  have hletters (attributes : Option TextAttributes) :
      (Glyph.ofText (Builder.marker visit.position) attributes).filter Glyph.isLetter =
        Glyph.ofText (Builder.marker visit.position) attributes :=
    List.filter_eq_self.2 fun glyph hglyph => Glyph.isLetter_of_mem_ofText hglyph
  have hshown := h.isSome_iff builder
  unfold frame delimiter Builder.front Builder.back
  by_cases hnil : (visit.traced builder).shown = []
  · rw [if_pos (by simp [hnil]), if_neg (by simp [hshown, hnil])]
    rfl
  · rw [if_neg (by simpa using hnil)]
    by_cases hkind : visit.element.kind = .listItem
    · rw [if_pos hkind, if_pos ⟨hkind, hshown.2 hnil⟩]
      simp [Node.filter_isLetter_reading_eq_nil hfront, Node.filter_isLetter_reading_eq_nil hback, hletters]
    · rw [if_neg hkind, if_neg (fun hboth => hkind hboth.1)]
      simp [Node.filter_isLetter_reading_eq_nil hfront, Node.filter_isLetter_reading_eq_nil hback]

end Visit

namespace Document

def delimiters (document : Document) (profile : Profile) (base : Option Url) : List Glyph :=
  (document.visits profile base).flatMap (Visit.delimiter · { document, profile, base })

variable {document : Document} {profile : Profile} {base : Option Url}

/-- A rendering shows what the document contributes and the frames of its visits, but for one line break a block at
most. -/
theorem trace_balanced (document : Document) (profile : Profile) (base : Option Url) :
    Balanced [] (document.marks profile base ++
        (document.visits profile base).flatMap (Visit.frame · { document, profile, base }))
      (document.trace profile base) ((document.visits profile base).countP Visit.isBlock) := by
  have h := Builder.traceElements_balanced { document, profile, base } document.elements 0 {} {}
  have hall : (Builder.traceElements { document, profile, base } document.elements 0 {}).all =
      document.trace profile base := by
    rw [Trace.all, Builder.waiting_traceElements, List.append_nil]
    rfl
  rwa [hall] at h

theorem filter_frames (haccessories : ∀ node ∈ Node.walkAll profile.accessories, node.asText = none) :
    (((document.visits profile base).flatMap (Visit.frame · { document, profile, base })).map
        Mark.glyph).filter Glyph.isLetter = document.delimiters profile base := by
  rw [List.map_flatMap, List.filter_flatMap]
  exact List.flatMap_congr fun visit hvisit => (accounted_of_mem_visits hvisit).filter_frame haccessories

/-- The letters on the page are those that the document contributes, and the delimiters of its list items. -/
theorem exists_letters_perm (document : Document) (base : Option Url)
    (haccessories : ∀ node ∈ Node.walkAll profile.accessories, node.asText = none) :
    ∃ dropped : List Glyph, (∀ glyph ∈ dropped, glyph.isBreak = true) ∧
      dropped.length ≤ (document.visits profile base).countP Visit.isBlock ∧
      ((Node.reading (document.render profile base).nodes).filter Glyph.isLetter ++ dropped).Perm
        (((document.marks profile base).map Mark.glyph).filter Glyph.isLetter ++
          document.delimiters profile base) := by
  obtain ⟨dropped, hbreak, hlength, hperm⟩ := document.trace_balanced profile base
  have hbreak' : ∀ glyph ∈ dropped.map Mark.glyph, glyph.isBreak = true := by
    intro glyph hglyph
    obtain ⟨mark, hmark, rfl⟩ := List.mem_map.1 hglyph
    exact hbreak mark hmark
  refine ⟨dropped.map Mark.glyph, hbreak', by rwa [List.length_map], ?_⟩
  have hletters := (hperm.map Mark.glyph).filter Glyph.isLetter
  have hkept : (dropped.map Mark.glyph).filter Glyph.isLetter = dropped.map Mark.glyph :=
    List.filter_eq_self.2 fun glyph hglyph => Glyph.isLetter_of_isBreak (hbreak' glyph hglyph)
  simp only [List.nil_append, List.map_append, List.filter_append, hkept, filter_frames haccessories]
    at hletters
  rwa [reading_nodes_eq]

/-- Every printed character is shown once, with the attributes of its leaf, next to one delimiter for each list
item that shows something. No line break is added, and at most one is dropped for each visited block. -/
theorem letters_conserved (document : Document) (profile : Profile) (base : Option Url)
    (haccessories : ∀ node ∈ Node.walkAll profile.accessories, node.asText = none) :
    let shown := Node.reading (document.render profile base).nodes
    let given := (document.marks profile base).map Mark.glyph
    (shown.filter Glyph.isPrinted).Perm
        (given.filter Glyph.isPrinted ++ document.delimiters profile base) ∧
      shown.countP Glyph.isBreak ≤ given.countP Glyph.isBreak ∧
      given.countP Glyph.isBreak ≤
        shown.countP Glyph.isBreak + (document.visits profile base).countP Visit.isBlock := by
  intro shown given
  obtain ⟨dropped, hbreak, hlength, hperm⟩ :=
    exists_letters_perm document base haccessories
  have hdelimiter : ∀ glyph ∈ document.delimiters profile base, glyph.isBreak = false := by
    intro glyph hglyph
    obtain ⟨visit, _, hmem⟩ := List.mem_flatMap.1 hglyph
    exact Visit.isBreak_of_mem_delimiter hmem
  constructor
  · have hprinted := hperm.filter (!·.isBreak)
    have hnone : dropped.filter (!·.isBreak) = [] := List.filter_eq_nil_iff.2 fun glyph hglyph => by
      simp [hbreak glyph hglyph]
    have hall : (document.delimiters profile base).filter (!·.isBreak) =
        document.delimiters profile base := List.filter_eq_self.2 fun glyph hglyph => by
      simp [hdelimiter glyph hglyph]
    simpa only [List.filter_append, hnone, hall, List.append_nil, ← Glyph.filter_isPrinted_eq] using hprinted
  · have hcount := hperm.countP_eq Glyph.isBreak
    have hall : dropped.countP Glyph.isBreak = dropped.length := List.countP_eq_length.2 hbreak
    have hnone : (document.delimiters profile base).countP Glyph.isBreak = 0 :=
      List.countP_eq_zero.2 fun glyph hglyph => by simp [hdelimiter glyph hglyph]
    rw [List.countP_append, List.countP_append, ← Glyph.countP_isBreak_eq, ← Glyph.countP_isBreak_eq, hall,
      hnone] at hcount
    change shown.countP Glyph.isBreak + dropped.length = given.countP Glyph.isBreak + 0 at hcount
    omega

def quotedItem : Document where
  source := "- a\n"
  elements := [{
    kind := .blockquote
    range := ⟨0, 4⟩
    children := [{
      kind := .listItem
      range := ⟨0, 4⟩
      children := [{ kind := .plainRun, range := ⟨2, 4⟩ }] }] }]

/-- An item in a quotation, under a profile whose accessories are bars. -/
theorem letters_conserved_quotedItem :
    (∀ node ∈ Node.walkAll Profile.standard.accessories, node.asText = none) ∧
      let shown := Node.reading (quotedItem.render .standard none).nodes
      let given := (quotedItem.marks .standard none).map Mark.glyph
      (shown.filter Glyph.isPrinted).Perm
          (given.filter Glyph.isPrinted ++ quotedItem.delimiters .standard none) ∧
        shown.countP Glyph.isBreak ≤ given.countP Glyph.isBreak ∧
        given.countP Glyph.isBreak ≤
          shown.countP Glyph.isBreak + (quotedItem.visits .standard none).countP Visit.isBlock :=
  have haccessories : ∀ node ∈ Node.walkAll Profile.standard.accessories, node.asText = none := by decide
  ⟨haccessories, letters_conserved quotedItem .standard none haccessories⟩

def brokenItem : Document where
  source := "a\n"
  elements := [{
    kind := .listItem
    range := ⟨0, 2⟩
    children := [{ kind := .plainRun, range := ⟨0, 2⟩ }] }]

/-- List items count among the blocks: the others alone do not account for the dropped line break. -/
theorem brokenItem_drops_break :
    (∀ node ∈ Node.walkAll Profile.neutral.accessories, node.asText = none) ∧
      ¬((brokenItem.marks .neutral none).map Mark.glyph).countP Glyph.isBreak ≤
        (Node.reading (brokenItem.render .neutral none).nodes).countP Glyph.isBreak +
          (brokenItem.visits .neutral none).countP
            (fun visit => visit.isBlock && visit.element.kind != .listItem) := by
  decide

end Document

end MarkdownLayout
