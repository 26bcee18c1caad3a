import MarkdownLayout.Proofs.DocumentOrder

/-!
# What a node takes in

A block or an image takes everything that waits when it is visited into its own node, whoever contributed it.
Only a lone line break can get away: a block with nothing before it trims it off. So the node of an element holds
its own contributions alone exactly when nothing waits before it, or when a lone line break waits and the first
thing to end inside the element is a block that is still empty.
-/

namespace MarkdownLayout

inductive Fate where
  | kept
  | dropped
  deriving DecidableEq, Repr, Inhabited

namespace Builder

mutual

/-- What an element makes of a line break that waits alone; nothing when it goes on waiting. -/
def fate (builder : Builder) : Element → Option Fate
  | ⟨kind, range, children, href, alt, level⟩ =>
    let element : Element := ⟨kind, range, children, href, alt, level⟩
    if builder.passesOver element then none
    else if builder.ownGlyphs element ≠ [] then some .kept
    else (fateBelow builder children).or (if kind.isBoundary then some .dropped else none)

def fateBelow (builder : Builder) : List Element → Option Fate
  | [] => none
  | child :: rest =>
    (if child.kind.isLeaf then if builder.leafText child = "" then none else some .kept
      else Builder.fate builder child).or (fateBelow builder rest)

end

end Builder

namespace Trace

/-- The mark is shown, or waits in front of all others where no trimming reaches it. -/
def Holds (mark : Mark) (trace : Trace) : Prop :=
  mark ∈ trace.shown ∨
    ∃ behind, trace.waiting = mark :: behind ∧ (mark.isBreak = true → behind ≠ [])

namespace Holds

variable {mark : Mark} {trace child : Trace}

theorem opened {waiting : List Mark} (h : Holds mark ⟨[], waiting⟩) (own : List Mark) :
    (opened own waiting).Holds mark := by
  unfold Trace.opened
  split
  · exact h
  · rcases h with hshown | ⟨behind, hwaiting, _⟩
    · cases hshown
    · refine Or.inl (List.mem_append_left _ ?_)
      change waiting = mark :: behind at hwaiting
      rw [hwaiting]
      exact List.mem_cons_self

theorem append (h : trace.Holds mark) (marks : List Mark) : (trace.append marks).Holds mark := by
  rcases h with hshown | ⟨behind, hwaiting, hsafe⟩
  · exact Or.inl hshown
  · refine Or.inr ⟨behind ++ marks, by simp [Trace.append, hwaiting], fun hbreak hnil => ?_⟩
    exact hsafe hbreak (List.append_eq_nil_iff.1 hnil).1

/-- What a child holds is held after it: it is shown, or waits in front. -/
theorem take_child (trace : Trace) (h : child.Holds mark) : (trace.take child).Holds mark := by
  by_cases hnil : child.shown = []
  · rw [take_of_silent trace hnil]
    rcases h with hshown | hwaiting
    · simp [hnil] at hshown
    · exact Or.inr hwaiting
  · rw [take_of_shown trace hnil]
    rcases h with hshown | ⟨behind, hwaiting, _⟩
    · exact Or.inl (List.mem_append_right _ hshown)
    · exact Or.inl (by simp [hwaiting])

/-- A mark is lost in a child only if the child loses it when it waits there. -/
theorem take (h : trace.Holds mark) (hchild : Holds mark ⟨[], trace.waiting⟩ → child.Holds mark) :
    (trace.take child).Holds mark := by
  rcases h with hshown | hwaiting
  · unfold Trace.take
    split
    · exact Or.inl hshown
    · exact Or.inl (List.mem_append_left _ (List.mem_append_left _ hshown))
  · exact take_child trace (hchild (Or.inr hwaiting))

/-- Trimming does not reach the mark, which is no line break or has something waiting behind it. -/
theorem close (h : trace.Holds mark) (kind : ElementKind) : (trace.close kind).Holds mark := by
  unfold Trace.close
  split
  · rcases h with hshown | ⟨behind, hwaiting, hsafe⟩
    · exact Or.inl (List.mem_append_left _ hshown)
    · refine Or.inl (List.mem_append_right _ ?_)
      rw [hwaiting]
      by_cases hnil : behind = []
      · have hkept : mark.isBreak = false := by
          by_contra hbreak
          exact hsafe (by simpa using hbreak) hnil
        simp [hnil, withoutFinal, hkept]
      · rw [← List.singleton_append, withoutFinal_append _ _ hnil]
        exact List.mem_append_left _ (List.mem_singleton_self mark)
  · exact h

theorem frame (h : trace.Holds mark) (front back : List Mark) : (trace.frame front back).Holds mark := by
  unfold Trace.frame
  split
  · exact h
  · rcases h with hshown | hwaiting
    · exact Or.inl (by simp [hshown])
    · exact Or.inr hwaiting

end Holds

end Trace

namespace Builder

mutual

/-- An element never drops a mark that waits out of reach of trimming. -/
theorem trace_holds (builder : Builder) (mark : Mark) :
    ∀ (element : Element) (position : Position) (path : List Nat) (inherited : Option TextAttributes)
      (waiting : List Mark), Trace.Holds mark ⟨[], waiting⟩ →
      (builder.trace element position path inherited waiting).Holds mark
  | ⟨kind, range, children, href, alt, level⟩, position, path, inherited, waiting, h => by
    rw [trace]
    split
    · exact h
    · have hopened := h.opened
        (Mark.stamp .content path (builder.ownGlyphs ⟨kind, range, children, href, alt, level⟩))
      have hbelow := traceChildren_holds builder mark kind path
        (builder.attributes ⟨kind, range, children, href, alt, level⟩ inherited) children 0 _ hopened
      exact (hbelow.close kind).frame _ _

theorem traceChildren_holds (builder : Builder) (mark : Mark) (parent : ElementKind) (path : List Nat)
    (attributes : Option TextAttributes) :
    ∀ (children : List Element) (index : Nat) (trace : Trace), trace.Holds mark →
      (builder.traceChildren parent path attributes children index trace).Holds mark
  | [], _, _, h => by
    rw [traceChildren]
    exact h
  | child :: rest, index, trace, h => by
    rw [traceChildren]
    refine traceChildren_holds builder mark parent path attributes rest (index + 1) _ ?_
    split
    · exact h.append _
    · exact h.take fun hwaiting => trace_holds builder mark child _ _ _ _ hwaiting

end

/-! ### A line break that waits alone -/

mutual

/-- An element without a fate for a line break shows nothing and leaves what waits as it was. -/
theorem trace_of_fate_eq_none (builder : Builder) :
    ∀ (element : Element) (position : Position) (path : List Nat) (inherited : Option TextAttributes)
      (waiting : List Mark), builder.fate element = none →
      builder.trace element position path inherited waiting = ⟨[], waiting⟩
  | ⟨kind, range, children, href, alt, level⟩, position, path, inherited, waiting, h => by
    rw [fate] at h
    rw [trace_eq]
    split at h
    · next hskip => rw [if_pos hskip]
    · next hvisited =>
      split at h
      · cases h
      · next hown =>
        obtain ⟨hbelow, hboundary⟩ := Option.or_eq_none_iff.1 h
        have hopened : Trace.opened (Mark.stamp .content path
            (builder.ownGlyphs ⟨kind, range, children, href, alt, level⟩)) waiting = ⟨[], waiting⟩ := by
          rw [Trace.opened, if_pos (by simpa using hown)]
        rw [if_neg hvisited, hopened, traceChildren_of_fateBelow_eq_none builder kind path _ children 0 _ hbelow]
        have hkind : ¬kind.isBoundary = true := fun hkind => by simp [hkind] at hboundary
        rw [Trace.close, if_neg hkind]
        rfl

theorem traceChildren_of_fateBelow_eq_none (builder : Builder) (parent : ElementKind) (path : List Nat)
    (attributes : Option TextAttributes) :
    ∀ (children : List Element) (index : Nat) (trace : Trace), builder.fateBelow children = none →
      builder.traceChildren parent path attributes children index trace = trace
  | [], _, _, _ => by rw [traceChildren]
  | child :: rest, index, trace, h => by
    rw [fateBelow] at h
    obtain ⟨hchild, hrest⟩ := Option.or_eq_none_iff.1 h
    rw [traceChildren, traceChildren_of_fateBelow_eq_none builder parent path attributes rest _ _ hrest]
    split at hchild
    · next hleaf =>
      have htext : builder.leafText child = "" := by
        by_contra hne
        simp [hne] at hchild
      rw [if_pos hleaf, Trace.append, leafGlyphs, htext]
      simp [Glyph.ofText, Mark.stamp]
    · next hleaf =>
      rw [if_neg hleaf, trace_of_fate_eq_none builder child _ _ _ _ hchild, Trace.take_of_silent _ rfl]

end

mutual

/-- An element that keeps a lone line break shows it or puts text behind it. -/
theorem trace_of_fate_eq_kept (builder : Builder) (mark : Mark) :
    ∀ (element : Element) (position : Position) (path : List Nat) (inherited : Option TextAttributes),
      builder.fate element = some .kept →
      (builder.trace element position path inherited [mark]).Holds mark
  | ⟨kind, range, children, href, alt, level⟩, position, path, inherited, h => by
    rw [fate] at h
    rw [trace_eq]
    split at h
    · cases h
    · next hvisited =>
      rw [if_neg hvisited]
      have hbelow : (builder.traceChildren kind path
          (builder.attributes ⟨kind, range, children, href, alt, level⟩ inherited) children 0
          (Trace.opened (Mark.stamp .content path
            (builder.ownGlyphs ⟨kind, range, children, href, alt, level⟩)) [mark])).Holds mark := by
        split at h
        · next hown =>
          refine traceChildren_holds builder mark kind path _ children 0 _ (Or.inl ?_)
          rw [Trace.opened, if_neg (by simpa using hown)]
          exact List.mem_cons_self
        · next hown =>
          refine traceChildren_of_fateBelow_eq_kept builder mark kind path _ children 0 _ ?_ ?_
          · rcases Option.or_eq_some_iff.1 h with hkept | ⟨_, hboundary⟩
            · exact hkept
            · split at hboundary <;> cases hboundary
          · rw [Trace.opened, if_pos (by simpa using hown)]
      exact (hbelow.close kind).frame _ _

theorem traceChildren_of_fateBelow_eq_kept (builder : Builder) (mark : Mark) (parent : ElementKind)
    (path : List Nat) (attributes : Option TextAttributes) :
    ∀ (children : List Element) (index : Nat) (trace : Trace), builder.fateBelow children = some .kept →
      trace.waiting = [mark] →
      (builder.traceChildren parent path attributes children index trace).Holds mark
  | [], _, _, h, _ => by
    rw [fateBelow] at h
    cases h
  | child :: rest, index, trace, h, hwaiting => by
    rw [fateBelow] at h
    rw [traceChildren]
    split at h
    · next hleaf =>
      rw [if_pos hleaf]
      split at h
      · next htext =>
        refine traceChildren_of_fateBelow_eq_kept builder mark parent path attributes rest _ _ h ?_
        simp [Trace.append, leafGlyphs, htext, Glyph.ofText, Mark.stamp, hwaiting]
      · next htext =>
        refine traceChildren_holds builder mark parent path attributes rest _ _ (Or.inr ?_)
        refine ⟨Mark.stamp .content (path ++ [index]) (builder.leafGlyphs child attributes),
          by simp [Trace.append, hwaiting], fun _ => ?_⟩
        simpa [leafGlyphs] using htext
    · next hleaf =>
      rw [if_neg hleaf]
      rcases Option.or_eq_some_iff.1 h with hkept | ⟨hnone, hrest⟩
      · refine traceChildren_holds builder mark parent path attributes rest _ _ ?_
        have hchild := trace_of_fate_eq_kept builder mark child ⟨some parent, index⟩ (path ++ [index])
          attributes hkept
        rw [hwaiting]
        exact .take_child trace hchild
      · refine traceChildren_of_fateBelow_eq_kept builder mark parent path attributes rest _ _ hrest ?_
        rw [trace_of_fate_eq_none builder child _ _ _ _ hnone, Trace.take_of_silent _ rfl, hwaiting]

end

mutual

/-- A block that is still empty drops a lone line break, as if there had been none. -/
theorem trace_of_fate_eq_dropped (builder : Builder) (mark : Mark) (hbreak : mark.isBreak = true) :
    ∀ (element : Element) (position : Position) (path : List Nat) (inherited : Option TextAttributes),
      builder.fate element = some .dropped →
      builder.trace element position path inherited [mark] =
        builder.trace element position path inherited []
  | ⟨kind, range, children, href, alt, level⟩, position, path, inherited, h => by
    rw [fate] at h
    rw [trace_eq, trace_eq]
    split at h
    · cases h
    · next hvisited =>
      split at h
      · cases h
      · next hown =>
        have hopened (waiting : List Mark) : Trace.opened (Mark.stamp .content path
            (builder.ownGlyphs ⟨kind, range, children, href, alt, level⟩)) waiting = ⟨[], waiting⟩ := by
          rw [Trace.opened, if_pos (by simpa using hown)]
        rw [if_neg hvisited, if_neg hvisited, hopened, hopened]
        rcases Option.or_eq_some_iff.1 h with hdropped | ⟨hnone, hboundary⟩
        · rw [traceChildren_of_fateBelow_eq_dropped builder mark hbreak kind path _ children 0 [] hdropped]
        · have hkind : kind.isBoundary = true := by
            by_contra hkind
            simp [hkind] at hboundary
          rw [traceChildren_of_fateBelow_eq_none builder kind path _ children 0 _ hnone,
            traceChildren_of_fateBelow_eq_none builder kind path _ children 0 _ hnone, Trace.close,
            Trace.close, if_pos hkind, if_pos hkind]
          simp [withoutFinal, hbreak]

theorem traceChildren_of_fateBelow_eq_dropped (builder : Builder) (mark : Mark)
    (hbreak : mark.isBreak = true) (parent : ElementKind) (path : List Nat)
    (attributes : Option TextAttributes) :
    ∀ (children : List Element) (index : Nat) (shown : List Mark),
      builder.fateBelow children = some .dropped →
      builder.traceChildren parent path attributes children index ⟨shown, [mark]⟩ =
        builder.traceChildren parent path attributes children index ⟨shown, []⟩
  | [], _, _, h => by
    rw [fateBelow] at h
    cases h
  | child :: rest, index, shown, h => by
    rw [fateBelow] at h
    rw [traceChildren, traceChildren]
    split at h
    · next hleaf =>
      split at h
      · next htext =>
        have hrest := traceChildren_of_fateBelow_eq_dropped builder mark hbreak parent path attributes rest
          (index + 1) shown h
        simpa [hleaf, Trace.append, leafGlyphs, htext, Glyph.ofText, Mark.stamp] using hrest
      · cases h
    · next hleaf =>
      rw [if_neg hleaf, if_neg hleaf]
      rcases Option.or_eq_some_iff.1 h with hdropped | ⟨hnone, hrest⟩
      · have hchild := trace_of_fate_eq_dropped builder mark hbreak child ⟨some parent, index⟩
          (path ++ [index]) attributes hdropped
        rw [hchild]
        rfl
      · rw [trace_of_fate_eq_none builder child _ _ _ _ hnone, trace_of_fate_eq_none builder child _ _ _ _ hnone,
          Trace.take_of_silent _ rfl, Trace.take_of_silent _ rfl]
        exact traceChildren_of_fateBelow_eq_dropped builder mark hbreak parent path attributes rest
          (index + 1) shown hrest

end

/-! ### What waits is not the element's own -/

mutual

/-- What waits when a visited element is entered comes before it in the document. -/
theorem orderly_of_mem_visits (builder : Builder) :
    ∀ (element : Element) (position : Position) (path : List Nat) (inherited : Option TextAttributes)
      (progress : Progress) (waiting : List Mark), Trace.Orderly ⟨[], waiting⟩ path →
      ∀ visit ∈ builder.visits element position path inherited progress waiting,
        Trace.Orderly ⟨[], visit.waiting⟩ visit.path
  | ⟨kind, range, children, href, alt, level⟩, position, path, inherited, progress, waiting, h,
      visit, hvisit => by
    rw [visits] at hvisit
    rcases List.mem_cons.1 hvisit with rfl | hbelow
    · exact h
    · split at hbelow
      · cases hbelow
      · exact orderly_of_mem_visitsBelow builder kind path _ children 0 _ _ (h.opened _).1 visit hbelow

theorem orderly_of_mem_visitsBelow (builder : Builder) (parent : ElementKind) (path : List Nat)
    (attributes : Option TextAttributes) :
    ∀ (children : List Element) (index : Nat) (progress : Progress) (trace : Trace),
      trace.Orderly (path ++ [index]) →
      ∀ visit ∈ builder.visitsBelow parent path attributes children index progress trace.waiting,
        Trace.Orderly ⟨[], visit.waiting⟩ visit.path
  | [], _, _, _, _, visit, hvisit => by
    rw [visitsBelow] at hvisit
    cases hvisit
  | child :: rest, index, progress, trace, h, visit, hvisit => by
    rw [visitsBelow_cons] at hvisit
    split at hvisit
    · exact orderly_of_mem_visitsBelow builder parent path attributes rest (index + 1) _ _ (h.append _) visit
        hvisit
    · rcases List.mem_append.1 hvisit with hinside | hlater
      · exact orderly_of_mem_visits builder child _ _ _ _ _ h.pending visit hinside
      · exact orderly_of_mem_visitsBelow builder parent path attributes rest (index + 1) _ _
          (orderly_take_trace builder child ⟨some parent, index⟩ path index attributes trace h) visit hlater

end

theorem orderly_of_mem_visitsOf (builder : Builder) {elements : List Element} {index : Nat}
    {progress : Progress} {trace : Trace} (h : trace.Orderly [index]) {visit : Visit}
    (hvisit : visit ∈ builder.visitsOf elements index progress trace.waiting) :
    Trace.Orderly ⟨[], visit.waiting⟩ visit.path := by
  induction elements generalizing index progress trace with
  | nil => cases hvisit
  | cons element rest ih =>
    rw [visitsOf_cons] at hvisit
    split at hvisit
    · have happend : (trace.append (Mark.stamp .content ([] ++ [index])
          (Glyph.ofText (builder.document.text element) none))).Orderly ([] ++ [index + 1]) := h.append _
      exact ih happend hvisit
    · rcases List.mem_append.1 hvisit with hinside | hlater
      · exact orderly_of_mem_visits builder element _ _ _ _ _ h.pending visit hinside
      · exact ih (orderly_take_trace builder element ⟨none, index⟩ [] index none trace h) hlater

/-! ### Blocks and images keep nothing waiting -/

theorem shown_subset_traceChildren (builder : Builder) (parent : ElementKind) (path : List Nat)
    (attributes : Option TextAttributes) (children : List Element) (index : Nat) (trace : Trace) :
    trace.shown ⊆ (builder.traceChildren parent path attributes children index trace).shown := by
  induction children generalizing index trace with
  | nil =>
    rw [traceChildren]
    exact List.Subset.refl _
  | cons child rest ih =>
    rw [traceChildren]
    refine List.Subset.trans ?_ (ih (index + 1) _)
    split
    · exact List.Subset.refl _
    · unfold Trace.take
      split
      · exact List.Subset.refl _
      · rw [List.append_assoc]
        exact List.subset_append_left _ _

theorem shown_subset_close_frame (kind : ElementKind) (trace : Trace) (front back : List Mark) :
    trace.shown ⊆ ((trace.close kind).frame front back).shown := by
  intro mark hmark
  have hclose : mark ∈ (trace.close kind).shown := by
    unfold Trace.close
    split
    · exact List.mem_append_left _ hmark
    · exact hmark
  unfold Trace.frame
  split
  · exact hclose
  · simp [hclose]

/-- An image shows what waited ahead of itself, inside its own node. -/
theorem waiting_subset_shown_of_image (builder : Builder) {element : Element} {position : Position}
    {path : List Nat} {inherited : Option TextAttributes} {waiting : List Mark}
    (hkind : element.kind = .image)
    (hshown : (builder.trace element position path inherited waiting).shown ≠ []) :
    waiting ⊆ (builder.trace element position path inherited waiting).shown := by
  rw [trace_eq] at hshown ⊢
  split at hshown
  · exact absurd rfl hshown
  · next hvisited =>
    obtain ⟨url, hurl⟩ : ∃ url, builder.resolveImage? element = some url := by
      simpa [passesOver, hkind, Option.isNone_iff_eq_none, Option.ne_none_iff_exists'] using hvisited
    have hopened : Trace.opened (Mark.stamp .content path (builder.ownGlyphs element)) waiting =
        ⟨waiting ++ Mark.stamp .content path (builder.ownGlyphs element), []⟩ := by
      rw [Trace.opened, if_neg (by simp [ownGlyphs, hkind, hurl])]
    rw [if_neg hvisited, hopened]
    intro mark hmark
    have hbelow := shown_subset_traceChildren builder element.kind path
      (builder.attributes element inherited) element.children 0
      ⟨waiting ++ Mark.stamp .content path (builder.ownGlyphs element), []⟩ (List.mem_append_left _ hmark)
    exact shown_subset_close_frame _ _ _ _ hbelow

/-- Nothing waits behind a block. -/
theorem waiting_trace_of_isBoundary (builder : Builder) {element : Element} {position : Position}
    {path : List Nat} {inherited : Option TextAttributes} {waiting : List Mark}
    (hkind : element.kind.isBoundary = true) :
    (builder.trace element position path inherited waiting).waiting = [] := by
  have hvisited : builder.passesOver element = false := by
    unfold passesOver
    cases hcase : element.kind <;> simp_all [ElementKind.isBoundary, ElementKind.isUnsupported]
  rw [trace_eq, hvisited, if_neg (by simp), Trace.close, if_pos hkind]
  unfold Trace.frame
  split <;> rfl

end Builder

namespace Visit

variable {visit : Visit} {builder : Builder}

/-- What an element shows is its own, or comes from an element inside it. -/
def Contained (visit : Visit) (builder : Builder) : Prop :=
  ∀ mark ∈ (visit.traced builder).shown, visit.path <+: mark.path

/-- What waits on entry is not part of the element. -/
theorem not_isPrefix_of_mem_waiting (h : Trace.Orderly ⟨[], visit.waiting⟩ visit.path) {mark : Mark}
    (hmark : mark ∈ visit.waiting) : ¬visit.path <+: mark.path := by
  intro hprefix
  have hlt := h.lt_bound mark (by simpa [Trace.all] using hmark) (h.isContent mark hmark)
  exact absurd (le_of_isPrefix hprefix) (not_le.2 hlt)

/-- A waiting mark that is not lost ends up in the node of a block or an image. -/
theorem mem_shown_of_holds (hkind : visit.element.kind.isBoundary = true ∨ visit.element.kind = .image)
    (hshown : (visit.traced builder).shown ≠ []) {mark : Mark} (hmark : mark ∈ visit.waiting)
    (hholds : (visit.traced builder).Holds mark) : mark ∈ (visit.traced builder).shown := by
  rcases hkind with hboundary | himage
  · rcases hholds with hmine | ⟨_, hleft, _⟩
    · exact hmine
    · rw [Visit.traced, builder.waiting_trace_of_isBoundary hboundary] at hleft
      cases hleft
  · exact builder.waiting_subset_shown_of_image himage hshown hmark

/-- The first of the waiting marks is lost only if it is a lone line break that is dropped. -/
theorem dropped_of_not_holds {mark : Mark} {behind : List Mark} (hwaiting : visit.waiting = mark :: behind)
    (hshown : (visit.traced builder).shown ≠ []) (hlost : ¬(visit.traced builder).Holds mark) :
    behind = [] ∧ mark.isBreak = true ∧ builder.fate visit.element = some .dropped := by
  obtain ⟨hbreak, hnil⟩ : mark.isBreak = true ∧ behind = [] := by
    by_contra hnot
    refine hlost (builder.trace_holds mark visit.element _ _ _ _ (Or.inr ⟨behind, hwaiting, ?_⟩))
    exact fun hbreak hnil => hnot ⟨hbreak, hnil⟩
  refine ⟨hnil, hbreak, ?_⟩
  rcases hfate : builder.fate visit.element with _ | _ | _
  · rw [Visit.traced, builder.trace_of_fate_eq_none _ _ _ _ _ hfate] at hshown
    exact absurd rfl hshown
  · refine absurd ?_ hlost
    rw [Visit.traced, hwaiting, hnil]
    exact builder.trace_of_fate_eq_kept mark visit.element _ _ _ hfate
  · rfl

/-- What waits on entry gets into the node, unless it is a lone line break that the element drops. -/
theorem contained_iff (horderly : Trace.Orderly ⟨[], visit.waiting⟩ visit.path)
    (hkind : visit.element.kind.isBoundary = true ∨ visit.element.kind = .image)
    (hshown : (visit.traced builder).shown ≠ []) :
    visit.Contained builder ↔ visit.waiting = [] ∨
      ∃ mark, visit.waiting = [mark] ∧ mark.isBreak = true ∧
        builder.fate visit.element = some .dropped := by
  constructor
  · intro hcontained
    rcases hwaiting : visit.waiting with _ | ⟨mark, behind⟩
    · exact Or.inl rfl
    · have hmark : mark ∈ visit.waiting := hwaiting ▸ List.mem_cons_self
      have hlost : ¬(visit.traced builder).Holds mark := fun hholds =>
        not_isPrefix_of_mem_waiting horderly hmark
          (hcontained mark (mem_shown_of_holds hkind hshown hmark hholds))
      obtain ⟨hnil, hbreak, hfate⟩ := dropped_of_not_holds hwaiting hshown hlost
      exact Or.inr ⟨mark, by rw [hnil], hbreak, hfate⟩
  · intro hdropped mark hmark
    -- either way the element shows what it would show with nothing waiting
    have hown : mark ∈ (builder.trace visit.element visit.position visit.path visit.inherited []).all := by
      refine List.mem_append_left _ ?_
      rcases hdropped with hnil | ⟨waiting, hwaiting, hbreak, hfate⟩
      · rw [Visit.traced, hnil] at hmark
        exact hmark
      · rw [Visit.traced, hwaiting, builder.trace_of_fate_eq_dropped waiting hbreak _ _ _ _ hfate] at hmark
        exact hmark
    rcases builder.mem_trace visit.element _ _ _ _ mark hown with hnone | hprefix
    · cases hnone
    · exact hprefix

end Visit

namespace Document

/-- The node of a block or an image reads as what the element shows. All of that is its own or from inside it
exactly when no text waits before it, or when the only text is a line break that an empty block inside drops. -/
theorem node_contained_iff (document : Document) (profile : Profile) (base : Option Url) (visit : Visit)
    (node : Node) (hvisit : visit ∈ document.visits profile base)
    (hkind : visit.element.kind.isBoundary = true ∨ visit.element.kind = .image)
    (hnode : (visit.built { document, profile, base }).1 = some node) :
    Node.reading [node] = (visit.traced { document, profile, base }).shown.map Mark.glyph ∧
      (visit.Contained { document, profile, base } ↔ visit.progress.buffer.isEmpty = true ∨
        ∃ glyph, visit.progress.buffer.glyphs = [glyph] ∧ glyph.isBreak = true ∧
          Builder.fate { document, profile, base } visit.element = some .dropped) := by
  have haccounted := accounted_of_mem_visits hvisit
  have hshown := (haccounted.isSome_iff { document, profile, base }).1 (by simp [hnode])
  have horderly := Builder.orderly_of_mem_visitsOf { document, profile, base } (.start [0]) hvisit
  constructor
  · have hreading := (haccounted.tracks { document, profile, base }).reading_eq
    rwa [hnode, Option.toList_some] at hreading
  · rw [Visit.contained_iff horderly hkind hshown, Tracks.isEmpty_iff haccounted, haccounted.glyphs_eq]
    refine or_congr_right ⟨?_, ?_⟩
    · rintro ⟨mark, hwaiting, hbreak, hfate⟩
      exact ⟨mark.glyph, by rw [hwaiting, List.map_singleton], hbreak, hfate⟩
    · rintro ⟨glyph, hglyph, hbreak, hfate⟩
      obtain ⟨mark, hwaiting, rfl⟩ := List.map_eq_singleton_iff.1 hglyph
      exact ⟨mark, hwaiting, hbreak, hfate⟩

def nestedItem : Document where
  source := "outer inner"
  elements := [{
    kind := .listItem
    range := ⟨0, 11⟩
    children := [
      { kind := .plainRun, range := ⟨0, 5⟩ },
      { kind := .bulletedList
        range := ⟨6, 11⟩
        children := [{
          kind := .listItem
          range := ⟨6, 11⟩
          children := [{ kind := .plainRun, range := ⟨6, 11⟩ }] }] }] }]

/-- The row of the nested item takes in the text of the outer one. -/
theorem nestedItem_not_contained :
    ∃ visit ∈ nestedItem.visits .neutral none, ∃ node, visit.element.kind = .listItem ∧
      (visit.built { document := nestedItem, profile := .neutral }).1 = some node ∧
      Node.reading [node] = (visit.traced { document := nestedItem, profile := .neutral }).shown.map
        Mark.glyph ∧
      ¬visit.Contained { document := nestedItem, profile := .neutral } := by
  have hvisit := List.get_mem (nestedItem.visits .neutral none) ⟨2, by decide⟩
  have hkind : ((nestedItem.visits .neutral none).get ⟨2, by decide⟩).element.kind = .listItem := by decide
  have hsome : (((nestedItem.visits .neutral none).get ⟨2, by decide⟩).built
      { document := nestedItem, profile := .neutral }).1.isSome = true := by decide
  obtain ⟨node, hnode⟩ := Option.isSome_iff_exists.1 hsome
  obtain ⟨hreading, hcontained⟩ := nestedItem.node_contained_iff .neutral none _ node hvisit
    (Or.inl (by rw [hkind]; rfl)) hnode
  refine ⟨_, hvisit, node, hkind, hnode, hreading, ?_⟩
  rw [hcontained]
  rintro (hempty | ⟨glyph, hglyph, _⟩)
  · revert hempty
    decide
  · have hlength := congrArg List.length hglyph
    revert hlength
    simp only [List.length_singleton]
    decide

end Document

end MarkdownLayout
