import MarkdownLayout.Proofs.Conservation
import Mathlib.Data.List.Lex

/-!
# Reading order against document order

A path precedes those below it and those of later siblings, so elements stand in document order when their paths
are in lexicographic order. A walk keeps this order at every step but one: the text that a child leaves waiting
is shown ahead of the child's own node, although it comes after it in the document. So a rendered document is in
document order exactly when no element hands over a node and leaves text waiting.
-/

namespace MarkdownLayout

theorem lt_append_cons (path : List Nat) (index : Nat) (rest : List Nat) :
    path < path ++ index :: rest := by
  have h : path ++ [] < path ++ index :: rest := List.append_left_lt (List.nil_lt_cons index rest)
  rwa [List.append_nil] at h

theorem append_cons_lt (path rest : List Nat) {index later : Nat} (h : index < later) :
    path ++ index :: rest < path ++ [later] := by
  apply List.append_left_lt
  rw [List.cons_lt_cons_iff]
  exact Or.inl h

theorem le_of_isPrefix {path below : List Nat} (h : path <+: below) : path ≤ below := by
  obtain ⟨_ | ⟨index, rest⟩, rfl⟩ := h
  · simp
  · exact (lt_append_cons path index rest).le

/-- What lies inside an earlier child comes before all that lies inside a later one. -/
theorem lt_of_isPrefix_of_lt {path first second : List Nat} {index later : Nat}
    (hfirst : path ++ [index] <+: first) (hlt : index < later) (hsecond : path ++ [later] <+: second) :
    first < second := by
  obtain ⟨below, rfl⟩ := hfirst
  calc path ++ [index] ++ below = path ++ index :: below := by simp
    _ < path ++ [later] := append_cons_lt path below hlt
    _ ≤ second := le_of_isPrefix hsecond

def InDocumentOrder (marks : List Mark) : Prop :=
  (marks.filter Mark.isContent).Pairwise fun first second => first.path ≤ second.path

@[simp]
theorem inDocumentOrder_nil : InDocumentOrder [] := List.Pairwise.nil

/-- Two stretches are in order together if each is and nothing of the first belongs behind anything of the second. -/
theorem inDocumentOrder_append {front back : List Mark} :
    InDocumentOrder (front ++ back) ↔ InDocumentOrder front ∧ InDocumentOrder back ∧
      ∀ first ∈ front, first.isContent = true → ∀ second ∈ back, second.isContent = true →
        first.path ≤ second.path := by
  simp only [InDocumentOrder, List.filter_append, List.pairwise_append, List.mem_filter, and_imp]

theorem inDocumentOrder_of_forall_eq {marks : List Mark} {path : List Nat}
    (h : ∀ mark ∈ marks, mark.path = path) : InDocumentOrder marks := by
  refine List.Pairwise.filter _ (List.pairwise_of_forall_mem_list fun first hfirst second hsecond => ?_)
  rw [h first hfirst, h second hsecond]

namespace Trace

def Tidy (trace : Trace) : Prop :=
  trace.shown ≠ [] → trace.waiting = []

/-- What waits is in document order behind all that is shown, and everything comes before `bound`. -/
structure Orderly (trace : Trace) (bound : List Nat) : Prop where
  lt_bound : ∀ mark ∈ trace.all, mark.isContent = true → mark.path < bound
  isContent : ∀ mark ∈ trace.waiting, mark.isContent = true
  sorted : InDocumentOrder trace.waiting
  shown_lt : ∀ first ∈ trace.shown, first.isContent = true →
    ∀ second ∈ trace.waiting, first.path < second.path
  exists_content : trace.shown ≠ [] → ∃ mark ∈ trace.shown, mark.isContent = true

namespace Orderly

variable {trace child : Trace} {bound later path : List Nat} {index : Nat}

theorem start (bound : List Nat) : Orderly {} bound :=
  ⟨by simp [all], by simp, by simp, by simp, by simp⟩

theorem mono (h : trace.Orderly bound) (hlater : bound ≤ later) : trace.Orderly later :=
  ⟨fun mark hmark hcontent => (h.lt_bound mark hmark hcontent).trans_le hlater, h.isContent, h.sorted,
    h.shown_lt, h.exists_content⟩

theorem pending (h : trace.Orderly bound) : Orderly ⟨[], trace.waiting⟩ bound :=
  ⟨fun mark hmark => h.lt_bound mark (List.mem_append_right _ (by simpa [all] using hmark)),
    h.isContent, h.sorted, by simp, by simp⟩

/-- On entry the own marks of an element come behind all that waits and before its children. -/
theorem opened {waiting : List Mark} (h : Orderly ⟨[], waiting⟩ path) (glyphs : List Glyph) :
    (opened (Mark.stamp .content path glyphs) waiting).Orderly (path ++ [0]) ∧
      InDocumentOrder (opened (Mark.stamp .content path glyphs) waiting).shown := by
  have hlt : path < path ++ [0] := lt_append_cons path 0 []
  have hown : ∀ mark ∈ Mark.stamp .content path glyphs, mark.path = path ∧ mark.isContent = true :=
    fun mark hmark => ⟨(Mark.eq_of_mem_stamp hmark).2, by simp [Mark.isContent, Mark.eq_of_mem_stamp hmark]⟩
  have hwaiting : ∀ mark ∈ waiting, mark.path < path := fun mark hmark =>
    h.lt_bound mark (by simpa [all] using hmark) (h.isContent mark hmark)
  unfold Trace.opened
  split
  · exact ⟨h.mono hlt.le, inDocumentOrder_nil⟩
  · next hne =>
    refine ⟨⟨?_, by simp, by simp, by simp, fun _ => ?_⟩, ?_⟩
    · intro mark hmark _
      rcases List.mem_append.1 (by simpa [all] using hmark) with hbefore | hmine
      · exact (hwaiting mark hbefore).trans hlt
      · exact (hown mark hmine).1 ▸ hlt
    · obtain ⟨mark, hmark⟩ := List.exists_mem_of_ne_nil (Mark.stamp .content path glyphs) (by simpa using hne)
      exact ⟨mark, List.mem_append_right _ hmark, (hown mark hmark).2⟩
    · refine inDocumentOrder_append.2 ⟨h.sorted, inDocumentOrder_of_forall_eq fun mark hmark =>
        (hown mark hmark).1, fun first hfirst _ second hsecond _ => ?_⟩
      rw [(hown second hsecond).1]
      exact (hwaiting first hfirst).le

/-- A leaf adds its marks at its own place, which is before the next child. -/
theorem append (h : trace.Orderly (path ++ [index])) (glyphs : List Glyph) :
    (trace.append (Mark.stamp .content (path ++ [index]) glyphs)).Orderly (path ++ [index + 1]) := by
  have hlt : path ++ [index] < path ++ [index + 1] := append_cons_lt path [] (Nat.lt_succ_self index)
  have hleaf : ∀ mark ∈ Mark.stamp .content (path ++ [index]) glyphs,
      mark.path = path ++ [index] ∧ mark.isContent = true := fun mark hmark =>
    ⟨(Mark.eq_of_mem_stamp hmark).2, by simp [Mark.isContent, Mark.eq_of_mem_stamp hmark]⟩
  refine ⟨?_, ?_, ?_, ?_, h.exists_content⟩
  · intro mark hmark hcontent
    rcases List.mem_append.1 (all_append .. ▸ hmark) with hbefore | hmine
    · exact (h.lt_bound mark hbefore hcontent).trans hlt
    · exact (hleaf mark hmine).1 ▸ hlt
  · intro mark hmark
    rcases List.mem_append.1 hmark with hbefore | hmine
    · exact h.isContent mark hbefore
    · exact (hleaf mark hmine).2
  · refine inDocumentOrder_append.2 ⟨h.sorted, inDocumentOrder_of_forall_eq fun mark hmark =>
      (hleaf mark hmark).1, fun first hfirst hcontent second hsecond _ => ?_⟩
    rw [(hleaf second hsecond).1]
    exact (h.lt_bound first (List.mem_append_right _ hfirst) hcontent).le
  · intro first hfirst hcontent second hsecond
    rcases List.mem_append.1 hsecond with hbefore | hmine
    · exact h.shown_lt first hfirst hcontent second hbefore
    · rw [(hleaf second hmine).1]
      exact h.lt_bound first (List.mem_append_left _ hfirst) hcontent

/-- What is shown already comes before all that a child adds. -/
theorem shown_lt_child (h : trace.Orderly path)
    (horigin : ∀ mark ∈ child.all, mark ∈ trace.waiting ∨ path <+: mark.path) :
    ∀ first ∈ trace.shown, first.isContent = true → ∀ second ∈ child.all, first.path < second.path := by
  intro first hfirst hcontent second hsecond
  rcases horigin second hsecond with hwaiting | hbelow
  · exact h.shown_lt first hfirst hcontent second hwaiting
  · exact (h.lt_bound first (List.mem_append_left _ hfirst) hcontent).trans_le (le_of_isPrefix hbelow)

/-- Order is kept from one child to the next. -/
theorem take (h : trace.Orderly path) (hchild : child.Orderly bound) (hbound : path ≤ bound)
    (horigin : ∀ mark ∈ child.all, mark ∈ trace.waiting ∨ path <+: mark.path) :
    (trace.take child).Orderly bound := by
  have hlt : ∀ mark ∈ (trace.take child).all, mark.isContent = true → mark.path < bound := by
    intro mark hmark hcontent
    rcases List.mem_append.1 ((all_take_perm ..).mem_iff.1 hmark) with hshown | hinside
    · exact (h.lt_bound mark (List.mem_append_left _ hshown) hcontent).trans_le hbound
    · exact hchild.lt_bound mark hinside hcontent
  by_cases hnil : child.shown = []
  · rw [take_of_silent trace hnil] at hlt ⊢
    exact ⟨hlt, hchild.isContent, hchild.sorted, fun first hfirst hcontent second hsecond =>
      h.shown_lt_child horigin first hfirst hcontent second (List.mem_append_right _ hsecond),
      h.exists_content⟩
  · rw [take_of_shown trace hnil] at hlt ⊢
    refine ⟨hlt, by simp, by simp, by simp, fun _ => ?_⟩
    obtain ⟨mark, hmark, hcontent⟩ := hchild.exists_content hnil
    exact ⟨mark, List.mem_append_right _ hmark, hcontent⟩

/-- Taking a child keeps the order unless the child shows something and leaves text waiting. -/
theorem inDocumentOrder_take (h : trace.Orderly path) (hchild : child.Orderly bound)
    (horigin : ∀ mark ∈ child.all, mark ∈ trace.waiting ∨ path <+: mark.path) :
    InDocumentOrder (trace.take child).shown ↔
      InDocumentOrder trace.shown ∧ InDocumentOrder child.shown ∧ child.Tidy := by
  by_cases hne : child.shown = []
  · simp [take_of_silent trace hne, hne, Tidy]
  · rw [take_of_shown trace hne]
    constructor
    · intro hall
      obtain ⟨hfront, hshown, hcross⟩ := inDocumentOrder_append.1 hall
      refine ⟨(inDocumentOrder_append.1 hfront).1, hshown, fun _ => ?_⟩
      -- a mark left waiting stands ahead of the child's own, which precede it
      by_contra hwaiting
      obtain ⟨late, hlate⟩ := List.exists_mem_of_ne_nil _ hwaiting
      obtain ⟨mark, hmark, hcontent⟩ := hchild.exists_content hne
      have hle := hcross late (List.mem_append_right _ hlate) (hchild.isContent late hlate) mark hmark hcontent
      exact absurd (hchild.shown_lt mark hmark hcontent late hlate) (not_lt.2 hle)
    · rintro ⟨hbefore, hshown, htidy⟩
      rw [htidy hne, List.append_nil]
      exact inDocumentOrder_append.2 ⟨hbefore, hshown, fun first hfirst hcontent second hsecond _ =>
        (h.shown_lt_child horigin first hfirst hcontent second (List.mem_append_left _ hsecond)).le⟩

theorem flush (h : trace.Orderly bound) :
    InDocumentOrder trace.flush.shown ↔ InDocumentOrder trace.shown := by
  rw [Trace.flush, inDocumentOrder_append]
  exact ⟨fun hall => hall.1, fun hshown => ⟨hshown, h.sorted, fun first hfirst hcontent second hsecond _ =>
    (h.shown_lt first hfirst hcontent second hsecond).le⟩⟩

/-- The end of a block changes nothing in what order there is. -/
theorem close (h : trace.Orderly bound) (kind : ElementKind) :
    (trace.close kind).Orderly bound ∧
      (InDocumentOrder (trace.close kind).shown ↔ InDocumentOrder trace.shown) := by
  unfold Trace.close
  split
  · have hsub := withoutFinal_sublist Mark.isBreak trace.waiting
    have htrimmed : Orderly ⟨trace.shown, withoutFinal Mark.isBreak trace.waiting⟩ bound :=
      ⟨fun mark hmark => h.lt_bound mark ((hsub.append_left trace.shown).subset hmark),
        fun mark hmark => h.isContent mark (hsub.subset hmark), h.sorted.sublist (hsub.filter _),
        fun first hfirst hcontent second hsecond =>
          h.shown_lt first hfirst hcontent second (hsub.subset hsecond), h.exists_content⟩
    refine ⟨⟨?_, by simp, by simp, by simp, fun hne => ?_⟩, htrimmed.flush⟩
    · simpa [all] using htrimmed.lt_bound
    · obtain ⟨mark, hmark⟩ := List.exists_mem_of_ne_nil _ hne
      rcases List.mem_append.1 hmark with hshown | hwaiting
      · obtain ⟨mark, hmark, hcontent⟩ := h.exists_content (List.ne_nil_of_mem hshown)
        exact ⟨mark, List.mem_append_left _ hmark, hcontent⟩
      · exact ⟨mark, hmark, htrimmed.isContent mark hwaiting⟩
  · exact ⟨h, Iff.rfl⟩

/-- Frames have no place in the document and so cannot break its order. -/
theorem frame (h : trace.Orderly bound) (front back : List Mark)
    (hfront : ∀ mark ∈ front, mark.isContent = false) (hback : ∀ mark ∈ back, mark.isContent = false) :
    (trace.frame front back).Orderly bound ∧
      (InDocumentOrder (trace.frame front back).shown ↔ InDocumentOrder trace.shown) ∧
      ((trace.frame front back).Tidy ↔ trace.Tidy) := by
  have hmem : ∀ mark ∈ front ++ trace.shown ++ back, mark.isContent = true → mark ∈ trace.shown := by
    intro mark hmark hcontent
    rcases List.mem_append.1 hmark with hinner | hmark
    · rcases List.mem_append.1 hinner with hmark | hshown
      · simp [hfront mark hmark] at hcontent
      · exact hshown
    · simp [hback mark hmark] at hcontent
  unfold Trace.frame
  split
  · exact ⟨h, Iff.rfl, Iff.rfl⟩
  · next hne =>
    rw [List.isEmpty_iff] at hne
    refine ⟨⟨?_, h.isContent, h.sorted, ?_, fun _ => ?_⟩, ?_, by simp [Tidy, hne]⟩
    · intro mark hmark hcontent
      rcases List.mem_append.1 hmark with hshown | hwaiting
      · exact h.lt_bound mark (List.mem_append_left _ (hmem mark hshown hcontent)) hcontent
      · exact h.lt_bound mark (List.mem_append_right _ hwaiting) hcontent
    · exact fun first hfirst hcontent => h.shown_lt first (hmem first hfirst hcontent) hcontent
    · obtain ⟨mark, hmark, hcontent⟩ := h.exists_content hne
      exact ⟨mark, by simp [hmark], hcontent⟩
    · have hf : front.filter Mark.isContent = [] := List.filter_eq_nil_iff.2 fun mark hmark => by
        simp [hfront mark hmark]
      have hb : back.filter Mark.isContent = [] := List.filter_eq_nil_iff.2 fun mark hmark => by
        simp [hback mark hmark]
      simp [InDocumentOrder, hf, hb]

end Orderly

end Trace

/-! ## The order of a walk

An element is built after all that comes before it, and what it leaves comes before whatever follows it. -/

namespace Builder

mutual

/-- An element shows what it holds in order, with nothing left waiting, exactly when all visits in it do. -/
theorem trace_orderly (builder : Builder) :
    ∀ (element : Element) (position : Position) (path : List Nat) (inherited : Option TextAttributes)
      (progress : Progress) (waiting : List Mark) (bound : List Nat), Trace.Orderly ⟨[], waiting⟩ path →
      (∀ below, path ++ below < bound) →
      (builder.trace element position path inherited waiting).Orderly bound ∧
        (InDocumentOrder (builder.trace element position path inherited waiting).shown ∧
            (builder.trace element position path inherited waiting).Tidy ↔
          ∀ visit ∈ builder.visits element position path inherited progress waiting,
            (visit.traced builder).Tidy)
  | ⟨kind, range, children, href, alt, level⟩, position, path, inherited, progress, waiting, bound, h,
      hbound => by
    have htrace := trace_eq builder ⟨kind, range, children, href, alt, level⟩ position path inherited waiting
    rw [visits, List.forall_mem_cons, Visit.traced]
    cases hopening : builder.opening ⟨kind, range, children, href, alt, level⟩ progress with
    | none =>
      rw [if_pos (opening_eq_none_iff.1 hopening)] at htrace
      rw [htrace]
      exact ⟨h.mono (by simpa using (hbound []).le), by simp [Trace.Tidy]⟩
    | some opened =>
      rw [if_neg (not_passesOver_of_opening hopening)] at htrace
      obtain ⟨hopened, hown⟩ :=
        h.opened (builder.ownGlyphs ⟨kind, range, children, href, alt, level⟩)
      obtain ⟨later, hbelow, hchildren⟩ := traceChildren_orderly builder kind path
        (builder.attributes ⟨kind, range, children, href, alt, level⟩ inherited) children 0 opened.2 _ hopened
      obtain ⟨hclosed, hclose⟩ := hbelow.close kind
      obtain ⟨hframed, hframe, _⟩ := hclosed.frame
        (builder.front ⟨kind, range, children, href, alt, level⟩ position path
          (builder.attributes ⟨kind, range, children, href, alt, level⟩ inherited))
        (builder.back ⟨kind, range, children, href, alt, level⟩ path)
        (fun mark hmark => (path_of_mem_front hmark).2) (fun mark hmark => (path_of_mem_back hmark).2)
      rw [← htrace] at hframed hframe
      refine ⟨hframed.mono (hbound [later]).le, ?_⟩
      rw [hframe, hclose, hchildren, and_iff_right hown]
      exact and_comm

/-- Children are shown in order exactly when all visits in them leave nothing waiting behind a node. -/
theorem traceChildren_orderly (builder : Builder) (parent : ElementKind) (path : List Nat)
    (attributes : Option TextAttributes) :
    ∀ (children : List Element) (index : Nat) (progress : Progress) (trace : Trace),
      trace.Orderly (path ++ [index]) →
      ∃ later, (builder.traceChildren parent path attributes children index trace).Orderly (path ++ [later]) ∧
        (InDocumentOrder (builder.traceChildren parent path attributes children index trace).shown ↔
          InDocumentOrder trace.shown ∧
            ∀ visit ∈ builder.visitsBelow parent path attributes children index progress trace.waiting,
              (visit.traced builder).Tidy)
  | [], index, progress, trace, h => by
    rw [traceChildren, visitsBelow]
    exact ⟨index, h, by simp⟩
  | child :: rest, index, progress, trace, h => by
    rw [traceChildren, visitsBelow_cons]
    split
    · exact traceChildren_orderly builder parent path attributes rest (index + 1) _ _ (h.append _)
    · have hbound : ∀ below, path ++ [index] ++ below < path ++ [index + 1] := fun below => by
        rw [List.append_assoc]
        exact append_cons_lt path below (Nat.lt_succ_self index)
      obtain ⟨hchild, hvisits⟩ := trace_orderly builder child ⟨some parent, index⟩ (path ++ [index])
        attributes progress trace.waiting _ h.pending hbound
      have horigin := mem_trace builder child ⟨some parent, index⟩ (path ++ [index]) attributes trace.waiting
      have htaken := h.take hchild (by simpa using (hbound []).le) horigin
      obtain ⟨later, hlater, hrest⟩ := traceChildren_orderly builder parent path attributes rest (index + 1)
        (Visit.progressAfter ⟨child, ⟨some parent, index⟩, path ++ [index], attributes, progress,
          trace.waiting⟩ builder) _ htaken
      refine ⟨later, hlater, ?_⟩
      rw [List.forall_mem_append, hrest, h.inDocumentOrder_take hchild horigin, ← hvisits, and_assoc]
      rfl

end

theorem orderly_take_trace (builder : Builder) (child : Element) (position : Position) (path : List Nat)
    (index : Nat) (inherited : Option TextAttributes) (trace : Trace) (h : trace.Orderly (path ++ [index])) :
    (trace.take (builder.trace child position (path ++ [index]) inherited trace.waiting)).Orderly
      (path ++ [index + 1]) := by
  have hbound : ∀ below, path ++ [index] ++ below < path ++ [index + 1] := fun below => by
    rw [List.append_assoc]
    exact append_cons_lt path below (Nat.lt_succ_self index)
  have hchild := (trace_orderly builder child position (path ++ [index]) inherited {} trace.waiting _
    h.pending hbound).1
  exact h.take hchild (by simpa using (hbound []).le)
    (mem_trace builder child position (path ++ [index]) inherited trace.waiting)

/-- At the top level the order breaks at a visit or nowhere. -/
theorem inDocumentOrder_traceElements (builder : Builder) (elements : List Element) (index : Nat)
    (progress : Progress) (trace : Trace) (h : trace.Orderly [index]) :
    InDocumentOrder (builder.traceElements elements index trace).shown ↔
      InDocumentOrder trace.shown ∧
        ∀ visit ∈ builder.visitsOf elements index progress trace.waiting, (visit.traced builder).Tidy := by
  induction elements generalizing index progress trace with
  | nil =>
    rw [traceElements, visitsOf, h.flush]
    simp
  | cons element rest ih =>
    rw [traceElements, visitsOf_cons]
    have hbound : ∀ below, [index] ++ below < [index + 1] := fun below =>
      append_cons_lt [] below (Nat.lt_succ_self index)
    split
    · have happend : (trace.append (Mark.stamp .content ([] ++ [index])
          (Glyph.ofText (builder.document.text element) none))).Orderly ([] ++ [index + 1]) := h.append _
      exact ih (index + 1) _ _ happend
    · obtain ⟨hfirst, hvisits⟩ := trace_orderly builder element ⟨none, index⟩ [index] none progress
        trace.waiting _ h.pending hbound
      have horigin := mem_trace builder element ⟨none, index⟩ [index] none trace.waiting
      have htaken : (trace.take (builder.trace element ⟨none, index⟩ [index] none trace.waiting)).Orderly
          [index + 1] := orderly_take_trace builder element ⟨none, index⟩ [] index none trace h
      rw [ih (index + 1) (Visit.progressAfter ⟨element, ⟨none, index⟩, [index], none, progress,
        trace.waiting⟩ builder) _ htaken, List.forall_mem_append, h.inDocumentOrder_take hfirst horigin,
        ← hvisits, and_assoc]
      rfl

/-! ## The order of contributions -/

mutual

/-- Every mark of an element lies inside it. -/
theorem isPrefix_of_mem_marks (builder : Builder) :
    ∀ (element : Element) (path : List Nat) (inherited : Option TextAttributes),
      ∀ mark ∈ builder.marks element path inherited, path <+: mark.path ∧ mark.isContent = true
  | ⟨kind, range, children, href, alt, level⟩, path, inherited, mark, hmark => by
    rw [marks] at hmark
    split at hmark
    · cases hmark
    · rcases List.mem_append.1 hmark with hown | hbelow
      · rw [Mark.isContent, (Mark.eq_of_mem_stamp hown).1, (Mark.eq_of_mem_stamp hown).2]
        exact ⟨List.prefix_rfl, rfl⟩
      · obtain ⟨later, _, hprefix, hcontent⟩ := isPrefix_of_mem_marksBelow builder path _ children 0 mark hbelow
        exact ⟨(List.prefix_append path [later]).trans hprefix, hcontent⟩

theorem isPrefix_of_mem_marksBelow (builder : Builder) (path : List Nat)
    (attributes : Option TextAttributes) :
    ∀ (children : List Element) (index : Nat), ∀ mark ∈ builder.marksBelow path attributes children index,
      ∃ later, index ≤ later ∧ path ++ [later] <+: mark.path ∧ mark.isContent = true
  | [], _, mark, hmark => by
    rw [marksBelow] at hmark
    cases hmark
  | child :: rest, index, mark, hmark => by
    rw [marksBelow] at hmark
    rcases List.mem_append.1 hmark with hchild | hrest
    · split at hchild
      · rw [Mark.isContent, (Mark.eq_of_mem_stamp hchild).1, (Mark.eq_of_mem_stamp hchild).2]
        exact ⟨index, Nat.le_refl index, List.prefix_rfl, rfl⟩
      · exact ⟨index, Nat.le_refl index, isPrefix_of_mem_marks builder child _ _ mark hchild⟩
    · obtain ⟨later, hle, hprefix⟩ := isPrefix_of_mem_marksBelow builder path attributes rest _ mark hrest
      exact ⟨later, Nat.le_of_succ_le hle, hprefix⟩

end

mutual

/-- Depth first is document order. -/
theorem marks_inDocumentOrder (builder : Builder) :
    ∀ (element : Element) (path : List Nat) (inherited : Option TextAttributes),
      InDocumentOrder (builder.marks element path inherited)
  | ⟨kind, range, children, href, alt, level⟩, path, inherited => by
    rw [marks]
    split
    · exact inDocumentOrder_nil
    · have hown : ∀ mark ∈ Mark.stamp .content path
          (builder.ownGlyphs ⟨kind, range, children, href, alt, level⟩), mark.path = path :=
        fun mark hmark => (Mark.eq_of_mem_stamp hmark).2
      refine inDocumentOrder_append.2 ⟨inDocumentOrder_of_forall_eq hown,
        marksBelow_inDocumentOrder builder path _ children 0, fun first hfirst _ second hsecond _ => ?_⟩
      obtain ⟨later, _, hprefix, _⟩ := isPrefix_of_mem_marksBelow builder path _ children 0 second hsecond
      rw [hown first hfirst]
      exact le_of_isPrefix ((List.prefix_append path [later]).trans hprefix)

theorem marksBelow_inDocumentOrder (builder : Builder) (path : List Nat)
    (attributes : Option TextAttributes) :
    ∀ (children : List Element) (index : Nat),
      InDocumentOrder (builder.marksBelow path attributes children index)
  | [], _ => by
    rw [marksBelow]
    exact inDocumentOrder_nil
  | child :: rest, index => by
    rw [marksBelow]
    have hrest := marksBelow_inDocumentOrder builder path attributes rest (index + 1)
    split
    · have hleaf : ∀ mark ∈ Mark.stamp .content (path ++ [index]) (builder.leafGlyphs child attributes),
          mark.path = path ++ [index] := fun mark hmark => (Mark.eq_of_mem_stamp hmark).2
      refine inDocumentOrder_append.2 ⟨inDocumentOrder_of_forall_eq hleaf, hrest,
        fun first hfirst _ second hsecond _ => ?_⟩
      obtain ⟨later, hlt, hprefix, _⟩ := isPrefix_of_mem_marksBelow builder path _ rest _ second hsecond
      exact (lt_of_isPrefix_of_lt (hleaf first hfirst ▸ List.prefix_rfl) hlt hprefix).le
    · refine inDocumentOrder_append.2 ⟨marks_inDocumentOrder builder child _ _, hrest,
        fun first hfirst _ second hsecond _ => ?_⟩
      obtain ⟨later, hlt, hprefix, _⟩ := isPrefix_of_mem_marksBelow builder path _ rest _ second hsecond
      exact (lt_of_isPrefix_of_lt (isPrefix_of_mem_marks builder child _ _ first hfirst).1 hlt hprefix).le

end

theorem isPrefix_of_mem_marksOf (builder : Builder) {elements : List Element} {index : Nat} {mark : Mark}
    (hmark : mark ∈ builder.marksOf elements index) :
    ∃ later, index ≤ later ∧ [later] <+: mark.path ∧ mark.isContent = true := by
  induction elements generalizing index with
  | nil => cases hmark
  | cons element rest ih =>
    rw [marksOf] at hmark
    rcases List.mem_append.1 hmark with hfirst | hrest
    · split at hfirst
      · rw [Mark.isContent, (Mark.eq_of_mem_stamp hfirst).1, (Mark.eq_of_mem_stamp hfirst).2]
        exact ⟨index, Nat.le_refl index, List.prefix_rfl, rfl⟩
      · exact ⟨index, Nat.le_refl index, isPrefix_of_mem_marks builder element _ _ mark hfirst⟩
    · obtain ⟨later, hle, hprefix⟩ := ih hrest
      exact ⟨later, Nat.le_of_succ_le hle, hprefix⟩

theorem marksOf_inDocumentOrder (builder : Builder) (elements : List Element) (index : Nat) :
    InDocumentOrder (builder.marksOf elements index) := by
  induction elements generalizing index with
  | nil => exact inDocumentOrder_nil
  | cons element rest ih =>
    rw [marksOf]
    have hfirst : InDocumentOrder (if element.kind = .html then
          Mark.stamp .content [index] (Glyph.ofText (builder.document.text element) none)
        else builder.marks element [index] none) := by
      split
      · exact inDocumentOrder_of_forall_eq fun mark hmark => (Mark.eq_of_mem_stamp hmark).2
      · exact marks_inDocumentOrder builder element [index] none
    refine inDocumentOrder_append.2 ⟨hfirst, ih (index + 1), fun first hmem _ second hsecond _ => ?_⟩
    obtain ⟨later, hlt, hprefix, _⟩ := isPrefix_of_mem_marksOf builder hsecond
    have hbefore : [] ++ [index] <+: first.path := by
      split at hmem
      · exact (Mark.eq_of_mem_stamp hmem).2 ▸ List.prefix_rfl
      · exact (isPrefix_of_mem_marks builder element [index] none first hmem).1
    exact (lt_of_isPrefix_of_lt hbefore hlt hprefix).le

end Builder

namespace Document

variable (document : Document) (profile : Profile) (base : Option Url)

theorem marks_inDocumentOrder : InDocumentOrder (document.marks profile base) :=
  Builder.marksOf_inDocumentOrder _ document.elements 0

/-- All that the visited elements contribute is shown somewhere, line breaks apart. -/
theorem exists_content_perm : ∃ dropped : List Mark, (∀ mark ∈ dropped, mark.isBreak = true) ∧
    ((document.trace profile base).filter Mark.isContent ++ dropped).Perm (document.marks profile base) := by
  obtain ⟨dropped, hbreak, _, hperm⟩ := document.trace_balanced profile base
  refine ⟨dropped.filter Mark.isContent, fun mark hmark => hbreak mark (List.mem_filter.1 hmark).1, ?_⟩
  have hcontent := hperm.filter Mark.isContent
  have hmarks : (document.marks profile base).filter Mark.isContent = document.marks profile base := by
    refine List.filter_eq_self.2 fun mark hmark => ?_
    obtain ⟨_, _, _, hcontent⟩ := Builder.isPrefix_of_mem_marksOf _ hmark
    exact hcontent
  have hframes : ((document.visits profile base).flatMap
      (Visit.frame · { document, profile, base })).filter Mark.isContent = [] := by
    refine List.filter_eq_nil_iff.2 fun mark hmark => ?_
    obtain ⟨visit, _, hmem⟩ := List.mem_flatMap.1 hmark
    simp [Visit.isContent_of_mem_frame hmem]
  rwa [List.nil_append, List.filter_append, List.filter_append, hmarks, hframes, List.append_nil] at hcontent

/-- A document reads in its own order exactly when no element hands over a node and leaves text waiting. -/
theorem reading_inDocumentOrder_iff :
    Node.reading (document.render profile base).nodes = (document.trace profile base).map Mark.glyph ∧
      (∃ dropped : List Mark, (∀ mark ∈ dropped, mark.isBreak = true) ∧
        ((document.trace profile base).filter Mark.isContent ++ dropped).Perm
          (document.marks profile base)) ∧
      InDocumentOrder (document.marks profile base) ∧
      (InDocumentOrder (document.trace profile base) ↔ ∀ visit ∈ document.visits profile base,
        (visit.built { document, profile, base }).1.isSome = true →
          (visit.built { document, profile, base }).2.buffer.isEmpty = true) := by
  refine ⟨document.reading_nodes_eq profile base, document.exists_content_perm profile base,
    document.marks_inDocumentOrder profile base, ?_⟩
  have htidy := Builder.inDocumentOrder_traceElements { document, profile, base } document.elements 0 {} {}
    (.start [0])
  rw [and_iff_right inDocumentOrder_nil] at htidy
  refine htidy.trans (forall₂_congr fun visit hvisit => ?_)
  have haccounted := accounted_of_mem_visits hvisit
  rw [haccounted.isSome_iff, (haccounted.tracks _).isEmpty_iff]
  rfl

def captioned : Document where
  source := "a"
  elements := [{
    kind := .strong
    range := ⟨0, 1⟩
    children := [{ kind := .image, range := ⟨0, 0⟩, href := some "http://a/b" },
      { kind := .plainRun, range := ⟨0, 1⟩ }] }]

example : ¬InDocumentOrder (captioned.trace .neutral none) := by
  unfold InDocumentOrder
  decide

end Document

end MarkdownLayout
