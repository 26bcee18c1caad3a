import MarkdownLayout.Proofs.Provenance

/-!
# Laws of the walk

Nodes are made in four places: where waiting text is flushed, at a rule, at an image, and around the nodes of an
element. The buffer changes in three ways: text is added, a final newline is dropped, and everything is taken. What
these seven steps see to holds of every node and of all waiting text, in any document.
-/

namespace MarkdownLayout

namespace Builder

/-- `node` holds of what the steps of a walk make and `waiting` of what they leave in the buffer. -/
structure WalkLaw (builder : Builder) (node : Node → Prop) (waiting : TextBuffer → Prop) : Prop where
  empty : waiting .empty
  append : ∀ {buffer : TextBuffer} (text : String) (attributes : Option TextAttributes),
    waiting buffer → waiting (buffer.append text attributes)
  trim : ∀ {buffer : TextBuffer}, waiting buffer → waiting buffer.trimNewline.1
  flush : ∀ {buffer : TextBuffer}, waiting buffer → ∀ flushed ∈ buffer.flush, node flushed
  rule : node builder.profile.rule.node
  image : ∀ placeholder, node (.image placeholder)
  closing : ∀ (element : Element) (position : Position) (attributes : Option TextAttributes) {nodes : List Node},
    (∀ inner ∈ nodes, node inner) → ∀ closed ∈ builder.closing element position attributes nodes, node closed

namespace WalkLaw

variable {builder : Builder} {node : Node → Prop} {waiting : TextBuffer → Prop} {nodes : List Node}
  {progress : Progress}

structure Kept (node : Node → Prop) (waiting : TextBuffer → Prop) (nodes : List Node) (progress : Progress) : Prop where
  nodes : ∀ made ∈ nodes, node made
  waiting : waiting progress.buffer

theorem Kept.pending (h : Kept node waiting nodes progress) : Kept node waiting [] progress :=
  ⟨by simp, h.waiting⟩

theorem kept_appendLeaf (law : builder.WalkLaw node waiting) (h : Kept node waiting nodes progress) (leaf : Element)
    (attributes : Option TextAttributes) : Kept node waiting nodes (builder.appendLeaf leaf attributes progress) := by
  unfold appendLeaf
  split
  · exact ⟨h.nodes, law.append "\n" none h.waiting⟩
  · exact ⟨h.nodes, law.append _ attributes h.waiting⟩

theorem kept_flushInto (law : builder.WalkLaw node waiting) (h : Kept node waiting nodes progress) :
    Kept node waiting (progress.flushInto nodes).1 (progress.flushInto nodes).2 where
  nodes := by
    intro made hmade
    rcases List.mem_append.1 hmade with hbefore | hflushed
    · exact h.nodes made hbefore
    · exact law.flush h.waiting made (Option.mem_toList.1 hflushed)
  waiting := law.empty

theorem kept_push (law : builder.WalkLaw node waiting) (h : Kept node waiting nodes progress) {next : Node}
    (hnext : node next) : Kept node waiting (progress.push nodes next).1 (progress.push nodes next).2 where
  nodes := by
    intro made hmade
    rcases List.mem_append.1 hmade with hbefore | hlast
    · exact (law.kept_flushInto h).nodes made hbefore
    · exact List.mem_singleton.1 hlast ▸ hnext
  waiting := law.empty

/-- A child that keeps to the law leaves it kept. -/
theorem kept_take (law : builder.WalkLaw node waiting) (h : Kept node waiting nodes progress) {built : Option Node}
    {after : Progress} (hbuilt : Kept node waiting built.toList after) :
    Kept node waiting (built.elim (nodes, after) (after.push nodes)).1
      (built.elim (nodes, after) (after.push nodes)).2 := by
  have hafter : Kept node waiting nodes after := ⟨h.nodes, hbuilt.waiting⟩
  cases built with
  | none => exact hafter
  | some made => exact law.kept_push hafter (hbuilt.nodes made (List.mem_singleton_self made))

theorem kept_flushBoundary (law : builder.WalkLaw node waiting) (h : Kept node waiting nodes progress)
    (kind : ElementKind) :
    Kept node waiting (flushBoundary kind nodes progress).1 (flushBoundary kind nodes progress).2 := by
  unfold flushBoundary
  split
  · exact law.kept_flushInto ⟨h.nodes, law.trim h.waiting⟩
  · exact h

theorem kept_opening (law : builder.WalkLaw node waiting) (h : waiting progress.buffer) {element : Element}
    {after : Progress} (hopening : builder.opening element progress = some (nodes, after)) :
    Kept node waiting nodes after := by
  have hstart : Kept node waiting [] progress := ⟨by simp, h⟩
  unfold opening at hopening
  split at hopening
  · cases hopening
    exact law.kept_push hstart law.rule
  · obtain ⟨url, -, hpushed⟩ := Option.map_eq_some_iff.1 hopening
    cases hpushed
    have hpush := law.kept_push hstart (law.image ⟨progress.images.length, url, element.alt⟩)
    exact ⟨hpush.nodes, hpush.waiting⟩
  · split at hopening
    · cases hopening
    · cases hopening
      exact hstart

/-- What is built inside an element keeps to the law and so does the node around it. -/
theorem kept_closing (law : builder.WalkLaw node waiting) (h : Kept node waiting nodes progress) (element : Element)
    (position : Position) (attributes : Option TextAttributes) :
    Kept node waiting (builder.closing element position attributes nodes).toList progress :=
  ⟨fun closed hclosed => law.closing element position attributes h.nodes closed (Option.mem_toList.1 hclosed),
    h.waiting⟩

mutual

/-- A walk keeps to the law if each of its steps does. -/
theorem kept_build (law : builder.WalkLaw node waiting) :
    ∀ (element : Element) (position : Position) (inherited : Option TextAttributes) (progress : Progress),
      waiting progress.buffer →
      Kept node waiting (builder.build element position inherited progress).1.toList
        (builder.build element position inherited progress).2
  | ⟨kind, range, children, href, alt, level⟩, position, inherited, progress, h => by
    rw [build]
    cases hopening : builder.opening ⟨kind, range, children, href, alt, level⟩ progress with
    | none => exact ⟨by simp, h⟩
    | some opened =>
      have hchildren := law.kept_buildChildren kind
        (builder.attributes ⟨kind, range, children, href, alt, level⟩ inherited) children 0 opened.1 opened.2
        (law.kept_opening h hopening)
      exact law.kept_closing (law.kept_flushBoundary hchildren kind) _ position _

theorem kept_buildChildren (law : builder.WalkLaw node waiting) (parent : ElementKind)
    (attributes : Option TextAttributes) :
    ∀ (children : List Element) (index : Nat) (nodes : List Node) (progress : Progress),
      Kept node waiting nodes progress →
      Kept node waiting (builder.buildChildren parent attributes children index nodes progress).1
        (builder.buildChildren parent attributes children index nodes progress).2
  | [], _, _, _, h => by
    rw [buildChildren]
    exact h
  | child :: rest, index, nodes, progress, h => by
    rw [buildChildren_cons]
    split
    · exact law.kept_buildChildren parent attributes rest (index + 1) nodes _ (law.kept_appendLeaf h child attributes)
    · have hchild := law.kept_build child ⟨some parent, index⟩ attributes progress h.waiting
      exact law.kept_buildChildren parent attributes rest (index + 1) _ _ (law.kept_take h hchild)

end

/-- A whole rendering does as well. -/
theorem kept_renderElements (law : builder.WalkLaw node waiting) (elements : List Element) (index : Nat)
    (nodes : List Node) (progress : Progress) (h : Kept node waiting nodes progress) :
    Kept node waiting (builder.renderElements elements index nodes progress).1
      (builder.renderElements elements index nodes progress).2 := by
  induction elements generalizing index nodes progress with
  | nil =>
    rw [renderElements]
    exact law.kept_flushInto h
  | cons element rest ih =>
    rw [renderElements_cons]
    split
    · exact ih (index + 1) nodes _ ⟨h.nodes, law.append _ none h.waiting⟩
    · have hbuilt := law.kept_build element ⟨none, index⟩ none progress h.waiting
      exact ih (index + 1) _ _ (law.kept_take h hbuilt)

end WalkLaw

end Builder

namespace Document

theorem render_upholds {node : Node → Prop} {waiting : TextBuffer → Prop} (document : Document) (profile : Profile)
    (base : Option Url) (law : Builder.WalkLaw { document, profile, base } node waiting) :
    ∀ made ∈ (document.render profile base).nodes, node made :=
  (law.kept_renderElements document.elements 0 [] {} ⟨by simp, law.empty⟩).nodes

end Document

end MarkdownLayout
