import MarkdownLayout.Proofs.InlineText
import MarkdownLayout.Proofs.StyledText
import MarkdownLayout.Proofs.WalkLaw

/-!
# A line break at the end of a block

At its end a block drops one line break from the text that waits. A break added there goes into the last run when that
has no attributes, makes a run of its own otherwise, and is the only run in an empty buffer; the drop undoes each of
these exactly. So a block with a break behind its children is the block without it, unless the children leave a break
at the end themselves, which then stays.
-/

namespace MarkdownLayout

namespace TextBuffer

theorem appendRun_ne_nil (text : String) (attributes : Option TextAttributes) (runs : List TextRun) :
    appendRun text attributes runs ≠ [] := by
  fun_cases appendRun text attributes runs <;> simp

theorem trimRuns?_cons (run : TextRun) {rest : List TextRun} (h : rest ≠ []) :
    trimRuns? (run :: rest) = (trimRuns? rest).map (run :: ·) := by
  cases rest with
  | nil => exact absurd rfl h
  | cons next rest => rw [trimRuns?]

theorem withoutNewline?_append (text : String) : withoutNewline? (text ++ "\n") = some text := by
  simp [withoutNewline?]

/-- A line break that was added last is what trimming takes, be it in a run of its own or not. -/
theorem trimRuns?_appendRun {runs : List TextRun} (h : ∀ run ∈ runs, run.text ≠ "") :
    trimRuns? (appendRun "\n" none runs) = some runs := by
  fun_induction appendRun "\n" none runs with
  | case1 => rfl
  | case2 last hagree =>
    have htext : last.text ≠ "" := h last (List.mem_singleton_self last)
    rw [trimRuns?, withoutNewline?_append, Option.map_some, if_neg (by simpa using htext)]
  | case3 last hagree => rfl
  | case4 run next rest ih =>
    rw [List.forall_mem_cons] at h
    rw [trimRuns?_cons run (appendRun_ne_nil _ _ _), ih h.2, Option.map_some]

theorem trimNewline_appendLineBreak {buffer : TextBuffer} (h : buffer.NoEmptyRun) :
    buffer.appendLineBreak.trimNewline.1 = buffer := by
  have hruns : trimRuns? buffer.appendLineBreak.runs = some buffer.runs := trimRuns?_appendRun h
  rw [trimNewline, hruns]

theorem getLast?_glyphs_isBreak (buffer : TextBuffer) :
    buffer.glyphs.getLast?.any Glyph.isBreak = true ↔ buffer.text.toList.getLast? = some '\n' := by
  rw [toList_text, List.getLast?_map, Glyph.isBreak_eq]
  cases buffer.glyphs.getLast? <;> simp

/-- There is nothing to trim without a newline at the end. -/
theorem trimNewline_eq_self {buffer : TextBuffer} (h : buffer.NoEmptyRun)
    (hlast : buffer.text.toList.getLast? ≠ some '\n') : buffer.trimNewline.1 = buffer := by
  have hnone : trimRuns? buffer.runs = none := by
    rw [Ne, ← getLast?_glyphs_isBreak, glyphs, ← trimRuns?_isSome h, Bool.not_eq_true] at hlast
    exact Option.isNone_iff_eq_none.1 (Option.isSome_eq_false_iff.1 hlast)
  rw [trimNewline, hnone]

/-- No client can bring an empty run into the buffer. -/
theorem NoEmptyRun.play {buffer : TextBuffer} (h : buffer.NoEmptyRun) (calls : List TextCall) :
    (buffer.play calls).1.NoEmptyRun := by
  induction calls generalizing buffer with
  | nil => exact h
  | cons request calls ih =>
    refine ih ?_
    cases request with
    | append text attributes => exact h.append text attributes
    | appendLineBreak => exact h.append "\n" none
    | trimNewline => exact h.trimNewline
    | flush => exact noEmptyRun_empty
    | flushInto nodes => exact noEmptyRun_empty

end TextBuffer

namespace Builder

variable {builder : Builder}

/-- Neither can a walk. -/
theorem noEmptyRun_law (builder : Builder) : builder.WalkLaw (fun _ => True) TextBuffer.NoEmptyRun where
  empty := TextBuffer.noEmptyRun_empty
  append text attributes h := h.append text attributes
  trim := TextBuffer.NoEmptyRun.trimNewline
  flush _ _ _ := trivial
  rule := trivial
  image _ := trivial
  closing _ _ _ _ _ _ _ := trivial

/-- A leaf at the end adds its text to what the children before it leave waiting. -/
theorem buildChildren_concat (parent : ElementKind) (attributes : Option TextAttributes) {leaf : Element}
    (hleaf : leaf.kind.isLeaf = true) (children : List Element) (index : Nat) (nodes : List Node)
    (progress : Progress) :
    builder.buildChildren parent attributes (children ++ [leaf]) index nodes progress =
      let walked := builder.buildChildren parent attributes children index nodes progress
      (walked.1, builder.appendLeaf leaf attributes walked.2) := by
  induction children generalizing index nodes progress with
  | nil => rw [List.nil_append, buildChildren_cons, if_pos hleaf, buildChildren, buildChildren]
  | cons child rest ih =>
    rw [List.cons_append, buildChildren_cons, buildChildren_cons]
    split
    · exact ih ..
    · exact ih ..

/-- What a node reads like tells what the nodes inside it read like. -/
theorem reading_eq_of_closing_eq {element : Element} {position : Position} {attributes : Option TextAttributes}
    {nodes others : List Node}
    (h : builder.closing element position attributes nodes = builder.closing element position attributes others) :
    Node.reading nodes = Node.reading others := by
  have hnil : nodes = [] ↔ others = [] :=
    closing_eq_none_iff.symm.trans ((Eq.congr_left h).trans closing_eq_none_iff)
  by_cases hnodes : nodes = []
  · rw [hnodes, hnil.1 hnodes]
  · have hothers : others ≠ [] := fun heq => hnodes (hnil.2 heq)
    have hshown := gather_closing Node.glyphs_ignoresWrappers builder element position attributes hnodes
    rw [h, gather_closing Node.glyphs_ignoresWrappers builder element position attributes hothers] at hshown
    exact (List.append_cancel_left (List.append_cancel_right hshown)).symm

/-- In a block, a line break behind all other children makes no difference, whatever has been done with the buffer
before, exactly when the text that waits behind those children does not already end in one. -/
theorem build_withFinalBreak (builder : Builder) {element : Element} (hblock : element.kind.isBoundary = true)
    {lineBreak : Element} (hkind : lineBreak.kind = .lineBreak) (hrange : lineBreak.range.isEmpty = true)
    (position : Position) (inherited : Option TextAttributes) (calls : List TextCall) (images : List PendingImage) :
    let progress : Progress := ⟨(TextBuffer.empty.play calls).1, images⟩
    let waiting := (builder.buildChildren element.kind (builder.attributes element inherited) element.children 0 []
      progress).2.buffer
    builder.build { element with children := element.children ++ [lineBreak] } position inherited progress =
        builder.build element position inherited progress ↔
      waiting.text.toList.getLast? ≠ some '\n' := by
  intro progress waiting
  let attributes := builder.attributes element inherited
  let walked := builder.buildChildren element.kind attributes element.children 0 [] progress
  have hrun : waiting.NoEmptyRun :=
    (builder.noEmptyRun_law.kept_buildChildren element.kind attributes element.children 0 [] progress
      ⟨by simp, TextBuffer.noEmptyRun_empty.play calls⟩).waiting
  have hwalked : builder.buildChildren element.kind attributes (element.children ++ [lineBreak]) 0 [] progress =
      (walked.1, { walked.2 with buffer := waiting.appendLineBreak }) := by
    rw [buildChildren_concat element.kind attributes (by rw [hkind]; rfl)]
    exact congrArg (walked.1, ·) (if_pos hrange)
  have hwithout : builder.build element position inherited progress =
      (builder.closing element position attributes (waiting.trimNewline.1.flushInto walked.1),
        ⟨.empty, walked.2.images⟩) := builder.build_of_isBoundary hblock position inherited progress
  have hwith : builder.build { element with children := element.children ++ [lineBreak] } position inherited progress =
      (builder.closing element position attributes (waiting.flushInto walked.1), ⟨.empty, walked.2.images⟩) := by
    have hlonger : { element with children := element.children ++ [lineBreak] }.kind.isBoundary = true := hblock
    have hattributes : builder.attributes { element with children := element.children ++ [lineBreak] } inherited =
        attributes := rfl
    rw [builder.build_of_isBoundary hlonger]
    dsimp only
    rw [hattributes, hwalked, TextBuffer.trimNewline_appendLineBreak hrun]
    rfl
  rw [hwith, hwithout]
  constructor
  · intro hsame
    have hreading := reading_eq_of_closing_eq (congrArg Prod.fst hsame)
    rw [TextBuffer.flushInto, TextBuffer.flushInto, Node.reading_append, Node.reading_append, List.append_right_inj,
      TextBuffer.reading_flush, TextBuffer.reading_flush, TextBuffer.glyphs_trimNewline hrun] at hreading
    exact mt waiting.getLast?_glyphs_isBreak.2 (withoutFinal_eq_self_iff.1 hreading.symm)
  · intro hlast
    rw [TextBuffer.trimNewline_eq_self hrun hlast]

def lineEnd : Element where
  kind := .lineBreak
  range := ⟨1, 1⟩

def quotedPicture : Element where
  kind := .blockquote
  range := ⟨0, 1⟩
  children := [
    { kind := .image, range := ⟨0, 0⟩, href := some "http://a/b" },
    { kind := .strong, range := ⟨0, 1⟩, children := [{ kind := .plainRun, range := ⟨0, 1⟩ }] }]

/-- The first break behind the picture is not seen, the second one is. -/
theorem quotedPicture_withFinalBreak :
    let builder : Builder := { document := ⟨"a", []⟩, profile := .standard }
    let progress : Progress := ⟨(TextBuffer.empty.play [.append "b" none]).1, []⟩
    let once : Element := { quotedPicture with children := quotedPicture.children ++ [lineEnd] }
    quotedPicture.kind.isBoundary = true ∧ lineEnd.kind = .lineBreak ∧ lineEnd.range.isEmpty = true ∧
      builder.build once ⟨none, 0⟩ none progress = builder.build quotedPicture ⟨none, 0⟩ none progress ∧
      builder.build { once with children := once.children ++ [lineEnd] } ⟨none, 0⟩ none progress ≠
        builder.build once ⟨none, 0⟩ none progress := by
  intro builder progress once
  have hblock : quotedPicture.kind.isBoundary = true := rfl
  have honce : once.kind.isBoundary = true := rfl
  have hkind : lineEnd.kind = .lineBreak := rfl
  have hrange : lineEnd.range.isEmpty = true := rfl
  have hfirst := (builder.build_withFinalBreak hblock hkind hrange ⟨none, 0⟩ none [.append "b" none] []).2
    (by decide +kernel)
  have hsecond := mt (builder.build_withFinalBreak honce hkind hrange ⟨none, 0⟩ none [.append "b" none] []).1
    (by decide +kernel)
  exact ⟨hblock, hkind, hrange, hfirst, hsecond⟩

end Builder

end MarkdownLayout
