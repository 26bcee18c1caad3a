import MarkdownLayout.Proofs.InlineText

/-!
# Blocks of inline elements

The text of a block that holds nothing but inline elements is read off its leaves, whatever stands around them, and
whatever their ranges are: a leaf over an empty range is a line break, one outside the source adds nothing.
-/

namespace MarkdownLayout

theorem Profile.exists_blockFormat (profile : Profile) {element : Element} (h : element.kind.isBoundary = true) :
    ∃ format, profile.blockFormat? element = some format := by
  unfold blockFormat?
  cases hkind : element.kind <;> simp_all [ElementKind.isBoundary]

namespace Builder

mutual

def visitedLeaves (builder : Builder) : Element → List Element
  | ⟨kind, range, children, href, alt, level⟩ =>
    if builder.passesOver ⟨kind, range, children, href, alt, level⟩ then [] else visitedLeavesBelow builder children

def visitedLeavesBelow (builder : Builder) : List Element → List Element
  | [] => []
  | child :: rest =>
    (if child.kind.isLeaf then [child] else visitedLeaves builder child) ++ visitedLeavesBelow builder rest

end

mutual

/-- What an element prints is the text of its visited leaves, joined in order. -/
theorem printed_eq_join (builder : Builder) :
    ∀ element : Element, builder.printed element = String.join ((builder.visitedLeaves element).map builder.leafText)
  | ⟨kind, range, children, href, alt, level⟩ => by
    rw [printed, visitedLeaves]
    split
    · rfl
    · exact printedBelow_eq_join builder children

theorem printedBelow_eq_join (builder : Builder) : ∀ children : List Element,
    builder.printedBelow children = String.join ((builder.visitedLeavesBelow children).map builder.leafText)
  | [] => rfl
  | child :: rest => by
    rw [printedBelow, visitedLeavesBelow, List.map_append, String.join_append, printedBelow_eq_join builder rest]
    split
    · simp
    · rw [printed_eq_join builder child]

end

/-- A block of inline elements starts with nothing waiting, leaves nothing behind and registers no image. Its node is
the style of the block around one text: that of the visited leaves, less a line break at its end. There is no node
exactly if nothing is left of that text. -/
theorem build_inlineBlock (builder : Builder) {element : Element} (hkind : element.kind.isBoundary = true)
    (hitem : element.kind ≠ .listItem) (hands : builder.handsOnBelow element.children = true) (position : Position)
    (inherited : Option TextAttributes) (images : List PendingImage) :
    let text := Text.withoutFinalBreak
      (String.join ((builder.visitedLeavesBelow element.children).map builder.leafText))
    let built := builder.build element position inherited ⟨.empty, images⟩
    built.2 = ⟨.empty, images⟩ ∧ (built.1 = none ↔ text = "") ∧
      ∀ node ∈ built.1, ∃ (format : BlockFormat) (shown : TextBlock),
        builder.profile.blockFormat? element = some format ∧ shown.text = text ∧
          node = format.block.decorate (.text shown) := by
  intro text built
  obtain ⟨format, hformat⟩ := builder.profile.exists_blockFormat hkind
  obtain ⟨hafter, hshown⟩ := build_block hkind hitem hands position inherited images
  rw [printedBelow_eq_join, Profile.blockStyle?_of_blockFormat? hformat] at hshown
  refine ⟨hafter, ?_⟩
  by_cases hempty : text = ""
  · have hnone : built.1 = none := (if_pos hempty).mp hshown
    rw [hnone]
    exact ⟨⟨fun _ => hempty, fun _ => rfl⟩, by simp⟩
  · obtain ⟨shown, htext, hnode⟩ := (if_neg hempty).mp hshown
    have hsome : built.1 = some (format.block.decorate (.text shown)) := hnode
    rw [hsome]
    refine ⟨⟨by simp, fun heq => absurd heq hempty⟩, ?_⟩
    intro node hmem
    exact ⟨format, shown, hformat, htext, (Option.mem_some_iff.1 hmem).symm⟩

def brokenHeading : Element where
  kind := .header
  range := ⟨0, 3⟩
  children := [
    { kind := .plainRun, range := ⟨0, 1⟩ },
    { kind := .link, range := ⟨1, 3⟩, href := some "c", children := [
      { kind := .em, range := ⟨1, 2⟩, children := [
        { kind := .plainRun, range := ⟨1, 2⟩ }, { kind := .lineBreak, range := ⟨2, 2⟩ }] },
      { kind := .image, range := ⟨1, 2⟩, href := some "no place", children := [
        { kind := .plainRun, range := ⟨0, 1⟩ }] },
      { kind := .plainRun, range := ⟨7, 9⟩ }] },
    { kind := .table, range := ⟨0, 2⟩, children := [{ kind := .paragraph, range := ⟨0, 1⟩ }] },
    { kind := .html, range := ⟨3, 1⟩ }]
  level := 2

/-- A heading over broken ranges. -/
theorem brokenHeading_inlineBlock :
    let builder : Builder := { document := ⟨"ab\n", []⟩, profile := .standard }
    brokenHeading.kind.isBoundary = true ∧ brokenHeading.kind ≠ .listItem ∧
      builder.handsOnBelow brokenHeading.children = true ∧
      ∃ shown : TextBlock, shown.text = "ab\n" ∧
        builder.build brokenHeading ⟨none, 0⟩ none ⟨.empty, []⟩ =
          (some (Profile.standard.h2.block.decorate (.text shown)), ⟨.empty, []⟩) := by
  intro builder
  have hkind : brokenHeading.kind.isBoundary = true := rfl
  have hitem : brokenHeading.kind ≠ .listItem := by decide
  have hands : builder.handsOnBelow brokenHeading.children = true := by decide +kernel
  have htext : Text.withoutFinalBreak
      (String.join ((builder.visitedLeavesBelow brokenHeading.children).map builder.leafText)) = "ab\n" := by
    decide +kernel
  obtain ⟨hafter, hnone, hshown⟩ := builder.build_inlineBlock hkind hitem hands ⟨none, 0⟩ none []
  rw [htext] at hnone hshown
  obtain ⟨node, hnode⟩ := Option.ne_none_iff_exists'.1 (mt hnone.1 (by decide))
  obtain ⟨format, shown, hformat, hwording, hdecorated⟩ := hshown node hnode
  obtain rfl : Profile.standard.h2 = format := Option.some.inj hformat
  exact ⟨hkind, hitem, hands, shown, hwording, Prod.ext (hnode.trans (congrArg some hdecorated)) hafter⟩

end Builder

end MarkdownLayout
