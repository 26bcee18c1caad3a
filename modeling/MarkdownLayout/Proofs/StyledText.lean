import MarkdownLayout.Proofs.Glyph
import Mathlib.Data.List.Chain
import Mathlib.Data.List.Flatten
import Mathlib.Data.List.Forall2

/-!
# A buffer of runs as a list of styled characters

The plainest way to keep waiting text is a list of characters, each with its own attributes: text is added at
the end, a newline at the end is dropped, everything is taken at once. Whatever calls a client makes, the buffer
of runs gives the answers of this list, with attributes compared as the buffer itself compares them. What the
buffer adds is economy. Its runs are in canonical form, none empty and none beside one that agrees, and such
runs are a shortest way to write their characters: their attributes are a list without repetitions, and
every other way to write the text has to pass through all of it.
-/

namespace MarkdownLayout

structure StyledChar where
  char : Char
  attributes : Option TextAttributes
  deriving DecidableEq, Repr, Inhabited

abbrev StyledText := List StyledChar

namespace Scalar

theorem isNaN_settled (x : Scalar) : x.settled.isNaN = x.isNaN := by
  unfold settled
  split
  · next h =>
    have hx : x.isNaN = false := by
      simp only [isZero, Bool.and_eq_true, beq_iff_eq] at h
      simp [isNaN, h.1]
    rw [hx]
    rfl
  · rfl

end Scalar

namespace TextAttributes

def IsProper (attributes : Option TextAttributes) : Prop :=
  ∀ a ∈ attributes, a.font.size.isNaN = false

theorem isProper_map_settled (attributes : Option TextAttributes) :
    IsProper (attributes.map settled) ↔ IsProper attributes := by
  cases attributes <;> simp [IsProper, settled, Scalar.isNaN_settled]

end TextAttributes

namespace TextRun

def styled (run : TextRun) : StyledText :=
  run.text.toList.map (⟨·, run.attributes⟩)

def styledAll (runs : List TextRun) : StyledText :=
  runs.flatMap styled

/-- Attributes agree exactly if neither has a size that is not a number and they are the same up to the sign of zero. -/
theorem attributesAgree_iff {a b : Option TextAttributes} :
    attributesAgree a b = true ↔
      TextAttributes.IsProper a ∧ TextAttributes.IsProper b ∧
        a.map TextAttributes.settled = b.map TextAttributes.settled := by
  cases a with
  | none => cases b <;> simp [attributesAgree, TextAttributes.IsProper]
  | some a =>
    cases b with
    | none => simp [attributesAgree]
    | some b =>
      simp only [attributesAgree, TextAttributes.IsProper, Option.mem_some_iff, forall_eq', Option.map_some,
        Option.some.injEq]
      constructor
      · intro h
        have hsize : a.font.size.agrees b.font.size = true := by
          simp only [TextAttributes.agrees, Font.agrees, Bool.and_eq_true] at h
          exact h.1.1.1.1.1.1.2
        simp only [Scalar.agrees, Bool.and_eq_true, Bool.not_eq_true'] at hsize
        exact ⟨hsize.1.1, hsize.1.2, TextAttributes.settled_eq_of_agrees h⟩
      · rintro ⟨ha, hb, heq⟩
        exact (TextAttributes.agrees_iff_settled_eq ha hb).2 heq

end TextRun

namespace StyledChar

def LooksLike (a b : StyledChar) : Prop :=
  a.char = b.char ∧ TextRun.attributesAgree a.attributes b.attributes = true

def glyph (c : StyledChar) : Glyph :=
  .letter c.char (c.attributes.map TextAttributes.settled)

theorem looksLike_iff {a b : StyledChar} :
    a.LooksLike b ↔
      TextAttributes.IsProper a.attributes ∧ TextAttributes.IsProper b.attributes ∧ a.glyph = b.glyph := by
  simp only [LooksLike, TextRun.attributesAgree_iff, glyph, Glyph.letter.injEq]
  tauto

end StyledChar

namespace StyledText

/-- The same characters one by one, with attributes that agree. -/
def LooksLike (first second : StyledText) : Prop :=
  List.Forall₂ StyledChar.LooksLike first second

def IsProper (text : StyledText) : Prop :=
  ∀ c ∈ text, TextAttributes.IsProper c.attributes

def glyphs (text : StyledText) : List Glyph :=
  text.map StyledChar.glyph

theorem glyphs_append (first second : StyledText) : glyphs (first ++ second) = glyphs first ++ glyphs second :=
  List.map_append

/-- Texts look alike when a reader meets the same glyphs, provided that every size is a number. -/
theorem looksLike_iff {first second : StyledText} :
    LooksLike first second ↔ IsProper first ∧ IsProper second ∧ glyphs first = glyphs second := by
  unfold LooksLike IsProper glyphs
  induction first generalizing second with
  | nil => cases second <;> simp
  | cons a first ih =>
    cases second with
    | nil => simp
    | cons b second =>
      simp only [List.forall₂_cons, ih, StyledChar.looksLike_iff, List.mem_cons, forall_eq_or_imp,
        List.map_cons, List.cons.injEq]
      tauto

/-- Whether the sizes are numbers can be told from what a reader meets. -/
theorem isProper_of_glyphs_eq {first second : StyledText} (hglyphs : glyphs first = glyphs second)
    (hsecond : IsProper second) : IsProper first := by
  intro c hc
  have hmem : c.glyph ∈ glyphs second := hglyphs ▸ List.mem_map_of_mem hc
  -- `d` stands in the second text for `c`, with a size that settles to the same
  obtain ⟨d, hd, heq⟩ := List.mem_map.1 hmem
  obtain ⟨-, hsettled⟩ := Glyph.letter.inj heq
  rw [← TextAttributes.isProper_map_settled, ← hsettled, TextAttributes.isProper_map_settled]
  exact hsecond d hd

def trim (text : StyledText) : StyledText × Bool :=
  if text.getLast?.any (·.char == '\n') then (text.dropLast, true) else (text, false)

end StyledText

inductive TextCall where
  | append (text : String) (attributes : Option TextAttributes)
  | appendLineBreak
  | trimNewline
  | flush
  | flushInto (nodes : List Node)

namespace TextCall

def IsProper : TextCall → Prop
  | append _ attributes => TextAttributes.IsProper attributes
  | _ => True

end TextCall

namespace TextBuffer

inductive Answer where
  | done
  | trimmed (found : Bool)
  | flushed (node : Option Node)
  | extended (nodes : List Node)

def call (buffer : TextBuffer) : TextCall → TextBuffer × Answer
  | .append text attributes => (buffer.append text attributes, .done)
  | .appendLineBreak => (buffer.appendLineBreak, .done)
  | .trimNewline => (buffer.trimNewline.1, .trimmed buffer.trimNewline.2)
  | .flush => (empty, .flushed buffer.flush)
  | .flushInto nodes => (empty, .extended (buffer.flushInto nodes))

def play (buffer : TextBuffer) : List TextCall → TextBuffer × List Answer
  | [] => (buffer, [])
  | call :: calls =>
    let (next, answer) := buffer.call call
    let (last, answers) := next.play calls
    (last, answer :: answers)

end TextBuffer

namespace StyledText

inductive Answer where
  | done
  | trimmed (found : Bool)
  | flushed (text : StyledText)
  | extended (nodes : List Node) (text : StyledText)

def call (waiting : StyledText) : TextCall → StyledText × Answer
  | .append text attributes => (waiting ++ text.toList.map (⟨·, attributes⟩), .done)
  | .appendLineBreak => (waiting ++ [⟨'\n', none⟩], .done)
  | .trimNewline => (waiting.trim.1, .trimmed waiting.trim.2)
  | .flush => ([], .flushed waiting)
  | .flushInto nodes => ([], .extended nodes waiting)

def play (waiting : StyledText) : List TextCall → StyledText × List Answer
  | [] => (waiting, [])
  | call :: calls =>
    let (next, answer) := waiting.call call
    let (last, answers) := play next calls
    (last, answer :: answers)

end StyledText

namespace TextRun

/-- No run is empty, and neighbours never agree. -/
structure Canonical (runs : List TextRun) : Prop where
  noneEmpty : ∀ run ∈ runs, run.text ≠ ""
  apart : (runs.map attributes).IsChain fun left right => attributesAgree left right = false

def Fewest (runs : List TextRun) : Prop :=
  ∀ others, StyledText.LooksLike (styledAll others) (styledAll runs) → runs.length ≤ others.length

end TextRun

/-- What is taken from the buffer: no node for no text, else one block that looks like the text, with as few runs
as can be. -/
inductive Shows : Option Node → StyledText → Prop
  | nothing : Shows none []
  | block (runs : List TextRun) (text : StyledText) (nonempty : text ≠ [])
      (looks : StyledText.LooksLike (TextRun.styledAll runs) text) (canonical : TextRun.Canonical runs)
      (fewest : TextRun.Fewest runs) :
      Shows (some (.text ⟨runs⟩)) text

inductive SameAnswer : TextBuffer.Answer → StyledText.Answer → Prop
  | done : SameAnswer .done .done
  | trimmed (found : Bool) : SameAnswer (.trimmed found) (.trimmed found)
  | flushed (node : Option Node) (text : StyledText) (taken : Shows node text) :
      SameAnswer (.flushed node) (.flushed text)
  | extended (nodes : List Node) (node : Option Node) (text : StyledText) (taken : Shows node text) :
      SameAnswer (.extended (nodes ++ node.toList)) (.extended nodes text)

namespace Glyph

def paint : Glyph → Option TextAttributes
  | letter _ attributes => attributes
  | _ => none

end Glyph

/-- A list without repetitions that runs through blocks of equal entries takes at most one of each block. -/
theorem length_le_of_sublist_blocks {α β : Type} (entry : β → α) (size : β → Nat) {l : List α} {blocks : List β}
    (hl : l.IsChain (· ≠ ·)) (h : l.Sublist (blocks.flatMap fun b => List.replicate (size b) (entry b))) :
    l.length ≤ blocks.length := by
  induction blocks generalizing l with
  | nil => simpa using h
  | cons b blocks ih =>
    rw [List.flatMap_cons] at h
    obtain ⟨front, back, rfl, hfront, hback⟩ := List.sublist_append_iff.1 h
    obtain ⟨n, -, rfl⟩ := List.sublist_replicate_iff.1 hfront
    -- two entries out of one block would be neighbours in `l`
    have hn : n ≤ 1 := by
      rcases n with _ | _ | n
      · omega
      · omega
      · exact absurd rfl (List.isChain_cons_cons.1 hl.left_of_append).1
    have := ih hl.right_of_append hback
    simp only [List.length_append, List.length_replicate, List.length_cons]
    omega

namespace TextRun

theorem glyphs_styledAll (runs : List TextRun) :
    (styledAll runs).glyphs = runs.flatMap TextRun.glyphs := by
  rw [StyledText.glyphs, styledAll, List.map_flatMap]
  simp only [styled, List.map_map]
  rfl

theorem isProper_styledAll {runs : List TextRun} :
    (styledAll runs).IsProper ↔ ∀ run ∈ runs, run.text ≠ "" → TextAttributes.IsProper run.attributes := by
  simp only [StyledText.IsProper, styledAll, styled, List.mem_flatMap, List.mem_map, forall_exists_index, and_imp]
  constructor
  · intro h run hrun htext
    obtain ⟨char, hchar⟩ := List.exists_mem_of_ne_nil _ (mt String.toList_eq_nil_iff.1 htext)
    exact h _ run hrun char hchar rfl
  · rintro h _ run hrun char hchar rfl
    exact h run hrun (by rintro heq; simp [heq] at hchar)

/-- Adding text leaves the list of attributes alone, or adds attributes that do not agree with the last. -/
theorem attributes_appendRun (text : String) (attributes : Option TextAttributes) (runs : List TextRun) :
    (TextBuffer.appendRun text attributes runs).map TextRun.attributes = runs.map TextRun.attributes ∨
      (TextBuffer.appendRun text attributes runs).map TextRun.attributes =
          runs.map TextRun.attributes ++ [attributes] ∧
        ∀ last ∈ runs.getLast?, attributesAgree last.attributes attributes = false := by
  fun_induction TextBuffer.appendRun text attributes runs with
  | case1 => exact .inr (by simp)
  | case2 last h => exact .inl (by simp)
  | case3 last h => exact .inr (by simpa using h)
  | case4 run next rest ih => simpa using ih

/-- Trimming keeps the attributes of all runs, or of all but the last. -/
theorem attributes_trimRuns? (runs : List TextRun) :
    ((TextBuffer.trimRuns? runs).getD runs).map TextRun.attributes <+: runs.map TextRun.attributes := by
  fun_induction TextBuffer.trimRuns? runs with
  | case1 => simp
  | case2 last =>
    cases TextBuffer.withoutNewline? last.text with
    | none => simp
    | some text => by_cases hempty : text = "" <;> simp [hempty]
  | case3 run next rest ih =>
    cases htrim : TextBuffer.trimRuns? (next :: rest) with
    | none => simp
    | some trimmed => simpa [htrim] using ih

def paint (run : TextRun) : Option TextAttributes :=
  run.attributes.map TextAttributes.settled

theorem map_paint_glyphs (runs : List TextRun) :
    (runs.flatMap TextRun.glyphs).map Glyph.paint =
      runs.flatMap fun run => List.replicate run.text.toList.length run.paint := by
  rw [List.map_flatMap]
  simp only [glyphs, Glyph.ofText, List.map_map, Function.comp_def, Glyph.paint, paint, List.map_const']

namespace Canonical

theorem nil : Canonical [] :=
  ⟨by simp, by simp⟩

/-- Text with the attributes of the last run joins it, so that runs in a row stay apart. -/
theorem appendRun {runs : List TextRun} (h : Canonical runs) {text : String} (htext : text ≠ "")
    (attributes : Option TextAttributes) : Canonical (TextBuffer.appendRun text attributes runs) := by
  refine ⟨TextBuffer.text_ne_empty_of_mem_appendRun htext h.noneEmpty, ?_⟩
  rcases attributes_appendRun text attributes runs with heq | ⟨heq, hlast⟩
  · rw [heq]
    exact h.apart
  · rw [heq]
    refine h.apart.append (by simp) ?_
    simpa using hlast

theorem trimRuns? {runs : List TextRun} (h : Canonical runs) :
    Canonical ((TextBuffer.trimRuns? runs).getD runs) :=
  ⟨(TextBuffer.trimRuns?_spec h.noneEmpty).2, h.apart.prefix (attributes_trimRuns? runs)⟩

theorem paints_isChain {runs : List TextRun} (h : Canonical runs) (hproper : (styledAll runs).IsProper) :
    (runs.map paint).IsChain (· ≠ ·) := by
  have hrun : ∀ run ∈ runs, TextAttributes.IsProper run.attributes :=
    fun run hmem => isProper_styledAll.1 hproper run hmem (h.noneEmpty run hmem)
  have hapart := (List.isChain_map attributes).1 h.apart
  refine (List.isChain_map paint).2 (hapart.imp_of_mem_imp fun left right hleft hright hne heq => ?_)
  have := attributesAgree_iff.2 ⟨hrun left hleft, hrun right hright, heq⟩
  simp [hne] at this

/-- The attributes of the runs, in their order, are among those of the characters. -/
theorem paints_sublist {runs : List TextRun} (h : Canonical runs) :
    (runs.map paint).Sublist ((runs.flatMap TextRun.glyphs).map Glyph.paint) := by
  rw [map_paint_glyphs, List.map_eq_flatMap]
  refine List.Sublist.flatMap_right _ fun run hmem => ?_
  have hlength : 1 ≤ run.text.toList.length :=
    List.length_pos_iff.2 (mt String.toList_eq_nil_iff.1 (h.noneEmpty run hmem))
  exact List.replicate_sublist_replicate _ |>.2 hlength

/-- Canonical runs are the fewest: in any other writing, each run draws in one way only. -/
theorem fewest {runs : List TextRun} (h : Canonical runs) : Fewest runs := by
  intro others hlooks
  obtain ⟨-, hproper, hglyphs⟩ := StyledText.looksLike_iff.1 hlooks
  rw [glyphs_styledAll, glyphs_styledAll] at hglyphs
  have hsub := h.paints_sublist
  -- the same text as `others` write it: one block of equal attributes for each run
  rw [← hglyphs, map_paint_glyphs] at hsub
  simpa using length_le_of_sublist_blocks _ _ (h.paints_isChain hproper) hsub

end Canonical

end TextRun

namespace StyledText

theorem glyphs_getLast? (text : StyledText) :
    text.glyphs.getLast?.any Glyph.isBreak = text.getLast?.any (·.char == '\n') := by
  unfold glyphs
  rw [List.getLast?_map]
  cases text.getLast? <;> rfl

theorem glyphs_trim (text : StyledText) : text.trim.1.glyphs = withoutFinal Glyph.isBreak text.glyphs := by
  rw [withoutFinal, glyphs_getLast?, trim]
  split <;> simp [glyphs]

theorem trim_snd (text : StyledText) : text.trim.2 = text.glyphs.getLast?.any Glyph.isBreak := by
  rw [glyphs_getLast?, trim]
  split <;> simp [*]

theorem IsProper.trim {text : StyledText} (h : text.IsProper) : text.trim.1.IsProper := by
  unfold StyledText.trim
  split
  · exact fun c hc => h c ((List.dropLast_sublist text).subset hc)
  · exact h

end StyledText

namespace TextBuffer

/-- Trimming finds a newline exactly where a reader does. -/
theorem trimRuns?_isSome {runs : List TextRun} (hruns : ∀ run ∈ runs, run.text ≠ "") :
    (trimRuns? runs).isSome = (runs.flatMap TextRun.glyphs).getLast?.any Glyph.isBreak := by
  fun_induction trimRuns? runs with
  | case1 => rfl
  | case2 last =>
    have hlast : (withoutNewline? last.text).isSome = last.text.toList.getLast?.any (· == '\n') := by
      unfold withoutNewline?
      split
      · next h => simp [h]
      · next h =>
        cases hchar : last.text.toList.getLast? with
        | none => rfl
        | some char => simpa using fun heq : char = '\n' => h (heq ▸ hchar)
    rw [Option.isSome_map, hlast, List.flatMap_singleton, TextRun.glyphs, Glyph.ofText, List.getLast?_map]
    cases last.text.toList.getLast? <;> rfl
  | case3 run next rest ih =>
    simp only [List.mem_cons, forall_eq_or_imp] at hruns
    have hne : (next :: rest).flatMap TextRun.glyphs ≠ [] := by
      simp [TextRun.glyphs, hruns.2.1]
    rw [List.flatMap_cons, List.getLast?_append_of_ne_nil _ hne, ← ih (by simpa using hruns.2)]
    simp

theorem trimNewline_snd {buffer : TextBuffer} (h : buffer.NoEmptyRun) :
    buffer.trimNewline.2 = buffer.glyphs.getLast?.any Glyph.isBreak := by
  rw [glyphs, ← trimRuns?_isSome h]
  unfold trimNewline
  split <;> simp [*]

theorem canonical_append {buffer : TextBuffer} (h : TextRun.Canonical buffer.runs) (text : String)
    (attributes : Option TextAttributes) : TextRun.Canonical (buffer.append text attributes).runs := by
  unfold append
  split
  · exact h
  · next htext => exact h.appendRun (by simpa using htext) attributes

theorem canonical_trimNewline {buffer : TextBuffer} (h : TextRun.Canonical buffer.runs) :
    TextRun.Canonical buffer.trimNewline.1.runs := by
  rw [runs_trimNewline]
  exact h.trimRuns?

structure Holds (buffer : TextBuffer) (waiting : StyledText) : Prop where
  looks : StyledText.LooksLike (TextRun.styledAll buffer.runs) waiting
  canonical : TextRun.Canonical buffer.runs

namespace Holds

theorem of_glyphs_eq {buffer : TextBuffer} {waiting : StyledText} (hcanonical : TextRun.Canonical buffer.runs)
    (hproper : waiting.IsProper) (hglyphs : buffer.glyphs = waiting.glyphs) : buffer.Holds waiting := by
  have heq : (TextRun.styledAll buffer.runs).glyphs = waiting.glyphs := by
    rw [TextRun.glyphs_styledAll, ← hglyphs, glyphs]
  have hruns := StyledText.isProper_of_glyphs_eq heq hproper
  exact ⟨StyledText.looksLike_iff.2 ⟨hruns, hproper, heq⟩, hcanonical⟩

variable {buffer : TextBuffer} {waiting : StyledText}

theorem glyphs_eq (h : buffer.Holds waiting) : buffer.glyphs = waiting.glyphs := by
  rw [glyphs, ← TextRun.glyphs_styledAll]
  exact (StyledText.looksLike_iff.1 h.looks).2.2

theorem isProper (h : buffer.Holds waiting) : waiting.IsProper :=
  (StyledText.looksLike_iff.1 h.looks).2.1

theorem nothing : empty.Holds [] :=
  ⟨.nil, .nil⟩

/-- Appending to the runs is appending to the characters. -/
theorem append (h : buffer.Holds waiting) (text : String) {attributes : Option TextAttributes}
    (hproper : TextAttributes.IsProper attributes) :
    (buffer.append text attributes).Holds (waiting ++ text.toList.map (⟨·, attributes⟩)) := by
  refine of_glyphs_eq ?_ ?_ ?_
  · exact canonical_append h.canonical text attributes
  · intro c hc
    rcases List.mem_append.1 hc with hc | hc
    · exact h.isProper c hc
    · obtain ⟨char, -, rfl⟩ := List.mem_map.1 hc
      exact hproper
  · rw [glyphs_append, h.glyphs_eq]
    simp [StyledText.glyphs, Glyph.ofText, StyledChar.glyph, Function.comp_def]

theorem trimNewline (h : buffer.Holds waiting) :
    buffer.trimNewline.1.Holds waiting.trim.1 ∧ buffer.trimNewline.2 = waiting.trim.2 := by
  have hempty : buffer.NoEmptyRun := h.canonical.noneEmpty
  constructor
  · refine of_glyphs_eq (canonical_trimNewline h.canonical) h.isProper.trim ?_
    rw [glyphs_trimNewline hempty, h.glyphs_eq, StyledText.glyphs_trim]
  · rw [trimNewline_snd hempty, h.glyphs_eq, StyledText.trim_snd]

/-- Flushing shows nothing for no text, and else one block of as few runs as can be. -/
theorem shows_flush (h : buffer.Holds waiting) : Shows buffer.flush waiting := by
  have hnil : waiting = [] ↔ buffer.isEmpty = true := by
    rw [← glyphs_eq_nil_iff h.canonical.noneEmpty, h.glyphs_eq, StyledText.glyphs, List.map_eq_nil_iff]
  unfold flush
  split
  · next hempty =>
    rw [hnil.2 hempty]
    exact .nothing
  · next hempty => exact .block buffer.runs waiting (mt hnil.1 hempty) h.looks h.canonical h.canonical.fewest

/-- One call keeps the runs for the characters, and the answers agree. -/
theorem call (h : buffer.Holds waiting) {request : TextCall} (hproper : request.IsProper) :
    (buffer.call request).1.Holds (waiting.call request).1 ∧
      SameAnswer (buffer.call request).2 (waiting.call request).2 := by
  cases request with
  | append text attributes => exact ⟨h.append text hproper, .done⟩
  | appendLineBreak => exact ⟨h.append "\n" (by simp [TextAttributes.IsProper]), .done⟩
  | trimNewline =>
    obtain ⟨hholds, hfound⟩ := h.trimNewline
    refine ⟨hholds, ?_⟩
    simp only [TextBuffer.call, StyledText.call, hfound]
    exact .trimmed _
  | flush => exact ⟨nothing, .flushed _ _ h.shows_flush⟩
  | flushInto nodes => exact ⟨nothing, .extended nodes _ _ h.shows_flush⟩

/-- By induction on the calls: the runs stay the characters and all answers agree. -/
theorem play (h : buffer.Holds waiting) {calls : List TextCall} (hproper : ∀ request ∈ calls, request.IsProper) :
    (buffer.play calls).1.Holds (waiting.play calls).1 ∧
      List.Forall₂ SameAnswer (buffer.play calls).2 (waiting.play calls).2 := by
  induction calls generalizing buffer waiting with
  | nil => exact ⟨h, .nil⟩
  | cons request calls ih =>
    rw [List.forall_mem_cons] at hproper
    obtain ⟨hnext, hanswer⟩ := h.call hproper.1
    obtain ⟨hlast, hanswers⟩ := ih hnext hproper.2
    exact ⟨hlast, .cons hanswer hanswers⟩

end Holds

/-- Whatever a client has called so far, the buffer holds the plain list of styled characters, and every answer
was the answer of the list. -/
theorem play_refines (calls : List TextCall) (hproper : ∀ request ∈ calls, request.IsProper) :
    (empty.play calls).1.Holds (StyledText.play [] calls).1 ∧
      List.Forall₂ SameAnswer (empty.play calls).2 (StyledText.play [] calls).2 :=
  Holds.nothing.play hproper

def zeroSizeCalls : List TextCall :=
  let styled (size : Scalar) : Option TextAttributes := some { font := { size := size } }
  [.append "a" (styled .zero), .append "b\n" (styled ⟨0x80000000⟩), .trimNewline, .append "c" none,
    .flushInto [.image default], .flush, .append "d" (styled .zero), .appendLineBreak, .trimNewline, .trimNewline]

theorem zeroSizeCalls_refine :
    (∀ request ∈ zeroSizeCalls, request.IsProper) ∧
      (empty.play zeroSizeCalls).1.Holds (StyledText.play [] zeroSizeCalls).1 ∧
      List.Forall₂ SameAnswer (empty.play zeroSizeCalls).2 (StyledText.play [] zeroSizeCalls).2 :=
  have hproper : ∀ request ∈ zeroSizeCalls, request.IsProper := by
    have hzero : Scalar.zero.isNaN = false := by decide
    have hnegative : (⟨0x80000000⟩ : Scalar).isNaN = false := by decide
    simp [zeroSizeCalls, TextCall.IsProper, TextAttributes.IsProper, hzero, hnegative]
  ⟨hproper, play_refines zeroSizeCalls hproper⟩

example : (empty.play (zeroSizeCalls.take 4)).1.runs.map TextRun.text = ["ab", "c"] := by decide

end TextBuffer

end MarkdownLayout
