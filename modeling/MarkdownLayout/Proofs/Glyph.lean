import MarkdownLayout.Rendering
import Mathlib.Data.List.Basic

/-!
# What a reader meets on the page

A node is read by walking it and taking the characters of every run, the images and the dividers in turn. The
same reading of the text that waits in a buffer turns each operation of the buffer into an operation on plain
lists: adding text appends, trimming drops a final newline. Runs disappear from view, and with them the
question which of two agreeing attributes a joined run keeps: attributes are compared in settled form.
-/

namespace MarkdownLayout

namespace Scalar

def settled (x : Scalar) : Scalar :=
  if x.isZero then .zero else x

theorem settled_eq_of_agrees {x y : Scalar} (h : x.agrees y = true) : x.settled = y.settled := by
  simp only [agrees, Bool.and_eq_true, Bool.or_eq_true, beq_iff_eq] at h
  rcases h.2 with heq | ⟨hx, hy⟩
  · rw [heq]
  · simp [settled, hx, hy]

/-- Apart from not-a-number, numbers agree exactly when their settled forms are equal. -/
theorem agrees_iff_settled_eq {x y : Scalar} (hx : x.isNaN = false) (hy : y.isNaN = false) :
    x.agrees y = true ↔ x.settled = y.settled := by
  refine ⟨settled_eq_of_agrees, fun h => ?_⟩
  have hzero : Scalar.zero.isZero = true := rfl
  by_cases hxz : x.isZero = true <;> by_cases hyz : y.isZero = true
  · simp [agrees, hx, hy, hxz, hyz]
  · rw [settled, if_pos hxz, settled, if_neg hyz] at h
    exact absurd (h ▸ hzero) hyz
  · rw [settled, if_neg hxz, settled, if_pos hyz] at h
    exact absurd (h ▸ hzero) hxz
  · rw [settled, if_neg hxz, settled, if_neg hyz] at h
    simp [agrees, hy, h]

end Scalar

namespace TextAttributes

def settled (a : TextAttributes) : TextAttributes :=
  { a with font := { a.font with size := a.font.size.settled } }

theorem settled_eq_of_agrees {a b : TextAttributes} (h : a.agrees b = true) :
    a.settled = b.settled := by
  obtain ⟨⟨_, _, _, _⟩, _, _, _, _⟩ := a
  obtain ⟨⟨_, _, _, _⟩, _, _, _, _⟩ := b
  simp only [agrees, Font.agrees, Bool.and_eq_true, beq_iff_eq] at h
  obtain ⟨⟨⟨⟨⟨⟨⟨rfl, hsize⟩, rfl⟩, rfl⟩, rfl⟩, rfl⟩, rfl⟩, rfl⟩ := h
  simp [settled, Scalar.settled_eq_of_agrees hsize]

/-- Attributes with proper font sizes agree exactly when their settled forms are equal. -/
theorem agrees_iff_settled_eq {a b : TextAttributes} (ha : a.font.size.isNaN = false)
    (hb : b.font.size.isNaN = false) : a.agrees b = true ↔ a.settled = b.settled := by
  refine ⟨settled_eq_of_agrees, fun h => ?_⟩
  obtain ⟨⟨_, _, _, _⟩, _, _, _, _⟩ := a
  obtain ⟨⟨_, _, _, _⟩, _, _, _, _⟩ := b
  simp only [settled, mk.injEq, Font.mk.injEq] at h
  simp_all [agrees, Font.agrees, Scalar.agrees_iff_settled_eq]

end TextAttributes

/-- Runs that may be joined look alike. -/
theorem TextRun.map_settled_eq_of_attributesAgree {a b : Option TextAttributes} (h : attributesAgree a b = true) :
    a.map TextAttributes.settled = b.map TextAttributes.settled := by
  cases a with
  | none =>
    cases b with
    | none => rfl
    | some b => simp [attributesAgree] at h
  | some a =>
    cases b with
    | none => simp [attributesAgree] at h
    | some b => rw [Option.map_some, Option.map_some, TextAttributes.settled_eq_of_agrees h]

inductive Glyph where
  | letter (char : Char) (attributes : Option TextAttributes)
  | picture (url : Url) (alt : Option String)
  | bar (width height : Option Scalar) (color : Option Color)
  deriving DecidableEq, Repr, Inhabited

namespace Glyph

def ofText (text : String) (attributes : Option TextAttributes) : List Glyph :=
  text.toList.map (.letter · (attributes.map TextAttributes.settled))

def isBreak : Glyph → Bool
  | letter char _ => char == '\n'
  | _ => false

def isLetter : Glyph → Bool
  | letter _ _ => true
  | _ => false

@[simp]
theorem ofText_eq_nil_iff {text : String} {attributes : Option TextAttributes} :
    ofText text attributes = [] ↔ text = "" := by
  simp [ofText]

theorem ofText_append (first second : String) (attributes : Option TextAttributes) :
    ofText (first ++ second) attributes = ofText first attributes ++ ofText second attributes := by
  simp [ofText]

/-- Which of two agreeing attributes a text has cannot be seen. -/
theorem ofText_congr {a b : Option TextAttributes} (text : String)
    (h : TextRun.attributesAgree a b = true) : ofText text a = ofText text b := by
  rw [ofText, ofText, TextRun.map_settled_eq_of_attributesAgree h]

theorem isLetter_of_mem_ofText {text : String} {attributes : Option TextAttributes} {glyph : Glyph}
    (h : glyph ∈ ofText text attributes) : glyph.isLetter = true := by
  obtain ⟨char, _, rfl⟩ := List.mem_map.1 h
  rfl

end Glyph

def withoutFinal {α : Type} (p : α → Bool) (l : List α) : List α :=
  if l.getLast?.any p then l.dropLast else l

section WithoutFinal

variable {α β : Type}

@[simp]
theorem withoutFinal_nil (p : α → Bool) : withoutFinal p [] = [] := rfl

theorem withoutFinal_concat (p : α → Bool) (l : List α) (a : α) :
    withoutFinal p (l ++ [a]) = if p a then l else l ++ [a] := by
  simp [withoutFinal]

theorem withoutFinal_eq_self_iff {p : α → Bool} {l : List α} : withoutFinal p l = l ↔ ¬l.getLast?.any p = true := by
  rcases List.eq_nil_or_concat' l with rfl | ⟨init, last, rfl⟩
  · simp
  · rw [withoutFinal_concat]
    split <;> simp [*]

/-- Only the last entry of all is ever dropped. -/
theorem withoutFinal_append (p : α → Bool) (l : List α) {r : List α} (hr : r ≠ []) :
    withoutFinal p (l ++ r) = l ++ withoutFinal p r := by
  obtain ⟨init, last, rfl⟩ := (List.eq_nil_or_concat' r).resolve_left hr
  rw [← List.append_assoc, withoutFinal_concat, withoutFinal_concat]
  split <;> simp

theorem map_withoutFinal (p : β → Bool) (f : α → β) (l : List α) :
    (withoutFinal (p ∘ f) l).map f = withoutFinal p (l.map f) := by
  rcases List.eq_nil_or_concat' l with rfl | ⟨init, last, rfl⟩
  · rfl
  · simp only [List.map_append, List.map_cons, List.map_nil, withoutFinal_concat, Function.comp_apply]
    split <;> simp

theorem withoutFinal_sublist (p : α → Bool) (l : List α) : (withoutFinal p l).Sublist l := by
  unfold withoutFinal
  split
  · exact List.dropLast_sublist l
  · exact List.Sublist.refl l

/-- At most one entry is dropped, from the end, and only one that satisfies `p`. -/
theorem withoutFinal_eq (p : α → Bool) (l : List α) :
    withoutFinal p l = l ∨ ∃ a, p a = true ∧ l = withoutFinal p l ++ [a] := by
  rcases List.eq_nil_or_concat' l with rfl | ⟨init, last, rfl⟩
  · exact Or.inl rfl
  · rw [withoutFinal_concat]
    by_cases h : p last = true
    · exact Or.inr ⟨last, h, by simp [h]⟩
    · exact Or.inl (by simp [h])

end WithoutFinal

namespace TextRun

def glyphs (run : TextRun) : List Glyph :=
  Glyph.ofText run.text run.attributes

/-- What a run gives, its pieces give in turn, and attributes that agree make no difference. -/
structure Divides {α : Type} (f : TextRun → List α) : Prop where
  append : ∀ first second attributes,
    f ⟨first ++ second, attributes⟩ = f ⟨first, attributes⟩ ++ f ⟨second, attributes⟩
  agree : ∀ {a b : Option TextAttributes} (text : String), attributesAgree a b = true → f ⟨text, a⟩ = f ⟨text, b⟩

theorem Divides.empty {α : Type} {f : TextRun → List α} (hf : Divides f) (attributes : Option TextAttributes) :
    f ⟨"", attributes⟩ = [] := by
  have htwice := hf.append "" "" attributes
  rw [String.append_empty] at htwice
  exact List.self_eq_append_left.1 htwice

theorem divides_glyphs : Divides glyphs where
  append := Glyph.ofText_append
  agree := Glyph.ofText_congr

end TextRun

namespace Node

def gather {α : Type} (f : Node → List α) (nodes : List Node) : List α :=
  (walkAll nodes).flatMap f

/-- Containers and boxes have nothing to offer but the nodes inside them. -/
structure IgnoresWrappers {α : Type} (f : Node → List α) : Prop where
  container : ∀ axis spacing children, f (.container axis spacing children) = []
  decorated : ∀ inner decoration, f (.decorated inner decoration) = []

section Gather

variable {α : Type} {f : Node → List α}

@[simp]
theorem gather_nil : gather f [] = [] := rfl

@[simp]
theorem gather_append (front back : List Node) :
    gather f (front ++ back) = gather f front ++ gather f back := by
  simp [gather, walkAll_eq_flatMap]

theorem gather_cons (node : Node) (rest : List Node) :
    gather f (node :: rest) = gather f [node] ++ gather f rest :=
  gather_append [node] rest

theorem gather_container (h : IgnoresWrappers f) (axis : Axis) (spacing : Scalar) (children : List Node) :
    gather f [.container axis spacing children] = gather f children := by
  simp [gather, walkAll, walk, h.container]

theorem gather_decorated (h : IgnoresWrappers f) (inner : Node) (decoration : Decoration) :
    gather f [.decorated inner decoration] = gather f [inner] := by
  simp [gather, walkAll, walk, h.decorated]

theorem gather_eq_nil {nodes : List Node} (h : ∀ node ∈ walkAll nodes, f node = []) :
    gather f nodes = [] :=
  List.flatMap_eq_nil_iff.2 h

end Gather

def glyphs : Node → List Glyph
  | .text block => block.runs.flatMap TextRun.glyphs
  | .image placeholder => [.picture placeholder.url placeholder.alt]
  | .container _ _ _ => []
  | .decorated _ _ => []
  | .divider width height color => [.bar width height color]

theorem glyphs_ignoresWrappers : IgnoresWrappers glyphs :=
  ⟨fun _ _ _ => rfl, fun _ _ => rfl⟩

def reading (nodes : List Node) : List Glyph :=
  gather glyphs nodes

@[simp]
theorem reading_nil : reading [] = [] := rfl

@[simp]
theorem reading_append (front back : List Node) :
    reading (front ++ back) = reading front ++ reading back :=
  gather_append front back

@[simp]
theorem reading_image (placeholder : ImagePlaceholder) :
    reading [.image placeholder] = [.picture placeholder.url placeholder.alt] := by
  simp [reading, gather, walkAll, walk, glyphs]

@[simp]
theorem reading_divider (width height : Option Scalar) (color : Option Color) :
    reading [.divider width height color] = [.bar width height color] := by
  simp [reading, gather, walkAll, walk, glyphs]

@[simp]
theorem reading_text (block : TextBlock) :
    reading [.text block] = block.runs.flatMap TextRun.glyphs := by
  simp [reading, gather, walkAll, walk, glyphs]

@[simp]
theorem reading_ofText (text : String) (attributes : Option TextAttributes) :
    reading [ofText text attributes] = Glyph.ofText text attributes := by
  simp [ofText, TextRun.glyphs]

end Node

namespace TextBuffer

def glyphs (buffer : TextBuffer) : List Glyph :=
  buffer.runs.flatMap TextRun.glyphs

def NoEmptyRun (buffer : TextBuffer) : Prop :=
  ∀ run ∈ buffer.runs, run.text ≠ ""

theorem noEmptyRun_empty : empty.NoEmptyRun := by
  simp [NoEmptyRun, empty]

/-- Joining runs is nothing to a function that takes a run piece by piece and looks at attributes as they agree. -/
theorem flatMap_appendRun {α : Type} {f : TextRun → List α} (hf : TextRun.Divides f) (text : String)
    (attributes : Option TextAttributes) (runs : List TextRun) :
    (appendRun text attributes runs).flatMap f = runs.flatMap f ++ f ⟨text, attributes⟩ := by
  fun_induction appendRun text attributes runs with
  | case1 => simp
  | case2 last h =>
    rw [List.flatMap_singleton, List.flatMap_singleton, hf.append, ← hf.agree text h]
  | case3 last h => simp
  | case4 run next rest ih => rw [List.flatMap_cons, ih, ← List.append_assoc, ← List.flatMap_cons]

theorem flatMap_runs_append {α : Type} {f : TextRun → List α} (hf : TextRun.Divides f) (buffer : TextBuffer)
    (text : String) (attributes : Option TextAttributes) :
    (buffer.append text attributes).runs.flatMap f = buffer.runs.flatMap f ++ f ⟨text, attributes⟩ := by
  unfold append
  split
  · next h => rw [String.isEmpty_iff.1 h, hf.empty, List.append_nil]
  · exact flatMap_appendRun hf text attributes buffer.runs

/-- Adding text to the buffer appends its characters, wherever they join a run. -/
@[simp]
theorem glyphs_append (buffer : TextBuffer) (text : String) (attributes : Option TextAttributes) :
    (buffer.append text attributes).glyphs = buffer.glyphs ++ Glyph.ofText text attributes :=
  flatMap_runs_append TextRun.divides_glyphs buffer text attributes

theorem text_ne_empty_of_mem_appendRun {text : String} {attributes : Option TextAttributes}
    {runs : List TextRun} (htext : text ≠ "") (hruns : ∀ run ∈ runs, run.text ≠ "") :
    ∀ run ∈ appendRun text attributes runs, run.text ≠ "" := by
  fun_induction appendRun text attributes runs with
  | case1 => simpa using htext
  | case2 last h => simp_all
  | case3 last h => simp_all
  | case4 run next rest ih =>
    simp only [List.mem_cons, forall_eq_or_imp] at hruns ⊢
    refine ⟨hruns.1, ih ?_⟩
    simpa using hruns.2

theorem NoEmptyRun.append {buffer : TextBuffer} (h : buffer.NoEmptyRun) (text : String)
    (attributes : Option TextAttributes) : (buffer.append text attributes).NoEmptyRun := by
  unfold TextBuffer.append
  split
  · exact h
  · next htext =>
    exact text_ne_empty_of_mem_appendRun (fun heq => htext (String.isEmpty_iff.2 heq)) h

/-- A buffer without empty runs shows something unless it has no run at all. -/
theorem glyphs_eq_nil_iff {buffer : TextBuffer} (h : buffer.NoEmptyRun) :
    buffer.glyphs = [] ↔ buffer.isEmpty = true := by
  unfold glyphs isEmpty
  rcases hruns : buffer.runs with _ | ⟨run, rest⟩
  · simp
  · have := h run (by simp [hruns])
    simp [TextRun.glyphs, this]

theorem ofText_withoutNewline? (text : String) (attributes : Option TextAttributes) :
    Glyph.ofText ((withoutNewline? text).getD text) attributes =
      withoutFinal Glyph.isBreak (Glyph.ofText text attributes) := by
  have hmap : Glyph.ofText text attributes =
      text.toList.map (.letter · (attributes.map TextAttributes.settled)) := rfl
  rw [hmap, ← map_withoutFinal]
  unfold withoutNewline? withoutFinal
  split
  · next h => simp [h, Glyph.ofText, Glyph.isBreak]
  · next h =>
    have hlast : text.toList.getLast?.any
        (Glyph.isBreak ∘ (.letter · (attributes.map TextAttributes.settled))) = false := by
      cases hl : text.toList.getLast? with
      | none => rfl
      | some char =>
        have hne : char ≠ '\n' := fun heq => h (heq ▸ hl)
        simpa [Glyph.isBreak] using hne
    simp [hlast, Glyph.ofText]

/-- Trimming drops a newline at the end of what is read, and leaves no empty run behind. -/
theorem trimRuns?_spec {runs : List TextRun} (hruns : ∀ run ∈ runs, run.text ≠ "") :
    ((trimRuns? runs).getD runs).flatMap TextRun.glyphs =
        withoutFinal Glyph.isBreak (runs.flatMap TextRun.glyphs) ∧
      ∀ run ∈ (trimRuns? runs).getD runs, run.text ≠ "" := by
  fun_induction trimRuns? runs with
  | case1 => simp
  | case2 last =>
    have htext := ofText_withoutNewline? last.text last.attributes
    cases hw : withoutNewline? last.text with
    | none => simpa [hw, TextRun.glyphs] using And.intro htext hruns
    | some text =>
      rw [hw, Option.getD_some] at htext
      by_cases hempty : text = ""
      · rw [hempty, Glyph.ofText_eq_nil_iff.2 rfl] at htext
        simp [hempty, TextRun.glyphs, ← htext]
      · simp [hempty, TextRun.glyphs, htext]
  | case3 run next rest ih =>
    simp only [List.mem_cons, forall_eq_or_imp] at hruns
    obtain ⟨hglyphs, htext⟩ := ih (by simpa using hruns.2)
    have hne : (next :: rest).flatMap TextRun.glyphs ≠ [] := by
      simp [TextRun.glyphs, hruns.2.1]
    rw [List.flatMap_cons, withoutFinal_append _ _ hne, ← hglyphs]
    cases htrim : trimRuns? (next :: rest) with
    | none => simpa [htrim] using hruns
    | some trimmed => simpa [htrim] using And.intro hruns.1 (by simpa [htrim] using htext)

theorem runs_trimNewline (buffer : TextBuffer) :
    buffer.trimNewline.1.runs = (trimRuns? buffer.runs).getD buffer.runs := by
  unfold trimNewline
  split
  · next h => simp [h]
  · next h => simp [h]

theorem glyphs_trimNewline {buffer : TextBuffer} (h : buffer.NoEmptyRun) :
    buffer.trimNewline.1.glyphs = withoutFinal Glyph.isBreak buffer.glyphs := by
  rw [glyphs, runs_trimNewline]
  exact (trimRuns?_spec h).1

theorem NoEmptyRun.trimNewline {buffer : TextBuffer} (h : buffer.NoEmptyRun) :
    buffer.trimNewline.1.NoEmptyRun := by
  unfold NoEmptyRun
  rw [runs_trimNewline]
  exact (trimRuns?_spec h).2

/-- Flushing shows just what waited. -/
@[simp]
theorem reading_flush (buffer : TextBuffer) : Node.reading buffer.flush.toList = buffer.glyphs := by
  unfold flush isEmpty
  split
  · next h => simp [glyphs, List.isEmpty_iff.1 h]
  · simp [glyphs]

theorem flush_eq_none_iff (buffer : TextBuffer) : buffer.flush = none ↔ buffer.isEmpty = true := by
  simp [flush]

end TextBuffer

end MarkdownLayout
