import MarkdownLayout.Rendering
import Mathlib.Data.List.Basic

/-!
# The lines of an outline

An outline has one line for each node that a walk visits, in the order of the walk, and the indent of a line is the
depth of its node. Nothing a node says of itself can break its line: texts are quoted, and numbers and colours are
spelled in digits. Only a URL is written as it is, so the URLs are asked to hold no line end.
-/

namespace MarkdownLayout

namespace Text

def OnOneLine (text : String) : Prop :=
  '\n' ∉ text.toList

instance (text : String) : Decidable (OnOneLine text) :=
  inferInstanceAs (Decidable ('\n' ∉ text.toList))

/-- The text is these lines, each closed by a line end. -/
def IsLines (text : String) (lines : List String) : Prop :=
  text.toList.splitOn '\n' = lines.map String.toList ++ [[]]

@[simp] theorem onOneLine_append {text more : String} :
    OnOneLine (text ++ more) ↔ OnOneLine text ∧ OnOneLine more := by
  simp [OnOneLine]

theorem onOneLine_ofList {chars : List Char} : OnOneLine (String.ofList chars) ↔ '\n' ∉ chars := by
  simp [OnOneLine]

theorem onOneLine_join {texts : List String} (h : ∀ text ∈ texts, OnOneLine text) :
    OnOneLine (String.join texts) := by
  simpa [OnOneLine, String.toList_join] using h

theorem onOneLine_getD {α : Type} {part : Option α} {spell : α → String} {missing : String}
    (hmissing : OnOneLine missing) (h : ∀ a, OnOneLine (spell a)) : OnOneLine ((part.map spell).getD missing) := by
  cases part with
  | none => exact hmissing
  | some a => exact h a

theorem not_mem_toDigits {base : Nat} (hlow : 1 < base) (hhigh : base ≤ 16) (n : Nat) :
    '\n' ∉ Nat.toDigits base n := by
  have hdigit : ∀ digit < 16, '\n' ≠ Nat.digitChar digit := by decide
  induction n using Nat.strongRecOn with
  | ind n ih =>
    rw [Nat.toDigits_eq_if hlow]
    split
    · exact List.mem_singleton.not.2 (hdigit n (by omega))
    · have hlast := hdigit (n % base) (Nat.lt_of_lt_of_le (Nat.mod_lt n (by omega)) hhigh)
      have hfront := ih (n / base) (Nat.div_lt_self (by omega) hlow)
      simp [hfront, hlast]

@[simp] theorem onOneLine_repr (n : Nat) : OnOneLine n.repr := by
  simpa [OnOneLine] using not_mem_toDigits (by decide) (by decide) n

/-- Quoting spells a line end with a backslash. -/
theorem onOneLine_quotedChar (c : Char) : OnOneLine (quotedChar c) := by
  unfold quotedChar
  split
  case h_7 _ _ _ hne _ _ =>
    split
    · have hhexadecimal := onOneLine_ofList.2 (not_mem_toDigits (by decide : 1 < 16) (by decide) c.toNat)
      exact onOneLine_append.2 ⟨onOneLine_append.2 ⟨by decide, hhexadecimal⟩, by decide⟩
    · exact onOneLine_ofList.2 (List.mem_singleton.not.2 fun h => hne h.symm)
  all_goals decide

/-- Quoting puts any text on one line. -/
@[simp] theorem onOneLine_quoted (s : String) : OnOneLine (quoted s) := by
  have hchars : ∀ text ∈ s.toList.map quotedChar, OnOneLine text := by
    intro text htext
    obtain ⟨c, -, rfl⟩ := List.mem_map.1 htext
    exact onOneLine_quotedChar c
  exact onOneLine_append.2 ⟨onOneLine_append.2 ⟨by decide, onOneLine_join hchars⟩, by decide⟩

/-- Lines that hold no line end are found again by splitting. -/
theorem isLines_join {lines : List String} (h : ∀ line ∈ lines, OnOneLine line) :
    IsLines (String.join (lines.map (· ++ "\n"))) lines := by
  induction lines with
  | nil => simp [IsLines]
  | cons line rest ih =>
    have hrest := ih fun other hother => h other (List.mem_cons_of_mem line hother)
    have hline : '\n' ∉ line.toList := h line List.mem_cons_self
    simp_all [IsLines, List.splitOn_append_cons_self_of_not_mem]

end Text

namespace Scalar

open Text

@[simp] theorem onOneLine_zeros (n : Nat) : OnOneLine (zeros n) :=
  onOneLine_ofList.2 fun h => absurd (List.eq_of_mem_replicate h) (by decide)

@[simp] theorem onOneLine_signText (x : Scalar) : OnOneLine x.signText := by
  unfold signText
  split <;> decide

@[simp] theorem onOneLine_positional (digits : Nat) (exponent : Int) : OnOneLine (positional digits exponent) := by
  have hpadded (n : Nat) : '\n' ∉ (zeros n ++ toString digits).toList :=
    onOneLine_append.2 ⟨onOneLine_zeros n, onOneLine_repr digits⟩
  unfold positional
  split
  · simp
  · have hwhole n k := onOneLine_ofList.2 fun h => hpadded n (List.mem_of_mem_take (i := k) h)
    have hrest n k := onOneLine_ofList.2 fun h => hpadded n (List.mem_of_mem_drop (i := k) h)
    exact onOneLine_append.2 ⟨onOneLine_append.2 ⟨hwhole _ _, by decide⟩, hrest _ _⟩

@[simp] theorem onOneLine_display (x : Scalar) : OnOneLine x.display := by
  have hinfinite : OnOneLine "inf" := by decide
  unfold display
  split
  · decide
  · split
    · simp [hinfinite]
    · simp

end Scalar

namespace Color

open Text

theorem not_mem_channelText (channel : UInt8) : '\n' ∉ channelText channel := by
  have hdigit : ∀ n < 16, '\n' ≠ hexDigit n := by decide
  have hbyte := channel.toNat_lt
  have hhigh := hdigit (channel.toNat / 16) (by omega)
  have hlow := hdigit (channel.toNat % 16) (by omega)
  simp [channelText, hhigh, hlow]

@[simp] theorem onOneLine_text (c : Color) : OnOneLine c.text := by
  refine onOneLine_ofList.2 ?_
  split <;> simp [not_mem_channelText]

end Color

namespace Node

open Text

mutual

def walkAt (depth : Nat) : Node → List (Nat × Node)
  | .text block => [(depth, .text block)]
  | .image placeholder => [(depth, .image placeholder)]
  | .container axis spacing children =>
    (depth, .container axis spacing children) :: walkAllAt (depth + 1) children
  | .decorated inner decoration => (depth, .decorated inner decoration) :: walkAt (depth + 1) inner
  | .divider width height color => [(depth, .divider width height color)]

def walkAllAt (depth : Nat) : List Node → List (Nat × Node)
  | [] => []
  | node :: rest => walkAt depth node ++ walkAllAt depth rest

end

def line (depth : Nat) (node : Node) : String :=
  String.ofList (List.replicate (2 * depth) ' ') ++ node.label

def lineAt (place : Nat × Node) : String :=
  place.2.line place.1

def UrlsOnOneLine (nodes : List Node) : Prop :=
  ∀ placeholder, .image placeholder ∈ nodes → OnOneLine placeholder.url.text

mutual

theorem map_snd_walkAt (depth : Nat) (node : Node) : (node.walkAt depth).map Prod.snd = node.walk := by
  cases node with
  | text | image | divider => rfl
  | container axis spacing children => simp [walkAt, walk, map_snd_walkAllAt (depth + 1) children]
  | decorated inner decoration => simp [walkAt, walk, map_snd_walkAt (depth + 1) inner]

theorem map_snd_walkAllAt (depth : Nat) (nodes : List Node) :
    (walkAllAt depth nodes).map Prod.snd = walkAll nodes := by
  cases nodes with
  | nil => rfl
  | cons node rest => simp [walkAllAt, walkAll, map_snd_walkAt depth node, map_snd_walkAllAt depth rest]

end

theorem outlineLine_eq (depth : Nat) (node : Node) : outlineLine depth node = lineAt (depth, node) ++ "\n" :=
  rfl

mutual

/-- The outline is the lines of the walk, one after another. -/
theorem outlineAt_eq_join (depth : Nat) (node : Node) :
    node.outlineAt depth = String.join (((node.walkAt depth).map lineAt).map (· ++ "\n")) := by
  cases node with
  | text | image | divider => simp [outlineAt, walkAt, outlineLine_eq]
  | container axis spacing children =>
    simp [outlineAt, walkAt, outlineLine_eq, outlineAllAt_eq_join (depth + 1) children]
  | decorated inner decoration =>
    simp [outlineAt, walkAt, outlineLine_eq, outlineAt_eq_join (depth + 1) inner]

theorem outlineAllAt_eq_join (depth : Nat) (nodes : List Node) :
    outlineAllAt depth nodes = String.join (((walkAllAt depth nodes).map lineAt).map (· ++ "\n")) := by
  cases nodes with
  | nil => rfl
  | cons node rest =>
    simp [outlineAllAt, walkAllAt, outlineAt_eq_join depth node, outlineAllAt_eq_join depth rest]

end

theorem onOneLine_insetText (inset : Insets) : OnOneLine (insetText inset) := by
  have hopen : OnOneLine "(" := by decide
  have hcomma : OnOneLine "," := by decide
  have hclose : OnOneLine ")" := by decide
  simp [insetText, String.intercalate_cons_cons, hopen, hcomma, hclose]

theorem onOneLine_decorationText (decoration : Decoration) : OnOneLine (decorationText decoration) := by
  have hinset : OnOneLine "inset=" := by decide
  have hbackground : OnOneLine " bg=" := by decide
  have hborder : OnOneLine " border=" := by decide
  have hat : OnOneLine "@" := by decide
  have hradius : OnOneLine " radius=" := by decide
  have hnone : OnOneLine "" := by decide
  refine onOneLine_append.2 ⟨onOneLine_append.2 ⟨onOneLine_append.2 ⟨?_, ?_⟩, ?_⟩, ?_⟩
  · exact onOneLine_append.2 ⟨hinset, onOneLine_insetText decoration.inset⟩
  · exact onOneLine_getD hnone fun color => by simp [hbackground]
  · exact onOneLine_getD hnone fun border => by simp [hborder, hat]
  · exact onOneLine_getD hnone fun radius => by simp [hradius]

/-- Of all labels only that of an image shows a text as it is. -/
theorem onOneLine_label {node : Node} (h : UrlsOnOneLine [node]) : OnOneLine node.label := by
  cases node with
  | text block =>
    have hword : OnOneLine "text " := by decide
    simp [label, hword]
  | image placeholder =>
    have hword : OnOneLine "image #" := by decide
    have hblank : OnOneLine " " := by decide
    simp [label, hword, hblank, h placeholder List.mem_cons_self]
  | container axis spacing children =>
    have haxis : OnOneLine (axisText axis) := by cases axis <;> decide
    have hword : OnOneLine " spacing=" := by decide
    simp [label, haxis, hword]
  | decorated inner decoration =>
    have hword : OnOneLine "decorated " := by decide
    simp [label, hword, onOneLine_decorationText]
  | divider width height color =>
    have hextent (extent : Option Scalar) : OnOneLine (extentText extent) :=
      onOneLine_getD (by decide) Scalar.onOneLine_display
    have hword : OnOneLine "divider " := by decide
    have htimes : OnOneLine "x" := by decide
    simp [label, hword, htimes, hextent]

/-- A label starts with a word, so the blanks ahead of it are the indent. -/
theorem takeWhile_line (depth : Nat) (node : Node) :
    (node.line depth).toList.takeWhile (· = ' ') = List.replicate (2 * depth) ' ' := by
  have hlabel : node.label.toList.takeWhile (· = ' ') = [] := by
    cases node with
    | text | image | decorated | divider => simp [label]
    | container axis spacing children => cases axis <;> simp [label, axisText]
  simp [line, hlabel]

theorem UrlsOnOneLine.onOneLine_lineAt {places : List (Nat × Node)} (h : UrlsOnOneLine (places.map Prod.snd)) :
    ∀ line ∈ places.map lineAt, OnOneLine line := by
  intro line hline
  obtain ⟨⟨depth, node⟩, hplace, rfl⟩ := List.mem_map.1 hline
  have hindent : OnOneLine (String.ofList (List.replicate (2 * depth) ' ')) :=
    onOneLine_ofList.2 fun hmem => absurd (List.eq_of_mem_replicate hmem) (by decide)
  have hlabel : OnOneLine node.label := onOneLine_label fun placeholder himage =>
    h placeholder (List.mem_map.2 ⟨_, hplace, (List.mem_singleton.1 himage).symm⟩)
  exact onOneLine_append.2 ⟨hindent, hlabel⟩

/-- An outline has the lines of the nodes that the walk visits, in its order. -/
theorem isLines_outlineAt (depth : Nat) {node : Node} (h : UrlsOnOneLine node.walk) :
    IsLines (node.outlineAt depth) ((node.walkAt depth).map lineAt) := by
  rw [outlineAt_eq_join]
  rw [← map_snd_walkAt depth] at h
  exact isLines_join h.onOneLine_lineAt

theorem isLines_outlineAllAt (depth : Nat) {nodes : List Node} (h : UrlsOnOneLine (walkAll nodes)) :
    IsLines (outlineAllAt depth nodes) ((walkAllAt depth nodes).map lineAt) := by
  rw [outlineAllAt_eq_join]
  rw [← map_snd_walkAllAt depth] at h
  exact isLines_join h.onOneLine_lineAt

/-- A level down, everything is indented by two more blanks. -/
theorem lineAt_succ (depth : Nat) (node : Node) : lineAt (depth + 1, node) = "  " ++ lineAt (depth, node) := by
  have hindent : List.replicate (2 * (depth + 1)) ' ' = [' ', ' '] ++ List.replicate (2 * depth) ' ' := by
    rw [Nat.mul_succ, Nat.add_comm, List.replicate_add]
    rfl
  rw [lineAt, line, hindent, String.ofList_append, String.append_assoc]
  rfl

mutual

/-- One level deeper, every line has two more spaces in front. -/
theorem walkAt_succ (depth : Nat) (node : Node) :
    (node.walkAt (depth + 1)).map lineAt = ((node.walkAt depth).map lineAt).map ("  " ++ ·) := by
  cases node with
  | text | image | divider => simp [walkAt, lineAt_succ]
  | container axis spacing children => simp [walkAt, lineAt_succ, walkAllAt_succ (depth + 1) children]
  | decorated inner decoration => simp [walkAt, lineAt_succ, walkAt_succ (depth + 1) inner]

theorem walkAllAt_succ (depth : Nat) (nodes : List Node) :
    (walkAllAt (depth + 1) nodes).map lineAt = ((walkAllAt depth nodes).map lineAt).map ("  " ++ ·) := by
  cases nodes with
  | nil => rfl
  | cons node rest => simp [walkAllAt, walkAt_succ depth node, walkAllAt_succ depth rest]

end

end Node

namespace Rendering

open Text

variable {rendering : Rendering}

theorem lineAt_root (rendering : Rendering) :
    Node.lineAt (0, rendering.root) = "vstack spacing=" ++ rendering.itemSpacing.display := by
  simp [Node.lineAt, Node.line, root, Node.label, Node.axisText]

/-- The outline of a rendering is a line for its column and then its nodes, one level in. -/
theorem isLines_root (h : Node.UrlsOnOneLine (Node.walkAll rendering.nodes)) :
    IsLines rendering.root.outline (("vstack spacing=" ++ rendering.itemSpacing.display) ::
      ((Node.walkAllAt 0 rendering.nodes).map Node.lineAt).map ("  " ++ ·)) := by
  have hroot : Node.UrlsOnOneLine rendering.root.walk := by
    intro placeholder himage
    rcases List.mem_cons.1 himage with hroot | hinner
    · cases hroot
    · exact h placeholder hinner
  have hlines := Node.isLines_outlineAt 0 hroot
  rwa [root, Node.walkAt, List.map_cons, Node.walkAllAt_succ, ← root, lineAt_root] at hlines

/-- Whatever its texts contain, a node's outline has one line for each visit of its walk, in that order and indented
by two blanks for each level; over the nodes of a document their stack puts one line and one level more. -/
theorem outline_mirrors_walk (node : Node) (rendering : Rendering) (hnode : Node.UrlsOnOneLine node.walk)
    (hnodes : Node.UrlsOnOneLine (Node.walkAll rendering.nodes)) :
    ((node.walkAt 0).map Prod.snd = node.walk ∧
      IsLines node.outline ((node.walkAt 0).map Node.lineAt) ∧
      ∀ place : Nat × Node,
        (Node.lineAt place).toList.takeWhile (· = ' ') = List.replicate (2 * place.1) ' ') ∧
      ∃ lines, IsLines rendering.outline lines ∧
        IsLines rendering.root.outline
          (("vstack spacing=" ++ rendering.itemSpacing.display) :: lines.map ("  " ++ ·)) := by
  have hindents (place : Nat × Node) := Node.takeWhile_line place.1 place.2
  exact ⟨⟨Node.map_snd_walkAt 0 node, Node.isLines_outlineAt 0 hnode, hindents⟩,
    (Node.walkAllAt 0 rendering.nodes).map Node.lineAt, Node.isLines_outlineAllAt 0 hnodes, isLines_root hnodes⟩

def brokenText : Rendering where
  nodes := [.ofText "one\ntwo" none,
    .image ⟨1, ⟨"https", "", "", some (.name "example.org"), none, .segments ["a.png"], none, none⟩, none⟩]
  images := []
  itemSpacing := .zero

theorem outline_mirrors_walk_brokenText :
    IsLines brokenText.root.outline
        ["vstack spacing=0", "  text \"one\\ntwo\"", "  image #1 https://example.org/a.png"] ∧
      ∃ lines, IsLines brokenText.outline lines ∧
        IsLines brokenText.root.outline ("vstack spacing=0" :: lines.map ("  " ++ ·)) := by
  have hnodes : Node.UrlsOnOneLine (Node.walkAll brokenText.nodes) := by
    intro placeholder himage
    rcases List.mem_cons.1 himage with htext | hlast
    · cases htext
    · cases List.mem_singleton.1 hlast
      decide
  have hroot : Node.UrlsOnOneLine brokenText.root.walk := by
    intro placeholder himage
    exact hnodes placeholder (by simpa [root, Node.walk] using himage)
  have hmirrors := outline_mirrors_walk brokenText.root brokenText hroot hnodes
  exact ⟨hmirrors.1.2.1, hmirrors.2⟩

end Rendering

end MarkdownLayout
