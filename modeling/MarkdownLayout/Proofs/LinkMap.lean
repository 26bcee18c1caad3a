import MarkdownLayout.Proofs.Glyph
import MarkdownLayout.View

/-!
# Links byte by byte

Every byte of a block stands in one run and has the link of that run. The link at an offset is found by walking over
the runs; it is the entry of this table of bytes. The table does not show where one run ends and the next begins, so
it stays the same when the buffer joins what has been added: the byte keeps the link that it was added with.
-/

namespace MarkdownLayout

structure LinkedByte where
  byte : UInt8
  link : Option String
  deriving DecidableEq, Repr

namespace TextRun

def linkedBytes (run : TextRun) : List LinkedByte :=
  run.text.toUTF8.data.toList.map (⟨·, run.attributes.bind TextAttributes.link⟩)

theorem map_byte_linkedBytes (run : TextRun) :
    run.linkedBytes.map LinkedByte.byte = run.text.toUTF8.data.toList := by
  simp [linkedBytes, Function.comp_def]

theorem length_linkedBytes (run : TextRun) : run.linkedBytes.length = run.text.utf8ByteSize := by
  simp [linkedBytes]

theorem link_linkedBytes {run : TextRun} {offset : Nat} (h : offset < run.text.utf8ByteSize) :
    run.linkedBytes[offset]?.bind LinkedByte.link = run.attributes.bind TextAttributes.link := by
  have hlength : offset < run.linkedBytes.length := by rwa [length_linkedBytes]
  rw [List.getElem?_eq_getElem hlength, Option.bind_some]
  simp [linkedBytes]

/-- Joining runs that agree moves no link. -/
theorem link_eq_of_attributesAgree {a b : Option TextAttributes} (h : attributesAgree a b = true) :
    a.bind TextAttributes.link = b.bind TextAttributes.link := by
  have hsettled (c : Option TextAttributes) :
      (c.map TextAttributes.settled).bind TextAttributes.link = c.bind TextAttributes.link := by
    cases c <;> rfl
  rw [← hsettled a, map_settled_eq_of_attributesAgree h, hsettled b]

theorem divides_linkedBytes : Divides linkedBytes where
  append first second attributes := by simp [linkedBytes]
  agree text h := by simp only [linkedBytes, link_eq_of_attributesAgree h]

end TextRun

namespace TextBlock

def linkedBytes (block : TextBlock) : List LinkedByte :=
  block.runs.flatMap TextRun.linkedBytes

/-- The bytes of a block are those of its text. -/
theorem map_byte_linkedBytes (block : TextBlock) :
    block.linkedBytes.map LinkedByte.byte = block.text.toUTF8.data.toList := by
  obtain ⟨runs⟩ := block
  rw [linkedBytes, List.map_flatMap, text]
  simp only [TextRun.map_byte_linkedBytes]
  induction runs with
  | nil => rfl
  | cons run rest ih => simpa using ih

theorem length_linkedBytes (block : TextBlock) : block.linkedBytes.length = block.text.utf8ByteSize := by
  rw [← List.length_map LinkedByte.byte, map_byte_linkedBytes]
  simp

/-- Looking through the runs for an offset comes down to counting bytes. -/
theorem linkIn_eq (runs : List TextRun) (offset : Nat) :
    linkIn runs offset = (runs.flatMap TextRun.linkedBytes)[offset]?.bind LinkedByte.link := by
  fun_induction linkIn runs offset with
  | case1 => rfl
  | case2 run rest offset hinside =>
    have hleft : offset < run.linkedBytes.length := by rwa [TextRun.length_linkedBytes]
    rw [List.flatMap_cons, List.getElem?_append_left hleft, TextRun.link_linkedBytes hinside]
  | case3 run rest offset hbehind ih =>
    have hright : run.linkedBytes.length ≤ offset := by rw [TextRun.length_linkedBytes]; omega
    rw [List.flatMap_cons, List.getElem?_append_right hright, TextRun.length_linkedBytes, ih]

theorem linkAt_eq (block : TextBlock) (offset : Nat) :
    block.linkAt offset = block.linkedBytes[offset]?.bind LinkedByte.link :=
  linkIn_eq block.runs offset

theorem linkAt_of_length_le {block : TextBlock} {offset : Nat} (h : block.text.utf8ByteSize ≤ offset) :
    block.linkAt offset = none := by
  rw [← length_linkedBytes] at h
  rw [linkAt_eq, List.getElem?_eq_none h, Option.bind_none]

end TextBlock

namespace TextBuffer

def filled (pieces : List TextRun) : TextBuffer :=
  pieces.foldl (fun buffer piece => buffer.append piece.text piece.attributes) empty

/-- However the runs are joined, each byte keeps the link that it came with. -/
theorem linkedBytes_filled (pieces : List TextRun) :
    (filled pieces).runs.flatMap TextRun.linkedBytes = pieces.flatMap TextRun.linkedBytes := by
  have hfold (buffer : TextBuffer) :
      (pieces.foldl (fun buffer piece => buffer.append piece.text piece.attributes) buffer).runs.flatMap
          TextRun.linkedBytes =
        buffer.runs.flatMap TextRun.linkedBytes ++ pieces.flatMap TextRun.linkedBytes := by
    induction pieces generalizing buffer with
    | nil => simp
    | cons piece rest ih =>
      rw [List.foldl_cons, ih, flatMap_runs_append TextRun.divides_linkedBytes, List.append_assoc, List.flatMap_cons]
  exact hfold empty

/-- What is taken from the buffer is nothing for no text, else a block that has the links of the pieces. -/
theorem flush_filled (pieces : List TextRun) :
    ((filled pieces).flush = none ∧ ∀ piece ∈ pieces, piece.text = "") ∨
      ∃ block : TextBlock, (filled pieces).flush = some (.text block) ∧
        block.linkedBytes = TextBlock.linkedBytes ⟨pieces⟩ := by
  have hbytes := linkedBytes_filled pieces
  unfold flush isEmpty
  cases hruns : (filled pieces).runs with
  | nil =>
    refine .inl ⟨rfl, fun piece hpiece => ?_⟩
    rw [hruns, List.flatMap_nil, eq_comm, List.flatMap_eq_nil_iff] at hbytes
    simpa [TextRun.length_linkedBytes] using congrArg List.length (hbytes piece hpiece)
  | cons run rest =>
    rw [hruns] at hbytes
    exact .inr ⟨⟨run :: rest⟩, rfl, hbytes⟩

end TextBuffer

/-- The link at an offset is that of the byte there, however the runs of a block are cut: a block taken from the
buffer has each link where the pieces added to the buffer have it, and activating a place reports its link. -/
theorem links_byByte (view : View) (block : TextBlock) (offset : Nat) (pieces : List TextRun) :
    (block.linkedBytes.map LinkedByte.byte = block.text.toUTF8.data.toList ∧
      block.linkAt offset = block.linkedBytes[offset]?.bind LinkedByte.link ∧
      (block.text.utf8ByteSize ≤ offset → block.linkAt offset = none)) ∧
    (((TextBuffer.filled pieces).flush = none ∧ ∀ piece ∈ pieces, piece.text = "") ∨
      ∃ taken : TextBlock, (TextBuffer.filled pieces).flush = some (.text taken) ∧
        taken.text = TextBlock.text ⟨pieces⟩ ∧
        taken.linkAt offset = (TextBlock.linkedBytes ⟨pieces⟩)[offset]?.bind LinkedByte.link) ∧
    view.activateLink block offset =
      match block.linkedBytes[offset]?.bind LinkedByte.link with
      | some destination => (true, (view.listeners.link.map (Notice.link · destination)).toList)
      | none => (false, []) := by
  refine ⟨⟨block.map_byte_linkedBytes, block.linkAt_eq offset, TextBlock.linkAt_of_length_le⟩, ?_, ?_⟩
  · rcases TextBuffer.flush_filled pieces with hnothing | ⟨taken, htaken, hbytes⟩
    · exact .inl hnothing
    · have htext := congrArg (List.map LinkedByte.byte) hbytes
      rw [TextBlock.map_byte_linkedBytes, TextBlock.map_byte_linkedBytes] at htext
      refine .inr ⟨taken, htaken, ?_, ?_⟩
      · exact String.toByteArray_inj.1 (ByteArray.ext (Array.toList_inj.1 htext))
      · rw [taken.linkAt_eq, hbytes]
  · rw [← block.linkAt_eq offset]
    rfl

def docsNote : TextBlock :=
  ⟨[⟨"ü ", none⟩, ⟨"", none⟩, ⟨"docs", some { font := {}, link := some "https://docs.rs" }⟩]⟩

theorem links_byByte_docsNote : docsNote.text.utf8ByteSize ≤ 7 ∧ docsNote.linkAt 7 = none :=
  have hend : docsNote.text.utf8ByteSize ≤ 7 := by decide
  ⟨hend, (links_byByte default docsNote 7 docsNote.runs).1.2.2 hend⟩

example : [0, 1, 2, 3, 6].map docsNote.linkAt =
    [none, none, none, some "https://docs.rs", some "https://docs.rs"] := by decide

end MarkdownLayout
