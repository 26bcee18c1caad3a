import MarkdownLayout.FrontMatter
import MarkdownLayout.Proofs.Slices

/-!
# What counts as front matter

Front matter is documented as the lines between two fences at the head of a text. The search looks at how a line
begins, not at the whole line: whatever begins with three dashes opens front matter and closes it. So a text loses
front matter and nothing else exactly if the lines that open and close it in this way are fences and no more.
Metadata without dashes at the head of its lines is always taken away whole, and the byte offsets of the search never
cut a character.
-/

namespace MarkdownLayout.FrontMatter

def lines (cs : List Char) : List (List Char) :=
  cs.splitOn '\n'

def ofLines (ls : List (List Char)) : List Char :=
  ['\n'].intercalate ls

def IsFenceLine (line : List Char) : Prop :=
  line = fence ∨ line = fence ++ ['\r']

/-- A text between fences of some kind: the first line is one, and so is a later line, the first of its kind. -/
structure Fenced (isFence : List Char → Prop) (cs opening : List Char) (metadata : List (List Char))
    (closing : List Char) (after : List (List Char)) : Prop where
  lines_eq : lines cs = opening :: (metadata ++ closing :: after)
  opens : isFence opening
  inside : ∀ line ∈ metadata, ¬isFence line
  closes : isFence closing

section Lines

variable {cs line closing next : List Char} {metadata after : List (List Char)}

theorem ofLines_lines (cs : List Char) : ofLines (lines cs) = cs :=
  List.intercalate_splitOn '\n'

theorem lines_append (front back : List Char) : lines (front ++ '\n' :: back) = lines front ++ lines back :=
  List.splitOn_append_cons_self front back

theorem newline_notMem_of_mem_lines (h : line ∈ lines cs) : '\n' ∉ line := by
  induction cs generalizing line with
  | nil => simp_all [lines]
  | cons c rest ih =>
    rw [lines, List.splitOn_cons_eq_if_modifyHead] at h
    obtain ⟨first, others, hrest⟩ := List.exists_cons_of_ne_nil (List.splitOn_ne_nil '\n' rest)
    rw [lines, hrest] at ih
    rw [hrest] at h
    split at h
    · rcases List.mem_cons.1 h with rfl | h
      · simp
      · exact ih h
    · next hc =>
      rcases List.mem_cons.1 h with rfl | h
      · have hfirst := ih List.mem_cons_self
        have hne : c ≠ '\n' := by simpa using hc
        simp [hfirst, Ne.symm hne]
      · exact ih (List.mem_cons_of_mem _ h)

theorem ofLines_cons_append (line : List Char) (metadata : List (List Char)) (closing : List Char)
    (after : List (List Char)) :
    ofLines (line :: (metadata ++ closing :: after)) = line ++ '\n' :: ofLines (metadata ++ closing :: after) := by
  rw [ofLines, List.intercalate_cons_of_ne_nil (by simp), List.append_assoc]
  rfl

theorem ofLines_cons_cons (line second : List Char) (others : List (List Char)) :
    ofLines (line :: second :: others) = line ++ '\n' :: ofLines (second :: others) :=
  ofLines_cons_append line [] second others

theorem ofLines_suffix (metadata : List (List Char)) (closing : List Char) (after : List (List Char)) :
    ofLines (closing :: after) <:+ ofLines (metadata ++ closing :: after) := by
  induction metadata with
  | nil => exact List.suffix_refl _
  | cons line metadata ih =>
    rw [List.cons_append, ofLines_cons_append]
    exact (ih.trans (List.suffix_cons _ _)).trans (List.suffix_append _ _)

theorem length_ofLines_le {front back : List (List Char)} (h : back <:+ front) :
    (ofLines back).length ≤ (ofLines front).length := by
  obtain ⟨metadata, rfl⟩ := h
  cases back with
  | nil => simp [ofLines, List.intercalate_nil]
  | cons closing after => exact (ofLines_suffix metadata closing after).length_le

theorem fence_prefix_append_iff : fence <+: line ++ '\n' :: next ↔ fence <+: line := by
  refine ⟨fun h => ?_, fun h => h.trans (List.prefix_append _ _)⟩
  rcases List.prefix_or_prefix_of_prefix h (List.prefix_append line _) with hfence | ⟨more, hmore⟩
  · exact hfence
  · rw [← hmore, List.prefix_append_right_inj] at h
    -- what a fence has beyond the line would have to begin with the newline
    rcases more with _ | ⟨c, more⟩
    · rw [← hmore, List.append_nil]
    · obtain ⟨rfl, -⟩ := List.cons_prefix_cons.1 h
      have hnewline : '\n' ∈ fence := by simp [← hmore]
      exact absurd hnewline (by decide)

/-- Whether a text begins with a fence shows in its first line. -/
theorem fence_prefix_ofLines_iff : fence <+: ofLines (closing :: after) ↔ fence <+: closing := by
  cases after with
  | nil => rw [ofLines, List.intercalate_singleton]
  | cons second others => rw [ofLines_cons_cons, fence_prefix_append_iff]

theorem afterFence?_of_notMem (h : '\n' ∉ line) : afterFence? line = none := by
  fun_induction afterFence? line with
  | case1 => rfl
  | case2 c cs hfound => simp [hfound.1] at h
  | case3 c cs hskipped ih => exact ih (List.not_mem_of_not_mem_cons h)

/-- The search passes over a line that is no fence. -/
theorem afterFence?_append (h : '\n' ∉ line) (next : List Char) :
    afterFence? (line ++ '\n' :: next) =
      if fence <+: next then some (next.drop fence.length) else afterFence? next := by
  induction line with
  | nil => simp [afterFence?]
  | cons c line ih =>
    simp only [List.mem_cons, not_or] at h
    rw [List.cons_append, afterFence?, if_neg fun hfound => h.1 hfound.1.symm, ih h.2]

theorem drop_ofLines (h : fence <+: closing) :
    (ofLines (closing :: after)).drop fence.length = ofLines (closing.drop fence.length :: after) := by
  obtain ⟨more, rfl⟩ := h
  have hfence : ofLines ((fence ++ more) :: after) = fence ++ ofLines (more :: after) := by
    simp [ofLines, fence, List.intercalate_cons_cons_left]
  rw [hfence, List.drop_left, List.drop_left]

/-- The search stops at the first line that begins with a fence. -/
theorem afterFence?_of_inside (hline : '\n' ∉ line) (hnewline : ∀ l ∈ metadata, '\n' ∉ l)
    (hinside : ∀ l ∈ metadata, ¬fence <+: l) (hcloses : fence <+: closing) :
    afterFence? (ofLines (line :: (metadata ++ closing :: after))) =
      some (ofLines (closing.drop fence.length :: after)) := by
  induction metadata generalizing line with
  | nil =>
    rw [ofLines_cons_append, afterFence?_append hline, List.nil_append,
      if_pos (fence_prefix_ofLines_iff.2 hcloses), drop_ofLines hcloses]
  | cons second metadata ih =>
    rw [List.forall_mem_cons] at hnewline hinside
    rw [ofLines_cons_append, afterFence?_append hline, List.cons_append,
      if_neg (mt fence_prefix_ofLines_iff.1 hinside.1)]
    exact ih hnewline.1 hnewline.2 hinside.2

/-- Without such a line it finds nothing. -/
theorem afterFence?_eq_none (hline : '\n' ∉ line) (hnewline : ∀ l ∈ metadata, '\n' ∉ l)
    (hinside : ∀ l ∈ metadata, ¬fence <+: l) : afterFence? (ofLines (line :: metadata)) = none := by
  induction metadata generalizing line with
  | nil => rw [ofLines, List.intercalate_singleton, afterFence?_of_notMem hline]
  | cons second metadata ih =>
    rw [List.forall_mem_cons] at hnewline hinside
    rw [ofLines_cons_cons, afterFence?_append hline,
      if_neg (mt fence_prefix_ofLines_iff.1 hinside.1)]
    exact ih hnewline.1 hnewline.2 hinside.2

end Lines

section Strip

variable {cs opening closing : List Char} {metadata after : List (List Char)}

def remainder (closing : List Char) (after : List (List Char)) : List Char :=
  ofLines (closing.drop fence.length :: after)

theorem Fenced.eq_ofLines {isFence : List Char → Prop} (h : Fenced isFence cs opening metadata closing after) :
    cs = ofLines (opening :: (metadata ++ closing :: after)) := by
  rw [← h.lines_eq, ofLines_lines]

theorem Fenced.newline_notMem {isFence : List Char → Prop}
    (h : Fenced isFence cs opening metadata closing after) :
    ∀ line ∈ opening :: (metadata ++ closing :: after), '\n' ∉ line :=
  fun _ hline => newline_notMem_of_mem_lines (h.lines_eq ▸ hline)

/-- Between its fences a text loses everything, and behind them the newlines. -/
theorem stripChars_of_fenced (h : Fenced (fence <+: ·) cs opening metadata closing after) :
    stripChars cs = (remainder closing after).dropWhile (· = '\n') := by
  have hnewline := h.newline_notMem
  rw [List.forall_mem_cons, List.forall_mem_append] at hnewline
  have hprefix : fence.isPrefixOf cs = true := by
    rw [List.isPrefixOf_iff_prefix, h.eq_ofLines, fence_prefix_ofLines_iff]
    exact h.opens
  have hopening : '\n' ∉ opening.drop fence.length := fun hmem => hnewline.1 (List.mem_of_mem_drop hmem)
  rw [stripChars, if_pos hprefix, h.eq_ofLines, drop_ofLines h.opens,
    afterFence?_of_inside hopening hnewline.2.1 h.inside h.closes]
  rfl

/-- A text that is changed has fences. -/
theorem exists_fenced (h : stripChars cs ≠ cs) :
    ∃ opening metadata closing after, Fenced (fence <+: ·) cs opening metadata closing after := by
  obtain ⟨opening, others, hlines⟩ := List.exists_cons_of_ne_nil (List.splitOn_ne_nil '\n' cs)
  have hcs : cs = ofLines (opening :: others) := by rw [← hlines]; exact (ofLines_lines cs).symm
  have hnewline : ∀ line ∈ opening :: others, '\n' ∉ line := by
    rw [← hlines]
    exact fun _ => newline_notMem_of_mem_lines
  rw [List.forall_mem_cons] at hnewline
  by_cases hopens : fence <+: opening
  · cases hfind : others.find? (fence.isPrefixOf ·) with
    | some closing =>
      obtain ⟨hcloses, metadata, after, rfl, hinside⟩ := List.find?_eq_some_iff_append.1 hfind
      refine ⟨opening, metadata, closing, after, hlines, hopens, ?_, by simpa using hcloses⟩
      intro line hline
      simpa [← List.isPrefixOf_iff_prefix] using hinside line hline
    | none =>
      have hinside : ∀ line ∈ others, ¬fence <+: line := by simpa using hfind
      have hopening : '\n' ∉ opening.drop fence.length := fun hmem => hnewline.1 (List.mem_of_mem_drop hmem)
      refine absurd ?_ h
      unfold stripChars
      split
      · rw [hcs, drop_ofLines hopens, afterFence?_eq_none hopening hnewline.2 hinside]
      · rfl
  · refine absurd (if_neg ?_) h
    rwa [List.isPrefixOf_iff_prefix, hcs, fence_prefix_ofLines_iff]

/-- The fewer lines are fences, the later the closing one comes. -/
theorem Fenced.after_suffix {isFence strict : List Char → Prop} {opening' closing' : List Char}
    {metadata' after' : List (List Char)} (himp : ∀ line, strict line → isFence line)
    (h : Fenced isFence cs opening metadata closing after)
    (hstrict : Fenced strict cs opening' metadata' closing' after') :
    opening' = opening ∧ after' <:+ after := by
  have hlines := h.lines_eq.symm.trans hstrict.lines_eq
  obtain ⟨rfl, hrest⟩ := List.cons.inj hlines
  refine ⟨rfl, ?_⟩
  rcases List.append_eq_append_iff.1 hrest with ⟨between, rfl, hclosing⟩ | ⟨between, rfl, hclosing⟩
  · rcases between with _ | ⟨line, between⟩
    · obtain ⟨-, rfl⟩ := List.cons.inj hclosing
      exact List.suffix_refl _
    · obtain ⟨-, rfl⟩ := List.cons.inj hclosing
      exact (List.suffix_cons _ _).trans (List.suffix_append _ _)
  · rcases between with _ | ⟨line, between⟩
    · obtain ⟨-, rfl⟩ := List.cons.inj hclosing
      exact List.suffix_refl _
    · -- a fence of the stricter kind inside the metadata
      obtain ⟨rfl, -⟩ := List.cons.inj hclosing
      exact absurd (himp _ hstrict.closes) (h.inside _ (by simp))

theorem Fenced.remainder_suffix (h : Fenced (fence <+: ·) cs opening metadata closing after) :
    remainder closing after <:+ cs := by
  rw [remainder, ← drop_ofLines h.closes, h.eq_ofLines, ← List.cons_append]
  exact (List.drop_suffix _ _).trans (ofLines_suffix (opening :: metadata) closing after)

/-- A text with fences is changed. -/
theorem Fenced.stripChars_ne (h : Fenced (fence <+: ·) cs opening metadata closing after) : stripChars cs ≠ cs := by
  have hshort : (remainder closing after).length < cs.length := by
    rw [remainder, ← drop_ofLines h.closes, h.eq_ofLines, ofLines_cons_append]
    have := (ofLines_suffix metadata closing after).length_le
    simp only [List.length_drop, List.length_append, List.length_cons]
    omega
  intro heq
  rw [stripChars_of_fenced h] at heq
  have := (List.dropWhile_suffix (· = '\n') (l := remainder closing after)).length_le
  rw [heq] at this
  omega

theorem dropWhile_remainder_fence (after : List (List Char)) :
    (remainder fence after).dropWhile (· = '\n') = (ofLines after).dropWhile (· = '\n') := by
  cases after with
  | nil => rfl
  | cons next others =>
    rw [remainder, List.drop_length, ofLines_cons_cons]
    simp

/-- What a longer line leaves of itself stays in front of the lines after it. -/
theorem Fenced.length_lt_of_ne_fence (h : Fenced (fence <+: ·) cs opening metadata closing after)
    (hne : closing ≠ fence) :
    (ofLines after).length < ((remainder closing after).dropWhile (· = '\n')).length := by
  obtain ⟨more, rfl⟩ := h.closes
  have hnewline : '\n' ∉ more := fun hmem => h.newline_notMem (fence ++ more) (by simp) (by simp [hmem])
  rcases more with _ | ⟨c, more⟩
  · simp at hne
  have hc : c ≠ '\n' := fun heq => hnewline (by simp [heq])
  have hstays (rest : List Char) : (c :: rest).dropWhile (· = '\n') = c :: rest := by simp [hc]
  rw [remainder, List.drop_left]
  cases after with
  | nil =>
    rw [ofLines, ofLines, List.intercalate_singleton, hstays]
    simp
  | cons next others =>
    rw [ofLines_cons_cons, List.cons_append, hstays]
    simp only [List.length_cons, List.length_append]
    omega

end Strip

/-- A text is changed only where it has front matter between two fence lines, and only by taking that away. -/
def DropsOnlyFrontMatter (s : String) : Prop :=
  strip s ≠ s → ∃ opening metadata closing after, Fenced IsFenceLine s.toList opening metadata closing after ∧
    (strip s).toList = (ofLines after).dropWhile (· = '\n')

theorem fence_prefix_of_isFenceLine {line : List Char} (h : IsFenceLine line) : fence <+: line := by
  rcases h with rfl | rfl
  · exact List.prefix_refl _
  · exact List.prefix_append _ _

theorem strip_eq_iff {s : String} : strip s = s ↔ stripChars s.toList = s.toList := by
  rw [strip, ← String.toList_inj, String.toList_ofList]

/-- Front matter alone is dropped unless a line that merely begins with a fence is taken for one. -/
theorem dropsOnlyFrontMatter_iff (s : String) :
    DropsOnlyFrontMatter s ↔ ∀ opening metadata closing after,
      Fenced (fence <+: ·) s.toList opening metadata closing after → IsFenceLine opening ∧ closing = fence := by
  constructor
  · intro hdrops opening metadata closing after h
    obtain ⟨opening', metadata', closing', after', hdocumented, hstrip⟩ :=
      hdrops (mt strip_eq_iff.1 h.stripChars_ne)
    obtain ⟨rfl, hafter⟩ := h.after_suffix (fun _ => fence_prefix_of_isFenceLine) hdocumented
    refine ⟨hdocumented.opens, ?_⟩
    by_contra hne
    have hlong := h.length_lt_of_ne_fence hne
    rw [← stripChars_of_fenced h, ← String.toList_ofList (l := stripChars s.toList), ← strip, hstrip] at hlong
    have hshort := (List.dropWhile_suffix (· = '\n') (l := ofLines after')).length_le
    have := length_ofLines_le hafter
    omega
  · intro hfences hchanged
    obtain ⟨opening, metadata, closing, after, h⟩ := exists_fenced (mt strip_eq_iff.2 hchanged)
    obtain ⟨hopening, rfl⟩ := hfences _ _ _ _ h
    refine ⟨opening, metadata, fence, after, ⟨h.lines_eq, hopening, ?_, .inl rfl⟩, ?_⟩
    · exact fun line hline hfence => h.inside line hline (fence_prefix_of_isFenceLine hfence)
    · rw [strip, String.toList_ofList, stripChars_of_fenced h, dropWhile_remainder_fence]

example : strip "-----\nkept?\n-----\ntext" = "--\ntext" := by decide

/-- Text put between two fences is fenced by them, as long as none of its lines is one. -/
theorem fenced_append {metadata : List Char} (h : ∀ line ∈ lines metadata, ¬fence <+: line) (rest : List Char) :
    Fenced (fence <+: ·) (fence ++ '\n' :: (metadata ++ '\n' :: (fence ++ '\n' :: rest))) fence (lines metadata)
      fence (lines rest) where
  lines_eq := by
    have hfence : lines fence = [fence] := List.splitOn_eq_singleton (by decide)
    simp only [lines_append, hfence, List.singleton_append]
  opens := List.prefix_refl _
  inside := h
  closes := List.prefix_refl _

/-- The search by byte offsets. Nothing is answered where a cut falls inside a character. -/
def stripBytes? (s : String) : Option String :=
  if fence.isPrefixOf s.toList then
    (Text.slice? s ⟨3, s.utf8ByteSize⟩).bind fun behind =>
      match Text.findBytes? ('\n' :: fence) behind.toList with
      | some offset =>
        (Text.slice? s ⟨3 + offset + 4, s.utf8ByteSize⟩).map fun rest =>
          String.ofList (rest.toList.dropWhile (· = '\n'))
      | none => some s
  else some s

section Bytes

theorem slice?_behind {s : String} {front rest : List Char} (h : s.toList = front ++ rest) :
    Text.slice? s ⟨Text.byteLength front, s.utf8ByteSize⟩ = some (String.ofList rest) := by
  refine Text.slice?_eq_some_iff.2 ⟨front, [], ?_, rfl, ?_⟩
  · rw [String.toList_ofList, List.append_nil, h]
  · rw [Text.utf8ByteSize_eq_byteLength, h, String.toList_ofList, Text.byteLength_append]

/-- The search through lines and the search for a byte offset find the same place. -/
theorem afterFence?_eq_findBytes? (cs : List Char) :
    (afterFence? cs = none ∧ Text.findBytes? ('\n' :: fence) cs = none) ∨
      ∃ front rest, cs = front ++ ('\n' :: fence ++ rest) ∧ afterFence? cs = some rest ∧
        Text.findBytes? ('\n' :: fence) cs = some (Text.byteLength front) := by
  induction cs with
  | nil => exact .inl ⟨rfl, rfl⟩
  | cons c cs ih =>
    have hneedle : ('\n' :: fence).isPrefixOf (c :: cs) = true ↔ c = '\n' ∧ fence.isPrefixOf cs = true := by
      rw [List.isPrefixOf_iff_prefix, List.isPrefixOf_iff_prefix, List.cons_prefix_cons, eq_comm]
    simp only [afterFence?, Text.findBytes?, hneedle]
    by_cases hfound : c = '\n' ∧ fence.isPrefixOf cs = true
    · rw [if_pos hfound, if_pos hfound]
      obtain ⟨rest, rfl⟩ := List.isPrefixOf_iff_prefix.1 hfound.2
      exact .inr ⟨[], rest, by simp [hfound.1], by rw [List.drop_left], rfl⟩
    · rw [if_neg hfound, if_neg hfound]
      rcases ih with ⟨hnone, hbytes⟩ | ⟨front, rest, rfl, hsome, hbytes⟩
      · exact .inl ⟨hnone, by rw [hbytes, Option.map_none]⟩
      · exact .inr ⟨c :: front, rest, rfl, hsome, by
          rw [hbytes, Option.map_some, Text.byteLength_cons, Nat.add_comm]⟩

/-- No cut falls inside a character. -/
theorem stripBytes?_eq (s : String) : stripBytes? s = some (strip s) := by
  unfold stripBytes? strip stripChars
  split
  · next hprefix =>
    obtain ⟨behind, hs⟩ := List.isPrefixOf_iff_prefix.1 hprefix
    have hbehind := slice?_behind hs.symm
    have hlength : Text.byteLength fence = 3 := rfl
    rw [hlength] at hbehind
    rw [hbehind, Option.bind_some, String.toList_ofList, ← hs, List.drop_left]
    rcases afterFence?_eq_findBytes? behind with ⟨hnone, hbytes⟩ | ⟨front, rest, rfl, hsome, hbytes⟩
    · simp only [hnone, hbytes]
      rw [hs, String.ofList_toList]
    · have hcut : s.toList = (fence ++ (front ++ '\n' :: fence)) ++ rest := by
        rw [← hs]
        simp only [List.append_assoc]
      have hrest := slice?_behind hcut
      have hoffset : Text.byteLength (fence ++ (front ++ '\n' :: fence)) = 3 + Text.byteLength front + 4 := by
        simp only [Text.byteLength_append, Text.byteLength_cons, hlength, Nat.add_assoc]
        rfl
      rw [hoffset] at hrest
      simp only [hsome, hbytes, hrest, Option.map_some, String.toList_ofList]
  · rw [String.ofList_toList]

/-- Nothing but the front of a text is ever taken away. -/
theorem stripChars_suffix (cs : List Char) : stripChars cs <:+ cs := by
  by_cases h : stripChars cs = cs
  · rw [h]
  · obtain ⟨opening, metadata, closing, after, hfenced⟩ := exists_fenced h
    rw [stripChars_of_fenced hfenced]
    exact (List.dropWhile_suffix _).trans hfenced.remainder_suffix

end Bytes

/-- Front matter between whole fence lines is taken away with the newlines behind it, and any text keeps an end of
its own, cut off between two characters. -/
theorem strip_between_fences :
    (∀ (metadata content : String) (k : Nat), 1 ≤ k →
      (∀ line ∈ lines metadata.toList, ¬fence <+: line) → content.toList.head? ≠ some '\n' →
        strip ("---\n" ++ metadata ++ "\n---" ++ String.ofList (List.replicate k '\n') ++ content) = content) ∧
      ∀ s : String, stripBytes? s = some (strip s) ∧
        ∃ offset, Text.slice? s ⟨offset, s.utf8ByteSize⟩ = some (strip s) := by
  refine ⟨?_, fun s => ⟨stripBytes?_eq s, ?_⟩⟩
  · intro metadata content k hk hmetadata hcontent
    obtain ⟨j, rfl⟩ : ∃ j, k = j + 1 := ⟨k - 1, by omega⟩
    have hfenced := fenced_append hmetadata (List.replicate j '\n' ++ content.toList)
    have htext : ("---\n" ++ metadata ++ "\n---" ++ String.ofList (List.replicate (j + 1) '\n') ++ content).toList =
        fence ++ '\n' :: (metadata.toList ++ '\n' :: (fence ++ '\n' :: (List.replicate j '\n' ++ content.toList))) := by
      simp [fence, List.replicate_succ]
    have hlast : content.toList.dropWhile (· = '\n') = content.toList := by
      cases hchars : content.toList with
      | nil => rfl
      | cons c rest =>
        have hc : c ≠ '\n' := by simpa [hchars] using hcontent
        simp [hc]
    rw [strip, htext, stripChars_of_fenced hfenced, dropWhile_remainder_fence, ofLines_lines,
      List.dropWhile_append_of_pos (by simp), hlast, String.ofList_toList]
  · obtain ⟨front, hfront⟩ := stripChars_suffix s.toList
    exact ⟨_, slice?_behind hfront.symm⟩

theorem strip_between_fences_umlaut :
    (∀ line ∈ lines "\nä: --\n --- \r".toList, ¬fence <+: line) ∧ "---\nü\n---\n".toList.head? ≠ some '\n' ∧
      strip ("---\n" ++ "\nä: --\n --- \r" ++ "\n---" ++ String.ofList (List.replicate 2 '\n') ++ "---\nü\n---\n") =
        "---\nü\n---\n" :=
  have hmetadata : ∀ line ∈ lines "\nä: --\n --- \r".toList, ¬fence <+: line := by decide
  have hcontent : "---\nü\n---\n".toList.head? ≠ some '\n' := by decide
  ⟨hmetadata, hcontent, strip_between_fences.1 _ _ 2 (by decide) hmetadata hcontent⟩

end MarkdownLayout.FrontMatter
