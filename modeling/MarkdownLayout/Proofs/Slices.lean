import MarkdownLayout.Assembly
import Mathlib.Data.List.DropRight
import Mathlib.Data.List.Infix

/-!
# Slices of a source

A span cuts out a slice exactly when the source falls into three pieces of which the slice is the middle one, and the
span counts the bytes of the first two. Read this way, a slice of a slice is a slice, so the places that are found
inside the slice of an event can be given as spans of the whole source.
-/

namespace MarkdownLayout.Text

@[simp]
theorem byteLength_nil : byteLength [] = 0 := rfl

theorem byteLength_cons (c : Char) (cs : List Char) : byteLength (c :: cs) = c.utf8Size + byteLength cs := rfl

@[simp]
theorem byteLength_append (front back : List Char) :
    byteLength (front ++ back) = byteLength front + byteLength back := by
  induction front with
  | nil => simp
  | cons c rest ih => rw [List.cons_append, byteLength_cons, byteLength_cons, ih, Nat.add_assoc]

@[simp]
theorem byteLength_reverse (cs : List Char) : byteLength cs.reverse = byteLength cs := by
  induction cs with
  | nil => rfl
  | cons c rest ih =>
    rw [List.reverse_cons, byteLength_append, ih, byteLength_cons, byteLength_cons, Nat.add_comm]
    rfl

theorem byteLength_eq_zero_iff {cs : List Char} : byteLength cs = 0 ↔ cs = [] := by
  cases cs with
  | nil => simp
  | cons c rest =>
    have hpos := c.utf8Size_pos
    rw [byteLength_cons]
    simp
    omega

theorem utf8ByteSize_eq_byteLength (s : String) : s.utf8ByteSize = byteLength s.toList := by
  have hchars (cs : List Char) : (String.ofList cs).utf8ByteSize = byteLength cs := by
    induction cs with
    | nil => rfl
    | cons c rest ih =>
      rw [← List.singleton_append, String.ofList_append, String.utf8ByteSize_append, ih,
        ← String.singleton_eq_ofList, String.utf8ByteSize_singleton, List.singleton_append, byteLength_cons]
  rw [← hchars, String.ofList_toList]

theorem dropBytes?_append (front rest : List Char) : dropBytes? (byteLength front) (front ++ rest) = some rest := by
  induction front with
  | nil => simp [dropBytes?]
  | cons c front ih =>
    have hpos := c.utf8Size_pos
    obtain ⟨n, hn⟩ : ∃ n, c.utf8Size + byteLength front = n + 1 := ⟨_, (Nat.succ_pred (by omega)).symm⟩
    have hleft : n + 1 - c.utf8Size = byteLength front := by omega
    rw [byteLength_cons, hn, List.cons_append, dropBytes?, if_pos (by omega), hleft, ih]

theorem takeBytes?_append (front rest : List Char) : takeBytes? (byteLength front) (front ++ rest) = some front := by
  induction front with
  | nil => simp [takeBytes?]
  | cons c front ih =>
    have hpos := c.utf8Size_pos
    obtain ⟨n, hn⟩ : ∃ n, c.utf8Size + byteLength front = n + 1 := ⟨_, (Nat.succ_pred (by omega)).symm⟩
    have hleft : n + 1 - c.utf8Size = byteLength front := by omega
    rw [byteLength_cons, hn, List.cons_append, takeBytes?, if_pos (by omega), hleft, ih, Option.map_some]

/-- A cut is possible exactly where some of the characters end. -/
theorem dropBytes?_eq_some_iff {n : Nat} {cs rest : List Char} :
    dropBytes? n cs = some rest ↔ ∃ front, cs = front ++ rest ∧ byteLength front = n := by
  constructor
  · intro h
    fun_induction dropBytes? n cs with
    | case1 cs =>
      cases h
      exact ⟨[], rfl, rfl⟩
    | case2 n => cases h
    | case3 n c cs hfits ih =>
      obtain ⟨front, rfl, hlength⟩ := ih h
      exact ⟨c :: front, rfl, by rw [byteLength_cons, hlength, Nat.add_sub_of_le hfits]⟩
    | case4 n c cs hfits => cases h
  · rintro ⟨front, rfl, rfl⟩
    exact dropBytes?_append front rest

theorem takeBytes?_eq_some_iff {n : Nat} {cs front : List Char} :
    takeBytes? n cs = some front ↔ ∃ rest, cs = front ++ rest ∧ byteLength front = n := by
  constructor
  · intro h
    fun_induction takeBytes? n cs generalizing front with
    | case1 cs =>
      cases h
      exact ⟨cs, rfl, rfl⟩
    | case2 n => cases h
    | case3 n c cs hfits ih =>
      obtain ⟨taken, htaken, rfl⟩ := Option.map_eq_some_iff.1 h
      obtain ⟨rest, rfl, hlength⟩ := ih htaken
      exact ⟨rest, rfl, by rw [byteLength_cons, hlength, Nat.add_sub_of_le hfits]⟩
    | case4 n c cs hfits => cases h
  · rintro ⟨rest, rfl, rfl⟩
    exact takeBytes?_append front rest

/-- A span cuts out a text exactly if the text stands there, between characters. -/
theorem slice?_eq_some_iff {source text : String} {span : Span} :
    slice? source span = some text ↔ ∃ front back, source.toList = front ++ (text.toList ++ back) ∧
      byteLength front = span.start ∧ span.start + byteLength text.toList = span.stop := by
  unfold slice?
  constructor
  · intro h
    split at h
    · next hordered =>
      obtain ⟨rest, hrest, htaken⟩ := Option.bind_eq_some_iff.1 h
      obtain ⟨chars, hchars, rfl⟩ := Option.map_eq_some_iff.1 htaken
      obtain ⟨front, hsource, hstart⟩ := dropBytes?_eq_some_iff.1 hrest
      obtain ⟨back, rfl, hlength⟩ := takeBytes?_eq_some_iff.1 hchars
      exact ⟨front, back, by rw [String.toList_ofList, hsource], hstart, by rw [String.toList_ofList]; omega⟩
    · cases h
  · rintro ⟨front, back, hsource, hstart, hstop⟩
    rw [if_pos (by omega), dropBytes?_eq_some_iff.2 ⟨front, hsource, hstart⟩, Option.bind_some,
      takeBytes?_eq_some_iff.2 ⟨back, rfl, by omega⟩, Option.map_some, String.ofList_toList]

/-- A slice that shows something is cut out by its span. -/
theorem slice?_of_slice_ne_empty {source : String} {span : Span} (h : slice source span ≠ "") :
    slice? source span = some (slice source span) := by
  unfold slice at h ⊢
  cases hslice : slice? source span with
  | none => simp [hslice] at h
  | some text => rfl

theorem slice_of_slice? {source text : String} {span : Span} (h : slice? source span = some text) :
    slice source span = text := by
  rw [slice, h, Option.getD_some]

/-- A piece of a slice is cut out of the source behind the pieces before it. -/
theorem slice?_piece {source text : String} {span : Span} {front piece back : List Char}
    (h : slice? source span = some text) (hpieces : text.toList = front ++ (piece ++ back)) :
    slice? source ⟨span.start + byteLength front, span.start + byteLength front + byteLength piece⟩ =
      some (String.ofList piece) := by
  obtain ⟨before, after, hsource, hstart, -⟩ := slice?_eq_some_iff.1 h
  refine slice?_eq_some_iff.2 ⟨before ++ front, back ++ after, ?_, ?_, ?_⟩
  · rw [String.toList_ofList, hsource, hpieces]
    simp only [List.append_assoc]
  · rw [byteLength_append, hstart]
  · rw [String.toList_ofList]

/-- What is found stands at the place that was given. -/
theorem exists_of_findBytes? {needle cs : List Char} {offset : Nat} (h : findBytes? needle cs = some offset) :
    ∃ front back, cs = front ++ (needle ++ back) ∧ byteLength front = offset := by
  fun_induction findBytes? needle cs generalizing offset with
  | case1 hempty =>
    cases h
    exact ⟨[], [], by simpa using hempty, rfl⟩
  | case2 hempty => cases h
  | case3 c cs hprefix =>
    cases h
    obtain ⟨back, hback⟩ := List.isPrefixOf_iff_prefix.1 hprefix
    exact ⟨[], back, hback.symm, rfl⟩
  | case4 c cs hprefix ih =>
    obtain ⟨found, hfound, rfl⟩ := Option.map_eq_some_iff.1 h
    obtain ⟨front, back, rfl, rfl⟩ := ih hfound
    exact ⟨c :: front, back, rfl, by rw [byteLength_cons, Nat.add_comm]⟩

/-- What occurs in a text is found in it. -/
theorem findBytes?_ne_none {needle cs : List Char} (h : needle <:+: cs) : findBytes? needle cs ≠ none := by
  fun_induction findBytes? needle cs with
  | case1 hempty => simp
  | case2 hempty => exact absurd (List.isEmpty_iff.2 (List.infix_nil.1 h)) hempty
  | case3 c cs hprefix => simp
  | case4 c cs hprefix ih =>
    have hlater := (List.infix_cons_iff.1 h).resolve_left fun hfirst =>
      hprefix (List.isPrefixOf_iff_prefix.2 hfirst)
    simpa using ih hlater

/-- Text that occurs in a slice is located where it is spelled. -/
theorem exists_locate?_of_infix {source content : String} {span : Span} (hcontent : content ≠ "")
    (h : content.toList <:+: (slice source span).toList) :
    ∃ found, locate? source content span = some found ∧ found.isEmpty = false ∧
      slice source found = content := by
  have hne : slice source span ≠ "" := by
    intro hempty
    rw [hempty] at h
    exact hcontent (String.toList_eq_nil_iff.1 (List.infix_nil.1 h))
  obtain ⟨offset, hoffset⟩ := Option.ne_none_iff_exists'.1 (findBytes?_ne_none h)
  obtain ⟨front, back, hpieces, rfl⟩ := exists_of_findBytes? hoffset
  have hpiece := slice?_piece (slice?_of_slice_ne_empty hne) hpieces
  rw [← utf8ByteSize_eq_byteLength, String.ofList_toList] at hpiece
  refine ⟨_, by rw [locate?, hoffset, Option.map_some], ?_, slice_of_slice? hpiece⟩
  have hlength : content.utf8ByteSize ≠ 0 := by
    rw [utf8ByteSize_eq_byteLength, Ne, byteLength_eq_zero_iff, String.toList_eq_nil_iff]
    exact hcontent
  simp only [Span.isEmpty, decide_eq_false_iff_not]
  omega

/-- Cutting from both ends stops where the ends meet, if nothing else is there. -/
theorem max_byteLength_ends (p : Char → Bool) (cs : List Char) :
    max (byteLength (cs.reverse.dropWhile p)) (byteLength (cs.takeWhile p)) =
      byteLength (cs.takeWhile p) + byteLength ((cs.dropWhile p).rdropWhile p) := by
  have hfront : (cs.takeWhile p).reverse.dropWhile p = [] :=
    List.dropWhile_eq_nil_iff.2 fun c hc => List.mem_takeWhile_imp (List.mem_reverse.1 hc)
  have hreverse : cs.reverse = (cs.dropWhile p).reverse ++ (cs.takeWhile p).reverse := by
    rw [← List.reverse_append, List.takeWhile_append_dropWhile]
  rw [List.rdropWhile, byteLength_reverse, hreverse, List.dropWhile_append, hfront]
  split
  · next hnone => simp [List.isEmpty_iff.1 hnone]
  · rw [byteLength_append, byteLength_reverse]
    omega

def withoutBackticks (s : String) : String :=
  String.ofList ((s.toList.dropWhile (· = '\x60')).rdropWhile (· = '\x60'))

/-- The backticks at the two ends of a text, with the rest between them. -/
theorem toList_eq_backticks_append (text : String) :
    text.toList = text.toList.takeWhile (· = '\x60') ++
      ((text.toList.dropWhile (· = '\x60')).rdropWhile (· = '\x60') ++
        (text.toList.dropWhile (· = '\x60')).rtakeWhile (· = '\x60')) := by
  rw [List.rdropWhile_append_rtakeWhile, List.takeWhile_append_dropWhile]

/-- The span inside the backticks counts off the backticks at both ends. -/
theorem insideBackticks_eq {source text : String} {span : Span} (h : slice? source span = some text) :
    insideBackticks source span =
      ⟨span.start + byteLength (text.toList.takeWhile (· = '\x60')),
        span.start + byteLength (text.toList.takeWhile (· = '\x60')) +
          byteLength ((text.toList.dropWhile (· = '\x60')).rdropWhile (· = '\x60'))⟩ := by
  have hends := max_byteLength_ends (· = '\x60') text.toList
  rw [insideBackticks, slice_of_slice? h, Nat.add_max_add_left, hends, Nat.add_assoc]

theorem slice?_insideBackticks {source text : String} {span : Span} (h : slice? source span = some text) :
    slice? source (insideBackticks source span) = some (withoutBackticks text) := by
  rw [insideBackticks_eq h]
  exact slice?_piece h (toList_eq_backticks_append text)

/-- Code that occurs between the backticks of its slice is located there. -/
theorem exists_locate?_insideBackticks {source content : String} {span : Span} (hcontent : content ≠ "")
    (h : content.toList <:+: (withoutBackticks (slice source span)).toList) :
    ∃ found, locate? source content (insideBackticks source span) = some found ∧ found.isEmpty = false ∧
      slice source found = content := by
  have hne : slice source span ≠ "" := by
    intro hempty
    rw [hempty] at h
    exact hcontent (String.toList_eq_nil_iff.1 (List.infix_nil.1 h))
  rw [← slice_of_slice? (slice?_insideBackticks (slice?_of_slice_ne_empty hne))] at h
  exact exists_locate?_of_infix hcontent h

end MarkdownLayout.Text
