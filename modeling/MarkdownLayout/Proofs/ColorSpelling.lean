import MarkdownLayout.Proofs.JsonValue

/-!
# How a colour is spelled

A colour is documented as a hash followed by six or eight hexadecimal digits of either case. The reader takes more
than that: the first place of a digit pair may hold a plus sign, which counts as a zero. In everything else it
keeps to the documentation, which therefore holds of a text unless the text is accepted with a sign in it.
-/

namespace MarkdownLayout

namespace Text

def hexAlphabet : List Char :=
  ['0', '1', '2', '3', '4', '5', '6', '7', '8', '9', 'a', 'b', 'c', 'd', 'e', 'f']

def IsHexDigit (c : Char) : Prop :=
  c.toLower ∈ hexAlphabet

instance (c : Char) : Decidable (IsHexDigit c) :=
  inferInstanceAs (Decidable (c.toLower ∈ hexAlphabet))

def digitValue (c : Char) : Nat :=
  hexAlphabet.idxOf c.toLower

theorem toLower_of_le {c : Char} (h : 128 ≤ c.toNat) : c.toLower = c := by
  have hz : ¬c.val ≤ 'Z'.val := by
    intro hle
    have : c.toNat ≤ 'Z'.toNat := hle
    simp only [Char.reduceToNat] at this
    omega
  exact dif_neg fun hrange => hz hrange.2

theorem hexValue?_eq (c : Char) : hexValue? c = if IsHexDigit c then some (digitValue c) else none := by
  have hascii : ∀ n < 128, hexValue? (Char.ofNat n) =
      if IsHexDigit (Char.ofNat n) then some (digitValue (Char.ofNat n)) else none := by decide
  by_cases h : c.toNat < 128
  · simpa using hascii c.toNat h
  · have hsmall : ∀ d ∈ hexAlphabet, d.toNat < 128 := by simp [hexAlphabet]
    have hno : ¬IsHexDigit c := by
      intro hc
      rw [IsHexDigit, toLower_of_le (by omega)] at hc
      exact h (hsmall c hc)
    have hle : ∀ d : Char, d.toNat < 128 → ¬c ≤ d := by
      intro d hd hcd
      have : c.toNat ≤ d.toNat := hcd
      omega
    rw [if_neg hno]
    simp [hexValue?, hle]

theorem hexValue?_eq_some_iff {c : Char} {n : Nat} : hexValue? c = some n ↔ IsHexDigit c ∧ digitValue c = n := by
  rw [hexValue?_eq]
  split <;> simp [*]

theorem digitValue_lt {c : Char} (h : IsHexDigit c) : digitValue c < 16 :=
  List.idxOf_lt_length_of_mem h

theorem hexDigit_digitValue {c : Char} (h : IsHexDigit c) : hexDigit (digitValue c) = c.toLower := by
  have hdigits : hexAlphabet.all fun d => hexDigit (hexAlphabet.idxOf d) = d := by decide
  simpa [digitValue] using List.all_eq_true.1 hdigits _ h

theorem ne_plus_of_isHexDigit {c : Char} (h : IsHexDigit c) : c ≠ '+' := by
  rintro rfl
  exact absurd h (by decide)

end Text

namespace Color

def IsSpelling (cs : List Char) : Prop :=
  ∃ digits, cs = '#' :: digits ∧ (digits.length = 6 ∨ digits.length = 8) ∧ ∀ d ∈ digits, Text.IsHexDigit d

def channels (c : Color) : List Nat :=
  [c.red.toNat, c.green.toNat, c.blue.toNat, c.alpha.toNat]

def pairValues : List Char → List Nat
  | d :: e :: rest => (16 * Text.digitValue d + Text.digitValue e) :: pairValues rest
  | _ => []

def channelsSpelled (cs : List Char) : List Nat :=
  (pairValues cs.tail ++ [255]).take 4

def canonical (cs : List Char) : List Char :=
  let lower := cs.map Char.toLower
  if lower.drop 7 = ['f', 'f'] then lower.take 7 else lower

def unsigned (c : Char) : Char :=
  if c = '+' then '0' else c

def zeroSigns : List Char → List Char
  | d :: e :: rest => unsigned d :: e :: zeroSigns rest
  | rest => rest

/-- The text with zeros for the signs that open a digit pair. -/
def signless : List Char → List Char
  | [] => []
  | hash :: digits => hash :: zeroSigns digits

theorem unsigned_eq_self {c : Char} (h : c ≠ '+') : unsigned c = c :=
  if_neg h

theorem zeroSigns_eq_self {digits : List Char} (h : '+' ∉ digits) : zeroSigns digits = digits := by
  fun_induction zeroSigns digits with
  | case1 d e rest ih =>
    simp only [List.mem_cons, not_or] at h
    rw [unsigned_eq_self (Ne.symm h.1), ih h.2.2]
  | case2 => rfl

theorem length_zeroSigns (digits : List Char) : (zeroSigns digits).length = digits.length := by
  fun_induction zeroSigns digits with
  | case1 d e rest ih => simp [ih]
  | case2 => rfl

theorem signless_eq_self {cs : List Char} (h : '+' ∉ cs) : signless cs = cs := by
  cases cs with
  | nil => rfl
  | cons hash digits => rw [signless, zeroSigns_eq_self (List.not_mem_of_not_mem_cons h)]

theorem IsSpelling.plus_notMem {cs : List Char} (h : IsSpelling cs) : '+' ∉ cs := by
  obtain ⟨digits, rfl, -, hdigits⟩ := h
  intro hmem
  rcases List.mem_cons.1 hmem with heq | hmem
  · exact absurd heq (by decide)
  · exact Text.ne_plus_of_isHexDigit (hdigits _ hmem) rfl

theorem channel?_eq (d e : Char) :
    channel? d e = (Text.hexValue? e).bind fun low =>
      (Text.hexValue? (unsigned d)).map fun high => UInt8.ofNat (16 * high + low) := by
  unfold channel? unsigned
  by_cases h : d = '+'
  · have hzero : Text.hexValue? '0' = some 0 := by decide
    simp [h, hzero]
  · simp only [if_neg h]
    cases Text.hexValue? e <;> cases Text.hexValue? d <;> rfl

/-- A channel is two hexadecimal digits, the first of which may be a plus sign that counts as zero. -/
theorem channel?_eq_some_iff {d e : Char} {v : UInt8} :
    channel? d e = some v ↔ Text.IsHexDigit (unsigned d) ∧ Text.IsHexDigit e ∧
      v.toNat = 16 * Text.digitValue (unsigned d) + Text.digitValue e := by
  have hword {n : Nat} (hn : n < 256) : UInt8.ofNat n = v ↔ v.toNat = n := by
    rw [← UInt8.toNat_inj, UInt8.toNat_ofNat_of_lt' hn, eq_comm]
  simp only [channel?_eq, Option.bind_eq_some_iff, Option.map_eq_some_iff, Text.hexValue?_eq_some_iff]
  constructor
  · rintro ⟨_, ⟨he, rfl⟩, _, ⟨hd, rfl⟩, hv⟩
    have hlow := Text.digitValue_lt he
    have hhigh := Text.digitValue_lt hd
    exact ⟨hd, he, (hword (by omega)).1 hv⟩
  · rintro ⟨hd, he, hv⟩
    have hlow := Text.digitValue_lt he
    have hhigh := Text.digitValue_lt hd
    exact ⟨_, ⟨he, rfl⟩, _, ⟨hd, rfl⟩, (hword (by omega)).2 hv⟩

theorem channelText_of_channel? {d e : Char} {v : UInt8} (h : channel? d e = some v) :
    channelText v = [(unsigned d).toLower, e.toLower] := by
  obtain ⟨hd, he, hv⟩ := channel?_eq_some_iff.1 h
  have hlow := Text.digitValue_lt he
  have hhigh : v.toNat / 16 = Text.digitValue (unsigned d) := by omega
  have hrest : v.toNat % 16 = Text.digitValue e := by omega
  rw [channelText, hhigh, hrest, Text.hexDigit_digitValue hd, Text.hexDigit_digitValue he]

theorem channelText_eq_full_iff {v : UInt8} : channelText v = ['f', 'f'] ↔ v = 255 := by
  constructor
  · intro h
    obtain ⟨hhigh, hlow, -⟩ : _ ∧ _ ∧ _ := by simpa only [channelText, List.cons.injEq] using h
    have hfull : channel? 'f' 'f' = some 255 := by decide
    have hv := channel?_channelText v
    rw [hhigh, hlow, hfull] at hv
    exact (Option.some.inj hv).symm
  · rintro rfl
    decide

/-- What is accepted is a spelling once its signs are read as zeros, and has the channels spelled there. -/
theorem of_ofChars?_eq_some {cs : List Char} {c : Color} (h : ofChars? cs = some c) :
    IsSpelling (signless cs) ∧ c.channels = channelsSpelled (signless cs) ∧
      c.text.toList = canonical (signless cs) := by
  fun_cases ofChars? cs with
  | case1 r r' g g' b b' =>
    simp only [ofChars?, Option.bind_eq_bind, Option.bind_eq_some_iff, Option.pure_def, Option.some.injEq] at h
    obtain ⟨red, hred, green, hgreen, blue, hblue, rfl⟩ := h
    have hredText := channelText_of_channel? hred
    have hgreenText := channelText_of_channel? hgreen
    have hblueText := channelText_of_channel? hblue
    rw [channel?_eq_some_iff] at hred hgreen hblue
    refine ⟨⟨_, rfl, .inl rfl, by simp [zeroSigns, hred, hgreen, hblue]⟩, ?_, ?_⟩
    · simp [channels, channelsSpelled, signless, zeroSigns, pairValues, hred, hgreen, hblue]
    · simp [text, canonical, signless, zeroSigns, hredText, hgreenText, hblueText]
  | case2 r r' g g' b b' a a' =>
    simp only [ofChars?, Option.bind_eq_bind, Option.bind_eq_some_iff, Option.pure_def, Option.some.injEq] at h
    obtain ⟨red, hred, green, hgreen, blue, hblue, alpha, halpha, rfl⟩ := h
    have hredText := channelText_of_channel? hred
    have hgreenText := channelText_of_channel? hgreen
    have hblueText := channelText_of_channel? hblue
    have halphaText := channelText_of_channel? halpha
    rw [channel?_eq_some_iff] at hred hgreen hblue halpha
    refine ⟨⟨_, rfl, .inr rfl, by simp [zeroSigns, hred, hgreen, hblue, halpha]⟩, ?_, ?_⟩
    · simp [channels, channelsSpelled, signless, zeroSigns, pairValues, hred, hgreen, hblue, halpha]
    · -- the last pair reads `ff` exactly when the printer leaves it out
      have hfull : [(unsigned a).toLower, a'.toLower] = ['f', 'f'] ↔ alpha = 255 := by
        rw [← halphaText, channelText_eq_full_iff]
      by_cases h : alpha = 255
      · simp [text, canonical, signless, zeroSigns, hredText, hgreenText, hblueText, hfull.2 h, h]
      · simp [text, canonical, signless, zeroSigns, hredText, hgreenText, hblueText, halphaText, hfull, h]
  | case3 hsix height => simp [ofChars?] at h

theorem exists_channel? {d e : Char} (hd : Text.IsHexDigit (unsigned d)) (he : Text.IsHexDigit e) :
    ∃ v, channel? d e = some v := by
  rw [channel?_eq, Text.hexValue?_eq_some_iff.2 ⟨hd, rfl⟩, Text.hexValue?_eq_some_iff.2 ⟨he, rfl⟩]
  exact ⟨_, rfl⟩

theorem exists_pair {digits : List Char} {n : Nat} (h : digits.length = n + 2) :
    ∃ d e rest, digits = d :: e :: rest ∧ rest.length = n := by
  obtain ⟨d, others, rfl⟩ := List.exists_cons_of_length_eq_add_one h
  obtain ⟨e, rest, rfl⟩ := List.exists_cons_of_length_eq_add_one (Nat.succ.inj h)
  exact ⟨d, e, rest, rfl, by simpa using h⟩

/-- What is a spelling once its signs are read as zeros is accepted. -/
theorem exists_ofChars? {cs : List Char} (h : IsSpelling (signless cs)) : ∃ c, ofChars? cs = some c := by
  obtain ⟨digits, hcs, hlength, hdigits⟩ := h
  rcases cs with _ | ⟨hash, places⟩
  · cases hcs
  obtain ⟨rfl, rfl⟩ := List.cons.inj hcs
  rw [length_zeroSigns] at hlength
  rcases hlength with hsix | height
  · obtain ⟨r, r', _, rfl, hfour⟩ := exists_pair hsix
    obtain ⟨g, g', _, rfl, htwo⟩ := exists_pair hfour
    obtain ⟨b, b', _, rfl, hzero⟩ := exists_pair htwo
    obtain rfl := List.length_eq_zero_iff.1 hzero
    simp only [zeroSigns, List.forall_mem_cons] at hdigits
    obtain ⟨hr, hr', hg, hg', hb, hb', -⟩ := hdigits
    obtain ⟨red, hred⟩ := exists_channel? hr hr'
    obtain ⟨green, hgreen⟩ := exists_channel? hg hg'
    obtain ⟨blue, hblue⟩ := exists_channel? hb hb'
    exact ⟨⟨red, green, blue, 255⟩, by simp [ofChars?, hred, hgreen, hblue]⟩
  · obtain ⟨r, r', _, rfl, hsix⟩ := exists_pair height
    obtain ⟨g, g', _, rfl, hfour⟩ := exists_pair hsix
    obtain ⟨b, b', _, rfl, htwo⟩ := exists_pair hfour
    obtain ⟨a, a', _, rfl, hzero⟩ := exists_pair htwo
    obtain rfl := List.length_eq_zero_iff.1 hzero
    simp only [zeroSigns, List.forall_mem_cons] at hdigits
    obtain ⟨hr, hr', hg, hg', hb, hb', ha, ha', -⟩ := hdigits
    obtain ⟨red, hred⟩ := exists_channel? hr hr'
    obtain ⟨green, hgreen⟩ := exists_channel? hg hg'
    obtain ⟨blue, hblue⟩ := exists_channel? hb hb'
    obtain ⟨alpha, halpha⟩ := exists_channel? ha ha'
    exact ⟨⟨red, green, blue, alpha⟩, by simp [ofChars?, hred, hgreen, hblue, halpha]⟩

/-- The answer that a text deserves if it stands for the colour with the given spelling. -/
inductive ReadAs (s : String) (spelling : List Char) : Reading Color → Prop
  | color (c : Color) (spelled : IsSpelling spelling) (channels_eq : c.channels = channelsSpelled spelling)
      (text_eq : c.text.toList = canonical spelling) : ReadAs s spelling (.ok c)
  | refused (unspelled : ¬IsSpelling spelling) : ReadAs s spelling (.error (.invalidColor s))

theorem readAs_signless (s : String) : ReadAs s (signless s.toList) (ofData (.text s)) := by
  cases h : ofChars? s.toList with
  | some c =>
    obtain ⟨hspelled, hchannels, htext⟩ := of_ofChars?_eq_some h
    simp only [ofData, parse?, h]
    exact .color c hspelled hchannels htext
  | none =>
    simp only [ofData, parse?, h]
    refine .refused fun hspelled => ?_
    obtain ⟨c, hc⟩ := exists_ofChars? hspelled
    rw [h] at hc
    cases hc

theorem ReadAs.isSpelling_of_ok {s : String} {spelling : List Char} {c : Color} (h : ReadAs s spelling (.ok c)) :
    IsSpelling spelling := by
  cases h with
  | color _ hspelled => exact hspelled

/-- Every text is read as the one with zeros for its signs. What is documented, that it is read as it stands, holds
unless the text has a sign and is accepted all the same. -/
theorem readAs_iff (s : String) :
    ReadAs s (signless s.toList) (ofData (.text s)) ∧
      (ReadAs s s.toList (ofData (.text s)) ↔ '+' ∉ s.toList ∨ ¬∃ c, ofData (.text s) = .ok c) := by
  have hread := readAs_signless s
  refine ⟨hread, fun hdocumented => ?_, ?_⟩
  · by_contra! hsign
    obtain ⟨hplus, c, hc⟩ := hsign
    rw [hc] at hdocumented
    exact hdocumented.isSpelling_of_ok.plus_notMem hplus
  · rintro (hplus | hrefused)
    · rwa [signless_eq_self hplus] at hread
    · generalize hanswer : ofData (.text s) = answer at hread hrefused ⊢
      cases hread with
      | color c => exact absurd ⟨c, rfl⟩ hrefused
      | refused hsignless =>
        refine .refused fun hspelled => hsignless ?_
        rwa [signless_eq_self hspelled.plus_notMem]

example : ofData (.text "#+f0A00fF") = .ok ⟨15, 10, 0, 255⟩ := by decide

end Color

end MarkdownLayout
