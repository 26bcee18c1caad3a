import MarkdownLayout.Proofs.RoundTrip
import Mathlib.Data.List.Pairwise

/-!
# Records by their fields

Reading a record comes down to reading each of its fields from wherever its name is bound: the record is read as a
value exactly when every field is read as that value's own. The order in which fields are read is gone from this view,
and with it all that one field could do to another. A field without a binding has what stands in for it; in a record
whose fields may all be missing, that is the field of the neutral value.
-/

namespace MarkdownLayout

namespace Exchange

variable {α β : Type}

def optional (read : Data → Reading β) : Data → Reading (Option β)
  | .null => .ok none
  | data => (read data).map some

/-- A field of a record: what its value is read with, what stands in for it, and where it is kept. -/
structure Field (α : Type) where
  name : String
  Content : Type
  read : Data → Reading Content
  absent : Reading Content
  get : α → Content
  set : Content → α → α

namespace Field

def required (name : String) (read : Data → Reading β) (get : α → β) (set : β → α → α) : Field α where
  name := name
  Content := β
  read := read
  absent := .error (.missingField name)
  get := get
  set := set

def nullable (name : String) (read : Data → Reading β) (get : α → Option β) (set : Option β → α → α) : Field α where
  name := name
  Content := Option β
  read := optional read
  absent := .ok none
  get := get
  set := set

def defaulted (neutral : α) (name : String) (read : Data → Reading β) (get : α → β) (set : β → α → α) : Field α where
  name := name
  Content := β
  read := read
  absent := .ok (get neutral)
  get := get
  set := set

def readFrom (field : Field α) (named : List (String × Data)) : Reading field.Content :=
  match named.lookup field.name with
  | none => field.absent
  | some data => field.read data

def Holds (field : Field α) (named : List (String × Data)) (x : α) : Prop :=
  field.readFrom named = .ok (field.get x)

def Apart (field other : Field α) : Prop :=
  field.name ≠ other.name ∧
    ∀ x, (∀ content, other.get (field.set content x) = other.get x) ∧
      ∀ content, field.get (other.set content x) = field.get x

instance : Std.Symm (Apart (α := α)) :=
  ⟨fun _ _ h => ⟨h.1.symm, fun x => ⟨(h.2 x).2, (h.2 x).1⟩⟩⟩

end Field

section Reading

variable {result : Reading α} {next : α → Reading β} {f : α → β} {y : β} {x : α} {name : String}
  {named : List (String × Data)}

theorem bind_eq_ok : (result >>= next) = .ok y ↔ ∃ x, result = .ok x ∧ next x = .ok y := by
  cases result with
  | error => exact ⟨nofun, fun ⟨_, h, _⟩ => nomatch h⟩
  | ok x => exact ⟨fun h => ⟨x, rfl, h⟩, fun ⟨_, hx, h⟩ => Except.ok.inj hx ▸ h⟩

theorem map_eq_ok : result.map f = .ok y ↔ ∃ x, result = .ok x ∧ f x = y := by
  cases result with
  | error => exact ⟨nofun, fun ⟨_, h, _⟩ => nomatch h⟩
  | ok x => simp [Except.map]

theorem map_ok : (Except.ok x : Reading α).map f = .ok (f x) :=
  rfl

theorem required_eq_ok {found : Option α} : required name found = .ok x ↔ found = some x := by
  cases found <;> simp [required]

theorem holds_required {read : Data → Reading β} {get : α → β} {set : β → α → α} :
    (Field.required name read get set).Holds named x ↔ field? read named name = .ok (some (get x)) := by
  simp only [Field.Holds, Field.readFrom, Field.required, field?]
  cases named.lookup name with
  | none => simp
  | some data => cases h : read data <;> simp [Except.map, h]

theorem holds_nullable {read : Data → Reading β} {get : α → Option β} {set : Option β → α → α} :
    (Field.nullable name read get set).Holds named x ↔ nullable? read named name = .ok (get x) := by
  simp only [Field.Holds, Field.readFrom, Field.nullable, nullable?]
  cases named.lookup name with
  | none => rfl
  | some data => cases data <;> rfl

/-- A field with a default holds for a value if it is absent and the value is the default, or present and read so. -/
theorem holds_defaulted {neutral : α} {read : Data → Reading β} {get : α → β} {set : β → α → α} :
    (Field.defaulted neutral name read get set).Holds named x ↔
      (field? read named name).map (Option.getD · (get neutral)) = .ok (get x) := by
  simp only [Field.Holds, Field.readFrom, Field.defaulted, field?]
  cases named.lookup name with
  | none => rfl
  | some data => cases h : read data <;> simp [Except.map, h]

end Reading

section Binding

variable {name other : String} {named : List (String × Data)} {data : Data}

theorem lookup_setField_self : (Data.setField name data named).lookup name = some data := by
  induction named with
  | nil => simp [Data.setField]
  | cons entry rest ih =>
    obtain ⟨key, old⟩ := entry
    rw [Data.setField]
    split
    · rw [List.lookup_cons_self]
    · next hkey =>
      have hkey : key ≠ name := by simpa using hkey
      rw [lookup_cons_of_ne hkey.symm, ih]

theorem lookup_setField_of_ne (h : other ≠ name) :
    (Data.setField name data named).lookup other = named.lookup other := by
  induction named with
  | nil => rw [Data.setField, lookup_cons_of_ne h]
  | cons entry rest ih =>
    obtain ⟨key, old⟩ := entry
    rw [Data.setField]
    split
    · next hkey =>
      have hkey : key = name := by simpa using hkey
      rw [lookup_cons_of_ne h, lookup_cons_of_ne (hkey ▸ h)]
    · rw [List.lookup_cons, List.lookup_cons, ih]

def without (name : String) (named : List (String × Data)) : List (String × Data) :=
  named.filter (·.1 != name)

theorem lookup_without_self : (without name named).lookup name = none := by
  refine List.lookup_eq_none_iff.2 fun entry hentry => ?_
  rw [bne_comm]
  exact (List.mem_filter.1 hentry).2

theorem lookup_without_of_ne (h : other ≠ name) : (without name named).lookup other = named.lookup other := by
  induction named with
  | nil => rfl
  | cons entry rest ih =>
    obtain ⟨key, old⟩ := entry
    by_cases hkey : key = name
    · rw [lookup_cons_of_ne (hkey ▸ h), ← ih, without, List.filter_cons_of_neg (by simpa using hkey)]
      rfl
    · rw [without, List.filter_cons_of_pos (by simpa using hkey), List.lookup_cons, List.lookup_cons, ← ih]
      rfl

end Binding

class RecordReader (read : Data → Reading α) where
  fields : List (Field α)
  read_eq_ok_iff : ∀ named x, read (.record named) = .ok x ↔ ∀ field ∈ fields, field.Holds named x
  set_get : ∀ field ∈ fields, ∀ x, field.set (field.get x) x = x := by
    simp [Field.required, Field.nullable, Field.defaulted]
  get_set : ∀ field ∈ fields, ∀ content x, field.get (field.set content x) = content := by
    simp [Field.required, Field.nullable, Field.defaulted]
  apart : fields.Pairwise Field.Apart := by
    simp [Field.Apart, Field.required, Field.nullable, Field.defaulted]

class Defaulted (read : Data → Reading α) extends RecordReader read where
  neutral : α
  absent_eq : ∀ field ∈ fields, field.absent = .ok (field.get neutral) := by
    simp [Field.nullable, Field.defaulted]

namespace RecordReader

variable {read : Data → Reading α} [RecordReader read] {field other : Field α} {named named' : List (String × Data)}
  {x : α}

theorem apart_of_ne (hfield : field ∈ fields read) (hother : other ∈ fields read) (h : field ≠ other) :
    field.Apart other :=
  apart.forall hfield hother h

/-- Another value for one field, and the same for all others. -/
theorem read_set {content : field.Content} (hfield : field ∈ fields read) (h : read (.record named) = .ok x)
    (hcontent : field.readFrom named' = .ok content)
    (hothers : ∀ other : String, other ≠ field.name → named'.lookup other = named.lookup other) :
    read (.record named') = .ok (field.set content x) := by
  refine (read_eq_ok_iff named' _).2 fun other hother => ?_
  by_cases heq : other = field
  · subst heq
    rw [Field.Holds, get_set other hother, hcontent]
  · have hapart := apart_of_ne hfield hother (Ne.symm heq)
    have hother : other.readFrom named = .ok (other.get x) := (read_eq_ok_iff named x).1 h other hother
    rw [Field.Holds, (hapart.2 x).1, ← hother, Field.readFrom, Field.readFrom, hothers other.name hapart.1.symm]

/-- What is bound to names that no field has does not matter. -/
theorem read_congr (h : ∀ field ∈ fields read, named'.lookup field.name = named.lookup field.name)
    (hread : read (.record named) = .ok x) : read (.record named') = .ok x := by
  refine (read_eq_ok_iff named' x).2 fun field hfield => ?_
  have hold : field.readFrom named = .ok (field.get x) := (read_eq_ok_iff named x).1 hread field hfield
  rw [Field.Holds, ← hold, Field.readFrom, Field.readFrom, h field hfield]

end RecordReader

namespace Defaulted

variable {read : Data → Reading α} [Defaulted read] {field : Field α} {named : List (String × Data)} {x : α}

def reset (read : Data → Reading α) [Defaulted read] (field : Field α) (x : α) : α :=
  field.set (field.get (neutral read)) x

theorem read_nil : read (.record []) = .ok (neutral read) :=
  (RecordReader.read_eq_ok_iff [] _).2 fun field hfield => absent_eq field hfield

/-- A record without one field is read as before, that field at its default. -/
theorem read_without (hfield : field ∈ RecordReader.fields read) (h : read (.record named) = .ok x) :
    read (.record (without field.name named)) = .ok (reset read field x) := by
  refine RecordReader.read_set hfield h ?_ fun other hother => lookup_without_of_ne hother
  rw [Field.readFrom, lookup_without_self]
  exact absent_eq field hfield

end Defaulted

end Exchange

open Exchange

/-! ## The records, with their fields in the order in which they are read -/

instance Font.defaulted (surplus : Surplus) : Defaulted (Font.ofData surplus) where
  fields :=
    [.defaulted {} "family" text family fun content font => { font with family := content },
      .defaulted {} "italic" bool italic fun content font => { font with italic := content },
      .defaulted {} "size" Scalar.ofData size fun content font => { font with size := content },
      .defaulted {} "weight" (variant FontWeight.names) weight fun content font => { font with weight := content }]
  read_eq_ok_iff named font := by
    simp only [ofData, fieldsOf_record, ok_bind, bind_eq_ok, pure_eq_ok, Except.ok.injEq, List.forall_mem_cons,
      holds_defaulted, map_eq_ok]
    constructor
    · rintro ⟨family, hfamily, italic, hitalic, size, hsize, weight, hweight, rfl⟩
      simp [*]
    · rintro ⟨⟨family, hfamily, hfamily'⟩, ⟨italic, hitalic, hitalic'⟩, ⟨size, hsize, hsize'⟩,
        ⟨weight, hweight, hweight'⟩, -⟩
      simp [*]
  neutral := {}

instance TextStyle.defaulted (surplus : Surplus) : Defaulted (TextStyle.ofData surplus) where
  fields :=
    [.nullable "background" Color.ofData background fun content style => { style with background := content },
      .nullable "color" Color.ofData color fun content style => { style with color := content },
      .defaulted {} "font" (Font.ofData surplus) font fun content style => { style with font := content },
      .defaulted {} "strikethrough" bool strikethrough fun content style => { style with strikethrough := content }]
  read_eq_ok_iff named style := by
    simp only [ofData, fieldsOf_record, ok_bind, bind_eq_ok, pure_eq_ok, Except.ok.injEq, List.forall_mem_cons,
      holds_nullable, holds_defaulted, map_eq_ok]
    constructor
    · rintro ⟨background, hbackground, color, hcolor, font, hfont, strikethrough, hstrikethrough, rfl⟩
      simp [*]
    · rintro ⟨hbackground, hcolor, ⟨font, hfont, hfont'⟩, ⟨strikethrough, hstrikethrough, hstrikethrough'⟩, -⟩
      simp [*]
  neutral := {}

instance TextAttributes.recordReader : RecordReader TextAttributes.ofData where
  fields :=
    [.nullable "background" Color.ofData background fun content attributes => { attributes with background := content },
      .nullable "color" Color.ofData color fun content attributes => { attributes with color := content },
      .required "font" (Font.ofData .refused) font fun content attributes => { attributes with font := content },
      .nullable "link" text link fun content attributes => { attributes with link := content },
      .required "strikethrough" bool strikethrough fun content attributes =>
        { attributes with strikethrough := content }]
  read_eq_ok_iff named attributes := by
    simp only [ofData, fieldsOf_record, ok_bind, bind_eq_ok, pure_eq_ok, Except.ok.injEq, List.forall_mem_cons,
      holds_nullable, holds_required, required_eq_ok]
    constructor
    · rintro ⟨background, hbackground, color, hcolor, _, hfont, link, hlink, _, hstrikethrough, font, rfl,
        strikethrough, rfl, rfl⟩
      simp [*]
    · rintro ⟨hbackground, hcolor, hfont, hlink, hstrikethrough, -⟩
      simp [*]

instance TextRun.recordReader : RecordReader TextRun.ofData where
  fields :=
    [.nullable "attributes" TextAttributes.ofData attributes fun content run => { run with attributes := content },
      .required "text" Exchange.text text fun content run => { run with text := content }]
  read_eq_ok_iff named run := by
    simp only [ofData, fieldsOf_record, ok_bind, bind_eq_ok, pure_eq_ok, Except.ok.injEq, List.forall_mem_cons,
      holds_nullable, holds_required, required_eq_ok]
    constructor
    · rintro ⟨attributes, hattributes, _, htext, text, rfl, rfl⟩
      simp [*]
    · rintro ⟨hattributes, htext, -⟩
      simp [*]

instance Insets.defaulted (surplus : Surplus) : Defaulted (Insets.ofData surplus) where
  fields :=
    [.defaulted {} "bottom" Scalar.ofData bottom fun content insets => { insets with bottom := content },
      .defaulted {} "left" Scalar.ofData left fun content insets => { insets with left := content },
      .defaulted {} "right" Scalar.ofData right fun content insets => { insets with right := content },
      .defaulted {} "top" Scalar.ofData top fun content insets => { insets with top := content }]
  read_eq_ok_iff named insets := by
    simp only [ofData, fieldsOf_record, ok_bind, bind_eq_ok, pure_eq_ok, Except.ok.injEq, List.forall_mem_cons,
      holds_defaulted, map_eq_ok]
    constructor
    · rintro ⟨bottom, hbottom, left, hleft, right, hright, top, htop, rfl⟩
      simp [*]
    · rintro ⟨⟨bottom, hbottom, hbottom'⟩, ⟨left, hleft, hleft'⟩, ⟨right, hright, hright'⟩, ⟨top, htop, htop'⟩, -⟩
      simp [*]
  neutral := {}

instance Decoration.defaulted : Defaulted Decoration.ofData where
  fields :=
    [.nullable "background" Color.ofData background fun content decoration => { decoration with background := content },
      .nullable "border" (Border.ofData .refused) border fun content decoration =>
        { decoration with border := content },
      .nullable "corner_radius" Scalar.ofData cornerRadius fun content decoration =>
        { decoration with cornerRadius := content },
      .defaulted {} "inset" (Insets.ofData .refused) inset fun content decoration =>
        { decoration with inset := content }]
  read_eq_ok_iff named decoration := by
    simp only [ofData, fieldsOf_record, ok_bind, bind_eq_ok, pure_eq_ok, Except.ok.injEq, List.forall_mem_cons,
      holds_nullable, holds_defaulted, map_eq_ok]
    constructor
    · rintro ⟨background, hbackground, border, hborder, cornerRadius, hcornerRadius, inset, hinset, rfl⟩
      simp [*]
    · rintro ⟨hbackground, hborder, hcornerRadius, ⟨inset, hinset, hinset'⟩, -⟩
      simp [*]
  neutral := {}

instance EdgeAccessories.defaulted (surplus : Surplus) : Defaulted (EdgeAccessories.ofData surplus) where
  fields :=
    [.nullable "bottom" Node.ofData bottom fun content accessories => { accessories with bottom := content },
      .nullable "left" Node.ofData left fun content accessories => { accessories with left := content },
      .nullable "right" Node.ofData right fun content accessories => { accessories with right := content },
      .nullable "top" Node.ofData top fun content accessories => { accessories with top := content }]
  read_eq_ok_iff named accessories := by
    simp only [ofData, fieldsOf_record, ok_bind, bind_eq_ok, pure_eq_ok, Except.ok.injEq, List.forall_mem_cons,
      holds_nullable]
    constructor
    · rintro ⟨bottom, hbottom, left, hleft, right, hright, top, htop, rfl⟩
      simp [*]
    · rintro ⟨hbottom, hleft, hright, htop, -⟩
      simp [*]
  neutral := {}

instance BlockStyle.defaulted (surplus : Surplus) : Defaulted (BlockStyle.ofData surplus) where
  fields :=
    [.defaulted {} "accessories" (EdgeAccessories.ofData surplus) accessories fun content style =>
        { style with accessories := content },
      .nullable "background" Color.ofData background fun content style => { style with background := content },
      .nullable "border" (Border.ofData surplus) border fun content style => { style with border := content },
      .nullable "corner_radius" Scalar.ofData cornerRadius fun content style => { style with cornerRadius := content },
      .nullable "margin" (Insets.ofData surplus) margin fun content style => { style with margin := content },
      .nullable "padding" (Insets.ofData surplus) padding fun content style => { style with padding := content }]
  read_eq_ok_iff named style := by
    simp only [ofData, fieldsOf_record, ok_bind, bind_eq_ok, pure_eq_ok, Except.ok.injEq, List.forall_mem_cons,
      holds_nullable, holds_defaulted, map_eq_ok]
    constructor
    · rintro ⟨accessories, haccessories, background, hbackground, border, hborder, cornerRadius, hcornerRadius,
        margin, hmargin, padding, hpadding, rfl⟩
      simp [*]
    · rintro ⟨⟨accessories, haccessories, haccessories'⟩, hbackground, hborder, hcornerRadius, hmargin, hpadding, -⟩
      simp [*]
  neutral := {}

instance BlockFormat.defaulted (surplus : Surplus) : Defaulted (BlockFormat.ofData surplus) where
  fields :=
    [.defaulted {} "block" (BlockStyle.ofData surplus) block fun content format => { format with block := content },
      .defaulted {} "text" (TextStyle.ofData surplus) text fun content format => { format with text := content }]
  read_eq_ok_iff named format := by
    simp only [ofData, fieldsOf_record, ok_bind, bind_eq_ok, pure_eq_ok, Except.ok.injEq, List.forall_mem_cons,
      holds_defaulted, map_eq_ok]
    constructor
    · rintro ⟨block, hblock, text, htext, rfl⟩
      simp [*]
    · rintro ⟨⟨block, hblock, hblock'⟩, ⟨text, htext, htext'⟩, -⟩
      simp [*]
  neutral := {}

instance RuleStyle.defaulted (surplus : Surplus) : Defaulted (RuleStyle.ofData surplus) where
  fields :=
    [.nullable "color" Color.ofData color fun content rule => { rule with color := content },
      .defaulted {} "height" Scalar.ofData height fun content rule => { rule with height := content },
      .nullable "width" Scalar.ofData width fun content rule => { rule with width := content }]
  read_eq_ok_iff named rule := by
    simp only [ofData, fieldsOf_record, ok_bind, bind_eq_ok, pure_eq_ok, Except.ok.injEq, List.forall_mem_cons,
      holds_nullable, holds_defaulted, map_eq_ok]
    constructor
    · rintro ⟨color, hcolor, height, hheight, width, hwidth, rfl⟩
      simp [*]
    · rintro ⟨hcolor, ⟨height, hheight, hheight'⟩, hwidth, -⟩
      simp [*]
  neutral := {}

instance MarkdownOptions.defaulted : Defaulted MarkdownOptions.ofData where
  fields :=
    [.defaulted {} "max_depth" count maxDepth fun content options => { options with maxDepth := content },
      .defaulted {} "strip_frontmatter" bool stripsFrontMatter fun content options =>
        { options with stripsFrontMatter := content }]
  read_eq_ok_iff named options := by
    simp only [ofData, fieldsOf_record, ok_bind, bind_eq_ok, pure_eq_ok, Except.ok.injEq, List.forall_mem_cons,
      holds_defaulted, map_eq_ok]
    constructor
    · rintro ⟨maxDepth, hmaxDepth, strips, hstrips, rfl⟩
      simp [*]
    · rintro ⟨⟨maxDepth, hmaxDepth, hmaxDepth'⟩, ⟨strips, hstrips, hstrips'⟩, -⟩
      simp [*]
  neutral := {}

instance Profile.defaulted (surplus : Surplus) : Defaulted (Profile.ofData surplus) where
  fields :=
    [.defaulted {} "bold" (TextStyle.ofData surplus) bold fun content profile => { profile with bold := content },
      .defaulted {} "code" (TextStyle.ofData surplus) code fun content profile => { profile with code := content },
      .defaulted {} "code_block" (BlockFormat.ofData surplus) codeBlock fun content profile =>
        { profile with codeBlock := content },
      .defaulted {} "h1" (BlockFormat.ofData surplus) h1 fun content profile => { profile with h1 := content },
      .defaulted {} "h2" (BlockFormat.ofData surplus) h2 fun content profile => { profile with h2 := content },
      .defaulted {} "h3" (BlockFormat.ofData surplus) h3 fun content profile => { profile with h3 := content },
      .defaulted {} "h4" (BlockFormat.ofData surplus) h4 fun content profile => { profile with h4 := content },
      .defaulted {} "h5" (BlockFormat.ofData surplus) h5 fun content profile => { profile with h5 := content },
      .defaulted {} "h6" (BlockFormat.ofData surplus) h6 fun content profile => { profile with h6 := content },
      .defaulted {} "hyperlink" (TextStyle.ofData surplus) hyperlink fun content profile =>
        { profile with hyperlink := content },
      .defaulted {} "image" (BlockStyle.ofData surplus) image fun content profile => { profile with image := content },
      .defaulted {} "italic" (TextStyle.ofData surplus) italic fun content profile =>
        { profile with italic := content },
      .defaulted {} "item_spacing" Scalar.ofData itemSpacing fun content profile =>
        { profile with itemSpacing := content },
      .defaulted {} "list" (BlockFormat.ofData surplus) list fun content profile => { profile with list := content },
      .defaulted {} "list_item" (BlockFormat.ofData surplus) listItem fun content profile =>
        { profile with listItem := content },
      .defaulted {} "paragraph" (BlockFormat.ofData surplus) paragraph fun content profile =>
        { profile with paragraph := content },
      .defaulted {} "quote" (BlockFormat.ofData surplus) quote fun content profile => { profile with quote := content },
      .defaulted {} "rule" (RuleStyle.ofData surplus) rule fun content profile => { profile with rule := content },
      .defaulted {} "strikethrough" (TextStyle.ofData surplus) strikethrough fun content profile =>
        { profile with strikethrough := content }]
  read_eq_ok_iff named profile := by
    simp only [ofData, fieldsOf_record, ok_bind, bind_eq_ok, pure_eq_ok, Except.ok.injEq, List.forall_mem_cons,
      holds_defaulted]
    constructor
    · rintro ⟨bold, hbold, code, hcode, codeBlock, hcodeBlock, h1, hh1, h2, hh2, h3, hh3, h4, hh4, h5, hh5, h6, hh6,
        hyperlink, hhyperlink, image, himage, italic, hitalic, itemSpacing, hitemSpacing, list, hlist, listItem,
        hlistItem, paragraph, hparagraph, quote, hquote, rule, hrule, strikethrough, hstrikethrough, rfl⟩
      simp [*, map_ok, neutral]
    · rintro ⟨hbold, hcode, hcodeBlock, hh1, hh2, hh3, hh4, hh5, hh6, hhyperlink, himage, hitalic, hitemSpacing, hlist,
        hlistItem, hparagraph, hquote, hrule, hstrikethrough, -⟩
      -- Of these three the parts that were found are named; the others are read with their defaults in place.
      obtain ⟨image, himage, himage'⟩ := map_eq_ok.1 himage
      obtain ⟨itemSpacing, hitemSpacing, hitemSpacing'⟩ := map_eq_ok.1 hitemSpacing
      obtain ⟨rule, hrule, hrule'⟩ := map_eq_ok.1 hrule
      simp [*, neutral]
  neutral := {}

end MarkdownLayout
