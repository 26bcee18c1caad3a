import MarkdownLayout.Exchange.Style
import MarkdownLayout.Json.Printer
import Mathlib.Data.List.Basic

/-!
# Styles through JSON

JSON has no literal for a number that is not finite: such a number is written as null, and so is an option without a
value. Reading a record back then works field by field, as long as no field that is there turned into null.
-/

namespace MarkdownLayout

namespace Json

mutual

/-- The JSON value that stands for some data: numbers without a literal are null. -/
def value : Data → Data
  | .real x => if x.isFinite then .real x else .null
  | .list items => .list (valueItems items)
  | .record fields => .record (valueFields fields)
  | .null => .null
  | .bool b => .bool b
  | .integer n => .integer n
  | .text s => .text s

def valueItems : List Data → List Data
  | [] => []
  | item :: rest => value item :: valueItems rest

def valueFields : List (String × Data) → List (String × Data)
  | [] => []
  | (name, item) :: rest => (name, value item) :: valueFields rest

end

@[simp]
theorem value_record (fields : List (String × Data)) : value (.record fields) = .record (valueFields fields) := by
  rw [value]

@[simp]
theorem valueFields_nil : valueFields [] = [] := rfl

@[simp]
theorem valueFields_cons (name : String) (item : Data) (rest : List (String × Data)) :
    valueFields ((name, item) :: rest) = (name, value item) :: valueFields rest := rfl

mutual

/-- The value is written like the data that it stands for. -/
theorem compact_value : ∀ data : Data, compact (value data) = compact data
  | .null | .bool _ | .integer _ | .text _ => rfl
  | .real x => by
    by_cases h : x.isFinite = true <;> simp [value, compact, realLiteral, h]
  | .list items => by rw [value, compact, compact, compactItems_valueItems items]
  | .record fields => by rw [value, compact, compact, compactFields_valueFields fields]

theorem compactItems_valueItems : ∀ items : List Data, compactItems (valueItems items) = compactItems items
  | [] => rfl
  | item :: rest => by rw [valueItems, compactItems, compactItems, compact_value item, compactItems_valueItems rest]

theorem compactFields_valueFields :
    ∀ fields : List (String × Data), compactFields (valueFields fields) = compactFields fields
  | [] => rfl
  | (name, item) :: rest => by
    rw [valueFields, compactFields, compactFields, compact_value item, compactFields_valueFields rest]

end

end Json

namespace Exchange

section Fields

variable {α β : Type} {name other : String}

@[simp]
theorem ok_bind (x : α) (next : α → Reading β) : (Except.ok x >>= next) = next x := rfl

@[simp]
theorem pure_eq_ok (x : α) : (pure x : Reading α) = .ok x := rfl

@[simp]
theorem fieldsOf_record (surplus : Surplus) (names : List String) (required : Nat) (fields : List (String × Data)) :
    fieldsOf surplus names required (.record fields) = .ok fields := rfl

@[simp]
theorem required_some (x : α) : required name (some x) = .ok x := rfl

theorem lookup_cons_of_ne (h : name ≠ other) (value : α) (rest : List (String × α)) :
    ((other, value) :: rest).lookup name = rest.lookup name := by
  rw [List.lookup_cons, beq_false_of_ne h]

theorem field?_cons_self (read : α → Reading β) (name : String) (value : α) (rest : List (String × α)) :
    field? read ((name, value) :: rest) name = (read value).map some := by
  rw [field?, List.lookup_cons_self]

@[simp]
theorem field?_cons_of_ne (h : name ≠ other) (read : α → Reading β) (value : α) (rest : List (String × α)) :
    field? read ((other, value) :: rest) name = field? read rest name := by
  rw [field?, field?, lookup_cons_of_ne h]

@[simp]
theorem nullable?_cons_of_ne (h : name ≠ other) (read : Data → Reading β) (value : Data)
    (rest : List (String × Data)) : nullable? read ((other, value) :: rest) name = nullable? read rest name := by
  rw [nullable?, nullable?, lookup_cons_of_ne h]

end Fields

/-- Reading gets `x` back from the JSON value of some data, and that value is not null. -/
structure Restores {β : Type} (read : Data → Reading β) (data : Data) (x : β) : Prop where
  read_eq : read (Json.value data) = .ok x
  ne_null : Json.value data ≠ .null

namespace Restores

variable {β : Type} {read : Data → Reading β} {data : Data} {x : β}

theorem field? (h : Restores read data x) (name : String) (rest : List (String × Data)) :
    Exchange.field? read ((name, Json.value data) :: rest) name = .ok (some x) := by
  rw [field?_cons_self, h.read_eq]
  rfl

theorem nullable? {write : β → Data} {x : Option β} (h : ∀ y ∈ x, Restores read (write y) y) (name : String)
    (rest : List (String × Data)) :
    Exchange.nullable? read ((name, Json.value (ofOption write x)) :: rest) name = .ok x := by
  cases x with
  | none => rw [Exchange.nullable?, List.lookup_cons_self, ofOption, Json.value]
  | some y =>
    obtain ⟨hread, hnull⟩ := h y rfl
    rw [Exchange.nullable?, List.lookup_cons_self, ofOption]
    split
    · next hmissing => cases hmissing
    · next hvalue => exact absurd (Option.some.inj hvalue) hnull
    · next value _ hvalue =>
      cases hvalue
      rw [hread]
      rfl

theorem listOf {write : β → Data} {xs : List β} (h : ∀ x ∈ xs, Restores read (write x) x) :
    Restores (listOf read) (.list (xs.map write)) xs where
  read_eq := by
    rw [Json.value, Exchange.listOf]
    induction xs with
    | nil => rfl
    | cons x rest ih =>
      rw [List.map_cons, Json.valueItems, List.mapM_cons, (h x List.mem_cons_self).read_eq, ok_bind,
        ih fun y hy => h y (List.mem_cons_of_mem _ hy), ok_bind, pure_eq_ok]
  ne_null := nofun

end Restores

end Exchange

open Exchange

/-! ## Single values -/

theorem restores_text (s : String) : Restores Exchange.text (.text s) s :=
  ⟨rfl, nofun⟩

theorem restores_bool (b : Bool) : Restores Exchange.bool (.bool b) b :=
  ⟨rfl, nofun⟩

theorem restores_count {n : Nat} (h : n < 0x10000000000000000) : Restores count (.integer n) n where
  read_eq := by
    have hfits : (n : Int) < 0x10000000000000000 := by omega
    simp [Json.value, count, hfits]
  ne_null := nofun

theorem Scalar.restores {x : Scalar} (h : x.isFinite = true) : Restores ofData x.toData x where
  read_eq := by simp [toData, Json.value, h, ofData]
  ne_null := by simp [toData, Json.value, h]

theorem FontWeight.restores (weight : FontWeight) : Restores (variant names) (.text weight.name) weight where
  read_eq := by cases weight <;> rfl
  ne_null := nofun

namespace Color

theorem hexDigit_ne_plus : ∀ n < 16, Text.hexDigit n ≠ '+' := by decide

/-- A channel is read back from its two digits. -/
theorem channel?_channelText (channel : UInt8) :
    channel? (Text.hexDigit (channel.toNat / 16)) (Text.hexDigit (channel.toNat % 16)) = some channel := by
  have hbound := channel.toNat_lt
  have hhigh : channel.toNat / 16 < 16 := by omega
  have hlow : channel.toNat % 16 < 16 := Nat.mod_lt _ (by decide)
  have hvalue : channel? (Text.hexDigit (channel.toNat / 16)) (Text.hexDigit (channel.toNat % 16)) =
      some (UInt8.ofNat (16 * (channel.toNat / 16) + channel.toNat % 16)) := by
    simp [channel?, Text.hexValue?_hexDigit _ hlow, Text.hexValue?_hexDigit _ hhigh, hexDigit_ne_plus _ hhigh]
  rw [hvalue, Nat.div_add_mod, UInt8.ofNat_toNat]

/-- The alpha channel is left out exactly where a reader fills it in. -/
theorem parse?_text (color : Color) : parse? color.text = some color := by
  obtain ⟨red, green, blue, alpha⟩ := color
  rw [parse?, text, String.toList_ofList]
  by_cases h : alpha = 255
  · simp [h, channelText, ofChars?, channel?_channelText]
  · simp [h, channelText, ofChars?, channel?_channelText]

theorem restores (color : Color) : Restores ofData color.toData color where
  read_eq := by rw [toData, Json.value, ofData, parse?_text]
  ne_null := nofun

end Color

/-! ## Records -/

def AllFinite (numbers : List Scalar) : Prop :=
  ∀ x ∈ numbers, x.isFinite = true

section AllFinite

variable {α : Type} {x : Scalar} {numbers more : List Scalar} {f : α → List Scalar}

@[simp]
theorem allFinite_nil : AllFinite [] := nofun

@[simp]
theorem allFinite_cons : AllFinite (x :: numbers) ↔ x.isFinite = true ∧ AllFinite numbers :=
  List.forall_mem_cons

@[simp]
theorem allFinite_append : AllFinite (numbers ++ more) ↔ AllFinite numbers ∧ AllFinite more :=
  List.forall_mem_append

@[simp]
theorem allFinite_toList {number : Option Scalar} :
    AllFinite number.toList ↔ ∀ x ∈ number, x.isFinite = true := by
  simp [AllFinite]

@[simp]
theorem allFinite_flatMap {parts : List α} : AllFinite (parts.flatMap f) ↔ ∀ part ∈ parts, AllFinite (f part) :=
  List.forall_mem_flatMap

end AllFinite

namespace Font

def numbers (font : Font) : List Scalar :=
  [font.size]

theorem restores (surplus : Surplus) {font : Font} (h : AllFinite font.numbers) :
    Restores (ofData surplus) font.toData font where
  read_eq := by
    have hsize := Scalar.restores (allFinite_cons.1 h).1
    simp [ofData, toData, (restores_text _).field?, hsize.field?, (FontWeight.restores _).field?,
      (restores_bool _).field?]
  ne_null := nofun

end Font

namespace TextStyle

def numbers (style : TextStyle) : List Scalar :=
  style.font.numbers

theorem restores (surplus : Surplus) {style : TextStyle} (h : AllFinite style.numbers) :
    Restores (ofData surplus) style.toData style where
  read_eq := by
    simp [ofData, toData, (Font.restores surplus h).field?, Restores.nullable? fun color _ => Color.restores color,
      (restores_bool _).field?]
  ne_null := nofun

end TextStyle

namespace TextAttributes

def numbers (attributes : TextAttributes) : List Scalar :=
  attributes.font.numbers

theorem restores {attributes : TextAttributes} (h : AllFinite attributes.numbers) :
    Restores ofData attributes.toData attributes where
  read_eq := by
    simp [ofData, toData, (Font.restores .refused h).field?, Restores.nullable? fun color _ => Color.restores color,
      (restores_bool _).field?, Restores.nullable? fun link _ => restores_text link]
  ne_null := nofun

end TextAttributes

namespace TextRun

def numbers (run : TextRun) : List Scalar :=
  run.attributes.toList.flatMap TextAttributes.numbers

theorem restores {run : TextRun} (h : AllFinite run.numbers) : Restores ofData run.toData run where
  read_eq := by
    have hattributes : ∀ attributes ∈ run.attributes,
        Restores TextAttributes.ofData attributes.toData attributes := fun attributes hmem =>
      TextAttributes.restores (allFinite_flatMap.1 h attributes (Option.mem_toList.2 hmem))
    simp [ofData, toData, (restores_text _).field?, Restores.nullable? hattributes]
  ne_null := nofun

end TextRun

namespace TextBlock

def numbers (block : TextBlock) : List Scalar :=
  block.runs.flatMap TextRun.numbers

theorem restores_runs {block : TextBlock} (h : AllFinite block.numbers) :
    Restores (listOf TextRun.ofData) (.list (block.runs.map TextRun.toData)) block.runs :=
  .listOf fun run hrun => TextRun.restores (allFinite_flatMap.1 h run hrun)

end TextBlock

namespace Insets

def numbers (insets : Insets) : List Scalar :=
  [insets.top, insets.right, insets.bottom, insets.left]

theorem restores (surplus : Surplus) {insets : Insets} (h : AllFinite insets.numbers) :
    Restores (ofData surplus) insets.toData insets where
  read_eq := by
    simp only [numbers, allFinite_cons, allFinite_nil, and_true] at h
    obtain ⟨htop, hright, hbottom, hleft⟩ := h
    simp [ofData, toData, (Scalar.restores htop).field?, (Scalar.restores hright).field?,
      (Scalar.restores hbottom).field?, (Scalar.restores hleft).field?]
  ne_null := nofun

end Insets

namespace Border

def numbers (border : Border) : List Scalar :=
  [border.width]

theorem restores (surplus : Surplus) {border : Border} (h : AllFinite border.numbers) :
    Restores (ofData surplus) border.toData border where
  read_eq := by
    have hwidth := Scalar.restores (allFinite_cons.1 h).1
    simp [ofData, toData, hwidth.field?, (Color.restores _).field?]
  ne_null := nofun

end Border

namespace Decoration

def numbers (decoration : Decoration) : List Scalar :=
  decoration.inset.numbers ++ decoration.cornerRadius.toList ++ decoration.border.toList.flatMap Border.numbers

theorem restores {decoration : Decoration} (h : AllFinite decoration.numbers) :
    Restores ofData decoration.toData decoration where
  read_eq := by
    simp only [numbers, allFinite_append, allFinite_toList, allFinite_flatMap, Option.mem_toList] at h
    obtain ⟨⟨hinset, hradius⟩, hborder⟩ := h
    simp [ofData, toData, (Insets.restores .refused hinset).field?,
      Restores.nullable? fun color _ => Color.restores color,
      Restores.nullable? fun radius hmem => Scalar.restores (hradius radius hmem),
      Restores.nullable? fun border hmem => Border.restores .refused (hborder border hmem)]
  ne_null := nofun

end Decoration

end MarkdownLayout
