import MarkdownLayout.Proofs.RecordFields

/-!
# Profiles that leave fields out

A field may be taken out of any record of a profile whose fields have defaults, however deep the record lies, in an
accessory as well. What is read then is the same profile with the neutral value of that record in the one field. The
records are found by paths into the data, and the part of the profile that a path leads to is changed with it.
-/

namespace MarkdownLayout

namespace Data

inductive Key where
  | field (name : String)
  | item (index : Nat)
  deriving DecidableEq, Repr

def at? : List Key → Data → Option Data
  | [], data => some data
  | .field name :: path, data => (data.get? name).bind (at? path)
  | .item index :: path, .list items => items[index]?.bind (at? path)
  | .item _ :: _, _ => none

def put : Data → List Key → Data → Data
  | _, [], part => part
  | .record named, .field name :: path, part =>
    .record (setField name (((named.lookup name).getD .null).put path part) named)
  | .list items, .item index :: path, part => .list (items.modify index (put · path part))
  | data, _ :: _, _ => data

variable {data : Data} {named named' : List (String × Data)} {path : List Key}

theorem put_field {name : String} {old : Data} (h : named.lookup name = some old) (part : Data) :
    (Data.record named).put (.field name :: path) part = .record (setField name (old.put path part) named) := by
  rw [put, h, Option.getD_some]

/-- Nothing is inside a null value. -/
theorem ne_null_of_at? (h : data.at? path = some (.record named)) :
    data ≠ .null ∧ data.put path (.record named') ≠ .null := by
  cases path with
  | nil =>
    cases h
    exact ⟨nofun, nofun⟩
  | cons key path => cases data <;> cases key <;> first | cases h | exact ⟨nofun, nofun⟩

end Data

namespace Exchange

variable {α β : Type}

/-- Whatever is read from the first value is read from the second one as well, with the change made to it. -/
def Follows (read : Data → Reading α) (data data' : Data) (change : α → α) : Prop :=
  ∀ x, read data = .ok x → read data' = .ok (change x)

section Field

variable {read : Data → Reading α} {name other : String} {named : List (String × Data)} {data data' : Data}
  {change : α → α}

theorem field?_setField_of_ne (h : other ≠ name) :
    field? read (Data.setField name data named) other = field? read named other := by
  rw [field?, field?, lookup_setField_of_ne h]

theorem nullable?_setField_of_ne (h : other ≠ name) :
    nullable? read (Data.setField name data named) other = nullable? read named other := by
  rw [nullable?, nullable?, lookup_setField_of_ne h]

theorem exists_of_field? (hlookup : named.lookup name = some data) {found : Option α}
    (hfound : field? read named name = .ok found) : ∃ x, found = some x := by
  rw [field?, hlookup] at hfound
  obtain ⟨x, -, hx⟩ := map_eq_ok.1 hfound
  exact ⟨x, hx.symm⟩

/-- A change of the data under a name is the change of what is read from that field. -/
theorem Follows.field?_setField (h : Follows read data data' change) (hlookup : named.lookup name = some data) {x : α}
    (hfound : field? read named name = .ok (some x)) :
    field? read (Data.setField name data' named) name = .ok (some (change x)) := by
  rw [field?, hlookup] at hfound
  obtain ⟨_, hx, hsome⟩ := map_eq_ok.1 hfound
  cases hsome
  rw [field?, lookup_setField_self]
  exact map_eq_ok.2 ⟨change x, h x hx, rfl⟩

end Field

end Exchange

open Exchange

namespace Node

inductive Slot where
  | runs
  | children
  | inner
  | decoration
  deriving DecidableEq, Repr

namespace Slot

def name : Slot → String
  | runs => "runs"
  | children => "children"
  | inner => "inner"
  | decoration => "decoration"

def Content : Slot → Type
  | runs => List TextRun
  | children => List Node
  | inner => Node
  | decoration => Decoration

def read : (slot : Slot) → Data → Reading slot.Content
  | runs => listOf TextRun.ofData
  | children => listOf Node.ofData
  | inner => Node.ofData
  | decoration => Decoration.ofData

def modify : (slot : Slot) → (slot.Content → slot.Content) → Node → Node
  | runs, change, .text block => .text ⟨change block.runs⟩
  | children, change, .container axis spacing nodes => .container axis spacing (change nodes)
  | inner, change, .decorated node style => .decorated (change node) style
  | decoration, change, .decorated node style => .decorated node (change style)
  | _, _, node => node

end Slot

variable {named : List (String × Data)}

theorem plain_readParts (named : List (String × Data)) : plain (readParts named) = named := by
  induction named with
  | nil => rfl
  | cons entry rest ih => rw [readParts_cons, plain_cons, ih]

theorem lookup_readParts (named : List (String × Data)) (name : String) :
    (readParts named).lookup name = (named.lookup name).map part := by
  induction named with
  | nil => rfl
  | cons entry rest ih =>
    obtain ⟨key, data⟩ := entry
    rw [readParts_cons, List.lookup_cons, List.lookup_cons, ih]
    split <;> rfl

theorem readItems_eq_map (items : List Data) : readItems items = items.map part := by
  induction items with
  | nil => rfl
  | cons item rest ih => rw [readItems, ih, List.map_cons, part]

theorem nodes_part (data : Data) : (part data).nodes = listOf ofData data := by
  cases data with
  | list items =>
    rw [part, readBoth, readItems_eq_map, List.mapM_map]
    rfl
  | _ => rfl

theorem field?_node (named : List (String × Data)) (name : String) :
    field? Part.node (readParts named) name = field? ofData named name := by
  rw [field?, field?, lookup_readParts]
  cases named.lookup name <;> rfl

theorem field?_nodes (named : List (String × Data)) (name : String) :
    field? Part.nodes (readParts named) name = field? (listOf ofData) named name := by
  rw [field?, field?, lookup_readParts]
  cases named.lookup name with
  | none => rfl
  | some data => exact congrArg (Except.map some) (nodes_part data)

/-- A node is read from its type and then from the fields of that type. -/
theorem ofData_record_eq (named : List (String × Data)) :
    ofData (.record named) = required "type" (named.lookup "type") >>= fun type =>
      kindOf type >>= fun kind => ofParts kind (readParts named) := by
  rw [ofData, readBoth, ofFields, lookup_readParts]
  cases named.lookup "type" <;> rfl

section Kinds

variable {node : Node}

theorem ofParts_text_eq_ok_iff : ofParts .text (readParts named) = .ok node ↔
    ∃ runs, field? (listOf TextRun.ofData) named "runs" = .ok (some runs) ∧ node = .text ⟨runs⟩ := by
  simp only [ofParts, TextBlock.ofFields, plain_readParts, bind_eq_ok, pure_eq_ok, Except.ok.injEq, required_eq_ok]
  constructor
  · rintro ⟨_, ⟨_, hruns, runs, rfl, rfl⟩, rfl⟩
    exact ⟨runs, hruns, rfl⟩
  · rintro ⟨runs, hruns, rfl⟩
    exact ⟨⟨runs⟩, ⟨some runs, hruns, runs, rfl, rfl⟩, rfl⟩

theorem ofParts_image_eq_ok_iff : ofParts .image (readParts named) = .ok node ↔
    ∃ placeholder, ImagePlaceholder.ofFields named = .ok placeholder ∧ node = .image placeholder := by
  simp only [ofParts, plain_readParts, bind_eq_ok, pure_eq_ok, Except.ok.injEq, @eq_comm _ node]

theorem ofParts_container_eq_ok_iff : ofParts .container (readParts named) = .ok node ↔
    ∃ axis spacing children, field? (variant Axis.names) named "axis" = .ok (some axis) ∧
      field? Scalar.ofData named "spacing" = .ok spacing ∧
      field? (listOf ofData) named "children" = .ok (some children) ∧
      node = .container axis (spacing.getD .zero) children := by
  simp only [ofParts, plain_readParts, field?_nodes, bind_eq_ok, pure_eq_ok, Except.ok.injEq, required_eq_ok]
  constructor
  · rintro ⟨_, haxis, _, hchildren, spacing, hspacing, axis, rfl, children, rfl, rfl⟩
    exact ⟨axis, spacing, children, haxis, hspacing, hchildren, rfl⟩
  · rintro ⟨axis, spacing, children, haxis, hspacing, hchildren, rfl⟩
    exact ⟨some axis, haxis, some children, hchildren, spacing, hspacing, axis, rfl, children, rfl, rfl⟩

theorem ofParts_decorated_eq_ok_iff : ofParts .decorated (readParts named) = .ok node ↔
    ∃ decoration inner, field? Decoration.ofData named "decoration" = .ok decoration ∧
      field? ofData named "inner" = .ok (some inner) ∧ node = .decorated inner (decoration.getD {}) := by
  simp only [ofParts, plain_readParts, field?_node, bind_eq_ok, pure_eq_ok, Except.ok.injEq, required_eq_ok]
  constructor
  · rintro ⟨decoration, hdecoration, _, hinner, inner, rfl, rfl⟩
    exact ⟨decoration, inner, hdecoration, hinner, rfl⟩
  · rintro ⟨decoration, inner, hdecoration, hinner, rfl⟩
    exact ⟨decoration, hdecoration, some inner, hinner, inner, rfl, rfl⟩

theorem ofParts_divider_eq_ok_iff : ofParts .divider (readParts named) = .ok node ↔
    ∃ width height color, nullable? Scalar.ofData named "width" = .ok width ∧
      nullable? Scalar.ofData named "height" = .ok height ∧ nullable? Color.ofData named "color" = .ok color ∧
      node = .divider width height color := by
  simp only [ofParts, plain_readParts, bind_eq_ok, pure_eq_ok, Except.ok.injEq]
  constructor
  · rintro ⟨color, hcolor, height, hheight, width, hwidth, rfl⟩
    exact ⟨width, height, color, hwidth, hheight, hcolor, rfl⟩
  · rintro ⟨width, height, color, hwidth, hheight, hcolor, rfl⟩
    exact ⟨color, hcolor, height, hheight, width, hwidth, rfl⟩

end Kinds

/-- The kinds without the part do not read the name, and the others read nothing else from it. -/
theorem Slot.ofParts_setField (slot : Slot) {kind : Kind} {node : Node} {data data' : Data}
    {change : slot.Content → slot.Content} (h : Follows slot.read data data' change)
    (hlookup : named.lookup slot.name = some data) (hread : ofParts kind (readParts named) = .ok node) :
    ofParts kind (readParts (Data.setField slot.name data' named)) = .ok (slot.modify change node) := by
  cases kind with
  | text =>
    obtain ⟨runs, hruns, rfl⟩ := ofParts_text_eq_ok_iff.1 hread
    refine ofParts_text_eq_ok_iff.2 ?_
    cases slot with
    | runs => exact ⟨change runs, h.field?_setField hlookup hruns, rfl⟩
    | _ => exact ⟨runs, (field?_setField_of_ne (by decide)).trans hruns, rfl⟩
  | image =>
    obtain ⟨placeholder, hplaceholder, rfl⟩ := ofParts_image_eq_ok_iff.1 hread
    have halt : "alt" ≠ slot.name := by cases slot <;> decide
    have hid : "id" ≠ slot.name := by cases slot <;> decide
    have hurl : "url" ≠ slot.name := by cases slot <;> decide
    refine ofParts_image_eq_ok_iff.2 ⟨placeholder, ?_, by cases slot <;> rfl⟩
    rwa [ImagePlaceholder.ofFields, nullable?_setField_of_ne halt, field?_setField_of_ne hid,
      field?_setField_of_ne hurl]
  | container =>
    obtain ⟨axis, spacing, children, haxis, hspacing, hchildren, rfl⟩ := ofParts_container_eq_ok_iff.1 hread
    have haxisName : "axis" ≠ slot.name := by cases slot <;> decide
    have hspacingName : "spacing" ≠ slot.name := by cases slot <;> decide
    have hnew {nodes : List Node} (hnodes : field? (listOf ofData) (Data.setField slot.name data' named) "children" =
        .ok (some nodes)) := ofParts_container_eq_ok_iff.2 ⟨axis, spacing, nodes,
      (field?_setField_of_ne haxisName).trans haxis, (field?_setField_of_ne hspacingName).trans hspacing, hnodes, rfl⟩
    cases slot with
    | children => exact hnew (h.field?_setField hlookup hchildren)
    | _ => exact hnew ((field?_setField_of_ne (by decide)).trans hchildren)
  | decorated =>
    obtain ⟨decoration, inner, hdecoration, hinner, rfl⟩ := ofParts_decorated_eq_ok_iff.1 hread
    refine ofParts_decorated_eq_ok_iff.2 ?_
    cases slot with
    | inner =>
      exact ⟨decoration, change inner, (field?_setField_of_ne (by decide)).trans hdecoration,
        h.field?_setField hlookup hinner, rfl⟩
    | decoration =>
      obtain ⟨style, rfl⟩ := exists_of_field? hlookup hdecoration
      exact ⟨some (change style), inner, h.field?_setField hlookup hdecoration,
        (field?_setField_of_ne (by decide)).trans hinner, rfl⟩
    | _ =>
      exact ⟨decoration, inner, (field?_setField_of_ne (by decide)).trans hdecoration,
        (field?_setField_of_ne (by decide)).trans hinner, rfl⟩
  | divider =>
    obtain ⟨width, height, color, hwidth, hheight, hcolor, rfl⟩ := ofParts_divider_eq_ok_iff.1 hread
    have hwidthName : "width" ≠ slot.name := by cases slot <;> decide
    have hheightName : "height" ≠ slot.name := by cases slot <;> decide
    have hcolorName : "color" ≠ slot.name := by cases slot <;> decide
    exact ofParts_divider_eq_ok_iff.2 ⟨width, height, color, (nullable?_setField_of_ne hwidthName).trans hwidth,
      (nullable?_setField_of_ne hheightName).trans hheight, (nullable?_setField_of_ne hcolorName).trans hcolor,
      by cases slot <;> rfl⟩

/-- What changes in a slot of a node changes in the node that is read. -/
theorem Slot.follows (slot : Slot) {data data' : Data} {change : slot.Content → slot.Content}
    (h : Follows slot.read data data' change) (hlookup : named.lookup slot.name = some data) :
    Follows Node.ofData (.record named) (.record (Data.setField slot.name data' named)) (slot.modify change) := by
  intro node hread
  have htype : "type" ≠ slot.name := by cases slot <;> decide
  simp only [ofData_record_eq, lookup_setField_of_ne htype, bind_eq_ok] at hread ⊢
  obtain ⟨type, htype, kind, hkind, hparts⟩ := hread
  exact ⟨type, htype, kind, hkind, slot.ofParts_setField h hlookup hparts⟩

end Node

namespace Exchange

variable {α β : Type} {read : Data → Reading α} {data data' : Data} {change : α → α}

theorem Follows.optional (h : Follows read data data' change) (hdata : data ≠ .null) (hdata' : data' ≠ .null) :
    Follows (optional read) data data' (Option.map change) := by
  have hoptional {data : Data} (hne : data ≠ .null) : Exchange.optional read data = (read data).map some := by
    cases data with
    | null => exact absurd rfl hne
    | _ => rfl
  intro found hfound
  rw [hoptional hdata] at hfound
  obtain ⟨x, hx, rfl⟩ := map_eq_ok.1 hfound
  rw [hoptional hdata']
  exact map_eq_ok.2 ⟨change x, h x hx, rfl⟩

/-- A change of one item of a list is the change of that item alone. -/
theorem Follows.listOf {items : List Data} {index : Nat} {put : Data → Data}
    (h : Follows read data (put data) change) (hdata : items[index]? = some data) :
    Follows (listOf read) (.list items) (.list (items.modify index put)) (List.modify · index change) := by
  intro xs hxs
  rw [Exchange.listOf] at hxs ⊢
  induction items generalizing index xs with
  | nil => cases hdata
  | cons item rest ih =>
    simp only [List.mapM_cons, bind_eq_ok, pure_eq_ok, Except.ok.injEq] at hxs
    obtain ⟨x, hx, ys, hys, rfl⟩ := hxs
    cases index with
    | zero =>
      cases hdata
      rw [List.modify_zero_cons, List.mapM_cons, h x hx, ok_bind, hys]
      rfl
    | succ index =>
      rw [List.modify_succ_cons, List.mapM_cons, hx, ok_bind, ih hdata ys hys]
      rfl

/-- What changes in a field of a record changes in the value that is read. -/
theorem RecordReader.follows [RecordReader read] {field : Field α} {named : List (String × Data)}
    {change : field.Content → field.Content} (hfield : field ∈ RecordReader.fields read)
    (h : Follows field.read data data' change) (hlookup : named.lookup field.name = some data) :
    Follows read (.record named) (.record (Data.setField field.name data' named))
      (fun x => field.set (change (field.get x)) x) := by
  intro x hx
  have hcontent : field.readFrom named = .ok (field.get x) := (RecordReader.read_eq_ok_iff named x).1 hx field hfield
  refine RecordReader.read_set hfield hx ?_ fun other hother => lookup_setField_of_ne hother
  rw [Field.readFrom, hlookup] at hcontent
  rw [Field.readFrom, lookup_setField_self]
  exact h _ hcontent

/-- The places in what one reader reads at which the other reader reads a part: the path to the part's data, and what
a change of the part does to the whole. -/
inductive Place {β : Type} (inner : Data → Reading β) :
    {α : Type} → (Data → Reading α) → List Data.Key → ((β → β) → α → α) → Prop where
  | here : Place inner inner [] fun change => change
  | field {α : Type} {read : Data → Reading α} [RecordReader read] {field : Field α} {path : List Data.Key}
      {carry : (β → β) → field.Content → field.Content} (hfield : field ∈ RecordReader.fields read)
      (rest : Place inner field.read path carry) :
      Place inner read (.field field.name :: path) fun change x => field.set (carry change (field.get x)) x
  | present {α : Type} {read : Data → Reading α} {path : List Data.Key} {carry : (β → β) → α → α}
      (rest : Place inner read path carry) : Place inner (optional read) path fun change => Option.map (carry change)
  | item {α : Type} {read : Data → Reading α} {path : List Data.Key} {carry : (β → β) → α → α} (index : Nat)
      (rest : Place inner read path carry) :
      Place inner (listOf read) (.item index :: path) fun change => (List.modify · index (carry change))
  | slot (slot : Node.Slot) {path : List Data.Key} {carry : (β → β) → slot.Content → slot.Content}
      (rest : Place inner slot.read path carry) :
      Place inner Node.ofData (.field slot.name :: path) fun change => slot.modify (carry change)

namespace Place

variable {β : Type} {inner : Data → Reading β} {path : List Data.Key} {carry : (β → β) → α → α}

theorem carry_id (h : Place inner read path carry) : carry id = id := by
  induction h with
  | here => rfl
  | @field _ _ _ field _ carry hfield rest ih =>
    funext x
    change field.set (carry id (field.get x)) x = x
    rw [ih]
    exact RecordReader.set_get field hfield x
  | @present _ _ _ carry rest ih =>
    change Option.map (carry id) = id
    rw [ih, Option.map_id]
  | @item _ _ _ carry index rest ih =>
    change (List.modify · index (carry id)) = id
    rw [ih]
    exact funext (List.modify_id index)
  | @slot slot _ carry rest ih =>
    change slot.modify (carry id) = id
    rw [ih]
    funext node
    cases slot <;> cases node <;> rfl

/-- A change of the part is what changes in the whole. -/
theorem follows (h : Place inner read path carry) {data : Data} {named named' : List (String × Data)} {change : β → β}
    (hat : data.at? path = some (.record named)) (hinner : Follows inner (.record named) (.record named') change) :
    Follows read data (data.put path (.record named')) (carry change) := by
  induction h generalizing data with
  | here =>
    cases hat
    exact hinner
  | @field _ _ _ field _ _ hfield rest ih =>
    cases data with
    | record entries =>
      obtain ⟨part, hpart, hrest⟩ := Option.bind_eq_some_iff.1 hat
      rw [Data.put_field hpart]
      exact RecordReader.follows hfield (ih hrest) hpart
    | _ => cases hat
  | present rest ih =>
    obtain ⟨hdata, hdata'⟩ := Data.ne_null_of_at? hat
    exact (ih hat).optional hdata hdata'
  | item index rest ih =>
    cases data with
    | list items =>
      obtain ⟨part, hpart, hrest⟩ := Option.bind_eq_some_iff.1 hat
      exact (ih hrest).listOf hpart
    | _ => cases hat
  | @slot slot _ _ rest ih =>
    cases data with
    | record entries =>
      obtain ⟨part, hpart, hrest⟩ := Option.bind_eq_some_iff.1 hat
      rw [Data.put_field hpart]
      exact slot.follows (ih hrest) hpart
    | _ => cases hat

end Place

end Exchange

namespace Profile

/-- Wherever a profile has a record with defaults: without one of its fields the profile is read with the neutral value
there, and names that are no field of the record make no difference. -/
theorem fields_fall_back (surplus : Surplus) {data : Data} {profile : Profile} {β : Type} {inner : Data → Reading β}
    [Defaulted inner] {path : List Data.Key} {carry : (β → β) → Profile → Profile} {named : List (String × Data)}
    (hread : ofData surplus data = .ok profile) (hplace : Place inner (ofData surplus) path carry)
    (hat : data.at? path = some (.record named)) :
    (∀ field ∈ RecordReader.fields inner,
        ofData surplus (data.put path (.record (without field.name named))) =
          .ok (carry (Defaulted.reset inner field) profile)) ∧
      ∀ named' : List (String × Data),
        (∀ field ∈ RecordReader.fields inner, named'.lookup field.name = named.lookup field.name) →
          ofData surplus (data.put path (.record named')) = .ok profile := by
  constructor
  · intro field hfield
    have hinner : Follows inner (.record named) (.record (without field.name named)) (Defaulted.reset inner field) :=
      fun x hx => Defaulted.read_without hfield hx
    exact hplace.follows hat hinner profile hread
  · intro named' hagree
    have hinner : Follows inner (.record named) (.record named') id := fun x hx => RecordReader.read_congr hagree hx
    have hwhole := hplace.follows hat hinner profile hread
    rwa [hplace.carry_id] at hwhole

def headingFont : List Data.Key :=
  [.field "h1", .field "text", .field "font"]

theorem place_headingFont (surplus : Surplus) : Place (Font.ofData surplus) (ofData surplus) headingFont
    fun change profile => { profile with h1.text.font := change profile.h1.text.font } := by
  have hfont : _ ∈ RecordReader.fields (TextStyle.ofData surplus) := List.mem_of_getElem? (i := 2) rfl
  have htext : _ ∈ RecordReader.fields (BlockFormat.ofData surplus) := List.mem_of_getElem? (i := 1) rfl
  have hh1 : _ ∈ RecordReader.fields (ofData surplus) := List.mem_of_getElem? (i := 3) rfl
  have hstyle : Place (Font.ofData surplus) (TextStyle.ofData surplus) _ _ := .field hfont .here
  have hformat : Place (Font.ofData surplus) (BlockFormat.ofData surplus) _ _ := .field htext hstyle
  exact .field hh1 hformat

def barInset : List Data.Key :=
  [.field "quote", .field "block", .field "accessories", .field "left", .field "decoration", .field "inset"]

/-- The inset of the bar beside a quote lies inside a node of the profile. -/
theorem place_barInset (surplus : Surplus) : Place (Insets.ofData .refused) (ofData surplus) barInset
    fun change profile => { profile with
      quote.block.accessories.left := profile.quote.block.accessories.left.map
        (Node.Slot.decoration.modify fun decoration => { decoration with inset := change decoration.inset }) } := by
  have hinset : _ ∈ RecordReader.fields Decoration.ofData := List.mem_of_getElem? (i := 3) rfl
  have hleft : _ ∈ RecordReader.fields (EdgeAccessories.ofData surplus) := List.mem_of_getElem? (i := 1) rfl
  have haccessories : _ ∈ RecordReader.fields (BlockStyle.ofData surplus) := List.mem_of_getElem? (i := 0) rfl
  have hblock : _ ∈ RecordReader.fields (BlockFormat.ofData surplus) := List.mem_of_getElem? (i := 0) rfl
  have hquote : _ ∈ RecordReader.fields (ofData surplus) := List.mem_of_getElem? (i := 16) rfl
  have hdecoration : Place (Insets.ofData .refused) Decoration.ofData _ _ := .field hinset .here
  have hnode : Place (Insets.ofData .refused) Node.ofData _ _ := .slot .decoration hdecoration
  have hedges : Place (Insets.ofData .refused) (EdgeAccessories.ofData surplus) _ _ := .field hleft (.present hnode)
  have hstyle : Place (Insets.ofData .refused) (BlockStyle.ofData surplus) _ _ := .field haccessories hedges
  have hformat : Place (Insets.ofData .refused) (BlockFormat.ofData surplus) _ _ := .field hblock hstyle
  exact .field hquote hformat

def barredData : Data :=
  .record [
    ("h1", .record [("text", .record [("font", .record [("size", .integer 40), ("italic", .bool true)])])]),
    ("quote", .record [("block", .record [("accessories", .record [("left", .record [
      ("type", .text "decorated"), ("inner", .record [("type", .text "divider")]),
      ("decoration", .record [("inset", .record [("right", .integer 8)])])])])])])]

def barredProfile : Profile where
  h1.text.font := { size := .whole 40, italic := true }
  quote.block.accessories.left := some (.decorated (.divider none none none) { inset := { right := .whole 8 } })

/-- The font of the first header loses its size, and the inset of the bar gets a name that no inset has. -/
theorem fields_fall_back_barred :
    ofData .refused barredData = .ok barredProfile ∧
      ofData .refused (barredData.put headingFont (.record [("italic", .bool true)])) =
        .ok { barredProfile with h1.text.font.size := .whole 13 } ∧
      ofData .refused (barredData.put barInset (.record [("above", .null), ("right", .integer 8)])) =
        .ok barredProfile := by
  have hread : ofData .refused barredData = .ok barredProfile := rfl
  have hsize : _ ∈ RecordReader.fields (Font.ofData .refused) := List.mem_of_getElem? (i := 2) rfl
  have hfont := (fields_fall_back .refused hread (place_headingFont .refused) rfl).1 _ hsize
  have hfound : barredData.at? barInset = some (.record [("right", .integer 8)]) := rfl
  have hknown : ∀ field ∈ RecordReader.fields (Insets.ofData .refused),
      [("above", .null), ("right", .integer 8)].lookup field.name = [("right", Data.integer 8)].lookup field.name := by
    simp only [RecordReader.fields, List.forall_mem_cons]
    exact ⟨rfl, rfl, rfl, rfl, fun _ hmem => absurd hmem List.not_mem_nil⟩
  have hinset := (fields_fall_back .refused hread (place_barInset .refused) hfound).2 _ hknown
  exact ⟨hread, hfont, hinset⟩

end Profile

end MarkdownLayout
