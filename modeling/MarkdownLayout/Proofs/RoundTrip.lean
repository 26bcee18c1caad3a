import MarkdownLayout.Exchange.Markdown
import MarkdownLayout.Exchange.Profile
import MarkdownLayout.Proofs.Accessories
import MarkdownLayout.Proofs.JsonValue

/-!
# Nodes and profiles through JSON

A node is written under its type, with the fields of that type beside it, and a value inside a node is read both as a
node and as a list of nodes before it is known which of the two its field asks for. What is written comes back at any
depth, in the accessories of a profile as well, as long as its numbers have literals and its URLs read back.
-/

namespace MarkdownLayout

open Exchange

/-- The number of the image fits a machine word, and its URL comes back from its text. -/
structure ImagePlaceholder.Stable (placeholder : ImagePlaceholder) : Prop where
  id_lt : placeholder.id < 0x10000000000000000
  parse?_text : Url.parse? placeholder.url.text = some placeholder.url

namespace ImagePlaceholder

variable {placeholder : ImagePlaceholder}

theorem Stable.restores_url (h : placeholder.Stable) : Restores Url.ofData placeholder.url.toData placeholder.url where
  read_eq := by rw [Url.toData, Json.value, Url.ofData, h.parse?_text]
  ne_null := nofun

end ImagePlaceholder

theorem Axis.restores (axis : Axis) : Restores (variant Axis.names) (.text axis.name) axis where
  read_eq := by cases axis <;> rfl
  ne_null := nofun

namespace Node

def numbers : Node → List Scalar
  | .text block => block.numbers
  | .image _ => []
  | .container _ spacing _ => [spacing]
  | .decorated _ decoration => decoration.numbers
  | .divider width height _ => width.toList ++ height.toList

structure Portable (node : Node) : Prop where
  finite : ∀ inner ∈ node.walk, AllFinite inner.numbers
  stable : ∀ placeholder, .image placeholder ∈ node.walk → placeholder.Stable

namespace Portable

variable {node inner : Node}

theorem numbers_finite (h : Portable node) : AllFinite node.numbers :=
  h.finite node node.self_mem_walk

theorem of_subset (h : Portable node) (hsubset : inner.walk ⊆ node.walk) : Portable inner :=
  ⟨fun deeper hdeeper => h.finite deeper (hsubset hdeeper), fun placeholder hmem =>
    h.stable placeholder (hsubset hmem)⟩

theorem child {axis : Axis} {spacing : Scalar} {children : List Node}
    (h : Portable (.container axis spacing children)) (hchild : node ∈ children) : Portable node := by
  refine h.of_subset fun inner hinner => ?_
  rw [walk, walkAll_eq_flatMap]
  exact List.mem_cons_of_mem _ (List.mem_flatMap.2 ⟨node, hchild, hinner⟩)

theorem inside {decoration : Decoration} (h : Portable (.decorated node decoration)) : Portable node :=
  h.of_subset fun _ hinner => List.mem_cons_of_mem _ hinner

end Portable

def part (data : Data) : Part :=
  ⟨data, (readBoth data).1, (readBoth data).2⟩

@[simp]
theorem readParts_nil : readParts [] = [] := rfl

@[simp]
theorem readParts_cons (name : String) (data : Data) (rest : List (String × Data)) :
    readParts ((name, data) :: rest) = (name, part data) :: readParts rest := rfl

@[simp]
theorem plain_nil : plain [] = [] := rfl

@[simp]
theorem plain_cons (name : String) (data : Data) (rest : List (String × Part)) :
    plain ((name, part data) :: rest) = (name, data) :: plain rest := rfl

/-- The type says which kind of node the fields are read as. -/
theorem ofData_record {name : String} {kind : Kind} (h : kindNames.lookup name = some kind)
    (fields : List (String × Data)) :
    ofData (Json.value (.record (("type", .text name) :: fields))) =
      ofParts kind (("type", part (.text name)) :: readParts (Json.valueFields fields)) := by
  have hkind : kindOf (.text name) = .ok kind := by rw [kindOf, variant, variant.named, h]
  have htype : Json.value (.text name) = .text name := rfl
  rw [Json.value_record, Json.valueFields_cons, htype, ofData, readBoth, readParts_cons, ofFields,
    List.lookup_cons_self, required_some, ok_bind, part, hkind, ok_bind]

mutual

/-- Every portable node is read back from its data, whatever its depth. -/
theorem restores : ∀ {node : Node}, node.Portable → Restores ofData node.toData node
  | .text block, h => by
    have hruns := TextBlock.restores_runs h.numbers_finite
    refine ⟨?_, nofun⟩
    rw [toData, ofData_record rfl]
    simp [ofParts, TextBlock.ofFields, hruns.field?]
  | .image placeholder, h => by
    have hstable := h.stable placeholder (self_mem_walk _)
    refine ⟨?_, nofun⟩
    rw [toData, ofData_record rfl]
    simp [ofParts, ImagePlaceholder.ofFields, (restores_count hstable.id_lt).field?, hstable.restores_url.field?,
      Restores.nullable? fun alt _ => restores_text alt]
  | .container axis spacing children, h => by
    have hspacing := Scalar.restores (allFinite_cons.1 h.numbers_finite).1
    have hchildren : (part (Json.value (.list (toDataAll children)))).nodes = .ok children := by
      rw [Json.value]
      exact readItems_value fun child hchild => h.child hchild
    refine ⟨?_, nofun⟩
    rw [toData, ofData_record rfl]
    simp [ofParts, (Axis.restores axis).field?, hspacing.field?, field?_cons_self, hchildren, Except.map]
  | .decorated inner decoration, h => by
    have hinner : (part (Json.value inner.toData)).node = .ok inner := (restores h.inside).read_eq
    have hdecoration := Decoration.restores h.numbers_finite
    refine ⟨?_, nofun⟩
    rw [toData, ofData_record rfl]
    simp [ofParts, hdecoration.field?, field?_cons_self, hinner, Except.map]
  | .divider width height color, h => by
    have hnumbers := h.numbers_finite
    simp only [numbers, allFinite_append, allFinite_toList] at hnumbers
    obtain ⟨hwidth, hheight⟩ := hnumbers
    refine ⟨?_, nofun⟩
    rw [toData, ofData_record rfl]
    simp [ofParts, Restores.nullable? fun width hmem => Scalar.restores (hwidth width hmem),
      Restores.nullable? fun height hmem => Scalar.restores (hheight height hmem),
      Restores.nullable? fun color _ => Color.restores color]

theorem readItems_value : ∀ {nodes : List Node}, (∀ node ∈ nodes, Portable node) →
    (readItems (Json.valueItems (toDataAll nodes))).mapM Part.node = .ok nodes
  | [], _ => rfl
  | node :: rest, h => by
    have hnode : (part (Json.value node.toData)).node = .ok node := (restores (h node List.mem_cons_self)).read_eq
    have hrest := readItems_value fun other hother => h other (List.mem_cons_of_mem _ hother)
    rw [toDataAll, Json.valueItems, readItems, List.mapM_cons, ← part, hnode, ok_bind, hrest, ok_bind, pure_eq_ok]

end

end Node

/-! ## Styles with accessories -/

/-- The four edges are read back together, each on its own. -/
theorem EdgeAccessories.restores (surplus : Surplus) {accessories : EdgeAccessories}
    (h : ∀ node ∈ accessories.front ++ accessories.back, node.Portable) :
    Restores (ofData surplus) accessories.toData accessories where
  read_eq := by
    simp only [front, back, List.mem_append, Option.mem_toList] at h
    have htop := fun node hmem => Node.restores (h node (.inl (.inl hmem)))
    have hleft := fun node hmem => Node.restores (h node (.inl (.inr hmem)))
    have hright := fun node hmem => Node.restores (h node (.inr (.inl hmem)))
    have hbottom := fun node hmem => Node.restores (h node (.inr (.inr hmem)))
    simp [ofData, toData, Restores.nullable? htop, Restores.nullable? hleft, Restores.nullable? hright,
      Restores.nullable? hbottom]
  ne_null := nofun

namespace BlockStyle

def numbers (style : BlockStyle) : List Scalar :=
  style.cornerRadius.toList ++ style.border.toList.flatMap Border.numbers ++
    style.margin.toList.flatMap Insets.numbers ++ style.padding.toList.flatMap Insets.numbers

theorem restores (surplus : Surplus) {style : BlockStyle} (h : AllFinite style.numbers)
    (haccessories : ∀ node ∈ style.accessories.front ++ style.accessories.back, node.Portable) :
    Restores (ofData surplus) style.toData style where
  read_eq := by
    simp only [numbers, allFinite_append, allFinite_toList, allFinite_flatMap, Option.mem_toList] at h
    obtain ⟨⟨⟨hradius, hborder⟩, hmargin⟩, hpadding⟩ := h
    simp [ofData, toData, Restores.nullable? fun color _ => Color.restores color,
      Restores.nullable? fun radius hmem => Scalar.restores (hradius radius hmem),
      Restores.nullable? fun border hmem => Border.restores surplus (hborder border hmem),
      Restores.nullable? fun margin hmem => Insets.restores surplus (hmargin margin hmem),
      Restores.nullable? fun padding hmem => Insets.restores surplus (hpadding padding hmem),
      (EdgeAccessories.restores surplus haccessories).field?]
  ne_null := nofun

end BlockStyle

theorem BlockFormat.restores (surplus : Surplus) {format : BlockFormat}
    (htext : Restores (TextStyle.ofData surplus) format.text.toData format.text)
    (hblock : Restores (BlockStyle.ofData surplus) format.block.toData format.block) :
    Restores (ofData surplus) format.toData format where
  read_eq := by simp [ofData, toData, htext.field?, hblock.field?]
  ne_null := nofun

namespace RuleStyle

def numbers (rule : RuleStyle) : List Scalar :=
  rule.height :: rule.width.toList

theorem restores (surplus : Surplus) {rule : RuleStyle} (h : AllFinite rule.numbers) :
    Restores (ofData surplus) rule.toData rule where
  read_eq := by
    simp only [numbers, allFinite_cons, allFinite_toList] at h
    obtain ⟨hheight, hwidth⟩ := h
    simp [ofData, toData, Restores.nullable? fun width hmem => Scalar.restores (hwidth width hmem),
      (Scalar.restores hheight).field?, Restores.nullable? fun color _ => Color.restores color]
  ne_null := nofun

end RuleStyle

/-- Reading options come back if the depth fits a machine word. -/
theorem MarkdownOptions.restores {options : MarkdownOptions} (h : options.maxDepth < 0x10000000000000000) :
    Restores ofData options.toData options where
  read_eq := by
    have hstrips := (restores_bool options.stripsFrontMatter).field? "strip_frontmatter"
    have hdepth := (restores_count h).field? "max_depth"
    rw [toData, Json.value_record, ofData, fieldsOf_record, ok_bind, Json.valueFields_cons, Json.valueFields_cons,
      field?_cons_of_ne (by decide), hdepth, ok_bind, hstrips, ok_bind]
    rfl
  ne_null := nofun

namespace Profile

def formats (profile : Profile) : List BlockFormat :=
  [profile.h1, profile.h2, profile.h3, profile.h4, profile.h5, profile.h6, profile.paragraph, profile.quote,
    profile.codeBlock, profile.list, profile.listItem]

def textStyles (profile : Profile) : List TextStyle :=
  [profile.bold, profile.italic, profile.hyperlink, profile.strikethrough, profile.code] ++
    profile.formats.map BlockFormat.text

def numbers (profile : Profile) : List Scalar :=
  profile.itemSpacing :: profile.rule.numbers ++ profile.textStyles.flatMap TextStyle.numbers ++
    profile.blockStyles.flatMap BlockStyle.numbers

/-- All numbers are finite, in the profile itself and in its accessories, and the images in them are stable. -/
structure Portable (profile : Profile) : Prop where
  finite : AllFinite profile.numbers
  accessories : ∀ node ∈ profile.accessories, node.Portable

namespace Portable

variable {profile : Profile}

theorem restores_textStyle (h : Portable profile) (surplus : Surplus) {style : TextStyle}
    (hmem : style ∈ profile.textStyles) : Restores (TextStyle.ofData surplus) style.toData style := by
  have hfinite := h.finite
  simp only [numbers, List.cons_append, allFinite_cons, allFinite_append, allFinite_flatMap] at hfinite
  exact TextStyle.restores surplus (hfinite.2.1.2 style hmem)

theorem restores_blockStyle (h : Portable profile) (surplus : Surplus) {style : BlockStyle}
    (hmem : style ∈ profile.blockStyles) : Restores (BlockStyle.ofData surplus) style.toData style := by
  have hfinite := h.finite
  simp only [numbers, List.cons_append, allFinite_cons, allFinite_append, allFinite_flatMap] at hfinite
  refine BlockStyle.restores surplus (hfinite.2.2 style hmem) fun node hnode => h.accessories node ?_
  exact List.mem_flatMap.2 ⟨style, hmem, hnode⟩

theorem restores_format (h : Portable profile) (surplus : Surplus) {format : BlockFormat}
    (hmem : format ∈ profile.formats) : Restores (BlockFormat.ofData surplus) format.toData format :=
  BlockFormat.restores surplus
    (h.restores_textStyle surplus (List.mem_append_right _ (List.mem_map_of_mem hmem)))
    (h.restores_blockStyle surplus (List.mem_cons_of_mem _ (List.mem_map_of_mem hmem)))

end Portable

/-- A portable profile is read back, whichever lists are taken for records. -/
theorem ofData_value (surplus : Surplus) {profile : Profile} (h : profile.Portable) :
    ofData surplus (Json.value profile.toData) = .ok profile := by
  have hfinite := h.finite
  simp only [numbers, List.cons_append, allFinite_cons, allFinite_append] at hfinite
  have hspacing := Scalar.restores hfinite.1
  have hrule := RuleStyle.restores surplus hfinite.2.1.1
  have himage : Restores (BlockStyle.ofData surplus) profile.image.toData profile.image :=
    h.restores_blockStyle surplus List.mem_cons_self
  have hstyles : ∀ style ∈ [profile.bold, profile.italic, profile.hyperlink, profile.strikethrough, profile.code],
      Restores (TextStyle.ofData surplus) style.toData style :=
    fun _ hmem => h.restores_textStyle surplus (List.mem_append_left _ hmem)
  have hformats : ∀ format ∈ profile.formats, Restores (BlockFormat.ofData surplus) format.toData format :=
    fun _ hmem => h.restores_format surplus hmem
  simp only [List.forall_mem_cons] at hstyles
  simp only [formats, List.forall_mem_cons] at hformats
  obtain ⟨hbold, hitalic, hhyperlink, hstrikethrough, hcode, -⟩ := hstyles
  obtain ⟨h1, h2, h3, h4, h5, h6, hparagraph, hquote, hcodeBlock, hlist, hlistItem, -⟩ := hformats
  simp [ofData, toData, hspacing.field?, hrule.field?, himage.field?, hbold.field?, hitalic.field?, hhyperlink.field?,
    hstrikethrough.field?, hcode.field?, h1.field?, h2.field?, h3.field?, h4.field?, h5.field?, h6.field?,
    hparagraph.field?, hquote.field?, hcodeBlock.field?, hlist.field?, hlistItem.field?, Except.map]

end Profile

/-- Nodes and profiles without infinite numbers are read back from their JSON value as they were. -/
theorem json_roundTrip :
    (∀ node : Node, node.Portable → Node.ofData (Json.value node.toData) = .ok node) ∧
      ∀ (profile : Profile) (surplus : Surplus), profile.Portable →
        Profile.ofData surplus (Json.value profile.toData) = .ok profile :=
  ⟨fun _ h => (Node.restores h).read_eq, fun _ surplus h => Profile.ofData_value surplus h⟩

instance (numbers : List Scalar) : Decidable (AllFinite numbers) :=
  inferInstanceAs (Decidable (∀ x ∈ numbers, x.isFinite = true))

def cardImage : ImagePlaceholder where
  id := 7
  url := ⟨"http", "", "", some (.name "a"), none, .segments ["b"], none, none⟩
  alt := none

def card : Node :=
  .container .horizontal (.whole 8) [
    .decorated (.text ⟨[⟨"a", some { font := {}, color := some ⟨1, 2, 3, 255⟩, link := some "u" }⟩, ⟨"\n", none⟩]⟩)
      { border := some ⟨.whole 1, ⟨1, 2, 3, 4⟩⟩ },
    .image cardImage,
    .divider none (some (.whole 1)) none]

def cardProfile : Profile :=
  { Profile.standard with quote := { block := { margin := some {}, accessories := { top := some card } } } }

theorem card_roundTrip : card.Portable ∧ cardProfile.Portable ∧ Node.ofData (Json.value card.toData) = .ok card ∧
    Profile.ofData .refused (Json.value cardProfile.toData) = .ok cardProfile := by
  have hstable : cardImage.Stable := ⟨by decide, by decide⟩
  have hcard : card.Portable := by
    refine ⟨by decide, fun placeholder hmem => ?_⟩
    have heq : placeholder = cardImage := by simpa [card, Node.walk, Node.walkAll] using hmem
    exact heq ▸ hstable
  have hprofile : cardProfile.Portable := by
    refine ⟨by decide, fun node hmem => ?_⟩
    have haccessories : cardProfile.accessories = [card] := rfl
    rw [haccessories, List.mem_singleton] at hmem
    exact hmem ▸ hcard
  exact ⟨hcard, hprofile, json_roundTrip.1 card hcard, json_roundTrip.2 cardProfile .refused hprofile⟩

end MarkdownLayout
