import MarkdownLayout.Exchange.Node
import MarkdownLayout.Profile

/-!
The exchange form of formatting profiles. Every field may be missing and then has its neutral value.
-/

namespace MarkdownLayout

open Exchange

namespace EdgeAccessories

def ofData (surplus : Surplus) (data : Data) : Reading EdgeAccessories := do
  let fields ← fieldsOf surplus ["top", "right", "bottom", "left"] 0 data
  let bottom ← nullable? Node.ofData fields "bottom"
  let left ← nullable? Node.ofData fields "left"
  let right ← nullable? Node.ofData fields "right"
  let top ← nullable? Node.ofData fields "top"
  pure { top, right, bottom, left }

def toData (accessories : EdgeAccessories) : Data :=
  .record [("top", ofOption Node.toData accessories.top), ("right", ofOption Node.toData accessories.right),
    ("bottom", ofOption Node.toData accessories.bottom), ("left", ofOption Node.toData accessories.left)]

end EdgeAccessories

namespace BlockStyle

def ofData (surplus : Surplus) (data : Data) : Reading BlockStyle := do
  let fields ← fieldsOf surplus
    ["background", "corner_radius", "border", "margin", "padding", "accessories"] 0 data
  let accessories ← field? (EdgeAccessories.ofData surplus) fields "accessories"
  let background ← nullable? Color.ofData fields "background"
  let border ← nullable? (Border.ofData surplus) fields "border"
  let cornerRadius ← nullable? Scalar.ofData fields "corner_radius"
  let margin ← nullable? (Insets.ofData surplus) fields "margin"
  let padding ← nullable? (Insets.ofData surplus) fields "padding"
  pure { background, cornerRadius, border, margin, padding, accessories := accessories.getD {} }

def toData (style : BlockStyle) : Data :=
  .record [("background", ofOption Color.toData style.background),
    ("corner_radius", ofOption Scalar.toData style.cornerRadius),
    ("border", ofOption Border.toData style.border), ("margin", ofOption Insets.toData style.margin),
    ("padding", ofOption Insets.toData style.padding), ("accessories", style.accessories.toData)]

end BlockStyle

namespace BlockFormat

def ofData (surplus : Surplus) (data : Data) : Reading BlockFormat := do
  let fields ← fieldsOf surplus ["text", "block"] 0 data
  let block ← field? (BlockStyle.ofData surplus) fields "block"
  let text ← field? (TextStyle.ofData surplus) fields "text"
  pure { text := text.getD {}, block := block.getD {} }

def toData (format : BlockFormat) : Data :=
  .record [("text", format.text.toData), ("block", format.block.toData)]

end BlockFormat

namespace RuleStyle

def ofData (surplus : Surplus) (data : Data) : Reading RuleStyle := do
  let fields ← fieldsOf surplus ["width", "height", "color"] 0 data
  let color ← nullable? Color.ofData fields "color"
  let height ← field? Scalar.ofData fields "height"
  let width ← nullable? Scalar.ofData fields "width"
  let neutral : RuleStyle := {}
  pure { width, height := height.getD neutral.height, color }

def toData (rule : RuleStyle) : Data :=
  .record [("width", ofOption Scalar.toData rule.width), ("height", rule.height.toData),
    ("color", ofOption Color.toData rule.color)]

end RuleStyle

namespace Profile

def fieldNames : List String :=
  ["item_spacing", "h1", "h2", "h3", "h4", "h5", "h6", "paragraph", "bold", "italic", "hyperlink",
    "strikethrough", "code", "code_block", "quote", "image", "list", "list_item", "rule"]

def ofData (surplus : Surplus) (data : Data) : Reading Profile := do
  let fields ← fieldsOf surplus fieldNames 0 data
  let textStyle (name : String) : Reading TextStyle :=
    (field? (TextStyle.ofData surplus) fields name).map (Option.getD · {})
  let blockFormat (name : String) : Reading BlockFormat :=
    (field? (BlockFormat.ofData surplus) fields name).map (Option.getD · {})
  let bold ← textStyle "bold"
  let code ← textStyle "code"
  let codeBlock ← blockFormat "code_block"
  let h1 ← blockFormat "h1"
  let h2 ← blockFormat "h2"
  let h3 ← blockFormat "h3"
  let h4 ← blockFormat "h4"
  let h5 ← blockFormat "h5"
  let h6 ← blockFormat "h6"
  let hyperlink ← textStyle "hyperlink"
  let image ← field? (BlockStyle.ofData surplus) fields "image"
  let italic ← textStyle "italic"
  let itemSpacing ← field? Scalar.ofData fields "item_spacing"
  let list ← blockFormat "list"
  let listItem ← blockFormat "list_item"
  let paragraph ← blockFormat "paragraph"
  let quote ← blockFormat "quote"
  let rule ← field? (RuleStyle.ofData surplus) fields "rule"
  let strikethrough ← textStyle "strikethrough"
  pure {
    itemSpacing := itemSpacing.getD neutral.itemSpacing
    h1, h2, h3, h4, h5, h6, paragraph, bold, italic, hyperlink, strikethrough, code, codeBlock, quote
    image := image.getD {}
    list, listItem
    rule := rule.getD {} }

def toData (profile : Profile) : Data :=
  .record [("item_spacing", profile.itemSpacing.toData), ("h1", profile.h1.toData),
    ("h2", profile.h2.toData), ("h3", profile.h3.toData), ("h4", profile.h4.toData),
    ("h5", profile.h5.toData), ("h6", profile.h6.toData), ("paragraph", profile.paragraph.toData),
    ("bold", profile.bold.toData), ("italic", profile.italic.toData),
    ("hyperlink", profile.hyperlink.toData), ("strikethrough", profile.strikethrough.toData),
    ("code", profile.code.toData), ("code_block", profile.codeBlock.toData),
    ("quote", profile.quote.toData), ("image", profile.image.toData), ("list", profile.list.toData),
    ("list_item", profile.listItem.toData), ("rule", profile.rule.toData)]

end Profile

end MarkdownLayout
