import MarkdownLayout.Exchange.Record
import MarkdownLayout.Style
import MarkdownLayout.Node

/-!
Exchange forms of styles, boxes and text.
-/

namespace MarkdownLayout

namespace Scalar

def ofData : Data → Reading Scalar
  | .integer n => if -0x8000000000000000 ≤ n ∧ n < 0x10000000000000000 then .ok (ofInt n) else .error .mismatch
  | .real x => .ok x
  | _ => .error .mismatch

def toData (x : Scalar) : Data :=
  .real x

end Scalar

namespace Color

def ofData : Data → Reading Color
  | .text s =>
    match parse? s with
    | some color => .ok color
    | none => .error (.invalidColor s)
  | _ => .error .mismatch

def toData (color : Color) : Data :=
  .text color.text

end Color

namespace FontWeight

def names : List (String × FontWeight) :=
  [("regular", .regular), ("medium", .medium), ("bold", .bold)]

def name : FontWeight → String
  | regular => "regular"
  | medium => "medium"
  | bold => "bold"

end FontWeight

open Exchange

namespace Font

def ofData (surplus : Surplus) (data : Data) : Reading Font := do
  let fields ← fieldsOf surplus ["family", "size", "weight", "italic"] 0 data
  let family ← field? text fields "family"
  let italic ← field? bool fields "italic"
  let size ← field? Scalar.ofData fields "size"
  let weight ← field? (variant FontWeight.names) fields "weight"
  let neutral : Font := {}
  pure {
    family := family.getD neutral.family
    size := size.getD neutral.size
    weight := weight.getD neutral.weight
    italic := italic.getD neutral.italic }

def toData (font : Font) : Data :=
  .record [("family", .text font.family), ("size", font.size.toData), ("weight", .text font.weight.name),
    ("italic", .bool font.italic)]

end Font

namespace TextStyle

def ofData (surplus : Surplus) (data : Data) : Reading TextStyle := do
  let fields ← fieldsOf surplus ["font", "color", "background", "strikethrough"] 0 data
  let background ← nullable? Color.ofData fields "background"
  let color ← nullable? Color.ofData fields "color"
  let font ← field? (Font.ofData surplus) fields "font"
  let strikethrough ← field? bool fields "strikethrough"
  pure { font := font.getD {}, color, background, strikethrough := strikethrough.getD false }

def toData (style : TextStyle) : Data :=
  .record [("font", style.font.toData), ("color", ofOption Color.toData style.color),
    ("background", ofOption Color.toData style.background), ("strikethrough", .bool style.strikethrough)]

end TextStyle

namespace TextAttributes

def ofData (data : Data) : Reading TextAttributes := do
  let fields ← fieldsOf .refused ["font", "color", "background", "strikethrough", "link"] 5 data
  let background ← nullable? Color.ofData fields "background"
  let color ← nullable? Color.ofData fields "color"
  let font ← field? (Font.ofData .refused) fields "font"
  let link ← nullable? text fields "link"
  let strikethrough ← field? bool fields "strikethrough"
  let font ← required "font" font
  let strikethrough ← required "strikethrough" strikethrough
  pure { font, color, background, strikethrough, link }

def toData (attributes : TextAttributes) : Data :=
  .record [("font", attributes.font.toData), ("color", ofOption Color.toData attributes.color),
    ("background", ofOption Color.toData attributes.background),
    ("strikethrough", .bool attributes.strikethrough), ("link", ofOption Data.text attributes.link)]

end TextAttributes

namespace TextRun

def ofData (data : Data) : Reading TextRun := do
  let fields ← fieldsOf .refused ["text", "attributes"] 2 data
  let attributes ← nullable? TextAttributes.ofData fields "attributes"
  let content ← field? Exchange.text fields "text"
  pure { text := ← required "text" content, attributes }

def toData (run : TextRun) : Data :=
  .record [("text", .text run.text), ("attributes", ofOption TextAttributes.toData run.attributes)]

end TextRun

namespace TextBlock

def ofFields (fields : List (String × Data)) : Reading TextBlock := do
  let runs ← field? (listOf TextRun.ofData) fields "runs"
  pure ⟨← required "runs" runs⟩

def ofData (data : Data) : Reading TextBlock := do
  ofFields (← fieldsOf .refused ["runs"] 1 data)

end TextBlock

namespace Insets

def ofData (surplus : Surplus) (data : Data) : Reading Insets := do
  let fields ← fieldsOf surplus ["top", "right", "bottom", "left"] 0 data
  let bottom ← field? Scalar.ofData fields "bottom"
  let left ← field? Scalar.ofData fields "left"
  let right ← field? Scalar.ofData fields "right"
  let top ← field? Scalar.ofData fields "top"
  pure {
    top := top.getD .zero
    right := right.getD .zero
    bottom := bottom.getD .zero
    left := left.getD .zero }

def toData (insets : Insets) : Data :=
  .record [("top", insets.top.toData), ("right", insets.right.toData), ("bottom", insets.bottom.toData),
    ("left", insets.left.toData)]

end Insets

namespace Border

def ofData (surplus : Surplus) (data : Data) : Reading Border := do
  let fields ← fieldsOf surplus ["width", "color"] 2 data
  let color ← field? Color.ofData fields "color"
  let width ← field? Scalar.ofData fields "width"
  pure { width := ← required "width" width, color := ← required "color" color }

def toData (border : Border) : Data :=
  .record [("width", border.width.toData), ("color", border.color.toData)]

end Border

namespace Decoration

def ofData (data : Data) : Reading Decoration := do
  let fields ← fieldsOf .refused ["inset", "background", "corner_radius", "border"] 0 data
  let background ← nullable? Color.ofData fields "background"
  let border ← nullable? (Border.ofData .refused) fields "border"
  let cornerRadius ← nullable? Scalar.ofData fields "corner_radius"
  let inset ← field? (Insets.ofData .refused) fields "inset"
  pure { inset := inset.getD {}, background, cornerRadius, border }

def toData (decoration : Decoration) : Data :=
  .record [("inset", decoration.inset.toData), ("background", ofOption Color.toData decoration.background),
    ("corner_radius", ofOption Scalar.toData decoration.cornerRadius),
    ("border", ofOption Border.toData decoration.border)]

end Decoration

end MarkdownLayout
