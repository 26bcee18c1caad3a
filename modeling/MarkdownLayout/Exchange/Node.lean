import MarkdownLayout.Exchange.Style
import MarkdownLayout.Node.Outline
import MarkdownLayout.Url.Parser

/-!
The exchange form of layout nodes: a record whose `type` tells the kind of node. As a list, the type comes
first and the fields of that kind follow it.
-/

namespace MarkdownLayout

namespace Url

def ofData : Data → Reading Url
  | .text s =>
    match parse? s with
    | some url => .ok url
    | none => .error .mismatch
  | _ => .error .mismatch

def toData (url : Url) : Data :=
  .text url.text

end Url

open Exchange

namespace ImagePlaceholder

def ofFields (fields : List (String × Data)) : Reading ImagePlaceholder := do
  let alt ← nullable? text fields "alt"
  let id ← field? count fields "id"
  let url ← field? Url.ofData fields "url"
  pure { id := ← required "id" id, url := ← required "url" url, alt }

end ImagePlaceholder

namespace Axis

def names : List (String × Axis) :=
  [("vertical", .vertical), ("horizontal", .horizontal)]

def name : Axis → String
  | vertical => "vertical"
  | horizontal => "horizontal"

end Axis

namespace Node

/-- A value inside a node, with what it is when read as a node and as a list of nodes. -/
structure Part where
  data : Data
  node : Reading Node
  nodes : Reading (List Node)

inductive Kind where
  | text
  | image
  | container
  | decorated
  | divider
  deriving DecidableEq, Repr, Inhabited

def kindNames : List (String × Kind) :=
  [("text", .text), ("image", .image), ("container", .container), ("decorated", .decorated),
    ("divider", .divider)]

def kindFields : Kind → List String × Nat
  | .text => (["runs"], 1)
  | .image => (["id", "url", "alt"], 3)
  | .container => (["axis", "spacing", "children"], 3)
  | .decorated => (["inner", "decoration"], 1)
  | .divider => (["width", "height", "color"], 0)

def plain (parts : List (String × Part)) : List (String × Data) :=
  parts.map fun (name, part) => (name, part.data)

def ofParts (kind : Kind) (parts : List (String × Part)) : Reading Node := do
  let fields := plain parts
  match kind with
  | .text => pure (.text (← TextBlock.ofFields fields))
  | .image => pure (.image (← ImagePlaceholder.ofFields fields))
  | .container =>
    let axis ← field? (variant Axis.names) fields "axis"
    let children ← field? Part.nodes parts "children"
    let spacing ← field? Scalar.ofData fields "spacing"
    let axis ← required "axis" axis
    pure (.container axis (spacing.getD .zero) (← required "children" children))
  | .decorated =>
    let decoration ← field? Decoration.ofData fields "decoration"
    let inner ← field? Part.node parts "inner"
    pure (.decorated (← required "inner" inner) (decoration.getD {}))
  | .divider =>
    let color ← nullable? Color.ofData fields "color"
    let height ← nullable? Scalar.ofData fields "height"
    let width ← nullable? Scalar.ofData fields "width"
    pure (.divider width height color)

def kindOf : Data → Reading Kind
  | .text name => variant kindNames (.text name)
  | _ => .error .mismatch

def ofFields (parts : List (String × Part)) : Reading Node := do
  let kind ← required "type" (parts.lookup "type")
  ofParts (← kindOf kind.data) parts

def ofItems : List Part → Reading Node
  | [] => .error (.missingField "type")
  | kind :: items => do
    let kind ← kindOf kind.data
    let (names, required) := kindFields kind
    ofParts kind (← recordOfItems .refused names required items)

mutual

def readBoth : Data → Reading Node × Reading (List Node)
  | .record fields => (ofFields (readParts fields), .error .mismatch)
  | .list items => (ofItems (readItems items), (readItems items).mapM Part.node)
  | _ => (.error .mismatch, .error .mismatch)

def readItems : List Data → List Part
  | [] => []
  | item :: rest => ⟨item, (readBoth item).1, (readBoth item).2⟩ :: readItems rest

def readParts : List (String × Data) → List (String × Part)
  | [] => []
  | (name, value) :: rest => (name, ⟨value, (readBoth value).1, (readBoth value).2⟩) :: readParts rest

end

def ofData (data : Data) : Reading Node :=
  (readBoth data).1

mutual

def toData : Node → Data
  | .text block => .record [("type", .text "text"), ("runs", .list (block.runs.map TextRun.toData))]
  | .image placeholder =>
    .record [("type", .text "image"), ("id", .integer placeholder.id), ("url", placeholder.url.toData),
      ("alt", ofOption Data.text placeholder.alt)]
  | .container axis spacing children =>
    .record [("type", .text "container"), ("axis", .text axis.name), ("spacing", spacing.toData),
      ("children", .list (toDataAll children))]
  | .decorated inner decoration =>
    .record [("type", .text "decorated"), ("inner", inner.toData), ("decoration", decoration.toData)]
  | .divider width height color =>
    .record [("type", .text "divider"), ("width", ofOption Scalar.toData width),
      ("height", ofOption Scalar.toData height), ("color", ofOption Color.toData color)]

def toDataAll : List Node → List Data
  | [] => []
  | node :: rest => node.toData :: toDataAll rest

end

end Node

end MarkdownLayout
