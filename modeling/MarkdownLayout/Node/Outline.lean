import MarkdownLayout.Node
import MarkdownLayout.Scalar.Shortest

/-!
The outline of a node: one line for each node of its walk, indented by depth.
-/

namespace MarkdownLayout.Node

def extentText (extent : Option Scalar) : String :=
  (extent.map Scalar.display).getD "*"

def insetText (inset : Insets) : String :=
  "(" ++ String.intercalate "," [inset.top.display, inset.right.display, inset.bottom.display,
    inset.left.display] ++ ")"

def decorationText (decoration : Decoration) : String :=
  "inset=" ++ insetText decoration.inset ++
    (decoration.background.map fun c => " bg=" ++ c.text).getD "" ++
    (decoration.border.map fun b => " border=" ++ b.width.display ++ "@" ++ b.color.text).getD "" ++
    (decoration.cornerRadius.map fun r => " radius=" ++ r.display).getD ""

def axisText : Axis → String
  | .vertical => "vstack"
  | .horizontal => "hstack"

def label : Node → String
  | .text block => "text " ++ Text.quoted block.text
  | .image placeholder => "image #" ++ toString placeholder.id ++ " " ++ placeholder.url.text
  | .container axis spacing _ => axisText axis ++ " spacing=" ++ spacing.display
  | .decorated _ decoration => "decorated " ++ decorationText decoration
  | .divider width height _ => "divider " ++ extentText width ++ "x" ++ extentText height

def outlineLine (depth : Nat) (node : Node) : String :=
  String.ofList (List.replicate (2 * depth) ' ') ++ node.label ++ "\n"

mutual

def outlineAt (depth : Nat) : Node → String
  | .text block => outlineLine depth (.text block)
  | .image placeholder => outlineLine depth (.image placeholder)
  | .container axis spacing children =>
    outlineLine depth (.container axis spacing children) ++ outlineAllAt (depth + 1) children
  | .decorated inner decoration =>
    outlineLine depth (.decorated inner decoration) ++ outlineAt (depth + 1) inner
  | .divider width height color => outlineLine depth (.divider width height color)

def outlineAllAt (depth : Nat) : List Node → String
  | [] => ""
  | node :: rest => outlineAt depth node ++ outlineAllAt depth rest

end

def outline (node : Node) : String :=
  node.outlineAt 0

def kindText : Node → String
  | .text _ => "text"
  | .image _ => "image"
  | .container _ _ _ => "container"
  | .decorated _ _ => "decorated"
  | .divider _ _ _ => "divider"

end MarkdownLayout.Node
