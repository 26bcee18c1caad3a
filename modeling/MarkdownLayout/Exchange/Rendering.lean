import MarkdownLayout.Exchange.Node
import MarkdownLayout.Rendering

/-!
The exchange form of rendered documents.
-/

namespace MarkdownLayout

namespace PendingImage

def toData (image : PendingImage) : Data :=
  .record [("id", .integer image.id), ("url", image.url.toData), ("loaded", .bool image.loaded)]

end PendingImage

namespace Rendering

def toData (rendering : Rendering) : Data :=
  .record [("nodes", .list (Node.toDataAll rendering.nodes)),
    ("images", .list (rendering.images.map PendingImage.toData)),
    ("item_spacing", rendering.itemSpacing.toData)]

end Rendering

end MarkdownLayout
